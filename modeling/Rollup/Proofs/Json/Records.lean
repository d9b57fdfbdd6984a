import Rollup.Json.Decode
import Rollup.Proofs.Json.Settling
/-!
Decoding records. A record that gives every declared member once is taken apart into exactly its
members; and whatever a decoder takes from a draft stands directly inside of it.
-/
namespace Rollup.Json

open Fallible
open Decode

variable {α : Type} {src : Source}

/-! ### Decoders and encoders -/

/-- The decoder undoes the encoder at a value. -/
def Returns (decode : Decoder α) (encode : α → Json) (src : Source) (x : α) : Prop :=
  decode src (Draft.ofJson (encode x)) = .ok x

theorem text_ofJson (src : Source) (s : String) :
    Decode.text src (Draft.ofJson (.text s)) = .ok s := rfl

theorem choice_ofJson (ofName : String → α) (s : String) :
    choice ofName src (Draft.ofJson (.text s)) = .ok (ofName s) := by
  cases src <;> rfl

theorem ofJson_ne_null {v : Json} (h : v ≠ .null) : Draft.ofJson v ≠ .null := by
  cases v <;> simp_all [Draft.ofJson]

theorem optional_of_ne_null {decode : Decoder α} {d : Draft} (h : d ≠ .null) :
    optional decode src d = some <$> decode src d := by
  cases d <;> first | rfl | exact absurd rfl h

namespace Returns

variable {decode : Decoder α} {encode : α → Json}

theorem items {xs : List α} (h : ∀ x ∈ xs, Returns decode encode src x) (i : Nat) :
    Decode.items decode src i ((xs.map encode).map Draft.ofJson) = .ok xs := by
  induction xs generalizing i with
  | nil => rfl
  | cons x xs ih =>
    have hx : decode src (Draft.ofJson (encode x)) = .ok x := h x List.mem_cons_self
    have hxs := ih (fun y hy => h y (List.mem_cons_of_mem _ hy)) (i + 1)
    rw [List.map_cons, List.map_cons, Decode.items, hx, hxs]
    rfl

theorem list {xs : List α} (h : ∀ x ∈ xs, Returns decode encode src x) :
    Decode.list decode src (Draft.ofJson (.list (xs.map encode))) = .ok xs := by
  rw [Draft.ofJson, Draft.ofItems_eq_map, Decode.list, items h 0]
  rfl

end Returns

/-! ### Records with all declared members -/

/-- The names of the declared members. -/
def Decode.Shape.names (shape : Shape) : List String := shape.members.map (·.name)

@[simp] theorem required_name (name : String) (decode : Decoder α) :
    (required name decode).name = name := rfl

@[simp] theorem defaulted_name (name : String) (decode : Decoder α) :
    (defaulted name decode).name = name := rfl

theorem check_required {decode : Decoder α} {name : String} {d : Draft} {x : α}
    (h : decode src d = .ok x) : (required name decode).check src d = .ok () := by
  change (fun _ => ()) <$> decode src d = _
  rw [h]
  rfl

theorem check_defaulted {decode : Decoder α} {name : String} {d : Draft} {x : α}
    (h : decode src d = .ok x) : (defaulted name decode).check src d = .ok () := by
  change (fun _ => ()) <$> decode src d = _
  rw [h]
  rfl

theorem find?_declared {members : List Member} (hnames : (members.map (·.name)).Nodup)
    {m : Member} (hm : m ∈ members) : members.find? (·.name == m.name) = some m := by
  induction members with
  | nil => cases hm
  | cons m' ms ih =>
    obtain ⟨hfresh, hnames⟩ := List.nodup_cons.mp hnames
    rcases List.mem_cons.mp hm with rfl | hm
    · rw [List.find?_cons_of_pos (by simp)]
    · have hne : m'.name ≠ m.name := fun h => hfresh (List.mem_map.mpr ⟨m, hm, h.symm⟩)
      rw [List.find?_cons_of_neg (by simpa using hne)]
      exact ih hnames hm

/-- The declared members are given in declared order, each with a value that decodes. -/
abbrev Filled (src : Source) : List Member → List Json → Prop :=
  List.Forall₂ fun m v => m.check src (Draft.ofJson v) = .ok ()

theorem namedParts_declared {shape : Shape} {seen : List String} {name : String} {d : Draft}
    {m : Member} (hfind : shape.members.find? (·.name == name) = some m) (hseen : name ∉ seen)
    (hcheck : m.check src d = .ok ()) (rest : List (Spelling × Draft)) :
    namedParts shape src seen ((.ok name, d) :: rest) = (do
      let given ← namedParts shape src (name :: seen) rest
      return (name, d) :: given) := by
  simp only [namedParts, orFault, Except.mapError, bind, Except.bind, hfind, if_neg hseen, hcheck]

theorem namedParts_filled {shape : Shape} (hnames : shape.names.Nodup) {ms : List Member}
    {vs : List Json} (hfilled : Filled src ms vs) {seen : List String}
    (hsub : ∀ m ∈ ms, m ∈ shape.members) (hfresh : (seen ++ ms.map (·.name)).Nodup) :
    namedParts shape src seen (Draft.ofMembers ((ms.map (·.name)).zip vs)) =
      .ok ((ms.map (·.name)).zip (vs.map Draft.ofJson)) := by
  induction hfilled generalizing seen with
  | nil => rfl
  | @cons m v ms vs hcheck _ ih =>
    have hfind := find?_declared hnames (hsub m List.mem_cons_self)
    have hseen : m.name ∉ seen := fun h =>
      (List.nodup_append.mp hfresh).2.2 _ h _ List.mem_cons_self rfl
    have hnext : ((m.name :: seen) ++ ms.map (·.name)).Nodup :=
      List.perm_middle.nodup_iff.mp hfresh
    have hrest := ih (fun m' hm' => hsub m' (List.mem_cons_of_mem _ hm')) hnext
    rw [List.map_cons, List.zip_cons_cons, Draft.ofMembers,
      namedParts_declared hfind hseen hcheck, hrest]
    rfl

theorem part?_filled {ms : List Member} {vs : List Json} (hfilled : Filled src ms vs) {m : Member}
    (hm : m ∈ ms) : (part? m.name ((ms.map (·.name)).zip (vs.map Draft.ofJson))).isSome := by
  induction hfilled with
  | nil => cases hm
  | @cons m' v ms vs _ _ ih =>
    simp only [List.map_cons, List.zip_cons_cons, part?]
    split
    · rfl
    next hne =>
      rcases List.mem_cons.mp hm with rfl | hm
      · exact absurd rfl hne
      · exact ih hm

theorem parts_filled {shape : Shape} {vs : List Json} (hnames : shape.names.Nodup)
    (hfilled : Filled src shape.members vs) :
    parts shape src (Draft.ofJson (.record (shape.names.zip vs))) =
      .ok (shape.names.zip (vs.map Draft.ofJson)) := by
  have hfresh : (([] : List String) ++ shape.members.map (·.name)).Nodup := hnames
  have hnamed := namedParts_filled hnames hfilled (fun _ hm => hm) hfresh
  have hgiven : shape.members.find? (fun m => m.required &&
      (part? m.name (shape.names.zip (vs.map Draft.ofJson))).isNone) = none := by
    refine List.find?_eq_none.mpr fun m hm => ?_
    have hsome := part?_filled hfilled hm
    unfold Shape.names
    simp [Option.isNone_eq_false_iff.mpr hsome]
  unfold Shape.names at hgiven ⊢
  simp only [Draft.ofJson, parts, hnamed, bind, Except.bind, orFault, Draft.closing,
    Except.mapError, hgiven]
  rfl

/-- Decoding a record of all declared members goes on with what was given for them. -/
theorem parts_bind {β : Type} {shape : Shape} {vs : List Json} (hnames : shape.names.Nodup)
    (hfilled : Filled src shape.members vs) (k : Parts → Except Failure β) :
    (parts shape src (Draft.ofJson (.record (shape.names.zip vs))) >>= k) =
      k (shape.names.zip (vs.map Draft.ofJson)) := by
  rw [parts_filled hnames hfilled]
  rfl

theorem get_of_part {given : Parts} {name : String} {decode : Decoder α} {d : Draft} {x : α}
    (hpart : part? name given = some d) (h : decode src d = .ok x) :
    Decode.get given name decode src = .ok x := by
  unfold Decode.get
  rw [hpart]
  exact h

theorem getD_of_part {given : Parts} {name : String} {decode : Decoder α} {d : Draft}
    {default x : α} (hpart : part? name given = some d) (h : decode src d = .ok x) :
    getD given name decode default src = .ok x := by
  unfold getD
  rw [hpart]
  exact h

/-! ### Inside of a draft -/

/-- What stands directly inside of a list or a record. -/
inductive Inside : Draft → Draft → Prop
  | item {d : Draft} {ds : List Draft} {e : Ending} (h : d ∈ ds) : Inside d (.list ds e)
  | member {m : Spelling × Draft} {ms : List (Spelling × Draft)} {e : Ending} (h : m ∈ ms) :
      Inside m.2 (.record ms e)

/-- What stands inside of a value's draft is the draft of a value, less deep and with no more
repeated names. -/
theorem Inside.ofJson {d : Draft} {v : Json} (h : Inside d (Draft.ofJson v)) :
    ∃ w, d = Draft.ofJson w ∧ w.depth < v.depth ∧ (v.Unique → w.Unique) := by
  cases v with
  | null | bool | number | text => cases h
  | list items =>
    rw [Draft.ofJson, Draft.ofItems_eq_map] at h
    cases h with
    | item h =>
      obtain ⟨w, hw, rfl⟩ := List.mem_map.mp h
      refine ⟨w, rfl, Nat.lt_succ_of_le (itemsDepth_le_iff.mp (Nat.le_refl _) w hw), fun hv => ?_⟩
      cases hv with
      | list hitems => exact hitems w hw
  | record members =>
    rw [Draft.ofJson, Draft.ofMembers_eq_map] at h
    cases h with
    | member h =>
      obtain ⟨m, hm, rfl⟩ := List.mem_map.mp h
      refine ⟨m.2, rfl, Nat.lt_succ_of_le (membersDepth_le_iff.mp (Nat.le_refl _) m hm),
        fun hv => ?_⟩
      cases hv with
      | record _ hmembers => exact hmembers m hm

theorem mem_of_part? {name : String} {given : Parts} {d : Draft} (h : part? name given = some d) :
    (name, d) ∈ given := by
  induction given with
  | nil => cases h
  | cons p ps ih =>
    obtain ⟨n, d'⟩ := p
    unfold part? at h
    split at h
    next hn =>
      cases h
      exact hn ▸ List.mem_cons_self
    next => exact List.mem_cons_of_mem _ (ih h)

theorem exists_member_of_namedParts {shape : Shape} {ms : List (Spelling × Draft)}
    {seen : List String} {given : Parts} (h : namedParts shape src seen ms = .ok given)
    {p : String × Draft} (hp : p ∈ given) : ∃ m ∈ ms, m.2 = p.2 := by
  induction ms generalizing seen given with
  | nil =>
    cases h
    cases hp
  | cons m ms ih =>
    obtain ⟨name, d⟩ := m
    obtain ⟨n, _, h⟩ := bind_eq_ok_iff.mp h
    split at h
    next =>
      obtain ⟨_, _, h⟩ := bind_eq_ok_iff.mp h
      obtain ⟨m, hm, hsame⟩ := ih h hp
      exact ⟨m, List.mem_cons_of_mem _ hm, hsame⟩
    next =>
      split at h
      · cases h
      · obtain ⟨_, _, h⟩ := bind_eq_ok_iff.mp h
        obtain ⟨rest, hrest, h⟩ := bind_eq_ok_iff.mp h
        cases h
        rcases List.mem_cons.mp hp with rfl | hp
        · exact ⟨_, List.mem_cons_self, rfl⟩
        · obtain ⟨m, hm, hsame⟩ := ih hrest hp
          exact ⟨m, List.mem_cons_of_mem _ hm, hsame⟩

theorem mem_of_placedParts {i : Nat} {members : List Member} {ds : List Draft} {given : Parts}
    (h : placedParts src i members ds = .ok given) {p : String × Draft} (hp : p ∈ given) :
    p.2 ∈ ds := by
  induction ds generalizing i members given with
  | nil =>
    cases members <;> cases h <;> cases hp
  | cons d ds ih =>
    cases members with
    | nil =>
      cases h
      cases hp
    | cons m ms =>
      obtain ⟨_, _, h⟩ := bind_eq_ok_iff.mp h
      obtain ⟨rest, hrest, h⟩ := bind_eq_ok_iff.mp h
      cases h
      rcases List.mem_cons.mp hp with rfl | hp
      · exact List.mem_cons_self
      · exact List.mem_cons_of_mem _ (ih hrest hp)

/-- In either form of a record, the members are what stands inside. -/
theorem inside_of_parts {shape : Shape} {d : Draft} {given : Parts}
    (h : parts shape src d = .ok given) {name : String} {d' : Draft}
    (hd : part? name given = some d') : Inside d' d := by
  have hmem := mem_of_part? hd
  cases d with
  | record ms e =>
    obtain ⟨named, hnamed, h⟩ := bind_eq_ok_iff.mp h
    obtain ⟨_, _, h⟩ := bind_eq_ok_iff.mp h
    split at h
    · cases h
    · cases h
      obtain ⟨m, hm, hsame⟩ := exists_member_of_namedParts hnamed hmem
      rw [show d' = m.2 from hsame.symm]
      exact .member hm
  | list ds e =>
    obtain ⟨placed, hplaced, h⟩ := bind_eq_ok_iff.mp h
    split at h
    · cases src <;> cases h
    · obtain ⟨_, _, h⟩ := bind_eq_ok_iff.mp h
      split at h
      · cases h
      · cases h
        exact .item (mem_of_placedParts hplaced hmem)
  | misnamed | null | bool | number | oversized | text | absent | brokenText | brokenWord => cases h

/-! ### What decoders answer -/

theorem get_eq_ok {given : Parts} {name : String} {decode : Decoder α} {x : α}
    (h : Decode.get given name decode src = .ok x) :
    ∃ d, part? name given = some d ∧ decode src d = .ok x := by
  unfold Decode.get at h
  split at h
  next d hd => exact ⟨d, hd, h⟩
  next => cases h

theorem getD_eq_ok {given : Parts} {name : String} {decode : Decoder α} {default x : α}
    (h : getD given name decode default src = .ok x) :
    x = default ∨ ∃ d, part? name given = some d ∧ decode src d = .ok x := by
  unfold getD at h
  split at h
  next d hd => exact .inr ⟨d, hd, h⟩
  next => cases h; exact .inl rfl

theorem eq_number_of_natural {d : Draft} {n : Nat} (h : natural src d = .ok n) :
    d = .number (.int n) := by
  unfold natural at h
  split at h
  next => cases h; rfl
  next => cases h
  next => cases h

theorem optional_eq_some {decode : Decoder α} {d : Draft} {x : α}
    (h : optional decode src d = .ok (some x)) : d ≠ .null ∧ decode src d = .ok x := by
  have hd : d ≠ .null := by
    rintro rfl
    cases h
  rw [optional_of_ne_null hd] at h
  obtain ⟨y, hy, h⟩ := Fallible.bind_eq_ok_iff.mp ((map_eq_pure_bind _ _).symm.trans h)
  cases h
  exact ⟨hd, hy⟩

theorem exists_item_of_items {decode : Decoder α} {i : Nat} {ds : List Draft} {xs : List α}
    (h : items decode src i ds = .ok xs) {x : α} (hx : x ∈ xs) :
    ∃ d ∈ ds, decode src d = .ok x := by
  induction ds generalizing i xs with
  | nil =>
    cases h
    cases hx
  | cons d ds ih =>
    obtain ⟨y, hy, h⟩ := bind_eq_ok_iff.mp h
    obtain ⟨ys, hys, h⟩ := bind_eq_ok_iff.mp h
    cases h
    rcases List.mem_cons.mp hx with rfl | hx
    · exact ⟨d, List.mem_cons_self, mapError_eq_ok_iff.mp hy⟩
    · obtain ⟨d', hd', hdecode⟩ := ih hys hx
      exact ⟨d', List.mem_cons_of_mem _ hd', hdecode⟩

theorem exists_inside_of_list {decode : Decoder α} {d : Draft} {xs : List α}
    (h : Decode.list decode src d = .ok xs) {x : α} (hx : x ∈ xs) :
    ∃ d', Inside d' d ∧ decode src d' = .ok x := by
  cases d with
  | list ds e =>
    obtain ⟨ys, hys, h⟩ := bind_eq_ok_iff.mp h
    obtain ⟨_, _, h⟩ := bind_eq_ok_iff.mp h
    cases h
    obtain ⟨d', hd', hdecode⟩ := exists_item_of_items hys hx
    exact ⟨d', .item hd', hdecode⟩
  | text s => cases s <;> cases h
  | record | misnamed | null | bool | number | oversized | absent | brokenText | brokenWord =>
    cases h

end Rollup.Json

import Rollup.Json.Draft
import Rollup.Proofs.Fallible
/-!
Values whose records name each member once, and what the strict reading of a draft says. Settling
makes a value of this kind of any value and leaves those of this kind alone; the strict reading of
a value's own draft is the value, if the room for its levels of brackets suffices.
-/
namespace Rollup.Json

open Fallible

/-- Lists and records inherit a property from their elements. -/
@[elab_as_elim]
theorem induction {P : Json → Prop} (null : P .null) (bool : ∀ b, P (.bool b))
    (number : ∀ n, P (.number n)) (text : ∀ s, P (.text s))
    (list : ∀ items, (∀ v ∈ items, P v) → P (.list items))
    (record : ∀ members, (∀ m ∈ members, P m.2) → P (.record members)) : ∀ v, P v
  | .null => null
  | .bool b => bool b
  | .number n => number n
  | .text s => text s
  | .list items => list items fun v _ => induction null bool number text list record v
  | .record members => record members fun m hm =>
      have := List.sizeOf_lt_of_mem hm
      have : sizeOf m.2 < sizeOf m := by
        cases m
        simp only [Prod.mk.sizeOf_spec]
        omega
      induction null bool number text list record m.2

/-! ### Element by element -/

theorem settleItems_eq_map (items : List Json) : settleItems items = items.map settle := by
  induction items with
  | nil => rfl
  | cons v vs ih => rw [settleItems, ih, List.map_cons]

theorem settleMembers_eq_map (members : List (String × Json)) :
    settleMembers members = members.map fun m => (m.1, settle m.2) := by
  induction members with
  | nil => rfl
  | cons m ms ih =>
    obtain ⟨n, v⟩ := m
    rw [settleMembers, ih, List.map_cons]

namespace Draft

theorem ofItems_eq_map (items : List Json) : ofItems items = items.map ofJson := by
  induction items with
  | nil => rfl
  | cons v vs ih => rw [ofItems, ih, List.map_cons]

theorem ofMembers_eq_map (members : List (String × Json)) :
    ofMembers members = members.map fun m => (.ok m.1, ofJson m.2) := by
  induction members with
  | nil => rfl
  | cons m ms ih =>
    obtain ⟨n, v⟩ := m
    rw [ofMembers, ih, List.map_cons]

theorem strictItems_eq_mapM (room : Option Nat) (ds : List Draft) :
    strictItems room ds = ds.mapM (strict room) := by
  induction ds with
  | nil => rfl
  | cons d ds ih => rw [strictItems, ih, List.mapM_cons]

/-- A member read strictly. -/
def strictMember (room : Option Nat) (m : Spelling × Draft) : Except Fault (String × Json) := do
  let n ← m.1
  let v ← strict room m.2
  return (n, v)

theorem strictMembers_eq_mapM (room : Option Nat) (ms : List (Spelling × Draft)) :
    strictMembers room ms = ms.mapM (strictMember room) := by
  induction ms with
  | nil => rfl
  | cons m ms ih =>
    obtain ⟨n, d⟩ := m
    rw [strictMembers, ih, List.mapM_cons]
    cases n with
    | error f => rfl
    | ok n =>
      change (strict room d >>= fun v => _) = (strict room d >>= _) >>= _
      rw [bind_assoc]
      rfl

end Draft

/-! ### Members by name -/

section Merging

variable {name : String} {value : Json} {members : List (String × Json)}

theorem put_of_not_mem (h : name ∉ members.map Prod.fst) :
    put name value members = members ++ [(name, value)] := by
  induction members with
  | nil => rfl
  | cons m ms ih =>
    obtain ⟨n, v⟩ := m
    simp only [List.map_cons, List.mem_cons, not_or] at h
    rw [put, if_neg (Ne.symm h.1), ih h.2, List.cons_append]

theorem mem_put {m : String × Json} (h : m ∈ put name value members) :
    m = (name, value) ∨ m ∈ members := by
  induction members with
  | nil => exact .inl (List.mem_singleton.mp h)
  | cons m' ms ih =>
    obtain ⟨n, v⟩ := m'
    unfold put at h
    split at h
    next hn =>
      subst hn
      rcases List.mem_cons.mp h with h | h
      · exact .inl h
      · exact .inr (List.mem_cons_of_mem _ h)
    next =>
      rcases List.mem_cons.mp h with h | h
      · exact .inr (h ▸ List.mem_cons_self)
      · exact (ih h).imp_right (List.mem_cons_of_mem _)

theorem nodup_put (h : (members.map Prod.fst).Nodup) :
    ((put name value members).map Prod.fst).Nodup := by
  induction members with
  | nil => simp [put]
  | cons m ms ih =>
    obtain ⟨n, v⟩ := m
    obtain ⟨hn, hms⟩ := List.nodup_cons.mp h
    unfold put
    split
    · exact h
    next hne =>
      refine List.nodup_cons.mpr ⟨fun hmem => ?_, ih hms⟩
      obtain ⟨m', hm', hname⟩ := List.mem_map.mp hmem
      rcases mem_put hm' with rfl | hm'
      · exact hne hname.symm
      · exact hn (List.mem_map.mpr ⟨m', hm', hname⟩)

/-- Merging keeps to what holds of the members so far and what setting a member preserves. -/
theorem merge_induction {P : List (String × Json) → Prop} (hnil : P [])
    (hput : ∀ m ∈ members, ∀ ms, P ms → P (put m.1 m.2 ms)) : P (merge members) := by
  unfold merge
  have hfold (done : List (String × Json)) (h : P done) :
      P (members.foldl (fun ms m => put m.1 m.2 ms) done) := by
    induction members generalizing done with
    | nil => exact h
    | cons m ms ih =>
      exact ih (fun m' hm' => hput m' (List.mem_cons_of_mem _ hm')) _
        (hput m List.mem_cons_self done h)
  exact hfold [] hnil

theorem nodup_merge : ((merge members).map Prod.fst).Nodup :=
  merge_induction (P := fun ms => (ms.map Prod.fst).Nodup) List.nodup_nil fun _ _ _ => nodup_put

theorem mem_of_mem_merge {m : String × Json} : m ∈ merge members → m ∈ members := by
  refine merge_induction (P := fun ms => m ∈ ms → m ∈ members) (by simp) fun m' hm' ms ih h => ?_
  rcases mem_put h with rfl | h
  · exact hm'
  · exact ih h

theorem merge_of_nodup (h : (members.map Prod.fst).Nodup) : merge members = members := by
  unfold merge
  have hfold (done : List (String × Json)) (hdone : ((done ++ members).map Prod.fst).Nodup) :
      members.foldl (fun ms m => put m.1 m.2 ms) done = done ++ members := by
    induction members generalizing done with
    | nil => simp
    | cons m ms ih =>
      have hfresh : m.1 ∉ done.map Prod.fst := by
        intro hmem
        rw [List.map_append, List.map_cons] at hdone
        exact (List.nodup_append.mp hdone).2.2 _ hmem _ List.mem_cons_self rfl
      rw [List.foldl_cons, put_of_not_mem hfresh]
      have hnext : done ++ m :: ms = (done ++ [m]) ++ ms := by simp
      rw [hnext] at hdone ⊢
      exact ih (List.nodup_cons.mp h).2 _ hdone
  exact hfold [] h

end Merging

/-! ### Values that name each member once -/

/-- Every record names each of its members once. -/
inductive Unique : Json → Prop
  | null : Unique .null
  | bool (b : Bool) : Unique (.bool b)
  | number (n : Number) : Unique (.number n)
  | text (s : String) : Unique (.text s)
  | list {items : List Json} (h : ∀ v ∈ items, Unique v) : Unique (.list items)
  | record {members : List (String × Json)} (hnames : (members.map Prod.fst).Nodup)
      (h : ∀ m ∈ members, Unique m.2) : Unique (.record members)

theorem unique_settle (v : Json) : v.settle.Unique := by
  induction v using induction with
  | null => exact .null
  | bool b => exact .bool b
  | number n => exact .number n
  | text s => exact .text s
  | list items ih =>
    rw [settle, settleItems_eq_map]
    refine .list fun v hv => ?_
    obtain ⟨w, hw, rfl⟩ := List.mem_map.mp hv
    exact ih w hw
  | record members ih =>
    rw [settle, settleMembers_eq_map]
    refine .record nodup_merge fun m hm => ?_
    obtain ⟨m', hm', rfl⟩ := List.mem_map.mp (mem_of_mem_merge hm)
    exact ih m' hm'

theorem Unique.settle_eq {v : Json} (h : v.Unique) : v.settle = v := by
  induction h with
  | null | bool | number | text => rfl
  | list _ ih => rw [settle, settleItems_eq_map, List.map_congr_left ih, List.map_id']
  | @record members hnames _ ih =>
    have hsame := List.map_congr_left fun m hm => congrArg (Prod.mk m.1) (ih m hm)
    rw [settle, settleMembers_eq_map, hsame]
    rw [List.map_id' members, merge_of_nodup hnames]

theorem settle_settle (v : Json) : v.settle.settle = v.settle := (unique_settle v).settle_eq

theorem unique_of_settle_eq {v : Json} (h : v.settle = v) : v.Unique := h ▸ unique_settle v

/-! ### Levels of brackets -/

mutual

/-- How many brackets stand around the innermost value. -/
def depth : Json → Nat
  | .list items => itemsDepth items + 1
  | .record members => membersDepth members + 1
  | .null => 0
  | .bool _ => 0
  | .number _ => 0
  | .text _ => 0

def itemsDepth : List Json → Nat
  | [] => 0
  | v :: vs => max (depth v) (itemsDepth vs)

def membersDepth : List (String × Json) → Nat
  | [] => 0
  | (_, v) :: ms => max (depth v) (membersDepth ms)

end

theorem itemsDepth_le_iff {items : List Json} {n : Nat} :
    itemsDepth items ≤ n ↔ ∀ v ∈ items, v.depth ≤ n := by
  induction items with
  | nil => simp [itemsDepth]
  | cons v vs ih => rw [itemsDepth, Nat.max_le, ih, List.forall_mem_cons]

theorem membersDepth_le_iff {members : List (String × Json)} {n : Nat} :
    membersDepth members ≤ n ↔ ∀ m ∈ members, m.2.depth ≤ n := by
  induction members with
  | nil => simp [membersDepth]
  | cons m ms ih => rw [membersDepth, Nat.max_le, ih, List.forall_mem_cons]

theorem depth_settle_le (v : Json) : v.settle.depth ≤ v.depth := by
  induction v using induction with
  | null | bool | number | text => exact Nat.le_refl _
  | list items ih =>
    rw [settle, settleItems_eq_map, depth, depth]
    refine Nat.succ_le_succ (itemsDepth_le_iff.mpr fun v hv => ?_)
    obtain ⟨w, hw, rfl⟩ := List.mem_map.mp hv
    exact Nat.le_trans (ih w hw) (itemsDepth_le_iff.mp (Nat.le_refl _) w hw)
  | record members ih =>
    rw [settle, settleMembers_eq_map, depth, depth]
    refine Nat.succ_le_succ (membersDepth_le_iff.mpr fun m hm => ?_)
    obtain ⟨m', hm', rfl⟩ := List.mem_map.mp (mem_of_mem_merge hm)
    exact Nat.le_trans (ih m' hm') (membersDepth_le_iff.mp (Nat.le_refl _) m' hm')

/-! ### The strict reading -/

/-- There is room for all levels of a value. -/
def Fits (room : Option Nat) (v : Json) : Prop := ∀ n ∈ room, v.depth ≤ n

theorem fits_none (v : Json) : Fits none v := by simp [Fits]

theorem fits_some {n : Nat} {v : Json} : Fits (some n) v ↔ v.depth ≤ n := by simp [Fits]

namespace Draft

/-- The room inside of a bracket. -/
inductive Opens : Option Nat → Option Nat → Prop
  | free : Opens none none
  | level (n : Nat) : Opens (some (n + 1)) (some n)

variable {room inner : Option Nat} {d : Draft} {e : Ending}

theorem strict_list (h : Opens room inner) (ds : List Draft) : strict room (.list ds e) = (do
    let vs ← ds.mapM (strict inner)
    closing e
    return .list vs) := by
  cases h <;> rw [strict, strictItems_eq_mapM]

theorem strict_record (h : Opens room inner) (ms : List (Spelling × Draft)) :
    strict room (.record ms e) = (do
      let vs ← ms.mapM (strictMember inner)
      closing e
      return .record vs) := by
  cases h <;> rw [strict, strictMembers_eq_mapM]

theorem fits_list {items : List Json} (h : Fits room (.list items)) :
    ∃ inner, Opens room inner ∧ ∀ v ∈ items, Fits inner v := by
  rcases room with _ | _ | n
  · exact ⟨none, .free, fun v _ => fits_none v⟩
  · exact absurd (fits_some.mp h) (Nat.not_succ_le_zero _)
  · refine ⟨some n, .level n, fun v hv => fits_some.mpr ?_⟩
    exact itemsDepth_le_iff.mp (Nat.le_of_succ_le_succ (fits_some.mp h)) v hv

theorem fits_record {members : List (String × Json)} (h : Fits room (.record members)) :
    ∃ inner, Opens room inner ∧ ∀ m ∈ members, Fits inner m.2 := by
  rcases room with _ | _ | n
  · exact ⟨none, .free, fun m _ => fits_none m.2⟩
  · exact absurd (fits_some.mp h) (Nat.not_succ_le_zero _)
  · refine ⟨some n, .level n, fun m hm => fits_some.mpr ?_⟩
    exact membersDepth_le_iff.mp (Nat.le_of_succ_le_succ (fits_some.mp h)) m hm

theorem strict_ofJson {v : Json} (h : Fits room v) : strict room (ofJson v) = .ok v := by
  induction v using Json.induction generalizing room with
  | null | bool | number | text => cases room <;> rfl
  | list items ih =>
    obtain ⟨inner, hopens, hfits⟩ := fits_list h
    have hitems : (items.map ofJson).mapM (strict inner) = .ok items := by
      refine mapM_eq_ok_iff.mpr (List.forall₂_map_left_iff.mpr ?_)
      exact List.forall₂_same.mpr fun v hv => ih v hv (hfits v hv)
    rw [ofJson, ofItems_eq_map, strict_list hopens, hitems]
    rfl
  | record members ih =>
    obtain ⟨inner, hopens, hfits⟩ := fits_record h
    have hmembers : (members.map fun m => ((.ok m.1 : Spelling), ofJson m.2)).mapM
        (strictMember inner) = .ok members := by
      refine mapM_eq_ok_iff.mpr (List.forall₂_map_left_iff.mpr ?_)
      refine List.forall₂_same.mpr fun m hm => ?_
      change (strict inner (ofJson m.2) >>= fun v => .ok (m.1, v)) = _
      rw [ih m hm (hfits m hm)]
      rfl
    rw [ofJson, ofMembers_eq_map, strict_record hopens, hmembers]
    rfl

/-- What the strict reading enters has room. -/
theorem opens_of_strict_list {ds : List Draft} {w : Json} (h : strict room (.list ds e) = .ok w) :
    ∃ inner, Opens room inner := by
  rcases room with _ | _ | n
  · exact ⟨none, .free⟩
  · cases h
  · exact ⟨some n, .level n⟩

theorem opens_of_strict_record {ms : List (Spelling × Draft)} {w : Json}
    (h : strict room (.record ms e) = .ok w) : ∃ inner, Opens room inner := by
  rcases room with _ | _ | n
  · exact ⟨none, .free⟩
  · cases h
  · exact ⟨some n, .level n⟩

/-- The forms of a draft that says a value. -/
inductive Says (room : Option Nat) : Draft → Json → Prop
  | null : Says room .null .null
  | bool (b : Bool) : Says room (.bool b) (.bool b)
  | number (n : Number) : Says room (.number n) (.number n)
  | text (s : String) : Says room (.text (.ok s)) (.text s)
  | list {inner : Option Nat} {ds : List Draft} {vs : List Json} (hopens : Opens room inner)
      (hitems : List.Forall₂ (fun d v => strict inner d = .ok v) ds vs) :
      Says room (.list ds .closed) (.list vs)
  | record {inner : Option Nat} {ms : List (Spelling × Draft)} {vs : List (String × Json)}
      (hopens : Opens room inner)
      (hmembers : List.Forall₂ (fun m v => strictMember inner m = .ok v) ms vs) :
      Says room (.record ms .closed) (.record vs)

theorem says_of_strict {w : Json} (h : strict room d = .ok w) : Says room d w := by
  cases d with
  | null => cases room <;> cases h <;> exact .null
  | bool b => cases room <;> cases h <;> exact .bool b
  | number n => cases room <;> cases h <;> exact .number n
  | text s =>
    rcases s with f | s
    · cases room <;> cases h
    · cases room <;> cases h <;> exact .text s
  | list ds e =>
    obtain ⟨inner, hopens⟩ := opens_of_strict_list h
    rw [strict_list hopens] at h
    obtain ⟨vs, hvs, h⟩ := bind_eq_ok_iff.mp h
    obtain ⟨_, hclosed, h⟩ := bind_eq_ok_iff.mp h
    cases e with
    | closed => cases h; exact .list hopens (mapM_eq_ok_iff.mp hvs)
    | broken => cases hclosed
  | record ms e =>
    obtain ⟨inner, hopens⟩ := opens_of_strict_record h
    rw [strict_record hopens] at h
    obtain ⟨vs, hvs, h⟩ := bind_eq_ok_iff.mp h
    obtain ⟨_, hclosed, h⟩ := bind_eq_ok_iff.mp h
    cases e with
    | closed => cases h; exact .record hopens (mapM_eq_ok_iff.mp hvs)
    | broken => cases hclosed
  | oversized | misnamed | absent | brokenText | brokenWord => cases room <;> cases h

theorem eq_null_of_strict (h : strict room d = .ok .null) : d = .null := by
  cases says_of_strict h
  rfl

/-- Less room does not change what is read. -/
theorem strict_none_of_strict {w : Json} (h : strict room d = .ok w) : strict none d = .ok w := by
  induction w using Json.induction generalizing room d with
  | null | bool | number | text => cases says_of_strict h; rfl
  | list items ih =>
    cases says_of_strict h with
    | list _ hitems =>
      rw [strict_list .free, mapM_eq_ok_iff.mpr (forall₂_imp_of_mem hitems fun v hv d => ih v hv)]
      rfl
  | record members ih =>
    cases says_of_strict h with
    | record _ hmembers =>
      rw [strict_record .free, mapM_eq_ok_iff.mpr (forall₂_imp_of_mem hmembers fun m hm d hd => ?_)]
      · rfl
      · obtain ⟨name, hname, hd⟩ := bind_eq_ok_iff.mp hd
        obtain ⟨v, hv, hd⟩ := bind_eq_ok_iff.mp hd
        cases hd
        exact bind_eq_ok_iff.mpr ⟨name, hname, bind_eq_ok_iff.mpr ⟨v, ih _ hm hv, rfl⟩⟩

theorem eq_of_strict_ofJson {v w : Json} (h : strict room (ofJson v) = .ok w) : w = v := by
  have hw := (strict_ofJson (fits_none v)).symm.trans (strict_none_of_strict h)
  exact (Except.ok.inj hw).symm

theorem fits_of_opens {n : Nat} (h : Opens (some n) inner) : ∃ k, n = k + 1 ∧ inner = some k := by
  cases h with
  | level k => exact ⟨k, rfl, rfl⟩

/-- Nothing deeper than the room is read. -/
theorem fits_of_strict {w : Json} (h : strict room d = .ok w) : Fits room w := by
  induction w using Json.induction generalizing room d with
  | null | bool | number | text => exact fun n _ => Nat.zero_le n
  | list items ih =>
    intro n hn
    cases hn
    cases says_of_strict h with
    | list hopens hitems =>
      obtain ⟨k, rfl, rfl⟩ := fits_of_opens hopens
      refine Nat.succ_le_succ (itemsDepth_le_iff.mpr fun v hv => ?_)
      obtain ⟨d, _, hd⟩ := exists_mem_left_of_forall₂ hitems hv
      exact fits_some.mp (ih v hv hd)
  | record members ih =>
    intro n hn
    cases hn
    cases says_of_strict h with
    | record hopens hmembers =>
      obtain ⟨k, rfl, rfl⟩ := fits_of_opens hopens
      refine Nat.succ_le_succ (membersDepth_le_iff.mpr fun m hm => ?_)
      obtain ⟨_, _, hmember⟩ := exists_mem_left_of_forall₂ hmembers hm
      obtain ⟨name, _, hmember⟩ := bind_eq_ok_iff.mp hmember
      obtain ⟨v, hv, hmember⟩ := bind_eq_ok_iff.mp hmember
      cases hmember
      exact fits_some.mp (ih _ hm hv)

end Draft

end Rollup.Json

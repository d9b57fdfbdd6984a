import Rollup.Request.Decode
import Rollup.Request.Encode
import Rollup.Proofs.Json.Records
/-!
Literals and operands read again from what they are encoded as. A typed literal is always the same
literal again. A bare one is its own value, which is read as a typed literal only where it was
settled from a value that repeats a name.
-/
namespace Rollup

open Json (Draft Source Fits)

/-! ### Literals -/

theorem Tag.ofName_name (t : Tag) : ofName t.name = t := by
  cases t <;> simp [ofName, all, name]

namespace Literal

/-- A bare literal whose value, read by itself, is a typed literal. -/
def Disguised (l : Literal) : Prop := ∃ u v t, l = .bare u ∧ ofJson u = .typed v t

instance (l : Literal) : Decidable l.Disguised :=
  match l with
  | .typed _ _ => isFalse (by rintro ⟨_, _, _, h, _⟩; cases h)
  | .bare u =>
    match hread : ofJson u with
    | .typed v t => isTrue ⟨u, v, t, rfl, hread⟩
    | .bare _ => isFalse (by
      rintro ⟨_, _, _, hl, hu⟩
      cases hl
      cases hread.symm.trans hu)

/-- A value is a typed literal of one of its members, or it is a bare one, settled. -/
theorem ofJson_cases (w : Json) :
    (∃ members v t, w = .record members ∧ v ∈ Json.valuesOf "value" members ∧
      ofJson w = .typed v.settle t) ∨ ofJson w = .bare w.settle := by
  cases w with
  | record members =>
    simp only [ofJson]
    split
    next v hv _ => exact .inl ⟨members, v, none, rfl, by simp [hv], rfl⟩
    next v t hv _ =>
      split
      next tag _ => exact .inl ⟨members, v, tag, rfl, by simp [hv], rfl⟩
      next => exact .inr rfl
    next => exact .inr rfl
  | null | bool | number | text | list => exact .inr rfl

theorem eq_settle_of_bare {w u : Json} (h : ofJson w = .bare u) : u = w.settle := by
  rcases ofJson_cases w with ⟨_, _, _, _, _, htyped⟩ | hbare
  · cases htyped.symm.trans h
  · cases hbare.symm.trans h
    rfl

theorem settled_of_typed {w v : Json} {t : Option Tag} (h : ofJson w = .typed v t) :
    v.settle = v := by
  rcases ofJson_cases w with ⟨_, v', _, _, _, htyped⟩ | hbare
  · cases htyped.symm.trans h
    exact Json.settle_settle v'
  · cases hbare.symm.trans h

theorem ofJson?_tag (t : Option Tag) :
    Tag.ofJson? (Json.ofOption (fun t => .text t.name) t) = some t := by
  cases t with
  | none => rfl
  | some t => exact congrArg (fun t => some (some t)) (Tag.ofName_name t)

theorem ofJson_encode_typed {v : Json} (h : v.settle = v) (t : Option Tag) :
    ofJson (typed v t).encode = .typed v t := by
  have hvalue : Json.valuesOf "value" [("value", v),
      ("type", Json.ofOption (fun t => .text t.name) t)] = [v] := by
    simp [Json.valuesOf]
  have htype : Json.valuesOf "type" [("value", v),
      ("type", Json.ofOption (fun t => .text t.name) t)] =
        [Json.ofOption (fun t => .text t.name) t] := by
    simp [Json.valuesOf]
  unfold encode ofJson
  simp only [hvalue, htype, ofJson?_tag, h]

/-- A literal that came from a value is read again, unless it is disguised. -/
theorem ofJson_encode {w : Json} (h : ¬(ofJson w).Disguised) :
    ofJson (ofJson w).encode = ofJson w := by
  cases hw : ofJson w with
  | typed v t => exact ofJson_encode_typed (settled_of_typed hw) t
  | bare u =>
    have hu : u.settle = u := by
      rw [eq_settle_of_bare hw, Json.settle_settle]
    rcases hread : ofJson u with ⟨v, t⟩ | u'
    · exact absurd ⟨u, v, t, hw, hread⟩ h
    · rw [encode, hread, eq_settle_of_bare hread, hu]

theorem not_disguised_of_unique {w : Json} (h : w.Unique) : ¬(ofJson w).Disguised := by
  rintro ⟨u, v, t, hw, hu⟩
  rw [eq_settle_of_bare hw, h.settle_eq, hw] at hu
  cases hu

/-- A literal becomes a record or the value it came from, settled. -/
theorem encode_cases (w : Json) :
    (∃ members, (ofJson w).encode = .record members) ∨ (ofJson w).encode = w.settle := by
  rcases ofJson_cases w with ⟨_, v, t, _, _, htyped⟩ | hbare
  · rw [htyped]
    exact .inl ⟨_, rfl⟩
  · rw [hbare]
    exact .inr rfl

theorem encode_depth_le (w : Json) : (ofJson w).encode.depth ≤ w.depth := by
  rcases ofJson_cases w with ⟨members, v, t, rfl, hv, htyped⟩ | hbare
  · obtain ⟨m, hm, rfl⟩ := List.mem_map.mp hv
    have hmember := Json.membersDepth_le_iff.mp (Nat.le_refl _) m (List.mem_filter.mp hm).1
    have hsettle := Json.depth_settle_le m.2
    have htag : (Json.ofOption (fun t => Json.text t.name) t).depth = 0 := by cases t <;> rfl
    rw [htyped, encode, Json.depth, Json.membersDepth, Json.membersDepth, Json.membersDepth, htag,
      Json.depth]
    omega
  · rw [hbare]
    exact Json.depth_settle_le w

end Literal

/-! ### Operands -/

namespace Operand

theorem ofJson_list (items : List Json) :
    ofJson (.list items) = .list (items.map Literal.ofJson) := rfl

theorem ofJson_single {w : Json} (h : ∀ items, w ≠ .list items) :
    ofJson w = .single (Literal.ofJson w) := by
  cases w with
  | list items => exact absurd rfl (h items)
  | null | bool | number | text | record => rfl

/-- A list is read item by item, and any other value is a single literal. -/
theorem ofJson_cases (w : Json) :
    (∃ items, w = .list items ∧ ofJson w = .list (items.map Literal.ofJson)) ∨
      (∀ items, w ≠ .list items) ∧ ofJson w = .single (Literal.ofJson w) := by
  by_cases hlist : ∃ items, w = .list items
  · obtain ⟨items, rfl⟩ := hlist
    exact .inl ⟨items, rfl, rfl⟩
  · have hw : ∀ items, w ≠ .list items := fun items hitems => hlist ⟨items, hitems⟩
    exact .inr ⟨hw, ofJson_single hw⟩

/-- A value other than a list does not become one. -/
theorem encode_ne_list {w : Json} (h : ∀ items, w ≠ .list items) (items : List Json) :
    (Literal.ofJson w).encode ≠ .list items := by
  rcases Literal.encode_cases w with ⟨members, hrecord⟩ | hsettle
  · rw [hrecord]
    exact Json.noConfusion
  · rw [hsettle]
    cases w with
    | list items => exact absurd rfl (h items)
    | null | bool | number | text | record => exact Json.noConfusion

theorem encode_ne_null {w : Json} (h : w ≠ .null) : (ofJson w).encode ≠ .null := by
  rcases ofJson_cases w with ⟨items, _, hlist⟩ | ⟨_, hsingle⟩
  · rw [hlist]
    exact Json.noConfusion
  · rw [hsingle, encode]
    rcases Literal.encode_cases w with ⟨members, hrecord⟩ | hsettle
    · rw [hrecord]
      exact Json.noConfusion
    · rw [hsettle]
      cases w with
      | null => exact absurd rfl h
      | bool | number | text | list | record => exact Json.noConfusion

theorem ofJson_encode {w : Json} (h : ∀ l ∈ (ofJson w).literals, ¬l.Disguised) :
    ofJson (ofJson w).encode = ofJson w := by
  rcases ofJson_cases w with ⟨items, _, hlist⟩ | ⟨hw, hsingle⟩
  · rw [hlist] at h ⊢
    rw [encode, ofJson_list, List.map_map, List.map_map]
    congr 1
    refine List.map_congr_left fun v hv => ?_
    exact Literal.ofJson_encode (h _ (List.mem_map_of_mem hv))
  · rw [hsingle] at h ⊢
    rw [encode, ofJson_single (encode_ne_list hw), Literal.ofJson_encode (h _ (by simp [literals]))]

theorem encode_depth_le (w : Json) : (ofJson w).encode.depth ≤ w.depth := by
  rcases ofJson_cases w with ⟨items, rfl, hlist⟩ | ⟨_, hsingle⟩
  · rw [hlist, encode, Json.depth, Json.depth, List.map_map]
    refine Nat.succ_le_succ (Json.itemsDepth_le_iff.mpr fun u hu => ?_)
    obtain ⟨v, hv, rfl⟩ := List.mem_map.mp hu
    exact Nat.le_trans (Literal.encode_depth_le v) (Json.itemsDepth_le_iff.mp (Nat.le_refl _) v hv)
  · rw [hsingle]
    exact Literal.encode_depth_le w

theorem not_disguised_of_unique {w : Json} (hw : w.Unique) {l : Literal}
    (hl : l ∈ (ofJson w).literals) : ¬l.Disguised := by
  rcases ofJson_cases w with ⟨items, rfl, hlist⟩ | ⟨_, hsingle⟩
  · rw [hlist] at hl
    obtain ⟨v, hv, rfl⟩ := List.mem_map.mp hl
    cases hw with
    | list hitems => exact Literal.not_disguised_of_unique (hitems v hv)
  · rw [hsingle] at hl
    cases List.mem_singleton.mp hl
    exact Literal.not_disguised_of_unique hw

/-! ### Decoding operands -/

/-- The room for an operand some levels deep in a source. -/
def room (level : Nat) : Source → Option Nat
  | .text => some (Json.maximalDepth - level)
  | .value => none

variable {src : Source} {level : Nat}

theorem decode_eq_ok_iff {d : Draft} {o : Operand} :
    decode level src d = .ok o ↔ ∃ w, d.strict (room level src) = .ok w ∧ ofJson w = o := by
  have hdecode : decode level src d = (do
      let w ← Json.orFault (d.strict (room level src))
      return ofJson w) := by
    cases src <;> rfl
  rw [hdecode, Fallible.bind_eq_ok_iff]
  constructor
  · rintro ⟨w, hw, h⟩
    cases h
    exact ⟨w, Fallible.mapError_eq_ok_iff.mp hw, rfl⟩
  · rintro ⟨w, hw, rfl⟩
    exact ⟨w, Fallible.mapError_eq_ok_iff.mpr hw, rfl⟩

/-- Every value other than null is an operand. -/
theorem optional_decode_ofJson {w : Json} (hnull : w ≠ .null) (hroom : Fits (room level src) w) :
    Json.Decode.optional (decode level) src (Draft.ofJson w) = .ok (some (ofJson w)) := by
  rw [Json.optional_of_ne_null (Json.ofJson_ne_null hnull),
    decode_eq_ok_iff.mpr ⟨w, Draft.strict_ofJson hroom, rfl⟩]
  rfl

end Operand

end Rollup

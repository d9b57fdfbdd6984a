import Rollup.Proofs.Json.Integers
import Rollup.Proofs.Request.RoundTrip
/-!
Numbers of requests. The numbers that a decoded request is encoded with are its limit, its offset
and those of its operands, and all of them stood in the draft. So of a request that was read from a
text the integers survive.
-/
namespace Rollup

open Json (Draft Source)

/-! ### Numbers of encoded parts -/

theorem Json.mem_numbers_ofOption {α : Type} {encode : α → Json} {o : Option α}
    {n : Json.Number} : n ∈ (Json.ofOption encode o).numbers ↔ ∃ x ∈ o, n ∈ (encode x).numbers := by
  cases o with
  | none => simp [ofOption, numbers]
  | some x => simp [ofOption]

theorem Json.mem_numbers_list_map {α : Type} {encode : α → Json} {xs : List α}
    {n : Json.Number} :
    n ∈ (Json.list (xs.map encode)).numbers ↔ ∃ x ∈ xs, n ∈ (encode x).numbers := by
  simp [mem_numbers_list]

theorem Json.numbers_optional_text (s : Option String) : (Json.ofOption .text s).numbers = [] := by
  cases s <;> rfl

theorem Measure.numbers_encode (m : Measure) : m.encode.numbers = [] := by
  simp [encode, Json.numbers, Json.membersNumbers, Json.numbers_optional_text]

theorem Dimension.numbers_encode (d : Dimension) : d.encode.numbers = [] := by
  have hinterval : (Json.ofOption (fun i => .text i.name) d.interval).numbers = [] := by
    cases d.interval <;> rfl
  simp [encode, Json.numbers, Json.membersNumbers, Json.numbers_optional_text, hinterval]

theorem Order.numbers_encode (o : Order) : o.encode.numbers = [] := by
  simp [encode, Json.numbers, Json.membersNumbers, Json.numbers_optional_text]

theorem TimeRange.numbers_encode (w : TimeRange) : w.encode.numbers = [] := rfl

theorem Filter.mem_numbers_encode {f : Filter} {n : Json.Number} :
    n ∈ f.encode.numbers ↔ ∃ o ∈ f.operand, n ∈ o.encode.numbers := by
  simp [encode, Json.numbers, Json.membersNumbers, Json.mem_numbers_ofOption]

theorem Literal.mem_numbers_of_encode {w : Json} {n : Json.Number}
    (h : n ∈ (ofJson w).encode.numbers) : n ∈ w.numbers := by
  rcases ofJson_cases w with ⟨members, v, t, rfl, hv, htyped⟩ | hbare
  · obtain ⟨m, hm, rfl⟩ := List.mem_map.mp hv
    have htag : (Json.ofOption (fun t => .text t.name) t).numbers = [] := by cases t <;> rfl
    have hsettle : n ∈ m.2.settle.numbers := by
      rw [htyped] at h
      simpa [encode, Json.numbers, Json.membersNumbers, htag] using h
    exact Json.mem_numbers_record.mpr
      ⟨m, (List.mem_filter.mp hm).1, Json.mem_numbers_of_settle hsettle⟩
  · rw [hbare] at h
    exact Json.mem_numbers_of_settle h

theorem Operand.mem_numbers_of_encode {w : Json} {n : Json.Number}
    (h : n ∈ (ofJson w).encode.numbers) : n ∈ w.numbers := by
  rcases ofJson_cases w with ⟨items, rfl, hlist⟩ | ⟨_, hsingle⟩
  · rw [hlist, encode, List.map_map, Json.mem_numbers_list_map] at h
    obtain ⟨v, hv, hn⟩ := h
    exact Json.mem_numbers_list.mpr ⟨v, hv, Literal.mem_numbers_of_encode hn⟩
  · rw [hsingle] at h
    exact Literal.mem_numbers_of_encode h

/-! ### Numbers of requests -/

namespace Request

variable {src : Source} {d : Draft} {r : Request}

theorem mem_numbers_encode {n : Json.Number} : n ∈ r.encode.numbers ↔
    (∃ f ∈ r.filters, ∃ o ∈ f.operand, n ∈ o.encode.numbers) ∨
      ∃ k : Nat, (r.limit = some k ∨ r.offset = some k) ∧ n = .int k := by
  rw [encode, Json.mem_numbers_record]
  simp only [List.mem_cons, exists_eq_or_imp, Json.mem_numbers_list_map, Json.mem_numbers_ofOption,
    Measure.numbers_encode, Dimension.numbers_encode, Filter.mem_numbers_encode,
    Order.numbers_encode, TimeRange.numbers_encode, Json.numbers_optional_text]
  simp [Json.ofNat, Json.numbers, or_and_right, exists_or]

/-- The numbers of a decoded request stood in its draft. -/
theorem has_of_mem_numbers (h : Request.decode src d = .ok r) {n : Json.Number}
    (hn : n ∈ r.encode.numbers) : d.Has n := by
  obtain ⟨_, _, hnatural⟩ := of_decode h
  rcases mem_numbers_encode.mp hn with ⟨f, hf, o, ho, hn⟩ | ⟨k, hk, rfl⟩
  · obtain ⟨d₁, d₂, d₃, w, h₁, h₂, h₃, hw, _, rfl⟩ := exists_operand h hf ho
    exact .inside h₁ (.inside h₂ (.inside h₃
      (Draft.has_of_strict hw (Operand.mem_numbers_of_encode hn))))
  · exact .inside (hnatural k hk) (.number _)

theorem decode_of_ofText {s : String} (h : ofText s = .ok r) :
    Request.decode .text (Json.readDraft s).1 = .ok r := by
  unfold ofText Json.decodeText at h
  cases hdraft : Json.readDraft s with
  | mk d clean =>
    rw [hdraft] at h
    obtain ⟨x, hx, h⟩ := Fallible.bind_eq_ok_iff.mp h
    cases clean with
    | false => cases h
    | true =>
      cases h
      exact hx

/-- The integers of a request survive that was read from a text. -/
theorem survives_of_ofText {s : String} (h : Request.ofText s = .ok r)
    (hdoubles : ∀ x : Float, .float x ∈ r.encode.numbers → (Json.Number.float x).Survives) :
    ∀ n ∈ r.encode.numbers, n.Survives := by
  intro n hn
  have hhas := has_of_mem_numbers (decode_of_ofText h) hn
  have hbounded := Json.bounded_readDraft s n hhas
  cases n with
  | int i => exact Json.Number.survives_int hbounded
  | float x => exact hdoubles x hn

end Request

end Rollup

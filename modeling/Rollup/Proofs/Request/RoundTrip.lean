import Rollup.Proofs.Json.Texts
import Rollup.Proofs.Request.Operands
import Rollup.Proofs.Request.Readback
/-!
Encoding and decoding requests. A request that was decoded is decoded again from what it is encoded
as, unless a literal of it is disguised; from a value with unique names there is no such literal.
-/
namespace Rollup

open Json (Draft Source Inside Fits)

/-- An operand that stands for a value is decoded again, unless one of its literals is disguised. -/
theorem Operand.returning {dst : Source} {w : Json} (hnull : w ≠ .null)
    (hroom : Fits (room Filter.operandLevel dst) w)
    (hplain : ∀ l ∈ (ofJson w).literals, ¬l.Disguised) : (ofJson w).Returning dst := by
  have hfits : Fits (room Filter.operandLevel dst) (ofJson w).encode := fun n hn =>
    Nat.le_trans (encode_depth_le w) (hroom n hn)
  exact ⟨encode_ne_null hnull,
    decode_eq_ok_iff.mpr ⟨_, Draft.strict_ofJson hfits, ofJson_encode hplain⟩⟩

namespace Request

/-- No literal of the request is disguised. -/
def Plain (r : Request) : Prop :=
  ∀ f ∈ r.filters, ∀ o ∈ f.operand, ∀ l ∈ o.literals, ¬l.Disguised

instance (r : Request) : Decidable r.Plain := by unfold Plain; infer_instance

variable {src : Source} {d : Draft} {r : Request}

/-- Each operand is what a draft three levels inside says. -/
theorem exists_operand (h : Request.decode src d = .ok r) {f : Filter} (hf : f ∈ r.filters)
    {o : Operand} (ho : o ∈ f.operand) :
    ∃ d₁ d₂ d₃ w, Inside d₁ d ∧ Inside d₂ d₁ ∧ Inside d₃ d₂ ∧
      d₃.strict (Operand.room Filter.operandLevel src) = .ok w ∧ w ≠ .null ∧ o = .ofJson w := by
  obtain ⟨d₁, d₂, h₁, h₂, hfilter⟩ := (of_decode h).2.1 f hf
  obtain ⟨d₃, h₃, hnull, hdecode⟩ := Filter.exists_inside_of_decode hfilter ho
  obtain ⟨w, hw, rfl⟩ := Operand.decode_eq_ok_iff.mp hdecode
  refine ⟨d₁, d₂, d₃, w, h₁, h₂, h₃, hw, ?_, rfl⟩
  rintro rfl
  exact hnull (Draft.eq_null_of_strict hw)

/-- In a value, what stands three levels inside is a value less deep by as much. -/
theorem exists_operand_value {v : Json} (h : Request.decode src (Draft.ofJson v) = .ok r)
    {f : Filter} (hf : f ∈ r.filters) {o : Operand} (ho : o ∈ f.operand) :
    ∃ w, w ≠ .null ∧ o = .ofJson w ∧ w.depth + Filter.operandLevel ≤ v.depth ∧
      (v.Unique → w.Unique) := by
  obtain ⟨d₁, d₂, d₃, w, h₁, h₂, h₃, hw, hnull, rfl⟩ := exists_operand h hf ho
  obtain ⟨v₁, rfl, hdepth₁, hunique₁⟩ := h₁.ofJson
  obtain ⟨v₂, rfl, hdepth₂, hunique₂⟩ := h₂.ofJson
  obtain ⟨v₃, rfl, hdepth₃, hunique₃⟩ := h₃.ofJson
  obtain rfl := Draft.eq_of_strict_ofJson hw
  refine ⟨w, hnull, rfl, ?_, fun hv => hunique₃ (hunique₂ (hunique₁ hv))⟩
  unfold Filter.operandLevel
  omega

theorem plain_of_unique {v : Json} (h : Request.decode src (Draft.ofJson v) = .ok r)
    (hv : v.Unique) : r.Plain := by
  intro f hf o ho l hl
  obtain ⟨w, _, rfl, _, hunique⟩ := exists_operand_value h hf ho
  exact Operand.not_disguised_of_unique (hunique hv) hl

theorem returning_value (h : Request.decode src d = .ok r) (hplain : r.Plain) :
    r.Returning .value := by
  refine ⟨(of_decode h).1, fun f hf o ho => ?_⟩
  obtain ⟨_, _, _, w, _, _, _, _, hnull, rfl⟩ := exists_operand h hf ho
  exact Operand.returning hnull (Json.fits_none w) (hplain f hf _ ho)

/-- Texts have a greatest depth, which what was read from one keeps to. -/
theorem returning_text (h : Request.decode .text d = .ok r) (hplain : r.Plain) :
    r.Returning .text := by
  refine ⟨(of_decode h).1, fun f hf o ho => ?_⟩
  obtain ⟨_, _, _, w, _, _, _, hw, hnull, rfl⟩ := exists_operand h hf ho
  exact Operand.returning hnull (Draft.fits_of_strict hw) (hplain f hf _ ho)

theorem returning_text_of_depth {v : Json} (h : Request.decode src (Draft.ofJson v) = .ok r)
    (hplain : r.Plain) (hdepth : v.depth ≤ Json.maximalDepth) : r.Returning .text := by
  refine ⟨(of_decode h).1, fun f hf o ho => ?_⟩
  obtain ⟨w, hnull, rfl, hlevel, _⟩ := exists_operand_value h hf ho
  exact Operand.returning hnull (Json.fits_some.mpr (by omega)) (hplain f hf _ ho)

/-- The compact text of a request is decoded into the request. -/
theorem decode_compact (h : r.Returning .text) (hnumbers : ∀ n ∈ r.encode.numbers, n.Survives) :
    ofText r.encode.compact = .ok r ∧
      Json.decodeLeading Request.decode r.encode.compact = .ok r := by
  have hread : Request.decode .text (Draft.ofJson r.encode) = .ok r := h.returns
  constructor
  · unfold ofText Json.decodeText
    rw [Json.readDraft_compact hnumbers]
    change (Request.decode .text (Draft.ofJson r.encode) >>= fun x => .ok x) = _
    rw [hread]
    rfl
  · rw [Json.decodeLeading_compact _ hnumbers]
    exact hread

end Request

theorem Calendar.Instant.decode_encode {src dst : Source} {d : Draft} {t : Calendar.Instant}
    (h : decode src d = .ok t) : decode dst (Draft.ofJson t.encode) = .ok t :=
  (recorded_of_decode h).returns dst

/-! ### Decoding undoes encoding -/

/-- A request that was decoded from any value with unique names is decoded again from what it is
encoded as, be it a value or, within the depth of texts, a text. Every value but null is an
operand, the literals of a list stay in place, a bare literal is the value it came from and is read
as itself, and instants come back as they were. -/
theorem decoding_undoes_encoding :
    (∀ (src : Source) (v : Json) (r : Request), v.Unique →
      Request.decode src (Draft.ofJson v) = .ok r →
        Request.ofJson r.encode = .ok r ∧
        (src = .text ∨ v.depth ≤ Json.maximalDepth → (∀ n ∈ r.encode.numbers, n.Survives) →
          Request.ofText r.encode.compact = .ok r)) ∧
    (∀ w : Json, w ≠ .null →
      Json.Decode.optional (Operand.decode Filter.operandLevel) .value (Draft.ofJson w) =
        .ok (some (Operand.ofJson w))) ∧
    (∀ items : List Json,
      Operand.ofJson (.list items) = .list (items.map Literal.ofJson) ∧
        (Operand.ofJson (.list items)).encode =
          .list (items.map fun w => (Literal.ofJson w).encode)) ∧
    (∀ w u : Json, w.Unique → Literal.ofJson w = .bare u →
      (Literal.bare u).encode = w ∧ Literal.ofJson (Literal.bare u).encode = .bare u) ∧
    (∀ (src dst : Source) (d : Draft) (t : Calendar.Instant),
      Calendar.Instant.decode src d = .ok t →
        Calendar.Instant.decode dst (Draft.ofJson t.encode) = .ok t) := by
  refine ⟨fun src v r hv h => ?_, fun w hw => ?_, fun items => ?_, fun w u hw h => ?_,
    fun src dst d t => Calendar.Instant.decode_encode⟩
  · have hplain := Request.plain_of_unique h hv
    refine ⟨(Request.returning_value h hplain).returns, fun hsource hnumbers => ?_⟩
    have htext : r.Returning .text := by
      rcases hsource with rfl | hdepth
      · exact Request.returning_text h hplain
      · exact Request.returning_text_of_depth h hplain hdepth
    exact (Request.decode_compact htext hnumbers).1
  · exact Operand.optional_decode_ofJson hw (Json.fits_none w)
  · refine ⟨Operand.ofJson_list items, ?_⟩
    rw [Operand.ofJson_list, Operand.encode, List.map_map]
    rfl
  · have hu : u = w := (Literal.eq_settle_of_bare h).trans hw.settle_eq
    rw [hu] at h ⊢
    exact ⟨rfl, h⟩

/-- A request given by places, with an unknown member, literals of each kind and a leap second. Null
in a list is an operand, a record with a number for its tag is a bare literal, and a year may have
five digits. -/
theorem decoding_undoes_encoding_placed :
    (∃ r : Request, r.range = some ⟨⟨17166, 86399, 1500000000⟩, ⟨3672147, 82800, 0⟩⟩ ∧
      Request.decode .value (Draft.ofJson (.list [.text "sales", .list [], .list [],
        .list [.record [("field", .text "a"), ("note", .null), ("filterType", .text "InFilter"),
          ("filterValue", .list [.number (.int 5), .list [],
            .record [("value", .text "2024-01-01"), ("type", .text "date")]])]],
        .list [], .list [.text "2016-12-31T23:59:60.5Z", .text "+12024-01-01T00:00:00+01:00"],
        .null, .number (.int 20)])) = .ok r ∧
      Request.ofJson r.encode = .ok r ∧ Request.ofText r.encode.compact = .ok r) ∧
    Json.Decode.optional (Operand.decode Filter.operandLevel) .value
      (Draft.ofJson (.list [.null])) = .ok (some (.list [.bare .null])) ∧
    Literal.ofJson (Literal.bare (.record [("value", .null), ("type", .number (.int 1))])).encode =
      .bare (.record [("value", .null), ("type", .number (.int 1))]) ∧
    Calendar.Instant.decode .text (Draft.ofJson (Calendar.Instant.encode ⟨3672147, 82800, 0⟩)) =
      .ok ⟨3672147, 82800, 0⟩ := by
  obtain ⟨hrequest, hoperand, _, hbare, hinstant⟩ := decoding_undoes_encoding
  have hreturn {v : Json} {r : Request} (hv : v.settle = v)
      (h : Request.decode .value (Draft.ofJson v) = .ok r) (hdepth : v.depth ≤ Json.maximalDepth)
      (hnumbers : ∀ n ∈ r.encode.numbers, n.Survives) :
      Request.decode .value (Draft.ofJson v) = .ok r ∧ Request.ofJson r.encode = .ok r ∧
        Request.ofText r.encode.compact = .ok r := by
    obtain ⟨hvalue, htext⟩ := hrequest .value v r (Json.unique_of_settle_eq hv) h
    exact ⟨h, hvalue, htext (.inr hdepth) hnumbers⟩
  refine ⟨⟨{
    table := "sales"
    filters := [⟨.isIn, "a", some (.list [.bare (.number (.int 5)), .bare (.list []),
      .typed (.text "2024-01-01") (some .date)])⟩]
    range := some ⟨⟨17166, 86399, 1500000000⟩, ⟨3672147, 82800, 0⟩⟩
    offset := some 20 }, rfl, hreturn ?_ ?_ ?_ ?_⟩, hoperand (.list [.null]) Json.noConfusion,
    (hbare (.record [("value", .null), ("type", .number (.int 1))]) _
      (Json.unique_of_settle_eq (by decide +kernel)) (by decide +kernel)).2,
    hinstant .value .text (Draft.ofJson (.text "+12024-01-01T00:00:00+01:00")) _ ?_⟩ <;>
    decide +kernel

end Rollup

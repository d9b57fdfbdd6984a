import Rollup.Request.Decode
import Rollup.Request.Encode
import Rollup.Proofs.Calendar.Texts
import Rollup.Proofs.Json.Records
/-!
Reading back encoded requests. A request is decoded again from what it is encoded as, provided that
its instants and its operands are; and what a decoded request has of these came from its draft.
-/
namespace Rollup

open Json (Decoder Draft Source Returns Inside Filled)
open Json.Decode

variable {src : Source}

/-! ### Names -/

theorem Aggregate.ofName_name (a : Aggregate) : ofName a.name = a := by
  have hall : ∀ a ∈ all, ofName a.name = a := by decide +kernel
  exact hall a (by cases a <;> simp [all])

theorem Calendar.Interval.ofName_name (i : Calendar.Interval) : ofName i.name = i := by
  have hall : ∀ i ∈ all, ofName i.name = i := by decide +kernel
  exact hall i (by cases i <;> simp [all])

theorem DimensionKind.ofName_name (k : DimensionKind) : ofName k.name = k := by
  cases k <;> simp [ofName, name]

theorem FilterKind.ofName_name (k : FilterKind) : ofName k.name = k := by
  cases k <;> simp [ofName, named, name]

/-! ### Members -/

theorem mapped_ok {α β : Type} {f : α → β} {decode : Decoder α} {d : Draft} {x : α}
    (h : decode src d = .ok x) : mapped f decode src d = .ok (f x) := by
  unfold mapped
  rw [h]
  rfl

theorem Json.Returns.ofOption {α : Type} {decode : Decoder α} {encode : α → Json} {o : Option α}
    (hnull : ∀ x ∈ o, encode x ≠ .null) (h : ∀ x ∈ o, Returns decode encode src x) :
    Returns (optional decode) (Json.ofOption encode) src o := by
  cases o with
  | none => rfl
  | some x =>
    have hx : decode src (Draft.ofJson (encode x)) = .ok x := h x rfl
    have hne : Draft.ofJson (encode x) ≠ .null := Json.ofJson_ne_null (hnull x rfl)
    unfold Returns Json.ofOption
    rw [Json.optional_of_ne_null hne, hx]
    rfl

theorem returns_optional_text (src : Source) (s : Option String) :
    Returns (optional text) (Json.ofOption .text) src s :=
  .ofOption (fun _ _ => Json.noConfusion) fun _ _ => rfl

theorem returns_optional_natural (src : Source) (n : Option Nat) :
    Returns (optional natural) (Json.ofOption Json.ofNat) src n :=
  .ofOption (fun _ _ => Json.noConfusion) fun _ _ => rfl

theorem Aggregate.returns (src : Source) (a : Aggregate) :
    Returns Aggregate.decode (fun a => .text a.name) src a := by
  have hname : optional text src (Draft.ofJson (.text a.name)) = .ok (some a.name) :=
    returns_optional_text src (some a.name)
  unfold Returns Aggregate.decode
  rw [mapped_ok hname, Option.map_some, Option.getD_some, ofName_name]

theorem DimensionKind.returns (src : Source) (k : DimensionKind) :
    Returns (choice DimensionKind.ofName) (fun k => .text k.name) src k := by
  unfold Returns
  rw [Json.choice_ofJson, ofName_name]

theorem FilterKind.returns (src : Source) (k : FilterKind) :
    Returns (choice FilterKind.ofName) (fun k => .text k.name) src k := by
  unfold Returns
  rw [Json.choice_ofJson, ofName_name]

theorem Calendar.Interval.returns (src : Source) (i : Option Calendar.Interval) :
    Returns (optional (mapped ofName text)) (Json.ofOption fun i => .text i.name) src i := by
  refine .ofOption (fun _ _ => Json.noConfusion) fun i _ => ?_
  unfold Returns
  rw [mapped_ok (Json.text_ofJson src i.name), ofName_name]

theorem Calendar.Instant.Recorded.returns {t : Calendar.Instant} (h : t.Recorded)
    (src : Source) :
    Returns Calendar.Instant.decode Calendar.Instant.encode src t := by
  unfold Returns Calendar.Instant.encode Calendar.Instant.decode Draft.ofJson
  simp only [h.ofLenientText?_exactText]

/-! ### Records -/

theorem Measure.returns (src : Source) (m : Measure) :
    Returns Measure.decode Measure.encode src m := by
  have hfield := Json.text_ofJson src m.field
  have haggregate := m.aggregate.returns src
  have hlabel := returns_optional_text src m.label
  have hfilled : Filled src shape.members
      [.text m.field, .text m.aggregate.name, .ofOption .text m.label] :=
    .cons (Json.check_required hfield) (.cons (Json.check_defaulted haggregate)
      (.cons (Json.check_defaulted hlabel) .nil))
  refine (Json.parts_bind (by simp [Shape.names, shape]) hfilled _).trans ?_
  rw [Json.get_of_part (by rfl) hfield, Json.getD_of_part (by rfl) haggregate,
    Json.getD_of_part (by rfl) hlabel]
  rfl

theorem Dimension.returns (src : Source) (d : Dimension) :
    Returns Dimension.decode Dimension.encode src d := by
  have hfield := Json.text_ofJson src d.field
  have hlabel := returns_optional_text src d.label
  have hkind := d.kind.returns src
  have hinterval := Calendar.Interval.returns src d.interval
  have hformat := returns_optional_text src d.format
  have hfilled : Filled src shape.members
      [.text d.field, .ofOption .text d.label, .text d.kind.name,
        .ofOption (fun i => .text i.name) d.interval, .ofOption .text d.format] :=
    .cons (Json.check_required hfield) (.cons (Json.check_defaulted hlabel)
      (.cons (Json.check_defaulted hkind) (.cons (Json.check_defaulted hinterval)
        (.cons (Json.check_defaulted hformat) .nil))))
  refine (Json.parts_bind (by simp [Shape.names, shape]) hfilled _).trans ?_
  rw [Json.get_of_part (by rfl) hfield, Json.getD_of_part (by rfl) hlabel,
    Json.getD_of_part (by rfl) hkind, Json.getD_of_part (by rfl) hinterval,
    Json.getD_of_part (by rfl) hformat]
  rfl

theorem Order.returns (src : Source) (o : Order) :
    Returns Order.decode Order.encode src o := by
  have hfield := Json.text_ofJson src o.field
  have hdirection := returns_optional_text src o.direction
  have hfilled : Filled src shape.members [.text o.field, .ofOption .text o.direction] :=
    .cons (Json.check_required hfield) (.cons (Json.check_defaulted hdirection) .nil)
  refine (Json.parts_bind (by simp [Shape.names, shape]) hfilled _).trans ?_
  rw [Json.get_of_part (by rfl) hfield, Json.getD_of_part (by rfl) hdirection]
  rfl

/-- Both ends of a window are instants that texts can say. -/
def TimeRange.Recorded (r : TimeRange) : Prop := r.first.Recorded ∧ r.last.Recorded

theorem TimeRange.Recorded.returns {r : TimeRange} (h : r.Recorded) (src : Source) :
    Returns TimeRange.decode TimeRange.encode src r := by
  have hfirst := h.1.returns src
  have hlast := h.2.returns src
  have hfilled : Filled src shape.members [r.first.encode, r.last.encode] :=
    .cons (Json.check_required hfirst) (.cons (Json.check_required hlast) .nil)
  refine (Json.parts_bind (by simp [Shape.names, shape]) hfilled _).trans ?_
  rw [Json.get_of_part (by rfl) hfirst, Json.get_of_part (by rfl) hlast]
  rfl

/-- The operand of a filter is decoded from what it is encoded as. -/
def Operand.Returning (src : Source) (o : Operand) : Prop :=
  o.encode ≠ .null ∧ Returns (Operand.decode Filter.operandLevel) Operand.encode src o

theorem Filter.returns {f : Filter} (h : ∀ o ∈ f.operand, o.Returning src) :
    Returns Filter.decode Filter.encode src f := by
  have hkind := f.kind.returns src
  have hfield := Json.text_ofJson src f.field
  have hoperand : Returns (optional (Operand.decode operandLevel)) (Json.ofOption Operand.encode)
      src f.operand := .ofOption (fun o ho => (h o ho).1) fun o ho => (h o ho).2
  have hfilled : Filled src shape.members
      [.text f.kind.name, .text f.field, .ofOption Operand.encode f.operand] :=
    .cons (Json.check_required hkind) (.cons (Json.check_required hfield)
      (.cons (Json.check_defaulted hoperand) .nil))
  refine (Json.parts_bind (by simp [Shape.names, shape]) hfilled _).trans ?_
  rw [Json.get_of_part (by rfl) hkind, Json.get_of_part (by rfl) hfield,
    Json.getD_of_part (by rfl) hoperand]
  rfl

/-- What a request has to satisfy in order to be decoded from what it is encoded as. -/
structure Request.Returning (src : Source) (r : Request) : Prop where
  range : ∀ w ∈ r.range, w.Recorded
  operand : ∀ f ∈ r.filters, ∀ o ∈ f.operand, o.Returning src

theorem Request.Returning.returns {r : Request} (h : r.Returning src) :
    Returns Request.decode Request.encode src r := by
  have htable := Json.text_ofJson src r.table
  have hmeasures := Returns.list fun m (_ : m ∈ r.measures) => m.returns src
  have hdimensions := Returns.list fun d (_ : d ∈ r.dimensions) => d.returns src
  have hfilters := Returns.list fun f hf => Filter.returns (h.operand f hf)
  have horders := Returns.list fun o (_ : o ∈ r.orders) => o.returns src
  have hrange : Returns (optional TimeRange.decode) (Json.ofOption TimeRange.encode) src r.range :=
    .ofOption (fun _ _ => Json.noConfusion) fun w hw => (h.range w hw).returns src
  have hlimit := returns_optional_natural src r.limit
  have hoffset := returns_optional_natural src r.offset
  have hformat := returns_optional_text src r.format
  have hfilled : Filled src shape.members
      [.text r.table, .list (r.measures.map Measure.encode),
        .list (r.dimensions.map Dimension.encode), .list (r.filters.map Filter.encode),
        .list (r.orders.map Order.encode), .ofOption TimeRange.encode r.range,
        .ofOption .ofNat r.limit, .ofOption .ofNat r.offset, .ofOption .text r.format] :=
    .cons (Json.check_defaulted htable) (.cons (Json.check_defaulted hmeasures)
      (.cons (Json.check_defaulted hdimensions) (.cons (Json.check_defaulted hfilters)
        (.cons (Json.check_defaulted horders) (.cons (Json.check_defaulted hrange)
          (.cons (Json.check_defaulted hlimit) (.cons (Json.check_defaulted hoffset)
            (.cons (Json.check_defaulted hformat) .nil))))))))
  refine (Json.parts_bind (by simp [Shape.names, shape]) hfilled _).trans ?_
  rw [Json.getD_of_part (by rfl) htable, Json.getD_of_part (by rfl) hmeasures,
    Json.getD_of_part (by rfl) hdimensions, Json.getD_of_part (by rfl) hfilters,
    Json.getD_of_part (by rfl) horders, Json.getD_of_part (by rfl) hrange,
    Json.getD_of_part (by rfl) hlimit, Json.getD_of_part (by rfl) hoffset,
    Json.getD_of_part (by rfl) hformat]
  rfl

/-! ### What decoded requests are made of -/

open Fallible

variable {d : Draft}

theorem Calendar.Instant.recorded_of_decode {t : Calendar.Instant}
    (h : Calendar.Instant.decode src d = .ok t) : t.Recorded := by
  unfold Calendar.Instant.decode at h
  split at h
  next s =>
    split at h
    next t' ht =>
      cases h
      exact recorded_of_ofLenientText? ht
    next => cases h
  next => cases h

theorem TimeRange.recorded_of_decode {w : TimeRange} (h : TimeRange.decode src d = .ok w) :
    w.Recorded := by
  obtain ⟨given, _, h⟩ := bind_eq_ok_iff.mp h
  obtain ⟨first, hfirst, h⟩ := bind_eq_ok_iff.mp h
  obtain ⟨last, hlast, h⟩ := bind_eq_ok_iff.mp h
  cases h
  obtain ⟨_, _, hfirst⟩ := Json.get_eq_ok hfirst
  obtain ⟨_, _, hlast⟩ := Json.get_eq_ok hlast
  exact ⟨Calendar.Instant.recorded_of_decode hfirst, Calendar.Instant.recorded_of_decode hlast⟩

/-- The operand of a filter comes from a draft other than null inside of the filter's draft. -/
theorem Filter.exists_inside_of_decode {f : Filter} (h : Filter.decode src d = .ok f) {o : Operand}
    (ho : o ∈ f.operand) :
    ∃ d', Inside d' d ∧ d' ≠ .null ∧ Operand.decode operandLevel src d' = .ok o := by
  obtain ⟨given, hgiven, h⟩ := bind_eq_ok_iff.mp h
  obtain ⟨kind, _, h⟩ := bind_eq_ok_iff.mp h
  obtain ⟨field, _, h⟩ := bind_eq_ok_iff.mp h
  obtain ⟨operand, hoperand, h⟩ := bind_eq_ok_iff.mp h
  cases h
  cases ho
  rcases Json.getD_eq_ok hoperand with hnone | ⟨d', hd', hdecode⟩
  · cases hnone
  · exact ⟨d', Json.inside_of_parts hgiven hd', Json.optional_eq_some hdecode⟩

theorem inside_of_natural {shape : Shape} {given : Parts} {name : String} {n : Nat}
    (hgiven : parts shape src d = .ok given)
    (h : getD given name (optional natural) none src = .ok (some n)) :
    Inside (.number (.int n)) d := by
  rcases Json.getD_eq_ok h with hnone | ⟨d', hd', hdecode⟩
  · cases hnone
  · have hnumber : d' = .number (.int n) :=
      Json.eq_number_of_natural (Json.optional_eq_some hdecode).2
    exact hnumber ▸ Json.inside_of_parts hgiven hd'

theorem Request.of_decode {r : Request} (h : Request.decode src d = .ok r) :
    (∀ w ∈ r.range, w.Recorded) ∧
      (∀ f ∈ r.filters, ∃ d₁ d₂, Inside d₁ d ∧ Inside d₂ d₁ ∧ Filter.decode src d₂ = .ok f) ∧
      ∀ n : Nat, r.limit = some n ∨ r.offset = some n → Inside (.number (.int n)) d := by
  obtain ⟨given, hgiven, h⟩ := bind_eq_ok_iff.mp h
  obtain ⟨table, _, h⟩ := bind_eq_ok_iff.mp h
  obtain ⟨measures, _, h⟩ := bind_eq_ok_iff.mp h
  obtain ⟨dimensions, _, h⟩ := bind_eq_ok_iff.mp h
  obtain ⟨filters, hfilters, h⟩ := bind_eq_ok_iff.mp h
  obtain ⟨orders, _, h⟩ := bind_eq_ok_iff.mp h
  obtain ⟨range, hrange, h⟩ := bind_eq_ok_iff.mp h
  obtain ⟨limit, hlimit, h⟩ := bind_eq_ok_iff.mp h
  obtain ⟨offset, hoffset, h⟩ := bind_eq_ok_iff.mp h
  obtain ⟨format, _, h⟩ := bind_eq_ok_iff.mp h
  cases h
  refine ⟨fun w hw => ?_, fun f hf => ?_, ?_⟩
  · cases hw
    rcases Json.getD_eq_ok hrange with hnone | ⟨_, _, hdecode⟩
    · cases hnone
    · exact TimeRange.recorded_of_decode (Json.optional_eq_some hdecode).2
  · rcases Json.getD_eq_ok hfilters with rfl | ⟨d₁, hd₁, hdecode⟩
    · cases hf
    · obtain ⟨d₂, hd₂, hfilter⟩ := Json.exists_inside_of_list hdecode hf
      exact ⟨d₁, d₂, Json.inside_of_parts hgiven hd₁, hd₂, hfilter⟩
  · rintro n (rfl | rfl)
    · exact inside_of_natural hgiven hlimit
    · exact inside_of_natural hgiven hoffset

end Rollup

import Rollup.CommandLine.Run
import Rollup.Proofs.Request.Numbers
/-!
Sending a request on. A server reads the request that a client read from a text, so both compile it
alike, unless a literal was disguised: then the client compiles a bare record where the server
compiles a typed literal.
-/
namespace Rollup

open Json (Draft Source)
open CommandLine (outgoing)

/-! ### Encoded requests name each member once -/

theorem Json.unique_ofOption {α : Type} {encode : α → Json} {o : Option α}
    (h : ∀ x ∈ o, (encode x).Unique) : (Json.ofOption encode o).Unique := by
  cases o with
  | none => exact .null
  | some x => exact h x rfl

theorem Json.unique_list_map {α : Type} {encode : α → Json} {xs : List α}
    (h : ∀ x ∈ xs, (encode x).Unique) : (Json.list (xs.map encode)).Unique := by
  refine .list fun v hv => ?_
  obtain ⟨x, hx, rfl⟩ := List.mem_map.mp hv
  exact h x hx

theorem Json.unique_optional_text (s : Option String) : (Json.ofOption .text s).Unique :=
  unique_ofOption fun s _ => .text s

theorem Measure.unique_encode (m : Measure) : m.encode.Unique := by
  refine .record (by simp) ?_
  simp only [List.forall_mem_cons]
  exact ⟨.text _, .text _, Json.unique_optional_text _, by simp⟩

theorem Dimension.unique_encode (d : Dimension) : d.encode.Unique := by
  refine .record (by simp) ?_
  simp only [List.forall_mem_cons]
  exact ⟨.text _, Json.unique_optional_text _, .text _, Json.unique_ofOption fun i _ => .text _,
    Json.unique_optional_text _, by simp⟩

theorem Order.unique_encode (o : Order) : o.encode.Unique := by
  refine .record (by simp) ?_
  simp only [List.forall_mem_cons]
  exact ⟨.text _, Json.unique_optional_text _, by simp⟩

theorem TimeRange.unique_encode (w : TimeRange) : w.encode.Unique := by
  refine .record (by simp) ?_
  simp only [List.forall_mem_cons]
  exact ⟨.text _, .text _, by simp⟩

theorem Literal.unique_encode (w : Json) : (ofJson w).encode.Unique := by
  rcases ofJson_cases w with ⟨_, v, t, _, _, htyped⟩ | hbare
  · rw [htyped]
    refine .record (by simp) ?_
    simp only [List.forall_mem_cons]
    exact ⟨Json.unique_settle v, Json.unique_ofOption fun t _ => .text _, by simp⟩
  · rw [hbare]
    exact Json.unique_settle w

theorem Operand.unique_encode (w : Json) : (ofJson w).encode.Unique := by
  rcases ofJson_cases w with ⟨items, _, hlist⟩ | ⟨_, hsingle⟩
  · rw [hlist, encode, List.map_map]
    exact Json.unique_list_map fun v _ => Literal.unique_encode v
  · rw [hsingle]
    exact Literal.unique_encode w

namespace Request

variable {src : Source} {d : Draft} {r : Request}

theorem unique_encode (h : Request.decode src d = .ok r) : r.encode.Unique := by
  have hfilters : (Json.list (r.filters.map Filter.encode)).Unique := by
    refine Json.unique_list_map fun f hf => .record (by simp) ?_
    have hoperand : (Json.ofOption Operand.encode f.operand).Unique := by
      refine Json.unique_ofOption fun o ho => ?_
      obtain ⟨_, _, _, w, _, _, _, _, _, rfl⟩ := exists_operand h hf ho
      exact Operand.unique_encode w
    simp only [List.forall_mem_cons]
    exact ⟨.text _, .text _, hoperand, by simp⟩
  refine .record (by simp) ?_
  simp only [List.forall_mem_cons]
  exact ⟨.text _, Json.unique_list_map fun m _ => m.unique_encode,
    Json.unique_list_map fun d _ => d.unique_encode, hfilters,
    Json.unique_list_map fun o _ => o.unique_encode,
    Json.unique_ofOption fun w _ => w.unique_encode, Json.unique_ofOption fun n _ => .number _,
    Json.unique_ofOption fun n _ => .number _, Json.unique_optional_text _, by simp⟩

/-- A decoded request is decoded again from what it is encoded as just if it is plain. -/
theorem decode_encode_iff_plain (h : Request.decode .text d = .ok r) :
    Request.decode .text (Draft.ofJson r.encode) = .ok r ↔ r.Plain := by
  constructor
  · intro hread
    exact plain_of_unique hread (unique_encode h)
  · intro hplain
    exact (returning_text h hplain).returns

/-! ### Requests on their way -/

/-- Only the output format is put into a request that is sent. -/
theorem compile_outgoing (format : String) (r : Request) (timeColumn : String) :
    (outgoing format r).compile timeColumn = r.compile timeColumn := by
  unfold outgoing
  split <;> rfl

theorem Returning.outgoing (h : r.Returning src) (format : String) :
    (outgoing format r).Returning src := by
  unfold CommandLine.outgoing
  split
  · exact ⟨h.range, h.operand⟩
  · exact h

theorem mem_numbers_outgoing (format : String) {n : Json.Number} :
    n ∈ (outgoing format r).encode.numbers ↔ n ∈ r.encode.numbers := by
  rw [mem_numbers_encode, mem_numbers_encode]
  unfold outgoing
  split <;> rfl

end Request

/-- What a client read from a text and sends on is read by the server and compiled as the client
compiles it, provided that no literal is disguised and the doubles survive. -/
theorem resent_request_compiles_alike {s : String} {r : Request} (h : Request.ofText s = .ok r)
    (hplain : r.Plain)
    (hdoubles : ∀ x : Float, .float x ∈ r.encode.numbers → (Json.Number.float x).Survives)
    (format : String) :
    ∃ sent : Request,
      Json.decodeLeading Request.decode (outgoing format r).encode.compact = .ok sent ∧
      (∀ (bodyLimit : Nat) (m : Http.Request), m.holdsJson = true →
        m.body = (outgoing format r).encode.compact → m.body.utf8ByteSize ≤ bodyLimit →
          Http.Request.decode bodyLimit m = .ok sent) ∧
      ∀ timeColumn : String, sent.compile timeColumn = r.compile timeColumn := by
  have hreturning := (Request.returning_text (Request.decode_of_ofText h) hplain).outgoing format
  have hnumbers : ∀ n ∈ (outgoing format r).encode.numbers, n.Survives := fun n hn =>
    Request.survives_of_ofText h hdoubles n ((Request.mem_numbers_outgoing format).mp hn)
  have hread := (Request.decode_compact hreturning hnumbers).2
  refine ⟨outgoing format r, hread, fun bodyLimit m hjson hbody hsize => ?_,
    Request.compile_outgoing format r⟩
  rw [hbody] at hsize
  unfold Http.Request.decode
  rw [hjson, hbody, hread]
  exact if_neg (Nat.not_lt.mpr hsize)

/-- Members may be repeated where nothing reads them, and the double survives. -/
theorem resent_request_compiles_alike_repeated :
    ∃ r sent : Request,
      Request.ofText
        "[\"t\",[[\"x\"]],[],[[\"In\",\"a\",\x7b\"value\":2.5,\"x\":0,\"x\":1\x7d]]]" = .ok r ∧
      Json.decodeLeading Request.decode (outgoing "csv" r).encode.compact = .ok sent ∧
      ∀ timeColumn : String, sent.compile timeColumn = r.compile timeColumn := by
  have hresend {s : String} {r : Request} (h : Request.ofText s = .ok r) (hplain : r.Plain)
      (hdoubles : ∀ x : Float, .float x ∈ r.encode.numbers → (Json.Number.float x).Survives) :
      ∃ r sent : Request,
        Request.ofText s = .ok r ∧
        Json.decodeLeading Request.decode (outgoing "csv" r).encode.compact = .ok sent ∧
        ∀ timeColumn : String, sent.compile timeColumn = r.compile timeColumn := by
    obtain ⟨sent, hread, _, hcompile⟩ := resent_request_compiles_alike h hplain hdoubles "csv"
    exact ⟨r, sent, h, hread, hcompile⟩
  refine hresend (r := {
    table := "t"
    measures := [⟨"x", .count, none⟩]
    filters := [⟨.isIn, "a", some (.single (.typed (.number (.float 2.5)) none))⟩] }) ?_ ?_ ?_
  · decide +kernel
  · decide +kernel
  · intro x hx
    cases List.mem_singleton.mp hx
    decide +kernel

/-- A literal that repeats its value is bare where the text is read, and typed where it was sent. -/
theorem disguised_literal_compiles_apart :
    ∃ (r sent : Request) (why : Rejection) (statement : Statement),
      Request.ofText
        "[\"t\",[[\"x\"]],[],[[\"Equals\",\"a\",\x7b\"value\":1,\"value\":2\x7d]]]" = .ok r ∧
      Json.decodeLeading Request.decode (outgoing "table" r).encode.compact = .ok sent ∧
      r.compile Request.defaultTimeColumn = .error why ∧
      sent.compile Request.defaultTimeColumn = .ok statement ∧
      statement.sql = "SELECT COUNT(x) FROM t WHERE a = ?" ∧ statement.params = [.integer 2] := by
  refine ⟨{
    table := "t"
    measures := [⟨"x", .count, none⟩]
    filters := [⟨.equals, "a", some (.single (.bare (.record [("value", .number (.int 2))])))⟩] }, {
    table := "t"
    measures := [⟨"x", .count, none⟩]
    filters := [⟨.equals, "a", some (.single (.typed (.number (.int 2)) none))⟩] },
    .uncompilable (.invalidLiteral "a" .string (.record [("value", .number (.int 2))])), {
    projections := [.measure .count "x" none]
    table := "t"
    predicates := [.compare "a" .eq (.integer 2)]
    sorting := []
    limit := none
    offset := none }, ?_, ?_, ?_⟩
  · decide +kernel
  · rw [Json.decodeLeading_compact _ (by decide +kernel)]
    decide +kernel
  · decide +kernel

end Rollup

import Rollup.Proofs.Statement.Compiled
/-!
Acceptance. Which requests have a statement, and why the others have none: all that is wrong with
a request is listed part by part, and the first fault of the list is the one reported.
-/
namespace Rollup

open Fallible

/-! ### Faults, part by part -/

/-- The template of a dimension of time that is truncated stands between quotes, and has no
character that may not stand there. -/
def Dimension.FormatAllowed (d : Dimension) : Prop :=
  d.kind = .time → d.interval.isSome →
    ∀ c ∈ d.effectiveFormat.toList, c ≠ '\'' ∧ c ≠ '\\' ∧ c ≠ ';'

instance (d : Dimension) : Decidable d.FormatAllowed :=
  @instDecidableForall _ _ inferInstance
    (@instDecidableForall _ _ inferInstance (List.decidableBAll _ d.effectiveFormat.toList))

def Dimension.faults (d : Dimension) : List CompileError :=
  faultUnless d.FormatAllowed (.invalidFormat d.field d.effectiveFormat)

/-- How many literals a filter takes. -/
inductive Arity where
  /-- One, and not in a list. -/
  | single
  | pair
  /-- At least one. -/
  | several
  deriving Repr, DecidableEq

/-- The unrecognized kind takes no literals, and has any it is given. -/
def FilterKind.arity? : FilterKind → Option Arity
  | equals | notEquals | greaterThan | greaterThanOrEquals | lessThan | lessThanOrEquals
  | contains | startsWith | endsWith => some .single
  | between => some .pair
  | isIn | notIn => some .several
  | unrecognized => none

namespace Filter

def shapeFaults (f : Filter) : Arity → Operand → List CompileError
  | .single, .single _ => []
  | .single, .list ls => [.unexpectedValueList f.field f.kind ls.length]
  | .pair, o => faultUnless (o.literals.length = 2) (.betweenArity f.field o.literals.length)
  | .several, o => faultUnless (o.literals ≠ []) (.emptyValueList f.field f.kind)

/-- The tag under which a literal is read: searches read every literal as a text. -/
def tagOf (f : Filter) (l : Literal) : Tag :=
  match f.kind with
  | .contains | .startsWith | .endsWith => .string
  | _ => l.tag

def literalFaults (f : Filter) (l : Literal) : List CompileError :=
  match f.convert l with
  | .ok _ => []
  | .error _ => [.invalidLiteral f.field (f.tagOf l) l.value]

/-- A missing operand first, then its shape, then its literals in their order. -/
def faults (f : Filter) : List CompileError :=
  match f.kind.arity?, f.operand with
  | none, _ => []
  | some _, none => [.missingOperand f.field f.kind]
  | some arity, some o => f.shapeFaults arity o ++ o.literals.flatMap f.literalFaults

end Filter

/-- The direction is not given, blank, or one of the two in any case and between any blanks. -/
def Order.DirectionKnown (o : Order) : Prop :=
  ∀ name ∈ o.direction, Text.allBlank name = true ∨
    Text.sameAsciiFold (Text.trim name) "asc" = true ∨
    Text.sameAsciiFold (Text.trim name) "desc" = true

instance (o : Order) : Decidable o.DirectionKnown := by
  unfold Order.DirectionKnown; infer_instance

def Order.faults (o : Order) : List CompileError :=
  faultUnless o.DirectionKnown (.invalidDirection o.field (o.direction.getD ""))

def PageBound.faults (bound : PageBound) (value : Option Nat) : List CompileError :=
  faultUnless (value.getD 0 ≤ PageBound.greatest) (.pageOutOfRange bound (value.getD 0))

namespace Request

def validationFaults (r : Request) : List ValidationError :=
  faultUnless (Text.trim r.table ≠ "") .missingTable ++
    faultUnless (r.measures ≠ []) .missingMeasures

def compileFaults (r : Request) : List CompileError :=
  r.dimensions.flatMap Dimension.faults ++ (r.filters.flatMap Filter.faults ++
    (r.orders.flatMap Order.faults ++ (PageBound.limit.faults r.limit ++
      PageBound.offset.faults r.offset)))

/-- All that is wrong with a request, in the order in which it is looked for. -/
def faults (r : Request) : List Rejection :=
  r.validationFaults.map .invalid ++ r.compileFaults.map .uncompilable

end Request

/-! ### The first fault is the one reported -/

theorem Dimension.projection_reports (d : Dimension) : Reports d.projection d.faults := by
  have hallowed : d.FormatAllowed ↔
      (d.unit?.isSome → ∀ c ∈ d.effectiveFormat.toList, isForbidden c = false) := by
    cases hkind : d.kind <;> simp [FormatAllowed, unit?, hkind, isForbidden, and_assoc]
  apply Reports.of_condition
  · intro h
    exact ⟨_, projection_eq_ok_iff.mpr ⟨rfl, hallowed.mp h⟩⟩
  · intro h
    rw [hallowed] at h
    unfold projection
    rw [d.bucket_eq_unit?, d.template_eq_effectiveFormat]
    cases hb : d.unit? with
    | none => simp [hb] at h
    | some unit =>
      have hany : d.effectiveFormat.toList.any isForbidden = true := by simpa [hb] using h
      simp only [hany, if_true]

namespace Filter

variable {f : Filter}

theorem ofLiteral_reports (l : Literal) (h : f.convert l = Param.ofLiteral f.field l)
    (htag : f.tagOf l = l.tag) : Reports (Param.ofLiteral f.field l) (f.literalFaults l) := by
  unfold literalFaults
  rw [h, htag]
  unfold Param.ofLiteral
  split
  · exact .answer rfl
  · split
    · exact .answer rfl
    · exact .fault rfl

theorem pattern_reports (l : Literal) {before after : String}
    (h : f.convert l = Param.pattern f.field l before after) (htag : f.tagOf l = .string) :
    Reports (Param.pattern f.field l before after) (f.literalFaults l) := by
  unfold literalFaults
  rw [h, htag]
  unfold Param.pattern
  split
  · exact .answer rfl
  · exact .fault rfl

theorem requiredOperand_of_none (h : f.operand = none) :
    f.requiredOperand = .error (.missingOperand f.field f.kind) := by
  unfold requiredOperand
  rw [h]

theorem requiredOperand_of_some {o : Operand} (h : f.operand = some o) :
    f.requiredOperand = .ok o := by
  unfold requiredOperand
  rw [h]

/-- A kind that needs an operand finds it missing before it looks at its shape. -/
theorem requiredOperand_bind_reports {k : Operand → Except CompileError Predicate} {a : Arity}
    (harity : f.kind.arity? = some a)
    (hk : ∀ o, Reports (k o) (f.shapeFaults a o ++ o.literals.flatMap f.literalFaults)) :
    Reports (f.requiredOperand >>= k) f.faults := by
  unfold faults
  rw [harity]
  cases ho : f.operand with
  | none =>
    rw [requiredOperand_of_none ho]
    exact .fault rfl
  | some o =>
    rw [requiredOperand_of_some ho]
    exact hk o

theorem singleOperand_bind_reports {k : Literal → Except CompileError Predicate}
    (harity : f.kind.arity? = some .single) (hk : ∀ l, Reports (k l) (f.literalFaults l)) :
    Reports (f.singleOperand >>= k) f.faults := by
  unfold singleOperand
  rw [bind_assoc]
  apply requiredOperand_bind_reports harity
  intro o
  cases o with
  | single l =>
    rw [show Operand.literals (.single l) = [l] from rfl, List.flatMap_singleton]
    exact hk l
  | list ls => exact .fault rfl

theorem window_reports (harity : f.kind.arity? = some .pair)
    (hliteral : ∀ l, Reports (Param.ofLiteral f.field l) (f.literalFaults l)) :
    Reports f.window f.faults := by
  apply requiredOperand_bind_reports harity
  intro o
  split
  next low high hl =>
    have hshape : f.shapeFaults .pair o = [] := faultUnless_eq_nil_iff.mpr (by rw [hl]; rfl)
    have hfaults : o.literals.flatMap f.literalFaults =
        f.literalFaults low ++ f.literalFaults high := by rw [hl]; simp
    rw [hshape, hfaults]
    exact (hliteral low).bind fun _ _ => (hliteral high).bind_ok
  next hpair =>
    have hlength : o.literals.length ≠ 2 := fun h => by
      obtain ⟨low, high, hl⟩ := List.length_eq_two.mp h
      exact hpair low high hl
    have hshape : f.shapeFaults .pair o = [.betweenArity f.field o.literals.length] :=
      faultUnless_of_not hlength
    rw [hshape]
    exact .fault rfl

theorem membership_reports {negated : Bool} (harity : f.kind.arity? = some .several)
    (hliteral : ∀ l, Reports (Param.ofLiteral f.field l) (f.literalFaults l)) :
    Reports (f.membership negated) f.faults := by
  apply requiredOperand_bind_reports harity
  intro o
  split
  next hl =>
    have hshape : f.shapeFaults .several o = [.emptyValueList f.field f.kind] :=
      faultUnless_of_not fun h => h hl
    rw [hshape]
    exact .fault rfl
  next hne =>
    have hshape : f.shapeFaults .several o = [] := faultUnless_eq_nil_iff.mpr hne
    rw [hshape]
    exact (Reports.mapM o.literals fun l _ => hliteral l).bind_ok

/-- Every kind of filter reports its first fault. -/
theorem predicate_reports (f : Filter) : Reports f.predicate f.faults := by
  cases hk : f.kind <;> simp only [predicate, hk]
  case equals | notEquals | greaterThan | greaterThanOrEquals | lessThan | lessThanOrEquals =>
    apply singleOperand_bind_reports (by rw [hk]; rfl)
    exact fun l => (ofLiteral_reports l (by simp [convert, hk]) (by simp [tagOf, hk])).bind_ok
  case contains | startsWith | endsWith =>
    apply singleOperand_bind_reports (by rw [hk]; rfl)
    exact fun l => (pattern_reports l (by simp [convert, hk]) (by simp [tagOf, hk])).bind_ok
  case between =>
    apply window_reports (by rw [hk]; rfl)
    exact fun l => ofLiteral_reports l (by simp [convert, hk]) (by simp [tagOf, hk])
  case isIn | notIn =>
    apply membership_reports (by rw [hk]; rfl)
    exact fun l => ofLiteral_reports l (by simp [convert, hk]) (by simp [tagOf, hk])
  case unrecognized =>
    have hfaults : f.faults = [] := by simp [faults, hk, FilterKind.arity?]
    rw [hfaults]
    exact .answer rfl

end Filter

theorem Direction.ofName?_isSome_iff (name : String) : (Direction.ofName? name).isSome ↔
    Text.sameAsciiFold (Text.trim name) "asc" = true ∨
      Text.sameAsciiFold (Text.trim name) "desc" = true := by
  have hfind : (Direction.ofName? name).isSome ↔
      Text.fold (Text.trim name) = "asc" ∨ Text.fold (Text.trim name) = "desc" := by
    unfold ofName?
    rw [List.find?_isSome]
    constructor
    · rintro ⟨d, _, hd⟩
      rw [← beq_iff_eq.mp hd]
      cases d <;> simp [Direction.name]
    · rintro (h | h)
      · exact ⟨.asc, by simp, by rw [h]; rfl⟩
      · exact ⟨.desc, by simp, by rw [h]; rfl⟩
  rw [hfind, Text.fold_eq_iff (by decide), Text.fold_eq_iff (by decide)]

theorem Order.direction_reports (o : Order) : Reports o.direction? o.faults := by
  unfold direction?
  apply Reports.of_condition
  · intro h
    cases hd : o.direction with
    | none => exact ⟨_, rfl⟩
    | some name =>
      by_cases hblank : Text.allBlank name = true
      · rw [nonBlank_of_blank hblank]
        exact ⟨_, rfl⟩
      · have hknown := (Direction.ofName?_isSome_iff name).mpr ((h name hd).resolve_left hblank)
        obtain ⟨d, hname⟩ := Option.isSome_iff_exists.mp hknown
        rw [nonBlank_of_not_blank hblank]
        exact ⟨d, by simp only [hname]⟩
  · intro h
    have hunknown : ∃ name, o.direction = some name ∧ ¬Text.allBlank name = true ∧
        Direction.ofName? name = none := by
      simpa [DirectionKnown, ← Direction.ofName?_isSome_iff] using h
    obtain ⟨name, hd, hblank, hname⟩ := hunknown
    rw [hd, nonBlank_of_not_blank hblank]
    simp only [hname, Option.getD_some]

theorem PageBound.check_reports (b : PageBound) (value : Option Nat) :
    Reports (b.check value) (b.faults value) := by
  unfold check
  cases value with
  | none => exact .answer rfl
  | some n =>
    apply Reports.of_condition
    · intro h
      exact ⟨some n, if_pos h⟩
    · intro h
      exact if_neg h

namespace Request

variable (r : Request) (timeColumn : String)

theorem validate_reports : Reports r.validate r.validationFaults := by
  have hblank := (Text.trim_eq_empty_iff r.table).symm
  unfold validate validationFaults
  by_cases htable : Text.trim r.table = ""
  · rw [if_pos (hblank.mpr htable), faultUnless_of_not (not_not.mpr htable)]
    exact .fault rfl
  · rw [if_neg (mt hblank.mp htable), faultUnless_eq_nil_iff.mpr htable, List.nil_append]
    apply Reports.of_condition
    · intro h
      exact ⟨(), by simp [h]⟩
    · intro h
      simp [not_not.mp h]

theorem statement_reports : Reports (r.statement timeColumn) r.compileFaults := by
  apply Reports.bind (Reports.mapM _ fun d _ => d.projection_reports).bind_ok
  intro columns _
  apply Reports.bind (Reports.mapM _ fun f _ => f.predicate_reports).bind_ok
  intro predicates _
  apply Reports.bind (Reports.mapM _ fun o _ => o.direction_reports.bind_ok)
  intro sorting _
  apply (PageBound.limit.check_reports r.limit).bind
  intro limit _
  exact (PageBound.offset.check_reports r.offset).bind_ok

/-- A request is compiled, or its first fault is reported. -/
theorem compile_reports : Reports (r.compile timeColumn) r.faults := by
  apply r.validate_reports.mapError.bind
  intro _ _
  exact (r.statement_reports timeColumn).mapError

end Request

/-! ### Acceptable requests -/

/-- A value with a text of its own: a string, a number or a truth value. -/
def Json.IsScalar (v : Json) : Prop :=
  (∃ s, v = .text s) ∨ (∃ n, v = .number n) ∨ ∃ b, v = .bool b

/-- A literal whose value can be read as its tag says. -/
def Literal.Convertible (field : String) (l : Literal) : Prop :=
  ∃ v, Param.ofLiteral field l = .ok v

/-- The operand of a filter suits its kind. -/
def Filter.WellFormed (f : Filter) : Prop :=
  match f.kind with
  | .equals | .notEquals | .greaterThan | .greaterThanOrEquals | .lessThan | .lessThanOrEquals =>
    ∃ l, f.operand = some (.single l) ∧ l.Convertible f.field
  | .contains | .startsWith | .endsWith => ∃ l, f.operand = some (.single l) ∧ l.value.IsScalar
  | .between =>
    ∃ o low high, f.operand = some o ∧ o.literals = [low, high] ∧
      low.Convertible f.field ∧ high.Convertible f.field
  | .isIn | .notIn =>
    ∃ o, f.operand = some o ∧ o.literals ≠ [] ∧ ∀ l ∈ o.literals, l.Convertible f.field
  | .unrecognized => True

structure Request.Acceptable (r : Request) : Prop where
  table : Text.trim r.table ≠ ""
  measures : r.measures ≠ []
  formats : ∀ d ∈ r.dimensions, d.FormatAllowed
  filters : ∀ f ∈ r.filters, f.WellFormed
  orders : ∀ o ∈ r.orders, o.DirectionKnown
  limit : ∀ n ∈ r.limit, n ≤ 9223372036854775807
  offset : ∀ n ∈ r.offset, n ≤ 9223372036854775807

theorem Param.pattern_ok_iff {field : String} {l : Literal} {before after : String} :
    (∃ v, Param.pattern field l before after = .ok v) ↔ l.value.IsScalar := by
  unfold Param.pattern Json.IsScalar
  cases l.value <;> simp [scalarText?]

namespace Filter

variable {f : Filter}

theorem literalFaults_eq_nil_iff {l : Literal} :
    f.literalFaults l = [] ↔ ∃ v, f.convert l = .ok v := by
  unfold literalFaults
  cases f.convert l <;> simp

theorem faults_eq_nil_iff_single (harity : f.kind.arity? = some .single) :
    f.faults = [] ↔ ∃ l, f.operand = some (.single l) ∧ ∃ v, f.convert l = .ok v := by
  unfold faults
  rw [harity]
  cases f.operand with
  | none => simp
  | some o => cases o <;> simp [shapeFaults, Operand.literals, literalFaults_eq_nil_iff]

theorem faults_eq_nil_iff_pair (harity : f.kind.arity? = some .pair) :
    f.faults = [] ↔ ∃ o low high, f.operand = some o ∧ o.literals = [low, high] ∧
      (∃ v, f.convert low = .ok v) ∧ ∃ v, f.convert high = .ok v := by
  unfold faults
  rw [harity]
  cases f.operand with
  | none => simp
  | some o =>
    simp only [shapeFaults, List.append_eq_nil_iff, faultUnless_eq_nil_iff,
      List.flatMap_eq_nil_iff, literalFaults_eq_nil_iff]
    constructor
    · rintro ⟨hlength, hall⟩
      obtain ⟨low, high, hl⟩ := List.length_eq_two.mp hlength
      exact ⟨o, low, high, rfl, hl, hall low (by simp [hl]), hall high (by simp [hl])⟩
    · rintro ⟨o', low, high, ho, hl, hlow, hhigh⟩
      cases ho
      simpa [hl] using ⟨hlow, hhigh⟩

theorem faults_eq_nil_iff_several (harity : f.kind.arity? = some .several) :
    f.faults = [] ↔ ∃ o, f.operand = some o ∧ o.literals ≠ [] ∧
      ∀ l ∈ o.literals, ∃ v, f.convert l = .ok v := by
  unfold faults
  rw [harity]
  cases f.operand with
  | none => simp
  | some o => simp [shapeFaults, literalFaults_eq_nil_iff]

theorem faults_eq_nil_iff (f : Filter) : f.faults = [] ↔ f.WellFormed := by
  unfold WellFormed
  cases hk : f.kind
  case equals | notEquals | greaterThan | greaterThanOrEquals | lessThan | lessThanOrEquals =>
    rw [faults_eq_nil_iff_single (by rw [hk]; rfl)]
    simp [convert, hk, Literal.Convertible]
  case contains | startsWith | endsWith =>
    rw [faults_eq_nil_iff_single (by rw [hk]; rfl)]
    simp [convert, hk, Param.pattern_ok_iff]
  case between =>
    rw [faults_eq_nil_iff_pair (by rw [hk]; rfl)]
    simp [convert, hk, Literal.Convertible]
  case isIn | notIn =>
    rw [faults_eq_nil_iff_several (by rw [hk]; rfl)]
    simp [convert, hk, Literal.Convertible]
  case unrecognized => simp [faults, hk, FilterKind.arity?]

end Filter

theorem PageBound.faults_eq_nil_iff (b : PageBound) (value : Option Nat) :
    b.faults value = [] ↔ ∀ n ∈ value, n ≤ 9223372036854775807 := by
  unfold faults
  rw [faultUnless_eq_nil_iff]
  cases value with
  | none => simp
  | some n => simp [greatest, Word.greatestSigned]

theorem Request.faults_eq_nil_iff (r : Request) : r.faults = [] ↔ r.Acceptable := by
  simp only [faults, validationFaults, compileFaults, List.append_eq_nil_iff, List.map_eq_nil_iff,
    List.flatMap_eq_nil_iff, Dimension.faults, Order.faults, faultUnless_eq_nil_iff,
    Filter.faults_eq_nil_iff, PageBound.faults_eq_nil_iff]
  constructor
  · rintro ⟨⟨table, measures⟩, formats, filters, orders, limit, offset⟩
    exact ⟨table, measures, formats, filters, orders, limit, offset⟩
  · intro h
    exact ⟨⟨h.table, h.measures⟩, h.formats, h.filters, h.orders, h.limit, h.offset⟩

/-- A request has a statement exactly when it is acceptable; otherwise its first fault, in the
order of the table, the measures, the formats, the filters, the directions, the limit and the
offset, is the error. -/
theorem compile_ok_iff_acceptable (r : Request) (timeColumn : String) :
    ((∃ s, r.compile timeColumn = .ok s) ↔ r.Acceptable) ∧
      ∀ e, r.compile timeColumn = .error e ↔ r.faults.head? = some e := by
  have hreports := r.compile_reports timeColumn
  exact ⟨hreports.ok_iff.trans r.faults_eq_nil_iff, hreports.error_iff⟩

end Rollup

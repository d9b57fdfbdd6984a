import Rollup.Proofs.Fallible
import Rollup.Proofs.Statement.Outline
/-!
Compiled statements. A statement has the outline that its request alone determines, and each of
its conditions carries a filter: the column, the operator, and the literals converted in order.
-/
namespace Rollup

open Fallible

namespace Filter

/-- A literal as the filter compares with it: a pattern in the kinds that search in texts. -/
def convert (f : Filter) (l : Literal) : Except CompileError Param :=
  match f.kind with
  | .contains => Param.pattern f.field l "%" "%"
  | .startsWith => Param.pattern f.field l "" "%"
  | .endsWith => Param.pattern f.field l "%" ""
  | _ => Param.ofLiteral f.field l

/-- The condition is the filter's: its column, its operator, and each of its literals converted. -/
structure CarriedBy (f : Filter) (p : Predicate) : Prop where
  field : p.field = f.field
  operator : p.operator = f.kind.operator
  params : List.Forall₂ (fun l v => f.convert l = .ok v) f.literals p.params

end Filter

/-! ### The steps of compiling -/

theorem Dimension.projection_eq_ok_iff {d : Dimension} {p : Projection} :
    d.projection = .ok p ↔
      p = d.column ∧ (d.unit?.isSome → ∀ c ∈ d.effectiveFormat.toList, isForbidden c = false) := by
  unfold Dimension.projection Dimension.column
  rw [d.bucket_eq_unit?, d.template_eq_effectiveFormat]
  cases d.unit? with
  | none =>
    constructor
    · intro h; cases h; exact ⟨rfl, fun hb => by cases hb⟩
    · rintro ⟨rfl, _⟩; rfl
  | some unit =>
    by_cases h : d.effectiveFormat.toList.any isForbidden = true
    · obtain ⟨c, hc, hf⟩ := List.any_eq_true.mp h
      simp only [h]
      constructor
      · intro hp; cases hp
      · rintro ⟨_, hall⟩
        rw [hall rfl c hc] at hf
        cases hf
    · have hall : ∀ c ∈ d.effectiveFormat.toList, isForbidden c = false := by simpa using h
      simp only [h]
      constructor
      · intro hp; cases hp; exact ⟨rfl, fun _ => hall⟩
      · rintro ⟨rfl, _⟩; rfl

theorem Order.sortKey_eq_ok {columns : List Projection} {o : Order} {k : SortKey}
    (h : o.sortKey columns = .ok k) : k = o.key columns := by
  obtain ⟨d, hd, h⟩ := bind_eq_ok_iff.mp h
  cases h
  unfold Order.direction? at hd
  unfold Order.key
  cases hn : nonBlank o.direction with
  | none =>
    simp only [hn] at hd
    cases hd
    rfl
  | some name =>
    simp only [hn] at hd
    cases hs : Direction.ofName? name with
    | none => simp [hs] at hd
    | some d' =>
      simp only [hs] at hd
      cases hd
      simp [hs]

theorem PageBound.check_eq_ok {b : PageBound} {v w : Option Nat} (h : b.check v = .ok w) :
    w = v := by
  unfold PageBound.check at h
  cases v with
  | none => cases h; rfl
  | some n =>
    simp only at h
    split at h <;> cases h
    rfl

namespace Filter

variable {f : Filter} {p : Predicate}

theorem requiredOperand_eq_ok {o : Operand} (h : f.requiredOperand = .ok o) :
    f.operand = some o := by
  unfold requiredOperand at h
  cases ho : f.operand <;> simp [ho] at h
  rw [h]

theorem singleOperand_eq_ok {l : Literal} (h : f.singleOperand = .ok l) :
    f.operand = some (.single l) := by
  obtain ⟨o, ho, h⟩ := bind_eq_ok_iff.mp h
  cases o <;> cases h
  exact requiredOperand_eq_ok ho

theorem comparison_eq_ok {op : Comparison} (h : f.comparison op = .ok p) :
    ∃ l v, f.operand = some (.single l) ∧ Param.ofLiteral f.field l = .ok v ∧
      p = .compare f.field op v := by
  obtain ⟨l, hl, h⟩ := bind_eq_ok_iff.mp h
  obtain ⟨v, hv, h⟩ := bind_eq_ok_iff.mp h
  cases h
  exact ⟨l, v, singleOperand_eq_ok hl, hv, rfl⟩

theorem search_eq_ok {before after : String} (h : f.search before after = .ok p) :
    ∃ l v, f.operand = some (.single l) ∧ Param.pattern f.field l before after = .ok v ∧
      p = .like f.field v := by
  obtain ⟨l, hl, h⟩ := bind_eq_ok_iff.mp h
  obtain ⟨v, hv, h⟩ := bind_eq_ok_iff.mp h
  cases h
  exact ⟨l, v, singleOperand_eq_ok hl, hv, rfl⟩

theorem window_eq_ok (h : f.window = .ok p) :
    ∃ o low high v w, f.operand = some o ∧ o.literals = [low, high] ∧
      Param.ofLiteral f.field low = .ok v ∧ Param.ofLiteral f.field high = .ok w ∧
      p = .between f.field v w := by
  obtain ⟨o, ho, h⟩ := bind_eq_ok_iff.mp h
  split at h
  next low high hl =>
    obtain ⟨v, hv, h⟩ := bind_eq_ok_iff.mp h
    obtain ⟨w, hw, h⟩ := bind_eq_ok_iff.mp h
    cases h
    exact ⟨o, low, high, v, w, requiredOperand_eq_ok ho, hl, hv, hw, rfl⟩
  next => cases h

theorem membership_eq_ok {negated : Bool} (h : f.membership negated = .ok p) :
    ∃ o vs, f.operand = some o ∧ o.literals ≠ [] ∧
      List.Forall₂ (fun l v => Param.ofLiteral f.field l = .ok v) o.literals vs ∧
      p = .inList f.field negated vs := by
  obtain ⟨o, ho, h⟩ := bind_eq_ok_iff.mp h
  split at h
  next => cases h
  next hne =>
    obtain ⟨vs, hvs, h⟩ := bind_eq_ok_iff.mp h
    cases h
    exact ⟨o, vs, requiredOperand_eq_ok ho, hne, mapM_eq_ok_iff.mp hvs, rfl⟩

/-- The condition made from a filter carries the filter and nothing else. -/
theorem carriedBy_of_predicate (h : f.predicate = .ok p) : f.CarriedBy p := by
  cases hk : f.kind <;> simp only [predicate, hk] at h
  case equals | notEquals | greaterThan | greaterThanOrEquals | lessThan | lessThanOrEquals =>
    obtain ⟨l, v, ho, hv, rfl⟩ := comparison_eq_ok h
    refine ⟨rfl, by rw [hk]; rfl, ?_⟩
    simpa [literals, convert, hk, ho, Operand.literals, Predicate.params] using hv
  case contains | startsWith | endsWith =>
    obtain ⟨l, v, ho, hv, rfl⟩ := search_eq_ok h
    refine ⟨rfl, by rw [hk]; rfl, ?_⟩
    simpa [literals, convert, hk, ho, Operand.literals, Predicate.params] using hv
  case between =>
    obtain ⟨o, low, high, v, w, ho, hl, hv, hw, rfl⟩ := window_eq_ok h
    refine ⟨rfl, by rw [hk]; rfl, ?_⟩
    simpa [literals, convert, hk, ho, hl, Predicate.params] using ⟨hv, hw⟩
  case isIn | notIn =>
    obtain ⟨o, vs, ho, _, hvs, rfl⟩ := membership_eq_ok h
    refine ⟨rfl, by rw [hk]; rfl, ?_⟩
    simpa [literals, convert, hk, ho, Predicate.params] using hvs
  case unrecognized =>
    cases h
    exact ⟨rfl, by rw [hk]; rfl, by simp [literals, hk, Predicate.params]⟩

theorem CarriedBy.condition_eq (h : f.CarriedBy p) : p.condition = f.condition := by
  unfold Predicate.condition condition
  rw [h.field, h.operator, h.params.length_eq]

end Filter

/-! ### The statement of a request -/

/-- What the statement of a request consists of, part by part. -/
structure Request.Compiled (r : Request) (timeColumn : String) (s : Statement) : Prop where
  measures : r.measures ≠ []
  projections : s.projections = r.columns
  templates : ∀ d ∈ r.dimensions, d.unit?.isSome →
    ∀ c ∈ d.effectiveFormat.toList, isForbidden c = false
  table : s.table = Text.trim r.table
  predicates : ∃ ps, List.Forall₂ Filter.CarriedBy r.filters ps ∧
    s.predicates = (r.range.map fun window => Predicate.between (r.rangeColumn timeColumn)
      (.timestamp window.first) (.timestamp window.last)).toList ++ ps
  sorting : s.sorting = r.orders.map (Order.key r.columns)
  limit : s.limit = r.limit
  offset : s.offset = r.offset

variable {r : Request} {timeColumn : String} {s : Statement}

theorem Request.projections_eq_ok {columns : List Projection} (h : r.projections = .ok columns) :
    columns = r.columns ∧
      ∀ d ∈ r.dimensions, d.unit?.isSome →
        ∀ c ∈ d.effectiveFormat.toList, isForbidden c = false := by
  obtain ⟨ds, hds, h⟩ := bind_eq_ok_iff.mp h
  cases h
  constructor
  · rw [eq_map_of_mapM hds fun d p hp => (Dimension.projection_eq_ok_iff.mp hp).1]
    rfl
  · have hall := (mapM_eq_ok_iff.mp hds).imp fun _ _ => Dimension.projection_eq_ok_iff.mp
    exact ((List.forall₂_and_left _ _).mp (hall.imp fun _ _ h => ⟨h.2, h.1⟩)).1

theorem Request.measures_ne_nil_of_validate (h : r.validate = .ok ()) : r.measures ≠ [] := by
  intro hnil
  unfold validate at h
  rw [hnil, List.isEmpty_nil, if_pos rfl] at h
  split at h <;> cases h

theorem Request.compiled_of_compile (h : r.compile timeColumn = .ok s) :
    r.Compiled timeColumn s := by
  obtain ⟨_, hvalid, h⟩ := bind_eq_ok_iff.mp h
  replace h := mapError_eq_ok_iff.mp h
  obtain ⟨columns, hcolumns, h⟩ := bind_eq_ok_iff.mp h
  obtain ⟨predicates, hpredicates, h⟩ := bind_eq_ok_iff.mp h
  obtain ⟨sorting, hsorting, h⟩ := bind_eq_ok_iff.mp h
  obtain ⟨limit, hlimit, h⟩ := bind_eq_ok_iff.mp h
  obtain ⟨offset, hoffset, h⟩ := bind_eq_ok_iff.mp h
  cases h
  obtain ⟨ps, hps, hpredicates⟩ := bind_eq_ok_iff.mp hpredicates
  cases hpredicates
  obtain ⟨rfl, templates⟩ := projections_eq_ok hcolumns
  exact {
    measures := measures_ne_nil_of_validate (mapError_eq_ok_iff.mp hvalid)
    projections := rfl
    templates := templates
    table := rfl
    predicates := by
      rw [← r.timeField_getD]
      exact ⟨ps, (mapM_eq_ok_iff.mp hps).imp fun _ _ => Filter.carriedBy_of_predicate, rfl⟩
    sorting := eq_map_of_mapM hsorting fun _ _ => Order.sortKey_eq_ok
    limit := PageBound.check_eq_ok hlimit
    offset := PageBound.check_eq_ok hoffset }

/-- No template of a statement can end the quotes that it stands between. -/
theorem Request.Compiled.template_allowed (h : r.Compiled timeColumn s) :
    ∀ p ∈ s.projections, ∀ t ∈ p.template?, ∀ c ∈ t.toList, isForbidden c = false := by
  intro p hp t ht
  rw [h.projections] at hp
  rcases List.mem_append.mp hp with hp | hp
  · obtain ⟨d, hd, rfl⟩ := List.mem_map.mp hp
    obtain ⟨unit, hunit, rfl⟩ := Option.map_eq_some_iff.mp ht
    exact h.templates d hd (by rw [hunit]; rfl)
  · obtain ⟨m, _, rfl⟩ := List.mem_map.mp hp
    cases ht

/-- The outline of a request's statement is the one that the request alone determines. -/
theorem Request.Compiled.outline_eq (h : r.Compiled timeColumn s) :
    s.outline = r.outline timeColumn := by
  obtain ⟨ps, hps, hpredicates⟩ := h.predicates
  have hfilters : ps.map Predicate.condition = r.filters.map Filter.condition :=
    map_eq_map_of_forall₂ hps fun _ _ => Filter.CarriedBy.condition_eq
  have hrange : (r.range.map fun window => Predicate.between (r.rangeColumn timeColumn)
      (.timestamp window.first) (.timestamp window.last)).toList.map Predicate.condition =
        (r.rangeCondition? timeColumn).toList := by
    unfold rangeCondition?
    cases r.range <;> rfl
  have hgroupings : s.groupings = r.dimensions.map fun d => ⟨d.field, d.unit?⟩ := by
    unfold Statement.groupings
    have hmeasures : r.measures.filterMap (Projection.grouping? ∘ Measure.projection) = [] :=
      List.filterMap_eq_nil_iff.mpr fun _ _ => rfl
    rw [h.projections, columns, List.filterMap_append, List.filterMap_map, List.filterMap_map,
      hmeasures, List.append_nil]
    exact congrFun List.filterMap_eq_map r.dimensions
  unfold Statement.outline outline
  rw [hpredicates, List.map_append, hfilters, hrange, hgroupings, h.projections, h.table, h.sorting,
    h.limit, h.offset]

end Rollup

import Rollup.Statement.Query
import Rollup.Statement.Compile
/-!
Outlines: all of a statement but the values that its conditions compare with. A statement's text
is the text of its outline, and a request has an outline whether it can be compiled or not.
-/
namespace Rollup

/-- What a condition does with its column and its operands. -/
inductive Operator where
  | compare (op : Comparison)
  | like
  | between
  | inList (negated : Bool)
  | isNull
  deriving Repr, DecidableEq

def FilterKind.operator : FilterKind → Operator
  | equals => .compare .eq
  | notEquals => .compare .ne
  | greaterThan => .compare .gt
  | greaterThanOrEquals => .compare .ge
  | lessThan => .compare .lt
  | lessThanOrEquals => .compare .le
  | contains | startsWith | endsWith => .like
  | between => .between
  | isIn => .inList false
  | notIn => .inList true
  | unrecognized => .isNull

def Predicate.operator : Predicate → Operator
  | compare _ op _ => .compare op
  | like _ _ => .like
  | between _ _ _ => .between
  | inList _ negated _ => .inList negated
  | isNull _ => .isNull

/-- A condition without the values of its operands. -/
structure Condition where
  field : String
  operator : Operator
  operands : Nat
  deriving Repr, DecidableEq

def Predicate.condition (p : Predicate) : Condition := ⟨p.field, p.operator, p.params.length⟩

structure Outline where
  projections : List Projection
  table : String
  conditions : List Condition
  groupings : List Grouping
  sorting : List SortKey
  limit : Option Nat
  offset : Option Nat
  deriving Repr, DecidableEq

/-! ### Statements and their texts -/

def Statement.outline (s : Statement) : Outline :=
  ⟨s.projections, s.table, s.predicates.map Predicate.condition, s.groupings, s.sorting, s.limit,
    s.offset⟩

def Condition.sql (c : Condition) : String :=
  match c.operator with
  | .compare op => c.field ++ " " ++ op.symbol ++ " ?"
  | .like => c.field ++ " LIKE ?"
  | .between => c.field ++ " BETWEEN ? AND ?"
  | .inList negated =>
    c.field ++ (if negated then " NOT IN (" else " IN (") ++
      ", ".intercalate (List.replicate c.operands "?") ++ ")"
  | .isNull => c.field ++ " IS NULL"

theorem Predicate.sql_eq_condition_sql (p : Predicate) : p.sql = p.condition.sql := by
  cases p with
  | inList field negated values =>
    change _ ++ ", ".intercalate (values.map fun _ => "?") ++ _ = _
    rw [List.map_const']
    rfl
  | _ => rfl

namespace Outline

def baseText (o : Outline) : String :=
  "SELECT " ++ ", ".intercalate (o.projections.map Projection.sql) ++ (" FROM " ++ o.table) ++
    clauseText " WHERE " " AND " (o.conditions.map Condition.sql) ++
    clauseText " GROUP BY " ", " (o.groupings.map Grouping.sql) ++
    clauseText " ORDER BY " ", " (o.sorting.map SortKey.sql)

def sql (o : Outline) : String := o.baseText ++ pageText o.limit o.offset

/-- The number of placeholders. -/
def operands (o : Outline) : Nat := o.conditions.foldr (fun c n => c.operands + n) 0

end Outline

namespace Statement

variable (s : Statement)

/-- The text of a statement does not depend on its parameters. -/
theorem baseText_eq_outline_baseText : s.baseText = s.outline.baseText := by
  have hconditions : s.predicates.map Predicate.sql =
      (s.predicates.map Predicate.condition).map Condition.sql := by
    rw [List.map_map]
    exact List.map_congr_left fun p _ => p.sql_eq_condition_sql
  unfold baseText whereText
  rw [hconditions]
  rfl

theorem sql_eq_outline_sql : s.sql = s.outline.sql := by
  unfold sql
  rw [baseText_eq_outline_baseText]
  rfl

theorem length_params : s.params.length = s.outline.operands := by
  unfold params Outline.operands outline
  induction s.predicates with
  | nil => rfl
  | cons p ps ih =>
    rw [List.flatMap_cons, List.length_append, List.map_cons, List.foldr_cons, ih]
    rfl

end Statement

/-! ### What a request asks for -/

namespace Filter

/-- The literals that the condition of a filter needs; the unrecognized kind needs none. -/
def literals (f : Filter) : List Literal :=
  match f.kind, f.operand with
  | .unrecognized, _ => []
  | _, some o => o.literals
  | _, none => []

def condition (f : Filter) : Condition := ⟨f.field, f.kind.operator, f.literals.length⟩

end Filter

namespace Dimension

/-- The unit that the values of a dimension are truncated to: the interval, if it is one of time. -/
def unit? (d : Dimension) : Option Calendar.Interval :=
  if d.kind = .time then d.interval else none

/-- The template that truncated values are written by: the format, unless none or a blank one is
given. -/
def effectiveFormat (d : Dimension) : String :=
  match d.format with
  | some format => if Text.allBlank format then defaultFormat else format
  | none => defaultFormat

/-- The column of a dimension, whatever its template holds. -/
def column (d : Dimension) : Projection :=
  .dimension ⟨d.field, d.unit?⟩ (d.unit?.map fun _ => d.effectiveFormat) (nonBlank d.label)

theorem bucket_eq_unit? (d : Dimension) : d.bucket = d.unit? := by
  unfold bucket unit?
  cases d.kind <;> rfl

theorem template_eq_effectiveFormat (d : Dimension) : d.template = d.effectiveFormat := by
  unfold template effectiveFormat
  cases d.format with
  | none => rfl
  | some format =>
    by_cases hblank : Text.allBlank format = true
    · rw [nonBlank_of_blank hblank]
      exact (if_pos hblank).symm
    · rw [nonBlank_of_not_blank hblank]
      exact (if_neg hblank).symm

/-- The field of the first dimension of time in a list, or a default column. -/
def firstTimeField (default : String) : List Dimension → String
  | [] => default
  | d :: ds => if d.kind = .time then d.field else firstTimeField default ds

/-- Either some dimension is the first of time, or none is of time. -/
theorem firstTimeField_cases (default : String) (ds : List Dimension) :
    (∃ front d back, ds = front ++ d :: back ∧ (∀ e ∈ front, e.kind ≠ .time) ∧ d.kind = .time ∧
      firstTimeField default ds = d.field) ∨
      (∀ d ∈ ds, d.kind ≠ .time) ∧ firstTimeField default ds = default := by
  induction ds with
  | nil => exact .inr ⟨by simp, rfl⟩
  | cons d ds ih =>
    by_cases htime : d.kind = .time
    · exact .inl ⟨[], d, ds, rfl, by simp, htime, if_pos htime⟩
    · have hnext : firstTimeField default (d :: ds) = firstTimeField default ds := if_neg htime
      rw [hnext]
      rcases ih with ⟨front, e, back, rfl, hfront, he, hfield⟩ | ⟨hnone, hfield⟩
      · exact .inl ⟨d :: front, e, back, rfl, List.forall_mem_cons.mpr ⟨htime, hfront⟩, he, hfield⟩
      · exact .inr ⟨List.forall_mem_cons.mpr ⟨htime, hnone⟩, hfield⟩

end Dimension

/-- The template of a column that has one. -/
def Projection.template? : Projection → Option String
  | .dimension _ template _ => template
  | .measure _ _ _ => none

/-- The sort key of an order; ascending unless a direction is named. -/
def Order.key (columns : List Projection) (o : Order) : SortKey :=
  ⟨orderTarget columns o.field, ((nonBlank o.direction).bind Direction.ofName?).getD .asc⟩

namespace Request

def columns (r : Request) : List Projection :=
  r.dimensions.map Dimension.column ++ r.measures.map Measure.projection

/-- The column that the window of time is about. -/
def rangeColumn (r : Request) (timeColumn : String) : String :=
  Dimension.firstTimeField timeColumn r.dimensions

theorem timeField_getD (r : Request) (timeColumn : String) :
    r.timeField.getD timeColumn = r.rangeColumn timeColumn := by
  unfold timeField rangeColumn
  induction r.dimensions with
  | nil => rfl
  | cons d ds ih =>
    by_cases htime : d.kind = .time
    · rw [List.find?_cons_of_pos (by simp [htime]), Dimension.firstTimeField, if_pos htime]
      rfl
    · rw [List.find?_cons_of_neg (by simp [htime]), Dimension.firstTimeField, if_neg htime, ih]

def rangeCondition? (r : Request) (timeColumn : String) : Option Condition :=
  r.range.map fun _ => ⟨r.rangeColumn timeColumn, .between, 2⟩

def outline (r : Request) (timeColumn : String) : Outline where
  projections := r.columns
  table := Text.trim r.table
  conditions := (r.rangeCondition? timeColumn).toList ++ r.filters.map Filter.condition
  groupings := r.dimensions.map fun d => ⟨d.field, d.unit?⟩
  sorting := r.orders.map (Order.key r.columns)
  limit := r.limit
  offset := r.offset

end Request

end Rollup

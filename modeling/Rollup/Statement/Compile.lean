import Rollup.Statement.Basic
/-!
Compiling requests into statements. The table and the measures are checked first; the first error
among formats, filters, sort directions and page bounds, in this order, decides.
-/
namespace Rollup

namespace Request

def validate (r : Request) : Except ValidationError Unit :=
  if Text.allBlank r.table then .error .missingTable
  else if r.measures.isEmpty then .error .missingMeasures
  else .ok ()

/-- The column that a time range is about if a request has no dimension of time. -/
def defaultTimeColumn : String := "creation_date"

end Request

/-- The characters that a template may not hold: it stands between quotes in the statement. -/
def isForbidden (c : Char) : Bool := c == '\'' || c == '\\' || c == ';'

namespace Dimension

def projection (d : Dimension) : Except CompileError Projection :=
  match d.bucket with
  | none => .ok (.dimension ⟨d.field, none⟩ none (nonBlank d.label))
  | some unit =>
    if d.template.toList.any isForbidden then .error (.invalidFormat d.field d.template)
    else .ok (.dimension ⟨d.field, some unit⟩ (some d.template) (nonBlank d.label))

end Dimension

def Measure.projection (m : Measure) : Projection :=
  .measure m.aggregate m.field (nonBlank m.label)

namespace Filter

/-- The operand, which every kind but the unrecognized one needs. -/
def requiredOperand (f : Filter) : Except CompileError Operand :=
  match f.operand with
  | some o => .ok o
  | none => .error (.missingOperand f.field f.kind)

/-- The operand of the kinds that compare with one value. -/
def singleOperand (f : Filter) : Except CompileError Literal := do
  match (← f.requiredOperand) with
  | .single l => .ok l
  | .list ls => .error (.unexpectedValueList f.field f.kind ls.length)

def comparison (f : Filter) (op : Comparison) : Except CompileError Predicate := do
  let l ← f.singleOperand
  return .compare f.field op (← Param.ofLiteral f.field l)

/-- A search for the literal's text between two pieces of pattern. -/
def search (f : Filter) (before after : String) : Except CompileError Predicate := do
  let l ← f.singleOperand
  return .like f.field (← Param.pattern f.field l before after)

def window (f : Filter) : Except CompileError Predicate := do
  match (← f.requiredOperand).literals with
  | [low, high] =>
    let low ← Param.ofLiteral f.field low
    let high ← Param.ofLiteral f.field high
    return .between f.field low high
  | ls => .error (.betweenArity f.field ls.length)

def membership (f : Filter) (negated : Bool) : Except CompileError Predicate := do
  match (← f.requiredOperand).literals with
  | [] => .error (.emptyValueList f.field f.kind)
  | ls => return .inList f.field negated (← ls.mapM (Param.ofLiteral f.field))

def predicate (f : Filter) : Except CompileError Predicate :=
  match f.kind with
  | .equals => f.comparison .eq
  | .notEquals => f.comparison .ne
  | .greaterThan => f.comparison .gt
  | .greaterThanOrEquals => f.comparison .ge
  | .lessThan => f.comparison .lt
  | .lessThanOrEquals => f.comparison .le
  | .contains => f.search "%" "%"
  | .startsWith => f.search "" "%"
  | .endsWith => f.search "%" ""
  | .between => f.window
  | .isIn => f.membership false
  | .notIn => f.membership true
  | .unrecognized => .ok (.isNull f.field)

end Filter

/-- The direction of an order: ascending if none or a blank one is given. -/
def Order.direction? (o : Order) : Except CompileError Direction :=
  match nonBlank o.direction with
  | none => .ok .asc
  | some name =>
    match Direction.ofName? name with
    | some d => .ok d
    | none => .error (.invalidDirection o.field name)

def Order.sortKey (columns : List Projection) (o : Order) : Except CompileError SortKey := do
  return ⟨orderTarget columns o.field, ← o.direction?⟩

def PageBound.check (bound : PageBound) (value : Option Nat) : Except CompileError (Option Nat) :=
  match value with
  | some n => if n ≤ PageBound.greatest then .ok value else .error (.pageOutOfRange bound n)
  | none => .ok none

namespace Request

/-- The columns of the result: the dimensions, then the measures. -/
def projections (r : Request) : Except CompileError (List Projection) := do
  let dimensions ← r.dimensions.mapM Dimension.projection
  return dimensions ++ r.measures.map Measure.projection

/-- The window of time as a condition on the column that it is about. -/
def rangePredicate? (r : Request) (timeColumn : String) : Option Predicate :=
  r.range.map fun range =>
    .between (r.timeField.getD timeColumn) (.timestamp range.first) (.timestamp range.last)

/-- The conditions: the window of time, then the filters. -/
def predicates (r : Request) (timeColumn : String) : Except CompileError (List Predicate) := do
  let filters ← r.filters.mapM Filter.predicate
  return (r.rangePredicate? timeColumn).toList ++ filters

def sorting (r : Request) (columns : List Projection) : Except CompileError (List SortKey) :=
  r.orders.mapM (Order.sortKey columns)

/-- The table, without the blanks around its name. -/
def tableName (r : Request) : String := Text.trim r.table

/-- The statement of a request that is valid. -/
def statement (r : Request) (timeColumn : String) : Except CompileError Statement := do
  let columns ← r.projections
  let predicates ← r.predicates timeColumn
  let sorting ← r.sorting columns
  let limit ← PageBound.limit.check r.limit
  let offset ← PageBound.offset.check r.offset
  return ⟨columns, r.tableName, predicates, sorting, limit, offset⟩

def compile (r : Request) (timeColumn : String) : Except Rejection Statement := do
  r.validate.mapError .invalid
  (r.statement timeColumn).mapError .uncompilable

end Request

end Rollup

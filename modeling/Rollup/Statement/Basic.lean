import Rollup.Statement.Param
/-!
Statements as data: what is selected from which table, under which conditions, in which order and
how many rows of it. Conditions carry the parameters they compare with, so that the text of a
statement and its parameters are two views of one thing.
-/
namespace Rollup

open Calendar (Interval)

/-- An expression to group by: a column, or a column truncated to an interval. -/
structure Grouping where
  field : String
  bucket : Option Interval := none
  deriving Repr, DecidableEq

/-- A column of the result. -/
inductive Projection where
  /-- A grouping expression, formatted if it is truncated. -/
  | dimension (expr : Grouping) (template : Option String) (label : Option String)
  | measure (aggregate : Aggregate) (field : String) (label : Option String)
  deriving Repr, DecidableEq

namespace Projection

/-- The request's field behind a column. -/
def field : Projection → String
  | dimension expr _ _ => expr.field
  | measure _ f _ => f

def label : Projection → Option String
  | dimension _ _ a => a
  | measure _ _ a => a

def grouping? : Projection → Option Grouping
  | dimension expr _ _ => some expr
  | measure _ _ _ => none

end Projection

inductive Comparison where
  | eq
  | ne
  | gt
  | ge
  | lt
  | le
  deriving Repr, DecidableEq

/-- A condition on a column, with the parameters of its placeholders. -/
inductive Predicate where
  | compare (field : String) (op : Comparison) (value : Param)
  | like (field : String) (pattern : Param)
  | between (field : String) (low high : Param)
  | inList (field : String) (negated : Bool) (values : List Param)
  | isNull (field : String)
  deriving Repr, DecidableEq

namespace Predicate

/-- The column that a condition is about. -/
def field : Predicate → String
  | compare f _ _ => f
  | like f _ => f
  | between f _ _ => f
  | inList f _ _ => f
  | isNull f => f

/-- The parameters of the placeholders, in their order. -/
def params : Predicate → List Param
  | compare _ _ v => [v]
  | like _ p => [p]
  | between _ l h => [l, h]
  | inList _ _ vs => vs
  | isNull _ => []

end Predicate

structure SortKey where
  target : String
  direction : Direction
  deriving Repr, DecidableEq

structure Statement where
  projections : List Projection
  table : String
  predicates : List Predicate := []
  sorting : List SortKey := []
  limit : Option Nat := none
  offset : Option Nat := none
  deriving Repr, DecidableEq

namespace Statement

/-- The expressions grouped by: one for each dimension, and never an alias. -/
def groupings (s : Statement) : List Grouping := s.projections.filterMap Projection.grouping?

/-- All parameters, in the order of the placeholders. -/
def params (s : Statement) : List Param := s.predicates.flatMap Predicate.params

/-- The statement without limit and offset. -/
def unpaged (s : Statement) : Statement := { s with limit := none, offset := none }

end Statement

/-- The name that sorts by a field: the alias that equals it, else the alias of the first column
made from it, else the field itself. -/
def orderTarget (columns : List Projection) (field : String) : String :=
  if columns.any fun c => c.label == some field then field
  else ((columns.find? fun c => c.field == field).bind Projection.label).getD field

end Rollup

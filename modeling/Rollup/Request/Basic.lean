import Rollup.Json.Value
import Rollup.Calendar.Interval
/-!
Analytics requests: which columns of a table to group and aggregate, which rows to keep, and how to
sort and page the result. Names of aggregates and intervals are read leniently, every name has a
meaning; a literal keeps its JSON value and, where one was given, the tag that says how to read it.
-/
namespace Rollup

open Calendar (Interval Instant)

inductive Aggregate where
  | count
  | sum
  | avg
  | min
  | max
  deriving Repr, DecidableEq, Inhabited

namespace Aggregate

def name : Aggregate → String
  | count => "count"
  | sum => "sum"
  | avg => "avg"
  | min => "min"
  | max => "max"

def all : List Aggregate := [count, sum, avg, min, max]

/-- The aggregate of a name, in any case of letters; counting for names of no aggregate. -/
def ofName (s : String) : Aggregate :=
  (all.find? fun a => a.name == Text.fold (Text.trim s)).getD count

example : ofName " Sum " = sum ∧ ofName "median" = count := by decide +kernel

end Aggregate

inductive Direction where
  | asc
  | desc
  deriving Repr, DecidableEq, Inhabited

namespace Direction

def name : Direction → String
  | asc => "asc"
  | desc => "desc"

/-- The direction of a name, in any case of letters. -/
def ofName? (s : String) : Option Direction :=
  [asc, desc].find? fun d => d.name == Text.fold (Text.trim s)

end Direction

/-- A blank text counts as not given. -/
def nonBlank (s : Option String) : Option String := s.filter fun s => !Text.allBlank s

theorem nonBlank_of_blank {s : String} (h : Text.allBlank s = true) : nonBlank (some s) = none := by
  simp [nonBlank, h]

theorem nonBlank_of_not_blank {s : String} (h : ¬Text.allBlank s = true) :
    nonBlank (some s) = some s := by
  simp [nonBlank, h]

/-- A column to aggregate. -/
structure Measure where
  field : String
  aggregate : Aggregate := .count
  label : Option String := none
  deriving Repr, DecidableEq, Inhabited

inductive DimensionKind where
  | time
  | category
  deriving Repr, DecidableEq, Inhabited

def DimensionKind.name : DimensionKind → String
  | time => "time"
  | category => "category"

def DimensionKind.ofName (s : String) : DimensionKind := if s = "time" then time else category

/-- A column to group by. -/
structure Dimension where
  field : String
  label : Option String := none
  kind : DimensionKind := .category
  interval : Option Interval := none
  format : Option String := none
  deriving Repr, DecidableEq, Inhabited

namespace Dimension

/-- The interval that values are truncated to, which only dimensions of time have. -/
def bucket (d : Dimension) : Option Interval :=
  match d.kind with
  | .time => d.interval
  | .category => none

/-- The template of truncated values that have none of their own. -/
def defaultFormat : String := "YYYY-MM-DD"

def template (d : Dimension) : String := (nonBlank d.format).getD defaultFormat

end Dimension

/-- How to read the value of a literal. -/
inductive Tag where
  | number
  | integer
  | boolean
  | date
  | timestamp
  | string
  deriving Repr, DecidableEq, Inhabited

namespace Tag

def name : Tag → String
  | number => "number"
  | integer => "integer"
  | boolean => "boolean"
  | date => "date"
  | timestamp => "timestamp"
  | string => "string"

def all : List Tag := [number, integer, boolean, date, timestamp, string]

/-- The tag of a name; text for names of no tag. -/
def ofName (s : String) : Tag := (all.find? fun t => t.name == s).getD string

end Tag

inductive Literal where
  /-- A value given under the name of a literal, with or without a tag. -/
  | typed (value : Json) (tag : Option Tag)
  /-- Any other value. -/
  | bare (value : Json)
  deriving Repr, DecidableEq, Inhabited

namespace Literal

def value : Literal → Json
  | typed v _ => v
  | bare v => v

/-- The tag that suits a value. -/
def inferTag : Json → Tag
  | .number (.int _) => .integer
  | .number (.float _) => .number
  | .bool _ => .boolean
  | _ => .string

/-- The tag given, or the one that suits the value. -/
def tag : Literal → Tag
  | typed _ (some t) => t
  | typed v none => inferTag v
  | bare v => inferTag v

end Literal

/-- What a filter compares with. -/
inductive Operand where
  | single (literal : Literal)
  | list (literals : List Literal)
  deriving Repr, DecidableEq, Inhabited

/-- The literals of an operand of either form. -/
def Operand.literals : Operand → List Literal
  | single l => [l]
  | list ls => ls

inductive FilterKind where
  | equals
  | notEquals
  | greaterThan
  | greaterThanOrEquals
  | lessThan
  | lessThanOrEquals
  | isIn
  | notIn
  | contains
  | startsWith
  | endsWith
  | between
  /-- A name of no other kind; the filter keeps the rows without a value. -/
  | unrecognized
  deriving Repr, DecidableEq, Inhabited

namespace FilterKind

def name : FilterKind → String
  | equals => "Equals"
  | notEquals => "NotEquals"
  | greaterThan => "GreaterThan"
  | greaterThanOrEquals => "GreaterThanOrEquals"
  | lessThan => "LessThan"
  | lessThanOrEquals => "LessThanOrEquals"
  | isIn => "In"
  | notIn => "NotIn"
  | contains => "Contains"
  | startsWith => "StartsWith"
  | endsWith => "EndsWith"
  | between => "Between"
  | unrecognized => "Unrecognized"

/-- The kinds that a name can stand for. -/
def named : List FilterKind :=
  [equals, notEquals, greaterThan, greaterThanOrEquals, lessThan, lessThanOrEquals, isIn, notIn,
   contains, startsWith, endsWith, between]

/-- The kind of a name, which may end in the word Filter. -/
def ofName (s : String) : FilterKind :=
  (named.find? fun k => k.name == s || k.name ++ "Filter" == s).getD unrecognized

end FilterKind

/-- A condition on the values of a column. -/
structure Filter where
  kind : FilterKind
  field : String
  operand : Option Operand := none
  deriving Repr, DecidableEq, Inhabited

structure Order where
  field : String
  direction : Option String := none
  deriving Repr, DecidableEq, Inhabited

/-- A window of time with both ends in it. -/
structure TimeRange where
  first : Instant
  last : Instant
  deriving Repr, DecidableEq

structure Request where
  table : String := ""
  measures : List Measure := []
  dimensions : List Dimension := []
  filters : List Filter := []
  orders : List Order := []
  range : Option TimeRange := none
  limit : Option Nat := none
  offset : Option Nat := none
  /-- The output format asked for, which does not bear on the statement. -/
  format : Option String := none
  deriving Repr, DecidableEq, Inhabited

/-- The field of the first dimension of time. -/
def Request.timeField (r : Request) : Option String :=
  (r.dimensions.find? fun d => d.kind == .time).map (·.field)

end Rollup

import Rollup.Statement.Basic
/-!
The text of statements, clause by clause. A clause with nothing to say is empty, and every other
one starts with a blank except the first.
-/
namespace Rollup

def Aggregate.keyword : Aggregate → String
  | count => "COUNT"
  | sum => "SUM"
  | avg => "AVG"
  | min => "MIN"
  | max => "MAX"

def Direction.keyword : Direction → String
  | asc => "ASC"
  | desc => "DESC"

def Comparison.symbol : Comparison → String
  | eq => "="
  | ne => "!="
  | gt => ">"
  | ge => ">="
  | lt => "<"
  | le => "<="

def Grouping.sql (g : Grouping) : String :=
  match g.bucket with
  | some unit => "DATE_TRUNC('" ++ unit.name ++ "', " ++ g.field ++ ")"
  | none => g.field

namespace Projection

/-- The expression of a column, without its alias. -/
def expression : Projection → String
  | dimension expr (some template) _ => "TO_CHAR(" ++ expr.sql ++ ", '" ++ template ++ "')"
  | dimension expr none _ => expr.sql
  | measure aggregate field _ => aggregate.keyword ++ "(" ++ field ++ ")"

def sql (p : Projection) : String :=
  match p.label with
  | some label => p.expression ++ " AS " ++ label
  | none => p.expression

/-- The name of a column in the result. -/
def columnName (p : Projection) : String := p.label.getD p.expression

end Projection

/-- Elements behind a heading, parted by a separator; nothing if there are no elements. -/
def clauseText (heading separator : String) (elements : List String) : String :=
  if elements.isEmpty then "" else heading ++ separator.intercalate elements

def Predicate.sql : Predicate → String
  | compare field op _ => field ++ " " ++ op.symbol ++ " ?"
  | like field _ => field ++ " LIKE ?"
  | between field _ _ => field ++ " BETWEEN ? AND ?"
  | inList field negated values =>
    field ++ (if negated then " NOT IN (" else " IN (") ++
      ", ".intercalate (values.map fun _ => "?") ++ ")"
  | isNull field => field ++ " IS NULL"

def SortKey.sql (k : SortKey) : String := k.target ++ " " ++ k.direction.keyword

/-- The text of a limit and an offset. -/
def pageText (limit offset : Option Nat) : String :=
  (match limit with
    | some n => " LIMIT " ++ toString n
    | none => "") ++
  (match offset with
    | some n => " OFFSET " ++ toString n
    | none => "")

namespace Statement

def selectText (s : Statement) : String :=
  "SELECT " ++ ", ".intercalate (s.projections.map Projection.sql)

def fromText (s : Statement) : String := " FROM " ++ s.table

def whereText (s : Statement) : String :=
  clauseText " WHERE " " AND " (s.predicates.map Predicate.sql)

def groupText (s : Statement) : String :=
  clauseText " GROUP BY " ", " (s.groupings.map Grouping.sql)

def orderText (s : Statement) : String :=
  clauseText " ORDER BY " ", " (s.sorting.map SortKey.sql)

/-- The text without limit and offset. -/
def baseText (s : Statement) : String :=
  s.selectText ++ s.fromText ++ s.whereText ++ s.groupText ++ s.orderText

def sql (s : Statement) : String := s.baseText ++ pageText s.limit s.offset

end Statement

end Rollup

import Rollup.Statement.Query
import Rollup.Store.Table
import Rollup.Store.Function
import Rollup.Store.Like
import Rollup.Store.Aggregate
/-!
Evaluating statements on a database: rows are filtered, grouped by the cells of the grouping
expressions, aggregated group by group, sorted, and paged. Conditions have three truth values, and
only rows for which they are true are kept.
-/
namespace Rollup.Store

/-- True, false, or `none` where a null makes the answer unknown. -/
abbrev Truth := Option Bool

namespace Truth

def and : Truth → Truth → Truth
  | some false, _ => some false
  | _, some false => some false
  | some true, some true => some true
  | _, _ => none

def or : Truth → Truth → Truth
  | some true, _ => some true
  | _, some true => some true
  | some false, some false => some false
  | _, _ => none

end Truth

/-! ### Expressions -/

/-- An expression over the rows of a table, and the affinity that comparisons with it have. -/
structure Expression where
  value : List Cell → Except DatabaseError Cell
  affinity : Affinity

/-- The cell at a place of a row. -/
def cellAt (i : Nat) (row : List Cell) : Cell := row[i]?.getD .null

def columnExpression (i : Nat) (c : Column) : Expression where
  value row := .ok (cellAt i row)
  affinity := c.affinity

def column (t : Table) (name : String) : Except DatabaseError Expression :=
  match t.column? name with
  | some (i, c) => .ok (columnExpression i c)
  | none => .error (.noSuchColumn name)

def groupingExpression (t : Table) (g : Grouping) : Except DatabaseError Expression := do
  let c ← column t g.field
  match g.bucket with
  | none => return c
  | some unit =>
    return ⟨fun row => do truncateCell (.text unit.name) (← c.value row), .none⟩

/-- The expression of a dimension as the result shows it. -/
def dimensionExpression (t : Table) (g : Grouping) (template : Option String) :
    Except DatabaseError Expression := do
  let e ← groupingExpression t g
  match template with
  | none => return e
  | some template => return ⟨fun row => do formatCell (← e.value row) (.text template), .none⟩

/-- The column that a condition is about: of the table, or else of the result. -/
def operandExpression (t : Table) (columns : List Projection) (name : String) :
    Except DatabaseError Expression :=
  match t.column? name with
  | some (i, c) => .ok (columnExpression i c)
  | none =>
    match columns.find? fun p => p.label.any (Text.sameAsciiFold name) with
    | some (.dimension g template _) => dimensionExpression t g template
    | some (.measure _ _ _) => .error (.aggregateAlias name)
    | none => .error (.noSuchColumn name)

/-! ### Conditions -/

/-- Whether a comparison is true of two cells in an order. -/
def holds : Comparison → Ordering → Bool
  | .eq, o => o == .eq
  | .ne, o => o != .eq
  | .gt, o => o == .gt
  | .ge, o => o != .lt
  | .lt, o => o == .lt
  | .le, o => o != .gt

/-- A comparison, unknown if either side is null. -/
def compareCells (op : Comparison) (a b : Cell) : Truth :=
  if a.isNull || b.isNull then none else some (holds op (a.order b))

/-- Whether a cell matches a pattern, unknown if either has no text. -/
def matchesPattern (c pattern : Cell) : Truth :=
  match c.asText?, pattern.asText? with
  | some s, some p => some (like p.toList s.toList)
  | _, _ => none

/-- Whether a cell equals any of some others. -/
def isAmong (c : Cell) (others : List Cell) : Truth :=
  others.foldl (fun known o => known.or (compareCells .eq c o)) (some false)

/-- The truth of a condition for the value of its column. -/
def truth (affinity : Affinity) (c : Cell) : Predicate → Truth
  | .compare _ op v => compareCells op c (affinity.adapt (.ofParam v))
  | .like _ p => matchesPattern c (.ofParam p)
  | .between _ low high =>
    (compareCells .ge c (affinity.adapt (.ofParam low))).and
      (compareCells .le c (affinity.adapt (.ofParam high)))
  | .inList _ negated vs =>
    let among := isAmong c (vs.map fun v => affinity.adapt (.ofParam v))
    if negated then among.map (!·) else among
  | .isNull _ => some c.isNull

/-- A condition whose column was found. -/
structure Condition where
  predicate : Predicate
  operand : Expression

/-- Whether all conditions are true of a row. -/
def satisfies : List Condition → List Cell → Except DatabaseError Bool
  | [], _ => .ok true
  | c :: cs, row => do
    let v ← c.operand.value row
    if truth c.operand.affinity v c.predicate = some true then satisfies cs row
    else return false

/-! ### Groups -/

/-- Rows that agree on the cells grouped by. -/
structure Group where
  key : List Cell
  rows : List (List Cell)
  deriving Repr

/-- The order of lists of cells, first difference first. -/
def orderKeys : List Cell → List Cell → Ordering
  | [], [] => .eq
  | [], _ :: _ => .lt
  | _ :: _, [] => .gt
  | a :: as, b :: bs => (a.order b).then (orderKeys as bs)

/-- Puts a row into its group, groups being sorted by their keys. -/
def addToGroups (key : List Cell) (row : List Cell) : List Group → List Group
  | [] => [⟨key, [row]⟩]
  | g :: gs =>
    match orderKeys key g.key with
    | .lt => ⟨key, [row]⟩ :: g :: gs
    | .eq => { g with rows := g.rows ++ [row] } :: gs
    | .gt => g :: addToGroups key row gs

/-- The groups of rows, by their keys. Without grouping expressions all rows, even none, are one
group. -/
def groupRows (keys : List Expression) (rows : List (List Cell)) :
    Except DatabaseError (List Group) :=
  if keys.isEmpty then .ok [⟨[], rows⟩]
  else rows.foldlM (fun groups row => do
    let key ← keys.mapM fun e => e.value row
    return addToGroups key row groups) []

/-! ### Columns of the result -/

/-- The value of a column of the result for a group. -/
abbrev GroupValue := Group → Except DatabaseError Cell

/-- The cells of an expression over the rows of a group. -/
def groupCells (e : Expression) (g : Group) : Except DatabaseError (List Cell) :=
  g.rows.mapM e.value

/-- A column of the result: its name and its value for a group. -/
structure OutputColumn where
  name : String
  value : GroupValue

/-- A dimension shows the first row of a group, of which all rows agree on it. -/
def dimensionValue (e : Expression) : GroupValue := fun g => e.value (g.rows.headD [])

def projectionColumn (t : Table) (p : Projection) : Except DatabaseError OutputColumn := do
  match p with
  | .dimension g template label => do
    let e ← dimensionExpression t g template
    let plain := match g.bucket, t.column? g.field with
      | none, some (_, c) => c.name
      | _, _ => p.columnName
    return ⟨label.getD plain, dimensionValue e⟩
  | .measure .count "*" _ =>
    return ⟨p.columnName, fun g => .ok (.integer g.rows.length)⟩
  | .measure a field _ => do
    let e ← column t field
    return ⟨p.columnName, fun g => do aggregate a (← groupCells e g)⟩

/-- The row of a group that a column outside of the groups shows: the one with the last least or
greatest value asked for, else the first. -/
def shownRow (t : Table) (columns : List Projection) (g : Group) : List Cell :=
  let first := g.rows.headD []
  let extremes := columns.filterMap fun p =>
    match p with
    | .measure .min field _ => (t.column? field).map fun (i, _) => (Ordering.lt, i)
    | .measure .max field _ => (t.column? field).map fun (i, _) => (Ordering.gt, i)
    | _ => none
  match extremes.getLast? with
  | none => first
  | some (better, i) =>
    let given := g.rows.filter fun r => !(cellAt i r).isNull
    match given with
    | [] => first
    | r :: rs => rs.foldl (fun best r =>
        if (cellAt i r).order (cellAt i best) = better then r else best) r

/-- What a sort key sorts by: a column of the result by alias or expression, or a column of the
table. -/
def sortValue (t : Table) (columns : List Projection) (outputs : List OutputColumn) (k : SortKey) :
    Except DatabaseError GroupValue :=
  let named := (columns.zip outputs).find? fun (p, _) => p.label.any (Text.sameAsciiFold k.target)
  let same := (columns.zip outputs).find? fun (p, _) => Text.sameAsciiFold p.expression k.target
  match named <|> same with
  | some (_, o) => .ok o.value
  | none => do
    let e ← column t k.target
    return fun g => e.value (shownRow t columns g)

/-! ### Statements -/

/-- A statement whose names were found in a table. -/
structure Plan where
  table : Table
  outputs : List OutputColumn
  conditions : List Condition
  sorting : List (GroupValue × Direction)
  keys : List Expression

/-- Finds the names of a statement: those selected first, then those of conditions, of sort keys and
of grouping expressions. -/
def plan (db : Database) (s : Statement) : Except DatabaseError Plan := do
  let t ← match db.table? s.table with
    | some t => pure t
    | none => .error (.noSuchTable s.table)
  let outputs ← s.projections.mapM (projectionColumn t)
  let conditions ← s.predicates.mapM fun p => do
    return Condition.mk p (← operandExpression t s.projections p.field)
  let sorting ← s.sorting.mapM fun k => do
    return (← sortValue t s.projections outputs k, k.direction)
  let keys ← s.groupings.mapM (groupingExpression t)
  return ⟨t, outputs, conditions, sorting, keys⟩

/-- The order of sort cells, each in its direction. -/
def orderSorted : List (Cell × Direction) → List (Cell × Direction) → Ordering
  | (a, d) :: as, (b, _) :: bs =>
    let o := match d with
      | .asc => a.order b
      | .desc => (a.order b).swap
    o.then (orderSorted as bs)
  | _, _ => .eq

namespace Plan

/-- The rows that satisfy all conditions. -/
def kept (p : Plan) : Except DatabaseError (List (List Cell)) :=
  p.table.rows.filterM (satisfies p.conditions)

def groups (p : Plan) : Except DatabaseError (List Group) := do
  groupRows p.keys (← p.kept)

/-- The row of the result for a group. A repeated name keeps its first place and its last value. -/
def outputRow (p : Plan) (g : Group) : Except DatabaseError Row := do
  let cells ← p.outputs.mapM fun o => do return (o.name, (← o.value g).toJson)
  return Json.merge cells

/-- The rows of the result in their order, as many of them as are needed. -/
def resultRows (p : Plan) (needed : Option Nat) : Except DatabaseError (List Row) := do
  let groups ← p.groups
  if p.sorting.isEmpty then
    let groups := match needed with
      | some n => groups.take n
      | none => groups
    groups.mapM p.outputRow
  else
    let keyed ← groups.mapM fun g => do
      let row ← p.outputRow g
      let key ← p.sorting.mapM fun (v, d) => do return (← v g, d)
      return (key, row)
    let sorted := keyed.mergeSort fun a b => orderSorted a.1 b.1 != .gt
    return sorted.map (·.2)

end Plan

/-- All rows of a statement without limit and offset. -/
def allRows (db : Database) (s : Statement) : Except DatabaseError (List Row) := do
  (← plan db s).resultRows none

/-- The rows of a statement. A limit of zero asks for none and evaluates nothing. -/
def statementRows (db : Database) (s : Statement) : Except DatabaseError (List Row) := do
  let p ← plan db s
  let skipped := s.offset.getD 0
  match s.limit with
  | none => return (← p.resultRows none).drop skipped
  | some 0 => return []
  | some n => return ((← p.resultRows (some (skipped + n))).drop skipped).take n

namespace Database

/-- The rows that a query has, a count being one row of one number. -/
def rows (db : Database) : Query → Except DatabaseError (List Row)
  | .rows s => statementRows db s
  | .count q => do
    let n ← countAll db q
    return [[("COUNT(*)", .number (.int n))]]
where
  countAll (db : Database) : Query → Except DatabaseError Nat
    | .rows s => return (← allRows db s).length
    | .count q => do
      let _ ← countAll db q
      return 1

/-- The number that a counting query answers. -/
def count (db : Database) : Query → Except DatabaseError Int
  | .count q => return (← rows.countAll db q : Nat)
  | .rows s => return (← statementRows db s).length

end Database

end Rollup.Store

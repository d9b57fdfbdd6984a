import Rollup.Store.Evaluate
/-!
Executors answer queries, in whatever way their monad allows. A database is an executor that reads
its own state.
-/
namespace Rollup

open Store (ExecutionError Row)

/-- What a service needs of a database. -/
structure Executor (m : Type → Type) where
  rows : Query → m (Except ExecutionError (List Row))
  count : Query → m (Except ExecutionError Int)
  ping : m (Except ExecutionError Unit)

/-- A database as an executor: queries read the state and leave it as it is. -/
def Store.executor : Executor (StateM Store.Database) where
  rows q := do return ((← get).rows q).mapError .database
  count q := do return ((← get).count q).mapError .database
  ping := pure (.ok ())

/-! ### The text that a database is given -/

/-- The place of the last occurrence of a part in a text, counted in characters. -/
def lastPlace? (part : List Char) : List Char → Option Nat
  | [] => if part.isEmpty then some 0 else none
  | c :: cs =>
    match lastPlace? part cs with
    | some i => some (i + 1)
    | none => if part.isPrefixOf (c :: cs) then some 0 else none

/-- The clause that a database does not accept without a limit. -/
def offsetClause : List Char := " OFFSET ".toList

/-- A text in which an offset at the end has a limit in front of it, one that limits nothing. -/
def limitOffset (cs : List Char) : List Char :=
  match lastPlace? offsetClause cs with
  | some i =>
    if (cs.drop (i + offsetClause.length)).all Char.isDigit then
      cs.take i ++ " LIMIT -1".toList ++ cs.drop i
    else cs
  | none => cs

/-- The text of a query as a database is given it. -/
def Query.executable (q : Query) : String :=
  if q.paged then q.sql else String.ofList (limitOffset q.sql.toList)

example : String.ofList (limitOffset "SELECT a FROM t OFFSET 5".toList) =
    "SELECT a FROM t LIMIT -1 OFFSET 5" := by decide +kernel

end Rollup

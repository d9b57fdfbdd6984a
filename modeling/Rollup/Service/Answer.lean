import Rollup.Service.Executor
import Rollup.Statement.Compile
import Rollup.Request.Encode
/-!
Answering requests: a request is compiled, its rows are fetched, and the rows are counted if there
is a limit. The first error ends the work.
-/
namespace Rollup

open Store (ExecutionError Row)

inductive ServiceError where
  | rejected (why : Rejection)
  | failed (why : ExecutionError)
  deriving Repr, DecidableEq

def ServiceError.message : ServiceError → String
  | rejected why => why.message
  | failed why => why.message

/-- When an answer was made and the name it was given, as texts. -/
structure Stamp where
  time : String
  identifier : String
  deriving Repr, DecidableEq

structure Answer where
  rows : List Row
  /-- The number of rows without limit and offset if there is a limit, else of the rows here. -/
  total : Nat
  query : Query
  deriving Repr, DecidableEq

/-- The rows of a query and their number. A count is asked for only if there is a limit; one below
zero means none. -/
def fetch {m : Type → Type} [Monad m] (db : Executor m) (q : Query) :
    m (Except ExecutionError Answer) := do
  match (← db.rows q) with
  | .error e => return .error e
  | .ok rows =>
    if q.paged then
      match (← db.count (.count q)) with
      | .error e => return .error e
      | .ok n => return .ok ⟨rows, n.toNat, q⟩
    else return .ok ⟨rows, rows.length, q⟩

/-- The answer to a request. -/
def Request.answer {m : Type → Type} [Monad m] (r : Request) (db : Executor m)
    (timeColumn : String) : m (Except ServiceError Answer) := do
  match r.compile timeColumn with
  | .error e => return .error (.rejected e)
  | .ok s =>
    match (← fetch db s.query) with
    | .error e => return .error (.failed e)
    | .ok a => return .ok a

/-- An answer as a value. -/
def Answer.encode (a : Answer) (stamp : Stamp) : Json :=
  .record [("data", .list (a.rows.map .record)),
    ("metadata", .record [("totalRecords", .ofNat a.total), ("generatedAt", .text stamp.time),
      ("queryId", .text stamp.identifier),
      ("stats", .record [("sql", .text a.query.sql), ("params", .text a.query.paramsText)])])]

end Rollup

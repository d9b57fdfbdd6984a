import Rollup.Http.Endpoint
import Rollup.Http.Problem
/-!
The server: every request gets a response. Methods are looked at after the path, the body after the
method, and the database after the statement.
-/
namespace Rollup

/-- Whether the rows are wanted as comma-separated values. -/
def Request.wantsCsv (r : Request) : Bool := r.format.any (Text.sameAsciiFold · "csv")

namespace Http

structure Server (m : Type → Type) where
  database : Executor m
  timeColumn : String
  /-- The greatest number of bytes in a body. -/
  bodyLimit : Nat
  version : String

/-- What differs from one request to the next. -/
structure Moment where
  stamp : Stamp
  /-- Seconds since the server started. -/
  uptime : Nat
  deriving Repr, DecidableEq

/-- The statement of a request and what its placeholders stand for. -/
def statementJson (q : Query) : Json :=
  .record [("sql", .text q.sql), ("params", Param.listToJson q.params),
    ("countSql", .text q.count.sql)]

/-- Comma-separated values to be saved under the name of a table. A name that no header can hold
fails the response. -/
def download (table identifier content : String) : Response :=
  let disposition := "attachment; filename=\"" ++ table ++ "_" ++ identifier ++ ".csv\""
  if disposition.toList.all isHeaderChar then
    ⟨200, [("content-type", "text/csv"), ("content-disposition", disposition)], content⟩
  else .plain 500 "failed to parse header value"

/-- An answer in the format that its request asks for. -/
def present (r : Rollup.Request) (a : Answer) (stamp : Stamp) : Response :=
  if r.wantsCsv then
    match Csv.ofRows a.rows with
    | .ok content => download r.table stamp.identifier content
    | .error why => (Problem.uneven why).response stamp.identifier
  else .json 200 (a.encode stamp)

namespace Server

variable {m : Type → Type} [Monad m]

def analytics (s : Server m) (stamp : Stamp) (r : Request) : m Response := do
  match r.decode s.bodyLimit with
  | .error why => return why.response
  | .ok request =>
    match (← request.answer s.database s.timeColumn) with
    | .error why => return (Problem.ofService why).response stamp.identifier
    | .ok a => return present request a stamp

def compile (s : Server m) (stamp : Stamp) (r : Request) : Response :=
  match r.decode s.bodyLimit with
  | .error why => why.response
  | .ok request =>
    match request.compile s.timeColumn with
    | .error why => (Problem.rejected why).response stamp.identifier
    | .ok statement => .json 200 (statementJson statement.query)

/-- Whether the database answers. -/
def isReady (s : Server m) : m Bool := do
  match (← s.database.ping) with
  | .ok _ => return true
  | .error _ => return false

def health (s : Server m) (uptime : Nat) : m Response := do
  let ready ← s.isReady
  return .json 200 (.record [("status", .text (if ready then "healthy" else "unhealthy")),
    ("database", .text (if ready then "ok" else "error")), ("uptime_seconds", .ofNat uptime),
    ("version", .text s.version)])

/-- The response of an endpoint. -/
def serve (s : Server m) (moment : Moment) (r : Request) : Endpoint → m Response
  | .analytics => s.analytics moment.stamp r
  | .compile => return s.compile moment.stamp r
  | .live => return ⟨200, [], ""⟩
  | .ready => return ⟨if (← s.isReady) then 200 else 503, [], ""⟩
  | .health => s.health moment.uptime

/-- The response to any request. Asking for options succeeds everywhere. -/
def respond (s : Server m) (moment : Moment) (r : Request) : m Response := do
  if r.method = "OPTIONS" then return ⟨200, [], ""⟩
  else match Endpoint.ofPath? r.path with
    | none => return ⟨404, [], ""⟩
    | some e =>
      if r.method ∈ e.methods then
        let response ← s.serve moment r e
        return if r.method = "HEAD" then { response with body := "" } else response
      else return ⟨405, [("allow", ",".intercalate e.methods)], ""⟩

end Server

end Http

end Rollup

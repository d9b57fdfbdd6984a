import Rollup.CommandLine.Report
import Rollup.CommandLine.TableView
import Rollup.Http.Server
import Rollup.Http.Status
import Rollup.Settings.Sample
/-!
Running an invocation on a host, which reads and writes files and speaks to servers. What is said
goes to the standard output, or, if something went wrong, to the standard error.
-/
namespace Rollup.CommandLine

/-- What the program needs of its surroundings. A failed operation says why. -/
structure Host (m : Type → Type) where
  standardInput : m (Except String String)
  contents : String → m (Except String String)
  /-- Writes a file, after the directories on its way were made. -/
  save : String → String → m (Except String Unit)
  /-- Sends a JSON text to an address. A failure is told with its causes. -/
  post : String → String → m (Except (List String) Http.Response)

structure Outcome where
  exitCode : Nat := 0
  output : String := ""
  errors : String := ""
  deriving Repr, DecidableEq

namespace Outcome

def saying (text : String) : Outcome := { output := text }

def failing (r : Report) : Outcome := { exitCode := 1, errors := r.text }

/-- What a wrong command line gets. -/
def misused : Outcome := { exitCode := 2 }

end Outcome

/-- What decoding a request went wrong about. -/
def decodingCause (f : Json.Failure) : String :=
  match f.problem with
  | .mismatch why => why.message
  | .fault .ended => "the text ends early"
  | .fault .malformed => "the text is not JSON"

/-- A rejection and what it is due to. -/
def rejectionCauses (why : Rejection) : List String :=
  [why.message, match why with
    | .invalid e => e.message
    | .uncompilable e => e.message]

/-- A statement shown line by line. -/
def statementText (q : Query) : String :=
  "SQL:       " ++ q.sql ++ "\nCount SQL: " ++ q.count.sql ++ "\nParams:    " ++ q.paramsText ++ "\n"

/-- A body as text, without a byte order mark in front of it. -/
def bodyText (body : String) : String :=
  match body.toList with
  | c :: cs => if c = Char.ofNat 0xFEFF then String.ofList cs else body
  | [] => body

/-- A reply in the format asked for. -/
def showReply (format : String) (reply : Http.Response) : Outcome :=
  let body := if Http.isBodiless reply.status then "" else reply.body
  if !Http.isSuccess reply.status then
    .failing ⟨"query failed (" ++ Http.statusText reply.status ++ "): " ++ bodyText body, []⟩
  else if format = "csv" then .saying (bodyText body)
  else match Json.ofText body with
    | .error _ => .failing ⟨"error decoding response body", ["the text is not JSON"]⟩
    | .ok answer =>
      if format = "json" then .saying (answer.indented 0 ++ "\n") else .saying (tableText answer)

variable {m : Type → Type} [Monad m]

/-- The text of a file, or the standard input if a hyphen stands for the file. -/
def readInput (host : Host m) (input : String) : m (Except Report String) :=
  if input = "-" then (·.mapError fun why => ⟨why, []⟩) <$> host.standardInput
  else (·.mapError fun why => ⟨"cannot read " ++ input, [why]⟩) <$> host.contents input

/-- The request that a text says. -/
def requestOfText (s : String) : Except Report Request :=
  (Request.ofText s).mapError fun f => ⟨"invalid analytics request JSON", [decodingCause f]⟩

def readRequest (host : Host m) (input : String) : m (Except Report Request) :=
  (·.bind requestOfText) <$> readInput host input

/-- Compiles a request here. -/
def runCompile (host : Host m) (format input timeColumn : String) : m Outcome := do
  match (← readRequest host input) with
  | .error report => return .failing report
  | .ok request =>
    match request.compile timeColumn with
    | .error why => return .failing ⟨"request rejected", rejectionCauses why⟩
    | .ok s =>
      if format = "json" then return .saying ((Http.statementJson s.query).indented 0 ++ "\n")
      else return .saying (statementText s.query)

/-- Where the server at an address answers requests. -/
def answerUrl (apiUrl : String) : String := apiUrl ++ Http.Endpoint.analytics.path

/-- A request as it is sent, with the output format put into it if the server is to write it. -/
def outgoing (format : String) (r : Request) : Request :=
  if format = "csv" then { r with format := some "csv" } else r

/-- Lets a server answer a request. -/
def runQuery (host : Host m) (apiUrl format input : String) : m Outcome := do
  match (← readRequest host input) with
  | .error report => return .failing report
  | .ok request =>
    match (← host.post (answerUrl apiUrl) (outgoing format request).encode.compact) with
    | .error why => return .failing ⟨"cannot connect to Analytica API at " ++ apiUrl, why⟩
    | .ok reply => return showReply format reply

/-- Writes the settings file to start from. -/
def runConfig (host : Host m) (output : Option String) : m Outcome := do
  match output with
  | none => return .saying Settings.sample
  | some path =>
    match (← host.save path Settings.sample) with
    | .error why => return .failing ⟨why, []⟩
    | .ok _ => return .saying ("Config written to " ++ Text.shownPath path ++ "\n")

def Stop.outcome : Stop → Outcome
  | .misuse => .misused
  | .version => .saying versionText
  | .help topic short => .saying (topic.text short)

/-- Runs the program with some arguments. -/
def run (host : Host m) (args : List String) : m Outcome := do
  match invocation args with
  | .error why => return why.outcome
  | .ok i =>
    match i.command with
    | .compile input timeColumn => runCompile host i.format input timeColumn
    | .query input => runQuery host i.apiUrl i.format input
    | .config output => runConfig host output

end Rollup.CommandLine

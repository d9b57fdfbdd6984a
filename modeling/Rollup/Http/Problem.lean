import Rollup.Http.Message
import Rollup.Request.Decode
import Rollup.Service.Answer
import Rollup.Csv
/-!
Why a client gets no answer: its request cannot be read, or it was read and cannot be answered.
-/
namespace Rollup.Http

/-- Why a body holds no request. -/
inductive Unreadable where
  | notJson
  | tooLarge
  | malformed
  | mismatch (path : List Json.Step) (why : Json.Mismatch)
  deriving Repr, DecidableEq

namespace Unreadable

def status : Unreadable → Nat
  | notJson => 415
  | tooLarge => 413
  | malformed => 400
  | mismatch _ _ => 422

def message : Unreadable → String
  | notJson => "Expected request with \x60Content-Type: application/json\x60"
  | tooLarge => "Failed to buffer the request body: length limit exceeded"
  | malformed => "Failed to parse the request body as JSON"
  | mismatch path why =>
    "Failed to deserialize the JSON body into the target type: " ++ Json.Failure.located path why

def response (e : Unreadable) : Response := .plain e.status e.message

end Unreadable

/-- The request in a body of at most the given number of bytes. Whatever stands behind it in the
body is left alone. -/
def Request.decode (bodyLimit : Nat) (r : Request) : Except Unreadable Rollup.Request :=
  if !r.holdsJson then .error .notJson
  else if bodyLimit < r.body.utf8ByteSize then .error .tooLarge
  else match Json.decodeLeading Rollup.Request.decode r.body with
    | .ok request => .ok request
    | .error ⟨_, .fault _⟩ => .error .malformed
    | .error ⟨path, .mismatch why⟩ => .error (.mismatch path why)

/-- Why a request has no answer. -/
inductive Problem where
  | rejected (why : Rejection)
  | failed (why : Store.ExecutionError)
  | uneven (why : Csv.UnevenRecord)
  deriving Repr, DecidableEq

namespace Problem

def ofService : ServiceError → Problem
  | .rejected why => rejected why
  | .failed why => failed why

def status : Problem → Nat
  | rejected _ => 400
  | failed _ => 500
  | uneven _ => 500

def code : Problem → String
  | rejected (.invalid _) => "VALIDATION_ERROR"
  | rejected (.uncompilable _) => "COMPILE_ERROR"
  | failed _ => "EXECUTION_ERROR"
  | uneven _ => "INTERNAL_ERROR"

def message : Problem → String
  | rejected why => why.message
  | failed why => "Execution error: " ++ why.message
  | uneven why => "Internal error: CSV write failed: " ++ why.message

/-- The answer that says why there is none, under the name of the failed request. -/
def response (p : Problem) (identifier : String) : Response :=
  .json p.status (.record [
    ("error", .record [("code", .text p.code), ("message", .text p.message)]),
    ("request_id", .text identifier)])

end Problem

end Rollup.Http

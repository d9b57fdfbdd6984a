import Rollup.Json.Printer
import Rollup.Http.MediaType
/-!
Messages between a client and the server.
-/
namespace Rollup.Http

/-- A header: its name, in any case of letters, and its value. -/
abbrev Header := String × String

structure Request where
  method : String
  /-- What is asked for: a path, perhaps with a query behind it. -/
  target : String
  headers : List Header
  body : String
  deriving Repr, DecidableEq

/-- The target up to its query. -/
def Request.path (r : Request) : String :=
  String.ofList (r.target.toList.takeWhile fun c => c != '?' && c != '#')

/-- The value of the first header of a name. -/
def Request.header? (r : Request) (name : String) : Option String :=
  (r.headers.find? fun h => Text.sameAsciiFold h.1 name).map (·.2)

/-- Whether the body says that it is JSON. -/
def Request.holdsJson (r : Request) : Bool :=
  ((r.header? "content-type").bind MediaType.ofText?).any MediaType.isJson

structure Response where
  status : Nat
  headers : List Header := []
  body : String := ""
  deriving Repr, DecidableEq

namespace Response

def json (status : Nat) (v : Json) : Response :=
  ⟨status, [("content-type", "application/json")], v.compact⟩

def plain (status : Nat) (text : String) : Response :=
  ⟨status, [("content-type", "text/plain; charset=utf-8")], text⟩

end Response

/-- Header values hold no control characters but tabs. -/
def isHeaderChar (c : Char) : Bool := c == '\t' || (decide (' ' ≤ c) && c != '\x7f')

end Rollup.Http

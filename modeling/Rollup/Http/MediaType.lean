import Rollup.Text.Fold
/-!
Media types, as a content type header names them.
-/
namespace Rollup.Http

/-- The characters of tokens. -/
def isTokenChar (c : Char) : Bool := c.isAlphanum || "!#$%&'*+-.^_`|~".toList.contains c

/-- The characters between quotes: the visible ones of ASCII and the blank. -/
def isQuotedChar (c : Char) : Bool := decide (' ' ≤ c) && decide (c ≤ '~')

/-- Where a reader of parameters stands. -/
inductive ParameterPlace where
  | start
  | name
  /-- Right behind the equals sign. -/
  | equals
  | value
  /-- Right behind the opening quote, where a second quote is content. -/
  | opened
  | quoted
  | closed
  deriving Repr, DecidableEq

/-- Whether parameters are well-formed: each a name, an equals sign and a token or a quoted text,
with semicolons between them. -/
def areParameters : ParameterPlace → List Char → Bool
  | .start, [] => true
  | .start, c :: cs =>
    if c = ' ' then areParameters .start cs else isTokenChar c && areParameters .name cs
  | .name, [] => false
  | .name, c :: cs =>
    if c = '=' then areParameters .equals cs else isTokenChar c && areParameters .name cs
  | .equals, [] => true
  | .equals, c :: cs =>
    if c = '"' then areParameters .opened cs else isTokenChar c && areParameters .value cs
  | .value, [] => true
  | .value, c :: cs =>
    if c = ';' then areParameters .start cs else isTokenChar c && areParameters .value cs
  | .opened, [] => false
  | .opened, c :: cs => isQuotedChar c && areParameters .quoted cs
  | .quoted, [] => false
  | .quoted, c :: cs =>
    if c = '"' then areParameters .closed cs else isQuotedChar c && areParameters .quoted cs
  | .closed, [] => true
  | .closed, c :: cs =>
    if c = ';' then areParameters .start cs else c == ' ' && areParameters .closed cs

/-- A media type without its parameters. -/
structure MediaType where
  main : String
  sub : String
  deriving Repr, DecidableEq

namespace MediaType

/-- The media type that a header value names. -/
def ofText? (s : String) : Option MediaType :=
  let main := s.toList.takeWhile isTokenChar
  match s.toList.dropWhile isTokenChar with
  | '/' :: rest =>
    let sub := rest.takeWhile isTokenChar
    let wellFormed := match rest.dropWhile isTokenChar with
      | [] => true
      | c :: parameters => c == ';' && !sub.isEmpty && areParameters .start parameters
    if !main.isEmpty && wellFormed then some ⟨String.ofList main, String.ofList sub⟩ else none
  | _ => none

/-- What stands in front of and behind the last plus sign, unless it is the first character. -/
def splitSuffix (cs : List Char) : List Char × Option (List Char) :=
  let suffix := (cs.reverse.takeWhile (· != '+')).reverse
  let front := cs.take (cs.length - suffix.length - 1)
  if suffix.length + 1 < cs.length then (front, some suffix) else (cs, none)

/-- Whether values of the type are written as JSON: the type itself or any with its suffix. -/
def isJson (t : MediaType) : Bool :=
  let (name, suffix) := splitSuffix t.sub.toList
  Text.sameAsciiFold t.main "application" &&
    (Text.sameAsciiFold (String.ofList name) "json" ||
      suffix.any fun s => Text.sameAsciiFold (String.ofList s) "json")

end MediaType

example : (MediaType.ofText? "Application/vnd.api+JSON; charset=\"utf-8\"").map MediaType.isJson =
    some true := by decide +kernel
example : (MediaType.ofText? "application/jsonx").map MediaType.isJson = some false := by
  decide +kernel
example : MediaType.ofText? "application/json ; a=b" = none := by decide +kernel

end Rollup.Http

import Rollup.Text.Scanner
import Rollup.Text.Hex
/-!
Quoted texts: between one pair of marks on a line, or between triple marks over several lines. Only
double quotes know escapes.
-/
namespace Rollup.Toml

/-- A kind of quoted text. -/
structure Quotes where
  mark : Char
  multiline : Bool
  deriving Repr, DecidableEq

/-- Characters that stand for themselves: all but the control characters, and the tab. -/
def isPlain (c : Char) : Bool := c == '\t' || (decide (' ' ≤ c) && c != '\x7f')

/-- Blanks inside a line. -/
def isLineBlank (c : Char) : Bool := c == ' ' || c == '\t'

/-- The character that a backslash in front of a letter or sign stands for. -/
def escaped? : Char → Option Char
  | '"' => some '"'
  | '\\' => some '\\'
  | 'b' => some '\x08'
  | 'f' => some '\x0c'
  | 'n' => some '\n'
  | 'r' => some '\r'
  | 't' => some '\t'
  | _ => none

/-- The number of digits behind a letter that announces a code point. -/
def codeLength? : Char → Option Nat
  | 'u' => some 4
  | 'U' => some 8
  | _ => none

/-- Where a reader of a quoted text stands. -/
inductive Place where
  | content
  | backslash
  /-- Inside the digits of a code point: how many are missing, and the value so far. -/
  | code (missing value : Nat)
  /-- Between a backslash and the end of its line. -/
  | lineEnd
  /-- Behind the end of such a line, where blanks and line breaks are left out. -/
  | folded
  deriving Repr, DecidableEq

/-- Three to five marks close a text over several lines; those beyond three belong to it. -/
def closing? (mark : Char) (cs : List Char) : Option (List Char × List Char) :=
  let run := min 5 (cs.takeWhile (· == mark)).length
  if 3 ≤ run then some (List.replicate (run - 3) mark, cs.drop run) else none

/-- Whether a character is the first half of a two-character line break. -/
def breaksLine (c : Char) (rest : List Char) : Bool := c == '\r' && rest.head? == some '\n'

namespace Quotes

def single (mark : Char) : Quotes := ⟨mark, false⟩
def triple (mark : Char) : Quotes := ⟨mark, true⟩

/-- The content behind opening marks, and what is behind the closing ones. -/
def read (q : Quotes) : Place → List Char → Option (List Char × List Char)
  | _, [] => none
  | .backslash, c :: cs =>
    match escaped? c, codeLength? c with
    | some d, _ => (q.read .content cs).map fun (ds, rest) => (d :: ds, rest)
    | none, some n => q.read (.code n 0) cs
    | none, none =>
      if !q.multiline then none
      else if isLineBlank c || breaksLine c cs then q.read .lineEnd cs
      else if c = '\n' then q.read .folded cs
      else none
  | .lineEnd, c :: cs =>
    if isLineBlank c || breaksLine c cs then q.read .lineEnd cs
    else if c = '\n' then q.read .folded cs
    else none
  | .code missing value, c :: cs =>
    match Text.hexValue? c with
    | none => none
    | some n =>
      let value := value * 16 + n
      if 1 < missing then q.read (.code (missing - 1) value) cs
      else if value.isValidChar then
        (q.read .content cs).map fun (ds, rest) => (Char.ofNat value :: ds, rest)
      else none
  | place, c :: cs =>
    if place = .folded && (isLineBlank c || c == '\n') then q.read .folded cs
    else if c = q.mark then
      if !q.multiline then some ([], cs)
      else match closing? q.mark (c :: cs) with
        | some (ds, rest) => some (ds, rest)
        | none => (q.read .content cs).map fun (ds, rest) => (c :: ds, rest)
    else if c = '\\' && q.mark = '"' then q.read .backslash cs
    else if c = '\r' then if q.multiline && breaksLine c cs then q.read place cs else none
    else if isPlain c || (c = '\n' && q.multiline) then
      (q.read .content cs).map fun (ds, rest) => (c :: ds, rest)
    else none

/-- The text between the marks, as a scanner behind the opening ones. -/
def scan (q : Quotes) : Text.Scanner String := fun cs =>
  (q.read .content cs).map fun (ds, rest) => (String.ofList ds, rest)

end Quotes

/-- A line break right behind opening triple marks is not content. -/
def skipFirstBreak : List Char → List Char
  | '\n' :: cs => cs
  | '\r' :: '\n' :: cs => cs
  | cs => cs

/-- A quoted text on one line. -/
def quotedOnLine : Text.Scanner String := fun cs =>
  match cs with
  | '"' :: rest => (Quotes.single '"').scan rest
  | '\'' :: rest => (Quotes.single '\'').scan rest
  | _ => none

/-- A quoted text of any kind. -/
def quoted : Text.Scanner String := fun cs =>
  match cs with
  | '"' :: '"' :: '"' :: rest => (Quotes.triple '"').scan (skipFirstBreak rest)
  | '\'' :: '\'' :: '\'' :: rest => (Quotes.triple '\'').scan (skipFirstBreak rest)
  | cs => quotedOnLine cs

example : quoted.whole? "\"\"\"\na\"\"b \\\n\n  c\"\"\"\"" = some "a\"\"b c\"" := by decide +kernel
example : quoted.whole? "\"\\u00e9\\t\"" = some "é\t" := by decide +kernel
example : quoted.whole? "'a\\'" = some "a\\" := by decide +kernel

end Rollup.Toml

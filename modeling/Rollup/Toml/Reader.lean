import Rollup.Toml.Numeral
import Rollup.Toml.Quoted
import Rollup.Toml.Table
/-!
Reading configuration files: first the lines, then the table that they make.
-/
namespace Rollup.Toml

open Text (Scanner)
open Text.Scanner

/-! ### Between values -/

/-- Blanks inside a line. -/
def lineBlanks : Scanner Unit := do
  let _ ← run isLineBlank

def lineBreak : Scanner Unit := char '\n' <|> do char '\r'; char '\n'

def comment : Scanner Unit := do
  char '#'
  let _ ← run isPlain

/-- The end of a line or of the file, perhaps behind a comment. -/
def lineEnd : Scanner Unit := do
  lineBlanks
  let _ ← optional comment
  lineBreak <|> ending

/-- Blanks, line breaks and comments. The fuel bounds their number. -/
def gapUpTo : Nat → Scanner Unit
  | 0 => return ()
  | fuel + 1 => do
    lineBlanks
    (do (lineBreak <|> comment); gapUpTo fuel) <|> return ()

/-- All blanks, line breaks and comments in front of a value in a list. -/
def gap : Scanner Unit := fun cs => gapUpTo cs.length cs

/-! ### Keys -/

def isNameChar (c : Char) : Bool := c.isAlphanum || c == '-' || c == '_'

/-- A name in quotes or without. -/
def name : Scanner String := quotedOnLine <|> do
  let cs ← run isNameChar
  if cs.isEmpty then failure else return String.ofList cs

/-- Names with points between them. The fuel bounds their number. -/
def names : Nat → Scanner (List String)
  | 0 => failure
  | fuel + 1 => do
    lineBlanks
    let n ← name
    lineBlanks
    (do char '.'; return n :: (← names fuel)) <|> return [n]

/-- One more than the greatest number of names in a key, and of brackets around a value. -/
def depthLimit : Nat := 80

/-- A dotted key with blanks around its names. -/
def key : Scanner KeyPath := do
  let ns ← names (depthLimit - 1)
  match ns.getLast? with
  | some n => return ⟨ns.dropLast, n⟩
  | none => failure

/-! ### Values -/

/-- The items of a list up to its closing bracket; a comma may stand behind the last one. -/
def items (value : Scanner Value) : Nat → Scanner (List Value)
  | 0 => failure
  | fuel + 1 => do
    gap
    (do char ']'; return []) <|> do
      let v ← value
      gap
      (do char ']'; return [v]) <|> do
        char ','
        return v :: (← items value fuel)

def list (value : Scanner Value) : Scanner Value := do
  char '['
  return .list (← fun cs => items value (cs.length + 1) cs)

/-- A key and its value, with blanks around them. -/
def pair (value : Scanner Value) : Scanner (KeyPath × Value) := do
  let k ← key
  char '='
  lineBlanks
  let v ← value
  lineBlanks
  return (k, v)

/-- The pairs of a table on one line up to its closing brace, at least one. -/
def pairs (value : Scanner Value) : Nat → Scanner (List (KeyPath × Value))
  | 0 => failure
  | fuel + 1 => do
    let p ← pair value
    (do char '}'; return [p]) <|> do
      char ','
      return p :: (← pairs value fuel)

/-- As many pairs as there are. -/
def allPairs (value : Scanner Value) : Scanner (List (KeyPath × Value)) := fun cs =>
  pairs value cs.length cs

def tableOnLine (value : Scanner Value) : Scanner Value := do
  char '{'
  lineBlanks
  let ps ← (do char '}'; return []) <|> allPairs value
  match Entries.ofPairs ps with
  | some es => return .table (settleEntries es)
  | none => failure

def quotedValue : Scanner Value := do return .text (← quoted)

/-- A value with at most so many brackets around its parts. -/
def value : Nat → Scanner Value
  | 0 => quotedValue <|> bare
  | room + 1 => quotedValue <|> list (value room) <|> tableOnLine (value room) <|> bare

/-! ### Lines -/

def entry : Scanner Line := do
  let k ← key
  char '='
  lineBlanks
  return .entry k (← value (depthLimit - 1))

def tableHeader : Scanner Line := do
  char '['
  let k ← key
  char ']'
  return .table k

def itemHeader : Scanner Line := do
  word "[["
  let k ← key
  word "]]"
  return .item k

/-- A line that says something, up to its end. -/
def line : Scanner Line := do
  let l ← itemHeader <|> tableHeader <|> entry
  lineEnd
  return l

/-- All lines that say something. The fuel bounds the number of lines. -/
def lines : Nat → Scanner (List Line)
  | 0 => failure
  | fuel + 1 => do
    lineBlanks
    if (← get).isEmpty then return []
    else match (← optional line) with
      | some l => return l :: (← lines fuel)
      | none => do
        lineEnd
        lines fuel

/-- A byte order mark at the start of a file says nothing. -/
def byteOrderMark : Scanner Unit := do
  let _ ← optional (char (Char.ofNat 0xFEFF))

def file : Scanner (List Line) := do
  byteOrderMark
  fun cs => lines (cs.length + 1) cs

/-- The table that a file says. -/
def ofText? (s : String) : Option (List (String × Value)) :=
  (whole? file s).bind tableOf?

end Rollup.Toml

import Rollup.Json.Value
import Rollup.Double.Layout
/-!
JSON text of values: the compact form without blanks, and the indented form.
-/
namespace Rollup.Json

/-- Doubles have their shortest digits, `.0` when integral, and an exponent part outside of
`1e-5` to `1e15`. -/
def numberLayout : Double.Layout where
  positional e := decide (-5 ≤ e) && decide (e ≤ 15)
  integralMark := ".0"

/-- A number; what no numeral can express is null. -/
def Number.print : Number → String
  | .int i => toString i
  | .float x => if Double.isFinite x then numberLayout.write x else "null"

/-- A hexadecimal digit, in lower case. -/
def hexDigit (n : Nat) : Char := Nat.digitChar n

/-- A character inside quotes: the two delimiters and the control characters are escaped. -/
def escapeChar (c : Char) : List Char :=
  if c = '"' then ['\\', '"']
  else if c = '\\' then ['\\', '\\']
  else if c = '\x08' then ['\\', 'b']
  else if c = '\x0c' then ['\\', 'f']
  else if c = '\n' then ['\\', 'n']
  else if c = '\r' then ['\\', 'r']
  else if c = '\t' then ['\\', 't']
  else if c.toNat < 0x20 then ['\\', 'u', '0', '0', hexDigit (c.toNat / 16), hexDigit (c.toNat % 16)]
  else [c]

/-- A text in quotes. -/
def quote (s : String) : String := String.ofList ('"' :: s.toList.flatMap escapeChar ++ ['"'])

mutual

/-- The text without any blanks. -/
def compact : Json → String
  | .null => "null"
  | .bool b => if b then "true" else "false"
  | .number n => n.print
  | .text s => quote s
  | .list items => "[" ++ ",".intercalate (compactItems items) ++ "]"
  | .record members => "\x7b" ++ ",".intercalate (compactMembers members) ++ "\x7d"

def compactItems : List Json → List String
  | [] => []
  | v :: vs => compact v :: compactItems vs

def compactMembers : List (String × Json) → List String
  | [] => []
  | (n, v) :: ms => (quote n ++ ":" ++ compact v) :: compactMembers ms

end

/-- The line break before an element at a depth. -/
def lineBreak (depth : Nat) : String := "\n" ++ String.ofList (List.replicate (2 * depth) ' ')

/-- Elements on lines of their own between brackets; brackets with nothing between them touch. -/
def bracketed (left right : String) (depth : Nat) (elements : List String) : String :=
  if elements.isEmpty then left ++ right
  else left ++ ",".intercalate (elements.map (lineBreak (depth + 1) ++ ·)) ++ lineBreak depth ++ right

mutual

/-- The text with one element a line, two blanks deeper than its container. -/
def indented (depth : Nat) : Json → String
  | .list items => bracketed "[" "]" depth (indentedItems (depth + 1) items)
  | .record members => bracketed "\x7b" "\x7d" depth (indentedMembers (depth + 1) members)
  | .null => "null"
  | .bool b => if b then "true" else "false"
  | .number n => n.print
  | .text s => quote s

def indentedItems (depth : Nat) : List Json → List String
  | [] => []
  | v :: vs => indented depth v :: indentedItems depth vs

def indentedMembers (depth : Nat) : List (String × Json) → List String
  | [] => []
  | (n, v) :: ms => (quote n ++ ": " ++ indented depth v) :: indentedMembers depth ms

end

example : compact (.list [.number (.float 1e16), .number (.float 0.00001), .text "a\n\x01"]) =
    "[1e+16,0.00001,\"a\\n\\u0001\"]" := by decide +kernel

end Rollup.Json

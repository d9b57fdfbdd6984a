import Rollup.Word
import Rollup.Json.Draft
import Rollup.Double.Reading
import Rollup.Text.Hex
/-!
Reading JSON text into drafts. Every reader takes the characters in front of it and returns what it
read together with the characters behind it; where reading stops for good there is nothing behind.
-/
namespace Rollup.Json

/-- The four blank characters of JSON. -/
def isSpace (c : Char) : Bool := c = ' ' || c = '\t' || c = '\n' || c = '\r'

/-- The characters after leading blanks. -/
def skipSpace (cs : List Char) : List Char := cs.dropWhile isSpace

/-- What a reader leaves behind it. -/
abbrev Rest := Option (List Char)

/-! ### Numerals -/

/-- Takes digits into a significand as long as it fits into sixty-four bits; also counts them. -/
def absorb : List Char → Nat → Nat × Nat
  | [], n => (n, 0)
  | c :: cs, n =>
    let next := 10 * n + Double.digitValue c
    if next ≤ Word.greatestUnsigned then
      let (m, count) := absorb cs next
      (m, count + 1)
    else (n, 0)

/-- The double of a sign, a significand and a power of ten. -/
def decimalDraft (negative : Bool) (significand : Nat) (exponent : Int) : Draft :=
  match Double.scaled? significand exponent with
  | none => .oversized
  | some x => .number (.float (if negative then -x else x))

/-- The digits of an integer: exact where sixty-four bits hold it, a double otherwise. Negative
zero is a double. -/
def integerDraft (negative : Bool) (digits : List Char) : Draft :=
  let (n, count) := absorb digits 0
  if count < digits.length then decimalDraft negative n (digits.length - count : Nat)
  else if !negative then .number (.int n)
  else if 0 < n ∧ n ≤ Word.greatestSigned + 1 then .number (.int (-(n : Int)))
  else .number (.float (-(Float.ofNat n)))

/-- A numeral whose digits are missing: it is broken, or the text ends in it. -/
def digitsMissing (cs : List Char) : Draft × Rest :=
  (.brokenWord (if cs.isEmpty then .ended else .malformed) .malformed, none)

/-- The exponent part of a numeral. -/
def readExponent (negative : Bool) (significand : Nat) (exponent : Int) (cs : List Char) :
    Draft × Rest :=
  let (down, cs) := match cs with
    | '+' :: r => (false, r)
    | '-' :: r => (true, r)
    | r => (false, r)
  let digits := cs.takeWhile Char.isDigit
  let rest := cs.dropWhile Char.isDigit
  if digits.isEmpty then digitsMissing cs
  else
    let e : Int := Double.ofDigits digits
    (decimalDraft negative significand (if down then exponent - e else exponent + e), some rest)

/-- A numeral behind its sign. A zero is not followed by another digit. -/
def readNumeral (negative : Bool) (cs : List Char) : Draft × Rest :=
  let whole := cs.takeWhile Char.isDigit
  let rest := cs.dropWhile Char.isDigit
  let (n, count) := absorb whole 0
  let carried : Int := (whole.length - count : Nat)
  match whole with
  | [] => digitsMissing cs
  | '0' :: _ :: _ => (.brokenWord .malformed .malformed, none)
  | _ =>
    match rest with
    | '.' :: cs =>
      let fraction := cs.takeWhile Char.isDigit
      let rest := cs.dropWhile Char.isDigit
      let (m, places) := absorb fraction n
      if fraction.isEmpty then digitsMissing cs
      else
        match rest with
        | 'e' :: cs => readExponent negative m (carried - places) cs
        | 'E' :: cs => readExponent negative m (carried - places) cs
        | _ => (decimalDraft negative m (carried - places), some rest)
    | 'e' :: cs => readExponent negative n carried cs
    | 'E' :: cs => readExponent negative n carried cs
    | _ => (integerDraft negative whole, some rest)

/-! ### Texts -/

/-- A text as far as it could be read. -/
inductive Scan where
  | whole (spelling : Spelling) (rest : List Char)
  | broken (strict lax : Fault)
  deriving Repr

/-- Four hexadecimal digits. -/
def hexUnit? (a b c d : Char) : Option Nat := do
  let a ← Text.hexValue? a
  let b ← Text.hexValue? b
  let c ← Text.hexValue? c
  let d ← Text.hexValue? d
  return ((a * 16 + b) * 16 + c) * 16 + d

/-- The character that a backslash in front of a letter or sign stands for. -/
def escaped? : Char → Option Char
  | '"' => some '"'
  | '\\' => some '\\'
  | '/' => some '/'
  | 'b' => some '\x08'
  | 'f' => some '\x0c'
  | 'n' => some '\n'
  | 'r' => some '\r'
  | 't' => some '\t'
  | _ => none

/-- Number of bytes of the characters in UTF-8. -/
def byteCount (cs : List Char) : Nat := cs.foldl (fun n c => n + c.utf8Size) 0

/-- The state of reading a text. -/
structure TextState where
  /-- The characters so far, last one first. -/
  done : List Char
  /-- Whether every escape so far names a character. -/
  sound : Bool
  /-- The first half of a surrogate pair whose second half must follow. -/
  half : Option Nat

namespace TextState

/-- Goes on with a character; a half pair before it stays unpaired. -/
def push (s : TextState) (c : Char) : TextState :=
  ⟨c :: s.done, s.sound && s.half.isNone, none⟩

/-- Goes on with a sixteen-bit unit of an escape, pairing surrogates. -/
def pushUnit (s : TextState) (unit : Nat) : TextState :=
  if 0xDC00 ≤ unit ∧ unit ≤ 0xDFFF then
    match s.half with
    | some high => ⟨Char.ofNat (0x10000 + (high - 0xD800) * 0x400 + (unit - 0xDC00)) :: s.done,
        s.sound, none⟩
    | none => { s with sound := false }
  else if 0xD800 ≤ unit ∧ unit ≤ 0xDBFF then
    ⟨s.done, s.sound && s.half.isNone, some unit⟩
  else s.push (Char.ofNat unit)

/-- The text at the closing quote. -/
def finish (s : TextState) : Spelling :=
  if s.sound && s.half.isNone then .ok (String.ofList s.done.reverse) else .error .malformed

/-- Reading stops with a fault; an earlier unsound escape counts first in a strict reading. -/
def stop (s : TextState) (fault : Fault) : Scan :=
  .broken (if s.sound then fault else .malformed) fault

end TextState

/-- A text behind its opening quote. -/
def readText (s : TextState) : List Char → Scan
  | [] => s.stop .ended
  | '"' :: rest => .whole s.finish rest
  | '\\' :: 'u' :: a :: b :: c :: d :: rest =>
    match hexUnit? a b c d with
    | some unit => readText (s.pushUnit unit) rest
    | none => s.stop .malformed
  | '\\' :: 'u' :: rest => s.stop (if byteCount rest < 4 then .ended else .malformed)
  | '\\' :: c :: rest =>
    match escaped? c with
    | some c => readText (s.push c) rest
    | none => s.stop .malformed
  | ['\\'] => s.stop .ended
  | c :: rest => if c.toNat < 0x20 then s.stop .malformed else readText (s.push c) rest

/-- The text behind an opening quote, from its start. -/
def scanText (cs : List Char) : Scan := readText ⟨[], true, none⟩ cs

/-! ### Values -/

/-- The rest of the name of a constant, whose first letter was read. -/
def readName (value : Draft) : List Char → List Char → Draft × Rest
  | [], rest => (value, some rest)
  | _ :: _, [] => (.brokenWord .ended .ended, none)
  | n :: ns, c :: cs => if c = n then readName value ns cs else (.brokenWord .malformed .malformed, none)

/-- A list or record read up to an ending, and what is behind it. -/
structure Body (α : Type) where
  elements : List α
  ending : Ending
  rest : Rest

namespace Body

def closed {α : Type} (rest : List Char) : Body α := ⟨[], .closed, some rest⟩

/-- Reading stops at the end of the text or at a character out of place. -/
def broken {α : Type} (afterComma : Bool) (cs : List Char) : Body α :=
  let fault := if cs.isEmpty then Fault.ended else .malformed
  ⟨[], .broken afterComma fault fault, none⟩

def cons {α : Type} (x : α) (b : Body α) : Body α := { b with elements := x :: b.elements }

end Body

mutual

/-- One value. The fuel bounds the number of values, elements and brackets read. -/
def readValue : Nat → List Char → Draft × Rest
  | 0, _ => (.absent .ended, none)
  | fuel + 1, cs =>
    match skipSpace cs with
    | [] => (.absent .ended, none)
    | 'n' :: r => readName .null ['u', 'l', 'l'] r
    | 't' :: r => readName (.bool true) ['r', 'u', 'e'] r
    | 'f' :: r => readName (.bool false) ['a', 'l', 's', 'e'] r
    | '-' :: r => readNumeral true r
    | '"' :: r =>
      match scanText r with
      | .whole s rest => (.text s, some rest)
      | .broken strict lax => (.brokenText strict lax, none)
    | '[' :: r =>
      match skipSpace r with
      | ']' :: rest => (.list [] .closed, some rest)
      | [] => (.list [] (.broken false .ended .ended), none)
      | r =>
        let b := readItem fuel r
        (.list b.elements b.ending, b.rest)
    | '{' :: r =>
      match skipSpace r with
      | '}' :: rest => (.record [] .closed, some rest)
      | [] => (.record [] (.broken false .ended .ended), none)
      | '"' :: r =>
        let b := readMember fuel false r
        (.record b.elements b.ending, b.rest)
      | r => (.misnamed (readValue fuel r).1, none)
    | c :: r => if c.isDigit then readNumeral false (c :: r) else (.absent .malformed, none)

/-- An item of a list and the items after it. -/
def readItem : Nat → List Char → Body Draft
  | 0, _ => ⟨[], .broken false .ended .ended, none⟩
  | fuel + 1, cs =>
    match readValue fuel cs with
    | (d, none) => ⟨[d], .broken false .malformed .malformed, none⟩
    | (d, some r) =>
      .cons d <| match skipSpace r with
        | ']' :: rest => .closed rest
        | ',' :: r =>
          match skipSpace r with
          | [] => .broken true []
          | ']' :: r => .broken true (']' :: r)
          | r => readItem fuel r
        | r => .broken false r

/-- A member of a record, behind the opening quote of its name, and the members after it. -/
def readMember : Nat → Bool → List Char → Body (Spelling × Draft)
  | 0, _, _ => ⟨[], .broken false .ended .ended, none⟩
  | fuel + 1, afterComma, cs =>
    match scanText cs with
    | .broken strict lax => ⟨[], .broken afterComma strict lax, none⟩
    | .whole name r =>
      match skipSpace r with
      | ':' :: r =>
        match readValue fuel r with
        | (d, none) => ⟨[(name, d)], .broken false .malformed .malformed, none⟩
        | (d, some r) =>
          .cons (name, d) <| match skipSpace r with
            | '}' :: rest => .closed rest
            | ',' :: r =>
              match skipSpace r with
              | '"' :: r => readMember fuel true r
              | r => .broken true r
            | r => .broken false r
      | r => ⟨[(name, .absent (if r.isEmpty then .ended else .malformed))],
          .broken false .malformed .malformed, none⟩

end

/-- A text as a draft, and whether only blanks follow the value. -/
def readDraft (s : String) : Draft × Bool :=
  let cs := s.toList
  match readValue (2 * cs.length + 2) cs with
  | (d, some rest) => (d, (skipSpace rest).isEmpty)
  | (d, none) => (d, true)

/-- Levels of brackets that a strict reading enters. -/
def maximalDepth : Nat := 127

/-- The value that a text says, read strictly to its end. -/
def ofText (s : String) : Except Fault Json := do
  let (d, clean) := readDraft s
  let v ← d.strict (some maximalDepth)
  if clean then return v.settle else .error .malformed

example : (ofText "[1, -0, 2e3, \"\\ud83d\\ude00\"]").toOption = some
    (.list [.number (.int 1), .number (.float (-0.0)), .number (.float 2000.0), .text "😀"]) := by
  decide +kernel
example : (ofText "\x7b\"a\":1,\"b\":2,\"a\":3\x7d").toOption = some
    (.record [("a", .number (.int 3)), ("b", .number (.int 2))]) := by decide +kernel

end Rollup.Json

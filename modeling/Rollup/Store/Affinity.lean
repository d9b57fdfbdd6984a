import Rollup.Store.Cell
/-!
Affinities: the kind of value that a column prefers. Values are converted when they are stored and
when a column is compared with a parameter, if nothing is lost by it.
-/
namespace Rollup.Store

/-! ### Numerals in texts -/

/-- The blanks around a numeral. -/
def isAsciiBlank (c : Char) : Bool := c = ' ' || (9 ≤ c.toNat && c.toNat ≤ 13)

/-- The longest numeral that a text starts with, and what follows it. A point or an exponent makes
it a real. -/
def scanNumeral (cs : List Char) : Option (Cell × List Char) :=
  let (sign, cs) : Int × List Char := match cs with
    | '-' :: r => (-1, r)
    | '+' :: r => (1, r)
    | r => (1, r)
  let whole := cs.takeWhile Char.isDigit
  let rest := cs.dropWhile Char.isDigit
  let (fraction, hasPoint, rest) := match rest with
    | '.' :: r => (r.takeWhile Char.isDigit, true, r.dropWhile Char.isDigit)
    | r => ([], false, r)
  if whole = [] ∧ fraction = [] then none
  else
    let (exponent, hasExponent, rest) : Int × Bool × List Char := match rest with
      | e :: r =>
        if e = 'e' ∨ e = 'E' then
          let (down, r') := match r with
            | '-' :: r => (true, r)
            | '+' :: r => (false, r)
            | r => (false, r)
          let digits := r'.takeWhile Char.isDigit
          if digits = [] then (0, false, e :: r)
          else
            let n : Int := Double.ofDigits digits
            (if down then -n else n, true, r'.dropWhile Char.isDigit)
        else (0, false, e :: r)
      | [] => (0, false, [])
    let n := Double.ofDigits (whole ++ fraction)
    let x := Double.nearest ⟨n, exponent - (fraction.length : Int)⟩
    let signed := if sign < 0 then -x else x
    if !hasPoint && !hasExponent && decide (Word.IsSigned (sign * (n : Int))) then
      some (.integer (sign * (n : Int)), rest)
    else some (.real signed, rest)

/-- The number that a whole text is, blanks around it aside. -/
def numberOfText? (s : String) : Option Cell :=
  match scanNumeral (s.toList.dropWhile isAsciiBlank) with
  | some (n, rest) => if rest.all isAsciiBlank then some n else none
  | none => none

/-- The number that a text starts with, as a real; zero if it starts with none. -/
def leadingReal (s : String) : Float :=
  match scanNumeral (s.toList.dropWhile isAsciiBlank) with
  | some (.integer i, _) => Float.ofInt i
  | some (.real x, _) => x
  | _ => 0.0

/-- The integer that a real is exactly, if a column can hold it. -/
def integerOfReal? (x : Float) : Option Int :=
  if Double.isFinite x then
    let m := Double.magnitude x
    let n : Int := m.numerator / m.denominator
    let i := if Double.isNegative x then -n else n
    let greatest : Int := Word.greatestSigned
    if m.numerator % m.denominator = 0 ∧ -greatest ≤ i ∧ i < greatest then some i else none
  else none

/-! ### Texts of numbers -/

/-- A real to fifteen digits: zeros at the end are dropped except one behind the point, and an
exponent part of at least two digits is written below `1e-4` and from `1e15` on. -/
def realText (x : Float) : String :=
  if !Double.isFinite x then (if Double.isNegative x then "-Inf" else "Inf")
  else
    let m := Double.magnitude x
    if m.significand = 0 then "0.0"
    else
      let e := m.decimalExponent
      let k := e - 14
      let rounded := Double.roundHalfEven (m.numerator * Double.tenTo (-k).toNat)
        (m.denominator * Double.tenTo k.toNat)
      let d := (⟨rounded, k⟩ : Double.Decimal).dropZeros 16
      let digits := toString d.digits
      let first := d.exponent + (digits.length : Int) - 1
      let sign := if Double.isNegative x then "-" else ""
      if first < -4 ∨ 14 < first then
        let mantissa := match digits.toList with
          | [c] => c.toString ++ ".0"
          | c :: cs => c.toString ++ "." ++ String.ofList cs
          | [] => ""
        let exponent := toString first.natAbs
        sign ++ mantissa ++ (if first < 0 then "e-" else "e+") ++
          Double.zeros (2 - exponent.length) ++ exponent
      else sign ++ Double.positionalText ".0" digits first

namespace Cell

/-- The text of a cell, where it has one. -/
def asText? : Cell → Option String
  | null => none
  | integer i => some (toString i)
  | real x => some (realText x)
  | text s => some s
  | blob bytes => some (String.ofList (Text.decodeBytes bytes))

/-- A text that is a number becomes that number. -/
def toNumber : Cell → Cell
  | text s => (numberOfText? s).getD (text s)
  | c => c

/-- A number becomes its text. -/
def numberToText : Cell → Cell
  | integer i => text (toString i)
  | real x => text (realText x)
  | c => c

/-- A real that is exactly an integer becomes that integer. -/
def realToInteger : Cell → Cell
  | real x => ((integerOfReal? x).map integer).getD (real x)
  | c => c

/-- An integer becomes the nearest real. -/
def integerToReal : Cell → Cell
  | integer i => real (Float.ofInt i)
  | c => c

end Cell

inductive Affinity where
  | text
  | numeric
  | integer
  | real
  | none
  deriving Repr, DecidableEq

namespace Affinity

/-- Whether a text occurs in another one. -/
def occursIn (part : List Char) : List Char → Bool
  | [] => part.isEmpty
  | c :: cs => part.isPrefixOf (c :: cs) || occursIn part cs

/-- The affinity of a column's declared type, by the words in it. -/
def ofDeclaration (declared : String) : Affinity :=
  let name := (declared.map Char.toUpper).toList
  let has (part : String) : Bool := occursIn part.toList name
  if has "INT" then integer
  else if has "CHAR" || has "CLOB" || has "TEXT" then text
  else if has "BLOB" || name.isEmpty then none
  else if has "REAL" || has "FLOA" || has "DOUB" then real
  else numeric

/-- A value as a column stores it. -/
def store : Affinity → Cell → Cell
  | text, c => c.numberToText
  | numeric, c => c.toNumber.realToInteger
  | integer, c => c.toNumber.realToInteger
  | real, c => c.toNumber.integerToReal
  | none, c => c

/-- A parameter as a column is compared with it. -/
def adapt : Affinity → Cell → Cell
  | text, c => c.numberToText
  | numeric, c => c.toNumber
  | integer, c => c.toNumber
  | real, c => c.toNumber
  | none, c => c

end Affinity

example : realText 1e20 = "1.0e+20" ∧ realText 0.1 = "0.1" := by decide +kernel
example : Affinity.integer.store (.text " 7 ") = .integer 7 := by decide +kernel

end Rollup.Store

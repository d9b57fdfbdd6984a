import Rollup.Double.Shortest
/-!
Reading numbers. A numeral is a run of digits with an optional point and exponent; its value is
either the double nearest to the exact decimal, or the one reached in two roundings, a
sixty-four-bit significand times a power of ten.
-/
namespace Rollup.Double

/-- The value of a decimal digit. -/
def digitValue (c : Char) : Nat := c.toNat - '0'.toNat

/-- The value of a run of decimal digits, most significant first. -/
def ofDigits (cs : List Char) : Nat := cs.foldl (fun n c => 10 * n + digitValue c) 0

theorem toNat_of_isDigit {c : Char} (h : c.isDigit = true) : 48 ≤ c.toNat ∧ c.toNat ≤ 57 := by
  simp only [Char.isDigit, Bool.and_eq_true, decide_eq_true_eq, UInt32.le_iff_toNat_le] at h
  exact h

theorem digitValue_lt {c : Char} (h : c.isDigit = true) : digitValue c < 10 := by
  have hhigh := (toNat_of_isDigit h).2
  unfold digitValue
  change c.toNat - 48 < 10
  omega

/-- The double nearest to `digits * 10 ^ exponent`: infinite above the range, zero below it. -/
def nearest (d : Decimal) : Float :=
  let size := d.exponent + (digitCount d.digits : Int)
  if d.digits = 0 then 0.0
  else if 400 < size then Float.ofBits 0x7FF0000000000000
  else if size < -400 then 0.0
  else if d.exponent < 0 then Float.ofScientific d.digits true d.exponent.natAbs
  else Float.ofScientific d.digits false d.exponent.natAbs

/-- The double nearest to a power of ten. -/
def powerOfTen (k : Nat) : Float := Float.ofScientific 1 false k

/-- Divides by ten to the given power, in steps of at most `10 ^ 308`. -/
def divideByPower (x : Float) (k : Nat) : Float :=
  if k ≤ 308 then x / powerOfTen k
  else if x == 0.0 then x
  else divideByPower (x / powerOfTen 308) (k - 308)
  termination_by k

/-- The rounded significand times the rounded power of ten; `none` above the range. -/
def scaled? (significand : Nat) (exponent : Int) : Option Float :=
  let x := Float.ofNat significand
  if exponent < 0 then some (divideByPower x exponent.natAbs)
  else if significand = 0 then some x
  else if 308 < exponent then none
  else
    let y := x * powerOfTen exponent.natAbs
    if isFinite y then some y else none

/-- A signed integer numeral: an optional sign and at least one digit. -/
def readInteger? (s : String) : Option Int :=
  let digits? (cs : List Char) : Option Nat :=
    if cs ≠ [] ∧ cs.all Char.isDigit then some (ofDigits cs) else none
  match s.toList with
  | '-' :: cs => (digits? cs).map fun n => -(n : Int)
  | '+' :: cs => (digits? cs).map fun n => (n : Int)
  | cs => (digits? cs).map fun n => (n : Int)

/-- The exponent part of a numeral, zero if there is none. -/
def readExponent? : List Char → Option Int
  | [] => some 0
  | c :: cs => if c = 'e' ∨ c = 'E' then readInteger? (String.ofList cs) else none

/-- Digits with an optional point, at least one digit in all, and an optional exponent. -/
def readDecimal? (cs : List Char) : Option Decimal :=
  let whole := cs.takeWhile Char.isDigit
  let rest := cs.dropWhile Char.isDigit
  let (fraction, tail) := match rest with
    | '.' :: r => (r.takeWhile Char.isDigit, r.dropWhile Char.isDigit)
    | r => ([], r)
  if whole = [] ∧ fraction = [] then none
  else (readExponent? tail).map fun e => ⟨ofDigits (whole ++ fraction), e - (fraction.length : Int)⟩

/-- An unsigned numeral or one of the names of infinity and NaN, in any case of letters. -/
def readUnsigned? (cs : List Char) : Option Float :=
  let name := String.ofList (cs.map Char.toLower)
  if name = "inf" ∨ name = "infinity" then some (Float.ofBits 0x7FF0000000000000)
  else if name = "nan" then some (Float.ofBits 0x7FF8000000000000)
  else (readDecimal? cs).map nearest

/-- A numeral with an optional sign, read to the nearest double. -/
def read? (s : String) : Option Float :=
  match s.toList with
  | '-' :: cs => (readUnsigned? cs).map fun x => -x
  | '+' :: cs => readUnsigned? cs
  | cs => readUnsigned? cs

example : readInteger? "+12" = some 12 := by decide +kernel
example : readDecimal? "5.".toList = some ⟨5, 0⟩ := by decide +kernel
example : read? "1e400" = some (Float.ofBits 0x7FF0000000000000) := by decide +kernel

end Rollup.Double

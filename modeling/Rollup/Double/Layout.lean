import Rollup.Double.Shortest
/-!
The layout of decimals as text: how the digits chosen for a double are written, and rounding to a
fixed number of places.
-/
namespace Rollup.Double

/-- The decisions of a number format. -/
structure Layout where
  /-- Which exponents of the first digit are written without an exponent part. -/
  positional : Int → Bool
  /-- What follows the digits of an integral value. -/
  integralMark : String

/-- As many zeros as asked for. -/
def zeros (n : Nat) : String := String.ofList (List.replicate n '0')

/-- Digits with the point placed after the digit of exponent zero. -/
def positionalText (mark digits : String) (first : Int) : String :=
  let n := digits.length
  if first < 0 then "0." ++ zeros ((-first).toNat - 1) ++ digits
  else
    let whole := first.toNat + 1
    if n ≤ whole then digits ++ zeros (whole - n) ++ mark
    else
      String.ofList (digits.toList.take whole) ++ "." ++ String.ofList (digits.toList.drop whole)

/-- One digit, the others behind a point, and a signed exponent. -/
def scientificText (digits : String) (first : Int) : String :=
  let mantissa := match digits.toList with
    | [] => ""
    | [c] => c.toString
    | c :: cs => c.toString ++ "." ++ String.ofList cs
  mantissa ++ (if first < 0 then "e-" else "e+") ++ toString first.natAbs

/-- A finite double in its shortest digits, laid out by the given decisions. -/
def Layout.write (l : Layout) (x : Float) : String :=
  let d := (magnitude x).shortest
  let digits := toString d.digits
  let first := if d.digits = 0 then 0 else d.exponent + (digits.length : Int) - 1
  (if isNegative x then "-" else "") ++
    if l.positional first then positionalText l.integralMark digits first
    else scientificText digits first

/-- The quotient of two natural numbers rounded to the nearest one, halves to the even one. -/
def roundHalfEven (num den : Nat) : Nat :=
  let q := num / den
  match compare (2 * (num % den)) den with
  | .lt => q
  | .gt => q + 1
  | .eq => if q % 2 = 0 then q else q + 1

/-- A finite double's exact value rounded to two places. -/
def twoPlaces (x : Float) : String :=
  let m := magnitude x
  let hundredths := roundHalfEven (m.numerator * 100) m.denominator
  let fraction := toString (hundredths % 100)
  (if isNegative x then "-" else "") ++ toString (hundredths / 100) ++ "." ++
    zeros (2 - fraction.length) ++ fraction

example : twoPlaces 0.125 = "0.12" := by decide +kernel
example : twoPlaces 0.375 = "0.38" := by decide +kernel

end Rollup.Double

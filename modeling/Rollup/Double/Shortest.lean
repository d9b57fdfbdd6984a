/-!
Shortest decimals of binary floating-point numbers. Every real number between the midpoints to the
two neighbours of a double reads back as that double; among the decimals in this interval the one
with the fewest digits is chosen, and of two with equally many digits the nearer one. All
comparisons are between natural numbers.
-/
namespace Rollup.Double

def twoTo (n : Nat) : Nat := Nat.pow 2 n

def tenTo (n : Nat) : Nat := Nat.pow 10 n

/-- The size of a finite double, `significand * 2 ^ exponent`. -/
structure Magnitude where
  significand : Nat
  exponent : Int
  deriving Repr, DecidableEq

/-- Sixty-four bits hold a sign, eleven bits of exponent and fifty-two bits of fraction. -/
def magnitude (x : Float) : Magnitude :=
  let bits := x.toBits.toNat
  let fraction : Nat := bits % twoTo 52
  let biased : Nat := bits / twoTo 52 % twoTo 11
  if biased = 0 then ⟨fraction, -1074⟩ else ⟨fraction + twoTo 52, (biased : Int) - 1075⟩

/-- The sign bit, which is set for negative zero too. -/
def isNegative (x : Float) : Bool := decide (x.toBits.toNat / twoTo 63 = 1)

/-- Not an infinity and not a NaN. -/
def isFinite (x : Float) : Bool :=
  decide (x.toBits.toNat / twoTo 52 % twoTo 11 ≠ twoTo 11 - 1)

/-- The decimal `digits * 10 ^ exponent`. -/
structure Decimal where
  digits : Nat
  exponent : Int
  deriving Repr, DecidableEq

/-- Number of decimal digits, one for zero. -/
def digitCount (n : Nat) : Nat := (toString n).length

namespace Magnitude

/-- Numerator of the value as a fraction of natural numbers. -/
def numerator (m : Magnitude) : Nat := m.significand * twoTo m.exponent.toNat

/-- Denominator of the value as a fraction of natural numbers. -/
def denominator (m : Magnitude) : Nat := twoTo (-m.exponent).toNat

/-- The exponent of ten of the first digit of a value other than zero. -/
def decimalExponent (m : Magnitude) : Int :=
  if m.denominator ≤ m.numerator then
    (digitCount (m.numerator / m.denominator) : Int) - 1
  else
    -(digitCount ((m.denominator + m.numerator - 1) / m.numerator - 1) : Int)

/-- Quarters of the last binary place between the value and its lower midpoint: the neighbour below
a power of two is half as far away. -/
def lowerGap (m : Magnitude) : Nat :=
  if m.significand = twoTo 52 ∧ m.exponent ≠ -1074 then 1 else 2

/-- Comparison of `quarters / 4 * 2 ^ exponent` with a decimal. -/
def compareQuarters (quarters : Nat) (exponent : Int) (d : Decimal) : Ordering :=
  compare (quarters * twoTo exponent.toNat * tenTo (-d.exponent).toNat)
    (4 * d.digits * tenTo d.exponent.toNat * twoTo (-exponent).toNat)

/-- The decimals that read back as the value; the midpoints belong to the even significand. -/
def admits (m : Magnitude) (d : Decimal) : Bool :=
  let low := compareQuarters (4 * m.significand - m.lowerGap) m.exponent d
  let high := compareQuarters (4 * m.significand + 2) m.exponent d
  if m.significand % 2 = 0 then low != .gt && high != .lt else low == .lt && high == .gt

/-- The value's neighbour below, or equal to it, on the grid of multiples of `10 ^ k`. -/
def floorOn (m : Magnitude) (k : Int) : Nat :=
  m.numerator * tenTo (-k).toNat / (m.denominator * tenTo k.toNat)

/-- Whether the value lies above, at or below the middle between `d` and `d + 1` on the grid. -/
def compareMiddle (m : Magnitude) (d : Nat) (k : Int) : Ordering :=
  compare (2 * (m.numerator * tenTo (-k).toNat)) ((2 * d + 1) * (m.denominator * tenTo k.toNat))

/-- The admitted neighbour of the value on a grid, the nearer one if both are, and of two equally
near ones the even one. -/
def onGrid (m : Magnitude) (k : Int) : Option Decimal :=
  let d := m.floorOn k
  let below : Decimal := ⟨d, k⟩
  let above : Decimal := ⟨d + 1, k⟩
  match m.admits below, m.admits above with
  | false, false => none
  | true, false => some below
  | false, true => some above
  | true, true =>
    match m.compareMiddle d k with
    | .lt => some below
    | .gt => some above
    | .eq => some (if d % 2 = 0 then below else above)

end Magnitude

/-- Moves the zeros at the end of the digits into the exponent. -/
def Decimal.dropZeros : Nat → Decimal → Decimal
  | 0, d => d
  | n + 1, d =>
    if d.digits ≠ 0 ∧ d.digits % 10 = 0 then dropZeros n ⟨d.digits / 10, d.exponent + 1⟩ else d

/-- The shortest decimal that reads back as a magnitude. Seventeen digits always suffice. -/
def Magnitude.shortest (m : Magnitude) : Decimal :=
  if m.significand = 0 then ⟨0, 0⟩
  else
    let e := m.decimalExponent
    let found := (List.range 17).findSome? fun (n : Nat) => m.onGrid (e - n)
    (found.getD ⟨m.floorOn (e - 16), e - 16⟩).dropZeros 18

example : (magnitude 0.1).shortest = ⟨1, -1⟩ := by decide +kernel
example : (magnitude 1e23).shortest = ⟨1, 23⟩ := by decide +kernel
example : (magnitude 9007199254740993.0).shortest = ⟨9007199254740992, 0⟩ := by decide +kernel

end Rollup.Double

import Rollup.Calendar.Instant
/-!
Texts of instants. A year of at most four digits is padded to four; any other year has its sign and
at least four digits.
-/
namespace Rollup.Calendar

/-- A number padded with zeros in front. -/
def padded (width n : Nat) : String :=
  let digits := toString n
  String.ofList (List.replicate (width - digits.length) '0') ++ digits

/-- A number of two digits. -/
def twoDigits (n : Nat) : String := padded 2 n

def yearText (year : Int) : String :=
  if 0 ≤ year ∧ year ≤ 9999 then padded 4 year.natAbs
  else (if year < 0 then "-" else "+") ++ padded 4 year.natAbs

def Date.text (d : Date) : String :=
  yearText d.year ++ "-" ++ twoDigits d.month ++ "-" ++ twoDigits d.day

namespace Instant

def clockText (t : Instant) : String :=
  twoDigits t.hour ++ ":" ++ twoDigits t.minute ++ ":" ++ twoDigits t.clockSecond

/-- Date and clock time to the second, parted by a blank. -/
def text (t : Instant) : String := t.date.text ++ " " ++ t.clockText

/-- The fraction of the second in three, six or nine digits, whichever is exact; nothing for a
whole second. -/
def fractionText (t : Instant) : String :=
  let n := t.clockNano
  if n = 0 then ""
  else if n % 1000000 = 0 then "." ++ padded 3 (n / 1000000)
  else if n % 1000 = 0 then "." ++ padded 6 (n / 1000)
  else "." ++ padded 9 n

/-- The exact text with a T between date and time, and a mark of the offset behind them. -/
def exactText (t : Instant) (offset : String) : String :=
  t.date.text ++ "T" ++ t.clockText ++ t.fractionText ++ offset

end Instant

example : (Instant.mk 19782 86399 1500000000).exactText "Z" = "2024-02-29T23:59:60.500Z" := by
  decide +kernel
example : yearText (-1) = "-0001" ∧ yearText 12024 = "+12024" := by decide +kernel

end Rollup.Calendar

import Rollup.Word
import Rollup.Toml.Value
import Rollup.Text.Scanner
import Rollup.Text.Hex
import Rollup.Calendar.Date
/-!
Values without quotes and brackets: dates and times, reals, integers in four bases, and the two
truth values.
-/
namespace Rollup.Toml

open Text (Scanner)
open Text.Scanner

/-! ### Dates and times -/

def date : Scanner Unit := do
  let year ← fixed 4
  char '-'
  let month ← guarded (fixed 2) fun m => decide (1 ≤ m) && decide (m ≤ 12)
  char '-'
  let _ ← guarded (fixed 2) fun d => decide (1 ≤ d) && decide (d ≤ Calendar.daysInMonth year month)
  return ()

def fraction : Scanner Unit := do
  char '.'
  let _ ← digits none
  return ()

/-- A time of day, which may be in a leap second. -/
def clock : Scanner Unit := do
  let _ ← guarded (fixed 2) fun h => decide (h ≤ 23)
  char ':'
  let _ ← guarded (fixed 2) fun m => decide (m ≤ 59)
  char ':'
  let _ ← guarded (fixed 2) fun s => decide (s ≤ 60)
  let _ ← optional fraction

def signedOffset : Scanner Unit := do
  let _ ← charWhere fun c => c == '+' || c == '-'
  let _ ← guarded (fixed 2) fun h => decide (h ≤ 23)
  char ':'
  let _ ← guarded (fixed 2) fun m => decide (m ≤ 59)

def offset : Scanner Unit :=
  (do let _ ← charWhere fun c => c == 'Z' || c == 'z') <|> signedOffset

def clockBehindDate : Scanner Unit := do
  let _ ← charWhere fun c => c == 'T' || c == 't' || c == ' '
  clock
  let _ ← optional offset

/-- A date, a date and a time with or without an offset, or a time. -/
def time : Scanner Value := do
  let written ← reading ((do date; let _ ← optional clockBehindDate) <|> clock)
  return .time (String.ofList written)

/-! ### Numbers -/

/-- A run of digits without its underscores, which stand between two digits only. -/
def groupedFrom (test : Char → Bool) : List Char → List Char × List Char
  | [] => ([], [])
  | ['_'] => ([], ['_'])
  | '_' :: c :: cs =>
    if test c then
      let (ds, rest) := groupedFrom test cs
      (c :: ds, rest)
    else ([], '_' :: c :: cs)
  | c :: cs =>
    if test c then
      let (ds, rest) := groupedFrom test cs
      (c :: ds, rest)
    else ([], c :: cs)

/-- At least one digit, with underscores between digits. -/
def grouped (test : Char → Bool) : Scanner (List Char) := do
  let c ← charWhere test
  let cs ← fun cs => some (groupedFrom test cs)
  return c :: cs

def sign : Scanner (List Char) := do
  match (← optional (charWhere fun c => c == '+' || c == '-')) with
  | some c => return [c]
  | none => return []

/-- A decimal integer; a zero at its start is all of it. -/
def decimal : Scanner (List Char) := do
  let s ← sign
  let c ← charWhere Char.isDigit
  if c = '0' then return s ++ [c]
  else return s ++ [c] ++ (← fun cs => some (groupedFrom Char.isDigit cs))

def exponent : Scanner (List Char) := do
  let _ ← charWhere fun c => c == 'e' || c == 'E'
  let s ← sign
  let ds ← grouped Char.isDigit
  return 'e' :: s ++ ds

def places : Scanner (List Char) := do
  char '.'
  return '.' :: (← grouped Char.isDigit)

/-- A decimal with places, an exponent, or both. -/
def realNumeral : Scanner (List Char) := do
  let whole ← decimal
  (do return whole ++ (← exponent)) <|> do
    let ps ← places
    return whole ++ ps ++ (← optional exponent).getD []

/-- The names of infinity and of what is no number. -/
def realName : Scanner (List Char) := do
  let s ← sign
  (do word "inf"; return s ++ "inf".toList) <|> do word "nan"; return s ++ "nan".toList

/-- A real. One that is too great for a double is refused. -/
def real : Scanner Value :=
  (do
    match Double.read? (String.ofList (← realNumeral)) with
    | some x => if !Double.isFinite x && !Double.isNegative x then failure else return .real x
    | none => failure) <|>
  do
    match Double.read? (String.ofList (← realName)) with
    | some x => return .real x
    | none => failure

/-- Digits behind a mark that tells their base. -/
def based (mark : String) (base : Nat) : Scanner Int := do
  word mark
  let ds ← grouped fun c => (Text.hexValue? c).any (decide <| · < base)
  return ((ds.foldl (fun n c => base * n + (Text.hexValue? c).getD 0) 0 : Nat) : Int)

def decimalInteger : Scanner Int := do
  match Double.readInteger? (String.ofList (← decimal)) with
  | some i => return i
  | none => failure

def integer : Scanner Value := do
  let i ← guarded (based "0x" 16 <|> based "0o" 8 <|> based "0b" 2 <|> decimalInteger)
    fun i => decide (Word.IsSigned i)
  return .integer i

def truth : Scanner Value :=
  (do word "true"; return .bool true) <|> do word "false"; return .bool false

/-- A value without quotes and brackets. -/
def bare : Scanner Value := time <|> real <|> integer <|> truth

end Rollup.Toml

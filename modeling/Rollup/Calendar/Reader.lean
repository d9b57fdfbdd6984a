import Rollup.Calendar.Instant
import Rollup.Text.Scanner
/-!
Reading instants. One reader is strict about the internet date and time format, one is lenient
about blanks and widths in it, and three layouts have no offset and mean universal time.
-/
namespace Rollup.Calendar

open Text (Scanner)
open Text.Scanner

namespace Scanner

/-- A number of at most two digits behind blanks. -/
def small : Scanner Nat := do
  blanks
  digits (some 2)

/-- A year behind blanks: at most four digits, or any number of them behind a sign. -/
def year : Scanner Int := do
  blanks
  match (← get) with
  | '-' :: rest => set rest; return -(← digits none : Nat)
  | '+' :: rest => set rest; return (← digits none : Nat)
  | _ => return (← digits (some 4) : Nat)

/-- The nanoseconds of a fraction: nine digits count, more are read over. -/
def fraction : Scanner Nat := fun cs =>
  match cs with
  | '.' :: rest =>
    let run := rest.takeWhile Char.isDigit
    let taken := run.take 9
    if run.isEmpty then none
    else some (Double.ofDigits taken * Double.tenTo (9 - taken.length), rest.drop run.length)
  | _ => some (0, cs)

/-- The character between date and time. -/
def separator : Scanner Unit := do
  let _ ← charWhere fun c => c == 'T' || c == 't' || c == ' '

/-- A sign, two digits of hours, what parts them from the minutes, and two digits of minutes, as
seconds. The sign may be the minus sign proper. -/
def signedOffset (parting : Scanner Unit) : Scanner Int := do
  let sign ← charWhere fun c => c == '+' || c == '-' || c == Char.ofNat 0x2212
  let hours ← fixed 2
  parting
  let minutes ← fixed 2
  if minutes < 60 then
    let seconds : Int := hours * 3600 + minutes * 60
    return if sign == '+' then seconds else -seconds
  else failure

/-- The letter for no offset, or a signed offset. -/
def offset (parting : Scanner Unit) : Scanner Int := fun cs =>
  match cs with
  | 'Z' :: rest => some (0, rest)
  | 'z' :: rest => some (0, rest)
  | cs => signedOffset parting cs

/-- Any run of colons and blanks. -/
def colonsOrBlanks : Scanner Unit := fun cs =>
  some ((), cs.dropWhile fun c => c == ':' || Text.isBlank c)

/-- An offset of the lenient format, which may also be the three letters of universal time. -/
def lenientOffset : Scanner Int := fun cs =>
  if (cs.take 3).map Char.toLower = ['u', 't', 'c'] then some (0, cs.drop 3)
  else offset colonsOrBlanks cs

end Scanner

open Scanner

/-- The instant of a local date and time at an offset, which is less than a day. -/
def atOffset? (local? : Option Instant) (offset : Int) : Option Instant :=
  if offset.natAbs < 86400 then local?.bind (·.minusSeconds? offset) else none

/-- The internet format with fixed widths. -/
def internet : Scanner (Option Instant) := do
  let year ← fixed 4
  char '-'
  let month ← fixed 2
  char '-'
  let day ← fixed 2
  separator
  let hour ← fixed 2
  char ':'
  let minute ← fixed 2
  char ':'
  let second ← fixed 2
  let nano ← fraction
  let offset ← offset (char ':')
  return atOffset? (Instant.ofClock? ⟨year, month, day⟩ hour minute second nano) offset

/-- The internet format with free widths and blanks. -/
def lenient : Scanner (Option Instant) := do
  let year ← year
  blanks
  char '-'
  let month ← small
  blanks
  char '-'
  let day ← small
  separator
  let hour ← small
  blanks
  char ':'
  let minute ← small
  blanks
  char ':'
  let second ← small
  let nano ← fraction
  blanks
  let offset ← lenientOffset
  blanks
  return atOffset? (Instant.ofClock? ⟨year, month, day⟩ hour minute second nano) offset

/-- Year, month and day. -/
def dashedDate : Scanner Date := do
  let year ← year
  char '-'
  let month ← small
  char '-'
  let day ← small
  return ⟨year, month, day⟩

/-- A date and a time of universal time, with the given parting between them. -/
def dateAndTime (parting : Scanner Unit) : Scanner (Option Instant) := do
  let date ← dashedDate
  parting
  let hour ← small
  char ':'
  let minute ← small
  char ':'
  let second ← small
  let nano ← fraction
  return Instant.ofClock? date hour minute second nano

/-- Midnight of a date. -/
def dateAlone : Scanner (Option Instant) := do
  let date ← dashedDate
  return Instant.ofClock? date 0 0 0 0

namespace Instant

/-- Reads the lenient internet format, which decoding accepts. -/
def ofLenientText? (s : String) : Option Instant := (whole? lenient s).join

/-- Reads any of four layouts, in this order: the internet format, date and time parted by blanks,
date and time parted by a T, a date alone. Surrounding blanks do not count. -/
def ofText? (s : String) : Option Instant :=
  let s := Text.trim s
  (whole? internet s).join <|> (whole? (dateAndTime blanks) s).join <|>
    (whole? (dateAndTime (char 'T')) s).join <|> (whole? dateAlone s).join

example : (ofText? " 2024-03-10T12:00:60.25+01:00 ") = some ⟨19792, 39659, 1250000000⟩ := by
  decide +kernel
example : ofText? "2024-3-1 7:5:9" = some ⟨19783, 25509, 0⟩ := by decide +kernel
example : ofText? "2024-02-30" = none := by decide +kernel

end Instant

end Rollup.Calendar

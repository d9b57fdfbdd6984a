import Rollup.Calendar.Date
/-!
Instants of universal time. A leap second extends the second before it: its nanoseconds go on from
one thousand million.
-/
namespace Rollup.Calendar

/-- Nanoseconds of a second that is not a leap second. -/
def nanosPerSecond : Nat := 1000000000

structure Instant where
  /-- Days from 1970-01-01. -/
  day : Int
  /-- Seconds from midnight. -/
  second : Nat
  nano : Nat
  deriving Repr, DecidableEq

namespace Instant

/-- An instant whose date belongs to the calendar. -/
def Representable (t : Instant) : Prop :=
  Date.firstDay ≤ t.day ∧ t.day ≤ Date.lastDay ∧ t.second < 86400 ∧ t.nano < 2 * nanosPerSecond

instance (t : Instant) : Decidable t.Representable := by unfold Representable; infer_instance

def IsLeapSecond (t : Instant) : Prop := nanosPerSecond ≤ t.nano

instance (t : Instant) : Decidable t.IsLeapSecond := by unfold IsLeapSecond; infer_instance

def date (t : Instant) : Date := Date.ofDayNumber t.day
def hour (t : Instant) : Nat := t.second / 3600
def minute (t : Instant) : Nat := t.second / 60 % 60

/-- The second of the minute that a clock shows, 60 in a leap second. -/
def clockSecond (t : Instant) : Nat := if t.IsLeapSecond then t.second % 60 + 1 else t.second % 60

/-- The nanoseconds of the second that a clock shows. -/
def clockNano (t : Instant) : Nat := if t.IsLeapSecond then t.nano - nanosPerSecond else t.nano

/-- Seconds from 1970-01-01, not counting leap seconds. -/
def unixSeconds (t : Instant) : Int := t.day * 86400 + t.second

/-- The instant a number of seconds after 1970-01-01, if the calendar reaches it. -/
def ofUnixSeconds? (n : Int) : Option Instant :=
  let t : Instant := ⟨n / 86400, (n % 86400).toNat, 0⟩
  if t.Representable then some t else none

/-- The instant at a date and clock time; second 60 is a leap second. -/
def ofClock (date : Date) (hour minute second nano : Nat) : Instant :=
  if second = 60 then ⟨date.dayNumber, hour * 3600 + minute * 60 + 59, nano + nanosPerSecond⟩
  else ⟨date.dayNumber, hour * 3600 + minute * 60 + second, nano⟩

/-- The instant at a date and clock time, if there is such a time. -/
def ofClock? (date : Date) (hour minute second nano : Nat) : Option Instant :=
  if date.Valid ∧ hour < 24 ∧ minute < 60 ∧ second ≤ 60 ∧ nano < nanosPerSecond then
    some (ofClock date hour minute second nano)
  else none

/-- The instant some seconds earlier, if the calendar reaches it. The place within the second, a
leap second too, is kept. -/
def minusSeconds? (t : Instant) (seconds : Int) : Option Instant :=
  let moved := (t.second : Int) - seconds
  let u : Instant := ⟨t.day + moved / 86400, (moved % 86400).toNat, t.nano⟩
  if u.Representable then some u else none

/-- The order of instants: a leap second is later than the second it extends. -/
def le (s t : Instant) : Prop :=
  s.unixSeconds < t.unixSeconds ∨ (s.unixSeconds = t.unixSeconds ∧ s.nano ≤ t.nano)

instance : LE Instant := ⟨le⟩

instance (s t : Instant) : Decidable (s ≤ t) := by
  change Decidable (le s t); unfold le; infer_instance

example : (ofUnixSeconds? (-1)).map date = some ⟨1969, 12, 31⟩ := by decide

end Instant

end Rollup.Calendar

import Rollup.Calendar.Instant
import Rollup.Text.Blank
import Rollup.Text.Fold
/-!
Truncation intervals: the units of time that instants are grouped by, their names, and the start of
the unit that an instant lies in. Weeks start on Mondays.
-/
namespace Rollup.Calendar

inductive Interval where
  | hour
  | day
  | week
  | month
  | year
  deriving Repr, DecidableEq, Inhabited

namespace Instant

/-- Replaces the hour that the clock shows, if it can show the new one. -/
def withHour? (t : Instant) (hour : Nat) : Option Instant :=
  if hour < 24 then some { t with second := hour * 3600 + t.second % 3600 } else none

def withMinute? (t : Instant) (minute : Nat) : Option Instant :=
  if minute < 60 then
    some { t with second := t.second / 3600 * 3600 + minute * 60 + t.second % 60 }
  else none

/-- Replaces the second of the minute. A leap second is not set in this way. -/
def withSecond? (t : Instant) (second : Nat) : Option Instant :=
  if second < 60 then some { t with second := t.second / 60 * 60 + second } else none

/-- Replaces the nanoseconds, those of a leap second included. -/
def withNano? (t : Instant) (nano : Nat) : Option Instant :=
  if nano < 2 * nanosPerSecond then some { t with nano } else none

/-- Replaces the day of the month, if the month has the new one. -/
def withDay? (t : Instant) (day : Nat) : Option Instant :=
  if 1 ≤ day ∧ day ≤ daysInMonth t.date.year t.date.month then
    some { t with day := { t.date with day }.dayNumber }
  else none

/-- Replaces the month, if the new one has the day. -/
def withMonth? (t : Instant) (month : Nat) : Option Instant :=
  if 1 ≤ month ∧ month ≤ 12 ∧ t.date.day ≤ daysInMonth t.date.year month then
    some { t with day := { t.date with month }.dayNumber }
  else none

/-- Sets the clock back to the hour, or leaves it. -/
def toHour (t : Instant) : Instant :=
  (t.withMinute? 0 >>= (·.withSecond? 0) >>= (·.withNano? 0)).getD t

/-- Sets the clock back to midnight, or leaves it. -/
def toMidnight (t : Instant) : Instant :=
  (t.withHour? 0 >>= (·.withMinute? 0) >>= (·.withSecond? 0) >>= (·.withNano? 0)).getD t

/-- The midnight that starts a day. -/
def midnight (t : Instant) : Instant := ⟨t.day, 0, 0⟩

/-- Moves an instant some whole days back. Leaving a leap second in this way carries into the next
second, which after the last second of a day is the following midnight. -/
def minusDays (t : Instant) (days : Nat) : Instant :=
  if days ≠ 0 ∧ t.IsLeapSecond then
    let second := t.second + 1
    ⟨t.day - days + (second / 86400 : Nat), second % 86400, t.nano - nanosPerSecond⟩
  else { t with day := t.day - days }

/-- The instant some whole days back, if the calendar reaches it. -/
def minusDays? (t : Instant) (days : Nat) : Option Instant :=
  let u := t.minusDays days
  if Date.firstDay ≤ u.day ∧ u.day ≤ Date.lastDay then some u else none

end Instant

namespace Interval

def name : Interval → String
  | hour => "hour"
  | day => "day"
  | week => "week"
  | month => "month"
  | year => "year"

def all : List Interval := [hour, day, week, month, year]

/-- The unit of a name, in any case of letters, alone or behind a count of one; a day for names of
no unit. -/
def ofName (s : String) : Interval :=
  let folded := (Text.fold (Text.trim s)).toList
  let rest := match folded with
    | '1' :: ' ' :: rest => rest
    | cs => cs
  (all.find? fun i => i.name.toList == Text.trimChars rest).getD day

/-- The start of the unit that an instant lies in. A week may start before the calendar does, and
has then no start. -/
def truncate? (unit : Interval) (t : Instant) : Option Instant :=
  match unit with
  | hour => some t.toHour
  | day => some t.toMidnight
  | week => (t.minusDays? (daysSinceMonday t.day).toNat).map Instant.toMidnight
  | month => some ((t.withDay? 1).getD t).toMidnight
  | year => some ((t.withDay? 1 >>= (·.withMonth? 1)).getD t).toMidnight

example : ofName " 1 Month " = month ∧ ofName "fortnight" = day := by decide +kernel
example : (week.truncate? ⟨19797, 3600, 0⟩) = some ⟨19793, 0, 0⟩ := by decide +kernel

end Interval

end Rollup.Calendar

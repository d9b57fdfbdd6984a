import Rollup.Calendar.Printer
import Rollup.Calendar.Reader
import Rollup.Proofs.Calendar.Truncation
/-!
Leap seconds under truncation. A leap second lies in the units that the second before it lies in,
with one exception: going back to Monday from the leap second that ends a day leaves the day by way
of the next one, and such a week starts on a Tuesday.
-/
namespace Rollup.Calendar

namespace Instant

variable {date : Date} {hour minute second nano : Nat} {t : Instant}

theorem representable_of_ofClock? (h : ofClock? date hour minute second nano = some t) :
    t.Representable := by
  unfold ofClock? at h
  split at h
  next hclock =>
    obtain ⟨hdate, hhour, hminute, hsecond, hnano⟩ := hclock
    have hfirst := hdate.firstDay_le
    have hlast := hdate.le_lastDay
    cases h
    unfold nanosPerSecond at hnano
    unfold ofClock Representable nanosPerSecond
    refine ⟨by split <;> exact hfirst, by split <;> exact hlast, ?_, ?_⟩
    · split <;> dsimp only <;> omega
    · split <;> dsimp only <;> omega
  next => cases h

theorem eq_of_ofClock? (h : ofClock? date hour minute second nano = some t) :
    t = ofClock date hour minute second nano ∧ hour < 24 ∧ minute < 60 ∧ nano < nanosPerSecond := by
  unfold ofClock? at h
  split at h
  next hclock =>
    obtain ⟨_, hhour, hminute, _, hnano⟩ := hclock
    exact ⟨(Option.some.inj h).symm, hhour, hminute, hnano⟩
  next => cases h

end Instant

namespace Interval

variable {unit : Interval}

/-- Parts of a second, a leap second's too, make no difference to units other than weeks. -/
theorem truncate?_eq_of_second {s t : Instant} (hunit : unit ≠ week) (hday : s.day = t.day)
    (hsecond : s.second = t.second) : unit.truncate? s = unit.truncate? t := by
  cases unit with
  | week => exact absurd rfl hunit
  | hour => rw [truncate?_hour, truncate?_hour, hday, hsecond]
  | day => rw [truncate?_day, truncate?_day, Instant.midnight, Instant.midnight, hday]
  | month => rw [truncate?_month, truncate?_month, Instant.date, Instant.date, hday]
  | year => rw [truncate?_year, truncate?_year, Instant.date, Instant.date, hday]

/-- Going back from a leap second carries into the next second, and so into the next day from the
last second of a day. -/
theorem midnight_minusDays_of_leap {t : Instant} (hleap : t.IsLeapSecond)
    (hsecond : t.second < 86400) (days : Nat) : (t.minusDays days).midnight =
      ⟨t.day - days + if days ≠ 0 ∧ t.second = 86399 then 1 else 0, 0, 0⟩ := by
  unfold Instant.minusDays Instant.midnight
  by_cases hdays : days = 0
  · rw [if_neg fun h => h.1 hdays, if_neg fun h => h.1 hdays]
    simp only [Int.add_zero]
  · rw [if_pos ⟨hdays, hleap⟩]
    simp only [Instant.mk.injEq, and_true]
    split_ifs <;> omega

theorem truncate?_week_of_midnight {t : Instant} {n : Int}
    (hback : (t.minusDays (daysSinceMonday t.day).toNat).midnight = ⟨n, 0, 0⟩)
    (h₀ : Date.firstDay ≤ n) (h₁ : n ≤ Date.lastDay) : week.truncate? t = some ⟨n, 0, 0⟩ := by
  have hday : (t.minusDays (daysSinceMonday t.day).toNat).day = n := congrArg Instant.day hback
  rw [truncate?_week]
  dsimp only
  rw [hday, if_pos ⟨h₀, h₁⟩, hback]

theorem truncate?_week_leapSecond {t : Instant} {monday : Int} (ht : t.Representable)
    (hleap : t.IsLeapSecond) (hmonday : monday = t.day - daysSinceMonday t.day)
    (hfirst : Date.firstDay ≤ monday) : week.truncate? t =
      some (if ¬IsMonday t.day ∧ t.second = 86399 then ⟨monday + 1, 0, 0⟩ else ⟨monday, 0, 0⟩) := by
  obtain ⟨_, hlast, hsecond, _⟩ := ht
  have hback := midnight_minusDays_of_leap hleap hsecond (daysSinceMonday t.day).toNat
  have hdays : 0 ≤ daysSinceMonday t.day := by
    unfold daysSinceMonday
    omega
  by_cases hlate : ¬IsMonday t.day ∧ t.second = 86399
  · have hne : daysSinceMonday t.day ≠ 0 := mt isMonday_iff.mpr hlate.1
    rw [if_pos hlate]
    rw [if_pos ⟨by omega, hlate.2⟩] at hback
    exact truncate?_week_of_midnight (by rw [hback, hmonday, Int.toNat_of_nonneg hdays])
      (by omega) (by omega)
  · rw [if_neg hlate]
    rw [if_neg fun h => hlate ⟨fun hm => h.1 (by rw [isMonday_iff.mp hm]; rfl), h.2⟩] at hback
    exact truncate?_week_of_midnight
      (by rw [hback, hmonday, Int.toNat_of_nonneg hdays, Int.add_zero]) hfirst (by omega)

/-- A leap second has the start of the second before it, in any fraction of the two; only a week
that does not start on the leap second's own day has it a day late if the leap second ends a day. -/
theorem truncation_leapSecond (unit : Interval) {date : Date} {hour minute nano fraction : Nat}
    {leap second : Instant}
    (hleap : Instant.ofClock? date hour minute 60 nano = some leap)
    (hsecond : Instant.ofClock? date hour minute 59 fraction = some second)
    (hweek : unit = week → ∃ monday : Instant, monday.Representable ∧ week.StartsAt monday ∧
      monday ≤ second) :
    ∃ start, unit.truncate? second = some start ∧ unit.truncate? leap =
      some (if unit = week ∧ ¬IsMonday date.dayNumber ∧ hour = 23 ∧ minute = 59 then
        ⟨start.day + 1, 0, 0⟩ else start) := by
  have hleapRep := Instant.representable_of_ofClock? hleap
  have hsecondRep := Instant.representable_of_ofClock? hsecond
  obtain ⟨hleapEq, hhour, hminute, _⟩ := Instant.eq_of_ofClock? hleap
  obtain ⟨hsecondEq, _, _, hfraction⟩ := Instant.eq_of_ofClock? hsecond
  have hisLeap : leap.IsLeapSecond := by
    rw [hleapEq]
    exact Nat.le_add_left _ _
  have hnotLeap : ¬second.IsLeapSecond := by
    rw [hsecondEq]
    exact Nat.not_le.mpr hfraction
  have hday : leap.day = date.dayNumber ∧ second.day = date.dayNumber := by
    rw [hleapEq, hsecondEq]
    exact ⟨rfl, rfl⟩
  have hclock : leap.second = hour * 3600 + minute * 60 + 59 ∧
      second.second = hour * 3600 + minute * 60 + 59 := by
    rw [hleapEq, hsecondEq]
    exact ⟨rfl, rfl⟩
  obtain ⟨start, hstart, hstartRep⟩ := exists_truncate? unit hsecondRep hnotLeap hweek
  refine ⟨start, hstart, ?_⟩
  -- Only weeks look at the part of a second that makes the one instant a leap second.
  by_cases hunit : unit = week
  · subst hunit
    have hmonday : start = ⟨date.dayNumber - daysSinceMonday date.dayNumber, 0, 0⟩ := by
      rw [truncate?_week_of_not_isLeapSecond hnotLeap, hday.2] at hstart
      split at hstart
      · exact (Option.some.inj hstart).symm
      · cases hstart
    have hlast : leap.second = 86399 ↔ hour = 23 ∧ minute = 59 := by omega
    have hfirst : Date.firstDay ≤ date.dayNumber - daysSinceMonday date.dayNumber := by
      rw [hmonday] at hstartRep
      exact hstartRep.1
    have hweekLeap := truncate?_week_leapSecond hleapRep hisLeap rfl (by rwa [hday.1])
    simp only [hday.1, hlast] at hweekLeap
    simp only [hweekLeap, hmonday, true_and]
  · rw [truncate?_eq_of_second hunit (hday.1.trans hday.2.symm) (hclock.1.trans hclock.2.symm),
      hstart, if_neg fun h => hunit h.1]

/-- The leap second at the end of the year 2016, a Saturday, and any second of that day. -/
theorem truncation_leapSecond_newYear : ∃ leap second : Instant,
    Instant.ofText? "2016-12-31T23:59:60.5Z" = some leap ∧
    Instant.ofText? "2016-12-31T23:59:59Z" = some second ∧
    (year.truncate? leap).map Instant.text = some "2016-01-01 00:00:00" ∧
    year.truncate? leap = year.truncate? second := by
  have hleap : Instant.ofClock? ⟨2016, 12, 31⟩ 23 59 60 500000000 =
      some ⟨17166, 86399, 1500000000⟩ := by decide +kernel
  have hsecond : Instant.ofClock? ⟨2016, 12, 31⟩ 23 59 59 0 = some ⟨17166, 86399, 0⟩ := by
    decide +kernel
  obtain ⟨start, hstart, hleapStart⟩ := truncation_leapSecond year hleap hsecond
    fun h => by cases h
  refine ⟨⟨17166, 86399, 1500000000⟩, ⟨17166, 86399, 0⟩, by decide +kernel, by decide +kernel,
    by decide +kernel, ?_⟩
  rw [hleapStart, hstart, if_neg fun h => by cases h.1]

/-- The week of that leap second starts on a Tuesday, the week of the second before on Monday. -/
theorem week_of_leapSecond_startsLate : ∃ leap second late start : Instant,
    Instant.ofText? "2016-12-31T23:59:60Z" = some leap ∧
    Instant.ofText? "2016-12-31T23:59:59Z" = some second ∧
    week.truncate? leap = some late ∧ week.truncate? second = some start ∧
    late.text = "2016-12-27 00:00:00" ∧ start.text = "2016-12-26 00:00:00" ∧
    ¬week.StartsAt late :=
  ⟨⟨17166, 86399, 1000000000⟩, ⟨17166, 86399, 0⟩, ⟨17162, 0, 0⟩, ⟨17161, 0, 0⟩, by decide +kernel,
    by decide +kernel, by decide +kernel, by decide +kernel, by decide +kernel, by decide +kernel,
    by decide +kernel⟩

end Interval

end Rollup.Calendar

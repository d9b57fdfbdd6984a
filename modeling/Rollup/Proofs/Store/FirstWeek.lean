import Rollup.Proofs.Store.DateFunctions
/-!
The first week of the calendar. The calendar starts on a Thursday, so the days before its first
Monday lie in a week that starts before the calendar does. For those days a week has no start, and
the database's truncation to weeks is aborted; for all others, and for all other units, truncation
has an answer.
-/
namespace Rollup

open Calendar (Date Instant Interval)

namespace Calendar

/-- The first Monday of the calendar. -/
def firstMonday : Date := ⟨Date.firstYear, 1, 5⟩

theorem isLeast_firstMonday :
    IsLeast {n | IsMonday n ∧ Date.firstDay ≤ n} firstMonday.dayNumber := by
  have hnumber : firstMonday.dayNumber = Date.firstDay + 4 := by decide
  have hfirst : daysSinceMonday Date.firstDay = 3 := by decide
  unfold daysSinceMonday at hfirst
  rw [hnumber]
  constructor
  · refine ⟨isMonday_iff.mpr ?_, by omega⟩
    unfold daysSinceMonday
    omega
  · rintro n ⟨hn, hle⟩
    rw [isMonday_iff] at hn
    unfold daysSinceMonday at hn
    omega

theorem Instant.before_firstMonday_iff {t : Instant} :
    t.date.Before firstMonday ↔ t.day < firstMonday.dayNumber := by
  have hproper : firstMonday.Proper := ⟨by decide, by decide, by decide, by decide⟩
  unfold date
  rw [← Date.dayNumber_lt_iff (Date.proper_ofDayNumber t.day) hproper, Date.dayNumber_ofDayNumber]

/-- Going back from a leap second may end a day late, but never later than it started. -/
theorem Instant.day_minusDays_bounds {t : Instant} (h : t.second < 86400) (days : Nat) :
    t.day - days ≤ (t.minusDays days).day ∧ (t.minusDays days).day ≤ t.day - days + 1 ∧
      (t.minusDays days).day ≤ t.day := by
  unfold minusDays
  split <;> dsimp only <;> omega

namespace Interval

variable {unit : Interval} {t : Instant}

/-- The latest Monday up to an instant belongs to the calendar unless the first one is later. -/
theorem truncate?_week_eq_none_iff (ht : t.Representable) :
    week.truncate? t = none ↔ t.day < firstMonday.dayNumber := by
  obtain ⟨_, hlast, hsecond, _⟩ := ht
  obtain ⟨⟨hmonday, hfirst⟩, hleast⟩ := isLeast_firstMonday
  obtain ⟨⟨hstart, _⟩, hgreatest⟩ := isGreatest_monday t.day
  obtain ⟨hlow, hhigh, hback⟩ :=
    Instant.day_minusDays_bounds hsecond (daysSinceMonday t.day).toNat
  have hdays : ((daysSinceMonday t.day).toNat : Int) = daysSinceMonday t.day := by
    unfold daysSinceMonday
    omega
  rw [hdays] at hlow hhigh
  rw [truncate?_week]
  dsimp only
  rw [ite_eq_right_iff]
  constructor
  · intro h
    by_contra hlate
    have hafter := hgreatest ⟨hmonday, Int.not_lt.mp hlate⟩
    exact absurd (h ⟨by omega, by omega⟩) (Option.some_ne_none _)
  · rintro hearly ⟨hinside, _⟩
    have hbefore : t.day - daysSinceMonday t.day < Date.firstDay := by
      by_contra hin
      have hle := hleast ⟨hstart, Int.not_lt.mp hin⟩
      omega
    -- A day late is not enough: the calendar does not start on a Tuesday.
    have hsunday : t.day - daysSinceMonday t.day ≠ Date.firstDay - 1 := by
      intro h
      rw [h] at hstart
      exact absurd hstart (by decide)
    omega

theorem truncate?_eq_none_iff (unit : Interval) (ht : t.Representable) :
    unit.truncate? t = none ↔ unit = week ∧ t.date.Before firstMonday := by
  rw [Instant.before_firstMonday_iff]
  cases unit with
  | week => rw [truncate?_week_eq_none_iff ht, eq_self_iff_true, true_and]
  | hour | day | month | year =>
    constructor
    · intro h; cases h
    · rintro ⟨h, _⟩; cases h

end Interval

end Calendar

namespace Store

open Calendar (firstMonday)

theorem textParameter_eq_ok {index : Nat} {c : Cell} {s : String}
    (h : textParameter index c = .ok s) : c = .text s := by
  cases c <;> cases h
  rfl

theorem textParameter_ne_aborted (index : Nat) (c : Cell) :
    textParameter index c ≠ .error .aborted := by
  intro h
  cases c <;> cases h

theorem instantOf_ne_aborted (c : Cell) : instantOf c ≠ .error .aborted := by
  intro h
  cases c with
  | integer n =>
    unfold instantOf at h
    dsimp only at h
    split at h <;> cases h
  | text s =>
    unfold instantOf at h
    dsimp only at h
    split at h <;> cases h
  | null | real _ | blob _ => cases h

theorem truncateCell_of_none {x : Cell} {t : Instant} {unit : String}
    (hx : instantOf x = .ok (some t)) (hstart : (Interval.ofName unit).truncate? t = none) :
    truncateCell (.text unit) x = .error .aborted := by
  unfold truncateCell
  rw [hx]
  simp only [textParameter, bind, Except.bind, hstart]

/-- Only a timestamp that is read and has no start of its unit aborts the function. -/
theorem truncateCell_eq_aborted_iff {unit x : Cell} : truncateCell unit x = .error .aborted ↔
    ∃ name t, unit = .text name ∧ instantOf x = .ok (some t) ∧
      (Interval.ofName name).truncate? t = none := by
  constructor
  · intro h
    cases hname : textParameter 0 unit with
    | error why =>
      unfold truncateCell at h
      rw [hname] at h
      cases h
      exact absurd hname (textParameter_ne_aborted 0 unit)
    | ok name =>
      cases textParameter_eq_ok hname
      cases hx : instantOf x with
      | error why =>
        unfold truncateCell at h
        rw [hname, hx] at h
        cases h
        exact absurd hx (instantOf_ne_aborted x)
      | ok read =>
        cases read with
        | none =>
          unfold truncateCell at h
          rw [hname, hx] at h
          cases h
        | some t =>
          cases hstart : (Interval.ofName name).truncate? t with
          | none => exact ⟨name, t, rfl, rfl, hstart⟩
          | some start =>
            rw [truncateCell_of_instantOf hx hstart] at h
            cases h
  · rintro ⟨name, t, rfl, hx, hstart⟩
    exact truncateCell_of_none hx hstart

theorem dateTrunc_eq_aborted_iff {args : List Cell} :
    ScalarFunction.dateTrunc.apply args = .error .aborted ↔
      ∃ name x t, args = [.text name, x] ∧ instantOf x = .ok (some t) ∧
        (Interval.ofName name).truncate? t = none := by
  match args with
  | [unit, x] =>
    rw [show ScalarFunction.dateTrunc.apply [unit, x] = truncateCell unit x from rfl,
      truncateCell_eq_aborted_iff]
    constructor
    · rintro ⟨name, t, rfl, hx, hstart⟩
      exact ⟨name, x, t, rfl, hx, hstart⟩
    · rintro ⟨name, x, t, hargs, hx, hstart⟩
      cases hargs
      exact ⟨name, t, rfl, hx, hstart⟩
  | [] | [_] | _ :: _ :: _ :: _ => simp [ScalarFunction.apply]

/-- Truncation has an answer for every unit and every instant, but for the week of an instant before
the first Monday. That is the only case in which the database's function is aborted; for every
other timestamp that it reads it gives the text of the start of the unit. -/
theorem dateTrunc_aborts_before_firstMonday (unit : Interval) {t : Instant}
    (ht : t.Representable) (args : List Cell) :
    (unit.truncate? t = none ↔ unit = .week ∧ t.date.Before firstMonday) ∧
    (ScalarFunction.dateTrunc.apply args = .error .aborted ↔
      ∃ name x u, args = [.text name, x] ∧ instantOf x = .ok (some u) ∧
        Interval.ofName name = .week ∧ u.date.Before firstMonday) ∧
    ∀ (name : String) (x : Cell), instantOf x = .ok (some t) →
      ¬(Interval.ofName name = .week ∧ t.date.Before firstMonday) →
        ∃ start, (Interval.ofName name).truncate? t = some start ∧ start.Representable ∧
          ScalarFunction.dateTrunc.apply [.text name, x] = .ok (.text start.text) := by
  refine ⟨Interval.truncate?_eq_none_iff unit ht, ?_, ?_⟩
  · rw [dateTrunc_eq_aborted_iff]
    refine exists_congr fun name => exists_congr fun x => exists_congr fun u => ?_
    refine and_congr_right fun _ => and_congr_right fun hx => ?_
    exact Interval.truncate?_eq_none_iff _ (representable_of_instantOf hx)
  · intro name x hx hlate
    obtain ⟨start, hstart⟩ :=
      Option.ne_none_iff_exists'.mp (mt (Interval.truncate?_eq_none_iff _ ht).mp hlate)
    exact ⟨start, hstart, (Interval.start_of_truncate? ht hstart).1,
      truncateCell_of_instantOf hx hstart⟩

/-- The last second of the first Sunday, as an integer, and a leap second of the first Monday. -/
theorem dateTrunc_aborts_before_firstMonday_sunday :
    Interval.week.truncate? ⟨Date.firstDay + 3, 86399, 0⟩ = none ∧
    ScalarFunction.dateTrunc.apply [.text "1 Week", .integer (-8334600883201)] =
      .error .aborted ∧
    ∃ start : Instant, start.Representable ∧
      ScalarFunction.dateTrunc.apply [.text "week", .text "-262143-01-05 23:59:60"] =
        .ok (.text start.text) := by
  have hearly : (Instant.date ⟨Date.firstDay + 3, 86399, 0⟩).Before firstMonday :=
    Instant.before_firstMonday_iff.mpr (by decide +kernel)
  have hsunday : instantOf (.integer (-8334600883201)) =
      .ok (some ⟨Date.firstDay + 3, 86399, 0⟩) := by
    decide +kernel
  have hmonday : instantOf (.text "-262143-01-05 23:59:60") =
      .ok (some ⟨Date.firstDay + 4, 86399, 1000000000⟩) :=
    instantOf_of_ofText? (by decide +kernel)
  have hlate : ¬(Instant.date ⟨Date.firstDay + 4, 86399, 1000000000⟩).Before firstMonday :=
    mt Instant.before_firstMonday_iff.mp (by decide +kernel)
  obtain ⟨hnone, habort, _⟩ := dateTrunc_aborts_before_firstMonday .week
    (representable_of_instantOf hsunday) [.text "1 Week", .integer (-8334600883201)]
  obtain ⟨_, _, hanswer⟩ :=
    dateTrunc_aborts_before_firstMonday .week (representable_of_instantOf hmonday) []
  obtain ⟨start, _, hrep, htext⟩ := hanswer "week" _ hmonday fun h => hlate h.2
  exact ⟨hnone.mpr ⟨rfl, hearly⟩, habort.mpr ⟨_, _, _, rfl, hsunday, by decide +kernel, hearly⟩,
    start, hrep, htext⟩

/-- The first day is read, has no start of its week, and aborts the function. -/
theorem dateTrunc_aborts_on_firstDay :
    ∃ t : Instant, t.Representable ∧ Instant.ofText? "-262143-01-01" = some t ∧
      Instant.ofUnixSeconds? (-8334601228800) = some t ∧ Interval.week.truncate? t = none ∧
      ScalarFunction.dateTrunc.apply [.text "week", .text "-262143-01-01"] = .error .aborted ∧
      ScalarFunction.dateTrunc.apply [.text "week", .integer (-8334601228800)] =
        .error .aborted := by
  refine ⟨⟨Date.firstDay, 0, 0⟩, ?_, ?_, ?_, ?_, ?_, ?_⟩
  all_goals decide +kernel

end Store

end Rollup

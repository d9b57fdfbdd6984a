import Mathlib.Tactic.IntervalCases
import Rollup.Calendar.Date
/-!
Dates and day numbers. Every day number is the number of its date, and the dates of the calendar's
days are dates of the calendar.

Within a cycle of four hundred years the year of a day comes from a quotient that grows with the
day. So it is enough to know it at the first and at the last day of every year.
-/
namespace Rollup.Calendar.Date

/-- The first day of a year of a cycle. -/
def firstOfYear (y : Int) : Int := 365 * y + y / 4 - y / 100

/-- The year of a day of a cycle. -/
def yearOfCycle (d : Int) : Int := (d - d / 1460 + d / 36524 - d / 146096) / 365

theorem yearOfCycle_mono {d e : Int} (hde : d ≤ e) : yearOfCycle d ≤ yearOfCycle e := by
  unfold yearOfCycle
  have hfours : d - d / 1460 ≤ e - e / 1460 := by omega
  have hcenturies : d / 36524 - d / 146096 ≤ e / 36524 - e / 146096 := by
    have hd : d / 146096 = d / 36524 / 4 := by omega
    have he : e / 146096 = e / 36524 / 4 := by omega
    have hle : d / 36524 ≤ e / 36524 := Int.ediv_le_ediv (by decide) hde
    rw [hd, he]
    omega
  apply Int.ediv_le_ediv (by decide)
  omega

theorem yearOfCycle_ends : ∀ y : Fin 400, yearOfCycle (firstOfYear y) = y ∧
    yearOfCycle (firstOfYear (y + 1) - 1) = y := by
  decide +kernel

theorem yearOfCycle_bounds {d : Int} (h₀ : 0 ≤ d) (h₁ : d < 146097) :
    0 ≤ yearOfCycle d ∧ yearOfCycle d < 400 := by
  unfold yearOfCycle
  omega

/-- A day lies in its year. -/
theorem firstOfYear_le {d : Int} (h₀ : 0 ≤ d) (h₁ : d < 146097) :
    firstOfYear (yearOfCycle d) ≤ d := by
  obtain ⟨hlow, hhigh⟩ := yearOfCycle_bounds h₀ h₁
  by_contra hlt
  have hpos : 0 < yearOfCycle d := by
    rcases hlow.lt_or_eq with hpos | hzero
    · exact hpos
    · rw [← hzero] at hlt
      exact absurd h₀ hlt
  -- A day before its year is not after the last day of the year before that.
  have hends := (yearOfCycle_ends ⟨(yearOfCycle d - 1).toNat, by omega⟩).2
  have hyear : ((yearOfCycle d - 1).toNat : Int) = yearOfCycle d - 1 := by omega
  have hmono := yearOfCycle_mono (show d ≤ firstOfYear (yearOfCycle d) - 1 by omega)
  simp only [hyear, Int.sub_add_cancel] at hends
  omega

theorem lt_firstOfYear {d : Int} (h₀ : 0 ≤ d) (h₁ : d < 146097) (hy : yearOfCycle d < 399) :
    d < firstOfYear (yearOfCycle d + 1) := by
  obtain ⟨hlow, _⟩ := yearOfCycle_bounds h₀ h₁
  by_contra hle
  have hends := (yearOfCycle_ends ⟨(yearOfCycle d + 1).toNat, by omega⟩).1
  have hyear : ((yearOfCycle d + 1).toNat : Int) = yearOfCycle d + 1 := by omega
  have hmono := yearOfCycle_mono (show firstOfYear (yearOfCycle d + 1) ≤ d by omega)
  simp only [hyear] at hends
  omega

/-- The leap day is the last day of a year, in the years that have one. -/
theorem dayOfYear_bounds {d t : Int} (h₀ : 0 ≤ d) (h₁ : d < 146097)
    (ht : t = d - firstOfYear (yearOfCycle d)) :
    0 ≤ t ∧ t ≤ 365 ∧ (t = 365 → ∀ cycle, isLeap (yearOfCycle d + cycle * 400 + 1) = true) := by
  obtain ⟨hlow, hhigh⟩ := yearOfCycle_bounds h₀ h₁
  have hfirst := firstOfYear_le h₀ h₁
  have hleap : t ≤ 365 ∧ (t = 365 → (yearOfCycle d + 1) % 4 = 0 ∧
      ((yearOfCycle d + 1) % 100 ≠ 0 ∨ (yearOfCycle d + 1) % 400 = 0)) := by
    rcases Int.lt_or_eq_of_le (Int.lt_add_one_iff.mp hhigh : yearOfCycle d ≤ 399) with hy | hy
    · have hnext := lt_firstOfYear h₀ h₁ hy
      generalize yearOfCycle d = y at *
      unfold firstOfYear at *
      have hfour : (y + 1) / 4 = if (y + 1) % 4 = 0 then y / 4 + 1 else y / 4 := by omega
      have hcentury : (y + 1) / 100 = if (y + 1) % 100 = 0 then y / 100 + 1 else y / 100 := by
        omega
      rw [hfour, hcentury] at hnext
      omega
    · rw [hy] at ht ⊢
      have hlast : firstOfYear 399 = 145731 := by decide
      omega
  refine ⟨by omega, hleap.1, fun h cycle => ?_⟩
  obtain ⟨hfour, hcentury⟩ := hleap.2 h
  unfold isLeap
  simp only [Bool.and_eq_true, Bool.or_eq_true, decide_eq_true_eq]
  omega

/-- The date of a day number in terms of its cycle and its year in that. -/
theorem ofDayNumber_eq (n : Int) : ∃ cycle y t : Int, 0 ≤ y ∧ y < 400 ∧ 0 ≤ t ∧ t ≤ 365 ∧
    (t = 365 → isLeap (y + cycle * 400 + 1) = true) ∧
    n = cycle * 146097 + firstOfYear y + t - 719468 ∧
    ofDayNumber n =
      if (5 * t + 2) / 153 < 10 then
        ⟨y + cycle * 400, ((5 * t + 2) / 153 + 3).toNat,
          (t - (153 * ((5 * t + 2) / 153) + 2) / 5 + 1).toNat⟩
      else
        ⟨y + cycle * 400 + 1, ((5 * t + 2) / 153 - 9).toNat,
          (t - (153 * ((5 * t + 2) / 153) + 2) / 5 + 1).toNat⟩ := by
  have h₀ : 0 ≤ (n + 719468) % 146097 := by omega
  have h₁ : (n + 719468) % 146097 < 146097 := by omega
  obtain ⟨hy₀, hy₁⟩ := yearOfCycle_bounds h₀ h₁
  obtain ⟨ht₀, ht₁, hleap⟩ := dayOfYear_bounds h₀ h₁ rfl
  refine ⟨(n + 719468) / 146097, _, _, hy₀, hy₁, ht₀, ht₁, fun h => hleap h _, ?_, rfl⟩
  omega

theorem dayNumber_ofDayNumber (n : Int) : (ofDayNumber n).dayNumber = n := by
  obtain ⟨cycle, y, t, hy₀, hy₁, ht₀, ht₁, _, hn, hdate⟩ := ofDayNumber_eq n
  have hcycle : (y + cycle * 400) / 400 = cycle := by omega
  have hyear : (y + cycle * 400) % 400 = y := by omega
  rw [hdate]
  unfold firstOfYear at hn
  split
  next hmonth =>
    have hlate : ¬((5 * t + 2) / 153 + 3).toNat ≤ 2 := by omega
    unfold dayNumber
    simp only [hlate, if_false, hcycle, hyear]
    omega
  next hmonth =>
    have hearly : ((5 * t + 2) / 153 - 9).toNat ≤ 2 := by omega
    unfold dayNumber
    simp only [hearly, if_true, Int.add_sub_cancel, hcycle, hyear]
    omega

/-- Months of a year that starts in March have the lengths of their names. -/
theorem day_le_daysInMonth {t m year : Int} (ht₀ : 0 ≤ t) (ht₁ : t ≤ 365)
    (hleap : t = 365 → isLeap (year + 1) = true) (hm : m = (5 * t + 2) / 153) :
    t - (153 * m + 2) / 5 + 1 ≤
      if m < 10 then daysInMonth year (m + 3).toNat else daysInMonth (year + 1) (m - 9).toNat := by
  have hm₀ : 0 ≤ m := by omega
  have hm₁ : m ≤ 11 := by omega
  by_cases hfebruary : m = 11
  · subst hfebruary
    cases hyear : isLeap (year + 1) with
    | true =>
      simp [daysInMonth, hyear]
      omega
    | false =>
      have hlast : t ≠ 365 := fun h => by simp [hleap h] at hyear
      simp [daysInMonth, hyear]
      omega
  · interval_cases m <;> simp [daysInMonth] <;> omega

/-- Years have at least 365 days. -/
theorem firstOfYear_add_le {y z : Int} (h : y ≤ z) :
    firstOfYear y + 365 * (z - y) ≤ firstOfYear z := by
  unfold firstOfYear
  have hy : y / 100 = y / 4 / 25 := by omega
  have hz : z / 100 = z / 4 / 25 := by omega
  have hle : y / 4 ≤ z / 4 := Int.ediv_le_ediv (by decide) h
  rw [hy, hz]
  omega

/-- The calendar starts with a January and ends with a December. -/
theorem year_bounds {cycle y t : Int} (hy₀ : 0 ≤ y) (hy₁ : y < 400) (ht₀ : 0 ≤ t) (ht₁ : t ≤ 365)
    (h₀ : firstDay ≤ cycle * 146097 + firstOfYear y + t - 719468)
    (h₁ : cycle * 146097 + firstOfYear y + t - 719468 ≤ lastDay) :
    (306 ≤ t → -262144 ≤ y + cycle * 400 ∧ y + cycle * 400 ≤ 262141) ∧
      (t < 306 → -262143 ≤ y + cycle * 400 ∧ y + cycle * 400 ≤ 262142) := by
  have hfirst : firstDay = -656 * 146097 + firstOfYear 256 + 306 - 719468 := by decide
  have hlast : lastDay = 655 * 146097 + firstOfYear 142 + 305 - 719468 := by decide
  have hzero : firstOfYear 0 = 0 := by decide
  have hend : firstOfYear 400 = 146096 := by decide
  have hstart : firstOfYear 142 = 51864 := by decide
  have hstop : firstOfYear 256 = 93502 := by decide
  have hlow := firstOfYear_add_le hy₀
  have hhigh := firstOfYear_add_le (Int.le_of_lt hy₁)
  have hcycle : -656 ≤ cycle ∧ cycle ≤ 655 := by omega
  have hbefore : y ≤ 256 → firstOfYear y + 365 * (256 - y) ≤ firstOfYear 256 := firstOfYear_add_le
  have hafter : 142 ≤ y → firstOfYear 142 + 365 * (y - 142) ≤ firstOfYear y := firstOfYear_add_le
  omega

theorem valid_ofDayNumber {n : Int} (h₀ : firstDay ≤ n) (h₁ : n ≤ lastDay) :
    (ofDayNumber n).Valid := by
  obtain ⟨cycle, y, t, hy₀, hy₁, ht₀, ht₁, hleap, hn, hdate⟩ := ofDayNumber_eq n
  subst hn
  obtain ⟨hlate, hearly⟩ := year_bounds hy₀ hy₁ ht₀ ht₁ h₀ h₁
  have hday := day_le_daysInMonth ht₀ ht₁ hleap rfl
  rw [hdate]
  unfold Valid firstYear lastYear
  split
  next hmonth =>
    rw [if_pos hmonth] at hday
    obtain ⟨hyear₀, hyear₁⟩ := hearly (by omega)
    exact ⟨hyear₀, hyear₁, by simp only; omega, by simp only; omega, by simp only; omega,
      by simp only; omega⟩
  next hmonth =>
    rw [if_neg hmonth] at hday
    obtain ⟨hyear₀, hyear₁⟩ := hlate (by omega)
    exact ⟨by simp only; omega, by simp only; omega, by simp only; omega, by simp only; omega,
      by simp only; omega, by simp only; omega⟩

end Rollup.Calendar.Date

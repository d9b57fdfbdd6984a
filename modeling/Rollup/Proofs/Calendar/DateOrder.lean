import Mathlib.Order.Bounds.Defs
import Rollup.Proofs.Calendar.Dates
/-!
The order of dates. Day numbers count the days of the calendar in its order: a later date has a
greater number, whatever the signs of the years. So dates and day numbers are inverse to each
other, and the first day of a month or a year is the last one of its kind before any of its days.
-/
namespace Rollup.Calendar.Date

/-- A day of a month that has such a day, in any year. -/
structure Proper (d : Date) : Prop where
  month_pos : 1 ≤ d.month
  month_le : d.month ≤ 12
  day_pos : 1 ≤ d.day
  day_le : d.day ≤ daysInMonth d.year d.month

theorem daysInMonth_le (year : Int) (month : Nat) : daysInMonth year month ≤ 31 := by
  unfold daysInMonth
  split
  · split <;> omega
  · split <;> omega

/-- Months and days have at most two digits. -/
theorem Proper.lt_hundred {d : Date} (h : d.Proper) : d.month < 100 ∧ d.day < 100 := by
  have hmonth := h.month_le
  have hday := h.day_le.trans (daysInMonth_le d.year d.month)
  omega

/-- The order of dates: years decide first, then months, then days. -/
def Before (d e : Date) : Prop :=
  d.year < e.year ∨ (d.year = e.year ∧
    (d.month < e.month ∨ (d.month = e.month ∧ d.day < e.day)))

theorem proper_first (year : Int) {month : Nat} (h₀ : 1 ≤ month) (h₁ : month ≤ 12) :
    Proper ⟨year, month, 1⟩ := by
  refine ⟨h₀, h₁, Nat.le_refl 1, ?_⟩
  change 1 ≤ daysInMonth year month
  unfold daysInMonth
  split_ifs <;> omega

theorem before_trichotomy (d e : Date) : d.Before e ∨ d = e ∨ e.Before d := by
  obtain ⟨y, m, k⟩ := d
  obtain ⟨z, n, l⟩ := e
  unfold Before
  simp only [mk.injEq]
  omega

theorem proper_ofDayNumber (n : Int) : (ofDayNumber n).Proper := by
  obtain ⟨cycle, y, t, hy₀, hy₁, ht₀, ht₁, hleap, _, hdate⟩ := ofDayNumber_eq n
  have hday := day_le_daysInMonth ht₀ ht₁ hleap rfl
  rw [hdate]
  split
  next hmonth =>
    rw [if_pos hmonth] at hday
    constructor <;> dsimp only <;> omega
  next hmonth =>
    rw [if_neg hmonth] at hday
    constructor <;> dsimp only <;> omega

/-! ### Later dates have greater numbers -/

theorem dayNumber_add_days (year : Int) (month day k : Nat) :
    dayNumber ⟨year, month, day + k⟩ = dayNumber ⟨year, month, day⟩ + k := by
  unfold dayNumber
  dsimp only
  split <;> omega

/-- A month ends the day before the next one starts. -/
theorem dayNumber_nextMonth (year : Int) {month : Nat} (h₀ : 1 ≤ month) (h₁ : month < 12) :
    dayNumber ⟨year, month + 1, 1⟩ = dayNumber ⟨year, month, 1⟩ + daysInMonth year month := by
  -- Years of the day numbers start in March, so the leap year rule is needed in February only.
  by_cases hfebruary : month = 2
  · subst hfebruary
    unfold dayNumber daysInMonth isLeap
    simp
    split_ifs <;> omega
  · interval_cases month <;> simp_all [dayNumber, daysInMonth] <;> omega

/-- A year ends with the thirty-one days of its last month. -/
theorem dayNumber_nextYear (year : Int) :
    dayNumber ⟨year + 1, 1, 1⟩ = dayNumber ⟨year, 12, 1⟩ + 31 := by
  simp [dayNumber]
  omega

theorem dayNumber_eq_first_add {d : Date} (h : d.Proper) :
    d.dayNumber = dayNumber ⟨d.year, d.month, 1⟩ + (d.day - 1 : Nat) := by
  rw [← dayNumber_add_days, Nat.add_sub_cancel' h.day_pos]

theorem dayNumber_lt_nextMonth {d : Date} (h : d.Proper) (hmonth : d.month < 12) :
    d.dayNumber < dayNumber ⟨d.year, d.month + 1, 1⟩ := by
  have hlast := h.day_le
  have hfirst := h.day_pos
  rw [dayNumber_eq_first_add h, dayNumber_nextMonth d.year h.month_pos hmonth]
  omega

theorem firstOfMonth_mono (year : Int) {m n : Nat} (hm : 1 ≤ m) (hn : n ≤ 12) (h : m ≤ n) :
    dayNumber ⟨year, m, 1⟩ ≤ dayNumber ⟨year, n, 1⟩ := by
  induction n, h using Nat.le_induction with
  | base => exact Int.le_refl _
  | succ n hmn ih =>
    have hnext := dayNumber_nextMonth year (hm.trans hmn) hn
    have hbefore := ih (by omega)
    omega

theorem dayNumber_lt_nextYear {d : Date} (h : d.Proper) :
    d.dayNumber < dayNumber ⟨d.year + 1, 1, 1⟩ := by
  have hnext := dayNumber_nextYear d.year
  rcases Nat.lt_or_eq_of_le h.month_le with hmonth | hmonth
  · have hbefore := dayNumber_lt_nextMonth h hmonth
    have hdecember := firstOfMonth_mono d.year (Nat.le_add_left 1 d.month) (Nat.le_refl 12) hmonth
    omega
  · have hlast : d.day ≤ 31 := by simpa [daysInMonth, hmonth] using h.day_le
    rw [dayNumber_eq_first_add h, hmonth]
    omega

theorem newYear_mono {y z : Int} (h : y ≤ z) : dayNumber ⟨y, 1, 1⟩ ≤ dayNumber ⟨z, 1, 1⟩ := by
  induction z, h using Int.leInduction with
  | base => exact Int.le_refl _
  | succ z _ ih =>
    have hnext := dayNumber_lt_nextYear (proper_first z (Nat.le_refl 1) (by decide))
    dsimp only at hnext
    omega

theorem newYear_le_dayNumber {d : Date} (h : d.Proper) :
    dayNumber ⟨d.year, 1, 1⟩ ≤ d.dayNumber := by
  have hmonth := firstOfMonth_mono d.year (Nat.le_refl 1) h.month_le h.month_pos
  rw [dayNumber_eq_first_add h]
  omega

theorem dayNumber_lt {d e : Date} (hd : d.Proper) (he : e.Proper) (h : d.Before e) :
    d.dayNumber < e.dayNumber := by
  rcases h with hyear | ⟨hyear, hmonth | ⟨hmonth, hday⟩⟩
  · calc
      d.dayNumber < dayNumber ⟨d.year + 1, 1, 1⟩ := dayNumber_lt_nextYear hd
      _ ≤ dayNumber ⟨e.year, 1, 1⟩ := newYear_mono hyear
      _ ≤ e.dayNumber := newYear_le_dayNumber he
  · have hbefore := dayNumber_lt_nextMonth hd (Nat.lt_of_lt_of_le hmonth he.month_le)
    have hmono := firstOfMonth_mono d.year (Nat.le_add_left 1 d.month) he.month_le hmonth
    rw [dayNumber_eq_first_add he, ← hyear]
    omega
  · have hfirst := hd.day_pos
    rw [dayNumber_eq_first_add hd, dayNumber_eq_first_add he, ← hyear, ← hmonth]
    omega

/-- Day numbers count in the order of dates. -/
theorem dayNumber_lt_iff {d e : Date} (hd : d.Proper) (he : e.Proper) :
    d.dayNumber < e.dayNumber ↔ d.Before e := by
  constructor
  · intro h
    rcases before_trichotomy d e with hbefore | rfl | hbefore
    · exact hbefore
    · exact absurd h (Int.lt_irrefl _)
    · exact absurd h (Int.lt_asymm (dayNumber_lt he hd hbefore))
  · exact dayNumber_lt hd he

theorem ofDayNumber_dayNumber {d : Date} (h : d.Proper) : ofDayNumber d.dayNumber = d := by
  have hnumber := dayNumber_ofDayNumber d.dayNumber
  have hproper := proper_ofDayNumber d.dayNumber
  rcases before_trichotomy (ofDayNumber d.dayNumber) d with hbefore | heq | hbefore
  · exact absurd hnumber (Int.ne_of_lt (dayNumber_lt hproper h hbefore))
  · exact heq
  · exact absurd hnumber.symm (Int.ne_of_lt (dayNumber_lt h hproper hbefore))

theorem dayNumber_le_iff {d e : Date} (hd : d.Proper) (he : e.Proper) :
    d.dayNumber ≤ e.dayNumber ↔ ¬e.Before d := by
  rw [← dayNumber_lt_iff he hd, Int.not_lt]

/-! ### The bounds of the calendar -/

theorem Valid.proper {d : Date} (h : d.Valid) : d.Proper :=
  ⟨h.2.2.1, h.2.2.2.1, h.2.2.2.2.1, h.2.2.2.2.2⟩

theorem Valid.firstDay_le {d : Date} (h : d.Valid) : firstDay ≤ d.dayNumber := by
  have hproper := h.proper
  have hmonth := hproper.month_pos
  have hday := hproper.day_pos
  have hyear := h.1
  unfold firstDay
  rw [dayNumber_le_iff (proper_first firstYear (Nat.le_refl 1) (by decide)) hproper]
  unfold Before
  dsimp only
  omega

theorem Valid.le_lastDay {d : Date} (h : d.Valid) : d.dayNumber ≤ lastDay := by
  have hproper := h.proper
  have hmonth := hproper.month_le
  have hyear := h.2.1
  have hday : d.month = 12 → d.day ≤ 31 := fun hdecember => by
    simpa [daysInMonth, hdecember] using hproper.day_le
  have hlast : Proper ⟨lastYear, 12, 31⟩ := ⟨by decide, by decide, by decide, by decide⟩
  unfold lastDay
  rw [dayNumber_le_iff hproper hlast]
  unfold Before
  dsimp only
  omega

/-! ### First days of months and years -/

/-- A date is the last one of its kind up to a day if it is not after the day and all later dates
of its kind are. -/
theorem isGreatest_dayNumber (kind : Date → Prop) {first : Date} {n : Int} (hproper : first.Proper)
    (hkind : kind first) (hbefore : ¬(ofDayNumber n).Before first)
    (hlater : ∀ e, kind e → first.Before e → (ofDayNumber n).Before e) :
    IsGreatest {k | kind (ofDayNumber k) ∧ k ≤ n} first.dayNumber := by
  constructor
  · refine ⟨by rwa [ofDayNumber_dayNumber hproper], ?_⟩
    rwa [← dayNumber_ofDayNumber n, dayNumber_le_iff hproper (proper_ofDayNumber n)]
  · rintro k ⟨hk, hle⟩
    rw [← dayNumber_ofDayNumber k, dayNumber_le_iff (proper_ofDayNumber k) hproper]
    intro hfirst
    have hlt := dayNumber_lt (proper_ofDayNumber n) (proper_ofDayNumber k) (hlater _ hk hfirst)
    rw [dayNumber_ofDayNumber, dayNumber_ofDayNumber] at hlt
    omega

/-- The last first day of a month up to a day is that of the day's own month. -/
theorem isGreatest_firstOfMonth (n : Int) :
    IsGreatest {k | (ofDayNumber k).day = 1 ∧ k ≤ n}
      (dayNumber ⟨(ofDayNumber n).year, (ofDayNumber n).month, 1⟩) := by
  obtain ⟨hmonth₀, hmonth₁, hday, _⟩ := proper_ofDayNumber n
  apply isGreatest_dayNumber (fun d => d.day = 1) (proper_first _ hmonth₀ hmonth₁) rfl
  · unfold Before
    dsimp only
    omega
  · intro e he hlater
    unfold Before at hlater ⊢
    dsimp only at he hlater
    omega

theorem isGreatest_newYear (n : Int) :
    IsGreatest {k | ((ofDayNumber k).month = 1 ∧ (ofDayNumber k).day = 1) ∧ k ≤ n}
      (dayNumber ⟨(ofDayNumber n).year, 1, 1⟩) := by
  obtain ⟨hmonth, _, hday, _⟩ := proper_ofDayNumber n
  apply isGreatest_dayNumber (fun d => d.month = 1 ∧ d.day = 1)
    (proper_first _ (Nat.le_refl 1) (by decide)) ⟨rfl, rfl⟩
  · unfold Before
    dsimp only
    omega
  · intro e he hlater
    unfold Before at hlater ⊢
    dsimp only at he hlater
    omega

end Rollup.Calendar.Date

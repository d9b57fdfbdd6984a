import Rollup.Calendar.Interval
import Rollup.Proofs.Calendar.DateOrder
/-!
Truncation. Setting the fields of an instant to the start of a unit never falls back to the instant
itself. The start of a unit that an instant lies in is the latest instant not after it at which the
unit starts. That alone makes truncation idempotent and monotone, and lets a unit absorb the units
that divide it.
-/
namespace Rollup.Calendar

/-! ### Instants at which units start -/

namespace Instant

/-- The clock shows no minutes, no seconds and no part of a second. -/
def OnTheHour (t : Instant) : Prop := t.minute = 0 ∧ t.clockSecond = 0 ∧ t.clockNano = 0

def AtMidnight (t : Instant) : Prop := t.hour = 0 ∧ t.OnTheHour

instance (t : Instant) : Decidable t.OnTheHour := by unfold OnTheHour; infer_instance
instance (t : Instant) : Decidable t.AtMidnight := by unfold AtMidnight; infer_instance

theorem onTheHour_iff {t : Instant} : t.OnTheHour ↔ t.second % 3600 = 0 ∧ t.nano = 0 := by
  unfold OnTheHour minute clockSecond clockNano
  by_cases hleap : t.IsLeapSecond
  · have hnano : nanosPerSecond ≤ t.nano := hleap
    unfold nanosPerSecond at hnano
    simp only [hleap, if_true]
    omega
  · simp only [hleap, if_false]
    omega

theorem atMidnight_iff {t : Instant} : t.AtMidnight ↔ t.second = 0 ∧ t.nano = 0 := by
  unfold AtMidnight hour
  rw [onTheHour_iff]
  omega

theorem le_iff {s t : Instant} : s ≤ t ↔
    s.unixSeconds < t.unixSeconds ∨ (s.unixSeconds = t.unixSeconds ∧ s.nano ≤ t.nano) :=
  Iff.rfl

theorem le_refl (t : Instant) : t ≤ t := by
  rw [le_iff]
  omega

theorem le_trans {s t u : Instant} (hst : s ≤ t) (htu : t ≤ u) : s ≤ u := by
  rw [le_iff] at *
  omega

theorem le_antisymm {s t : Instant} (hs : s.Representable) (ht : t.Representable) (hst : s ≤ t)
    (hts : t ≤ s) : s = t := by
  obtain ⟨_, _, hsecond, _⟩ := hs
  obtain ⟨_, _, hsecond', _⟩ := ht
  obtain ⟨day, second, nano⟩ := s
  obtain ⟨day', second', nano'⟩ := t
  rw [le_iff] at hst hts
  unfold unixSeconds at hst hts
  dsimp only at hst hts hsecond hsecond'
  simp only [mk.injEq]
  omega

theorem day_le_of_le {s t : Instant} (ht : t.Representable) (h : s ≤ t) : s.day ≤ t.day := by
  have hsecond := ht.2.2.1
  rw [le_iff] at h
  unfold unixSeconds at h
  omega

theorem midnight_le {t : Instant} {n : Int} (h : n ≤ t.day) : (⟨n, 0, 0⟩ : Instant) ≤ t := by
  rw [le_iff]
  unfold unixSeconds
  dsimp only
  omega

theorem representable_midnight {n : Int} (h₀ : Date.firstDay ≤ n) (h₁ : n ≤ Date.lastDay) :
    (⟨n, 0, 0⟩ : Instant).Representable :=
  ⟨h₀, h₁, Nat.zero_lt_succ _, Nat.zero_lt_succ _⟩

/-! ### Setting fields -/

/-- The fields that show the time within an hour are all set. -/
theorem toHour_eq (t : Instant) : t.toHour = ⟨t.day, t.second - t.second % 3600, 0⟩ := by
  have hsecond : (t.second / 3600 * 3600 + 0 * 60 + t.second % 60) / 60 * 60 + 0 =
      t.second - t.second % 3600 := by omega
  have hset : (t.withMinute? 0 >>= (·.withSecond? 0) >>= (·.withNano? 0)) =
      some ⟨t.day, (t.second / 3600 * 3600 + 0 * 60 + t.second % 60) / 60 * 60 + 0, 0⟩ := rfl
  unfold toHour
  rw [hset, hsecond, Option.getD_some]

theorem toMidnight_eq (t : Instant) : t.toMidnight = t.midnight := by
  have hhour : t.toMidnight = (⟨t.day, 0 * 3600 + t.second % 3600, t.nano⟩ : Instant).toHour := rfl
  have hsecond : 0 * 3600 + t.second % 3600 - (0 * 3600 + t.second % 3600) % 3600 = 0 := by omega
  rw [hhour, toHour_eq, hsecond]
  rfl

/-- Every month has a first day. -/
theorem withDay?_one (t : Instant) :
    t.withDay? 1 = some { t with day := Date.dayNumber ⟨t.date.year, t.date.month, 1⟩ } := by
  have hdate : t.date.Proper := Date.proper_ofDayNumber t.day
  have hfirst := Date.proper_first t.date.year hdate.month_pos hdate.month_le
  exact if_pos ⟨Nat.le_refl 1, hfirst.day_le⟩

/-- The first day of a month is moved to any other month. -/
theorem withMonth?_one {t : Instant} {year : Int} {month : Nat} (h : t.date = ⟨year, month, 1⟩) :
    t.withMonth? 1 = some { t with day := Date.dayNumber ⟨year, 1, 1⟩ } := by
  have hjanuary := Date.proper_first year (Nat.le_refl 1) (by decide : 1 ≤ 12)
  unfold withMonth?
  rw [h, if_pos ⟨Nat.le_refl 1, hjanuary.month_le, hjanuary.day_le⟩]

theorem withDay?_bind_withMonth? (t : Instant) : (t.withDay? 1 >>= (·.withMonth? 1)) =
    some { t with day := Date.dayNumber ⟨t.date.year, 1, 1⟩ } := by
  have hdate : t.date.Proper := Date.proper_ofDayNumber t.day
  let first : Instant := { t with day := Date.dayNumber ⟨t.date.year, t.date.month, 1⟩ }
  have hfirst : first.date = ⟨t.date.year, t.date.month, 1⟩ := Date.ofDayNumber_dayNumber
    (Date.proper_first t.date.year hdate.month_pos hdate.month_le)
  rw [withDay?_one]
  exact withMonth?_one hfirst

end Instant

/-- A day some whole weeks from the fifth of January 1970, which was a Monday. -/
def IsMonday (day : Int) : Prop := (day - Date.dayNumber ⟨1970, 1, 5⟩) % 7 = 0

instance (day : Int) : Decidable (IsMonday day) := by unfold IsMonday; infer_instance

theorem isMonday_iff {n : Int} : IsMonday n ↔ daysSinceMonday n = 0 := by
  have hfirst : Date.dayNumber ⟨1970, 1, 5⟩ = 4 := by decide
  unfold IsMonday daysSinceMonday
  rw [hfirst]
  omega

theorem isGreatest_monday (n : Int) :
    IsGreatest {k | IsMonday k ∧ k ≤ n} (n - daysSinceMonday n) := by
  simp only [isMonday_iff]
  unfold daysSinceMonday
  refine ⟨⟨by omega, by omega⟩, ?_⟩
  rintro k ⟨hk, hle⟩
  omega

namespace Interval

/-- The unit starts at an instant. -/
def StartsAt (unit : Interval) (t : Instant) : Prop :=
  match unit with
  | hour => t.OnTheHour
  | day => t.AtMidnight
  | week => t.AtMidnight ∧ IsMonday t.day
  | month => t.AtMidnight ∧ t.date.day = 1
  | year => t.AtMidnight ∧ t.date.month = 1 ∧ t.date.day = 1

instance (unit : Interval) (t : Instant) : Decidable (unit.StartsAt t) := by
  cases unit <;> unfold StartsAt <;> infer_instance

/-- Whether every start of the coarser unit is one of the finer unit. Weeks divide no month and no
year. -/
def divides (finer coarser : Interval) : Bool :=
  match finer, coarser with
  | hour, _ => true
  | day, hour => false
  | day, _ => true
  | week, week => true
  | month, month => true
  | month, year => true
  | year, year => true
  | _, _ => false

variable {unit finer coarser : Interval} {t u : Instant}

theorem StartsAt.onTheHour (h : unit.StartsAt t) : t.OnTheHour := by
  cases unit with
  | hour => exact h
  | day => exact h.2
  | week | month | year => exact h.1.2

theorem StartsAt.not_isLeapSecond (h : unit.StartsAt t) : ¬t.IsLeapSecond := by
  obtain ⟨_, hnano⟩ := Instant.onTheHour_iff.mp h.onTheHour
  unfold Instant.IsLeapSecond nanosPerSecond
  omega

theorem StartsAt.of_divides (hdivides : finer.divides coarser = true) (h : coarser.StartsAt t) :
    finer.StartsAt t := by
  cases finer with
  | hour => exact h.onTheHour
  | day =>
    cases coarser with
    | hour => cases hdivides
    | day => exact h
    | week | month | year => exact h.1
  | week => cases coarser <;> first | exact h | cases hdivides
  | month =>
    cases coarser with
    | month => exact h
    | year => exact ⟨h.1, h.2.2⟩
    | hour | day | week => cases hdivides
  | year => cases coarser <;> first | exact h | cases hdivides

/-! ### Starts of units

What the setters leave of an instant. None of their fallbacks is taken; only going back some days
may leave the calendar.
-/

theorem truncate?_hour (t : Instant) :
    hour.truncate? t = some ⟨t.day, t.second - t.second % 3600, 0⟩ := by
  change some t.toHour = _
  rw [t.toHour_eq]

theorem truncate?_day (t : Instant) : day.truncate? t = some t.midnight := by
  change some t.toMidnight = _
  rw [t.toMidnight_eq]

theorem truncate?_month (t : Instant) :
    month.truncate? t = some ⟨Date.dayNumber ⟨t.date.year, t.date.month, 1⟩, 0, 0⟩ := by
  change some ((t.withDay? 1).getD t).toMidnight = _
  rw [t.withDay?_one, Option.getD_some, Instant.toMidnight_eq]
  rfl

theorem truncate?_year (t : Instant) :
    year.truncate? t = some ⟨Date.dayNumber ⟨t.date.year, 1, 1⟩, 0, 0⟩ := by
  change some ((t.withDay? 1 >>= (·.withMonth? 1)).getD t).toMidnight = _
  rw [t.withDay?_bind_withMonth?, Option.getD_some, Instant.toMidnight_eq]
  rfl

theorem truncate?_week (t : Instant) : week.truncate? t =
    let start := t.minusDays (daysSinceMonday t.day).toNat
    if Date.firstDay ≤ start.day ∧ start.day ≤ Date.lastDay then some start.midnight else none := by
  change (t.minusDays? _).map Instant.toMidnight = _
  unfold Instant.minusDays?
  dsimp only
  split
  · rw [Option.map_some, Instant.toMidnight_eq]
  · rfl

/-! ### The latest start -/

/-- The latest midnight of some kind of day is that of the latest such day. -/
theorem isGreatest_midnight (kind : Int → Prop) {n : Int} (ht : t.Representable)
    (h : IsGreatest {k | kind k ∧ k ≤ t.day} n) :
    IsGreatest {u : Instant | (u.AtMidnight ∧ kind u.day) ∧ u ≤ t} ⟨n, 0, 0⟩ := by
  obtain ⟨⟨hkind, hle⟩, hupper⟩ := h
  refine ⟨⟨⟨Instant.atMidnight_iff.mpr ⟨rfl, rfl⟩, hkind⟩, Instant.midnight_le hle⟩, ?_⟩
  rintro u ⟨⟨hmidnight, hu⟩, hut⟩
  have hday : u.day ≤ n := hupper ⟨hu, Instant.day_le_of_le ht hut⟩
  obtain ⟨hsecond, hnano⟩ := Instant.atMidnight_iff.mp hmidnight
  rw [Instant.le_iff]
  unfold Instant.unixSeconds
  dsimp only
  omega

theorem truncate?_week_of_not_isLeapSecond (hleap : ¬t.IsLeapSecond) : week.truncate? t =
    if Date.firstDay ≤ t.day - daysSinceMonday t.day ∧
        t.day - daysSinceMonday t.day ≤ Date.lastDay then
      some ⟨t.day - daysSinceMonday t.day, 0, 0⟩
    else none := by
  have hnat : ((daysSinceMonday t.day).toNat : Int) = daysSinceMonday t.day := by
    unfold daysSinceMonday
    omega
  have hmove : t.minusDays (daysSinceMonday t.day).toNat =
      { t with day := t.day - daysSinceMonday t.day } := by
    unfold Instant.minusDays
    rw [if_neg fun h => hleap h.2, hnat]
  rw [truncate?_week, hmove]
  rfl

theorem isGreatest_of_truncate? (ht : t.Representable) (hleap : ¬t.IsLeapSecond)
    (h : unit.truncate? t = some u) : IsGreatest {s | unit.StartsAt s ∧ s ≤ t} u := by
  cases unit with
  | hour =>
    cases (truncate?_hour t).symm.trans h
    constructor
    · constructor
      · change Instant.OnTheHour _
        rw [Instant.onTheHour_iff]
        dsimp only
        omega
      · rw [Instant.le_iff]
        unfold Instant.unixSeconds
        dsimp only
        omega
    · rintro s ⟨hs, hle⟩
      obtain ⟨hsecond, hnano⟩ := Instant.onTheHour_iff.mp hs
      rw [Instant.le_iff] at hle ⊢
      unfold Instant.unixSeconds at hle ⊢
      dsimp only
      omega
  | day =>
    cases (truncate?_day t).symm.trans h
    have hgreatest := isGreatest_midnight (fun _ => True) ht
      ⟨⟨trivial, Int.le_refl t.day⟩, fun k hk => hk.2⟩
    simp only [and_true] at hgreatest
    exact hgreatest
  | week =>
    rw [truncate?_week_of_not_isLeapSecond hleap] at h
    split at h
    · cases h
      exact isGreatest_midnight _ ht (isGreatest_monday t.day)
    · cases h
  | month =>
    cases (truncate?_month t).symm.trans h
    exact isGreatest_midnight _ ht (Date.isGreatest_firstOfMonth t.day)
  | year =>
    cases (truncate?_year t).symm.trans h
    exact isGreatest_midnight _ ht (Date.isGreatest_newYear t.day)

/-- The calendar starts with a year and a month; whether a week starts early enough has to be
known. -/
theorem exists_truncate? (unit : Interval) (ht : t.Representable) (hleap : ¬t.IsLeapSecond)
    (hweek : unit = week → ∃ monday : Instant, monday.Representable ∧ week.StartsAt monday ∧
      monday ≤ t) :
    ∃ start, unit.truncate? t = some start ∧ start.Representable := by
  obtain ⟨hfirst, hlast, hsecond, _⟩ := ht
  have hdate : Date.ofDayNumber Date.firstDay = ⟨Date.firstYear, 1, 1⟩ := by decide
  cases unit with
  | hour =>
    refine ⟨_, truncate?_hour t, hfirst, hlast, ?_, Nat.zero_lt_succ _⟩
    dsimp only
    omega
  | day => exact ⟨_, truncate?_day t, Instant.representable_midnight hfirst hlast⟩
  | week =>
    obtain ⟨monday, hmonday, hstarts, hle⟩ := hweek rfl
    have hday : monday.day ≤ t.day := Instant.day_le_of_le ⟨hfirst, hlast, hsecond, ‹_›⟩ hle
    have hgreatest := isGreatest_monday t.day
    have hstart : monday.day ≤ t.day - daysSinceMonday t.day := hgreatest.2 ⟨hstarts.2, hday⟩
    have hrep := Instant.representable_midnight (hmonday.1.trans hstart)
      (hgreatest.1.2.trans hlast)
    exact ⟨_, by rw [truncate?_week_of_not_isLeapSecond hleap, if_pos ⟨hrep.1, hrep.2.1⟩], hrep⟩
  | month =>
    have hgreatest := Date.isGreatest_firstOfMonth t.day
    have hstart := hgreatest.2 ⟨by rw [hdate], hfirst⟩
    exact ⟨_, truncate?_month t, Instant.representable_midnight hstart (hgreatest.1.2.trans hlast)⟩
  | year =>
    have hgreatest := Date.isGreatest_newYear t.day
    have hstart := hgreatest.2 ⟨by rw [hdate]; exact ⟨rfl, rfl⟩, hfirst⟩
    exact ⟨_, truncate?_year t, Instant.representable_midnight hstart (hgreatest.1.2.trans hlast)⟩

/-- If the unit starts somewhere up to an instant, the start of its unit is not before that. -/
theorem exists_start_between {s : Instant} (hs : s.Representable) (hstarts : unit.StartsAt s)
    (ht : t.Representable) (hleap : ¬t.IsLeapSecond) (hle : s ≤ t) :
    ∃ start, unit.truncate? t = some start ∧ start.Representable ∧ unit.StartsAt start ∧
      s ≤ start ∧ start ≤ t := by
  obtain ⟨start, htruncate, hrep⟩ :=
    exists_truncate? unit ht hleap fun hunit => ⟨s, hs, hunit ▸ hstarts, hle⟩
  obtain ⟨⟨hstart, hbefore⟩, hupper⟩ := isGreatest_of_truncate? ht hleap htruncate
  exact ⟨start, htruncate, hrep, hstart, hupper ⟨hstarts, hle⟩, hbefore⟩

/-- An instant at which a unit starts is the start of the unit that it lies in. -/
theorem truncate?_of_startsAt (ht : t.Representable) (h : unit.StartsAt t) :
    unit.truncate? t = some t := by
  obtain ⟨start, htruncate, hstart, _, hafter, hbefore⟩ :=
    exists_start_between ht h ht h.not_isLeapSecond t.le_refl
  rw [htruncate, Instant.le_antisymm hstart ht hbefore hafter]

/-- Starting a unit that divides this one first makes no difference: between the two starts there is
no room for another start of this unit. -/
theorem exists_truncate?_divides {start : Instant} (ht : t.Representable) (hleap : ¬t.IsLeapSecond)
    (hrep : start.Representable) (hgreatest : IsGreatest {s | unit.StartsAt s ∧ s ≤ t} start)
    (hdivides : finer.divides unit = true) :
    ∃ part, finer.truncate? t = some part ∧ unit.truncate? part = some start := by
  obtain ⟨hstarts, hle⟩ := hgreatest.1
  obtain ⟨part, hpart, hpartRep, hpartStarts, hstartPart, hpartLe⟩ :=
    exists_start_between hrep (hstarts.of_divides hdivides) ht hleap hle
  obtain ⟨again, hagain, hagainRep, hagainStarts, hstartAgain, hagainPart⟩ :=
    exists_start_between hrep hstarts hpartRep hpartStarts.not_isLeapSecond hstartPart
  have hagainStart : again ≤ start :=
    hgreatest.2 ⟨hagainStarts, Instant.le_trans hagainPart hpartLe⟩
  refine ⟨part, hpart, ?_⟩
  rw [hagain, Instant.le_antisymm hagainRep hrep hagainStart hstartAgain]

/-- The start of a unit is the latest instant not after the given one at which the unit starts. So
it is its own start, later instants have no earlier start, and it makes no difference whether a
unit that divides this one is started before or after. -/
theorem truncation_latest_start (unit : Interval) (ht : t.Representable) (hleap : ¬t.IsLeapSecond)
    (hweek : unit = week → ∃ monday : Instant, monday.Representable ∧ week.StartsAt monday ∧
      monday ≤ t) :
    ∃ start, unit.truncate? t = some start ∧ start.Representable ∧
      IsGreatest {s | unit.StartsAt s ∧ s ≤ t} start ∧
      unit.truncate? start = some start ∧
      (∀ later : Instant, later.Representable → ¬later.IsLeapSecond → t ≤ later →
        ∃ next, unit.truncate? later = some next ∧ start ≤ next) ∧
      ∀ finer : Interval, finer.divides unit = true → finer.truncate? start = some start ∧
        ∃ part, finer.truncate? t = some part ∧ unit.truncate? part = some start := by
  obtain ⟨start, htruncate, hrep⟩ := exists_truncate? unit ht hleap hweek
  have hgreatest := isGreatest_of_truncate? ht hleap htruncate
  obtain ⟨hstarts, hle⟩ := hgreatest.1
  refine ⟨start, htruncate, hrep, hgreatest, truncate?_of_startsAt hrep hstarts, ?_, ?_⟩
  · intro later hlater hlaterLeap htl
    obtain ⟨next, hnext, _, _, hafter, _⟩ :=
      exists_start_between hrep hstarts hlater hlaterLeap (Instant.le_trans hle htl)
    exact ⟨next, hnext, hafter⟩
  · intro finer hdivides
    exact ⟨truncate?_of_startsAt hrep (hstarts.of_divides hdivides),
      exists_truncate?_divides ht hleap hrep hgreatest hdivides⟩

/-- The first of January of the year -1 was a Friday. -/
theorem truncation_latest_start_newYear : ∃ t start : Instant, t.date = ⟨-1, 1, 1⟩ ∧
    week.truncate? t = some start ∧ start.date = ⟨-2, 12, 28⟩ ∧
    IsGreatest {s | week.StartsAt s ∧ s ≤ t} start ∧
    ∃ midnight, day.truncate? t = some midnight ∧ week.truncate? midnight = some start := by
  let t : Instant := ⟨-719893, 45000, 5⟩
  have hmonday : ∃ monday : Instant, monday.Representable ∧ week.StartsAt monday ∧ monday ≤ t :=
    ⟨⟨-719897, 0, 0⟩, by decide +kernel, by decide +kernel, by decide +kernel⟩
  obtain ⟨start, htruncate, _, hgreatest, _, _, hfiner⟩ :=
    truncation_latest_start week (t := t) (by decide +kernel) (by decide +kernel) fun _ => hmonday
  have hstart : week.truncate? t = some ⟨-719897, 0, 0⟩ := by decide +kernel
  rw [htruncate, Option.some.injEq] at hstart
  refine ⟨t, start, by decide +kernel, htruncate, by rw [hstart]; decide +kernel, hgreatest, ?_⟩
  exact (hfiner day rfl).2

end Interval

end Rollup.Calendar

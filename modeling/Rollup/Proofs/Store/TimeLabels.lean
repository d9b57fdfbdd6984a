import Rollup.Calendar.Template
import Rollup.Statement.Compile
import Rollup.Proofs.Store.ByteOrder
import Rollup.Proofs.Store.DateFunctions
/-!
Labels of time. A dimension of time without a template of its own labels each group with the date
on which the unit starts. In years of four digits these labels sort as the starts do, and for days
and coarser units no two groups share one; hours of one day do.
-/
namespace Rollup

open Calendar (Instant Interval)

namespace Calendar

/-! ### Dates as labels -/

namespace Instant

variable {s t : Instant}

theorem format_defaultFormat (t : Instant) : t.format Dimension.defaultFormat = t.date.text := by
  have hpieces : pieces Dimension.defaultFormat.toList =
      [.field .year, .plain '-', .field .month, .plain '-', .field .day] := by
    decide +kernel
  simp [← String.toList_inj, format, hpieces, Piece.text, Field.text, Date.text]

/-- The order of dates as texts is that of the days. -/
theorem FourDigits.dateText_lt_iff (hs : s.FourDigits) (ht : t.FourDigits) :
    s.date.text < t.date.text ↔ s.day < t.day := by
  have h := hs.dateText_append_lt_iff ht [] []
  rw [List.append_nil, List.append_nil] at h
  rw [String.lt_iff, h]
  simp

theorem FourDigits.dateText_eq_iff (hs : s.FourDigits) (ht : t.FourDigits) :
    s.date.text = t.date.text ↔ s.day = t.day := by
  constructor
  · intro h
    have hbefore := hs.dateText_lt_iff ht
    have hbehind := ht.dateText_lt_iff hs
    simp only [h, String.lt_irrefl, false_iff] at hbefore hbehind
    omega
  · intro h
    rw [(date_eq_iff s t).mpr h]

theorem lt_of_day_lt (hs : s.Representable) (h : s.day < t.day) : s < t := by
  intro hle
  have hday := day_le_of_le hs hle
  omega

end Instant

/-- Units from the day up start at midnight. -/
theorem Interval.eq_midnight_of_truncate? {unit : Interval} {t start : Instant}
    (hunit : unit ≠ hour) (h : unit.truncate? t = some start) : start = start.midnight := by
  cases unit with
  | hour => exact absurd rfl hunit
  | day => cases (truncate?_day t).symm.trans h; rfl
  | month => cases (truncate?_month t).symm.trans h; rfl
  | year => cases (truncate?_year t).symm.trans h; rfl
  | week =>
    rw [truncate?_week] at h
    dsimp only at h
    split at h
    · cases h
      rfl
    · cases h

theorem Instant.midnight_lt_iff (s t : Instant) : s.midnight < t.midnight ↔ s.day < t.day := by
  change ¬t.midnight ≤ s.midnight ↔ _
  simp only [le_iff, midnight, unixSeconds]
  omega

theorem Instant.midnight_eq_iff (s t : Instant) : s.midnight = t.midnight ↔ s.day = t.day := by
  simp [midnight]

end Calendar

namespace Store

open Cell (compareBytes)

variable {d : Dimension} {unit : Interval} {s t start next : Instant}

/-- A dimension of time that brings no template is selected with one whose labels sort as the starts
of their units do. Labels of days and coarser units are equal only for one start; an hour with a
smaller label is an earlier one. -/
theorem defaultLabel_chronological (hkind : d.kind = .time) (hinterval : d.interval = some unit)
    (hformat : nonBlank d.format = none) (hstart : unit.truncate? s = some start)
    (hnext : unit.truncate? t = some next) (hyear : start.FourDigits) (hyear' : next.FourDigits) :
    ∃ template, d.projection =
        .ok (.dimension ⟨d.field, some unit⟩ (some template) (nonBlank d.label)) ∧
      (compareBytes (bytesOf (start.format template)) (bytesOf (next.format template)) = .lt →
        start < next) ∧
      (unit ≠ .hour →
        (start.format template = next.format template ↔ start = next) ∧
        (compareBytes (bytesOf (start.format template)) (bytesOf (next.format template)) = .lt ↔
          start < next) ∧
        (compareBytes (bytesOf (start.format template)) (bytesOf (next.format template)) = .gt ↔
          next < start)) := by
  have hbucket : d.bucket = some unit := by simp [Dimension.bucket, hkind, hinterval]
  have htemplate : d.template = Dimension.defaultFormat := by simp [Dimension.template, hformat]
  have hallowed : Dimension.defaultFormat.toList.any isForbidden = false := by decide
  refine ⟨Dimension.defaultFormat, by simp [Dimension.projection, hbucket, htemplate, hallowed], ?_⟩
  rw [Cell.compareBytes_lt_iff, Cell.compareBytes_gt_iff, Instant.format_defaultFormat,
    Instant.format_defaultFormat, hyear.dateText_lt_iff hyear', hyear'.dateText_lt_iff hyear,
    hyear.dateText_eq_iff hyear']
  refine ⟨Instant.lt_of_day_lt hyear.representable, fun hunit => ?_⟩
  rw [Interval.eq_midnight_of_truncate? hunit hstart, Interval.eq_midnight_of_truncate? hunit hnext,
    Instant.midnight_eq_iff, Instant.midnight_lt_iff, Instant.midnight_lt_iff]
  simp [Instant.midnight]

/-- A dimension of weeks with a blank template. -/
def weekly : Dimension where
  field := "created_at"
  kind := .time
  interval := some .week
  format := some " "

/-- The last second of 2023, a Sunday, and the midnight behind it. -/
theorem defaultLabel_chronological_newYear : ∃ template,
    weekly.projection = .ok (.dimension ⟨"created_at", some .week⟩ (some template) none) ∧
      compareBytes (bytesOf (Instant.format ⟨19716, 0, 0⟩ template))
        (bytesOf (Instant.format ⟨19723, 0, 0⟩ template)) = .lt := by
  have hstart : Interval.week.truncate? ⟨19722, 86399, 0⟩ = some ⟨19716, 0, 0⟩ := by decide
  have hnext : Interval.week.truncate? ⟨19723, 0, 0⟩ = some ⟨19723, 0, 0⟩ := by decide
  obtain ⟨template, hprojection, _, hlabels⟩ := defaultLabel_chronological (d := weekly) rfl rfl
    (by decide) hstart hnext (by decide) (by decide)
  exact ⟨template, hprojection, (hlabels (by decide)).2.1.mpr (by decide)⟩

end Store

end Rollup

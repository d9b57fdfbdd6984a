import Rollup.Store.Function
import Rollup.Proofs.Calendar.WholeSeconds
/-!
Date functions on texts. A query hands the start of a unit from one function to the other as a
text, and the second one reads it again. Nothing is lost on the way: starts of units are whole
seconds, and the text of a whole second is read as that second.
-/
namespace Rollup

open Calendar (Instant Interval)

namespace Calendar

theorem Instant.wholeSecond_of_nano {t : Instant} (h : t.nano = 0) : t.wholeSecond = t := by
  have hleap : ¬t.IsLeapSecond := by
    unfold IsLeapSecond nanosPerSecond
    omega
  obtain ⟨day, second, nano⟩ := t
  cases h
  exact if_neg hleap

/-- The start of a unit is an instant of the calendar without a part of a second. A week is started
only if it has such a start; for the other units a leap second is as good as the second before. -/
theorem Interval.start_of_truncate? {unit : Interval} {t start : Instant} (ht : t.Representable)
    (h : unit.truncate? t = some start) : start.Representable ∧ start.nano = 0 := by
  by_cases hunit : unit = week
  · subst hunit
    rw [truncate?_week] at h
    dsimp only at h
    split at h
    next hday =>
      cases h
      exact ⟨Instant.representable_midnight hday.1 hday.2, rfl⟩
    next => cases h
  · let second : Instant := ⟨t.day, t.second, 0⟩
    have hsecond : second.Representable := ⟨ht.1, ht.2.1, ht.2.2.1, Nat.zero_lt_succ _⟩
    have hleap : ¬second.IsLeapSecond := Nat.not_le.mpr (Nat.zero_lt_succ _)
    obtain ⟨start', hstart, hrep⟩ := exists_truncate? unit hsecond hleap fun h => absurd h hunit
    have hsame : unit.truncate? second = unit.truncate? t := truncate?_eq_of_second hunit rfl rfl
    have hstarts : unit.StartsAt start' := (isGreatest_of_truncate? hsecond hleap hstart).1.1
    rw [hsame] at hstart
    cases h.symm.trans hstart
    exact ⟨hrep, (Instant.onTheHour_iff.mp hstarts.onTheHour).2⟩

end Calendar

namespace Store

theorem instantOf_of_ofText? {s : String} {t : Instant} (h : Instant.ofText? s = some t) :
    instantOf (.text s) = .ok (some t) := by
  unfold instantOf
  dsimp only
  rw [h]

theorem instantOf_text {t : Instant} (h : t.Representable) :
    instantOf (.text t.text) = .ok (some t.wholeSecond) :=
  instantOf_of_ofText? (Instant.ofText?_text h)

theorem instantOf_integer {n : Int} {t : Instant} (h : instantOf (.integer n) = .ok (some t)) :
    t.Representable ∧ t.nano = 0 := by
  unfold instantOf Instant.ofUnixSeconds? at h
  dsimp only at h
  by_cases hrep : Instant.Representable ⟨n / 86400, (n % 86400).toNat, 0⟩
  · rw [if_pos hrep] at h
    cases h
    exact ⟨hrep, rfl⟩
  · rw [if_neg hrep] at h
    cases h

theorem representable_of_instantOf {x : Cell} {t : Instant} (h : instantOf x = .ok (some t)) :
    t.Representable := by
  cases x with
  | integer n => exact (instantOf_integer h).1
  | text s =>
    unfold instantOf at h
    dsimp only at h
    split at h
    next u hu =>
      cases h
      exact (Instant.recorded_of_ofText? hu).representable
    next => cases h
  | null | real _ | blob _ => cases h

theorem truncateCell_of_instantOf {x : Cell} {t start : Instant} {unit : String}
    (hx : instantOf x = .ok (some t)) (hstart : (Interval.ofName unit).truncate? t = some start) :
    truncateCell (.text unit) x = .ok (.text start.text) := by
  unfold truncateCell
  rw [hx]
  simp only [textParameter, bind, Except.bind, hstart]
  rfl

theorem formatCell_of_instantOf {x : Cell} {t : Instant} (hx : instantOf x = .ok (some t))
    (template : String) : formatCell x (.text template) = .ok (.text (t.format template)) := by
  unfold formatCell
  rw [hx]
  rfl

/-- Instants go through texts without loss but for the fraction of the second. -/
theorem instants_through_texts :
    (∀ t : Instant, t.Representable → Instant.ofText? t.text = some t.wholeSecond) ∧
    (∀ (x : Cell) (t start : Instant) (unit template : String), instantOf x = .ok (some t) →
      (Interval.ofName unit).truncate? t = some start →
        (do
          let bucket ← ScalarFunction.dateTrunc.apply [.text unit, x]
          ScalarFunction.toChar.apply [bucket, .text template]) =
            .ok (.text (start.format template))) ∧
    ∀ (n : Int) (t : Instant), instantOf (.integer n) = .ok (some t) → ∀ argument : Cell,
      ScalarFunction.dateTrunc.apply [argument, .integer n] =
          ScalarFunction.dateTrunc.apply [argument, .text t.text] ∧
        ScalarFunction.toChar.apply [.integer n, argument] =
          ScalarFunction.toChar.apply [.text t.text, argument] := by
  refine ⟨fun t ht => Instant.ofText?_text ht, ?_, ?_⟩
  · intro x t start unit template hx hstart
    obtain ⟨hrep, hnano⟩ := Interval.start_of_truncate? (representable_of_instantOf hx) hstart
    have hbucket : instantOf (.text start.text) = .ok (some start) := by
      rw [instantOf_text hrep, Instant.wholeSecond_of_nano hnano]
    simp only [ScalarFunction.apply, truncateCell_of_instantOf hx hstart, bind, Except.bind,
      formatCell_of_instantOf hbucket]
  · intro n t hn argument
    obtain ⟨hrep, hnano⟩ := instantOf_integer hn
    have htext : instantOf (.integer n) = instantOf (.text t.text) := by
      rw [instantOf_text hrep, Instant.wholeSecond_of_nano hnano, hn]
    constructor
    · change truncateCell argument (.integer n) = truncateCell argument (.text t.text)
      unfold truncateCell
      rw [htext]
    · change formatCell (.integer n) argument = formatCell (.text t.text) argument
      unfold formatCell
      rw [htext]

/-- The leap second at the end of 2016, on a clock five and a half hours behind universal time, and
the first second of 1970. -/
theorem instants_through_texts_leapSecond :
    Instant.ofText? (Instant.text ⟨17166, 86399, 1500000000⟩) = some ⟨17166, 86399, 1000000000⟩ ∧
    (do
      let bucket ← ScalarFunction.dateTrunc.apply
        [.text "Month", .text "2016-12-31T18:29:60.5-05:30"]
      ScalarFunction.toChar.apply [bucket, .text "YYYY-MM"]) = .ok (.text "2016-12") ∧
    ScalarFunction.toChar.apply [.integer 0, .text "YYYY"] =
      ScalarFunction.toChar.apply [.text "1970-01-01 00:00:00", .text "YYYY"] := by
  obtain ⟨hread, hcompose, hinteger⟩ := instants_through_texts
  have hleap : instantOf (.text "2016-12-31T18:29:60.5-05:30") =
      .ok (some ⟨17166, 86399, 1500000000⟩) := instantOf_of_ofText? (by decide +kernel)
  have hmonth : (Interval.ofName "Month").truncate? ⟨17166, 86399, 1500000000⟩ =
      some ⟨17136, 0, 0⟩ := by
    decide +kernel
  have hformat : Instant.format ⟨17136, 0, 0⟩ "YYYY-MM" = "2016-12" := by decide +kernel
  have hepoch : Instant.text ⟨0, 0, 0⟩ = "1970-01-01 00:00:00" := by decide +kernel
  refine ⟨hread _ (by decide), ?_, ?_⟩
  · rw [hcompose _ _ _ "Month" "YYYY-MM" hleap hmonth, hformat]
  · rw [(hinteger 0 ⟨0, 0, 0⟩ rfl (.text "YYYY")).2, hepoch]

end Store
end Rollup

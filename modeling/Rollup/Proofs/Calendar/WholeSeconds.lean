import Mathlib.Data.Char
import Rollup.Proofs.Calendar.WallClock
/-!
Texts of instants lose the fraction of the second, and only that. A text is read as the instant
with which the second that it shows starts, in any year; and in years of four digits the order of
texts is that of these instants, since each field has a fixed width and the greater fields come
first.
-/
namespace Rollup

open Text (Scanner)
open Text.Scanner

namespace Calendar

/-! ### The order of digits -/

theorem digit_lt_iff {c d : Char} (hc : c.isDigit = true) (hd : d.isDigit = true) :
    c < d ↔ Double.digitValue c < Double.digitValue d := by
  have hc := (Double.toNat_of_isDigit hc).1
  have hd := (Double.toNat_of_isDigit hd).1
  rw [Char.lt_def, UInt32.lt_iff_toNat_lt]
  unfold Double.digitValue
  change c.toNat < d.toNat ↔ c.toNat - 48 < d.toNat - 48
  omega

/-- Where the beginnings are equally long, the rest decides only if they are equal. -/
theorem append_lt_append_iff {as bs cs ds : List Char} (h : as.length = bs.length) :
    as ++ cs < bs ++ ds ↔ as < bs ∨ (as = bs ∧ cs < ds) := by
  induction as generalizing bs with
  | nil =>
    cases List.length_eq_zero_iff.mp h.symm
    simp
  | cons a as ih =>
    obtain ⟨b, bs, rfl⟩ := List.exists_cons_of_length_eq_add_one h.symm
    rw [List.cons_append, List.cons_append, List.cons_lt_cons_iff, List.cons_lt_cons_iff,
      ih (by simpa using h), List.cons.injEq]
    tauto

theorem ofDigits_cons_lt {c d : Char} {cs ds : List Char} (h : cs.length = ds.length)
    (hcs : ∀ c ∈ cs, c.isDigit = true) (hcd : Double.digitValue c < Double.digitValue d) :
    Double.ofDigits (c :: cs) < Double.ofDigits (d :: ds) := by
  rw [Double.ofDigits_cons, Double.ofDigits_cons, ← h]
  calc 10 ^ cs.length * Double.digitValue c + Double.ofDigits cs
      < 10 ^ cs.length * Double.digitValue c + 10 ^ cs.length :=
        Nat.add_lt_add_left (Double.ofDigits_lt hcs) _
    _ = 10 ^ cs.length * (Double.digitValue c + 1) := by rw [Nat.mul_add, Nat.mul_one]
    _ ≤ 10 ^ cs.length * Double.digitValue d := Nat.mul_le_mul_left _ hcd
    _ ≤ 10 ^ cs.length * Double.digitValue d + Double.ofDigits ds := Nat.le_add_right _ _

/-- Equally long runs of digits are ordered as their values. -/
theorem digits_lt_iff {cs ds : List Char} (h : cs.length = ds.length)
    (hcs : ∀ c ∈ cs, c.isDigit = true) (hds : ∀ c ∈ ds, c.isDigit = true) :
    cs < ds ↔ Double.ofDigits cs < Double.ofDigits ds := by
  induction cs generalizing ds with
  | nil =>
    cases List.length_eq_zero_iff.mp h.symm
    simp
  | cons c cs ih =>
    obtain ⟨d, ds, rfl⟩ := List.exists_cons_of_length_eq_add_one h.symm
    rw [List.forall_mem_cons] at hcs hds
    obtain ⟨hc, hcs⟩ := hcs
    obtain ⟨hd, hds⟩ := hds
    have hlength : cs.length = ds.length := Nat.succ.inj h
    rw [List.cons_lt_cons_iff]
    rcases lt_trichotomy c d with hcd | rfl | hcd
    · exact iff_of_true (.inl hcd)
        (ofDigits_cons_lt hlength hcs ((digit_lt_iff hc hd).mp hcd))
    · rw [Double.ofDigits_cons, Double.ofDigits_cons, hlength, Nat.add_lt_add_iff_left,
        ← ih hlength hcs hds]
      simp
    · refine iff_of_false ?_
        (Nat.lt_asymm (ofDigits_cons_lt hlength.symm hds ((digit_lt_iff hd hc).mp hcd)))
      rintro (hlt | ⟨rfl, _⟩)
      · exact lt_asymm hcd hlt
      · exact lt_irrefl _ hcd

theorem padded_lt_iff {width m n : Nat} (hw : 0 < width) (hm : m < 10 ^ width)
    (hn : n < 10 ^ width) : (padded width m).toList < (padded width n).toList ↔ m < n := by
  rw [digits_lt_iff ((length_padded hw hm).trans (length_padded hw hn).symm)
    (fun _ => isDigit_of_mem_padded) (fun _ => isDigit_of_mem_padded), ofDigits_padded,
    ofDigits_padded]

/-- A field of fixed width decides, or else what follows it. -/
theorem field_lt_iff {width m n : Nat} (hw : 0 < width) (hm : m < 10 ^ width) (hn : n < 10 ^ width)
    (cs ds : List Char) : (padded width m).toList ++ cs < (padded width n).toList ++ ds ↔
      m < n ∨ (m = n ∧ cs < ds) := by
  have heq : (padded width m).toList = (padded width n).toList ↔ m = n := by
    refine ⟨fun h => ?_, fun h => by rw [h]⟩
    rw [← ofDigits_padded width m, h, ofDigits_padded]
  rw [append_lt_append_iff ((length_padded hw hm).trans (length_padded hw hn).symm),
    padded_lt_iff hw hm hn, heq]

theorem marked_lt_iff {width m n : Nat} (hw : 0 < width) (hm : m < 10 ^ width)
    (hn : n < 10 ^ width) (mark : Char) (cs ds : List Char) :
    mark :: ((padded width m).toList ++ cs) < mark :: ((padded width n).toList ++ ds) ↔
      m < n ∨ (m = n ∧ cs < ds) := by
  rw [List.cons_lt_cons_iff, ← field_lt_iff hw hm hn cs ds]
  simp

namespace Instant

variable {s t : Instant}

/-! ### Whole seconds -/

/-- The instant without the fraction of its second. A leap second that is not the last second of
its minute, as an offset by seconds may place it, is no other to a clock than the second after
it. -/
def wholeSecond (t : Instant) : Instant :=
  if t.IsLeapSecond then
    if t.second % 60 = 59 then { t with nano := nanosPerSecond } else ⟨t.day, t.second + 1, 0⟩
  else { t with nano := 0 }

theorem Recorded.wholeSecond_eq (h : t.Recorded) :
    t.wholeSecond = { t with nano := t.nano - t.clockNano } := by
  unfold wholeSecond clockNano
  split
  next hleap =>
    have hnano : nanosPerSecond ≤ t.nano := hleap
    rw [if_pos (h.leap hleap)]
    simp only [mk.injEq, true_and]
    omega
  next => simp

theorem wholeSecond_eq_ofClock (t : Instant) :
    t.wholeSecond = ofClock t.date t.hour t.minute t.clockSecond 0 := by
  have hday : t.date.dayNumber = t.day := Date.dayNumber_ofDayNumber t.day
  unfold wholeSecond ofClock clockSecond hour minute
  rw [hday]
  split_ifs <;> simp only [mk.injEq, true_and, and_true] <;> omega

theorem ofClock?_wholeSecond (h : t.Representable) :
    ofClock? t.date t.hour t.minute t.clockSecond 0 = some t.wholeSecond := by
  obtain ⟨hhour, hminute, hsecond⟩ := clock_bounds h
  have hdate : t.date.Valid := Date.valid_ofDayNumber h.1 h.2.1
  unfold ofClock?
  rw [if_pos ⟨hdate, hhour, hminute, hsecond, by decide⟩, wholeSecond_eq_ofClock]

/-- The text of an instant is read as the second that it shows. -/
theorem ofText?_text (h : t.Representable) : ofText? t.text = some t.wholeSecond := by
  obtain ⟨hhour, hminute, hsecond⟩ := clock_bounds h
  have hproper : t.date.Proper := Date.proper_ofDayNumber t.day
  have hread : dateAndTime blanks t.text.toList = some (some t.wholeSecond, []) := by
    rw [text_eq, ← ofClock?_wholeSecond h]
    exact Scanner.dateAndTime_text hproper
      (fun cs hcs => ⟨stops_append (w := " ") rfl cs, blanks_of_stops hcs⟩)
      (hhour.trans (by decide)) (hminute.trans (by decide)) (lt_of_le_of_lt hsecond (by decide))
      (by simp) (by simp)
  have htrim : Text.trimChars t.text.toList = t.text.toList := by
    have hdigits : ∀ c ∈ ([] : List Char), c.isDigit = true := by simp
    have hends := trimChars_dateAndTime t.date " " t.hour t.minute t.clockSecond hdigits ""
      (by simp)
    simpa [text_eq] using hends
  have hlayout : dateAndTime blanks ∈ layouts := by simp [layouts]
  exact ofText?_of_layout hlayout (ofLayout?_eq_some_iff.mpr (by rw [htrim, hread]))

/-! ### The order of whole seconds -/

theorem wholeSecond_le_iff (hs : s.Representable) (ht : t.Representable) :
    s.wholeSecond ≤ t.wholeSecond ↔ s.day < t.day ∨ (s.day = t.day ∧ (s.hour < t.hour ∨
      (s.hour = t.hour ∧ (s.minute < t.minute ∨
        (s.minute = t.minute ∧ s.clockSecond ≤ t.clockSecond))))) := by
  have hday : s.date.dayNumber = s.day := Date.dayNumber_ofDayNumber s.day
  have hday' : t.date.dayNumber = t.day := Date.dayNumber_ofDayNumber t.day
  obtain ⟨hhour, hminute, hsecond⟩ := clock_bounds hs
  obtain ⟨hhour', hminute', hsecond'⟩ := clock_bounds ht
  rw [le_iff, wholeSecond_eq_ofClock, wholeSecond_eq_ofClock]
  unfold ofClock unixSeconds nanosPerSecond
  rw [hday, hday']
  split_ifs <;> dsimp only <;> omega

/-! ### The order of texts -/

/-- An instant in a year that is written in four digits, without a sign. -/
structure FourDigits (t : Instant) : Prop where
  representable : t.Representable
  year : 0 ≤ t.date.year ∧ t.date.year ≤ 9999

instance (t : Instant) : Decidable t.FourDigits :=
  decidable_of_iff (t.Representable ∧ 0 ≤ t.date.year ∧ t.date.year ≤ 9999)
    ⟨fun h => ⟨h.1, h.2⟩, fun h => ⟨h.1, h.2⟩⟩

/-- Strictly earlier. -/
instance : LT Instant := ⟨fun s t => ¬t ≤ s⟩

instance (s t : Instant) : Decidable (s < t) := inferInstanceAs (Decidable (¬t ≤ s))

theorem wholeSecond_lt_iff (hs : s.Representable) (ht : t.Representable) :
    s.wholeSecond < t.wholeSecond ↔ s.day < t.day ∨ (s.day = t.day ∧ (s.hour < t.hour ∨
      (s.hour = t.hour ∧ (s.minute < t.minute ∨
        (s.minute = t.minute ∧ s.clockSecond < t.clockSecond))))) := by
  change ¬t.wholeSecond ≤ s.wholeSecond ↔ _
  rw [wholeSecond_le_iff ht hs]
  omega

theorem nano_of_wholeSecond_eq (h : t.wholeSecond = t) : t.nano = 0 ∨ t.nano = nanosPerSecond := by
  rw [← h, wholeSecond_eq_ofClock]
  unfold ofClock
  split
  · exact .inr (Nat.zero_add _)
  · exact .inl rfl

/-- A whole second is not later than an instant if it is not later than the second of the
instant. -/
theorem Recorded.le_wholeSecond_iff (ht : t.Recorded) (hs : s.wholeSecond = s) :
    s ≤ t.wholeSecond ↔ s ≤ t := by
  have hnano := nano_of_wholeSecond_eq hs
  have hpositive : 0 < nanosPerSecond := by decide
  rw [ht.wholeSecond_eq, le_iff, le_iff]
  unfold unixSeconds clockNano
  dsimp only
  split
  next hleap =>
    have hover : nanosPerSecond ≤ t.nano := hleap
    omega
  next hleap =>
    have hbelow : ¬nanosPerSecond ≤ t.nano := hleap
    omega

theorem toList_text (t : Instant) : t.text.toList = t.date.text.toList ++
    (' ' :: ((padded 2 t.hour).toList ++ (':' :: ((padded 2 t.minute).toList ++
      (':' :: ((padded 2 t.clockSecond).toList ++ [])))))) := by
  simp [text, clockText, twoDigits]

theorem FourDigits.dateText_append (h : t.FourDigits) (cs : List Char) : t.date.text.toList ++ cs =
    (padded 4 t.date.year.natAbs).toList ++ ('-' :: ((padded 2 t.date.month).toList ++
      ('-' :: ((padded 2 t.date.day).toList ++ cs)))) := by
  simp [Date.text, yearText, twoDigits, h.year]

theorem date_eq_iff (s t : Instant) : s.date = t.date ↔ s.day = t.day := by
  refine ⟨fun h => ?_, fun h => by rw [date, h, date]⟩
  rw [← Date.dayNumber_ofDayNumber s.day, ← Date.dayNumber_ofDayNumber t.day]
  exact congrArg Date.dayNumber h

theorem date_before_iff (s t : Instant) : s.date.Before t.date ↔ s.day < t.day := by
  unfold date
  rw [← Date.dayNumber_lt_iff (Date.proper_ofDayNumber _) (Date.proper_ofDayNumber _),
    Date.dayNumber_ofDayNumber, Date.dayNumber_ofDayNumber]

/-- Texts that start with dates have the order of the days; on one day, the order of what follows
the date. -/
theorem FourDigits.dateText_append_lt_iff (hs : s.FourDigits) (ht : t.FourDigits)
    (cs ds : List Char) : s.date.text.toList ++ cs < t.date.text.toList ++ ds ↔
      s.day < t.day ∨ (s.day = t.day ∧ cs < ds) := by
  obtain ⟨hmonth, hday⟩ := (Date.proper_ofDayNumber s.day).lt_hundred
  obtain ⟨hmonth', hday'⟩ := (Date.proper_ofDayNumber t.day).lt_hundred
  have hyear := hs.year
  have hyear' := ht.year
  have hyearLt : s.date.year.natAbs < t.date.year.natAbs ↔ s.date.year < t.date.year := by omega
  have hyearEq : s.date.year.natAbs = t.date.year.natAbs ↔ s.date.year = t.date.year := by omega
  rw [← date_before_iff, ← date_eq_iff, Date.mk.injEq, hs.dateText_append, ht.dateText_append,
    field_lt_iff (by decide) (by omega) (by omega), hyearLt, hyearEq,
    marked_lt_iff (by decide) hmonth hmonth', marked_lt_iff (by decide) hday hday']
  unfold Date.Before
  simp only [and_or_left, and_assoc, or_assoc]

/-- The order of texts is that of the seconds that they show. -/
theorem FourDigits.text_lt_iff (hs : s.FourDigits) (ht : t.FourDigits) :
    s.text < t.text ↔ s.wholeSecond < t.wholeSecond := by
  obtain ⟨hhour, hminute, hsecond⟩ := clock_bounds hs.representable
  obtain ⟨hhour', hminute', hsecond'⟩ := clock_bounds ht.representable
  rw [wholeSecond_lt_iff hs.representable ht.representable, String.lt_iff, toList_text, toList_text,
    hs.dateText_append_lt_iff ht, marked_lt_iff (by decide) (by omega) (by omega),
    marked_lt_iff (by decide) (by omega) (by omega),
    marked_lt_iff (by decide) (by omega) (by omega)]
  simp only [List.lt_irrefl, and_false, or_false]

theorem FourDigits.text_eq_iff (hs : s.FourDigits) (ht : t.FourDigits) :
    s.text = t.text ↔ s.wholeSecond = t.wholeSecond := by
  constructor
  · intro h
    have hread := ofText?_text hs.representable
    rw [h, ofText?_text ht.representable] at hread
    exact (Option.some.inj hread).symm
  · intro h
    apply Std.le_antisymm
    · exact fun hlt => (ht.text_lt_iff hs).mp hlt (h ▸ le_refl _)
    · exact fun hlt => (hs.text_lt_iff ht).mp hlt (h ▸ le_refl _)

/-! ### Instants that are read -/

theorem Recorded.of_ofClock? {date : Date} {hour minute second nano : Nat}
    (h : ofClock? date hour minute second nano = some t) : t.Recorded :=
  ⟨representable_of_ofClock? h, leap_of_ofClock? h⟩

theorem recorded_of_layout {layout : Text.Scanner (Option Instant)} (h : layout ∈ layouts) :
    Answers layout fun x => ∀ t ∈ x, t.Recorded := by
  have hdateAndTime (parting : Text.Scanner Unit) :
      Answers (dateAndTime parting) fun x => ∀ t ∈ x, t.Recorded := by
    unfold dateAndTime
    iterate 8 refine .skip fun _ => ?_
    exact .pure fun t ht => .of_ofClock? ht
  simp only [layouts, List.mem_cons, List.not_mem_nil, or_false] at h
  rcases h with rfl | rfl | rfl | rfl
  · unfold internet
    iterate 12 refine .skip fun _ => ?_
    refine .bind (Scanner.offset_wholeMinutes _) fun offset hoffset => .pure fun t ht => ?_
    exact .of_atOffset? hoffset ht
  · exact hdateAndTime _
  · exact hdateAndTime _
  · exact .skip fun _ => .pure fun t ht => .of_ofClock? ht

theorem recorded_of_ofText? {s : String} (h : ofText? s = some t) : t.Recorded := by
  rw [ofText?_eq_findSome?] at h
  obtain ⟨layout, hlayout, hread⟩ := List.exists_of_findSome?_eq_some h
  exact recorded_of_layout hlayout _ _ _ (ofLayout?_eq_some_iff.mp hread) t rfl

end Instant

end Calendar
end Rollup

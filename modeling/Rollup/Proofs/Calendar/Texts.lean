import Rollup.Calendar.Printer
import Rollup.Calendar.Reader
import Rollup.Proofs.Text.Scanning
import Rollup.Proofs.Calendar.DateOrder
/-!
Instants and their exact texts. The lenient reader takes back what the printer wrote, be the year
of any size, the second a fraction or a leap second; and all that it reads from any text can be
printed again.
-/
namespace Rollup

open Text (Scanner)
open Text.Scanner

/-! ### Runs of digits -/

namespace Double

theorem ofDigits_cons (c : Char) (ds : List Char) :
    ofDigits (c :: ds) = 10 ^ ds.length * digitValue c + ofDigits ds := by
  change Nat.ofDigitChars 10 (c :: ds) 0 = _
  rw [Nat.ofDigitChars_cons, Nat.ofDigitChars_eq_ofDigitChars_zero, Nat.mul_zero, Nat.zero_add]
  rfl

theorem ofDigits_lt {ds : List Char} (h : ∀ c ∈ ds, c.isDigit = true) :
    ofDigits ds < 10 ^ ds.length := by
  induction ds with
  | nil => decide
  | cons c ds ih =>
    have hc := digitValue_lt (h c List.mem_cons_self)
    have hds := ih fun d hd => h d (List.mem_cons_of_mem _ hd)
    rw [ofDigits_cons, List.length_cons, Nat.pow_succ]
    calc 10 ^ ds.length * digitValue c + ofDigits ds
        < 10 ^ ds.length * digitValue c + 10 ^ ds.length := Nat.add_lt_add_left hds _
      _ = 10 ^ ds.length * (digitValue c + 1) := by rw [Nat.mul_add, Nat.mul_one]
      _ ≤ 10 ^ ds.length * 10 := Nat.mul_le_mul_left _ hc

end Double

/-! ### Padded numbers -/

namespace Calendar

theorem toList_padded (width n : Nat) : (padded width n).toList =
    List.replicate (width - (Nat.toDigits 10 n).length) '0' ++ Nat.toDigits 10 n := by
  unfold padded
  simp only [Nat.toString_eq_repr, String.toList_append, String.toList_ofList, Nat.toList_repr,
    ← String.length_toList]

theorem isDigit_of_mem_padded {width n : Nat} {c : Char} (h : c ∈ (padded width n).toList) :
    c.isDigit = true := by
  rw [toList_padded, List.mem_append, List.mem_replicate] at h
  rcases h with ⟨_, rfl⟩ | h
  · decide
  · exact isDigit_of_mem_toDigits h

theorem ofDigits_padded (width n : Nat) : Double.ofDigits (padded width n).toList = n := by
  change Nat.ofDigitChars 10 (padded width n).toList 0 = n
  rw [toList_padded, Nat.ofDigitChars_append, Nat.ofDigitChars_replicate_zero, Nat.mul_zero,
    Nat.ofDigitChars_ten_toDigits]

theorem padded_ne_nil (width n : Nat) : (padded width n).toList ≠ [] := by
  rw [toList_padded]
  simp [Nat.toDigits_ne_nil]

theorem length_padded {width n : Nat} (hw : 0 < width) (hn : n < 10 ^ width) :
    (padded width n).toList.length = width := by
  have hlength := (Nat.length_toDigits_le_iff (by decide) hw).mpr hn
  rw [toList_padded, List.length_append, List.length_replicate]
  omega

theorem digits_padded {limit : Option Nat} {width n : Nat}
    (hlimit : ∀ w ∈ limit, (padded width n).toList.length ≤ w) {rest : List Char}
    (hrest : Stops Char.isDigit rest) :
    digits limit ((padded width n).toList ++ rest) = some (n, rest) := by
  rw [digits_run (padded_ne_nil width n) (fun _ => isDigit_of_mem_padded) hlimit hrest,
    ofDigits_padded]

/-! ### Blanks and single characters -/

theorem blanks_of_stops {cs : List Char} (h : Stops Text.isBlank cs) :
    blanks cs = some ((), cs) := by
  unfold blanks
  rw [Text.dropBlanks_of_head h]

theorem isBlank_of_isDigit {c : Char} (h : c.isDigit = true) : Text.isBlank c = false := by
  obtain ⟨hlow, hhigh⟩ := Double.toNat_of_isDigit h
  simp only [Text.isBlank, Text.blankRanges, List.any_cons, List.any_nil, Bool.or_false,
    Bool.or_eq_false_iff, Bool.and_eq_false_iff, decide_eq_false_iff_not]
  omega

theorem stops_padded {test : Char → Bool} (htest : ∀ c, c.isDigit = true → test c = false)
    (width n : Nat) (rest : List Char) : Stops test ((padded width n).toList ++ rest) :=
  stops_of_digits (padded_ne_nil width n) (fun _ => isDigit_of_mem_padded) htest rest

/-! ### Readers of the parts of an instant -/

namespace Scanner

theorem char_cons (c : Char) (rest : List Char) :
    Text.Scanner.char c (c :: rest) = some ((), rest) := by
  have hnext : charWhere (· == c) (c :: rest) = some (c, rest) := by simp [charWhere]
  unfold Text.Scanner.char
  rw [bind_of_eq hnext]
  rfl

theorem separator_cons (rest : List Char) : separator ('T' :: rest) = some ((), rest) := rfl

theorem small_twoDigits {n : Nat} (hn : n < 100) {rest : List Char}
    (hrest : Stops Char.isDigit rest) : small ((twoDigits n).toList ++ rest) = some (n, rest) := by
  have hblanks := blanks_of_stops (stops_padded (fun _ => isBlank_of_isDigit) 2 n rest)
  have hlength := length_padded (by decide : 0 < 2) (by simpa using hn)
  unfold small twoDigits
  rw [bind_of_eq hblanks]
  exact digits_padded (by intro w hw; cases hw; exact hlength.le) hrest

theorem year_of_unsigned {cs rest : List Char} {n : Nat} (hstart : Stops (!·.isDigit) cs)
    (hdigits : digits (some 4) cs = some (n, rest)) : year cs = some ((n : Int), rest) := by
  have hblanks : blanks cs = some ((), cs) :=
    blanks_of_stops fun c hc => isBlank_of_isDigit (by simpa using hstart c hc)
  unfold year
  rw [bind_of_eq hblanks, bind_of_eq (p := get) rfl]
  split
  next => cases hstart '-' rfl
  next => cases hstart '+' rfl
  next =>
    rw [bind_of_eq hdigits]
    rfl

theorem year_of_signed {cs rest : List Char} {n : Nat} (hdigits : digits none cs = some (n, rest)) :
    year ('-' :: cs) = some (-(n : Int), rest) ∧ year ('+' :: cs) = some ((n : Int), rest) := by
  have hminus : blanks ('-' :: cs) = some ((), '-' :: cs) := rfl
  have hplus : blanks ('+' :: cs) = some ((), '+' :: cs) := rfl
  constructor
  · unfold year
    rw [bind_of_eq hminus, bind_of_eq (p := get) rfl]
    simp only
    rw [bind_of_eq (p := set cs) rfl, bind_of_eq hdigits]
    rfl
  · unfold year
    rw [bind_of_eq hplus, bind_of_eq (p := get) rfl]
    simp only
    rw [bind_of_eq (p := set cs) rfl, bind_of_eq hdigits]
    rfl

/-- Years of four digits have no sign, all others have one. -/
theorem year_yearText (y : Int) {rest : List Char} (hrest : Stops Char.isDigit rest) :
    year ((yearText y).toList ++ rest) = some (y, rest) := by
  unfold yearText
  split
  next hplain =>
    have hlength := length_padded (n := y.natAbs) (by decide : 0 < 4) (by omega)
    have hdigits : digits (some 4) ((padded 4 y.natAbs).toList ++ rest) = some (y.natAbs, rest) :=
      digits_padded (by intro w hw; cases hw; exact hlength.le) hrest
    have hstart : Stops (!·.isDigit) ((padded 4 y.natAbs).toList ++ rest) :=
      stops_padded (fun c hc => by simp [hc]) 4 y.natAbs rest
    have hyear : ((y.natAbs : Nat) : Int) = y := by omega
    rw [year_of_unsigned hstart hdigits, hyear]
  next =>
    have hdigits : digits none ((padded 4 y.natAbs).toList ++ rest) = some (y.natAbs, rest) :=
      digits_padded (by simp) hrest
    obtain ⟨hminus, hplus⟩ := year_of_signed hdigits
    split
    · have hyear : -((y.natAbs : Nat) : Int) = y := by omega
      rw [hyear] at hminus
      simpa using hminus
    · have hyear : ((y.natAbs : Nat) : Int) = y := by omega
      rw [hyear] at hplus
      simpa using hplus

/-- Without a point there is no fraction. -/
theorem fraction_of_stops {rest : List Char} (h : Stops (· == '.') rest) :
    fraction rest = some (0, rest) := by
  unfold fraction
  split
  next => cases h '.' rfl
  next => rfl

/-- Up to nine digits behind a point are the beginning of the nine digits of the nanoseconds. -/
theorem fraction_run {ds rest : List Char} (hne : ds ≠ []) (hds : ∀ c ∈ ds, c.isDigit = true)
    (hlength : ds.length ≤ 9) (hrest : Stops Char.isDigit rest) :
    fraction ('.' :: (ds ++ rest)) = some (Double.ofDigits ds * 10 ^ (9 - ds.length), rest) := by
  have htake := (takeWhile_append_of_stops hds hrest).1
  unfold fraction
  simp only [htake, List.take_of_length_le hlength, List.isEmpty_iff, hne, if_false,
    List.drop_left, Double.tenTo]
  rfl

/-- The fraction of a second in three, six or nine digits is the number of its nanoseconds. -/
theorem fraction_padded {width n : Nat} (hw : 0 < width) (hw' : width ≤ 9) (hn : n < 10 ^ width)
    {rest : List Char} (hrest : Stops Char.isDigit rest) :
    fraction ('.' :: ((padded width n).toList ++ rest)) =
      some (n * 10 ^ (9 - width), rest) := by
  have hlength := length_padded hw hn
  rw [fraction_run (padded_ne_nil width n) (fun _ => isDigit_of_mem_padded) (hlength.le.trans hw')
    hrest, ofDigits_padded, hlength]

theorem lenientOffset_universal : lenientOffset ['Z'] = some (0, []) := rfl

theorem clockNano_lt {t : Instant} (h : t.nano < 2 * nanosPerSecond) :
    t.clockNano < nanosPerSecond := by
  unfold Instant.clockNano
  split
  next hleap => unfold Instant.IsLeapSecond at hleap; omega
  next hleap => unfold Instant.IsLeapSecond at hleap; omega

theorem fraction_fractionText {t : Instant} (h : t.nano < 2 * nanosPerSecond) {rest : List Char}
    (hrest : Stops Char.isDigit rest) (hpoint : Stops (· == '.') rest) :
    fraction (t.fractionText.toList ++ rest) = some (t.clockNano, rest) := by
  have hbound : t.clockNano < 1000000000 := clockNano_lt h
  unfold Instant.fractionText
  generalize t.clockNano = n at hbound ⊢
  simp only
  split
  next hzero =>
    subst hzero
    exact fraction_of_stops hpoint
  next =>
    split
    next hmillis =>
      have hread := fraction_padded (n := n / 1000000) (by decide : 0 < 3) (by decide) (by omega)
        hrest
      have hnanos : n / 1000000 * 10 ^ (9 - 3) = n := by omega
      rw [hnanos] at hread
      simpa using hread
    next =>
      split
      next hmicros =>
        have hread := fraction_padded (n := n / 1000) (by decide : 0 < 6) (by decide) (by omega)
          hrest
        have hnanos : n / 1000 * 10 ^ (9 - 6) = n := by omega
        rw [hnanos] at hread
        simpa using hread
      next =>
        have hread := fraction_padded (by decide : 0 < 9) (by decide) (by omega) hrest
        rw [Nat.sub_self, Nat.pow_zero, Nat.mul_one] at hread
        simpa using hread

/-! ### Offsets -/

theorem signedOffset_wholeMinutes (parting : Text.Scanner Unit) :
    Answers (signedOffset parting) (· % 60 = 0) := by
  unfold signedOffset
  iterate 4 refine .skip fun _ => ?_
  split
  · refine .pure ?_
    split <;> omega
  · exact .failure

theorem offset_wholeMinutes (parting : Text.Scanner Unit) :
    Answers (offset parting) (· % 60 = 0) := by
  intro cs seconds rest h
  unfold offset at h
  split at h
  · cases h; rfl
  · cases h; rfl
  · exact signedOffset_wholeMinutes parting _ _ _ h

theorem lenientOffset_wholeMinutes : Answers lenientOffset (· % 60 = 0) := by
  intro cs seconds rest h
  unfold lenientOffset at h
  split at h
  · cases h; rfl
  · exact offset_wholeMinutes _ _ _ _ h

end Scanner

/-! ### Instants read from texts -/

namespace Instant

/-- An instant that a text can say: leap seconds are the last seconds of their minutes. -/
structure Recorded (t : Instant) : Prop where
  representable : t.Representable
  leap : t.IsLeapSecond → t.second % 60 = 59

variable {t : Instant}

theorem clock_bounds (h : t.Representable) : t.hour < 24 ∧ t.minute < 60 ∧ t.clockSecond ≤ 60 := by
  obtain ⟨_, _, hsecond, _⟩ := h
  refine ⟨?_, ?_, ?_⟩
  · unfold hour
    omega
  · unfold minute
    omega
  · unfold clockSecond
    split <;> omega

theorem Recorded.ofClock_eq (h : t.Recorded) :
    ofClock t.date t.hour t.minute t.clockSecond t.clockNano = t := by
  have hday : t.date.dayNumber = t.day := Date.dayNumber_ofDayNumber t.day
  have hnano := h.representable.2.2.2
  obtain ⟨day, second, nano⟩ := t
  unfold ofClock
  rw [hday]
  unfold clockSecond clockNano hour minute
  by_cases hleap : IsLeapSecond ⟨day, second, nano⟩
  · have hlast := h.leap hleap
    have hover : nanosPerSecond ≤ nano := hleap
    simp only [hleap, if_true] at hlast ⊢
    rw [if_pos (by omega)]
    simp only [mk.injEq, true_and]
    omega
  · simp only [hleap, if_false]
    rw [if_neg (by omega)]
    simp only [mk.injEq, true_and, and_true]
    omega

theorem Recorded.ofClock?_eq (h : t.Recorded) :
    ofClock? t.date t.hour t.minute t.clockSecond t.clockNano = some t := by
  obtain ⟨hfirst, hlast, _, hnano⟩ := h.representable
  obtain ⟨hhour, hminute, hsecond⟩ := clock_bounds h.representable
  unfold ofClock?
  rw [if_pos ⟨Date.valid_ofDayNumber hfirst hlast, hhour, hminute, hsecond,
    Scanner.clockNano_lt hnano⟩, h.ofClock_eq]

theorem minusSeconds?_zero (h : t.Representable) : t.minusSeconds? 0 = some t := by
  obtain ⟨hfirst, hlast, hsecond, hnano⟩ := h
  unfold minusSeconds?
  have hmoved : (⟨t.day + ((t.second : Int) - 0) / 86400, (((t.second : Int) - 0) % 86400).toNat,
      t.nano⟩ : Instant) = t := by
    obtain ⟨day, second, nano⟩ := t
    simp only [mk.injEq, and_true] at hsecond ⊢
    omega
  simp only [hmoved]
  exact if_pos ⟨hfirst, hlast, hsecond, hnano⟩

theorem stops_fractionText (t : Instant) : Stops Char.isDigit (t.fractionText.toList ++ ['Z']) := by
  have hpoint (n : String) : Stops Char.isDigit (("." ++ n).toList ++ ['Z']) := by
    rw [String.toList_append, List.append_assoc]
    exact stops_append (w := ".") rfl _
  unfold fractionText
  dsimp only
  split_ifs
  · exact stops_append (w := "Z") rfl []
  · exact hpoint _
  · exact hpoint _
  · exact hpoint _

theorem toList_exactText (t : Instant) : (t.exactText "Z").toList =
    (yearText t.date.year).toList ++ ('-' :: ((twoDigits t.date.month).toList ++
      ('-' :: ((twoDigits t.date.day).toList ++ ('T' :: ((twoDigits t.hour).toList ++
        (':' :: ((twoDigits t.minute).toList ++ (':' :: ((twoDigits t.clockSecond).toList ++
          (t.fractionText.toList ++ ['Z']))))))))))) := by
  simp [exactText, Date.text, clockText]

theorem Recorded.lenient_exactText (h : t.Recorded) :
    lenient (t.exactText "Z").toList = some (some t, []) := by
  have hnano := h.representable.2.2.2
  have hproper : t.date.Proper := Date.proper_ofDayNumber t.day
  obtain ⟨hmonth, hday⟩ := hproper.lt_hundred
  obtain ⟨hhour, hminute, hsecond⟩ := clock_bounds h.representable
  have hhour : t.hour < 100 := hhour.trans (by decide)
  have hminute : t.minute < 100 := hminute.trans (by decide)
  have hclock : t.clockSecond < 100 := lt_of_le_of_lt hsecond (by decide)
  have hdash (rest : List Char) : Stops Char.isDigit ('-' :: rest) := stops_append (w := "-") rfl _
  have hcolon (rest : List Char) : Stops Char.isDigit (':' :: rest) := stops_append (w := ":") rfl _
  have htee (rest : List Char) : Stops Char.isDigit ('T' :: rest) := stops_append (w := "T") rfl _
  have hfraction : Stops Char.isDigit (t.fractionText.toList ++ ['Z']) := stops_fractionText t
  have hnone (c : Char) (rest : List Char) (hc : Text.isBlank c = false) :
      blanks (c :: rest) = some ((), c :: rest) := blanks_of_stops (by simpa [Stops] using hc)
  have hinstant : atOffset? (ofClock? ⟨t.date.year, t.date.month, t.date.day⟩ t.hour t.minute
      t.clockSecond t.clockNano) 0 = some t := by
    change (ofClock? t.date t.hour t.minute t.clockSecond t.clockNano).bind (·.minusSeconds? 0) = _
    rw [h.ofClock?_eq]
    exact minusSeconds?_zero h.representable
  unfold lenient
  rw [toList_exactText, bind_of_eq (Scanner.year_yearText _ (hdash _)),
    bind_of_eq (hnone '-' _ (by decide)), bind_of_eq (Scanner.char_cons _ _),
    bind_of_eq (Scanner.small_twoDigits hmonth (hdash _)), bind_of_eq (hnone '-' _ (by decide)),
    bind_of_eq (Scanner.char_cons _ _), bind_of_eq (Scanner.small_twoDigits hday (htee _)),
    bind_of_eq (Scanner.separator_cons _), bind_of_eq (Scanner.small_twoDigits hhour (hcolon _)),
    bind_of_eq (hnone ':' _ (by decide)), bind_of_eq (Scanner.char_cons _ _),
    bind_of_eq (Scanner.small_twoDigits hminute (hcolon _)), bind_of_eq (hnone ':' _ (by decide)),
    bind_of_eq (Scanner.char_cons _ _), bind_of_eq (Scanner.small_twoDigits hclock hfraction),
    bind_of_eq (Scanner.fraction_fractionText hnano (by simp [Stops]) (by simp [Stops])),
    bind_of_eq (hnone 'Z' _ (by decide)), bind_of_eq Scanner.lenientOffset_universal,
    bind_of_eq (blanks_of_stops (by simp [Stops])), hinstant]
  rfl

theorem Recorded.ofLenientText?_exactText (h : t.Recorded) :
    ofLenientText? (t.exactText "Z") = some t := by
  unfold ofLenientText? whole?
  rw [h.lenient_exactText]
  rfl

/-- A leap second is the last second of its minute, and so it stays at a shift by whole minutes. -/
theorem leap_of_ofClock? {date : Date} {hour minute second nano : Nat}
    (h : ofClock? date hour minute second nano = some t) (hleap : t.IsLeapSecond) :
    t.second % 60 = 59 := by
  unfold ofClock? at h
  split at h
  next hclock =>
    obtain ⟨_, _, _, _, hnano⟩ := hclock
    cases h
    unfold ofClock at hleap ⊢
    split at hleap
    next hsecond =>
      rw [if_pos hsecond]
      dsimp only
      omega
    next hsecond =>
      unfold IsLeapSecond at hleap
      dsimp only at hleap
      omega
  next => cases h

theorem Recorded.of_minusSeconds? {u : Instant} {seconds : Int}
    (hleap : u.IsLeapSecond → u.second % 60 = 59) (hseconds : seconds % 60 = 0)
    (h : u.minusSeconds? seconds = some t) : t.Recorded := by
  unfold minusSeconds? at h
  dsimp only at h
  split at h
  next hrep =>
    cases h
    refine ⟨hrep, fun hnano => ?_⟩
    have hlast := hleap hnano
    dsimp only
    omega
  next => cases h

theorem Recorded.of_atOffset? {date : Date} {hour minute second nano : Nat} {offset : Int}
    (hoffset : offset % 60 = 0)
    (h : atOffset? (ofClock? date hour minute second nano) offset = some t) : t.Recorded := by
  unfold atOffset? at h
  split at h
  · obtain ⟨u, hu, ht⟩ := Option.bind_eq_some_iff.mp h
    exact .of_minusSeconds? (leap_of_ofClock? hu) hoffset ht
  · cases h

theorem recorded_of_lenient : Answers lenient fun x => ∀ t ∈ x, t.Recorded := by
  unfold lenient
  iterate 17 refine .skip fun _ => ?_
  refine .bind Scanner.lenientOffset_wholeMinutes fun offset hoffset => ?_
  refine .skip fun _ => .pure fun t ht => ?_
  exact .of_atOffset? hoffset ht

/-- Every instant that a text says can be printed and read again. -/
theorem recorded_of_ofLenientText? {s : String} (h : ofLenientText? s = some t) : t.Recorded := by
  unfold ofLenientText? whole? at h
  split at h
  next x hx => exact recorded_of_lenient _ _ _ hx t (by simpa using h)
  next => cases h

end Instant

end Calendar

end Rollup

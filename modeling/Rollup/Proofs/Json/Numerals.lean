import Mathlib.Data.List.TakeWhile
import Rollup.Json.Printer
import Rollup.Json.Reader
import Rollup.Proofs.Json.Settling
import Rollup.Proofs.Text.Scanning
/-!
Numbers and their numerals. A number survives if its numeral is read as the number; before what may
follow a value it is then read so too.
-/
namespace Rollup.Json

open Fallible
open Text.Scanner (Stops takeWhile_append_of_stops)

/-! ### Numbers that survive -/

/-- The numeral of a number is read as the number. -/
def Number.Survives (n : Number) : Prop := ofText n.print = .ok (.number n)

instance (n : Number) : Decidable n.Survives := by unfold Number.Survives; infer_instance

/-! ### What follows a value -/

/-- The text ends here, or goes on with a comma or a closing bracket. -/
def Follows (rest : List Char) : Prop := ∀ c ∈ rest.head?, c = ',' ∨ c = ']' ∨ c = '}'

theorem Follows.stops {rest : List Char} (h : Follows rest) : Stops Char.isDigit rest := by
  intro c hc
  rcases h c hc with rfl | rfl | rfl <;> rfl

theorem span_append {rest : List Char} (h : Follows rest) (cs : List Char) :
    (cs ++ rest).takeWhile Char.isDigit = cs.takeWhile Char.isDigit ∧
      (cs ++ rest).dropWhile Char.isDigit = cs.dropWhile Char.isDigit ++ rest := by
  induction cs with
  | nil =>
    have hnone : ∀ c ∈ ([] : List Char), c.isDigit = true := by simp
    simpa using takeWhile_append_of_stops hnone h.stops
  | cons c cs ih =>
    rw [List.cons_append]
    by_cases hc : c.isDigit = true
    · simp [hc, ih]
    · simp [hc]

theorem skipSpace_append {cs rest : List Char} (h : skipSpace cs ≠ []) :
    skipSpace (cs ++ rest) = skipSpace cs ++ rest := by
  unfold skipSpace at h ⊢
  induction cs with
  | nil => exact absurd rfl h
  | cons c cs ih =>
    rw [List.cons_append]
    by_cases hc : isSpace c = true
    · rw [List.dropWhile_cons_of_pos hc] at h ⊢
      rw [List.dropWhile_cons_of_pos hc, ih h]
    · rw [List.dropWhile_cons_of_neg hc, List.dropWhile_cons_of_neg hc, List.cons_append]

theorem skipSpace_skipSpace (cs : List Char) : skipSpace (skipSpace cs) = skipSpace cs := by
  unfold skipSpace
  induction cs with
  | nil => rfl
  | cons c cs ih =>
    by_cases hc : isSpace c = true
    · rw [List.dropWhile_cons_of_pos hc, ih]
    · rw [List.dropWhile_cons_of_neg hc, List.dropWhile_cons_of_neg hc]

/-! ### Numerals -/

/-- The digits of an exponent behind its sign. -/
def exponentDigits (negative : Bool) (significand : Nat) (exponent : Int) (down : Bool)
    (cs : List Char) : Draft × Rest :=
  if (cs.takeWhile Char.isDigit).isEmpty then digitsMissing cs
  else
    let e : Int := Double.ofDigits (cs.takeWhile Char.isDigit)
    (decimalDraft negative significand (if down then exponent - e else exponent + e),
      some (cs.dropWhile Char.isDigit))

section Numerals

variable {negative : Bool} {significand : Nat} {exponent : Int} {cs : List Char} {n : Number}
  {r : Rest}

/-- A reader answers a number and would answer it before anything that may follow a value. -/
def Keeps (read : List Char → Draft × Rest) (cs : List Char) (n : Number) (r : Rest) : Prop :=
  ∃ r', r = some r' ∧ ∀ rest, Follows rest → read (cs ++ rest) = (.number n, some (r' ++ rest))

theorem exponentDigits_keeps {down : Bool}
    (h : exponentDigits negative significand exponent down cs = (.number n, r)) :
    Keeps (exponentDigits negative significand exponent down) cs n r := by
  unfold exponentDigits at h
  split at h
  · cases h
  next hdigits =>
    obtain ⟨hnumber, hrest⟩ := Prod.mk.inj h
    refine ⟨_, hrest.symm, fun rest hfollows => ?_⟩
    obtain ⟨htake, hdrop⟩ := span_append hfollows cs
    unfold exponentDigits
    rw [htake, hdrop, if_neg hdigits, ← hnumber]

theorem readExponent_plus (cs : List Char) :
    readExponent negative significand exponent ('+' :: cs) =
      exponentDigits negative significand exponent false cs := rfl

theorem readExponent_minus (cs : List Char) :
    readExponent negative significand exponent ('-' :: cs) =
      exponentDigits negative significand exponent true cs := rfl

theorem readExponent_cons {c : Char} (hplus : c ≠ '+') (hminus : c ≠ '-') (cs : List Char) :
    readExponent negative significand exponent (c :: cs) =
      exponentDigits negative significand exponent false (c :: cs) := by
  unfold readExponent
  split
  next down cs' hsign =>
    split at hsign
    next heq => exact absurd (List.cons.inj heq).1 hplus
    next heq => exact absurd (List.cons.inj heq).1 hminus
    next => cases hsign; rfl

theorem readExponent_keeps (h : readExponent negative significand exponent cs = (.number n, r)) :
    Keeps (readExponent negative significand exponent) cs n r := by
  cases cs with
  | nil => cases h
  | cons c cs =>
    by_cases hplus : c = '+'
    · subst hplus
      exact exponentDigits_keeps ((readExponent_plus cs).symm.trans h)
    by_cases hminus : c = '-'
    · subst hminus
      exact exponentDigits_keeps ((readExponent_minus cs).symm.trans h)
    rw [readExponent_cons hplus hminus] at h
    obtain ⟨r', hr, hkeeps⟩ := exponentDigits_keeps h
    refine ⟨r', hr, fun rest hfollows => ?_⟩
    rw [List.cons_append, readExponent_cons hplus hminus]
    exact hkeeps rest hfollows

/-- The exponent part of a numeral, or the numeral's value without one. -/
def readScale (negative : Bool) (significand : Nat) (exponent : Int) (plain : Draft) :
    List Char → Draft × Rest
  | 'e' :: cs => readExponent negative significand exponent cs
  | 'E' :: cs => readExponent negative significand exponent cs
  | cs => (plain, some cs)

theorem readScale_plain {plain : Draft} (hlower : ∀ ds, cs ≠ 'e' :: ds)
    (hupper : ∀ ds, cs ≠ 'E' :: ds) :
    readScale negative significand exponent plain cs = (plain, some cs) := by
  unfold readScale
  split
  next => exact absurd rfl (hlower _)
  next => exact absurd rfl (hupper _)
  next => rfl

/-- No numeral goes on with what follows a value. -/
theorem Follows.ne_cons {rest : List Char} (h : Follows rest) {c : Char}
    (hc : c ≠ ',' ∧ c ≠ ']' ∧ c ≠ '}') (ds : List Char) : rest ≠ c :: ds := by
  rintro rfl
  rcases h c rfl with rfl | rfl | rfl <;> simp at hc

theorem readScale_keeps {plain : Draft}
    (h : readScale negative significand exponent plain cs = (.number n, r)) :
    Keeps (readScale negative significand exponent plain) cs n r := by
  cases cs with
  | nil =>
    obtain ⟨rfl, rfl⟩ := Prod.mk.inj h
    exact ⟨[], rfl, fun rest hfollows =>
      readScale_plain (hfollows.ne_cons (by decide)) (hfollows.ne_cons (by decide))⟩
  | cons c cs =>
    by_cases hlower : c = 'e'
    · subst hlower
      have hexponent : readExponent negative significand exponent cs = (.number n, r) := h
      exact readExponent_keeps hexponent
    by_cases hupper : c = 'E'
    · subst hupper
      have hexponent : readExponent negative significand exponent cs = (.number n, r) := h
      exact readExponent_keeps hexponent
    have hplain (rest : List Char) :
        readScale negative significand exponent plain (c :: rest) = (plain, some (c :: rest)) :=
      readScale_plain (by simp [hlower]) (by simp [hupper])
    rw [hplain] at h
    obtain ⟨rfl, rfl⟩ := Prod.mk.inj h
    exact ⟨c :: cs, rfl, fun rest _ => hplain (cs ++ rest)⟩

/-- A numeral behind its whole digits. -/
def readFraction (negative : Bool) (whole : List Char) : List Char → Draft × Rest
  | '.' :: cs =>
    let (n, count) := absorb whole 0
    let (m, places) := absorb (cs.takeWhile Char.isDigit) n
    let exponent : Int := (whole.length - count : Nat) - places
    if (cs.takeWhile Char.isDigit).isEmpty then digitsMissing cs
    else readScale negative m exponent (decimalDraft negative m exponent)
      (cs.dropWhile Char.isDigit)
  | cs =>
    let (n, count) := absorb whole 0
    readScale negative n (whole.length - count : Nat) (integerDraft negative whole) cs

theorem readFraction_whole {whole : List Char} (h : ∀ ds, cs ≠ '.' :: ds) :
    readFraction negative whole cs = readScale negative (absorb whole 0).1
      (whole.length - (absorb whole 0).2 : Nat) (integerDraft negative whole) cs := by
  unfold readFraction
  split
  next => exact absurd rfl (h _)
  next => rfl

theorem readFraction_keeps {whole : List Char}
    (h : readFraction negative whole cs = (.number n, r)) :
    Keeps (readFraction negative whole) cs n r := by
  by_cases hpoint : ∃ ds, cs = '.' :: ds
  · obtain ⟨ds, rfl⟩ := hpoint
    simp only [readFraction] at h
    split at h
    · cases h
    next hdigits =>
      obtain ⟨r', hr, hkeeps⟩ := readScale_keeps h
      refine ⟨r', hr, fun rest hfollows => ?_⟩
      obtain ⟨htake, hdrop⟩ := span_append hfollows ds
      simp only [List.cons_append, readFraction, htake, hdrop]
      rw [if_neg hdigits, hkeeps rest hfollows]
  · have hwhole : ∀ ds, cs ≠ '.' :: ds := fun ds hds => hpoint ⟨ds, hds⟩
    rw [readFraction_whole hwhole] at h
    obtain ⟨r', hr, hkeeps⟩ := readScale_keeps h
    refine ⟨r', hr, fun rest hfollows => ?_⟩
    rw [readFraction_whole, hkeeps rest hfollows]
    intro ds hds
    cases cs with
    | nil => exact hfollows.ne_cons (by decide) ds hds
    | cons c cs => exact hwhole cs (by rw [(List.cons.inj hds).1])

theorem readNumeral_eq (hne : cs.takeWhile Char.isDigit ≠ [])
    (hzero : ∀ d ds, cs.takeWhile Char.isDigit ≠ '0' :: d :: ds) :
    readNumeral negative cs =
      readFraction negative (cs.takeWhile Char.isDigit) (cs.dropWhile Char.isDigit) := by
  unfold readNumeral
  generalize cs.takeWhile Char.isDigit = whole at hne hzero ⊢
  generalize cs.dropWhile Char.isDigit = rest
  dsimp only
  split
  next => exact absurd rfl hne
  next => exact absurd rfl (hzero _ _)
  next =>
    split
    next cs =>
      unfold readFraction
      dsimp only
      congr 1
      generalize cs.dropWhile Char.isDigit = rest
      split
      next => rfl
      next => rfl
      next hlower hupper => exact (readScale_plain hlower hupper).symm
    next => rfl
    next => rfl
    next hpoint hlower hupper =>
      rw [readFraction_whole hpoint, readScale_plain hlower hupper]

theorem readNumeral_keeps (h : readNumeral negative cs = (.number n, r)) :
    Keeps (readNumeral negative) cs n r := by
  have hne : cs.takeWhile Char.isDigit ≠ [] := by
    intro hnone
    simp only [readNumeral, hnone, digitsMissing] at h
    cases h
  have hzero : ∀ d ds, cs.takeWhile Char.isDigit ≠ '0' :: d :: ds := by
    intro d ds hzero
    simp only [readNumeral, hzero] at h
    cases h
  rw [readNumeral_eq hne hzero] at h
  obtain ⟨r', hr, hkeeps⟩ := readFraction_keeps h
  refine ⟨r', hr, fun rest hfollows => ?_⟩
  obtain ⟨htake, hdrop⟩ := span_append hfollows cs
  rw [readNumeral_eq (by rwa [htake]) (by rwa [htake]), htake, hdrop]
  exact hkeeps rest hfollows

theorem readName_eq_number {value : Draft} {ns : List Char}
    (h : readName value ns cs = (.number n, r)) : value = .number n := by
  induction ns generalizing cs with
  | nil => exact (Prod.mk.inj h).1
  | cons c ns ih =>
    cases cs with
    | nil => cases h
    | cons d cs =>
      unfold readName at h
      split at h
      · exact ih h
      · cases h

/-- How a value that is a number starts. -/
theorem readValue_eq_number {fuel : Nat} (h : readValue (fuel + 1) cs = (.number n, r)) :
    (∃ ds, skipSpace cs = '-' :: ds ∧ readNumeral true ds = (.number n, r)) ∨
      ∃ d ds, skipSpace cs = d :: ds ∧ d.isDigit = true ∧
        readNumeral false (d :: ds) = (.number n, r) := by
  unfold readValue at h
  split at h
  next => cases h
  next => cases readName_eq_number h
  next => cases readName_eq_number h
  next => cases readName_eq_number h
  next ds hskip => exact .inl ⟨ds, hskip, h⟩
  next =>
    split at h
    · cases h
    · cases h
  next =>
    split at h
    · cases h
    · cases h
    · cases h
  next =>
    split at h
    · cases h
    · cases h
    · cases h
    · cases h
  next d ds _ _ _ _ _ _ _ hskip =>
    split at h
    next hdigit => exact .inr ⟨d, ds, hskip, hdigit, h⟩
    next => cases h

theorem readValue_minus {fuel : Nat} {ds : List Char} (hskip : skipSpace cs = '-' :: ds) :
    readValue (fuel + 1) cs = readNumeral true ds := by
  unfold readValue
  rw [hskip]
  rfl

theorem readValue_digit {fuel : Nat} {d : Char} {ds : List Char} (hskip : skipSpace cs = d :: ds)
    (hdigit : d.isDigit = true) : readValue (fuel + 1) cs = readNumeral false (d :: ds) := by
  unfold readValue
  rw [hskip]
  split <;> simp_all

theorem readValue_keeps {fuel fuel' : Nat} (h : readValue (fuel + 1) cs = (.number n, r)) :
    Keeps (readValue (fuel' + 1)) cs n r := by
  rcases readValue_eq_number h with ⟨ds, hskip, h⟩ | ⟨d, ds, hskip, hdigit, h⟩
  · obtain ⟨r', hr, hkeeps⟩ := readNumeral_keeps h
    refine ⟨r', hr, fun rest hfollows => ?_⟩
    have hskip' : skipSpace (cs ++ rest) = '-' :: (ds ++ rest) := by
      rw [skipSpace_append (by simp [hskip]), hskip, List.cons_append]
    rw [readValue_minus hskip']
    exact hkeeps rest hfollows
  · obtain ⟨r', hr, hkeeps⟩ := readNumeral_keeps h
    refine ⟨r', hr, fun rest hfollows => ?_⟩
    have hskip' : skipSpace (cs ++ rest) = d :: (ds ++ rest) := by
      rw [skipSpace_append (by simp [hskip]), hskip, List.cons_append]
    rw [readValue_digit hskip' hdigit]
    exact hkeeps rest hfollows

end Numerals

/-! ### Values -/

/-- Blanks that are left in front of what follows. -/
def Blank (gap : List Char) : Prop := skipSpace gap = []

theorem skipSpace_blank {gap : List Char} (h : Blank gap) (rest : List Char) :
    skipSpace (gap ++ rest) = skipSpace rest := by
  unfold Blank skipSpace at h
  unfold skipSpace
  exact List.dropWhile_append_of_pos (List.dropWhile_eq_nil_iff.mp h)

/-- A text is read as a draft, before anything that may follow a value. -/
def Reads (text : List Char) (d : Draft) : Prop :=
  ∀ fuel rest, 2 * text.length + 1 ≤ fuel → Follows rest →
    ∃ gap, Blank gap ∧ readValue fuel (text ++ rest) = (d, some (gap ++ rest))

theorem ofText_eq_ok {s : String} {v : Json} (h : ofText s = .ok v) :
    ∃ d w, readDraft s = (d, true) ∧ d.strict (some maximalDepth) = .ok w ∧ w.settle = v := by
  unfold ofText at h
  cases hdraft : readDraft s with
  | mk d clean =>
    rw [hdraft] at h
    obtain ⟨w, hw, h⟩ := bind_eq_ok_iff.mp h
    cases clean with
    | false => cases h
    | true =>
      cases h
      exact ⟨d, w, rfl, hw, rfl⟩

theorem readDraft_eq_clean {s : String} {d : Draft} (h : readDraft s = (d, true)) :
    ∃ r, readValue (2 * s.toList.length + 2) s.toList = (d, r) ∧ ∀ r', r = some r' → Blank r' := by
  unfold readDraft at h
  dsimp only at h
  split at h
  next d' r' hread =>
    obtain ⟨rfl, hblank⟩ := Prod.mk.inj h
    refine ⟨some r', hread, fun r'' hr => ?_⟩
    cases hr
    exact List.isEmpty_iff.mp hblank
  next d' hread =>
    obtain ⟨rfl, _⟩ := Prod.mk.inj h
    exact ⟨none, hread, fun r' hr => by cases hr⟩

theorem eq_number_of_settle {v : Json} {n : Number} (h : v.settle = .number n) : v = .number n := by
  cases v <;> simp_all [settle]

theorem Number.Survives.reads {n : Number} (h : n.Survives) :
    Reads n.print.toList (.number n) := by
  obtain ⟨d, w, hdraft, hstrict, hsettle⟩ := ofText_eq_ok h
  obtain ⟨r, hread, hblank⟩ := readDraft_eq_clean hdraft
  obtain rfl := eq_number_of_settle hsettle
  cases Draft.says_of_strict hstrict
  intro fuel rest hfuel hfollows
  obtain ⟨fuel, rfl⟩ := Nat.exists_eq_succ_of_ne_zero (by omega : fuel ≠ 0)
  obtain ⟨r', hr, hkeeps⟩ := readValue_keeps hread
  exact ⟨r', hblank r' hr, hkeeps rest hfollows⟩

end Rollup.Json

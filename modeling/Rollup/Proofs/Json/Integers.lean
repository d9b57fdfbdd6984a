import Rollup.Proofs.Json.Records
import Rollup.Proofs.Json.Texts
/-!
Integers in texts. Every integer of sixty-four bits survives, and a text has no others: what exceeds
them is read as a double. So of the numbers that were read from a text only doubles may be lost.
-/
namespace Rollup.Json

open Text.Scanner (Stops takeWhile_append_of_stops isDigit_of_mem_toDigits ofDigits_toDigits
  toList_repr_negSucc)

/-- An integer of sixty-four bits, with a sign or without one, or a double. -/
def Number.Bounded : Number → Prop
  | .int i => -(Word.greatestSigned : Int) - 1 ≤ i ∧ i ≤ Word.greatestUnsigned
  | .float _ => True

/-! ### Integers survive -/

theorem le_foldl_digits (cs : List Char) (n : Nat) :
    n ≤ cs.foldl (fun n c => 10 * n + Double.digitValue c) n := by
  induction cs generalizing n with
  | nil => exact Nat.le_refl n
  | cons c cs ih =>
    have h := ih (10 * n + Double.digitValue c)
    rw [List.foldl_cons]
    omega

/-- All digits of a number of sixty-four bits are taken. -/
theorem absorb_eq {cs : List Char} {n : Nat}
    (h : cs.foldl (fun n c => 10 * n + Double.digitValue c) n ≤ Word.greatestUnsigned) :
    absorb cs n = (cs.foldl (fun n c => 10 * n + Double.digitValue c) n, cs.length) := by
  induction cs generalizing n with
  | nil => rfl
  | cons c cs ih =>
    rw [List.foldl_cons] at h ⊢
    have hnext := Nat.le_trans (le_foldl_digits cs (10 * n + Double.digitValue c)) h
    simp only [absorb, if_pos hnext, ih h, List.length_cons]

theorem head_toDigits_ne {n : Nat} (h : 0 < n) (ds : List Char) :
    Nat.toDigits 10 n ≠ '0' :: ds := by
  induction n using Nat.strongRecOn generalizing ds with
  | ind n ih =>
    by_cases hsmall : n < 10
    · rw [Nat.toDigits_of_lt_base hsmall]
      intro heq
      have hzero := Nat.digitChar_eq_zero.mp (List.cons.inj heq).1
      omega
    · have hrec := Nat.toDigits_of_base_le (by decide : 1 < 10) (Nat.le_of_not_lt hsmall)
      rw [hrec]
      cases hfront : Nat.toDigits 10 (n / 10) with
      | nil => exact absurd hfront Nat.toDigits_ne_nil
      | cons c cs =>
        intro heq
        rw [(List.cons.inj heq).1] at hfront
        exact ih (n / 10) (by omega) (by omega) cs hfront

theorem readNumeral_toDigits (negative : Bool) (n : Nat) :
    readNumeral negative (Nat.toDigits 10 n) =
      (integerDraft negative (Nat.toDigits 10 n), some []) := by
  have hdigits : ∀ c ∈ Nat.toDigits 10 n, c.isDigit = true := fun _ => isDigit_of_mem_toDigits
  have hend : Stops Char.isDigit [] := by simp [Stops]
  obtain ⟨htake, hdrop⟩ := takeWhile_append_of_stops hdigits hend
  rw [List.append_nil] at htake hdrop
  have hzero : ∀ d ds, Nat.toDigits 10 n ≠ '0' :: d :: ds := by
    intro d ds heq
    rcases Nat.eq_zero_or_pos n with rfl | hn
    · cases heq
    · exact head_toDigits_ne hn _ heq
  rw [readNumeral_eq (by rw [htake]; exact Nat.toDigits_ne_nil) (by rwa [htake]), htake, hdrop,
    readFraction_whole (by simp), readScale_plain (by simp) (by simp)]

theorem absorb_toDigits {n : Nat} (h : n ≤ Word.greatestUnsigned) :
    absorb (Nat.toDigits 10 n) 0 = (n, (Nat.toDigits 10 n).length) := by
  have hvalue : (Nat.toDigits 10 n).foldl (fun n c => 10 * n + Double.digitValue c) 0 = n :=
    ofDigits_toDigits n
  rw [absorb_eq (by rwa [hvalue]), hvalue]

theorem ofText_of_readValue {s : String} {n : Number}
    (h : ∀ fuel, readValue (fuel + 1) s.toList = (.number n, some [])) :
    ofText s = .ok (.number n) := by
  unfold ofText readDraft
  dsimp only
  rw [h]
  rfl

theorem isSpace_of_isDigit {c : Char} (h : c.isDigit = true) : isSpace c = false := by
  by_contra hspace
  simp only [isSpace, Bool.or_eq_true, decide_eq_true_eq, Bool.not_eq_false] at hspace
  rcases hspace with ((rfl | rfl) | rfl) | rfl <;> cases h

theorem Number.survives_nat {n : Nat} (h : n ≤ Word.greatestUnsigned) :
    (Number.int n).Survives := by
  refine ofText_of_readValue fun fuel => ?_
  have hprint : (Number.int n).print.toList = Nat.toDigits 10 n := Nat.toList_repr
  have hinteger : integerDraft false (Nat.toDigits 10 n) = .number (.int n) := by
    unfold integerDraft
    rw [absorb_toDigits h]
    simp
  rw [hprint, ← hinteger, ← readNumeral_toDigits]
  cases hcs : Nat.toDigits 10 n with
  | nil => exact absurd hcs Nat.toDigits_ne_nil
  | cons c cs =>
    have hdigit : c.isDigit = true := isDigit_of_mem_toDigits (hcs ▸ List.mem_cons_self)
    have hspace : skipSpace (c :: cs) = c :: cs :=
      List.dropWhile_cons_of_neg (by simp [isSpace_of_isDigit hdigit])
    exact readValue_digit hspace hdigit

theorem Number.survives_neg {n : Nat} (hpos : 0 < n) (h : n ≤ Word.greatestSigned + 1) :
    (Number.int (-n)).Survives := by
  refine ofText_of_readValue fun fuel => ?_
  obtain ⟨n, rfl⟩ := Nat.exists_eq_succ_of_ne_zero (by omega : n ≠ 0)
  have hprint : (Number.int (-(n + 1 : Nat))).print.toList = '-' :: Nat.toDigits 10 (n + 1) :=
    toList_repr_negSucc n
  have hfits : n + 1 ≤ Word.greatestUnsigned := Nat.le_trans h (by decide)
  have hinteger : integerDraft true (Nat.toDigits 10 (n + 1)) =
      .number (.int (-(n + 1 : Nat))) := by
    unfold integerDraft
    rw [absorb_toDigits hfits]
    simp [h]
  rw [Nat.succ_eq_add_one, hprint, ← hinteger, ← readNumeral_toDigits]
  exact readValue_minus rfl

/-- Every integer of sixty-four bits survives, with a sign or without one. -/
theorem Number.survives_int {i : Int} (h : (Number.int i).Bounded) : (Number.int i).Survives := by
  obtain ⟨hlow, hhigh⟩ := h
  by_cases hsign : 0 ≤ i
  · obtain ⟨n, rfl⟩ := Int.eq_ofNat_of_zero_le hsign
    exact survives_nat (by omega)
  · obtain ⟨n, hn⟩ := Int.eq_ofNat_of_zero_le (by omega : 0 ≤ -i)
    have hi : i = -(n : Int) := by omega
    subst hi
    exact survives_neg (by omega) (by omega)

/-! ### Numbers in drafts -/

namespace Draft

/-- A number stands in a draft, at any depth. -/
inductive Has : Draft → Number → Prop
  | number (n : Number) : Has (.number n) n
  | inside {d d' : Draft} {n : Number} (hinside : Inside d' d) (h : Has d' n) : Has d n

/-- All numbers of the draft are bounded. -/
def Bounded (d : Draft) : Prop := ∀ n, d.Has n → n.Bounded

theorem bounded_number {n : Number} (h : n.Bounded) : (number n).Bounded := by
  intro m hm
  cases hm with
  | number => exact h
  | inside hinside => cases hinside

theorem bounded_list {ds : List Draft} (h : ∀ d ∈ ds, d.Bounded) (e : Ending) :
    (list ds e).Bounded := by
  intro n hn
  cases hn with
  | inside hinside hn =>
    cases hinside with
    | item hd => exact h _ hd n hn

theorem bounded_record {ms : List (Spelling × Draft)} (h : ∀ m ∈ ms, m.2.Bounded) (e : Ending) :
    (record ms e).Bounded := by
  intro n hn
  cases hn with
  | inside hinside hn =>
    cases hinside with
    | member hm => exact h _ hm n hn

/-- Neither a number nor something that others stand in. -/
def isBare : Draft → Bool
  | number _ | list _ _ | record _ _ => false
  | _ => true

theorem bounded_of_isBare {d : Draft} (h : d.isBare = true) : d.Bounded := by
  intro n hn
  cases hn with
  | number => cases h
  | inside hinside _ => cases hinside <;> cases h

/-- What the strict reading finds stood in the draft. -/
theorem has_of_strict {room : Option Nat} {d : Draft} {w : Json} (h : strict room d = .ok w)
    {n : Number} (hn : n ∈ w.numbers) : d.Has n := by
  induction w using Json.induction generalizing room d with
  | null | bool | text => cases hn
  | number m =>
    cases says_of_strict h
    cases List.mem_singleton.mp hn
    exact .number n
  | list items ih =>
    cases says_of_strict h with
    | list _ hitems =>
      obtain ⟨v, hv, hn⟩ := mem_numbers_list.mp hn
      obtain ⟨d, hd, hstrict⟩ := Fallible.exists_mem_left_of_forall₂ hitems hv
      exact .inside (.item hd) (ih v hv hstrict hn)
  | record members ih =>
    cases says_of_strict h with
    | record _ hmembers =>
      obtain ⟨m, hm, hn⟩ := mem_numbers_record.mp hn
      obtain ⟨member, hd, hmember⟩ := Fallible.exists_mem_left_of_forall₂ hmembers hm
      obtain ⟨name, _, hmember⟩ := Fallible.bind_eq_ok_iff.mp hmember
      obtain ⟨v, hstrict, hmember⟩ := Fallible.bind_eq_ok_iff.mp hmember
      cases hmember
      exact .inside (.member hd) (ih _ hm hstrict hn)

end Draft

/-! ### Reading integers -/

/-- What is taken into a significand never exceeds sixty-four bits. -/
theorem absorb_le {cs : List Char} {n : Nat} (h : n ≤ Word.greatestUnsigned) :
    (absorb cs n).1 ≤ Word.greatestUnsigned := by
  induction cs generalizing n with
  | nil => exact h
  | cons c cs ih =>
    unfold absorb
    dsimp only
    split
    next hnext => exact ih hnext
    next => exact h

theorem bounded_decimalDraft (negative : Bool) (significand : Nat) (exponent : Int) :
    (decimalDraft negative significand exponent).Bounded := by
  unfold decimalDraft
  split
  · exact Draft.bounded_of_isBare rfl
  · exact Draft.bounded_number trivial

theorem bounded_integerDraft (negative : Bool) (digits : List Char) :
    (integerDraft negative digits).Bounded := by
  have hle : (absorb digits 0).1 ≤ Word.greatestUnsigned := absorb_le (Nat.zero_le _)
  unfold integerDraft
  dsimp only
  split_ifs with _ _ hsign
  · exact bounded_decimalDraft _ _ _
  · exact Draft.bounded_number ⟨by omega, by omega⟩
  · exact Draft.bounded_number ⟨by omega, by omega⟩
  · exact Draft.bounded_number trivial

theorem bounded_digitsMissing (cs : List Char) : (digitsMissing cs).1.Bounded :=
  Draft.bounded_of_isBare rfl

theorem bounded_readExponent (negative : Bool) (significand : Nat) (exponent : Int)
    (cs : List Char) : (readExponent negative significand exponent cs).1.Bounded := by
  unfold readExponent
  dsimp only
  split_ifs
  · exact bounded_digitsMissing _
  all_goals exact bounded_decimalDraft _ _ _

theorem bounded_readNumeral (negative : Bool) (cs : List Char) :
    (readNumeral negative cs).1.Bounded := by
  unfold readNumeral
  dsimp only
  split
  · exact bounded_digitsMissing _
  · exact Draft.bounded_of_isBare rfl
  · split
    · split
      · exact bounded_digitsMissing _
      · split
        · exact bounded_readExponent _ _ _ _
        · exact bounded_readExponent _ _ _ _
        · exact bounded_decimalDraft _ _ _
    · exact bounded_readExponent _ _ _ _
    · exact bounded_readExponent _ _ _ _
    · exact bounded_integerDraft _ _

theorem bounded_readName {value : Draft} (h : value.Bounded) (ns cs : List Char) :
    (readName value ns cs).1.Bounded := by
  induction ns generalizing cs with
  | nil => exact h
  | cons n ns ih =>
    cases cs with
    | nil => exact Draft.bounded_of_isBare rfl
    | cons c cs =>
      unfold readName
      split
      · exact ih cs
      · exact Draft.bounded_of_isBare rfl

/-- All numbers that are read with some fuel are bounded. -/
structure ReadsBounded (fuel : Nat) : Prop where
  value : ∀ cs, (readValue fuel cs).1.Bounded
  item : ∀ cs, ∀ d ∈ (readItem fuel cs).elements, d.Bounded
  member : ∀ afterComma cs, ∀ m ∈ (readMember fuel afterComma cs).elements, m.2.Bounded

section Step

variable {fuel : Nat} (h : ReadsBounded fuel)
include h

theorem ReadsBounded.bounded_readValue (cs : List Char) : (readValue (fuel + 1) cs).1.Bounded := by
  unfold readValue
  split
  · exact Draft.bounded_of_isBare rfl
  · exact bounded_readName (Draft.bounded_of_isBare rfl) _ _
  · exact bounded_readName (Draft.bounded_of_isBare rfl) _ _
  · exact bounded_readName (Draft.bounded_of_isBare rfl) _ _
  · exact bounded_readNumeral _ _
  · split <;> exact Draft.bounded_of_isBare rfl
  · split
    · exact Draft.bounded_list (List.forall_mem_nil _) _
    · exact Draft.bounded_list (List.forall_mem_nil _) _
    · exact Draft.bounded_list (h.item _) _
  · split
    · exact Draft.bounded_record (List.forall_mem_nil _) _
    · exact Draft.bounded_record (List.forall_mem_nil _) _
    · exact Draft.bounded_record (h.member _ _) _
    · exact Draft.bounded_of_isBare rfl
  · split
    · exact bounded_readNumeral _ _
    · exact Draft.bounded_of_isBare rfl

theorem ReadsBounded.bounded_readItem (cs : List Char) :
    ∀ d ∈ (readItem (fuel + 1) cs).elements, d.Bounded := by
  have hfirst := h.value cs
  unfold readItem
  split
  next d hread =>
    rw [hread] at hfirst
    exact List.forall_mem_singleton.mpr hfirst
  next d r hread =>
    rw [hread] at hfirst
    refine List.forall_mem_cons.mpr ⟨hfirst, ?_⟩
    split
    · exact List.forall_mem_nil _
    · split
      · exact List.forall_mem_nil _
      · exact List.forall_mem_nil _
      · exact h.item _
    · exact List.forall_mem_nil _

theorem ReadsBounded.bounded_readMember (afterComma : Bool) (cs : List Char) :
    ∀ m ∈ (readMember (fuel + 1) afterComma cs).elements, m.2.Bounded := by
  unfold readMember
  split
  · exact List.forall_mem_nil _
  · split
    next r _ =>
      have hfirst := h.value r
      split
      next d hread =>
        rw [hread] at hfirst
        exact List.forall_mem_singleton.mpr hfirst
      next d r hread =>
        rw [hread] at hfirst
        refine List.forall_mem_cons.mpr ⟨hfirst, ?_⟩
        split
        · exact List.forall_mem_nil _
        · split
          · exact h.member _ _
          · exact List.forall_mem_nil _
        · exact List.forall_mem_nil _
    · exact List.forall_mem_singleton.mpr (Draft.bounded_of_isBare rfl)

end Step

theorem readsBounded (fuel : Nat) : ReadsBounded fuel := by
  induction fuel with
  | zero => exact ⟨fun _ => Draft.bounded_of_isBare rfl, fun _ => List.forall_mem_nil _,
      fun _ _ => List.forall_mem_nil _⟩
  | succ fuel ih => exact ⟨ih.bounded_readValue, ih.bounded_readItem, ih.bounded_readMember⟩

/-- A text has no other integers than those of sixty-four bits. -/
theorem bounded_readDraft (s : String) : (readDraft s).1.Bounded := by
  have hread := (readsBounded (2 * s.toList.length + 2)).value s.toList
  unfold readDraft
  dsimp only
  split
  all_goals
    next heq => rwa [heq] at hread

end Rollup.Json

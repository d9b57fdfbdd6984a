import Rollup.Proofs.Double.Overflow
import Rollup.Proofs.Statement.Literals
/-!
Numerals and doubles. The texts that are read, but to no finite double, are the names of infinity,
the name of what is no number, and the decimals that overflow. No integer of sixty-four bits is
among them, and what is written for a finite double has a digit in it.
-/
namespace Rollup.Double

open Text.Scanner (isDigit_of_mem_toDigits)

/-- A text without its sign. -/
def unsigned : List Char → List Char
  | '-' :: cs => cs
  | '+' :: cs => cs
  | cs => cs

/-- The texts that stand for no number, whatever the case of their letters. -/
def NamesNaN (cs : List Char) : Prop := String.ofList (cs.map Char.toLower) = "nan"

/-- The texts without a sign that are read, but to no finite number. -/
inductive NotFinite (cs : List Char) : Prop
  | infinity (h : String.ofList (cs.map Char.toLower) = "inf" ∨
      String.ofList (cs.map Char.toLower) = "infinity")
  | notANumber (h : NamesNaN cs)
  | overflow {d : Decimal} (h : readDecimal? cs = some d) (hlarge : d.Overflows)

section Numerals

variable {cs : List Char} {x : Float} {s : String}

theorem isFinite_readUnsigned? (h : readUnsigned? cs = some x) :
    isFinite x = false ↔ NotFinite cs := by
  have hinfinity : isFinite (Float.ofBits 0x7FF0000000000000) = false := by decide +kernel
  have hnan : isFinite (Float.ofBits 0x7FF8000000000000) = false := by decide +kernel
  unfold readUnsigned? at h
  dsimp only at h
  split at h
  next hname =>
    cases h
    exact iff_of_true hinfinity (.infinity hname)
  next hname =>
    split at h
    next hnone =>
      cases h
      exact iff_of_true hnan (.notANumber hnone)
    next hnone =>
      obtain ⟨d, hd, rfl⟩ := Option.map_eq_some_iff.mp h
      rw [← Bool.not_eq_true, isFinite_nearest, Classical.not_not]
      constructor
      · exact fun hlarge => .overflow hd hlarge
      · intro hoverflow
        cases hoverflow with
        | infinity h => exact absurd h hname
        | notANumber h => exact absurd h hnone
        | overflow h hlarge =>
          cases hd.symm.trans h
          exact hlarge

theorem isNaN_readUnsigned? (h : readUnsigned? cs = some x) : x.isNaN = true ↔ NamesNaN cs := by
  have hinfinity : (Float.ofBits 0x7FF0000000000000).isNaN = false := by decide +kernel
  have hnan : (Float.ofBits 0x7FF8000000000000).isNaN = true := by decide +kernel
  unfold readUnsigned? at h
  dsimp only at h
  split at h
  next hname =>
    cases h
    rw [hinfinity]
    refine iff_of_false (by simp) fun hnone => ?_
    unfold NamesNaN at hnone
    rw [hnone] at hname
    exact absurd hname (by decide)
  next hname =>
    split at h
    next hnone =>
      cases h
      exact iff_of_true hnan hnone
    next hnone =>
      obtain ⟨d, hd, rfl⟩ := Option.map_eq_some_iff.mp h
      rw [isNaN_nearest]
      exact iff_of_false (by simp) hnone

theorem isSome_readUnsigned? (h : NotFinite cs) : (readUnsigned? cs).isSome := by
  unfold readUnsigned?
  dsimp only
  split
  · rfl
  · split
    · rfl
    · cases h with
      | infinity h => contradiction
      | notANumber h => contradiction
      | overflow h hlarge => rw [h]; rfl

theorem unsigned_of_no_sign (hminus : ∀ ds, cs ≠ '-' :: ds) (hplus : ∀ ds, cs ≠ '+' :: ds) :
    unsigned cs = cs := by
  unfold unsigned
  split
  · exact absurd rfl (hminus _)
  · exact absurd rfl (hplus _)
  · rfl

/-- The sign is read apart from the rest. -/
theorem read?_eq_some (h : read? s = some x) :
    ∃ y, readUnsigned? (unsigned s.toList) = some y ∧ (x = y ∨ x = -y) := by
  unfold read? at h
  generalize s.toList = cs at h ⊢
  split at h
  next cs =>
    obtain ⟨y, hy, rfl⟩ := Option.map_eq_some_iff.mp h
    exact ⟨y, hy, .inr rfl⟩
  next cs => exact ⟨x, h, .inl rfl⟩
  next hminus hplus =>
    rw [unsigned_of_no_sign hminus hplus]
    exact ⟨x, h, .inl rfl⟩

theorem isSome_read? (h : (readUnsigned? (unsigned s.toList)).isSome) : (read? s).isSome := by
  unfold read?
  generalize s.toList = cs at h ⊢
  split
  next cs => rwa [Option.isSome_map]
  next cs => exact h
  next hminus hplus => rwa [unsigned_of_no_sign hminus hplus] at h

theorem isFinite_read? (h : read? s = some x) :
    isFinite x = false ↔ NotFinite (unsigned s.toList) := by
  obtain ⟨y, hy, rfl | rfl⟩ := read?_eq_some h
  · exact isFinite_readUnsigned? hy
  · rw [isFinite_neg]
    exact isFinite_readUnsigned? hy

theorem isNaN_read? (h : read? s = some x) : x.isNaN = true ↔ NamesNaN (unsigned s.toList) := by
  obtain ⟨y, hy, rfl | rfl⟩ := read?_eq_some h
  · exact isNaN_readUnsigned? hy
  · rw [isNaN_neg]
    exact isNaN_readUnsigned? hy

/-- An integer is a run of digits behind its sign. -/
theorem digits_of_readInteger? {i : Int} (h : readInteger? s = some i) :
    unsigned s.toList ≠ [] ∧ (∀ c ∈ unsigned s.toList, c.isDigit = true) ∧
      i.natAbs = ofDigits (unsigned s.toList) := by
  unfold readInteger? at h
  dsimp only at h
  generalize s.toList = cs at h ⊢
  have hdigits {ds : List Char} {n : Int}
      (h : ((if ds ≠ [] ∧ ds.all Char.isDigit then some (ofDigits ds) else none) >>=
        fun digits => pure (digits : Int)) = some n) :
      ds ≠ [] ∧ (∀ c ∈ ds, c.isDigit = true) ∧ n.natAbs = ofDigits ds := by
    split at h
    next hds =>
      cases h
      exact ⟨hds.1, List.all_eq_true.mp hds.2, Int.natAbs_natCast _⟩
    next => cases h
  split at h
  next ds =>
    obtain ⟨n, hn, rfl⟩ := Option.map_eq_some_iff.mp h
    rw [Int.natAbs_neg]
    exact hdigits hn
  next ds =>
    obtain ⟨n, hn, rfl⟩ := Option.map_eq_some_iff.mp h
    exact hdigits hn
  next hminus hplus =>
    obtain ⟨n, hn, rfl⟩ := Option.map_eq_some_iff.mp h
    rw [unsigned_of_no_sign hminus hplus]
    exact hdigits hn

theorem not_overflows_nat {n : Nat} (h : n < 2 ^ 64) : ¬Decimal.Overflows ⟨n, 0⟩ := by
  unfold Decimal.Overflows
  simpa using lt_firstInfinite h (by decide)

/-- No integer of sixty-four bits is read to what is not finite. -/
theorem not_notFinite_of_readInteger? {i : Int} (h : readInteger? s = some i)
    (hsigned : Word.IsSigned i) : ¬NotFinite (unsigned s.toList) := by
  obtain ⟨hne, hdigits, habs⟩ := digits_of_readInteger? h
  rw [← isFinite_readUnsigned? (readUnsigned?_of_digits hne hdigits), Bool.not_eq_false,
    isFinite_nearest, ← habs]
  obtain ⟨hlow, hhigh⟩ := hsigned
  unfold Word.greatestSigned at hlow hhigh
  exact not_overflows_nat (by omega)

end Numerals

theorem isFinite_ofInt {i : Int} (hfits : Word.Fits i) (hsigned : ¬Word.IsSigned i) :
    isFinite (Float.ofInt i) = true := by
  obtain ⟨n, rfl, hlow, hhigh⟩ := hfits.isSigned_or.resolve_left hsigned
  rw [← nearest_nat (by omega) hhigh, isFinite_nearest]
  unfold Word.greatestUnsigned at hhigh
  exact not_overflows_nat (by omega)

/-! ### Written numbers -/

def HasDigit (s : String) : Prop := ∃ c ∈ s.toList, c.isDigit = true

theorem HasDigit.append_left {s : String} (h : HasDigit s) (t : String) : HasDigit (s ++ t) := by
  obtain ⟨c, hc, hdigit⟩ := h
  exact ⟨c, by rw [String.toList_append]; exact List.mem_append_left _ hc, hdigit⟩

theorem HasDigit.append_right {t : String} (h : HasDigit t) (s : String) : HasDigit (s ++ t) := by
  obtain ⟨c, hc, hdigit⟩ := h
  exact ⟨c, by rw [String.toList_append]; exact List.mem_append_right _ hc, hdigit⟩

theorem hasDigit_take (n k : Nat) :
    HasDigit (String.ofList ((toString n).toList.take (k + 1))) := by
  obtain ⟨c, cs, hcs⟩ := List.exists_cons_of_ne_nil (Nat.toDigits_ne_nil (n := n) (b := 10))
  refine ⟨c, ?_, isDigit_of_mem_toDigits (hcs ▸ List.mem_cons_self)⟩
  rw [Nat.toString_eq_repr, Nat.toList_repr, hcs, String.toList_ofList, List.take_succ_cons]
  exact List.mem_cons_self

theorem hasDigit_toString (n : Nat) : HasDigit (toString n) := by
  obtain ⟨c, hc, hdigit⟩ := hasDigit_take n 0
  rw [String.toList_ofList] at hc
  exact ⟨c, List.mem_of_mem_take hc, hdigit⟩

theorem hasDigit_positionalText (mark : String) (n : Nat) (first : Int) :
    HasDigit (positionalText mark (toString n) first) := by
  unfold positionalText
  dsimp only
  split
  · exact .append_left (.append_left ⟨'0', by decide, rfl⟩ _) _
  · split
    · exact .append_left (.append_left (hasDigit_toString n) _) _
    · exact .append_left (.append_left (hasDigit_take n _) _) _

theorem hasDigit_write (l : Layout) (x : Float) : HasDigit (l.write x) := by
  have hplaced (n : Nat) (first : Int) : HasDigit
      (if l.positional first then positionalText l.integralMark (toString n) first
        else scientificText (toString n) first) := by
    split
    · exact hasDigit_positionalText ..
    · exact .append_right (hasDigit_toString _) _
  exact .append_right (hplaced _ _) _

end Rollup.Double

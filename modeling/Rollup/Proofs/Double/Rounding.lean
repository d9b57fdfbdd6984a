import Rollup.Proofs.Double.Packing
/-!
Rounding to doubles. A significand is shifted until it has fifty-three bits, rounded, and shifted by
one more place if rounding carried. It stays finite exactly below the middle between the greatest
double and the next power of two.
-/
namespace Rollup.Double
open Float.Model
open UnpackedFloat (Sign Accuracy ExtendedMantissa)

namespace Rounding

/-! ### Shifted significands -/

/-- A significand in halves of its last place. -/
def halves (em : ExtendedMantissa) : Nat := 2 * em.mantissa + em.roundBit.toNat

theorem mantissa_shiftRight (em : ExtendedMantissa) (k : Nat) :
    (em >>> k).mantissa = em.mantissa / 2 ^ k := by
  induction k with
  | zero =>
    rw [Nat.pow_zero, Nat.div_one]
    rfl
  | succ k ih =>
    change (em >>> k).mantissa / 2 = _
    rw [ih, Nat.div_div_eq_div_mul, Nat.pow_succ]

/-- The bit behind the last place is the last of those shifted out. -/
theorem halves_shiftRight (em : ExtendedMantissa) (k : Nat) :
    halves (em >>> (k + 1)) = em.mantissa / 2 ^ k := by
  have hbit (n : Nat) : 2 * (n / 2) + (n % 2 != 0).toNat = n := by
    rcases Nat.mod_two_eq_zero_or_one n with h | h <;> simp [h] <;> omega
  rw [← mantissa_shiftRight]
  exact hbit (em >>> k).mantissa

theorem mantissa_ofMantissaAndAccuracy (m : Nat) (accuracy : Accuracy) :
    (ExtendedMantissa.ofMantissaAndAccuracy m accuracy).mantissa = m := by
  unfold ExtendedMantissa.ofMantissaAndAccuracy
  split <;> rfl

theorem roundedMantissa_bounds (em : ExtendedMantissa) :
    em.mantissa ≤ em.roundedMantissa ∧ em.roundedMantissa ≤ em.mantissa + 1 := by
  obtain ⟨m, roundBit, stickyBit⟩ := em
  have hodd := Nat.mod_lt m (show 0 < 2 by decide)
  cases roundBit <;> cases stickyBit <;>
    simp only [ExtendedMantissa.roundedMantissa, ExtendedMantissa.accuracy,
      Accuracy.roundToNearestEven] <;> omega

/-- Rounding reaches a power of two from half a place below it. -/
theorem le_roundedMantissa_iff {em : ExtendedMantissa} (h : em.mantissa < 2 ^ 53) :
    2 ^ 53 ≤ em.roundedMantissa ↔ 2 ^ 54 - 1 ≤ halves em := by
  obtain ⟨m, roundBit, stickyBit⟩ := em
  have hm : m < 2 ^ 53 := h
  cases roundBit <;> cases stickyBit <;>
    simp only [ExtendedMantissa.roundedMantissa, ExtendedMantissa.accuracy,
      Accuracy.roundToNearestEven, halves, Bool.toNat_false, Bool.toNat_true] <;> omega

/-! ### The place of the last bit -/

/-- The exponent of the last place that a number keeps. -/
def lastPlace (m : Nat) (e : Int) : Int := max (m.log2 + 1 + e - 53) (-1074)

/-- The exponent of the last place of a number after it was shifted. -/
def place (m : Nat) (e : Int) : Int := e + (lastPlace m e - e).toNat

/-- The significand, shifted to its last place. -/
def shifted (m : Nat) (e : Int) (accuracy : Accuracy) : ExtendedMantissa :=
  ExtendedMantissa.ofMantissaAndAccuracy m accuracy >>> (lastPlace m e - e).toNat

/-- The significand, shifted and rounded. -/
def rounded (m : Nat) (e : Int) (accuracy : Accuracy) : Nat :=
  (shifted m e accuracy).roundedMantissa

/-- How far the rounded significand is shifted once more: a place if rounding carried. -/
def carry (m : Nat) (e : Int) (accuracy : Accuracy) : Nat :=
  (lastPlace (rounded m e accuracy) (place m e) - place m e).toNat

variable {s : Sign} {m : Nat} {e : Int} {accuracy : Accuracy}

theorem roundWithAccuracy_eq :
    UnpackedFloat.roundWithAccuracy Format.binary64 s m e accuracy =
      if h : rounded m e accuracy / 2 ^ carry m e accuracy = 0 then .zero s
      else .finite s (rounded m e accuracy / 2 ^ carry m e accuracy)
        (place m e + carry m e accuracy) (Nat.pos_of_ne_zero h) := by
  have hlast (m : Nat) (e : Int) :
      Format.binary64.targetExponent (totalExponent m e) = lastPlace m e := rfl
  have hexact (n k : Nat) :
      (ExtendedMantissa.ofMantissaAndAccuracy n .exact >>> k).mantissa = n / 2 ^ k := by
    rw [mantissa_shiftRight, mantissa_ofMantissaAndAccuracy]
  unfold UnpackedFloat.roundWithAccuracy UnpackedFloat.shiftToTargetExponent
    UnpackedFloat.shiftToExponent
  simp only [hlast, hexact]
  rfl

theorem place_eq_max : place m e = max e (lastPlace m e) := by
  unfold place
  omega

theorem mantissa_shifted :
    (shifted m e accuracy).mantissa = m / 2 ^ (lastPlace m e - e).toNat := by
  unfold shifted
  rw [mantissa_shiftRight, mantissa_ofMantissaAndAccuracy]

theorem mantissa_shifted_lt : (shifted m e accuracy).mantissa < 2 ^ 53 := by
  rw [mantissa_shifted, Nat.div_lt_iff_lt_mul (Nat.two_pow_pos _), ← Nat.pow_add]
  refine Nat.lt_of_lt_of_le Nat.lt_log2_self (Nat.pow_le_pow_right (by decide) ?_)
  unfold lastPlace
  omega

theorem rounded_le : rounded m e accuracy ≤ 2 ^ 53 := by
  have hbound := (roundedMantissa_bounds (shifted m e accuracy)).2
  have hshifted := @mantissa_shifted_lt m e accuracy
  unfold rounded
  omega

theorem log2_lt_iff {n k : Nat} (hk : 0 < k) : n.log2 < k ↔ n < 2 ^ k := by
  rcases Nat.eq_zero_or_pos n with rfl | hn
  · exact iff_of_true (by rwa [Nat.log2_zero]) (Nat.two_pow_pos k)
  · exact Nat.log2_lt (Nat.pos_iff_ne_zero.mp hn)

theorem carry_eq_zero_iff : carry m e accuracy = 0 ↔ rounded m e accuracy < 2 ^ 53 := by
  rw [← log2_lt_iff (by decide)]
  have hplace := @place_eq_max m e
  unfold carry
  unfold lastPlace at hplace ⊢
  omega

theorem carry_le : carry m e accuracy ≤ 1 := by
  have hrounded : (rounded m e accuracy).log2 < 54 :=
    (log2_lt_iff (by decide)).mpr (Nat.lt_of_le_of_lt rounded_le (by decide))
  have hplace := @place_eq_max m e
  unfold carry
  unfold lastPlace at hplace ⊢
  omega

/-- A number whose last place is its fifty-third one keeps its first bit. -/
theorem le_rounded (hplace : e ≤ lastPlace m e) (hlast : -1074 < lastPlace m e) :
    2 ^ 52 ≤ rounded m e accuracy := by
  have hshift : 52 + (lastPlace m e - e).toNat = m.log2 := by
    unfold lastPlace at hplace hlast ⊢
    omega
  have hm : m ≠ 0 := by
    rintro rfl
    rw [Nat.log2_zero] at hshift
    omega
  refine Nat.le_trans ?_ (roundedMantissa_bounds (shifted m e accuracy)).1
  rw [mantissa_shifted, Nat.le_div_iff_mul_le (Nat.two_pow_pos _), ← Nat.pow_add, hshift]
  exact Nat.log2_self_le hm

/-- A number that is rounded stays finite exactly below the middle between the greatest double and
the next power of two. -/
theorem isFinite_round (he : e ≤ 970) :
    isFinite (ofUnpacked (UnpackedFloat.roundWithAccuracy Format.binary64 s m e accuracy)) = true ↔
      m < (2 ^ 54 - 1) * 2 ^ (970 - e).toNat := by
  have hplace := @place_eq_max m e
  have hcarry := @carry_le m e accuracy
  rw [roundWithAccuracy_eq]
  by_cases hsmall : lastPlace m e ≤ 970
  · have hm : m < (2 ^ 54 - 1) * 2 ^ (970 - e).toNat := by
      have hlast : m.log2 + 1 ≤ 53 + (970 - e).toNat := by
        unfold lastPlace at hsmall
        omega
      calc m < 2 ^ (m.log2 + 1) := Nat.lt_log2_self
        _ ≤ 2 ^ (53 + (970 - e).toNat) := Nat.pow_le_pow_right (by decide) hlast
        _ = 2 ^ 53 * 2 ^ (970 - e).toNat := Nat.pow_add ..
        _ ≤ (2 ^ 54 - 1) * 2 ^ (970 - e).toNat := Nat.mul_le_mul_right _ (by decide)
    refine iff_of_true ?_ hm
    split
    · exact isFinite_zero s
    · rw [isFinite_finite]
      omega
  · have hlow := @le_rounded m e accuracy (by omega) (by omega)
    have hpos : rounded m e accuracy / 2 ^ carry m e accuracy ≠ 0 := by
      have hpow : 2 ^ carry m e accuracy ≤ 2 ^ 1 := Nat.pow_le_pow_right (by decide) hcarry
      exact Nat.pos_iff_ne_zero.mp (Nat.div_pos (by omega) (Nat.two_pow_pos _))
    have hlast : lastPlace m e = m.log2 + 1 + e - 53 := by
      unfold lastPlace at hsmall ⊢
      omega
    rw [dif_neg hpos, isFinite_finite]
    by_cases hedge : lastPlace m e = 971
    · -- Only a carry leads out of the last place that has finite doubles.
      have hshift : (lastPlace m e - e).toNat = (970 - e).toNat + 1 := by omega
      have hhalves : halves (shifted m e accuracy) = m / 2 ^ (970 - e).toNat := by
        unfold shifted
        rw [hshift, halves_shiftRight, mantissa_ofMantissaAndAccuracy]
      have hround : 2 ^ 53 ≤ rounded m e accuracy ↔ (2 ^ 54 - 1) * 2 ^ (970 - e).toNat ≤ m := by
        unfold rounded
        rw [le_roundedMantissa_iff mantissa_shifted_lt, hhalves,
          Nat.le_div_iff_mul_le (Nat.two_pow_pos _)]
      have hcarries := @carry_eq_zero_iff m e accuracy
      omega
    · have hlarge : (2 ^ 54 - 1) * 2 ^ (970 - e).toNat ≤ m := by
        have hm : m ≠ 0 := by
          rintro rfl
          rw [Nat.log2_zero] at hlast
          omega
        calc (2 ^ 54 - 1) * 2 ^ (970 - e).toNat
            ≤ 2 ^ 54 * 2 ^ (970 - e).toNat := Nat.mul_le_mul_right _ (by decide)
          _ = 2 ^ (54 + (970 - e).toNat) := (Nat.pow_add ..).symm
          _ ≤ 2 ^ m.log2 := Nat.pow_le_pow_right (by decide) (by omega)
          _ ≤ m := Nat.log2_self_le hm
      exact iff_of_false (by omega) (Nat.not_lt.mpr hlarge)

end Rounding
end Rollup.Double

import Rollup.Proofs.Double.Rounding
import Rollup.Double.Reading
/-!
Which decimals have a finite double nearest to them: those below the middle between the greatest
double and the next power of two, which is as far from the one as from the other and is rounded to
the power. No decimal is read to what is no number.
-/
namespace Rollup.Double

open Float.Model
open UnpackedFloat (Sign Accuracy ExtendedMantissa)
open Rounding

/-- The middle between the greatest double and the next power of two. -/
def firstInfinite : Nat := (twoTo 54 - 1) * twoTo 970

theorem twoTo_eq (n : Nat) : twoTo n = 2 ^ n := rfl

-- The exponent has a name here because powers as large as this one are not to be computed.
theorem exists_firstInfinite_eq : ∃ n, n = 970 ∧ firstInfinite = (2 ^ 54 - 1) * 2 ^ n := by
  refine ⟨970, rfl, ?_⟩
  unfold firstInfinite
  rw [twoTo_eq, twoTo_eq]

section Operations

variable {s₁ s₂ : Sign} {m₁ m₂ : Nat} {e₁ e₂ : Int}

/-! ### Products and quotients -/

theorem isFinite_product (hm₁ : 0 < m₁) (hm₂ : 0 < m₂) (he : e₁ + e₂ ≤ 970) :
    isFinite (ofUnpacked
      (UnpackedFloat.mul Format.binary64 (.finite s₁ m₁ e₁ hm₁) (.finite s₂ m₂ e₂ hm₂))) = true ↔
      m₁ * m₂ < (2 ^ 54 - 1) * 2 ^ (970 - (e₁ + e₂)).toNat :=
  isFinite_round he

theorem isFinite_quotient (hm₁ : 0 < m₁) (hm₂ : 0 < m₂) (he : e₁ - e₂ ≤ 970) :
    isFinite (ofUnpacked
      (UnpackedFloat.div Format.binary64 (.finite s₁ m₁ e₁ hm₁) (.finite s₂ m₂ e₂ hm₂))) = true ↔
      m₁ < (2 ^ 54 - 1) * 2 ^ (970 - (e₁ - e₂)).toNat * m₂ := by
  unfold UnpackedFloat.div UnpackedFloat.divCore
  dsimp only
  -- Dividing to more places moves the bound as far as the dividend, so how many does not matter.
  generalize Format.targetExponent _ _ = wanted
  have hplace : min (e₁ - e₂) wanted ≤ e₁ - e₂ := Int.min_le_left ..
  generalize min (e₁ - e₂) wanted = place at hplace
  have hroom : (970 - place).toNat = (970 - (e₁ - e₂)).toNat + (e₁ - e₂ - place).toNat := by omega
  rw [isFinite_round (by omega), Nat.div_lt_iff_lt_mul hm₂, Nat.shiftLeft_eq, hroom, Nat.pow_add,
    ← Nat.mul_assoc, Nat.mul_right_comm, Nat.mul_lt_mul_right (Nat.two_pow_pos _)]

end Operations

/-! ### Doubles of moderate size -/

/-- A double far from the greatest one. -/
def IsModerate (x : Float) : Prop := exponentField x ≤ 1100

instance (x : Float) : Decidable (IsModerate x) := by unfold IsModerate; infer_instance

theorem unpack_of_moderate {x : Float} (h : IsModerate x) :
    (exponentField x = 0 ∧ ∃ s, x.toModel.unpack = .zero s) ∨
      ∃ s m e, ∃ hm : 0 < m, x.toModel.unpack = .finite s m e hm ∧ m < 2 ^ 53 ∧
        e = max 1 (exponentField x) - 1075 := by
  unfold IsModerate at h
  have hunpacks := unpacks x
  generalize x.toModel.unpack = u at hunpacks
  cases hunpacks with
  | infinity s hfield => omega
  | notANumber hfield => omega
  | zero s hfield => exact .inl ⟨hfield, s, rfl⟩
  | finite hm hfield hsmall hexponent => exact .inr ⟨_, _, _, hm, rfl, hsmall, hexponent⟩

theorem lt_of_small {m k : Nat} {e : Int} (hm : m < 2 ^ k) (he : k + e ≤ 1023) :
    m < (2 ^ 54 - 1) * 2 ^ (970 - e).toNat := by
  calc m < 2 ^ k := hm
    _ ≤ 2 ^ (53 + (970 - e).toNat) := Nat.pow_le_pow_right (by decide) (by omega)
    _ = 2 ^ 53 * 2 ^ (970 - e).toNat := Nat.pow_add ..
    _ ≤ (2 ^ 54 - 1) * 2 ^ (970 - e).toNat := Nat.mul_le_mul_right _ (by decide)

theorem isFinite_mul {x y : Float} (hx : IsModerate x) (hy : IsModerate y) :
    isFinite (x * y) = true := by
  have hmul : x * y = ofUnpacked (UnpackedFloat.mul Format.binary64 x.toModel.unpack
    y.toModel.unpack) := rfl
  rw [hmul]
  rcases unpack_of_moderate hx with ⟨_, s, h⟩ | ⟨s, m, e, hm, h, hsmall, hexponent⟩ <;>
    rcases unpack_of_moderate hy with ⟨_, s', h'⟩ | ⟨s', m', e', hm', h', hsmall', hexponent'⟩ <;>
    rw [h, h']
  · exact isFinite_zero _
  · exact isFinite_zero _
  · exact isFinite_zero _
  · unfold IsModerate at hx hy
    have hproduct : m * m' < 2 ^ (53 + 53) := by
      rw [Nat.pow_add]
      exact Nat.mul_lt_mul'' hsmall hsmall'
    rw [isFinite_product hm hm' (by omega)]
    exact lt_of_small hproduct (by omega)

theorem isFinite_div {x y : Float} (hx : IsModerate x) (hy : IsModerate y)
    (hnormal : 1000 ≤ exponentField y) : isFinite (x / y) = true := by
  have hdiv : x / y = ofUnpacked (UnpackedFloat.div Format.binary64 x.toModel.unpack
    y.toModel.unpack) := rfl
  rw [hdiv]
  rcases unpack_of_moderate hy with ⟨hfield, _⟩ | ⟨s', m', e', hm', h', hsmall', hexponent'⟩
  · omega
  · rcases unpack_of_moderate hx with ⟨_, s, h⟩ | ⟨s, m, e, hm, h, hsmall, hexponent⟩ <;>
      rw [h, h']
    · exact isFinite_zero _
    · unfold IsModerate at hx
      rw [isFinite_quotient hm hm' (by omega)]
      exact Nat.lt_of_lt_of_le (lt_of_small hsmall (by omega)) (Nat.le_mul_of_pos_right _ hm')

/-! ### Decimals -/

theorem log2_shiftLeft_lt {m k : Nat} (h : m < 2 ^ 53) : (m <<< k).log2 < 53 + k := by
  rw [log2_lt_iff (by omega), Nat.shiftLeft_eq, Nat.pow_add]
  exact Nat.mul_lt_mul_of_pos_right h (Nat.two_pow_pos k)

theorem isModerate_round {s : Sign} {m : Nat} {e : Int} {accuracy : Accuracy}
    (h : place m e ≤ 20) : IsModerate (ofUnpacked
      (UnpackedFloat.roundWithAccuracy Format.binary64 s m e accuracy)) := by
  have hcarry := @carry_le m e accuracy
  unfold IsModerate
  rw [roundWithAccuracy_eq]
  split
  · rw [exponentField_zero]
    decide
  · refine Nat.le_trans (exponentField_finite _ (by omega)) ?_
    omega

/-- Integers of fifty-three bits are of moderate size. -/
theorem isModerate_toFloat {n : UInt64} (h : n.toNat < 2 ^ 53) : IsModerate n.toFloat := by
  have hfloat : n.toFloat = ofUnpacked (UnpackedFloat.normalize Format.binary64 n.toNat 0
    .positive) := rfl
  rw [hfloat]
  unfold UnpackedFloat.normalize
  split
  next hneg =>
    rw [Int.compare_eq_lt] at hneg
    omega
  next =>
    unfold IsModerate
    rw [exponentField_zero]
    decide
  next =>
    refine isModerate_round ?_
    rw [Int.toNat_natCast]
    generalize Format.targetExponent _ _ = wanted
    have hlog := @log2_shiftLeft_lt n.toNat (0 - wanted).toNat h
    rw [place_eq_max]
    unfold lastPlace
    omega

theorem isModerate_powers : ∀ x ∈ Float.exactlyRepresentablePowersOfTen,
    IsModerate x ∧ 1000 ≤ exponentField x := by
  decide +kernel

theorem firstInfinite_pos : 0 < firstInfinite := by
  obtain ⟨n, _, hfirst⟩ := exists_firstInfinite_eq
  rw [hfirst]
  exact Nat.mul_pos (by decide) (Nat.two_pow_pos _)

theorem firstInfinite_le_tenTo {k : Nat} (h : 342 ≤ k) : firstInfinite ≤ 10 ^ k := by
  obtain ⟨n, hn, hfirst⟩ := exists_firstInfinite_eq
  calc firstInfinite = (2 ^ 54 - 1) * 2 ^ n := hfirst
    _ ≤ 2 ^ 54 * 2 ^ n := Nat.mul_le_mul_right _ (by decide)
    _ = 2 ^ (54 + n) := (Nat.pow_add ..).symm
    _ ≤ 2 ^ (3 * k) := Nat.pow_le_pow_right (by decide) (by omega)
    _ = (2 ^ 3) ^ k := Nat.pow_mul ..
    _ ≤ 10 ^ k := Nat.pow_le_pow_left (by decide) k

theorem isFinite_scaledUp (m k : Nat) :
    isFinite (ofUnpacked (UnpackedFloat.ofScientific Format.binary64 m (k : Int))) = true ↔
      m * 10 ^ k < firstInfinite := by
  unfold UnpackedFloat.ofScientific
  split
  next hm =>
    rw [isFinite_zero, hm, Nat.zero_mul]
    exact iff_of_true rfl firstInfinite_pos
  next hm =>
    have hm : 0 < m := Nat.pos_iff_ne_zero.mpr hm
    split
    next hlarge =>
      have hk : 342 ≤ k := by
        have hlarge : (2 : Int) ^ 11 < k := hlarge
        omega
      rw [isFinite_infinity]
      refine iff_of_false (by simp) (Nat.not_lt.mpr ?_)
      exact Nat.le_trans (firstInfinite_le_tenTo hk) (Nat.le_mul_of_pos_left _ hm)
    next hlarge =>
      split
      next hsmall =>
        have hsmall : (k : Int) < -(2 ^ 11 + m.log2) := hsmall
        omega
      next =>
        obtain ⟨n, hn, hfirst⟩ := exists_firstInfinite_eq
        have hroom : (970 - (-(Format.binary64.mantissaBits : Int) + 0)).toNat = n + 53 := by
          rw [hn]
          rfl
        have hbits : Format.binary64.mantissaBits = 53 := rfl
        rw [if_pos (Int.natCast_nonneg k), isFinite_product _ _ (by decide), hroom,
          Int.toNat_natCast, Nat.shiftLeft_eq, Nat.pow_add, ← Nat.mul_assoc, Nat.mul_right_comm,
          ← hfirst, hbits]
        exact Nat.mul_lt_mul_right (Nat.two_pow_pos 53)

theorem isFinite_scaledDown (m k : Nat) (hk : 0 < k) :
    isFinite (ofUnpacked (UnpackedFloat.ofScientific Format.binary64 m (Int.negOfNat k))) = true ↔
      m < firstInfinite * 10 ^ k := by
  rw [Int.negOfNat_eq, Int.ofNat_eq_natCast]
  unfold UnpackedFloat.ofScientific
  split
  next hm =>
    rw [isFinite_zero, hm]
    exact iff_of_true rfl (Nat.mul_pos firstInfinite_pos (Nat.pow_pos (by decide)))
  next hm =>
    have hm : 0 < m := Nat.pos_iff_ne_zero.mpr hm
    have hlarge : ¬-(k : Int) > 2 ^ Format.binary64.exponentBits := by
      change ¬(2 : Int) ^ 11 < -(k : Int)
      omega
    rw [if_neg hlarge]
    split
    next hsmall =>
      have hsmall : -(k : Int) < -(2 ^ 11 + m.log2) := hsmall
      rw [isFinite_zero]
      refine iff_of_true rfl ?_
      calc m < 2 ^ (m.log2 + 1) := Nat.lt_log2_self
        _ ≤ 2 ^ k := Nat.pow_le_pow_right (by decide) (by omega)
        _ ≤ 10 ^ k := Nat.pow_le_pow_left (by decide) k
        _ ≤ firstInfinite * 10 ^ k := Nat.le_mul_of_pos_left _ firstInfinite_pos
    next =>
      have hroom : (970 - ((0 : Int) - 0)).toNat = 970 := rfl
      obtain ⟨n, hn, hfirst⟩ := exists_firstInfinite_eq
      rw [if_neg (by omega), isFinite_quotient _ _ (by decide), Int.neg_neg, Int.toNat_natCast,
        hroom, ← hn, ← hfirst]

theorem lt_firstInfinite {m k : Nat} (hm : m < 2 ^ k) (hk : k ≤ 1023) : m < firstInfinite := by
  obtain ⟨n, hn, hfirst⟩ := exists_firstInfinite_eq
  have hroom : (970 - (0 : Int)).toNat = n := by
    rw [hn]
    rfl
  have hlt := @lt_of_small m k 0 hm (by omega)
  rwa [hroom, ← hfirst] at hlt

theorem toNat_toUInt64 {m : Nat} (h : m < 2 ^ 53) : m.toUInt64.toNat = m := by
  rw [Nat.toUInt64, UInt64.toNat_ofNat']
  exact Nat.mod_eq_of_lt (Nat.lt_trans h (by decide))

theorem ten_pow_lt {e : Nat} (h : e ≤ 22) : 10 ^ e < 2 ^ 74 :=
  Nat.lt_of_le_of_lt (Nat.pow_le_pow_right (by decide) h) (by decide)

/-- Few digits and a small exponent are multiplied or divided as doubles. -/
theorem isFinite_ofScientific_of_small {m e : Nat} (hm : m < 2 ^ 53) (he : e ≤ 22) (down : Bool) :
    isFinite (Float.ofScientific m down e) = true := by
  have hsize : e < Float.exactlyRepresentablePowersOfTen.size := Nat.lt_succ_of_le he
  obtain ⟨hpower, hnormal⟩ := isModerate_powers _ (Array.getElem_mem hsize)
  have hfloat : IsModerate m.toUInt64.toFloat := isModerate_toFloat (by rwa [toNat_toUInt64 hm])
  unfold Float.ofScientific
  rw [dif_pos ⟨hm, he⟩]
  cases down with
  | true => exact isFinite_div hfloat hpower hnormal
  | false => exact isFinite_mul hfloat hpower

theorem lt_of_small_decimal {m e : Nat} (hm : m < 2 ^ 53) (he : e ≤ 22) (down : Bool) :
    m * 10 ^ (if down then 0 else e) < firstInfinite * 10 ^ (if down then e else 0) := by
  have hup : m * 10 ^ (if down then 0 else e) < 2 ^ (53 + 74) := by
    rw [Nat.pow_add]
    refine Nat.mul_lt_mul'' hm (ten_pow_lt ?_)
    split <;> omega
  exact Nat.lt_of_lt_of_le (lt_firstInfinite hup (by decide))
    (Nat.le_mul_of_pos_right _ (Nat.pow_pos (by decide)))

theorem ofScientific_of_large {m e : Nat} (h : ¬(m < 2 ^ 53 ∧ e ≤ 22)) (down : Bool) :
    Float.ofScientific m down e = ofUnpacked (UnpackedFloat.ofScientific Format.binary64 m
      (if down then Int.negOfNat e else e)) := by
  unfold Float.ofScientific
  rw [dif_neg h]
  rfl

/-- A decimal is read to a finite double exactly below the first infinite number. -/
theorem isFinite_ofScientific (m : Nat) (down : Bool) (e : Nat) :
    isFinite (Float.ofScientific m down e) = true ↔
      m * 10 ^ (if down then 0 else e) < firstInfinite * 10 ^ (if down then e else 0) := by
  by_cases hsmall : m < 2 ^ 53 ∧ e ≤ 22
  · exact iff_of_true (isFinite_ofScientific_of_small hsmall.1 hsmall.2 down)
      (lt_of_small_decimal hsmall.1 hsmall.2 down)
  · rw [ofScientific_of_large hsmall]
    cases down with
    | true =>
      rcases Nat.eq_zero_or_pos e with rfl | he
      · have hzero : Int.negOfNat 0 = 0 := rfl
        simpa [hzero] using isFinite_scaledUp m 0
      · simpa using isFinite_scaledDown m e he
    | false => simpa using isFinite_scaledUp m e

theorem isNaN_round (s : Sign) (m : Nat) (e : Int) (accuracy : Accuracy) :
    (UnpackedFloat.roundWithAccuracy Format.binary64 s m e accuracy).isNaN = false := by
  rw [roundWithAccuracy_eq]
  split <;> rfl

theorem isNaN_scaled (m : Nat) (e : Int) :
    (UnpackedFloat.ofScientific Format.binary64 m e).isNaN = false := by
  unfold UnpackedFloat.ofScientific
  split
  · rfl
  · split
    · rfl
    · split
      · rfl
      · split <;> exact isNaN_round ..

theorem isNaN_ofScientific (m : Nat) (down : Bool) (e : Nat) :
    (Float.ofScientific m down e).isNaN = false := by
  by_cases hsmall : m < 2 ^ 53 ∧ e ≤ 22
  · exact not_isNaN_of_isFinite (isFinite_ofScientific_of_small hsmall.1 hsmall.2 down)
  · rw [ofScientific_of_large hsmall, isNaN_ofUnpacked]
    exact isNaN_scaled ..

/-! ### The nearest double -/

/-- The decimal has no finite double near it. -/
def Decimal.Overflows (d : Decimal) : Prop :=
  firstInfinite * 10 ^ (-d.exponent).toNat ≤ d.digits * 10 ^ d.exponent.toNat

instance (d : Decimal) : Decidable d.Overflows := by unfold Decimal.Overflows; infer_instance

theorem digitCount_le_iff {n k : Nat} (hk : 0 < k) : digitCount n ≤ k ↔ n < 10 ^ k := by
  unfold digitCount
  rw [Nat.toString_eq_repr, ← String.length_toList, Nat.toList_repr]
  exact Nat.length_toDigits_le_iff (by decide) hk

theorem digitCount_pos (n : Nat) : 0 < digitCount n := by
  unfold digitCount
  rw [Nat.toString_eq_repr, ← String.length_toList, Nat.toList_repr]
  exact List.length_pos_iff.mpr Nat.toDigits_ne_nil

theorem lt_tenTo_digitCount (n : Nat) : n < 10 ^ digitCount n :=
  (digitCount_le_iff (digitCount_pos n)).mp (Nat.le_refl _)

theorem tenTo_digitCount_le {n : Nat} (hn : n ≠ 0) : 10 ^ (digitCount n - 1) ≤ n := by
  by_cases hone : digitCount n = 1
  · rw [hone]
    exact Nat.pos_iff_ne_zero.mpr hn
  · have hpos := digitCount_pos n
    have hless := @digitCount_le_iff n (digitCount n - 1) (by omega)
    omega

theorem Decimal.overflows_of_large {d : Decimal} (hdigits : d.digits ≠ 0)
    (h : 400 < d.exponent + digitCount d.digits) : d.Overflows := by
  have hpos := digitCount_pos d.digits
  obtain ⟨k, hk, hsum⟩ : ∃ k, 342 ≤ k ∧
      k + (-d.exponent).toNat = digitCount d.digits - 1 + d.exponent.toNat :=
    ⟨digitCount d.digits - 1 + d.exponent.toNat - (-d.exponent).toNat, by omega, by omega⟩
  calc firstInfinite * 10 ^ (-d.exponent).toNat
      ≤ 10 ^ k * 10 ^ (-d.exponent).toNat :=
        Nat.mul_le_mul_right _ (firstInfinite_le_tenTo hk)
    _ = 10 ^ (k + (-d.exponent).toNat) := (Nat.pow_add ..).symm
    _ = 10 ^ (digitCount d.digits - 1) * 10 ^ d.exponent.toNat := by rw [hsum, Nat.pow_add]
    _ ≤ d.digits * 10 ^ d.exponent.toNat :=
        Nat.mul_le_mul_right _ (tenTo_digitCount_le hdigits)

theorem Decimal.not_overflows_of_small {d : Decimal}
    (h : d.exponent + digitCount d.digits < -400) : ¬d.Overflows := by
  refine Nat.not_le.mpr ?_
  calc d.digits * 10 ^ d.exponent.toNat
      < 10 ^ digitCount d.digits * 10 ^ d.exponent.toNat :=
        Nat.mul_lt_mul_of_pos_right (lt_tenTo_digitCount _) (Nat.pow_pos (by decide))
    _ = 10 ^ (digitCount d.digits + d.exponent.toNat) := (Nat.pow_add ..).symm
    _ ≤ 10 ^ (-d.exponent).toNat := Nat.pow_le_pow_right (by decide) (by omega)
    _ ≤ firstInfinite * 10 ^ (-d.exponent).toNat := Nat.le_mul_of_pos_left _ firstInfinite_pos

/-- The nearest double is infinite exactly for decimals that overflow. -/
theorem isFinite_nearest (d : Decimal) : isFinite (nearest d) = true ↔ ¬d.Overflows := by
  have hzero : isFinite 0.0 = true := by decide +kernel
  have hinfinity : isFinite (Float.ofBits 0x7FF0000000000000) = false := by decide +kernel
  unfold nearest
  dsimp only
  split
  next hdigits =>
    refine iff_of_true hzero (Nat.not_le.mpr ?_)
    rw [hdigits, Nat.zero_mul]
    exact Nat.mul_pos firstInfinite_pos (Nat.pow_pos (by decide))
  next hdigits =>
    split
    next hlarge =>
      rw [hinfinity]
      exact iff_of_false (by simp) (not_not_intro (Decimal.overflows_of_large hdigits hlarge))
    next =>
      split
      next hsmall => exact iff_of_true hzero (Decimal.not_overflows_of_small hsmall)
      next =>
        unfold Decimal.Overflows
        rw [Nat.not_le]
        split
        next hneg =>
          have hup : d.exponent.toNat = 0 := by omega
          have hdown : (-d.exponent).toNat = d.exponent.natAbs := by omega
          rw [isFinite_ofScientific, hup, hdown]
          rfl
        next hpos =>
          have hup : d.exponent.toNat = d.exponent.natAbs := by omega
          have hdown : (-d.exponent).toNat = 0 := by omega
          rw [isFinite_ofScientific, hup, hdown]
          rfl

theorem isNaN_nearest (d : Decimal) : (nearest d).isNaN = false := by
  unfold nearest
  dsimp only
  split
  · decide +kernel
  · split
    · decide +kernel
    · split
      · decide +kernel
      · split <;> exact isNaN_ofScientific ..

end Rollup.Double

import Mathlib
import Rollup.Double.Shortest
/-!
Packed doubles. A double is packed from a number with a sign, a significand and an exponent, and
its bits say what it is: all bits of the exponent are set exactly for what is not finite.
-/
namespace Rollup.Double
open Float.Model
open UnpackedFloat (Sign packComponents packedInfinity)

variable {s : Sign} {m : Nat} {e : Int}

/-! ### The bits of the exponent -/

/-- The bits of a double between its sign and its fraction. -/
def exponentField (x : Float) : Nat := x.toBits.toNat / twoTo 52 % twoTo 11

theorem isFinite_iff {x : Float} : isFinite x = true ↔ exponentField x ≠ 2047 := by
  unfold isFinite exponentField
  rw [decide_eq_true_iff]
  rfl

theorem exponentField_eq (x : Float) : exponentField x =
    (@UnpackedFloat.unpackExponent Format.binary64 x.toModel.toBits.toBitVec).toNat := by
  unfold exponentField UnpackedFloat.unpackExponent
  simp only [BitVec.toNat_cast, BitVec.extractLsb_toNat, Nat.shiftRight_eq_div_pow]
  rfl

/-- The forms of a double, with the bits of its exponent: all of them set for what is not finite,
else the exponent of the last place, for doubles of few digits one below it. -/
inductive Unpacks (field : Nat) : UnpackedFloat → Prop
  | infinity (s : Sign) (h : field = 2047) : Unpacks field (.infinity s)
  | notANumber (h : field = 2047) : Unpacks field .notANumber
  | zero (s : Sign) (h : field = 0) : Unpacks field (.zero s)
  | finite {s : Sign} {m : Nat} {e : Int} (hm : 0 < m) (h : field ≠ 2047) (hsmall : m < 2 ^ 53)
      (hexponent : e = max 1 field - 1075) : Unpacks field (.finite s m e hm)

theorem unpacks (x : Float) : Unpacks (exponentField x) x.toModel.unpack := by
  rw [exponentField_eq]
  unfold Float.Model.unpack UnpackedFloat.unpack
  dsimp only
  generalize @UnpackedFloat.unpackExponent Format.binary64 x.toModel.toBits.toBitVec = field
  have hall : field = -1#_ ↔ field.toNat = 2047 := by
    rw [← BitVec.toNat_inj]
    rfl
  have hfraction := BitVec.isLt
    (@UnpackedFloat.unpackMantissa Format.binary64 x.toModel.toBits.toBitVec)
  by_cases h : field = -1#_
  · rw [if_pos h]
    split
    · exact .infinity _ (hall.mp h)
    · exact .notANumber (hall.mp h)
  · rw [if_neg h]
    have hfield : field.toNat ≠ 2047 := fun hf => h (hall.mpr hf)
    by_cases hzero : field = 0#_
    · rw [if_pos hzero]
      by_cases hnone : @UnpackedFloat.unpackMantissa Format.binary64
          x.toModel.toBits.toBitVec = 0#_
      · rw [dif_pos hnone]
        exact .zero _ (congrArg BitVec.toNat hzero)
      · rw [dif_neg hnone]
        refine .finite _ hfield (Nat.lt_trans hfraction (by decide)) ?_
        rw [hzero]
        rfl
    · rw [if_neg hzero]
      have hpos : field.toNat ≠ 0 := fun hf => hzero (BitVec.toNat_inj.mp hf)
      refine .finite _ hfield ?_ ?_
      · exact BitVec.isLt _
      · change (field.toNat : Int) - (1023 + 52) = _
        omega

/-! ### Packed numbers -/

/-- The double of an unpacked number. -/
def ofUnpacked (u : UnpackedFloat) : Float := .ofModel (.pack u)

/-- The bits decide about a double. -/
theorem ofUnpacked_congr {u v : UnpackedFloat}
    (h : UnpackedFloat.pack Format.binary64 u = UnpackedFloat.pack Format.binary64 v) :
    ofUnpacked u = ofUnpacked v := by
  unfold ofUnpacked Float.Model.pack
  simp only [h]

theorem exponentField_ofUnpacked (u : UnpackedFloat) : exponentField (ofUnpacked u) =
    (@UnpackedFloat.unpackExponent Format.binary64
      (UnpackedFloat.pack Format.binary64 u)).toNat := by
  rw [exponentField_eq]
  rfl

theorem exponentField_zero (s : Sign) : exponentField (ofUnpacked (.zero s)) = 0 := by
  cases s <;> decide +kernel

theorem pack_finite (hm : 0 < m) : UnpackedFloat.pack Format.binary64 (.finite s m e hm) =
    if 972 ≤ e then packedInfinity Format.binary64 s
    else if m.log2 = 52 then
      packComponents Format.binary64 s (BitVec.ofNat _ (e + 1075).toNat) (BitVec.ofNat _ m)
    else packComponents Format.binary64 s 0#_ (BitVec.ofNat _ m) := by
  have hbias : e + (Format.binary64.exponentBias : Int) +
      (Format.binary64.mantissaBitsWithoutImplicit : Int) = e + 1075 := by
    change e + 1023 + 52 = e + 1075
    omega
  have hlarge : 2 ^ 11 ≤ (e + 1075).toNat + 1 ↔ 972 ≤ e := by omega
  have hnormal : m.log2 + 1 = Format.binary64.mantissaBits ↔ m.log2 = 52 := by
    change m.log2 + 1 = 1 + 52 ↔ m.log2 = 52
    omega
  unfold UnpackedFloat.pack
  simp only [hbias, hlarge, hnormal]

/-- What is too large becomes infinite. -/
theorem ofUnpacked_of_large (hm : 0 < m) (he : 972 ≤ e) :
    ofUnpacked (.finite s m e hm) = ofUnpacked (.infinity s) := by
  refine ofUnpacked_congr ?_
  rw [pack_finite, if_pos he]
  rfl

theorem exponentField_finite (hm : 0 < m) (he : e < 972) :
    exponentField (ofUnpacked (.finite s m e hm)) ≤ (e + 1075).toNat := by
  rw [exponentField_ofUnpacked, pack_finite, if_neg (by omega)]
  split
  · rw [UnpackedFloat.unpackExponent_packComponents, BitVec.toNat_ofNat]
    exact Nat.mod_le _ _
  · rw [UnpackedFloat.unpackExponent_packComponents]
    exact Nat.zero_le _

theorem isFinite_infinity (s : Sign) : isFinite (ofUnpacked (.infinity s)) = false := by
  cases s <;> decide +kernel

theorem isFinite_zero (s : Sign) : isFinite (ofUnpacked (.zero s)) = true := by
  cases s <;> decide +kernel

theorem isFinite_finite (hm : 0 < m) :
    isFinite (ofUnpacked (.finite s m e hm)) = true ↔ e < 972 := by
  constructor
  · intro h
    refine Int.not_le.mp fun he => ?_
    rw [ofUnpacked_of_large hm he, isFinite_infinity] at h
    cases h
  · intro he
    have hfield := @exponentField_finite s m e hm he
    exact isFinite_iff.mpr (by omega)

theorem isFinite_neg (x : Float) : isFinite (-x) = isFinite x := by
  have hneg : -x = ofUnpacked x.toModel.unpack.neg := rfl
  have hlimit : exponentField x < 2048 := Nat.mod_lt _ (by decide)
  have hunpacks := unpacks x
  rw [hneg, Bool.eq_iff_iff, isFinite_iff (x := x)]
  generalize x.toModel.unpack = u at hunpacks
  cases hunpacks with
  | infinity s h =>
    exact iff_of_false (Bool.eq_false_iff.mp (isFinite_infinity _)) (not_not_intro h)
  | notANumber h =>
    have hnan : isFinite (ofUnpacked .notANumber) = false := by decide +kernel
    exact iff_of_false (Bool.eq_false_iff.mp hnan) (not_not_intro h)
  | zero s h => exact iff_of_true (isFinite_zero _) (by omega)
  | finite hm h hsmall hexponent =>
    exact iff_of_true ((isFinite_finite hm).mpr (by omega)) h

/-! ### What is no number -/

theorem not_isNaN_of_isFinite {x : Float} (h : isFinite x = true) : x.isNaN = false := by
  have hfield := isFinite_iff.mp h
  have hunpacks := unpacks x
  change x.toModel.unpack.isNaN = false
  generalize x.toModel.unpack = u at hunpacks
  cases hunpacks with
  | notANumber h => exact absurd h hfield
  | infinity | zero | finite => rfl

theorem isNaN_ofUnpacked (u : UnpackedFloat) : (ofUnpacked u).isNaN = u.isNaN := by
  have hinfinity (s : Sign) : (ofUnpacked (.infinity s)).isNaN = false := by
    cases s <;> decide +kernel
  cases u with
  | infinity s => exact hinfinity s
  | notANumber => decide +kernel
  | zero s => exact not_isNaN_of_isFinite (isFinite_zero s)
  | finite s m e hm =>
    by_cases he : e < 972
    · exact not_isNaN_of_isFinite ((isFinite_finite hm).mpr he)
    · rw [ofUnpacked_of_large hm (by omega)]
      exact hinfinity s

theorem isNaN_neg (x : Float) : (-x).isNaN = x.isNaN := by
  change (ofUnpacked x.toModel.unpack.neg).isNaN = x.toModel.unpack.isNaN
  rw [isNaN_ofUnpacked]
  cases x.toModel.unpack <;> rfl

end Rollup.Double

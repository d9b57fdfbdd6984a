/-!
Numbers of sixty-four bits.
-/
namespace Rollup.Word

/-- The greatest signed number. -/
def greatestSigned : Nat := 0x7FFFFFFFFFFFFFFF

/-- The greatest number without a sign. -/
def greatestUnsigned : Nat := 0xFFFFFFFFFFFFFFFF

/-- The signed numbers. -/
def IsSigned (i : Int) : Prop := -(greatestSigned : Int) - 1 ≤ i ∧ i ≤ (greatestSigned : Int)

instance (i : Int) : Decidable (IsSigned i) := by unfold IsSigned; infer_instance

end Rollup.Word

import Mathlib.Algebra.Order.Field.Rat
import Mathlib.Tactic.Linarith
import Mathlib.Tactic.Positivity

namespace LMonitor.Library

/-- This is the percentage of one counter in another one, with the exact quotient. -/
def percentage (part whole : UInt64) : ℚ :=
  if whole = 0 then 0 else 100 * part.toNat / whole.toNat

/-- A percentage is a number from 0 to 100. -/
def IsPercentage (value : ℚ) : Prop := 0 ≤ value ∧ value ≤ 100

instance (value : ℚ) : Decidable (IsPercentage value) := inferInstanceAs (Decidable (_ ∧ _))

/-- The percentage of a part is a number from 0 to 100 if the part is not larger than the whole. -/
theorem isPercentage_iff (part whole : UInt64) :
    IsPercentage (percentage part whole) ↔ whole = 0 ∨ part ≤ whole := by
  unfold percentage
  split
  · rename_i zero
    simp [IsPercentage, zero]
  · rename_i nonzero
    have positive : (0 : ℚ) < whole.toNat := by
      have natural : 0 < whole.toNat := by
        apply Nat.pos_of_ne_zero
        exact fun same => nonzero (UInt64.toNat_inj.mp same)
      exact_mod_cast natural
    have lower : (0 : ℚ) ≤ 100 * part.toNat / whole.toNat := by positivity
    have upper : (100 * part.toNat / whole.toNat : ℚ) ≤ 100 ↔ part ≤ whole := by
      have cast : part.toNat ≤ whole.toNat ↔ (part.toNat : ℚ) ≤ whole.toNat := Nat.cast_le.symm
      rw [div_le_iff₀ positive, UInt64.le_iff_toNat_le, cast]
      constructor
      · intro bound
        linarith
      · intro bound
        linarith
    simp only [IsPercentage, lower, true_and, upper, nonzero, false_or]

/-- A wrapped difference is at most its minuend exactly if it did not wrap. -/
theorem sub_le_iff (whole rest : UInt64) : whole - rest ≤ whole ↔ rest ≤ whole := by
  have wholeSmall := whole.toNat_lt
  have restSmall := rest.toNat_lt
  rw [UInt64.le_iff_toNat_le, UInt64.le_iff_toNat_le, UInt64.toNat_sub]
  omega

/-- The share of a part in a wrapped sum is a percentage unless the sum goes beyond zero. -/
theorem isPercentage_share_iff (part rest : UInt64) :
    IsPercentage (percentage part (part + rest)) ↔
      part.toNat + rest.toNat ≤ 18446744073709551616 := by
  have partSmall := part.toNat_lt
  have restSmall := rest.toNat_lt
  rw [isPercentage_iff, UInt64.le_iff_toNat_le, ← UInt64.toNat_inj, UInt64.toNat_add]
  change (_ = 0 ∨ _) ↔ _
  omega

/-- What a free part leaves of a whole is a part of it, and its share beside another part is a
percentage, exactly if neither the difference nor the sum wraps. -/
theorem remainder_share_iff (whole free other : UInt64) :
    whole - free ≤ whole ∧ IsPercentage (percentage (whole - free) (whole - free + other)) ↔
      free ≤ whole ∧ whole.toNat + other.toNat ≤ 18446744073709551616 + free.toNat := by
  rw [sub_le_iff, isPercentage_share_iff]
  apply and_congr_right
  intro inside
  have order := UInt64.le_iff_toNat_le.mp inside
  rw [UInt64.toNat_sub_of_le _ _ inside]
  omega

end LMonitor.Library

import LMonitor.Library.Bytes

namespace LMonitor

/-- The program compares values of type `double` and tests whether they are finite. -/
class Double (D : Type) where
  ofNat : Nat → D
  le : D → D → Bool
  lt : D → D → Bool
  isFinite : D → Bool

/-- Finite doubles are ordered, and the literals are finite. -/
class LawfulDouble (D : Type) [Double D] : Prop where
  finite_ofNat : ∀ value, Double.isFinite (Double.ofNat value : D) = true
  le_eq_not_lt : ∀ left right : D, Double.isFinite left = true → Double.isFinite right = true →
    Double.le left right = !Double.lt right left

/-- An integer stands for the finite double that counts so many units of 1/25600. -/
instance : Double Int where
  ofNat value := 25600 * value
  le left right := left ≤ right
  lt left right := left < right
  isFinite _ := true

instance : LawfulDouble Int where
  finite_ofNat _ := rfl
  le_eq_not_lt left right _ _ := by
    have order : left ≤ right ↔ ¬ right < left := by omega
    exact (decide_eq_decide.mpr order).trans decide_not

end LMonitor

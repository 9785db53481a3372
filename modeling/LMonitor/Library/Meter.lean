import Mathlib.Algebra.BigOperators.Group.List.Basic
import Mathlib.Data.List.Chain

namespace LMonitor.Library

/-- A counter grows by its increments between the readings, and a step back counts as zero. -/
def growth (first : Nat) : List Nat → Nat
  | [] => 0
  | reading :: readings => (reading - first) + growth reading readings

@[simp] theorem growth_nil (first : Nat) : growth first [] = 0 := rfl

@[simp] theorem growth_cons (first reading : Nat) (readings : List Nat) :
    growth first (reading :: readings) = (reading - first) + growth reading readings := rfl

/-- The last reading is at most the first one and the growth. -/
theorem getLastD_le_growth (first : Nat) (readings : List Nat) :
    readings.getLastD first ≤ first + growth first readings := by
  induction readings generalizing first with
  | nil => exact Nat.le_refl first
  | cons reading readings ih =>
      rw [List.getLastD_cons, growth_cons]
      have rest := ih reading
      omega

/-- The last reading tells the growth of a counter exactly if the counter never went back. -/
theorem getLastD_eq_growth_iff (first : Nat) (readings : List Nat) :
    readings.getLastD first = first + growth first readings ↔
      (first :: readings).IsChain (· ≤ ·) := by
  induction readings generalizing first with
  | nil => simp
  | cons reading readings ih =>
      rw [List.getLastD_cons, growth_cons, List.isChain_cons_cons, ← ih]
      have rest := getLastD_le_growth reading readings
      omega

end LMonitor.Library

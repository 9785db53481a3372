import Mathlib.Algebra.BigOperators.Group.Finset.Basic
import Mathlib.Data.List.Perm.Subperm

namespace LMonitor.Library
open Finset
variable {Hand Item : Type} [Fintype Hand]

/-- Each hand holds at most one item. -/
def held (hands : Hand → Option Item) : Multiset Item :=
  ∑ hand, ((hands hand).toList : Multiset Item)

theorem held_nothing {hands : Hand → Option Item} (empty : ∀ hand, hands hand = none) :
    held hands = 0 := by
  apply sum_eq_zero
  intro hand _
  rw [empty hand]
  rfl

variable [DecidableEq Hand]

/-- A hand exchanges what it held for something else, and the others keep theirs. -/
theorem held_update (hands : Hand → Option Item) (hand : Hand) (item : Option Item) :
    ((hands hand).toList : Multiset Item) + held (Function.update hands hand item) =
      (item.toList : Multiset Item) + held hands := by
  have others : ∑ other ∈ univ.erase hand,
      ((Function.update hands hand item other).toList : Multiset Item) =
        ∑ other ∈ univ.erase hand, ((hands other).toList : Multiset Item) := by
    apply sum_congr rfl
    intro other member
    rw [Function.update_of_ne (ne_of_mem_erase member)]
  rw [held, held, ← add_sum_erase univ _ (mem_univ hand), others, Function.update_self,
    ← add_sum_erase univ (fun other => ((hands other).toList : Multiset Item)) (mem_univ hand)]
  exact add_left_comm _ _ _

/-- An empty hand takes an item. -/
theorem held_take {hands : Hand → Option Item} {hand : Hand} (empty : hands hand = none)
    (item : Option Item) :
    held (Function.update hands hand item) = (item.toList : Multiset Item) + held hands := by
  have exchanged := held_update hands hand item
  rw [empty] at exchanged
  simpa using exchanged

/-- A hand gives its item away. -/
theorem held_give {hands : Hand → Option Item} {hand : Hand} {item : Item}
    (holds : hands hand = some item) :
    item ::ₘ held (Function.update hands hand none) = held hands := by
  have exchanged := held_update hands hand none
  rw [holds] at exchanged
  simpa using exchanged

/-- Nothing moves while a hand keeps its item. -/
theorem held_keep {hands : Hand → Option Item} {hand : Hand} {item : Option Item}
    (same : item = hands hand) : held (Function.update hands hand item) = held hands := by
  rw [same, Function.update_eq_self]

end LMonitor.Library

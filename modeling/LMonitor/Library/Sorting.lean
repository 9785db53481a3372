import Mathlib.Data.List.Pairwise
import Mathlib.Data.List.TakeDrop

namespace LMonitor.Library
variable {A : Type}

/-- A sorting function puts no item behind one that the comparison does not want in front of it,
and it may choose any order of equivalent items. -/
structure StandardSort (before : A → A → Bool) where
  sort : List A → List A
  perm : ∀ items, (sort items).Perm items
  sorted : ∀ items, (sort items).Pairwise fun first second => before second first = false

/-- The merge sort is such a function for every strict weak order. -/
def StandardSort.merge (before : A → A → Bool)
    (transitive : ∀ first second third, before second first = false →
      before third second = false → before third first = false)
    (asymmetric : ∀ first second, before first second = true → before second first = false) :
    StandardSort before where
  sort items := items.mergeSort fun first second => !before second first
  perm items := List.mergeSort_perm _ _
  sorted items := by
    let notBehind (first second : A) : Bool := !before second first
    have trans (first second third : A) : notBehind first second = true →
        notBehind second third = true → notBehind first third = true := by
      simpa [notBehind] using transitive first second third
    have total (first second : A) :
        (notBehind first second || notBehind second first) = true := by
      cases swapped : before second first with
      | false => simp [notBehind, swapped]
      | true => simp [notBehind, asymmetric second first swapped]
    have ordered := List.pairwise_mergeSort trans total items
    exact ordered.imp fun order => by simpa [notBehind] using order

/-- A relation between earlier and later items relates the kept items to the ones left out. -/
theorem pairwise_take_drop {Related : A → A → Prop} {items : List A}
    (ordered : items.Pairwise Related) (count : Nat) {kept leftOut : A}
    (isKept : kept ∈ items.take count) (isLeftOut : leftOut ∈ items.drop count) :
    Related kept leftOut := by
  rw [← List.take_append_drop count items] at ordered
  exact (List.pairwise_append.mp ordered).2.2 kept isKept leftOut isLeftOut

end LMonitor.Library

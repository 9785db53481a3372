import Mathlib.Data.List.Infix

namespace LMonitor.Library
variable {A : Type} [DecidableEq A]

/-- This function gives the first position at which the pattern stands in a text. -/
def find (pattern : List A) : List A → Option Nat
  | [] => if pattern = [] then some 0 else none
  | head :: tail =>
      if pattern.isPrefixOf (head :: tail) then some 0 else (find pattern tail).map (· + 1)

/-- A pattern does not start where its first element is missing. -/
theorem find_append (first : A) (pattern left right : List A) (absent : first ∉ left) :
    find (first :: pattern) (left ++ right) =
      (find (first :: pattern) right).map (· + left.length) := by
  induction left with
  | nil => simp
  | cons head tail ih =>
      simp only [List.mem_cons, not_or] at absent
      have mismatch : (first == head) = false := by simpa using absent.1
      simp only [List.cons_append, find, List.isPrefixOf, mismatch, Bool.false_and,
        Bool.false_eq_true, if_false, ih absent.2, Option.map_map, List.length_cons]
      rfl

/-- A pattern stands at the start of a text that it begins. -/
theorem find_prefix (pattern text : List A) : find pattern (pattern ++ text) = some 0 := by
  cases whole : pattern ++ text with
  | nil => simp [find, (List.append_eq_nil_iff.mp whole).1]
  | cons head tail =>
      have starts : pattern.isPrefixOf (head :: tail) = true := by
        rw [← whole]
        exact List.isPrefixOf_iff_prefix.mpr (List.prefix_append _ _)
      simp only [find, starts, if_true]

/-- A text without some element of the pattern does not contain it. -/
theorem find_absent {pattern text : List A} {element : A} (needed : element ∈ pattern)
    (absent : element ∉ text) : find pattern text = none := by
  induction text with
  | nil =>
      have nonempty : pattern ≠ [] := List.ne_nil_of_mem needed
      simp only [find, nonempty, if_false]
  | cons head tail ih =>
      have mismatch : ¬ pattern.isPrefixOf (head :: tail) = true := by
        intro starts
        exact absent ((List.isPrefixOf_iff_prefix.mp starts).mem needed)
      have later : element ∉ tail := fun member => absent (List.mem_cons_of_mem head member)
      simp only [find, if_neg mismatch, ih later, Option.map_none]

/-- The first occurrence of a pattern follows the text without its first element. -/
theorem find_first (first : A) (pattern left right : List A) (absent : first ∉ left) :
    find (first :: pattern) (left ++ (first :: pattern ++ right)) = some left.length := by
  rw [find_append first pattern left _ absent, find_prefix]
  simp

/-- Only the empty pattern stands in the empty text. -/
theorem find_nil_eq_some {pattern : List A} {position : Nat}
    (found : find pattern [] = some position) : pattern = [] ∧ position = 0 := by
  simp only [find] at found
  split at found
  · rename_i empty
    exact ⟨empty, (Option.some.inj found).symm⟩
  · contradiction

/-- A found pattern begins the text, or it does not and was found in the tail. -/
theorem find_cons_eq_some {pattern tail : List A} {head : A} {position : Nat}
    (found : find pattern (head :: tail) = some position) :
    (pattern <+: head :: tail ∧ position = 0) ∨
      (¬ pattern <+: head :: tail ∧
        ∃ earlier, find pattern tail = some earlier ∧ position = earlier + 1) := by
  simp only [find] at found
  split at found
  · rename_i starts
    exact .inl ⟨List.isPrefixOf_iff_prefix.mp starts, (Option.some.inj found).symm⟩
  · rename_i mismatch
    obtain ⟨earlier, rest, same⟩ := Option.map_eq_some_iff.mp found
    exact .inr ⟨fun starts => mismatch (List.isPrefixOf_iff_prefix.mpr starts), earlier, rest,
      same.symm⟩

/-- The pattern stands at the position that was found. -/
theorem find_split {pattern text : List A} {position : Nat}
    (found : find pattern text = some position) :
    ∃ before after, text = before ++ (pattern ++ after) ∧ before.length = position := by
  induction text generalizing position with
  | nil =>
      obtain ⟨rfl, rfl⟩ := find_nil_eq_some found
      exact ⟨[], [], rfl, rfl⟩
  | cons head tail ih =>
      rcases find_cons_eq_some found with ⟨⟨after, whole⟩, rfl⟩ | ⟨_, earlier, rest, rfl⟩
      · exact ⟨[], after, whole.symm, rfl⟩
      · obtain ⟨before, after, rfl, length⟩ := ih rest
        exact ⟨head :: before, after, rfl, by rw [List.length_cons, length]⟩

/-- Every occurrence of a pattern stands at the found position or behind it. -/
theorem find_le (pattern before after : List A) :
    ∃ position ≤ before.length, find pattern (before ++ (pattern ++ after)) = some position := by
  induction before with
  | nil => exact ⟨0, Nat.le_refl _, find_prefix pattern after⟩
  | cons head before ih =>
      obtain ⟨position, bound, found⟩ := ih
      by_cases starts : pattern.isPrefixOf (head :: (before ++ (pattern ++ after))) = true
      · exact ⟨0, Nat.zero_le _, by simp only [List.cons_append, find, starts, if_true]⟩
      · refine ⟨position + 1, Nat.succ_le_succ bound, ?_⟩
        simp only [List.cons_append, find, if_neg starts, found, Option.map_some]

/-- A pattern that was not found occurs nowhere. -/
theorem find_none {pattern text : List A} (missing : find pattern text = none)
    (before after : List A) : text ≠ before ++ (pattern ++ after) := by
  rintro rfl
  obtain ⟨position, _, found⟩ := find_le pattern before after
  rw [missing] at found
  cases found

/-- A found pattern stays the first one when the text goes on. -/
theorem find_extended {pattern text : List A} {position : Nat} (more : List A)
    (found : find pattern text = some position) : find pattern (text ++ more) = some position := by
  induction text generalizing position with
  | nil =>
      obtain ⟨rfl, rfl⟩ := find_nil_eq_some found
      exact find_prefix [] more
  | cons head tail ih =>
      rcases find_cons_eq_some found with ⟨⟨after, whole⟩, rfl⟩ | ⟨mismatch, earlier, rest, rfl⟩
      · rw [← whole, List.append_assoc]
        exact find_prefix pattern (after ++ more)
      · -- The pattern fits into the tail, so its start cannot reach beyond the given text.
        obtain ⟨before, after, whole, _⟩ := find_split rest
        have fits : pattern.length ≤ (head :: tail).length := by
          simp only [whole, List.length_cons, List.length_append]
          omega
        have later : ¬ pattern.isPrefixOf (head :: (tail ++ more)) = true := by
          intro starts
          exact mismatch (List.prefix_of_prefix_length_le (List.isPrefixOf_iff_prefix.mp starts)
            (List.prefix_append (head :: tail) more) fits)
        simp only [List.cons_append, find, if_neg later, ih rest, Option.map_some]

/-- A pattern without the separator stands before it or nowhere. -/
theorem isPrefixOf_separator (pattern left right : List A) (separator : A)
    (clean : separator ∉ pattern) :
    pattern.isPrefixOf (left ++ separator :: right) = pattern.isPrefixOf left := by
  induction pattern generalizing left with
  | nil => simp
  | cons first pattern ih =>
      simp only [List.mem_cons, not_or] at clean
      cases left with
      | nil => simp [List.isPrefixOf, Ne.symm clean.1]
      | cons head left => simp [List.isPrefixOf, ih left clean.2]

/-- This function gives the last position at which an element stands in a text. -/
def rfind (element : A) : List A → Option Nat
  | [] => none
  | head :: tail =>
      match rfind element tail with
      | some position => some (position + 1)
      | none => if head = element then some 0 else none

theorem rfind_absent {element : A} {text : List A} (absent : element ∉ text) :
    rfind element text = none := by
  induction text with
  | nil => rfl
  | cons head tail ih =>
      simp only [List.mem_cons, not_or] at absent
      simp only [rfind, ih absent.2, Ne.symm absent.1, if_false]

/-- The last occurrence of an element follows everything in front of it. -/
theorem rfind_last (element : A) (before : List A) {after : List A} (absent : element ∉ after) :
    rfind element (before ++ element :: after) = some before.length := by
  induction before with
  | nil => simp only [List.nil_append, rfind, rfind_absent absent, if_true, List.length_nil]
  | cons head before ih => simp only [List.cons_append, rfind, ih, List.length_cons]

end LMonitor.Library

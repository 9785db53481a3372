import Mathlib.Data.List.Basic
import Mathlib.Data.List.DropRight
import Mathlib.Tactic.Common

namespace LMonitor.Library
variable {A : Type} [DecidableEq A]

/-- This function cuts a list at its first separator, which belongs to neither part. -/
def splitFirst (separator : A) : List A → Option (List A × List A)
  | [] => none
  | head :: tail =>
      if head = separator then some ([], tail)
      else (splitFirst separator tail).map fun parts => (head :: parts.1, parts.2)

theorem splitFirst_append (separator : A) (left right : List A) (clean : separator ∉ left) :
    splitFirst separator (left ++ separator :: right) = some (left, right) := by
  induction left with
  | nil => simp [splitFirst]
  | cons head tail ih =>
      simp only [List.mem_cons, not_or] at clean
      have other : head ≠ separator := fun equal => clean.1 equal.symm
      simp [splitFirst, other, ih clean.2]

/-- The part in front of the cut has no separator. -/
theorem splitFirst_eq_some {separator : A} {text left right : List A}
    (cut : splitFirst separator text = some (left, right)) :
    text = left ++ separator :: right ∧ separator ∉ left := by
  induction text generalizing left with
  | nil => simp [splitFirst] at cut
  | cons head tail ih =>
      simp only [splitFirst] at cut
      split at cut
      · rename_i same
        simp only [Option.some.injEq, Prod.mk.injEq] at cut
        simp [← cut.1, ← cut.2, same]
      · rename_i other
        obtain ⟨⟨first, last⟩, tailCut, equal⟩ := Option.map_eq_some_iff.mp cut
        simp only [Prod.mk.injEq] at equal
        obtain ⟨rfl, rfl⟩ := equal
        obtain ⟨whole, clean⟩ := ih tailCut
        simp [whole, clean, Ne.symm other]

/-- Two cuts at the first separator agree. -/
theorem cut_unique {separator : A} {left right first second : List A}
    (leftClean : separator ∉ left) (firstClean : separator ∉ first)
    (equal : left ++ separator :: right = first ++ separator :: second) :
    left = first ∧ right = second := by
  have cut := splitFirst_append separator left right leftClean
  rw [equal, splitFirst_append separator first second firstClean] at cut
  simpa [eq_comm] using cut

/-- This function reads lines, and the end of the text ends a last line that is not empty. -/
def linesFrom (separator : A) (current : List A) : List A → List (List A)
  | [] => if current = [] then [] else [current.reverse]
  | head :: tail =>
      if head = separator then current.reverse :: linesFrom separator [] tail
      else linesFrom separator (head :: current) tail

theorem linesFrom_append (separator : A) (current line rest : List A) (clean : separator ∉ line) :
    linesFrom separator current (line ++ separator :: rest) =
      (current.reverse ++ line) :: linesFrom separator [] rest := by
  induction line generalizing current with
  | nil => simp [linesFrom]
  | cons head tail ih =>
      simp only [List.mem_cons, not_or] at clean
      have other : head ≠ separator := fun equal => clean.1 equal.symm
      simp [linesFrom, other, ih (head :: current) clean.2]

/-- A text of ended lines has exactly these lines. -/
theorem linesFrom_flatMap (separator : A) (lines : List (List A))
    (clean : ∀ line ∈ lines, separator ∉ line) :
    linesFrom separator [] (lines.flatMap fun line => line ++ [separator]) = lines := by
  induction lines with
  | nil => rfl
  | cons line lines ih =>
      have first := linesFrom_append separator [] line
        (lines.flatMap fun line => line ++ [separator]) (clean line (by simp))
      have rest := ih fun line member => clean line (by simp [member])
      simpa [rest] using first

/-- A text without its empty last line has the same lines as its parts. -/
theorem splitOn_eq_linesFrom (separator : A) (current text : List A) :
    text.splitOnPPrepend (· == separator) current = linesFrom separator current text ∨
      text.splitOnPPrepend (· == separator) current = linesFrom separator current text ++ [[]] := by
  induction text generalizing current with
  | nil =>
      by_cases empty : current = [] <;> simp [linesFrom, empty]
  | cons head tail ih =>
      by_cases same : head = separator
      · rw [List.splitOnPPrepend_cons_pos (by simpa using same)]
        simpa [linesFrom, same] using ih []
      · rw [List.splitOnPPrepend_cons_neg (by simpa using same)]
        simpa [linesFrom, same] using ih (head :: current)

/-- A text has at most one more line than elements. -/
theorem length_linesFrom_le (separator : A) (current text : List A) :
    (linesFrom separator current text).length ≤ text.length + 1 := by
  induction text generalizing current with
  | nil => by_cases empty : current = [] <;> simp [linesFrom, empty]
  | cons head tail ih =>
      by_cases same : head = separator
      · have rest := ih []
        simp only [linesFrom, same, if_true, List.length_cons]
        omega
      · have rest := ih (head :: current)
        simp only [linesFrom, same, if_false, List.length_cons]
        omega

/-- This function removes the elements with a property from both ends of a list. -/
def trim {A : Type} (drops : A → Bool) (list : List A) : List A :=
  (list.dropWhile drops).rdropWhile drops

omit [DecidableEq A] in
/-- The elements between the removed ends stay. -/
theorem trim_padded {drops : A → Bool} {before list after : List A}
    (front : ∀ element ∈ before, drops element = true)
    (back : ∀ element ∈ after, drops element = true)
    (first : ∀ element, list.head? = some element → drops element = false)
    (last : ∀ element, list.getLast? = some element → drops element = false) :
    trim drops (before ++ (list ++ after)) = list := by
  have dropped : ∀ part : List A, (∀ element ∈ part, drops element = true) →
      ∀ rest, (part ++ rest).dropWhile drops = rest.dropWhile drops := by
    intro part known rest
    rw [List.dropWhile_append_of_pos known]
  rw [trim, dropped before front]
  cases list with
  | nil =>
      have none : after.dropWhile drops = [] := List.dropWhile_eq_nil_iff.mpr back
      rw [List.nil_append, none]
      rfl
  | cons head tail =>
      have kept : drops head = false := first head rfl
      rw [List.cons_append, List.dropWhile_cons_of_neg (by simp [kept]), ← List.cons_append,
        List.rdropWhile, List.reverse_append,
        dropped after.reverse (fun element member => back element (List.mem_reverse.mp member))]
      obtain ⟨final, whole⟩ :=
        Option.isSome_iff_exists.mp (List.getLast?_isSome.mpr (List.cons_ne_nil head tail))
      have stays := last final whole
      rw [List.getLast?_eq_head?_reverse] at whole
      obtain ⟨rest, shape⟩ := List.head?_eq_some_iff.mp whole
      rw [shape, List.dropWhile_cons_of_neg (by simp [stays]), ← shape, List.reverse_reverse]

omit [DecidableEq A] in
/-- The last element with a property splits the list. -/
theorem exists_last (p : A → Prop) (list : List A) (found : ∃ element ∈ list, p element) :
    ∃ before last after, list = before ++ last :: after ∧ p last ∧
      ∀ element ∈ after, ¬ p element := by
  induction list with
  | nil => simp at found
  | cons head tail ih =>
      by_cases later : ∃ element ∈ tail, p element
      · obtain ⟨before, last, after, split, holds, none⟩ := ih later
        exact ⟨head :: before, last, after, by simp [split], holds, none⟩
      · obtain ⟨element, member, holds⟩ := found
        rcases List.mem_cons.mp member with rfl | inTail
        · exact ⟨[], element, tail, rfl, holds,
            fun other inTail holds => later ⟨other, inTail, holds⟩⟩
        · exact absurd ⟨element, inTail, holds⟩ later

end LMonitor.Library

import Mathlib.Data.List.Destutter
import Mathlib.Data.List.Infix

namespace LMonitor.Library

/-- An observed value comes with the value before it and tells whether they differ. -/
structure Change (A : Type) where
  changed : Bool
  old : A
  new : A

namespace Change
variable {A : Type} [DecidableEq A]

/-- The first value counts as a change from an initial one. -/
def observe (initial : A) : Option A → A → Change A
  | none, value => ⟨true, initial, value⟩
  | some last, value => ⟨decide (last ≠ value), last, value⟩

def observeAll (initial : A) : Option A → List A → List (Change A)
  | _, [] => []
  | last, value :: values =>
      observe initial last value :: observeAll initial (some value) values

omit [DecidableEq A] in
/-- Only an observation with a change is reported. -/
def reported (changes : List (Change A)) : List (Change A) := changes.filter Change.changed

@[simp] theorem observe_new (initial : A) (last : Option A) (value : A) :
    (observe initial last value).new = value := by
  cases last <;> rfl

theorem map_new_observeAll (initial : A) (last : Option A) (values : List A) :
    (observeAll initial last values).map new = values := by
  induction values generalizing last with
  | nil => rfl
  | cons value values ih => simp [observeAll, ih]

theorem length_observeAll (initial : A) (last : Option A) (values : List A) :
    (observeAll initial last values).length = values.length := by
  rw [← List.length_map new, map_new_observeAll]

/-- The observations of a second list start from the last value of the first one. -/
theorem observeAll_append (initial : A) (last : Option A) (front back : List A) :
    observeAll initial last (front ++ back) =
      observeAll initial last front ++ observeAll initial (front.getLast?.or last) back := by
  induction front generalizing last with
  | nil => rfl
  | cons value front ih =>
      have latest : (value :: front).getLast?.or last = front.getLast?.or (some value) := by
        rw [List.getLast?_cons]
        cases front.getLast? <;> rfl
      rw [latest]
      simp only [List.cons_append, observeAll, ih]

/-- An observation within a list was made from the last value before it. -/
theorem observeAll_split {initial : A} {last : Option A} {values : List A}
    {before after : List (Change A)} {change : Change A}
    (split : observeAll initial last values = before ++ change :: after) :
    before = observeAll initial last (before.map new) ∧
      change = observe initial ((before.map new).getLast?.or last) change.new := by
  have parts : values = before.map new ++ change.new :: after.map new := by
    rw [← map_new_observeAll initial last values, split, List.map_append, List.map_cons]
  have sizes : (observeAll initial last (before.map new)).length = before.length := by
    rw [length_observeAll, List.length_map]
  rw [parts, observeAll_append, observeAll] at split
  obtain ⟨front, back⟩ := List.append_inj split sizes
  exact ⟨front.symm, (List.cons.inj back).1.symm⟩

/-- After a first value, the reports tell the values without their repetitions. -/
theorem cons_reported_eq_destutter' (initial last : A) (values : List A) :
    last :: (reported (observeAll initial (some last) values)).map new =
      values.destutter' (· ≠ ·) last := by
  induction values generalizing last with
  | nil => rfl
  | cons value values ih =>
      by_cases same : last = value
      · subst same
        rw [List.destutter'_cons_neg _ (not_not.mpr rfl), ← ih]
        simp [observeAll, observe, reported]
      · rw [List.destutter'_cons_pos _ same, ← ih]
        simp [observeAll, observe, reported, same]

/-- The reports replay the values without their repetitions. -/
theorem reported_eq_destutter (initial : A) (values : List A) :
    (reported (observeAll initial none values)).map new = values.destutter (· ≠ ·) := by
  cases values with
  | nil => rfl
  | cons value values =>
      rw [List.destutter_cons', ← cons_reported_eq_destutter' initial]
      rfl

theorem getLast?_destutter' (last : A) (values : List A) :
    (values.destutter' (· ≠ ·) last).getLast? = (last :: values).getLast? := by
  induction values generalizing last with
  | nil => rfl
  | cons value values ih =>
      by_cases same : last = value
      · subst same
        rw [List.destutter'_cons_neg _ (not_not.mpr rfl), ih, List.getLast?_cons_cons]
      · rw [List.destutter'_cons_pos _ same, List.getLast?_cons, ih, List.getLast?_cons_cons,
          List.getLast?_cons]
        rfl

/-- The last report tells the last value. -/
theorem reported_last (initial : A) (values : List A) :
    (reported (observeAll initial none values)).getLast?.map new = values.getLast? := by
  rw [← List.getLast?_map, reported_eq_destutter]
  cases values with
  | nil => rfl
  | cons value values => exact getLast?_destutter' value values

/-- A report tells a change from the value of the report before it. -/
def Follows (previous next : Change A) : Prop :=
  next.old = previous.new ∧ next.old ≠ next.new

/-- Each report begins with the value at which the one before it ended. -/
theorem isChain_cons_reported (initial : A) (change : Change A) (values : List A) :
    (change :: reported (observeAll initial (some change.new) values)).IsChain Follows := by
  induction values generalizing change with
  | nil => exact List.isChain_singleton change
  | cons value values ih =>
      by_cases same : change.new = value
      · have rest := ih change
        subst same
        simpa [observeAll, observe, reported] using rest
      · have rest := ih ⟨true, change.new, value⟩
        have follows : Follows change ⟨true, change.new, value⟩ := ⟨rfl, same⟩
        simpa [observeAll, observe, reported, same] using rest.cons_cons follows

/-- The reports of all observations follow each other. -/
theorem isChain_reported (initial : A) (values : List A) :
    (reported (observeAll initial none values)).IsChain Follows := by
  cases values with
  | nil => exact List.isChain_nil
  | cons value values => exact isChain_cons_reported initial ⟨true, initial, value⟩ values

/-- The first observation is the first report. -/
theorem reported_head (initial : A) (values : List A) :
    (reported (observeAll initial none values)).head? = (observeAll initial none values).head? := by
  cases values with
  | nil => rfl
  | cons value values => rfl

/-- An observation that is not reported repeats the last reported value. -/
theorem unreported_repeats {initial : A} {values : List A} {before after : List (Change A)}
    {change : Change A} (split : observeAll initial none values = before ++ change :: after)
    (unchanged : change.changed = false) :
    (reported before).getLast?.map new = some change.new ∧ change.old = change.new := by
  obtain ⟨front, observed⟩ := observeAll_split split
  rw [Option.or_none] at observed
  have told : (reported before).getLast?.map new = (before.map new).getLast? := by
    rw [front, reported_last, map_new_observeAll]
  rw [told]
  cases latest : (before.map new).getLast? with
  | none =>
      rw [latest, observe] at observed
      rw [observed] at unchanged
      cases unchanged
  | some last =>
      rw [latest, observe] at observed
      rw [observed] at unchanged
      have same : last = change.new := by simpa using unchanged
      have old : change.old = last := by rw [observed]
      rw [old, same]
      exact ⟨rfl, rfl⟩

end Change
end LMonitor.Library

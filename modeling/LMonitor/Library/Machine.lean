import Mathlib.Data.List.Induction
import Mathlib.Data.List.Infix
import Mathlib.Data.Option.Basic

namespace LMonitor.Library
variable {State Action : Type}

/-- A run takes one enabled action after the other. -/
def run (step : State → Action → Option State) : State → List Action → Option State
  | state, [] => some state
  | state, action :: trace => (step state action).bind fun next => run step next trace

variable (step : State → Action → Option State)

/-- A run begins with its first action. -/
theorem run_cons_eq_some {state final : State} {action : Action} {trace : List Action} :
    run step state (action :: trace) = some final ↔
      ∃ next, step state action = some next ∧ run step next trace = some final := by
  simp [run, Option.bind_eq_some_iff]

/-- A run of two traces goes through the state between them. -/
theorem run_append (state : State) (first second : List Action) :
    run step state (first ++ second) =
      (run step state first).bind fun middle => run step middle second := by
  induction first generalizing state with
  | nil => rfl
  | cons action first ih =>
      simp only [List.cons_append, run, Option.bind_assoc]
      congr 1
      funext next
      exact ih next

/-- The runs of two traces follow each other. -/
theorem run_trans {state middle final : State} {first second : List Action}
    (before : run step state first = some middle) (after : run step middle second = some final) :
    run step state (first ++ second) = some final := by
  rw [run_append, before]
  exact after

/-- A property that every step keeps holds at the end of a run. -/
theorem run_invariant (Invariant : State → Prop)
    (kept : ∀ state action next, step state action = some next → Invariant state → Invariant next)
    {state final : State} {trace : List Action} (reached : run step state trace = some final)
    (known : Invariant state) : Invariant final := by
  induction trace generalizing state with
  | nil =>
      rw [← Option.some.inj reached]
      exact known
  | cons action trace ih =>
      obtain ⟨next, taken, rest⟩ := (run_cons_eq_some step).mp reached
      exact ih rest (kept state action next taken known)

/-- A property of the past and the state that every step keeps holds at the end of a run. -/
theorem run_history (Invariant : List Action → State → Prop)
    (kept : ∀ past state action next, step state action = some next → Invariant past state →
      Invariant (past ++ [action]) next)
    {start final : State} {trace : List Action} (reached : run step start trace = some final)
    (known : Invariant [] start) : Invariant trace final := by
  suffices later : ∀ past, Invariant past start → Invariant (past ++ trace) final from
    later [] known
  clear known
  induction trace generalizing start with
  | nil =>
      intro past known
      rw [List.append_nil, ← Option.some.inj reached]
      exact known
  | cons action trace ih =>
      intro past known
      obtain ⟨next, taken, rest⟩ := (run_cons_eq_some step).mp reached
      have after := ih rest (past ++ [action]) (kept past start action next taken known)
      rwa [List.append_assoc] at after

/-- A run passes through a state after each of its parts. -/
theorem run_split {state final : State} {first second : List Action}
    (reached : run step state (first ++ second) = some final) :
    ∃ middle, run step state first = some middle ∧ run step middle second = some final := by
  rw [run_append] at reached
  exact Option.bind_eq_some_iff.mp reached

/-- A run goes on from the state that its first part reaches. -/
theorem run_rest {state middle final : State} {first second : List Action}
    (reached : run step state (first ++ second) = some final)
    (before : run step state first = some middle) : run step middle second = some final := by
  rw [run_append, before] at reached
  exact reached

/-- A run ends with its last action. -/
theorem run_snoc {state final : State} {past : List Action} {action : Action}
    (reached : run step state (past ++ [action]) = some final) :
    ∃ middle, run step state past = some middle ∧ step middle action = some final := by
  obtain ⟨middle, before, last⟩ := run_split step reached
  obtain ⟨next, taken, same⟩ := (run_cons_eq_some step).mp last
  obtain rfl := Option.some.inj same
  exact ⟨middle, before, taken⟩

/-- Every step of a run meets a condition on the state before it. -/
def StepsMeet (Meets : State → Action → Prop) (start : State) (trace : List Action) : Prop :=
  ∀ past action state, past ++ [action] <+: trace → run step start past = some state →
    Meets state action

/-- The steps of a first part meet the condition as well. -/
theorem stepsMeet_part {Meets : State → Action → Prop} {start : State}
    {past trace : List Action} (part : past <+: trace)
    (meets : StepsMeet step Meets start trace) : StepsMeet step Meets start past :=
  fun before action state earlier => meets before action state (earlier.trans part)

/-- A property that every step under its condition keeps holds at the end of a run of such
steps. -/
theorem run_invariant_of_meets (Invariant : State → Prop) {Meets : State → Action → Prop}
    (kept : ∀ state action next, step state action = some next → Meets state action →
      Invariant state → Invariant next)
    {start final : State} {trace : List Action} (reached : run step start trace = some final)
    (meets : StepsMeet step Meets start trace) (known : Invariant start) : Invariant final := by
  induction trace using List.reverseRecOn generalizing final with
  | nil =>
      rw [← Option.some.inj reached]
      exact known
  | append_singleton past action ih =>
      obtain ⟨state, before, taken⟩ := run_snoc step reached
      have earlier := stepsMeet_part step (List.prefix_append past [action]) meets
      exact kept state action final taken
        (meets past action state (List.prefix_refl _) before) (ih before earlier)

/-- One more step has to meet the condition on its own state. -/
theorem stepsMeet_concat {Meets : State → Action → Prop} {start state : State}
    {past : List Action} (reached : run step start past = some state) (action : Action) :
    StepsMeet step Meets start (past ++ [action]) ↔
      StepsMeet step Meets start past ∧ Meets state action := by
  constructor
  · intro meets
    exact ⟨stepsMeet_part step (List.prefix_append past [action]) meets,
      meets past action state (List.prefix_refl _) reached⟩
  · rintro ⟨meets, last⟩ before other middle part middleReached
    rcases List.prefix_concat_iff.mp part with whole | earlier
    · obtain ⟨rfl, same⟩ := List.append_inj' whole rfl
      obtain rfl := (List.cons.inj same).1
      obtain rfl := Option.some.inj (reached.symm.trans middleReached)
      exact last
    · exact meets before other middle earlier middleReached

/-- A property that a step keeps exactly under its condition tells whether all steps met it. -/
theorem run_iff_stepsMeet (Invariant Good : State → Prop) {Meets : State → Action → Prop}
    (kept : ∀ state action next, step state action = some next → Invariant state → Invariant next)
    (counts : ∀ state action next, step state action = some next → Invariant state →
      (Good next ↔ Good state ∧ Meets state action))
    {start final : State} {trace : List Action} (reached : run step start trace = some final)
    (known : Invariant start) (good : Good start) :
    Good final ↔ StepsMeet step Meets start trace := by
  induction trace using List.reverseRecOn generalizing final with
  | nil =>
      obtain rfl := Option.some.inj reached
      apply iff_of_true good
      intro past action state part
      simp at part
  | append_singleton past action ih =>
      obtain ⟨state, before, taken⟩ := run_snoc step reached
      have invariant := run_invariant step Invariant kept before known
      rw [stepsMeet_concat step before, counts state action final taken invariant, ih before]

section Simulation
variable {Abstract Signal : Type} (abstractStep : Abstract → Signal → Option Abstract)
variable {Related : State → Abstract → Prop} {translate : Action → Signal}

/-- Related machines stay related when every step has a related step. -/
theorem run_simulates
    (simulates : ∀ state abstract action next, Related state abstract →
      step state action = some next → ∃ abstractNext,
        abstractStep abstract (translate action) = some abstractNext ∧ Related next abstractNext)
    {start final : State} {abstractStart : Abstract} {trace : List Action}
    (reached : run step start trace = some final) (related : Related start abstractStart) :
    ∃ abstractFinal, run abstractStep abstractStart (trace.map translate) = some abstractFinal ∧
      Related final abstractFinal := by
  induction trace generalizing start abstractStart with
  | nil =>
      obtain rfl := Option.some.inj reached
      exact ⟨abstractStart, rfl, related⟩
  | cons action trace ih =>
      obtain ⟨next, taken, rest⟩ := (run_cons_eq_some step).mp reached
      obtain ⟨abstractNext, abstractTaken, after⟩ :=
        simulates start abstractStart action next related taken
      obtain ⟨abstractFinal, abstractRest, last⟩ := ih rest after
      exact ⟨abstractFinal, (run_cons_eq_some abstractStep).mpr
        ⟨abstractNext, abstractTaken, abstractRest⟩, last⟩

/-- A condition on the steps carries over to the related steps. -/
theorem stepsMeet_simulates
    (simulates : ∀ state abstract action next, Related state abstract →
      step state action = some next → ∃ abstractNext,
        abstractStep abstract (translate action) = some abstractNext ∧ Related next abstractNext)
    {Meets : State → Action → Prop} {AbstractMeets : Abstract → Signal → Prop}
    (carries : ∀ state abstract action, Related state abstract → Meets state action →
      AbstractMeets abstract (translate action))
    {start final : State} {abstractStart : Abstract} {trace : List Action}
    (reached : run step start trace = some final) (related : Related start abstractStart)
    (meets : StepsMeet step Meets start trace) :
    StepsMeet abstractStep AbstractMeets abstractStart (trace.map translate) := by
  intro abstractPast signal abstract part abstractReached
  obtain ⟨whole, wholePart, same⟩ := List.prefix_map_iff.mp part
  obtain ⟨past, last, rfl, rfl, lastSame⟩ := List.append_eq_map_iff.mp same
  obtain ⟨action, rfl, rfl⟩ := List.map_eq_singleton_iff.mp lastSame
  obtain ⟨rest, rfl⟩ := (List.prefix_append past [action]).trans wholePart
  obtain ⟨state, before, _⟩ := run_split step reached
  obtain ⟨other, otherReached, now⟩ := run_simulates step abstractStep simulates before related
  obtain rfl := Option.some.inj (abstractReached.symm.trans otherReached)
  exact carries state abstract action now (meets past action state wholePart before)

end Simulation

/-- A machine refines another one when each of its steps is a run of the other one. -/
theorem run_refines {Abstract Signal : Type} (abstractStep : Abstract → Signal → Option Abstract)
    (view : State → Abstract) (translate : Action → List Signal)
    (refines : ∀ state action next, step state action = some next →
      run abstractStep (view state) (translate action) = some (view next))
    {state final : State} {trace : List Action} (reached : run step state trace = some final) :
    run abstractStep (view state) (trace.flatMap translate) = some (view final) := by
  induction trace generalizing state with
  | nil =>
      rw [← Option.some.inj reached]
      rfl
  | cons action trace ih =>
      obtain ⟨next, taken, rest⟩ := (run_cons_eq_some step).mp reached
      exact run_trans abstractStep (refines state action next taken) (ih rest)

end LMonitor.Library

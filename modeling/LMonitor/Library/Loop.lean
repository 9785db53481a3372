import Mathlib.Data.Option.Basic

namespace LMonitor.Library

/-- One pass of a loop body starts another pass or leaves the loop. -/
inductive Pass (State Answer : Type) where
  | again (next : State)
  | leave (answer : Answer)

/-- This function makes at most the given number of passes. -/
def iterate {State Answer : Type} (body : State → Pass State Answer) :
    Nat → State → Option Answer
  | 0, _ => none
  | fuel + 1, state =>
      match body state with
      | .again next => iterate body fuel next
      | .leave answer => some answer

/-- The loop carries the measure that ends it. -/
structure Loop (State Answer : Type) where
  body : State → Pass State Answer
  measure : State → Nat
  decreases : ∀ state next, body state = .again next → measure next < measure state

/-- The measure bounds the number of passes. -/
theorem Loop.iterate_isSome {State Answer : Type} (loop : Loop State Answer) (fuel : Nat)
    (state : State) (enough : loop.measure state < fuel) :
    (iterate loop.body fuel state).isSome := by
  induction fuel generalizing state with
  | zero => omega
  | succ fuel ih =>
      simp only [iterate]
      cases pass : loop.body state with
      | again next =>
          have smaller := loop.decreases state next pass
          exact ih next (by omega)
      | leave answer => rfl

/-- A loop returns after at most one pass more than its measure. -/
def Loop.run {State Answer : Type} (loop : Loop State Answer) (state : State) : Answer :=
  (iterate loop.body (loop.measure state + 1) state).get
    (loop.iterate_isSome _ state (Nat.lt_succ_self _))

/-- More passes than the loop needs do not change its answer. -/
theorem iterate_more {State Answer : Type} (body : State → Pass State Answer)
    (first second : Nat) (state : State) (answer : Answer)
    (ends : iterate body first state = some answer) (longer : first ≤ second) :
    iterate body second state = some answer := by
  induction first generalizing second state with
  | zero => simp [iterate] at ends
  | succ first ih =>
      obtain ⟨second, rfl⟩ : ∃ k, second = k + 1 := ⟨second - 1, by omega⟩
      simp only [iterate] at ends ⊢
      cases pass : body state with
      | again next =>
          rw [pass] at ends
          exact ih second next ends (by omega)
      | leave value => rwa [pass] at ends

/-- Every sufficient number of passes gives the answer of the run. -/
theorem Loop.iterate_run {State Answer : Type} (loop : Loop State Answer) (fuel : Nat)
    (state : State) (enough : loop.measure state < fuel) :
    iterate loop.body fuel state = some (loop.run state) :=
  iterate_more loop.body (loop.measure state + 1) fuel state _ (Option.some_get _).symm enough

/-- The run follows the body. -/
theorem Loop.run_eq {State Answer : Type} (loop : Loop State Answer) (state : State) :
    loop.run state =
      match loop.body state with
      | .again next => loop.run next
      | .leave answer => answer := by
  apply Option.some.inj
  rw [← loop.iterate_run (loop.measure state + 2) state (by omega), iterate]
  cases pass : loop.body state with
  | again next =>
      have smaller := loop.decreases state next pass
      exact loop.iterate_run _ next (by omega)
  | leave answer => rfl

/-- A pass that goes on leads to the next state. -/
theorem Loop.run_again {State Answer : Type} (loop : Loop State Answer) {state next : State}
    (pass : loop.body state = .again next) : loop.run state = loop.run next := by
  rw [loop.run_eq, pass]

/-- A pass that leaves gives its answer. -/
theorem Loop.run_leave {State Answer : Type} (loop : Loop State Answer) {state : State}
    {answer : Answer} (pass : loop.body state = .leave answer) : loop.run state = answer := by
  rw [loop.run_eq, pass]

/-- What every pass keeps holds when the run leaves its loop. -/
theorem Loop.run_keeps {State Answer : Type} (loop : Loop State Answer) (Invariant : State → Prop)
    (Result : Answer → Prop)
    (again : ∀ state next, Invariant state → loop.body state = .again next → Invariant next)
    (leave : ∀ state answer, Invariant state → loop.body state = .leave answer → Result answer)
    {state : State} (known : Invariant state) : Result (loop.run state) := by
  cases pass : loop.body state with
  | again next =>
      have smaller := loop.decreases state next pass
      rw [loop.run_again pass]
      exact loop.run_keeps Invariant Result again leave (again state next known pass)
  | leave answer =>
      rw [loop.run_leave pass]
      exact leave state answer known pass
termination_by loop.measure state

end LMonitor.Library

import LMonitor.Library.Machine

namespace LMonitor.Library

/-- A level-triggered source is raised, a poll may report it, and its handler serves a report. -/
inductive Signal where
  | raise
  | poll (reported : Bool)
  | serve
  deriving DecidableEq

/-- The level counts the raises that no handler consumed yet. -/
structure Level where
  count : Nat
  pending : Bool
  served : Nat
  deriving DecidableEq

namespace Level

def idle : Level := ⟨0, false, 0⟩

/-- A poll reports only a raised source, and one batch of reports is served before the next. -/
def step (consume : Nat → Nat) (level : Level) : Signal → Option Level
  | .raise => some { level with count := level.count + 1 }
  | .poll reported =>
      if level.pending = false ∧ (reported = true → level.count ≠ 0) then
        some { level with pending := reported }
      else none
  | .serve =>
      if level.pending then some ⟨consume level.count, false, level.served + 1⟩ else none

def raises (signals : List Signal) : Nat := signals.count .raise

def reports (signals : List Signal) : Nat := signals.count (.poll true)

/-- Every report is served once or still pending. -/
theorem served_add_pending (consume : Nat → Nat) {signals : List Signal} {level final : Level}
    (reached : run (step consume) level signals = some final) :
    final.served + final.pending.toNat =
      level.served + level.pending.toNat + reports signals := by
  induction signals generalizing level with
  | nil =>
      obtain rfl := Option.some.inj reached
      rfl
  | cons signal signals ih =>
      obtain ⟨next, taken, rest⟩ := (run_cons_eq_some _).mp reached
      rw [ih rest]
      cases signal with
      | raise =>
          obtain rfl := Option.some.inj taken
          simp [reports]
      | poll reported =>
          simp only [step, Option.ite_none_right_eq_some, Option.some.injEq] at taken
          obtain ⟨⟨free, _⟩, rfl⟩ := taken
          cases reported <;> simp [reports, free]
          omega
      | serve =>
          simp only [step, Option.ite_none_right_eq_some, Option.some.injEq] at taken
          obtain ⟨pending, rfl⟩ := taken
          simp [reports, pending]

/-- A handler that leaves the count alone lets the count grow with every raise. -/
theorem count_of_kept {signals : List Signal} {level final : Level}
    (reached : run (step id) level signals = some final) :
    final.count = level.count + raises signals := by
  induction signals generalizing level with
  | nil =>
      obtain rfl := Option.some.inj reached
      rfl
  | cons signal signals ih =>
      obtain ⟨next, taken, rest⟩ := (run_cons_eq_some _).mp reached
      rw [ih rest]
      cases signal with
      | raise =>
          obtain rfl := Option.some.inj taken
          simp only [raises, List.count_cons_self]
          omega
      | poll reported =>
          simp only [step, Option.ite_none_right_eq_some, Option.some.injEq] at taken
          obtain ⟨_, rfl⟩ := taken
          simp [raises]
      | serve =>
          simp only [step, Option.ite_none_right_eq_some, Option.some.injEq] at taken
          obtain ⟨_, rfl⟩ := taken
          simp [raises]

/-- A pending report belongs to a raise that no handler consumed. -/
def Backed (level : Level) : Prop := level.pending = true → level.count ≠ 0

/-- A handler that consumes the count runs at most once for each raise. -/
theorem served_le_raises (consume : Nat → Nat) (consumes : ∀ count, consume count ≤ count - 1)
    {signals : List Signal} {level final : Level}
    (reached : run (step consume) level signals = some final) (backed : Backed level) :
    final.served + final.count ≤ level.served + level.count + raises signals := by
  induction signals generalizing level with
  | nil =>
      obtain rfl := Option.some.inj reached
      exact Nat.le_refl _
  | cons signal signals ih =>
      obtain ⟨next, taken, rest⟩ := (run_cons_eq_some _).mp reached
      cases signal with
      | raise =>
          obtain rfl := Option.some.inj taken
          have bound := ih rest fun _ => Nat.succ_ne_zero _
          simp only [raises, List.count_cons_self] at bound ⊢
          omega
      | poll reported =>
          simp only [step, Option.ite_none_right_eq_some, Option.some.injEq] at taken
          obtain ⟨⟨_, raised⟩, rfl⟩ := taken
          simpa [raises] using ih rest raised
      | serve =>
          simp only [step, Option.ite_none_right_eq_some, Option.some.injEq] at taken
          obtain ⟨pending, rfl⟩ := taken
          have bound := ih rest fun later => by cases later
          have raised := backed pending
          have less := consumes level.count
          simp only [raises, List.count_cons] at bound ⊢
          simp only [beq_iff_eq, reduceCtorEq, if_false]
          omega

end Level
end LMonitor.Library

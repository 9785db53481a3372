import LMonitor.Reactor.PendingFunctors

namespace LMonitor
open Library
namespace LoopSchedule
variable {Functor Thread : Type}

/-- These functors left the pending list and are not executed yet. -/
def batch : LoopPart Functor → List Functor
  | .running functors => functors
  | _ => []

def BeforeWrite (s : LoopSchedule Functor Thread) : Prop := ∃ caller, s.mustWake caller = true

def Signalled (s : LoopSchedule Functor Thread) : Prop := s.wakeupCount ≠ 0 ∨ s.BeforeWrite

/-- Between its read and its swap the loop thread owes a swap instead of a wakeup. -/
def Swaps : LoopPart Functor → Prop
  | .dispatching _ | .ended => True
  | .beforeLoop | .checking | .polling | .running _ => False

/-- The functors keep their order, and each change of the state keeps its signal. -/
structure Orderly (s : LoopSchedule Functor Thread) : Prop where
  history : s.queued = s.executed ++ batch s.part ++ s.pendingFunctors
  pending : ¬ Swaps s.part → s.pendingFunctors ≠ [] → s.Signalled
  quit : s.part = .polling → s.quit = true → s.Signalled

theorem construct_orderly : Orderly (construct : LoopSchedule Functor Thread) := by
  constructor <;> simp [construct, batch]

/-- A loop thread that owes a swap needs no signal. -/
theorem orderly_swaps {s : LoopSchedule Functor Thread} (swaps : Swaps s.part)
    (history : s.queued = s.executed ++ batch s.part ++ s.pendingFunctors) : Orderly s where
  history := history
  pending owed := absurd swaps owed
  quit polling := by
    rw [polling] at swaps
    cases swaps

/-- A step of the loop thread between a swap and the next wait keeps the signals. -/
theorem Orderly.runs {s next : LoopSchedule Functor Thread} (orderly : Orderly s)
    (history : next.queued = next.executed ++ batch next.part ++ next.pendingFunctors)
    (owed : ¬ Swaps s.part) (busy : next.part ≠ .polling)
    (pending : next.pendingFunctors = s.pendingFunctors) (signals : s.Signalled → next.Signalled) :
    Orderly next where
  history := history
  pending _ filled := signals (orderly.pending owed (pending ▸ filled))
  quit polling := absurd polling busy

variable [DecidableEq Thread]

/-- A caller that has to wake the loop is before its write. -/
theorem setMustWake_beforeWrite (s : LoopSchedule Functor Thread) (caller : Option Thread) :
    (s.setMustWake caller true).BeforeWrite := ⟨caller, by simp [setMustWake]⟩

/-- Every step keeps the loop in order. -/
theorem Orderly.moved {s next : LoopSchedule Functor Thread} (orderly : Orderly s)
    (moved : Moved s next) : Orderly next := by
  have history := orderly.history
  cases moved with
  | ignored => exact orderly
  | pushed caller functor =>
      have before := setMustWake_beforeWrite s caller
      refine ⟨?_, fun _ _ => .inr before, fun _ _ => .inr before⟩
      change s.queued ++ [functor] = s.executed ++ batch s.part ++ (s.pendingFunctors ++ [functor])
      rw [history, List.append_assoc]
  | quit caller started =>
      have before := setMustWake_beforeWrite s caller
      exact ⟨history, fun _ _ => .inr before, fun _ _ => .inr before⟩
  | wrote caller =>
      exact ⟨history, fun _ _ => .inl (writeOne_ne_zero _), fun _ _ => .inl (writeOne_ne_zero _)⟩
  | looped before =>
      rw [before] at history
      exact orderly.runs history (by simp [before, Swaps]) (by simp) rfl id
  | quitSeen checking quit =>
      rw [checking] at history
      exact orderly_swaps trivial history
  | waited checking running =>
      -- The loop thread goes to sleep, and the test of the flag came first.
      rw [checking] at history
      refine ⟨history, fun _ => orderly.pending ?_, fun _ quit => ?_⟩
      · rw [checking]
        exact id
      · rw [show s.quit = true from quit] at running
        cases running
  | reported events polling | failed polling =>
      rw [polling] at history
      exact orderly_swaps trivial history
  | dispatched source events first | threw source events first =>
      rw [first] at history
      cases source <;> exact orderly_swaps trivial history
  | swapped dispatched =>
      rw [dispatched] at history
      refine ⟨?_, fun _ filled => absurd rfl filled, fun later => by cases later⟩
      simpa [batch] using history
  | executed functor functors outcome first =>
      rw [first] at history
      have done : s.queued = s.executed ++ [functor] ++ functors ++ s.pendingFunctors := by
        simpa [batch] using history
      exact orderly.runs done (by simp [first, Swaps]) (by simp) rfl id
  | left done =>
      rw [done] at history
      exact orderly.runs history (by simp [done, Swaps]) (by simp) rfl id

/-- A functor that is executed or in the batch stays so. -/
theorem Moved.kept {s next : LoopSchedule Functor Thread} (moved : Moved s next)
    {before : List Functor} (known : before <+: s.executed ++ batch s.part) :
    before <+: next.executed ++ batch next.part := by
  cases moved with
  | ignored | pushed | quit | wrote => exact known
  | looped part | quitSeen part | waited part | reported events part | failed part | left part =>
      rw [part] at known
      exact known
  | dispatched source events first | threw source events first =>
      rw [first] at known
      cases source <;> exact known
  | swapped dispatched =>
      rw [dispatched] at known
      exact known.trans (List.prefix_append_right_inj s.executed |>.mpr List.nil_prefix)
  | executed functor functors outcome first =>
      rw [first] at known
      simpa [batch] using known

/-- Any threads take any steps in any order. -/
structure LoopRun (Functor Thread : Type) [DecidableEq Thread] where
  trace : List (Action Functor Thread)
  final : LoopSchedule Functor Thread
  reached : run step construct trace = some final

/-- The loop is in order at the end of every run. -/
theorem LoopRun.orderly (r : LoopRun Functor Thread) : Orderly r.final := by
  apply run_invariant step Orderly ?_ r.reached construct_orderly
  intro s action next taken known
  exact known.moved (step_moved taken)

/-- A functor that was queued before a swap is executed at the end of its batch at the latest. -/
theorem LoopRun.swapped (r : LoopRun Functor Thread) {past rest : List (Action Functor Thread)}
    {middle : LoopSchedule Functor Thread} (trace : r.trace = past ++ .swap :: rest)
    (before : run step construct past = some middle) :
    middle.queued <+: r.final.executed ++ batch r.final.part := by
  have rest := run_rest step (trace ▸ r.reached) before
  obtain ⟨after, swap, later⟩ := (run_cons_eq_some step).mp rest
  have orderly : Orderly middle := LoopRun.orderly ⟨past, middle, before⟩
  have swapped : after.queued = middle.queued ∧ after.pendingFunctors = [] := by
    simp only [step] at swap
    split at swap
    · obtain rfl := Option.some.inj swap
      exact ⟨rfl, rfl⟩
    · cases swap
  have orderlyAfter := orderly.moved (step_moved swap)
  have start : middle.queued <+: after.executed ++ batch after.part := by
    have whole := orderlyAfter.history
    rw [swapped.1, swapped.2, List.append_nil] at whole
    exact ⟨[], by rw [List.append_nil, whole]⟩
  apply run_invariant step (fun s => middle.queued <+: s.executed ++ batch s.part) ?_ later start
  intro s action next taken known
  exact (step_moved taken).kept known

end LoopSchedule
end LMonitor

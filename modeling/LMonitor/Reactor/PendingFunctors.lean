import LMonitor.Library.Machine
import LMonitor.Model.Outcome
import LMonitor.Reactor.EventLoop

namespace LMonitor
open Library

/-- The loop thread is inside one part of `loop` or outside of it. -/
inductive LoopPart (Functor : Type) where
  | beforeLoop
  | checking
  | polling
  | dispatching (events : List Source)
  | running (functors : List Functor)
  | ended
  deriving DecidableEq

/-- A caller that still must wake the loop stands between its change and its write. -/
structure LoopSchedule (Functor Thread : Type) where
  pendingFunctors : List Functor
  quit : Bool
  wakeupCount : Nat
  part : LoopPart Functor
  mustWake : Option Thread → Bool
  log : List Bytes
  queued : List Functor
  executed : List Functor

namespace LoopSchedule
variable {Functor Thread : Type} [DecidableEq Thread]

def construct : LoopSchedule Functor Thread where
  pendingFunctors := []
  quit := false
  wakeupCount := 0
  part := .beforeLoop
  mustWake _ := false
  log := []
  queued := []
  executed := []

/-- The loop thread runs code of others outside the loop, in a callback and in a functor. -/
def callsOut : LoopPart Functor → Bool
  | .beforeLoop | .running (_ :: _) | .ended => true
  | .dispatching (source :: _) => source != .wakeup
  | .checking | .polling | .dispatching [] | .running [] => false

/-- A thread makes one call after the other, and `none` stands for the loop thread. -/
def MayCall (s : LoopSchedule Functor Thread) (caller : Option Thread) : Prop :=
  s.mustWake caller = false ∧ (caller = none → callsOut s.part = true)

instance (s : LoopSchedule Functor Thread) : DecidablePred s.MayCall :=
  fun _ => inferInstanceAs (Decidable (_ ∧ (_ → _)))

/-- A write to a full `eventfd` counter fails with `EAGAIN` and leaves it alone. -/
def writeOne (count : Nat) : Nat := if count < 18446744073709551614 then count + 1 else count

theorem writeOne_ne_zero (count : Nat) : writeOne count ≠ 0 := by
  simp only [writeOne]
  split
  · omega
  · omega

/-- Each access to the shared state is one action, and interrupted system calls repeat. -/
inductive Action (Functor Thread : Type) where
  | queueInLoop (caller : Option Thread) (functor : Option Functor)
  | quit (caller : Option Thread)
  | wakeup (caller : Option Thread)
  | loop
  | checkQuit
  | epollWait (reported : List Source)
  | epollFails
  | dispatch (threw : Bool)
  | swap
  | finish (outcome : Outcome)
  | leave

def setMustWake (caller : Option Thread) (must : Bool) (s : LoopSchedule Functor Thread) :
    LoopSchedule Functor Thread :=
  { s with mustWake := Function.update s.mustWake caller must }

/-- An empty function object is ignored. -/
def queueInLoop (caller : Option Thread) (functor : Option Functor)
    (s : LoopSchedule Functor Thread) : LoopSchedule Functor Thread :=
  match functor with
  | none => s
  | some functor =>
      { s.setMustWake caller true with
        pendingFunctors := s.pendingFunctors ++ [functor]
        queued := s.queued ++ [functor] }

/-- A read resets the counter, and the other callbacks act through the other actions. -/
def handleEvent (source : Source) (s : LoopSchedule Functor Thread) :
    LoopSchedule Functor Thread :=
  match source with
  | .wakeup => { s with wakeupCount := 0 }
  | _ => s

/-- `epoll_wait` has no timeout and reports the wakeup descriptor only with a count. -/
def Reports (s : LoopSchedule Functor Thread) (reported : List Source) : Prop :=
  reported ≠ [] ∧ reported.Nodup ∧ (.wakeup ∈ reported → s.wakeupCount ≠ 0)

instance (s : LoopSchedule Functor Thread) (reported : List Source) :
    Decidable (s.Reports reported) := inferInstanceAs (Decidable (_ ∧ _ ∧ _))

/-- An exception of a channel callback leaves the loop, and that of a functor does not. -/
def step (s : LoopSchedule Functor Thread) :
    Action Functor Thread → Option (LoopSchedule Functor Thread)
  | .queueInLoop caller functor =>
      if s.MayCall caller then some (s.queueInLoop caller functor) else none
  | .quit caller =>
      match s.part with
      | .beforeLoop => none
      | _ =>
          if s.MayCall caller then some { s.setMustWake caller true with quit := true } else none
  | .wakeup caller =>
      if s.mustWake caller then
        some { s.setMustWake caller false with wakeupCount := writeOne s.wakeupCount }
      else none
  | .loop =>
      match s.part with
      | .beforeLoop =>
          if s.mustWake none then none else some { s with quit := false, part := .checking }
      | _ => none
  | .checkQuit =>
      match s.part with
      | .checking => some { s with part := if s.quit then .ended else .polling }
      | _ => none
  | .epollWait reported =>
      match s.part with
      | .polling =>
          if s.Reports reported then some { s with part := .dispatching reported } else none
      | _ => none
  | .epollFails =>
      match s.part with
      | .polling => some { s with part := .ended }
      | _ => none
  | .dispatch threw =>
      match s.part with
      | .dispatching (source :: events) =>
          if s.mustWake none ∨ (threw ∧ source = .wakeup) then none
          else
            some { s.handleEvent source with
              part := if threw then .ended else .dispatching events }
      | _ => none
  | .swap =>
      match s.part with
      | .dispatching [] => some { s with pendingFunctors := [], part := .running s.pendingFunctors }
      | _ => none
  | .finish outcome =>
      match s.part with
      | .running (functor :: functors) =>
          if s.mustWake none then none
          else
            some { s with
              part := .running functors
              log := s.log ++ outcome.errorLines (ascii "EventLoop pending functor")
              executed := s.executed ++ [functor] }
      | _ => none
  | .leave =>
      match s.part with
      | .running [] => some { s with part := .checking }
      | _ => none

/-- These are the possible effects of one step, each with what held before it. -/
inductive Moved (s : LoopSchedule Functor Thread) : LoopSchedule Functor Thread → Prop where
  | ignored : Moved s s
  | pushed (caller : Option Thread) (functor : Functor) :
      Moved s { s.setMustWake caller true with
        pendingFunctors := s.pendingFunctors ++ [functor]
        queued := s.queued ++ [functor] }
  | quit (caller : Option Thread) (started : s.part ≠ .beforeLoop) :
      Moved s { s.setMustWake caller true with quit := true }
  | wrote (caller : Option Thread) :
      Moved s { s.setMustWake caller false with wakeupCount := writeOne s.wakeupCount }
  | looped (before : s.part = .beforeLoop) : Moved s { s with quit := false, part := .checking }
  | quitSeen (checking : s.part = .checking) (quit : s.quit = true) :
      Moved s { s with part := .ended }
  | waited (checking : s.part = .checking) (running : s.quit = false) :
      Moved s { s with part := .polling }
  | reported (events : List Source) (polling : s.part = .polling) :
      Moved s { s with part := .dispatching events }
  | failed (polling : s.part = .polling) : Moved s { s with part := .ended }
  | dispatched (source : Source) (events : List Source)
      (first : s.part = .dispatching (source :: events)) :
      Moved s { s.handleEvent source with part := .dispatching events }
  | threw (source : Source) (events : List Source)
      (first : s.part = .dispatching (source :: events)) :
      Moved s { s.handleEvent source with part := .ended }
  | swapped (dispatched : s.part = .dispatching []) :
      Moved s { s with pendingFunctors := [], part := .running s.pendingFunctors }
  | executed (functor : Functor) (functors : List Functor) (outcome : Outcome)
      (first : s.part = .running (functor :: functors)) :
      Moved s { s with
        part := .running functors
        log := s.log ++ outcome.errorLines (ascii "EventLoop pending functor")
        executed := s.executed ++ [functor] }
  | left (done : s.part = .running []) : Moved s { s with part := .checking }

theorem checkQuit_moved {s next : LoopSchedule Functor Thread}
    (taken : step s .checkQuit = some next) : Moved s next := by
  simp only [step] at taken
  split at taken
  · rename_i checking
    obtain rfl := Option.some.inj taken
    by_cases quit : s.quit = true
    · simp only [if_pos quit]
      exact .quitSeen checking quit
    · simp only [if_neg quit]
      exact .waited checking (by simpa using quit)
  · cases taken

theorem dispatch_moved {s next : LoopSchedule Functor Thread} {threw : Bool}
    (taken : step s (.dispatch threw) = some next) : Moved s next := by
  simp only [step] at taken
  split at taken
  · rename_i source events first
    simp only [Option.ite_none_left_eq_some, Option.some.injEq] at taken
    obtain ⟨_, rfl⟩ := taken
    cases threw with
    | true => exact .threw source events first
    | false => exact .dispatched source events first
  · cases taken

/-- Every step has one of the effects. -/
theorem step_moved {s next : LoopSchedule Functor Thread} {action : Action Functor Thread}
    (taken : step s action = some next) : Moved s next := by
  cases action with
  | queueInLoop caller functor =>
      simp only [step, Option.ite_none_right_eq_some, Option.some.injEq] at taken
      obtain ⟨_, rfl⟩ := taken
      cases functor with
      | none => exact .ignored
      | some functor => exact .pushed caller functor
  | quit caller =>
      simp only [step] at taken
      split at taken
      · cases taken
      · rename_i started
        simp only [Option.ite_none_right_eq_some, Option.some.injEq] at taken
        obtain ⟨_, rfl⟩ := taken
        exact .quit caller started
  | wakeup caller =>
      simp only [step, Option.ite_none_right_eq_some, Option.some.injEq] at taken
      obtain ⟨_, rfl⟩ := taken
      exact .wrote caller
  | loop =>
      simp only [step] at taken
      split at taken
      · rename_i before
        simp only [Option.ite_none_left_eq_some, Option.some.injEq] at taken
        obtain ⟨_, rfl⟩ := taken
        exact .looped before
      · cases taken
  | checkQuit => exact checkQuit_moved taken
  | epollWait reported =>
      simp only [step] at taken
      split at taken
      · rename_i polling
        simp only [Option.ite_none_right_eq_some, Option.some.injEq] at taken
        obtain ⟨_, rfl⟩ := taken
        exact .reported reported polling
      · cases taken
  | epollFails =>
      simp only [step] at taken
      split at taken
      · rename_i polling
        obtain rfl := Option.some.inj taken
        exact .failed polling
      · cases taken
  | dispatch threw => exact dispatch_moved taken
  | swap =>
      simp only [step] at taken
      split at taken
      · rename_i dispatched
        obtain rfl := Option.some.inj taken
        exact .swapped dispatched
      · cases taken
  | finish outcome =>
      simp only [step] at taken
      split at taken
      · rename_i functor functors first
        simp only [Option.ite_none_left_eq_some, Option.some.injEq] at taken
        obtain ⟨_, rfl⟩ := taken
        exact .executed functor functors outcome first
      · cases taken
  | leave =>
      simp only [step] at taken
      split at taken
      · rename_i done
        obtain rfl := Option.some.inj taken
        exact .left done
      · cases taken

end LoopSchedule
end LMonitor

import LMonitor.Library.Machine
import LMonitor.Store.StateTracker
import LMonitor.Timer.TimerFd

namespace LMonitor
open Library
variable {D : Type} [Double D]

/-- Epoll watches the status timer, the wakeup descriptor and further descriptors. -/
inductive Source where
  | statusTimer
  | wakeup
  | other (fd : Nat)
  deriving DecidableEq

/-- The loop waits in `epoll_wait`, dispatches the events that it returned, or has ended. -/
inductive LoopPhase where
  | polling
  | dispatching (events : List Source) (distinct : events.Nodup)
  | stopped

/-- The kernel holds the timer, the wakeup count and the readiness of the other descriptors. -/
structure EventLoop (D : Type) [Double D] where
  statusTimer : TimerFd
  wakeupCount : Nat
  ready : List Nat
  maxEvents : Nat
  quit : Bool
  phase : LoopPhase
  metricsStore : MetricsStore D
  stateTracker : StateTracker
  log : List Bytes
  handled : Source → Nat

namespace EventLoop

def changeLine (hostname : Bytes) (stateChange : StateTracker.StateChange) : Bytes :=
  ascii "Host status changed: host=" ++ hostname ++ ascii ", " ++
    MetricsStore.statusToString stateChange.oldStatus ++ ascii " -> " ++
    MetricsStore.statusToString stateChange.newStatus

/-- The read callback of the status timer reads the clock once for every host. -/
def statusScan (clock : Nat → Int) :
    List (StoredMetrics D) → StateTracker → List Bytes × StateTracker
  | [], tracker => ([], tracker)
  | host :: hosts, tracker =>
      let currentStatus := MetricsStore.getStatus (clock 0) host
      let (stateChange, tracker) :=
        StateTracker.update host.metrics.hostname currentStatus tracker
      let (log, tracker) := statusScan (fun reading => clock (reading + 1)) hosts tracker
      if stateChange.changed then (changeLine host.metrics.hostname stateChange :: log, tracker)
      else (log, tracker)

/-- The environment raises descriptors and changes the stores, and the loop takes its steps. -/
inductive Action (D : Type) [Double D] where
  | expire
  | wakeup
  | quit
  | ready (fds : List Nat)
  | workers (metricsStore : MetricsStore D) (stateTracker : StateTracker)
  | epollWait (reported : List Source)
  | dispatch (source : Source) (clock : Nat → Int)
  | finish

/-- Epoll is level-triggered, and only a read of its descriptor ends the readiness. -/
def Raised (s : EventLoop D) : Source → Prop
  | .statusTimer => s.statusTimer.expirationCount ≠ 0
  | .wakeup => s.wakeupCount ≠ 0
  | .other fd => fd ∈ s.ready

instance (s : EventLoop D) : DecidablePred s.Raised
  | .statusTimer => inferInstanceAs (Decidable (_ ≠ _))
  | .wakeup => inferInstanceAs (Decidable (_ ≠ _))
  | .other fd => inferInstanceAs (Decidable (fd ∈ s.ready))

/-- `epoll_wait` returns some raised sources, and a raised timer is always among them. -/
def Reports (s : EventLoop D) (reported : List Source) : Prop :=
  reported.Nodup ∧ reported ≠ [] ∧ reported.length ≤ s.maxEvents ∧
    (∀ source ∈ reported, s.Raised source) ∧
    (s.Raised .statusTimer → .statusTimer ∈ reported)

instance (s : EventLoop D) (reported : List Source) : Decidable (s.Reports reported) :=
  inferInstanceAs (Decidable (_ ∧ _ ∧ _ ∧ _ ∧ _))

/-- The callbacks of the other descriptors act on the loop through the other actions. -/
def handleEvent (source : Source) (clock : Nat → Int) (s : EventLoop D) : EventLoop D :=
  let s := { s with handled := Function.update s.handled source (s.handled source + 1) }
  match source with
  | .statusTimer =>
      let (log, stateTracker) := statusScan clock s.metricsStore.getAll s.stateTracker
      { s with log := s.log ++ log, stateTracker := stateTracker }
  | .wakeup => { s with wakeupCount := 0 }
  | .other _ => s

def step (s : EventLoop D) : Action D → Option (EventLoop D)
  | .expire => s.statusTimer.expire.map fun timer => { s with statusTimer := timer }
  | .wakeup => some { s with wakeupCount := s.wakeupCount + 1 }
  | .quit => some { s with quit := true, wakeupCount := s.wakeupCount + 1 }
  | .ready fds => some { s with ready := fds }
  | .workers metricsStore stateTracker =>
      some { s with metricsStore := metricsStore, stateTracker := stateTracker }
  | .epollWait reported =>
      match s.phase with
      | .polling =>
          if reports : s.Reports reported then
            some { s with phase := .dispatching reported reports.1 }
          else none
      | _ => none
  | .dispatch source clock =>
      match s.phase with
      | .dispatching (first :: events) distinct =>
          if first = source then
            some { s.handleEvent source clock with
              phase := .dispatching events (List.nodup_cons.mp distinct).2 }
          else none
      | _ => none
  | .finish =>
      match s.phase with
      | .dispatching [] _ => some { s with phase := if s.quit then .stopped else .polling }
      | _ => none

/-- A wait ends with the reported sources. -/
theorem epollWait_cases {s next : EventLoop D} {reported : List Source}
    (taken : step s (.epollWait reported) = some next) :
    s.phase = .polling ∧ ∃ reports : s.Reports reported,
      next = { s with phase := .dispatching reported reports.1 } := by
  simp only [step] at taken
  split at taken
  · rename_i polling
    simp only [Option.dite_none_right_eq_some, Option.some.injEq] at taken
    obtain ⟨reports, same⟩ := taken
    exact ⟨polling, reports, same.symm⟩
  · cases taken

/-- The first reported source is dispatched. -/
theorem dispatch_cases {s next : EventLoop D} {source : Source} {clock : Nat → Int}
    (taken : step s (.dispatch source clock) = some next) :
    ∃ events, ∃ distinct : (source :: events).Nodup,
      s.phase = .dispatching (source :: events) distinct ∧
      next = { s.handleEvent source clock with
        phase := .dispatching events (List.nodup_cons.mp distinct).2 } := by
  simp only [step] at taken
  split at taken
  · rename_i first events distinct dispatching
    simp only [Option.ite_none_right_eq_some, Option.some.injEq] at taken
    obtain ⟨rfl, same⟩ := taken
    exact ⟨events, distinct, dispatching, same.symm⟩
  · cases taken

/-- A batch ends when all its sources were dispatched. -/
theorem finish_cases {s next : EventLoop D} (taken : step s .finish = some next) :
    ∃ distinct, s.phase = .dispatching [] distinct ∧
      next = { s with phase := if s.quit then .stopped else .polling } := by
  simp only [step] at taken
  split at taken
  · rename_i distinct dispatching
    exact ⟨distinct, dispatching, (Option.some.inj taken).symm⟩
  · cases taken

/-- The server arms its timer with five seconds before the loop starts. -/
def start (maxEvents : Nat) (metricsStore : MetricsStore D) (stateTracker : StateTracker) :
    EventLoop D where
  statusTimer := ⟨some 5, 0⟩
  wakeupCount := 0
  ready := []
  maxEvents := maxEvents
  quit := false
  phase := .polling
  metricsStore := metricsStore
  stateTracker := stateTracker
  log := []
  handled _ := 0

theorem start_statusTimer (maxEvents : Nat) (metricsStore : MetricsStore D)
    (stateTracker : StateTracker) :
    TimerFd.start 5 TimerFd.construct =
      .ok (start maxEvents metricsStore stateTracker).statusTimer := rfl

end EventLoop
end LMonitor

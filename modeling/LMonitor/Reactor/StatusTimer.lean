import LMonitor.Library.LevelTriggered
import LMonitor.Reactor.EventLoop
import Mathlib.Data.List.Induction
import Mathlib.Data.List.TakeWhile

namespace LMonitor.EventLoop
open Library
variable {D : Type} [Double D]

/-- A source is pending while its event is among those that the loop still has to dispatch. -/
def pending (s : EventLoop D) (source : Source) : Bool :=
  match s.phase with
  | .dispatching events _ => decide (source ∈ events)
  | _ => false

/-- The kernel keeps a count for each of the two descriptors of the loop itself. -/
def count (s : EventLoop D) : Source → Nat
  | .statusTimer => s.statusTimer.expirationCount
  | .wakeup => s.wakeupCount
  | .other _ => 0

def level (source : Source) (s : EventLoop D) : Level :=
  ⟨s.count source, s.pending source, s.handled source⟩

/-- The callback of the wakeup descriptor reads the count, and the one of the timer does not. -/
def consume : Source → Nat → Nat
  | .statusTimer => id
  | _ => fun _ => 0

def raises : Source → Action D → Bool
  | .statusTimer, .expire => true
  | .wakeup, .wakeup => true
  | .wakeup, .quit => true
  | _, _ => false

/-- These are the signals that an action gives to a source. -/
def signals (source : Source) (action : Action D) : List Signal :=
  match action with
  | .epollWait reported => [.poll (decide (source ∈ reported))]
  | .dispatch other _ => if other = source then [.serve] else []
  | _ => if raises source action then [.raise] else []

/-- A callback consumes the count of its own source and of no other one. -/
theorem count_handleEvent (s : EventLoop D) (first source : Source) (clock : Nat → Int) :
    (s.handleEvent first clock).count source =
      if first = source then consume source (s.count source) else s.count source := by
  cases first <;> cases source <;> simp [handleEvent, count, consume]

theorem handled_handleEvent (s : EventLoop D) (first source : Source) (clock : Nat → Int) :
    (s.handleEvent first clock).handled source =
      if first = source then s.handled source + 1 else s.handled source := by
  by_cases same : first = source
  · subst same
    cases first <;> simp [handleEvent]
  · cases first <;> simp [handleEvent, Function.update_of_ne (Ne.symm same), same]

/-- A step of the loop is a step of the level of each of its own descriptors. -/
theorem step_level (source : Source) (own : ∀ fd, source ≠ .other fd) (s : EventLoop D)
    (action : Action D) (next : EventLoop D) (taken : step s action = some next) :
    run (Level.step (consume source)) (level source s) (signals source action) =
      some (level source next) := by
  cases action with
  | expire =>
      obtain ⟨timer, armed, rfl⟩ := Option.map_eq_some_iff.mp taken
      obtain ⟨seconds, _, rfl⟩ := Option.map_eq_some_iff.mp armed
      cases source with
      | statusTimer | wakeup => rfl
      | other fd => exact absurd rfl (own fd)
  | wakeup | quit =>
      obtain rfl := Option.some.inj taken
      cases source with
      | statusTimer | wakeup => rfl
      | other fd => exact absurd rfl (own fd)
  | ready | workers =>
      obtain rfl := Option.some.inj taken
      cases source <;> rfl
  | epollWait reported =>
      obtain ⟨polling, reports, rfl⟩ := epollWait_cases taken
      have raised : source ∈ reported → s.count source ≠ 0 := by
        intro member
        have known := reports.2.2.2.1 source member
        cases source with
        | statusTimer | wakeup => exact known
        | other fd => exact absurd rfl (own fd)
      simp only [signals, run, Level.step, level, pending, polling, decide_eq_true_eq, true_and]
      rw [if_pos raised]
      rfl
  | dispatch first clock =>
      obtain ⟨events, distinct, dispatching, rfl⟩ := dispatch_cases taken
      have fresh := (List.nodup_cons.mp distinct).1
      have counted := count_handleEvent s first source clock
      have served := handled_handleEvent s first source clock
      by_cases same : first = source
      · subst same
        rw [if_pos rfl] at counted served
        have pendingNow : s.pending first = true := by
          simp [pending, dispatching]
        simp only [signals, if_true, run, Level.step, level, pendingNow, Option.bind_some]
        simp only [← counted, ← served, pending, fresh, decide_false]
        rfl
      · rw [if_neg same] at counted served
        have still : s.pending source = decide (source ∈ events) := by
          simp [pending, dispatching, Ne.symm same]
        simp only [signals, same, if_false, run, level, ← counted, ← served, still]
        rfl
  | finish =>
      obtain ⟨distinct, dispatching, rfl⟩ := finish_cases taken
      have free : s.pending source = false := by
        simp [pending, dispatching]
      simp only [signals, raises, level, free]
      cases s.quit <;> rfl

/-- The loop refines the level of each of its own descriptors. -/
theorem run_level (source : Source) (own : ∀ fd, source ≠ .other fd) {s final : EventLoop D}
    {trace : List (Action D)} (reached : run step s trace = some final) :
    run (Level.step (consume source)) (level source s) (trace.flatMap (signals source)) =
      some (level source final) :=
  run_refines step _ (level source) (signals source) (step_level source own) reached

/-- The signals of a source count what raises it. -/
theorem raises_signals (source : Source) (trace : List (Action D)) :
    Level.raises (trace.flatMap (signals source)) = trace.countP (raises source) := by
  induction trace with
  | nil => rfl
  | cons action trace ih =>
      rw [List.flatMap_cons, Level.raises, List.count_append, List.countP_cons, ← ih, Nat.add_comm]
      congr 1
      cases action with
      | epollWait reported => cases source <;> simp [signals, raises]
      | dispatch other clock =>
          by_cases same : other = source <;> cases source <;> simp [signals, raises, same]
      | _ => cases source <;> rfl

/-- The wakeup callback runs at most once for each wakeup, because it reads its descriptor. -/
theorem wakeups_handled_le (maxEvents : Nat) (metricsStore : MetricsStore D)
    (stateTracker : StateTracker) {trace : List (Action D)} {final : EventLoop D}
    (reached : run step (start maxEvents metricsStore stateTracker) trace = some final) :
    final.handled .wakeup ≤ trace.countP (raises .wakeup) := by
  have bound := Level.served_le_raises (consume .wakeup) (fun _ => Nat.zero_le _)
    (run_level .wakeup nofun reached) nofun
  rw [raises_signals] at bound
  have fresh : level .wakeup (start maxEvents metricsStore stateTracker) = Level.idle := rfl
  rw [fresh] at bound
  simp only [level, Level.idle] at bound
  omega

/-- The timer has expired so many times. -/
def expirations (trace : List (Action D)) : Nat := trace.countP (raises .statusTimer)

def isWait : Action D → Bool
  | .epollWait _ => true
  | _ => false

/-- `epoll_wait` has returned so many times since the first expiration. -/
def waitsSinceExpiry (trace : List (Action D)) : Nat :=
  (trace.dropWhile fun action => !raises .statusTimer action).countP isWait

/-- A wait counts once the timer has expired. -/
theorem waitsSinceExpiry_snoc (past : List (Action D)) (action : Action D) :
    waitsSinceExpiry (past ++ [action]) =
      waitsSinceExpiry past + if isWait action ∧ expirations past ≠ 0 then 1 else 0 := by
  have quiet : expirations past = 0 ↔
      (past.dropWhile fun action => !raises .statusTimer action) = [] := by
    simp [expirations, List.countP_eq_zero, List.dropWhile_eq_nil_iff]
  simp only [waitsSinceExpiry, List.dropWhile_append, List.isEmpty_iff]
  by_cases none : expirations past = 0
  · rw [if_pos (quiet.mp none), quiet.mp none]
    cases action <;> simp [raises, isWait, none]
  · rw [if_neg fun empty => none (quiet.mpr empty)]
    simp [List.countP_append, List.countP_singleton, none]

/-- A run of the reactor starts with an armed timer and an idle loop. -/
structure LoopRun (D : Type) [Double D] where
  maxEvents : Nat
  metricsStore : MetricsStore D
  stateTracker : StateTracker
  trace : List (Action D)
  final : EventLoop D
  reached : run step (start maxEvents metricsStore stateTracker) trace = some final

namespace LoopRun

def initial (loop : LoopRun D) : EventLoop D :=
  start loop.maxEvents loop.metricsStore loop.stateTracker

/-- The loop was in this state after this part of the run. -/
def Passes (loop : LoopRun D) (past : List (Action D)) (s : EventLoop D) : Prop :=
  past <+: loop.trace ∧ run step loop.initial past = some s

end LoopRun

/-- The kernel count of the timer is the number of expirations, since nothing reads it. -/
theorem expirationCount_eq (loop : LoopRun D) {past : List (Action D)} {s : EventLoop D}
    (passes : loop.Passes past s) : s.statusTimer.expirationCount = expirations past := by
  have counted := Level.count_of_kept (run_level .statusTimer nofun passes.2)
  rw [raises_signals] at counted
  exact counted.trans (Nat.zero_add _)

/-- Every return of `epoll_wait` since the first expiration reported the timer. -/
theorem reports_eq (loop : LoopRun D) {past : List (Action D)} {s : EventLoop D}
    (passes : loop.Passes past s) :
    Level.reports (past.flatMap (signals .statusTimer)) = waitsSinceExpiry past := by
  induction past using List.reverseRecOn generalizing s with
  | nil => rfl
  | append_singleton past action ih =>
      obtain ⟨before, reached, waited⟩ := run_snoc step passes.2
      have passed : loop.Passes past before :=
        ⟨(List.prefix_append past [action]).trans passes.1, reached⟩
      have counted := expirationCount_eq loop passed
      rw [waitsSinceExpiry_snoc, ← ih passed, List.flatMap_append, List.flatMap_singleton,
        Level.reports, List.count_append]
      congr 1
      cases action with
      | epollWait reported =>
          obtain ⟨_, reports, _⟩ := epollWait_cases waited
          have seen : .statusTimer ∈ reported ↔ expirations past ≠ 0 := by
            rw [← counted]
            exact ⟨reports.2.2.2.1 .statusTimer, reports.2.2.2.2⟩
          by_cases expired : expirations past = 0 <;> simp [signals, isWait, seen, expired]
      | dispatch source clock =>
          by_cases own : source = .statusTimer <;> simp [signals, isWait, own]
      | _ => simp [signals, raises, isWait]

/-- Each of these reports ran the scan once or still waits for its dispatch. -/
theorem scans_add_pending (loop : LoopRun D) {past : List (Action D)} {s : EventLoop D}
    (passes : loop.Passes past s) :
    s.handled .statusTimer + (s.pending .statusTimer).toNat = waitsSinceExpiry past := by
  have served := Level.served_add_pending _ (run_level .statusTimer nofun passes.2)
  rw [reports_eq loop passes] at served
  exact served.trans (Nat.zero_add _)

/-- Only the dispatch of a source changes how often its callback ran. -/
theorem handled_step (source : Source) {s next : EventLoop D} {action : Action D}
    (taken : step s action = some next) :
    (∃ clock, action = .dispatch source clock) ∨ next.handled source = s.handled source := by
  cases action with
  | expire =>
      obtain ⟨timer, _, rfl⟩ := Option.map_eq_some_iff.mp taken
      exact .inr rfl
  | wakeup | quit | ready | workers =>
      obtain rfl := Option.some.inj taken
      exact .inr rfl
  | epollWait reported =>
      obtain ⟨_, _, rfl⟩ := epollWait_cases taken
      exact .inr rfl
  | dispatch first clock =>
      obtain ⟨_, _, _, rfl⟩ := dispatch_cases taken
      by_cases same : first = source
      · exact .inl ⟨clock, same ▸ rfl⟩
      · exact .inr ((handled_handleEvent s first source clock).trans (if_neg same))
  | finish =>
      obtain ⟨_, _, rfl⟩ := finish_cases taken
      exact .inr rfl

/-- After its dispatch, a source is not pending any more. -/
theorem pending_dispatch {s next : EventLoop D} {source : Source} {clock : Nat → Int}
    (taken : step s (.dispatch source clock) = some next) : next.pending source = false := by
  obtain ⟨events, distinct, _, rfl⟩ := dispatch_cases taken
  simp [pending, (List.nodup_cons.mp distinct).1]

/-- The loop blocks in `epoll_wait` while no source is raised. -/
def Blocks (s : EventLoop D) : Prop := s.phase = .polling ∧ ∀ source, ¬ s.Raised source

/-- The count of the scans keeps to the expirations exactly when each scan comes after enough of
them. Whether it does or not, the loop blocks only before the first expiration. -/
theorem statusScans_iff (loop : LoopRun D) :
    ((∀ past s, loop.Passes past s → s.handled .statusTimer ≤ expirations past) ↔
      ∀ past clock, past ++ [.dispatch .statusTimer clock] <+: loop.trace →
        waitsSinceExpiry past ≤ expirations past) ∧
    ∀ past s, loop.Passes past s → Blocks s → expirations past = 0 := by
  refine ⟨⟨?_, ?_⟩, ?_⟩
  · intro bounded past clock part
    obtain ⟨rest, whole⟩ := part
    have reached := loop.reached
    rw [← whole] at reached
    obtain ⟨next, before, _⟩ := run_split step reached
    have passes : loop.Passes (past ++ [.dispatch .statusTimer clock]) next :=
      ⟨⟨rest, whole⟩, before⟩
    obtain ⟨s, _, taken⟩ := run_snoc step before
    have scans := scans_add_pending loop passes
    have bound := bounded _ _ passes
    rw [pending_dispatch taken, waitsSinceExpiry_snoc] at scans
    simp only [expirations, List.countP_append, List.countP_singleton, raises] at bound
    simp only [isWait, Bool.false_eq_true, false_and, if_false, Bool.toNat_false] at scans
    simp only [Bool.false_eq_true, if_false] at bound
    rw [expirations]
    omega
  · intro enough past
    induction past using List.reverseRecOn with
    | nil =>
        intro s passes
        obtain rfl := Option.some.inj passes.2
        exact Nat.zero_le _
    | append_singleton past action ih =>
        intro next passes
        obtain ⟨s, reached, taken⟩ := run_snoc step passes.2
        have more : expirations past ≤ expirations (past ++ [action]) := by
          simp [expirations, List.countP_append]
        rcases handled_step .statusTimer taken with ⟨clock, rfl⟩ | kept
        · have scans := scans_add_pending loop passes
          have bound := enough past clock passes.1
          rw [waitsSinceExpiry_snoc] at scans
          simp only [isWait, Bool.false_eq_true, false_and, if_false] at scans
          omega
        · have before := ih s ⟨(List.prefix_append past [action]).trans passes.1, reached⟩
          omega
  · intro past s passes blocks
    have counted := expirationCount_eq loop passes
    have quiet := blocks.2 .statusTimer
    simp only [Raised, not_not] at quiet
    omega

/-- One expiration is enough for two scans. -/
def oneExpiration : List (Action Int) :=
  [.expire, .epollWait [.statusTimer], .dispatch .statusTimer fun _ => 0, .finish,
    .epollWait [.statusTimer], .dispatch .statusTimer fun _ => 0]

/-- Two scans follow one expiration. -/
theorem second_scan_without_expiration : ¬ ∀ (trace : List (Action Int)) (final : EventLoop Int),
    run step (start 64 MetricsStore.construct StateTracker.construct) trace = some final →
      final.handled .statusTimer ≤ expirations trace := by
  intro bounded
  have bound := bounded oneExpiration _ rfl
  revert bound
  decide

end LMonitor.EventLoop

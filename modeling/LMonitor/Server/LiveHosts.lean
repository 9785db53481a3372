import LMonitor.Server.MonitorServer
import LMonitor.Server.SampleOrder

namespace LMonitor.MonitorServer
open Library
variable {D : Type} [DoubleText D] {threadCount : Nat}

/-- A worker records no status but online. -/
theorem lookup_advance {now : Int} {stage : Stage D} {stores : Stores D} {hostname : Bytes}
    {status : HostStatus} (quiet : status ≠ .online)
    (known : (advance now stage stores).2.stateTracker.lastStates.lookup hostname = some status) :
    stores.stateTracker.lastStates.lookup hostname = some status := by
  cases stage with
  | deserialize message =>
      simp only [advance] at known
      split at known <;> exact known
  | addHistory | updateAlerts => exact known
  | updateMetrics metrics =>
      simp only [advance] at known
      split at known <;> exact known
  | updateState metrics =>
      simp only [advance, StateTracker.lookup_update] at known
      split at known
      · exact absurd (Option.some.inj known).symm quiet
      · exact known

/-- A worker records no host as down. -/
theorem lookup_ingest {s next : Ingest D threadCount} {action : Ingest.Action threadCount}
    {hostname : Bytes} {status : HostStatus} (taken : Ingest.step s action = some next)
    (quiet : status ≠ .online)
    (known : next.stores.stateTracker.lastStates.lookup hostname = some status) :
    s.stores.stateTracker.lastStates.lookup hostname = some status := by
  cases action with
  | submit =>
      obtain ⟨_, _, _, _, rfl⟩ := Ingest.submit_cases taken
      exact known
  | take worker =>
      obtain ⟨pool, _, rfl⟩ := Option.map_eq_some_iff.mp taken
      exact known
  | work worker now =>
      obtain ⟨stage, _, rfl⟩ := Ingest.work_cases taken
      exact lookup_advance quiet known

/-- The server starts at rest with any content of its stores. -/
structure ServerRun (D : Type) [DoubleText D] where
  threadCount : Nat
  clock : Int
  maxQueueSize : Nat
  stores : Stores D
  incoming : List Bytes
  trace : List (Int × Action threadCount)
  final : MonitorServer D threadCount
  reached : run step (start clock maxQueueSize stores incoming) trace = some final

namespace ServerRun

def first (r : ServerRun D) : MonitorServer D r.threadCount :=
  start r.clock r.maxQueueSize r.stores r.incoming

/-- The event follows this part of the run and leads from one state to the next one. -/
structure Takes (r : ServerRun D) (past : List (Int × Action r.threadCount))
    (event : Int × Action r.threadCount) (s next : MonitorServer D r.threadCount) : Prop where
  part : past ++ [event] <+: r.trace
  before : run step r.first past = some s
  taken : step s event = some next

end ServerRun

/-- The tracker changes the state of the host to stale or offline. -/
def RecordsDown (before after : StateTracker) (hostname : Bytes) : Prop :=
  ∃ status, status ≠ .online ∧ after.lastStates.lookup hostname = some status ∧
    before.lastStates.lookup hostname ≠ some status

/-- The current record of the host is at most five seconds old. -/
def Fresh (now : Int) (store : MetricsStore D) (hostname : Bytes) : Prop :=
  ∃ record, store.getLatest hostname = some record ∧
    now - record.updatedAt ≤ MetricsStore.onlineThreshold * nanosecondsPerSecond

/-- No event of the run records a host as down while its record is fresh. -/
def LiveHostsUp (r : ServerRun D) : Prop :=
  ∀ past event s next, r.Takes past event s next → ∀ hostname,
    RecordsDown s.ingest.stores.stateTracker next.ingest.stores.stateTracker hostname →
    ¬ Fresh event.1 s.ingest.stores.metricsStore hostname

/-- A status that the scan publishes still belongs to the record of the host, or it is online, or
the tracker has it already, or the new record of the host is old as well. -/
def UpToDate (s : MonitorServer D threadCount) (event : Int × Action threadCount) : Prop :=
  ∀ host currentStatus rest, event.2 = .updateState → s.scan = .publish host currentStatus rest →
    s.ingest.stores.metricsStore.getLatest host.metrics.hostname = some host ∨
      currentStatus = .online ∨
      s.ingest.stores.stateTracker.lastStates.lookup host.metrics.hostname = some currentStatus ∨
      ¬ Fresh event.1 s.ingest.stores.metricsStore host.metrics.hostname

/-- The scan read the status that it still has to publish off its snapshot. -/
def Judged (s : MonitorServer D threadCount) : Prop :=
  ∀ host currentStatus rest, s.scan = .publish host currentStatus rest →
    ∃ reading, reading ≤ s.clock ∧ MetricsStore.getStatus reading host = currentStatus

theorem next_ne_publish (hosts : List (StoredMetrics D)) (host : StoredMetrics D)
    (currentStatus : HostStatus) (rest : List (StoredMetrics D)) :
    StatusScan.next hosts ≠ .publish host currentStatus rest := by
  cases hosts <;> simp [StatusScan.next]

/-- Every step keeps the judged status read off the snapshot. -/
theorem judged_step {s next : MonitorServer D threadCount} {event : Int × Action threadCount}
    (taken : step s event = some next) (judged : Judged s) : Judged next := by
  intro host currentStatus rest publishing
  obtain ⟨forward, ⟨action, ingest, _, rfl⟩ | ⟨_, rfl⟩ | ⟨judgedHost, others, _, rfl⟩ |
    ⟨_, _, _, _, _, rfl⟩⟩ := step_cases taken
  · obtain ⟨reading, earlier, status⟩ := judged host currentStatus rest publishing
    exact ⟨reading, Int.le_trans earlier forward, status⟩
  · exact absurd publishing (next_ne_publish _ _ _ _)
  · simp only [StatusScan.publish.injEq] at publishing
    obtain ⟨rfl, status, _⟩ := publishing
    exact ⟨event.1, Int.le_refl _, status⟩
  · exact absurd publishing (next_ne_publish _ _ _ _)

/-- The status to publish was read off the snapshot. -/
theorem judged_takes (r : ServerRun D) {past : List (Int × Action r.threadCount)}
    {event : Int × Action r.threadCount} {s next : MonitorServer D r.threadCount}
    (takes : r.Takes past event s next) : Judged s :=
  run_invariant step Judged (fun _ _ _ => judged_step) takes.before
    (by simp [Judged, ServerRun.first, start])

/-- The step publishes the judged status at the time of the event. -/
theorem step_publish {s next : MonitorServer D threadCount} {event : Int × Action threadCount}
    {host : StoredMetrics D} {currentStatus : HostStatus} {rest : List (StoredMetrics D)}
    (publishing : s.scan = .publish host currentStatus rest) (action : event.2 = .updateState)
    (taken : step s event = some next) :
    s.clock ≤ event.1 ∧ next = { s.publish host currentStatus rest with clock := event.1 } := by
  simp only [step, Option.ite_none_right_eq_some, action, perform, updateState, publishing,
    Option.map_some, Option.some.injEq] at taken
  exact ⟨taken.1, taken.2.symm⟩

/-- A publication changes the status of its own host only. -/
theorem lookup_publish (s : MonitorServer D threadCount) (host : StoredMetrics D)
    (currentStatus : HostStatus) (rest : List (StoredMetrics D)) (hostname : Bytes) :
    (s.publish host currentStatus rest).ingest.stores.stateTracker.lastStates.lookup hostname =
      if hostname = host.metrics.hostname then some currentStatus
      else s.ingest.stores.stateTracker.lastStates.lookup hostname :=
  StateTracker.lookup_update host.metrics.hostname hostname currentStatus
    s.ingest.stores.stateTracker

/-- Only the scan records a host as down. -/
theorem recordsDown_step {s next : MonitorServer D threadCount} {event : Int × Action threadCount}
    (taken : step s event = some next) {hostname : Bytes}
    (down : RecordsDown s.ingest.stores.stateTracker next.ingest.stores.stateTracker hostname) :
    ∃ host currentStatus rest, event.2 = .updateState ∧
      s.scan = .publish host currentStatus rest ∧ host.metrics.hostname = hostname ∧
      currentStatus ≠ .online ∧
      s.ingest.stores.stateTracker.lastStates.lookup hostname ≠ some currentStatus := by
  obtain ⟨status, quiet, after, before⟩ := down
  obtain ⟨_, ⟨action, ingest, moved, rfl⟩ | ⟨_, rfl⟩ | ⟨_, _, _, rfl⟩ |
    ⟨host, currentStatus, rest, action, publishing, rfl⟩⟩ := step_cases taken
  · exact absurd (lookup_ingest moved quiet after) before
  · exact absurd after before
  · exact absurd after before
  · rw [lookup_publish] at after
    split at after
    · rename_i same
      obtain rfl := Option.some.inj after
      exact ⟨host, currentStatus, rest, action, publishing, same.symm, quiet, before⟩
    · exact absurd after before

/-- Up-to-date publications record no live host as down. -/
theorem liveHostsUp_of_upToDate (r : ServerRun D)
    (upToDate : StepsMeet step UpToDate r.first r.trace) : LiveHostsUp r := by
  intro past event s next takes hostname down fresh
  obtain ⟨host, currentStatus, rest, action, publishing, rfl, quiet, changed⟩ :=
    recordsDown_step takes.taken down
  have published := upToDate past event s takes.part takes.before host currentStatus rest action
    publishing
  rcases published with current | online | known | old
  · -- The published status belongs to the current record, which is old since its judgement.
    obtain ⟨reading, earlier, rfl⟩ := judged_takes r takes host currentStatus rest publishing
    obtain ⟨record, stored, young⟩ := fresh
    obtain rfl := Option.some.inj (current.symm.trans stored)
    have age := MetricsStore.age_of_not_online quiet
    have forward := (step_cases takes.taken).1
    omega
  · exact quiet online
  · exact changed known
  · exact old fresh

/-- The scan publishes the status of a record that no worker has replaced since the snapshot. -/
def Unreplaced (s : MonitorServer D threadCount) (event : Int × Action threadCount) : Prop :=
  ∀ host currentStatus rest, event.2 = .updateState → s.scan = .publish host currentStatus rest →
    s.ingest.stores.metricsStore.getLatest host.metrics.hostname = some host

/-- A schedule that replaces no record between its snapshot and its publication records no live
host as down, whatever the clock says and the tracker holds. -/
theorem liveHostsUp_of_unreplaced (r : ServerRun D)
    (unreplaced : StepsMeet step Unreplaced r.first r.trace) : LiveHostsUp r := by
  apply liveHostsUp_of_upToDate r
  intro past event s part before host currentStatus rest action publishing
  exact .inl (unreplaced past event s part before host currentStatus rest action publishing)

/-- A live host that is recorded as down breaks the condition at its publication. -/
theorem upToDate_of_liveHostsUp (r : ServerRun D) (live : LiveHostsUp r) :
    StepsMeet step UpToDate r.first r.trace := by
  intro past event s part before host currentStatus rest action publishing
  by_contra outdated
  push Not at outdated
  obtain ⟨_, quiet, changed, fresh⟩ := outdated
  obtain ⟨tail, whole⟩ := part
  have reached := r.reached
  rw [← whole] at reached
  obtain ⟨next, passed, _⟩ := run_split step reached
  obtain ⟨middle, same, taken⟩ := run_snoc step passed
  obtain rfl := Option.some.inj (before.symm.trans same)
  refine live past event s next ⟨⟨tail, whole⟩, before, taken⟩ host.metrics.hostname
    ⟨currentStatus, quiet, ?_, changed⟩ fresh
  obtain ⟨_, rfl⟩ := step_publish publishing action taken
  rw [lookup_publish, if_pos rfl]

/-- The scan never records a fresh host as down exactly when its statuses are up to date. Beside the
schedule, a publication is up to date if it changes nothing or hits a record that is old itself. -/
theorem liveHostsUp_iff (r : ServerRun D) :
    LiveHostsUp r ↔ StepsMeet step UpToDate r.first r.trace :=
  ⟨upToDate_of_liveHostsUp r, liveHostsUp_of_upToDate r⟩

/-- The only worker makes its calls for one sample. -/
def taskCalls : List (Action 1) := List.replicate 5 (.work (Fin.last 0))

def eventsAt (now : Int) (actions : List (Action 1)) : List (Int × Action 1) :=
  actions.map fun action => (now, action)

/-- The worker handles one sample of the host. -/
def firstSample : List (Int × Action 1) :=
  eventsAt 0 ([.submit, .take (Fin.last 0)] ++ taskCalls)

/-- The second sample arrives between the judgement and the publication of the scan. -/
def overtakenScan : List (Int × Action 1) :=
  eventsAt 6000000000 ([.submit, .take (Fin.last 0), .getAll, .getStatus] ++ taskCalls)

/-- The scan records host `a` as stale in the moment in which its second sample arrives. -/
theorem live_host_recorded_stale : ¬ ∀ r : ServerRun Int, LiveHostsUp r := by
  intro live
  have shown : (run step (start 0 1 Ingest.emptyStores
      [(Ingest.loadOfA 10).payload, (Ingest.loadOfA 10).payload])
        (firstSample ++ overtakenScan)).map (fun s =>
          (s.clock, s.scan, s.ingest.stores.stateTracker.lastStates.lookup (ascii "a"),
            s.ingest.stores.metricsStore.getLatest (ascii "a"))) =
      some (6000000000, .publish ⟨(Ingest.loadOfA 10).metrics, 0⟩ .stale [], some .online,
        some ⟨(Ingest.loadOfA 10).metrics, 6000000000⟩) := by decide +kernel
  obtain ⟨s, reached, facts⟩ := Option.map_eq_some_iff.mp shown
  simp only [Prod.mk.injEq] at facts
  obtain ⟨clock, publishing, online, latest⟩ := facts
  have taken : ∃ final, run step s [(6000000000, .updateState)] = some final := by
    simp [run, step, clock, perform, updateState, publishing]
  obtain ⟨final, last⟩ := taken
  have stale := upToDate_of_liveHostsUp ⟨1, 0, 1, Ingest.emptyStores, _, _, final,
    run_trans step reached last⟩ (live _) _ _ s List.prefix_rfl reached _ _ _ rfl publishing
  rw [show (StoredMetrics.mk (Ingest.loadOfA 10).metrics 0).metrics.hostname = ascii "a" from
    (Ingest.loadOfA 10).host, latest, online] at stale
  rcases stale with current | quiet | known | old
  · simp at current
  · cases quiet
  · cases known
  · exact old ⟨_, latest, by simp [MetricsStore.onlineThreshold, nanosecondsPerSecond]⟩

end LMonitor.MonitorServer

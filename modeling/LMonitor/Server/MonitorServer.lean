import LMonitor.Reactor.EventLoop
import LMonitor.Server.WorkerTask

namespace LMonitor
open Library
variable {D : Type} [DoubleText D]

/-- The scan is at rest, has to judge the next host of its snapshot, or has to publish a status. -/
inductive StatusScan (D : Type) [Double D] where
  | idle
  | judge (host : StoredMetrics D) (rest : List (StoredMetrics D))
  | publish (host : StoredMetrics D) (currentStatus : HostStatus) (rest : List (StoredMetrics D))
  deriving DecidableEq

def StatusScan.next : List (StoredMetrics D) → StatusScan D
  | [] => .idle
  | host :: rest => .judge host rest

/-- The reactor thread runs the scan while the workers run their tasks. -/
structure MonitorServer (D : Type) [Double D] (threadCount : Nat) where
  clock : Int
  ingest : Ingest D threadCount
  scan : StatusScan D
  log : List Bytes

namespace MonitorServer
variable {threadCount : Nat}

inductive Action (threadCount : Nat) where
  | submit
  | take (worker : Fin threadCount)
  | work (worker : Fin threadCount)
  | getAll
  | getStatus
  | updateState

/-- This step belongs to the message handling. -/
def handle (action : Ingest.Action threadCount) (s : MonitorServer D threadCount) :
    Option (MonitorServer D threadCount) :=
  (Ingest.step s.ingest action).map fun ingest => { s with ingest := ingest }

/-- The reactor thread submits no message while it runs the scan. -/
def submit (s : MonitorServer D threadCount) : Option (MonitorServer D threadCount) :=
  match s.scan with
  | .idle => s.handle .submit
  | _ => none

def getAll (s : MonitorServer D threadCount) : Option (MonitorServer D threadCount) :=
  match s.scan with
  | .idle => some { s with scan := .next s.ingest.stores.metricsStore.getAll }
  | _ => none

/-- The scan judges the copy of the record in its snapshot. -/
def getStatus (now : Int) (s : MonitorServer D threadCount) :
    Option (MonitorServer D threadCount) :=
  match s.scan with
  | .judge host rest => some { s with scan := .publish host (MetricsStore.getStatus now host) rest }
  | _ => none

/-- The scan publishes the status of one host and goes on with the rest of its snapshot. -/
def publish (host : StoredMetrics D) (currentStatus : HostStatus) (rest : List (StoredMetrics D))
    (s : MonitorServer D threadCount) : MonitorServer D threadCount :=
  let (stateChange, stateTracker) :=
    StateTracker.update host.metrics.hostname currentStatus s.ingest.stores.stateTracker
  let stores := { s.ingest.stores with stateTracker := stateTracker }
  { s with
    ingest := { s.ingest with stores := stores }
    scan := .next rest
    log :=
      if stateChange.changed then
        s.log ++ [EventLoop.changeLine host.metrics.hostname stateChange]
      else s.log }

def updateState (s : MonitorServer D threadCount) : Option (MonitorServer D threadCount) :=
  match s.scan with
  | .publish host currentStatus rest => some (s.publish host currentStatus rest)
  | _ => none

def perform (s : MonitorServer D threadCount) (now : Int) :
    Action threadCount → Option (MonitorServer D threadCount)
  | .submit => s.submit
  | .take worker => s.handle (.take worker)
  | .work worker => s.handle (.work worker now)
  | .getAll => s.getAll
  | .getStatus => s.getStatus now
  | .updateState => s.updateState

/-- An event is a step at a time, and the time never goes back. -/
def step (s : MonitorServer D threadCount) (event : Int × Action threadCount) :
    Option (MonitorServer D threadCount) :=
  if s.clock ≤ event.1 then
    (s.perform event.1 event.2).map fun next => { next with clock := event.1 }
  else none

def start (clock : Int) (maxQueueSize : Nat) (stores : Stores D) (incoming : List Bytes) :
    MonitorServer D threadCount where
  clock := clock
  ingest := Ingest.start threadCount maxQueueSize stores incoming
  scan := .idle
  log := []

/-- A step handles a message, takes a snapshot, judges a host or publishes its status. -/
theorem step_cases {s next : MonitorServer D threadCount} {event : Int × Action threadCount}
    (taken : step s event = some next) :
    s.clock ≤ event.1 ∧
      ((∃ action ingest, Ingest.step s.ingest action = some ingest ∧
          next = { s with clock := event.1, ingest := ingest }) ∨
        (s.scan = .idle ∧
          next = { s with
            clock := event.1
            scan := .next s.ingest.stores.metricsStore.getAll }) ∨
        (∃ host rest, s.scan = .judge host rest ∧
          next = { s with
            clock := event.1
            scan := .publish host (MetricsStore.getStatus event.1 host) rest }) ∨
        ∃ host currentStatus rest, event.2 = .updateState ∧
          s.scan = .publish host currentStatus rest ∧
          next = { s.publish host currentStatus rest with clock := event.1 }) := by
  obtain ⟨now, action⟩ := event
  simp only [step, Option.ite_none_right_eq_some] at taken
  obtain ⟨forward, timed⟩ := taken
  obtain ⟨middle, performed, rfl⟩ := Option.map_eq_some_iff.mp timed
  have handled (ingestAction : Ingest.Action threadCount)
      (handled : s.handle ingestAction = some middle) :
      ∃ action ingest, Ingest.step s.ingest action = some ingest ∧
        { middle with clock := now } = { s with clock := now, ingest := ingest } := by
    obtain ⟨ingest, moved, rfl⟩ := Option.map_eq_some_iff.mp handled
    exact ⟨ingestAction, ingest, moved, rfl⟩
  refine ⟨forward, ?_⟩
  cases action with
  | submit =>
      simp only [perform, submit] at performed
      split at performed
      · exact .inl (handled .submit performed)
      · cases performed
  | take worker => exact .inl (handled (.take worker) performed)
  | work worker => exact .inl (handled (.work worker now) performed)
  | getAll =>
      simp only [perform, getAll] at performed
      split at performed
      · rename_i idle
        obtain rfl := Option.some.inj performed
        exact .inr (.inl ⟨idle, rfl⟩)
      · cases performed
  | getStatus =>
      simp only [perform, getStatus] at performed
      split at performed
      · rename_i host rest judging
        obtain rfl := Option.some.inj performed
        exact .inr (.inr (.inl ⟨host, rest, judging, rfl⟩))
      · cases performed
  | updateState =>
      simp only [perform, updateState] at performed
      split at performed
      · rename_i host currentStatus rest publishing
        obtain rfl := Option.some.inj performed
        exact .inr (.inr (.inr ⟨host, currentStatus, rest, rfl, publishing, rfl⟩))
      · cases performed

/-- A scan that no other thread interrupts judges and publishes one host after the other. -/
def scanEvents (clock : Nat → Int) : List (StoredMetrics D) → List (Int × Action threadCount)
  | [] => []
  | _ :: rest =>
      (clock 0, .getStatus) :: (clock 0, .updateState) ::
        scanEvents (fun reading => clock (reading + 1)) rest

/-- An uninterrupted scan is the read callback of the status timer. -/
theorem run_scanEvents (hosts : List (StoredMetrics D)) (clock : Nat → Int)
    (s : MonitorServer D threadCount) (scanning : s.scan = .next hosts)
    (forward : s.clock ≤ clock 0) (steady : ∀ reading, clock reading ≤ clock (reading + 1)) :
    ∃ final, run step s (scanEvents clock hosts) = some final ∧ final.scan = .idle ∧
      final.ingest.stores.metricsStore = s.ingest.stores.metricsStore ∧
      final.log = s.log ++ (EventLoop.statusScan clock hosts s.ingest.stores.stateTracker).1 ∧
      final.ingest.stores.stateTracker =
        (EventLoop.statusScan clock hosts s.ingest.stores.stateTracker).2 := by
  induction hosts generalizing clock s with
  | nil => exact ⟨s, rfl, scanning, rfl, by simp [EventLoop.statusScan], rfl⟩
  | cons host rest ih =>
      set status := MetricsStore.getStatus (clock 0) host with statusEq
      have judged : step s (clock 0, .getStatus) =
          some { s with clock := clock 0, scan := .publish host status rest } := by
        simp [step, forward, perform, getStatus, scanning, StatusScan.next, statusEq]
      set judging : MonitorServer D threadCount :=
        { s with clock := clock 0, scan := .publish host status rest } with judgingEq
      have published : step judging (clock 0, .updateState) =
          some { judging.publish host status rest with clock := clock 0 } := by
        simp [step, judgingEq, perform, updateState]
      obtain ⟨final, reached, idle, store, log, tracker⟩ := ih (fun reading => clock (reading + 1))
        { judging.publish host status rest with clock := clock 0 } rfl (steady 0)
        (fun reading => steady (reading + 1))
      refine ⟨final, ?_, idle, store, ?_, ?_⟩
      · exact (run_cons_eq_some step).mpr ⟨_, judged, (run_cons_eq_some step).mpr
          ⟨_, published, reached⟩⟩
      · rw [log]
        simp only [EventLoop.statusScan, publish, judgingEq, ← statusEq]
        split <;> simp
      · rw [tracker]
        simp only [EventLoop.statusScan, publish, judgingEq, ← statusEq]
        split <;> rfl

end MonitorServer
end LMonitor

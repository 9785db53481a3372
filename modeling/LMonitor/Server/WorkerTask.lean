import LMonitor.Alert.AlertManager
import LMonitor.Library.Machine
import LMonitor.Serializer.MetricsDeserializer
import LMonitor.Store.MetricsHistoryStore
import LMonitor.Store.StateTracker
import LMonitor.Thread.ThreadPool

namespace LMonitor
variable {D : Type} [DoubleText D]

/-- The worker tasks share these four stores. -/
structure Stores (D : Type) [Double D] where
  historyStore : MetricsHistoryStore D
  alertManager : AlertManager D
  metricsStore : MetricsStore D
  stateTracker : StateTracker

/-- The server constructs empty stores with the settings of its configuration. -/
def Stores.construct (maxPointsPerHost : Nat) (fireDuration : Int)
    (cpuThreshold memoryThreshold : D) : Stores D where
  historyStore := MetricsHistoryStore.construct maxPointsPerHost
  alertManager := AlertManager.construct fireDuration cpuThreshold memoryThreshold
  metricsStore := MetricsStore.construct
  stateTracker := StateTracker.construct

/-- A worker task still has to make the call of its stage and those of the later stages. -/
inductive Stage (D : Type) [Double D] where
  | deserialize (message : Bytes)
  | addHistory (metrics : SystemMetrics D)
  | updateAlerts (metrics : SystemMetrics D)
  | updateMetrics (metrics : SystemMetrics D)
  | updateState (metrics : SystemMetrics D)

/-- Each call of a worker task is one atomic step, and an exception ends the task. -/
def advance (now : Int) (stage : Stage D) (stores : Stores D) : Option (Stage D) × Stores D :=
  match stage with
  | .deserialize message =>
      match MetricsDeserializer.deserialize message with
      | .error _ => (none, stores)
      | .ok metrics => (some (.addHistory metrics), stores)
  | .addHistory metrics =>
      let historyStore := stores.historyStore.add now metrics.hostname metrics.cpuUsagePercent
        metrics.memoryUsagePercent
      (some (.updateAlerts metrics), { stores with historyStore := historyStore })
  | .updateAlerts metrics =>
      let (_, alertManager) := AlertManager.update now metrics stores.alertManager
      (some (.updateMetrics metrics), { stores with alertManager := alertManager })
  | .updateMetrics metrics =>
      match MetricsStore.update now metrics stores.metricsStore with
      | .error _ => (none, stores)
      | .ok metricsStore =>
          (some (.updateState metrics), { stores with metricsStore := metricsStore })
  | .updateState metrics =>
      let (_, stateTracker) := StateTracker.update metrics.hostname .online stores.stateTracker
      (none, { stores with stateTracker := stateTracker })

/-- The reactor thread still has to submit these incoming messages, which the pool will accept. A
message that a full queue refuses never becomes a task (see `Reception`). -/
structure Ingest (D : Type) [Double D] (threadCount : Nat) where
  incoming : List Bytes
  pool : ThreadPool Bytes (Stage D) threadCount
  stores : Stores D

namespace Ingest
variable {threadCount : Nat}

/-- The reactor submits a message, a worker takes a task, or a worker makes its next call. -/
inductive Action (threadCount : Nat) where
  | submit
  | take (worker : Fin threadCount)
  | work (worker : Fin threadCount) (now : Int)

/-- The first message enters the queue as soon as it has room. -/
def submit (s : Ingest D threadCount) : Option (Ingest D threadCount) :=
  match s.incoming with
  | [] => none
  | message :: incoming =>
      match s.pool.trySubmit message with
      | (true, pool) => some { s with incoming := incoming, pool := pool }
      | (false, _) => none

/-- A worker without a next stage waits for its next task. -/
def afterCall : Option (Stage D) → WorkerState (Stage D)
  | none => .waiting
  | some stage => .running stage

@[simp] theorem afterCall_eq_running (next : Option (Stage D)) (stage : Stage D) :
    afterCall next = .running stage ↔ next = some stage := by
  cases next <;> simp [afterCall]

def work (worker : Fin threadCount) (now : Int) (s : Ingest D threadCount) :
    Option (Ingest D threadCount) :=
  match s.pool.workers worker with
  | .running stage =>
      let (next, stores) := advance now stage s.stores
      some { s with pool := s.pool.setWorker worker (afterCall next), stores := stores }
  | _ => none

def step (s : Ingest D threadCount) : Action threadCount → Option (Ingest D threadCount)
  | .submit => s.submit
  | .take worker => (s.pool.take worker .deserialize).map fun pool => { s with pool := pool }
  | .work worker now => s.work worker now

/-- The first incoming message moves to the end of the queue. -/
theorem submit_cases {s next : Ingest D threadCount} (taken : s.submit = some next) :
    ∃ message incoming, s.incoming = message :: incoming ∧ s.pool.stopping = false ∧
      next = { s with
        incoming := incoming
        pool := { s.pool with tasks := s.pool.tasks ++ [message] } } := by
  simp only [submit] at taken
  split at taken
  · cases taken
  · rename_i message incoming arrived
    split at taken
    · rename_i pool accepted
      obtain ⟨accepting, _, rfl⟩ := ThreadPool.trySubmit_accepted accepted
      exact ⟨message, incoming, arrived, accepting, (Option.some.inj taken).symm⟩
    · cases taken

/-- A running worker makes the call of its stage. -/
theorem work_cases {s next : Ingest D threadCount} {worker : Fin threadCount} {now : Int}
    (taken : s.work worker now = some next) :
    ∃ stage, s.pool.workers worker = .running stage ∧
      next = { s with
        pool := s.pool.setWorker worker (afterCall (advance now stage s.stores).1)
        stores := (advance now stage s.stores).2 } := by
  simp only [work] at taken
  split at taken
  · rename_i stage runs
    exact ⟨stage, runs, (Option.some.inj taken).symm⟩
  · cases taken

/-- The threads wait before the first message arrives. -/
def start (threadCount maxQueueSize : Nat) (stores : Stores D) (incoming : List Bytes) :
    Ingest D threadCount :=
  ⟨incoming, ThreadPool.construct threadCount maxQueueSize, stores⟩

/-- All messages arrived and all of their tasks finished. -/
structure Finished (s : Ingest D threadCount) : Prop where
  incoming : s.incoming = []
  tasks : s.pool.tasks = []
  workers : ∀ worker, s.pool.workers worker = .waiting

instance (s : Ingest D threadCount) : Decidable (Finished s) :=
  decidable_of_iff (s.incoming = [] ∧ s.pool.tasks = [] ∧
    ∀ worker, s.pool.workers worker = .waiting)
    ⟨fun ⟨incoming, tasks, workers⟩ => ⟨incoming, tasks, workers⟩,
      fun known => ⟨known.incoming, known.tasks, known.workers⟩⟩

end Ingest
end LMonitor

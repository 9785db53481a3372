import LMonitor.Serializer.AcceptedSamples
import LMonitor.Server.WorkerTask

namespace LMonitor
open Library
variable {D : Type} [DoubleText D]

/-- The functor for the loop thread prints these values. -/
structure StoredNotice (D : Type) where
  hostname : Bytes
  cpu : D
  memory : D
  load1 : D
  processCount : Nat

/-- A task changes the stores, writes log lines and queues a functor. -/
structure TaskState (D : Type) [Double D] where
  stores : Stores D
  log : List Bytes
  queued : List (StoredNotice D)

/-- An exception leaves the changes that were made before it. -/
abbrev Task (D : Type) [Double D] := ExceptT Bytes (StateM (TaskState D))

namespace Task

def logLine (line : Bytes) : Task D Unit :=
  modify fun s => { s with log := s.log ++ [line] }

def deserialize (payload : Bytes) : Task D (SystemMetrics D) :=
  match MetricsDeserializer.deserialize payload with
  | .error what => throw what
  | .ok metrics => pure metrics

def addHistory (now : Int) (metrics : SystemMetrics D) : Task D Unit :=
  modify fun s => { s with
    stores.historyStore := s.stores.historyStore.add now metrics.hostname metrics.cpuUsagePercent
      metrics.memoryUsagePercent }

def firingLine (alert : ManagedAlert D) : Bytes :=
  ascii "Alert firing: " ++ alert.hostname ++ ascii " " ++ alert.metric

/-- The update logs the resolved alerts, and then each newly firing one has its log line. -/
def updateAlerts (now : Int) (metrics : SystemMetrics D) : Task D Unit :=
  modify fun s =>
    let update := AlertManager.runUpdate now metrics s.stores.alertManager
    { s with
      stores.alertManager := update.manager
      log := s.log ++ update.resolved.map AlertManager.resolvedLine ++
        (update.result.filter fun alert => alert.state = .firing).map firingLine }

def updateMetrics (now : Int) (metrics : SystemMetrics D) : Task D Unit := do
  let s ← get
  match MetricsStore.update now metrics s.stores.metricsStore with
  | .error what => throw what
  | .ok metricsStore => set { s with stores.metricsStore := metricsStore }

def updateState (metrics : SystemMetrics D) : Task D Unit :=
  modify fun s =>
    let (change, stateTracker) :=
      StateTracker.update metrics.hostname .online s.stores.stateTracker
    { s with
      stores.stateTracker := stateTracker
      log := s.log ++
        if change.changed then
          [ascii "Host state initialized: " ++ metrics.hostname ++ ascii " -> " ++
            MetricsStore.statusToString change.newStatus]
        else [] }

def queueInLoop (metrics : SystemMetrics D) : Task D Unit :=
  modify fun s => { s with
    queued := s.queued ++ [⟨metrics.hostname, metrics.cpuUsagePercent,
      metrics.memoryUsagePercent, metrics.load1, metrics.topProcesses.length⟩] }

/-- Three stores are updated in one scope, and the rest of the task has none. -/
def storeSample (now : Nat → Int) (metrics : SystemMetrics D) : Task D Unit := do
  let stored ← tryCatch
    (do
      addHistory (now 0) metrics
      updateAlerts (now 1) metrics
      updateMetrics (now 2) metrics
      return true)
    fun what => do
      logLine (ascii "Store metrics failed: " ++ what)
      return false
  if stored then
    updateState metrics
    queueInLoop metrics

/-- The parser has a scope of its own. -/
def workerTask (now : Nat → Int) (clientName payload : Bytes) : Task D Unit := do
  let received ← tryCatch (some <$> deserialize payload) fun what => do
    logLine (ascii "Invalid metrics from " ++ clientName ++ ascii ": " ++ what)
    return none
  match received with
  | none => return
  | some metrics => storeSample now metrics

/-- A rejected payload leaves one log line. -/
theorem workerTask_rejected {payload what : Bytes}
    (rejected : MetricsDeserializer.deserialize (D := D) payload = .error what)
    (now : Nat → Int) (clientName : Bytes) (s : TaskState D) :
    (workerTask now clientName payload).run s =
      (.ok (), { s with
        log := s.log ++ [ascii "Invalid metrics from " ++ clientName ++ ascii ": " ++ what] }) := by
  simp only [workerTask, deserialize, rejected]
  rfl

/-- These are the stores after a task accepted its sample. -/
def ingest (now : Nat → Int) (metrics : SystemMetrics D) (stores : Stores D) : Stores D where
  historyStore := stores.historyStore.add (now 0) metrics.hostname metrics.cpuUsagePercent
    metrics.memoryUsagePercent
  alertManager := (AlertManager.update (now 1) metrics stores.alertManager).2
  metricsStore :=
    ⟨stores.metricsStore.metricsByHostname.insert metrics.hostname ⟨metrics, now 2⟩⟩
  stateTracker := (StateTracker.update metrics.hostname .online stores.stateTracker).2

/-- The store accepts a sample with a host name. -/
theorem updateMetrics_named {metrics : SystemMetrics D} (named : metrics.hostname ≠ [])
    (now : Int) :
    updateMetrics now metrics = modify fun s => { s with
      stores.metricsStore :=
        ⟨s.stores.metricsStore.metricsByHostname.insert metrics.hostname ⟨metrics, now⟩⟩ } := by
  have accepted (store : MetricsStore D) : MetricsStore.update now metrics store =
      .ok ⟨store.metricsByHostname.insert metrics.hostname ⟨metrics, now⟩⟩ := if_neg named
  funext s
  simp only [updateMetrics, accepted]
  rfl

/-- An accepted payload reaches all four stores, since its host name is not empty. -/
theorem workerTask_accepted {payload : Bytes} {metrics : SystemMetrics D}
    (accepted : MetricsDeserializer.deserialize payload = .ok metrics)
    (now : Nat → Int) (clientName : Bytes) (s : TaskState D) :
    ∃ after, (workerTask now clientName payload).run s = (.ok (), after) ∧
      after.stores = ingest now metrics s.stores := by
  have named := MetricsDeserializer.deserialize_hostname accepted
  have parsed : (workerTask now clientName payload).run s = (storeSample now metrics).run s := by
    simp only [workerTask, deserialize, accepted]
    rfl
  rw [parsed]
  simp only [storeSample, updateMetrics_named named]
  exact ⟨_, rfl, rfl⟩

/-- The stages of a task in the schedule of the workers make the same changes. -/
theorem workerTask_stages (now : Nat → Int) (clientName payload : Bytes) (s : TaskState D) :
    [0, now 0, now 1, now 2, 0].foldl
        (fun (progress : Option (Stage D) × Stores D) reading =>
          match progress.1 with
          | none => progress
          | some stage => advance reading stage progress.2)
        (some (.deserialize payload), s.stores) =
      (none, ((workerTask now clientName payload).run s).2.stores) := by
  cases read : MetricsDeserializer.deserialize (D := D) payload with
  | error what =>
      rw [workerTask_rejected read]
      simp [advance, read]
  | ok metrics =>
      obtain ⟨after, task, stores⟩ := workerTask_accepted read now clientName s
      have named := MetricsDeserializer.deserialize_hostname read
      rw [task, stores]
      simp [advance, read, MetricsStore.update, named, ingest]

/-- Exactly the records of the host take the sample. -/
structure Ingested (now : Nat → Int) (metrics : SystemMetrics D) (before after : Stores D) :
    Prop where
  history : after.historyStore.get metrics.hostname =
    (before.historyStore.get metrics.hostname ++
      [MetricsHistoryPoint.mk (durationCastMilliseconds (now 0)) metrics.cpuUsagePercent
        metrics.memoryUsagePercent]).drop
      ((before.historyStore.get metrics.hostname).length + 1 -
        before.historyStore.maxPointsPerHost)
  record : after.metricsStore.getLatest metrics.hostname = some ⟨metrics, now 2⟩
  online : after.stateTracker.lastStates.lookup metrics.hostname = some .online
  alerts : after.alertManager = (AlertManager.update (now 1) metrics before.alertManager).2
  others : ∀ other, other ≠ metrics.hostname →
    after.historyStore.get other = before.historyStore.get other ∧
      after.metricsStore.getLatest other = before.metricsStore.getLatest other ∧
      after.stateTracker.lastStates.lookup other = before.stateTracker.lastStates.lookup other

/-- A whole task shows its sample to all stores. -/
theorem ingest_ingested (now : Nat → Int) (metrics : SystemMetrics D) (stores : Stores D)
    (named : metrics.hostname ≠ []) : Ingested now metrics stores (ingest now metrics stores) where
  history := by
    simp only [ingest]
    rw [MetricsHistoryStore.get_add _ _ _ _ _ _ named, if_pos rfl]
  record := AList.lookup_insert _
  online := by
    simp only [ingest]
    rw [StateTracker.lookup_update, if_pos rfl]
  alerts := rfl
  others other different := by
    simp only [ingest]
    rw [MetricsHistoryStore.get_add _ _ _ _ _ _ named, if_neg different,
      StateTracker.lookup_update, if_neg different]
    exact ⟨rfl, AList.lookup_insert_ne different, rfl⟩

/-- A task throws nothing and changes either no store or exactly the records of one host. -/
theorem all_or_nothing (now : Nat → Int) (clientName payload : Bytes) (s : TaskState D) :
    ∃ after, (workerTask now clientName payload).run s = (.ok (), after) ∧
      ((∃ what, MetricsDeserializer.deserialize (D := D) payload = .error what ∧
          after.stores = s.stores) ∨
        ∃ metrics, MetricsDeserializer.deserialize payload = .ok metrics ∧
          metrics.hostname ≠ [] ∧ Ingested now metrics s.stores after.stores ∧
          ∀ reading store, ∃ updated, MetricsStore.update reading metrics store = .ok updated) := by
  cases read : MetricsDeserializer.deserialize (D := D) payload with
  | error what => exact ⟨_, workerTask_rejected read now clientName s, .inl ⟨what, rfl, rfl⟩⟩
  | ok metrics =>
      obtain ⟨after, task, stores⟩ := workerTask_accepted read now clientName s
      have named := MetricsDeserializer.deserialize_hostname read
      refine ⟨after, task, .inr ⟨metrics, rfl, named, ?_, ?_⟩⟩
      · rw [stores]
        exact ingest_ingested now metrics s.stores named
      · intro reading store
        exact ⟨_, if_neg named⟩

end Task
end LMonitor

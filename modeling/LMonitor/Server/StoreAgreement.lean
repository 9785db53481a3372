import LMonitor.Alert.AlertCell
import LMonitor.Http.HostAddresses
import LMonitor.Serializer.AcceptedSamples
import LMonitor.Server.LiveHosts

namespace LMonitor
open Library
variable {D : Type} [DoubleText D] {threadCount : Nat}

/-- The stores know the host of a record, a status or an alert in all earlier stores too. -/
structure Agree (clock : Int) (stores : Stores D) : Prop where
  keyed : ∀ hostname stored, stores.metricsStore.getLatest hostname = some stored →
    stored.metrics.hostname = hostname ∧ stored.updatedAt ≤ clock
  recorded : ∀ hostname, (stores.metricsStore.getLatest hostname).isSome →
    stores.historyStore.get hostname ≠ []
  tracked : ∀ hostname, (stores.stateTracker.lastStates.lookup hostname).isSome →
    (stores.metricsStore.getLatest hostname).isSome
  alerted : ∀ key alert, stores.alertManager.alerts.lookup key = some alert →
    stores.historyStore.get alert.hostname ≠ []

/-- The earlier calls of a task have shown its sample to the stores in front of this stage. -/
def StageAgrees (stores : Stores D) : Stage D → Prop
  | .deserialize _ => True
  | .addHistory metrics => metrics.hostname ≠ []
  | .updateAlerts metrics => metrics.hostname ≠ [] ∧ stores.historyStore.get metrics.hostname ≠ []
  | .updateMetrics metrics => metrics.hostname ≠ [] ∧ stores.historyStore.get metrics.hostname ≠ []
  | .updateState metrics => (stores.metricsStore.getLatest metrics.hostname).isSome

/-- No host leaves the history or the records. -/
structure Grows (before after : Stores D) : Prop where
  history : ∀ hostname, before.historyStore.get hostname ≠ [] →
    after.historyStore.get hostname ≠ []
  records : ∀ hostname, (before.metricsStore.getLatest hostname).isSome →
    (after.metricsStore.getLatest hostname).isSome

theorem Grows.refl (stores : Stores D) : Grows stores stores := ⟨fun _ => id, fun _ => id⟩

theorem StageAgrees.mono {before after : Stores D} (grows : Grows before after) {stage : Stage D}
    (agrees : StageAgrees before stage) : StageAgrees after stage := by
  cases stage with
  | deserialize message => trivial
  | addHistory metrics => exact agrees
  | updateAlerts metrics => exact ⟨agrees.1, grows.history _ agrees.2⟩
  | updateMetrics metrics => exact ⟨agrees.1, grows.history _ agrees.2⟩
  | updateState metrics => exact grows.records _ agrees

theorem Agree.later {clock now : Int} {stores : Stores D} (agree : Agree clock stores)
    (forward : clock ≤ now) : Agree now stores where
  keyed hostname stored found := by
    obtain ⟨host, past⟩ := agree.keyed hostname stored found
    exact ⟨host, Int.le_trans past forward⟩
  recorded := agree.recorded
  tracked := agree.tracked
  alerted := agree.alerted

omit [DoubleText D] in
/-- The history of a host is not empty after its first point. -/
theorem get_add_ne_nil (now : Int) (cpu memory : D) (store : MetricsHistoryStore D)
    {hostname : Bytes} (named : hostname ≠ []) (other : Bytes)
    (known : other = hostname ∨ store.get other ≠ []) :
    (store.add now hostname cpu memory).get other ≠ [] := by
  by_cases same : other = hostname
  · subst same
    intro empty
    have last := MetricsHistoryStore.add_getLast? now other cpu memory store named
    rw [empty] at last
    cases last
  · rw [MetricsHistoryStore.get_add _ _ _ _ _ _ named, if_neg same]
    exact known.resolve_left same

theorem getLatest_insert (store : MetricsStore D) (now : Int) (metrics : SystemMetrics D)
    (hostname : Bytes) :
    MetricsStore.getLatest hostname
        ⟨store.metricsByHostname.insert metrics.hostname ⟨metrics, now⟩⟩ =
      if hostname = metrics.hostname then some ⟨metrics, now⟩ else store.getLatest hostname := by
  split
  · rename_i same
    rw [same]
    exact AList.lookup_insert _
  · rename_i different
    exact AList.lookup_insert_ne different

/-- One call keeps the stores in agreement and prepares the next call of its task. -/
theorem agree_advance {clock now : Int} {stage : Stage D} {stores : Stores D}
    (agree : Agree clock stores) (forward : clock ≤ now) (agrees : StageAgrees stores stage) :
    Agree now (advance now stage stores).2 ∧ Grows stores (advance now stage stores).2 ∧
      ∀ later, (advance now stage stores).1 = some later →
        StageAgrees (advance now stage stores).2 later := by
  cases stage with
  | deserialize message =>
      cases parsed : MetricsDeserializer.deserialize (D := D) message with
      | error what =>
          simp only [advance, parsed]
          exact ⟨agree.later forward, Grows.refl stores, fun later next => by cases next⟩
      | ok metrics =>
          simp only [advance, parsed]
          refine ⟨agree.later forward, Grows.refl stores, fun later next => ?_⟩
          obtain rfl := Option.some.inj next
          exact MetricsDeserializer.deserialize_hostname parsed
  | addHistory metrics =>
      have longer (hostname : Bytes) (known : hostname = metrics.hostname ∨
          stores.historyStore.get hostname ≠ []) :=
        get_add_ne_nil now metrics.cpuUsagePercent metrics.memoryUsagePercent stores.historyStore
          agrees hostname known
      refine ⟨⟨(agree.later forward).keyed, ?_, agree.tracked, ?_⟩, ⟨?_, fun _ => id⟩, ?_⟩
      · exact fun hostname stored => longer hostname (.inr (agree.recorded hostname stored))
      · exact fun key alert stored => longer _ (.inr (agree.alerted key alert stored))
      · exact fun hostname known => longer hostname (.inr known)
      · intro later next
        obtain rfl := Option.some.inj next
        exact ⟨agrees, longer _ (.inl rfl)⟩
  | updateAlerts metrics =>
      refine ⟨⟨(agree.later forward).keyed, agree.recorded, agree.tracked, ?_⟩, ⟨fun _ => id,
        fun _ => id⟩, ?_⟩
      · intro key alert stored
        rcases AlertManager.lookup_update_cases stored with
          ⟨metric, _, _, rfl⟩ | ⟨old, before, rfl⟩
        · cases known : stores.alertManager.alerts.lookup key with
          | none => exact agrees.2
          | some old => exact agree.alerted key old known
        · rw [AlertManager.calm_hostname]
          exact agree.alerted key old before
      · intro later next
        obtain rfl := Option.some.inj next
        exact agrees
  | updateMetrics metrics =>
      have replaced := getLatest_insert stores.metricsStore now metrics
      simp only [advance, MetricsStore.update, agrees.1, if_false]
      refine ⟨⟨?_, ?_, ?_, agree.alerted⟩, ⟨fun _ => id, ?_⟩, ?_⟩
      · intro hostname record found
        rw [replaced] at found
        split at found
        · rename_i same
          rw [← Option.some.inj found]
          exact ⟨same.symm, Int.le_refl now⟩
        · exact (agree.later forward).keyed hostname record found
      · intro hostname known
        rw [replaced] at known
        split at known
        · rename_i same
          rw [same]
          exact agrees.2
        · exact agree.recorded hostname known
      · intro hostname known
        rw [replaced]
        split
        · rfl
        · exact agree.tracked hostname known
      · intro hostname known
        rw [replaced]
        split
        · rfl
        · exact known
      · intro later next
        obtain rfl := Option.some.inj next
        show (MetricsStore.getLatest metrics.hostname _).isSome
        rw [replaced, if_pos rfl]
        rfl
  | updateState metrics =>
      refine ⟨⟨(agree.later forward).keyed, agree.recorded, ?_, agree.alerted⟩,
        ⟨fun _ => id, fun _ => id⟩, fun later next => by cases next⟩
      intro hostname known
      simp only [advance] at known
      rw [StateTracker.lookup_update] at known
      split at known
      · rename_i same
        rw [same]
        exact agrees
      · exact agree.tracked hostname known

namespace MonitorServer

/-- These hosts of its snapshot are still before the scan. -/
def scanned : StatusScan D → List (StoredMetrics D)
  | .idle => []
  | .judge host rest => host :: rest
  | .publish host _ rest => host :: rest

theorem scanned_next (hosts : List (StoredMetrics D)) : scanned (.next hosts) = hosts := by
  cases hosts <;> rfl

/-- The stores agree, and so do the tasks and the scan that still have to change them. -/
structure Coherent (s : MonitorServer D threadCount) : Prop where
  stores : Agree s.clock s.ingest.stores
  workers : ∀ worker stage, s.ingest.pool.workers worker = .running stage →
    StageAgrees s.ingest.stores stage
  scan : ∀ host ∈ scanned s.scan,
    (s.ingest.stores.metricsStore.getLatest host.metrics.hostname).isSome

/-- Each action of the message handling keeps the agreement. -/
theorem coherent_ingest {s : MonitorServer D threadCount} {now : Int}
    {action : Ingest.Action threadCount} {ingest : Ingest D threadCount}
    (known : Coherent s) (forward : s.clock ≤ now)
    (taken : Ingest.step s.ingest action = some ingest)
    (timed : ∀ worker reading, action = .work worker reading → reading = now) :
    Coherent { s with clock := now, ingest := ingest } := by
  cases action with
  | submit =>
      obtain ⟨message, incoming, _, _, rfl⟩ := Ingest.submit_cases taken
      exact ⟨known.stores.later forward, known.workers, known.scan⟩
  | take worker =>
      obtain ⟨pool, moved, rfl⟩ := Option.map_eq_some_iff.mp taken
      refine ⟨known.stores.later forward, fun other stage runs => ?_, known.scan⟩
      rcases ThreadPool.take_cases moved with ⟨task, tasks, _, _, rfl⟩ | ⟨_, _, _, rfl⟩
      · rcases ThreadPool.setWorker_running.mp runs with ⟨_, started⟩ | ⟨_, before⟩
        · obtain rfl := WorkerState.running.inj started
          trivial
        · exact known.workers other stage before
      · rcases ThreadPool.setWorker_running.mp runs with ⟨_, exited⟩ | ⟨_, before⟩
        · cases exited
        · exact known.workers other stage before
  | work worker reading =>
      obtain rfl := timed worker reading rfl
      obtain ⟨stage, runs, rfl⟩ := Ingest.work_cases taken
      obtain ⟨stores, grows, later⟩ :=
        agree_advance known.stores forward (known.workers worker stage runs)
      refine ⟨stores, fun other following holds => ?_, fun host member => ?_⟩
      · rcases ThreadPool.setWorker_running.mp holds with ⟨_, next⟩ | ⟨_, before⟩
        · exact later following ((Ingest.afterCall_eq_running _ _).mp next)
        · exact (known.workers other following before).mono grows
      · exact grows.records _ (known.scan host member)

/-- The scan publishes statuses of recorded hosts only. -/
theorem coherent_publish {s : MonitorServer D threadCount} {now : Int}
    {host : StoredMetrics D} {currentStatus : HostStatus} {rest : List (StoredMetrics D)}
    (known : Coherent s) (forward : s.clock ≤ now)
    (publishing : s.scan = .publish host currentStatus rest) :
    Coherent { s.publish host currentStatus rest with clock := now } := by
  have hosts := known.scan
  rw [publishing] at hosts
  have stores := known.stores.later forward
  refine ⟨⟨stores.keyed, stores.recorded, ?_, stores.alerted⟩, known.workers, ?_⟩
  · intro hostname tracked
    change ((StateTracker.update host.metrics.hostname currentStatus
      s.ingest.stores.stateTracker).2.lastStates.lookup hostname).isSome at tracked
    rw [StateTracker.lookup_update] at tracked
    split at tracked
    · rename_i same
      rw [same]
      exact hosts host List.mem_cons_self
    · exact stores.tracked hostname tracked
  · intro other member
    change other ∈ scanned (.next rest) at member
    rw [scanned_next] at member
    exact hosts other (List.mem_cons_of_mem _ member)

/-- The next state of an event, told by its action. -/
def Effect (s next : MonitorServer D threadCount) (now : Int) : Action threadCount → Prop
  | .submit => ∃ ingest, Ingest.step s.ingest .submit = some ingest ∧
      next = { s with clock := now, ingest := ingest }
  | .take worker => ∃ ingest, Ingest.step s.ingest (.take worker) = some ingest ∧
      next = { s with clock := now, ingest := ingest }
  | .work worker => ∃ ingest, Ingest.step s.ingest (.work worker now) = some ingest ∧
      next = { s with clock := now, ingest := ingest }
  | .getAll => s.scan = .idle ∧
      next = { s with clock := now, scan := .next s.ingest.stores.metricsStore.getAll }
  | .getStatus => ∃ host rest, s.scan = .judge host rest ∧
      next = { s with
        clock := now
        scan := .publish host (MetricsStore.getStatus now host) rest }
  | .updateState => ∃ host currentStatus rest, s.scan = .publish host currentStatus rest ∧
      next = { s.publish host currentStatus rest with clock := now }

/-- Every step has one of the listed effects. -/
theorem step_effect {s next : MonitorServer D threadCount} {now : Int}
    {action : Action threadCount} (taken : step s (now, action) = some next) :
    s.clock ≤ now ∧ Effect s next now action := by
  simp only [step, Option.ite_none_right_eq_some] at taken
  obtain ⟨forward, timed⟩ := taken
  obtain ⟨middle, performed, rfl⟩ := Option.map_eq_some_iff.mp timed
  refine ⟨forward, ?_⟩
  cases action with
  | submit =>
      simp only [perform, submit] at performed
      split at performed
      · obtain ⟨ingest, moved, rfl⟩ := Option.map_eq_some_iff.mp performed
        exact ⟨ingest, moved, rfl⟩
      · cases performed
  | take worker =>
      obtain ⟨ingest, moved, rfl⟩ := Option.map_eq_some_iff.mp performed
      exact ⟨ingest, moved, rfl⟩
  | work worker =>
      obtain ⟨ingest, moved, rfl⟩ := Option.map_eq_some_iff.mp performed
      exact ⟨ingest, moved, rfl⟩
  | getAll =>
      simp only [perform, getAll] at performed
      split at performed
      · rename_i idle
        obtain rfl := Option.some.inj performed
        exact ⟨idle, rfl⟩
      · cases performed
  | getStatus =>
      simp only [perform, getStatus] at performed
      split at performed
      · rename_i host rest judging
        obtain rfl := Option.some.inj performed
        exact ⟨host, rest, judging, rfl⟩
      · cases performed
  | updateState =>
      simp only [perform, updateState] at performed
      split at performed
      · rename_i host currentStatus rest publishing
        obtain rfl := Option.some.inj performed
        exact ⟨host, currentStatus, rest, publishing, rfl⟩
      · cases performed

/-- Every event of the server keeps the agreement. -/
theorem coherent_step (s : MonitorServer D threadCount) (event : Int × Action threadCount)
    (next : MonitorServer D threadCount) (taken : step s event = some next)
    (known : Coherent s) : Coherent next := by
  obtain ⟨now, action⟩ := event
  obtain ⟨forward, effect⟩ := step_effect taken
  cases action with
  | submit =>
      obtain ⟨ingest, moved, rfl⟩ := effect
      exact coherent_ingest known forward moved fun worker reading same => by cases same
  | take worker =>
      obtain ⟨ingest, moved, rfl⟩ := effect
      exact coherent_ingest known forward moved fun worker reading same => by cases same
  | work worker =>
      obtain ⟨ingest, moved, rfl⟩ := effect
      refine coherent_ingest known forward moved fun worker reading same => ?_
      exact (Ingest.Action.work.inj same).2.symm
  | getAll =>
      obtain ⟨_, rfl⟩ := effect
      refine ⟨known.stores.later forward, known.workers, fun host member => ?_⟩
      rw [scanned_next] at member
      obtain ⟨hostname, stored⟩ := (MetricsStore.mem_getAll _ host).mp member
      change (s.ingest.stores.metricsStore.getLatest host.metrics.hostname).isSome
      rw [(known.stores.keyed hostname host stored).1, stored]
      rfl
  | getStatus =>
      obtain ⟨host, rest, judging, rfl⟩ := effect
      have hosts := known.scan
      rw [judging] at hosts
      exact ⟨known.stores.later forward, known.workers, hosts⟩
  | updateState =>
      obtain ⟨host, currentStatus, rest, publishing, rfl⟩ := effect
      exact coherent_publish known forward publishing

/-- The server started with empty stores, and its scans, its workers and the arriving messages
took any turns. -/
structure FreshRun (D : Type) [DoubleText D] where
  threadCount : Nat
  clock : Int
  maxQueueSize : Nat
  maxPointsPerHost : Nat
  fireDuration : Int
  cpuThreshold : D
  memoryThreshold : D
  incoming : List Bytes
  trace : List (Int × Action threadCount)
  final : MonitorServer D threadCount
  reached : run step (start clock maxQueueSize
    (Stores.construct maxPointsPerHost fireDuration cpuThreshold memoryThreshold) incoming) trace =
      some final

/-- The stores agree at the end of every run. -/
theorem FreshRun.coherent (r : FreshRun D) : Coherent r.final := by
  apply run_invariant step Coherent coherent_step r.reached
  refine ⟨⟨?_, ?_, ?_, ?_⟩, ?_, ?_⟩
  · intro hostname stored found
    cases found
  · intro hostname known
    cases known
  · intro hostname known
    cases known
  · intro key alert stored
    cases stored
  · intro worker stage runs
    cases runs
  · intro host member
    cases member

variable [DoubleStream D]

/-- At every moment of a run, whatever the workers and the scan are doing, a host with a status has
a record, a record stands under the name of its own host and is not from the future, and a host with
a record or an alert has a history. So the detail route has the record of every host of the list,
and a request for the detail of a listed host with a plain name is answered with it. -/
theorem stores_agree (r : FreshRun D) (dashboardHtml : Bytes) :
    let stores := r.final.ingest.stores
    let http : HttpServer D :=
      ⟨stores.metricsStore, stores.historyStore, stores.alertManager, dashboardHtml⟩
    (∀ hostname status, stores.stateTracker.lastStates.lookup hostname = some status →
      ∃ stored, stores.metricsStore.getLatest hostname = some stored) ∧
    (∀ hostname stored, stores.metricsStore.getLatest hostname = some stored →
      stored.metrics.hostname = hostname ∧ stored.updatedAt ≤ r.final.clock) ∧
    (∀ host ∈ stores.metricsStore.getAll,
      http.respond (.detail host.metrics.hostname) =
          HttpResponse.okJson (HttpServer.writeDetail host.metrics) ∧
      (HttpServer.PlainName host.metrics.hostname → ∀ headers,
        http.handleClient (Dashboard.request (Dashboard.detailPath host.metrics.hostname) headers) =
          some (HttpResponse.okJson (HttpServer.writeDetail host.metrics))) ∧
      stores.historyStore.get host.metrics.hostname ≠ []) ∧
    ∀ alert ∈ stores.alertManager.getActiveAlerts,
      stores.historyStore.get alert.hostname ≠ [] := by
  intro stores http
  have agree : Agree r.final.clock stores := r.coherent.stores
  refine ⟨?_, agree.keyed, ?_, ?_⟩
  · intro hostname status known
    exact Option.isSome_iff_exists.mp (agree.tracked hostname (by rw [known]; rfl))
  · intro host member
    obtain ⟨hostname, stored⟩ := (MetricsStore.mem_getAll _ host).mp member
    obtain ⟨rfl, _⟩ := agree.keyed hostname host stored
    have found : http.store.getLatest host.metrics.hostname = some host := stored
    have document : HttpServer.buildHostDetailJson host.metrics.hostname http.store =
        HttpServer.writeDetail host.metrics := by
      simp only [HttpServer.buildHostDetailJson, found]
    refine ⟨?_, fun plain headers => ?_, agree.recorded _ (by rw [stored]; rfl)⟩
    · rw [HttpServer.respond, document]
    · rw [(HttpServer.answersFor_plain plain http headers).1, document]
  · intro alert member
    obtain ⟨key, stored⟩ :=
      (UnorderedMap.mem_values _ alert).mp (List.mem_of_mem_filter member)
    exact agree.alerted key alert stored

/-- Two samples of host `a` arrive at a new server with one worker. -/
def loadStart : MonitorServer Int 1 :=
  start 0 1 Ingest.emptyStores [(Ingest.loadOfA 10).payload, (Ingest.loadOfA 20).payload]

/-- The first sample is stored, and the second one waits in the queue. -/
def storedSample : List (Int × Action 1) := firstSample ++ eventsAt 5000000000 [.submit]

theorem storedSample_runs : (run step loadStart storedSample).isSome = true := by
  decide +kernel

def loadStored : FreshRun Int where
  threadCount := 1
  clock := 0
  maxQueueSize := 1
  maxPointsPerHost := 120
  fireDuration := 5
  cpuThreshold := Double.ofNat 80
  memoryThreshold := Double.ofNat 90
  incoming := [(Ingest.loadOfA 10).payload, (Ingest.loadOfA 20).payload]
  trace := storedSample
  final := (run step loadStart storedSample).get storedSample_runs
  reached := (Option.some_get storedSample_runs).symm

/-- The listed host has a history. -/
theorem stores_agree_load :
    ∀ host ∈ loadStored.final.ingest.stores.metricsStore.getAll,
      loadStored.final.ingest.stores.historyStore.get host.metrics.hostname ≠ [] :=
  fun host member => ((stores_agree loadStored []).2.2.1 host member).2.2

end MonitorServer
end LMonitor

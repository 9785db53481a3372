import LMonitor.Library.Handover
import LMonitor.Server.NewestSample
import LMonitor.Store.HistoryWindow
import LMonitor.Store.StateReports
import Mathlib.Data.Fintype.Basic
import Mathlib.Tactic.Abel

namespace LMonitor.Ingest
open Library
variable {D : Type} [DoubleText D] {threadCount : Nat}

/-- The parser accepts these samples out of the payloads. -/
def accepted (payloads : List Bytes) : List (SystemMetrics D) :=
  payloads.filterMap fun payload => (MetricsDeserializer.deserialize payload).toOption

/-- The sample of a stage has a host name. -/
def NamedStage (stage : Stage D) : Prop :=
  ∀ metrics, stageMetrics stage = some metrics → metrics.hostname ≠ []

/-- Each call of a task follows the ones that it has made already. -/
def callsMade : Stage D → Nat
  | .deserialize _ => 0
  | .addHistory _ => 1
  | .updateAlerts _ => 2
  | .updateMetrics _ => 3
  | .updateState _ => 4

/-- A task at this stage still has to show its sample to the store with this number. -/
def due (number : Nat) (stage : Stage D) : Option (SystemMetrics D) :=
  if callsMade stage ≤ number then stageMetrics stage else none

/-- A part of the stores changes through one call of each task only. -/
structure StoreView (D : Type) [DoubleText D] (Store : Type) where
  number : Nat
  view : Stores D → Store
  call : Store → Int × SystemMetrics D → Store
  advances : ∀ now stage stores, NamedStage stage →
    (view (advance now stage stores).2 = view stores ∧
      (advance now stage stores).1.bind (due number) = due number stage) ∨
    ∃ metrics, due number stage = some metrics ∧
      (advance now stage stores).1.bind (due number) = none ∧
      view (advance now stage stores).2 = call (view stores) (now, metrics)

/-- The parser shows nothing to a store, and an accepted sample is still due everywhere. -/
theorem parser_advances {Store : Type} (view : Stores D → Store) {number : Nat}
    (later : 0 < number) (now : Int) (message : Bytes) (stores : Stores D) :
    view (advance now (.deserialize message) stores).2 = view stores ∧
      (advance now (.deserialize message) stores).1.bind (due number) =
        due number (.deserialize message) := by
  cases parsed : MetricsDeserializer.deserialize (D := D) message with
  | error what => simp [advance, parsed, due, stageMetrics, Except.toOption]
  | ok metrics =>
      have reached : 1 ≤ number := later
      simp [advance, parsed, due, callsMade, stageMetrics, Except.toOption, reached]

/-- The store takes a sample with a host name. -/
theorem advance_stored (now : Int) (stores : Stores D) {metrics : SystemMetrics D}
    (named : NamedStage (.updateMetrics metrics)) :
    advance now (.updateMetrics metrics) stores =
      (some (.updateState metrics),
        { stores with metricsStore :=
          ⟨stores.metricsStore.metricsByHostname.insert metrics.hostname ⟨metrics, now⟩⟩ }) := by
  have host : metrics.hostname ≠ [] := named metrics rfl
  simp [advance, MetricsStore.update, host]

def historyView : StoreView D (MetricsHistoryStore D) where
  number := 1
  view := Stores.historyStore
  call store reading := store.add reading.1 reading.2.hostname reading.2.cpuUsagePercent
    reading.2.memoryUsagePercent
  advances := by
    intro now stage stores named
    cases stage with
    | deserialize message => exact .inl (parser_advances _ (by decide) now message stores)
    | addHistory metrics => exact .inr ⟨metrics, rfl, rfl, rfl⟩
    | updateAlerts metrics => exact .inl ⟨rfl, rfl⟩
    | updateMetrics metrics =>
        left
        rw [advance_stored now stores named]
        exact ⟨rfl, rfl⟩
    | updateState metrics => exact .inl ⟨rfl, rfl⟩

def alertsView : StoreView D (AlertManager D) where
  number := 2
  view := Stores.alertManager
  call manager reading := (AlertManager.update reading.1 reading.2 manager).2
  advances := by
    intro now stage stores named
    cases stage with
    | deserialize message => exact .inl (parser_advances _ (by decide) now message stores)
    | addHistory metrics => exact .inl ⟨rfl, rfl⟩
    | updateAlerts metrics => exact .inr ⟨metrics, rfl, rfl, rfl⟩
    | updateMetrics metrics =>
        left
        rw [advance_stored now stores named]
        exact ⟨rfl, rfl⟩
    | updateState metrics => exact .inl ⟨rfl, rfl⟩

def metricsView : StoreView D (MetricsStore D) where
  number := 3
  view := Stores.metricsStore
  call store reading :=
    ⟨store.metricsByHostname.insert reading.2.hostname ⟨reading.2, reading.1⟩⟩
  advances := by
    intro now stage stores named
    cases stage with
    | deserialize message => exact .inl (parser_advances _ (by decide) now message stores)
    | addHistory metrics => exact .inl ⟨rfl, rfl⟩
    | updateAlerts metrics => exact .inl ⟨rfl, rfl⟩
    | updateMetrics metrics =>
        right
        rw [advance_stored now stores named]
        exact ⟨metrics, rfl, rfl, rfl⟩
    | updateState metrics => exact .inl ⟨rfl, rfl⟩

def trackerView : StoreView D StateTracker where
  number := 4
  view := Stores.stateTracker
  call tracker reading := (StateTracker.update reading.2.hostname .online tracker).2
  advances := by
    intro now stage stores named
    cases stage with
    | deserialize message => exact .inl (parser_advances _ (by decide) now message stores)
    | addHistory metrics => exact .inl ⟨rfl, rfl⟩
    | updateAlerts metrics => exact .inl ⟨rfl, rfl⟩
    | updateMetrics metrics =>
        left
        rw [advance_stored now stores named]
        exact ⟨rfl, rfl⟩
    | updateState metrics => exact .inr ⟨metrics, rfl, rfl, rfl⟩

theorem accepted_cons (payload : Bytes) (payloads : List Bytes) :
    (accepted (payload :: payloads) : List (SystemMetrics D)) =
      (stageMetrics (.deserialize payload)).toList ++ accepted payloads := by
  cases parsed : (MetricsDeserializer.deserialize payload : Except Bytes (SystemMetrics D)) <;>
    simp [accepted, stageMetrics, parsed, Except.toOption]

/-- A task goes on with the sample of its earlier stage. -/
theorem stageMetrics_later {now : Int} {stage later : Stage D} {stores : Stores D}
    (next : (advance now stage stores).1 = some later) :
    stageMetrics later = stageMetrics stage := by
  cases carried : stageMetrics stage with
  | some sample => exact advance_stageMetrics now stage later stores sample carried next
  | none =>
      cases stage with
      | deserialize message =>
          cases parsed : MetricsDeserializer.deserialize (D := D) message with
          | error what => simp [advance, parsed] at next
          | ok sample => simp [stageMetrics, parsed, Except.toOption] at carried
      | addHistory | updateAlerts | updateMetrics | updateState => cases carried

/-- A sample keeps its host name until its task ends. -/
theorem namedStage_advance {now : Int} {stage later : Stage D} {stores : Stores D}
    (named : NamedStage stage) (next : (advance now stage stores).1 = some later) :
    NamedStage later := by
  intro metrics known
  rw [stageMetrics_later next] at known
  exact named metrics known

theorem namedStage_deserialize (message : Bytes) :
    NamedStage (.deserialize message : Stage D) := by
  intro metrics known
  cases parsed : MetricsDeserializer.deserialize (D := D) message with
  | error what => simp [stageMetrics, parsed, Except.toOption] at known
  | ok sample =>
      simp only [stageMetrics, parsed, Except.toOption, Option.some.injEq] at known
      exact known ▸ MetricsDeserializer.deserialize_hostname parsed

variable {Store : Type}

/-- A worker holds the sample that its task still has to show to the store. -/
def StoreView.holds (v : StoreView D Store) : WorkerState (Stage D) → Option (SystemMetrics D)
  | .running stage => due v.number stage
  | _ => none

def StoreView.hands (v : StoreView D Store) (pool : ThreadPool Bytes (Stage D) threadCount)
    (worker : Fin threadCount) : Option (SystemMetrics D) :=
  v.holds (pool.workers worker)

theorem hands_setWorker (v : StoreView D Store) (pool : ThreadPool Bytes (Stage D) threadCount)
    (worker : Fin threadCount) (state : WorkerState (Stage D)) :
    v.hands (pool.setWorker worker state) =
      Function.update (v.hands pool) worker (v.holds state) :=
  Function.comp_update v.holds pool.workers worker state

/-- Every accepted sample was shown to the store, is held by a worker or is still to be taken. -/
def StoreView.Accounted (v : StoreView D Store) (first : Store) (payloads : List Bytes)
    (s : Ingest D threadCount) : Prop :=
  ∃ calls : List (Int × SystemMetrics D),
    v.view s.stores = calls.foldl v.call first ∧
    Multiset.ofList (calls.map Prod.snd) + held (v.hands s.pool) +
        Multiset.ofList (accepted (s.pool.tasks ++ s.incoming)) =
      Multiset.ofList (accepted payloads)

/-- A taken task stays accounted for. -/
theorem accounted_take (v : StoreView D Store) {first : Store} {payloads : List Bytes}
    {s next : Ingest D threadCount} {worker : Fin threadCount}
    (taken : step s (.take worker) = some next) (known : v.Accounted first payloads s) :
    v.Accounted first payloads next := by
  obtain ⟨calls, stores, account⟩ := known
  obtain ⟨pool, moved, rfl⟩ := Option.map_eq_some_iff.mp taken
  refine ⟨calls, stores, ?_⟩
  rw [← account]
  rcases ThreadPool.take_cases moved with
    ⟨task, tasks, waiting, front, rfl⟩ | ⟨waiting, empty, _, rfl⟩
  · have idle : v.hands { s.pool with tasks := tasks } worker = none := by
      simp only [StoreView.hands, waiting]
      rfl
    have parsing : v.holds (.running (.deserialize task)) = stageMetrics (.deserialize task) := by
      simp [StoreView.holds, due, callsMade]
    simp only [front, List.cons_append, accepted_cons]
    rw [hands_setWorker, held_take idle, parsing, ← Multiset.coe_add]
    change _ + (_ + held (v.hands s.pool)) + Multiset.ofList (accepted (tasks ++ s.incoming)) = _
    abel
  · have idle : v.hands s.pool worker = v.holds .exited := by
      simp only [StoreView.hands, waiting]
      rfl
    rw [hands_setWorker, held_keep idle.symm]
    rfl

/-- A call shows the sample of its worker to the store or leaves the store alone. -/
theorem accounted_work (v : StoreView D Store) {first : Store} {payloads : List Bytes}
    {s next : Ingest D threadCount} {worker : Fin threadCount} {now : Int}
    (taken : s.work worker now = some next)
    (named : ∀ worker stage, s.pool.workers worker = .running stage → NamedStage stage)
    (known : v.Accounted first payloads s) : v.Accounted first payloads next := by
  obtain ⟨calls, stores, account⟩ := known
  obtain ⟨stage, runs, rfl⟩ := work_cases taken
  have holding : v.hands s.pool worker = due v.number stage := by
    simp only [StoreView.hands, runs]
    rfl
  have after : v.holds (afterCall (advance now stage s.stores).1) =
      (advance now stage s.stores).1.bind (due v.number) := by
    cases (advance now stage s.stores).1 <;> rfl
  rcases v.advances now stage s.stores (named worker stage runs) with
    ⟨same, still⟩ | ⟨metrics, shown, gone, changed⟩
  · refine ⟨calls, same.trans stores, ?_⟩
    rw [hands_setWorker, held_keep (by rw [after, still, holding])]
    exact account
  · refine ⟨calls ++ [(now, metrics)], ?_, ?_⟩
    · rw [changed, stores, List.foldl_concat]
    · rw [← account, hands_setWorker, after, gone, List.map_append, ← Multiset.coe_add,
        ← held_give (holding.trans shown), ← Multiset.singleton_add]
      change _ + {metrics} + _ + _ = _
      abel

/-- Workers hold named samples, and every accepted sample is accounted for. -/
structure StoreView.Served (v : StoreView D Store) (first : Store) (payloads : List Bytes)
    (s : Ingest D threadCount) : Prop where
  named : ∀ worker stage, s.pool.workers worker = .running stage → NamedStage stage
  accounted : v.Accounted first payloads s

/-- Every step keeps each sample in one place. -/
theorem served_step (v : StoreView D Store) {first : Store} {payloads : List Bytes}
    (s : Ingest D threadCount) (action : Action threadCount) (next : Ingest D threadCount)
    (taken : step s action = some next) (known : v.Served first payloads s) :
    v.Served first payloads next := by
  cases action with
  | submit =>
      obtain ⟨message, incoming, arrived, _, rfl⟩ := submit_cases taken
      obtain ⟨calls, stores, account⟩ := known.accounted
      refine ⟨known.named, calls, stores, ?_⟩
      rw [← account, arrived]
      simp only [List.append_assoc, List.singleton_append]
      rfl
  | take worker =>
      refine ⟨?_, accounted_take v taken known.accounted⟩
      obtain ⟨pool, moved, rfl⟩ := Option.map_eq_some_iff.mp taken
      intro other stage runs
      rcases ThreadPool.take_cases moved with ⟨task, tasks, _, _, rfl⟩ | ⟨_, _, _, rfl⟩
      · rcases ThreadPool.setWorker_running.mp runs with ⟨_, started⟩ | ⟨_, before⟩
        · obtain rfl := WorkerState.running.inj started
          exact namedStage_deserialize task
        · exact known.named other stage before
      · rcases ThreadPool.setWorker_running.mp runs with ⟨_, exited⟩ | ⟨_, before⟩
        · cases exited
        · exact known.named other stage before
  | work worker now =>
      refine ⟨?_, accounted_work v taken known.named known.accounted⟩
      obtain ⟨stage, runs, rfl⟩ := work_cases taken
      intro other later holds
      rcases ThreadPool.setWorker_running.mp holds with ⟨_, next⟩ | ⟨_, before⟩
      · exact namedStage_advance (known.named worker stage runs)
          ((afterCall_eq_running _ _).mp next)
      · exact known.named other later before

/-- At the start, all messages are still to be taken. -/
theorem served_start (v : StoreView D Store) (maxQueueSize : Nat) (first : Stores D)
    (payloads : List Bytes) :
    v.Served (v.view first) payloads (start threadCount maxQueueSize first payloads) := by
  constructor
  · intro worker stage runs
    cases runs
  · have idle : held (v.hands (start threadCount maxQueueSize first payloads).pool) = 0 :=
      held_nothing fun _ => rfl
    refine ⟨[], rfl, ?_⟩
    rw [idle]
    simp [start, ThreadPool.construct]

/-- A new server took all of its messages, and their tasks ended in some interleaving. -/
structure FinishedIngest (D : Type) [DoubleText D] where
  threadCount : Nat
  maxQueueSize : Nat
  maxPointsPerHost : Nat
  fireDuration : Int
  cpuThreshold : D
  memoryThreshold : D
  incoming : List Bytes
  trace : List (Action threadCount)
  final : Ingest D threadCount
  reached : run step (start threadCount maxQueueSize
    (Stores.construct maxPointsPerHost fireDuration cpuThreshold memoryThreshold) incoming) trace =
      some final
  finished : Finished final

namespace FinishedIngest

def first (r : FinishedIngest D) : Stores D :=
  Stores.construct r.maxPointsPerHost r.fireDuration r.cpuThreshold r.memoryThreshold

/-- The calls on each store show every accepted sample to it once. -/
theorem served (r : FinishedIngest D) (v : StoreView D Store) :
    ∃ calls : List (Int × SystemMetrics D),
      v.view r.final.stores = calls.foldl v.call (v.view r.first) ∧
      (calls.map Prod.snd).Perm (accepted r.incoming) := by
  obtain ⟨calls, stores, account⟩ := (run_invariant step _ (served_step v) r.reached
    (served_start v r.maxQueueSize r.first r.incoming)).accounted
  refine ⟨calls, stores, ?_⟩
  have idle : held (v.hands r.final.pool) = 0 := by
    apply held_nothing
    intro worker
    rw [StoreView.hands, r.finished.workers worker]
    rfl
  rw [idle, r.finished.tasks, r.finished.incoming] at account
  simpa [accepted] using account

/-- These calls carry the samples of one host. -/
def callsOf (hostname : Bytes) (calls : List (Int × SystemMetrics D)) :
    List (Int × SystemMetrics D) :=
  calls.filter fun call => call.2.hostname = hostname

def point (call : Int × SystemMetrics D) : MetricsHistoryPoint D :=
  ⟨durationCastMilliseconds call.1, call.2.cpuUsagePercent, call.2.memoryUsagePercent⟩

/-- One more call belongs to its own host. -/
theorem callsOf_concat (hostname : Bytes) (calls : List (Int × SystemMetrics D))
    (call : Int × SystemMetrics D) :
    callsOf hostname (calls ++ [call]) =
      callsOf hostname calls ++ if call.2.hostname = hostname then [call] else [] := by
  simp only [callsOf, List.filter_append]
  congr 1
  by_cases own : call.2.hostname = hostname <;> simp [own]

def addition (call : Int × SystemMetrics D) : MetricsHistoryStore.Operation D :=
  .add call.1 call.2.hostname call.2.cpuUsagePercent call.2.memoryUsagePercent

/-- What a host has in its history are its own calls. -/
theorem addedSinceClear_calls {calls : List (Int × SystemMetrics D)}
    (named : ∀ call ∈ calls, call.2.hostname ≠ []) (hostname : Bytes) :
    MetricsHistoryStore.addedSinceClear hostname (calls.map addition) =
      (callsOf hostname calls).map point := by
  induction calls using List.reverseRecOn with
  | nil => rfl
  | append_singleton calls call ih =>
      have own : call.2.hostname ≠ [] := named call (by simp)
      have earlier := ih fun other member => named other (by simp [member])
      rw [List.map_append, List.map_singleton, MetricsHistoryStore.addedSinceClear,
        List.foldl_concat, ← MetricsHistoryStore.addedSinceClear, earlier, callsOf_concat]
      simp only [addition, MetricsHistoryStore.record, own, ne_eq, not_false_eq_true, and_true]
      split
      · rw [List.map_append]
        rfl
      · rw [List.append_nil]

/-- The history of a host is the window over the points of its calls. -/
theorem get_calls (maxPointsPerHost : Nat) {calls : List (Int × SystemMetrics D)}
    (named : ∀ call ∈ calls, call.2.hostname ≠ []) (hostname : Bytes) :
    (calls.foldl historyView.call (MetricsHistoryStore.construct maxPointsPerHost)).get hostname =
      ((callsOf hostname calls).map point).rtake (max maxPointsPerHost 1) := by
  have stored : calls.foldl historyView.call (MetricsHistoryStore.construct maxPointsPerHost) =
      MetricsHistoryStore.reached maxPointsPerHost (calls.map addition) := by
    rw [MetricsHistoryStore.reached, List.foldl_map]
    rfl
  rw [stored, MetricsHistoryStore.get_reached, addedSinceClear_calls named]

/-- The record of a host is the one of its last call. -/
theorem getLatest_calls (calls : List (Int × SystemMetrics D)) (hostname : Bytes) :
    (calls.foldl metricsView.call MetricsStore.construct).getLatest hostname =
      (callsOf hostname calls).getLast?.map fun call => ⟨call.2, call.1⟩ := by
  induction calls using List.reverseRecOn with
  | nil => rfl
  | append_singleton calls call ih =>
      rw [List.foldl_concat, callsOf_concat]
      by_cases own : call.2.hostname = hostname
      · subst own
        rw [if_pos rfl, List.getLast?_concat]
        exact AList.lookup_insert _
      · rw [if_neg own, List.append_nil, ← ih]
        exact AList.lookup_insert_ne (Ne.symm own)

/-- The tracker knows the hosts of its calls as online. -/
theorem tracked_calls (calls : List (Int × SystemMetrics D)) (hostname : Bytes) :
    (calls.foldl trackerView.call StateTracker.construct).lastStates.lookup hostname =
      if ∃ metrics ∈ calls.map Prod.snd, metrics.hostname = hostname then some .online
      else none := by
  induction calls using List.reverseRecOn with
  | nil => simp [StateTracker.construct]
  | append_singleton calls call ih =>
      rw [List.foldl_concat]
      change (StateTracker.update call.2.hostname .online _).2.lastStates.lookup hostname = _
      rw [StateTracker.lookup_update, ih]
      by_cases own : hostname = call.2.hostname
      · rw [if_pos own, if_pos ⟨call.2, by simp, own.symm⟩]
      · rw [if_neg own]
        apply if_congr ?_ rfl rfl
        constructor
        · rintro ⟨metrics, member, host⟩
          exact ⟨metrics, by simp [member], host⟩
        · rintro ⟨metrics, member, host⟩
          rw [List.map_append, List.mem_append] at member
          rcases member with earlier | last
          · exact ⟨metrics, earlier, host⟩
          · obtain rfl := List.mem_singleton.mp last
            exact absurd host.symm own

/-- An accepted sample has a host name. -/
theorem accepted_named {payloads : List Bytes} {metrics : SystemMetrics D}
    (member : metrics ∈ accepted payloads) : metrics.hostname ≠ [] := by
  obtain ⟨payload, _, parsed⟩ := List.mem_filterMap.mp member
  exact namedStage_deserialize payload metrics parsed

/-- Whatever the interleaving of the workers, each store takes every accepted sample once: the
histories are windows over all points, the alerts are those of one order of all samples, each record
is the last one of its host in some order, and exactly the hosts with a sample are online. -/
theorem exactly_once (r : FinishedIngest D) :
    (∃ calls : List (Int × SystemMetrics D), (calls.map Prod.snd).Perm (accepted r.incoming) ∧
      ∀ hostname, r.final.stores.historyStore.get hostname =
        ((callsOf hostname calls).map point).rtake (max r.maxPointsPerHost 1)) ∧
    (∃ calls : List (Int × SystemMetrics D), (calls.map Prod.snd).Perm (accepted r.incoming) ∧
      r.final.stores.alertManager = calls.foldl
        (fun manager call => (AlertManager.update call.1 call.2 manager).2)
        (AlertManager.construct r.fireDuration r.cpuThreshold r.memoryThreshold)) ∧
    (∃ calls : List (Int × SystemMetrics D), (calls.map Prod.snd).Perm (accepted r.incoming) ∧
      ∀ hostname, r.final.stores.metricsStore.getLatest hostname =
        (callsOf hostname calls).getLast?.map fun call => ⟨call.2, call.1⟩) ∧
    ∀ hostname, r.final.stores.stateTracker.lastStates.lookup hostname =
      if ∃ metrics ∈ accepted (D := D) r.incoming, metrics.hostname = hostname then some .online
      else none := by
  refine ⟨?_, ?_, ?_, ?_⟩
  · obtain ⟨calls, stores, once⟩ := r.served historyView
    refine ⟨calls, once, fun hostname => ?_⟩
    have named : ∀ call ∈ calls, call.2.hostname ≠ [] := fun call member =>
      accepted_named (once.subset (List.mem_map_of_mem member))
    exact (congrArg (MetricsHistoryStore.get hostname) stores).trans
      (get_calls r.maxPointsPerHost named hostname)
  · obtain ⟨calls, stores, once⟩ := r.served alertsView
    exact ⟨calls, once, stores⟩
  · obtain ⟨calls, stores, once⟩ := r.served metricsView
    exact ⟨calls, once, fun hostname =>
      (congrArg (MetricsStore.getLatest hostname) stores).trans (getLatest_calls calls hostname)⟩
  · obtain ⟨calls, stores, once⟩ := r.served trackerView
    intro hostname
    have known := tracked_calls calls hostname
    simp only [once.mem_iff] at known
    exact (congrArg (fun tracker => tracker.lastStates.lookup hostname) stores).trans known

end FinishedIngest
end LMonitor.Ingest

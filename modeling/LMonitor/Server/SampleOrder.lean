import LMonitor.Serializer.RoundTrip
import LMonitor.Server.NewestSample

namespace LMonitor.Ingest
open Library
variable {D : Type} [DoubleText D] {threadCount : Nat} {hostname : Bytes}

/-- The stores show the sample as the newest one of the host. -/
def NewestWins (hostname : Bytes) (metrics : SystemMetrics D) (stores : Stores D) : Prop :=
  ShowsLatest hostname metrics stores ∧ ShowsPoint hostname metrics stores

/-- A worker takes the next message and runs its task to the end. -/
def beginTask (worker : Fin threadCount) : List (Action threadCount) := [.submit, .take worker]

def earlyCalls (worker : Fin threadCount) : List (Action threadCount) :=
  [.work worker 0, .work worker 0, .work worker 0]

def lateCalls (worker : Fin threadCount) : List (Action threadCount) :=
  [.work worker 0, .work worker 0]

def wholeTask (worker : Fin threadCount) : List (Action threadCount) :=
  beginTask worker ++ (earlyCalls worker ++ lateCalls worker)

/-- The early calls of a task fill the history and evaluate the alerts. -/
def early (metrics : SystemMetrics D) (stores : Stores D) : Stores D :=
  { stores with
    historyStore := stores.historyStore.add 0 metrics.hostname metrics.cpuUsagePercent
      metrics.memoryUsagePercent
    alertManager := (AlertManager.update 0 metrics stores.alertManager).2 }

/-- The late calls of a task replace the latest record and the state of the host. -/
def late (metrics : SystemMetrics D) (stores : Stores D) : Stores D :=
  { stores with
    metricsStore := ⟨stores.metricsStore.metricsByHostname.insert metrics.hostname ⟨metrics, 0⟩⟩
    stateTracker := (StateTracker.update metrics.hostname .online stores.stateTracker).2 }

/-- The stores after the messages, processed one after the other. -/
def processed (messages : List (HostMessage D hostname)) (stores : Stores D) : Stores D :=
  messages.foldl (fun stores message => late message.metrics (early message.metrics stores)) stores

theorem setWorker_setWorker (worker : Fin threadCount) (first second : WorkerState (Stage D))
    (pool : ThreadPool Bytes (Stage D) threadCount) :
    (pool.setWorker worker first).setWorker worker second = pool.setWorker worker second := by
  simp [ThreadPool.setWorker]

theorem setWorker_self (worker : Fin threadCount) (pool : ThreadPool Bytes (Stage D) threadCount)
    (waits : pool.workers worker = .waiting) : pool.setWorker worker .waiting = pool := by
  rw [ThreadPool.setWorker, ← waits, Function.update_eq_self]

/-- A worker that waits can take the next message at once. -/
theorem run_beginTask (s : Ingest D threadCount) (worker : Fin threadCount) (message : Bytes)
    (incoming : List Bytes) (arrived : s.incoming = message :: incoming)
    (tasks : s.pool.tasks = []) (room : 0 < s.pool.maxQueueSize)
    (accepting : s.pool.stopping = false) (waits : s.pool.workers worker = .waiting) :
    run step s (beginTask worker) =
      some { s with
        incoming := incoming
        pool := s.pool.setWorker worker (.running (.deserialize message)) } := by
  have full : ¬ s.pool.maxQueueSize ≤ 0 := by omega
  simp [beginTask, run, step, submit, arrived, ThreadPool.trySubmit, accepting, tasks, full,
    ThreadPool.take, waits, ThreadPool.setWorker]

/-- A worker can make the first calls of a task in one go. -/
theorem run_earlyCalls (s : Ingest D threadCount) (worker : Fin threadCount)
    (message : HostMessage D hostname)
    (runs : s.pool.workers worker = .running (.deserialize message.payload)) :
    run step s (earlyCalls worker) =
      some { s with
        pool := s.pool.setWorker worker (.running (.updateMetrics message.metrics))
        stores := early message.metrics s.stores } := by
  simp [earlyCalls, run, step, work, runs, advance, message.parsed, ThreadPool.setWorker, early,
    afterCall]

/-- A worker can make the last calls of a task in one go. -/
theorem run_lateCalls (s : Ingest D threadCount) (worker : Fin threadCount)
    (metrics : SystemMetrics D) (named : metrics.hostname ≠ [])
    (runs : s.pool.workers worker = .running (.updateMetrics metrics)) :
    run step s (lateCalls worker) =
      some { s with
        pool := s.pool.setWorker worker .waiting
        stores := late metrics s.stores } := by
  simp [lateCalls, run, step, work, runs, advance, MetricsStore.update, named,
    ThreadPool.setWorker, late, afterCall]

/-- A worker that takes a message and finishes its task leaves the pool as it was. -/
theorem run_wholeTask (s : Ingest D threadCount) (worker : Fin threadCount)
    (message : HostMessage D hostname) (incoming : List Bytes)
    (arrived : s.incoming = message.payload :: incoming) (tasks : s.pool.tasks = [])
    (room : 0 < s.pool.maxQueueSize) (accepting : s.pool.stopping = false)
    (waits : s.pool.workers worker = .waiting) :
    run step s (wholeTask worker) =
      some { s with
        incoming := incoming
        stores := late message.metrics (early message.metrics s.stores) } := by
  have named : message.metrics.hostname ≠ [] := message.host.symm ▸ message.named
  have begun := run_beginTask s worker message.payload incoming arrived tasks room accepting waits
  have middle := run_earlyCalls
    { s with
      incoming := incoming
      pool := s.pool.setWorker worker (.running (.deserialize message.payload)) } worker message
    (by simp [ThreadPool.setWorker])
  have ended := run_lateCalls
    { s with
      incoming := incoming
      pool := (s.pool.setWorker worker (.running (.deserialize message.payload))).setWorker worker
        (.running (.updateMetrics message.metrics))
      stores := early message.metrics s.stores } worker message.metrics named
    (by simp [ThreadPool.setWorker])
  have whole := run_trans step begun (run_trans step middle ended)
  rw [setWorker_setWorker, setWorker_setWorker, setWorker_self worker s.pool waits] at whole
  exact whole

/-- One worker can process a whole sequence of messages. -/
theorem run_wholeTasks (worker : Fin threadCount) (messages : List (HostMessage D hostname))
    (incoming : List Bytes) (s : Ingest D threadCount)
    (arrived : s.incoming = messages.map HostMessage.payload ++ incoming)
    (tasks : s.pool.tasks = []) (room : 0 < s.pool.maxQueueSize)
    (accepting : s.pool.stopping = false) (waits : s.pool.workers worker = .waiting) :
    run step s (messages.flatMap fun _ => wholeTask worker) =
      some { s with
        incoming := incoming
        stores := processed messages s.stores } := by
  induction messages generalizing s with
  | nil =>
      obtain rfl : s.incoming = incoming := by simpa using arrived
      rfl
  | cons message messages ih =>
      have first := run_wholeTask s worker message _ (by simpa using arrived) tasks room accepting
        waits
      exact run_trans step first (ih _ rfl tasks room accepting waits)

/-- With a second worker, any earlier message can be the last one to reach the latest record. -/
theorem overtaken (spare capacity : Nat) (stores : Stores D)
    (before after : List (HostMessage D hostname)) (message : HostMessage D hostname) :
    ∃ trace final, run step (start (spare + 2) (capacity + 1) stores
        ((before ++ message :: after).map HostMessage.payload)) trace = some final ∧
      Finished final ∧ ShowsLatest hostname message.metrics final.stores := by
  set initial : Ingest D (spare + 2) := start (spare + 2) (capacity + 1) stores
    ((before ++ message :: after).map HostMessage.payload) with initialEq
  have named : message.metrics.hostname ≠ [] := message.host.symm ▸ message.named
  have first := run_wholeTasks 0 before (message.payload :: after.map HostMessage.payload) initial
    (by simp [initialEq, start]) rfl (Nat.succ_pos _) rfl rfl
  -- Worker 0 stops in front of the latest record, and worker 1 handles all later messages.
  have begun := run_beginTask
    { initial with
      incoming := message.payload :: after.map HostMessage.payload
      stores := processed before stores }
    0 message.payload (after.map HostMessage.payload) rfl rfl (Nat.succ_pos _) rfl rfl
  have held := run_earlyCalls
    { initial with
      incoming := after.map HostMessage.payload
      pool := initial.pool.setWorker 0 (.running (.deserialize message.payload))
      stores := processed before stores }
    0 message (by simp [ThreadPool.setWorker])
  have others := run_wholeTasks 1 after []
    { initial with
      incoming := after.map HostMessage.payload
      pool := (initial.pool.setWorker 0 (.running (.deserialize message.payload))).setWorker 0
        (.running (.updateMetrics message.metrics))
      stores := early message.metrics (processed before stores) }
    (by simp) rfl (Nat.succ_pos _) rfl (by simp [ThreadPool.setWorker]; rfl)
  have released := run_lateCalls
    { initial with
      incoming := []
      pool := (initial.pool.setWorker 0 (.running (.deserialize message.payload))).setWorker 0
        (.running (.updateMetrics message.metrics))
      stores := processed after (early message.metrics (processed before stores)) }
    0 message.metrics named (by simp [ThreadPool.setWorker])
  refine ⟨_, _, run_trans step first (run_trans step begun (run_trans step held
    (run_trans step others released))), ⟨rfl, rfl, ?_⟩, ?_⟩
  · intro worker
    simp only [setWorker_setWorker]
    rw [setWorker_self 0 initial.pool rfl]
    rfl
  · refine ⟨⟨message.metrics, 0⟩, ?_, rfl⟩
    simp only [late, MetricsStore.getLatest]
    rw [message.host, AList.lookup_insert]

/-- The newest sample always wins exactly with one worker or when all samples are equal. -/
theorem newest_iff (spare capacity : Nat) (stores : Stores D)
    (earlier : List (HostMessage D hostname)) (last : HostMessage D hostname) :
    (∀ trace final, run step (start (spare + 1) (capacity + 1) stores
        ((earlier ++ [last]).map HostMessage.payload)) trace = some final → Finished final →
      NewestWins hostname last.metrics final.stores) ↔
    spare = 0 ∨ ∀ message ∈ earlier, message.metrics = last.metrics := by
  constructor
  · intro wins
    by_contra many
    push Not at many
    obtain ⟨several, message, member, different⟩ := many
    obtain ⟨spare, rfl⟩ := Nat.exists_eq_succ_of_ne_zero several
    obtain ⟨before, after, rfl⟩ := List.append_of_mem member
    obtain ⟨trace, final, reached, finished, shown⟩ :=
      overtaken spare capacity stores before (after ++ [last]) message
    obtain ⟨⟨stored, found, newest⟩, _⟩ := wins trace final (by simpa using reached) finished
    obtain ⟨other, same, oldest⟩ := shown
    rw [found] at same
    obtain rfl := Option.some.inj same
    exact different (oldest.symm.trans newest)
  · intro condition trace final reached finished
    have orderly : (∀ first second : Fin (spare + 1), first = second) ∨
        ∀ message ∈ earlier ++ [last], message.metrics = last.metrics := by
      rcases condition with rfl | equal
      · exact .inl fun first second => Fin.ext (by omega)
      · right
        intro message member
        rcases List.mem_append.mp member with old | new
        · exact equal message old
        · rw [List.mem_singleton.mp new]
    have known : ∀ sink : Sink D, NewestLast sink (earlier ++ [last]) last
        (start (spare + 1) (capacity + 1) stores ((earlier ++ [last]).map HostMessage.payload)) := by
      intro sink
      refine ⟨earlier ++ [last], ⟨rfl, fun _ member => member, ?_, rfl⟩, .inl (by simp)⟩
      intro worker stage runs
      cases runs
    have shown : ∀ sink : Sink D, sink.shows hostname last.metrics final.stores := fun sink =>
      shows_of_finished sink _ last final finished
        (run_invariant step _ (newestLast_step sink _ last orderly) reached (known sink))
    exact ⟨shown latestSink, shown historySink⟩

/-- A host reports this processor load. -/
def loadSample (hostname : Bytes) (cpu : Nat) : SystemMetrics Int where
  hostname := hostname
  logicalCpuCount := 1
  cpuUsagePercent := Double.ofNat cpu
  diskMountPoint := ascii "/"
  networkInterface := ascii "eth0"
  sampleIntervalSeconds := Double.ofNat 1

/-- The line format carries this host name as it is. -/
structure CarriedName (hostname : Bytes) : Prop where
  named : hostname ≠ []
  noLineFeed : 10 ∉ hostname
  noReturn : MetricsDeserializer.stripCarriageReturn hostname = hostname

instance (hostname : Bytes) : Decidable (CarriedName hostname) :=
  decidable_of_iff (hostname ≠ [] ∧ 10 ∉ hostname ∧
    MetricsDeserializer.stripCarriageReturn hostname = hostname)
    ⟨fun ⟨named, noLineFeed, noReturn⟩ => ⟨named, noLineFeed, noReturn⟩,
      fun known => ⟨known.named, known.noLineFeed, known.noReturn⟩⟩

theorem acceptable_loadSample {hostname : Bytes} (cpu : Nat) (carried : CarriedName hostname) :
    MetricsDeserializer.Acceptable (MetricsDeserializer.canon (loadSample hostname cpu)) where
  hostname := show MetricsDeserializer.stripCarriageReturn hostname ≠ [] by
    rw [carried.noReturn]
    exact carried.named
  diskMountPoint := show MetricsDeserializer.stripCarriageReturn (ascii "/") ≠ [] by decide
  networkInterface := show MetricsDeserializer.stripCarriageReturn (ascii "eth0") ≠ [] by decide
  processNames _ member := absurd member List.not_mem_nil
  logicalCpuCount := UInt64.le_refl 1
  finite _ _ := rfl
  sampleIntervalSeconds :=
    show Double.lt (Double.ofNat 0) (DoubleText.round2 (Double.ofNat 1 : Int)) = true by decide
  pids _ member := absurd member List.not_mem_nil

theorem newlineFree_loadSample {hostname : Bytes} (cpu : Nat) (carried : CarriedName hostname) :
    MetricsDeserializer.NewlineFree (loadSample hostname cpu) where
  hostname := carried.noLineFeed
  diskMountPoint := show 10 ∉ ascii "/" by decide
  networkInterface := show 10 ∉ ascii "eth0" by decide
  processNames _ member := absurd member List.not_mem_nil

def loadMessage (hostname : Bytes) (cpu : Nat) (carried : CarriedName hostname) :
    HostMessage Int hostname where
  payload := MetricsSerializer.serialize (loadSample hostname cpu)
  metrics := MetricsDeserializer.canon (loadSample hostname cpu)
  parsed := MetricsDeserializer.deserialize_ok (loadSample hostname cpu)
    (newlineFree_loadSample cpu carried) (acceptable_loadSample cpu carried)
  host := carried.noReturn

/-- Host `a` reports this processor load. -/
def loadOfA (cpu : Nat) : HostMessage Int (ascii "a") := loadMessage (ascii "a") cpu (by decide)

/-- The server starts with 120 points for each host and the default thresholds. -/
def emptyStores : Stores Int := Stores.construct 120 5 (Double.ofNat 80) (Double.ofNat 90)

/-- Two workers can show the load 10 although the load 20 was sent after it. -/
theorem delayed_worker_shows_older : ¬ ∀ trace final,
    run step (start 2 1 emptyStores ([loadOfA 10, loadOfA 20].map HostMessage.payload))
        trace = some final →
      Finished final → NewestWins (ascii "a") (loadOfA 20).metrics final.stores := by
  intro wins
  obtain ⟨trace, final, reached, finished, other, same, oldest⟩ :=
    overtaken 0 0 emptyStores [] [loadOfA 20] (loadOfA 10)
  obtain ⟨⟨stored, found, newest⟩, _⟩ := wins trace final reached finished
  rw [found] at same
  obtain rfl := Option.some.inj same
  have loads := congrArg SystemMetrics.cpuUsagePercent (newest.symm.trans oldest)
  revert loads
  decide

end LMonitor.Ingest

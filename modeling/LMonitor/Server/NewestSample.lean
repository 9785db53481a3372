import LMonitor.Serializer.AcceptedSamples
import LMonitor.Server.WorkerTask

namespace LMonitor.Ingest
open Library
variable {D : Type} [DoubleText D] {threadCount : Nat}

/-- A valid message carries an accepted sample of the host. -/
structure HostMessage (D : Type) [DoubleText D] (hostname : Bytes) where
  payload : Bytes
  metrics : SystemMetrics D
  parsed : MetricsDeserializer.deserialize payload = .ok metrics
  host : metrics.hostname = hostname

/-- The latest record of the host holds this sample. -/
def ShowsLatest (hostname : Bytes) (metrics : SystemMetrics D) (stores : Stores D) : Prop :=
  ∃ stored, stores.metricsStore.getLatest hostname = some stored ∧ stored.metrics = metrics

/-- The last history point of the host holds the values of this sample. -/
def ShowsPoint (hostname : Bytes) (metrics : SystemMetrics D) (stores : Stores D) : Prop :=
  ∃ point, (stores.historyStore.get hostname).getLast? = some point ∧
    point.cpuUsagePercent = metrics.cpuUsagePercent ∧
    point.memoryUsagePercent = metrics.memoryUsagePercent

/-- This is the sample that the remaining calls of a stage use. -/
def stageMetrics : Stage D → Option (SystemMetrics D)
  | .deserialize message => (MetricsDeserializer.deserialize message).toOption
  | .addHistory metrics => some metrics
  | .updateAlerts metrics => some metrics
  | .updateMetrics metrics => some metrics
  | .updateState metrics => some metrics

/-- A sink is one store together with the stages in front of its own call. -/
structure Sink (D : Type) [DoubleText D] where
  before : Stage D → Bool
  shows : Bytes → SystemMetrics D → Stores D → Prop
  starts : ∀ message, before (.deserialize message) = true
  next_stage : ∀ now stage stores metrics later, stageMetrics stage = some metrics →
    (advance now stage stores).1 = some later →
    stageMetrics later = some metrics ∧ (before later = true → before stage = true)
  commits : ∀ now stage stores metrics, stageMetrics stage = some metrics →
    metrics.hostname ≠ [] → before stage = true →
    (∃ later, (advance now stage stores).1 = some later ∧ before later = true) ∨
      shows metrics.hostname metrics (advance now stage stores).2
  keeps : ∀ now stage stores metrics shown, stageMetrics stage = some metrics →
    shows metrics.hostname shown stores →
    shows metrics.hostname shown (advance now stage stores).2 ∨
      before stage = true ∧ shows metrics.hostname metrics (advance now stage stores).2

/-- An accepted message goes on to the history, and no store changes. -/
theorem advance_deserialize (now : Int) (stores : Stores D) {message : Bytes}
    {metrics : SystemMetrics D} (known : stageMetrics (.deserialize message) = some metrics) :
    advance now (.deserialize message) stores = (some (.addHistory metrics), stores) := by
  cases parsed : MetricsDeserializer.deserialize (D := D) message with
  | error text => simp [stageMetrics, parsed, Except.toOption] at known
  | ok sample =>
      simp only [stageMetrics, parsed, Except.toOption, Option.some.injEq] at known
      simp only [advance, parsed, known]

/-- Every stage passes its sample on. -/
theorem advance_stageMetrics (now : Int) (stage later : Stage D) (stores : Stores D)
    (metrics : SystemMetrics D) (known : stageMetrics stage = some metrics)
    (next : (advance now stage stores).1 = some later) : stageMetrics later = some metrics := by
  cases stage with
  | deserialize message =>
      rw [advance_deserialize now stores known] at next
      rw [← Option.some.inj next]
      rfl
  | addHistory sample | updateAlerts sample =>
      simp only [advance, Option.some.injEq] at next
      rw [← next]
      exact known
  | updateMetrics sample =>
      simp only [advance] at next
      split at next
      · cases next
      · rw [← Option.some.inj next]
        exact known
  | updateState sample => cases next

/-- The history takes the point of a sample in its second stage. -/
def historySink : Sink D where
  before
    | .deserialize _ => true
    | .addHistory _ => true
    | _ => false
  shows := ShowsPoint
  starts _ := rfl
  next_stage := by
    intro now stage stores metrics later known next
    refine ⟨advance_stageMetrics now stage later stores metrics known next, ?_⟩
    cases stage with
    | deserialize | addHistory => simp
    | updateAlerts sample =>
        obtain rfl := Option.some.inj next
        simp
    | updateMetrics sample =>
        simp only [advance] at next
        split at next
        · cases next
        · obtain rfl := Option.some.inj next
          simp
    | updateState sample => cases next
  commits := by
    intro now stage stores metrics known named before
    cases stage with
    | deserialize message =>
        exact .inl ⟨_, by rw [advance_deserialize now stores known], rfl⟩
    | addHistory sample =>
        obtain rfl := Option.some.inj known
        exact .inr ⟨_, MetricsHistoryStore.add_getLast? _ _ _ _ _ named, rfl, rfl⟩
    | updateAlerts | updateMetrics | updateState => cases before
  keeps := by
    intro now stage stores metrics shown known shows
    cases stage with
    | deserialize message =>
        rw [advance_deserialize now stores known]
        exact .inl shows
    | addHistory sample =>
        obtain rfl := Option.some.inj known
        by_cases named : sample.hostname = []
        · left
          simpa [advance, MetricsHistoryStore.add, named] using shows
        · exact .inr ⟨rfl, _, MetricsHistoryStore.add_getLast? _ _ _ _ _ named, rfl, rfl⟩
    | updateAlerts | updateState => exact .inl shows
    | updateMetrics sample =>
        left
        simp only [advance]
        split <;> exact shows

/-- The latest record takes a sample in the fourth stage. -/
def latestSink : Sink D where
  before
    | .updateState _ => false
    | _ => true
  shows := ShowsLatest
  starts _ := rfl
  next_stage := by
    intro now stage stores metrics later known next
    refine ⟨advance_stageMetrics now stage later stores metrics known next, ?_⟩
    cases stage with
    | deserialize | addHistory | updateAlerts | updateMetrics => simp
    | updateState sample => cases next
  commits := by
    intro now stage stores metrics known named before
    cases stage with
    | deserialize message =>
        exact .inl ⟨_, by rw [advance_deserialize now stores known], rfl⟩
    | addHistory | updateAlerts => exact .inl ⟨_, rfl, rfl⟩
    | updateMetrics sample =>
        obtain rfl := Option.some.inj known
        refine .inr ⟨⟨sample, now⟩, ?_, rfl⟩
        simp [advance, MetricsStore.update, named, MetricsStore.getLatest]
    | updateState => cases before
  keeps := by
    intro now stage stores metrics shown known shows
    cases stage with
    | deserialize message =>
        rw [advance_deserialize now stores known]
        exact .inl shows
    | addHistory | updateAlerts | updateState => exact .inl shows
    | updateMetrics sample =>
        obtain rfl := Option.some.inj known
        by_cases named : sample.hostname = []
        · left
          simpa [advance, MetricsStore.update, named] using shows
        · refine .inr ⟨rfl, ⟨sample, now⟩, ?_, rfl⟩
          simp [advance, MetricsStore.update, named, MetricsStore.getLatest]

variable {hostname : Bytes}

theorem HostMessage.named (message : HostMessage D hostname) : hostname ≠ [] :=
  message.host ▸ MetricsDeserializer.deserialize_hostname message.parsed

/-- A worker still has to make the call of the sink for this sample. -/
def Working (sink : Sink D) (s : Ingest D threadCount) (worker : Fin threadCount)
    (metrics : SystemMetrics D) : Prop :=
  ∃ stage, s.pool.workers worker = .running stage ∧ stageMetrics stage = some metrics ∧
    sink.before stage = true

/-- The queue holds the messages that no worker took yet. -/
structure Queued (messages queue : List (HostMessage D hostname)) (s : Ingest D threadCount) :
    Prop where
  payloads : s.pool.tasks ++ s.incoming = queue.map HostMessage.payload
  members : ∀ message ∈ queue, message ∈ messages
  running : ∀ worker stage, s.pool.workers worker = .running stage →
    ∃ message ∈ messages, stageMetrics stage = some message.metrics
  open_ : s.pool.stopping = false

/-- Nothing but the last message can reach the sink last. -/
def NewestLast (sink : Sink D) (messages : List (HostMessage D hostname))
    (last : HostMessage D hostname) (s : Ingest D threadCount) : Prop :=
  ∃ queue, Queued messages queue s ∧
    (queue.getLast? = some last ∨
      queue = [] ∧ (∀ worker metrics, Working sink s worker metrics → metrics = last.metrics) ∧
        ((∃ worker, Working sink s worker last.metrics) ∨
          sink.shows hostname last.metrics s.stores))

/-- A submission keeps the newest sample last. -/
theorem newestLast_submit (sink : Sink D) (messages : List (HostMessage D hostname))
    (last : HostMessage D hostname) (s next : Ingest D threadCount) (taken : s.submit = some next)
    (known : NewestLast sink messages last s) : NewestLast sink messages last next := by
  obtain ⟨queue, queued, position⟩ := known
  obtain ⟨message, incoming, arrived, _, rfl⟩ := submit_cases taken
  have payloads := queued.payloads
  refine ⟨queue, ⟨?_, queued.members, queued.running, queued.open_⟩, position⟩
  simpa [arrived] using payloads

/-- One worker, or equal samples, keep the newest sample last. -/
theorem newestLast_take (sink : Sink D) (messages : List (HostMessage D hostname))
    (last : HostMessage D hostname) (s next : Ingest D threadCount) (worker : Fin threadCount)
    (orderly : (∀ first second : Fin threadCount, first = second) ∨
      ∀ message ∈ messages, message.metrics = last.metrics)
    (taken : step s (.take worker) = some next)
    (known : NewestLast sink messages last s) : NewestLast sink messages last next := by
  obtain ⟨queue, queued, position⟩ := known
  obtain ⟨pool, accepted, rfl⟩ := Option.map_eq_some_iff.mp taken
  have payloads := queued.payloads
  rcases ThreadPool.take_cases accepted with
    ⟨task, tasks, waiting, front, rfl⟩ | ⟨_, _, stopping, _⟩
  · obtain ⟨message, rest, rfl⟩ : ∃ message rest, queue = message :: rest := by
      cases queue with
      | nil => simp [front] at payloads
      | cons message rest => exact ⟨message, rest, rfl⟩
    simp only [front, List.cons_append, List.map_cons, List.cons.injEq] at payloads
    obtain ⟨rfl, payloads⟩ := payloads
    have first : stageMetrics (.deserialize message.payload) = some message.metrics := by
      simp [stageMetrics, message.parsed, Except.toOption]
    refine ⟨rest, ⟨payloads, fun later member => queued.members later (by simp [member]), ?_,
      queued.open_⟩, ?_⟩
    · intro other stage holds
      rcases ThreadPool.setWorker_running.mp holds with ⟨_, started⟩ | ⟨_, before⟩
      · obtain rfl := WorkerState.running.inj started
        exact ⟨message, queued.members message (by simp), first⟩
      · exact queued.running other stage before
    · rcases position with newest | ⟨empty, _⟩
      · cases rest with
        | cons later rest => exact .inl (by simpa using newest)
        | nil =>
            obtain rfl : message = last := by simpa using newest
            have started : (s.pool.setWorker worker
                (.running (.deserialize message.payload))).workers worker =
                  .running (.deserialize message.payload) :=
              ThreadPool.setWorker_running.mpr (.inl ⟨rfl, rfl⟩)
            refine .inr ⟨rfl, ?_, .inl ⟨worker, _, started, first, sink.starts _⟩⟩
            intro other metrics given
            obtain ⟨stage, holds, carried, _⟩ := given
            rcases ThreadPool.setWorker_running.mp holds with ⟨_, started⟩ | ⟨different, before⟩
            · obtain rfl := WorkerState.running.inj started
              rw [first] at carried
              exact (Option.some.inj carried).symm
            · rcases orderly with single | equal
              · exact absurd (single other worker) different
              · obtain ⟨owner, member, belongs⟩ := queued.running other stage before
                rw [belongs] at carried
                rw [← Option.some.inj carried, equal owner member]
      · cases empty
  · rw [queued.open_] at stopping
    cases stopping

/-- A call keeps the newest sample last. -/
theorem newestLast_work (sink : Sink D) (messages : List (HostMessage D hostname))
    (last : HostMessage D hostname) (s next : Ingest D threadCount) (worker : Fin threadCount)
    (now : Int) (taken : s.work worker now = some next)
    (known : NewestLast sink messages last s) : NewestLast sink messages last next := by
  obtain ⟨queue, queued, position⟩ := known
  obtain ⟨stage, runs, rfl⟩ := work_cases taken
  obtain ⟨owner, member, carried⟩ := queued.running worker stage runs
  have host : owner.metrics.hostname = hostname := owner.host
  refine ⟨queue, ⟨queued.payloads, queued.members, ?_, queued.open_⟩, ?_⟩
  · intro other later holds
    rcases ThreadPool.setWorker_running.mp holds with ⟨_, following⟩ | ⟨_, before⟩
    · rw [afterCall_eq_running] at following
      exact ⟨owner, member, (sink.next_stage now stage s.stores _ later carried following).1⟩
    · exact queued.running other later before
  · rcases position with newest | ⟨empty, only, reached⟩
    · exact .inl newest
    · refine .inr ⟨empty, ?_, ?_⟩
      · intro other metrics given
        obtain ⟨later, holds, belongs, before⟩ := given
        rcases ThreadPool.setWorker_running.mp holds with ⟨rfl, following⟩ | ⟨_, old⟩
        · rw [afterCall_eq_running] at following
          obtain ⟨same, back⟩ := sink.next_stage now stage s.stores _ later carried following
          rw [same] at belongs
          rw [← Option.some.inj belongs]
          exact only other _ ⟨stage, runs, carried, back before⟩
        · exact only other metrics ⟨later, old, belongs, before⟩
      · rcases reached with ⟨other, later, holds, belongs, before⟩ | shown
        · by_cases same : other = worker
          · subst same
            rw [runs] at holds
            obtain rfl := WorkerState.running.inj holds
            have named : last.metrics.hostname ≠ [] := last.host.symm ▸ last.named
            rcases sink.commits now stage s.stores _ belongs named before with
              ⟨following, nextStage, ahead⟩ | shown
            · have runsNext := (afterCall_eq_running _ _).mpr nextStage
              exact .inl ⟨other, following,
                ThreadPool.setWorker_running.mpr (.inl ⟨rfl, runsNext⟩),
                (sink.next_stage now stage s.stores _ following belongs nextStage).1, ahead⟩
            · rw [last.host] at shown
              exact .inr shown
          · refine .inl ⟨other, later, ?_, belongs, before⟩
            exact ThreadPool.setWorker_running.mpr (.inr ⟨same, holds⟩)
        · rcases sink.keeps now stage s.stores _ last.metrics carried (host.symm ▸ shown) with
            still | ⟨before, replaced⟩
          · rw [host] at still
            exact .inr still
          · have same := only worker _ ⟨stage, runs, carried, before⟩
            rw [same, last.host] at replaced
            exact .inr replaced

/-- Every step keeps the last message last while one worker or one sample is all there is. -/
theorem newestLast_step (sink : Sink D) (messages : List (HostMessage D hostname))
    (last : HostMessage D hostname)
    (orderly : (∀ first second : Fin threadCount, first = second) ∨
      ∀ message ∈ messages, message.metrics = last.metrics)
    (s : Ingest D threadCount) (action : Action threadCount) (next : Ingest D threadCount)
    (taken : step s action = some next) (known : NewestLast sink messages last s) :
    NewestLast sink messages last next := by
  cases action with
  | submit => exact newestLast_submit sink messages last s next taken known
  | take worker => exact newestLast_take sink messages last s next worker orderly taken known
  | work worker now => exact newestLast_work sink messages last s next worker now taken known

/-- After the run, the sink shows the last message. -/
theorem shows_of_finished (sink : Sink D) (messages : List (HostMessage D hostname))
    (last : HostMessage D hostname) (s : Ingest D threadCount) (finished : Finished s)
    (known : NewestLast sink messages last s) : sink.shows hostname last.metrics s.stores := by
  obtain ⟨queue, queued, position⟩ := known
  have payloads := queued.payloads
  rw [finished.tasks, finished.incoming] at payloads
  obtain rfl : queue = [] := by simpa using payloads.symm
  rcases position with newest | ⟨_, _, ⟨worker, stage, runs, _⟩ | shown⟩
  · cases newest
  · rw [finished.workers worker] at runs
    cases runs
  · exact shown

end LMonitor.Ingest

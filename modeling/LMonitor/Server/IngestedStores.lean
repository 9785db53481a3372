import LMonitor.Alert.AlertRun
import LMonitor.Library.Json
import LMonitor.Serializer.AcceptedSamples
import LMonitor.Server.WorkerTask

namespace LMonitor
open Library MetricsDeserializer
variable {D : Type} [DoubleText D]

/-- The doubles of the entry are finite, and its metric and its message are visible texts. -/
structure Printable (alert : ManagedAlert D) : Prop where
  currentValue : Double.isFinite alert.currentValue = true
  threshold : Double.isFinite alert.threshold = true
  metric : Json.AllVisible alert.metric
  message : Json.AllVisible alert.message

/-- The stores hold finite doubles only, and the thresholds are finite. -/
structure Sound (stores : Stores D) : Prop where
  cpuThreshold : Double.isFinite stores.alertManager.cpuThreshold = true
  memoryThreshold : Double.isFinite stores.alertManager.memoryThreshold = true
  alerts : ∀ key alert, stores.alertManager.alerts.lookup key = some alert → Printable alert
  records : ∀ key stored, stores.metricsStore.metricsByHostname.lookup key = some stored →
    FiniteDoubles stored.metrics

/-- A resolved alert stays printable. -/
theorem printable_calm {alert : ManagedAlert D} (known : Printable alert) :
    Printable (AlertManager.calm alert) := by
  unfold AlertManager.calm
  split
  · exact ⟨known.currentValue, known.threshold, known.metric, known.message⟩
  · exact known

/-- A touched alert is printable. -/
theorem printable_touch [LawfulDouble D] (settings : AlertSettings D) {metrics : SystemMetrics D}
    {metric : Metric} {now : Int} {old : Option (ManagedAlert D)}
    (finite : FiniteDoubles metrics) (cpu : Double.isFinite settings.cpuThreshold = true)
    (memory : Double.isFinite settings.memoryThreshold = true)
    (known : ∀ alert, old = some alert → Printable alert) :
    Printable (AlertManager.touch settings.fireDuration now (rawAlert settings metrics metric)
      old) := by
  have value : Double.isFinite (metric.value metrics) = true := by
    cases metric <;> exact finite _ (by simp [Metric.value, doubles])
  cases old with
  | some alert =>
      have before := known alert rfl
      exact ⟨value, before.threshold, before.metric, before.message⟩
  | none =>
      refine ⟨value, ?_, ?_, ?_⟩
      · show Double.isFinite (metric.threshold settings) = true
        cases metric with
        | cpu => exact cpu
        | memory => exact memory
        | disk => exact LawfulDouble.finite_ofNat 90
      · show Json.AllVisible metric.name
        cases metric <;> decide
      · show Json.AllVisible metric.message
        cases metric <;> decide

/-- The rest of a task uses a sample with finite doubles. -/
def FiniteStage : Stage D → Prop
  | .deserialize _ => True
  | .addHistory metrics => FiniteDoubles metrics
  | .updateAlerts metrics => FiniteDoubles metrics
  | .updateMetrics metrics => FiniteDoubles metrics
  | .updateState metrics => FiniteDoubles metrics

/-- One call of a task keeps the stores sound and the sample finite. -/
theorem sound_advance [LawfulDouble D] (now : Int) (stage : Stage D) (stores : Stores D)
    (finite : FiniteStage stage) (sound : Sound stores) :
    Sound (advance now stage stores).2 ∧
      ∀ later, (advance now stage stores).1 = some later → FiniteStage later := by
  cases stage with
  | deserialize message =>
      cases parsed : deserialize (D := D) message with
      | error text => simp [advance, parsed, sound]
      | ok metrics =>
          simp only [advance, parsed, Option.some.injEq, forall_eq']
          exact ⟨sound, deserialize_finite parsed⟩
  | addHistory metrics =>
      refine ⟨⟨sound.cpuThreshold, sound.memoryThreshold, sound.alerts, sound.records⟩, ?_⟩
      intro later next
      cases next
      exact finite
  | updateAlerts metrics =>
      refine ⟨⟨sound.cpuThreshold, sound.memoryThreshold, ?_, sound.records⟩, ?_⟩
      · intro key alert stored
        rcases AlertManager.lookup_update_cases stored with
          ⟨metric, _, rfl, rfl⟩ | ⟨old, before, rfl⟩
        · exact printable_touch stores.alertManager.settings finite sound.cpuThreshold
            sound.memoryThreshold fun alert => sound.alerts _ alert
        · exact printable_calm (sound.alerts key old before)
      · intro later next
        cases next
        exact finite
  | updateMetrics metrics =>
      simp only [advance, MetricsStore.update]
      split
      · rename_i refused
        exact ⟨sound, fun later next => by cases next⟩
      · rename_i metricsStore updated
        split at updated
        · cases updated
        · obtain rfl := Except.ok.inj updated
          refine ⟨⟨sound.cpuThreshold, sound.memoryThreshold, sound.alerts, ?_⟩, ?_⟩
          · intro key stored found
            by_cases same : key = metrics.hostname
            · subst same
              rw [AList.lookup_insert] at found
              rw [← Option.some.inj found]
              exact finite
            · rw [AList.lookup_insert_ne same] at found
              exact sound.records key stored found
          · intro later next
            cases next
            exact finite
  | updateState metrics =>
      refine ⟨⟨sound.cpuThreshold, sound.memoryThreshold, sound.alerts, sound.records⟩, ?_⟩
      intro later next
      cases next

/-- The stores are sound, and every worker has a sample with finite doubles. -/
structure SoundIngest {threadCount : Nat} (s : Ingest D threadCount) : Prop where
  stores : Sound s.stores
  workers : ∀ worker stage, s.pool.workers worker = .running stage → FiniteStage stage

namespace Ingest
variable {threadCount : Nat}

theorem soundIngest_submit {s next : Ingest D threadCount} (taken : s.submit = some next)
    (known : SoundIngest s) : SoundIngest next := by
  obtain ⟨message, incoming, _, _, rfl⟩ := submit_cases taken
  exact ⟨known.stores, known.workers⟩

theorem soundIngest_take {s next : Ingest D threadCount} {worker : Fin threadCount}
    (taken : step s (.take worker) = some next) (known : SoundIngest s) : SoundIngest next := by
  obtain ⟨pool, accepted, rfl⟩ := Option.map_eq_some_iff.mp taken
  refine ⟨known.stores, fun other stage runs => ?_⟩
  rcases ThreadPool.take_cases accepted with ⟨task, tasks, _, _, rfl⟩ | ⟨_, _, _, rfl⟩
  · rcases ThreadPool.setWorker_running.mp runs with ⟨_, started⟩ | ⟨_, before⟩
    · obtain rfl := WorkerState.running.inj started
      trivial
    · exact known.workers other stage before
  · rcases ThreadPool.setWorker_running.mp runs with ⟨_, exited⟩ | ⟨_, before⟩
    · cases exited
    · exact known.workers other stage before

theorem soundIngest_work [LawfulDouble D] {s next : Ingest D threadCount}
    {worker : Fin threadCount} {now : Int} (taken : s.work worker now = some next)
    (known : SoundIngest s) : SoundIngest next := by
  obtain ⟨stage, runs, rfl⟩ := work_cases taken
  obtain ⟨stores, later⟩ := sound_advance now stage s.stores (known.workers worker stage runs)
    known.stores
  refine ⟨stores, fun other following holds => ?_⟩
  rcases ThreadPool.setWorker_running.mp holds with ⟨_, next⟩ | ⟨_, before⟩
  · exact later following ((afterCall_eq_running _ _).mp next)
  · exact known.workers other following before

/-- Every step of the ingest keeps the stores sound. -/
theorem soundIngest_step [LawfulDouble D] (s : Ingest D threadCount) (action : Action threadCount)
    (next : Ingest D threadCount) (taken : step s action = some next) (known : SoundIngest s) :
    SoundIngest next := by
  cases action with
  | submit => exact soundIngest_submit taken known
  | take worker => exact soundIngest_take taken known
  | work worker now => exact soundIngest_work taken known

end Ingest

/-- A server ingests any payloads in any interleaving of its workers. -/
structure FreshIngest (D : Type) [DoubleText D] where
  threadCount : Nat
  maxQueueSize : Nat
  maxPointsPerHost : Nat
  fireDuration : Int
  cpuThreshold : D
  memoryThreshold : D
  incoming : List Bytes
  trace : List (Ingest.Action threadCount)
  final : Ingest D threadCount
  reached : run Ingest.step (Ingest.start threadCount maxQueueSize
    (Stores.construct maxPointsPerHost fireDuration cpuThreshold memoryThreshold) incoming) trace =
      some final

/-- The thresholds of the server are finite. -/
structure IngestRun (D : Type) [DoubleText D] extends FreshIngest D where
  cpuFinite : Double.isFinite cpuThreshold = true
  memoryFinite : Double.isFinite memoryThreshold = true

namespace IngestRun

/-- The reached stores are sound. -/
theorem sound [LawfulDouble D] (ingest : IngestRun D) : Sound ingest.final.stores := by
  refine (run_invariant Ingest.step SoundIngest Ingest.soundIngest_step ingest.reached ?_).stores
  refine ⟨⟨ingest.cpuFinite, ingest.memoryFinite, ?_, ?_⟩, ?_⟩
  · intro key alert stored
    cases stored
  · intro key stored found
    cases found
  · intro worker stage runs
    cases runs

end IngestRun
end LMonitor

import LMonitor.Alert.AlertCell
import Mathlib.Data.List.Induction
import Mathlib.Data.List.Infix

namespace LMonitor
open Library
variable {D : Type}

namespace AlertManager

/-- Each entry stands under the key of its own host and metric. -/
def WellKeyed (manager : AlertManager D) : Prop :=
  ∀ key alert, manager.alerts.lookup key = some alert →
    ∃ metric : Metric, alert.metric = metric.name ∧ key = makeKey alert.hostname metric.name

/-- An entry of a cell names the host and the metric of the cell. -/
theorem cell_names {manager : AlertManager D} (keyed : manager.WellKeyed) {hostname : Bytes}
    {metric : Metric} {alert : ManagedAlert D}
    (stored : manager.cell hostname metric = some alert) :
    alert.hostname = hostname ∧ alert.metric = metric.name := by
  obtain ⟨other, name, key⟩ := keyed _ alert stored
  obtain ⟨host, rfl⟩ := makeKey_inj.mp key
  exact ⟨host.symm, name⟩

end AlertManager

variable [Double D]

/-- A sample reaches the manager at a clock reading. -/
structure Sample (D : Type) [Double D] where
  time : Int
  metrics : SystemMetrics D

/-- A run processes its samples one after the other, and its clock never goes back. -/
structure SteadyRun (D : Type) [Double D] where
  samples : List (Sample D)
  steady : samples.Pairwise fun earlier later => earlier.time ≤ later.time

/-- This sample belongs to the host and breaches the metric. -/
def BreachOf (settings : AlertSettings D) (hostname : Bytes) (metric : Metric)
    (sample : Sample D) : Prop :=
  sample.metrics.hostname = hostname ∧ Breaches settings metric sample.metrics

instance (settings : AlertSettings D) (hostname : Bytes) (metric : Metric) (sample : Sample D) :
    Decidable (BreachOf settings hostname metric sample) :=
  inferInstanceAs (Decidable (_ ∧ _))

namespace AlertManager

/-- The first detection must be at least this old. -/
def fireTime (settings : AlertSettings D) : Int := settings.fireDuration * nanosecondsPerSecond

def step (manager : AlertManager D) (sample : Sample D) : AlertManager D :=
  (update sample.time sample.metrics manager).2

/-- A manager with these settings processed the samples from an empty table. -/
def reached (settings : AlertSettings D) (samples : List (Sample D)) : AlertManager D :=
  samples.foldl step
    (construct settings.fireDuration settings.cpuThreshold settings.memoryThreshold)

@[simp] theorem reached_snoc (settings : AlertSettings D) (samples : List (Sample D))
    (sample : Sample D) :
    reached settings (samples ++ [sample]) = step (reached settings samples) sample := by
  simp [reached]

@[simp] theorem settings_reached (settings : AlertSettings D) (samples : List (Sample D)) :
    (reached settings samples).settings = settings := by
  induction samples using List.reverseRecOn with
  | nil => rfl
  | append_singleton samples sample ih =>
      rw [reached_snoc]
      exact ih

@[simp] theorem fireDuration_reached (settings : AlertSettings D) (samples : List (Sample D)) :
    (reached settings samples).fireDuration = settings.fireDuration :=
  congrArg AlertSettings.fireDuration (settings_reached settings samples)

/-- Every step of a run acts on one cell by a touch or by a calm. -/
theorem cell_reached_snoc (settings : AlertSettings D) (samples : List (Sample D))
    (sample : Sample D) (hostname : Bytes) (metric : Metric) :
    (reached settings (samples ++ [sample])).cell hostname metric =
      if BreachOf settings hostname metric sample then
        some (touch settings.fireDuration sample.time (rawAlert settings sample.metrics metric)
          ((reached settings samples).cell hostname metric))
      else ((reached settings samples).cell hostname metric).map calm := by
  rw [reached_snoc, step, cell_update]
  simp only [settings_reached, fireDuration_reached]
  rfl

/-- One update keeps the keys right. -/
theorem wellKeyed_update (now : Int) (metrics : SystemMetrics D) (manager : AlertManager D)
    (keyed : manager.WellKeyed) : (update now metrics manager).2.WellKeyed := by
  intro key alert stored
  rcases lookup_update_cases stored with ⟨metric, _, rfl, rfl⟩ | ⟨old, before, rfl⟩
  · cases before : manager.alerts.lookup (makeKey metrics.hostname metric.name) with
    | none => exact ⟨metric, rfl, rfl⟩
    | some old =>
        obtain ⟨other, name, key⟩ := keyed _ old before
        exact ⟨other, name, key⟩
  · obtain ⟨metric, name, key⟩ := keyed _ old before
    exact ⟨metric, by simpa using name, by simpa using key⟩

/-- Every alert stands under the key of its host and metric. -/
theorem wellKeyed_reached (settings : AlertSettings D) (samples : List (Sample D)) :
    (reached settings samples).WellKeyed := by
  induction samples using List.reverseRecOn with
  | nil =>
      intro key alert stored
      cases stored
  | append_singleton samples sample ih =>
      rw [reached_snoc]
      exact wellKeyed_update _ _ _ ih

/-- The first detection of a cell is its first breach, since no transition ever resets it. -/
theorem firstDetected_reached (settings : AlertSettings D) (samples : List (Sample D))
    (hostname : Bytes) (metric : Metric) :
    ((reached settings samples).cell hostname metric).map ManagedAlert.firstDetected =
      (samples.find? fun sample => BreachOf settings hostname metric sample).map Sample.time := by
  induction samples using List.reverseRecOn with
  | nil => rfl
  | append_singleton samples sample ih =>
      rw [cell_reached_snoc, List.find?_append]
      cases before : (reached settings samples).cell hostname metric with
      | none =>
          rw [before, Option.map_none, eq_comm, Option.map_eq_none_iff] at ih
          split <;> rename_i breach <;> simp [ih, breach, touch]
      | some alert =>
          rw [before, Option.map_some, eq_comm] at ih
          obtain ⟨first, found, time⟩ := Option.map_eq_some_iff.mp ih
          split <;> simp [found, touch, time]

/-- A breach of the past has left an entry in its cell. -/
theorem cell_of_breach (settings : AlertSettings D) {samples : List (Sample D)}
    {sample : Sample D} {hostname : Bytes} {metric : Metric} (member : sample ∈ samples)
    (breach : BreachOf settings hostname metric sample) :
    ∃ alert, (reached settings samples).cell hostname metric = some alert := by
  have detected := firstDetected_reached settings samples hostname metric
  cases stored : (reached settings samples).cell hostname metric with
  | some alert => exact ⟨alert, rfl⟩
  | none =>
      rw [stored, Option.map_none, eq_comm, Option.map_eq_none_iff] at detected
      have absent := List.find?_eq_none.mp detected sample member
      simp [breach] at absent

end AlertManager
end LMonitor

import LMonitor.Alert.AlertManager
import LMonitor.Library.Split
import Mathlib.Data.List.Nodup

namespace LMonitor
open Library
variable {D : Type}

namespace AlertManager

def keyOf (alert : Alert D) : Bytes := makeKey alert.hostname alert.metric

/-- An entry is due when its first detection is old enough and it does not fire yet. -/
def Due (fireDuration now : Int) (managed : ManagedAlert D) : Prop :=
  fireDuration ≤ durationCastSeconds (now - managed.firstDetected) ∧ managed.state ≠ .firing

instance (fireDuration now : Int) (managed : ManagedAlert D) :
    Decidable (Due fireDuration now managed) :=
  inferInstanceAs (Decidable (_ ∧ _))

/-- A breaching sample opens its cell as pending, or refreshes it and fires it when it is due. -/
def touch (fireDuration now : Int) (alert : Alert D) :
    Option (ManagedAlert D) → ManagedAlert D
  | none =>
      ⟨alert.hostname, alert.metric, alert.level, .pending, alert.currentValue, alert.threshold,
        alert.message, now, now⟩
  | some managed =>
      { managed with
        currentValue := alert.currentValue
        lastUpdate := now
        state := if Due fireDuration now managed then .firing else managed.state }

/-- A breaching sample leaves an entry firing that fired or was due before it. -/
theorem touch_firing (fireDuration now : Int) (raw : Alert D) (alert : ManagedAlert D)
    (known : alert.state = .firing ∨ Due fireDuration now alert) :
    (touch fireDuration now raw (some alert)).state = .firing := by
  simp only [touch]
  split
  · rfl
  · rename_i early
    exact known.resolve_right early

/-- The detection loop returns a cell that a sample makes fire. -/
def newlyFiring (fireDuration now : Int) (alert : Alert D) :
    Option (ManagedAlert D) → List (ManagedAlert D)
  | none => []
  | some managed =>
      if Due fireDuration now managed then [touch fireDuration now alert (some managed)] else []

/-- A sample without a breach ends a firing cell and leaves every other cell alone. -/
def calm (managed : ManagedAlert D) : ManagedAlert D :=
  if managed.state = .firing then { managed with state := .normal } else managed

@[simp] theorem calm_hostname (alert : ManagedAlert D) :
    (calm alert).hostname = alert.hostname := by
  unfold calm
  split <;> rfl

@[simp] theorem calm_metric (alert : ManagedAlert D) : (calm alert).metric = alert.metric := by
  unfold calm
  split <;> rfl

@[simp] theorem calm_firstDetected (alert : ManagedAlert D) :
    (calm alert).firstDetected = alert.firstDetected := by
  unfold calm
  split <;> rfl

@[simp] theorem calm_lastUpdate (alert : ManagedAlert D) :
    (calm alert).lastUpdate = alert.lastUpdate := by
  unfold calm
  split <;> rfl

/-- Only a firing alert becomes normal. -/
theorem calm_state (alert : ManagedAlert D) :
    (calm alert).state = if alert.state = .firing then .normal else alert.state := by
  unfold calm
  split <;> rfl

/-- The detection touches the cell of the alert and notes its key. -/
theorem detect_eq (fireDuration now : Int) (d : Detection D) (alert : Alert D) :
    detect fireDuration now d alert =
      ⟨d.alerts.insert (keyOf alert)
          (touch fireDuration now alert (d.alerts.lookup (keyOf alert))),
        d.currentAlertKeys.insert (keyOf alert) true,
        d.result ++ newlyFiring fireDuration now alert (d.alerts.lookup (keyOf alert))⟩ := by
  simp only [detect, keyOf]
  cases stored : d.alerts.lookup (makeKey alert.hostname alert.metric) with
  | none => simp [touch, newlyFiring]
  | some managed =>
      by_cases due : Due fireDuration now managed
      · have condition := due
        simp only [Due] at condition
        simp [touch, newlyFiring, due, condition]
      · have condition := due
        simp only [Due] at condition
        simp [touch, newlyFiring, due, condition]

/-- The detection loop keeps every entry that no raw alert of the sample names. -/
theorem detect_others (fireDuration now : Int) (alerts : List (Alert D))
    (d : Detection D) (key : Bytes) (other : ∀ alert ∈ alerts, keyOf alert ≠ key) :
    (alerts.foldl (detect fireDuration now) d).alerts.lookup key = d.alerts.lookup key ∧
      (alerts.foldl (detect fireDuration now) d).currentAlertKeys.lookup key =
        d.currentAlertKeys.lookup key := by
  induction alerts generalizing d with
  | nil => exact ⟨rfl, rfl⟩
  | cons alert alerts ih =>
      have different : key ≠ keyOf alert := (other alert (by simp)).symm
      have rest := ih (detect fireDuration now d alert) fun later member =>
        other later (by simp [member])
      rw [List.foldl_cons, rest.1, rest.2, detect_eq]
      exact ⟨AList.lookup_insert_ne different, AList.lookup_insert_ne different⟩

/-- The detection loop touches the entry of each raw alert once. -/
theorem detect_member (fireDuration now : Int) (alerts : List (Alert D))
    (d : Detection D) (distinct : (alerts.map keyOf).Nodup) (alert : Alert D)
    (member : alert ∈ alerts) :
    (alerts.foldl (detect fireDuration now) d).alerts.lookup (keyOf alert) =
        some (touch fireDuration now alert (d.alerts.lookup (keyOf alert))) ∧
      (alerts.foldl (detect fireDuration now) d).currentAlertKeys.lookup (keyOf alert) =
        some true := by
  induction alerts generalizing d with
  | nil => simp at member
  | cons first alerts ih =>
      simp only [List.map_cons, List.nodup_cons] at distinct
      rw [List.foldl_cons]
      rcases List.mem_cons.mp member with rfl | later
      · have kept := detect_others fireDuration now alerts (detect fireDuration now d alert)
          (keyOf alert) fun later inTail same => distinct.1 (List.mem_map.mpr ⟨later, inTail, same⟩)
        rw [kept.1, kept.2, detect_eq]
        exact ⟨AList.lookup_insert _, AList.lookup_insert _⟩
      · have different : keyOf alert ≠ keyOf first := fun same =>
          distinct.1 (List.mem_map.mpr ⟨alert, later, same⟩)
        have rest := ih (detect fireDuration now d first) distinct.2 later
        rw [rest.1, rest.2, detect_eq]
        exact ⟨by rw [AList.lookup_insert_ne different], rfl⟩

/-- The detection loop returns the cells that the sample makes fire, in the order of the checks. -/
theorem detect_result (fireDuration now : Int) (alerts : List (Alert D))
    (d : Detection D) (distinct : (alerts.map keyOf).Nodup) :
    (alerts.foldl (detect fireDuration now) d).result =
      d.result ++ alerts.flatMap fun alert =>
        newlyFiring fireDuration now alert (d.alerts.lookup (keyOf alert)) := by
  induction alerts generalizing d with
  | nil => simp
  | cons first alerts ih =>
      simp only [List.map_cons, List.nodup_cons] at distinct
      have unchanged : ∀ alert ∈ alerts,
          (detect fireDuration now d first).alerts.lookup (keyOf alert) =
            d.alerts.lookup (keyOf alert) := by
        intro alert member
        rw [detect_eq]
        exact AList.lookup_insert_ne fun same => distinct.1 (List.mem_map.mpr ⟨alert, member, same⟩)
      rw [List.foldl_cons, ih _ distinct.2, List.flatMap_cons,
        List.flatMap_congr fun alert member => by rw [unchanged alert member], detect_eq]
      simp [List.append_assoc]

end AlertManager

variable [Double D]

/-- The evaluator watches these three values of a sample. -/
inductive Metric where
  | cpu
  | memory
  | disk
  deriving DecidableEq

/-- These settings stay as the configuration gave them. -/
structure AlertSettings (D : Type) where
  fireDuration : Int
  cpuThreshold : D
  memoryThreshold : D

namespace Metric

def all : List Metric := [cpu, memory, disk]

def name : Metric → Bytes
  | cpu => ascii "cpu"
  | memory => ascii "memory"
  | disk => ascii "disk"

def level : Metric → AlertLevel
  | cpu => .warning
  | memory => .warning
  | disk => .critical

def message : Metric → Bytes
  | cpu => ascii "CPU usage exceeded warning threshold"
  | memory => ascii "Memory usage exceeded warning threshold"
  | disk => ascii "Disk usage exceeded critical threshold"

def value (metrics : SystemMetrics D) : Metric → D
  | cpu => metrics.cpuUsagePercent
  | memory => metrics.memoryUsagePercent
  | disk => metrics.diskUsagePercent

def threshold (settings : AlertSettings D) : Metric → D
  | cpu => settings.cpuThreshold
  | memory => settings.memoryThreshold
  | disk => AlertEvaluator.diskCriticalThreshold

theorem mem_all (metric : Metric) : metric ∈ all := by
  cases metric <;> decide

theorem name_injective : Function.Injective name := by
  intro left right
  cases left <;> cases right <;> decide

/-- No metric name contains the separator of the keys. -/
theorem separator_notMem_name (metric : Metric) : (95 : UInt8) ∉ metric.name := by
  cases metric <;> decide

end Metric

/-- A sample breaches a metric when its value reaches the threshold. -/
def Breaches (settings : AlertSettings D) (metric : Metric) (metrics : SystemMetrics D) : Prop :=
  Double.le (metric.threshold settings) (metric.value metrics) = true

instance (settings : AlertSettings D) (metric : Metric) (metrics : SystemMetrics D) :
    Decidable (Breaches settings metric metrics) :=
  inferInstanceAs (Decidable (_ = true))

/-- This is the raw alert that a breach of the metric produces. -/
def rawAlert (settings : AlertSettings D) (metrics : SystemMetrics D) (metric : Metric) : Alert D :=
  ⟨metrics.hostname, metric.name, metric.level, metric.value metrics, metric.threshold settings,
    metric.message⟩

/-- The evaluator reports exactly the breached metrics. -/
theorem evaluate_eq (settings : AlertSettings D) (metrics : SystemMetrics D) :
    AlertEvaluator.evaluate metrics settings.cpuThreshold settings.memoryThreshold =
      (Metric.all.filter fun metric => Breaches settings metric metrics).map
        (rawAlert settings metrics) := by
  by_cases cpu : Breaches settings .cpu metrics <;>
  by_cases memory : Breaches settings .memory metrics <;>
  by_cases disk : Breaches settings .disk metrics <;>
  · simp only [Metric.all, List.filter_cons, cpu, memory, disk]
    simp only [Breaches, Metric.threshold, Metric.value] at cpu memory disk
    simp [AlertEvaluator.evaluate, AlertEvaluator.check, cpu, memory, disk, rawAlert, Metric.name,
      Metric.level, Metric.message, Metric.value, Metric.threshold]

namespace AlertManager

/-- The last separator of a key ends the host name, whatever bytes the host name has. -/
theorem makeKey_inj {left right : Bytes} {first second : Metric} :
    makeKey left first.name = makeKey right second.name ↔ left = right ∧ first = second := by
  constructor
  · intro equal
    have reversed := congrArg List.reverse equal
    simp only [makeKey, show ascii "_" = [95] from rfl, List.reverse_append,
      List.reverse_singleton, List.singleton_append] at reversed
    obtain ⟨names, hosts⟩ := cut_unique (by simpa using first.separator_notMem_name)
      (by simpa using second.separator_notMem_name) reversed
    exact ⟨List.reverse_injective hosts, Metric.name_injective (List.reverse_injective names)⟩
  · intro given
    obtain ⟨rfl, rfl⟩ := given
    rfl

/-- These are the raw alerts of a sample. -/
def rawAlerts (settings : AlertSettings D) (metrics : SystemMetrics D) : List (Alert D) :=
  (Metric.all.filter fun metric => Breaches settings metric metrics).map
    (rawAlert settings metrics)

/-- The raw alerts are those of the breached metrics. -/
theorem mem_rawAlerts (settings : AlertSettings D) (metrics : SystemMetrics D) (alert : Alert D) :
    alert ∈ rawAlerts settings metrics ↔
      ∃ metric, Breaches settings metric metrics ∧ rawAlert settings metrics metric = alert := by
  simp [rawAlerts, Metric.mem_all]

/-- The raw alerts of a sample have different keys. -/
theorem rawAlerts_distinct (settings : AlertSettings D) (metrics : SystemMetrics D) :
    ((rawAlerts settings metrics).map keyOf).Nodup := by
  rw [rawAlerts, List.map_map]
  refine List.Nodup.map ?_ (List.Nodup.filter _ (by decide))
  intro first second same
  exact (makeKey_inj.mp same).2

/-- These are the settings of a manager. -/
def settings (manager : AlertManager D) : AlertSettings D :=
  ⟨manager.fireDuration, manager.cpuThreshold, manager.memoryThreshold⟩

/-- The cell of a host and a metric is the entry under their key. -/
def cell (manager : AlertManager D) (hostname : Bytes) (metric : Metric) :
    Option (ManagedAlert D) :=
  manager.alerts.lookup (makeKey hostname metric.name)

/-- The update evaluates the sample, runs the detection loop and then the resolve loop. -/
theorem update_eq (now : Int) (metrics : SystemMetrics D) (manager : AlertManager D) :
    let d := (rawAlerts manager.settings metrics).foldl (detect manager.fireDuration now)
      ⟨manager.alerts, ∅, []⟩
    (update now metrics manager).1 = d.result ∧
      ∀ key, (update now metrics manager).2.alerts.lookup key =
        (d.alerts.lookup key).map (resolve d.currentAlertKeys key) := by
  have evaluated := evaluate_eq manager.settings metrics
  simp only [settings] at evaluated
  simp only [update, runUpdate, detection, evaluated, rawAlerts, settings]
  exact ⟨trivial, UnorderedMap.lookup_mapValues _ _⟩

/-- A breach touches its own cell. -/
theorem cell_update_breach (now : Int) (metrics : SystemMetrics D) (manager : AlertManager D)
    (metric : Metric) (breach : Breaches manager.settings metric metrics) :
    (update now metrics manager).2.cell metrics.hostname metric =
      some (touch manager.fireDuration now (rawAlert manager.settings metrics metric)
        (manager.cell metrics.hostname metric)) := by
  have member := (mem_rawAlerts manager.settings metrics _).mpr ⟨metric, breach, rfl⟩
  obtain ⟨touched, current⟩ := detect_member manager.fireDuration now _ ⟨manager.alerts, ∅, []⟩
    (rawAlerts_distinct manager.settings metrics) _ member
  have updated := (update_eq now metrics manager).2 (makeKey metrics.hostname metric.name)
  simp only [keyOf, rawAlert] at touched current
  rw [cell, updated, rawAlert, touched, Option.map_some, resolve, current]
  rfl

/-- The update calms every entry that is not the cell of a breach, whichever host it belongs to. -/
theorem lookup_update_calm (now : Int) (metrics : SystemMetrics D) (manager : AlertManager D)
    (key : Bytes) (quiet : ∀ metric, Breaches manager.settings metric metrics →
      makeKey metrics.hostname metric.name ≠ key) :
    (update now metrics manager).2.alerts.lookup key = (manager.alerts.lookup key).map calm := by
  obtain ⟨kept, absent⟩ := detect_others manager.fireDuration now
    (rawAlerts manager.settings metrics) ⟨manager.alerts, ∅, []⟩ key fun alert member => by
      obtain ⟨metric, breach, rfl⟩ := (mem_rawAlerts manager.settings metrics alert).mp member
      exact quiet metric breach
  rw [(update_eq now metrics manager).2, kept]
  congr 1
  funext alert
  simp [resolve, absent, calm]

/-- Every entry after an update is a touched cell or an old entry that was calmed. -/
theorem lookup_update_cases {now : Int} {metrics : SystemMetrics D} {manager : AlertManager D}
    {key : Bytes} {alert : ManagedAlert D}
    (stored : (update now metrics manager).2.alerts.lookup key = some alert) :
    (∃ metric, Breaches manager.settings metric metrics ∧
      key = makeKey metrics.hostname metric.name ∧
      alert = touch manager.fireDuration now (rawAlert manager.settings metrics metric)
        (manager.alerts.lookup key)) ∨
    ∃ old, manager.alerts.lookup key = some old ∧ alert = calm old := by
  by_cases own : ∃ metric, Breaches manager.settings metric metrics ∧
      makeKey metrics.hostname metric.name = key
  · obtain ⟨metric, breach, rfl⟩ := own
    have touched := cell_update_breach now metrics manager metric breach
    rw [cell, stored, Option.some.injEq] at touched
    exact .inl ⟨metric, breach, rfl, touched⟩
  · push Not at own
    have calmed := lookup_update_calm now metrics manager key own
    rw [stored] at calmed
    obtain ⟨old, before, same⟩ := Option.map_eq_some_iff.mp calmed.symm
    exact .inr ⟨old, before, same.symm⟩

/-- A cell is touched by a breach of its own metric in a sample of its own host, and calmed else. -/
theorem cell_update (now : Int) (metrics : SystemMetrics D) (manager : AlertManager D)
    (hostname : Bytes) (metric : Metric) :
    (update now metrics manager).2.cell hostname metric =
      if metrics.hostname = hostname ∧ Breaches manager.settings metric metrics then
        some (touch manager.fireDuration now (rawAlert manager.settings metrics metric)
          (manager.cell hostname metric))
      else (manager.cell hostname metric).map calm := by
  split
  · rename_i own
    obtain ⟨rfl, breach⟩ := own
    exact cell_update_breach now metrics manager metric breach
  · rename_i foreign
    apply lookup_update_calm now metrics manager
    intro other breach same
    obtain ⟨rfl, rfl⟩ := makeKey_inj.mp same
    exact foreign ⟨rfl, breach⟩

/-- The update returns a cell exactly when a breach makes it fire. -/
theorem mem_update (now : Int) (metrics : SystemMetrics D) (manager : AlertManager D)
    (fired : ManagedAlert D) :
    fired ∈ (update now metrics manager).1 ↔
      ∃ metric, Breaches manager.settings metric metrics ∧
        fired ∈ newlyFiring manager.fireDuration now (rawAlert manager.settings metrics metric)
          (manager.cell metrics.hostname metric) := by
  rw [(update_eq now metrics manager).1, detect_result _ _ _ _ (rawAlerts_distinct _ _)]
  simp only [List.nil_append, List.mem_flatMap, mem_rawAlerts]
  constructor
  · intro given
    obtain ⟨_, ⟨metric, breach, rfl⟩, member⟩ := given
    exact ⟨metric, breach, member⟩
  · intro given
    obtain ⟨metric, breach, member⟩ := given
    exact ⟨_, ⟨metric, breach, rfl⟩, member⟩

end AlertManager
end LMonitor

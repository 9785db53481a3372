import LMonitor.Alert.AlertCell
import LMonitor.Config.Config
import LMonitor.Serializer.AcceptedSamples

namespace LMonitor.Config
open Library
variable {D : Type} [DoubleText D]

/-- The loop keeps the last value of each full key. -/
theorem lookup_loadLine (lines : List Bytes) (s : Load) (key : Bytes) :
    (lines.foldl loadLine s).values.lookup key =
      (((assignments s.currentSection lines).filter fun assigned =>
        fullKey assigned.1 assigned.2.1 = key).getLast?.map fun assigned => assigned.2.2).or
          (s.values.lookup key) := by
  induction lines generalizing s with
  | nil => rfl
  | cons line lines ih =>
      rw [List.foldl_cons, ih]
      simp only [assignments, loadLine]
      by_cases empty : line = []
      · simp only [empty, if_true, true_or]
      by_cases comment : line.head? = some 35
      · simp only [empty, comment, if_false, if_true, or_true]
      by_cases header : isSection line = true
      · simp only [empty, comment, header, if_false, if_true, or_self]
      cases cut : splitFirst 61 line with
      | none => simp only [empty, comment, header, if_false, or_self, Bool.false_eq_true]
      | some parts =>
          obtain ⟨name, value⟩ := parts
          simp only [empty, comment, header, if_false, or_self, Bool.false_eq_true]
          rw [List.filter_cons]
          by_cases same : fullKey s.currentSection name = key
          · subst same
            simp only [decide_true, if_true, AList.lookup_insert]
            cases later : (assignments s.currentSection lines).filter fun assigned =>
                fullKey assigned.1 assigned.2.1 = fullKey s.currentSection name with
            | nil => rfl
            | cons head tail => simp [List.getLast?_cons]
          · have other : key ≠ fullKey s.currentSection name := fun equal => same equal.symm
            simp only [same, decide_false, Bool.false_eq_true, if_false,
              AList.lookup_insert_ne other]

/-- A key without a dot belongs to no named section. -/
theorem fullKey_eq_iff {key : Bytes} (undotted : 46 ∉ key) (sectionName name : Bytes) :
    fullKey sectionName name = key ↔ sectionName = [] ∧ name = key := by
  unfold fullKey
  split
  · rename_i named
    constructor
    · intro same
      have dotted : 46 ∈ sectionName ++ ascii "." ++ name := by simp [ascii]
      rw [same] at dotted
      exact absurd dotted undotted
    · intro both
      exact absurd both.1 named
  · rename_i unnamed
    simp only [ne_eq, Decidable.not_not] at unnamed
    simp [unnamed]

/-- A key without a dot finds the last assignment outside of the named sections. -/
theorem get_load {key : Bytes} (undotted : 46 ∉ key) (text : Bytes) (before : Config) :
    (load (some text) before).2.get key [] = lastAssigned text [] key := by
  have loaded := lookup_loadLine (linesFrom 10 [] text) ⟨[], ∅⟩ key
  simp only [fullKey_eq_iff undotted, AList.lookup_empty, Option.or_none] at loaded
  simp only [load, get, lastAssigned, loaded]

/-- These are the settings that the last assignments inside a section give. -/
def settingsIn (text sectionName : Bytes) : Except Bytes (AlertSettings D) := do
  let fireDuration ← readInt (lastAssigned text sectionName (ascii "fire_duration")) 5
  let cpuThreshold ←
    readDouble (lastAssigned text sectionName (ascii "cpu_threshold")) (Double.ofNat 80)
  let memoryThreshold ←
    readDouble (lastAssigned text sectionName (ascii "memory_threshold")) (Double.ofNat 90)
  return ⟨fireDuration, cpuThreshold, memoryThreshold⟩

/-- The manager reads its settings outside of the named sections. -/
theorem ofConfig_load (text : Bytes) (before : Config) :
    (AlertManager.ofConfig (load (some text) before).2 : Except Bytes (AlertManager D)) =
      (settingsIn text []).map fun settings =>
        .construct settings.fireDuration settings.cpuThreshold settings.memoryThreshold := by
  simp only [AlertManager.ofConfig, getInt, getDouble, settingsIn]
  rw [get_load (by decide), get_load (by decide), get_load (by decide)]
  cases readInt (lastAssigned text [] (ascii "fire_duration")) 5 with
  | error problem => rfl
  | ok fireDuration =>
      cases readDouble (lastAssigned text [] (ascii "cpu_threshold")) (Double.ofNat 80 : D) with
      | error problem => rfl
      | ok cpuThreshold =>
          cases readDouble (lastAssigned text [] (ascii "memory_threshold"))
              (Double.ofNat 90 : D) with
          | error problem => rfl
          | ok memoryThreshold => rfl

/-- The sample makes the evaluator of the manager report the metric. -/
def Raises (manager : AlertManager D) (metric : Metric) (metrics : SystemMetrics D) : Prop :=
  ∃ alert ∈ AlertEvaluator.evaluate metrics manager.cpuThreshold manager.memoryThreshold,
    alert.metric = metric.name

/-- A sample raises an alert exactly when it breaches a limit of the settings. -/
theorem raises_iff (manager : AlertManager D) (metric : Metric) (metrics : SystemMetrics D) :
    Raises manager metric metrics ↔ Breaches manager.settings metric metrics := by
  have evaluated := evaluate_eq manager.settings metrics
  simp only [AlertManager.settings] at evaluated
  simp only [Raises, evaluated, List.mem_map, List.mem_filter, Metric.mem_all, true_and]
  constructor
  · rintro ⟨alert, ⟨other, breach, raised⟩, named⟩
    rw [← raised] at named
    have named : other.name = metric.name := named
    have keys : AlertManager.makeKey [] other.name = AlertManager.makeKey [] metric.name := by
      rw [named]
    obtain rfl := (AlertManager.makeKey_inj.mp keys).2
    exact of_decide_eq_true breach
  · intro breach
    exact ⟨_, ⟨metric, decide_eq_true breach, rfl⟩, rfl⟩

/-- Every manager that is built from the text works with the settings of its alert section. -/
def InForce (D : Type) [DoubleText D] (text : Bytes) : Prop :=
  ∀ (before : Config) (manager : AlertManager D),
    AlertManager.ofConfig (load (some text) before).2 = .ok manager →
    ∃ settings : AlertSettings D, settingsIn text (ascii "alert") = .ok settings ∧
      (∀ metrics, Raises manager .cpu metrics ↔
        Double.le settings.cpuThreshold metrics.cpuUsagePercent = true) ∧
      (∀ metrics, Raises manager .memory metrics ↔
        Double.le settings.memoryThreshold metrics.memoryUsagePercent = true) ∧
      manager.fireDuration = settings.fireDuration

/-- Two thresholds denote the same bound. -/
def SameBound (first second : D) : Prop := ∀ value, Double.le first value = Double.le second value

/-- The assignments outside of the sections read as those inside the alert section. -/
def OutsideAsInside (D : Type) [DoubleText D] (text : Bytes) : Prop :=
  ∃ outside inside : AlertSettings D, settingsIn text [] = .ok outside ∧
    settingsIn text (ascii "alert") = .ok inside ∧
    outside.fireDuration = inside.fireDuration ∧
    SameBound outside.cpuThreshold inside.cpuThreshold ∧
    SameBound outside.memoryThreshold inside.memoryThreshold

/-- The alert section of a text is in force exactly when the text outside of it agrees. -/
theorem inForce_iff (text : Bytes) :
    InForce D text ↔
      (∃ problem, (settingsIn text [] : Except Bytes (AlertSettings D)) = .error problem) ∨
        OutsideAsInside D text := by
  have built (before : Config) := ofConfig_load (D := D) text before
  cases outside : (settingsIn text [] : Except Bytes (AlertSettings D)) with
  | error problem =>
      refine ⟨fun _ => .inl ⟨problem, rfl⟩, fun _ before manager success => ?_⟩
      rw [built, outside] at success
      cases success
  | ok settings =>
      constructor
      · intro inForce
        obtain ⟨inside, read, cpu, memory, fire⟩ := inForce ⟨∅⟩ _ (by rw [built, outside]; rfl)
        refine .inr ⟨settings, inside, outside, read, fire, ?_, ?_⟩
        · intro value
          have same := cpu { cpuUsagePercent := value }
          rw [raises_iff] at same
          exact Bool.eq_iff_iff.mpr same
        · intro value
          have same := memory { memoryUsagePercent := value }
          rw [raises_iff] at same
          exact Bool.eq_iff_iff.mpr same
      · intro given
        obtain ⟨problem, refused⟩ | ⟨settings, inside, read, inForce, fire, cpu, memory⟩ := given
        · cases refused
        intro before manager success
        rw [built, read] at success
        obtain rfl := Except.ok.inj success
        refine ⟨inside, inForce, fun metrics => ?_, fun metrics => ?_, fire⟩
        · rw [raises_iff]
          exact Bool.eq_iff_iff.mp (cpu metrics.cpuUsagePercent)
        · rw [raises_iff]
          exact Bool.eq_iff_iff.mp (memory metrics.memoryUsagePercent)

def lowThresholdText : Bytes := ascii "[alert]\ncpu_threshold=50\n"

/-- A threshold of 50 percent in the alert section raises no alert for a sample of 60 percent. -/
theorem threshold_ignored : ¬ InForce Int lowThresholdText := by
  intro inForce
  have built : AlertManager.ofConfig (load (some lowThresholdText) ⟨∅⟩).2 =
      .ok (.construct 5 (Double.ofNat 80) (Double.ofNat 90) : AlertManager Int) := rfl
  have configured : settingsIn lowThresholdText (ascii "alert") =
      .ok (⟨5, Double.ofNat 50, Double.ofNat 90⟩ : AlertSettings Int) := rfl
  obtain ⟨settings, read, cpu, _⟩ := inForce ⟨∅⟩ _ built
  rw [configured] at read
  obtain rfl := Except.ok.inj read
  have same := cpu { cpuUsagePercent := Double.ofNat 60 }
  rw [raises_iff] at same
  exact absurd (same.mpr (by decide)) (by decide)

end LMonitor.Config

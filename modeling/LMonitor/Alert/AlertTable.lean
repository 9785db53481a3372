import LMonitor.Alert.ActiveAlerts
import LMonitor.Alert.AlertContinuity

namespace LMonitor.AlertManager
open Library
variable {D : Type} [Double D]

/-- An entry stands under its own key and keeps the settings of its metric. Its times are in order,
a firing entry is old enough, and its value reached its threshold. -/
structure SoundEntry (settings : AlertSettings D) (key : Bytes) (alert : ManagedAlert D) :
    Prop where
  metric : ∃ metric : Metric, alert.metric = metric.name ∧ alert.level = metric.level ∧
    alert.threshold = metric.threshold settings
  key : key = makeKey alert.hostname alert.metric
  ordered : alert.firstDetected ≤ alert.lastUpdate
  aged : alert.state = .firing → fireTime settings ≤ alert.lastUpdate - alert.firstDetected
  high : Double.le alert.threshold alert.currentValue = true

/-- The later entry is the earlier one with another state, value and time of the last update. -/
structure SameAlert (earlier later : ManagedAlert D) : Prop where
  hostname : later.hostname = earlier.hostname
  metric : later.metric = earlier.metric
  level : later.level = earlier.level
  threshold : later.threshold = earlier.threshold
  firstDetected : later.firstDetected = earlier.firstDetected

/-- The entry of a key moved from another state to firing. -/
def MovedToFiring (before after : AlertManager D) (alert : ManagedAlert D) : Prop :=
  ∃ key old, before.alerts.lookup key = some old ∧ old.state ≠ .firing ∧
    after.alerts.lookup key = some alert ∧ alert.state = .firing

omit [Double D] in
theorem SameAlert.refl (alert : ManagedAlert D) : SameAlert alert alert :=
  ⟨rfl, rfl, rfl, rfl, rfl⟩

omit [Double D] in
theorem SameAlert.trans {first second third : ManagedAlert D} (left : SameAlert first second)
    (right : SameAlert second third) : SameAlert first third := by
  constructor
  · rw [right.hostname, left.hostname]
  · rw [right.metric, left.metric]
  · rw [right.level, left.level]
  · rw [right.threshold, left.threshold]
  · rw [right.firstDetected, left.firstDetected]

omit [Double D] in
theorem sameAlert_calm (alert : ManagedAlert D) : SameAlert alert (calm alert) := by
  unfold calm
  split
  · exact ⟨rfl, rfl, rfl, rfl, rfl⟩
  · exact SameAlert.refl alert

/-- A calm entry stays sound. -/
theorem SoundEntry.calm {settings : AlertSettings D} {key : Bytes} {alert : ManagedAlert D}
    (sound : SoundEntry settings key alert) : SoundEntry settings key (calm alert) := by
  unfold AlertManager.calm
  split
  · exact ⟨sound.metric, sound.key, sound.ordered, fun firing => by contradiction, sound.high⟩
  · exact sound

/-- A breach opens a sound entry or refreshes one at a later time. -/
theorem SoundEntry.touch {settings : AlertSettings D} {metrics : SystemMetrics D}
    {metric : Metric} {now : Int} (breach : Breaches settings metric metrics)
    {cell : Option (ManagedAlert D)}
    (known : ∀ alert ∈ cell, alert.lastUpdate ≤ now ∧
      SoundEntry settings (makeKey metrics.hostname metric.name) alert) :
    SoundEntry settings (makeKey metrics.hostname metric.name)
      (touch settings.fireDuration now (rawAlert settings metrics metric) cell) := by
  cases cell with
  | none =>
      exact ⟨⟨metric, rfl, rfl, rfl⟩, rfl, Int.le_refl _, fun firing => by contradiction, breach⟩
  | some old =>
      obtain ⟨recent, sound⟩ := known old rfl
      obtain ⟨own, name, level, threshold⟩ := sound.metric
      have key := sound.key
      rw [name] at key
      obtain ⟨_, rfl⟩ := makeKey_inj.mp key
      have ordered : old.firstDetected ≤ now := Int.le_trans sound.ordered recent
      refine ⟨⟨metric, name, level, threshold⟩, sound.key, ordered, ?_, ?_⟩
      · intro firing
        change fireTime settings ≤ now - old.firstDetected
        have elapsed : (0 : Int) ≤ now - old.firstDetected := by omega
        simp only [AlertManager.touch] at firing
        split at firing
        · rename_i due
          exact (fireDuration_le_iff _ _ elapsed).mp due.1
        · have aged := sound.aged firing
          omega
      · change Double.le old.threshold (metric.value metrics) = true
        rw [threshold]
        exact breach

/-- The table of a manager is sound at a time when its entries are sound and not newer. -/
def SoundTable (settings : AlertSettings D) (now : Int) (manager : AlertManager D) : Prop :=
  ∀ key alert, manager.alerts.lookup key = some alert →
    alert.lastUpdate ≤ now ∧ SoundEntry settings key alert

/-- One update keeps the table sound. -/
theorem soundTable_update {settings : AlertSettings D} {manager : AlertManager D} {now : Int}
    (same : manager.settings = settings) (metrics : SystemMetrics D)
    (known : SoundTable settings now manager) :
    SoundTable settings now (update now metrics manager).2 := by
  subst same
  intro key alert stored
  rcases lookup_update_cases stored with ⟨metric, breach, rfl, rfl⟩ | ⟨old, before, rfl⟩
  · have touched := SoundEntry.touch breach fun old found => known _ old found
    refine ⟨?_, touched⟩
    cases manager.alerts.lookup (makeKey metrics.hostname metric.name) <;> exact Int.le_refl _
  · obtain ⟨recent, sound⟩ := known key old before
    exact ⟨by rwa [calm_lastUpdate], sound.calm⟩

/-- The tables of a run are sound at every time that the run has reached. -/
theorem soundTable_reached (settings : AlertSettings D) (samples : List (Sample D))
    (steady : samples.Pairwise fun earlier later => earlier.time ≤ later.time) {now : Int}
    (past : ∀ sample ∈ samples, sample.time ≤ now) :
    SoundTable settings now (reached settings samples) := by
  induction samples using List.reverseRecOn generalizing now with
  | nil =>
      intro key alert stored
      cases stored
  | append_singleton samples sample ih =>
      obtain ⟨before, _, order⟩ := List.pairwise_append.mp steady
      have known := ih before fun earlier member => order earlier member sample (by simp)
      have last : sample.time ≤ now := past sample (by simp)
      rw [reached_snoc]
      intro key alert stored
      obtain ⟨recent, sound⟩ :=
        soundTable_update (settings_reached settings samples) sample.metrics known key alert stored
      exact ⟨Int.le_trans recent last, sound⟩

/-- The last sample of a run bounds its times. -/
theorem steady_bounded {samples : List (Sample D)}
    (steady : samples.Pairwise fun earlier later => earlier.time ≤ later.time) :
    ∃ now, ∀ sample ∈ samples, sample.time ≤ now := by
  rcases List.eq_nil_or_concat samples with rfl | ⟨past, last, rfl⟩
  · exact ⟨0, by simp⟩
  · rw [List.concat_eq_append] at steady ⊢
    obtain ⟨_, _, order⟩ := List.pairwise_append.mp steady
    refine ⟨last.time, ?_⟩
    intro sample member
    rcases List.mem_append.mp member with earlier | final
    · exact order sample earlier last (by simp)
    · obtain rfl := List.mem_singleton.mp final
      exact Int.le_refl _

/-- An update keeps every entry under its key. -/
theorem entry_update (now : Int) (metrics : SystemMetrics D) {manager : AlertManager D}
    {key : Bytes} {old : ManagedAlert D} (stored : manager.alerts.lookup key = some old) :
    ∃ later, (update now metrics manager).2.alerts.lookup key = some later ∧
      SameAlert old later := by
  by_cases own : ∃ metric, Breaches manager.settings metric metrics ∧
      makeKey metrics.hostname metric.name = key
  · obtain ⟨metric, breach, rfl⟩ := own
    have touched := cell_update_breach now metrics manager metric breach
    rw [cell, cell, stored] at touched
    exact ⟨_, touched, ⟨rfl, rfl, rfl, rfl, rfl⟩⟩
  · push Not at own
    rw [lookup_update_calm now metrics manager key own, stored]
    exact ⟨calm old, rfl, sameAlert_calm old⟩

/-- A run never removes an entry. -/
theorem entry_reached (settings : AlertSettings D) (past more : List (Sample D)) {key : Bytes}
    {old : ManagedAlert D} (stored : (reached settings past).alerts.lookup key = some old) :
    ∃ later, (reached settings (past ++ more)).alerts.lookup key = some later ∧
      SameAlert old later := by
  induction more using List.reverseRecOn with
  | nil => exact ⟨old, by rwa [List.append_nil], SameAlert.refl old⟩
  | append_singleton more sample ih =>
      obtain ⟨middle, found, same⟩ := ih
      obtain ⟨later, kept, next⟩ := entry_update sample.time sample.metrics found
      rw [← List.append_assoc, reached_snoc]
      exact ⟨later, kept, same.trans next⟩

omit [Double D] in
/-- An alert fires newly exactly when it is due. -/
theorem mem_newlyFiring {fireDuration now : Int} {alert : Alert D} {old : ManagedAlert D}
    {fired : ManagedAlert D} :
    fired ∈ newlyFiring fireDuration now alert (some old) ↔
      Due fireDuration now old ∧ fired = touch fireDuration now alert (some old) := by
  simp only [newlyFiring]
  split <;> simp [*]

/-- The update returns the entries that it moved to firing. -/
theorem mem_update_iff (now : Int) (metrics : SystemMetrics D) (manager : AlertManager D)
    (fired : ManagedAlert D) :
    fired ∈ (update now metrics manager).1 ↔
      MovedToFiring manager (update now metrics manager).2 fired := by
  rw [mem_update]
  constructor
  · intro given
    obtain ⟨metric, breach, member⟩ := given
    have touched := cell_update_breach now metrics manager metric breach
    cases stored : manager.cell metrics.hostname metric with
    | none => simp [stored, newlyFiring] at member
    | some old =>
        rw [stored] at member touched
        obtain ⟨due, rfl⟩ := mem_newlyFiring.mp member
        exact ⟨_, old, stored, due.2, touched, touch_firing _ _ _ _ (.inr due)⟩
  · intro given
    obtain ⟨key, old, stored, quiet, after, firing⟩ := given
    rcases lookup_update_cases after with ⟨metric, breach, rfl, rfl⟩ | ⟨other, before, rfl⟩
    · rw [stored] at firing ⊢
      refine ⟨metric, breach, ?_⟩
      rw [cell, stored, mem_newlyFiring]
      refine ⟨?_, rfl⟩
      by_contra early
      simp only [touch, early, if_false] at firing
      exact quiet firing
    · rw [calm_state] at firing
      split at firing
      · contradiction
      · contradiction

omit [Double D] in
/-- A returned entry is the cell of the sample and of a metric. -/
theorem newlyFiring_names {manager : AlertManager D} (keyed : manager.WellKeyed) {now : Int}
    {hostname : Bytes} {metric : Metric} {raw : Alert D} {fired : ManagedAlert D}
    (member : fired ∈ newlyFiring manager.fireDuration now raw (manager.cell hostname metric)) :
    fired.hostname = hostname ∧ fired.metric = metric.name := by
  cases stored : manager.cell hostname metric with
  | none => simp [stored, newlyFiring] at member
  | some old =>
      rw [stored] at member
      obtain ⟨_, rfl⟩ := mem_newlyFiring.mp member
      have names := cell_names keyed stored
      exact names

/-- The update returns no entry twice. -/
theorem update_nodup (now : Int) (metrics : SystemMetrics D) {manager : AlertManager D}
    (keyed : manager.WellKeyed) : (update now metrics manager).1.Nodup := by
  rw [(update_eq now metrics manager).1, detect_result _ _ _ _ (rawAlerts_distinct _ _),
    List.nil_append, rawAlerts, List.flatMap_map, List.nodup_flatMap]
  constructor
  · intro metric _
    change (newlyFiring _ _ _ (manager.cell metrics.hostname metric)).Nodup
    cases manager.cell metrics.hostname metric with
    | none => exact List.nodup_nil
    | some old =>
        simp only [newlyFiring]
        split <;> simp
  · have distinct : (Metric.all.filter fun metric =>
        Breaches manager.settings metric metrics).Nodup := List.Nodup.filter _ (by decide)
    apply distinct.imp
    intro first second different fired left right
    have firstName : fired.metric = first.name := (newlyFiring_names keyed left).2
    have secondName : fired.metric = second.name := (newlyFiring_names keyed right).2
    exact different (Metric.name_injective (firstName.symm.trans secondName))

/-- In every state of a run with a steady clock, the entries are sound and each cell belongs to one
pair of a host and a metric. The run removes no entry and keeps its fixed members, and each update
returns the entries that it moves to firing, each once and all of the host of the sample. -/
theorem alertTable_invariant (settings : AlertSettings D) (run : SteadyRun D) :
    (∀ key alert, (reached settings run.samples).alerts.lookup key = some alert →
      SoundEntry settings key alert) ∧
    (∀ hostname metric alert, (reached settings run.samples).cell hostname metric = some alert →
      alert.hostname = hostname ∧ alert.metric = metric.name) ∧
    (∀ past key old, past <+: run.samples →
      (reached settings past).alerts.lookup key = some old →
      ∃ later, (reached settings run.samples).alerts.lookup key = some later ∧
        SameAlert old later) ∧
    (∀ past sample, past ++ [sample] <+: run.samples →
      let before := reached settings past
      let (fired, after) := update sample.time sample.metrics before
      fired.Nodup ∧ (∀ alert ∈ fired, alert.hostname = sample.metrics.hostname) ∧
        ∀ alert, alert ∈ fired ↔ MovedToFiring before after alert) := by
  refine ⟨?_, ?_, ?_, ?_⟩
  · intro key alert stored
    obtain ⟨now, past⟩ := steady_bounded run.steady
    exact (soundTable_reached settings run.samples run.steady past key alert stored).2
  · intro hostname metric alert stored
    exact cell_names (wellKeyed_reached settings run.samples) stored
  · intro past key old part stored
    obtain ⟨more, whole⟩ := part
    rw [← whole]
    exact entry_reached settings past more stored
  · intro past sample _
    have keyed := wellKeyed_reached settings past
    refine ⟨update_nodup sample.time sample.metrics keyed, ?_, ?_⟩
    · intro alert member
      obtain ⟨metric, _, newly⟩ := (mem_update _ _ _ _).mp member
      exact (newlyFiring_names keyed newly).1
    · exact mem_update_iff sample.time sample.metrics (reached settings past)

end LMonitor.AlertManager

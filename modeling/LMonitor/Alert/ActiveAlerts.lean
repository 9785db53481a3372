import LMonitor.Alert.AlertIsolation

namespace LMonitor.AlertManager
open Library
variable {D : Type} [Double D]

/-- The active list holds an entry for the host and the metric. -/
def Listed (manager : AlertManager D) (hostname : Bytes) (metric : Metric) : Prop :=
  ∃ alert ∈ getActiveAlerts manager, alert.hostname = hostname ∧ alert.metric = metric.name

/-- This function finds the most recent sample of a host. -/
def mostRecent (samples : List (Sample D)) (hostname : Bytes) : Option (Sample D) :=
  (samples.filter fun sample => sample.metrics.hostname = hostname).getLast?

/-- The most recent sample of the host breached the metric. -/
def LastBreached (settings : AlertSettings D) (samples : List (Sample D)) (hostname : Bytes)
    (metric : Metric) : Prop :=
  ∃ sample ∈ mostRecent samples hostname, Breaches settings metric sample.metrics

/-- The active list names exactly the metrics that the most recent samples breached. -/
def ListMatches (settings : AlertSettings D) (samples : List (Sample D)) : Prop :=
  ∀ hostname metric, Listed (reached settings samples) hostname metric ↔
    LastBreached settings samples hostname metric

/-- A calm metric of the sample has no pending entry, and no entry of another host fires. -/
def SettledBefore (metrics : SystemMetrics D) (manager : AlertManager D) : Prop :=
  (∀ metric alert, ¬ Breaches manager.settings metric metrics →
      manager.cell metrics.hostname metric = some alert → alert.state ≠ .pending) ∧
    NoForeignFiring metrics manager

theorem mostRecent_snoc (samples : List (Sample D)) (sample : Sample D) (hostname : Bytes) :
    mostRecent (samples ++ [sample]) hostname =
      if sample.metrics.hostname = hostname then some sample else mostRecent samples hostname := by
  simp only [mostRecent, List.filter_append]
  split <;> simp [*]

/-- A sample decides the metrics of its own host and leaves those of the other hosts. -/
theorem lastBreached_snoc (settings : AlertSettings D) (samples : List (Sample D))
    (sample : Sample D) (hostname : Bytes) (metric : Metric) :
    LastBreached settings (samples ++ [sample]) hostname metric ↔
      if sample.metrics.hostname = hostname then Breaches settings metric sample.metrics
      else LastBreached settings samples hostname metric := by
  simp only [LastBreached, mostRecent_snoc]
  split <;> simp

omit [Double D] in
/-- The active list shows the cells that are not normal. -/
theorem listed_iff {manager : AlertManager D} (keyed : manager.WellKeyed) (hostname : Bytes)
    (metric : Metric) :
    Listed manager hostname metric ↔
      ∃ alert, manager.cell hostname metric = some alert ∧ alert.state ≠ .normal := by
  simp only [Listed, getActiveAlerts, List.mem_filter, UnorderedMap.mem_values,
    decide_eq_true_eq]
  constructor
  · intro given
    obtain ⟨alert, ⟨⟨key, stored⟩, active⟩, rfl, name⟩ := given
    obtain ⟨other, sameName, rfl⟩ := keyed key alert stored
    obtain rfl : metric = other := Metric.name_injective (name.symm.trans sameName)
    exact ⟨alert, stored, active⟩
  · intro given
    obtain ⟨alert, stored, active⟩ := given
    exact ⟨alert, ⟨⟨_, stored⟩, active⟩, cell_names keyed stored⟩

/-- An entry that already fired once stays old enough to fire again. -/
def FiredInTime (settings : AlertSettings D) (samples : List (Sample D)) : Prop :=
  ∀ hostname metric alert, (reached settings samples).cell hostname metric = some alert →
    (∃ sample ∈ samples, sample.time = alert.lastUpdate) ∧
      (alert.state ≠ .pending →
        settings.fireDuration ≤ durationCastSeconds (alert.lastUpdate - alert.firstDetected))

/-- A longer duration has no fewer whole seconds. -/
theorem durationCastSeconds_mono {shorter longer : Int} (le : shorter ≤ longer) :
    durationCastSeconds shorter ≤ durationCastSeconds longer :=
  Int.tdiv_le_tdiv (by decide) le

/-- In a run with steady time, every alert fires in time. -/
theorem firedInTime_reached (settings : AlertSettings D) (samples : List (Sample D))
    (steady : samples.Pairwise fun earlier later => earlier.time ≤ later.time) :
    FiredInTime settings samples := by
  induction samples using List.reverseRecOn with
  | nil =>
      intro hostname metric alert stored
      cases stored
  | append_singleton samples sample ih =>
      obtain ⟨before, _, order⟩ := List.pairwise_append.mp steady
      intro hostname metric alert stored
      rw [cell_reached_snoc] at stored
      split at stored
      · rw [Option.some.injEq] at stored
        subst stored
        cases old : (reached settings samples).cell hostname metric with
        | none => simp [touch]
        | some managed =>
            obtain ⟨⟨earlier, member, time⟩, aged⟩ := ih before hostname metric managed old
            have later := order earlier member sample (by simp)
            refine ⟨by simp [touch], ?_⟩
            simp only [touch]
            split
            · rename_i due
              exact fun _ => due.1
            · intro active
              exact Int.le_trans (aged active) (durationCastSeconds_mono (by omega))
      · obtain ⟨managed, old, rfl⟩ := Option.map_eq_some_iff.mp stored
        obtain ⟨⟨earlier, member, time⟩, aged⟩ := ih before hostname metric managed old
        refine ⟨⟨earlier, by simp [member], by simpa using time⟩, ?_⟩
        rw [calm_state, calm_lastUpdate, calm_firstDetected]
        intro active
        apply aged
        intro pending
        simp [pending] at active

/-- A breach leaves its cell pending or firing. -/
theorem touch_active (settings : AlertSettings D) (samples : List (Sample D)) (sample : Sample D)
    (steady : (samples ++ [sample]).Pairwise fun earlier later => earlier.time ≤ later.time)
    (hostname : Bytes) (metric : Metric) (alert : Alert D) :
    (touch settings.fireDuration sample.time alert
      ((reached settings samples).cell hostname metric)).state ≠ .normal := by
  obtain ⟨before, _, order⟩ := List.pairwise_append.mp steady
  cases old : (reached settings samples).cell hostname metric with
  | none => simp [touch]
  | some managed =>
      obtain ⟨⟨earlier, member, time⟩, aged⟩ :=
        firedInTime_reached settings samples before hostname metric managed old
      have later := order earlier member sample (by simp)
      simp only [touch]
      split
      · simp
      · rename_i early
        intro normal
        -- A normal entry was firing before, hence it is due at once.
        have old := aged (by simp [normal])
        exact early ⟨Int.le_trans old (durationCastSeconds_mono (by omega)), by simp [normal]⟩

/-- One settled sample keeps the list in step with the samples. -/
theorem listMatches_snoc (settings : AlertSettings D) (samples : List (Sample D))
    (sample : Sample D)
    (steady : (samples ++ [sample]).Pairwise fun earlier later => earlier.time ≤ later.time)
    (settled : SettledBefore sample.metrics (reached settings samples))
    (known : ListMatches settings samples) : ListMatches settings (samples ++ [sample]) := by
  intro hostname metric
  have keyed := wellKeyed_reached settings samples
  rw [listed_iff (wellKeyed_reached settings _), lastBreached_snoc, cell_reached_snoc]
  by_cases own : sample.metrics.hostname = hostname
  · by_cases breach : Breaches settings metric sample.metrics
    · have active := touch_active settings samples sample steady hostname metric
        (rawAlert settings sample.metrics metric)
      simpa [BreachOf, own, breach] using active
    · simp only [BreachOf, own, breach, and_false, if_false, if_true, iff_false]
      intro given
      obtain ⟨alert, stored, active⟩ := given
      obtain ⟨old, before, rfl⟩ := Option.map_eq_some_iff.mp stored
      have quiet := settled.1 metric old (by simpa using breach) (by rwa [own])
      rw [calm_state] at active
      cases state : old.state <;> simp_all
  · rw [if_neg own, ← known hostname metric, listed_iff keyed, if_neg fun breach => own breach.1]
    constructor
    · intro given
      obtain ⟨alert, stored, active⟩ := given
      obtain ⟨old, before, rfl⟩ := Option.map_eq_some_iff.mp stored
      refine ⟨old, before, ?_⟩
      rw [calm_state] at active
      intro normal
      simp [normal] at active
    · intro given
      obtain ⟨old, before, active⟩ := given
      have foreign : old.hostname ≠ sample.metrics.hostname := by
        rw [(cell_names keyed before).1]
        exact fun same => own same.symm
      have quiet := (calm_eq_self_iff old).mpr (settled.2 _ old before foreign)
      exact ⟨old, by rw [before, Option.map_some, quiet], active⟩

/-- A list that stays in step shows that the sample was settled. -/
theorem settled_of_listMatches (settings : AlertSettings D) (samples : List (Sample D))
    (sample : Sample D) (before : ListMatches settings samples)
    (after : ListMatches settings (samples ++ [sample])) :
    SettledBefore sample.metrics (reached settings samples) := by
  have keyed := wellKeyed_reached settings samples
  have keyedAfter := wellKeyed_reached settings (samples ++ [sample])
  constructor
  · intro metric alert quiet stored pending
    rw [settings_reached] at quiet
    have listed :
        Listed (reached settings (samples ++ [sample])) sample.metrics.hostname metric := by
      rw [listed_iff keyedAfter, cell_reached_snoc, if_neg fun breach => quiet breach.2, stored]
      exact ⟨calm alert, rfl, by simp [calm_state, pending]⟩
    have breached := (after _ metric).mp listed
    rw [lastBreached_snoc, if_pos rfl] at breached
    exact quiet breached
  · intro key alert stored foreign firing
    obtain ⟨metric, _, rfl⟩ := keyed key alert stored
    have other : sample.metrics.hostname ≠ alert.hostname := foreign.symm
    have listed := (before alert.hostname metric).mp
      ((listed_iff keyed _ _).mpr ⟨alert, stored, by simp [firing]⟩)
    have still := (after alert.hostname metric).mpr (by rwa [lastBreached_snoc, if_neg other])
    rw [listed_iff keyedAfter, cell_reached_snoc, if_neg fun breach => other breach.1, cell,
      stored] at still
    simp [calm_state, firing] at still

/-- The list matches after every part of a run exactly when every sample of the run was settled. -/
theorem activeAlerts_iff (settings : AlertSettings D) (run : SteadyRun D) :
    (∀ past, past <+: run.samples → ListMatches settings past) ↔
      ∀ past sample, past ++ [sample] <+: run.samples →
        SettledBefore sample.metrics (reached settings past) := by
  constructor
  · intro agree past sample part
    exact settled_of_listMatches settings past sample
      (agree past ((List.prefix_append past [sample]).trans part)) (agree _ part)
  · intro settled past
    induction past using List.reverseRecOn with
    | nil =>
        intro _ hostname metric
        rw [listed_iff (wellKeyed_reached settings [])]
        constructor
        · intro given
          obtain ⟨alert, stored, _⟩ := given
          cases stored
        · intro given
          obtain ⟨sample, found, _⟩ := given
          cases found
    | append_singleton past sample ih =>
        intro part
        have steady := run.steady.sublist part.sublist
        exact listMatches_snoc settings past sample steady (settled past sample part)
          (ih ((List.prefix_append past [sample]).trans part))

/-- Host `a` breaches its processor threshold once and is calm a second later. -/
def recoveredSamples : List (Sample Int) :=
  [⟨0, { hostname := ascii "a", cpuUsagePercent := Double.ofNat 95 }⟩,
    ⟨1000000000, { hostname := ascii "a" }⟩]

/-- The recovered metric is still listed as pending. -/
theorem recovered_metric_listed : ¬ ListMatches defaultSettings recoveredSamples := by
  intro agree
  have listed : Listed (reached defaultSettings recoveredSamples) (ascii "a") .cpu :=
    ⟨⟨ascii "a", ascii "cpu", .warning, .pending, Double.ofNat 95, Double.ofNat 80,
      ascii "CPU usage exceeded warning threshold", 0, 0⟩, by decide, rfl, rfl⟩
  obtain ⟨sample, found, breach⟩ := (agree (ascii "a") .cpu).mp listed
  have last : sample = ⟨1000000000, { hostname := ascii "a" }⟩ := by
    simpa [mostRecent, recoveredSamples, eq_comm] using found
  rw [last] at breach
  revert breach
  decide

end LMonitor.AlertManager

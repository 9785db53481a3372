import LMonitor.Alert.AlertIsolation

namespace LMonitor.AlertManager
open Library
variable {D : Type} [Double D]

/-- Every sample of the host in this part of a run breaches the metric. -/
def InBreach (settings : AlertSettings D) (hostname : Bytes) (metric : Metric)
    (samples : List (Sample D)) : Prop :=
  ∀ sample ∈ samples, sample.metrics.hostname = hostname →
    Breaches settings metric sample.metrics

/-- An old enough sample of the host starts a breach that lasts to the end of the past. -/
def LongBreach (settings : AlertSettings D) (hostname : Bytes) (metric : Metric)
    (past : List (Sample D)) (now : Int) : Prop :=
  ∃ before start after, past = before ++ start :: after ∧ start.metrics.hostname = hostname ∧
    start.time + fireTime settings ≤ now ∧ InBreach settings hostname metric (start :: after)

/-- Each alert that the run returns as newly firing had a long breach. -/
def FiresAfterBreach (settings : AlertSettings D) (run : List (Sample D)) : Prop :=
  ∀ past sample rest, run = past ++ sample :: rest →
    ∀ fired ∈ (update sample.time sample.metrics (reached settings past)).1,
      ∃ metric : Metric, fired.hostname = sample.metrics.hostname ∧ fired.metric = metric.name ∧
        Breaches settings metric sample.metrics ∧
        LongBreach settings sample.metrics.hostname metric past sample.time

/-- A metric that breached, was calm and breaches again this long after the first of the two
breaches has been in breach again for the whole duration. -/
def NoEarlyRelapse (settings : AlertSettings D) (run : List (Sample D)) : Prop :=
  ∀ hostname metric before first between recovered since sample rest,
    run = before ++ first :: (between ++ recovered :: (since ++ sample :: rest)) →
    BreachOf settings hostname metric first →
    recovered.metrics.hostname = hostname → ¬ Breaches settings metric recovered.metrics →
    BreachOf settings hostname metric sample →
    first.time + fireTime settings ≤ sample.time →
    ∃ start ∈ since, start.metrics.hostname = hostname ∧
      start.time + fireTime settings ≤ sample.time

/-- A truncated duration reaches a number of seconds exactly when the duration does. -/
theorem fireDuration_le_iff (fireDuration elapsed : Int) (nonneg : 0 ≤ elapsed) :
    fireDuration ≤ durationCastSeconds elapsed ↔
      fireDuration * nanosecondsPerSecond ≤ elapsed := by
  simp only [durationCastSeconds, nanosecondsPerSecond, Int.tdiv_eq_ediv_of_nonneg nonneg]
  omega

/-- A cell that is due saw its first breach long enough ago. -/
theorem due_first (settings : AlertSettings D) (past : List (Sample D)) (now : Int)
    (order : ∀ sample ∈ past, sample.time ≤ now) (hostname : Bytes) (metric : Metric)
    (alert : ManagedAlert D) (stored : (reached settings past).cell hostname metric = some alert) :
    ∃ before first after, past = before ++ first :: after ∧
      BreachOf settings hostname metric first ∧
      (∀ sample ∈ before, ¬ BreachOf settings hostname metric sample) ∧
      (Due settings.fireDuration now alert ↔
        first.time + fireTime settings ≤ now ∧ alert.state ≠ .firing) := by
  have detected := firstDetected_reached settings past hostname metric
  rw [stored, Option.map_some, eq_comm] at detected
  obtain ⟨first, found, time⟩ := Option.map_eq_some_iff.mp detected
  obtain ⟨breach, before, after, split, none⟩ := List.find?_eq_some_iff_append.mp found
  refine ⟨before, first, after, split, by simpa using breach, by simpa using none, ?_⟩
  have earlier := order first (by simp [split])
  have old := fireDuration_le_iff settings.fireDuration (now - first.time) (by omega)
  rw [Due, ← time, old, fireTime]
  constructor
  · intro given
    obtain ⟨aged, quiet⟩ := given
    exact ⟨by omega, quiet⟩
  · intro given
    obtain ⟨aged, quiet⟩ := given
    exact ⟨by omega, quiet⟩

/-- A newly firing alert is the cell of a breach that was due. -/
theorem fired_cases (settings : AlertSettings D) (past : List (Sample D)) (sample : Sample D)
    (fired : ManagedAlert D) :
    fired ∈ (update sample.time sample.metrics (reached settings past)).1 ↔
      ∃ metric alert, Breaches settings metric sample.metrics ∧
        (reached settings past).cell sample.metrics.hostname metric = some alert ∧
        Due settings.fireDuration sample.time alert ∧
        fired = touch settings.fireDuration sample.time (rawAlert settings sample.metrics metric)
          (some alert) := by
  rw [mem_update]
  simp only [settings_reached, fireDuration_reached]
  constructor
  · intro given
    obtain ⟨metric, breach, member⟩ := given
    cases stored : (reached settings past).cell sample.metrics.hostname metric with
    | none => simp [stored, newlyFiring] at member
    | some alert =>
        rw [stored, newlyFiring] at member
        split at member
        · rename_i due
          exact ⟨metric, alert, breach, stored, due, by simpa using member⟩
        · simp at member
  · intro given
    obtain ⟨metric, alert, breach, stored, due, rfl⟩ := given
    exact ⟨metric, breach, by simp [stored, newlyFiring, due]⟩

/-- A run without early relapse fires only after long breaches. -/
theorem firesAfterBreach_of_noEarlyRelapse (settings : AlertSettings D) (run : List (Sample D))
    (steady : run.Pairwise fun earlier later => earlier.time ≤ later.time)
    (noRelapse : NoEarlyRelapse settings run) : FiresAfterBreach settings run := by
  rintro past sample rest rfl fired member
  obtain ⟨metric, alert, breach, stored, due, rfl⟩ :=
    (fired_cases settings past sample fired).mp member
  have order : ∀ earlier ∈ past, earlier.time ≤ sample.time := fun earlier member =>
    (List.pairwise_append.mp steady).2.2 earlier member sample (by simp)
  obtain ⟨before, first, after, rfl, firstBreach, _, dueIff⟩ :=
    due_first settings past sample.time order _ metric alert stored
  have aged := (dueIff.mp due).1
  obtain ⟨host, name⟩ := cell_names (wellKeyed_reached settings _) stored
  refine ⟨metric, host, name, breach, ?_⟩
  by_cases calmed : ∃ recovered ∈ after, recovered.metrics.hostname = sample.metrics.hostname ∧
      ¬ Breaches settings metric recovered.metrics
  · -- The samples after the last calm one carry the breach.
    obtain ⟨between, recovered, since, rfl, ⟨recoveredHost, calm⟩, none⟩ :=
      exists_last _ after calmed
    obtain ⟨start, inSince, startHost, old⟩ := noRelapse sample.metrics.hostname metric before first
      between recovered since sample rest (by simp) firstBreach recoveredHost calm ⟨rfl, breach⟩
      aged
    obtain ⟨left, right, rfl⟩ := List.append_of_mem inSince
    refine ⟨before ++ first :: (between ++ recovered :: left), start, right, by simp, startHost,
      old, ?_⟩
    intro later inBlock laterHost
    by_contra quiet
    exact none later (List.mem_append_right left inBlock) ⟨laterHost, quiet⟩
  · refine ⟨before, first, after, rfl, firstBreach.1, aged, ?_⟩
    intro later inBlock laterHost
    rcases List.mem_cons.mp inBlock with rfl | inAfter
    · exact firstBreach.2
    · by_contra quiet
      exact calmed ⟨later, inAfter, laterHost, quiet⟩

/-- A long breach starts after every calm sample of its host. -/
theorem longBreach_start (settings : AlertSettings D) (hostname : Bytes) (metric : Metric)
    (before since : List (Sample D)) (recovered : Sample D) (now : Int)
    (host : recovered.metrics.hostname = hostname)
    (calm : ¬ Breaches settings metric recovered.metrics)
    (long : LongBreach settings hostname metric (before ++ recovered :: since) now) :
    ∃ start ∈ since, start.metrics.hostname = hostname ∧ start.time + fireTime settings ≤ now := by
  obtain ⟨left, start, right, split, startHost, old, breach⟩ := long
  refine ⟨start, ?_, startHost, old⟩
  rcases List.append_eq_append_iff.mp split with ⟨part, rfl, tail⟩ | ⟨part, rfl, tail⟩
  · cases part with
    | nil =>
        obtain ⟨rfl, rfl⟩ : recovered = start ∧ since = right := by simpa using tail
        exact absurd (breach recovered (by simp) host) calm
    | cons head part =>
        obtain ⟨_, rfl⟩ : recovered = head ∧ since = part ++ start :: right := by simpa using tail
        simp
  · have inBlock : recovered ∈ start :: right := by simp [tail]
    exact absurd (breach recovered inBlock host) calm

/-- No sample fires while every sample since the last calm one is too recent. -/
theorem not_due_since (settings : AlertSettings D) (run : List (Sample D))
    (fires : FiresAfterBreach settings run) (hostname : Bytes) (metric : Metric)
    (before since rest : List (Sample D)) (recovered sample : Sample D)
    (split : run = before ++ recovered :: (since ++ sample :: rest))
    (host : recovered.metrics.hostname = hostname)
    (calm : ¬ Breaches settings metric recovered.metrics)
    (breach : BreachOf settings hostname metric sample)
    (recent : ∀ start ∈ since, start.metrics.hostname = hostname →
      sample.time < start.time + fireTime settings)
    (alert : ManagedAlert D)
    (stored : (reached settings (before ++ recovered :: since)).cell hostname metric = some alert) :
    ¬ Due settings.fireDuration sample.time alert := by
  intro due
  obtain ⟨rfl, breached⟩ := breach
  have member := (fired_cases settings (before ++ recovered :: since) sample _).mpr
    ⟨metric, alert, breached, stored, due, rfl⟩
  obtain ⟨other, _, name, _, long⟩ :=
    fires (before ++ recovered :: since) sample rest (by simp [split]) _ member
  obtain rfl : metric = other :=
    Metric.name_injective ((cell_names (wellKeyed_reached settings _) stored).2.symm.trans name)
  obtain ⟨start, inSince, startHost, old⟩ :=
    longBreach_start settings _ metric before since recovered sample.time host calm long
  have := recent start inSince startHost
  omega

/-- The cell stays quiet from its last calm sample on while the new breach is too recent. -/
theorem quiet_since (settings : AlertSettings D) (run : List (Sample D))
    (fires : FiresAfterBreach settings run) (hostname : Bytes) (metric : Metric)
    (before rest : List (Sample D)) (recovered : Sample D) (now : Int)
    (host : recovered.metrics.hostname = hostname)
    (calmed : ¬ Breaches settings metric recovered.metrics)
    (since : List (Sample D)) (split : run = before ++ recovered :: (since ++ rest))
    (order : ∀ sample ∈ since, sample.time ≤ now)
    (recent : ∀ start ∈ since, start.metrics.hostname = hostname →
      now < start.time + fireTime settings)
    (alert : ManagedAlert D)
    (stored : (reached settings (before ++ recovered :: since)).cell hostname metric = some alert) :
    alert.state ≠ .firing := by
  induction since using List.reverseRecOn generalizing rest alert with
  | nil =>
      rw [cell_reached_snoc, if_neg fun breach => calmed breach.2] at stored
      obtain ⟨old, _, rfl⟩ := Option.map_eq_some_iff.mp stored
      rw [calm_state]
      split <;> simp [*]
  | append_singleton since sample ih =>
      have shorter := ih (sample :: rest) (by simpa using split)
        (fun earlier member => order earlier (by simp [member]))
        (fun start member => recent start (by simp [member]))
      rw [← List.cons_append, ← List.append_assoc, cell_reached_snoc] at stored
      split at stored
      · rename_i breach
        rw [Option.some.injEq] at stored
        subst stored
        cases old : (reached settings (before ++ recovered :: since)).cell hostname metric with
        | none => simp [touch]
        | some managed =>
            have early := not_due_since settings run fires hostname metric before since rest
              recovered sample (by simpa using split) host calmed breach
              (fun start member startHost => by
                have := recent start (by simp [member]) startHost
                have := order sample (by simp)
                omega) managed old
            simpa [touch, early] using shorter managed old
      · obtain ⟨old, before, rfl⟩ := Option.map_eq_some_iff.mp stored
        rw [calm_state]
        split <;> simp [*]

/-- The first breach of a past is not later than any other breach of it. -/
theorem first_le_breach (settings : AlertSettings D) {hostname : Bytes} {metric : Metric}
    {front back : List (Sample D)} {oldest sample : Sample D}
    (steady : (front ++ oldest :: back).Pairwise fun earlier later => earlier.time ≤ later.time)
    (absent : ∀ earlier ∈ front, ¬ BreachOf settings hostname metric earlier)
    (member : sample ∈ front ++ oldest :: back)
    (breach : BreachOf settings hostname metric sample) : oldest.time ≤ sample.time := by
  rcases List.mem_append.mp member with inFront | inBack
  · exact absurd breach (absent sample inFront)
  · have tail := (List.pairwise_append.mp steady).2.1
    rcases List.mem_cons.mp inBack with rfl | inBack
    · exact Int.le_refl _
    · exact (List.pairwise_cons.mp tail).1 sample inBack

/-- A run that fires only after long breaches has no early relapse. -/
theorem noEarlyRelapse_of_firesAfterBreach (settings : AlertSettings D) (run : List (Sample D))
    (steady : run.Pairwise fun earlier later => earlier.time ≤ later.time)
    (fires : FiresAfterBreach settings run) : NoEarlyRelapse settings run := by
  intro hostname metric before first between recovered since sample rest split firstBreach host
    calmed breach aged
  by_contra short
  push Not at short
  have recent : ∀ start ∈ since, start.metrics.hostname = hostname →
      sample.time < start.time + fireTime settings := by
    intro start member startHost
    have early := short start member startHost
    omega
  have whole :
      run = (before ++ first :: between) ++ recovered :: (since ++ sample :: rest) := by
    rw [split]
    simp
  set past := (before ++ first :: between) ++ recovered :: since with pastEq
  have divided : run = past ++ sample :: rest := by
    rw [whole, pastEq]
    simp
  have inPast : first ∈ past := by
    simp [pastEq]
  rw [divided] at steady
  obtain ⟨pastSteady, _, order⟩ := List.pairwise_append.mp steady
  have ordered : ∀ earlier ∈ past, earlier.time ≤ sample.time := fun earlier member =>
    order earlier member sample (by simp)
  obtain ⟨alert, stored⟩ := cell_of_breach settings inPast firstBreach
  have quiet := quiet_since settings run fires hostname metric (before ++ first :: between)
    (sample :: rest) recovered sample.time host calmed since whole
    (fun earlier member => ordered earlier (by simp [pastEq, member])) recent alert stored
  -- The table still dates the breach from its very first detection.
  obtain ⟨front, oldest, back, cut, _, absent, dueIff⟩ :=
    due_first settings past sample.time ordered hostname metric alert stored
  rw [cut] at pastSteady inPast
  have oldestTime := first_le_breach settings pastSteady absent inPast firstBreach
  exact not_due_since settings run fires hostname metric (before ++ first :: between) since rest
    recovered sample whole host calmed breach recent alert stored (dueIff.mpr ⟨by omega, quiet⟩)

/-- A run fires only after long breaches exactly when it has no early relapse. -/
theorem continuity_iff (settings : AlertSettings D) (run : SteadyRun D) :
    FiresAfterBreach settings run.samples ↔ NoEarlyRelapse settings run.samples :=
  ⟨noEarlyRelapse_of_firesAfterBreach settings run.samples run.steady,
    firesAfterBreach_of_noEarlyRelapse settings run.samples run.steady⟩

/-- Host `a` breaches, is calm a second later and breaches again after five seconds. -/
def relapseSamples : List (Sample Int) :=
  [⟨0, { hostname := ascii "a", cpuUsagePercent := Double.ofNat 95 }⟩,
    ⟨1000000000, { hostname := ascii "a" }⟩]

def relapse : Sample Int :=
  ⟨5000000000, { hostname := ascii "a", cpuUsagePercent := Double.ofNat 95 }⟩

/-- The relapse fires at once, although its breach has only begun. -/
theorem relapse_fires_early :
    ¬ FiresAfterBreach defaultSettings (relapseSamples ++ [relapse]) := by
  intro fires
  obtain ⟨metric, _, name, _, long⟩ := fires relapseSamples relapse [] rfl
    ⟨ascii "a", ascii "cpu", .warning, .firing, Double.ofNat 95, Double.ofNat 80,
      ascii "CPU usage exceeded warning threshold", 0, 5000000000⟩ (by decide)
  obtain rfl : Metric.cpu = metric := Metric.name_injective name
  obtain ⟨start, inSince, _⟩ := longBreach_start defaultSettings _ .cpu
    [⟨0, { hostname := ascii "a", cpuUsagePercent := Double.ofNat 95 }⟩] []
    ⟨1000000000, { hostname := ascii "a" }⟩ _ rfl (by decide) long
  simp at inSince

end LMonitor.AlertManager

import LMonitor.Alert.AlertContinuity

namespace LMonitor.AlertManager
open Library
variable {D : Type} [Double D]

/-- A breach that lasted long enough has a firing entry after each further sample of it. -/
def LongBreachesFire (settings : AlertSettings D) (run : List (Sample D)) : Prop :=
  ∀ past sample rest, run = past ++ sample :: rest →
    ∀ metric, Breaches settings metric sample.metrics →
      LongBreach settings sample.metrics.hostname metric past sample.time →
      ∃ alert, (reached settings (past ++ [sample])).cell sample.metrics.hostname metric =
        some alert ∧ alert.state = .firing

/-- The entry of a long breach fires already, or its first detection is old enough. -/
theorem firing_or_due (settings : AlertSettings D) (past : List (Sample D)) (now : Int)
    (steady : past.Pairwise fun earlier later => earlier.time ≤ later.time)
    (order : ∀ sample ∈ past, sample.time ≤ now) (hostname : Bytes) (metric : Metric)
    (long : LongBreach settings hostname metric past now) :
    ∃ alert, (reached settings past).cell hostname metric = some alert ∧
      (alert.state = .firing ∨ Due settings.fireDuration now alert) := by
  obtain ⟨before, start, after, rfl, host, aged, breaches⟩ := long
  have member : start ∈ before ++ start :: after := by simp
  have breach : BreachOf settings hostname metric start := ⟨host, breaches start (by simp) host⟩
  obtain ⟨alert, stored⟩ := cell_of_breach settings member breach
  refine ⟨alert, stored, ?_⟩
  by_cases firing : alert.state = .firing
  · exact .inl firing
  · -- No transition moves the first detection, so it is not later than the start of the breach.
    obtain ⟨front, first, back, split, _, absent, dueIff⟩ :=
      due_first settings _ now order hostname metric alert stored
    rw [split] at steady member
    have earliest := first_le_breach settings steady absent member breach
    exact .inr (dueIff.mpr ⟨by omega, firing⟩)

/-- No run misses a long breach, whatever its other hosts send. -/
theorem longBreachesFire (settings : AlertSettings D) (run : SteadyRun D) :
    LongBreachesFire settings run.samples := by
  intro past sample rest split metric breach long
  have steady := run.steady
  rw [split] at steady
  obtain ⟨pastSteady, _, order⟩ := List.pairwise_append.mp steady
  obtain ⟨alert, stored, known⟩ := firing_or_due settings past sample.time pastSteady
    (fun earlier member => order earlier member sample (by simp)) _ metric long
  have touched := cell_reached_snoc settings past sample sample.metrics.hostname metric
  rw [if_pos ⟨rfl, breach⟩, stored] at touched
  exact ⟨_, touched, touch_firing settings.fireDuration sample.time _ alert known⟩

end LMonitor.AlertManager

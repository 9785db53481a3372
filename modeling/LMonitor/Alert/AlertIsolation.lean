import LMonitor.Alert.AlertRun

namespace LMonitor.AlertManager
open Library
variable {D : Type} [Double D]

/-- The update leaves each entry of another host exactly as it is. -/
def Isolated (now : Int) (metrics : SystemMetrics D) (manager : AlertManager D) : Prop :=
  ∀ key alert, alert.hostname ≠ metrics.hostname →
    (manager.alerts.lookup key = some alert ↔
      (update now metrics manager).2.alerts.lookup key = some alert)

/-- No entry of another host fires when the sample arrives. -/
def NoForeignFiring (metrics : SystemMetrics D) (manager : AlertManager D) : Prop :=
  ∀ key alert, manager.alerts.lookup key = some alert → alert.hostname ≠ metrics.hostname →
    alert.state ≠ .firing

omit [Double D] in
/-- Only a firing alert is changed by its resolution. -/
theorem calm_eq_self_iff (alert : ManagedAlert D) : calm alert = alert ↔ alert.state ≠ .firing := by
  constructor
  · intro same firing
    have state := calm_state alert
    rw [same, if_pos firing, firing] at state
    cases state
  · intro quiet
    simp [calm, quiet]

/-- The resolve loop calms the entries of every other host. -/
theorem foreign_calm (now : Int) (metrics : SystemMetrics D) (manager : AlertManager D)
    (hostname : Bytes) (metric : Metric) (foreign : hostname ≠ metrics.hostname) :
    (update now metrics manager).2.cell hostname metric =
      (manager.cell hostname metric).map calm := by
  rw [cell_update, if_neg]
  intro given
  obtain ⟨same, _⟩ := given
  exact foreign same.symm

/-- One update isolates the other hosts exactly when none of their entries fires. -/
theorem isolated_iff (now : Int) (metrics : SystemMetrics D) (manager : AlertManager D)
    (keyed : manager.WellKeyed) :
    Isolated now metrics manager ↔ NoForeignFiring metrics manager := by
  constructor
  · intro isolated key alert stored foreign
    obtain ⟨metric, _, rfl⟩ := keyed key alert stored
    have kept := (isolated _ alert foreign).mp stored
    have calmed := foreign_calm now metrics manager alert.hostname metric foreign
    rw [cell, kept, cell, stored, Option.map_some, Option.some.injEq] at calmed
    exact (calm_eq_self_iff alert).mp calmed.symm
  · intro quiet key alert foreign
    constructor
    · intro stored
      obtain ⟨metric, _, rfl⟩ := keyed key alert stored
      have calmed := foreign_calm now metrics manager alert.hostname metric foreign
      rw [cell, cell, stored, Option.map_some,
        (calm_eq_self_iff alert).mpr (quiet _ alert stored foreign)] at calmed
      exact calmed
    · intro stored
      obtain ⟨metric, _, rfl⟩ := wellKeyed_update now metrics manager keyed key alert stored
      have calmed := foreign_calm now metrics manager alert.hostname metric foreign
      rw [cell, stored] at calmed
      obtain ⟨old, before, same⟩ := Option.map_eq_some_iff.mp calmed.symm
      have host : old.hostname ≠ metrics.hostname := by
        rw [← calm_hostname old, same]
        exact foreign
      rw [(calm_eq_self_iff old).mpr (quiet _ old before host)] at same
      rw [same] at before
      exact before

/-- In every reachable state, a sample isolates the other hosts exactly when none of them fires. -/
theorem isolation_iff (settings : AlertSettings D) (samples : List (Sample D)) (now : Int)
    (metrics : SystemMetrics D) :
    Isolated now metrics (reached settings samples) ↔
      NoForeignFiring metrics (reached settings samples) :=
  isolated_iff now metrics _ (wellKeyed_reached settings samples)

/-- Host `a` breaches its processor threshold for five seconds, then host `b` is calm. -/
def foreignSamples : List (Sample Int) :=
  [⟨0, { hostname := ascii "a", cpuUsagePercent := Double.ofNat 95 }⟩,
    ⟨5000000000, { hostname := ascii "a", cpuUsagePercent := Double.ofNat 95 }⟩]

def defaultSettings : AlertSettings Int := ⟨5, Double.ofNat 80, Double.ofNat 90⟩

/-- The calm sample of host `b` resolves the firing alert of host `a`. -/
theorem calm_sample_resolves_other_host :
    ¬ Isolated 6000000000 { hostname := ascii "b" } (reached defaultSettings foreignSamples) := by
  intro isolated
  have changed := isolated (makeKey (ascii "a") (ascii "cpu"))
    ⟨ascii "a", ascii "cpu", .warning, .firing, Double.ofNat 95, Double.ofNat 80,
      ascii "CPU usage exceeded warning threshold", 0, 5000000000⟩ (by decide)
  revert changed
  decide

end LMonitor.AlertManager

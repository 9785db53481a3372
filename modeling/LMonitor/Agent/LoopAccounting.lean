import LMonitor.Agent.SamplingLoop
import LMonitor.Library.Meter
import Mathlib.Algebra.Order.BigOperators.Group.List
import Mathlib.Tactic.FieldSimp
import Mathlib.Tactic.Ring

namespace LMonitor.MonitorAgent
open Library ProcessCollector
open MetricsDeserializer (bind_eq_ok)

section OnePass
variable {order : UsageSort} {agent : MonitorAgent} {previous current : Previous} {seen : Seen}
  {metrics : SystemMetrics ℚ}

/-- A rate times its interval is the increment of the counter. -/
theorem rate_mul (earlier later : UInt64) {intervalSeconds : ℚ} (positive : 0 < intervalSeconds) :
    NetworkCollector.rate earlier later intervalSeconds * intervalSeconds =
      (later.toNat - earlier.toNat : Nat) := by
  simp only [NetworkCollector.rate]
  split
  · rename_i increased
    rw [div_mul_cancel₀ _ positive.ne', UInt64.toNat_sub_of_le _ _ increased]
  · rename_i back
    have less : later.toNat ≤ earlier.toNat := by
      rw [UInt64.le_iff_toNat_le] at back
      omega
    rw [zero_mul, Nat.sub_eq_zero_of_le less, Nat.cast_zero]

/-- A sample reports the traffic of its interval. -/
theorem traffic_sample
    (success : sample order agent previous seen = .ok (current, metrics)) :
    metrics.sampleIntervalSeconds = elapsedSeconds previous.networkTime current.networkTime ∧
    metrics.networkRxBytesPerSecond * metrics.sampleIntervalSeconds =
      (current.network.rxBytes.toNat - previous.network.rxBytes.toNat : Nat) ∧
    metrics.networkTxBytesPerSecond * metrics.sampleIntervalSeconds =
      (current.network.txBytes.toNat - previous.network.txBytes.toNat : Nat) := by
  obtain ⟨c, rfl⟩ := sample_ok success
  have rated := c.rated
  simp only [NetworkCollector.calculateRate] at rated
  split at rated
  · cases rated
  · rename_i positive
    refine ⟨rfl, ?_, ?_⟩
    · show c.networkRate.rxBytesPerSecond * _ = _
      rw [← Except.ok.inj rated]
      exact rate_mul _ _ (not_le.mp positive)
    · show c.networkRate.txBytesPerSecond * _ = _
      rw [← Except.ok.inj rated]
      exact rate_mul _ _ (not_le.mp positive)

end OnePass

/-- These bytes follow from the rates and the intervals of some samples. -/
def reported (rate : SystemMetrics ℚ → ℚ) (samples : List (SystemMetrics ℚ)) : ℚ :=
  (samples.map fun metrics => rate metrics * metrics.sampleIntervalSeconds).sum

/-- Adjacent intervals add up. -/
theorem elapsedSeconds_add (earlier middle later : Int) :
    elapsedSeconds earlier middle + elapsedSeconds middle later = elapsedSeconds earlier later := by
  simp only [elapsedSeconds]
  rw [← add_div]
  push_cast
  ring_nf

/-- The intervals of linked passes add up to the time between the outer readings. -/
theorem intervals_follow {order : UsageSort} {agent : MonitorAgent} {previous : Previous}
    {passes : List (Previous × SystemMetrics ℚ)} (linked : Follows order agent previous passes) :
    (passes.map fun pass => pass.2.sampleIntervalSeconds).sum =
      elapsedSeconds previous.networkTime (latest previous passes).networkTime := by
  induction passes generalizing previous with
  | nil => simp [latest, elapsedSeconds]
  | cons pass passes ih =>
      obtain ⟨current, metrics⟩ := pass
      obtain ⟨⟨seen, success⟩, rest⟩ := linked
      simp only [List.map_cons, List.sum_cons, latest, List.getLastD_cons]
      rw [(traffic_sample success).1, ih rest, elapsedSeconds_add]
      rfl

/-- The reported traffic of linked passes is the growth of the counter. -/
theorem reported_follow {order : UsageSort} {agent : MonitorAgent} {previous : Previous}
    {passes : List (Previous × SystemMetrics ℚ)} (counter : NetworkStats → UInt64)
    (rate : SystemMetrics ℚ → ℚ)
    (exactly : ∀ {earlier later : Previous} {seen : Seen} {metrics : SystemMetrics ℚ},
      sample order agent earlier seen = .ok (later, metrics) →
      rate metrics * metrics.sampleIntervalSeconds =
        ((counter later.network).toNat - (counter earlier.network).toNat : Nat))
    (linked : Follows order agent previous passes) :
    reported rate (passes.map Prod.snd) = growth (counter previous.network).toNat
      (passes.map fun pass => (counter pass.1.network).toNat) := by
  induction passes generalizing previous with
  | nil => rfl
  | cons pass passes ih =>
      obtain ⟨current, metrics⟩ := pass
      obtain ⟨⟨seen, success⟩, rest⟩ := linked
      have others := ih rest
      simp only [reported] at others
      simp only [reported, List.map_cons, List.sum_cons, growth_cons]
      rw [exactly success, others]
      push_cast
      rfl

namespace LoopRun

/-- The loop knew these counters before its first pass or after its last one. -/
def last (r : LoopRun) : Previous := latest r.first r.final.passes

/-- The growth of a counter is the difference of the last and the first reading exactly if the
counter never went back. -/
theorem growth_last (r : LoopRun) (counter : Previous → Nat) :
    growth (counter r.first) (r.readings.map counter) =
        ((counter r.last : Int) - counter r.first) ↔
      (r.first :: r.readings).IsChain fun earlier later => counter earlier ≤ counter later := by
  have final : (r.readings.map counter).getLastD (counter r.first) = counter r.last := by
    simp only [last, latest, readings]
    generalize r.final.passes.map Prod.fst = readings
    generalize r.first = first
    induction readings generalizing first with
    | nil => rfl
    | cons reading readings ih => simp only [List.map_cons, List.getLastD_cons, ih]
  have chain := getLastD_eq_growth_iff (counter r.first) (r.readings.map counter)
  rw [final, ← List.map_cons (f := counter), List.isChain_map] at chain
  rw [← chain]
  omega

/-- The samples of a run, computed as exact rationals, account for all time and for all traffic of
their interface. Their bytes are the increments of the counter, also after a counter went back, and
they are the difference of the last and the first reading exactly if it never did. -/
theorem traffic_conserved (r : LoopRun) :
    (r.samples.map SystemMetrics.sampleIntervalSeconds).sum =
      elapsedSeconds r.first.networkTime r.last.networkTime ∧
    reported SystemMetrics.networkRxBytesPerSecond r.samples =
      growth r.first.network.rxBytes.toNat
        (r.readings.map fun reading => reading.network.rxBytes.toNat) ∧
    reported SystemMetrics.networkTxBytesPerSecond r.samples =
      growth r.first.network.txBytes.toNat
        (r.readings.map fun reading => reading.network.txBytes.toNat) ∧
    (reported SystemMetrics.networkRxBytesPerSecond r.samples =
        (r.last.network.rxBytes.toNat - r.first.network.rxBytes.toNat : Int) ↔
      (r.first :: r.readings).IsChain fun earlier later =>
        earlier.network.rxBytes.toNat ≤ later.network.rxBytes.toNat) ∧
    (reported SystemMetrics.networkTxBytesPerSecond r.samples =
        (r.last.network.txBytes.toNat - r.first.network.txBytes.toNat : Int) ↔
      (r.first :: r.readings).IsChain fun earlier later =>
        earlier.network.txBytes.toNat ≤ later.network.txBytes.toNat) := by
  have linked := r.recorded.follows
  have received := reported_follow NetworkStats.rxBytes SystemMetrics.networkRxBytesPerSecond
    (fun success => (traffic_sample success).2.1) linked
  have sent := reported_follow NetworkStats.txBytes SystemMetrics.networkTxBytesPerSecond
    (fun success => (traffic_sample success).2.2) linked
  have receivedChain := r.growth_last fun reading => reading.network.rxBytes.toNat
  have sentChain := r.growth_last fun reading => reading.network.txBytes.toNat
  have intervals := intervals_follow linked
  simp only [samples, readings, List.map_map, Function.comp_def] at *
  refine ⟨intervals, received, sent, ?_, ?_⟩
  · rw [received, ← receivedChain]
    exact_mod_cast Iff.rfl
  · rw [sent, ← sentChain]
    exact_mod_cast Iff.rfl

/-- The first reading is taken at the start of the run. -/
theorem networkTime_first (r : LoopRun) : r.first.networkTime = r.networkTime := by
  obtain ⟨cpu, _, read⟩ := bind_eq_ok r.begun
  obtain ⟨network, _, read⟩ := bind_eq_ok read
  rw [← Except.ok.inj read]

/-- The last reading of a run with a pass is that of its last pass. -/
theorem last_eq_getElem (r : LoopRun) (some : 0 < r.final.passes.length) :
    r.last = (r.final.passes[r.final.passes.length - 1]).1 := by
  simp only [last, latest]
  rw [List.getLastD_eq_getLast?, List.getLast?_eq_getElem?, List.length_map,
    List.getElem?_eq_getElem (by simpa using some), List.getElem_map]
  rfl

/-- Counted in the interval that was truncated to nanoseconds, the deadlines do not drift, no pass
starts before its deadline, and the loop never takes more samples than whole intervals passed since
its first reading. -/
theorem schedule_kept (r : LoopRun) :
    r.final.nextSampleTime =
      r.startTime + (r.samples.length + 1) * sampleInterval r.intervalSeconds ∧
    (∀ index : Fin r.readings.length,
      r.startTime + (index + 1) * sampleInterval r.intervalSeconds ≤
        (r.readings.get index).networkTime) ∧
    r.samples.length * sampleInterval r.intervalSeconds ≤
      r.last.networkTime - r.first.networkTime := by
  have known := r.recorded
  refine ⟨?_, ?_, ?_⟩
  · rw [known.nextSampleTime, samples, List.length_map]
  · intro index
    have inside : index < r.final.passes.length := by simpa [readings] using index.isLt
    have reading : r.readings.get index = (r.final.passes[index.val]).1 := List.getElem_map Prod.fst
    rw [reading]
    exact known.paced index inside
  · rw [samples, List.length_map]
    cases count : r.final.passes.length with
    | zero =>
        have none : r.final.passes = [] := List.length_eq_zero_iff.mp count
        simp [last, latest, none]
    | succ before =>
        have paced := known.paced before (by omega)
        have started := r.later
        rw [← r.networkTime_first] at started
        rw [r.last_eq_getElem (by omega)]
        simp only [count, Nat.add_sub_cancel]
        push_cast
        omega

end LoopRun
end LMonitor.MonitorAgent

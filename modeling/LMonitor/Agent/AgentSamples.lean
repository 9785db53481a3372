import LMonitor.Serializer.RoundTrip

namespace LMonitor.MonitorAgent
open MetricsSerializer MetricsDeserializer
variable {D : Type} [DoubleText D]

/-- A collected string is not empty, has no line feed and does not end in a carriage return. -/
structure CollectedText (text : Bytes) : Prop where
  nonempty : text ≠ []
  newlineFree : 10 ∉ text
  noReturn : text.getLast? ≠ some 13

/-- A process name is any line that `readProcessName` returns. -/
structure CollectedProcess (process : ProcessMetric D) : Prop where
  pid : 0 ≤ process.pid
  nonempty : process.name ≠ []
  newlineFree : 10 ∉ process.name

/-- The agent can build these samples, and its interval is only known to be positive. -/
structure Buildable (metrics : SystemMetrics D) : Prop where
  hostname : CollectedText metrics.hostname
  diskMountPoint : CollectedText metrics.diskMountPoint
  networkInterface : CollectedText metrics.networkInterface
  logicalCpuCount : 1 ≤ metrics.logicalCpuCount
  finite : ∀ value ∈ doubles metrics, Double.isFinite value = true
  sampleIntervalSeconds : Double.lt (Double.ofNat 0) metrics.sampleIntervalSeconds = true
  processCount : metrics.topProcesses.length ≤ 5
  processes : ∀ process ∈ metrics.topProcesses, CollectedProcess process

/-- The server accepts the payload of the sample and keeps its host and process names. -/
def Accepted (metrics : SystemMetrics D) : Prop :=
  ∃ parsed : SystemMetrics D, deserialize (serialize metrics) = .ok parsed ∧
    parsed.hostname = metrics.hostname ∧
    parsed.topProcesses.map ProcessMetric.name = metrics.topProcesses.map ProcessMetric.name

/-- Only a carriage return at the end is stripped. -/
theorem strip_eq_self_iff (text : Bytes) :
    stripCarriageReturn text = text ↔ text.getLast? ≠ some 13 := by
  unfold stripCarriageReturn
  split
  · rename_i last
    have nonempty : text ≠ [] := by
      rintro rfl
      cases last
    have shorter : text.dropLast.length < text.length := by
      have := List.length_pos_iff.mpr nonempty
      rw [List.length_dropLast]
      omega
    simp only [last, ne_eq, not_true_eq_false, iff_false]
    intro same
    rw [same] at shorter
    exact lt_irrefl _ shorter
  · rename_i last
    simp [last]

theorem Buildable.newlineFree {metrics : SystemMetrics D} (built : Buildable metrics) :
    NewlineFree metrics :=
  ⟨built.hostname.newlineFree, built.diskMountPoint.newlineFree,
    built.networkInterface.newlineFree, fun process member =>
      (built.processes process member).newlineFree⟩

/-- The canonical copy of a finite sample is finite. -/
theorem finite_canon [LawfulDoubleText D] (metrics : SystemMetrics D)
    (finite : ∀ value ∈ doubles metrics, Double.isFinite value = true) :
    ∀ value ∈ doubles (canon metrics), Double.isFinite value = true := by
  have rounded : doubles (canon metrics) = (doubles metrics).map DoubleText.round2 := by
    simp [doubles, canon, List.flatMap_map, List.map_flatMap, canonProcess]
  intro value member
  rw [rounded] at member
  obtain ⟨exact, known, rfl⟩ := List.mem_map.mp member
  rw [LawfulDoubleText.finite_round2]
  exact finite exact known

/-- The rounding and the stripping of the format decide whether the server accepts the sample. -/
theorem acceptable_of_buildable [LawfulDoubleText D] (metrics : SystemMetrics D)
    (built : Buildable metrics)
    (positive : Double.lt (Double.ofNat 0) (DoubleText.round2 metrics.sampleIntervalSeconds) = true)
    (noReturn : ∀ process ∈ metrics.topProcesses, process.name.getLast? ≠ some 13) :
    Acceptable (canon metrics) where
  hostname := by
    simpa [canon, (strip_eq_self_iff _).mpr built.hostname.noReturn] using built.hostname.nonempty
  diskMountPoint := by
    simpa [canon, (strip_eq_self_iff _).mpr built.diskMountPoint.noReturn]
      using built.diskMountPoint.nonempty
  networkInterface := by
    simpa [canon, (strip_eq_self_iff _).mpr built.networkInterface.noReturn]
      using built.networkInterface.nonempty
  processNames := by
    intro process member
    obtain ⟨original, known, rfl⟩ := List.mem_map.mp member
    simpa [canonProcess, (strip_eq_self_iff _).mpr (noReturn original known)]
      using (built.processes original known).nonempty
  logicalCpuCount := built.logicalCpuCount
  finite := finite_canon metrics built.finite
  sampleIntervalSeconds := positive
  pids := by
    intro process member
    obtain ⟨original, known, rfl⟩ := List.mem_map.mp member
    exact (built.processes original known).pid

/-- The server accepts a buildable sample exactly when its interval does not round to zero and no
process name ends in a carriage return. -/
theorem accepted_iff [LawfulDoubleText D] (metrics : SystemMetrics D) (built : Buildable metrics) :
    Accepted metrics ↔
      Double.lt (Double.ofNat 0) (DoubleText.round2 metrics.sampleIntervalSeconds) = true ∧
      ∀ process ∈ metrics.topProcesses, process.name.getLast? ≠ some 13 := by
  constructor
  · intro given
    obtain ⟨parsed, success, _, names⟩ := given
    have known : Acceptable (canon metrics) := by
      by_contra refused
      obtain ⟨message, failed⟩ := deserialize_error metrics built.newlineFree refused
      rw [failed] at success
      cases success
    rw [deserialize_ok metrics built.newlineFree known] at success
    obtain rfl := Except.ok.inj success
    refine ⟨known.sampleIntervalSeconds, fun process member => ?_⟩
    have same : ∀ process ∈ metrics.topProcesses,
        stripCarriageReturn process.name = process.name := by
      simpa [canon, canonProcess, Function.comp_def] using names
    exact (strip_eq_self_iff _).mp (same process member)
  · intro given
    obtain ⟨positive, noReturn⟩ := given
    have known := acceptable_of_buildable metrics built positive noReturn
    refine ⟨canon metrics, deserialize_ok metrics built.newlineFree known, ?_, ?_⟩
    · exact (strip_eq_self_iff _).mpr built.hostname.noReturn
    · have kept : ∀ process ∈ metrics.topProcesses,
          stripCarriageReturn process.name = process.name :=
        fun process member => (strip_eq_self_iff _).mpr (noReturn process member)
      simpa [canon, canonProcess, Function.comp_def] using kept

/-- This sample has the interval in the given units and nothing unusual. -/
def plainSample (interval : Int) : SystemMetrics Int where
  hostname := ascii "a"
  logicalCpuCount := 1
  diskMountPoint := ascii "/"
  networkInterface := ascii "eth0"
  sampleIntervalSeconds := interval

theorem buildable_plainSample (interval : Int) (positive : 0 < interval) :
    Buildable (plainSample interval) where
  hostname := (⟨by decide, by decide, by decide⟩ : CollectedText (ascii "a"))
  diskMountPoint := (⟨by decide, by decide, by decide⟩ : CollectedText (ascii "/"))
  networkInterface := (⟨by decide, by decide, by decide⟩ : CollectedText (ascii "eth0"))
  logicalCpuCount := UInt64.le_refl 1
  finite _ _ := rfl
  sampleIntervalSeconds := decide_eq_true positive
  processCount := Nat.zero_le 5
  processes _ member := absurd member List.not_mem_nil

theorem accepted_iff_oneSecond :
    Accepted (plainSample 25600) ↔
      Double.lt (Double.ofNat 0)
        (DoubleText.round2 (plainSample 25600).sampleIntervalSeconds) = true ∧
      ∀ process ∈ (plainSample 25600).topProcesses, process.name.getLast? ≠ some 13 :=
  accepted_iff (plainSample 25600) (buildable_plainSample 25600 (by decide))

/-- The server refuses an interval of 1/512 seconds, which is printed as `0.00`. -/
theorem short_interval_refused : ¬ (Buildable (plainSample 50) → Accepted (plainSample 50)) := by
  intro accepted
  have built := buildable_plainSample 50 (by decide)
  obtain ⟨parsed, success, _⟩ := accepted built
  obtain ⟨message, failed⟩ := deserialize_error (plainSample 50) built.newlineFree fun known =>
    absurd known.sampleIntervalSeconds (by decide)
  rw [failed] at success
  cases success

end LMonitor.MonitorAgent

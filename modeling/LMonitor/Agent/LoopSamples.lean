import LMonitor.Agent.SamplingLoop

namespace LMonitor
open Library
open MetricsDeserializer (bind_eq_ok)

namespace ProcessCollector

/-- The number of a process directory is not negative. -/
theorem stoi_nonnegative {text : Bytes} {value : Int} {length : Nat}
    (digits : ∀ byte ∈ text, isDigit byte = true) (success : stoi text = some (value, length)) :
    0 ≤ Int32.ofInt value := by
  have unblank : text.dropWhile isSpace = text := by
    cases text with
    | nil => rfl
    | cons byte text => simp [(isDigit_ordinary (digits byte List.mem_cons_self)).1]
  have unsigned : scanSign text = (false, text) := by
    unfold scanSign
    split
    · exact absurd rfl (isDigit_ordinary (digits 45 List.mem_cons_self)).2.1
    · exact absurd rfl (isDigit_ordinary (digits 43 List.mem_cons_self)).2.2.1
    · rfl
  simp only [stoi, scanInteger, unblank, unsigned] at success
  split at success
  · cases success
  · rename_i scan found
    simp only [Option.ite_none_left_eq_some, Option.some.injEq] at found
    obtain ⟨_, rfl⟩ := found
    simp only [Option.ite_none_left_eq_some, Option.some.injEq, Prod.mk.injEq] at success
    obtain ⟨inside, rfl, _⟩ := success
    rw [Int32.le_iff_toInt_le, Int32.toInt_ofInt_of_le (by omega) (by omega)]
    simp

/-- A snapshot has a number and a name that come from its directory and its file. -/
theorem collected_snapshot {proc : ProcDirectory} {info : ProcessSnapshot}
    (member : info ∈ collectSnapshots proc) :
    0 ≤ info.pid ∧ info.name ≠ [] ∧ 10 ∉ info.name := by
  obtain ⟨entry, _, found⟩ := List.mem_filterMap.mp member
  simp only [snapshotOf] at found
  split at found
  · rename_i listed
    obtain ⟨⟨pid, length⟩, converted, found⟩ := Option.bind_eq_some_iff.mp found
    obtain ⟨name, named, found⟩ := Option.bind_eq_some_iff.mp found
    obtain ⟨times, _, found⟩ := Option.bind_eq_some_iff.mp found
    obtain ⟨residentMemoryKB, _, found⟩ := Option.bind_eq_some_iff.mp found
    obtain rfl := Option.some.inj found
    simp only [isPidDirectory, Bool.and_eq_true, List.all_eq_true] at listed
    refine ⟨stoi_nonnegative listed.2.2 converted, ?_⟩
    simp only [readProcessName] at named
    split at named
    · cases named
    · rename_i processName rest line
      obtain ⟨text, _, line⟩ := Option.bind_eq_some_iff.mp line
      simp only [Option.ite_none_left_eq_some, Option.some.injEq] at named
      obtain ⟨nonempty, rfl⟩ := named
      exact ⟨nonempty, line_extracted line⟩
  · cases found

/-- An entry keeps the number and the name of a current process. -/
theorem calculateUsage_snapshot {order : UsageSort} {previous current : List ProcessSnapshot}
    {totalCpuDelta totalMemoryKB cpuCount : UInt64} {info : ProcessInfo}
    (member : info ∈ calculateUsage order previous current totalCpuDelta totalMemoryKB cpuCount) :
    ∃ process ∈ current, info.pid = process.pid ∧ info.name = process.name := by
  simp only [calculateUsage] at member
  split at member
  · cases member
  · rw [(order.perm _).mem_iff, List.mem_filterMap] at member
    obtain ⟨process, known, used⟩ := member
    refine ⟨process, known, ?_⟩
    simp only [usageOf] at used
    split at used
    · cases used
    · simp only [Option.ite_none_left_eq_some, Option.some.injEq] at used
      obtain ⟨_, _, rfl⟩ := used
      exact ⟨rfl, rfl⟩

end ProcessCollector

namespace NetworkCollector

/-- The default interface is a word of its line. -/
theorem firstDefault_word {lines : List Bytes} {interfaceName : Bytes}
    (success : firstDefault lines = .ok interfaceName) : Word interfaceName := by
  induction lines with
  | nil => cases success
  | cons line lines ih =>
      simp only [firstDefault] at success
      split at success
      · exact ih success
      · rename_i name destination rest read
        split at success
        · obtain rfl := Except.ok.inj success
          obtain ⟨⟨word, afterName⟩, extracted, read⟩ := Option.bind_eq_some_iff.mp read
          obtain ⟨⟨_, afterDestination⟩, _, read⟩ := Option.bind_eq_some_iff.mp read
          obtain ⟨⟨_, afterGateway⟩, _, read⟩ := Option.bind_eq_some_iff.mp read
          obtain ⟨⟨_, afterFlags⟩, _, read⟩ := Option.bind_eq_some_iff.mp read
          obtain ⟨same, -⟩ := Prod.mk.inj (Option.some.inj read)
          obtain ⟨rfl, -⟩ := Prod.mk.inj same
          exact word_extracted extracted
        · exact ih success

end NetworkCollector

namespace MonitorAgent
open MetricsSerializer MetricsDeserializer

/-- The members of a constructed agent can be sent. -/
structure Ready (agent : MonitorAgent) : Prop where
  networkInterface : Word agent.networkInterface
  cpuCount : 1 ≤ agent.cpuCount

/-- A constructed agent has a positive number of processors and an interface that is a word. -/
theorem ready_construct {route : Option Bytes} {cpuCount : Int64} {intervalSeconds : ℚ}
    {agent : MonitorAgent} (success : construct route cpuCount intervalSeconds = .ok agent) :
    agent.Ready := by
  obtain ⟨networkInterface, detected, success⟩ := bind_eq_ok success
  split at success
  · cases success
  · rename_i positive
    split at success
    · cases success
    · obtain rfl := Except.ok.inj success
      constructor
      · simp only [NetworkCollector.detectDefaultInterface] at detected
        split at detected
        · cases detected
        · exact NetworkCollector.firstDefault_word detected
      · have one : (1 : Int64) ≤ cpuCount := by
          rw [Int64.le_iff_toInt_le] at positive ⊢
          simp only [Int64.reduceToInt] at positive ⊢
          omega
        exact Int64.toUInt64_le (by decide) one

theorem collectedText_word {text : Bytes} (word : Word text) : CollectedText text where
  nonempty := word.1
  newlineFree member := by
    have visible := word.2 10 member
    cases visible
  noReturn last := by
    have visible := word.2 13 (List.mem_of_getLast? last)
    cases visible

/-- A pass of a ready agent builds a sample that it can send if the host has a proper name. -/
theorem buildable_sample {order : ProcessCollector.UsageSort} {agent : MonitorAgent}
    {previous current : Previous} {seen : Seen} {metrics : SystemMetrics ℚ} (ready : agent.Ready)
    (success : sample order agent previous seen = .ok (current, metrics))
    (hostname : CollectedText metrics.hostname) : Buildable metrics := by
  obtain ⟨c, rfl⟩ := sample_ok success
  have mount : c.disk.mountPoint = ascii "/" := by
    have mounted := c.mounted
    simp only [DiskCollector.collect] at mounted
    split at mounted
    · cases mounted
    · rw [← Except.ok.inj mounted]
  have interval : 0 < elapsedSeconds previous.networkTime current.networkTime := by
    have rated := c.rated
    simp only [NetworkCollector.calculateRate] at rated
    split at rated
    · cases rated
    · rename_i positive
      exact not_le.mp positive
  have processes : current.processes = ProcessCollector.collectSnapshots seen.proc := by
    obtain ⟨cpu, _, read⟩ := bind_eq_ok c.read
    obtain ⟨network, _, read⟩ := bind_eq_ok read
    rw [← Except.ok.inj read]
  refine ⟨hostname, ?_, collectedText_word ready.networkInterface, ready.cpuCount,
    fun _ _ => rfl, decide_eq_true interval, ?_, ?_⟩
  · show CollectedText c.disk.mountPoint
    rw [mount]
    exact ⟨by decide, by decide, by decide⟩
  · show (List.map processMetric (List.take _ _)).length ≤ 5
    rw [List.length_map, List.length_take]
    omega
  · intro process member
    obtain ⟨info, listed, rfl⟩ := List.mem_map.mp member
    obtain ⟨snapshot, known, pid, name⟩ :=
      ProcessCollector.calculateUsage_snapshot (List.mem_of_mem_take listed)
    rw [processes] at known
    obtain ⟨nonnegative, nonempty, oneLine⟩ := ProcessCollector.collected_snapshot known
    refine ⟨?_, ?_, ?_⟩
    · show 0 ≤ info.pid
      rw [pid]
      exact nonnegative
    · show info.name ≠ []
      rw [name]
      exact nonempty
    · show 10 ∉ info.name
      rw [name]
      exact oneLine

/-- What holds of each sample of a pass holds of all samples of a run. -/
theorem forall_follows {order : ProcessCollector.UsageSort} {agent : MonitorAgent}
    {previous : Previous} {passes : List (Previous × SystemMetrics ℚ)}
    {Good : SystemMetrics ℚ → Prop} (linked : Follows order agent previous passes)
    (each : ∀ {earlier later : Previous} {seen : Seen} {metrics : SystemMetrics ℚ},
      sample order agent earlier seen = .ok (later, metrics) → Good metrics) :
    ∀ pass ∈ passes, Good pass.2 := by
  induction passes generalizing previous with
  | nil => exact fun pass member => absurd member List.not_mem_nil
  | cons pass passes ih =>
      obtain ⟨current, metrics⟩ := pass
      obtain ⟨⟨seen, success⟩, rest⟩ := linked
      exact List.forall_mem_cons.mpr ⟨each success, ih rest⟩

/-- The loop can send every sample of a host with a proper name. -/
theorem LoopRun.buildable (r : LoopRun) {metrics : SystemMetrics ℚ} (member : metrics ∈ r.samples)
    (hostname : CollectedText metrics.hostname) : Buildable metrics := by
  obtain ⟨pass, taken, rfl⟩ := List.mem_map.mp member
  exact @forall_follows _ _ _ _ (fun metrics => CollectedText metrics.hostname → Buildable metrics)
    r.recorded.follows (buildable_sample (ready_construct r.constructed)) pass taken hostname

/-- Whatever the files of the host contain, the server reads every sample of the loop, computed as
exact rationals, as the rounded values that it has, and it refuses a sample whose interval is
shorter than 5 milliseconds. The host name is given by the system, and a process may have put a
carriage return into its name. -/
theorem LoopRun.samples_readable (r : LoopRun) (metrics : SystemMetrics ℚ)
    (member : metrics ∈ r.samples) (hostname : CollectedText metrics.hostname)
    (noReturn : ∀ process ∈ metrics.topProcesses, process.name.getLast? ≠ some 13) :
    (1 / 200 < metrics.sampleIntervalSeconds →
      deserialize (serialize metrics) = .ok (canon metrics)) ∧
    (metrics.sampleIntervalSeconds < 1 / 200 →
      ∃ message, (deserialize (serialize metrics) : Except Bytes (SystemMetrics ℚ)) =
        .error message) := by
  have built := r.buildable member hostname
  have rounded := RationalDouble.round2_pos_iff metrics.sampleIntervalSeconds
  constructor
  · intro long
    have positive := decide_eq_true (rounded.mpr long)
    exact deserialize_ok metrics built.newlineFree
      (acceptable_of_buildable metrics built positive noReturn)
  · intro short
    apply deserialize_error metrics built.newlineFree
    intro known
    exact short.not_gt (rounded.mp (of_decide_eq_true known.sampleIntervalSeconds))

section IdleHost

def idleAgent : MonitorAgent := ⟨ascii "eth0", 1⟩

def idleStat : Bytes := ascii "cpu 1 0 0 1 0 0 0 0\n"

def idleDevices : Bytes := ascii "\n\neth0: 1 0 0 0 0 0 0 0 1 0 0 0 0 0 0 0\n"

/-- A host without processes sees no traffic for one second. -/
def idleSeen : Seen where
  stat := some idleStat
  netDev := some idleDevices
  networkTime := 1000000000
  proc := ⟨[], fun _ => none⟩
  meminfo := some (ascii "MemTotal: 8 kB\nMemAvailable: 4 kB\n")
  loadavg := some (ascii "0.00 0.00 0.00\n")
  hostname := some (ascii "a")
  uptime := some (ascii "1.00 1.00\n")
  root := some ⟨1, 2, 1, 1⟩

def idleRun : LoopRun where
  order := .merge
  route := some (ascii "Iface\neth0 00000000 0 3\n")
  cpuCount := 1
  intervalSeconds := 1
  agent := idleAgent
  constructed := rfl
  stat := some idleStat
  netDev := some idleDevices
  networkTime := 0
  proc := ⟨[], fun _ => none⟩
  first := ⟨⟨1, 0, 0, 1, 0, 0, 0, 0⟩, ⟨ascii "eth0", 1, 1⟩, 0, []⟩
  begun := rfl
  startTime := 0
  later := Int.le_refl 0
  trace := [.pass idleSeen]
  final := (run (SamplingLoop.step .merge idleAgent (sampleInterval 1))
    ⟨⟨⟨1, 0, 0, 1, 0, 0, 0, 0⟩, ⟨ascii "eth0", 1, 1⟩, 0, []⟩, 0 + sampleInterval 1, [],
      .sampling⟩ [.pass idleSeen]).get (by decide +kernel)
  reached := (Option.some_get _).symm

theorem LoopRun.samples_readable_idle :
    ∃ metrics ∈ idleRun.samples, deserialize (serialize metrics) = .ok (canon metrics) := by
  have figures : idleRun.samples.map (fun metrics =>
      (metrics.hostname, metrics.sampleIntervalSeconds, metrics.topProcesses.length)) =
        [(ascii "a", 1, 0)] := by
    decide +kernel
  obtain ⟨metrics, rest, samples, same, _⟩ := List.map_eq_cons_iff.mp figures
  obtain ⟨hostname, others⟩ := Prod.mk.inj same
  obtain ⟨interval, processes⟩ := Prod.mk.inj others
  have member : metrics ∈ idleRun.samples := by simp [samples]
  refine ⟨metrics, member, (idleRun.samples_readable metrics member ?_ ?_).1 ?_⟩
  · rw [hostname]
    exact ⟨by decide, by decide, by decide⟩
  · simp [List.length_eq_zero_iff.mp processes]
  · rw [interval]
    norm_num

end IdleHost

end MonitorAgent
end LMonitor

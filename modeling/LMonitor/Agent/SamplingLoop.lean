import LMonitor.Agent.AgentSamples
import LMonitor.Collector.NetworkCollector
import LMonitor.Collector.ProcessDirectory
import LMonitor.Collector.SystemFiles
import LMonitor.Library.Machine
import LMonitor.Model.Clock
import LMonitor.Protocol.FrameCodec
import LMonitor.Serializer.AcceptedSamples

namespace LMonitor.MonitorAgent
open Library ProcessCollector
open MetricsDeserializer (bind_eq_ok)

/-- The constructor throws the exception of the first check that fails. -/
def construct (route : Option Bytes) (cpuCount : Int64) (intervalSeconds : ℚ) :
    Except Bytes MonitorAgent := do
  let networkInterface ← NetworkCollector.detectDefaultInterface route
  if cpuCount ≤ 0 then throw (ascii "Failed to get logical CPU count")
  else if intervalSeconds ≤ 0 then throw (ascii "Sampling interval must be greater than 0")
  else return ⟨networkInterface, cpuCount.toUInt64⟩

/-- The loop keeps the counters of its previous pass. -/
structure Previous where
  cpu : CpuTimes
  network : NetworkStats
  networkTime : Int
  processes : List ProcessSnapshot

/-- One pass of the loop sees these files and these results of system calls. -/
structure Seen where
  stat : Option Bytes
  netDev : Option Bytes
  networkTime : Int
  proc : ProcDirectory
  meminfo : Option Bytes
  loadavg : Option Bytes
  hostname : Option Bytes
  uptime : Option Bytes
  root : Option Statvfs

/-- The counters are read in the order of their collectors. -/
def readPrevious (agent : MonitorAgent) (stat netDev : Option Bytes) (networkTime : Int)
    (proc : ProcDirectory) : Except Bytes Previous := do
  let cpu ← CpuCollector.readCpuTimes stat
  let network ← NetworkCollector.collect netDev agent.networkInterface
  return ⟨cpu, network, networkTime, collectSnapshots proc⟩

/-- The time between two readings counts seconds. The figures of a sample are exact rationals, where
the code rounds each of them to a double. -/
def elapsedSeconds (earlier later : Int) : ℚ := (later - earlier : Int) / nanosecondsPerSecond

/-- A pass ends with the first exception of a collector. -/
def sample (order : UsageSort) (agent : MonitorAgent) (previous : Previous) (seen : Seen) :
    Except Bytes (Previous × SystemMetrics ℚ) := do
  let current ← readPrevious agent seen.stat seen.netDev seen.networkTime seen.proc
  let actualIntervalSeconds := elapsedSeconds previous.networkTime current.networkTime
  let cpuUsage := CpuCollector.calculateUsage previous.cpu current.cpu
  let totalCpuDelta := current.cpu.total - previous.cpu.total
  let networkRate ←
    NetworkCollector.calculateRate previous.network current.network actualIntervalSeconds
  let memory ← MemoryCollector.collect seen.meminfo
  let load ← LoadCollector.collect seen.loadavg
  let systemInfo ← SystemCollector.collect seen.hostname seen.uptime
  let disk ← DiskCollector.collect (ascii "/") seen.root
  let processes := calculateUsage order previous.processes current.processes totalCpuDelta
    memory.totalKB agent.cpuCount
  return (current, buildMetrics agent cpuUsage actualIntervalSeconds memory load systemInfo disk
    networkRate processes)

/-- The loop goes on, an exception left it, or the running flag was cleared. -/
inductive LoopPart where
  | sampling
  | threw (what : Bytes)
  | stopped

/-- The loop keeps its schedule, and its passes are recorded with the counters that they read. -/
structure SamplingLoop where
  previous : Previous
  nextSampleTime : Int
  passes : List (Previous × SystemMetrics ℚ)
  part : LoopPart

namespace SamplingLoop

inductive Action where
  | pass (seen : Seen)
  | stop

/-- A pass starts after the next sample time and schedules the following one. -/
def step (order : UsageSort) (agent : MonitorAgent) (sampleInterval : Int) (s : SamplingLoop) :
    Action → Option SamplingLoop
  | .pass seen =>
      match s.part with
      | .sampling =>
          if s.nextSampleTime ≤ seen.networkTime ∧ s.previous.networkTime ≤ seen.networkTime then
            match sample order agent s.previous seen with
            | .error what => some { s with part := .threw what }
            | .ok (current, metrics) =>
                match FrameCodec.encode (MetricsSerializer.serialize metrics) with
                | .error what => some { s with part := .threw what }
                | .ok _ => some {
                    previous := current
                    nextSampleTime := s.nextSampleTime + sampleInterval
                    passes := s.passes ++ [(current, metrics)]
                    part := .sampling }
          else none
      | _ => none
  | .stop =>
      match s.part with
      | .sampling => some { s with part := .stopped }
      | _ => none

/-- A step records one sample or ends the loop. -/
theorem step_cases {order : UsageSort} {agent : MonitorAgent} {sampleInterval : Int}
    {s next : SamplingLoop} {action : Action}
    (taken : step order agent sampleInterval s action = some next) :
    (∃ seen current metrics, s.nextSampleTime ≤ seen.networkTime ∧
      sample order agent s.previous seen = .ok (current, metrics) ∧
      next = {
        previous := current
        nextSampleTime := s.nextSampleTime + sampleInterval
        passes := s.passes ++ [(current, metrics)]
        part := .sampling }) ∨
    ∃ part, next = { s with part := part } := by
  cases action with
  | stop =>
      simp only [step] at taken
      split at taken
      · exact .inr ⟨_, (Option.some.inj taken).symm⟩
      · cases taken
  | pass seen =>
      simp only [step] at taken
      split at taken
      · simp only [Option.ite_none_right_eq_some] at taken
        obtain ⟨ready, taken⟩ := taken
        split at taken
        · exact .inr ⟨_, (Option.some.inj taken).symm⟩
        · rename_i current metrics success
          split at taken
          · exact .inr ⟨_, (Option.some.inj taken).symm⟩
          · exact .inl ⟨seen, current, metrics, ready.1, success, (Option.some.inj taken).symm⟩
      · cases taken

end SamplingLoop

/-- The duration of the schedule is truncated to nanoseconds, and the product is exact. -/
def sampleInterval (intervalSeconds : ℚ) : Int :=
  (intervalSeconds * nanosecondsPerSecond).floor

/-- An agent was constructed, and its loop saw any files and was interrupted at any time. -/
structure LoopRun where
  order : UsageSort
  route : Option Bytes
  cpuCount : Int64
  intervalSeconds : ℚ
  agent : MonitorAgent
  constructed : construct route cpuCount intervalSeconds = .ok agent
  stat : Option Bytes
  netDev : Option Bytes
  networkTime : Int
  proc : ProcDirectory
  first : Previous
  begun : readPrevious agent stat netDev networkTime proc = .ok first
  startTime : Int
  later : networkTime ≤ startTime
  trace : List SamplingLoop.Action
  final : SamplingLoop
  reached : run (SamplingLoop.step order agent (sampleInterval intervalSeconds))
    ⟨first, startTime + sampleInterval intervalSeconds, [], .sampling⟩ trace = some final

/-- A successful pass saw successful collectors. -/
structure Collection (agent : MonitorAgent) (previous : Previous) (seen : Seen)
    (current : Previous) where
  networkRate : NetworkRate
  memory : MemoryInfo
  load : LoadInfo
  systemInfo : SystemInfo
  disk : DiskInfo
  read : readPrevious agent seen.stat seen.netDev seen.networkTime seen.proc = .ok current
  rated : NetworkCollector.calculateRate previous.network current.network
    (elapsedSeconds previous.networkTime current.networkTime) = .ok networkRate
  remembered : MemoryCollector.collect seen.meminfo = .ok memory
  loaded : LoadCollector.collect seen.loadavg = .ok load
  named : SystemCollector.collect seen.hostname seen.uptime = .ok systemInfo
  mounted : DiskCollector.collect (ascii "/") seen.root = .ok disk

namespace Collection

def metrics {agent : MonitorAgent} {previous current : Previous} {seen : Seen}
    (c : Collection agent previous seen current) (order : UsageSort) : SystemMetrics ℚ :=
  buildMetrics agent (CpuCollector.calculateUsage previous.cpu current.cpu)
    (elapsedSeconds previous.networkTime current.networkTime) c.memory c.load c.systemInfo c.disk
    c.networkRate (calculateUsage order previous.processes current.processes
      (current.cpu.total - previous.cpu.total) c.memory.totalKB agent.cpuCount)

end Collection

/-- A pass that succeeds collected everything. -/
theorem sample_ok {order : UsageSort} {agent : MonitorAgent} {previous current : Previous}
    {seen : Seen} {metrics : SystemMetrics ℚ}
    (success : sample order agent previous seen = .ok (current, metrics)) :
    ∃ c : Collection agent previous seen current, metrics = c.metrics order := by
  obtain ⟨reading, read, success⟩ := bind_eq_ok success
  obtain ⟨networkRate, rated, success⟩ := bind_eq_ok success
  obtain ⟨memory, remembered, success⟩ := bind_eq_ok success
  obtain ⟨load, loaded, success⟩ := bind_eq_ok success
  obtain ⟨systemInfo, named, success⟩ := bind_eq_ok success
  obtain ⟨disk, mounted, success⟩ := bind_eq_ok success
  obtain ⟨rfl, rfl⟩ := Prod.mk.inj (Except.ok.inj success)
  exact ⟨⟨networkRate, memory, load, systemInfo, disk, read, rated, remembered, loaded, named,
    mounted⟩, rfl⟩

/-- A list of passes starts after this reading, and each pass starts from the one before it. -/
def Follows (order : UsageSort) (agent : MonitorAgent) (previous : Previous) :
    List (Previous × SystemMetrics ℚ) → Prop
  | [] => True
  | (current, metrics) :: passes =>
      (∃ seen, sample order agent previous seen = .ok (current, metrics)) ∧
        Follows order agent current passes

/-- This reading is the last one of some passes. -/
def latest (previous : Previous) (passes : List (Previous × SystemMetrics ℚ)) : Previous :=
  (passes.map Prod.fst).getLastD previous

/-- One more pass follows the latest reading. -/
theorem follows_snoc {order : UsageSort} {agent : MonitorAgent} {previous current : Previous}
    {passes : List (Previous × SystemMetrics ℚ)} {seen : Seen} {metrics : SystemMetrics ℚ}
    (known : Follows order agent previous passes)
    (success : sample order agent (latest previous passes) seen = .ok (current, metrics)) :
    Follows order agent previous (passes ++ [(current, metrics)]) := by
  induction passes generalizing previous with
  | nil => exact ⟨⟨seen, success⟩, trivial⟩
  | cons pass passes ih =>
      obtain ⟨reading, taken⟩ := pass
      simp only [latest, List.map_cons, List.getLastD_cons] at success
      exact ⟨known.1, ih known.2 success⟩

/-- The loop recorded linked passes, and its deadlines are multiples of the interval after the
start. -/
structure Recorded (order : UsageSort) (agent : MonitorAgent) (first : Previous)
    (startTime sampleInterval : Int) (s : SamplingLoop) : Prop where
  follows : Follows order agent first s.passes
  previous : s.previous = latest first s.passes
  nextSampleTime : s.nextSampleTime = startTime + (s.passes.length + 1) * sampleInterval
  paced : ∀ index (inside : index < s.passes.length),
    startTime + (index + 1) * sampleInterval ≤ (s.passes[index]).1.networkTime

theorem networkTime_sample {order : UsageSort} {agent : MonitorAgent}
    {previous current : Previous} {seen : Seen} {metrics : SystemMetrics ℚ}
    (success : sample order agent previous seen = .ok (current, metrics)) :
    current.networkTime = seen.networkTime := by
  obtain ⟨c, -⟩ := sample_ok success
  obtain ⟨cpu, _, read⟩ := bind_eq_ok c.read
  obtain ⟨network, _, read⟩ := bind_eq_ok read
  rw [← Except.ok.inj read]

/-- Every step of the loop keeps the record of its passes. -/
theorem recorded_step {order : UsageSort} {agent : MonitorAgent} {first : Previous}
    {startTime sampleInterval : Int} {s next : SamplingLoop} {action : SamplingLoop.Action}
    (taken : SamplingLoop.step order agent sampleInterval s action = some next)
    (known : Recorded order agent first startTime sampleInterval s) :
    Recorded order agent first startTime sampleInterval next := by
  obtain ⟨seen, current, metrics, due, success, rfl⟩ | ⟨part, rfl⟩ := SamplingLoop.step_cases taken
  · have time := networkTime_sample success
    rw [known.previous] at success
    constructor
    case follows => exact follows_snoc known.follows success
    case previous => simp [latest]
    case nextSampleTime =>
      show s.nextSampleTime + sampleInterval = _
      rw [known.nextSampleTime, List.length_append, List.length_singleton]
      push_cast
      ring
    case paced =>
      intro index inside
      simp only [List.length_append, List.length_singleton] at inside
      rcases Nat.lt_succ_iff_lt_or_eq.mp inside with earlier | last
      · simp only [List.getElem_append_left earlier]
        exact known.paced index earlier
      · subst last
        rw [List.getElem_concat_length rfl]
        rw [known.nextSampleTime] at due
        rw [time]
        exact due
  · exact ⟨known.follows, known.previous, known.nextSampleTime, known.paced⟩

namespace LoopRun

/-- The loop serializes these samples. -/
def samples (r : LoopRun) : List (SystemMetrics ℚ) := r.final.passes.map Prod.snd

/-- The passes of the loop read these counters. -/
def readings (r : LoopRun) : List Previous := r.final.passes.map Prod.fst

theorem recorded (r : LoopRun) :
    Recorded r.order r.agent r.first r.startTime (sampleInterval r.intervalSeconds) r.final := by
  apply run_invariant _ _ (fun _ _ _ taken known => recorded_step taken known) r.reached
  exact ⟨trivial, rfl, by simp, fun index inside => absurd inside (Nat.not_lt_zero index)⟩

end LoopRun

end LMonitor.MonitorAgent

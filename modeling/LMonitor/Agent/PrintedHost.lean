import LMonitor.Agent.SamplingLoop
import LMonitor.Collector.NetworkTables
import LMonitor.Collector.PrintedFiles

namespace LMonitor.MonitorAgent
open Library ProcessCollector NetworkCollector

/-- The kernel prints the files of a host, whose processes may end while they are read. -/
structure PrintedHost where
  stat : CpuCollector.StatFile
  devices : DeviceTable
  networkTime : Int
  processes : ShownProcesses
  memory : MemoryCollector.MemoryFile
  loads : LoadCollector.LoadFile
  hostname : Bytes
  noZero : 0 ∉ hostname
  behindName : Bytes
  uptime : SystemCollector.UptimeFile
  root : Statvfs

namespace PrintedHost

def seen (host : PrintedHost) : Seen where
  stat := some host.stat.text
  netDev := some host.devices.text
  networkTime := host.networkTime
  proc := host.processes.proc
  meminfo := some host.memory.text
  loadavg := some host.loads.text
  hostname := some (host.hostname ++ 0 :: host.behindName)
  uptime := some host.uptime.text
  root := some host.root

def reading (host : PrintedHost) (device : Device) : Previous :=
  ⟨host.stat.times, device.stats, host.networkTime, collectSnapshots host.processes.proc⟩

def disk (host : PrintedHost) : DiskInfo :=
  ⟨ascii "/", host.root.f_blocks * host.root.f_frsize,
    host.root.f_blocks * host.root.f_frsize - host.root.f_bfree * host.root.f_frsize,
    host.root.f_bavail * host.root.f_frsize⟩

/-- The sample has the figures of the host. -/
def figures (order : UsageSort) (agent : MonitorAgent) (previous : Previous) (host : PrintedHost)
    (device : Device) : SystemMetrics ℚ :=
  let interval := elapsedSeconds previous.networkTime host.networkTime
  buildMetrics agent (CpuCollector.calculateUsage previous.cpu host.stat.times) interval
    ⟨host.memory.totalKB, host.memory.availableKB⟩ host.loads.info
    ⟨host.hostname, UInt64.ofNat (host.uptime.uptime / 100)⟩ host.disk
    ⟨rate previous.network.rxBytes device.stats.rxBytes interval,
      rate previous.network.txBytes device.stats.txBytes interval⟩
    (calculateUsage order previous.processes (collectSnapshots host.processes.proc)
      (host.stat.times.total - previous.cpu.total) host.memory.totalKB agent.cpuCount)

end PrintedHost

/-- A pass over the printed files fails to parse one of them only when the kernel reports no
available memory. Else it throws only if the interface of the agent is gone or if the clock did not
advance, and otherwise its sample has the figures of the host as exact rationals. -/
theorem sample_printed (order : UsageSort) (agent : MonitorAgent) (previous : Previous)
    (host : PrintedHost) :
    sample order agent previous host.seen =
      match host.devices.devices.find? fun device =>
        device.interface.text = agent.networkInterface with
      | none => .error (ascii "Network interface not found: " ++ agent.networkInterface)
      | some device =>
          if elapsedSeconds previous.networkTime host.networkTime ≤ 0 then
            .error (ascii "Invalid network sampling interval")
          else if host.memory.totalKB = 0 ∨ host.memory.availableKB = 0 then
            .error (ascii "Failed to parse memory information")
          else .ok (host.reading device, host.figures order agent previous device) := by
  have system := SystemCollector.collect_text host.noZero host.behindName host.uptime
  simp only [sample, readPrevious, PrintedHost.seen, CpuCollector.readCpuTimes_text, collect_text]
  cases host.devices.devices.find? fun device =>
      device.interface.text = agent.networkInterface with
  | none => rfl
  | some device =>
      by_cases still : elapsedSeconds previous.networkTime host.networkTime ≤ 0
      · simp only [still, if_true]
        simp [bind, Except.bind, pure, Except.pure, calculateRate, still]
      · simp only [still, if_false]
        simp only [bind, Except.bind, pure, Except.pure, calculateRate, still, if_false,
          MemoryCollector.collect_text, LoadCollector.collect_text, system]
        by_cases missing : host.memory.totalKB = 0 ∨ host.memory.availableKB = 0
        · simp only [missing, if_true]
        · simp only [missing, if_false]
          rfl

/-- The host has this much available memory. -/
def loadHost (availableKB : UInt64) : PrintedHost where
  stat := ⟨⟨10, 0, 5, 300, 0, 0, 0, 0⟩, ascii " 0 0", [], by decide,
    fun _ starts => (Option.some.inj starts).symm⟩
  devices := loadDevices
  networkTime := 5000000000
  processes := loadProcesses
  memory := {
    totalBlanks := 8
    totalKB := 2000
    between := []
    others := List.forall_mem_nil _
    availableBlanks := 4
    availableKB := availableKB
    more := ascii "Buffers: 12 kB\n"
    silent := ⟨by decide +kernel, by decide +kernel⟩ }
  loads := ⟨25, 10, 5, ascii " 1/200 4000\n", fun _ starts => by
    rw [← Option.some.inj starts]
    rfl⟩
  hostname := ascii "a"
  noZero := by decide
  behindName := []
  uptime := ⟨123456, ascii " 99.00\n", fun _ starts => by
    rw [← Option.some.inj starts]
    rfl⟩
  root := ⟨4096, 100, 40, 30⟩

/-- The agent read these counters five seconds before. -/
def loadPrevious : Previous where
  cpu := ⟨0, 0, 0, 0, 0, 0, 0, 0⟩
  network := ⟨ascii "eth0", 4000, 300⟩
  networkTime := 0
  processes := []

/-- The loaded host gives its sample, and a host without available memory gives the parse error. -/
theorem sample_printed_load :
    sample UsageSort.merge ⟨ascii "eth0", 2⟩ loadPrevious (loadHost 500).seen =
      .ok ((loadHost 500).reading (loadDevice ethernet 5000 300),
        (loadHost 500).figures UsageSort.merge ⟨ascii "eth0", 2⟩ loadPrevious
          (loadDevice ethernet 5000 300)) ∧
    sample UsageSort.merge ⟨ascii "eth0", 2⟩ loadPrevious (loadHost 0).seen =
      .error (ascii "Failed to parse memory information") := by
  have later : ¬ elapsedSeconds 0 5000000000 ≤ 0 := by
    norm_num [elapsedSeconds, nanosecondsPerSecond]
  have found : loadDevices.devices.find? (fun device => device.interface.text = ascii "eth0") =
      some (loadDevice ethernet 5000 300) := rfl
  constructor
  · rw [sample_printed]
    simp only [loadHost, loadPrevious, found, later, if_false]
    rfl
  · rw [sample_printed]
    simp only [loadHost, loadPrevious, found, later, if_false]
    rfl

end LMonitor.MonitorAgent

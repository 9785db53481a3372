import LMonitor.Collector.CpuCollector
import LMonitor.Collector.DiskCollector
import LMonitor.Collector.MemoryCollector
import LMonitor.Collector.ProcessCollector
import LMonitor.Model.SystemMetrics

namespace LMonitor
open Library ProcessCollector

/-- A rational number stands for a finite double, and its operations are exact. -/
instance : Double ℚ where
  ofNat value := value
  le left right := left ≤ right
  lt left right := left < right
  isFinite _ := true

structure LoadInfo where
  load1 : ℚ := 0
  load5 : ℚ := 0
  load15 : ℚ := 0

structure SystemInfo where
  hostname : Bytes
  uptimeSeconds : UInt64 := 0

structure NetworkRate where
  rxBytesPerSecond : ℚ := 0
  txBytesPerSecond : ℚ := 0

/-- The constructor of the agent sets these members. -/
structure MonitorAgent where
  networkInterface : Bytes
  cpuCount : UInt64

namespace MonitorAgent

def processMetric (process : ProcessInfo) : ProcessMetric ℚ where
  pid := process.pid
  name := process.name
  cpuUsagePercent := process.cpuUsage
  memoryUsagePercent := process.memoryUsage
  residentMemoryKB := process.residentMemoryKB

def buildMetrics (agent : MonitorAgent) (cpuUsage actualIntervalSeconds : ℚ) (memory : MemoryInfo)
    (load : LoadInfo) (systemInfo : SystemInfo) (disk : DiskInfo) (networkRate : NetworkRate)
    (processes : List ProcessInfo) : SystemMetrics ℚ :=
  let topCount := min 5 processes.length
  { hostname := systemInfo.hostname
    uptimeSeconds := systemInfo.uptimeSeconds
    logicalCpuCount := agent.cpuCount
    cpuUsagePercent := cpuUsage
    memoryTotalKB := memory.totalKB
    memoryUsedKB := memory.usedKB
    memoryAvailableKB := memory.availableKB
    memoryUsagePercent := memory.usagePercent
    load1 := load.load1
    load5 := load.load5
    load15 := load.load15
    diskMountPoint := disk.mountPoint
    diskTotalBytes := disk.totalBytes
    diskUsedBytes := disk.usedBytes
    diskAvailableBytes := disk.availableBytes
    diskUsagePercent := disk.usagePercent
    networkInterface := agent.networkInterface
    networkRxBytesPerSecond := networkRate.rxBytesPerSecond
    networkTxBytesPerSecond := networkRate.txBytesPerSecond
    sampleIntervalSeconds := actualIntervalSeconds
    topProcesses := (processes.take topCount).map processMetric }

/-- This is everything beside the processes that the loop hands to `buildMetrics`. -/
structure Collected where
  agent : MonitorAgent
  cpuUsage : ℚ
  actualIntervalSeconds : ℚ
  memory : MemoryInfo
  load : LoadInfo
  systemInfo : SystemInfo
  disk : DiskInfo
  networkRate : NetworkRate

def Collected.topProcesses (c : Collected) (processes : List ProcessInfo) :
    List (ProcessMetric ℚ) :=
  (buildMetrics c.agent c.cpuUsage c.actualIntervalSeconds c.memory c.load c.systemInfo c.disk
    c.networkRate processes).topProcesses

/-- The sample keeps the first five processes. -/
theorem topProcesses_eq (c : Collected) (processes : List ProcessInfo) :
    c.topProcesses processes = (processes.take 5).map processMetric := by
  change (processes.take (min 5 processes.length)).map processMetric = _
  rw [← List.take_take, List.take_length]

/-- A process number is listed exactly if it belongs to one of the first five entries. -/
theorem mem_listed (c : Collected) (processes : List ProcessInfo) (pid : Int32) :
    pid ∈ (c.topProcesses processes).map ProcessMetric.pid ↔
      ∃ info ∈ processes.take 5, info.pid = pid := by
  rw [topProcesses_eq, List.map_map, List.mem_map]
  rfl

/-- The entry of a listed process is one of the first five. -/
theorem entry_mem_take {order : UsageSort} {s : Snapshots} {t : Totals} {c : Collected}
    {old new : ProcessSnapshot} (eligible : s.Eligible old new)
    (listed : new.pid ∈ (c.topProcesses (usages order s t)).map ProcessMetric.pid) :
    t.entry old new ∈ (usages order s t).take 5 := by
  obtain ⟨info, first, same⟩ := (mem_listed _ _ _).mp listed
  have entry := (mem_usages order s t _).mpr ⟨old, new, eligible, rfl⟩
  have distinct := usages_nodup order s t
  rwa [← List.inj_on_of_nodup_map distinct (List.mem_of_mem_take first) entry same]

/-- The entry of a process that is not listed stands behind the first five. -/
theorem entry_mem_drop {order : UsageSort} {s : Snapshots} {t : Totals} {c : Collected}
    {old new : ProcessSnapshot} (eligible : s.Eligible old new)
    (leftOut : new.pid ∉ (c.topProcesses (usages order s t)).map ProcessMetric.pid) :
    t.entry old new ∈ (usages order s t).drop 5 := by
  have entry := (mem_usages order s t _).mpr ⟨old, new, eligible, rfl⟩
  rw [← List.take_append_drop 5 (usages order s t)] at entry
  obtain first | later := List.mem_append.mp entry
  · exact absurd ((mem_listed _ _ _).mpr ⟨_, first, rfl⟩) leftOut
  · exact later

/-- The usages have one entry for every eligible process and no other one, in the order of the
usage. The agent lists the first five of them, and no eligible process that it leaves out took more
time than one that it lists. -/
theorem topProcesses_exact (order : UsageSort) (s : Snapshots) (t : Totals) (c : Collected) :
    let usage := usages order s t
    let listed := c.topProcesses usage
    (∀ info, info ∈ usage ↔ ∃ old new, s.Eligible old new ∧ info = t.entry old new) ∧
    0 < t.factor ∧ (usage.map ProcessInfo.pid).Nodup ∧
    usage.Pairwise (fun first second => second.cpuUsage ≤ first.cpuUsage) ∧
    listed = (usage.take 5).map processMetric ∧ listed.length = min 5 usage.length ∧
    ∀ old new oldOther newOther, s.Eligible old new → s.Eligible oldOther newOther →
      new.pid ∈ listed.map ProcessMetric.pid → newOther.pid ∉ listed.map ProcessMetric.pid →
      cpuTime oldOther newOther ≤ cpuTime old new := by
  intro usage listed
  refine ⟨mem_usages order s t, t.factor_pos, usages_nodup order s t,
    usages_sorted order s t, topProcesses_eq c usage, ?_, ?_⟩
  · have same : listed = (usage.take 5).map processMetric := topProcesses_eq c usage
    rw [same, List.length_map, List.length_take]
  · intro old new oldOther newOther eligible otherEligible isListed leftOut
    have kept := entry_mem_take eligible isListed
    have behind := entry_mem_drop otherEligible leftOut
    have less := pairwise_take_drop (usages_sorted order s t) 5 kept behind
    exact (entry_le_iff t _ _ _ _).mp less

/-- A process was shown with these figures, and later with thirty clock ticks more. -/
def loadSnapshot (residentMemoryKB : UInt64) (userTime : UInt64) : ProcessSnapshot where
  pid := 7
  name := ascii "worker"
  userTime := userTime
  startTime := 3
  residentMemoryKB := residentMemoryKB

def loadSnapshots : Snapshots where
  previous := [loadSnapshot 100 20]
  current := [loadSnapshot 200 50]
  previousDistinct := List.nodup_singleton _
  currentDistinct := List.nodup_singleton _

def loadTotals : Totals where
  totalCpuDelta := 60
  totalMemoryKB := 400
  cpuCount := 2
  cpuDeltaPositive := by decide
  memoryPositive := by decide
  cpuCountPositive := by decide

def loadCollected : Collected where
  agent := ⟨ascii "eth0", 2⟩
  cpuUsage := 50
  actualIntervalSeconds := 1
  memory := ⟨400, 100⟩
  load := {}
  systemInfo := ⟨ascii "a", 60⟩
  disk := ⟨ascii "/", 10, 4, 5⟩
  networkRate := {}

/-- One process used the processor between the two snapshots. -/
theorem topProcesses_exact_load :
    loadTotals.entry (loadSnapshot 100 20) (loadSnapshot 200 50) ∈
        usages UsageSort.merge loadSnapshots loadTotals ∧
      loadCollected.topProcesses (usages UsageSort.merge loadSnapshots loadTotals) =
        ((usages UsageSort.merge loadSnapshots loadTotals).take 5).map processMetric := by
  obtain ⟨entries, _, _, _, listed, _⟩ :=
    topProcesses_exact UsageSort.merge loadSnapshots loadTotals loadCollected
  have eligible : loadSnapshots.Eligible (loadSnapshot 100 20) (loadSnapshot 200 50) :=
    ⟨List.mem_singleton.mpr rfl, List.mem_singleton.mpr rfl, rfl, rfl, by decide⟩
  exact ⟨(entries _).mpr ⟨_, _, eligible, rfl⟩, listed⟩

end MonitorAgent
end LMonitor

import LMonitor.Model.Double

namespace LMonitor

/-- A process record belongs to one of the busiest processes of a host. -/
structure ProcessMetric (D : Type) [Double D] where
  pid : Int32 := 0
  name : Bytes := []
  cpuUsagePercent : D := Double.ofNat 0
  memoryUsagePercent : D := Double.ofNat 0
  residentMemoryKB : UInt64 := 0
  deriving DecidableEq

/-- One sample describes one host. -/
structure SystemMetrics (D : Type) [Double D] where
  hostname : Bytes := []
  uptimeSeconds : UInt64 := 0
  logicalCpuCount : UInt64 := 0
  cpuUsagePercent : D := Double.ofNat 0
  memoryTotalKB : UInt64 := 0
  memoryUsedKB : UInt64 := 0
  memoryAvailableKB : UInt64 := 0
  memoryUsagePercent : D := Double.ofNat 0
  load1 : D := Double.ofNat 0
  load5 : D := Double.ofNat 0
  load15 : D := Double.ofNat 0
  diskMountPoint : Bytes := []
  diskTotalBytes : UInt64 := 0
  diskUsedBytes : UInt64 := 0
  diskAvailableBytes : UInt64 := 0
  diskUsagePercent : D := Double.ofNat 0
  networkInterface : Bytes := []
  networkRxBytesPerSecond : D := Double.ofNat 0
  networkTxBytesPerSecond : D := Double.ofNat 0
  sampleIntervalSeconds : D := Double.ofNat 0
  topProcesses : List (ProcessMetric D) := []
  deriving DecidableEq

end LMonitor

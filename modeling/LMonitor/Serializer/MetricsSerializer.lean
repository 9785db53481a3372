import LMonitor.Model.SystemMetrics
import LMonitor.Serializer.DoubleText

namespace LMonitor
variable {D : Type} [DoubleText D]

/-- A vector counts its elements in a 64-bit number. -/
def vectorSize {A : Type} (list : List A) : UInt64 := UInt64.ofNat list.length

namespace MetricsSerializer

/-- Each scalar field takes one line. -/
def line (key : String) (value : Bytes) : Bytes := ascii key ++ ascii "=" ++ value ++ [10]

def printUnsigned (value : UInt64) : Bytes := decimal value.toNat

def processLine (process : ProcessMetric D) : Bytes :=
  ascii "process=" ++ decimalInt process.pid.toInt ++ ascii "," ++
    DoubleText.fixed2 process.cpuUsagePercent ++ ascii "," ++
    DoubleText.fixed2 process.memoryUsagePercent ++ ascii "," ++
    printUnsigned process.residentMemoryKB ++ ascii "," ++ process.name ++ [10]

def serialize (metrics : SystemMetrics D) : Bytes :=
  ascii "LMONITOR/1" ++ [10] ++
    line "hostname" metrics.hostname ++
    line "uptime_seconds" (printUnsigned metrics.uptimeSeconds) ++
    line "logical_cpus" (printUnsigned metrics.logicalCpuCount) ++
    line "cpu_usage_percent" (DoubleText.fixed2 metrics.cpuUsagePercent) ++
    line "memory_total_kb" (printUnsigned metrics.memoryTotalKB) ++
    line "memory_used_kb" (printUnsigned metrics.memoryUsedKB) ++
    line "memory_available_kb" (printUnsigned metrics.memoryAvailableKB) ++
    line "memory_usage_percent" (DoubleText.fixed2 metrics.memoryUsagePercent) ++
    line "load_1" (DoubleText.fixed2 metrics.load1) ++
    line "load_5" (DoubleText.fixed2 metrics.load5) ++
    line "load_15" (DoubleText.fixed2 metrics.load15) ++
    line "disk_mount" metrics.diskMountPoint ++
    line "disk_total_bytes" (printUnsigned metrics.diskTotalBytes) ++
    line "disk_used_bytes" (printUnsigned metrics.diskUsedBytes) ++
    line "disk_available_bytes" (printUnsigned metrics.diskAvailableBytes) ++
    line "disk_usage_percent" (DoubleText.fixed2 metrics.diskUsagePercent) ++
    line "network_interface" metrics.networkInterface ++
    line "network_rx_bytes_per_second" (DoubleText.fixed2 metrics.networkRxBytesPerSecond) ++
    line "network_tx_bytes_per_second" (DoubleText.fixed2 metrics.networkTxBytesPerSecond) ++
    line "sample_interval_seconds" (DoubleText.fixed2 metrics.sampleIntervalSeconds) ++
    line "process_count" (printUnsigned (vectorSize metrics.topProcesses)) ++
    metrics.topProcesses.flatMap processLine

end MetricsSerializer
end LMonitor

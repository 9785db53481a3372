import LMonitor.Alert.AlertManager
import LMonitor.Http.DoubleStream
import LMonitor.Serializer.MetricsSerializer
import LMonitor.Store.MetricsHistoryStore
import LMonitor.Store.MetricsStore

namespace LMonitor.HttpServer
open Library
open MetricsSerializer (printUnsigned)
open DoubleStream (general)
variable {D : Type}

/-- The switch escapes five bytes and copies all others. -/
def escapeByte : UInt8 → Bytes
  | 92 => ascii "\\\\"
  | 34 => ascii "\\\""
  | 10 => ascii "\\n"
  | 13 => ascii "\\r"
  | 9 => ascii "\\t"
  | byte => [byte]

def jsonEscape (value : Bytes) : Bytes := value.flatMap escapeByte

/-- The loops over hosts and alerts write a comma before every item but the first one. -/
def writeItems {A : Type} (write : A → Bytes) : Bool → List A → Bytes
  | _, [] => []
  | first, item :: items =>
      (if first then [] else ascii ",") ++ write item ++ writeItems write false items

variable [Double D] [DoubleStream D]

/-- One pass of the loop over the hosts writes these pieces. -/
def writeHost (host : StoredMetrics D) : Bytes :=
  [ascii "\x7b",
    ascii "\"hostname\":\"", jsonEscape host.metrics.hostname, ascii "\",",
    ascii "\"cpu\":", general host.metrics.cpuUsagePercent, ascii ",",
    ascii "\"memory\":", general host.metrics.memoryUsagePercent, ascii ",",
    ascii "\"load1\":", general host.metrics.load1, ascii ",",
    ascii "\"uptime\":", printUnsigned host.metrics.uptimeSeconds,
    ascii "\x7d"].flatten

def buildHostsJson (store : MetricsStore D) : Bytes :=
  ascii "[" ++ writeItems writeHost true store.getAll ++ ascii "]"

/-- The detail of a host has the nested objects `load`, `disk` and `network`. -/
def writeDetail (metrics : SystemMetrics D) : Bytes :=
  [ascii "\x7b",
    ascii "\"hostname\":\"", jsonEscape metrics.hostname, ascii "\",",
    ascii "\"cpu\":", general metrics.cpuUsagePercent, ascii ",",
    ascii "\"memory\":", general metrics.memoryUsagePercent, ascii ",",
    ascii "\"uptime_seconds\":", printUnsigned metrics.uptimeSeconds, ascii ",",
    ascii "\"logical_cpus\":", printUnsigned metrics.logicalCpuCount, ascii ",",
    ascii "\"load\":\x7b",
    ascii "\"load1\":", general metrics.load1, ascii ",",
    ascii "\"load5\":", general metrics.load5, ascii ",",
    ascii "\"load15\":", general metrics.load15,
    ascii "\x7d,",
    ascii "\"disk\":\x7b",
    ascii "\"usage_percent\":", general metrics.diskUsagePercent,
    ascii "\x7d,",
    ascii "\"network\":\x7b",
    ascii "\"interface\":\"", jsonEscape metrics.networkInterface, ascii "\"",
    ascii "\x7d",
    ascii "\x7d"].flatten

/-- A host without a record has the empty object. -/
def buildHostDetailJson (hostname : Bytes) (store : MetricsStore D) : Bytes :=
  match store.getLatest hostname with
  | none => ascii "\x7b\x7d"
  | some stored => writeDetail stored.metrics

def stateText : AlertState → Bytes
  | .pending => ascii "PENDING"
  | .firing => ascii "FIRING"
  | .normal => ascii "NORMAL"

omit [Double D] in
/-- One pass of the loop over the alerts writes these pieces. -/
def writeAlert (alert : ManagedAlert D) : Bytes :=
  [ascii "\x7b",
    ascii "\"hostname\":\"", jsonEscape alert.hostname, ascii "\",",
    ascii "\"metric\":\"", jsonEscape alert.metric, ascii "\",",
    ascii "\"state\":\"", stateText alert.state, ascii "\",",
    ascii "\"current_value\":", general alert.currentValue, ascii ",",
    ascii "\"threshold\":", general alert.threshold, ascii ",",
    ascii "\"message\":\"", jsonEscape alert.message, ascii "\"",
    ascii "\x7d"].flatten

def buildAlertsJson (alertManager : AlertManager D) : Bytes :=
  ascii "[" ++ writeItems writeAlert true alertManager.getActiveAlerts ++ ascii "]"

omit [Double D] in
/-- One pass of the loop over the history writes these pieces. -/
def writePoint (point : MetricsHistoryPoint D) : Bytes :=
  [ascii "\x7b",
    ascii "\"timestamp\":", decimalInt point.timestampMs, ascii ",",
    ascii "\"cpu\":", general point.cpuUsagePercent, ascii ",",
    ascii "\"memory\":", general point.memoryUsagePercent,
    ascii "\x7d"].flatten

omit [Double D] in
def buildHostHistoryJson (hostname : Bytes) (historyStore : MetricsHistoryStore D) : Bytes :=
  ascii "[" ++ writeItems writePoint true (historyStore.get hostname) ++ ascii "]"

end LMonitor.HttpServer

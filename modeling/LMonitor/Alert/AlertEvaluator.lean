import LMonitor.Model.SystemMetrics

namespace LMonitor
variable {D : Type} [Double D]

inductive AlertLevel where
  | warning
  | critical
  deriving DecidableEq

/-- A raw alert reports one measured value that reached its threshold. -/
structure Alert (D : Type) where
  hostname : Bytes
  metric : Bytes
  level : AlertLevel
  currentValue : D
  threshold : D
  message : Bytes

namespace AlertEvaluator

def diskCriticalThreshold : D := Double.ofNat 90

/-- Each of the three checks of the evaluator appends one alert or none. -/
def check (hostname metric : Bytes) (level : AlertLevel) (currentValue threshold : D)
    (message : Bytes) : List (Alert D) :=
  if Double.le threshold currentValue then
    [⟨hostname, metric, level, currentValue, threshold, message⟩]
  else []

def evaluate (metrics : SystemMetrics D) (cpuThreshold memoryThreshold : D) : List (Alert D) :=
  check metrics.hostname (ascii "cpu") .warning metrics.cpuUsagePercent cpuThreshold
      (ascii "CPU usage exceeded warning threshold") ++
    check metrics.hostname (ascii "memory") .warning metrics.memoryUsagePercent memoryThreshold
      (ascii "Memory usage exceeded warning threshold") ++
    check metrics.hostname (ascii "disk") .critical metrics.diskUsagePercent diskCriticalThreshold
      (ascii "Disk usage exceeded critical threshold")

end AlertEvaluator
end LMonitor

import LMonitor.Library.Percentage

namespace LMonitor
open Library

/-- These counters of the first line of `/proc/stat` count clock ticks. -/
structure CpuTimes where
  user : UInt64 := 0
  nice : UInt64 := 0
  system : UInt64 := 0
  idle : UInt64 := 0
  iowait : UInt64 := 0
  irq : UInt64 := 0
  softirq : UInt64 := 0
  steal : UInt64 := 0
  deriving DecidableEq

namespace CpuTimes

def total (times : CpuTimes) : UInt64 :=
  times.user + times.nice + times.system + times.idle + times.iowait + times.irq + times.softirq +
    times.steal

def idleTime (times : CpuTimes) : UInt64 := times.idle + times.iowait

/-- The busy time is what the total has beyond the idle time. -/
def busyTime (times : CpuTimes) : UInt64 :=
  times.user + times.nice + times.system + times.irq + times.softirq + times.steal

theorem total_eq (times : CpuTimes) : times.total = times.busyTime + times.idleTime := by
  simp only [total, busyTime, idleTime]
  ac_rfl

end CpuTimes

namespace CpuCollector

def calculateUsage (previous current : CpuTimes) : ℚ :=
  let totalDelta := current.total - previous.total
  let idleDelta := current.idleTime - previous.idleTime
  percentage (totalDelta - idleDelta) totalDelta

/-- A sum of counters grows from one reading to the next one modulo 2^64. -/
def growth (counter : CpuTimes → UInt64) (previous current : CpuTimes) : UInt64 :=
  counter current - counter previous

/-- The growth of the total is that of its two parts. -/
theorem totalDelta_eq (previous current : CpuTimes) :
    current.total - previous.total =
      growth CpuTimes.busyTime previous current + growth CpuTimes.idleTime previous current := by
  simp only [growth, CpuTimes.total_eq]
  grind

/-- The usage is the share of the growth of the busy time. -/
theorem calculateUsage_eq (previous current : CpuTimes) :
    calculateUsage previous current =
      percentage (growth CpuTimes.busyTime previous current)
        (growth CpuTimes.busyTime previous current +
          growth CpuTimes.idleTime previous current) := by
  have idleDelta : current.idleTime - previous.idleTime =
      growth CpuTimes.idleTime previous current := rfl
  simp only [calculateUsage, totalDelta_eq, idleDelta]
  congr 1
  grind

/-- The usage is between 0 and 100 exactly if the busy and the idle time together grow by at most
2^64 ticks. -/
theorem calculateUsage_range_iff (previous current : CpuTimes) :
    IsPercentage (calculateUsage previous current) ↔
      (growth CpuTimes.busyTime previous current).toNat +
        (growth CpuTimes.idleTime previous current).toNat ≤ 18446744073709551616 := by
  rw [calculateUsage_eq]
  exact isPercentage_share_iff _ _

/-- The busy time goes back by one tick while the idle time grows by two. -/
theorem busy_back_out_of_range :
    let previous : CpuTimes := { user := 1 }
    let current : CpuTimes := { idle := 2 }
    calculateUsage previous current = 1844674407370955161500 ∧
      ¬ IsPercentage (calculateUsage previous current) := by
  decide +kernel

end CpuCollector
end LMonitor

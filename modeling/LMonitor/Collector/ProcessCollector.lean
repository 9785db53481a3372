import LMonitor.Library.Bytes
import LMonitor.Library.Sorting
import LMonitor.Library.UnorderedMap
import Mathlib.Algebra.Order.Field.Rat
import Mathlib.Tactic.Positivity
import Mathlib.Tactic.Ring

namespace LMonitor
open Library

structure ProcessSnapshot where
  pid : Int32 := 0
  name : Bytes
  userTime : UInt64 := 0
  systemTime : UInt64 := 0
  startTime : UInt64 := 0
  residentMemoryKB : UInt64 := 0
  deriving DecidableEq

def ProcessSnapshot.totalCpuTime (process : ProcessSnapshot) : UInt64 :=
  process.userTime + process.systemTime

structure ProcessInfo where
  pid : Int32 := 0
  name : Bytes
  cpuUsage : ℚ := 0
  memoryUsage : ℚ := 0
  residentMemoryKB : UInt64 := 0
  deriving DecidableEq

namespace ProcessCollector

/-- The comparison puts the larger usage in front. -/
def usesMore (a b : ProcessInfo) : Bool := b.cpuUsage < a.cpuUsage

abbrev UsageSort := StandardSort usesMore

/-- The order of the sort is that of the usages. -/
theorem usesMore_eq_false_iff (a b : ProcessInfo) :
    usesMore a b = false ↔ a.cpuUsage ≤ b.cpuUsage := by
  rw [usesMore, decide_eq_false_iff_not, not_lt]

/-- The merge sort meets the assumption. -/
def UsageSort.merge : UsageSort :=
  StandardSort.merge usesMore
    (fun _ _ _ less lessNext => (usesMore_eq_false_iff _ _).mpr
      (((usesMore_eq_false_iff _ _).mp lessNext).trans ((usesMore_eq_false_iff _ _).mp less)))
    (fun _ _ more => (usesMore_eq_false_iff _ _).mpr (of_decide_eq_true more).le)

/-- This is one pass of the loop over the current processes, which may skip its process. -/
def usageOf (previousByPid : UnorderedMap Int32 ProcessSnapshot)
    (totalCpuDelta totalMemoryKB cpuCount : UInt64) (currentProcess : ProcessSnapshot) :
    Option ProcessInfo :=
  match previousByPid.lookup currentProcess.pid with
  | none => none
  | some previousProcess =>
      if currentProcess.startTime ≠ previousProcess.startTime then none
      else if currentProcess.totalCpuTime < previousProcess.totalCpuTime then none
      else
        let processCpuDelta := currentProcess.totalCpuTime - previousProcess.totalCpuTime
        some {
          pid := currentProcess.pid
          name := currentProcess.name
          residentMemoryKB := currentProcess.residentMemoryKB
          cpuUsage := 100 * processCpuDelta.toNat / totalCpuDelta.toNat * cpuCount.toNat
          memoryUsage := 100 * currentProcess.residentMemoryKB.toNat / totalMemoryKB.toNat }

def calculateUsage (order : UsageSort) (previous current : List ProcessSnapshot)
    (totalCpuDelta totalMemoryKB cpuCount : UInt64) : List ProcessInfo :=
  if totalCpuDelta = 0 ∨ totalMemoryKB = 0 ∨ cpuCount = 0 then []
  else
    let previousByPid := UnorderedMap.indexBy ProcessSnapshot.pid previous
    order.sort (current.filterMap (usageOf previousByPid totalCpuDelta totalMemoryKB cpuCount))

/-- Each snapshot list has at most one process for a process number. -/
structure Snapshots where
  previous : List ProcessSnapshot
  current : List ProcessSnapshot
  previousDistinct : (previous.map ProcessSnapshot.pid).Nodup
  currentDistinct : (current.map ProcessSnapshot.pid).Nodup

/-- The totals of a sample are not zero. -/
structure Totals where
  totalCpuDelta : UInt64
  totalMemoryKB : UInt64
  cpuCount : UInt64
  cpuDeltaPositive : totalCpuDelta ≠ 0
  memoryPositive : totalMemoryKB ≠ 0
  cpuCountPositive : cpuCount ≠ 0

/-- The process was in both snapshots and its time did not go back. -/
structure Snapshots.Eligible (s : Snapshots) (old new : ProcessSnapshot) : Prop where
  before : old ∈ s.previous
  now : new ∈ s.current
  same : old.pid = new.pid
  started : new.startTime = old.startTime
  grown : old.totalCpuTime ≤ new.totalCpuTime

/-- The process took so many clock ticks between its two snapshots. -/
def cpuTime (old new : ProcessSnapshot) : Nat := new.totalCpuTime.toNat - old.totalCpuTime.toNat

/-- Every clock tick of a process counts for the same percentage. -/
def Totals.factor (t : Totals) : ℚ := 100 / t.totalCpuDelta.toNat * t.cpuCount.toNat

/-- The entry of a process has its current name and memory and its scaled time. -/
def Totals.entry (t : Totals) (old new : ProcessSnapshot) : ProcessInfo where
  pid := new.pid
  name := new.name
  cpuUsage := t.factor * cpuTime old new
  memoryUsage := 100 * new.residentMemoryKB.toNat / t.totalMemoryKB.toNat
  residentMemoryKB := new.residentMemoryKB

theorem Totals.factor_pos (t : Totals) : 0 < t.factor := by
  have delta : 0 < t.totalCpuDelta.toNat :=
    Nat.pos_of_ne_zero fun zero => t.cpuDeltaPositive (UInt64.toNat_inj.mp zero)
  have count : 0 < t.cpuCount.toNat :=
    Nat.pos_of_ne_zero fun zero => t.cpuCountPositive (UInt64.toNat_inj.mp zero)
  unfold Totals.factor
  positivity

def Snapshots.usage (s : Snapshots) (t : Totals) : ProcessSnapshot → Option ProcessInfo :=
  usageOf (UnorderedMap.indexBy ProcessSnapshot.pid s.previous) t.totalCpuDelta t.totalMemoryKB
    t.cpuCount

/-- The difference of the times does not wrap, and the factor comes out of the quotient. -/
theorem scaled_cpuTime (t : Totals) {old new : ProcessSnapshot}
    (grown : old.totalCpuTime ≤ new.totalCpuTime) :
    100 * ((new.totalCpuTime - old.totalCpuTime).toNat : ℚ) / t.totalCpuDelta.toNat *
      t.cpuCount.toNat = t.factor * cpuTime old new := by
  rw [UInt64.toNat_sub_of_le _ _ grown, Totals.factor, cpuTime]
  ring

/-- A pass of the loop gives the entry of an eligible process and skips every other one. -/
theorem usage_eq_some (s : Snapshots) (t : Totals) {new : ProcessSnapshot}
    (now : new ∈ s.current) (info : ProcessInfo) :
    s.usage t new = some info ↔ ∃ old, s.Eligible old new ∧ info = t.entry old new := by
  have found := UnorderedMap.lookup_indexBy s.previousDistinct new.pid
  constructor
  · intro used
    simp only [Snapshots.usage, usageOf] at used
    split at used
    · cases used
    · rename_i old lookup
      split at used
      · cases used
      · rename_i started
        split at used
        · cases used
        · rename_i grown
          obtain ⟨before, same⟩ := (found old).mp lookup
          have order : old.totalCpuTime ≤ new.totalCpuTime := UInt64.not_lt.mp grown
          refine ⟨old, ⟨before, now, same, not_not.mp started, order⟩, ?_⟩
          rw [← Option.some.inj used, Totals.entry, ← scaled_cpuTime t order]
  · rintro ⟨old, eligible, rfl⟩
    have lookup := (found old).mpr ⟨eligible.before, eligible.same⟩
    have started : ¬ new.startTime ≠ old.startTime := not_not.mpr eligible.started
    have grown : ¬ new.totalCpuTime < old.totalCpuTime := UInt64.not_lt.mpr eligible.grown
    simp only [Snapshots.usage, usageOf, lookup, started, grown, if_false,
      scaled_cpuTime t eligible.grown]
    rfl

/-- The usage orders two entries as their times do. -/
theorem entry_le_iff (t : Totals) (old new oldOther newOther : ProcessSnapshot) :
    (t.entry old new).cpuUsage ≤ (t.entry oldOther newOther).cpuUsage ↔
      cpuTime old new ≤ cpuTime oldOther newOther := by
  simp only [Totals.entry]
  rw [mul_le_mul_iff_of_pos_left t.factor_pos, Nat.cast_le]

/-- These are the usages of the two snapshot lists. -/
def usages (order : UsageSort) (s : Snapshots) (t : Totals) : List ProcessInfo :=
  calculateUsage order s.previous s.current t.totalCpuDelta t.totalMemoryKB t.cpuCount

theorem usages_eq (order : UsageSort) (s : Snapshots) (t : Totals) :
    usages order s t = order.sort (s.current.filterMap (s.usage t)) := by
  have nonzero : ¬ (t.totalCpuDelta = 0 ∨ t.totalMemoryKB = 0 ∨ t.cpuCount = 0) := by
    simp [t.cpuDeltaPositive, t.memoryPositive, t.cpuCountPositive]
  simp only [usages, calculateUsage, nonzero, if_false]
  rfl

/-- The usages are those of the eligible pairs. -/
theorem mem_usages (order : UsageSort) (s : Snapshots) (t : Totals) (info : ProcessInfo) :
    info ∈ usages order s t ↔ ∃ old new, s.Eligible old new ∧ info = t.entry old new := by
  rw [usages_eq, (order.perm _).mem_iff, List.mem_filterMap]
  constructor
  · rintro ⟨new, now, used⟩
    obtain ⟨old, entry⟩ := (usage_eq_some s t now info).mp used
    exact ⟨old, new, entry⟩
  · rintro ⟨old, new, eligible, same⟩
    exact ⟨new, eligible.now, (usage_eq_some s t eligible.now info).mpr ⟨old, eligible, same⟩⟩

/-- The entries of a list of processes keep its process numbers in their order. -/
theorem pids_sublist (s : Snapshots) (t : Totals) {processes : List ProcessSnapshot}
    (now : ∀ process ∈ processes, process ∈ s.current) :
    ((processes.filterMap (s.usage t)).map ProcessInfo.pid).Sublist
      (processes.map ProcessSnapshot.pid) := by
  induction processes with
  | nil => exact .slnil
  | cons new processes ih =>
      have rest := ih fun process member => now process (List.mem_cons_of_mem new member)
      cases used : s.usage t new with
      | none =>
          rw [List.filterMap_cons_none used, List.map_cons]
          exact rest.cons _
      | some info =>
          obtain ⟨old, _, rfl⟩ := (usage_eq_some s t (now new List.mem_cons_self) info).mp used
          rw [List.filterMap_cons_some used, List.map_cons, List.map_cons]
          exact rest.cons_cons _

/-- No process is listed twice. -/
theorem usages_nodup (order : UsageSort) (s : Snapshots) (t : Totals) :
    ((usages order s t).map ProcessInfo.pid).Nodup := by
  rw [usages_eq, ((order.perm _).map _).nodup_iff]
  exact s.currentDistinct.sublist (pids_sublist s t fun _ member => member)

/-- The usages are in falling order. -/
theorem usages_sorted (order : UsageSort) (s : Snapshots) (t : Totals) :
    (usages order s t).Pairwise fun first second => second.cpuUsage ≤ first.cpuUsage := by
  rw [usages_eq]
  apply (order.sorted _).imp
  intro first second notBefore
  exact (usesMore_eq_false_iff second first).mp notBefore

end ProcessCollector
end LMonitor

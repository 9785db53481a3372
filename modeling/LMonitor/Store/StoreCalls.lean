import LMonitor.Library.StampedLog
import LMonitor.Store.MetricsHistoryStore
import LMonitor.Store.MetricsStore

namespace LMonitor
open Library
variable {D : Type} [Double D]

/-- A worker calls `MetricsHistoryStore::add` or `MetricsStore::update`. -/
inductive StoreCall (D : Type) [Double D] where
  | add (hostname : Bytes) (cpuUsagePercent memoryUsagePercent : D)
  | update (metrics : SystemMetrics D)

namespace StoreCall

def hostname : StoreCall D → Bytes
  | .add hostname _ _ => hostname
  | .update metrics => metrics.hostname

/-- An addition appends its point under its own clock reading. -/
def insertHistory (reading : Int) (call : StoreCall D) (store : MetricsHistoryStore D) :
    MetricsHistoryStore D :=
  match call with
  | .add hostname cpuUsagePercent memoryUsagePercent =>
      store.add reading hostname cpuUsagePercent memoryUsagePercent
  | .update _ => store

/-- An update replaces the record under its own clock reading. -/
def insertMetrics (reading : Int) (call : StoreCall D) (store : MetricsStore D) :
    MetricsStore D :=
  match call with
  | .add _ _ _ => store
  | .update metrics =>
      match MetricsStore.update reading metrics store with
      | .error _ => store
      | .ok next => next

end StoreCall

/-- A call reads the clock before it waits for the mutex of its store. -/
structure StoreCalls (Caller D : Type) [Double D] where
  clock : Int
  calls : Caller → Option (StoreCall D × Int)
  historyStore : MetricsHistoryStore D
  metricsStore : MetricsStore D

namespace StoreCalls
variable {Caller : Type} [DecidableEq Caller]

inductive Action (Caller D : Type) [Double D] where
  | read (caller : Caller) (call : StoreCall D) (now : Int)
  | insert (caller : Caller)

/-- A call for an empty host name returns or throws before it reads the clock, and every other
call holds the mutex of its store while it inserts. -/
def step (s : StoreCalls Caller D) : Action Caller D → Option (StoreCalls Caller D)
  | .read caller call now =>
      if s.clock ≤ now ∧ (s.calls caller).isNone then
        if call.hostname = [] then some { s with clock := now }
        else some { s with
          clock := now
          calls := Function.update s.calls caller (some (call, now)) }
      else none
  | .insert caller =>
      match s.calls caller with
      | none => none
      | some (call, reading) =>
          some { s with
            calls := Function.update s.calls caller none
            historyStore := call.insertHistory reading s.historyStore
            metricsStore := call.insertMetrics reading s.metricsStore }

def start (clock : Int) (maxPointsPerHost : Nat) : StoreCalls Caller D where
  clock := clock
  calls _ := none
  historyStore := MetricsHistoryStore.construct maxPointsPerHost
  metricsStore := MetricsStore.construct

/-- A call without a host name ends at once, and any other keeps its reading. -/
theorem read_cases {s next : StoreCalls Caller D} {caller : Caller} {call : StoreCall D}
    {now : Int} (taken : step s (.read caller call now) = some next) :
    s.clock ≤ now ∧ s.calls caller = none ∧
      (call.hostname = [] ∧ next = { s with clock := now } ∨
        call.hostname ≠ [] ∧ next = { s with
          clock := now
          calls := Function.update s.calls caller (some (call, now)) }) := by
  simp only [step, Option.isNone_iff_eq_none] at taken
  split at taken
  · rename_i enabled
    refine ⟨enabled.1, enabled.2, ?_⟩
    split at taken
    · rename_i unnamed
      exact .inl ⟨unnamed, (Option.some.inj taken).symm⟩
    · rename_i named
      exact .inr ⟨named, (Option.some.inj taken).symm⟩
  · cases taken

/-- An insertion uses the reading of its call. -/
theorem insert_cases {s next : StoreCalls Caller D} {caller : Caller}
    (taken : step s (.insert caller) = some next) :
    ∃ call reading, s.calls caller = some (call, reading) ∧
      next = { s with
        calls := Function.update s.calls caller none
        historyStore := call.insertHistory reading s.historyStore
        metricsStore := call.insertMetrics reading s.metricsStore } := by
  simp only [step] at taken
  split at taken
  · cases taken
  · rename_i call reading waits
    exact ⟨call, reading, waits, (Option.some.inj taken).symm⟩

end StoreCalls
end LMonitor

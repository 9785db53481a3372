import LMonitor.Store.MetricsStore

namespace LMonitor
open Library

structure StateTracker where
  lastStates : UnorderedMap Bytes HostStatus

namespace StateTracker

structure StateChange where
  changed : Bool
  oldStatus : HostStatus
  newStatus : HostStatus
  deriving DecidableEq

def construct : StateTracker := ⟨∅⟩

/-- The first status of a host counts as a change from offline. -/
def update (hostname : Bytes) (currentStatus : HostStatus) (tracker : StateTracker) :
    StateChange × StateTracker :=
  match tracker.lastStates.lookup hostname with
  | none => (⟨true, .offline, currentStatus⟩, ⟨tracker.lastStates.insert hostname currentStatus⟩)
  | some status =>
      if status ≠ currentStatus then
        (⟨true, status, currentStatus⟩, ⟨tracker.lastStates.insert hostname currentStatus⟩)
      else (⟨false, status, currentStatus⟩, tracker)

/-- An update sets the state of its host and leaves the other hosts alone. -/
theorem lookup_update (hostname other : Bytes) (status : HostStatus) (tracker : StateTracker) :
    (update hostname status tracker).2.lastStates.lookup other =
      if other = hostname then some status else tracker.lastStates.lookup other := by
  cases known : tracker.lastStates.lookup hostname with
  | none =>
      simp only [update, known]
      split
      · rename_i same
        rw [same, AList.lookup_insert]
      · rename_i different
        rw [AList.lookup_insert_ne different]
  | some old =>
      simp only [update, known]
      by_cases same : other = hostname
      · subst same
        by_cases changed : old = status
        · simp [changed, known]
        · simp [changed, AList.lookup_insert]
      · by_cases changed : old = status
        · simp [changed, same]
        · simp [changed, same, AList.lookup_insert_ne same]

end StateTracker
end LMonitor

import LMonitor.Library.UnorderedMap
import LMonitor.Model.Clock
import LMonitor.Model.SystemMetrics

namespace LMonitor
open Library
variable {D : Type} [Double D]

inductive HostStatus where
  | online
  | stale
  | offline
  deriving DecidableEq

/-- This is the latest sample of one host with the time of its update. -/
structure StoredMetrics (D : Type) [Double D] where
  metrics : SystemMetrics D
  updatedAt : Int
  deriving DecidableEq

structure MetricsStore (D : Type) [Double D] where
  metricsByHostname : UnorderedMap Bytes (StoredMetrics D)

namespace MetricsStore

def construct : MetricsStore D := ⟨∅⟩

/-- The update throws on an empty host name and else replaces the record of the host. -/
def update (now : Int) (metrics : SystemMetrics D) (store : MetricsStore D) :
    Except Bytes (MetricsStore D) :=
  if metrics.hostname = [] then
    .error (ascii "MetricsStore cannot store metrics with empty hostname")
  else .ok ⟨store.metricsByHostname.insert metrics.hostname ⟨metrics, now⟩⟩

def getLatest (hostname : Bytes) (store : MetricsStore D) : Option (StoredMetrics D) :=
  store.metricsByHostname.lookup hostname

def getAll (store : MetricsStore D) : List (StoredMetrics D) :=
  UnorderedMap.values store.metricsByHostname

/-- A record stands under its key. -/
theorem mem_getAll (store : MetricsStore D) (stored : StoredMetrics D) :
    stored ∈ store.getAll ↔ ∃ hostname, store.getLatest hostname = some stored :=
  UnorderedMap.mem_values _ _

def onlineThreshold : Int := 5

def staleThreshold : Int := 15

/-- A record from the future counts as fresh. -/
def getStatus (now : Int) (stored : StoredMetrics D) : HostStatus :=
  if now < stored.updatedAt then .online
  else
    let age := durationCastSeconds (now - stored.updatedAt)
    if age ≤ onlineThreshold then .online
    else if age ≤ staleThreshold then .stale
    else .offline

/-- A record that does not count as online is more than five seconds old. -/
theorem age_of_not_online {now : Int} {stored : StoredMetrics D}
    (quiet : getStatus now stored ≠ .online) :
    onlineThreshold * nanosecondsPerSecond < now - stored.updatedAt := by
  simp only [getStatus, ne_eq] at quiet
  split at quiet
  · exact absurd rfl quiet
  · rename_i past
    have elapsed : 0 ≤ now - stored.updatedAt := by omega
    split at quiet
    · exact absurd rfl quiet
    · rename_i old
      simp only [durationCastSeconds, nanosecondsPerSecond, onlineThreshold,
        Int.tdiv_eq_ediv_of_nonneg elapsed] at old ⊢
      omega

def statusToString : HostStatus → Bytes
  | .online => ascii "ONLINE"
  | .stale => ascii "STALE"
  | .offline => ascii "OFFLINE"

end MetricsStore
end LMonitor

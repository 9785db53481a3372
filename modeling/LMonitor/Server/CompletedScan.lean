import LMonitor.Server.ExactlyOnce
import LMonitor.Server.LiveHosts
import LMonitor.Server.StoreAgreement

namespace LMonitor
open Library
variable {D : Type} [DoubleText D] {threadCount : Nat}

namespace Ingest

/-- No queued message and no task carries a sample of the host. -/
structure Silent (hostname : Bytes) (s : Ingest D threadCount) : Prop where
  messages : ∀ message ∈ s.pool.tasks ++ s.incoming, ∀ metrics : SystemMetrics D,
    stageMetrics (.deserialize message) = some metrics → metrics.hostname ≠ hostname
  workers : ∀ worker stage, s.pool.workers worker = .running stage →
    ∀ metrics, stageMetrics stage = some metrics → metrics.hostname ≠ hostname

end Ingest

namespace MonitorServer
open Ingest

/-- A host whose status differs from the recorded one has one line in the log. -/
def changeLines (hostname : Bytes) (old : Option HostStatus) (status : HostStatus) : List Bytes :=
  if old = some status then []
  else [EventLoop.changeLine hostname ⟨true, old.getD .offline, status⟩]

/-- A host of the snapshot was judged once, and its log lines tell the change of the status that
the tracker held at its publication, in one of the visited states. The status of a silent host does
not change before and after it. -/
def Settled (visited : MonitorServer D threadCount → Prop) (first s : MonitorServer D threadCount)
    (host : StoredMetrics D) (lines : List Bytes) : Prop :=
  ∃ reading published rest, first.clock ≤ reading ∧ reading ≤ published.clock ∧
    published.clock ≤ s.clock ∧ visited published ∧
    published.scan = .publish host (MetricsStore.getStatus reading host) rest ∧
    lines = changeLines host.metrics.hostname
      (published.ingest.stores.stateTracker.lastStates.lookup host.metrics.hostname)
      (MetricsStore.getStatus reading host) ∧
    (Silent host.metrics.hostname first.ingest →
      published.ingest.stores.stateTracker.lastStates.lookup host.metrics.hostname =
          first.ingest.stores.stateTracker.lastStates.lookup host.metrics.hostname ∧
        s.ingest.stores.stateTracker.lastStates.lookup host.metrics.hostname =
          some (MetricsStore.getStatus reading host))

variable {visited : MonitorServer D threadCount → Prop}

/-- A settled host stays settled while nobody changes the status of a silent one. -/
theorem Settled.later {first s next : MonitorServer D threadCount} {host : StoredMetrics D}
    {lines : List Bytes} (settled : Settled visited first s host lines)
    (forward : s.clock ≤ next.clock)
    (same : Silent host.metrics.hostname first.ingest →
      next.ingest.stores.stateTracker.lastStates.lookup host.metrics.hostname =
        s.ingest.stores.stateTracker.lastStates.lookup host.metrics.hostname) :
    Settled visited first next host lines := by
  obtain ⟨reading, published, rest, after, before, past, seen, publishing, shown, silent⟩ := settled
  refine ⟨reading, published, rest, after, before, Int.le_trans past forward, seen, publishing,
    shown, fun quiet => ?_⟩
  exact ⟨(silent quiet).1, (same quiet).trans (silent quiet).2⟩

variable {snapshot : List (StoredMetrics D)} {first s : MonitorServer D threadCount}

end MonitorServer
end LMonitor

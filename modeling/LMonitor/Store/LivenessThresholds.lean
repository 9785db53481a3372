import LMonitor.Store.MetricsStore

namespace LMonitor.MetricsStore
open Library
variable {D : Type} [Double D]

/-- The overload for a host name leaves the status alone when the host is unknown. -/
def getStatusByHostname (now : Int) (hostname : Bytes) (status : HostStatus)
    (store : MetricsStore D) : Bool × HostStatus :=
  match store.getLatest hostname with
  | none => (false, status)
  | some storedMetrics => (true, getStatus now storedMetrics)

/-- The clock readings of a second. -/
def seconds (count : Int) : Int := count * nanosecondsPerSecond

/-- The status follows the documented thresholds at the resolution of the clock. -/
def MeetsThresholds (now : Int) (stored : StoredMetrics D) : Prop :=
  let age := now - stored.updatedAt
  (getStatus now stored = .online ↔ age ≤ seconds onlineThreshold) ∧
  (getStatus now stored = .stale ↔
    seconds onlineThreshold < age ∧ age ≤ seconds staleThreshold) ∧
  (getStatus now stored = .offline ↔ seconds staleThreshold < age)

/-- The age is in the second that follows a threshold. -/
def JustAbove (threshold age : Int) : Prop := seconds threshold < age ∧ age < seconds (threshold + 1)

/-- The comparison of whole seconds lets an age pass until the next full second. -/
theorem durationCastSeconds_le_iff {age threshold : Int} (elapsed : 0 ≤ age) :
    durationCastSeconds age ≤ threshold ↔ age < seconds (threshold + 1) := by
  simp only [durationCastSeconds, seconds, nanosecondsPerSecond,
    Int.tdiv_eq_ediv_of_nonneg elapsed]
  omega

/-- A record is online below six whole seconds. -/
theorem getStatus_online_iff (now : Int) (stored : StoredMetrics D) :
    getStatus now stored = .online ↔
      now - stored.updatedAt < seconds (onlineThreshold + 1) := by
  unfold getStatus
  by_cases future : now < stored.updatedAt
  · rw [if_pos future]
    simp only [seconds, nanosecondsPerSecond, onlineThreshold, true_iff]
    omega
  · have elapsed : 0 ≤ now - stored.updatedAt := by omega
    rw [if_neg future, ← durationCastSeconds_le_iff elapsed]
    by_cases fresh : durationCastSeconds (now - stored.updatedAt) ≤ onlineThreshold
    · simp [fresh]
    · simp only [fresh, if_false, iff_false]
      split <;> simp

/-- A record is offline from sixteen whole seconds on. -/
theorem getStatus_offline_iff (now : Int) (stored : StoredMetrics D) :
    getStatus now stored = .offline ↔
      seconds (staleThreshold + 1) ≤ now - stored.updatedAt := by
  unfold getStatus
  by_cases future : now < stored.updatedAt
  · rw [if_pos future]
    simp only [seconds, nanosecondsPerSecond, staleThreshold, reduceCtorEq, false_iff]
    omega
  · have elapsed : 0 ≤ now - stored.updatedAt := by omega
    rw [if_neg future, ← Int.not_lt, ← durationCastSeconds_le_iff elapsed]
    have order : onlineThreshold ≤ staleThreshold := by decide
    by_cases fresh : durationCastSeconds (now - stored.updatedAt) ≤ onlineThreshold
    · simp [fresh, Int.le_trans fresh order]
    · by_cases stale : durationCastSeconds (now - stored.updatedAt) ≤ staleThreshold
      · simp [fresh, stale]
      · simp [fresh, stale]

/-- A status that is neither online nor offline is stale. -/
theorem stale_iff (status : HostStatus) :
    status = .stale ↔ status ≠ .online ∧ status ≠ .offline := by
  cases status <;> decide

/-- The code meets the thresholds exactly at the ages that are not in the second after one. -/
theorem meetsThresholds_iff (now : Int) (stored : StoredMetrics D) :
    MeetsThresholds now stored ↔
      ¬ JustAbove onlineThreshold (now - stored.updatedAt) ∧
        ¬ JustAbove staleThreshold (now - stored.updatedAt) := by
  simp only [MeetsThresholds, stale_iff, ne_eq, getStatus_online_iff, getStatus_offline_iff,
    JustAbove, seconds, nanosecondsPerSecond, onlineThreshold, staleThreshold]
  omega

def severity : HostStatus → Nat
  | .online => 0
  | .stale => 1
  | .offline => 2

/-- A later reading of the clock never brings a record back. -/
theorem severity_mono {earlier later : Int} (order : earlier ≤ later)
    (stored : StoredMetrics D) :
    severity (getStatus earlier stored) ≤ severity (getStatus later stored) := by
  have first := getStatus_online_iff earlier stored
  have second := getStatus_online_iff later stored
  have third := getStatus_offline_iff earlier stored
  have fourth := getStatus_offline_iff later stored
  simp only [seconds, nanosecondsPerSecond, onlineThreshold, staleThreshold]
    at first second third fourth
  cases before : getStatus earlier stored <;> cases after : getStatus later stored <;>
    simp only [before, after, severity, reduceCtorEq, true_iff, false_iff] at * <;> omega

/-- The documented thresholds hold exactly outside the seconds that follow them. The status only
moves towards offline, and both overloads agree. -/
theorem liveness_thresholds (now : Int) (stored : StoredMetrics D) :
    (MeetsThresholds now stored ↔
      ¬ JustAbove onlineThreshold (now - stored.updatedAt) ∧
        ¬ JustAbove staleThreshold (now - stored.updatedAt)) ∧
    (∀ later, now ≤ later →
      severity (getStatus now stored) ≤ severity (getStatus later stored)) ∧
    ∀ (store : MetricsStore D) (hostname : Bytes) (status : HostStatus),
      (store.getLatest hostname = some stored →
        getStatusByHostname now hostname status store = (true, getStatus now stored)) ∧
      (store.getLatest hostname = none →
        getStatusByHostname now hostname status store = (false, status)) := by
  refine ⟨meetsThresholds_iff now stored, fun later order => severity_mono order stored, ?_⟩
  intro store hostname status
  constructor
  · intro known
    simp only [getStatusByHostname, known]
  · intro unknown
    simp only [getStatusByHostname, unknown]

/-- A record that is five and a half seconds old still counts as online. -/
theorem half_second_late_online :
    let stored : StoredMetrics Int := ⟨{ hostname := ascii "a" }, 0⟩
    getStatus 5500000000 stored = .online ∧ ¬ MeetsThresholds 5500000000 stored := by
  refine ⟨by decide, ?_⟩
  rintro ⟨online, _⟩
  exact absurd (online.mp (by decide)) (by decide)

end LMonitor.MetricsStore

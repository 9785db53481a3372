import LMonitor.Store.StoreCalls
import Mathlib.Data.Int.Order.Basic

namespace LMonitor
open Library
variable {D : Type} [Double D]

inductive StoreKind where
  | history
  | metrics
  deriving DecidableEq

def StoreCall.kind : StoreCall D → StoreKind
  | .add _ _ _ => .history
  | .update _ => .metrics

namespace StoreKind

/-- The history stores milliseconds, and the other store keeps the reading itself. -/
def stamp : StoreKind → Int → Int
  | history, reading => durationCastMilliseconds reading
  | metrics, reading => reading

/-- The history keeps this many points of a host, and the other store keeps one record. -/
def room (maxPointsPerHost : Nat) : StoreKind → Nat
  | history => maxPointsPerHost
  | metrics => 1

theorem stamp_mono (kind : StoreKind) {earlier later : Int} (order : earlier ≤ later) :
    kind.stamp earlier ≤ kind.stamp later := by
  cases kind with
  | history => exact durationCastMilliseconds_mono order
  | metrics => exact order

end StoreKind

namespace StoreCalls
variable {Caller : Type} [DecidableEq Caller]

/-- These are the times that a store shows for a host. -/
def stamps (s : StoreCalls Caller D) (hostname : Bytes) : StoreKind → List Int
  | .history => (s.historyStore.get hostname).map MetricsHistoryPoint.timestampMs
  | .metrics => ((s.metricsStore.getLatest hostname).map StoredMetrics.updatedAt).toList

/-- A call for the host waits for the mutex of the store. -/
def waiting (s : StoreCalls Caller D) (kind : StoreKind) (hostname : Bytes) (caller : Caller) :
    Option Int :=
  (s.calls caller).bind fun call =>
    if call.1.kind = kind ∧ call.1.hostname = hostname then some (kind.stamp call.2) else none

omit [DecidableEq Caller] in
/-- A stamp waits exactly if a call of this host holds its reading. -/
theorem waiting_eq_some {s : StoreCalls Caller D} {kind : StoreKind} {hostname : Bytes}
    {caller : Caller} {stamp : Int} :
    s.waiting kind hostname caller = some stamp ↔
      ∃ call reading, s.calls caller = some (call, reading) ∧
        (call.kind = kind ∧ call.hostname = hostname) ∧ kind.stamp reading = stamp := by
  simp [waiting, Option.bind_eq_some_iff]

omit [DecidableEq Caller] in
/-- The insertion appends the time of its call to those of its host in its store. -/
theorem stamps_insert (s : StoreCalls Caller D) (calls : Caller → Option (StoreCall D × Int))
    (reading : Int) (call : StoreCall D) (named : call.hostname ≠ []) (hostname : Bytes)
    (kind : StoreKind) :
    stamps { s with
        calls := calls
        historyStore := call.insertHistory reading s.historyStore
        metricsStore := call.insertMetrics reading s.metricsStore } hostname kind =
      if call.kind = kind ∧ call.hostname = hostname then
        (s.stamps hostname kind ++ [kind.stamp reading]).rtake
          (kind.room s.historyStore.maxPointsPerHost)
      else s.stamps hostname kind := by
  cases call with
  | add host cpu memory =>
      cases kind with
      | history =>
          have added := s.historyStore.get_add reading host hostname cpu memory named
          simp only [stamps, StoreCall.insertHistory, StoreCall.kind, StoreCall.hostname, true_and,
            added]
          by_cases same : host = hostname
          · subst same
            simp only [if_true, List.map_drop, List.map_append, List.rtake, StoreKind.room,
              List.length_append, List.length_map]
            rfl
          · rw [if_neg same, if_neg (Ne.symm same)]
      | metrics => simp [StoreCall.insertMetrics, stamps, StoreCall.kind]
  | update metrics =>
      simp only [StoreCall.hostname] at named
      cases kind with
      | history => simp [stamps, StoreCall.insertHistory, StoreCall.kind]
      | metrics =>
          simp only [stamps, StoreCall.insertMetrics, MetricsStore.update, named, if_false,
            MetricsStore.getLatest, StoreCall.kind, StoreCall.hostname, true_and]
          split
          · rename_i same
            rw [same, AList.lookup_insert]
            change _ = List.rtake _ (0 + 1)
            rw [List.rtake_concat_succ, List.rtake_zero]
            rfl
          · rename_i different
            rw [AList.lookup_insert_ne (Ne.symm different)]

theorem limit_insertHistory (reading : Int) (call : StoreCall D) (store : MetricsHistoryStore D) :
    (call.insertHistory reading store).maxPointsPerHost = store.maxPointsPerHost := by
  cases call with
  | add host cpu memory =>
      simp only [StoreCall.insertHistory, MetricsHistoryStore.add]
      split <;> rfl
  | update metrics => rfl

/-- The log of a store and a host shows its newest times. -/
structure Related (maxPointsPerHost : Nat) (kind : StoreKind) (hostname : Bytes)
    (s : StoreCalls Caller D) (log : StampedLog Caller Int) : Prop where
  limit : s.historyStore.maxPointsPerHost = maxPointsPerHost
  named : ∀ caller call reading, s.calls caller = some (call, reading) → call.hostname ≠ []
  clock : log.clock = kind.stamp s.clock
  pending : ∀ caller, log.pending caller = s.waiting kind hostname caller
  shown : s.stamps hostname kind = log.log.rtake (kind.room maxPointsPerHost)

/-- These are the steps of the log of one store and one host. -/
def translate (kind : StoreKind) (hostname : Bytes) :
    Action Caller D → StampedLog.Action Caller Int
  | .read caller call now =>
      if call.hostname ≠ [] ∧ call.kind = kind ∧ call.hostname = hostname then
        .read caller (kind.stamp now)
      else .tick (kind.stamp now)
  | .insert caller => .append caller

omit [DecidableEq Caller] in
/-- The log starts with the stores. -/
theorem related_start (clock : Int) (maxPointsPerHost : Nat) (kind : StoreKind)
    (hostname : Bytes) :
    Related
      (MetricsHistoryStore.construct maxPointsPerHost : MetricsHistoryStore D).maxPointsPerHost
      kind hostname (start clock maxPointsPerHost : StoreCalls Caller D)
      (StampedLog.start (kind.stamp clock)) where
  limit := rfl
  named := by simp [start]
  clock := rfl
  pending _ := rfl
  shown := by
    cases kind with
    | history =>
        simp only [stamps, start, MetricsHistoryStore.get, MetricsHistoryStore.construct]
        split <;> simp [StampedLog.start]
    | metrics => rfl

/-- A new call waits only in its own store and for its own host. -/
theorem waiting_update (s : StoreCalls Caller D) (kind : StoreKind) (hostname : Bytes)
    (caller other : Caller) (call : Option (StoreCall D × Int)) :
    waiting { s with calls := Function.update s.calls caller call } kind hostname other =
      if other = caller then
        call.bind fun call =>
          if call.1.kind = kind ∧ call.1.hostname = hostname then some (kind.stamp call.2) else none
      else s.waiting kind hostname other := by
  simp only [waiting, Function.update_apply]
  split <;> rfl

theorem named_update {s : StoreCalls Caller D} (caller : Caller)
    (new : Option (StoreCall D × Int))
    (named : ∀ other call reading, s.calls other = some (call, reading) → call.hostname ≠ [])
    (newNamed : ∀ call reading, new = some (call, reading) → call.hostname ≠ []) :
    ∀ other call reading, Function.update s.calls caller new other = some (call, reading) →
      call.hostname ≠ [] := by
  intro other call reading waits
  rw [Function.update_apply] at waits
  split at waits
  · exact newNamed call reading waits
  · exact named other call reading waits

/-- A reading of the clock is a step of the log. -/
theorem simulates_read {maxPointsPerHost : Nat} {kind : StoreKind} {hostname : Bytes}
    {s : StoreCalls Caller D} {log : StampedLog Caller Int} {caller : Caller}
    {call : StoreCall D} {now : Int} {next : StoreCalls Caller D}
    (related : Related maxPointsPerHost kind hostname s log)
    (taken : step s (.read caller call now) = some next) :
    ∃ logNext, StampedLog.step log (translate kind hostname (.read caller call now)) =
      some logNext ∧ Related maxPointsPerHost kind hostname next logNext := by
  obtain ⟨forward, free, case⟩ := read_cases taken
  have later : log.clock ≤ kind.stamp now := by
    rw [related.clock]
    exact kind.stamp_mono forward
  have idle : log.pending caller = none := by
    rw [related.pending, waiting, free]
    rfl
  rcases case with ⟨unnamed, rfl⟩ | ⟨named, rfl⟩
  · refine ⟨{ log with clock := kind.stamp now }, ?_, ?_⟩
    · simp [translate, unnamed, StampedLog.step, later]
    · exact ⟨related.limit, related.named, rfl, related.pending, related.shown⟩
  · have names := named_update caller (some (call, now)) related.named (by simpa using named)
    have waits (other : Caller) := waiting_update s kind hostname caller other (some (call, now))
    by_cases own : call.kind = kind ∧ call.hostname = hostname
    · refine ⟨{ log with
        clock := kind.stamp now
        pending := Function.update log.pending caller (some (kind.stamp now)) }, ?_, ?_⟩
      · rw [translate, if_pos ⟨named, own⟩, StampedLog.step, if_pos ⟨later, idle⟩]
      · refine ⟨related.limit, names, rfl, fun other => ?_, related.shown⟩
        simp only [Option.bind_some, own, and_self, if_true] at waits
        simp only [Function.update_apply, related.pending]
        exact (waits other).symm
    · refine ⟨{ log with clock := kind.stamp now }, ?_, ?_⟩
      · rw [translate, if_neg fun given => own given.2, StampedLog.step, if_pos later]
      · refine ⟨related.limit, names, rfl, fun other => ?_, related.shown⟩
        simp only [Option.bind_some, own, if_false] at waits
        refine Eq.trans ?_ (waits other).symm
        split
        · rename_i same
          rw [same, idle]
        · exact related.pending other

/-- An insertion is a step of the log. -/
theorem simulates_insert {maxPointsPerHost : Nat} {kind : StoreKind} {hostname : Bytes}
    {s : StoreCalls Caller D} {log : StampedLog Caller Int} {caller : Caller}
    {next : StoreCalls Caller D} (related : Related maxPointsPerHost kind hostname s log)
    (taken : step s (.insert caller) = some next) :
    ∃ logNext, StampedLog.step log (translate kind hostname (.insert caller : Action Caller D)) =
      some logNext ∧ Related maxPointsPerHost kind hostname next logNext := by
  obtain ⟨call, reading, held, rfl⟩ := insert_cases taken
  have waits (other : Caller) := waiting_update s kind hostname caller other none
  have stamped := stamps_insert s (Function.update s.calls caller none) reading call
    (related.named caller call reading held) hostname kind
  have limit := (limit_insertHistory reading call s.historyStore).trans related.limit
  have names := named_update caller none related.named (by simp)
  have pending : log.pending caller =
      if call.kind = kind ∧ call.hostname = hostname then some (kind.stamp reading) else none := by
    rw [related.pending, waiting, held]
    rfl
  rw [related.limit, related.shown] at stamped
  by_cases own : call.kind = kind ∧ call.hostname = hostname
  · rw [if_pos own] at pending stamped
    refine ⟨{ log with
      pending := Function.update log.pending caller none
      log := log.log ++ [kind.stamp reading] }, ?_, limit, names, related.clock, ?_, ?_⟩
    · simp [translate, StampedLog.step, pending]
    · intro other
      simp only [Function.update_apply, related.pending]
      exact (waits other).symm
    · rw [stamped, rtake_snoc_rtake]
  · rw [if_neg own] at pending stamped
    refine ⟨log, ?_, limit, names, related.clock, ?_, stamped⟩
    · simp [translate, StampedLog.step, pending]
    · intro other
      refine Eq.trans ?_ (waits other).symm
      split
      · rename_i same
        rw [same, pending]
        rfl
      · exact related.pending other

/-- Each step of the stores is a step of the log of every store and host. -/
theorem simulates (maxPointsPerHost : Nat) (kind : StoreKind) (hostname : Bytes)
    (s : StoreCalls Caller D) (log : StampedLog Caller Int) (action : Action Caller D)
    (next : StoreCalls Caller D) (related : Related maxPointsPerHost kind hostname s log)
    (taken : step s action = some next) :
    ∃ logNext, StampedLog.step log (translate kind hostname action) = some logNext ∧
      Related maxPointsPerHost kind hostname next logNext := by
  cases action with
  | read caller call now => exact simulates_read related taken
  | insert caller => exact simulates_insert related taken

end StoreCalls
end LMonitor

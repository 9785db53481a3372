import LMonitor.Library.ChangeReports
import LMonitor.Store.StateTracker

namespace LMonitor.StateTracker
open Library

/-- Calls of `update` for any hosts follow each other, and each one has its result. -/
def updates : StateTracker → List (Bytes × HostStatus) → List (Bytes × StateChange)
  | _, [] => []
  | tracker, (hostname, status) :: calls =>
      (hostname, (update hostname status tracker).1) ::
        updates (update hostname status tracker).2 calls

def reached (tracker : StateTracker) (calls : List (Bytes × HostStatus)) : StateTracker :=
  calls.foldl (fun tracker call => (update call.1 call.2 tracker).2) tracker

/-- These are the entries of one host. -/
def entriesOf {A : Type} (hostname : Bytes) (entries : List (Bytes × A)) : List A :=
  (entries.filter fun entry => entry.1 = hostname).map Prod.snd

def results (hostname : Bytes) (calls : List (Bytes × HostStatus)) : List StateChange :=
  entriesOf hostname (updates construct calls)

def reports (hostname : Bytes) (calls : List (Bytes × HostStatus)) : List StateChange :=
  (results hostname calls).filter StateChange.changed

/-- A result is the observation of a status. -/
def StateChange.toChange (result : StateChange) : Change HostStatus :=
  ⟨result.changed, result.oldStatus, result.newStatus⟩

theorem entriesOf_cons_own {A : Type} (hostname : Bytes) (entry : A) (entries : List (Bytes × A)) :
    entriesOf hostname ((hostname, entry) :: entries) = entry :: entriesOf hostname entries := by
  simp [entriesOf]

theorem entriesOf_cons_other {A : Type} {hostname other : Bytes} (different : other ≠ hostname)
    (entry : A) (entries : List (Bytes × A)) :
    entriesOf hostname ((other, entry) :: entries) = entriesOf hostname entries := by
  simp [entriesOf, different]

theorem entriesOf_filter {A : Type} (hostname : Bytes) (entries : List (Bytes × A)) :
    entriesOf hostname (entries.filter fun entry => entry.1 = hostname) =
      entriesOf hostname entries := by
  simp [entriesOf]

/-- An update observes the status of its host after the stored one. -/
theorem toChange_update (hostname : Bytes) (status : HostStatus) (tracker : StateTracker) :
    (update hostname status tracker).1.toChange =
      Change.observe .offline (tracker.lastStates.lookup hostname) status := by
  cases known : tracker.lastStates.lookup hostname with
  | none =>
      simp only [update, known]
      rfl
  | some old =>
      simp only [update, known]
      by_cases same : old = status
      · simp [same, StateChange.toChange, Change.observe]
      · simp [same, StateChange.toChange, Change.observe]

/-- The results of a host observe its own statuses one after the other. -/
theorem map_toChange_updates (hostname : Bytes) (tracker : StateTracker)
    (calls : List (Bytes × HostStatus)) :
    (entriesOf hostname (updates tracker calls)).map StateChange.toChange =
      Change.observeAll .offline (tracker.lastStates.lookup hostname)
        (entriesOf hostname calls) := by
  induction calls generalizing tracker with
  | nil => rfl
  | cons call calls ih =>
      obtain ⟨other, status⟩ := call
      rw [updates]
      by_cases same : other = hostname
      · subst same
        rw [entriesOf_cons_own, entriesOf_cons_own, List.map_cons, ih, toChange_update,
          lookup_update, if_pos rfl, Change.observeAll]
      · rw [entriesOf_cons_other same, entriesOf_cons_other same, ih, lookup_update,
          if_neg (Ne.symm same)]

theorem map_toChange_results (hostname : Bytes) (calls : List (Bytes × HostStatus)) :
    (results hostname calls).map StateChange.toChange =
      Change.observeAll .offline none (entriesOf hostname calls) :=
  map_toChange_updates hostname construct calls

theorem map_toChange_filter (changes : List StateChange) :
    (changes.filter StateChange.changed).map StateChange.toChange =
      Change.reported (changes.map StateChange.toChange) := by
  rw [Change.reported, List.filter_map]
  rfl

theorem map_toChange_reports (hostname : Bytes) (calls : List (Bytes × HostStatus)) :
    (reports hostname calls).map StateChange.toChange =
      Change.reported (Change.observeAll .offline none (entriesOf hostname calls)) := by
  rw [reports, map_toChange_filter, map_toChange_results]

theorem toChange_injective : Function.Injective StateChange.toChange := by
  rintro ⟨_, _, _⟩ ⟨_, _, _⟩ equal
  cases equal
  rfl

/-- A result is determined by the calls for its host. -/
theorem results_filter (hostname : Bytes) (calls : List (Bytes × HostStatus)) :
    results hostname (calls.filter fun call => call.1 = hostname) = results hostname calls := by
  apply List.map_injective_iff.mpr toChange_injective
  rw [map_toChange_results, map_toChange_results, entriesOf_filter]

theorem reports_last (hostname : Bytes) (calls : List (Bytes × HostStatus)) :
    (reports hostname calls).getLast?.map StateChange.newStatus =
      (entriesOf hostname calls).getLast? := by
  rw [← Change.reported_last HostStatus.offline, ← map_toChange_reports, List.getLast?_map,
    Option.map_map]
  rfl

theorem reports_chain (hostname : Bytes) (calls : List (Bytes × HostStatus)) :
    (reports hostname calls).IsChain fun previous next =>
      next.oldStatus = previous.newStatus ∧ next.oldStatus ≠ next.newStatus := by
  have chain := Change.isChain_reported HostStatus.offline (entriesOf hostname calls)
  rw [← map_toChange_reports, List.isChain_map] at chain
  exact chain

theorem reports_head (hostname : Bytes) (calls : List (Bytes × HostStatus)) :
    (reports hostname calls).head? = (results hostname calls).head? := by
  have head := Change.reported_head HostStatus.offline (entriesOf hostname calls)
  rw [← map_toChange_reports, ← map_toChange_results, List.head?_map, List.head?_map] at head
  exact Option.map_injective toChange_injective head

theorem unreported_repeats {hostname : Bytes} {calls : List (Bytes × HostStatus)}
    {before after : List StateChange} {result : StateChange}
    (split : results hostname calls = before ++ result :: after)
    (unchanged : result.changed = false) :
    (before.filter StateChange.changed).getLast?.map StateChange.newStatus =
      some result.newStatus ∧ result.oldStatus = result.newStatus := by
  have observed := map_toChange_results hostname calls
  rw [split, List.map_append, List.map_cons] at observed
  obtain ⟨last, old⟩ := Change.unreported_repeats observed.symm unchanged
  rw [← map_toChange_filter, List.getLast?_map, Option.map_map] at last
  exact ⟨last, old⟩

/-- The reports replay the changes of the statuses. -/
theorem reports_replayed (hostname : Bytes) (calls : List (Bytes × HostStatus)) :
    (reports hostname calls).map StateChange.newStatus =
      (entriesOf hostname calls).destutter (· ≠ ·) := by
  rw [← Change.reported_eq_destutter HostStatus.offline, ← map_toChange_reports, List.map_map]
  rfl

/-- The updates go on from the tracker that was reached. -/
theorem updates_append (tracker : StateTracker) (past rest : List (Bytes × HostStatus)) :
    updates tracker (past ++ rest) =
      updates tracker past ++ updates (reached tracker past) rest := by
  induction past generalizing tracker with
  | nil => rfl
  | cons call past ih =>
      rw [List.cons_append, updates, updates, ih]
      rfl

/-- Later calls leave the earlier results as they are. -/
theorem earlier_results {past calls : List (Bytes × HostStatus)} (part : past <+: calls)
    (hostname : Bytes) : results hostname past <+: results hostname calls := by
  obtain ⟨rest, rfl⟩ := part
  rw [results, results, updates_append, entriesOf, entriesOf, List.filter_append, List.map_append]
  exact List.prefix_append _ _

/-- The map keeps the last status of each host. -/
theorem lookup_reached (hostname : Bytes) (tracker : StateTracker)
    (calls : List (Bytes × HostStatus)) :
    (reached tracker calls).lastStates.lookup hostname =
      (entriesOf hostname calls).getLast?.or (tracker.lastStates.lookup hostname) := by
  induction calls generalizing tracker with
  | nil => rfl
  | cons call calls ih =>
      obtain ⟨other, status⟩ := call
      have rest := ih (update other status tracker).2
      rw [lookup_update] at rest
      rw [reached, List.foldl_cons, ← reached, rest]
      by_cases same : other = hostname
      · subst same
        rw [if_pos rfl, entriesOf_cons_own, List.getLast?_cons]
        cases (entriesOf other calls).getLast? <;> rfl
      · rw [if_neg (Ne.symm same), entriesOf_cons_other same]

/-- The stored status of a host is the one its last report told. -/
theorem stored_eq_reported (hostname : Bytes) (calls : List (Bytes × HostStatus)) :
    (reached construct calls).lastStates.lookup hostname =
      (reports hostname calls).getLast?.map StateChange.newStatus := by
  rw [lookup_reached, reports_last]
  exact Option.or_none

/-- The reports of a host tell its changes of status, and nothing is lost or told twice. -/
structure FaithfulReports (hostname : Bytes) (calls : List (Bytes × HostStatus)) : Prop where
  first : (reports hostname calls).head? = (results hostname calls).head?
  chain : (reports hostname calls).IsChain fun previous next =>
    next.oldStatus = previous.newStatus ∧ next.oldStatus ≠ next.newStatus
  repeated : ∀ before result after, results hostname calls = before ++ result :: after →
    result.changed = false →
    (before.filter StateChange.changed).getLast?.map StateChange.newStatus =
      some result.newStatus ∧ result.oldStatus = result.newStatus
  latest : ∀ past, past <+: calls → results hostname past <+: results hostname calls ∧
    (reports hostname past).getLast?.map StateChange.newStatus =
      (entriesOf hostname past).getLast?
  replayed : (reports hostname calls).map StateChange.newStatus =
    (entriesOf hostname calls).destutter (· ≠ ·)
  independent : results hostname calls =
    results hostname (calls.filter fun call => call.1 = hostname)

theorem reports_faithful (hostname : Bytes) (calls : List (Bytes × HostStatus)) :
    FaithfulReports hostname calls where
  first := reports_head hostname calls
  chain := reports_chain hostname calls
  repeated _ _ _ split unchanged := unreported_repeats split unchanged
  latest past part := ⟨earlier_results part hostname, reports_last hostname past⟩
  replayed := reports_replayed hostname calls
  independent := (results_filter hostname calls).symm

end LMonitor.StateTracker

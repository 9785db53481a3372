import LMonitor.Library.StampedLog
import LMonitor.Store.MetricsHistoryStore
import Mathlib.Data.List.Induction

namespace LMonitor.MetricsHistoryStore
open Library
variable {D : Type}

/-- The first overload of the clear function erases the history of one host. -/
def clear (hostname : Bytes) (store : MetricsHistoryStore D) : MetricsHistoryStore D :=
  { store with histories := store.histories.erase hostname }

/-- The second overload clears all histories. -/
def clearAll (store : MetricsHistoryStore D) : MetricsHistoryStore D :=
  { store with histories := ∅ }

/-- These operations change the store, and an addition takes its clock reading with it. -/
inductive Operation (D : Type) where
  | add (now : Int) (hostname : Bytes) (cpuUsagePercent memoryUsagePercent : D)
  | clear (hostname : Bytes)
  | clearAll

def perform (store : MetricsHistoryStore D) : Operation D → MetricsHistoryStore D
  | .add now hostname cpuUsagePercent memoryUsagePercent =>
      store.add now hostname cpuUsagePercent memoryUsagePercent
  | .clear hostname => store.clear hostname
  | .clearAll => store.clearAll

def reached (maxPointsPerHost : Nat) (operations : List (Operation D)) : MetricsHistoryStore D :=
  operations.foldl perform (construct maxPointsPerHost)

/-- An operation concerns a host when it names the host or clears everything. -/
def Operation.Concerns (hostname : Bytes) : Operation D → Prop
  | .add _ other _ _ => other = hostname
  | .clear other => other = hostname
  | .clearAll => True

instance (hostname : Bytes) (operation : Operation D) : Decidable (operation.Concerns hostname) :=
  match operation with
  | .add _ other _ _ => inferInstanceAs (Decidable (other = hostname))
  | .clear other => inferInstanceAs (Decidable (other = hostname))
  | .clearAll => inferInstanceAs (Decidable True)

/-- The specification keeps every point of a host since its last clear. -/
def record (hostname : Bytes) (points : List (MetricsHistoryPoint D)) :
    Operation D → List (MetricsHistoryPoint D)
  | .add now other cpuUsagePercent memoryUsagePercent =>
      if other = hostname ∧ other ≠ [] then
        points ++ [⟨durationCastMilliseconds now, cpuUsagePercent, memoryUsagePercent⟩]
      else points
  | .clear other => if other = hostname then [] else points
  | .clearAll => []

def addedSinceClear (hostname : Bytes) (operations : List (Operation D)) :
    List (MetricsHistoryPoint D) :=
  operations.foldl (record hostname) []

@[simp] theorem limit_perform (store : MetricsHistoryStore D) (operation : Operation D) :
    (perform store operation).maxPointsPerHost = store.maxPointsPerHost := by
  cases operation with
  | add now hostname cpu memory =>
      simp only [perform, add]
      split <;> rfl
  | clear hostname => rfl
  | clearAll => rfl

/-- The constructor corrects a limit of zero. -/
theorem limit_reached (maxPointsPerHost : Nat) (operations : List (Operation D)) :
    (reached maxPointsPerHost operations).maxPointsPerHost = max maxPointsPerHost 1 := by
  induction operations using List.reverseRecOn with
  | nil =>
      simp only [reached, List.foldl_nil, construct]
      split
      · rename_i zero
        rw [zero]
        rfl
      · rename_i positive
        exact (Nat.max_eq_left (Nat.one_le_iff_ne_zero.mpr positive)).symm
  | append_singleton operations operation ih =>
      rw [reached, List.foldl_concat, limit_perform]
      exact ih

/-- One operation cuts the window of a host out of its recorded points. -/
theorem get_perform (hostname : Bytes) (store : MetricsHistoryStore D)
    (operation : Operation D) {points : List (MetricsHistoryPoint D)}
    (window : get hostname store = points.rtake store.maxPointsPerHost) :
    get hostname (perform store operation) =
      (record hostname points operation).rtake store.maxPointsPerHost := by
  cases operation with
  | add now other cpu memory =>
      simp only [perform, record]
      by_cases named : other = []
      · simp [add, named, window]
      · rw [get_add now other hostname cpu memory store named]
        by_cases same : hostname = other
        · subst same
          rw [if_pos rfl, if_pos ⟨rfl, named⟩, ← rtake_snoc_rtake, ← window]
          simp only [List.rtake, List.length_append, List.length_singleton]
        · rw [if_neg same, if_neg fun own => same own.1.symm, window]
  | clear other =>
      simp only [perform, record, clear, get]
      by_cases same : other = hostname
      · subst same
        rw [AList.lookup_erase, if_pos rfl, List.rtake_nil, Option.getD_none]
      · rw [AList.lookup_erase_ne (Ne.symm same), if_neg same]
        exact window
  | clearAll =>
      rw [record, List.rtake_nil]
      rfl

/-- A history is the end of what was added since it was cleared. -/
theorem get_reached (hostname : Bytes) (maxPointsPerHost : Nat)
    (operations : List (Operation D)) :
    get hostname (reached maxPointsPerHost operations) =
      (addedSinceClear hostname operations).rtake (max maxPointsPerHost 1) := by
  induction operations using List.reverseRecOn with
  | nil =>
      simp only [reached, List.foldl_nil, construct, get]
      split <;> simp [addedSinceClear]
  | append_singleton operations operation ih =>
      rw [← limit_reached maxPointsPerHost operations] at ih ⊢
      rw [reached, List.foldl_concat, addedSinceClear, List.foldl_concat]
      exact get_perform hostname _ operation ih

/-- An operation that does not concern a host adds nothing to its points. -/
theorem record_other {hostname : Bytes} {operation : Operation D}
    (foreign : ¬ operation.Concerns hostname) (points : List (MetricsHistoryPoint D)) :
    record hostname points operation = points := by
  cases operation with
  | add now other cpu memory => exact if_neg fun own => foreign own.1
  | clear other => exact if_neg foreign
  | clearAll => exact absurd trivial foreign

/-- Operations on other hosts do not matter. -/
theorem addedSinceClear_filter (hostname : Bytes) (operations : List (Operation D)) :
    addedSinceClear hostname (operations.filter fun operation => operation.Concerns hostname) =
      addedSinceClear hostname operations := by
  induction operations using List.reverseRecOn with
  | nil => rfl
  | append_singleton operations operation ih =>
      simp only [addedSinceClear, List.filter_append, List.foldl_append] at ih ⊢
      by_cases own : operation.Concerns hostname
      · simp [own, ih]
      · simp [own, ih, record_other own]

theorem addedSinceClear_unnamed (operations : List (Operation D)) :
    addedSinceClear [] operations = [] := by
  induction operations using List.reverseRecOn with
  | nil => rfl
  | append_singleton operations operation ih =>
      rw [addedSinceClear, List.foldl_concat]
      change record [] (addedSinceClear [] operations) operation = []
      rw [ih]
      cases operation with
      | add now other cpu memory => exact if_neg fun own => own.2 own.1
      | clear other => exact ite_self _
      | clearAll => rfl

/-- A history shows the last points of its host since the last clear, whatever happens to the other
hosts. The empty host name has no history, and no deque exceeds the limit. -/
theorem history_window (maxPointsPerHost : Nat) (operations : List (Operation D)) :
    (∀ hostname, get hostname (reached maxPointsPerHost operations) =
      (addedSinceClear hostname operations).rtake (max maxPointsPerHost 1)) ∧
    (∀ hostname, get hostname (reached maxPointsPerHost operations) =
      get hostname (reached maxPointsPerHost
        (operations.filter fun operation => operation.Concerns hostname))) ∧
    get [] (reached maxPointsPerHost operations) = [] ∧
    ∀ hostname history,
      (reached maxPointsPerHost operations).histories.lookup hostname = some history →
        history.length ≤ max maxPointsPerHost 1 := by
  refine ⟨fun hostname => get_reached hostname maxPointsPerHost operations, ?_, ?_, ?_⟩
  · intro hostname
    rw [get_reached, get_reached, addedSinceClear_filter]
  · rw [get_reached, addedSinceClear_unnamed, List.rtake_nil]
  · intro hostname history stored
    have window := get_reached hostname maxPointsPerHost operations
    rw [get, stored, Option.getD_some] at window
    rw [window, List.rtake, List.length_drop]
    omega

end LMonitor.MetricsHistoryStore

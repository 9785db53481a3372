import LMonitor.Library.UnorderedMap
import LMonitor.Model.Clock
import LMonitor.Model.SystemMetrics

namespace LMonitor
open Library
variable {D : Type}

structure MetricsHistoryPoint (D : Type) where
  timestampMs : Int
  cpuUsagePercent : D
  memoryUsagePercent : D
  deriving DecidableEq

/-- The history keeps at least one point for each host. -/
structure MetricsHistoryStore (D : Type) where
  maxPointsPerHost : Nat
  positive : 0 < maxPointsPerHost
  histories : UnorderedMap Bytes (List (MetricsHistoryPoint D))

namespace MetricsHistoryStore

def construct (maxPointsPerHost : Nat) : MetricsHistoryStore D :=
  if zero : maxPointsPerHost = 0 then ⟨1, Nat.one_pos, ∅⟩
  else ⟨maxPointsPerHost, Nat.pos_of_ne_zero zero, ∅⟩

/-- The loop removes the oldest points until the rest fits. -/
def trim (limit : Nat) : List (MetricsHistoryPoint D) → List (MetricsHistoryPoint D)
  | [] => []
  | oldest :: points =>
      if limit < (oldest :: points).length then trim limit points else oldest :: points

/-- The bracket operator of the map creates an empty history for a new host. -/
def add (now : Int) (hostname : Bytes) (cpuUsagePercent memoryUsagePercent : D)
    (store : MetricsHistoryStore D) : MetricsHistoryStore D :=
  if hostname = [] then store
  else
    let point := ⟨durationCastMilliseconds now, cpuUsagePercent, memoryUsagePercent⟩
    let history := (store.histories.lookup hostname).getD []
    { store with histories :=
      store.histories.insert hostname (trim store.maxPointsPerHost (history ++ [point])) }

def get (hostname : Bytes) (store : MetricsHistoryStore D) : List (MetricsHistoryPoint D) :=
  (store.histories.lookup hostname).getD []

/-- The newest point survives the trimming. -/
theorem trim_getLast? (limit : Nat) (positive : 0 < limit) (points : List (MetricsHistoryPoint D)) :
    (trim limit points).getLast? = points.getLast? := by
  induction points with
  | nil => rfl
  | cons oldest points ih =>
      simp only [trim]
      split
      · rename_i long
        cases points with
        | nil =>
            simp only [List.length_cons, List.length_nil] at long
            omega
        | cons next points => rw [ih, List.getLast?_cons_cons]
      · rfl

/-- The loop drops exactly the oldest points beyond the limit. -/
theorem trim_eq_drop (limit : Nat) (points : List (MetricsHistoryPoint D)) :
    trim limit points = points.drop (points.length - limit) := by
  induction points with
  | nil => simp [trim]
  | cons oldest points ih =>
      simp only [trim, List.length_cons]
      split
      · have next : points.length + 1 - limit = points.length - limit + 1 := by omega
        rw [ih, next, List.drop_succ_cons]
      · have none : points.length + 1 - limit = 0 := by omega
        rw [none, List.drop_zero]

/-- An addition appends one point to its host and leaves the other hosts alone. -/
theorem get_add (now : Int) (hostname other : Bytes) (cpu memory : D)
    (store : MetricsHistoryStore D) (named : hostname ≠ []) :
    get other (add now hostname cpu memory store) =
      if other = hostname then
        (get hostname store ++ [MetricsHistoryPoint.mk (durationCastMilliseconds now) cpu memory]).drop
          ((get hostname store).length + 1 - store.maxPointsPerHost)
      else get other store := by
  simp only [add, get, named, if_false]
  split
  · rename_i same
    rw [same, AList.lookup_insert, Option.getD_some, trim_eq_drop, List.length_append]
    rfl
  · rename_i different
    rw [AList.lookup_insert_ne different]

/-- After an addition, the last point of the host carries the added values. -/
theorem add_getLast? (now : Int) (hostname : Bytes) (cpu memory : D)
    (store : MetricsHistoryStore D) (named : hostname ≠ []) :
    (get hostname (add now hostname cpu memory store)).getLast? =
      some ⟨durationCastMilliseconds now, cpu, memory⟩ := by
  simp [add, get, named, trim_getLast? store.maxPointsPerHost store.positive]

end MetricsHistoryStore
end LMonitor

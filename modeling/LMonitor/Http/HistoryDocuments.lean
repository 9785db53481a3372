import LMonitor.Http.Exchange
import LMonitor.Http.JsonDocuments
import LMonitor.Server.ExactlyOnce

namespace LMonitor

namespace FreshIngest
open Library Ingest FinishedIngest
variable {D : Type} [DoubleText D]

/-- At any moment, the calls of the history store showed it some of the accepted samples, each of
them at most once. -/
theorem history_calls (ingest : FreshIngest D) :
    ∃ calls : List (Int × SystemMetrics D),
      (calls.map Prod.snd).Subperm (accepted ingest.incoming) ∧
      ∀ hostname, ingest.final.stores.historyStore.get hostname =
        ((callsOf hostname calls).map point).rtake (max ingest.maxPointsPerHost 1) := by
  obtain ⟨calls, stores, account⟩ :=
    (run_invariant step _ (served_step historyView) ingest.reached
      (served_start historyView _ _ _)).accounted
  have some : (calls.map Prod.snd).Subperm (accepted ingest.incoming) := by
    rw [← Multiset.coe_le, ← account, add_assoc]
    exact Multiset.le_add_right _ _
  refine ⟨calls, some, fun hostname => ?_⟩
  have named : ∀ call ∈ calls, call.2.hostname ≠ [] := fun call member =>
    accepted_named (some.subset (List.mem_map_of_mem member))
  exact (congrArg (MetricsHistoryStore.get hostname) stores).trans
    (get_calls ingest.maxPointsPerHost named hostname)

end FreshIngest

namespace HttpServer
open Library Json MetricsDeserializer
open Ingest.FinishedIngest (callsOf point)
open DoubleStream (general)
variable {D : Type}

theorem intMember (key : String) (value : Int) (plain : Plain (ascii key)) :
    MemberDenotes (ascii key, decimalInt value) (ascii key, .number (decimalInt value)) := by
  refine ⟨characters_plain plain, .number ?_⟩
  rw [decimalInt]
  split
  · exact ⟨[45], decimal value.natAbs, [], [], .inr rfl, GridDouble.integer_decimal _, .inl rfl,
      .inl rfl, by simp [ascii]⟩
  · exact ⟨[], decimal value.natAbs, [], [], .inl rfl, GridDouble.integer_decimal _, .inl rfl,
      .inl rfl, by simp⟩

/-- The history should show this object for a point. -/
def pointValue [DoubleStream D] (point : MetricsHistoryPoint D) : Json :=
  .object [(ascii "timestamp", .number (decimalInt point.timestampMs)),
    (ascii "cpu", .number (general point.cpuUsagePercent)),
    (ascii "memory", .number (general point.memoryUsagePercent))]

/-- The pieces of a point form one object. -/
theorem writePoint_eq [DoubleStream D] (point : MetricsHistoryPoint D) :
    writePoint point = objectText
      [(ascii "timestamp", decimalInt point.timestampMs),
        (ascii "cpu", general point.cpuUsagePercent),
        (ascii "memory", general point.memoryUsagePercent)] := by
  simp only [objectText, commaSeparated, memberText, stringText, List.map_cons, List.map_nil,
    List.append_assoc, List.cons_append, List.nil_append]
  rfl

variable [DoubleText D] [DoubleStream D]

/-- A finite point is written as its object. -/
theorem denotes_writePoint [LawfulDoubleStream D] {point : MetricsHistoryPoint D}
    (cpu : Double.isFinite point.cpuUsagePercent = true)
    (memory : Double.isFinite point.memoryUsagePercent = true) :
    Denotes (writePoint point) (.value (pointValue point)) := by
  rw [writePoint_eq]
  exact denotes_objectText <|
    .cons (intMember "timestamp" _ (by decide)) <|
    .cons (doubleMember "cpu" (by decide) cpu) <|
    .cons (doubleMember "memory" (by decide) memory) .nil

/-- The history of finite points is an array of their objects. -/
theorem reads_history [LawfulDoubleStream D] {store : MetricsHistoryStore D} {hostname : Bytes}
    (finite : ∀ point ∈ store.get hostname, Double.isFinite point.cpuUsagePercent = true ∧
      Double.isFinite point.memoryUsagePercent = true) :
    Reads (buildHostHistoryJson hostname store)
      (.array ((store.get hostname).map pointValue)) := by
  apply reads_of_denotes
  rw [buildHostHistoryJson, writeItems_array]
  apply denotes_arrayText
  intro point member
  exact denotes_writePoint (finite point member).1 (finite point member).2

omit [DoubleStream D] in
/-- The doubles of an accepted sample are finite. -/
theorem finite_accepted [LawfulDouble D] {payloads : List Bytes} {metrics : SystemMetrics D}
    (member : metrics ∈ Ingest.accepted payloads) :
    Double.isFinite metrics.cpuUsagePercent = true ∧
      Double.isFinite metrics.memoryUsagePercent = true := by
  obtain ⟨payload, _, parsed⟩ := List.mem_filterMap.mp member
  cases read : deserialize (D := D) payload with
  | error what => simp [read, Except.toOption] at parsed
  | ok sample =>
      simp only [read, Except.toOption, Option.some.injEq] at parsed
      obtain rfl := parsed
      have finite := deserialize_finite read
      exact ⟨finite _ (by simp [doubles]), finite _ (by simp [doubles])⟩

end HttpServer
end LMonitor

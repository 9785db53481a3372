import LMonitor.Http.HistoryDocuments
import LMonitor.Web.Page

namespace LMonitor.Dashboard
open Library Json HttpServer MetricsDeserializer
open AlertManager (getActiveAlerts)
open DoubleStream (general)
variable {D : Type} [DoubleText D] [DoubleStream D]

/-- The doubles of the stores are finite, and so are those of the histories. -/
structure FiniteStores (stores : Stores D) : Prop where
  sound : Sound stores
  histories : ∀ hostname, ∀ point ∈ stores.historyStore.get hostname,
    Double.isFinite point.cpuUsagePercent = true ∧ Double.isFinite point.memoryUsagePercent = true

omit [DoubleStream D] in
/-- The stores of a run hold finite doubles only. -/
theorem finite_ingest [LawfulDouble D] (ingest : IngestRun D) :
    FiniteStores ingest.final.stores := by
  refine ⟨ingest.sound, fun hostname point member => ?_⟩
  obtain ⟨calls, some, histories⟩ := ingest.history_calls
  rw [histories] at member
  obtain ⟨call, known, rfl⟩ := List.mem_map.mp (List.mem_of_mem_drop member)
  exact finite_accepted (some.subset (List.mem_map_of_mem (List.mem_of_mem_filter known)))

section Parsed
variable [LawfulDoubleStream D] {stores : Stores D} {value : Json}

/-- A text denotes one value at most. -/
theorem parsed_unique {text : Bytes} {expected : Json} (parsed : Json.parse text = some value)
    (denotes : Denotes text (.value expected)) : value = expected :=
  Option.some.inj (parsed.symm.trans (parse_iff.mpr (reads_of_denotes denotes)))

/-- A list of hosts is parsed as the objects of the records. -/
theorem hosts_parsed (finite : FiniteStores stores)
    (parsed : Json.parse (buildHostsJson stores.metricsStore) = some value) :
    value = .array (stores.metricsStore.getAll.map fun host => hostValue host.metrics) := by
  have visible := visible_hostname (parse_iff.mp parsed)
  apply parsed_unique parsed
  rw [buildHostsJson, writeItems_array]
  apply denotes_arrayText
  intro host member
  obtain ⟨key, found⟩ := (MetricsStore.mem_getAll _ host).mp member
  exact denotes_writeHost (finite.sound.records key host found) (visible host member)

/-- A list of alerts is parsed as the objects of the active alerts. -/
theorem alerts_parsed (finite : FiniteStores stores)
    (parsed : Json.parse (buildAlertsJson stores.alertManager) = some value) :
    value = .array ((getActiveAlerts stores.alertManager).map alertValue) := by
  have visible := visible_alert (parse_iff.mp parsed)
  apply parsed_unique parsed
  rw [buildAlertsJson, writeItems_array]
  apply denotes_arrayText
  intro alert member
  obtain ⟨key, found⟩ := (UnorderedMap.mem_values _ alert).mp (List.mem_of_mem_filter member)
  exact denotes_writeAlert (finite.sound.alerts key alert found) (visible alert member)

/-- A history is parsed as the objects of its points. -/
theorem history_parsed (finite : FiniteStores stores) {hostname : Bytes}
    (parsed : Json.parse (buildHostHistoryJson hostname stores.historyStore) = some value) :
    value = .array ((stores.historyStore.get hostname).map pointValue) :=
  Option.some.inj (parsed.symm.trans (parse_iff.mpr (reads_history (finite.histories hostname))))

omit [LawfulDoubleStream D] in
/-- A well-formed detail shows a visible host name. -/
theorem visible_detail {metrics : SystemMetrics D} {text : Json}
    (reads : Reads (writeDetail metrics) text) :
    AllVisible metrics.hostname ∧ AllVisible metrics.networkInterface := by
  have whole := reads_visible reads
  rw [writeDetail, allVisible_flatten] at whole
  exact ⟨visible_of_jsonEscape (whole _ (by simp)), visible_of_jsonEscape (whole _ (by simp))⟩

/-- A detail is parsed as the object of a record, or as an empty one. -/
theorem detail_parsed (finite : FiniteStores stores) {hostname : Bytes}
    (parsed : Json.parse (buildHostDetailJson hostname stores.metricsStore) = some value) :
    value = .object [] ∨ ∃ metrics : SystemMetrics D, value = detailValue metrics := by
  unfold buildHostDetailJson at parsed
  split at parsed
  case h_1 => exact .inl (parsed_unique parsed (denotes_objectText .nil))
  case h_2 stored found =>
    obtain ⟨visible, interface⟩ := visible_detail (parse_iff.mp parsed)
    exact .inr ⟨stored.metrics, parsed_unique parsed
      (denotes_writeDetail (finite.sound.records hostname stored found) visible interface)⟩

end Parsed

/-- The page cannot show a detail of the server, because it has no list of processes. -/
theorem detailItems_detail (metrics : SystemMetrics D) :
    detailItems (some (detailValue metrics)) = .error .typeError := rfl

theorem detailItems_empty : detailItems (some (.object [])) = .error .typeError := rfl

theorem detailItems_array (values : List Json) :
    detailItems (some (.array values)) = .error .typeError := rfl

/-- This is what the page shows of an alert whose texts are no markup. -/
def shownAlert (alert : ManagedAlert D) : AlertItem where
  metric := some (.string alert.metric)
  state := some (.string (stateText alert.state))
  hostname := some (.string alert.hostname)
  current := .fixed2 (some (.number (general alert.currentValue)))
  threshold := .fixed2 (some (.number (general alert.threshold)))
  message := some (.string alert.message)

omit [DoubleText D] in
theorem alertItem_value (alert : ManagedAlert D) :
    alertItem (alertValue alert) = .ok (shownAlert alert) := rfl

omit [DoubleText D] in
/-- All alerts of the server give their items. -/
theorem alertItems_values (alerts : List (ManagedAlert D)) :
    (alerts.map alertValue).mapM alertItem = .ok (alerts.map shownAlert) := by
  induction alerts with
  | nil => rfl
  | cons alert alerts ih =>
      rw [List.map_cons, List.mapM_cons, alertItem_value, ih]
      rfl

def HostEntry.value (host : HostEntry) : Json := .object host.members

theorem hostEntry_value {value : Json} {host : HostEntry} (read : hostEntry value = some host) :
    host.value = value := by
  unfold hostEntry at read
  split at read
  case h_2 => cases read
  case h_1 members =>
    split at read
    case h_2 => cases read
    case h_1 => rw [← Option.some.inj read, HostEntry.value]

/-- The entries of the list keep their objects. -/
theorem hostEntries_values {values : List Json} {hosts : List HostEntry}
    (read : values.mapM hostEntry = some hosts) : hosts.map HostEntry.value = values := by
  induction values generalizing hosts with
  | nil =>
      rw [← Option.some.inj read]
      rfl
  | cons value values ih =>
      rw [List.mapM_cons] at read
      obtain ⟨host, first, read⟩ := Option.bind_eq_some_iff.mp read
      obtain ⟨others, rest, same⟩ := Option.bind_eq_some_iff.mp read
      rw [← Option.some.inj same, List.map_cons, hostEntry_value first, ih rest]

end LMonitor.Dashboard

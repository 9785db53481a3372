import LMonitor.Http.JsonBodies
import LMonitor.Server.IngestedStores
import LMonitor.Server.SampleOrder

namespace LMonitor.HttpServer
open Library Json MetricsDeserializer
open AlertManager (getActiveAlerts)
variable {D : Type} [DoubleText D] [DoubleStream D]

/-- Each document is well formed, and it has the records and the alerts that the stores hold. -/
structure Faithful (stores : Stores D) : Prop where
  hosts : Reads (buildHostsJson stores.metricsStore)
    (.array (stores.metricsStore.getAll.map fun host => hostValue host.metrics))
  details : ∀ hostname, Reads (buildHostDetailJson hostname stores.metricsStore)
    (((stores.metricsStore.getLatest hostname).map fun stored => detailValue stored.metrics).getD
      (.object []))
  alerts : Reads (buildAlertsJson stores.alertManager)
    (.array ((getActiveAlerts stores.alertManager).map alertValue))

/-- The shown names have no control characters except tabs and line ends. -/
structure VisibleNames (stores : Stores D) : Prop where
  hosts : ∀ host ∈ stores.metricsStore.getAll,
    AllVisible host.metrics.hostname ∧ AllVisible host.metrics.networkInterface
  alerts : ∀ alert ∈ getActiveAlerts stores.alertManager, AllVisible alert.hostname

/-- A host with a visible name is written as its object. -/
theorem denotes_writeHost [LawfulDoubleStream D] {host : StoredMetrics D}
    (finite : FiniteDoubles host.metrics) (visible : AllVisible host.metrics.hostname) :
    Denotes (writeHost host) (.value (hostValue host.metrics)) := by
  rw [writeHost_eq]
  exact denotes_objectText <|
    .cons (stringMember "hostname" (by decide) visible) <|
    .cons (doubleMember "cpu" (by decide) (finite _ (by simp [doubles]))) <|
    .cons (doubleMember "memory" (by decide) (finite _ (by simp [doubles]))) <|
    .cons (doubleMember "load1" (by decide) (finite _ (by simp [doubles]))) <|
    .cons (unsignedMember "uptime" _ (by decide)) .nil

/-- A detail with visible names is written as its object. -/
theorem denotes_writeDetail [LawfulDoubleStream D] {metrics : SystemMetrics D}
    (finite : FiniteDoubles metrics) (visible : AllVisible metrics.hostname)
    (interface : AllVisible metrics.networkInterface) :
    Denotes (writeDetail metrics) (.value (detailValue metrics)) := by
  have load := objectMember "load" (by decide) <|
    .cons (doubleMember "load1" (by decide) (finite metrics.load1 (by simp [doubles]))) <|
    .cons (doubleMember "load5" (by decide) (finite metrics.load5 (by simp [doubles]))) <|
    .cons (doubleMember "load15" (by decide) (finite metrics.load15 (by simp [doubles]))) .nil
  have disk := objectMember "disk" (by decide) <|
    .cons (doubleMember "usage_percent" (by decide)
      (finite metrics.diskUsagePercent (by simp [doubles]))) .nil
  have network := objectMember "network" (by decide) <|
    .cons (stringMember "interface" (by decide) interface) .nil
  rw [writeDetail_eq]
  exact denotes_objectText <|
    .cons (stringMember "hostname" (by decide) visible) <|
    .cons (doubleMember "cpu" (by decide) (finite _ (by simp [doubles]))) <|
    .cons (doubleMember "memory" (by decide) (finite _ (by simp [doubles]))) <|
    .cons (unsignedMember "uptime_seconds" _ (by decide)) <|
    .cons (unsignedMember "logical_cpus" _ (by decide)) <|
    .cons load <| .cons disk <| .cons network .nil

theorem denotes_stateText (state : AlertState) :
    MemberDenotes (ascii "state", stringText (stateText state))
      (ascii "state", .string (stateText state)) := by
  have text : Plain (stateText state) := by
    cases state <;> decide
  exact ⟨characters_plain (show Plain (ascii "state") by decide), .string (characters_plain text)⟩

/-- An alert with a visible host name is written as its object. -/
theorem denotes_writeAlert [LawfulDoubleStream D] {alert : ManagedAlert D}
    (printable : Printable alert) (visible : AllVisible alert.hostname) :
    Denotes (writeAlert alert) (.value (alertValue alert)) := by
  rw [writeAlert_eq]
  exact denotes_objectText <|
    .cons (stringMember "hostname" (by decide) visible) <|
    .cons (stringMember "metric" (by decide) printable.metric) <|
    .cons (denotes_stateText alert.state) <|
    .cons (doubleMember "current_value" (by decide) printable.currentValue) <|
    .cons (doubleMember "threshold" (by decide) printable.threshold) <|
    .cons (stringMember "message" (by decide) printable.message) .nil

omit [DoubleText D] [DoubleStream D] in
/-- An array of the loop is an array text. -/
theorem writeItems_array {A : Type} (write : A → Bytes) (items : List A) :
    ascii "[" ++ writeItems write true items ++ ascii "]" = arrayText (items.map write) := by
  rw [writeItems_eq]
  rfl

/-- Every item of a visible array is visible. -/
theorem visible_item {A : Type} {write : A → Bytes} {items : List A} {first : Bool}
    (visible : AllVisible (writeItems write first items)) :
    ∀ item ∈ items, AllVisible (write item) := by
  induction items generalizing first with
  | nil => exact fun _ member => absurd member List.not_mem_nil
  | cons item items ih =>
      simp only [writeItems, allVisible_append] at visible
      exact List.forall_mem_cons.mpr ⟨visible.1.2, ih visible.2⟩

/-- Visible names give faithful documents. -/
theorem faithful_of_visibleNames [LawfulDoubleStream D] {stores : Stores D} (sound : Sound stores)
    (visible : VisibleNames stores) : Faithful stores := by
  have records : ∀ host ∈ stores.metricsStore.getAll, FiniteDoubles host.metrics := by
    intro host member
    obtain ⟨key, found⟩ := (MetricsStore.mem_getAll _ host).mp member
    exact sound.records key host found
  refine ⟨reads_of_denotes ?_, fun hostname => reads_of_denotes ?_, reads_of_denotes ?_⟩
  · rw [buildHostsJson, writeItems_array]
    apply denotes_arrayText
    intro host member
    exact denotes_writeHost (records host member) (visible.hosts host member).1
  · rw [buildHostDetailJson]
    cases found : stores.metricsStore.getLatest hostname with
    | none => exact denotes_objectText .nil
    | some stored =>
        have member := (MetricsStore.mem_getAll _ stored).mpr ⟨hostname, found⟩
        exact denotes_writeDetail (records stored member) (visible.hosts stored member).1
          (visible.hosts stored member).2
  · rw [buildAlertsJson, writeItems_array]
    apply denotes_arrayText
    intro alert member
    obtain ⟨key, found⟩ := (UnorderedMap.mem_values _ alert).mp (List.mem_of_mem_filter member)
    exact denotes_writeAlert (sound.alerts key alert found) (visible.alerts alert member)

/-- A well-formed list of hosts shows only visible host names. -/
theorem visible_hostname {store : MetricsStore D} {value : Json}
    (reads : Reads (buildHostsJson store) value) :
    ∀ host ∈ store.getAll, AllVisible host.metrics.hostname := by
  intro host member
  have whole := reads_visible reads
  simp only [buildHostsJson, allVisible_append] at whole
  have object := visible_item whole.1.2 host member
  rw [writeHost, allVisible_flatten] at object
  exact visible_of_jsonEscape (object _ (by simp))

/-- A readable detail shows a visible interface. -/
theorem visible_interface {store : MetricsStore D} {hostname : Bytes} {stored : StoredMetrics D}
    {value : Json} (found : store.getLatest hostname = some stored)
    (reads : Reads (buildHostDetailJson hostname store) value) :
    AllVisible stored.metrics.networkInterface := by
  have whole := reads_visible reads
  simp only [buildHostDetailJson, found, writeDetail, allVisible_flatten] at whole
  exact visible_of_jsonEscape (whole _ (by simp))

omit [DoubleText D] in
/-- A readable list of alerts shows visible host names. -/
theorem visible_alert {alertManager : AlertManager D} {value : Json}
    (reads : Reads (buildAlertsJson alertManager) value) :
    ∀ alert ∈ getActiveAlerts alertManager, AllVisible alert.hostname := by
  intro alert member
  have whole := reads_visible reads
  simp only [buildAlertsJson, allVisible_append] at whole
  have object := visible_item whole.1.2 alert member
  rw [writeAlert, allVisible_flatten] at object
  exact visible_of_jsonEscape (object _ (by simp))

/-- The documents of a server are faithful exactly when all shown names are visible. -/
theorem documents_iff [LawfulDouble D] [LawfulDoubleStream D] (ingest : IngestRun D) :
    Faithful ingest.final.stores ↔ VisibleNames ingest.final.stores := by
  constructor
  · intro faithful
    refine ⟨fun host member => ⟨visible_hostname faithful.hosts host member, ?_⟩,
      visible_alert faithful.alerts⟩
    obtain ⟨key, found⟩ := (MetricsStore.mem_getAll _ host).mp member
    exact visible_interface found (faithful.details key)
  · exact faithful_of_visibleNames ingest.sound

/-- One worker ingests one message. -/
def oneMessage {hostname : Bytes} (message : Ingest.HostMessage Int hostname) : IngestRun Int where
  threadCount := 1
  maxQueueSize := 1
  maxPointsPerHost := 120
  fireDuration := 5
  cpuThreshold := Double.ofNat 80
  memoryThreshold := Double.ofNat 90
  cpuFinite := rfl
  memoryFinite := rfl
  incoming := [message.payload]
  trace := Ingest.wholeTask 0
  final := { Ingest.start 1 1 Ingest.emptyStores [] with
    stores := Ingest.late message.metrics (Ingest.early message.metrics Ingest.emptyStores) }
  reached := Ingest.run_wholeTask (Ingest.start 1 1 Ingest.emptyStores [message.payload]) 0 message
    [] rfl rfl (Nat.succ_pos 0) rfl rfl

/-- The documents of a server with one plain host are an instance. -/
theorem documents_iff_hostA :
    Faithful (oneMessage (Ingest.loadOfA 10)).final.stores ↔
      VisibleNames (oneMessage (Ingest.loadOfA 10)).final.stores :=
  documents_iff (oneMessage (Ingest.loadOfA 10))

/-- The host name is a single control character. -/
def controlMessage : Ingest.HostMessage Int [1] := Ingest.loadMessage [1] 10 (by decide)

/-- One such host makes the whole list of hosts unreadable. -/
theorem control_character_breaks_hosts : ¬ ∃ value,
    Reads (buildHostsJson (oneMessage controlMessage).final.stores.metricsStore) value := by
  intro given
  obtain ⟨value, reads⟩ := given
  have listed : (⟨controlMessage.metrics, 0⟩ : StoredMetrics Int) ∈
      (oneMessage controlMessage).final.stores.metricsStore.getAll :=
    (MetricsStore.mem_getAll _ _).mpr ⟨[1], AList.lookup_insert _⟩
  have visible := visible_hostname reads _ listed
  rw [controlMessage.host] at visible
  exact absurd (visible 1 (by simp)) (by decide)

end LMonitor.HttpServer

import LMonitor.Serializer.StoredValues

namespace LMonitor.MetricsDeserializer
open Library
variable {D : Type} [DoubleText D]

/-- The parser takes a line with this key for a process record. -/
def isProcessLine (line : Bytes) : Bool := (splitFirst 61 line).map Prod.fst = some (ascii "process")

/-- Two payloads have the same version and the same filled lines, and the process records are in the
same order. -/
structure Rearranged (first second : Payload) : Prop where
  version : (textLines first.text).head? = (textLines second.text).head?
  lines : (first.body.filter (· ≠ [])).Perm (second.body.filter (· ≠ []))
  processes : first.body.filter isProcessLine = second.body.filter isProcessLine

instance (first second : Payload) : Decidable (Rearranged first second) :=
  decidable_of_iff (_ ∧ _ ∧ _)
    ⟨fun given => ⟨given.1, given.2.1, given.2.2⟩,
      fun given => ⟨given.version, given.lines, given.processes⟩⟩

theorem Rearranged.symm {first second : Payload} (moved : Rearranged first second) :
    Rearranged second first :=
  ⟨moved.version.symm, moved.lines.symm, moved.processes.symm⟩

/-- A blank line is no entry. -/
theorem entries_filled (lines : List Bytes) : entries (lines.filter (· ≠ [])) = entries lines := by
  rw [entries, List.filterMap_filter, entries]
  apply List.filterMap_congr
  intro line _
  split
  · rfl
  · rename_i blank
    simp only [ne_eq, decide_not, Bool.not_eq_eq_eq_not, Bool.not_true, decide_eq_false_iff_not,
      not_not] at blank
    rw [blank]
    rfl

/-- Rearranged lines have rearranged entries. -/
theorem entries_perm {first second : List Bytes}
    (same : (first.filter (· ≠ [])).Perm (second.filter (· ≠ []))) :
    (entries first).Perm (entries second) := by
  rw [← entries_filled first, ← entries_filled second]
  exact same.filterMap _

/-- The grammar of a body does not look at the order of its lines. -/
theorem body_of_perm {first second : List Bytes}
    (same : (first.filter (· ≠ [])).Perm (second.filter (· ≠ []))) (body : Body D first) :
    Body D second := by
  have entry := entries_perm same
  have keys : (fieldKeys first).Perm (fieldKeys second) := (entry.map Prod.fst).filter _
  have processes : processLines first = processLines second := (entry.map Prod.fst).count_eq _
  constructor
  · intro line member
    by_cases blank : line = []
    · exact .inl blank
    · have filled : line ∈ second.filter (· ≠ []) := by simp [member, blank]
      exact body.formed line (List.mem_of_mem_filter (same.mem_iff.mpr filled))
  · exact keys.symm.trans body.fields
  · intro field value member
    exact body.values field value (entry.mem_iff.mpr member)
  · intro value member
    exact body.processes value (entry.mem_iff.mpr member)
  · obtain ⟨value, number, member, parsed, count⟩ := body.count
    exact ⟨value, number, entry.mem_iff.mp member, parsed, count.trans processes⟩

/-- The order of the process lines is the order of the process records. -/
theorem processValues_filter (lines : List Bytes) :
    processValues (lines.filter isProcessLine) = processValues lines := by
  induction lines with
  | nil => rfl
  | cons line lines ih =>
      simp only [processValues, entries] at ih
      cases cut : splitFirst 61 line with
      | none => simp [processValues, entries, isProcessLine, cut, ih]
      | some entry =>
          by_cases process : entry.1 = ascii "process"
          · simp [processValues, entries, isProcessLine, cut, process, ih]
          · simp [processValues, entries, isProcessLine, cut, process, ih]

/-- A text has one meaning in a field. -/
theorem stored_unique {field : Field} {text : Bytes} {p q : Parse D}
    (left : field.Means text (field.stored p)) (right : field.Means text (field.stored q)) :
    field.stored p = field.stored q := by
  cases field
  case hostname | diskMount | networkInterface =>
    exact congrArg FieldValue.text (left.trans right.symm)
  case uptimeSeconds | logicalCpus | memoryTotalKb | memoryUsedKb | memoryAvailableKb |
      diskTotalBytes | diskUsedBytes | diskAvailableBytes | processCount =>
    exact congrArg FieldValue.number (Except.ok.inj (left.symm.trans right))
  all_goals exact congrArg FieldValue.double (Except.ok.inj (left.symm.trans right))

/-- The fields and the process records make up a sample. -/
theorem metrics_ext {p q : Parse D} (fields : ∀ field : Field, field.stored p = field.stored q)
    (processes : p.metrics.topProcesses = q.metrics.topProcesses) : p.metrics = q.metrics := by
  obtain ⟨metrics, _, _, _⟩ := p
  obtain ⟨others, _, _, _⟩ := q
  cases metrics
  cases others
  simp only [SystemMetrics.mk.injEq]
  refine ⟨?_, ?_, ?_, ?_, ?_, ?_, ?_, ?_, ?_, ?_, ?_, ?_, ?_, ?_, ?_, ?_, ?_, ?_, ?_, ?_, processes⟩
  · exact FieldValue.text.inj (fields .hostname)
  · exact FieldValue.number.inj (fields .uptimeSeconds)
  · exact FieldValue.number.inj (fields .logicalCpus)
  · exact FieldValue.double.inj (fields .cpuUsagePercent)
  · exact FieldValue.number.inj (fields .memoryTotalKb)
  · exact FieldValue.number.inj (fields .memoryUsedKb)
  · exact FieldValue.number.inj (fields .memoryAvailableKb)
  · exact FieldValue.double.inj (fields .memoryUsagePercent)
  · exact FieldValue.double.inj (fields .load1)
  · exact FieldValue.double.inj (fields .load5)
  · exact FieldValue.double.inj (fields .load15)
  · exact FieldValue.text.inj (fields .diskMount)
  · exact FieldValue.number.inj (fields .diskTotalBytes)
  · exact FieldValue.number.inj (fields .diskUsedBytes)
  · exact FieldValue.number.inj (fields .diskAvailableBytes)
  · exact FieldValue.double.inj (fields .diskUsagePercent)
  · exact FieldValue.text.inj (fields .networkInterface)
  · exact FieldValue.double.inj (fields .networkRxBytesPerSecond)
  · exact FieldValue.double.inj (fields .networkTxBytesPerSecond)
  · exact FieldValue.double.inj (fields .sampleIntervalSeconds)

/-- The process records of a body have one meaning. -/
theorem processes_unique {values : List Bytes} {left right : List (ProcessMetric D)}
    (first : List.Forall₂ (fun value process => parseProcess value = .ok process) values left)
    (second : List.Forall₂ (fun value process => parseProcess value = .ok process) values right) :
    left = right := by
  induction first generalizing right with
  | nil =>
      cases second
      rfl
  | cons parsed _ ih =>
      cases second with
      | cons other rest => rw [Except.ok.inj (parsed.symm.trans other), ih rest]

/-- A rearranged payload gives the same sample. -/
theorem deserialize_of_rearranged {first second : Payload} (moved : Rearranged first second)
    {metrics : SystemMetrics D} (success : deserialize first.text = .ok metrics) :
    deserialize second.text = .ok metrics := by
  have grammar := (accepts_grammar first).1.mp ⟨metrics, success⟩
  have body : Body D second.body := body_of_perm moved.lines grammar.body
  obtain ⟨others, accepted⟩ := (accepts_grammar second).1.mpr
    ⟨moved.version.symm.trans grammar.version, body⟩
  obtain ⟨p, rfl, reflects, _⟩ := deserialize_reflects success
  obtain ⟨q, rfl, reflected, _⟩ := deserialize_reflects accepted
  have values : processValues first.body = processValues second.body := by
    rw [← processValues_filter, moved.processes, processValues_filter]
  have same : p.metrics = q.metrics := by
    apply metrics_ext
    · intro field
      have present := body.fields.symm.subset (List.mem_map_of_mem (mem_allFields field))
      obtain ⟨_, value, entry⟩ := exists_of_mem_fieldKeys present
      have before := (entries_perm moved.lines).mem_iff.mpr entry
      exact stored_unique (reflects.fields field value before) (reflected.fields field value entry)
    · exact processes_unique (values ▸ reflects.processes) reflected.processes
  rw [accepted, same]

/-- The parser refuses both payloads, or it reads the same sample from both. -/
theorem fieldOrder (first second : Payload) (moved : Rearranged first second) :
    (∃ metrics : SystemMetrics D, deserialize first.text = .ok metrics ∧
      deserialize second.text = .ok metrics) ∨
    ∃ left right, (deserialize first.text : Except Bytes (SystemMetrics D)) = .error left ∧
      (deserialize second.text : Except Bytes (SystemMetrics D)) = .error right := by
  cases read : (deserialize first.text : Except Bytes (SystemMetrics D)) with
  | ok metrics => exact .inl ⟨metrics, rfl, deserialize_of_rearranged moved read⟩
  | error left =>
      cases other : (deserialize second.text : Except Bytes (SystemMetrics D)) with
      | ok metrics =>
          have back := deserialize_of_rearranged moved.symm other
          rw [read] at back
          contradiction
      | error right => exact .inr ⟨left, right, rfl, rfl⟩

/-- These are the lines of a sample of host `a` with two processes. -/
def sampleLines : List String :=
  ["process=7,1.5,2.5,100,init", "process=8,0.5,1.5,200,cron", "hostname=a", "uptime_seconds=5",
    "logical_cpus=2", "cpu_usage_percent=10.5", "memory_total_kb=100", "memory_used_kb=40",
    "memory_available_kb=60", "memory_usage_percent=40.0", "load_1=0.5", "load_5=0.5",
    "load_15=0.5", "disk_mount=/", "disk_total_bytes=10", "disk_used_bytes=5",
    "disk_available_bytes=5", "disk_usage_percent=50.0", "network_interface=eth0",
    "network_rx_bytes_per_second=1.0", "network_tx_bytes_per_second=1.0",
    "sample_interval_seconds=2.0", "process_count=2"]

def sampleText (lines : List String) (ending : String) : Bytes :=
  ("LMONITOR/1" :: lines).flatMap fun line => ascii line ++ ascii ending

def orderedPayload : Payload := ⟨sampleText sampleLines "\n", by decide +kernel⟩

/-- The fields come first and in reverse, and each line ends with a carriage return. -/
def reversedPayload : Payload :=
  ⟨sampleText ((sampleLines.drop 2).reverse ++ "" :: sampleLines.take 2) "\x0d\n",
    by decide +kernel⟩

theorem reversed_rearranged : Rearranged orderedPayload reversedPayload := by decide +kernel

theorem ordered_accepted :
    (deserialize orderedPayload.text : Except Bytes (SystemMetrics Int)).isOk = true := by
  decide +kernel

/-- A sample and its reversed lines are read as the same. -/
theorem fieldOrder_reversed : ∃ metrics : SystemMetrics Int,
    deserialize orderedPayload.text = .ok metrics ∧
      deserialize reversedPayload.text = .ok metrics := by
  have accepted := ordered_accepted
  generalize read : (deserialize orderedPayload.text : Except Bytes (SystemMetrics Int)) = result
    at accepted
  cases fieldOrder (D := Int) orderedPayload reversedPayload reversed_rearranged with
  | inl same => exact read ▸ same
  | inr refused =>
      obtain ⟨message, _, refused, _⟩ := refused
      rw [← read, refused] at accepted
      exact absurd accepted Bool.false_ne_true

end LMonitor.MetricsDeserializer

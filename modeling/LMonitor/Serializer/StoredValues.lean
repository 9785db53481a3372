import LMonitor.Serializer.AcceptedPayloads

namespace LMonitor.MetricsDeserializer
open Library
variable {D : Type} [DoubleText D]

/-- A field holds a text, an unsigned number or a double. -/
inductive FieldValue (D : Type) where
  | text (bytes : Bytes)
  | number (value : UInt64)
  | double (value : D)

namespace Field

/-- This is the value of a field in the variables of the parse loop. -/
def stored (p : Parse D) : Field → FieldValue D
  | hostname => .text p.metrics.hostname
  | uptimeSeconds => .number p.metrics.uptimeSeconds
  | logicalCpus => .number p.metrics.logicalCpuCount
  | cpuUsagePercent => .double p.metrics.cpuUsagePercent
  | memoryTotalKb => .number p.metrics.memoryTotalKB
  | memoryUsedKb => .number p.metrics.memoryUsedKB
  | memoryAvailableKb => .number p.metrics.memoryAvailableKB
  | memoryUsagePercent => .double p.metrics.memoryUsagePercent
  | load1 => .double p.metrics.load1
  | load5 => .double p.metrics.load5
  | load15 => .double p.metrics.load15
  | diskMount => .text p.metrics.diskMountPoint
  | diskTotalBytes => .number p.metrics.diskTotalBytes
  | diskUsedBytes => .number p.metrics.diskUsedBytes
  | diskAvailableBytes => .number p.metrics.diskAvailableBytes
  | diskUsagePercent => .double p.metrics.diskUsagePercent
  | networkInterface => .text p.metrics.networkInterface
  | networkRxBytesPerSecond => .double p.metrics.networkRxBytesPerSecond
  | networkTxBytesPerSecond => .double p.metrics.networkTxBytesPerSecond
  | sampleIntervalSeconds => .double p.metrics.sampleIntervalSeconds
  | processCount => .number p.expectedProcessCount

/-- The text of a field stands for this value. -/
def Means (field : Field) (text : Bytes) : FieldValue D → Prop
  | .text bytes => bytes = text
  | .number value => parseUint64 text field.key = .ok value
  | .double value => parseDouble text field.key = .ok value

end Field

/-- An assignment stores the meaning of the text in its field and keeps all other fields. -/
structure Stores (field : Field) (value : Bytes) (p next : Parse D) : Prop where
  means : field.Means value (field.stored next)
  others : ∀ other : Field, other ≠ field → other.stored next = other.stored p

theorem parseSize_eq_ok {value fieldName : Bytes} {number : UInt64}
    (success : parseSize value fieldName = .ok number) :
    parseUint64 value fieldName = .ok number := by
  obtain ⟨parsed, first, rest⟩ := bind_eq_ok success
  split at rest
  · cases rest
  · rw [first, Except.ok.inj rest]

theorem requireText_eq_ok {message : String} {value text : Bytes}
    (success : requireText message value = .ok text) : text = value := by
  unfold requireText at success
  split at success
  · cases success
  · exact (Except.ok.inj success).symm

/-- An assigned value is stored in its field. -/
theorem assign_stores {field : Field} {value : Bytes} {p next : Parse D}
    (success : assign field value p = .ok next) : Stores field value p next := by
  cases field
  case hostname | diskMount | networkInterface =>
    obtain ⟨text, required, stored⟩ := bind_eq_ok success
    obtain rfl := Except.ok.inj stored
    refine ⟨requireText_eq_ok required, ?_⟩
    intro other different
    cases other <;> first | rfl | exact absurd rfl different
  case logicalCpus =>
    obtain ⟨number, parsed, stored⟩ := bind_eq_ok success
    obtain rfl := Except.ok.inj (guard_eq_ok stored)
    refine ⟨parseSize_eq_ok parsed, ?_⟩
    intro other different
    cases other <;> first | rfl | exact absurd rfl different
  case sampleIntervalSeconds =>
    obtain ⟨number, parsed, stored⟩ := bind_eq_ok success
    obtain rfl := Except.ok.inj (guard_eq_ok stored)
    refine ⟨parsed, ?_⟩
    intro other different
    cases other <;> first | rfl | exact absurd rfl different
  case processCount =>
    obtain ⟨number, parsed, stored⟩ := bind_eq_ok success
    obtain rfl := Except.ok.inj stored
    refine ⟨parseSize_eq_ok parsed, ?_⟩
    intro other different
    cases other <;> first | rfl | exact absurd rfl different
  all_goals
    obtain ⟨number, parsed, stored⟩ := bind_eq_ok success
    obtain rfl := Except.ok.inj stored
    refine ⟨parsed, ?_⟩
    intro other different
    cases other <;> first | rfl | exact absurd rfl different

/-- These are the texts of the process records in their order. -/
def processValues (lines : List Bytes) : List Bytes :=
  ((entries lines).filter fun entry => entry.1 = ascii "process").map Prod.snd

/-- The variables hold the meaning of every field and every process record of the lines. -/
structure Reflects (lines : List Bytes) (p : Parse D) : Prop where
  fields : ∀ (field : Field) (value : Bytes), (field.key, value) ∈ entries lines →
    field.Means value (field.stored p)
  processes : List.Forall₂ (fun value process => parseProcess value = .ok process)
    (processValues lines) p.metrics.topProcesses

theorem processValues_snoc (lines : List Bytes) {key : Bytes} (value : Bytes) (clean : 61 ∉ key) :
    processValues (lines ++ [key ++ 61 :: value]) =
      processValues lines ++ if key = ascii "process" then [value] else [] := by
  rw [processValues, entries_snoc lines value clean]
  by_cases process : key = ascii "process" <;> simp [processValues, process]

theorem stored_mark (p : Parse D) (marked field : Field) :
    field.stored (mark p marked) = field.stored p := by
  cases field <;> rfl

/-- A parsed line adds its own meaning, since no field comes twice. -/
theorem reflects_parseLine {lines : List Bytes} {p next : Parse D} {line : Bytes}
    (reads : Reads lines p) (reflects : Reflects lines p) (success : parseLine p line = .ok next) :
    Reflects (lines ++ [stripCarriageReturn line]) next := by
  rcases parseLine_cases success with ⟨blank, rfl⟩ | ⟨value, process, whole, parsed, rfl⟩ |
    ⟨field, value, whole, fresh, stored⟩
  · rw [blank]
    exact ⟨by simpa using reflects.fields, by simpa [processValues] using reflects.processes⟩
  · have clean : 61 ∉ ascii "process" := by decide
    rw [whole]
    constructor
    · intro field text member
      have earlier := ((mem_entries_snoc lines value clean).mp member).resolve_right
        fun same => key_ne_process _ same.1
      have kept := reflects.fields field text earlier
      cases field <;> exact kept
    · rw [processValues_snoc lines value clean, if_pos rfl]
      exact List.rel_append reflects.processes (.cons parsed .nil)
  · have clean := key_noEquals field
    have stores := assign_stores stored
    rw [whole]
    constructor
    · intro other text member
      rcases (mem_entries_snoc lines value clean).mp member with earlier | ⟨same, rfl⟩
      · have different : other ≠ field := by
          rintro rfl
          exact fresh ((reads.received _).mpr (mem_fieldKeys earlier (key_ne_process _)))
        rw [stores.others other different, stored_mark]
        exact reflects.fields other text earlier
      · obtain rfl := key_injective same
        exact stores.means
    · rw [processValues_snoc lines value clean, if_neg (key_ne_process field), List.append_nil,
        (assigned stored).processes]
      exact reflects.processes

/-- The parse loop stores the meaning of its lines. -/
theorem reflects_lines {lines : List Bytes} {p : Parse D}
    (success : lines.foldlM parseLine initial = .ok p) :
    Reflects (lines.map stripCarriageReturn) p := by
  induction lines using List.reverseRecOn generalizing p with
  | nil =>
      obtain rfl := Except.ok.inj success
      exact ⟨by simp [entries], .nil⟩
  | append_singleton lines line ih =>
      obtain ⟨middle, first, parsed⟩ := foldlM_snoc_eq_ok success
      rw [List.map_append]
      exact reflects_parseLine (reads_lines first) (ih first) parsed

theorem reflects_blank {lines : List Bytes} {p : Parse D} (reflects : Reflects lines p) :
    Reflects (lines ++ [[]]) p :=
  ⟨by simpa using reflects.fields, by simpa [processValues] using reflects.processes⟩

/-- The body of a payload has the lines after the version. -/
def Payload.body (payload : Payload) : List Bytes := (textLines payload.text).tail

/-- An accepted payload left the meaning of its body in the variables of the parse loop. -/
theorem deserialize_reflects {payload : Payload} {metrics : SystemMetrics D}
    (success : deserialize payload.text = .ok metrics) :
    ∃ p, p.metrics = metrics ∧ Reflects payload.body p ∧
      p.expectedProcessCount.toNat = metrics.topProcesses.length := by
  unfold deserialize at success
  split at success
  case isTrue => cases success
  case isFalse =>
    split at success
    case h_1 => cases success
    case h_2 version lines read =>
      simp only at success
      split at success
      case isTrue => cases success
      case isFalse =>
        obtain ⟨p, parsed, finished⟩ := bind_eq_ok success
        have reads := reads_lines parsed
        have short := length_linesFrom_le 10 [] payload.text
        have sized := payload.sized
        rw [read, List.length_cons] at short
        have bounded : (lines.map stripCarriageReturn).length < 18446744073709551616 := by
          rw [List.length_map]
          omega
        have count := ((succeeds_finish reads bounded).mp ⟨metrics, finished⟩).2
        obtain ⟨rfl, _⟩ := finish_eq_ok finished
        refine ⟨p, rfl, ?_, count.trans reads.processes.symm⟩
        have reflects := reflects_lines parsed
        rcases textLines_eq payload.text with same | blank
        · simpa [Payload.body, same, read] using reflects
        · simpa [Payload.body, blank, read] using reflects_blank reflects

end LMonitor.MetricsDeserializer

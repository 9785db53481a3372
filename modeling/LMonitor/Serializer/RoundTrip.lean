import LMonitor.Serializer.FieldText

namespace LMonitor.MetricsDeserializer
open Library MetricsSerializer
variable {D : Type} [DoubleText D]

def canonProcess (process : ProcessMetric D) : ProcessMetric D where
  pid := process.pid
  name := stripCarriageReturn process.name
  cpuUsagePercent := DoubleText.round2 process.cpuUsagePercent
  memoryUsagePercent := DoubleText.round2 process.memoryUsagePercent
  residentMemoryKB := process.residentMemoryKB

/-- The canonical sample rounds every double and drops one carriage return from each string. -/
def canon (metrics : SystemMetrics D) : SystemMetrics D where
  hostname := stripCarriageReturn metrics.hostname
  uptimeSeconds := metrics.uptimeSeconds
  logicalCpuCount := metrics.logicalCpuCount
  cpuUsagePercent := DoubleText.round2 metrics.cpuUsagePercent
  memoryTotalKB := metrics.memoryTotalKB
  memoryUsedKB := metrics.memoryUsedKB
  memoryAvailableKB := metrics.memoryAvailableKB
  memoryUsagePercent := DoubleText.round2 metrics.memoryUsagePercent
  load1 := DoubleText.round2 metrics.load1
  load5 := DoubleText.round2 metrics.load5
  load15 := DoubleText.round2 metrics.load15
  diskMountPoint := stripCarriageReturn metrics.diskMountPoint
  diskTotalBytes := metrics.diskTotalBytes
  diskUsedBytes := metrics.diskUsedBytes
  diskAvailableBytes := metrics.diskAvailableBytes
  diskUsagePercent := DoubleText.round2 metrics.diskUsagePercent
  networkInterface := stripCarriageReturn metrics.networkInterface
  networkRxBytesPerSecond := DoubleText.round2 metrics.networkRxBytesPerSecond
  networkTxBytesPerSecond := DoubleText.round2 metrics.networkTxBytesPerSecond
  sampleIntervalSeconds := DoubleText.round2 metrics.sampleIntervalSeconds
  topProcesses := metrics.topProcesses.map canonProcess

/-- A field of the sample passes its check in the parser. -/
def Storable (metrics : SystemMetrics D) : Field → Prop
  | .hostname => metrics.hostname ≠ []
  | .logicalCpus => metrics.logicalCpuCount ≠ 0
  | .cpuUsagePercent => Double.isFinite metrics.cpuUsagePercent = true
  | .memoryUsagePercent => Double.isFinite metrics.memoryUsagePercent = true
  | .load1 => Double.isFinite metrics.load1 = true
  | .load5 => Double.isFinite metrics.load5 = true
  | .load15 => Double.isFinite metrics.load15 = true
  | .diskMount => metrics.diskMountPoint ≠ []
  | .diskUsagePercent => Double.isFinite metrics.diskUsagePercent = true
  | .networkInterface => metrics.networkInterface ≠ []
  | .networkRxBytesPerSecond => Double.isFinite metrics.networkRxBytesPerSecond = true
  | .networkTxBytesPerSecond => Double.isFinite metrics.networkTxBytesPerSecond = true
  | .sampleIntervalSeconds => Double.isFinite metrics.sampleIntervalSeconds = true ∧
      Double.le metrics.sampleIntervalSeconds (Double.ofNat 0) = false
  | _ => True

/-- A process record passes the checks of the parser. -/
structure StorableProcess (process : ProcessMetric D) : Prop where
  pid : 0 ≤ process.pid
  cpuUsagePercent : Double.isFinite process.cpuUsagePercent = true
  memoryUsagePercent : Double.isFinite process.memoryUsagePercent = true
  name : process.name ≠ []

/-- The parser stores one field of the sample. -/
def store (metrics : SystemMetrics D) (p : Parse D) : Field → Parse D
  | .hostname => { p with metrics := { p.metrics with hostname := metrics.hostname } }
  | .uptimeSeconds =>
      { p with metrics := { p.metrics with uptimeSeconds := metrics.uptimeSeconds } }
  | .logicalCpus =>
      { p with metrics := { p.metrics with logicalCpuCount := metrics.logicalCpuCount } }
  | .cpuUsagePercent =>
      { p with metrics := { p.metrics with cpuUsagePercent := metrics.cpuUsagePercent } }
  | .memoryTotalKb =>
      { p with metrics := { p.metrics with memoryTotalKB := metrics.memoryTotalKB } }
  | .memoryUsedKb =>
      { p with metrics := { p.metrics with memoryUsedKB := metrics.memoryUsedKB } }
  | .memoryAvailableKb =>
      { p with metrics := { p.metrics with memoryAvailableKB := metrics.memoryAvailableKB } }
  | .memoryUsagePercent =>
      { p with metrics := { p.metrics with memoryUsagePercent := metrics.memoryUsagePercent } }
  | .load1 => { p with metrics := { p.metrics with load1 := metrics.load1 } }
  | .load5 => { p with metrics := { p.metrics with load5 := metrics.load5 } }
  | .load15 => { p with metrics := { p.metrics with load15 := metrics.load15 } }
  | .diskMount => { p with metrics := { p.metrics with diskMountPoint := metrics.diskMountPoint } }
  | .diskTotalBytes =>
      { p with metrics := { p.metrics with diskTotalBytes := metrics.diskTotalBytes } }
  | .diskUsedBytes =>
      { p with metrics := { p.metrics with diskUsedBytes := metrics.diskUsedBytes } }
  | .diskAvailableBytes =>
      { p with metrics := { p.metrics with diskAvailableBytes := metrics.diskAvailableBytes } }
  | .diskUsagePercent =>
      { p with metrics := { p.metrics with diskUsagePercent := metrics.diskUsagePercent } }
  | .networkInterface =>
      { p with metrics := { p.metrics with networkInterface := metrics.networkInterface } }
  | .networkRxBytesPerSecond => { p with metrics :=
      { p.metrics with networkRxBytesPerSecond := metrics.networkRxBytesPerSecond } }
  | .networkTxBytesPerSecond => { p with metrics :=
      { p.metrics with networkTxBytesPerSecond := metrics.networkTxBytesPerSecond } }
  | .sampleIntervalSeconds => { p with metrics :=
      { p.metrics with sampleIntervalSeconds := metrics.sampleIntervalSeconds } }
  | .processCount =>
      { p with
        expectedProcessCount := vectorSize metrics.topProcesses
        processCountSeen := true }

/-- The parser remembers the field. -/
def mark (p : Parse D) (field : Field) : Parse D :=
  { p with receivedFields := field.key :: p.receivedFields }

theorem ofKey_key (field : Field) : Field.ofKey field.key = some field := by
  cases field <;> decide

theorem key_injective : Function.Injective Field.key := by
  intro left right same
  have found := ofKey_key left
  rw [same, ofKey_key right] at found
  exact (Option.some.inj found).symm

theorem mem_allFields (field : Field) : field ∈ Field.all := by
  cases field <;> decide

theorem key_ne_nil (field : Field) : field.key ≠ [] := by
  cases field <;> decide

theorem key_ne_process (field : Field) : field.key ≠ ascii "process" := by
  cases field <;> decide

theorem strip_printUnsigned (value : UInt64) :
    stripCarriageReturn (printUnsigned value) = printUnsigned value :=
  strip_of_notMem _ fun member => (printUnsigned_ordinary value 13 member).2.2 rfl

theorem strip_fixed2 [LawfulDoubleText D] (value : D) :
    stripCarriageReturn (DoubleText.fixed2 value) = DoubleText.fixed2 value :=
  strip_of_notMem _ fun member => (LawfulDoubleText.fixed2_ordinary value 13 member).2.2 rfl

/-- A field line reaches the assignment of its own field. -/
theorem parseLine_field (p : Parse D) (field : Field) (metrics : SystemMetrics D)
    (fresh : field.key ∉ p.receivedFields) :
    parseLine p (fieldLine metrics field) =
      assign field (stripCarriageReturn (text metrics field)) (mark p field) := by
  have cut := splitFirst_append 61 field.key (stripCarriageReturn (text metrics field))
    (key_noEquals field)
  simp only [parseLine, fieldLine, strip_append _ _ 61 (by decide), cut]
  simp only [List.append_eq_nil_iff, reduceCtorEq, and_false, if_false, key_ne_nil field,
    key_ne_process field, markRequiredField, fresh, ofKey_key field, bind, Except.bind, mark]

/-- The parser stores the canonical value of a field that passes its check. -/
theorem assign_text [LawfulDoubleText D] (metrics : SystemMetrics D) (p : Parse D) (field : Field)
    (storable : Storable (canon metrics) field) :
    assign field (stripCarriageReturn (text metrics field)) p =
      .ok (store (canon metrics) p field) := by
  cases field <;>
    simp only [Storable, canon] at storable <;>
    simp_all [assign, text, store, canon, requireText, strip_printUnsigned, strip_fixed2,
      parseUint64_print, parseSize_print, parseDouble_print, bind, Except.bind, vectorSize]

/-- The parser refuses the value of a field that fails its check. -/
theorem assign_text_error [LawfulDoubleText D] (metrics : SystemMetrics D) (p : Parse D)
    (field : Field) (refused : ¬ Storable (canon metrics) field) :
    ∃ message, assign field (stripCarriageReturn (text metrics field)) p = .error message := by
  cases field
  case sampleIntervalSeconds =>
    by_cases finite : Double.isFinite (DoubleText.round2 metrics.sampleIntervalSeconds) = true
    · simp only [Storable, canon, finite, true_and, Bool.not_eq_false] at refused
      simp [assign, text, strip_fixed2, parseDouble_print, bind, Except.bind, finite, refused]
    · simp [assign, text, strip_fixed2, parseDouble_print, bind, Except.bind, finite]
  all_goals
    simp only [Storable, canon, not_true_eq_false] at refused <;>
    simp_all [assign, text, requireText, strip_printUnsigned, strip_fixed2, parseSize_print,
      parseDouble_print, bind, Except.bind]

/-- The other fields stay fresh when one is stored. -/
theorem fresh_after_store (metrics : SystemMetrics D) (p : Parse D) (field : Field)
    (fields : List Field) (other : field ∉ fields)
    (fresh : ∀ later ∈ field :: fields, later.key ∉ p.receivedFields) :
    ∀ later ∈ fields, later.key ∉ (store metrics (mark p field) field).receivedFields := by
  intro later member
  have received : (store metrics (mark p field) field).receivedFields =
      field.key :: p.receivedFields := by
    cases field <;> rfl
  rw [received, List.mem_cons, not_or]
  exact ⟨fun same => other (key_injective same ▸ member), fresh later (by simp [member])⟩

/-- The loop stores every field when all pass their checks. -/
theorem fields_fold [LawfulDoubleText D] (metrics : SystemMetrics D) (fields : List Field)
    (p : Parse D) (distinct : fields.Nodup) (fresh : ∀ field ∈ fields, field.key ∉ p.receivedFields)
    (storable : ∀ field ∈ fields, Storable (canon metrics) field) :
    (fields.map (fieldLine metrics)).foldlM parseLine p =
      .ok (fields.foldl (fun p field => store (canon metrics) (mark p field) field) p) := by
  induction fields generalizing p with
  | nil => rfl
  | cons field fields ih =>
      have rest := List.nodup_cons.mp distinct
      have stored := parseLine_field p field metrics (fresh field (by simp))
      rw [assign_text metrics _ field (storable field (by simp))] at stored
      have later := ih (store (canon metrics) (mark p field) field) rest.2
        (fresh_after_store (canon metrics) p field fields rest.1 fresh)
        (fun other member => storable other (by simp [member]))
      simp [List.foldlM_cons, stored, later, bind, Except.bind]

/-- The loop stops at the first field that fails its check. -/
theorem fields_fold_error [LawfulDoubleText D] (metrics : SystemMetrics D) (fields : List Field)
    (p : Parse D) (distinct : fields.Nodup) (fresh : ∀ field ∈ fields, field.key ∉ p.receivedFields)
    (refused : ∃ field ∈ fields, ¬ Storable (canon metrics) field) :
    ∃ message, (fields.map (fieldLine metrics)).foldlM parseLine p = .error message := by
  induction fields generalizing p with
  | nil => simp at refused
  | cons field fields ih =>
      have rest := List.nodup_cons.mp distinct
      have line := parseLine_field p field metrics (fresh field (by simp))
      by_cases storable : Storable (canon metrics) field
      · rw [assign_text metrics _ field storable] at line
        obtain ⟨bad, member, refusal⟩ := refused
        have later : bad ∈ fields := by
          rcases List.mem_cons.mp member with rfl | inTail
          · exact absurd storable refusal
          · exact inTail
        obtain ⟨message, stopped⟩ := ih (store (canon metrics) (mark p field) field) rest.2
          (fresh_after_store (canon metrics) p field fields rest.1 fresh)
          ⟨bad, later, refusal⟩
        exact ⟨message, by simp [List.foldlM_cons, line, stopped, bind, Except.bind]⟩
      · obtain ⟨message, failed⟩ := assign_text_error metrics (mark p field) field storable
        exact ⟨message, by simp [List.foldlM_cons, line, failed, bind, Except.bind]⟩

/-- The carriage return of a process line belongs to the process name. -/
theorem strip_processRecord (process : ProcessMetric D) :
    stripCarriageReturn (processRecord process) =
      processRecord { process with name := stripCarriageReturn process.name } := by
  have split : ∀ name : Bytes, processRecord { process with name := name } =
      (ascii "process" ++ 61 :: (decimalInt process.pid.toInt ++
        44 :: (DoubleText.fixed2 process.cpuUsagePercent ++
          44 :: (DoubleText.fixed2 process.memoryUsagePercent ++
            44 :: printUnsigned process.residentMemoryKB)))) ++ 44 :: name := by
    intro name
    simp [processRecord, processText]
  rw [split, strip_append _ _ 44 (by decide), ← split]

/-- The name keeps every comma, since only four commas cut the record. -/
theorem splitFields_processText [LawfulDoubleText D] (process : ProcessMetric D) :
    splitFields 4 (processText process) =
      some [decimalInt process.pid.toInt, DoubleText.fixed2 process.cpuUsagePercent,
        DoubleText.fixed2 process.memoryUsagePercent, printUnsigned process.residentMemoryKB,
        process.name] := by
  have pid := fun rest => splitFirst_append 44 (decimalInt process.pid.toInt) rest
    fun member => (decimalInt_ordinary _ 44 member).1 rfl
  have double := fun (value : D) rest => splitFirst_append 44 (DoubleText.fixed2 value) rest
    fun member => (LawfulDoubleText.fixed2_ordinary _ 44 member).1 rfl
  have memory := fun rest => splitFirst_append 44 (printUnsigned process.residentMemoryKB) rest
    fun member => (printUnsigned_ordinary _ 44 member).1 rfl
  simp [splitFields, processText, pid, double, memory]

/-- The parser stores the canonical record of a process or refuses it. -/
theorem parseProcess_text [LawfulDoubleText D] (process : ProcessMetric D) :
    (StorableProcess (canonProcess process) →
      parseProcess (processText { process with name := stripCarriageReturn process.name }) =
        .ok (canonProcess process)) ∧
    (¬ StorableProcess (canonProcess process) → ∃ message,
      (parseProcess (processText { process with name := stripCarriageReturn process.name }) :
        Except Bytes (ProcessMetric D)) = .error message) := by
  simp only [parseProcess, splitFields_processText, parseInt_print, parseDouble_print,
    parseUint64_print, bind, Except.bind]
  constructor
  · intro given
    obtain ⟨pid, cpu, memory, name⟩ := given
    simp only [canonProcess] at pid cpu memory name
    simp [Int32.not_lt.mpr pid, cpu, memory, name, canonProcess]
  · intro refused
    by_cases pid : process.pid < 0
    · simp [pid]
    by_cases cpu : Double.isFinite (DoubleText.round2 process.cpuUsagePercent) = true
    · by_cases memory : Double.isFinite (DoubleText.round2 process.memoryUsagePercent) = true
      · by_cases name : stripCarriageReturn process.name = []
        · simp [pid, cpu, memory, name]
        · exact absurd ⟨Int32.not_lt.mp pid, cpu, memory, name⟩ refused
      · simp [pid, cpu, memory]
    · simp [pid, cpu]

/-- A process line reaches the process parser. -/
theorem parseLine_process (p : Parse D) (process : ProcessMetric D) :
    parseLine p (processRecord process) =
      (parseProcess (processText { process with name := stripCarriageReturn process.name })).bind
        fun stored => .ok { p with metrics :=
          { p.metrics with topProcesses := p.metrics.topProcesses ++ [stored] } } := by
  have cut := splitFirst_append 61 (ascii "process")
    (processText { process with name := stripCarriageReturn process.name }) (by decide)
  simp only [parseLine, strip_processRecord]
  simp only [processRecord, cut, List.append_eq_nil_iff, reduceCtorEq, and_false, if_false,
    show ascii "process" ≠ [] by decide, if_true]
  rfl

/-- The loop appends the canonical records when all processes pass their checks. -/
theorem processes_fold [LawfulDoubleText D] (processes : List (ProcessMetric D)) (p : Parse D)
    (storable : ∀ process ∈ processes, StorableProcess (canonProcess process)) :
    (processes.map processRecord).foldlM parseLine p =
      .ok { p with metrics := { p.metrics with
        topProcesses := p.metrics.topProcesses ++ processes.map canonProcess } } := by
  induction processes generalizing p with
  | nil => simp [pure, Except.pure]
  | cons process processes ih =>
      have stored := (parseProcess_text process).1 (storable process (by simp))
      have line := parseLine_process p process
      rw [stored] at line
      simp only [List.map_cons, List.foldlM_cons, line, Except.bind, bind]
      rw [ih _ fun other member => storable other (by simp [member])]
      simp

/-- A process that cannot be stored ends the parsing. -/
theorem processes_fold_error [LawfulDoubleText D] (processes : List (ProcessMetric D))
    (p : Parse D) (refused : ∃ process ∈ processes, ¬ StorableProcess (canonProcess process)) :
    ∃ message, (processes.map processRecord).foldlM parseLine p = .error message := by
  induction processes generalizing p with
  | nil => simp at refused
  | cons process processes ih =>
      have line := parseLine_process p process
      by_cases storable : StorableProcess (canonProcess process)
      · rw [(parseProcess_text process).1 storable] at line
        obtain ⟨bad, member, refusal⟩ := refused
        have later : bad ∈ processes := by
          rcases List.mem_cons.mp member with rfl | inTail
          · exact absurd storable refusal
          · exact inTail
        simp only [List.map_cons, List.foldlM_cons, line, Except.bind, bind]
        exact ih _ ⟨bad, later, refusal⟩
      · obtain ⟨message, failed⟩ := (parseProcess_text process).2 storable
        exact ⟨message, by simp [line, failed, Except.bind, bind]⟩

/-- These are all doubles of a sample. -/
def doubles (metrics : SystemMetrics D) : List D :=
  [metrics.cpuUsagePercent, metrics.memoryUsagePercent, metrics.load1, metrics.load5,
    metrics.load15, metrics.diskUsagePercent, metrics.networkRxBytesPerSecond,
    metrics.networkTxBytesPerSecond, metrics.sampleIntervalSeconds] ++
    metrics.topProcesses.flatMap fun process =>
      [process.cpuUsagePercent, process.memoryUsagePercent]

/-- The parser accepts the canonical samples with these properties. -/
structure Acceptable (metrics : SystemMetrics D) : Prop where
  hostname : metrics.hostname ≠ []
  diskMountPoint : metrics.diskMountPoint ≠ []
  networkInterface : metrics.networkInterface ≠ []
  processNames : ∀ process ∈ metrics.topProcesses, process.name ≠ []
  logicalCpuCount : 1 ≤ metrics.logicalCpuCount
  finite : ∀ value ∈ doubles metrics, Double.isFinite value = true
  sampleIntervalSeconds : Double.lt (Double.ofNat 0) metrics.sampleIntervalSeconds = true
  pids : ∀ process ∈ metrics.topProcesses, 0 ≤ process.pid

/-- A sample is acceptable exactly if all its fields and processes can be stored. -/
theorem acceptable_iff [LawfulDouble D] (metrics : SystemMetrics D) :
    Acceptable metrics ↔ (∀ field, Storable metrics field) ∧
      ∀ process ∈ metrics.topProcesses, StorableProcess process := by
  have positive (finite : Double.isFinite metrics.sampleIntervalSeconds = true) :
      Double.le metrics.sampleIntervalSeconds (Double.ofNat 0) = false ↔
        Double.lt (Double.ofNat 0) metrics.sampleIntervalSeconds = true := by
    rw [LawfulDouble.le_eq_not_lt _ _ finite (LawfulDouble.finite_ofNat 0)]
    simp
  have counted : metrics.logicalCpuCount ≠ 0 ↔ 1 ≤ metrics.logicalCpuCount := by
    simp only [ne_eq, ← UInt64.toNat_inj, UInt64.le_iff_toNat_le]
    simp only [UInt64.reduceToNat]
    omega
  constructor
  · intro known
    have finite := known.finite
    simp only [doubles, List.mem_append, List.mem_cons, List.mem_flatMap, List.not_mem_nil,
      or_false] at finite
    refine ⟨fun field => ?_, fun process member => ⟨known.pids process member, ?_, ?_,
      known.processNames process member⟩⟩
    · cases field
      case hostname => exact known.hostname
      case diskMount => exact known.diskMountPoint
      case networkInterface => exact known.networkInterface
      case logicalCpus => exact counted.mpr known.logicalCpuCount
      case sampleIntervalSeconds =>
        have bounded := finite metrics.sampleIntervalSeconds (by simp)
        exact ⟨bounded, (positive bounded).mpr known.sampleIntervalSeconds⟩
      all_goals first | exact trivial | exact finite _ (by simp)
    · exact finite _ (.inr ⟨process, member, by simp⟩)
    · exact finite _ (.inr ⟨process, member, by simp⟩)
  · intro given
    obtain ⟨fields, processes⟩ := given
    have interval := fields .sampleIntervalSeconds
    refine ⟨fields .hostname, fields .diskMount, fields .networkInterface,
      fun process member => (processes process member).name, counted.mp (fields .logicalCpus), ?_,
      (positive interval.1).mp interval.2, fun process member => (processes process member).pid⟩
    intro value member
    simp only [doubles, List.mem_append, List.mem_cons, List.mem_flatMap, List.not_mem_nil,
      or_false] at member
    rcases member with (rfl | rfl | rfl | rfl | rfl | rfl | rfl | rfl | rfl) |
      ⟨process, known, rfl | rfl⟩
    · exact fields .cpuUsagePercent
    · exact fields .memoryUsagePercent
    · exact fields .load1
    · exact fields .load5
    · exact fields .load15
    · exact fields .diskUsagePercent
    · exact fields .networkRxBytesPerSecond
    · exact fields .networkTxBytesPerSecond
    · exact interval.1
    · exact (processes process known).cpuUsagePercent
    · exact (processes process known).memoryUsagePercent

/-- The payload is not empty and starts with the version, so the loop decides. -/
theorem deserialize_serialize [LawfulDoubleText D] (metrics : SystemMetrics D)
    (clean : NewlineFree metrics) :
    (deserialize (serialize metrics) : Except Bytes (SystemMetrics D)) =
      (((Field.all.map (fieldLine metrics) ++ metrics.topProcesses.map processRecord).foldlM
        parseLine initial).bind finish) := by
  have nonempty : serialize metrics ≠ [] := by
    rw [serialize_eq_lines, payloadLines]
    simp
  have version : stripCarriageReturn protocolVersion = protocolVersion :=
    strip_of_notMem _ (by decide)
  simp only [deserialize, nonempty, if_false, linesFrom_serialize metrics clean, payloadLines,
    version]
  simp [bind]

/-- The parser returns the canonical sample exactly when it is acceptable. -/
theorem deserialize_ok [LawfulDoubleText D] (metrics : SystemMetrics D)
    (clean : NewlineFree metrics) (known : Acceptable (canon metrics)) :
    deserialize (serialize metrics) = .ok (canon metrics) := by
  obtain ⟨fields, processes⟩ := (acceptable_iff _).mp known
  have stored : ∀ process ∈ metrics.topProcesses, StorableProcess (canonProcess process) :=
    fun process member => processes _ (List.mem_map_of_mem member)
  have first := fields_fold metrics Field.all initial (by decide) (fun field _ => by simp [initial])
    fun field _ => fields field
  rw [deserialize_serialize metrics clean, List.foldlM_append, first]
  simp only [bind, Except.bind, processes_fold metrics.topProcesses _ stored]
  have received : verifyRequiredFields (Field.all.map Field.key).reverse = .ok () := by decide
  have size : vectorSize (metrics.topProcesses.map canonProcess) =
      vectorSize metrics.topProcesses := by simp [vectorSize]
  show finish ⟨canon metrics, (Field.all.map Field.key).reverse,
    vectorSize (metrics.topProcesses.map canonProcess), true⟩ = _
  simp [finish, received, canon, bind, Except.bind]

/-- A sample that is not acceptable is refused. -/
theorem deserialize_error [LawfulDoubleText D] (metrics : SystemMetrics D)
    (clean : NewlineFree metrics) (refused : ¬ Acceptable (canon metrics)) :
    ∃ message, (deserialize (serialize metrics) : Except Bytes (SystemMetrics D)) =
      .error message := by
  rw [deserialize_serialize metrics clean, List.foldlM_append]
  by_cases fields : ∀ field, Storable (canon metrics) field
  · have first := fields_fold metrics Field.all initial (by decide)
      (fun field _ => by simp [initial]) fun field _ => fields field
    rw [acceptable_iff, not_and] at refused
    have bad := refused fields
    simp only [canon, List.mem_map, forall_exists_index, and_imp, forall_apply_eq_imp_iff₂,
      not_forall] at bad
    obtain ⟨process, member, refusal⟩ := bad
    obtain ⟨message, stopped⟩ := processes_fold_error metrics.topProcesses
      (Field.all.foldl (fun p field => store (canon metrics) (mark p field) field) initial)
      ⟨process, member, refusal⟩
    exact ⟨message, by simp [first, stopped, bind, Except.bind]⟩
  · push Not at fields
    obtain ⟨field, refusal⟩ := fields
    obtain ⟨message, stopped⟩ := fields_fold_error metrics Field.all initial (by decide)
      (fun field _ => by simp [initial]) ⟨field, by cases field <;> decide, refusal⟩
    exact ⟨message, by simp [stopped, bind, Except.bind]⟩

/-- The round trip succeeds exactly on acceptable canonical samples and returns them. -/
theorem roundTrip [LawfulDoubleText D] (metrics : SystemMetrics D) (clean : NewlineFree metrics) :
    ((∃ parsed : SystemMetrics D, deserialize (serialize metrics) = .ok parsed) ↔
      Acceptable (canon metrics)) ∧
    ∀ parsed, deserialize (serialize metrics) = .ok parsed → parsed = canon metrics := by
  by_cases known : Acceptable (canon metrics)
  · have result := deserialize_ok metrics clean known
    refine ⟨⟨fun _ => known, fun _ => ⟨_, result⟩⟩, fun parsed success => ?_⟩
    rw [result] at success
    exact (Except.ok.inj success).symm
  · obtain ⟨message, result⟩ := deserialize_error metrics clean known
    refine ⟨⟨fun ⟨parsed, success⟩ => ?_, fun accepted => absurd accepted known⟩,
      fun parsed success => ?_⟩
    · rw [result] at success
      cases success
    · rw [result] at success
      cases success

/-- This process name has commas, equals signs and a carriage return at its end. -/
def commaSample : SystemMetrics Int where
  hostname := ascii "a=b"
  logicalCpuCount := 4
  cpuUsagePercent := 25633
  diskMountPoint := ascii "/"
  networkInterface := ascii "eth0"
  sampleIntervalSeconds := Double.ofNat 1
  topProcesses := [{ pid := 7, name := ascii "x,y=z" ++ [13] }]

/-- A comma in a process name breaks the sample. -/
theorem roundTrip_commaSample :
    ((∃ parsed : SystemMetrics Int, deserialize (serialize commaSample) = .ok parsed) ↔
      Acceptable (canon commaSample)) ∧
    ∀ parsed, deserialize (serialize commaSample) = .ok parsed → parsed = canon commaSample :=
  roundTrip commaSample ⟨by decide, by decide, by decide, by decide⟩

end LMonitor.MetricsDeserializer

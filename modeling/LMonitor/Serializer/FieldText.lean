import LMonitor.Serializer.MetricsDeserializer
import Mathlib.Data.List.Induction

namespace LMonitor.MetricsDeserializer
open Library MetricsSerializer
variable {D : Type} [DoubleText D]

/-- This is the value that the serializer prints for a field. -/
def text (metrics : SystemMetrics D) : Field → Bytes
  | .hostname => metrics.hostname
  | .uptimeSeconds => printUnsigned metrics.uptimeSeconds
  | .logicalCpus => printUnsigned metrics.logicalCpuCount
  | .cpuUsagePercent => DoubleText.fixed2 metrics.cpuUsagePercent
  | .memoryTotalKb => printUnsigned metrics.memoryTotalKB
  | .memoryUsedKb => printUnsigned metrics.memoryUsedKB
  | .memoryAvailableKb => printUnsigned metrics.memoryAvailableKB
  | .memoryUsagePercent => DoubleText.fixed2 metrics.memoryUsagePercent
  | .load1 => DoubleText.fixed2 metrics.load1
  | .load5 => DoubleText.fixed2 metrics.load5
  | .load15 => DoubleText.fixed2 metrics.load15
  | .diskMount => metrics.diskMountPoint
  | .diskTotalBytes => printUnsigned metrics.diskTotalBytes
  | .diskUsedBytes => printUnsigned metrics.diskUsedBytes
  | .diskAvailableBytes => printUnsigned metrics.diskAvailableBytes
  | .diskUsagePercent => DoubleText.fixed2 metrics.diskUsagePercent
  | .networkInterface => metrics.networkInterface
  | .networkRxBytesPerSecond => DoubleText.fixed2 metrics.networkRxBytesPerSecond
  | .networkTxBytesPerSecond => DoubleText.fixed2 metrics.networkTxBytesPerSecond
  | .sampleIntervalSeconds => DoubleText.fixed2 metrics.sampleIntervalSeconds
  | .processCount => printUnsigned (vectorSize metrics.topProcesses)

def fieldLine (metrics : SystemMetrics D) (field : Field) : Bytes :=
  field.key ++ 61 :: text metrics field

/-- This is the value that the serializer prints for a process. -/
def processText (process : ProcessMetric D) : Bytes :=
  decimalInt process.pid.toInt ++ 44 :: (DoubleText.fixed2 process.cpuUsagePercent ++
    44 :: (DoubleText.fixed2 process.memoryUsagePercent ++
      44 :: (printUnsigned process.residentMemoryKB ++ 44 :: process.name)))

def processRecord (process : ProcessMetric D) : Bytes :=
  ascii "process" ++ 61 :: processText process

/-- These are the lines of a serialized sample. -/
def payloadLines (metrics : SystemMetrics D) : List Bytes :=
  protocolVersion :: (Field.all.map (fieldLine metrics) ++ metrics.topProcesses.map processRecord)

theorem processLine_eq (process : ProcessMetric D) :
    processLine process = processRecord process ++ [10] := by
  simp [processLine, processRecord, processText, show ascii "," = [44] from rfl,
    show ascii "process=" = ascii "process" ++ [61] from rfl]

/-- The serializer prints the version, the scalar fields in their order and the processes. -/
theorem serialize_eq_fields (metrics : SystemMetrics D) :
    serialize metrics = protocolVersion ++ [10] ++
      (Field.all.flatMap fun field => line field.name (text metrics field)) ++
      metrics.topProcesses.flatMap processLine := by
  have printed : serialize metrics =
      Field.all.foldl (fun payload field => payload ++ line field.name (text metrics field))
        (protocolVersion ++ [10]) ++ metrics.topProcesses.flatMap processLine := rfl
  rw [printed, List.foldl_append_eq_append, ← List.flatMap_def]

/-- The serializer ends each line with a line feed. -/
theorem serialize_eq_lines (metrics : SystemMetrics D) :
    serialize metrics = (payloadLines metrics).flatMap fun line => line ++ [10] := by
  have fields : (Field.all.flatMap fun field => line field.name (text metrics field)) =
      (Field.all.map (fieldLine metrics)).flatMap fun line => line ++ [10] := by
    rw [List.flatMap_map]
    apply List.flatMap_congr
    intro field _
    simp [line, fieldLine, Field.key, show ascii "=" = [61] from rfl]
  have processes : metrics.topProcesses.flatMap processLine =
      (metrics.topProcesses.map processRecord).flatMap fun line => line ++ [10] := by
    rw [List.flatMap_map]
    exact List.flatMap_congr fun process _ => processLine_eq process
  rw [serialize_eq_fields, fields, processes, payloadLines, List.flatMap_cons, List.flatMap_append,
    List.append_assoc]

/-- The strings of a sample have no line feed. -/
structure NewlineFree (metrics : SystemMetrics D) : Prop where
  hostname : 10 ∉ metrics.hostname
  diskMountPoint : 10 ∉ metrics.diskMountPoint
  networkInterface : 10 ∉ metrics.networkInterface
  processNames : ∀ process ∈ metrics.topProcesses, 10 ∉ process.name

theorem printUnsigned_ordinary (value : UInt64) :
    ∀ byte ∈ printUnsigned value, byte ≠ 44 ∧ byte ≠ 10 ∧ byte ≠ 13 := by
  have ordinary := decimalInt_ordinary value.toNat
  rwa [decimalInt_natCast] at ordinary

theorem key_newlineFree (field : Field) : 10 ∉ field.key := by
  cases field <;> decide

theorem key_noEquals (field : Field) : 61 ∉ field.key := by
  cases field <;> decide

/-- The text of a clean field is one line. -/
theorem text_newlineFree [LawfulDoubleText D] (metrics : SystemMetrics D)
    (clean : NewlineFree metrics) (field : Field) : 10 ∉ text metrics field := by
  have unsigned : ∀ value, 10 ∉ printUnsigned value := fun value member =>
    (printUnsigned_ordinary value 10 member).2.1 rfl
  have double : ∀ value : D, 10 ∉ DoubleText.fixed2 value := fun value member =>
    (LawfulDoubleText.fixed2_ordinary value 10 member).2.1 rfl
  cases field
  case hostname => exact clean.hostname
  case diskMount => exact clean.diskMountPoint
  case networkInterface => exact clean.networkInterface
  all_goals first | exact unsigned _ | exact double _

/-- The text of a clean process is one line. -/
theorem processText_newlineFree [LawfulDoubleText D] (process : ProcessMetric D)
    (clean : 10 ∉ process.name) : 10 ∉ processText process := by
  simp only [processText, List.mem_append, List.mem_cons, not_or]
  exact ⟨fun member => (decimalInt_ordinary _ 10 member).2.1 rfl, by decide,
    fun member => (LawfulDoubleText.fixed2_ordinary _ 10 member).2.1 rfl, by decide,
    fun member => (LawfulDoubleText.fixed2_ordinary _ 10 member).2.1 rfl, by decide,
    fun member => (printUnsigned_ordinary _ 10 member).2.1 rfl, by decide, clean⟩

/-- Every line of a clean sample is one line. -/
theorem payloadLines_newlineFree [LawfulDoubleText D] (metrics : SystemMetrics D)
    (clean : NewlineFree metrics) : ∀ line ∈ payloadLines metrics, 10 ∉ line := by
  intro line member
  rcases List.mem_cons.mp member with rfl | later
  · decide
  · rcases List.mem_append.mp later with inFields | inProcesses
    · obtain ⟨field, _, rfl⟩ := List.mem_map.mp inFields
      simp only [fieldLine, List.mem_append, List.mem_cons, not_or]
      exact ⟨key_newlineFree field, by decide, text_newlineFree metrics clean field⟩
    · obtain ⟨process, known, rfl⟩ := List.mem_map.mp inProcesses
      simp only [processRecord, List.mem_append, List.mem_cons, not_or]
      exact ⟨by decide, by decide,
        processText_newlineFree process (clean.processNames process known)⟩

/-- The parser gets back the lines that the serializer wrote. -/
theorem linesFrom_serialize [LawfulDoubleText D] (metrics : SystemMetrics D)
    (clean : NewlineFree metrics) : linesFrom 10 [] (serialize metrics) = payloadLines metrics := by
  rw [serialize_eq_lines]
  exact linesFrom_flatMap 10 _ (payloadLines_newlineFree metrics clean)

/-- A text without carriage return keeps its last byte. -/
theorem strip_of_notMem (text : Bytes) (clean : 13 ∉ text) : stripCarriageReturn text = text := by
  rw [stripCarriageReturn, if_neg]
  intro last
  exact clean (List.mem_of_getLast? last)

/-- Only the value of a line can lose a carriage return. -/
theorem strip_append (front text : Bytes) (byte : UInt8) (other : byte ≠ 13) :
    stripCarriageReturn (front ++ byte :: text) = front ++ byte :: stripCarriageReturn text := by
  cases text using List.reverseRecOn with
  | nil => simp [stripCarriageReturn, other]
  | append_singleton text last =>
      have joined : front ++ byte :: (text ++ [last]) = (front ++ byte :: text) ++ [last] := by simp
      rw [joined]
      simp only [stripCarriageReturn, List.getLast?_append, List.getLast?_singleton,
        Option.some_or, List.dropLast_concat]
      split <;> simp

/-- The parser reads a printed unsigned number back. -/
theorem parseUint64_print (value : UInt64) (name : Bytes) :
    parseUint64 (printUnsigned value) name = .ok value := by
  simp [parseUint64, printUnsigned, decimal_ne_nil, stoull_decimal]

theorem parseSize_print (value : UInt64) (name : Bytes) :
    parseSize (printUnsigned value) name = .ok value := by
  have small := value.toNat_lt
  have fits : ¬ 18446744073709551615 < value.toNat := by omega
  simp [parseSize, parseUint64_print, bind, Except.bind, fits]

theorem decimalInt_ne_nil (value : Int) : decimalInt value ≠ [] := by
  unfold decimalInt
  split
  · simp [ascii]
  · exact decimal_ne_nil _

theorem parseInt_print (value : Int32) (name : Bytes) :
    parseInt (decimalInt value.toInt) name = .ok value := by
  have lower := value.le_toInt
  have upper := value.toInt_lt
  have inRange : ¬ (value.toInt < -2147483648 ∨ 2147483647 < value.toInt) := by omega
  simp [parseInt, decimalInt_ne_nil, stoll_decimalInt value.toInt (by omega) (by omega), inRange]

/-- The parser reads a printed double back as its rounded value and refuses what is not finite. -/
theorem parseDouble_print [LawfulDoubleText D] (value : D) (name : Bytes) :
    parseDouble (DoubleText.fixed2 value) name =
      if Double.isFinite (DoubleText.round2 value) then .ok (DoubleText.round2 value)
      else .error (ascii "Non-finite value for field '" ++ name ++ ascii "'") := by
  simp [parseDouble, LawfulDoubleText.fixed2_ne_nil, LawfulDoubleText.stod_fixed2]

end LMonitor.MetricsDeserializer

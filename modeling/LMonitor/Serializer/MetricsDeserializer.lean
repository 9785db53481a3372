import LMonitor.Library.Split
import LMonitor.Serializer.MetricsSerializer

namespace LMonitor.MetricsDeserializer
open Library
variable {D : Type} [DoubleText D]

def protocolVersion : Bytes := ascii "LMONITOR/1"

def invalidTrailing (value fieldName : Bytes) : Bytes :=
  ascii "Invalid trailing characters in field '" ++ fieldName ++ ascii "': " ++ value

def parseUint64 (value fieldName : Bytes) : Except Bytes UInt64 :=
  if value = [] then .error (ascii "Empty integer field: " ++ fieldName)
  else
    match stoull value with
    | none => .error
        (ascii "Invalid unsigned integer for field '" ++ fieldName ++ ascii "': " ++ value)
    | some (parsedValue, parsedCharacters) =>
        if parsedCharacters ≠ value.length then .error (invalidTrailing value fieldName)
        else .ok parsedValue

/-- The range check never fails, since `std::size_t` has 64 bits. -/
def parseSize (value fieldName : Bytes) : Except Bytes UInt64 := do
  let parsedValue ← parseUint64 value fieldName
  if 18446744073709551615 < parsedValue.toNat then
    .error (ascii "Value too large for field '" ++ fieldName ++ ascii "'")
  else .ok parsedValue

def parseInt (value fieldName : Bytes) : Except Bytes Int32 :=
  if value = [] then .error (ascii "Empty integer field: " ++ fieldName)
  else
    match stoll value with
    | none => .error (ascii "Invalid integer for field '" ++ fieldName ++ ascii "': " ++ value)
    | some (parsedValue, parsedCharacters) =>
        if parsedCharacters ≠ value.length then .error (invalidTrailing value fieldName)
        else if parsedValue < -2147483648 ∨ 2147483647 < parsedValue then
          .error (ascii "Integer out of range for field '" ++ fieldName ++ ascii "'")
        else .ok (Int32.ofInt parsedValue)

def parseDouble (value fieldName : Bytes) : Except Bytes D :=
  if value = [] then .error (ascii "Empty floating-point field: " ++ fieldName)
  else
    match DoubleText.stod value with
    | none => .error
        (ascii "Invalid floating-point value for field '" ++ fieldName ++ ascii "': " ++ value)
    | some (parsedValue, parsedCharacters) =>
        if parsedCharacters ≠ value.length then .error (invalidTrailing value fieldName)
        else if Double.isFinite parsedValue then .ok parsedValue
        else .error (ascii "Non-finite value for field '" ++ fieldName ++ ascii "'")

/-- The loop cuts the value at this many commas, and the last part keeps all others. -/
def splitFields : Nat → Bytes → Option (List Bytes)
  | 0, rest => some [rest]
  | commas + 1, rest =>
      match splitFirst 44 rest with
      | none => none
      | some (field, rest) => (splitFields commas rest).map (field :: ·)

def parseProcess (value : Bytes) : Except Bytes (ProcessMetric D) :=
  match splitFields 4 value with
  | none => .error (ascii "Malformed process record: " ++ value)
  | some [pidText, cpuText, memoryText, residentText, name] => do
      let pid ← parseInt pidText (ascii "process.pid")
      if pid < 0 then .error (ascii "Negative process pid")
      let cpuUsagePercent ← parseDouble cpuText (ascii "process.cpu_usage_percent")
      let memoryUsagePercent ← parseDouble memoryText (ascii "process.memory_usage_percent")
      let residentMemoryKB ← parseUint64 residentText (ascii "process.resident_memory_kb")
      if name = [] then .error (ascii "Process name must not be empty")
      .ok ⟨pid, name, cpuUsagePercent, memoryUsagePercent, residentMemoryKB⟩
  | some _ => .error (ascii "Malformed process record")

/-- These are the fields that a payload must have exactly once. -/
inductive Field where
  | hostname
  | uptimeSeconds
  | logicalCpus
  | cpuUsagePercent
  | memoryTotalKb
  | memoryUsedKb
  | memoryAvailableKb
  | memoryUsagePercent
  | load1
  | load5
  | load15
  | diskMount
  | diskTotalBytes
  | diskUsedBytes
  | diskAvailableBytes
  | diskUsagePercent
  | networkInterface
  | networkRxBytesPerSecond
  | networkTxBytesPerSecond
  | sampleIntervalSeconds
  | processCount
  deriving DecidableEq

namespace Field

def name : Field → String
  | hostname => "hostname"
  | uptimeSeconds => "uptime_seconds"
  | logicalCpus => "logical_cpus"
  | cpuUsagePercent => "cpu_usage_percent"
  | memoryTotalKb => "memory_total_kb"
  | memoryUsedKb => "memory_used_kb"
  | memoryAvailableKb => "memory_available_kb"
  | memoryUsagePercent => "memory_usage_percent"
  | load1 => "load_1"
  | load5 => "load_5"
  | load15 => "load_15"
  | diskMount => "disk_mount"
  | diskTotalBytes => "disk_total_bytes"
  | diskUsedBytes => "disk_used_bytes"
  | diskAvailableBytes => "disk_available_bytes"
  | diskUsagePercent => "disk_usage_percent"
  | networkInterface => "network_interface"
  | networkRxBytesPerSecond => "network_rx_bytes_per_second"
  | networkTxBytesPerSecond => "network_tx_bytes_per_second"
  | sampleIntervalSeconds => "sample_interval_seconds"
  | processCount => "process_count"

def key (field : Field) : Bytes := ascii field.name

def all : List Field :=
  [hostname, uptimeSeconds, logicalCpus, cpuUsagePercent, memoryTotalKb, memoryUsedKb,
    memoryAvailableKb, memoryUsagePercent, load1, load5, load15, diskMount, diskTotalBytes,
    diskUsedBytes, diskAvailableBytes, diskUsagePercent, networkInterface,
    networkRxBytesPerSecond, networkTxBytesPerSecond, sampleIntervalSeconds, processCount]

/-- The comparisons of the key with the field names select at most one field. -/
def ofKey (key : Bytes) : Option Field := all.find? fun field => field.key = key

end Field

/-- This record holds the local variables of the parse loop. -/
structure Parse (D : Type) [Double D] where
  metrics : SystemMetrics D
  receivedFields : List Bytes
  expectedProcessCount : UInt64
  processCountSeen : Bool

/-- The set refuses a key that it already has. -/
def markRequiredField (fields : List Bytes) (key : Bytes) : Except Bytes (List Bytes) :=
  if key ∈ fields then .error (ascii "Duplicate field: " ++ key) else .ok (key :: fields)

def requireText (message : String) (value : Bytes) : Except Bytes Bytes :=
  if value = [] then .error (ascii message) else .ok value

/-- Each field converts its value and stores it in the sample. -/
def assign (field : Field) (value : Bytes) (p : Parse D) : Except Bytes (Parse D) :=
  let metrics := p.metrics
  match field with
  | .hostname => do
      let text ← requireText "hostname must not be empty" value
      .ok { p with metrics := { metrics with hostname := text } }
  | .uptimeSeconds => do
      let number ← parseUint64 value field.key
      .ok { p with metrics := { metrics with uptimeSeconds := number } }
  | .logicalCpus => do
      let number ← parseSize value field.key
      if number = 0 then .error (ascii "logical_cpus must be greater than 0")
      .ok { p with metrics := { metrics with logicalCpuCount := number } }
  | .cpuUsagePercent => do
      let number ← parseDouble value field.key
      .ok { p with metrics := { metrics with cpuUsagePercent := number } }
  | .memoryTotalKb => do
      let number ← parseUint64 value field.key
      .ok { p with metrics := { metrics with memoryTotalKB := number } }
  | .memoryUsedKb => do
      let number ← parseUint64 value field.key
      .ok { p with metrics := { metrics with memoryUsedKB := number } }
  | .memoryAvailableKb => do
      let number ← parseUint64 value field.key
      .ok { p with metrics := { metrics with memoryAvailableKB := number } }
  | .memoryUsagePercent => do
      let number ← parseDouble value field.key
      .ok { p with metrics := { metrics with memoryUsagePercent := number } }
  | .load1 => do
      let number ← parseDouble value field.key
      .ok { p with metrics := { metrics with load1 := number } }
  | .load5 => do
      let number ← parseDouble value field.key
      .ok { p with metrics := { metrics with load5 := number } }
  | .load15 => do
      let number ← parseDouble value field.key
      .ok { p with metrics := { metrics with load15 := number } }
  | .diskMount => do
      let text ← requireText "disk_mount must not be empty" value
      .ok { p with metrics := { metrics with diskMountPoint := text } }
  | .diskTotalBytes => do
      let number ← parseUint64 value field.key
      .ok { p with metrics := { metrics with diskTotalBytes := number } }
  | .diskUsedBytes => do
      let number ← parseUint64 value field.key
      .ok { p with metrics := { metrics with diskUsedBytes := number } }
  | .diskAvailableBytes => do
      let number ← parseUint64 value field.key
      .ok { p with metrics := { metrics with diskAvailableBytes := number } }
  | .diskUsagePercent => do
      let number ← parseDouble value field.key
      .ok { p with metrics := { metrics with diskUsagePercent := number } }
  | .networkInterface => do
      let text ← requireText "network_interface must not be empty" value
      .ok { p with metrics := { metrics with networkInterface := text } }
  | .networkRxBytesPerSecond => do
      let number ← parseDouble value field.key
      .ok { p with metrics := { metrics with networkRxBytesPerSecond := number } }
  | .networkTxBytesPerSecond => do
      let number ← parseDouble value field.key
      .ok { p with metrics := { metrics with networkTxBytesPerSecond := number } }
  | .sampleIntervalSeconds => do
      let number ← parseDouble value field.key
      if Double.le number (Double.ofNat 0) then
        .error (ascii "sample_interval_seconds must be greater than 0")
      .ok { p with metrics := { metrics with sampleIntervalSeconds := number } }
  | .processCount => do
      let number ← parseSize value field.key
      .ok { p with
        expectedProcessCount := number
        processCountSeen := true }

/-- One trailing carriage return belongs to the line end. -/
def stripCarriageReturn (line : Bytes) : Bytes :=
  if line.getLast? = some 13 then line.dropLast else line

/-- One pass of the parse loop handles one line. -/
def parseLine (p : Parse D) (line : Bytes) : Except Bytes (Parse D) :=
  let line := stripCarriageReturn line
  if line = [] then .ok p
  else
    match splitFirst 61 line with
    | none => .error (ascii "Malformed metrics line: " ++ line)
    | some (key, value) =>
        if key = [] then .error (ascii "Metrics field name must not be empty")
        else if key = ascii "process" then do
          let process ← parseProcess value
          .ok { p with metrics :=
            { p.metrics with topProcesses := p.metrics.topProcesses ++ [process] } }
        else do
          let receivedFields ← markRequiredField p.receivedFields key
          match Field.ofKey key with
          | some field => assign field value { p with receivedFields := receivedFields }
          | none => .error (ascii "Unknown metrics field: " ++ key)

def verifyRequiredFields (fields : List Bytes) : Except Bytes Unit :=
  match Field.all.find? fun field => field.key ∉ fields with
  | some field => .error (ascii "Missing required field: " ++ field.key)
  | none => .ok ()

/-- After the loop, every field and the announced number of processes must be there. -/
def finish (p : Parse D) : Except Bytes (SystemMetrics D) := do
  verifyRequiredFields p.receivedFields
  if p.processCountSeen = false then .error (ascii "Missing process_count")
  if vectorSize p.metrics.topProcesses ≠ p.expectedProcessCount then
    .error (ascii "Process count mismatch: expected " ++ decimal p.expectedProcessCount.toNat ++
      ascii ", received " ++ decimal (vectorSize p.metrics.topProcesses).toNat)
  .ok p.metrics

def initial : Parse D := ⟨{}, [], 0, false⟩

def deserialize (payload : Bytes) : Except Bytes (SystemMetrics D) :=
  if payload = [] then .error (ascii "Empty metrics payload")
  else
    match linesFrom 10 [] payload with
    | [] => .error (ascii "Missing protocol version")
    | version :: lines =>
        let version := stripCarriageReturn version
        if version ≠ protocolVersion then
          .error (ascii "Unsupported metrics protocol version: " ++ version)
        else do
          let p ← lines.foldlM parseLine initial
          finish p

end LMonitor.MetricsDeserializer

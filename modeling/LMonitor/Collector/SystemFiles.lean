import LMonitor.Agent.RationalText
import LMonitor.Library.PaddedText

namespace LMonitor
open Library
open RationalDouble (extractDouble)

namespace CpuCollector

/-- A stream is over after its first failed extraction, which stores the largest number for digits
out of range and zero for other text. A later extraction leaves its member at zero. -/
def readMember (stream : Option Bytes) : UInt64 × Option Bytes :=
  match stream with
  | none => (0, none)
  | some text =>
      match extractUnsigned text with
      | some (value, rest) => (value, some rest)
      | none => (if (scanInteger text).isSome then 18446744073709551615 else 0, none)

/-- The first line has the label `cpu` and then the counters. -/
def readCpuTimes (file : Option Bytes) : Except Bytes CpuTimes :=
  match file with
  | none => .error (ascii "Failed to open /proc/stat")
  | some text =>
      match getline text with
      | none => .error (ascii "Failed to read /proc/stat")
      | some (line, _) =>
          match extractWord line with
          | none => .error (ascii "Invalid /proc/stat format")
          | some (cpuLabel, rest) =>
              let (user, stream) := readMember (some rest)
              let (nice, stream) := readMember stream
              let (system, stream) := readMember stream
              let (idle, stream) := readMember stream
              let (iowait, stream) := readMember stream
              let (irq, stream) := readMember stream
              let (softirq, stream) := readMember stream
              let (steal, _) := readMember stream
              if cpuLabel ≠ ascii "cpu" then .error (ascii "Invalid /proc/stat format")
              else .ok ⟨user, nice, system, idle, iowait, irq, softirq, steal⟩

end CpuCollector

namespace LoadCollector

def readLoads : Extraction LoadInfo := do
  let load1 ← extractDouble
  let load5 ← extractDouble
  let load15 ← extractDouble
  return ⟨load1, load5, load15⟩

def collect (file : Option Bytes) : Except Bytes LoadInfo :=
  match file with
  | none => .error (ascii "Failed to open /proc/loadavg")
  | some text =>
      match readLoads text with
      | none => .error (ascii "Failed to parse /proc/loadavg")
      | some (info, _) => .ok info

end LoadCollector

namespace SystemCollector

/-- The host name ends before the first zero byte of its buffer, and the uptime is truncated. -/
def collect (hostname : Option Bytes) (file : Option Bytes) : Except Bytes SystemInfo :=
  match hostname with
  | none => .error (ascii "Failed to get hostname")
  | some buffer =>
      match file with
      | none => .error (ascii "Failed to open /proc/uptime")
      | some text =>
          match extractDouble text with
          | none => .error (ascii "Failed to parse /proc/uptime")
          | some (uptimeSeconds, _) =>
              .ok ⟨buffer.takeWhile (· ≠ 0), UInt64.ofNat uptimeSeconds.floor.toNat⟩

end SystemCollector

namespace CpuCollector

/-- The kernel prints the counters of all processors in the first line, and further text follows. -/
structure StatFile where
  times : CpuTimes
  rest : Bytes
  more : Bytes
  restLine : 10 ∉ rest
  restBlank : ∀ byte ∈ rest.head?, byte = 32

namespace StatFile

def counters (file : StatFile) : List UInt64 :=
  [file.times.user, file.times.nice, file.times.system, file.times.idle, file.times.iowait,
    file.times.irq, file.times.softirq, file.times.steal]

def line (file : StatFile) : Bytes :=
  ascii "cpu " ++ (file.counters.flatMap fun counter => 32 :: decimal counter.toNat) ++ file.rest

def text (file : StatFile) : Bytes := file.line ++ 10 :: file.more

end StatFile

/-- A member is read behind its padding. -/
theorem readMember_padded {padding : Bytes} (blank : Padding padding) (value : UInt64)
    {rest : Bytes} (stops : Stops rest) :
    readMember (some (padding ++ (decimal value.toNat ++ rest))) = (value, some rest) := by
  simp only [readMember, extractUnsigned_padded value blank stops]

theorem readMember_printed (value : UInt64) {rest : Bytes} (stops : Stops rest) :
    readMember (some (32 :: (decimal value.toNat ++ rest))) = (value, some rest) :=
  readMember_padded (show Padding [32] by decide) value stops

theorem newline_line (file : StatFile) : 10 ∉ file.line := by
  have label : 10 ∉ ascii "cpu " := by decide
  have counters : 10 ∉ file.counters.flatMap fun counter => 32 :: decimal counter.toNat := by
    intro member
    obtain ⟨counter, _, inside⟩ := List.mem_flatMap.mp member
    obtain blank | digit := List.mem_cons.mp inside
    · cases blank
    · exact (isDigit_ordinary (decimal_isDigit _ 10 digit)).2.2.2.2.1 rfl
  simp only [StatFile.line, List.mem_append, not_or]
  exact ⟨⟨label, counters⟩, file.restLine⟩

/-- The printed counters are read back. -/
theorem readCpuTimes_text (file : StatFile) : readCpuTimes (some file.text) = .ok file.times := by
  have stops : Stops file.rest := by
    intro byte starts
    rw [file.restBlank byte starts]
    rfl
  have shape : file.line = [] ++ (ascii "cpu" ++ 32 :: 32 ::
      (decimal file.times.user.toNat ++ 32 :: (decimal file.times.nice.toNat ++
      32 :: (decimal file.times.system.toNat ++ 32 :: (decimal file.times.idle.toNat ++
      32 :: (decimal file.times.iowait.toNat ++ 32 :: (decimal file.times.irq.toNat ++
      32 :: (decimal file.times.softirq.toNat ++ 32 :: (decimal file.times.steal.toNat ++
        file.rest))))))))) := by
    simp [StatFile.line, StatFile.counters, ascii]
  have user := readMember_padded (show Padding [32, 32] by decide) file.times.user
    (stops_blank (decimal file.times.nice.toNat ++
      32 :: (decimal file.times.system.toNat ++ 32 :: (decimal file.times.idle.toNat ++
      32 :: (decimal file.times.iowait.toNat ++ 32 :: (decimal file.times.irq.toNat ++
      32 :: (decimal file.times.softirq.toNat ++ 32 :: (decimal file.times.steal.toNat ++
        file.rest))))))))
  have word := extractWord_padded (show Padding [] by decide) (show Word (ascii "cpu") by decide)
    (ends_space 32 rfl
      (32 :: (decimal file.times.user.toNat ++ 32 :: (decimal file.times.nice.toNat ++
      32 :: (decimal file.times.system.toNat ++ 32 :: (decimal file.times.idle.toNat ++
      32 :: (decimal file.times.iowait.toNat ++ 32 :: (decimal file.times.irq.toNat ++
      32 :: (decimal file.times.softirq.toNat ++ 32 :: (decimal file.times.steal.toNat ++
        file.rest))))))))))
  have line := getline_line (newline_line file) file.more
  rw [← StatFile.text] at line
  rw [← shape] at word
  simp only [readCpuTimes, line, word]
  simp only [List.cons_append, List.nil_append] at user
  simp only [user, readMember_printed, stops, stops_blank, ne_eq, not_true_eq_false, if_false]

end CpuCollector
end LMonitor

import LMonitor.Collector.ProcessCollector
import LMonitor.Collector.ProcessStat
import LMonitor.Library.PaddedText
import LMonitor.Library.Split

namespace LMonitor
open Library

/-- The directory `/proc` has entries, and some of them are directories. A file that cannot be
opened has no text. -/
structure ProcDirectory where
  entries : List (Bytes × Bool)
  files : Bytes → Option Bytes

namespace ProcessCollector

/-- The name of a process directory has digits only. -/
def isPidDirectory (entry : Bytes × Bool) : Bool :=
  entry.2 && (entry.1 ≠ [] && entry.1.all isDigit)

def path (pid : Int32) (name : String) : Bytes :=
  ascii "/proc/" ++ decimalInt pid.toInt ++ ascii "/" ++ ascii name

/-- The name is the first line of its file unless it is empty. -/
def readProcessName (file : Option Bytes) : Option Bytes :=
  match file.bind getline with
  | none => none
  | some (processName, _) => if processName = [] then none else some processName

def readResident : Extraction UInt64 := do
  let _key ← extractWord
  let value ← extractUnsigned
  let _unit ← extractWord
  return value

/-- The first line with the key decides. -/
def findResident : List Bytes → Option UInt64
  | [] => none
  | line :: lines =>
      if (ascii "VmRSS:").isPrefixOf line then (readResident line).map Prod.fst
      else findResident lines

def readProcessMemory (file : Option Bytes) : Option UInt64 :=
  file.bind fun text => findResident (linesFrom 10 [] text)

/-- One pass of the loop skips an entry that is no process or has no readable files. -/
def snapshotOf (proc : ProcDirectory) (entry : Bytes × Bool) : Option ProcessSnapshot := do
  if isPidDirectory entry then
    let (pid, _) ← stoi entry.1
    let pid := Int32.ofInt pid
    let name ← readProcessName (proc.files (path pid "comm"))
    let times ← readProcessCpuTimes (proc.files (path pid "stat"))
    let residentMemoryKB ← readProcessMemory (proc.files (path pid "status"))
    some ⟨pid, name, times.userTime, times.systemTime, times.startTime, residentMemoryKB⟩
  else none

def collectSnapshots (proc : ProcDirectory) : List ProcessSnapshot :=
  proc.entries.filterMap (snapshotOf proc)

/-- The kernel shows a process with its statistics and with the resident memory that a kernel
thread does not have. Its name may go on behind a line feed, which the kernel prints as it is. -/
structure RunningProcess where
  pid : Int32
  nonnegative : 0 ≤ pid
  stat : StatLine
  nameMore : Option Bytes
  statMore : Option Bytes
  statusBefore : List Bytes
  residentMemoryKB : Option UInt64
  statusAfter : List Bytes
  statusLines : ∀ line ∈ statusBefore ++ statusAfter,
    10 ∉ line ∧ (ascii "VmRSS:").isPrefixOf line = false

namespace RunningProcess

def name (process : RunningProcess) : Bytes := fileOf process.stat.name process.nameMore

def comm (process : RunningProcess) : Bytes := process.name ++ [10]

def statText (process : RunningProcess) : Bytes :=
  decimalInt process.stat.pid ++ ascii " (" ++ process.name ++
    41 :: 32 :: fileOf process.stat.remaining process.statMore

def residentLine (residentMemoryKB : UInt64) : Bytes :=
  ascii "VmRSS:" ++ 9 :: (decimal residentMemoryKB.toNat ++ ascii " kB")

def statusText (process : RunningProcess) : Bytes :=
  (process.statusBefore ++ (process.residentMemoryKB.map residentLine).toList ++
    process.statusAfter).flatMap fun line => line ++ [10]

/-- All files of the process can be read. -/
structure Present (process : RunningProcess) (proc : ProcDirectory) : Prop where
  comm : proc.files (path process.pid "comm") = some process.comm
  stat : proc.files (path process.pid "stat") = some process.statText
  status : proc.files (path process.pid "status") = some process.statusText

/-- The process ended before its last file was opened. -/
def Gone (process : RunningProcess) (proc : ProcDirectory) : Prop :=
  ∃ name ∈ ["comm", "stat", "status"], proc.files (path process.pid name) = none

/-- The first line of the statistics ends inside a name with a line feed, so the times come from
the text of the name, if it has any. -/
def times (process : RunningProcess) : Option ProcessTimes :=
  match process.nameMore with
  | none => some process.stat.times
  | some _ => readProcessCpuTimes (some process.stat.name)

/-- A process with a name, readable times and resident memory has this snapshot. -/
def snapshot (process : RunningProcess) : Option ProcessSnapshot :=
  match process.residentMemoryKB with
  | none => none
  | some residentMemoryKB =>
      if process.stat.name = [] then none
      else process.times.map fun times => ⟨process.pid, process.stat.name, times.userTime,
        times.systemTime, times.startTime, residentMemoryKB⟩

end RunningProcess

/-- The directory lists the processes with different numbers between other entries, and a process
may end while it is read. -/
structure ShownProcesses where
  proc : ProcDirectory
  processes : List RunningProcess
  distinct : (processes.map RunningProcess.pid).Nodup
  listed : proc.entries.filter isPidDirectory =
    processes.map fun process => (decimalInt process.pid.toInt, true)
  shown : ∀ process ∈ processes, process.Present proc ∨ process.Gone proc

/-- The first process is shown as usual. -/
def initProcess : RunningProcess where
  pid := 1
  nonnegative := by decide
  stat := initStat
  nameMore := none
  statMore := some []
  statusBefore := [ascii "Name:\tinit"]
  residentMemoryKB := some 900
  statusAfter := []
  statusLines := by simpa using ⟨by decide, by decide⟩

/-- This process has a line feed in its name. -/
def brokenProcess : RunningProcess :=
  { initProcess with
    pid := 8
    nonnegative := by decide
    stat := { initStat with name := ascii "two", nameLine := by decide }
    nameMore := some (ascii "lines") }

/-- The directory has an entry of a process that ended and an entry that is no process. -/
def loadDirectory : ProcDirectory where
  entries := [(ascii "1", true), (ascii "self", true), (ascii "8", true), (ascii "9", true)]
  files path := [(ascii "/proc/1/comm", initProcess.comm),
    (ascii "/proc/1/stat", initProcess.statText), (ascii "/proc/1/status", initProcess.statusText),
    (ascii "/proc/8/comm", brokenProcess.comm), (ascii "/proc/8/stat", brokenProcess.statText),
    (ascii "/proc/8/status", brokenProcess.statusText)].lookup path

def loadProcesses : ShownProcesses where
  proc := loadDirectory
  processes := [initProcess, brokenProcess, { initProcess with pid := 9, nonnegative := by decide }]
  distinct := by decide
  listed := by decide +kernel
  shown := by
    simp only [List.forall_mem_cons]
    refine ⟨.inl ⟨?_, ?_, ?_⟩, .inl ⟨?_, ?_, ?_⟩, .inr ⟨"comm", ?_, ?_⟩, ?_⟩
    all_goals first
      | rfl
      | simp

end ProcessCollector
end LMonitor

import LMonitor.Library.Bytes
import Mathlib.Algebra.Group.Nat.Defs

namespace LMonitor

/-- The logger writes each line to one of the two console streams. -/
inductive Console where
  | cout
  | cerr
  deriving DecidableEq

/-- The two files of the log belong to the state, and a missing file has no content. -/
structure Logger where
  logFilePath : Bytes
  active : Option Bytes
  backup : Option Bytes
  isOpen : Bool
  currentFileSize : Nat
  console : List (Console × Bytes)

namespace Logger

inductive Level where
  | info
  | warning
  | error
  deriving DecidableEq

def levelToString : Level → Bytes
  | .info => ascii "INFO"
  | .warning => ascii "WARN"
  | .error => ascii "ERROR"

def maxLogFileSize : Nat := 10 * 1024 * 1024

/-- A sum of two `std::size_t` values wraps around. -/
def sizeAdd (first second : Nat) : Nat := (first + second) % 2 ^ 64

/-- These operations of the file system fail, with a message where the logger shows one. -/
structure FileErrors where
  existsActive : Bool := false
  existsBackup : Bool := false
  remove : Option Bytes := none
  rename : Option Bytes := none
  openTruncated : Bool := false
  openAppending : Bool := false
  fileSize : Bool := false

/-- The path of the backup is the path of the log with a suffix. -/
def backupPath (this : Logger) : Bytes := this.logFilePath ++ ascii ".1"

def print (stream : Console) (line : Bytes) (this : Logger) : Logger :=
  { this with console := this.console ++ [(stream, line)] }

def warn (text : Bytes) (this : Logger) : Logger :=
  this.print .cerr (ascii "Logger warning: " ++ text)

/-- The stream opens for appending, and the file system gives the size of the file. -/
def openLogFile (errors : FileErrors) (this : Logger) : Logger :=
  if errors.openAppending then
    { this with isOpen := false }.warn (ascii "failed to open log file: " ++ this.logFilePath)
  else
    let content := this.active.getD []
    { this with
      active := some content
      isOpen := true
      currentFileSize := if errors.fileSize then 0 else content.length % 2 ^ 64 }

/-- A failed removal leaves the old backup in place. -/
def removeBackup (errors : FileErrors) (this : Logger) : Logger :=
  if this.backup.isSome && !errors.existsBackup then
    match errors.remove with
    | some message => this.warn (ascii "failed to remove old rotated log: " ++ this.backupPath ++
        ascii ": " ++ message)
    | none => { this with backup := none }
  else this

/-- The stream opens with an empty file. -/
def startFresh (errors : FileErrors) (this : Logger) : Logger :=
  let empty := { this with currentFileSize := 0 }
  if errors.openTruncated then
    empty.warn (ascii "failed to create new log file after rotation: " ++ this.logFilePath)
  else { empty with active := some [], isOpen := true }

def rotateIfNeeded (errors : FileErrors) (incomingBytes : Nat) (this : Logger) : Logger :=
  if sizeAdd this.currentFileSize incomingBytes ≤ maxLogFileSize then this
  else
    let closed := removeBackup errors { this with isOpen := false }
    if closed.active.isSome && !errors.existsActive then
      match errors.rename with
      | some message =>
          openLogFile errors (closed.warn (ascii "failed to rotate log file: " ++
            this.logFilePath ++ ascii ": " ++ message))
      | none => startFresh errors { closed with active := none, backup := closed.active }
    else startFresh errors closed

/-- A call that finds room leaves the files alone. -/
theorem rotateIfNeeded_keeps {incomingBytes : Nat} {this : Logger}
    (small : sizeAdd this.currentFileSize incomingBytes ≤ maxLogFileSize) (errors : FileErrors) :
    rotateIfNeeded errors incomingBytes this = this := by
  rw [rotateIfNeeded, if_pos small]

/-- The constructor rotates a file that is already too large, then it opens the log. -/
def construct (logFilePath parentDirectory : Bytes) (active backup : Option Bytes)
    (createDirectories : Option Bytes) (probing rotating opening : FileErrors) : Logger :=
  let this : Logger := ⟨logFilePath, active, backup, false, 0, []⟩
  let this :=
    match createDirectories with
    | some message =>
        if parentDirectory = [] then this
        else this.warn (ascii "failed to create log directory: " ++ parentDirectory ++
          ascii ": " ++ message)
    | none => this
  let this :=
    match active with
    | some content =>
        if probing.existsActive || probing.fileSize then this
        else { this with currentFileSize := content.length % 2 ^ 64 }
    | none => this
  let this :=
    if maxLogFileSize ≤ this.currentFileSize then rotateIfNeeded rotating 0 this else this
  openLogFile opening this

def logLine (timestamp : Bytes) (level : Level) (thread message : Bytes) : Bytes :=
  timestamp ++ ascii " [" ++ levelToString level ++ ascii "]" ++ ascii " [thread=" ++ thread ++
    ascii "] " ++ message

/-- The record of a call is its line with a line feed. -/
def record (timestamp : Bytes) (level : Level) (thread message : Bytes) : Bytes :=
  logLine timestamp level thread message ++ ascii "\n"

/-- The call shows the line on the console before it rotates and writes the file. -/
def log (errors : FileErrors) (timestamp : Bytes) (level : Level) (thread message : Bytes)
    (this : Logger) : Logger :=
  let line := logLine timestamp level thread message
  let incomingBytes := sizeAdd line.length 1
  let stream := if level = .error then .cerr else .cout
  let ready := rotateIfNeeded errors incomingBytes (this.print stream line)
  if ready.isOpen then
    { ready with
      active := some (ready.active.getD [] ++ record timestamp level thread message)
      currentFileSize := sizeAdd ready.currentFileSize incomingBytes }
  else ready

end Logger
end LMonitor

import LMonitor.Library.RotatedLog
import LMonitor.Log.Logger

namespace LMonitor.Logger
open Library

/-- A file of the host has a size that `off_t` can represent. -/
abbrev LogFile := { content : Bytes // content.length < 2 ^ 63 }

/-- These are the files before the logger starts. -/
structure LogFiles where
  active : Option LogFile
  backup : Option LogFile

def LogFiles.activeContent (files : LogFiles) : Bytes := (files.active.map Subtype.val).getD []

def LogFiles.backupContent (files : LogFiles) : Bytes := (files.backup.map Subtype.val).getD []

/-- A call of the logger has the parts of one record, and the record fits in a file. -/
structure LogCall where
  timestamp : Bytes
  level : Level
  thread : Bytes
  message : Bytes
  fits : (record timestamp level thread message).length < 2 ^ 63

def LogCall.record (call : LogCall) : Bytes :=
  Logger.record call.timestamp call.level call.thread call.message

/-- Every operation of the file system succeeds. -/
def noErrors : FileErrors := {}

def LogCall.perform (this : Logger) (call : LogCall) : Logger :=
  log noErrors call.timestamp call.level call.thread call.message this

def started (logFilePath parentDirectory : Bytes) (files : LogFiles) : Logger :=
  construct logFilePath parentDirectory (files.active.map Subtype.val)
    (files.backup.map Subtype.val) none noErrors noErrors noErrors

def reached (logFilePath parentDirectory : Bytes) (files : LogFiles) (calls : List LogCall) :
    Logger :=
  calls.foldl LogCall.perform (started logFilePath parentDirectory files)

/-- The files of an open logger are the two blocks of a rotated log. -/
structure Tracks (blocks : RotatedLog Bytes) (this : Logger) : Prop where
  opened : this.isOpen = true
  active : this.active = some blocks.newer.flatten
  backup : this.backup.getD [] = blocks.older.flatten
  size : this.currentFileSize = blocks.newer.flatten.length
  fits : blocks.newer.flatten.length < 2 ^ 63

theorem sizeAdd_eq {first second : Nat} (fits : first + second < 2 ^ 64) :
    sizeAdd first second = first + second :=
  Nat.mod_eq_of_lt fits

theorem record_length (timestamp : Bytes) (level : Level) (thread message : Bytes) :
    (Logger.record timestamp level thread message).length =
      (logLine timestamp level thread message).length + 1 := by
  simp [Logger.record, ascii]

/-- A successful rotation moves the active file to the backup. -/
theorem rotateIfNeeded_rotates {incomingBytes : Nat} {this : Logger} {content : Bytes}
    (present : this.active = some content)
    (large : maxLogFileSize < sizeAdd this.currentFileSize incomingBytes) :
    rotateIfNeeded noErrors incomingBytes this =
      { this with
        active := some []
        backup := some content
        isOpen := true
        currentFileSize := 0 } := by
  have rotates : ¬ sizeAdd this.currentFileSize incomingBytes ≤ maxLogFileSize := by omega
  rw [rotateIfNeeded, if_neg rotates]
  cases this.backup <;> simp [removeBackup, startFresh, noErrors, present]

/-- The opening of a file reads its size. -/
theorem openLogFile_tracks {blocks : RotatedLog Bytes} {this : Logger}
    (active : this.active.getD [] = blocks.newer.flatten)
    (backup : this.backup.getD [] = blocks.older.flatten)
    (fits : blocks.newer.flatten.length < 2 ^ 63) : Tracks blocks (openLogFile noErrors this) := by
  have size : blocks.newer.flatten.length % 2 ^ 64 = blocks.newer.flatten.length := by omega
  rw [openLogFile, if_neg (by decide)]
  simp only [active]
  exact ⟨rfl, rfl, backup, size, fits⟩

/-- The constructor measures the active file before it opens the log. -/
def measured (logFilePath : Bytes) (files : LogFiles) : Logger where
  logFilePath := logFilePath
  active := files.active.map Subtype.val
  backup := files.backup.map Subtype.val
  isOpen := false
  currentFileSize := files.activeContent.length
  console := []

/-- The content of a file is shorter than 2^63 bytes. -/
theorem activeContent_fits (files : LogFiles) : files.activeContent.length < 2 ^ 63 := by
  cases found : files.active with
  | none => simp [LogFiles.activeContent, found]
  | some file => simpa [LogFiles.activeContent, found] using file.property

/-- The logger rotates a large file when it starts. -/
theorem started_eq (logFilePath parentDirectory : Bytes) (files : LogFiles) :
    started logFilePath parentDirectory files = openLogFile noErrors
      (if maxLogFileSize ≤ files.activeContent.length then
        rotateIfNeeded noErrors 0 (measured logFilePath files)
      else measured logFilePath files) := by
  cases found : files.active with
  | none => simp [started, construct, measured, LogFiles.activeContent, found, maxLogFileSize]
  | some file =>
      have size : file.val.length % 2 ^ 64 = file.val.length := by
        have := file.property
        omega
      simp only [started, construct, measured, LogFiles.activeContent, found, noErrors,
        Option.map_some, Option.getD_some, Bool.or_self, Bool.false_eq_true, if_false, size]

/-- The constructor keeps the two files, or it starts a new file after a large one. -/
theorem started_tracks (logFilePath parentDirectory : Bytes) (files : LogFiles) :
    ∃ blocks, Tracks blocks (started logFilePath parentDirectory files) ∧
      blocks.history = [files.backupContent, files.activeContent] := by
  let kept : RotatedLog Bytes := ⟨[], [files.backupContent], [files.activeContent]⟩
  have fits := activeContent_fits files
  have size : sizeAdd (measured logFilePath files).currentFileSize 0 =
      files.activeContent.length := sizeAdd_eq (by change files.activeContent.length + 0 < _; omega)
  rw [started_eq]
  by_cases large : maxLogFileSize < files.activeContent.length
  · cases found : files.active with
    | none =>
        rw [LogFiles.activeContent, found] at large
        simp at large
    | some file =>
        have present : (measured logFilePath files).active = some files.activeContent := by
          simp [measured, LogFiles.activeContent, found]
        rw [if_pos large.le, rotateIfNeeded_rotates present (by rw [size]; exact large)]
        refine ⟨kept.rotate, openLogFile_tracks ?_ ?_ ?_, kept.history_rotate⟩ <;>
          simp [kept, RotatedLog.rotate]
  · have unchanged : rotateIfNeeded noErrors 0 (measured logFilePath files) =
        measured logFilePath files := rotateIfNeeded_keeps (by omega) noErrors
    rw [unchanged, ite_self]
    refine ⟨kept, openLogFile_tracks ?_ ?_ ?_, rfl⟩
    · simp [kept, measured, LogFiles.activeContent]
    · simp [kept, measured, LogFiles.backupContent]
    · simpa [kept] using fits

/-- The call shows its line on the console before it looks at the file. -/
def LogCall.shown (call : LogCall) (this : Logger) : Logger :=
  this.print (if call.level = .error then .cerr else .cout)
    (logLine call.timestamp call.level call.thread call.message)

/-- A call prints its line, rotates a full file and then writes its record. -/
theorem perform_eq (call : LogCall) (this : Logger) :
    call.perform this =
      let ready := rotateIfNeeded noErrors call.record.length (call.shown this)
      if ready.isOpen then
        { ready with
          active := some (ready.active.getD [] ++ call.record)
          currentFileSize := sizeAdd ready.currentFileSize call.record.length }
      else ready := by
  have incoming : sizeAdd (logLine call.timestamp call.level call.thread call.message).length 1 =
      call.record.length := by
    have := call.fits
    rw [LogCall.record, record_length] at *
    exact sizeAdd_eq (by omega)
  rw [LogCall.perform, log, incoming]
  rfl

/-- An open logger appends the record to its active file. -/
theorem perform_appends {blocks : RotatedLog Bytes} {this : Logger} {call : LogCall}
    (tracks : Tracks blocks (rotateIfNeeded noErrors call.record.length (call.shown this)))
    (fits : (blocks.append call.record).newer.flatten.length < 2 ^ 63) :
    Tracks (blocks.append call.record) (call.perform this) := by
  have whole : (blocks.append call.record).newer.flatten =
      blocks.newer.flatten ++ call.record := by simp [RotatedLog.append]
  rw [perform_eq]
  simp only [tracks.opened, if_true]
  constructor
  · rfl
  · rw [tracks.active, Option.getD_some, whole]
  · exact tracks.backup
  · change sizeAdd _ _ = _
    rw [whole, List.length_append] at fits ⊢
    rw [tracks.size, sizeAdd_eq (by omega)]
  · exact fits

/-- A record goes to the active file, after a rotation when the file has no room for it. -/
theorem perform_tracks {blocks : RotatedLog Bytes} {this : Logger} (tracks : Tracks blocks this)
    (call : LogCall) :
    ∃ next newer, Tracks next (call.perform this) ∧
      next.history = blocks.history ++ [call.record] ∧ next.newer = newer ++ [call.record] ∧
      (next.newer.flatten.length ≤ maxLogFileSize ∨ newer = []) := by
  have fits := call.fits
  change call.record.length < 2 ^ 63 at fits
  have size : sizeAdd (call.shown this).currentFileSize call.record.length =
      blocks.newer.flatten.length + call.record.length := by
    have room := tracks.fits
    change sizeAdd this.currentFileSize call.record.length = _
    rw [tracks.size]
    exact sizeAdd_eq (by omega)
  by_cases room : blocks.newer.flatten.length + call.record.length ≤ maxLogFileSize
  · have grown : (blocks.append call.record).newer.flatten.length ≤ maxLogFileSize := by
      simpa [RotatedLog.append] using room
    refine ⟨blocks.append call.record, blocks.newer, perform_appends ?_ ?_,
      blocks.history_append call.record, rfl, .inl grown⟩
    · rw [rotateIfNeeded_keeps (by omega) noErrors]
      exact ⟨tracks.opened, tracks.active, tracks.backup, tracks.size, tracks.fits⟩
    · unfold maxLogFileSize at grown
      omega
  · refine ⟨blocks.rotate.append call.record, [], perform_appends ?_ ?_, ?_, rfl, .inr rfl⟩
    · have present : (call.shown this).active = some blocks.newer.flatten := tracks.active
      rw [rotateIfNeeded_rotates present (by omega)]
      exact ⟨rfl, rfl, rfl, rfl, by simp [RotatedLog.rotate]⟩
    · simpa [RotatedLog.append, RotatedLog.rotate] using fits
    · rw [RotatedLog.history_append, RotatedLog.history_rotate]

/-- The files of a running logger are the end of everything that reached the log. -/
theorem reached_tracks (logFilePath parentDirectory : Bytes) (files : LogFiles)
    (calls : List LogCall) :
    ∃ blocks, Tracks blocks (reached logFilePath parentDirectory files calls) ∧
      blocks.history =
        files.backupContent :: files.activeContent :: calls.map LogCall.record := by
  induction calls using List.reverseRecOn with
  | nil => exact started_tracks logFilePath parentDirectory files
  | append_singleton past call ih =>
      obtain ⟨blocks, tracks, history⟩ := ih
      obtain ⟨next, _, nextTracks, nextHistory, _, _⟩ := perform_tracks tracks call
      refine ⟨next, ?_, ?_⟩
      · rw [reached, List.foldl_concat]
        exact nextTracks
      · rw [nextHistory, history, List.map_append]
        rfl

/-- After every call, the two files are whole records from the end of the log, the cached size is
the size of the active file, and the active file keeps the limit unless one record exceeds it. -/
theorem log_window (logFilePath parentDirectory : Bytes) (files : LogFiles)
    (past : List LogCall) (call : LogCall) :
    let logger := reached logFilePath parentDirectory files (past ++ [call])
    ∃ older newer,
      older ++ (newer ++ [call.record]) <:+
        files.backupContent :: files.activeContent :: (past ++ [call]).map LogCall.record ∧
      logger.backup.getD [] = older.flatten ∧
      logger.active = some (newer ++ [call.record]).flatten ∧
      logger.currentFileSize = (newer ++ [call.record]).flatten.length ∧
      ((newer ++ [call.record]).flatten.length ≤ maxLogFileSize ∨ newer = []) := by
  obtain ⟨blocks, tracks, history⟩ := reached_tracks logFilePath parentDirectory files past
  obtain ⟨next, newer, nextTracks, nextHistory, last, bounded⟩ := perform_tracks tracks call
  have reachedNext : reached logFilePath parentDirectory files (past ++ [call]) =
      call.perform (reached logFilePath parentDirectory files past) := by
    rw [reached, List.foldl_concat]
    rfl
  have kept := next.kept_suffix
  rw [nextHistory, history, RotatedLog.kept, last] at kept
  rw [last] at bounded
  have active := nextTracks.active
  have size := nextTracks.size
  rw [last] at active size
  rw [reachedNext]
  exact ⟨next.older, newer, by simpa using kept, nextTracks.backup, active, size, bounded⟩

end LMonitor.Logger

import LMonitor.Log.Logger
import Mathlib.Data.List.Infix

namespace LMonitor.Logger

/-- The call finds no room in the active file. -/
def Rotates (incomingBytes : Nat) (this : Logger) : Prop :=
  maxLogFileSize < sizeAdd this.currentFileSize incomingBytes

/-- The old backup is found and deleted. -/
def DeletesBackup (errors : FileErrors) (this : Logger) : Prop :=
  this.backup.isSome = true ∧ errors.existsBackup = false ∧ errors.remove = none

instance (errors : FileErrors) (this : Logger) : Decidable (DeletesBackup errors this) :=
  inferInstanceAs (Decidable (_ ∧ _ ∧ _))

/-- The renaming of the active file reports a failure. -/
def RenameFails (errors : FileErrors) (incomingBytes : Nat) (this : Logger) : Prop :=
  Rotates incomingBytes this ∧ this.active.isSome = true ∧ errors.existsActive = false ∧
    errors.rename.isSome = true

/-- The search for the active file fails, and the stream opens with an empty file. -/
def OpensUnseen (errors : FileErrors) (incomingBytes : Nat) (this : Logger) : Prop :=
  Rotates incomingBytes this ∧ errors.existsActive = true ∧ errors.openTruncated = false

/-- The old content is in one of the files, and a failed renaming leaves both files as they were. -/
structure LosesNothing (errors : FileErrors) (incomingBytes : Nat) (this after : Logger) :
    Prop where
  present : this.active.getD [] <:+: after.active.getD [] ∨
    this.active.getD [] <:+: after.backup.getD []
  unchanged : RenameFails errors incomingBytes this →
    after.active = this.active ∧ after.backup = this.backup

/-- This is the backup when the renaming starts. -/
def remainingBackup (errors : FileErrors) (this : Logger) : Option Bytes :=
  if DeletesBackup errors this then none else this.backup

/-- The backup stays exactly if it is not deleted. -/
theorem remainingBackup_eq_iff (errors : FileErrors) (this : Logger) :
    remainingBackup errors this = this.backup ↔ ¬ DeletesBackup errors this := by
  rw [remainingBackup]
  by_cases deletes : DeletesBackup errors this
  · have present := deletes.1
    rw [if_pos deletes]
    constructor
    · intro missing
      rw [← missing] at present
      cases present
    · intro kept
      exact absurd deletes kept
  · rw [if_neg deletes]
    exact ⟨fun _ => deletes, fun _ => rfl⟩

@[simp] theorem removeBackup_active (errors : FileErrors) (this : Logger) :
    (removeBackup errors this).active = this.active := by
  unfold removeBackup
  split
  · split <;> rfl
  · rfl

@[simp] theorem removeBackup_backup (errors : FileErrors) (this : Logger) :
    (removeBackup errors this).backup = remainingBackup errors this := by
  by_cases deletes : DeletesBackup errors this
  · rw [remainingBackup, if_pos deletes]
    obtain ⟨present, seen, removed⟩ := deletes
    simp [removeBackup, present, seen, removed]
  · rw [remainingBackup, if_neg deletes]
    unfold removeBackup
    split
    · rename_i found
      cases result : errors.remove with
      | some message => rfl
      | none =>
          rw [Bool.and_eq_true, Bool.not_eq_true'] at found
          exact absurd ⟨found.1, found.2, result⟩ deletes
    · rfl

@[simp] theorem startFresh_backup (errors : FileErrors) (this : Logger) :
    (startFresh errors this).backup = this.backup := by
  unfold startFresh
  cases errors.openTruncated <;> rfl

/-- A fresh file is empty unless it could not be opened. -/
theorem startFresh_active (errors : FileErrors) (this : Logger) :
    (startFresh errors this).active =
      if errors.openTruncated then this.active else some [] := by
  unfold startFresh
  cases errors.openTruncated <;> rfl

@[simp] theorem openLogFile_backup (errors : FileErrors) (this : Logger) :
    (openLogFile errors this).backup = this.backup := by
  unfold openLogFile
  cases errors.openAppending <;> rfl

/-- The stream opens an existing file as it is. -/
theorem openLogFile_active {this : Logger} {content : Bytes} (present : this.active = some content)
    (errors : FileErrors) : (openLogFile errors this).active = some content := by
  unfold openLogFile
  cases errors.openAppending
  · simp [present]
  · exact present

section Rotation
variable {errors : FileErrors} {incomingBytes : Nat} {this : Logger} {content : Bytes}

/-- A failed renaming keeps the active file, and the backup can be gone. -/
theorem rotateIfNeeded_failed {message : Bytes} (rotates : Rotates incomingBytes this)
    (present : this.active = some content) (seen : errors.existsActive = false)
    (failed : errors.rename = some message) :
    (rotateIfNeeded errors incomingBytes this).active = some content ∧
      (rotateIfNeeded errors incomingBytes this).backup = remainingBackup errors this := by
  rw [rotateIfNeeded, if_neg (Nat.not_le_of_lt rotates)]
  simp only [removeBackup_active, present, seen, failed, Option.isSome_some, Bool.not_false,
    Bool.and_self, if_true]
  constructor
  · apply openLogFile_active
    exact removeBackup_active errors _
  · rw [openLogFile_backup]
    exact removeBackup_backup errors _

/-- After a renaming, the old content is the backup. -/
theorem rotateIfNeeded_renamed (rotates : Rotates incomingBytes this)
    (present : this.active = some content) (seen : errors.existsActive = false)
    (renamed : errors.rename = none) :
    (rotateIfNeeded errors incomingBytes this).backup = some content := by
  rw [rotateIfNeeded, if_neg (Nat.not_le_of_lt rotates)]
  simp [present, seen, renamed]

/-- A file that is not seen gets no new name before the new file opens. -/
theorem rotateIfNeeded_unseen (rotates : Rotates incomingBytes this)
    (unseen : errors.existsActive = true) :
    (rotateIfNeeded errors incomingBytes this).active =
        (if errors.openTruncated then this.active else some []) ∧
      (rotateIfNeeded errors incomingBytes this).backup = remainingBackup errors this := by
  rw [rotateIfNeeded, if_neg (Nat.not_le_of_lt rotates)]
  simp only [unseen, Bool.not_true, Bool.and_false, Bool.false_eq_true, if_false]
  constructor
  · rw [startFresh_active, removeBackup_active]
  · rw [startFresh_backup]
    exact removeBackup_backup errors _

end Rotation

/-- An unseen file has no content that the old backup lacks, and a failed renaming comes after no
deletion of the backup. -/
structure Recoverable (errors : FileErrors) (incomingBytes : Nat) (this : Logger) : Prop where
  unseen : OpensUnseen errors incomingBytes this → this.active.getD [] = [] ∨
    ¬ DeletesBackup errors this ∧ this.active.getD [] <:+: this.backup.getD []
  failed : RenameFails errors incomingBytes this → ¬ DeletesBackup errors this

/-- Within the backup that remains, only a kept backup or an empty content is found. -/
theorem infix_remainingBackup_iff (errors : FileErrors) (this : Logger) (content : Bytes) :
    content <:+: (remainingBackup errors this).getD [] ↔
      content = [] ∨ ¬ DeletesBackup errors this ∧ content <:+: this.backup.getD [] := by
  rw [remainingBackup]
  by_cases deletes : DeletesBackup errors this
  · simp [deletes]
  · simp only [deletes, if_false, not_false_eq_true, true_and]
    constructor
    · exact .inr
    · rintro (rfl | inside)
      · exact List.nil_infix
      · exact inside

/-- Every other branch keeps the old content in one of the files. -/
theorem present_of_not_opensUnseen {errors : FileErrors} {incomingBytes : Nat} {this : Logger}
    (seldom : ¬ OpensUnseen errors incomingBytes this) :
    this.active.getD [] <:+: (rotateIfNeeded errors incomingBytes this).active.getD [] ∨
      this.active.getD [] <:+: (rotateIfNeeded errors incomingBytes this).backup.getD [] := by
  by_cases rotates : Rotates incomingBytes this
  case neg =>
    rw [rotateIfNeeded_keeps (Nat.le_of_not_lt rotates)]
    exact .inl List.infix_rfl
  cases stored : this.active with
  | none => exact .inl List.nil_infix
  | some content =>
      cases seen : errors.existsActive with
      | true =>
          have closed : errors.openTruncated = true := by
            by_contra truncated
            exact seldom ⟨rotates, seen, Bool.of_not_eq_true truncated⟩
          have active := (rotateIfNeeded_unseen rotates seen).1
          rw [closed, if_pos rfl, stored] at active
          rw [active]
          exact .inl List.infix_rfl
      | false =>
          cases result : errors.rename with
          | none =>
              rw [rotateIfNeeded_renamed rotates stored seen result]
              exact .inr List.infix_rfl
          | some message =>
              rw [(rotateIfNeeded_failed rotates stored seen result).1]
              exact .inl List.infix_rfl

/-- The old content is lost only where an unseen file makes room for an empty one. -/
theorem present_iff (errors : FileErrors) (incomingBytes : Nat) (this : Logger) :
    (this.active.getD [] <:+: (rotateIfNeeded errors incomingBytes this).active.getD [] ∨
        this.active.getD [] <:+: (rotateIfNeeded errors incomingBytes this).backup.getD []) ↔
      (OpensUnseen errors incomingBytes this → this.active.getD [] = [] ∨
        ¬ DeletesBackup errors this ∧ this.active.getD [] <:+: this.backup.getD []) := by
  by_cases opens : OpensUnseen errors incomingBytes this
  · obtain ⟨rotates, unseen, truncated⟩ := opens
    obtain ⟨active, backup⟩ := rotateIfNeeded_unseen rotates unseen
    rw [truncated, if_neg Bool.false_ne_true] at active
    rw [active, backup, infix_remainingBackup_iff, Option.getD_some, List.infix_nil,
      imp_iff_right ⟨rotates, unseen, truncated⟩]
    exact ⟨fun found => found.elim .inl id, .inr⟩
  · exact iff_of_true (present_of_not_opensUnseen opens) fun unseen => absurd unseen opens

/-- A failed renaming leaves both files as they were unless the backup was deleted before it. -/
theorem unchanged_iff {errors : FileErrors} {incomingBytes : Nat} {this : Logger}
    (fails : RenameFails errors incomingBytes this) :
    ((rotateIfNeeded errors incomingBytes this).active = this.active ∧
        (rotateIfNeeded errors incomingBytes this).backup = this.backup) ↔
      ¬ DeletesBackup errors this := by
  obtain ⟨rotates, present, seen, reported⟩ := fails
  obtain ⟨content, stored⟩ := Option.isSome_iff_exists.mp present
  obtain ⟨message, failed⟩ := Option.isSome_iff_exists.mp reported
  obtain ⟨active, backup⟩ := rotateIfNeeded_failed rotates stored seen failed
  rw [active, backup, stored, remainingBackup_eq_iff]
  exact and_iff_right rfl

/-- A rotation with failing operations loses nothing exactly when it is recoverable. -/
theorem rotateIfNeeded_losesNothing_iff (errors : FileErrors) (incomingBytes : Nat)
    (this : Logger) :
    LosesNothing errors incomingBytes this (rotateIfNeeded errors incomingBytes this) ↔
      Recoverable errors incomingBytes this := by
  constructor
  · intro kept
    exact ⟨(present_iff errors incomingBytes this).mp kept.present,
      fun fails => (unchanged_iff fails).mp (kept.unchanged fails)⟩
  · intro recoverable
    exact ⟨(present_iff errors incomingBytes this).mpr recoverable.unseen,
      fun fails => (unchanged_iff fails).mpr (recoverable.failed fails)⟩

/-- Both files have one line, and the next record does not fit in the active one. -/
def fullLogger : Logger where
  logFilePath := ascii "logs/agent.log"
  active := some (ascii "new\n")
  backup := some (ascii "old\n")
  isOpen := true
  currentFileSize := 4
  console := []

/-- A failed renaming loses the old backup, and a failed search loses both files. -/
theorem rotation_loses :
    ¬ LosesNothing { rename := some (ascii "Input/output error") } maxLogFileSize fullLogger
        (rotateIfNeeded { rename := some (ascii "Input/output error") } maxLogFileSize
          fullLogger) ∧
      ¬ LosesNothing { existsActive := true } maxLogFileSize fullLogger
        (rotateIfNeeded { existsActive := true } maxLogFileSize fullLogger) := by
  have full : Rotates maxLogFileSize fullLogger := by
    change maxLogFileSize < sizeAdd 4 maxLogFileSize
    decide
  constructor
  · intro kept
    have unchanged := kept.unchanged ⟨full, rfl, rfl, rfl⟩
    exact absurd unchanged.2 (by decide)
  · intro kept
    exact absurd kept.present (by decide)

end LMonitor.Logger

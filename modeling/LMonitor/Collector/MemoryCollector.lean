import LMonitor.Library.Extraction
import LMonitor.Library.Loop
import LMonitor.Library.Percentage

namespace LMonitor
open Library

structure MemoryInfo where
  totalKB : UInt64 := 0
  availableKB : UInt64 := 0
  deriving DecidableEq

namespace MemoryInfo

def usedKB (info : MemoryInfo) : UInt64 := info.totalKB - info.availableKB

def usagePercent (info : MemoryInfo) : ℚ := percentage info.usedKB info.totalKB

end MemoryInfo

namespace MemoryCollector

/-- An entry of the file has a key, a value and a unit. -/
def readEntry : Extraction (Bytes × UInt64) := do
  let key ← extractWord
  let value ← extractUnsigned
  let _ ← extractWord
  return (key, value)

/-- One entry sets a member that it names. -/
def store (key : Bytes) (value : UInt64) (info : MemoryInfo) : MemoryInfo :=
  if key = ascii "MemTotal:" then { info with totalKB := value }
  else if key = ascii "MemAvailable:" then { info with availableKB := value }
  else info

/-- The loop ends after both members or at the first entry of another form. -/
def readPass (state : Bytes × MemoryInfo) : Pass (Bytes × MemoryInfo) MemoryInfo :=
  match readEntry state.1 with
  | none => .leave state.2
  | some ((key, value), file) =>
      let info := store key value state.2
      if info.totalKB ≠ 0 ∧ info.availableKB ≠ 0 then .leave info else .again (file, info)

theorem readEntry_shorter {text rest : Bytes} {entry : Bytes × UInt64}
    (success : readEntry text = some (entry, rest)) : rest.length < text.length := by
  obtain ⟨⟨key, afterKey⟩, keyRead, success⟩ := Option.bind_eq_some_iff.mp success
  obtain ⟨⟨value, afterValue⟩, valueRead, success⟩ := Option.bind_eq_some_iff.mp success
  obtain ⟨⟨unit, afterUnit⟩, unitRead, success⟩ := Option.bind_eq_some_iff.mp success
  obtain ⟨-, rfl⟩ := Prod.mk.inj (Option.some.inj success)
  have first := extractWord_shorter keyRead
  have second := extractNumber_shorter valueRead
  have third := extractWord_shorter unitRead
  omega

/-- Each pass takes at least one byte of the file. -/
def readLoop : Loop (Bytes × MemoryInfo) MemoryInfo where
  body := readPass
  measure state := state.1.length
  decreases := by
    intro state next pass
    simp only [readPass] at pass
    cases entry : readEntry state.1 with
    | none =>
        rw [entry] at pass
        cases pass
    | some taken =>
        simp only [entry] at pass
        split at pass
        · cases pass
        · obtain rfl := Pass.again.inj pass
          exact readEntry_shorter entry

def collect (file : Option Bytes) : Except Bytes MemoryInfo :=
  match file with
  | none => .error (ascii "Failed to open /proc/meminfo")
  | some text =>
      let info := readLoop.run (text, {})
      if info.totalKB = 0 ∨ info.availableKB = 0 then
        .error (ascii "Failed to parse memory information")
      else .ok info

/-- The collector accepts two numbers that are not zero. -/
theorem collect_nonzero {file : Option Bytes} {info : MemoryInfo}
    (success : collect file = .ok info) : info.totalKB ≠ 0 ∧ info.availableKB ≠ 0 := by
  cases file with
  | none => cases success
  | some text =>
      simp only [collect] at success
      split at success
      · cases success
      · rename_i present
        obtain rfl := Except.ok.inj success
        exact not_or.mp present

/-- The kernel prints an entry with its unit. -/
def printEntry (key : Bytes) (value : UInt64) : Bytes :=
  key ++ ascii ": " ++ decimal value.toNat ++ ascii " kB\n"

/-- A printed entry is read back. -/
theorem readEntry_printed {key : Bytes} (visible : ∀ byte ∈ key, (!isSpace byte) = true)
    (value : UInt64) (rest : Bytes) :
    readEntry (printEntry key value ++ rest) = some ((key ++ ascii ":", value), 10 :: rest) := by
  have shape : printEntry key value ++ rest =
      (key ++ ascii ":") ++ 32 :: (decimal value.toNat ++ 32 :: (ascii "kB" ++ 10 :: rest)) := by
    simp [printEntry, ascii]
  have colon : ∀ byte ∈ key ++ ascii ":", (!isSpace byte) = true := by
    intro byte member
    obtain inKey | last := List.mem_append.mp member
    · exact visible byte inKey
    · rw [List.mem_singleton.mp last]
      rfl
  have unit : ∀ byte ∈ ascii "kB", (!isSpace byte) = true := List.all_eq_true.mp rfl
  have keyRead := extractWord_word (by simp [ascii]) colon (show isSpace 32 = true from rfl)
    (decimal value.toNat ++ 32 :: (ascii "kB" ++ 10 :: rest))
  have valueRead := extractUnsigned_printed value (stops_blank (ascii "kB" ++ 10 :: rest))
  have unitRead :
      extractWord (32 :: (ascii "kB" ++ 10 :: rest)) = some (ascii "kB", 10 :: rest) := by
    rw [extractWord_blank (show isSpace 32 = true from rfl)]
    exact extractWord_word (by decide) unit (show isSpace 10 = true from rfl) rest
  rw [shape]
  simp only [readEntry, bind, StateT.bind, Option.bind, keyRead, valueRead, unitRead]
  rfl

/-- The line feed of an entry stays in the stream until the next extraction. -/
theorem readEntry_lineFeed (text : Bytes) : readEntry (10 :: text) = readEntry text := by
  simp only [readEntry, bind, StateT.bind,
    extractWord_blank (show isSpace 10 = true from rfl) text]

/-- Every pair of numbers that are not zero is collected from some file. -/
theorem collect_printed (info : MemoryInfo) (total : info.totalKB ≠ 0)
    (available : info.availableKB ≠ 0) :
    collect (some (printEntry (ascii "MemTotal") info.totalKB ++
      printEntry (ascii "MemAvailable") info.availableKB)) = .ok info := by
  have totalVisible : ∀ byte ∈ ascii "MemTotal", (!isSpace byte) = true :=
    List.all_eq_true.mp rfl
  have availableVisible : ∀ byte ∈ ascii "MemAvailable", (!isSpace byte) = true :=
    List.all_eq_true.mp rfl
  have second := readEntry_printed availableVisible info.availableKB []
  rw [List.append_nil] at second
  have firstPass : readPass (printEntry (ascii "MemTotal") info.totalKB ++
      printEntry (ascii "MemAvailable") info.availableKB, {}) =
      .again (10 :: printEntry (ascii "MemAvailable") info.availableKB, ⟨info.totalKB, 0⟩) := by
    have stored : store (ascii "MemTotal" ++ ascii ":") info.totalKB {} =
        ⟨info.totalKB, 0⟩ := rfl
    simp only [readPass, readEntry_printed totalVisible, stored]
    rw [if_neg (by simp)]
  have secondPass : readPass (10 :: printEntry (ascii "MemAvailable") info.availableKB,
      ⟨info.totalKB, 0⟩) = .leave info := by
    have stored : store (ascii "MemAvailable" ++ ascii ":") info.availableKB ⟨info.totalKB, 0⟩ =
        info := rfl
    simp only [readPass, readEntry_lineFeed, second, stored]
    rw [if_pos ⟨total, available⟩]
  have run : readLoop.run (printEntry (ascii "MemTotal") info.totalKB ++
      printEntry (ascii "MemAvailable") info.availableKB, {}) = info := by
    rw [Loop.run_again readLoop firstPass, Loop.run_leave readLoop secondPass]
  have present : ¬ (info.totalKB = 0 ∨ info.availableKB = 0) := not_or.mpr ⟨total, available⟩
  simp only [collect, run, present, if_false]

/-- The figures of some file are these exactly when both are positive. -/
theorem collects_iff (info : MemoryInfo) :
    (∃ file, collect file = .ok info) ↔ info.totalKB ≠ 0 ∧ info.availableKB ≠ 0 := by
  constructor
  · rintro ⟨file, success⟩
    exact collect_nonzero success
  · rintro ⟨total, available⟩
    exact ⟨_, collect_printed info total available⟩

end MemoryCollector
end LMonitor

import LMonitor.Collector.MemoryCollector
import LMonitor.Collector.SystemFiles

namespace LMonitor
open Library
open RationalDouble (fixed2 extractDouble_printed round2_hundredths)

namespace MemoryCollector

/-- A line has a key, a number behind at least one blank and a unit. -/
structure MemoryLine where
  key : Bytes
  visible : ∀ byte ∈ key, (!isSpace byte) = true
  blanks : Nat
  value : UInt64

namespace MemoryLine

def text (line : MemoryLine) : Bytes :=
  line.key ++ 58 :: (List.replicate (line.blanks + 1) 32 ++
    (decimal line.value.toNat ++ ascii " kB\n"))

/-- The collector ignores a line with another key. -/
def Other (line : MemoryLine) : Prop :=
  line.key ≠ ascii "MemTotal" ∧ line.key ≠ ascii "MemAvailable"

end MemoryLine

/-- The text names neither member. -/
def Silent (text : Bytes) : Prop :=
  ¬ ascii "MemTotal:" <:+: text ∧ ¬ ascii "MemAvailable:" <:+: text

/-- The kernel prints the total memory before the available memory, with other lines between them
and other text behind them. -/
structure MemoryFile where
  totalBlanks : Nat
  totalKB : UInt64
  between : List MemoryLine
  others : ∀ line ∈ between, line.Other
  availableBlanks : Nat
  availableKB : UInt64
  more : Bytes
  silent : Silent more

namespace MemoryFile

def totalLine (file : MemoryFile) : MemoryLine :=
  ⟨ascii "MemTotal", List.all_eq_true.mp rfl, file.totalBlanks, file.totalKB⟩

def availableLine (file : MemoryFile) : MemoryLine :=
  ⟨ascii "MemAvailable", List.all_eq_true.mp rfl, file.availableBlanks, file.availableKB⟩

def text (file : MemoryFile) : Bytes :=
  file.totalLine.text ++ (file.between.flatMap MemoryLine.text ++
    (file.availableLine.text ++ file.more))

end MemoryFile

/-- A line is read behind blanks, and its line feed stays in the stream. -/
theorem readEntry_line {padding : Bytes} (blank : Padding padding) (line : MemoryLine)
    (rest : Bytes) :
    readEntry (padding ++ (line.text ++ rest)) =
      some ((line.key ++ ascii ":", line.value), 10 :: rest) := by
  have key : Word (line.key ++ ascii ":") := by
    constructor
    · simp [ascii]
    · intro byte member
      obtain inKey | colon := List.mem_append.mp member
      · exact line.visible byte inKey
      · rw [List.mem_singleton.mp colon]
        rfl
  have shape : padding ++ (line.text ++ rest) = padding ++ ((line.key ++ ascii ":") ++
      32 :: (List.replicate line.blanks 32 ++ (decimal line.value.toNat ++
        32 :: (ascii "kB" ++ 10 :: rest)))) := by
    simp [MemoryLine.text, List.replicate_succ, ascii]
  have keyRead := extractWord_padded blank key (ends_space 32 rfl (List.replicate line.blanks 32 ++
    (decimal line.value.toNat ++ 32 :: (ascii "kB" ++ 10 :: rest))))
  have valueRead := extractUnsigned_padded line.value (padding_replicate (line.blanks + 1))
    (stops_blank (ascii "kB" ++ 10 :: rest))
  have unitRead := extractWord_padded (show Padding [32] by decide)
    (show Word (ascii "kB") by decide) (ends_space 10 rfl rest)
  rw [List.replicate_succ, List.cons_append] at valueRead
  rw [List.singleton_append] at unitRead
  rw [shape]
  simp only [readEntry, bind, StateT.bind, Option.bind, keyRead, valueRead, unitRead]
  rfl

/-- The colon behind a key does not change the comparison. -/
theorem store_other {line : MemoryLine} (other : line.Other) (value : UInt64) (info : MemoryInfo) :
    store (line.key ++ ascii ":") value info = info := by
  have total : line.key ++ ascii ":" ≠ ascii "MemTotal:" := fun same =>
    other.1 (List.append_cancel_right (show _ = ascii "MemTotal" ++ ascii ":" from same))
  have available : line.key ++ ascii ":" ≠ ascii "MemAvailable:" := fun same =>
    other.2 (List.append_cancel_right (show _ = ascii "MemAvailable" ++ ascii ":" from same))
  simp only [store, total, available, if_false]

/-- The loop goes on behind the lines that it ignores. -/
theorem run_between {lines : List MemoryLine} (others : ∀ line ∈ lines, line.Other)
    (rest : Bytes) (totalKB : UInt64) :
    readLoop.run (10 :: (lines.flatMap MemoryLine.text ++ rest), ⟨totalKB, 0⟩) =
      readLoop.run (10 :: rest, ⟨totalKB, 0⟩) := by
  induction lines with
  | nil => rfl
  | cons line lines ih =>
      obtain ⟨other, known⟩ := List.forall_mem_cons.mp others
      have entry := readEntry_line (show Padding [10] by decide) line
        (lines.flatMap MemoryLine.text ++ rest)
      rw [List.singleton_append] at entry
      have pass : readPass (10 :: ((line :: lines).flatMap MemoryLine.text ++ rest),
          ⟨totalKB, 0⟩) = .again (10 :: (lines.flatMap MemoryLine.text ++ rest), ⟨totalKB, 0⟩) := by
        rw [List.flatMap_cons, List.append_assoc]
        simp only [readPass, entry, store_other other]
        rw [if_neg (by simp)]
      rw [Loop.run_again readLoop pass, ih known]

/-- What is read of an entry stands in the text. -/
theorem readEntry_parts {text key rest : Bytes} {value : UInt64}
    (success : readEntry text = some ((key, value), rest)) : key <:+: text ∧ rest <:+ text := by
  obtain ⟨⟨word, afterKey⟩, keyRead, success⟩ := Option.bind_eq_some_iff.mp success
  obtain ⟨⟨number, afterValue⟩, valueRead, success⟩ := Option.bind_eq_some_iff.mp success
  obtain ⟨⟨unit, afterUnit⟩, unitRead, success⟩ := Option.bind_eq_some_iff.mp success
  obtain ⟨same, rfl⟩ := Prod.mk.inj (Option.some.inj success)
  obtain ⟨rfl, rfl⟩ := Prod.mk.inj same
  exact ⟨(extractWord_part keyRead).1, (extractWord_part unitRead).2.trans
    ((extractNumber_suffix valueRead).trans (extractWord_part keyRead).2)⟩

/-- The rest of a silent text is silent. -/
theorem Silent.suffix {text rest : Bytes} (silent : Silent text) (part : rest <:+ text) :
    Silent rest :=
  ⟨fun named => silent.1 (named.trans part.isInfix),
    fun named => silent.2 (named.trans part.isInfix)⟩

/-- The loop reads a text without the members to its end or to an entry of another form, and the
members stay as they are. -/
theorem run_silent {text : Bytes} (silent : Silent text) (info : MemoryInfo) :
    readLoop.run (text, info) = info := by
  have kept {text key rest : Bytes} {value : UInt64} (silent : Silent text)
      (entry : readEntry text = some ((key, value), rest)) : store key value info = info := by
    have present := (readEntry_parts entry).1
    have total : key ≠ ascii "MemTotal:" := fun same => silent.1 (same ▸ present)
    have available : key ≠ ascii "MemAvailable:" := fun same => silent.2 (same ▸ present)
    simp only [store, total, available, if_false]
  apply readLoop.run_keeps (fun state => Silent state.1 ∧ state.2 = info) (· = info) ?_ ?_
    ⟨silent, rfl⟩
  · rintro ⟨text, before⟩ next ⟨silent, rfl⟩ pass
    simp only [readLoop, readPass] at pass
    split at pass
    · cases pass
    · rename_i key value rest entry
      rw [kept silent entry] at pass
      split at pass
      · cases pass
      · obtain rfl := Pass.again.inj pass
        exact ⟨silent.suffix (readEntry_parts entry).2, rfl⟩
  · rintro ⟨text, before⟩ answer ⟨silent, rfl⟩ pass
    simp only [readLoop, readPass] at pass
    split at pass
    · exact (Pass.leave.inj pass).symm
    · rename_i key value rest entry
      rw [kept silent entry] at pass
      split at pass
      · exact (Pass.leave.inj pass).symm
      · cases pass

/-- The collector finds the two figures of the file, and refuses a figure that is zero. -/
theorem collect_text (file : MemoryFile) :
    collect (some file.text) =
      if file.totalKB = 0 ∨ file.availableKB = 0 then
        .error (ascii "Failed to parse memory information")
      else .ok ⟨file.totalKB, file.availableKB⟩ := by
  have first := readEntry_line (show Padding [] by decide) file.totalLine
    (file.between.flatMap MemoryLine.text ++ (file.availableLine.text ++ file.more))
  have second := readEntry_line (show Padding [10] by decide) file.availableLine file.more
  rw [List.nil_append, ← MemoryFile.text] at first
  rw [List.singleton_append] at second
  have firstPass : readPass (file.text, {}) = .again (10 ::
      (file.between.flatMap MemoryLine.text ++ (file.availableLine.text ++ file.more)),
      ⟨file.totalKB, 0⟩) := by
    have stored : store (file.totalLine.key ++ ascii ":") file.totalLine.value {} =
        ⟨file.totalKB, 0⟩ := rfl
    simp only [readPass, first, stored]
    rw [if_neg (by simp)]
  have stored : store (file.availableLine.key ++ ascii ":") file.availableLine.value
      ⟨file.totalKB, 0⟩ = ⟨file.totalKB, file.availableKB⟩ := rfl
  have run : readLoop.run (file.text, {}) = ⟨file.totalKB, file.availableKB⟩ := by
    rw [Loop.run_again readLoop firstPass, run_between file.others]
    by_cases present : file.totalKB ≠ 0 ∧ file.availableKB ≠ 0
    · apply Loop.run_leave readLoop
      simp only [readLoop, readPass, second, stored, present, ne_eq, not_false_eq_true, and_self,
        if_true]
    · -- A figure is still zero, so the loop looks for it in the rest of the file.
      have pass : readPass (10 :: (file.availableLine.text ++ file.more), ⟨file.totalKB, 0⟩) =
          .again (10 :: file.more, ⟨file.totalKB, file.availableKB⟩) := by
        simp only [readPass, second, stored]
        rw [if_neg present]
      rw [Loop.run_again readLoop pass]
      apply run_silent
      have total : ¬ ascii "MemTotal:" <+: 10 :: file.more := by simp [ascii]
      have available : ¬ ascii "MemAvailable:" <+: 10 :: file.more := by simp [ascii]
      simp only [Silent, List.infix_cons_iff, total, available, false_or]
      exact file.silent
  simp only [collect, run]

end MemoryCollector

namespace LoadCollector

/-- The file has three averages in hundredths and further text behind them. -/
structure LoadFile where
  load1 : Nat
  load5 : Nat
  load15 : Nat
  rest : Bytes
  restBlank : ∀ byte ∈ rest.head?, isSpace byte = true

def LoadFile.text (file : LoadFile) : Bytes :=
  fixed2 (file.load1 / 100) ++ 32 :: (fixed2 (file.load5 / 100) ++
    32 :: (fixed2 (file.load15 / 100) ++ file.rest))

def LoadFile.info (file : LoadFile) : LoadInfo :=
  ⟨file.load1 / 100, file.load5 / 100, file.load15 / 100⟩

/-- The three loads are read back. -/
theorem collect_text (file : LoadFile) : collect (some file.text) = .ok file.info := by
  have first := extractDouble_printed (file.load1 / 100) (show Padding [] by decide)
    (ends_space 32 rfl
      (fixed2 (file.load5 / 100) ++ 32 :: (fixed2 (file.load15 / 100) ++ file.rest)))
  have second := extractDouble_printed (file.load5 / 100) (show Padding [32] by decide)
    (ends_space 32 rfl (fixed2 (file.load15 / 100) ++ file.rest))
  have third := extractDouble_printed (file.load15 / 100) (show Padding [32] by decide)
    file.restBlank
  rw [List.nil_append, ← LoadFile.text] at first
  rw [List.singleton_append] at second third
  have loads : readLoads file.text = some (file.info, file.rest) := by
    simp only [readLoads, bind, StateT.bind, Option.bind, first, second, third, round2_hundredths]
    rfl
  simp only [collect, loads]

end LoadCollector

namespace SystemCollector

/-- The file has the uptime in hundredths of a second and further text behind it. -/
structure UptimeFile where
  uptime : Nat
  rest : Bytes
  restBlank : ∀ byte ∈ rest.head?, isSpace byte = true

def UptimeFile.text (file : UptimeFile) : Bytes := fixed2 (file.uptime / 100) ++ file.rest

/-- The buffer of the system call has a zero byte behind the name. -/
theorem collect_text {hostname : Bytes} (noZero : 0 ∉ hostname) (more : Bytes)
    (file : UptimeFile) :
    collect (some (hostname ++ 0 :: more)) (some file.text) =
      .ok ⟨hostname, UInt64.ofNat (file.uptime / 100)⟩ := by
  have number := extractDouble_printed (file.uptime / 100) (show Padding [] by decide)
    file.restBlank
  rw [List.nil_append, ← UptimeFile.text] at number
  have name : (hostname ++ 0 :: more).takeWhile (· ≠ 0) = hostname := by
    rw [List.takeWhile_append_of_pos]
    · simp
    · intro byte member
      exact decide_eq_true fun zero => noZero (zero ▸ member)
  have seconds : (file.uptime / 100 : ℚ).floor = (file.uptime / 100 : Nat) := by
    have exact := Rat.floor_natCast_div_natCast file.uptime 100
    rw [Nat.cast_ofNat, ← Int.natCast_ediv] at exact
    exact exact
  simp only [collect, number, round2_hundredths, name, seconds, Int.toNat_natCast]

end SystemCollector
end LMonitor

import LMonitor.Library.Extraction
import LMonitor.Library.Find

namespace LMonitor
open Library

/-- These three fields of `/proc/<pid>/stat` count clock ticks. -/
structure ProcessTimes where
  userTime : UInt64
  systemTime : UInt64
  startTime : UInt64
  deriving DecidableEq

namespace ProcessCollector

/-- The stream reads the state and nineteen numbers in their order. -/
def readFields : Extraction ProcessTimes := do
  let _state ← extractChar
  let _ppid ← extractInt
  let _pgrp ← extractInt
  let _session ← extractInt
  let _ttyNr ← extractInt
  let _tpgid ← extractInt
  let _flags ← extractUnsigned
  let _minflt ← extractUnsigned
  let _cminflt ← extractUnsigned
  let _majflt ← extractUnsigned
  let _cmajflt ← extractUnsigned
  let userTime ← extractUnsigned
  let systemTime ← extractUnsigned
  let _childUserTime ← extractLong
  let _childSystemTime ← extractLong
  let _priority ← extractLong
  let _niceValue ← extractLong
  let _numThreads ← extractLong
  let _itrealValue ← extractLong
  let startTime ← extractUnsigned
  return ⟨userTime, systemTime, startTime⟩

/-- The function returns false without a readable line, and the fields begin two bytes behind the
last parenthesis. -/
def readProcessCpuTimes (file : Option Bytes) : Option ProcessTimes :=
  match file.bind getline with
  | none => none
  | some (line, _) =>
      match rfind 41 line with
      | none => none
      | some rightParen =>
          if line.length ≤ rightParen + 2 then none
          else (readFields (line.drop (rightParen + 2))).map Prod.fst

/-- The kernel prints the fields of a process in one line. -/
structure StatLine where
  pid : Int
  name : Bytes
  state : UInt8
  ppid : Int32
  pgrp : Int32
  session : Int32
  ttyNr : Int32
  tpgid : Int32
  flags : UInt64
  minflt : UInt64
  cminflt : UInt64
  majflt : UInt64
  cmajflt : UInt64
  userTime : UInt64
  systemTime : UInt64
  childUserTime : Int64
  childSystemTime : Int64
  priority : Int64
  niceValue : Int64
  numThreads : Int64
  itrealValue : Int64
  startTime : UInt64
  rest : Bytes
  nameLine : 10 ∉ name
  stateVisible : isSpace state = false
  stateOpen : state ≠ 41
  restLine : 10 ∉ rest
  restOpen : 41 ∉ rest
  restBlank : ∀ byte, rest.head? = some byte → byte = 32

namespace StatLine

def fields (stat : StatLine) : List Bytes :=
  [decimalInt stat.ppid.toInt, decimalInt stat.pgrp.toInt, decimalInt stat.session.toInt,
    decimalInt stat.ttyNr.toInt, decimalInt stat.tpgid.toInt, decimal stat.flags.toNat,
    decimal stat.minflt.toNat, decimal stat.cminflt.toNat, decimal stat.majflt.toNat,
    decimal stat.cmajflt.toNat, decimal stat.userTime.toNat, decimal stat.systemTime.toNat,
    decimalInt stat.childUserTime.toInt, decimalInt stat.childSystemTime.toInt,
    decimalInt stat.priority.toInt, decimalInt stat.niceValue.toInt,
    decimalInt stat.numThreads.toInt, decimalInt stat.itrealValue.toInt,
    decimal stat.startTime.toNat]

/-- The text behind the name starts with the state. -/
def remaining (stat : StatLine) : Bytes :=
  stat.state :: (stat.fields.flatMap (fun field => 32 :: field) ++ stat.rest)

def text (stat : StatLine) : Bytes :=
  decimalInt stat.pid ++ ascii " (" ++ stat.name ++ 41 :: 32 :: stat.remaining

def times (stat : StatLine) : ProcessTimes := ⟨stat.userTime, stat.systemTime, stat.startTime⟩

end StatLine

theorem stops_rest (stat : StatLine) : Stops stat.rest := by
  intro byte starts
  rw [stat.restBlank byte starts]
  rfl

/-- The stream reads every printed field back. -/
theorem readFields_printed (stat : StatLine) :
    readFields stat.remaining = some (stat.times, stat.rest) := by
  simp only [readFields, StatLine.remaining, StatLine.fields, List.flatMap_cons, List.flatMap_nil,
    List.append_nil, List.cons_append, List.append_assoc, bind, StateT.bind, Option.bind,
    extractChar_visible stat.stateVisible, extractInt_printed, extractUnsigned_printed,
    extractLong_printed, stops_blank, stops_rest]
  rfl

/-- The line is the last one of its file, or a line feed and other text follow it. -/
def fileOf (line : Bytes) (more : Option Bytes) : Bytes :=
  line ++ match more with
    | none => []
    | some text => 10 :: text

theorem getline_fileOf {line : Bytes} (clean : 10 ∉ line) (nonempty : line ≠ [])
    (more : Option Bytes) : ∃ rest, getline (fileOf line more) = some (line, rest) := by
  cases more with
  | none => exact ⟨[], by rw [fileOf, List.append_nil, getline_last clean nonempty]⟩
  | some text => exact ⟨text, getline_line clean text⟩

/-- The fields behind the name are no parentheses and no line feeds. -/
theorem remaining_clean (stat : StatLine) : 41 ∉ stat.remaining ∧ 10 ∉ stat.remaining := by
  have fields : ∀ field ∈ stat.fields, ∀ byte ∈ field, isDigit byte = true ∨ byte = 45 := by
    simp only [StatLine.fields, List.forall_mem_cons, ← decimalInt_natCast]
    and_intros
    all_goals first
      | exact decimalInt_bytes _
      | exact List.forall_mem_nil _
  have clean (byte : UInt8) (other : isDigit byte = false ∧ byte ≠ 45 ∧ byte ≠ 32)
      (first : byte ≠ stat.state) (last : byte ∉ stat.rest) : byte ∉ stat.remaining := by
    intro member
    simp only [StatLine.remaining, List.mem_cons, List.mem_append, List.mem_flatMap] at member
    obtain state | ⟨field, known, blank | inside⟩ | rest := member
    · exact first state
    · exact other.2.2 blank
    · obtain digit | minus := fields field known byte inside
      · rw [other.1] at digit
        cases digit
      · exact other.2.1 minus
    · exact last rest
  constructor
  · exact clean 41 (by decide) (Ne.symm stat.stateOpen) stat.restOpen
  · refine clean 10 (by decide) ?_ stat.restLine
    intro same
    have visible := stat.stateVisible
    rw [← same] at visible
    cases visible

theorem text_clean (stat : StatLine) : 10 ∉ stat.text := by
  have pid : 10 ∉ decimalInt stat.pid := fun member => (decimalInt_ordinary _ 10 member).2.1 rfl
  have opened : 10 ∉ ascii " (" := by decide
  simp only [StatLine.text, List.mem_append, List.mem_cons, not_or]
  exact ⟨⟨⟨pid, opened⟩, stat.nameLine⟩, by decide, by decide, (remaining_clean stat).2⟩

/-- The last parenthesis of the line ends the name, whatever the name contains. -/
theorem readProcessCpuTimes_printed (stat : StatLine) (more : Option Bytes) :
    readProcessCpuTimes (some (fileOf stat.text more)) = some stat.times := by
  have nonempty : stat.text ≠ [] := by simp [StatLine.text]
  obtain ⟨rest, line⟩ := getline_fileOf (text_clean stat) nonempty more
  have after : 41 ∉ (32 : UInt8) :: stat.remaining := by
    simp only [List.mem_cons, not_or]
    exact ⟨by decide, (remaining_clean stat).1⟩
  have rightParen := rfind_last 41 (decimalInt stat.pid ++ ascii " (" ++ stat.name) after
  have position : stat.text.length = (decimalInt stat.pid ++ ascii " (" ++ stat.name).length + 2 +
      stat.remaining.length := by
    simp only [StatLine.text, List.length_append, List.length_cons]
    omega
  have cut : stat.text.drop ((decimalInt stat.pid ++ ascii " (" ++ stat.name).length + 2) =
      stat.remaining := by
    rw [StatLine.text, List.drop_append]
    simp
  have present : 0 < stat.remaining.length := Nat.succ_pos _
  simp only [readProcessCpuTimes, Option.bind_some, line]
  rw [show rfind 41 stat.text = _ from rightParen]
  simp only [cut, readFields_printed]
  rw [if_neg (by omega)]
  rfl

/-- A line without a parenthesis, or with at most one byte behind the last one, has no fields. -/
theorem readProcessCpuTimes_none {line : Bytes} (clean : 10 ∉ line) (more : Option Bytes)
    (short : 41 ∉ line ∨
      ∃ front after, line = front ++ 41 :: after ∧ 41 ∉ after ∧ after.length ≤ 1) :
    readProcessCpuTimes (some (fileOf line more)) = none := by
  by_cases empty : fileOf line more = []
  · simp only [empty]
    rfl
  obtain ⟨rest, read⟩ : ∃ rest, getline (fileOf line more) = some (line, rest) := by
    cases more with
    | none =>
        rw [fileOf, List.append_nil] at empty
        exact getline_fileOf clean empty none
    | some text => exact ⟨text, getline_line clean text⟩
  simp only [readProcessCpuTimes, Option.bind_some, read]
  obtain absent | ⟨front, after, rfl, last, few⟩ := short
  · rw [rfind_absent absent]
  · rw [rfind_last 41 front last]
    have ended : (front ++ 41 :: after).length ≤ front.length + 2 := by
      simp only [List.length_append, List.length_cons]
      omega
    simp only [ended, if_true]

/-- The function returns the three times of every printed line, whatever the name contains, and
refuses a line without a parenthesis or without text behind it. -/
theorem statLines_read (stat : StatLine) (more : Option Bytes) :
    readProcessCpuTimes (some (fileOf stat.text more)) = some stat.times ∧
    ∀ line, 10 ∉ line →
      (41 ∉ line ∨ ∃ front after, line = front ++ 41 :: after ∧ 41 ∉ after ∧ after.length ≤ 1) →
      readProcessCpuTimes (some (fileOf line more)) = none :=
  ⟨readProcessCpuTimes_printed stat more, fun _ clean short =>
    readProcessCpuTimes_none clean more short⟩

/-- The first process has this line. -/
def initStat : StatLine where
  pid := 1
  name := ascii "init (v2) 1"
  state := 83
  ppid := 0
  pgrp := 1
  session := 1
  ttyNr := 0
  tpgid := -1
  flags := 4194560
  minflt := 12
  cminflt := 0
  majflt := 3
  cmajflt := 0
  userTime := 40
  systemTime := 25
  childUserTime := 7
  childSystemTime := -2
  priority := 20
  niceValue := 0
  numThreads := 1
  itrealValue := 0
  startTime := 11
  rest := ascii " 170000 0"
  nameLine := by decide
  stateVisible := rfl
  stateOpen := by decide
  restLine := by decide
  restOpen := by decide
  restBlank _ starts := (Option.some.inj starts).symm

/-- The times of the first process are read, and a line without fields has none. -/
theorem statLines_read_init :
    readProcessCpuTimes (some (fileOf initStat.text (some []))) = some ⟨40, 25, 11⟩ ∧
    readProcessCpuTimes (some (fileOf (ascii "1 (init)") none)) = none :=
  ⟨(statLines_read initStat (some [])).1, (statLines_read initStat none).2 (ascii "1 (init)")
    (by decide) (.inr ⟨ascii "1 (init", [], rfl, by simp, Nat.zero_le 1⟩)⟩

end ProcessCollector
end LMonitor

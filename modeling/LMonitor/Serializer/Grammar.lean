import LMonitor.Serializer.RoundTrip
import Mathlib.Data.List.Nodup
import Mathlib.Data.List.Perm.Basic
import Mathlib.Tactic.MkIffOfInductiveProp

namespace LMonitor.MetricsDeserializer
open Library

/-- A value parser accepts its text. -/
def Succeeds {A : Type} (attempt : Except Bytes A) : Prop := ∃ value, attempt = .ok value

section Definitions
variable (D : Type) [DoubleText D]

/-- The text of a field passes the value parser and the condition of its field. -/
def Field.Accepts (field : Field) (value : Bytes) : Prop :=
  match field with
  | .hostname | .diskMount | .networkInterface => value ≠ []
  | .uptimeSeconds | .memoryTotalKb | .memoryUsedKb | .memoryAvailableKb | .diskTotalBytes
  | .diskUsedBytes | .diskAvailableBytes => Succeeds (parseUint64 value field.key)
  | .logicalCpus => ∃ number, parseSize value field.key = .ok number ∧ 0 < number
  | .processCount => Succeeds (parseSize value field.key)
  | .cpuUsagePercent | .memoryUsagePercent | .load1 | .load5 | .load15 | .diskUsagePercent
  | .networkRxBytesPerSecond | .networkTxBytesPerSecond =>
      Succeeds (parseDouble value field.key : Except Bytes D)
  | .sampleIntervalSeconds => ∃ number : D, parseDouble value field.key = .ok number ∧
      Double.le number (Double.ofNat 0) = false

/-- The first four commas of a process record cut it into five accepted parts. -/
def AcceptsProcess (value : Bytes) : Prop :=
  ∃ pid cpu memory resident name : Bytes,
    value = pid ++ 44 :: (cpu ++ 44 :: (memory ++ 44 :: (resident ++ 44 :: name))) ∧
    44 ∉ pid ∧ 44 ∉ cpu ∧ 44 ∉ memory ∧ 44 ∉ resident ∧
    (∃ number, parseInt pid (ascii "process.pid") = .ok number ∧ 0 ≤ number) ∧
    Succeeds (parseDouble cpu (ascii "process.cpu_usage_percent") : Except Bytes D) ∧
    Succeeds (parseDouble memory (ascii "process.memory_usage_percent") : Except Bytes D) ∧
    Succeeds (parseUint64 resident (ascii "process.resident_memory_kb")) ∧
    name ≠ []

/-- These are the lines of a payload without their line ends. -/
def textLines (payload : Bytes) : List Bytes := (payload.splitOn 10).map stripCarriageReturn

/-- Each line with an equals sign is a key and a value. -/
def entries (lines : List Bytes) : List (Bytes × Bytes) := lines.filterMap (splitFirst 61)

/-- These are the keys of the lines that are no process records. -/
def fieldKeys (lines : List Bytes) : List Bytes :=
  ((entries lines).map Prod.fst).filter (· ≠ ascii "process")

def processLines (lines : List Bytes) : Nat :=
  ((entries lines).map Prod.fst).count (ascii "process")

/-- A line is blank or has a key that is not empty. -/
def Formed (line : Bytes) : Prop :=
  line = [] ∨ ∃ key value, line = key ++ 61 :: value ∧ 61 ∉ key ∧ key ≠ []

/-- This is the grammar of the lines that follow the version. -/
@[mk_iff]
structure Body (lines : List Bytes) : Prop where
  formed : ∀ line ∈ lines, Formed line
  fields : (fieldKeys lines).Perm (Field.all.map Field.key)
  values : ∀ (field : Field) (value : Bytes), (field.key, value) ∈ entries lines →
    field.Accepts D value
  processes : ∀ value, (ascii "process", value) ∈ entries lines → AcceptsProcess D value
  count : ∃ value number, (Field.processCount.key, value) ∈ entries lines ∧
    parseSize value Field.processCount.key = .ok number ∧ number.toNat = processLines lines

/-- This is the grammar LMONITOR/1. -/
structure Grammar (payload : Bytes) : Prop where
  version : (textLines payload).head? = some protocolVersion
  body : Body D (textLines payload).tail

/-- The size of a string fits into a `std::size_t`. -/
structure Payload where
  text : Bytes
  sized : text.length < 18446744073709551616

/-- An entry is a process record or belongs to a field. -/
def AcceptsEntry (key value : Bytes) : Prop :=
  key = ascii "process" ∧ AcceptsProcess D value ∨
    ∃ field : Field, key = field.key ∧ field.Accepts D value

/-- A line can follow lines with the received keys. -/
def Continues (received : List Bytes) (line : Bytes) : Prop :=
  line = [] ∨ ∃ key value, line = key ++ 61 :: value ∧ 61 ∉ key ∧ key ≠ [] ∧
    AcceptsEntry D key value ∧ (key = ascii "process" ∨ key ∉ received)

/-- The lines of a payload may still be continued. -/
@[mk_iff]
structure WellFormed (lines : List Bytes) : Prop where
  formed : ∀ line ∈ lines, Formed line
  distinct : (fieldKeys lines).Nodup
  accepted : ∀ entry ∈ entries lines, AcceptsEntry D entry.1 entry.2

end Definitions

section Lines

@[simp] theorem entries_blank (lines : List Bytes) : entries (lines ++ [[]]) = entries lines := by
  simp [entries, splitFirst]

@[simp] theorem fieldKeys_blank (lines : List Bytes) :
    fieldKeys (lines ++ [[]]) = fieldKeys lines := by
  simp [fieldKeys]

@[simp] theorem processLines_blank (lines : List Bytes) :
    processLines (lines ++ [[]]) = processLines lines := by
  simp [processLines]

theorem entries_snoc (lines : List Bytes) {key : Bytes} (value : Bytes) (clean : 61 ∉ key) :
    entries (lines ++ [key ++ 61 :: value]) = entries lines ++ [(key, value)] := by
  simp [entries, splitFirst_append 61 key value clean]

theorem mem_entries_snoc (lines : List Bytes) {key other text : Bytes} (value : Bytes)
    (clean : 61 ∉ key) :
    (other, text) ∈ entries (lines ++ [key ++ 61 :: value]) ↔
      (other, text) ∈ entries lines ∨ other = key ∧ text = value := by
  rw [entries_snoc lines value clean, List.mem_append, List.mem_singleton, Prod.mk.injEq]

theorem fieldKeys_snoc (lines : List Bytes) {key : Bytes} (value : Bytes) (clean : 61 ∉ key) :
    fieldKeys (lines ++ [key ++ 61 :: value]) =
      fieldKeys lines ++ if key = ascii "process" then [] else [key] := by
  rw [fieldKeys, entries_snoc lines value clean]
  by_cases process : key = ascii "process" <;> simp [fieldKeys, process]

theorem processLines_snoc (lines : List Bytes) {key : Bytes} (value : Bytes) (clean : 61 ∉ key) :
    processLines (lines ++ [key ++ 61 :: value]) =
      processLines lines + if key = ascii "process" then 1 else 0 := by
  rw [processLines, entries_snoc lines value clean]
  simp [processLines, List.count_singleton, beq_iff_eq]

theorem mem_fieldKeys {lines : List Bytes} {key value : Bytes}
    (member : (key, value) ∈ entries lines) (other : key ≠ ascii "process") :
    key ∈ fieldKeys lines := by
  have known : key ∈ (entries lines).map Prod.fst := List.mem_map.mpr ⟨_, member, rfl⟩
  simpa [fieldKeys, other] using known

end Lines

section Continuation
variable {D : Type} [DoubleText D]

/-- A line continues the payload if its value is acceptable and its key is new. -/
theorem continues_entry (received : List Bytes) {key : Bytes} (value : Bytes) (clean : 61 ∉ key)
    (nonempty : key ≠ []) :
    Continues D received (key ++ 61 :: value) ↔
      AcceptsEntry D key value ∧ (key = ascii "process" ∨ key ∉ received) := by
  constructor
  · rintro (blank | ⟨other, text, same, cleanOther, _, accepted⟩)
    · simp at blank
    · obtain ⟨rfl, rfl⟩ := cut_unique clean cleanOther same
      exact accepted
  · exact fun accepted => .inr ⟨key, value, rfl, clean, nonempty, accepted⟩

/-- The keys stay distinct if the new one is. -/
theorem distinct_snoc (lines : List Bytes) {key : Bytes} (value : Bytes) (clean : 61 ∉ key) :
    (fieldKeys (lines ++ [key ++ 61 :: value])).Nodup ↔
      (fieldKeys lines).Nodup ∧ (key = ascii "process" ∨ key ∉ fieldKeys lines) := by
  rw [fieldKeys_snoc lines value clean]
  by_cases process : key = ascii "process"
  · simp [process]
  · rw [if_neg process, List.nodup_append_comm]
    simp [process, and_comm]

/-- One more line keeps the text well formed exactly when it can continue the text. -/
theorem wellFormed_snoc (lines : List Bytes) (line : Bytes) :
    WellFormed D (lines ++ [line]) ↔
      WellFormed D lines ∧ Continues D (fieldKeys lines) line := by
  simp only [wellFormed_iff, List.forall_mem_append, List.forall_mem_singleton]
  by_cases formed : Formed line
  · rcases id formed with rfl | ⟨key, value, rfl, clean, nonempty⟩
    · have continues : Continues D (fieldKeys lines) [] := .inl rfl
      simp only [formed, continues, fieldKeys_blank, entries_blank, and_true]
    · simp only [formed, and_true, entries_snoc lines value clean, distinct_snoc lines value clean,
        continues_entry (fieldKeys lines) value clean nonempty, List.forall_mem_append,
        List.forall_mem_singleton]
      tauto
  · have stuck : ¬ Continues D (fieldKeys lines) line := by
      rintro (blank | ⟨key, value, whole, clean, nonempty, _⟩)
      · exact formed (.inl blank)
      · exact formed (.inr ⟨key, value, whole, clean, nonempty⟩)
    simp only [formed, stuck, and_false, false_and]

end Continuation

section Completion
variable {D : Type} [DoubleText D]

/-- A received key has an entry. -/
theorem exists_of_mem_fieldKeys {lines : List Bytes} {key : Bytes}
    (member : key ∈ fieldKeys lines) :
    key ≠ ascii "process" ∧ ∃ value, (key, value) ∈ entries lines := by
  simp only [fieldKeys, List.mem_filter, List.mem_map, decide_eq_true_eq] at member
  obtain ⟨⟨⟨key, value⟩, entry, rfl⟩, other⟩ := member
  exact ⟨other, value, entry⟩

/-- The required fields make a well-formed text complete. -/
theorem fields_perm_iff {lines : List Bytes} (wellFormed : WellFormed D lines) :
    (fieldKeys lines).Perm (Field.all.map Field.key) ↔
      ∀ field : Field, field.key ∈ fieldKeys lines := by
  have required : (Field.all.map Field.key).Nodup := List.Nodup.map key_injective (by decide)
  rw [List.perm_ext_iff_of_nodup wellFormed.distinct required]
  constructor
  · intro same field
    exact (same field.key).mpr (List.mem_map_of_mem (mem_allFields field))
  · intro complete key
    constructor
    · intro member
      obtain ⟨other, value, entry⟩ := exists_of_mem_fieldKeys member
      obtain ⟨field, rfl, _⟩ := (wellFormed.accepted (key, value) entry).resolve_left
        fun process => other process.1
      exact List.mem_map_of_mem (mem_allFields field)
    · intro member
      obtain ⟨field, _, rfl⟩ := List.mem_map.mp member
      exact complete field

/-- A body has no malformed line and no wrong entry. -/
theorem wellFormed_of_body {lines : List Bytes} (body : Body D lines) : WellFormed D lines where
  formed := body.formed
  distinct := body.fields.symm.nodup (List.Nodup.map key_injective (by decide))
  accepted := by
    rintro ⟨key, value⟩ entry
    by_cases process : key = ascii "process"
    · subst process
      exact .inl ⟨rfl, body.processes value entry⟩
    · have known := body.fields.subset (mem_fieldKeys entry process)
      obtain ⟨field, _, rfl⟩ := List.mem_map.mp known
      exact .inr ⟨field, rfl, body.values field value entry⟩

/-- The values of a well-formed payload are acceptable. -/
theorem accepts_of_entry {lines : List Bytes} (wellFormed : WellFormed D lines) {field : Field}
    {value : Bytes} (entry : (field.key, value) ∈ entries lines) : field.Accepts D value := by
  rcases wellFormed.accepted _ entry with ⟨process, _⟩ | ⟨other, same, accepted⟩
  · exact absurd process (key_ne_process field)
  · obtain rfl := key_injective same
    exact accepted

/-- The processes of a well-formed payload are acceptable. -/
theorem acceptsProcess_of_entry {lines : List Bytes} (wellFormed : WellFormed D lines)
    {value : Bytes} (entry : (ascii "process", value) ∈ entries lines) :
    AcceptsProcess D value := by
  rcases wellFormed.accepted _ entry with ⟨_, accepted⟩ | ⟨field, same, _⟩
  · exact accepted
  · exact absurd same.symm (key_ne_process field)

theorem processLines_le (lines : List Bytes) : processLines lines ≤ lines.length := by
  calc processLines lines ≤ ((entries lines).map Prod.fst).length := List.count_le_length
    _ ≤ lines.length := by
      rw [List.length_map]
      exact List.length_filterMap_le _ _

/-- A blank line at the end changes nothing. -/
theorem body_blank (lines : List Bytes) : Body D (lines ++ [[]]) ↔ Body D lines := by
  have blank : Formed [] := .inl rfl
  simp only [body_iff, List.forall_mem_append, List.forall_mem_singleton, blank, and_true,
    fieldKeys_blank, entries_blank, processLines_blank]

/-- The lines of a text are its parts, possibly with an empty one behind. -/
theorem textLines_eq (payload : Bytes) :
    textLines payload = (linesFrom 10 [] payload).map stripCarriageReturn ∨
      textLines payload = (linesFrom 10 [] payload).map stripCarriageReturn ++ [[]] := by
  rcases splitOn_eq_linesFrom 10 [] payload with same | blank
  · exact .inl (congrArg (List.map stripCarriageReturn) same)
  · right
    rw [textLines, show payload.splitOn 10 = _ from blank, List.map_append]
    rfl

/-- The lines that the parser reads decide the grammar. -/
theorem grammar_iff_lines (payload : Bytes) :
    Grammar D payload ↔ ∃ version lines, linesFrom 10 [] payload = version :: lines ∧
      stripCarriageReturn version = protocolVersion ∧ Body D (lines.map stripCarriageReturn) := by
  have filled : protocolVersion ≠ [] := by decide
  cases read : linesFrom 10 [] payload with
  | nil =>
      have blank : textLines payload = [] ∨ textLines payload = [[]] := by
        simpa [read] using textLines_eq payload
      have none : ¬ Grammar D payload := by
        rintro ⟨version, _⟩
        rcases blank with blank | blank <;> simp [blank, filled.symm] at version
      simp [none]
  | cons version lines =>
      have body : Body D (textLines payload).tail ↔ Body D (lines.map stripCarriageReturn) := by
        rcases textLines_eq payload with same | blank
        · simp [same, read]
        · simp [blank, read, body_blank]
      have head : (textLines payload).head? = some (stripCarriageReturn version) := by
        rcases textLines_eq payload with same | blank
        · simp [same, read]
        · simp [blank, read]
      constructor
      · rintro ⟨first, rest⟩
        rw [head] at first
        exact ⟨version, lines, rfl, Option.some.inj first, body.mp rest⟩
      · rintro ⟨_, _, equal, first, rest⟩
        obtain ⟨rfl, rfl⟩ := List.cons.inj equal
        exact ⟨by rw [head, first], body.mpr rest⟩

end Completion

end LMonitor.MetricsDeserializer

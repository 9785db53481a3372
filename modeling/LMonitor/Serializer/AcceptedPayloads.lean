import LMonitor.Serializer.AcceptedSamples
import LMonitor.Serializer.Grammar

namespace LMonitor.MetricsDeserializer
open Library

section Success
variable {A B : Type}

@[simp] theorem succeeds_ok (value : A) : Succeeds (.ok value) := ⟨value, rfl⟩

@[simp] theorem not_succeeds_error (message : Bytes) :
    ¬ Succeeds (.error message : Except Bytes A) := by
  rintro ⟨value, impossible⟩
  cases impossible

/-- Two parts succeed one after the other. -/
theorem succeeds_bind (first : Except Bytes A) (second : A → Except Bytes B) :
    Succeeds (first >>= second) ↔ ∃ value, first = .ok value ∧ Succeeds (second value) := by
  constructor
  · rintro ⟨result, success⟩
    obtain ⟨value, left, right⟩ := bind_eq_ok success
    exact ⟨value, left, result, right⟩
  · rintro ⟨value, rfl, result, success⟩
    exact ⟨result, success⟩

/-- A check that throws adds its negation to the rest. -/
theorem succeeds_guard (refused : Prop) [Decidable refused] (message : Bytes)
    (rest : Except Bytes A) :
    Succeeds (if refused then Except.error message >>= fun _ : PUnit => rest else rest) ↔
      ¬ refused ∧ Succeeds rest := by
  split
  · rename_i throws
    simp only [throws, not_true_eq_false, false_and, iff_false]
    exact not_succeeds_error message
  · rename_i passes
    simp [passes]

end Success

variable {D : Type} [DoubleText D]

theorem splitFields_succ_eq_some {commas : Nat} {text : Bytes} {parts : List Bytes} :
    splitFields (commas + 1) text = some parts ↔
      ∃ field rest others, text = field ++ 44 :: rest ∧ 44 ∉ field ∧
        splitFields commas rest = some others ∧ parts = field :: others := by
  simp only [splitFields]
  constructor
  · intro found
    split at found
    · cases found
    · rename_i field rest cut
      obtain ⟨others, tail, rfl⟩ := Option.map_eq_some_iff.mp found
      obtain ⟨whole, clean⟩ := splitFirst_eq_some cut
      exact ⟨field, rest, others, whole, clean, tail, rfl⟩
  · rintro ⟨field, rest, others, rfl, clean, tail, rfl⟩
    rw [splitFirst_append 44 field rest clean]
    simp [tail]

theorem splitFields_zero_eq_some {text : Bytes} {parts : List Bytes} :
    splitFields 0 text = some parts ↔ parts = [text] := by
  simp [splitFields, eq_comm]

/-- Four cuts of a record give its five parts. -/
theorem splitFields_four_eq_some {value pid cpu memory resident name : Bytes} :
    splitFields 4 value = some [pid, cpu, memory, resident, name] ↔
      value = pid ++ 44 :: (cpu ++ 44 :: (memory ++ 44 :: (resident ++ 44 :: name))) ∧
        44 ∉ pid ∧ 44 ∉ cpu ∧ 44 ∉ memory ∧ 44 ∉ resident := by
  simp only [splitFields_succ_eq_some, splitFields_zero_eq_some]
  constructor
  · rintro ⟨_, _, _, rfl, first, ⟨_, _, _, rfl, second, ⟨_, _, _, rfl, third,
      ⟨_, _, _, rfl, fourth, rfl, rfl⟩, rfl⟩, rfl⟩, equal⟩
    simp only [List.cons.injEq, and_true] at equal
    obtain ⟨rfl, rfl, rfl, rfl, rfl⟩ := equal
    exact ⟨rfl, first, second, third, fourth⟩
  · rintro ⟨rfl, first, second, third, fourth⟩
    exact ⟨_, _, _, rfl, first, ⟨_, _, _, rfl, second, ⟨_, _, _, rfl, third,
      ⟨_, _, _, rfl, fourth, rfl, rfl⟩, rfl⟩, rfl⟩, rfl⟩

/-- A process line is parsed exactly if it is acceptable. -/
theorem succeeds_parseProcess (value : Bytes) :
    Succeeds (parseProcess value : Except Bytes (ProcessMetric D)) ↔ AcceptsProcess D value := by
  have parts (pid cpu memory resident name : Bytes)
      (cut : splitFields 4 value = some [pid, cpu, memory, resident, name]) :
      Succeeds (parseProcess value : Except Bytes (ProcessMetric D)) ↔
        (∃ number, parseInt pid (ascii "process.pid") = .ok number ∧ 0 ≤ number) ∧
        Succeeds (parseDouble cpu (ascii "process.cpu_usage_percent") : Except Bytes D) ∧
        Succeeds (parseDouble memory (ascii "process.memory_usage_percent") : Except Bytes D) ∧
        Succeeds (parseUint64 resident (ascii "process.resident_memory_kb")) ∧ name ≠ [] := by
    simp only [parseProcess, cut, succeeds_bind, succeeds_guard, succeeds_ok, Int32.not_lt,
      and_true, exists_and_right, ← and_assoc]
    rfl
  constructor
  · intro success
    obtain ⟨process, parsed⟩ := success
    have known := parsed
    simp only [parseProcess] at parsed
    split at parsed
    · cases parsed
    · rename_i pid cpu memory resident name cut
      obtain ⟨whole, first, second, third, fourth⟩ := splitFields_four_eq_some.mp cut
      exact ⟨pid, cpu, memory, resident, name, whole, first, second, third, fourth,
        (parts pid cpu memory resident name cut).mp ⟨process, known⟩⟩
    · cases parsed
  · rintro ⟨pid, cpu, memory, resident, name, whole, first, second, third, fourth, accepted⟩
    have cut := splitFields_four_eq_some.mpr ⟨whole, first, second, third, fourth⟩
    exact (parts pid cpu memory resident name cut).mpr accepted

theorem succeeds_requireText (message : String) (value : Bytes) :
    Succeeds (requireText message value) ↔ value ≠ [] := by
  unfold requireText
  split
  · rename_i empty
    simp [empty]
  · rename_i nonempty
    simp [nonempty]

/-- A value is assigned exactly if the field accepts it. -/
theorem succeeds_assign (field : Field) (value : Bytes) (p : Parse D) :
    Succeeds (assign field value p) ↔ field.Accepts D value := by
  cases field
  case hostname | diskMount | networkInterface =>
    simp only [assign, Field.Accepts, succeeds_bind, succeeds_ok, and_true]
    exact succeeds_requireText _ value
  case logicalCpus =>
    simp only [assign, Field.Accepts, succeeds_bind, succeeds_guard, succeeds_ok, and_true,
      UInt64.pos_iff_ne_zero, ne_eq]
  case sampleIntervalSeconds =>
    simp only [assign, Field.Accepts, succeeds_bind, succeeds_guard, succeeds_ok, and_true,
      Bool.not_eq_true]
  all_goals
    simp only [assign, Field.Accepts, succeeds_bind, succeeds_ok, and_true]
    rfl

/-- These are the effects of an assignment on the variables that the checks read. -/
structure Assigned (field : Field) (value : Bytes) (p next : Parse D) : Prop where
  received : next.receivedFields = p.receivedFields
  processes : next.metrics.topProcesses = p.metrics.topProcesses
  announced : field = .processCount → next.processCountSeen = true ∧
    parseSize value field.key = .ok next.expectedProcessCount
  unannounced : field ≠ .processCount → next.processCountSeen = p.processCountSeen ∧
    next.expectedProcessCount = p.expectedProcessCount

/-- Every successful assignment has these effects. -/
theorem assigned {field : Field} {value : Bytes} {p next : Parse D}
    (success : assign field value p = .ok next) : Assigned field value p next := by
  cases field
  case logicalCpus | sampleIntervalSeconds =>
    obtain ⟨number, _, stored⟩ := bind_eq_ok success
    obtain rfl := Except.ok.inj (guard_eq_ok stored)
    exact ⟨rfl, rfl, by simp, fun _ => ⟨rfl, rfl⟩⟩
  case processCount =>
    obtain ⟨number, parsed, stored⟩ := bind_eq_ok success
    obtain rfl := Except.ok.inj stored
    exact ⟨rfl, rfl, fun _ => ⟨rfl, parsed⟩, by simp⟩
  all_goals
    obtain ⟨number, _, stored⟩ := bind_eq_ok success
    obtain rfl := Except.ok.inj stored
    exact ⟨rfl, rfl, by simp, fun _ => ⟨rfl, rfl⟩⟩

/-- A line is parsed exactly if it continues the payload. -/
theorem succeeds_parseLine (p : Parse D) (line : Bytes) :
    Succeeds (parseLine p line) ↔ Continues D p.receivedFields (stripCarriageReturn line) := by
  constructor
  · rintro ⟨next, success⟩
    rcases parseLine_cases success with ⟨blank, _⟩ | ⟨value, process, whole, parsed, _⟩ |
      ⟨field, value, whole, fresh, stored⟩
    · exact .inl blank
    · have accepted := (succeeds_parseProcess value).mp ⟨process, parsed⟩
      exact .inr ⟨_, value, whole, by decide, by decide, .inl ⟨rfl, accepted⟩, .inl rfl⟩
    · have accepted := (succeeds_assign field value (mark p field)).mp ⟨next, stored⟩
      exact .inr ⟨_, value, whole, key_noEquals field, key_ne_nil field,
        .inr ⟨field, rfl, accepted⟩, .inr fresh⟩
  · rintro (blank | ⟨key, value, whole, clean, nonempty, accepted, fresh⟩)
    · exact ⟨p, by simp [parseLine, blank]⟩
    · simp only [parseLine, whole, splitFirst_append 61 key value clean, nonempty, if_false,
        List.append_eq_nil_iff, reduceCtorEq, and_false]
      rcases accepted with ⟨rfl, record⟩ | ⟨field, rfl, text⟩
      · obtain ⟨process, parsed⟩ := (succeeds_parseProcess value).mpr record
        simp [parsed, succeeds_bind]
      · have fresh : field.key ∉ p.receivedFields := fresh.resolve_left (key_ne_process field)
        simp only [key_ne_process field, if_false, markRequiredField, fresh, ofKey_key field]
        exact (succeeds_assign field value _).mpr text

/-- These are the variables of the parse loop after its lines. -/
structure Reads (lines : List Bytes) (p : Parse D) : Prop where
  received : ∀ key, key ∈ p.receivedFields ↔ key ∈ fieldKeys lines
  processes : p.metrics.topProcesses.length = processLines lines
  announced : ∀ value, (Field.processCount.key, value) ∈ entries lines →
    p.processCountSeen = true ∧
      parseSize value Field.processCount.key = .ok p.expectedProcessCount

/-- One more parsed line extends what was read. -/
theorem reads_parseLine {lines : List Bytes} {p next : Parse D} {line : Bytes}
    (reads : Reads lines p) (success : parseLine p line = .ok next) :
    Reads (lines ++ [stripCarriageReturn line]) next := by
  rcases parseLine_cases success with ⟨blank, rfl⟩ | ⟨value, process, whole, _, rfl⟩ |
    ⟨field, value, whole, fresh, stored⟩
  · rw [blank]
    exact ⟨by simpa using reads.received, by simpa using reads.processes,
      by simpa using reads.announced⟩
  · have clean : 61 ∉ ascii "process" := by decide
    rw [whole]
    refine ⟨?_, ?_, ?_⟩
    · simpa [fieldKeys_snoc lines value clean] using reads.received
    · simpa [processLines_snoc lines value clean] using reads.processes
    · intro text member
      have earlier := ((mem_entries_snoc lines value clean).mp member).resolve_right
        fun same => key_ne_process _ same.1
      exact reads.announced text earlier
  · have clean := key_noEquals field
    obtain ⟨received, processes, announced, unannounced⟩ := assigned stored
    rw [whole]
    refine ⟨?_, ?_, ?_⟩
    · intro key
      simp [fieldKeys_snoc lines value clean, key_ne_process field, received, mark, reads.received,
        or_comm]
    · simp [processLines_snoc lines value clean, key_ne_process field, processes, mark,
        reads.processes]
    · intro text member
      rcases (mem_entries_snoc lines value clean).mp member with earlier | ⟨same, rfl⟩
      · have other : field ≠ .processCount := by
          rintro rfl
          exact fresh ((reads.received _).mpr (mem_fieldKeys earlier (key_ne_process _)))
        rw [(unannounced other).1, (unannounced other).2]
        exact reads.announced text earlier
      · obtain rfl := key_injective same
        exact announced rfl

theorem reads_initial : Reads [] (initial : Parse D) :=
  ⟨by simp [initial, fieldKeys, entries], rfl, by simp [entries]⟩

/-- A parsed text has these variables. -/
theorem reads_lines {lines : List Bytes} {p : Parse D}
    (success : lines.foldlM parseLine initial = .ok p) :
    Reads (lines.map stripCarriageReturn) p := by
  induction lines using List.reverseRecOn generalizing p with
  | nil =>
      obtain rfl := Except.ok.inj success
      exact reads_initial
  | append_singleton lines line ih =>
      obtain ⟨middle, first, parsed⟩ := foldlM_snoc_eq_ok success
      rw [List.map_append]
      exact reads_parseLine (ih first) parsed

/-- Only the received keys decide about the next line. -/
theorem continues_congr {lines : List Bytes} {p : Parse D} (reads : Reads lines p) (line : Bytes) :
    Continues D p.receivedFields line ↔ Continues D (fieldKeys lines) line := by
  simp only [Continues, reads.received]

/-- The parse loop accepts exactly the well-formed texts. -/
theorem succeeds_lines (lines : List Bytes) :
    Succeeds (lines.foldlM parseLine (initial : Parse D)) ↔
      WellFormed D (lines.map stripCarriageReturn) := by
  induction lines using List.reverseRecOn with
  | nil =>
      simp only [List.foldlM_nil, List.map_nil]
      exact iff_of_true (succeeds_ok _) ⟨by simp, List.nodup_nil, by simp [entries]⟩
  | append_singleton lines line ih =>
      rw [List.map_append, List.map_singleton, wellFormed_snoc, ← ih, List.foldlM_append,
        succeeds_bind]
      constructor
      · rintro ⟨p, first, last⟩
        rw [List.foldlM_cons, succeeds_bind] at last
        obtain ⟨next, parsed, _⟩ := last
        exact ⟨⟨p, first⟩, (continues_congr (reads_lines first) _).mp
          ((succeeds_parseLine p line).mp ⟨next, parsed⟩)⟩
      · rintro ⟨⟨p, first⟩, continues⟩
        obtain ⟨next, parsed⟩ := (succeeds_parseLine p line).mpr
          ((continues_congr (reads_lines first) _).mpr continues)
        exact ⟨p, first, next, by rw [List.foldlM_cons, parsed]; rfl⟩

/-- The final checks accept a complete text with the announced number of processes. -/
theorem succeeds_finish {lines : List Bytes} {p : Parse D} (reads : Reads lines p)
    (short : lines.length < 18446744073709551616) :
    Succeeds (finish p) ↔ (∀ field : Field, field.key ∈ fieldKeys lines) ∧
      p.expectedProcessCount.toNat = processLines lines := by
  have bounded := (processLines_le lines).trans_lt short
  have count : vectorSize p.metrics.topProcesses = p.expectedProcessCount ↔
      p.expectedProcessCount.toNat = processLines lines := by
    rw [← UInt64.toNat_inj, vectorSize, reads.processes]
    simp [UInt64.toNat_ofNat', Nat.mod_eq_of_lt bounded, eq_comm]
  simp only [finish, succeeds_bind, succeeds_guard, succeeds_ok, and_true, ne_eq, not_not, count,
    verifyRequiredFields_eq_ok, reads.received]
  constructor
  · rintro ⟨_, complete, _, equal⟩
    exact ⟨complete, equal⟩
  · rintro ⟨complete, equal⟩
    obtain ⟨_, value, entry⟩ := exists_of_mem_fieldKeys (complete .processCount)
    exact ⟨(), complete, by simp [(reads.announced value entry).1], equal⟩

/-- The parse loop and the final checks accept exactly the bodies. -/
theorem succeeds_body (lines : List Bytes) (short : lines.length < 18446744073709551616) :
    Succeeds (lines.foldlM parseLine (initial : Parse D) >>= finish) ↔
      Body D (lines.map stripCarriageReturn) := by
  rw [succeeds_bind]
  constructor
  · rintro ⟨p, parsed, finished⟩
    have reads := reads_lines parsed
    have wellFormed := (succeeds_lines lines).mp ⟨p, parsed⟩
    obtain ⟨complete, equal⟩ := (succeeds_finish reads (by simpa using short)).mp finished
    obtain ⟨_, value, entry⟩ := exists_of_mem_fieldKeys (complete .processCount)
    exact {
      formed := wellFormed.formed
      fields := (fields_perm_iff wellFormed).mpr complete
      values := fun _ _ => accepts_of_entry wellFormed
      processes := fun _ => acceptsProcess_of_entry wellFormed
      count := ⟨value, p.expectedProcessCount, entry, (reads.announced value entry).2, equal⟩ }
  · intro body
    have wellFormed := wellFormed_of_body body
    obtain ⟨p, parsed⟩ := (succeeds_lines lines).mpr wellFormed
    have reads := reads_lines parsed
    obtain ⟨value, number, entry, text, equal⟩ := body.count
    have announced := (reads.announced value entry).2
    obtain rfl := Except.ok.inj (text.symm.trans announced)
    exact ⟨p, parsed, (succeeds_finish reads (by simpa using short)).mpr
      ⟨(fields_perm_iff wellFormed).mp body.fields, equal⟩⟩

/-- A payload is accepted exactly if its version and all its lines are. -/
theorem succeeds_deserialize (payload : Bytes) :
    Succeeds (deserialize payload : Except Bytes (SystemMetrics D)) ↔
      ∃ version lines, linesFrom 10 [] payload = version :: lines ∧
        stripCarriageReturn version = protocolVersion ∧
        Succeeds (lines.foldlM parseLine (initial : Parse D) >>= finish) := by
  unfold deserialize
  split
  · rename_i empty
    simp [empty, linesFrom]
  · split
    · rename_i none
      simp [none]
    · rename_i version lines read
      simp only [read, List.cons.injEq, ne_eq, ite_not]
      split
      · rename_i supported
        constructor
        · exact fun success => ⟨version, lines, ⟨rfl, rfl⟩, supported, success⟩
        · rintro ⟨_, _, ⟨rfl, rfl⟩, _, success⟩
          exact success
      · rename_i unsupported
        simp only [not_succeeds_error, false_iff]
        rintro ⟨_, _, ⟨rfl, rfl⟩, supported, _⟩
        exact unsupported supported

/-- The parser accepts exactly the payloads of the grammar, and it refuses all others. -/
theorem accepts_grammar (payload : Payload) :
    ((∃ metrics, (deserialize payload.text : Except Bytes (SystemMetrics D)) = .ok metrics) ↔
      Grammar D payload.text) ∧
    (¬ Grammar D payload.text →
      ∃ message, (deserialize payload.text : Except Bytes (SystemMetrics D)) = .error message) := by
  have accepted : Succeeds (deserialize payload.text : Except Bytes (SystemMetrics D)) ↔
      Grammar D payload.text := by
    rw [succeeds_deserialize, grammar_iff_lines]
    have short := length_linesFrom_le 10 [] payload.text
    have sized := payload.sized
    refine exists_congr fun version => exists_congr fun lines => and_congr_right fun read =>
      and_congr_right fun _ => ?_
    rw [read, List.length_cons] at short
    exact succeeds_body lines (by omega)
  refine ⟨accepted, fun outside => ?_⟩
  cases result : (deserialize payload.text : Except Bytes (SystemMetrics D)) with
  | error message => exact ⟨message, rfl⟩
  | ok metrics => exact absurd (accepted.mp ⟨metrics, result⟩) outside

end LMonitor.MetricsDeserializer

import LMonitor.Library.Decimal
import LMonitor.Library.Find
import LMonitor.Library.Incremental
import LMonitor.Library.Split

namespace LMonitor.Library

/-- A response has a status line, header fields and a body. -/
structure HttpMessage where
  status : Nat
  reason : Bytes
  fields : List (Bytes × Bytes)
  body : Bytes
  deriving DecidableEq

namespace HttpMessage

/-- The names of header fields do not distinguish upper case from lower case. -/
def lowerByte (byte : UInt8) : UInt8 := if 65 ≤ byte ∧ byte ≤ 90 then byte + 32 else byte

def isBlank (byte : UInt8) : Bool := byte = 32 ∨ byte = 9

/-- A number of a response has decimal digits only. -/
def readNumber (text : Bytes) : Option Nat :=
  if text ≠ [] ∧ text.all isDigit then some (digitsValue text) else none

/-- The first field with this name announces the length of the body. -/
def announced (fields : List (Bytes × Bytes)) : Option Nat :=
  (fields.find? fun field => field.1.map lowerByte = ascii "content-length").bind
    fun field => readNumber field.2

/-- A line of the head loses its carriage return. -/
def chomp (line : Bytes) : Bytes := if line.getLast? = some 13 then line.dropLast else line

def readStatusLine (line : Bytes) : Option (Nat × Bytes) := do
  let (version, rest) ← splitFirst 32 line
  let (code, reason) ← splitFirst 32 rest
  let status ← readNumber code
  if version = ascii "HTTP/1.1" then some (status, reason) else none

/-- Blanks around the value of a field do not belong to it. -/
def readField (line : Bytes) : Option (Bytes × Bytes) := do
  let (name, value) ← splitFirst 58 line
  some (name, trim isBlank value)

/-- The head of a response tells the length of its body. -/
structure Head where
  status : Nat
  reason : Bytes
  fields : List (Bytes × Bytes)
  length : Nat

def readHead (head : Bytes) : Option Head :=
  match (linesFrom 10 [] head).map chomp with
  | [] => none
  | statusLine :: lines => do
      let (status, reason) ← readStatusLine statusLine
      let fields ← lines.mapM readField
      let length ← announced fields
      some ⟨status, reason, fields, length⟩

/-- An empty line ends the head. -/
def blankLine : Bytes := [13, 10, 13, 10]

/-- The reader waits for the blank line and then for a body of the announced length. -/
def verdict (text : Bytes) : Verdict UInt8 HttpMessage :=
  match find blankLine text with
  | none => .wait
  | some stop =>
      match readHead (text.take (stop + 2)) with
      | none => .reject
      | some head =>
          let content := text.drop (stop + 4)
          if content.length < head.length then .wait
          else .item ⟨head.status, head.reason, head.fields, content.take head.length⟩
            (content.drop head.length)

/-- A found blank line lies inside the text. -/
theorem blankLine_inside {text : Bytes} {stop : Nat} (found : find blankLine text = some stop) :
    stop + 4 ≤ text.length := by
  obtain ⟨before, after, rfl, rfl⟩ := find_split found
  simp only [List.length_append, show blankLine.length = 4 from rfl]
  omega

/-- More text does not change the head. -/
theorem head_append {text : Bytes} {stop : Nat} (found : find blankLine text = some stop)
    (more : Bytes) : (text ++ more).take (stop + 2) = text.take (stop + 2) := by
  have inside := blankLine_inside found
  exact List.take_append_of_le_length (by omega)

theorem content_append {text : Bytes} {stop : Nat} (found : find blankLine text = some stop)
    (more : Bytes) : (text ++ more).drop (stop + 4) = text.drop (stop + 4) ++ more :=
  List.drop_append_of_le_length (blankLine_inside found)

/-- A rejected text has a complete head that cannot be read. -/
theorem verdict_reject {text : Bytes} (rejected : verdict text = .reject) :
    ∃ stop, find blankLine text = some stop ∧ readHead (text.take (stop + 2)) = none := by
  simp only [verdict] at rejected
  split at rejected
  · cases rejected
  · rename_i stop found
    split at rejected
    · rename_i unreadable
      exact ⟨stop, found, unreadable⟩
    · split at rejected <;> cases rejected

/-- A message has a complete head and the whole announced content. -/
theorem verdict_item {text rest : Bytes} {message : HttpMessage}
    (decision : verdict text = .item message rest) :
    ∃ stop head, find blankLine text = some stop ∧
      readHead (text.take (stop + 2)) = some head ∧ head.length ≤ (text.drop (stop + 4)).length ∧
      message = ⟨head.status, head.reason, head.fields, (text.drop (stop + 4)).take head.length⟩ ∧
      rest = (text.drop (stop + 4)).drop head.length := by
  simp only [verdict] at decision
  split at decision
  · cases decision
  · rename_i stop found
    split at decision
    · cases decision
    · rename_i head readable
      split at decision
      · cases decision
      · rename_i complete
        obtain ⟨rfl, rfl⟩ := (Verdict.item.injEq ..).mp decision
        exact ⟨stop, head, found, readable, Nat.not_lt.mp complete, rfl, rfl⟩

theorem verdict_shorter {text rest : Bytes} {message : HttpMessage}
    (decision : verdict text = .item message rest) : rest.length < text.length := by
  obtain ⟨stop, head, found, _, _, _, rfl⟩ := verdict_item decision
  have inside := blankLine_inside found
  simp only [List.length_drop]
  omega

/-- More bytes do not change a rejection. -/
theorem verdict_reject_append {text : Bytes} (more : Bytes) (rejected : verdict text = .reject) :
    verdict (text ++ more) = .reject := by
  obtain ⟨stop, found, unreadable⟩ := verdict_reject rejected
  simp only [verdict, find_extended more found, head_append found, unreadable]

/-- More bytes stay behind the message. -/
theorem verdict_item_append {text rest : Bytes} {message : HttpMessage} (more : Bytes)
    (decision : verdict text = .item message rest) :
    verdict (text ++ more) = .item message (rest ++ more) := by
  obtain ⟨stop, head, found, readable, complete, rfl, rfl⟩ := verdict_item decision
  have longer : ¬ (text.drop (stop + 4) ++ more).length < head.length := by
    rw [List.length_append]
    omega
  simp only [verdict, find_extended more found, head_append found, content_append found, readable,
    longer, if_false, List.take_append_of_le_length complete,
    List.drop_append_of_le_length complete]

/-- The reader decides the same way whatever text follows. -/
def decoder : Decoder UInt8 HttpMessage where
  verdict := verdict
  item_shorter _ _ _ := verdict_shorter
  reject_append _ := verdict_reject_append
  item_append _ more _ _ := verdict_item_append more

/-- Every line of the head ends in a carriage return and a line feed. -/
def ended (line : Bytes) : Bytes := line ++ [13, 10]

def statusLine (message : HttpMessage) : Bytes :=
  ascii "HTTP/1.1 " ++ decimal message.status ++ 32 :: message.reason

def fieldLine (field : Bytes × Bytes) : Bytes := field.1 ++ 58 :: 32 :: field.2

def headLines (message : HttpMessage) : List Bytes :=
  message.statusLine :: message.fields.map fieldLine

def text (message : HttpMessage) : Bytes :=
  message.headLines.flatMap ended ++ 13 :: 10 :: message.body

/-- A line of the head has no line ends. -/
def OneLine (line : Bytes) : Prop := 13 ∉ line ∧ 10 ∉ line

instance : DecidablePred OneLine := fun _ => inferInstanceAs (Decidable (_ ∧ _))

/-- A field has a name without a colon and a value without blanks around it. -/
structure WrittenField (field : Bytes × Bytes) : Prop where
  name : 58 ∉ field.1
  nameLine : OneLine field.1
  valueLine : OneLine field.2
  first : ∀ byte ∈ field.2.head?, isBlank byte = false
  last : ∀ byte ∈ field.2.getLast?, isBlank byte = false

/-- The lines of the response are clean, and a field announces the length of its body. -/
structure Written (message : HttpMessage) : Prop where
  reason : OneLine message.reason
  fields : ∀ field ∈ message.fields, WrittenField field
  announced : announced message.fields = some message.body.length

/-- A field without line ends and outer blanks can be written. -/
theorem writtenField_of_clean {field : Bytes × Bytes}
    (clean : 58 ∉ field.1 ∧ OneLine field.1 ∧ OneLine field.2 ∧
      field.2.head?.all (!isBlank ·) = true ∧ field.2.getLast?.all (!isBlank ·) = true) :
    WrittenField field := by
  obtain ⟨name, nameLine, valueLine, first, last⟩ := clean
  apply WrittenField.mk name nameLine valueLine
  · intro byte known
    simpa using (Option.all_eq_true _ _).mp first byte known
  · intro byte known
    simpa using (Option.all_eq_true _ _).mp last byte known

theorem oneLine_append {first second : Bytes} (one : OneLine first) (other : OneLine second) :
    OneLine (first ++ second) := by
  simp only [OneLine, List.mem_append, not_or]
  exact ⟨⟨one.1, other.1⟩, one.2, other.2⟩

theorem oneLine_decimal (value : Nat) : OneLine (decimal value) := by
  constructor
  · intro member
    exact (isDigit_ordinary (decimal_isDigit value 13 member)).2.2.2.2.2 rfl
  · intro member
    exact (isDigit_ordinary (decimal_isDigit value 10 member)).2.2.2.2.1 rfl

theorem chomp_ended (line : Bytes) : chomp (line ++ [13]) = line := by
  simp [chomp]

theorem readNumber_decimal (value : Nat) : readNumber (decimal value) = some value := by
  have digits : (decimal value).all isDigit = true := List.all_eq_true.mpr (decimal_isDigit value)
  rw [readNumber, if_pos ⟨decimal_ne_nil value, digits⟩, digitsValue_decimal]

/-- A written status line is read back. -/
theorem readStatusLine_written (message : HttpMessage) :
    readStatusLine message.statusLine = some (message.status, message.reason) := by
  have clean : 32 ∉ decimal message.status := by
    intro member
    have ordinary := (isDigit_ordinary (decimal_isDigit _ 32 member)).1
    cases ordinary
  have shape : message.statusLine =
      ascii "HTTP/1.1" ++ 32 :: (decimal message.status ++ 32 :: message.reason) := by
    rw [statusLine]
    rfl
  have version := splitFirst_append 32 (ascii "HTTP/1.1")
    (decimal message.status ++ 32 :: message.reason) (by decide)
  have code := splitFirst_append 32 (decimal message.status) message.reason clean
  simp only [readStatusLine, shape, version, code, readNumber_decimal, bind, Option.bind, if_true]

/-- A written field is read back. -/
theorem readField_written {field : Bytes × Bytes} (known : WrittenField field) :
    readField (fieldLine field) = some field := by
  have cut := splitFirst_append 58 field.1 (32 :: field.2) known.name
  have front : ∀ byte ∈ [(32 : UInt8)], isBlank byte = true := List.forall_mem_singleton.mpr rfl
  have back : ∀ byte ∈ ([] : Bytes), isBlank byte = true := List.forall_mem_nil _
  have trimmed := trim_padded front back known.first known.last
  rw [List.append_nil, List.singleton_append] at trimmed
  simp only [readField, fieldLine, cut, trimmed, bind, Option.bind]

/-- All written fields are read back. -/
theorem readFields_written {fields : List (Bytes × Bytes)}
    (known : ∀ field ∈ fields, WrittenField field) :
    (fields.map fieldLine).mapM readField = some fields := by
  induction fields with
  | nil => rfl
  | cons field fields ih =>
      have rest := ih fun other member => known other (List.mem_cons_of_mem field member)
      simp [List.mapM_cons, readField_written (known field List.mem_cons_self), rest]

/-- Every line of a written head is one line and not empty. -/
theorem oneLine_headLines {message : HttpMessage} (written : Written message) :
    ∀ line ∈ message.headLines, OneLine line ∧ line ≠ [] := by
  have separator : OneLine [32] ∧ OneLine [58, 32] ∧ OneLine (ascii "HTTP/1.1 ") := by decide
  intro line member
  obtain rfl | member := List.mem_cons.mp member
  · refine ⟨?_, by simp [statusLine, ascii]⟩
    exact oneLine_append (oneLine_append separator.2.2 (oneLine_decimal _))
      (oneLine_append separator.1 written.reason)
  · obtain ⟨field, known, rfl⟩ := List.mem_map.mp member
    have fieldKnown := written.fields field known
    refine ⟨?_, by simp [fieldLine]⟩
    exact oneLine_append fieldKnown.nameLine (oneLine_append separator.2.1 fieldKnown.valueLine)

/-- A line end before a visible byte is no blank line. -/
theorem find_lineEnd {byte : UInt8} (other : byte ≠ 13) (text : Bytes) :
    find blankLine (13 :: 10 :: byte :: text) =
      (find blankLine (byte :: text)).map (· + 2) := by
  have first : ¬ blankLine.isPrefixOf (13 :: 10 :: byte :: text) = true := by
    simp [blankLine, Ne.symm other]
  have second : ¬ blankLine.isPrefixOf (10 :: byte :: text) = true := by simp [blankLine]
  rw [find, if_neg first, find, if_neg second, Option.map_map]
  rfl

/-- The first blank line follows the last line of the head. -/
theorem find_blankLine {lines : List Bytes} (present : lines ≠ [])
    (known : ∀ line ∈ lines, OneLine line ∧ line ≠ []) (rest : Bytes) :
    ∃ stop, find blankLine (lines.flatMap ended ++ 13 :: 10 :: rest) = some stop ∧
      stop + 2 = (lines.flatMap ended).length := by
  induction lines with
  | nil => exact absurd rfl present
  | cons line lines ih =>
      have clean := (known line List.mem_cons_self).1.1
      cases lines with
      | nil =>
          refine ⟨line.length, ?_, by simp [ended]⟩
          have shape : [line].flatMap ended ++ 13 :: 10 :: rest = line ++ (blankLine ++ rest) := by
            simp [ended, blankLine]
          rw [shape]
          exact find_first 13 [10, 13, 10] line rest clean
      | cons second lines =>
          obtain ⟨stop, found, position⟩ := ih (List.cons_ne_nil _ _) fun other member =>
            known other (List.mem_cons_of_mem line member)
          obtain ⟨secondLine, nonempty⟩ := known second (by simp)
          obtain ⟨byte, others, rfl⟩ := List.exists_cons_of_ne_nil nonempty
          have other : byte ≠ 13 := fun same => secondLine.1 (by simp [same])
          refine ⟨line.length + 2 + stop, ?_, ?_⟩
          · have shape : (line :: (byte :: others) :: lines).flatMap ended ++ 13 :: 10 :: rest =
                line ++ 13 :: 10 :: (((byte :: others) :: lines).flatMap ended ++
                  13 :: 10 :: rest) := by
              simp [ended]
            have start : ((byte :: others) :: lines).flatMap ended ++ 13 :: 10 :: rest =
                byte :: (others ++ [13, 10] ++ lines.flatMap ended ++ 13 :: 10 :: rest) := by
              simp [ended]
            have skipped := find_append 13 [10, 13, 10] line
              (13 :: 10 :: (((byte :: others) :: lines).flatMap ended ++ 13 :: 10 :: rest)) clean
            rw [shape]
            refine skipped.trans ?_
            rw [start, show (13 :: [10, 13, 10] : Bytes) = blankLine from rfl, find_lineEnd other,
              ← start, found, Option.map_some, Option.map_some]
            congr 1
            omega
          · rw [List.flatMap_cons, List.length_append, ← position, ended, List.length_append]
            simp only [List.length_cons, List.length_nil]
            omega

/-- The lines of a head are read back. -/
theorem linesFrom_ended {lines : List Bytes} (known : ∀ line ∈ lines, OneLine line) :
    (linesFrom 10 [] (lines.flatMap ended)).map chomp = lines := by
  have shape : lines.flatMap ended =
      (lines.map fun line => line ++ [13]).flatMap fun line => line ++ [10] := by
    rw [List.flatMap_map]
    apply List.flatMap_congr
    intro line _
    simp [ended]
  have clean : ∀ line ∈ lines.map fun line => line ++ [13], 10 ∉ line := by
    intro line member
    obtain ⟨source, inside, rfl⟩ := List.mem_map.mp member
    simpa using (known source inside).2
  rw [shape, linesFrom_flatMap 10 _ clean, List.map_map]
  conv_rhs => rw [← List.map_id lines]
  apply List.map_congr_left
  intro line _
  exact chomp_ended line

/-- A written head is read back. -/
theorem readHead_written {message : HttpMessage} (written : Written message) :
    readHead (message.headLines.flatMap ended) =
      some ⟨message.status, message.reason, message.fields, message.body.length⟩ := by
  have lines := linesFrom_ended fun line member => (oneLine_headLines written line member).1
  simp only [readHead, lines]
  simp only [headLines, readStatusLine_written, readFields_written written.fields,
    written.announced, bind, Option.bind]

/-- A written response is read back, and the text behind it stays. -/
theorem verdict_text {message : HttpMessage} (written : Written message) (rest : Bytes) :
    decoder.verdict (message.text ++ rest) = .item message rest := by
  have present : message.headLines ≠ [] := List.cons_ne_nil _ _
  obtain ⟨stop, found, position⟩ :=
    find_blankLine present (oneLine_headLines written) (message.body ++ rest)
  have shape : message.text ++ rest =
      message.headLines.flatMap ended ++ 13 :: 10 :: (message.body ++ rest) := by
    simp [text]
  have head : (message.text ++ rest).take (stop + 2) = message.headLines.flatMap ended := by
    rw [shape, position, List.take_left]
  have content : (message.text ++ rest).drop (stop + 4) = message.body ++ rest := by
    rw [shape, show stop + 4 = (message.headLines.flatMap ended).length + 2 by omega,
      ← List.drop_drop, List.drop_left]
    rfl
  have complete : ¬ (message.body ++ rest).length < message.body.length := by simp
  rw [shape.symm] at found
  simp only [decoder, verdict, found, head, readHead_written written, content, complete, if_false,
    List.take_left, List.drop_left]

/-- A response that breaks off is never read. -/
theorem verdict_part {message : HttpMessage} (written : Written message) {part : Bytes}
    (front : part <+: message.text) (strict : part ≠ message.text) :
    decoder.verdict part = .wait := by
  obtain ⟨more, whole⟩ := front
  have complete := verdict_text written []
  rw [List.append_nil, ← whole] at complete
  apply decoder.waits_before_end complete
  rintro rfl
  exact strict (by rw [← whole, List.append_nil])

end HttpMessage
end LMonitor.Library

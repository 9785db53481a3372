import LMonitor.Serializer.FieldOrder

namespace LMonitor.MetricsDeserializer
open Library
variable {D : Type} [DoubleText D]

/-- The text is a sequence of decimal digits and denotes the number. -/
def Denotes (text : Bytes) (number : Nat) : Prop :=
  text ≠ [] ∧ (∀ byte ∈ text, isDigit byte = true) ∧ number = digitsValue text

/-- The text begins with a blank or with a sign. -/
def Padded : Bytes → Prop
  | [] => False
  | first :: _ => isSpace first = true ∨ first = 43 ∨ first = 45

/-- The conversion of an unpadded text scans only digits. -/
theorem scanInteger_unpadded {text : Bytes} (unpadded : ¬ Padded text) :
    scanInteger text = if text.takeWhile isDigit = [] then none else
      some ⟨false, digitsValue (text.takeWhile isDigit), (text.takeWhile isDigit).length⟩ := by
  have short := (List.takeWhile_prefix isDigit (l := text)).length_le
  have length : text.length - (text.length - (text.takeWhile isDigit).length) =
      (text.takeWhile isDigit).length := by omega
  have signed : scanSign (text.dropWhile isSpace) = (false, text) := by
    cases text with
    | nil => rfl
    | cons first rest =>
        simp only [Padded, not_or, Bool.not_eq_true] at unpadded
        obtain ⟨blank, plus, minus⟩ := unpadded
        simp only [List.dropWhile_cons, blank, Bool.false_eq_true, if_false]
        unfold scanSign
        split
        · rename_i equal
          exact absurd (List.cons.inj equal).1 minus
        · rename_i equal
          exact absurd (List.cons.inj equal).1 plus
        · rfl
  simp only [scanInteger, signed, length]

/-- An unpadded text that is scanned whole has only digits. -/
theorem stoull_unpadded {text : Bytes} {number : UInt64} (unpadded : ¬ Padded text)
    (scanned : stoull text = some (number, text.length)) : Denotes text number.toNat := by
  simp only [stoull, scanInteger_unpadded unpadded] at scanned
  by_cases none : text.takeWhile isDigit = []
  · simp [none] at scanned
  · simp only [none, if_false] at scanned
    split at scanned
    case isTrue => cases scanned
    case isFalse small =>
      obtain ⟨value, whole⟩ := Prod.mk.inj (Option.some.inj scanned)
      have digits : text.takeWhile isDigit = text :=
        (List.takeWhile_prefix isDigit).eq_of_length whole
      rw [digits] at none small value
      refine ⟨none, List.takeWhile_eq_self_iff.mp digits, ?_⟩
      rw [← value]
      simp only [Bool.false_eq_true, if_false, UInt64.toNat_ofNat']
      omega

/-- An accepted text denotes the parsed number exactly when it is not padded. -/
theorem denotes_iff {text fieldName : Bytes} {number : UInt64}
    (parsed : parseUint64 text fieldName = .ok number) :
    Denotes text number.toNat ↔ ¬ Padded text := by
  constructor
  · rintro ⟨nonempty, digits, _⟩ padded
    obtain ⟨first, rest, rfl⟩ := List.exists_cons_of_ne_nil nonempty
    obtain ⟨blank, minus, plus, _⟩ := isDigit_ordinary (digits first (by simp))
    rcases padded with space | sign | sign
    · rw [blank] at space
      contradiction
    · exact plus sign
    · exact minus sign
  · intro unpadded
    apply stoull_unpadded unpadded
    unfold parseUint64 at parsed
    split at parsed
    case isTrue => cases parsed
    case isFalse =>
      split at parsed
      case h_1 => cases parsed
      case h_2 value length scanned =>
        split at parsed
        case isTrue => cases parsed
        case isFalse whole =>
          rw [scanned, ← Except.ok.inj parsed, not_not.mp whole]

/-- These fields hold an unsigned number of the sample. -/
def Field.unsigned (metrics : SystemMetrics D) : Field → Option Nat
  | .uptimeSeconds => some metrics.uptimeSeconds.toNat
  | .logicalCpus => some metrics.logicalCpuCount.toNat
  | .memoryTotalKb => some metrics.memoryTotalKB.toNat
  | .memoryUsedKb => some metrics.memoryUsedKB.toNat
  | .memoryAvailableKb => some metrics.memoryAvailableKB.toNat
  | .diskTotalBytes => some metrics.diskTotalBytes.toNat
  | .diskUsedBytes => some metrics.diskUsedBytes.toNat
  | .diskAvailableBytes => some metrics.diskAvailableBytes.toNat
  | .processCount => some metrics.topProcesses.length
  | _ => none

def Field.isUnsigned : Field → Bool
  | .uptimeSeconds | .logicalCpus | .memoryTotalKb | .memoryUsedKb | .memoryAvailableKb
  | .diskTotalBytes | .diskUsedBytes | .diskAvailableBytes | .processCount => true
  | _ => false

/-- The unsigned fields have an unsigned value. -/
theorem isSome_unsigned (field : Field) (metrics : SystemMetrics D) :
    (field.unsigned metrics).isSome = field.isUnsigned := by
  cases field <;> rfl

/-- The resident memory is the fourth part of a process record. -/
def residentText (value : Bytes) : Option Bytes := (splitFields 4 value).bind fun parts => parts[3]?

/-- The parser accepted this payload as this sample. -/
structure AcceptedPayload (D : Type) [DoubleText D] extends Payload where
  metrics : SystemMetrics D
  accepted : deserialize text = .ok metrics

/-- Every unsigned text of the payload is the decimal form of the stored number. -/
def MeansUnsigned (payload : AcceptedPayload D) : Prop :=
  (∀ (field : Field) (text : Bytes) (number : Nat), (field.key, text) ∈ entries payload.body →
    field.unsigned payload.metrics = some number → Denotes text number) ∧
  List.Forall₂ (fun value process => ∀ text ∈ residentText value,
    Denotes text process.residentMemoryKB.toNat)
    (processValues payload.body) payload.metrics.topProcesses

/-- No unsigned text of the payload begins with a blank or with a sign. -/
def UnpaddedNumbers (payload : Payload) : Prop :=
  (∀ (field : Field) (text : Bytes), (field.key, text) ∈ entries payload.body →
    field.isUnsigned → ¬ Padded text) ∧
  ∀ value ∈ processValues payload.body, ∀ text ∈ residentText value, ¬ Padded text

theorem forall₂_iff {A B : Type} {known first : A → B → Prop} {second : A → Prop}
    {left : List A} {right : List B} (related : List.Forall₂ known left right)
    (same : ∀ a b, known a b → (first a b ↔ second a)) :
    List.Forall₂ first left right ↔ ∀ a ∈ left, second a := by
  induction related with
  | nil => simp
  | cons head _ ih => rw [List.forall₂_cons, List.forall_mem_cons, same _ _ head, ih]

/-- The stored number of an unsigned field is the parsed one. -/
theorem unsigned_parsed {field : Field} {text : Bytes} {p : Parse D} {number : Nat}
    (means : field.Means text (field.stored p))
    (count : p.expectedProcessCount.toNat = p.metrics.topProcesses.length)
    (holds : field.unsigned p.metrics = some number) :
    ∃ value : UInt64, value.toNat = number ∧ parseUint64 text field.key = .ok value := by
  cases field
  case uptimeSeconds | logicalCpus | memoryTotalKb | memoryUsedKb | memoryAvailableKb |
      diskTotalBytes | diskUsedBytes | diskAvailableBytes =>
    exact ⟨_, Option.some.inj holds, means⟩
  case processCount =>
    exact ⟨p.expectedProcessCount, count.trans (Option.some.inj holds), means⟩
  all_goals cases holds

/-- The memory of a parsed process is that of its text. -/
theorem resident_parsed {value text : Bytes} {process : ProcessMetric D}
    (parsed : parseProcess value = .ok process) (member : text ∈ residentText value) :
    parseUint64 text (ascii "process.resident_memory_kb") = .ok process.residentMemoryKB := by
  simp only [parseProcess] at parsed
  split at parsed
  case h_1 => cases parsed
  case h_2 pid cpu memory resident name cut =>
    obtain ⟨_, _, rest⟩ := bind_eq_ok parsed
    obtain ⟨_, _, rest⟩ := bind_eq_ok (guard_eq_ok rest)
    obtain ⟨_, _, rest⟩ := bind_eq_ok rest
    obtain ⟨number, scanned, rest⟩ := bind_eq_ok rest
    obtain rfl := Except.ok.inj (guard_eq_ok rest)
    have same : resident = text := by simpa [residentText, cut] using member
    rw [← same]
    exact scanned
  case h_3 => cases parsed

/-- The unsigned numbers of an accepted payload mean what they say exactly when none of their texts
is padded. -/
theorem meansUnsigned_iff (payload : AcceptedPayload D) :
    MeansUnsigned payload ↔ UnpaddedNumbers payload.toPayload := by
  obtain ⟨p, metrics, reflects, count⟩ :=
    @deserialize_reflects D _ payload.toPayload payload.metrics payload.accepted
  have fields {field : Field} {text : Bytes} {number : Nat}
      (entry : (field.key, text) ∈ entries payload.body)
      (holds : field.unsigned payload.metrics = some number) :
      Denotes text number ↔ ¬ Padded text := by
    rw [← metrics] at holds count
    obtain ⟨value, rfl, parsed⟩ := unsigned_parsed (reflects.fields field text entry) count holds
    exact denotes_iff parsed
  rw [MeansUnsigned, UnpaddedNumbers, ← metrics]
  apply and_congr
  · rw [metrics]
    constructor
    · intro means field text entry holds
      rw [← isSome_unsigned field payload.metrics] at holds
      obtain ⟨number, found⟩ := Option.isSome_iff_exists.mp holds
      exact (fields entry found).mp (means field text number entry found)
    · intro unpadded field text number entry found
      exact (fields entry found).mpr (unpadded field text entry
        (by rw [← isSome_unsigned field payload.metrics, found]; rfl))
  · apply forall₂_iff reflects.processes
    intro value process parsed
    have texts (text : Bytes) (member : text ∈ residentText value) :
        Denotes text process.residentMemoryKB.toNat ↔ ¬ Padded text :=
      denotes_iff (resident_parsed parsed member)
    constructor
    · intro means text member
      exact (texts text member).mp (means text member)
    · intro unpadded text member
      exact (texts text member).mpr (unpadded text member)

/-- The agent of this sample has been up for minus one second. -/
def signedPayload : Payload :=
  ⟨sampleText (sampleLines.map fun line =>
      if line = "uptime_seconds=5" then "uptime_seconds=-1" else line) "\n", by decide +kernel⟩

/-- A signed text is read as a huge number. -/
theorem signedPayload_read :
    (deserialize signedPayload.text : Except Bytes (SystemMetrics Int)).toOption.map
        SystemMetrics.uptimeSeconds = some 18446744073709551615 ∧
      (Field.uptimeSeconds.key, ascii "-1") ∈ entries signedPayload.body := by
  decide +kernel

/-- The parser accepts the sign and stores the largest number. -/
theorem signed_text_accepted : ∃ payload : AcceptedPayload Int,
    payload.text = signedPayload.text ∧ payload.metrics.uptimeSeconds = 18446744073709551615 ∧
      ¬ MeansUnsigned payload := by
  obtain ⟨read, entry⟩ := signedPayload_read
  obtain ⟨metrics, found, uptime⟩ := Option.map_eq_some_iff.mp read
  have accepted : deserialize signedPayload.text = .ok metrics := by
    cases result : (deserialize signedPayload.text : Except Bytes (SystemMetrics Int)) with
    | error message =>
        rw [result] at found
        cases found
    | ok value =>
        rw [result] at found
        exact congrArg Except.ok (Option.some.inj found)
  refine ⟨⟨signedPayload, metrics, accepted⟩, rfl, uptime, ?_⟩
  intro means
  obtain ⟨_, digits, _⟩ := means.1 .uptimeSeconds (ascii "-1") _ entry rfl
  exact absurd (digits 45 (by decide)) (by decide)

end LMonitor.MetricsDeserializer

import LMonitor.Library.Decimal

namespace LMonitor.Library

/-- An extraction takes a value from the front of a stream, or it fails. -/
abbrev Extraction (A : Type) : Type := StateT Bytes Option A

/-- The extraction of a character skips blanks. -/
def extractChar : Extraction UInt8 := fun text =>
  match text.dropWhile isSpace with
  | [] => none
  | byte :: rest => some (byte, rest)

/-- The extraction of a string skips blanks and ends before the next blank. -/
def extractWord : Extraction Bytes := fun text =>
  let text := text.dropWhile isSpace
  if text = [] then none
  else some (text.takeWhile fun byte => !isSpace byte, text.dropWhile fun byte => !isSpace byte)

/-- The extraction of a number leaves the text behind its last digit in the stream. -/
def extractNumber {A : Type} (convert : Bytes → Option (A × Nat)) : Extraction A := fun text =>
  (convert text).map fun (value, length) => (value, text.drop length)

def extractInt : Extraction Int := extractNumber stoi

def extractLong : Extraction Int := extractNumber stoll

def extractUnsigned : Extraction UInt64 := extractNumber stoull

/-- The function takes the bytes before the next line feed and fails at the end of the stream. -/
def getline : Extraction Bytes := fun text =>
  if text = [] then none
  else some (text.takeWhile (· ≠ 10), (text.dropWhile (· ≠ 10)).drop 1)

/-- A number ends where the text goes on without a digit. -/
def Stops (rest : Bytes) : Prop := ∀ byte, rest.head? = some byte → isDigit byte = false

@[simp] theorem stops_nil : Stops [] := by
  intro byte starts
  cases starts

theorem stops_cons {byte : UInt8} (other : isDigit byte = false) (rest : Bytes) :
    Stops (byte :: rest) := by
  intro first starts
  rwa [← Option.some.inj starts]

@[simp] theorem stops_blank (rest : Bytes) : Stops (32 :: rest) := stops_cons rfl rest

/-- The scan of a number behind a blank ends where the number ends. -/
theorem scanInteger_printed (value : Int) {rest : Bytes} (stops : Stops rest) :
    scanInteger (32 :: (decimalInt value ++ rest)) =
      some ⟨value < 0, value.natAbs, (decimalInt value).length + 1⟩ := by
  obtain ⟨first, others, shape, isFirst⟩ := decimal_first value.natAbs
  have text : decimalInt value ++ rest =
      (if decide (value < 0) then ascii "-" else []) ++ first :: (others ++ rest) := by
    rw [← List.cons_append, ← shape]
    by_cases negative : value < 0 <;> simp [decimalInt, negative]
  have signed := scanSign_signed (value < 0) first (others ++ rest) isFirst
  rw [← text, ← List.cons_append, ← shape] at signed
  have ended : rest.takeWhile isDigit = [] := by
    cases rest with
    | nil => rfl
    | cons byte rest => simp [stops byte rfl]
  have digits : (decimal value.natAbs ++ rest).takeWhile isDigit = decimal value.natAbs := by
    rw [List.takeWhile_append_of_pos (decimal_isDigit _), ended, List.append_nil]
  have blank : (32 :: (decimalInt value ++ rest)).dropWhile isSpace =
      (decimalInt value ++ rest).dropWhile isSpace := by
    simp [show isSpace 32 = true from rfl]
  simp only [scanInteger, blank, signed, digits, decimal_ne_nil, if_false, digitsValue_decimal,
    List.length_cons, List.length_append, Option.some.injEq, Scan.mk.injEq, true_and]
  omega

/-- A printed number is read behind its blank. -/
theorem stoll_printed (value : Int64) {rest : Bytes} (stops : Stops rest) :
    stoll (32 :: (decimalInt value.toInt ++ rest)) =
      some (value.toInt, (decimalInt value.toInt).length + 1) := by
  have lower := value.le_toInt
  have upper := value.toInt_lt
  simp only [stoll, scanInteger_printed _ stops, decide_eq_true_eq, signed_natAbs]
  rw [if_neg (by omega)]

theorem stoi_printed (value : Int32) {rest : Bytes} (stops : Stops rest) :
    stoi (32 :: (decimalInt value.toInt ++ rest)) =
      some (value.toInt, (decimalInt value.toInt).length + 1) := by
  have lower := value.le_toInt
  have upper := value.toInt_lt
  simp only [stoi, scanInteger_printed _ stops, decide_eq_true_eq, signed_natAbs]
  rw [if_neg (by omega)]

theorem stoull_printed (value : UInt64) {rest : Bytes} (stops : Stops rest) :
    stoull (32 :: (decimal value.toNat ++ rest)) =
      some (value, (decimal value.toNat).length + 1) := by
  have small := value.toNat_lt
  have nonneg : ¬ ((value.toNat : Int) < 0) := by omega
  rw [← decimalInt_natCast]
  simp only [stoull, scanInteger_printed _ stops, Int.natAbs_natCast]
  rw [if_neg (by omega)]
  simp [nonneg]

/-- A conversion that takes the printed number leaves the rest of the stream. -/
theorem extractNumber_printed {A : Type} {convert : Bytes → Option (A × Nat)} {value : A}
    {printed rest : Bytes}
    (reads : convert (32 :: (printed ++ rest)) = some (value, printed.length + 1)) :
    extractNumber convert (32 :: (printed ++ rest)) = some (value, rest) := by
  simp [extractNumber, reads]

/-- A printed number of 32 bits is extracted in full. -/
theorem extractInt_printed (value : Int32) {rest : Bytes} (stops : Stops rest) :
    extractInt (32 :: (decimalInt value.toInt ++ rest)) = some (value.toInt, rest) :=
  extractNumber_printed (stoi_printed value stops)

/-- A printed number of 64 bits is extracted in full. -/
theorem extractLong_printed (value : Int64) {rest : Bytes} (stops : Stops rest) :
    extractLong (32 :: (decimalInt value.toInt ++ rest)) = some (value.toInt, rest) :=
  extractNumber_printed (stoll_printed value stops)

/-- A printed unsigned number is extracted in full. -/
theorem extractUnsigned_printed (value : UInt64) {rest : Bytes} (stops : Stops rest) :
    extractUnsigned (32 :: (decimal value.toNat ++ rest)) = some (value, rest) :=
  extractNumber_printed (stoull_printed value stops)

/-- A visible byte is extracted as it is. -/
theorem extractChar_visible {byte : UInt8} (visible : isSpace byte = false) (rest : Bytes) :
    extractChar (byte :: rest) = some (byte, rest) := by
  simp [extractChar, visible]

theorem extractWord_blank {byte : UInt8} (blank : isSpace byte = true) (text : Bytes) :
    extractWord (byte :: text) = extractWord text := by
  simp [extractWord, blank]

/-- A word of the stream ends before the next blank. -/
theorem extractWord_word {word : Bytes} (nonempty : word ≠ [])
    (visible : ∀ byte ∈ word, (!isSpace byte) = true) {byte : UInt8} (blank : isSpace byte = true)
    (rest : Bytes) : extractWord (word ++ byte :: rest) = some (word, byte :: rest) := by
  obtain ⟨first, others, rfl⟩ := List.exists_cons_of_ne_nil nonempty
  have start : isSpace first = false := by simpa using visible first List.mem_cons_self
  have kept : (first :: others ++ byte :: rest).dropWhile isSpace =
      first :: others ++ byte :: rest := by
    simp [start]
  have present : first :: others ++ byte :: rest ≠ [] := List.cons_ne_nil _ _
  simp only [extractWord, kept, present, if_false]
  rw [List.takeWhile_append_of_pos visible, List.dropWhile_append_of_pos visible]
  simp [blank]

/-- An extracted word stands in the text, and the stream goes on behind it. -/
theorem extractWord_part {text word rest : Bytes}
    (success : extractWord text = some (word, rest)) : word <:+: text ∧ rest <:+ text := by
  simp only [extractWord] at success
  split at success
  · cases success
  · obtain ⟨rfl, rfl⟩ := Prod.mk.inj (Option.some.inj success)
    have behind := List.dropWhile_suffix (l := text) isSpace
    exact ⟨(List.takeWhile_prefix _).isInfix.trans behind.isInfix,
      (List.dropWhile_suffix _).trans behind⟩

/-- What is left behind a number is the end of the text. -/
theorem extractNumber_suffix {A : Type} {convert : Bytes → Option (A × Nat)} {text rest : Bytes}
    {value : A} (success : extractNumber convert text = some (value, rest)) : rest <:+ text := by
  obtain ⟨⟨number, length⟩, _, same⟩ := Option.map_eq_some_iff.mp success
  obtain ⟨_, rfl⟩ := Prod.mk.inj same
  exact List.drop_suffix length text

/-- The extraction of a word takes at least one byte. -/
theorem extractWord_shorter {text word rest : Bytes}
    (success : extractWord text = some (word, rest)) : rest.length < text.length := by
  have skipped : (text.dropWhile isSpace).length ≤ text.length :=
    (List.dropWhile_sublist isSpace).length_le
  simp only [extractWord] at success
  split at success
  · cases success
  · rename_i nonempty
    obtain ⟨-, rfl⟩ := Prod.mk.inj (Option.some.inj success)
    obtain ⟨first, others, shape⟩ := List.exists_cons_of_ne_nil nonempty
    have visible : (!isSpace first) = true := by
      have head := List.head_dropWhile_not isSpace nonempty
      simp only [shape, List.head_cons] at head
      simp [head]
    simp only [shape, List.dropWhile_cons, visible, if_true]
    rw [shape, List.length_cons] at skipped
    have shorter : (others.dropWhile fun byte => !isSpace byte).length ≤ others.length :=
      (List.dropWhile_sublist _).length_le
    omega

theorem extractNumber_shorter {A : Type} {convert : Bytes → Option (A × Nat)} {value : A}
    {text rest : Bytes} (success : extractNumber convert text = some (value, rest)) :
    rest.length ≤ text.length := by
  obtain ⟨⟨number, length⟩, _, same⟩ := Option.map_eq_some_iff.mp success
  obtain ⟨-, rfl⟩ := Prod.mk.inj same
  rw [List.length_drop]
  omega

/-- The first line of a text ends before its line feed. -/
theorem getline_line {line : Bytes} (clean : 10 ∉ line) (more : Bytes) :
    getline (line ++ 10 :: more) = some (line, more) := by
  have inside : ∀ byte ∈ line, decide (byte ≠ 10) = true := by
    intro byte member
    exact decide_eq_true fun same => clean (same ▸ member)
  simp only [getline, List.append_eq_nil_iff, List.cons_ne_nil, and_false, if_false]
  rw [List.takeWhile_append_of_pos inside, List.dropWhile_append_of_pos inside]
  simp

/-- The last line of a text needs no line feed. -/
theorem getline_last {line : Bytes} (clean : 10 ∉ line) (nonempty : line ≠ []) :
    getline line = some (line, []) := by
  have inside : ∀ byte ∈ line, decide (byte ≠ 10) = true := by
    intro byte member
    exact decide_eq_true fun same => clean (same ▸ member)
  simp only [getline, nonempty, if_false]
  rw [List.takeWhile_eq_self_iff.mpr inside, List.dropWhile_eq_nil_iff.mpr inside]
  rfl

end LMonitor.Library

import LMonitor.Library.Extraction
import Mathlib.Algebra.Group.Nat.Defs

namespace LMonitor.Library

/-- A padding has blanks only. -/
def Padding (text : Bytes) : Prop := ∀ byte ∈ text, isSpace byte = true

instance : DecidablePred Padding := fun text =>
  List.decidableBAll (fun byte => isSpace byte = true) text

/-- A word has no blanks. -/
def Word (text : Bytes) : Prop := text ≠ [] ∧ ∀ byte ∈ text, (!isSpace byte) = true

instance : DecidablePred Word := fun text =>
  have := List.decidableBAll (fun byte => (!isSpace byte) = true) text
  inferInstanceAs (Decidable (_ ∧ _))

theorem padding_replicate (count : Nat) : Padding (List.replicate count 32) := by
  intro byte member
  rw [List.eq_of_mem_replicate member]
  rfl

/-- Blanks in front of a text are skipped. -/
theorem dropWhile_padding {padding : Bytes} (blank : Padding padding) (text : Bytes) :
    (padding ++ text).dropWhile isSpace = text.dropWhile isSpace :=
  List.dropWhile_append_of_pos blank

theorem dropWhile_padded {padding : Bytes} (blank : Padding padding) {first : UInt8}
    (start : isSpace first = false) (text : Bytes) :
    (padding ++ (first :: text)).dropWhile isSpace = first :: text := by
  rw [dropWhile_padding blank]
  simp [start]

theorem scanSign_length (text : Bytes) : (scanSign text).2.length ≤ text.length := by
  unfold scanSign
  split <;> simp

/-- The scan of a number behind blanks ends where the number ends. -/
theorem scanInteger_padded (value : Int) {padding rest : Bytes} (blank : Padding padding)
    (stops : Stops rest) :
    scanInteger (padding ++ (decimalInt value ++ rest)) =
      some ⟨value < 0, value.natAbs, padding.length + (decimalInt value).length⟩ := by
  have printed := scanInteger_printed value stops
  have skipped : (32 :: (decimalInt value ++ rest)).dropWhile isSpace =
      (decimalInt value ++ rest).dropWhile isSpace := by
    simp [show isSpace 32 = true from rfl]
  simp only [scanInteger, skipped, List.length_cons, List.length_append] at printed
  simp only [scanInteger, dropWhile_padding blank, List.length_append]
  split at printed
  · cases printed
  · rename_i present
    obtain ⟨sign, magnitude, length⟩ := (Scan.mk.injEq ..).mp (Option.some.inj printed)
    have bound : ((scanSign ((decimalInt value ++ rest).dropWhile isSpace)).2).length ≤
        (decimalInt value ++ rest).length :=
      (scanSign_length _).trans (List.dropWhile_sublist isSpace).length_le
    rw [if_neg present, Option.some.injEq, Scan.mk.injEq]
    refine ⟨sign, magnitude, ?_⟩
    simp only [List.length_append] at bound
    omega

/-- A number behind blanks is extracted, and the text behind it stays. -/
theorem extractUnsigned_padded (value : UInt64) {padding rest : Bytes} (blank : Padding padding)
    (stops : Stops rest) :
    extractUnsigned (padding ++ (decimal value.toNat ++ rest)) = some (value, rest) := by
  have small := value.toNat_lt
  have nonneg : ¬ ((value.toNat : Int) < 0) := by omega
  have inside : ¬ 18446744073709551616 ≤ value.toNat := by omega
  have scanned := scanInteger_padded value.toNat blank stops
  rw [decimalInt_natCast] at scanned
  simp only [extractUnsigned, extractNumber, stoull, scanned, Int.natAbs_natCast, inside, if_false,
    nonneg, decide_false, Bool.false_eq_true, UInt64.ofNat_toNat, Option.map_some]
  rw [← List.append_assoc, List.drop_left' (List.length_append ..)]

/-- A word behind blanks is extracted when a blank or nothing follows it. -/
theorem extractWord_padded {padding word rest : Bytes} (blank : Padding padding)
    (known : Word word) (ends : ∀ byte ∈ rest.head?, isSpace byte = true) :
    extractWord (padding ++ (word ++ rest)) = some (word, rest) := by
  obtain ⟨nonempty, visible⟩ := known
  obtain ⟨first, others, rfl⟩ := List.exists_cons_of_ne_nil nonempty
  have start : isSpace first = false := by simpa using visible first List.mem_cons_self
  have kept :
      (padding ++ (first :: others ++ rest)).dropWhile isSpace = first :: others ++ rest :=
    dropWhile_padded blank start (others ++ rest)
  have present : first :: others ++ rest ≠ [] := List.cons_ne_nil _ _
  simp only [extractWord, kept, present, if_false]
  rw [List.takeWhile_append_of_pos visible, List.dropWhile_append_of_pos visible]
  cases rest with
  | nil => simp
  | cons byte rest => simp [ends byte rfl]

/-- A blank, a tab or a line feed ends a word. -/
theorem ends_space (first : UInt8) (space : isSpace first = true) (rest : Bytes) :
    ∀ byte ∈ (first :: rest).head?, isSpace byte = true := by
  intro byte starts
  rw [← Option.some.inj starts]
  exact space

/-- An extracted word has no blanks. -/
theorem word_extracted {text word rest : Bytes} (success : extractWord text = some (word, rest)) :
    Word word := by
  simp only [extractWord] at success
  split at success
  · cases success
  · rename_i present
    obtain ⟨rfl, -⟩ := Prod.mk.inj (Option.some.inj success)
    constructor
    · intro none
      obtain ⟨first, others, shape⟩ := List.exists_cons_of_ne_nil present
      have head := List.head_dropWhile_not isSpace present
      simp only [shape, List.head_cons] at head
      simp [shape, head] at none
    · exact fun byte => List.mem_takeWhile_imp

/-- A line that was read has no line feed. -/
theorem line_extracted {text line rest : Bytes} (success : getline text = some (line, rest)) :
    10 ∉ line := by
  simp only [getline] at success
  split at success
  · cases success
  · obtain ⟨rfl, -⟩ := Prod.mk.inj (Option.some.inj success)
    intro member
    have other := List.mem_takeWhile_imp member
    simp at other

def isHexDigit (byte : UInt8) : Bool :=
  isDigit byte ∨ (65 ≤ byte ∧ byte ≤ 70) ∨ (97 ≤ byte ∧ byte ≤ 102)

def hexDigitValue (byte : UInt8) : Nat :=
  if isDigit byte then byte.toNat - 48 else if byte ≤ 70 then byte.toNat - 55 else byte.toNat - 87

/-- This is the number that hexadecimal digits denote. -/
def hexValue (digits : Bytes) : Nat :=
  digits.foldl (fun value byte => 16 * value + hexDigitValue byte) 0

/-- Hexadecimal digits may follow the mark `0x`. -/
def dropMark : Bytes → Bytes
  | 48 :: 120 :: rest => rest
  | 48 :: 88 :: rest => rest
  | rest => rest

/-- The extraction of a 32-bit number with `std::hex` takes a sign and digits, and it fails beyond
its range. -/
def extractHex : Extraction UInt32 := fun text =>
  let signed := scanSign (text.dropWhile isSpace)
  let body := dropMark signed.2
  let digits := body.takeWhile isHexDigit
  if digits = [] ∨ 4294967296 ≤ hexValue digits then none
  else
    let value := UInt32.ofNat (hexValue digits)
    some (if signed.1 then 0 - value else value, body.drop digits.length)

theorem isHexDigit_ordinary {byte : UInt8} (known : isHexDigit byte = true) :
    isSpace byte = false ∧ byte ≠ 45 ∧ byte ≠ 43 ∧ byte ≠ 120 ∧ byte ≠ 88 := by
  simp only [isHexDigit, isDigit, isSpace, decide_eq_true_eq, decide_eq_false_iff_not, ne_eq,
    UInt8.le_iff_toNat_le, ← UInt8.toNat_inj] at known ⊢
  simp only [UInt8.reduceToNat] at known ⊢
  omega

/-- A mark contains a byte that is neither a digit nor a blank. -/
theorem dropMark_eq {text : Bytes}
    (second : ∀ first byte rest, text = first :: byte :: rest → byte ≠ 120 ∧ byte ≠ 88) :
    dropMark text = text := by
  unfold dropMark
  split
  · rename_i rest
    exact absurd rfl (second 48 120 rest rfl).1
  · rename_i rest
    exact absurd rfl (second 48 88 rest rfl).2
  · rfl

/-- A number of hexadecimal digits behind blanks is extracted. -/
theorem extractHex_padded {padding digits rest : Bytes} (blank : Padding padding)
    (nonempty : digits ≠ []) (known : ∀ byte ∈ digits, isHexDigit byte = true)
    (small : hexValue digits < 4294967296)
    (ends : ∀ byte ∈ rest.head?, isSpace byte = true) :
    extractHex (padding ++ (digits ++ rest)) = some (UInt32.ofNat (hexValue digits), rest) := by
  obtain ⟨first, others, rfl⟩ := List.exists_cons_of_ne_nil nonempty
  have start := isHexDigit_ordinary (known first List.mem_cons_self)
  have kept :
      (padding ++ (first :: others ++ rest)).dropWhile isSpace = first :: others ++ rest :=
    dropWhile_padded blank start.1 (others ++ rest)
  have unsigned : scanSign (first :: others ++ rest) = (false, first :: others ++ rest) := by
    unfold scanSign
    split
    · rename_i equal
      exact absurd (List.cons.inj equal).1 start.2.1
    · rename_i equal
      exact absurd (List.cons.inj equal).1 start.2.2.1
    · rfl
  have unmarked : dropMark (first :: others ++ rest) = first :: others ++ rest := by
    apply dropMark_eq
    intro head byte tail equal
    have behind : others ++ rest = byte :: tail := (List.cons.inj equal).2
    cases others with
    | cons second others =>
        obtain rfl := (List.cons.inj behind).1
        exact (isHexDigit_ordinary (known second (by simp))).2.2.2
    | nil =>
        obtain rfl : rest = byte :: tail := behind
        have blank := ends byte rfl
        constructor
        · rintro rfl
          cases blank
        · rintro rfl
          cases blank
  have taken : (first :: others ++ rest).takeWhile isHexDigit = first :: others := by
    have ended : rest.takeWhile isHexDigit = [] := by
      cases rest with
      | nil => rfl
      | cons byte rest =>
          have blank := ends byte rfl
          have other : isHexDigit byte = false := by
            by_contra digit
            rw [Bool.not_eq_false] at digit
            rw [(isHexDigit_ordinary digit).1] at blank
            cases blank
          simp [other]
    rw [List.takeWhile_append_of_pos known, ended, List.append_nil]
  have inside : ¬ (first :: others = [] ∨ 4294967296 ≤ hexValue (first :: others)) := by
    simp only [List.cons_ne_nil, false_or]
    omega
  simp only [extractHex, kept, unsigned, unmarked, taken, inside, if_false, Bool.false_eq_true,
    List.drop_left]

def hexByte (value : Nat) : UInt8 :=
  if value % 16 < 10 then (48 + value % 16).toUInt8 else (55 + value % 16).toUInt8

/-- This is the text of a number with a fixed count of hexadecimal digits. -/
def hexText : Nat → Nat → Bytes
  | 0, _ => []
  | width + 1, value => hexText width (value / 16) ++ [hexByte value]

/-- A written hexadecimal digit has its value. -/
theorem hexByte_known (value : Nat) :
    isHexDigit (hexByte value) = true ∧ hexDigitValue (hexByte value) = value % 16 := by
  have all : ∀ rest < 16, isHexDigit (hexByte rest) = true ∧
      hexDigitValue (hexByte rest) = rest := by decide
  have known := all (value % 16) (Nat.mod_lt _ (by decide))
  simpa only [hexByte, Nat.mod_mod] using known

theorem hexText_isHexDigit (width value : Nat) :
    ∀ byte ∈ hexText width value, isHexDigit byte = true := by
  induction width generalizing value with
  | zero => exact fun _ none => absurd none List.not_mem_nil
  | succ width ih =>
      intro byte member
      rcases List.mem_append.mp member with earlier | last
      · exact ih _ byte earlier
      · rw [List.mem_singleton.mp last]
        exact (hexByte_known value).1

/-- The digits of a number that fits denote it. -/
theorem hexValue_hexText (width value : Nat) (fits : value < 16 ^ width) :
    hexValue (hexText width value) = value := by
  induction width generalizing value with
  | zero =>
      obtain rfl : value = 0 := by simpa using fits
      rfl
  | succ width ih =>
      have front := ih (value / 16) (by rw [Nat.pow_succ] at fits; omega)
      rw [hexValue] at front
      rw [hexText, hexValue, List.foldl_append, front, List.foldl_cons, List.foldl_nil,
        (hexByte_known value).2]
      omega

theorem hexText_ne_nil (width value : Nat) : hexText (width + 1) value ≠ [] := by
  simp [hexText]

theorem word_hexText (width value : Nat) : Word (hexText (width + 1) value) := by
  refine ⟨hexText_ne_nil width value, fun byte member => ?_⟩
  simp [(isHexDigit_ordinary (hexText_isHexDigit _ _ byte member)).1]

end LMonitor.Library

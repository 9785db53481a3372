import LMonitor.Library.Bytes
import Mathlib.Data.List.TakeWhile

namespace LMonitor

def isDigit (byte : UInt8) : Bool := 48 ≤ byte ∧ byte ≤ 57

/-- These bytes are blanks in the C locale. -/
def isSpace (byte : UInt8) : Bool := byte = 32 ∨ (9 ≤ byte ∧ byte ≤ 13)

def digit (value : Nat) : UInt8 := (48 + value % 10).toUInt8

/-- The fuel bounds the number of digits. -/
def decimalDigits : Nat → Nat → Bytes
  | 0, _ => []
  | fuel + 1, value =>
      if value < 10 then [digit value] else decimalDigits fuel (value / 10) ++ [digit value]

/-- A stream prints a natural number in base ten. -/
def decimal (value : Nat) : Bytes := decimalDigits (value + 1) value

/-- A stream prints a negative number with a minus sign. -/
def decimalInt (value : Int) : Bytes :=
  if value < 0 then ascii "-" ++ decimal value.natAbs else decimal value.natAbs

def tenPower : Nat → Nat
  | 0 => 1
  | places + 1 => 10 * tenPower places

/-- This is the number that a sequence of digits denotes. -/
def digitsValue (digits : Bytes) : Nat :=
  digits.foldl (fun value byte => 10 * value + (byte.toNat - 48)) 0

/-- The integer scan skips blanks, takes one sign and then all digits. -/
structure Scan where
  negative : Bool
  magnitude : Nat
  length : Nat
  deriving DecidableEq

def scanSign (text : Bytes) : Bool × Bytes :=
  match text with
  | 45 :: rest => (true, rest)
  | 43 :: rest => (false, rest)
  | rest => (false, rest)

/-- A text without digits has no scan. -/
def scanInteger (text : Bytes) : Option Scan :=
  let signed := scanSign (text.dropWhile isSpace)
  let digits := signed.2.takeWhile isDigit
  if digits = [] then none
  else some ⟨signed.1, digitsValue digits, text.length - (signed.2.length - digits.length)⟩

/-- `std::stoull` throws without digits and outside its range, and negates modulo 2^64. -/
def stoull (text : Bytes) : Option (UInt64 × Nat) :=
  match scanInteger text with
  | none => none
  | some scan =>
      if 18446744073709551616 ≤ scan.magnitude then none
      else
        let value := UInt64.ofNat scan.magnitude
        some (if scan.negative then 0 - value else value, scan.length)

/-- `std::stoll` throws without digits and outside the range of 64-bit numbers. -/
def stoll (text : Bytes) : Option (Int × Nat) :=
  match scanInteger text with
  | none => none
  | some scan =>
      let value : Int := if scan.negative then - (scan.magnitude : Int) else scan.magnitude
      if value < -9223372036854775808 ∨ 9223372036854775807 < value then none
      else some (value, scan.length)

/-- `std::stoi` throws without digits and outside the range of 32-bit numbers. -/
def stoi (text : Bytes) : Option (Int × Nat) :=
  match scanInteger text with
  | none => none
  | some scan =>
      let value : Int := if scan.negative then - (scan.magnitude : Int) else scan.magnitude
      if value < -2147483648 ∨ 2147483647 < value then none else some (value, scan.length)

theorem digit_isDigit (value : Nat) : isDigit (digit value) = true := by
  have small : value % 10 < 10 := Nat.mod_lt _ (by decide)
  simp only [isDigit, digit, Nat.toUInt8, decide_eq_true_eq, UInt8.le_iff_toNat_le,
    UInt8.toNat_ofNat']
  simp only [UInt8.reduceToNat]
  omega

theorem digit_toNat (value : Nat) : (digit value).toNat - 48 = value % 10 := by
  have small : value % 10 < 10 := Nat.mod_lt _ (by decide)
  simp only [digit, Nat.toUInt8, UInt8.toNat_ofNat']
  omega

theorem decimalDigits_isDigit (fuel value : Nat) :
    ∀ byte ∈ decimalDigits fuel value, isDigit byte = true := by
  induction fuel generalizing value with
  | zero => simp [decimalDigits]
  | succ fuel ih =>
      intro byte member
      simp only [decimalDigits] at member
      split at member
      · rw [List.mem_singleton.mp member]
        exact digit_isDigit value
      · rcases List.mem_append.mp member with earlier | last
        · exact ih _ byte earlier
        · rw [List.mem_singleton.mp last]
          exact digit_isDigit value

/-- The value of the digits is the number. -/
theorem digitsValue_decimalDigits (fuel value : Nat) (enough : value < fuel) :
    digitsValue (decimalDigits fuel value) = value := by
  induction fuel generalizing value with
  | zero => omega
  | succ fuel ih =>
      simp only [decimalDigits]
      split
      · simp only [digitsValue, List.foldl_cons, List.foldl_nil, digit_toNat]
        omega
      · have front := ih (value / 10) (by omega)
        simp only [digitsValue] at front
        simp only [digitsValue, List.foldl_append, List.foldl_cons, List.foldl_nil, front,
          digit_toNat]
        omega

theorem decimal_isDigit (value : Nat) : ∀ byte ∈ decimal value, isDigit byte = true :=
  decimalDigits_isDigit _ _

/-- Reading the printed digits gives the number back. -/
theorem digitsValue_decimal (value : Nat) : digitsValue (decimal value) = value :=
  digitsValue_decimalDigits _ _ (Nat.lt_succ_self _)

theorem decimal_ne_nil (value : Nat) : decimal value ≠ [] := by
  unfold decimal decimalDigits
  split <;> simp

/-- A digit is no blank, sign, separator or line end. -/
theorem isDigit_ordinary {byte : UInt8} (known : isDigit byte = true) :
    isSpace byte = false ∧ byte ≠ 45 ∧ byte ≠ 43 ∧ byte ≠ 44 ∧ byte ≠ 10 ∧ byte ≠ 13 := by
  simp only [isDigit, isSpace, decide_eq_true_eq, decide_eq_false_iff_not, ne_eq,
    UInt8.le_iff_toNat_le, ← UInt8.toNat_inj] at known ⊢
  simp only [UInt8.reduceToNat] at known ⊢
  omega

/-- A printed number starts with a digit. -/
theorem decimal_first (value : Nat) :
    ∃ first rest, decimal value = first :: rest ∧ isDigit first = true := by
  obtain ⟨first, rest, shape⟩ := List.exists_cons_of_ne_nil (decimal_ne_nil value)
  exact ⟨first, rest, shape, decimal_isDigit value first (by simp [shape])⟩

/-- The sign scan of a text without blanks finds its minus sign. -/
theorem scanSign_signed (negative : Bool) (first : UInt8) (rest : Bytes)
    (isFirst : isDigit first = true) :
    scanSign (((if negative then ascii "-" else []) ++ first :: rest).dropWhile isSpace) =
      (negative, first :: rest) := by
  obtain ⟨blank, minus, plus, _⟩ := isDigit_ordinary isFirst
  cases negative with
  | true =>
      simp only [if_true, show ascii "-" = [45] from rfl, List.singleton_append,
        List.dropWhile_cons, show isSpace 45 = false from rfl]
      rfl
  | false =>
      simp only [Bool.false_eq_true, if_false, List.nil_append, List.dropWhile_cons, blank]
      unfold scanSign
      split
      · rename_i equal
        exact absurd (List.cons.inj equal).1 minus
      · rename_i equal
        exact absurd (List.cons.inj equal).1 plus
      · rfl

/-- The scan of a printed number takes the whole text. -/
theorem scanInteger_decimalInt (value : Int) :
    scanInteger (decimalInt value) =
      some ⟨value < 0, value.natAbs, (decimalInt value).length⟩ := by
  obtain ⟨first, rest, shape, isFirst⟩ := decimal_first value.natAbs
  have digits : (decimal value.natAbs).takeWhile isDigit = decimal value.natAbs :=
    List.takeWhile_eq_self_iff.mpr (decimal_isDigit _)
  have text : decimalInt value =
      (if decide (value < 0) then ascii "-" else []) ++ decimal value.natAbs := by
    by_cases negative : value < 0 <;> simp [decimalInt, negative]
  have signed := scanSign_signed (value < 0) first rest isFirst
  rw [← shape, ← text] at signed
  simp [scanInteger, signed, digits, decimal_ne_nil, digitsValue_decimal]

theorem decimalInt_natCast (value : Nat) : decimalInt value = decimal value := by
  rw [decimalInt, if_neg (by omega), Int.natAbs_natCast]

/-- A printed unsigned number is read back in full. -/
theorem stoull_decimal (value : UInt64) :
    stoull (decimal value.toNat) = some (value, (decimal value.toNat).length) := by
  have small := value.toNat_lt
  have nonneg : ¬ ((value.toNat : Int) < 0) := by omega
  rw [← decimalInt_natCast]
  simp only [stoull, scanInteger_decimalInt, Int.natAbs_natCast]
  rw [if_neg (by omega)]
  simp [nonneg]

/-- The sign and the magnitude give the number back. -/
theorem signed_natAbs (value : Int) :
    (if value < 0 then - (value.natAbs : Int) else value.natAbs) = value := by
  split <;> omega

/-- A printed number of 64 bits is read back in full. -/
theorem stoll_decimalInt (value : Int) (lower : -9223372036854775808 ≤ value)
    (upper : value ≤ 9223372036854775807) :
    stoll (decimalInt value) = some (value, (decimalInt value).length) := by
  simp only [stoll, scanInteger_decimalInt, decide_eq_true_eq, signed_natAbs]
  rw [if_neg (by omega)]

/-- A printed number has digits and at most a minus sign. -/
theorem decimalInt_bytes (value : Int) :
    ∀ byte ∈ decimalInt value, isDigit byte = true ∨ byte = 45 := by
  intro byte member
  unfold decimalInt at member
  split at member
  · rcases List.mem_append.mp member with minus | later
    · exact .inr (by simpa [ascii] using minus)
    · exact .inl (decimal_isDigit _ byte later)
  · exact .inl (decimal_isDigit _ byte member)

/-- These bytes never occur in a printed number. -/
theorem decimalInt_ordinary (value : Int) :
    ∀ byte ∈ decimalInt value, byte ≠ 44 ∧ byte ≠ 10 ∧ byte ≠ 13 := by
  intro byte member
  rcases decimalInt_bytes value byte member with isDigit | rfl
  · exact (isDigit_ordinary isDigit).2.2.2
  · decide

end LMonitor

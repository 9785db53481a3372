import LMonitor.Library.Json
import LMonitor.Model.Double

namespace LMonitor
open Library

/-- A stream without manipulators prints a double with at most six significant digits. -/
class DoubleStream (D : Type) where
  general : D → Bytes

/-- The text of a finite double is a legal JSON number. -/
class LawfulDoubleStream (D : Type) [Double D] [DoubleStream D] : Prop where
  number_general : ∀ value : D, Double.isFinite value = true →
    Json.Number (DoubleStream.general value)

namespace GridDouble

/-- The quotient is rounded to the nearest integer, and ties round to the even one. -/
def roundEven (dividend divisor : Nat) : Nat :=
  let below := dividend / divisor
  let rest := dividend % divisor
  if 2 * rest < divisor ∨ 2 * rest = divisor ∧ below % 2 = 0 then below else below + 1

/-- These are the given number of decimals of a value counted in its last decimal. -/
def decimals : Nat → Nat → Bytes
  | 0, _ => []
  | places + 1, value => decimals places (value / 10) ++ [digit value]

/-- The general format drops trailing zeros and a point without decimals. -/
def fractionText (digits : Bytes) : Bytes :=
  match (digits.reverse.dropWhile fun byte => byte = 48).reverse with
  | [] => []
  | kept => 46 :: kept

def mantissaText (mantissa places : Nat) : Bytes :=
  decimal (mantissa / tenPower places) ++ fractionText (decimals places mantissa)

/-- An exponent has a sign and at least two digits. -/
def exponentText (exponent : Int) : Bytes :=
  let size := exponent.natAbs
  101 :: (if exponent < 0 then [45] else [43]) ++
    (if size < 10 then [48, digit size] else decimal size)

/-- The value counts units of 1/25600, so it has at most ten decimals. -/
def general (value : Int) : Bytes :=
  let scaled := 390625 * value.natAbs
  if scaled = 0 then ascii "0"
  else
    let shift := (decimal scaled).length - 6
    let rounded := roundEven scaled (tenPower shift)
    let (mantissa, shift) :=
      if rounded = 1000000 then (100000, shift + 1) else (rounded, shift)
    let sign : Bytes := if value < 0 then [45] else []
    if 1 ≤ shift ∧ shift ≤ 10 then sign ++ mantissaText mantissa (10 - shift)
    else sign ++ mantissaText mantissa 5 ++ exponentText ((shift : Int) - 5)

/-- The digits of a positive number do not start with a zero. -/
theorem decimalDigits_head (fuel value : Nat) (positive : 0 < value) (enough : value < fuel) :
    (decimalDigits fuel value).head? ≠ some 48 := by
  induction fuel generalizing value with
  | zero => omega
  | succ fuel ih =>
      simp only [decimalDigits]
      split
      · intro zero
        have read := digit_toNat value
        rw [Option.some.inj zero] at read
        simp only [UInt8.reduceToNat] at read
        omega
      · have front := ih (value / 10) (by omega) (by omega)
        cases fuel with
        | zero => omega
        | succ fuel =>
            have nonempty : decimalDigits (fuel + 1) (value / 10) ≠ [] := by
              simp only [decimalDigits]
              split <;> simp
            rwa [List.head?_append_of_ne_nil _ nonempty]

theorem integer_decimal (value : Nat) : Json.Integer (decimal value) := by
  refine ⟨⟨decimal_ne_nil value, decimal_isDigit value⟩, fun zero => ?_⟩
  rcases Nat.eq_zero_or_pos value with rfl | positive
  · decide
  · exact absurd zero (decimalDigits_head _ _ positive (Nat.lt_succ_self _))

theorem decimals_isDigit (places value : Nat) :
    ∀ byte ∈ decimals places value, isDigit byte = true := by
  induction places generalizing value with
  | zero => simp [decimals]
  | succ places ih =>
      intro byte member
      rcases List.mem_append.mp member with earlier | last
      · exact ih _ byte earlier
      · rw [List.mem_singleton.mp last]
        exact digit_isDigit value

theorem fraction_fractionText (digits : Bytes) (known : ∀ byte ∈ digits, isDigit byte = true) :
    Json.Fraction (fractionText digits) := by
  simp only [fractionText]
  split
  · exact .inl rfl
  · rename_i kept nonempty
    refine .inr ⟨_, ⟨fun empty => nonempty empty, fun byte member => known byte ?_⟩, rfl⟩
    have inner := (List.dropWhile_sublist _).mem (List.mem_reverse.mp member)
    exact List.mem_reverse.mp inner

theorem exponent_exponentText (exponent : Int) : Json.Exponent (exponentText exponent) := by
  refine .inr ⟨101, if exponent < 0 then [45] else [43],
    if exponent.natAbs < 10 then [48, digit exponent.natAbs] else decimal exponent.natAbs,
    .inl rfl, ?_, ?_, rfl⟩
  · split <;> simp
  · split
    · refine ⟨by simp, fun byte member => ?_⟩
      rcases List.mem_cons.mp member with rfl | last
      · rfl
      · rw [List.mem_singleton.mp last]
        exact digit_isDigit _
    · exact ⟨decimal_ne_nil _, decimal_isDigit _⟩

/-- The general format always writes a JSON number. -/
theorem number_general (value : Int) : Json.Number (general value) := by
  have signed : (if value < 0 then [45] else [] : Bytes) = [] ∨
      (if value < 0 then [45] else [] : Bytes) = [45] := by
    split <;> simp
  have fractional (mantissa places : Nat) :=
    fraction_fractionText _ (decimals_isDigit places mantissa)
  simp only [general]
  split
  · exact ⟨[], ascii "0", [], [], .inl rfl, by decide, .inl rfl, .inl rfl, rfl⟩
  · generalize (if roundEven _ _ = 1000000 then _ else _ : Nat × Nat) = scaled
    obtain ⟨mantissa, shift⟩ := scaled
    dsimp only
    split
    · exact ⟨_, decimal (mantissa / tenPower (10 - shift)), _, [], signed, integer_decimal _,
        fractional mantissa (10 - shift), .inl rfl, by simp [mantissaText]⟩
    · exact ⟨_, decimal (mantissa / tenPower 5), _, exponentText (shift - 5), signed,
        integer_decimal _, fractional mantissa 5, exponent_exponentText _, by simp [mantissaText]⟩

end GridDouble

instance : DoubleStream Int where
  general := GridDouble.general

instance : LawfulDoubleStream Int where
  number_general value _ := GridDouble.number_general value

example : DoubleStream.general (25633 : Int) = ascii "1.00129" := by decide

end LMonitor

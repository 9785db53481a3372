import LMonitor.Agent.TopProcesses
import LMonitor.Http.DoubleStream
import LMonitor.Library.PaddedText
import LMonitor.Serializer.DoubleText
import Mathlib.Algebra.Order.Floor.Defs
import Mathlib.Data.Rat.Floor
import Mathlib.Tactic.Linarith
import Mathlib.Tactic.Positivity

namespace LMonitor
open Library

namespace RationalDouble

/-- The exact value is rounded to the nearest hundredth, and ties round to the even one. -/
def hundredths (value : ℚ) : Nat := GridDouble.roundEven (100 * value.num.natAbs) value.den

def fixed2 (value : ℚ) : Bytes :=
  let cents := hundredths value
  (if value < 0 then ascii "-" else []) ++ decimal (cents / 100) ++ ascii "." ++
    [digit (cents / 10), digit cents]

def round2 (value : ℚ) : ℚ :=
  let rounded : ℚ := hundredths value / 100
  if value < 0 then - rounded else rounded

/-- An exponent counts only with at least one digit. -/
def scanExponent (text : Bytes) : Int × Nat :=
  match text with
  | [] => (0, 0)
  | byte :: after =>
      let signed := scanSign after
      let digits := signed.2.takeWhile isDigit
      if (byte = 101 ∨ byte = 69) ∧ digits ≠ [] then
        (if signed.1 then - (digitsValue digits : Int) else digitsValue digits,
          1 + (after.length - signed.2.length) + digits.length)
      else (0, 0)

/-- This is the value of some digits with a decimal exponent. -/
def scaled (digits : Bytes) (exponent : Int) : ℚ :=
  if 0 ≤ exponent then digitsValue digits * tenPower exponent.toNat
  else digitsValue digits / tenPower exponent.natAbs

/-- The text has blanks, a sign, digits, further digits after a point, and an exponent. -/
def stod (text : Bytes) : Option (ℚ × Nat) :=
  let signed := scanSign (text.dropWhile isSpace)
  let whole := signed.2.takeWhile isDigit
  let rest := signed.2.dropWhile isDigit
  let fraction := match rest with
    | 46 :: after => after.takeWhile isDigit
    | _ => []
  let point := match rest with
    | 46 :: _ => 1
    | _ => 0
  if whole ++ fraction = [] then none
  else
    let exponent := scanExponent (rest.drop (point + fraction.length))
    let magnitude := scaled (whole ++ fraction) (exponent.1 - fraction.length)
    some (if signed.1 then - magnitude else magnitude,
      text.length - (signed.2.length - (whole.length + point + fraction.length + exponent.2)))

/-- The digits before a point end there. -/
theorem takeWhile_point (value : Nat) (rest : Bytes) :
    (decimal value ++ 46 :: rest).takeWhile isDigit = decimal value := by
  rw [List.takeWhile_append_of_pos (decimal_isDigit value)]
  simp [show isDigit 46 = false from rfl]

theorem dropWhile_point (value : Nat) (rest : Bytes) :
    (decimal value ++ 46 :: rest).dropWhile isDigit = 46 :: rest := by
  rw [List.dropWhile_append_of_pos (decimal_isDigit value)]
  simp [show isDigit 46 = false from rfl]

/-- The scan finds the sign of a printed text and its digits. -/
theorem scanSign_fixed2 (value : ℚ) (rest : Bytes) :
    scanSign ((fixed2 value ++ rest).dropWhile isSpace) = (decide (value < 0),
      decimal (hundredths value / 100) ++
        46 :: digit (hundredths value / 10) :: digit (hundredths value) :: rest) := by
  obtain ⟨first, others, shape, isFirst⟩ := decimal_first (hundredths value / 100)
  have text : fixed2 value ++ rest = (if decide (value < 0) then ascii "-" else []) ++ first ::
      (others ++ 46 :: digit (hundredths value / 10) :: digit (hundredths value) :: rest) := by
    by_cases negative : value < 0 <;>
      simp [fixed2, negative, shape, show ascii "." = [46] from rfl]
  rw [text, shape]
  exact scanSign_signed (value < 0) first _ isFirst

/-- Two more digits make hundredths. -/
theorem digitsValue_cents (cents : Nat) :
    digitsValue (decimal (cents / 100) ++ [digit (cents / 10), digit cents]) = cents := by
  have front := digitsValue_decimal (cents / 100)
  simp only [digitsValue] at front
  simp only [digitsValue, List.foldl_append, List.foldl_cons, List.foldl_nil, front, digit_toNat]
  omega

/-- Digits and an exponent end before a blank. -/
theorem scan_blank {rest : Bytes} (ends : ∀ byte ∈ rest.head?, isSpace byte = true) :
    rest.takeWhile isDigit = [] ∧ scanExponent rest = (0, 0) := by
  cases rest with
  | nil => exact ⟨rfl, rfl⟩
  | cons byte rest =>
      have blank := ends byte rfl
      constructor
      · have other : isDigit byte ≠ true := fun known =>
          absurd (blank.symm.trans (isDigit_ordinary known).1) (by decide)
        simp [other]
      · have letter : ¬ (byte = 101 ∨ byte = 69) := by
          rintro (rfl | rfl) <;> cases blank
        simp [scanExponent, letter]

/-- A printed text before a blank reads back as the rounded value. -/
theorem stod_printed (value : ℚ) {rest : Bytes}
    (ends : ∀ byte ∈ rest.head?, isSpace byte = true) :
    stod (fixed2 value ++ rest) = some (round2 value, (fixed2 value).length) := by
  obtain ⟨ended, noExponent⟩ := scan_blank ends
  have fraction : (digit (hundredths value / 10) :: digit (hundredths value) :: rest).takeWhile
      isDigit = [digit (hundredths value / 10), digit (hundredths value)] := by
    simp [digit_isDigit, ended]
  have magnitude : scaled (decimal (hundredths value / 100) ++
      [digit (hundredths value / 10), digit (hundredths value)]) (0 - (2 : Nat)) =
        hundredths value / 100 := by
    rw [scaled, digitsValue_cents, if_neg (by decide)]
    norm_num [tenPower]
  simp only [stod, scanSign_fixed2, takeWhile_point, dropWhile_point, fraction,
    List.append_eq_nil_iff, decimal_ne_nil, false_and, if_false, List.length_cons, List.length_nil]
  rw [show (46 :: digit (hundredths value / 10) :: digit (hundredths value) :: rest : Bytes).drop
    (1 + (0 + 1 + 1)) = rest from rfl, noExponent]
  simp only [zero_add, Nat.reduceAdd, magnitude, decide_eq_true_eq, List.length_append,
    List.length_cons, round2]
  congr 2
  have longer : (decimal (hundredths value / 100)).length + 3 ≤ (fixed2 value).length := by
    simp only [fixed2, List.length_append, List.length_cons, List.length_nil]
    rw [show (ascii ".").length = 1 from rfl]
    omega
  omega

/-- A printed value contains no comma and no line ending. -/
theorem fixed2_ordinary (value : ℚ) :
    ∀ byte ∈ fixed2 value, byte ≠ 44 ∧ byte ≠ 10 ∧ byte ≠ 13 := by
  have ordinary : ∀ byte, isDigit byte = true → byte ≠ 44 ∧ byte ≠ 10 ∧ byte ≠ 13 :=
    fun byte known => (isDigit_ordinary known).2.2.2
  have symbols : ∀ byte ∈ ascii "-" ++ ascii ".", byte ≠ 44 ∧ byte ≠ 10 ∧ byte ≠ 13 :=
    List.forall_mem_cons.mpr ⟨by decide, List.forall_mem_singleton.mpr (by decide)⟩
  intro byte member
  simp only [fixed2, List.mem_append, List.mem_cons, List.not_mem_nil, or_false] at member
  rcases member with ((sign | whole) | point) | tens | ones
  · split at sign
    · exact symbols byte (List.mem_append_left _ sign)
    · exact absurd sign List.not_mem_nil
  · exact ordinary byte (decimal_isDigit _ byte whole)
  · exact symbols byte (List.mem_append_right _ point)
  · exact tens ▸ ordinary _ (digit_isDigit _)
  · exact ones ▸ ordinary _ (digit_isDigit _)

/-- The extraction of a double from a stream fails where its exponent has no digits. -/
def extractDouble : Extraction ℚ := fun text =>
  match extractNumber stod text with
  | none => none
  | some (value, rest) =>
      let taken := text.take (text.length - rest.length)
      if (rest.head? = some 101 ∨ rest.head? = some 69) ∧ 101 ∉ taken ∧ 69 ∉ taken then none
      else some (value, rest)

/-- Blanks in front of a number only make its text longer. -/
theorem stod_padded {padding : Bytes} (blank : Padding padding) (text : Bytes) :
    stod (padding ++ text) =
      (stod text).map fun (value, length) => (value, padding.length + length) := by
  have shorter : (scanSign (text.dropWhile isSpace)).2.length ≤ text.length :=
    (scanSign_length _).trans (List.dropWhile_sublist isSpace).length_le
  simp only [stod, dropWhile_padding blank, List.length_append, apply_ite (Option.map _),
    Option.map_none, Option.map_some]
  congr 3
  omega

/-- A printed number behind blanks and before a blank is extracted, and the rest stays. -/
theorem extractDouble_printed (value : ℚ) {padding rest : Bytes} (blank : Padding padding)
    (ends : ∀ byte ∈ rest.head?, isSpace byte = true) :
    extractDouble (padding ++ (fixed2 value ++ rest)) = some (round2 value, rest) := by
  have number : extractNumber stod (padding ++ (fixed2 value ++ rest)) =
      some (round2 value, rest) := by
    simp only [extractNumber, stod_padded blank, stod_printed value ends, Option.map_some]
    rw [← List.append_assoc, List.drop_left' (List.length_append ..)]
  have noLetter : ¬ (rest.head? = some 101 ∨ rest.head? = some 69) := by
    rintro (letter | letter) <;> cases ends _ letter
  simp only [extractDouble, number, noLetter, false_and, if_false]

/-- A quotient rounds to zero up to one half. -/
theorem roundEven_pos_iff {dividend divisor : Nat} (positive : 0 < divisor) :
    0 < GridDouble.roundEven dividend divisor ↔ divisor < 2 * dividend := by
  have whole := Nat.div_add_mod dividend divisor
  have small := Nat.mod_lt dividend positive
  simp only [GridDouble.roundEven]
  by_cases zero : dividend / divisor = 0
  · rw [zero] at whole ⊢
    split <;> omega
  · have one : divisor * 1 ≤ divisor * (dividend / divisor) :=
      Nat.mul_le_mul_left divisor (Nat.pos_of_ne_zero zero)
    generalize dividend / divisor = below at *
    split <;> omega

/-- Only a value above half a hundredth is printed as a positive number. -/
theorem round2_pos_iff (value : ℚ) : 0 < round2 value ↔ 1 / 200 < value := by
  simp only [round2]
  split
  · rename_i negative
    have bound : (0 : ℚ) ≤ hundredths value / 100 := by positivity
    constructor
    · intro positive
      linarith
    · intro large
      linarith
  · rename_i nonnegative
    have digits : (0 : ℚ) < hundredths value / 100 ↔ 0 < hundredths value := by
      rw [div_pos_iff_of_pos_right (by norm_num), Nat.cast_pos]
    have size : (value.num.natAbs : Int) = value.num :=
      Int.natAbs_of_nonneg (Rat.num_nonneg.mpr (not_lt.mp nonnegative))
    have bound : (1 / 200 : ℚ).num = 1 ∧ (1 / 200 : ℚ).den = 200 := by decide +kernel
    rw [digits, hundredths, roundEven_pos_iff value.den_pos, Rat.lt_iff, bound.1, bound.2]
    omega

theorem roundEven_mul (value : Nat) {divisor : Nat} (positive : 0 < divisor) :
    GridDouble.roundEven (value * divisor) divisor = value := by
  simp [GridDouble.roundEven, Nat.mul_div_cancel _ positive, positive]

/-- Two decimals are enough for hundredths. -/
theorem round2_hundredths (cents : Nat) : round2 (cents / 100) = cents / 100 := by
  have nonnegative : ¬ (cents / 100 : ℚ) < 0 := not_lt.mpr (by positivity)
  have exact : hundredths (cents / 100) = cents := by
    rw [hundredths]
    generalize shape : (cents / 100 : ℚ) = value at nonnegative
    have size : (value.num.natAbs : Int) = value.num :=
      Int.natAbs_of_nonneg (Rat.num_nonneg.mpr (not_lt.mp nonnegative))
    have whole : (100 * value.num : ℚ) = cents * value.den := by
      rw [← Rat.mul_den_eq_num, ← shape]
      ring
    have numerator : 100 * value.num.natAbs = cents * value.den := by
      have integers : 100 * value.num = cents * value.den := by exact_mod_cast whole
      rw [← size] at integers
      exact_mod_cast integers
    rw [numerator, roundEven_mul cents value.den_pos]
  simp only [round2, nonnegative, if_false, exact]

end RationalDouble

instance : DoubleText ℚ where
  fixed2 := RationalDouble.fixed2
  stod := RationalDouble.stod
  round2 := RationalDouble.round2

instance : LawfulDoubleText ℚ where
  finite_ofNat _ := rfl
  le_eq_not_lt left right _ _ := (decide_eq_decide.mpr not_lt.symm).trans decide_not
  fixed2_ne_nil value := by simp [DoubleText.fixed2, RationalDouble.fixed2]
  fixed2_ordinary := RationalDouble.fixed2_ordinary
  stod_fixed2 value := by
    have noRest : ∀ byte ∈ ([] : Bytes).head?, isSpace byte = true := fun byte none => by cases none
    have printed := RationalDouble.stod_printed value noRest
    rwa [List.append_nil] at printed
  finite_round2 _ := rfl

example : DoubleText.fixed2 (-25 / 200 : ℚ) = ascii "-0.12" := by decide +kernel

end LMonitor

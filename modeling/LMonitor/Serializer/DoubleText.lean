import LMonitor.Library.Decimal
import LMonitor.Model.Double
import Mathlib.Tactic.Set

namespace LMonitor

/-- Streams print doubles with two fixed decimals, `std::stod` reads a double and the length of
its text or throws, and rounding gives the double that the printed text denotes. -/
class DoubleText (D : Type) extends Double D where
  fixed2 : D → Bytes
  stod : Bytes → Option (D × Nat)
  round2 : D → D

/-- The printed text of a double is read back whole as the rounded double. -/
class LawfulDoubleText (D : Type) [DoubleText D] : Prop extends LawfulDouble D where
  fixed2_ne_nil : ∀ value : D, DoubleText.fixed2 value ≠ []
  fixed2_ordinary : ∀ value : D, ∀ byte ∈ DoubleText.fixed2 value,
    byte ≠ 44 ∧ byte ≠ 10 ∧ byte ≠ 13
  stod_fixed2 : ∀ value : D, DoubleText.stod (DoubleText.fixed2 value) =
    some (DoubleText.round2 value, (DoubleText.fixed2 value).length)
  finite_round2 : ∀ value : D,
    Double.isFinite (DoubleText.round2 value) = Double.isFinite value

namespace GridDouble

/-- One hundredth is 256 units, and ties round to the even hundredth. -/
def hundredths (units : Nat) : Nat :=
  let below := units / 256
  let rest := units % 256
  if rest < 128 ∨ rest = 128 ∧ below % 2 = 0 then below else below + 1

def fixed2 (value : Int) : Bytes :=
  let cents := hundredths value.natAbs
  (if value < 0 then ascii "-" else []) ++ decimal (cents / 100) ++ ascii "." ++
    [digit (cents / 10), digit cents]

def round2 (value : Int) : Int :=
  let units : Int := 256 * hundredths value.natAbs
  if value < 0 then - units else units

/-- The text has blanks, a sign, digits, and further digits after a point. -/
def stod (text : Bytes) : Option (Int × Nat) :=
  let signed := scanSign (text.dropWhile isSpace)
  let whole := signed.2.takeWhile isDigit
  let rest := signed.2.dropWhile isDigit
  let fraction := match rest with
    | 46 :: after => after.takeWhile isDigit
    | _ => []
  let point := match rest with
    | 46 :: _ => 1
    | _ => 0
  if whole ++ fraction = [] then none
  else
    let units : Int := 25600 * digitsValue (whole ++ fraction) / tenPower fraction.length
    some (if signed.1 then - units else units,
      text.length - (signed.2.length - (whole.length + point + fraction.length)))

/-- The printed text reads back as the rounded value. -/
theorem stod_fixed2 (value : Int) :
    stod (fixed2 value) = some (round2 value, (fixed2 value).length) := by
  set cents := hundredths value.natAbs with centsEq
  obtain ⟨first, rest, shape, isFirst⟩ := decimal_first (cents / 100)
  have text : fixed2 value = (if decide (value < 0) then ascii "-" else []) ++
      first :: (rest ++ 46 :: [digit (cents / 10), digit cents]) := by
    by_cases negative : value < 0 <;>
      simp [fixed2, negative, ← centsEq, shape, show ascii "." = [46] from rfl]
  have signed := scanSign_signed (value < 0) first
    (rest ++ 46 :: [digit (cents / 10), digit cents]) isFirst
  rw [← text, ← List.cons_append, ← shape] at signed
  have digits := decimal_isDigit (cents / 100)
  have taken :
      (decimal (cents / 100) ++ 46 :: [digit (cents / 10), digit cents]).takeWhile isDigit =
        decimal (cents / 100) := by
    rw [List.takeWhile_append_of_pos digits]
    simp [show isDigit 46 = false from rfl]
  have dropped :
      (decimal (cents / 100) ++ 46 :: [digit (cents / 10), digit cents]).dropWhile isDigit =
        46 :: [digit (cents / 10), digit cents] := by
    rw [List.dropWhile_append_of_pos digits]
    simp [show isDigit 46 = false from rfl]
  have fraction : [digit (cents / 10), digit cents].takeWhile isDigit =
      [digit (cents / 10), digit cents] := by
    simp [digit_isDigit]
  have front := digitsValue_decimal (cents / 100)
  have value100 :
      digitsValue (decimal (cents / 100) ++ [digit (cents / 10), digit cents]) = cents := by
    simp only [digitsValue] at front
    simp only [digitsValue, List.foldl_append, List.foldl_cons, List.foldl_nil, front, digit_toNat]
    omega
  simp only [stod, signed, taken, dropped, fraction, value100]
  simp only [List.append_eq_nil_iff, decimal_ne_nil, false_and, if_false, List.length_append,
    List.length_cons, List.length_nil, round2, ← centsEq, decide_eq_true_eq]
  have units : 25600 * (cents : Int) / tenPower (0 + 1 + 1) = 256 * cents := by
    simp only [tenPower]
    omega
  rw [units]
  congr 2
  omega

theorem fixed2_ordinary (value : Int) :
    ∀ byte ∈ fixed2 value, byte ≠ 44 ∧ byte ≠ 10 ∧ byte ≠ 13 := by
  have ordinary : ∀ byte, isDigit byte = true → byte ≠ 44 ∧ byte ≠ 10 ∧ byte ≠ 13 :=
    fun byte known => (isDigit_ordinary known).2.2.2
  intro byte member
  simp only [fixed2, List.mem_append, List.mem_cons, List.not_mem_nil, or_false] at member
  rcases member with ((sign | whole) | point) | tens | ones
  · split at sign
    · obtain rfl : byte = 45 := by simpa [ascii] using sign
      decide
    · simp at sign
  · exact ordinary byte (decimal_isDigit _ byte whole)
  · obtain rfl : byte = 46 := by simpa [ascii] using point
    decide
  · exact tens ▸ ordinary _ (digit_isDigit _)
  · exact ones ▸ ordinary _ (digit_isDigit _)

end GridDouble

instance : DoubleText Int where
  fixed2 := GridDouble.fixed2
  stod := GridDouble.stod
  round2 := GridDouble.round2

instance : LawfulDoubleText Int where
  fixed2_ne_nil value := by simp [DoubleText.fixed2, GridDouble.fixed2]
  fixed2_ordinary := GridDouble.fixed2_ordinary
  stod_fixed2 := GridDouble.stod_fixed2
  finite_round2 _ := rfl

example : DoubleText.fixed2 (320025 : Int) = ascii "12.50" := by decide

end LMonitor

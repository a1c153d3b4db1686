import ArisCloud.Library.Floating

/-! # Decimals in a context

Decimal arithmetic computes with numbers and with a value that is none. By default it rounds every
result to 28 digits, ties to the even last one, signals a zero divisor, and signals as invalid what
has no answer or does not fit. Infinite values and the bounds of exponents are left out: amounts
that were rounded to hundredths do not come near them.
-/

namespace DecimalContext

open Decimals (roundHalfEven IsCents)

inductive Decimal
  | number (value : ℚ)
  | notANumber
deriving DecidableEq, Repr

inductive Signal
  | divisionByZero
  | invalidOperation
deriving DecidableEq, Repr

/-- The nearest number of 28 digits. -/
def toContext (value : ℚ) : ℚ := Floating.round 10 28 value

/-- The hundredths of a value have no more than 28 digits. -/
def FitsHundredths (value : ℚ) : Prop := |roundHalfEven (value * 100)| < 10 ^ 28

instance (value : ℚ) : Decidable (FitsHundredths value) := inferInstanceAs (Decidable (_ < _))

namespace Decimal

/-- An operation on numbers, rounded; without a number there is no number. -/
def compute (operation : ℚ → ℚ → ℚ) : Decimal → Decimal → Decimal
  | .number left, .number right => .number (toContext (operation left right))
  | _, _ => .notANumber

def add (left right : Decimal) : Decimal := compute (· + ·) left right

def subtract (left right : Decimal) : Decimal := compute (· - ·) left right

def multiply (left right : Decimal) : Decimal := compute (· * ·) left right

/-- A quotient; nothing is signaled when one of the two is no number. -/
def divide : Decimal → Decimal → Except Signal Decimal
  | .number value, .number divisor =>
    if divisor = 0 then throw (if value = 0 then .invalidOperation else .divisionByZero)
    else return .number (toContext (value / divisor))
  | _, _ => return .notANumber

/-- Two decimal places, which have to fit. -/
def quantize : Decimal → Except Signal Decimal
  | .number value =>
    if FitsHundredths value then return .number (Decimals.quantize value)
    else throw .invalidOperation
  | .notANumber => return .notANumber

def ceiling : Decimal → Decimal
  | .number value => .number ⌈value⌉
  | .notANumber => .notANumber

/-- A comparison with zero, which takes a number. -/
def isPositive : Decimal → Except Signal Bool
  | .number value => return 0 < value
  | .notANumber => throw .invalidOperation

/-- What can be quantized. -/
def Fits : Decimal → Prop
  | .number value => FitsHundredths value
  | .notANumber => True

/-- What was quantized: a number of hundredths that fits, or no number. -/
def Settled : Decimal → Prop
  | .number value => ∃ hundredths : ℤ, |hundredths| < 10 ^ 28 ∧ value = hundredths / 100
  | .notANumber => True

end Decimal

/-! ## Rounding to the context -/

section

variable {value : ℚ} {left right amount quantized : Decimal}

theorem toContext_eq_zero_iff : toContext value = 0 ↔ value = 0 :=
  Floating.round_eq_zero_iff (by norm_num) (by norm_num)

/-- A number with at most 28 digits is not rounded. -/
theorem toContext_of_digits {digits : ℤ} (exponent : ℤ) (few : |digits| < 10 ^ 28)
    (written : value = digits * 10 ^ exponent) : toContext value = value :=
  Floating.round_of_digits (by norm_num) exponent (by exact_mod_cast few)
    (by exact_mod_cast written)

theorem toContext_of_hundredths {hundredths : ℤ} (few : |hundredths| < 10 ^ 28) :
    toContext (hundredths / 100) = hundredths / 100 :=
  toContext_of_digits (-2) few (by rw [zpow_neg, div_eq_mul_inv]; norm_num)

private theorem fitsHundredths_intCast_div {hundredths : ℤ} :
    FitsHundredths (hundredths / 100) ↔ |hundredths| < 10 ^ 28 := by
  rw [FitsHundredths, div_mul_cancel₀ _ (by norm_num), Decimals.roundHalfEven_intCast]

/-- Hundredths fit after they are rounded to the context exactly when they fit before. -/
theorem quantize_toContext (hundredths : ℤ) :
    (Decimal.number (toContext (hundredths / 100))).quantize =
      if |hundredths| < 10 ^ 28 then .ok (.number (hundredths / 100))
      else .error .invalidOperation := by
  split
  · next few =>
    rw [toContext_of_hundredths few, Decimal.quantize, if_pos (fitsHundredths_intCast_div.mpr few),
      Decimals.quantize_of_isCents ⟨hundredths, rfl⟩]
    rfl
  · next many =>
    have large : (10 : ℚ) ^ (26 : ℤ) ≤ |(hundredths / 100 : ℚ)| := by
      have digits : ((10 ^ 28 : ℤ) : ℚ) ≤ |(hundredths : ℚ)| := by exact_mod_cast not_lt.mp many
      rw [abs_div, le_div_iff₀ (by norm_num)]
      norm_num at digits ⊢
      exact digits
    have kept : (10 : ℚ) ^ (26 : ℤ) ≤ |toContext (hundredths / 100)| :=
      Floating.zpow_le_abs_round (by norm_num) (by norm_num) 26 large
    have scaled : ((10 ^ 28 : ℤ) : ℚ) ≤ |toContext (hundredths / 100) * 100| := by
      rw [abs_mul]
      norm_num at kept ⊢
      linarith
    have unfit : ¬ FitsHundredths (toContext (hundredths / 100)) :=
      not_lt.mpr (Floating.le_abs_roundHalfEven scaled)
    rw [Decimal.quantize, if_neg unfit]
    rfl

/-- Rounding to the context goes at most half a unit of the last digit away. -/
theorem abs_toContext_sub_le (value : ℚ) : |toContext value - value| * (2 * 10 ^ 27) ≤ |value| := by
  have near := @Floating.abs_round_sub_le 10 28 value (by norm_num) (by norm_num)
  exact_mod_cast near

/-- The same for a quotient, in parts of its divisor. -/
private theorem abs_toContext_div_sub_le (dividend : ℚ) {divisor : ℚ} (positive : 0 < divisor) :
    |toContext (dividend / divisor) - dividend / divisor| * divisor * (2 * 10 ^ 27) ≤
      |dividend| := by
  have error := abs_toContext_sub_le (dividend / divisor)
  rw [abs_div, abs_of_pos positive, le_div_iff₀ positive] at error
  linarith

/-- A quotient of integers that is half way between two hundredths is not rounded. -/
private theorem toContext_of_tie {dividend divisor whole : ℤ} (positive : 0 < divisor)
    (bounded : |dividend| < 10 ^ 25) (tie : |(dividend / divisor * 100 - whole : ℚ)| = 1 / 2) :
    toContext (dividend / divisor) = dividend / divisor := by
  have above : (0 : ℚ) < divisor := by exact_mod_cast positive
  obtain ⟨odd, isOdd⟩ : ∃ odd : ℤ, (dividend / divisor : ℚ) = odd / 200 := by
    rcases (abs_eq (by norm_num)).mp tie with up | down
    · exact ⟨2 * whole + 1, by push_cast; linarith⟩
    · exact ⟨2 * whole - 1, by push_cast; linarith⟩
  have few : |5 * odd| < 10 ^ 28 := by
    have product : odd * divisor = 200 * dividend := by
      rw [div_eq_div_iff above.ne' (by norm_num)] at isOdd
      have turned : (dividend : ℚ) * 200 = odd * divisor := isOdd
      have whole : dividend * 200 = odd * divisor := by exact_mod_cast turned
      omega
    have size : |odd| * divisor = 200 * |dividend| := by
      rw [← abs_of_pos positive, ← abs_mul, product, abs_mul]
      rfl
    have five : |5 * odd| = 5 * |odd| := abs_mul 5 odd
    have atMost : |odd| ≤ |odd| * divisor := le_mul_of_one_le_right (abs_nonneg odd) positive
    omega
  refine toContext_of_digits (-3) few ?_
  rw [isOdd, zpow_neg]
  push_cast
  norm_num
  ring

/-- A quotient of integers that is not too large may be rounded to the context before it is rounded
to hundredths: it is half way between two of them, or too far from there. -/
theorem roundHalfEven_toContext_div {dividend divisor : ℤ} (positive : 0 < divisor)
    (bounded : |dividend| < 10 ^ 25) :
    roundHalfEven (toContext (dividend / divisor) * 100) =
      roundHalfEven (dividend / divisor * 100 : ℚ) := by
  have above : (0 : ℚ) < divisor := by exact_mod_cast positive
  rcases Decimals.nearest_roundHalfEven (dividend / divisor * 100 : ℚ) with near | ⟨tie, _⟩
  swap
  · rw [toContext_of_tie positive bounded tie]
  rw [Decimals.roundHalfEven_eq_iff]
  left
  generalize roundHalfEven (dividend / divisor * 100 : ℚ) = whole at near ⊢
  -- In units of the divisor the quotient is an integer away from the tie, and rounding less.
  have apart : 2 * |(100 * dividend - whole * divisor : ℚ)| ≤ divisor - 1 := by
    have scaled : (100 * dividend - whole * divisor : ℚ) =
        (dividend / divisor * 100 - whole) * divisor := by
      field_simp
    have less : 2 * |(100 * dividend - whole * divisor : ℚ)| < divisor := by
      rw [scaled, abs_mul, abs_of_pos above]
      have := mul_lt_mul_of_pos_right near above
      linarith
    have integers : 2 * |100 * dividend - whole * divisor| < divisor := by exact_mod_cast less
    exact_mod_cast Int.le_sub_one_of_lt integers
  have rounding : 200 * (|toContext (dividend / divisor) - dividend / divisor| * divisor) < 1 := by
    have error := abs_toContext_div_sub_le dividend above
    have small : |(dividend : ℚ)| < 10 ^ 25 := by exact_mod_cast bounded
    linarith
  have triangle : |toContext (dividend / divisor) * 100 - whole| * divisor ≤
      |(100 * dividend - whole * divisor : ℚ)| +
        100 * (|toContext (dividend / divisor) - dividend / divisor| * divisor) := by
    have split : (toContext (dividend / divisor) * 100 - whole) * divisor =
        (100 * dividend - whole * divisor) +
          100 * ((toContext (dividend / divisor) - dividend / divisor) * divisor) := by
      field_simp
      ring
    calc
      _ = |(toContext (dividend / divisor) * 100 - whole) * divisor| := by
        rw [abs_mul, abs_of_pos above]
      _ ≤ _ := by
        rw [split]
        refine (abs_add_le _ _).trans_eq ?_
        rw [abs_mul, abs_mul, abs_of_pos above]
        rfl
  rw [← mul_lt_mul_iff_left₀ above]
  linarith

/-- What is less than one part away from a quotient that is not whole has the same ceiling. -/
private theorem ceil_eq_of_near {dividend divisor : ℤ} {near : ℚ} (positive : 0 < divisor)
    (broken : ∀ whole : ℤ, (dividend / divisor : ℚ) ≠ whole)
    (close : |near - dividend / divisor| * divisor < 1) : ⌈near⌉ = ⌈(dividend / divisor : ℚ)⌉ := by
  have above : (0 : ℚ) < divisor := by exact_mod_cast positive
  have ceiling := Int.le_ceil (dividend / divisor : ℚ)
  have below := Int.ceil_lt_add_one (dividend / divisor : ℚ)
  have strict := lt_of_le_of_ne ceiling (broken _)
  generalize ⌈(dividend / divisor : ℚ)⌉ = whole at below strict ⊢
  have upper : dividend + 1 ≤ whole * divisor := by
    rw [div_lt_iff₀ above] at strict
    exact_mod_cast strict
  have lower : (whole - 1) * divisor + 1 ≤ dividend := by
    rw [← sub_lt_iff_lt_add, lt_div_iff₀ above] at below
    exact_mod_cast below
  have upper : (dividend + 1 : ℚ) ≤ whole * divisor := by exact_mod_cast upper
  have lower : ((whole - 1) * divisor + 1 : ℚ) ≤ dividend := by exact_mod_cast lower
  have scaled : |near * divisor - dividend| < 1 := by
    have split : near * divisor - dividend = (near - dividend / divisor) * divisor := by field_simp
    rwa [split, abs_mul, abs_of_pos above]
  obtain ⟨left, right⟩ := abs_lt.mp scaled
  rw [Int.ceil_eq_iff]
  constructor
  · refine lt_of_mul_lt_mul_right ?_ above.le
    linarith
  · refine le_of_mul_le_mul_right ?_ above
    linarith

/-- What is near enough to a quotient that is not too large stays near it in the context. -/
private theorem abs_toContext_near_sub_lt {dividend divisor : ℤ} {near : ℚ} (positive : 0 < divisor)
    (bounded : |dividend| < 10 ^ 26) (close : |near - dividend / divisor| * divisor < 1 / 10) :
    |toContext near - dividend / divisor| * divisor < 1 := by
  have above : (0 : ℚ) < divisor := by exact_mod_cast positive
  have small : |(dividend : ℚ)| < 10 ^ 26 := by exact_mod_cast bounded
  have size : |near| * divisor < 10 ^ 26 + 1 := by
    have triangle := abs_add_le (near - dividend / divisor) (dividend / divisor : ℚ)
    rw [sub_add_cancel] at triangle
    have parts : |(dividend / divisor : ℚ)| * divisor = |(dividend : ℚ)| := by
      rw [abs_div, abs_of_pos above, div_mul_cancel₀ _ above.ne']
    have scaled := mul_le_mul_of_nonneg_right triangle above.le
    linarith
  have error := mul_le_mul_of_nonneg_right (abs_toContext_sub_le near) above.le
  have triangle := abs_add_le (toContext near - near) (near - dividend / divisor)
  rw [sub_add_sub_cancel] at triangle
  have scaled := mul_le_mul_of_nonneg_right triangle above.le
  linarith

section

variable {numerator denominator hundredths : ℤ}

/-- A whole number of steps of hundredths has few digits, and so has the fraction that takes them. -/
private theorem toContext_of_wholeSteps {steps : ℤ} (positive : 0 < denominator)
    (step : 0 < hundredths) (bounded : |numerator| < 10 ^ 24)
    (isWhole : (numerator / denominator / (hundredths / 100) : ℚ) = steps) :
    toContext (numerator / denominator) = numerator / denominator ∧
      toContext (steps : ℚ) = steps := by
  have below : (0 : ℚ) < denominator := by exact_mod_cast positive
  have above : (0 : ℚ) < hundredths := by exact_mod_cast step
  have fraction : (numerator / denominator : ℚ) = ((steps * hundredths : ℤ) : ℚ) / 100 := by
    rw [div_eq_iff (by positivity)] at isWhole
    rw [isWhole]
    push_cast
    ring
  have product : steps * hundredths * denominator = 100 * numerator := by
    rw [div_eq_div_iff below.ne' (by norm_num)] at fraction
    have turned : numerator * 100 = steps * hundredths * denominator := by exact_mod_cast fraction
    omega
  have size : |steps * hundredths| * denominator = 100 * |numerator| := by
    rw [← abs_of_pos positive, ← abs_mul, product, abs_mul]
    rfl
  have fewer : |steps * hundredths| ≤ |steps * hundredths| * denominator :=
    le_mul_of_one_le_right (abs_nonneg _) positive
  have fewest : |steps| ≤ |steps * hundredths| := by
    rw [abs_mul, abs_of_pos step]
    exact le_mul_of_one_le_right (abs_nonneg _) step
  constructor
  · rw [fraction]
    exact toContext_of_hundredths (by omega)
  · have few : |steps| < 10 ^ 28 := by omega
    exact toContext_of_digits 0 few (by simp)

/-- Rounding a fraction moves the number of steps it takes by less than a tenth of a part. -/
private theorem abs_steps_toContext_sub_lt (positive : 0 < denominator) (step : 0 < hundredths)
    (bounded : |numerator| < 10 ^ 24) :
    |toContext (numerator / denominator) / (hundredths / 100) -
      numerator / denominator / (hundredths / 100)| * (denominator * hundredths) < 1 / 10 := by
  have below : (0 : ℚ) < denominator := by exact_mod_cast positive
  have above : (0 : ℚ) < hundredths := by exact_mod_cast step
  have small : |(numerator : ℚ)| < 10 ^ 24 := by exact_mod_cast bounded
  have error := abs_toContext_div_sub_le numerator below
  have scaled : |toContext (numerator / denominator) / (hundredths / 100) -
      numerator / denominator / (hundredths / 100)| * (denominator * hundredths) =
        100 * (|toContext (numerator / denominator) - numerator / denominator| * denominator) := by
    rw [← sub_div, abs_div, abs_of_pos (by positivity : (0 : ℚ) < hundredths / 100)]
    field_simp
  rw [scaled]
  linarith

/-- How many steps of hundredths a fraction takes shows although the fraction is rounded to the
context, and so is their quotient, when the numbers are not too large. -/
theorem ceil_toContext_steps (positive : 0 < denominator) (step : 0 < hundredths)
    (bounded : |numerator| < 10 ^ 24) :
    ⌈toContext (toContext (numerator / denominator) / (hundredths / 100))⌉ =
        ⌈(numerator / denominator / (hundredths / 100) : ℚ)⌉ ∧
      ⌈toContext (numerator / denominator) / (hundredths / 100)⌉ =
        ⌈(numerator / denominator / (hundredths / 100) : ℚ)⌉ := by
  by_cases whole : ∃ steps : ℤ, (numerator / denominator / (hundredths / 100) : ℚ) = steps
  · -- Nothing is rounded.
    obtain ⟨steps, isWhole⟩ := whole
    obtain ⟨fraction, integer⟩ := toContext_of_wholeSteps positive step bounded isWhole
    rw [fraction, isWhole, integer]
    exact ⟨rfl, rfl⟩
  · -- Both roundings together go less than one part of the quotient away.
    have below : (0 : ℚ) < denominator := by exact_mod_cast positive
    have above : (0 : ℚ) < hundredths := by exact_mod_cast step
    have quotient : (numerator / denominator / (hundredths / 100) : ℚ) =
        ((100 * numerator : ℤ) : ℚ) / ((denominator * hundredths : ℤ) : ℚ) := by
      push_cast
      field_simp
    have several : 0 < denominator * hundredths := mul_pos positive step
    have broken : ∀ steps : ℤ,
        (((100 * numerator : ℤ) : ℚ) / ((denominator * hundredths : ℤ) : ℚ)) ≠ steps :=
      fun steps isWhole => whole ⟨steps, quotient.trans isWhole⟩
    have size : |100 * numerator| < 10 ^ 26 := by
      have hundred : |100 * numerator| = 100 * |numerator| := abs_mul 100 numerator
      omega
    have close := abs_steps_toContext_sub_lt positive step bounded
    rw [quotient, ← Int.cast_mul] at close
    rw [quotient]
    exact ⟨ceil_eq_of_near several broken (abs_toContext_near_sub_lt several size close),
      ceil_eq_of_near several broken (by linarith)⟩

end

/-! ## Quantizing -/

theorem quantize_eq_ok_iff_fits : (∃ quantized, amount.quantize = .ok quantized) ↔ amount.Fits := by
  cases amount with
  | notANumber => exact iff_of_true ⟨_, rfl⟩ trivial
  | number value =>
    rw [Decimal.quantize, Decimal.Fits]
    split
    · next fits => exact iff_of_true ⟨_, rfl⟩ fits
    · next unfit => exact iff_of_false (fun ⟨_, never⟩ => nomatch never) unfit

/-- What was quantized is settled. -/
theorem Decimal.Settled.of_quantize (success : amount.quantize = .ok quantized) :
    quantized.Settled := by
  cases amount with
  | notANumber =>
    obtain rfl := Except.ok.inj success
    trivial
  | number value =>
    rw [Decimal.quantize] at success
    split at success
    · next fits =>
      obtain rfl := Except.ok.inj success
      exact ⟨roundHalfEven (value * 100), fits, rfl⟩
    · exact nomatch success

/-- What is settled is quantized to itself. -/
theorem Decimal.Settled.quantize_eq (settled : amount.Settled) : amount.quantize = .ok amount := by
  cases amount with
  | notANumber => rfl
  | number value =>
    obtain ⟨hundredths, few, rfl⟩ := settled
    rw [Decimal.quantize, if_pos (fitsHundredths_intCast_div.mpr few),
      Decimals.quantize_of_isCents ⟨hundredths, rfl⟩]
    rfl

end

end DecimalContext

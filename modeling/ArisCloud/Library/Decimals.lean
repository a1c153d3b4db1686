import Mathlib.Data.Rat.Floor
import Mathlib.Tactic.Linarith
import Mathlib.Tactic.FieldSimp

/-! # Decimal amounts rounded to hundredths

Exact decimals are rationals. `quantize` rounds to two places with ties to the even hundredth, as
decimal arithmetic does by default; `storeNumeric` rounds ties away from zero, as a numeric column
of scale two does. An amount is a number of hundredths exactly when rounding leaves it unchanged,
and such amounts are closed under sums and integer multiples. `hundredthsOff` says how far rounding
goes, and `roundUpTo` rounds up to a multiple of a step.
-/

namespace Decimals

/-- The nearest integer, ties to even. -/
def roundHalfEven (value : ℚ) : ℤ :=
  let rest := value - ⌊value⌋
  if rest < 1 / 2 then ⌊value⌋
  else if 1 / 2 < rest then ⌊value⌋ + 1
  else if ⌊value⌋ % 2 = 0 then ⌊value⌋ else ⌊value⌋ + 1

/-- Two decimal places, ties to even. -/
def quantize (value : ℚ) : ℚ := roundHalfEven (value * 100) / 100

/-- Two decimal places, ties away from zero. -/
def storeNumeric (value : ℚ) : ℚ :=
  if 0 ≤ value then (⌊value * 100 + 1 / 2⌋ : ℚ) / 100 else (⌈value * 100 - 1 / 2⌉ : ℚ) / 100

/-- A whole number of hundredths. -/
def IsCents (value : ℚ) : Prop := ∃ cents : ℤ, value = cents / 100

@[simp] theorem roundHalfEven_intCast (n : ℤ) : roundHalfEven n = n := by
  simp [roundHalfEven]

theorem roundHalfEven_nonneg {value : ℚ} (nonneg : 0 ≤ value) : 0 ≤ roundHalfEven value := by
  have floor : 0 ≤ ⌊value⌋ := Int.floor_nonneg.mpr nonneg
  simp only [roundHalfEven]
  split_ifs <;> omega

theorem quantize_of_isCents {value : ℚ} (cents : IsCents value) : quantize value = value := by
  obtain ⟨n, rfl⟩ := cents
  have scaled : (n : ℚ) / 100 * 100 = n := by field_simp
  rw [quantize, scaled, roundHalfEven_intCast]

theorem quantize_nonneg {value : ℚ} (nonneg : 0 ≤ value) : 0 ≤ quantize value := by
  have rounded : 0 ≤ roundHalfEven (value * 100) := roundHalfEven_nonneg (by linarith)
  rw [quantize]
  exact div_nonneg (by exact_mod_cast rounded) (by norm_num)

theorem isCents_storeNumeric (value : ℚ) : IsCents (storeNumeric value) := by
  rw [storeNumeric]
  split_ifs
  · exact ⟨_, rfl⟩
  · exact ⟨_, rfl⟩

theorem storeNumeric_of_isCents {value : ℚ} (cents : IsCents value) :
    storeNumeric value = value := by
  obtain ⟨n, rfl⟩ := cents
  have scaled : (n : ℚ) / 100 * 100 = n := by field_simp
  have half : (0 : ℚ) ≤ 1 / 2 ∧ (1 / 2 : ℚ) < 1 := by norm_num
  have up : ⌊(n : ℚ) + 1 / 2⌋ = n := Int.floor_eq_iff.mpr ⟨by linarith, by linarith⟩
  have down : ⌈(n : ℚ) - 1 / 2⌉ = n := Int.ceil_eq_iff.mpr ⟨by linarith, by linarith⟩
  rw [storeNumeric, scaled, up, down, ite_self]

theorem storeNumeric_nonneg {value : ℚ} (nonneg : 0 ≤ value) : 0 ≤ storeNumeric value := by
  have floor : 0 ≤ ⌊value * 100 + 1 / 2⌋ := Int.floor_nonneg.mpr (by linarith)
  rw [storeNumeric, if_pos nonneg]
  exact div_nonneg (by exact_mod_cast floor) (by norm_num)

theorem IsCents.mul_intCast {value : ℚ} (cents : IsCents value) (n : ℤ) : IsCents (value * n) := by
  obtain ⟨m, rfl⟩ := cents
  exact ⟨m * n, by push_cast; ring⟩

/-! ## The nearest integer -/

/-- An integer that is nearer to a value than any other, or half way to the next one and even. -/
def Nearest (value : ℚ) (n : ℤ) : Prop := |value - n| < 1 / 2 ∨ |value - n| = 1 / 2 ∧ n % 2 = 0

/-- Rounding finds the nearest integer. -/
theorem nearest_roundHalfEven (value : ℚ) : Nearest value (roundHalfEven value) := by
  have below := Int.floor_le value
  have above := Int.lt_floor_add_one value
  simp only [roundHalfEven]
  split_ifs with lower upper even
  · left
    rw [abs_lt]
    constructor <;> linarith
  · left
    push_cast
    rw [abs_lt]
    constructor <;> linarith
  · right
    rw [abs_of_nonneg (by linarith)]
    exact ⟨by linarith, even⟩
  · right
    push_cast
    rw [abs_of_nonpos (by linarith)]
    exact ⟨by linarith, by omega⟩

theorem Nearest.unique {value : ℚ} {n m : ℤ} (first : Nearest value n) (second : Nearest value m) :
    n = m := by
  have triangle : |((n - m : ℤ) : ℚ)| ≤ |value - n| + |value - m| := by
    have turned : ((n - m : ℤ) : ℚ) = (value - m) - (value - n) := by push_cast; ring
    rw [turned, add_comm]
    exact abs_sub _ _
  by_cases ties : |value - n| = 1 / 2 ∧ |value - m| = 1 / 2
  · have apart : |((n - m : ℤ) : ℚ)| ≤ 1 := by linarith
    have near : |n - m| ≤ 1 := by exact_mod_cast apart
    obtain ⟨lower, upper⟩ := abs_le.mp near
    have even (k : ℤ) (nearest : Nearest value k) (tie : |value - k| = 1 / 2) : k % 2 = 0 :=
      nearest.elim (fun less => absurd tie less.ne) (·.2)
    have := even n first ties.1
    have := even m second ties.2
    omega
  · have apart : |((n - m : ℤ) : ℚ)| < 1 := by
      rcases first with first | ⟨first, _⟩ <;> rcases second with second | ⟨second, _⟩
      · linarith
      · linarith
      · linarith
      · exact absurd ⟨first, second⟩ ties
    have near : |n - m| < 1 := by exact_mod_cast apart
    obtain ⟨lower, upper⟩ := abs_lt.mp near
    omega

theorem roundHalfEven_eq_iff {value : ℚ} {n : ℤ} : roundHalfEven value = n ↔ Nearest value n :=
  ⟨fun rounded => rounded ▸ nearest_roundHalfEven value, (nearest_roundHalfEven value).unique⟩

/-- How far an amount is from a whole number of hundredths, in hundredths. -/
def hundredthsOff (value : ℚ) : ℚ := min (Int.fract (value * 100)) (1 - Int.fract (value * 100))

private theorem abs_sub_roundHalfEven (value : ℚ) : |value - roundHalfEven value| = min
    (Int.fract value) (1 - Int.fract value) := by
  have below := Int.floor_le value
  have above := Int.lt_floor_add_one value
  simp only [roundHalfEven, Int.fract]
  split_ifs with lower upper even
  · rw [abs_of_nonneg (by linarith), min_eq_left (by linarith)]
  · push_cast
    rw [abs_of_nonpos (by linarith), min_eq_right (by linarith)]
    ring
  · rw [abs_of_nonneg (by linarith), min_eq_left (by linarith)]
  · push_cast
    rw [abs_of_nonpos (by linarith), min_eq_right (by linarith)]
    ring

/-- Dividing a rounded product by one factor and rounding again gives the other factor back when the
product is close enough to whole hundredths. -/
theorem quantize_div_quantize_mul {cost rate : ℚ} (positive : 0 < cost) {hundredths : ℤ}
    (whole : rate = hundredths / 100) :
    quantize (quantize (cost * rate) / cost) = rate ↔
      2 * hundredthsOff (cost * rate) < cost ∨ 2 * hundredthsOff (cost * rate) = cost ∧
      hundredths % 2 = 0 := by
  have off : |quantize (cost * rate) / cost * 100 - hundredths| = hundredthsOff
      (cost * rate) / cost := by
    rw [hundredthsOff, ← abs_sub_roundHalfEven, abs_sub_comm, ← abs_of_pos positive, ← abs_div,
      abs_of_pos positive]
    congr 1
    rw [quantize, whole]
    field_simp
  have rounded : quantize (quantize (cost * rate) / cost) = rate ↔
      roundHalfEven (quantize (cost * rate) / cost * 100) = hundredths := by
    rw [quantize, whole, div_left_inj' (by norm_num)]
    exact Int.cast_inj
  rw [rounded, roundHalfEven_eq_iff, Nearest, off, div_lt_iff₀ positive, div_eq_iff positive.ne']
  constructor
  · rintro (near | ⟨tie, even⟩)
    · exact .inl (by linarith)
    · exact .inr ⟨by linarith, even⟩
  · rintro (near | ⟨tie, even⟩)
    · exact .inl (by linarith)
    · exact .inr ⟨by linarith, even⟩

/-! ## Rounding up to a step -/

/-- The least multiple of a step that is not below a value, when the step is positive. -/
def roundUpTo (value step : ℚ) : ℚ := ⌈value / step⌉ * step

/-- A bound is reached when the value is above the largest multiple of the step that is below the
bound. -/
theorem le_roundUpTo_iff {value step bound : ℚ} (positive : 0 < step) :
    bound ≤ roundUpTo value step ↔ (⌈bound / step⌉ - 1) * step < value := by
  rw [roundUpTo, ← div_le_iff₀ positive, ← lt_div_iff₀ positive]
  constructor
  · intro above
    have := Int.ceil_le.mpr above
    have below := Int.ceil_lt_add_one (value / step)
    have cast : (⌈bound / step⌉ : ℚ) ≤ ⌈value / step⌉ := by exact_mod_cast this
    linarith
  · intro below
    have := Int.le_ceil (bound / step)
    have next : ⌈bound / step⌉ - 1 < ⌈value / step⌉ := Int.lt_ceil.mpr (by exact_mod_cast below)
    have cast : (⌈bound / step⌉ : ℚ) ≤ ⌈value / step⌉ := by
      exact_mod_cast (by omega : ⌈bound / step⌉ ≤ ⌈value / step⌉)
    linarith

theorem le_roundUpTo {value step : ℚ} (positive : 0 < step) : value ≤ roundUpTo value step := by
  rw [roundUpTo, ← div_le_iff₀ positive]
  exact Int.le_ceil _

/-- Rounding up goes less than a step up, and with a negative step further down than the step. -/
theorem roundUpTo_lt_iff {value step : ℚ} (nonzero : step ≠ 0) :
    roundUpTo value step < value + step ↔ 0 < step := by
  have next := Int.ceil_lt_add_one (value / step)
  have whole : (value / step + 1) * step = value + step := by field_simp
  rw [roundUpTo, ← whole]
  constructor
  · intro less
    by_contra negative
    have negative : step < 0 := lt_of_le_of_ne (not_lt.mp negative) nonzero
    exact absurd (mul_lt_mul_of_neg_right next negative) less.not_gt
  · intro positive
    exact mul_lt_mul_of_pos_right next positive

theorem IsCents.roundUpTo {step : ℚ} (cents : IsCents step) (value : ℚ) :
    IsCents (roundUpTo value step) := by
  rw [Decimals.roundUpTo, mul_comm]
  exact cents.mul_intCast _

end Decimals

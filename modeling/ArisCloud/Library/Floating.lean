import Mathlib.Algebra.Order.BigOperators.Group.List
import Mathlib.Data.Int.Log
import ArisCloud.Library.Decimals

/-! # Rounding to significant digits

A floating-point format of a base and a precision keeps that many digits of a value, ties to the
even last digit. Its exponents are not bounded. Rounding leaves alone what has few enough digits,
never falls below the leading power of the base, and goes at most half a unit of the last digit
away. Binary sums round after every addition, and the decimal of a double is the shortest one that
is rounded back to it. A decimal of fifteen digits is read back from its double, and sums of
quarters are exact.
-/

namespace Floating

open Decimals

section

variable (base precision : ℕ)

/-- The exponent of the last digit that is kept. -/
def lastExponent (value : ℚ) : ℤ := Int.log base |value| + 1 - precision

/-- The nearest value with so many digits, ties to the even last digit. -/
def round (value : ℚ) : ℚ :=
  roundHalfEven (value / (base : ℚ) ^ lastExponent base precision value) * (base : ℚ) ^
    lastExponent base precision value

end

/-! ## What rounding does -/

section

variable {base precision : ℕ} {value : ℚ}

private theorem base_pos (large : 1 < base) : (0 : ℚ) < base := by
  exact_mod_cast (by omega : 0 < base)

@[simp] theorem round_zero : round base precision 0 = 0 := by simp [round, roundHalfEven]

/-- The unit of the last digit divides the leading power of the base. -/
private theorem leading_eq (large : 1 < base) (digits : 0 < precision) :
    (base : ℚ) ^ Int.log base |value| = ((base ^ (precision - 1) : ℕ) : ℤ) * (base : ℚ) ^
    lastExponent base precision value := by
  have nonzero := (base_pos large).ne'
  have split : Int.log base |value| = ((precision - 1 : ℕ) : ℤ) +
      lastExponent base precision value := by
    rw [lastExponent]
    omega
  rw [split, zpow_add₀ nonzero, zpow_natCast]
  push_cast
  rfl

/-- A whole multiple of the unit of the last digit stays. -/
theorem round_of_multiple (large : 1 < base) {multiple : ℤ}
    (whole : value = multiple * (base : ℚ) ^ lastExponent base precision value) :
    round base precision value = value := by
  have unit : (base : ℚ) ^ lastExponent base precision value ≠ 0 :=
    zpow_ne_zero _ (base_pos large).ne'
  have divided : value / (base : ℚ) ^ lastExponent base precision value = multiple := by
    rw [div_eq_iff unit]
    exact whole
  rw [round, divided, roundHalfEven_intCast]
  exact whole.symm

/-- A value with few enough digits stays. -/
theorem round_of_digits (large : 1 < base) {digits : ℤ} (exponent : ℤ)
    (few : |digits| < base ^ precision) (written : value = digits * (base : ℚ) ^ exponent) :
    round base precision value = value := by
  rcases eq_or_ne digits 0 with rfl | nonzero
  · simp only [written, Int.cast_zero, zero_mul, round_zero]
  have positive := base_pos large
  have size : |value| = |(digits : ℚ)| * (base : ℚ) ^ exponent := by
    rw [written, abs_mul, abs_of_pos (zpow_pos positive exponent)]
  have below : |value| < (base : ℚ) ^ ((precision : ℤ) + exponent) := by
    rw [size, zpow_add₀ positive.ne', zpow_natCast]
    exact mul_lt_mul_of_pos_right (by exact_mod_cast few) (zpow_pos positive exponent)
  have apart : 0 < |value| := by
    rw [size]
    exact mul_pos (abs_pos.mpr (by exact_mod_cast nonzero)) (zpow_pos positive exponent)
  have bounded : Int.log base |value| < precision + exponent :=
    (Int.lt_zpow_iff_log_lt large apart).mp below
  obtain ⟨rest, isRest⟩ :=
    Int.eq_ofNat_of_zero_le
      (by rw [lastExponent]; omega : 0 ≤ exponent - lastExponent base precision value)
  have split : exponent = rest + lastExponent base precision value := by omega
  have whole : value = ((digits * base ^ rest : ℤ) : ℚ) *
      (base : ℚ) ^ lastExponent base precision value := by
    nth_rewrite 1 [written, split]
    rw [zpow_add₀ positive.ne', zpow_natCast]
    push_cast
    ring
  exact round_of_multiple large whole

theorem abs_sub_roundHalfEven_le (value : ℚ) : |value - roundHalfEven value| ≤ 1 / 2 := by
  rcases nearest_roundHalfEven value with less | ⟨tie, _⟩
  · exact less.le
  · exact tie.le

/-- Rounding to an integer does not fall below an integer. -/
theorem le_abs_roundHalfEven {bound : ℤ} (above : (bound : ℚ) ≤ |value|) :
    bound ≤ |roundHalfEven value| := by
  have triangle := abs_add_le (value - roundHalfEven value) (roundHalfEven value)
  rw [sub_add_cancel] at triangle
  have near : (bound : ℚ) < |(roundHalfEven value : ℚ)| + 1 := by
    linarith [abs_sub_roundHalfEven_le value]
  have next : bound < |roundHalfEven value| + 1 := by exact_mod_cast near
  omega

/-- Rounding does not fall below the leading power of the base. -/
theorem zpow_le_abs_round (large : 1 < base) (digits : 0 < precision) (exponent : ℤ)
    (above : (base : ℚ) ^ exponent ≤ |value|) :
    (base : ℚ) ^ exponent ≤ |round base precision value| := by
  have positive := base_pos large
  have apart : 0 < |value| := (zpow_pos positive exponent).trans_le above
  have unit : 0 < (base : ℚ) ^ lastExponent base precision value := zpow_pos positive _
  have leading : (base : ℚ) ^ exponent ≤ (base : ℚ) ^ Int.log base |value| :=
    zpow_le_zpow_right₀ (by exact_mod_cast large.le) ((Int.zpow_le_iff_le_log large apart).mp above)
  refine leading.trans ?_
  rw [leading_eq large digits, round, abs_mul, abs_of_pos unit]
  refine mul_le_mul_of_nonneg_right ?_ unit.le
  have whole : (((base ^ (precision - 1) : ℕ) : ℤ) : ℚ) ≤ |value /
      (base : ℚ) ^ lastExponent base precision value| := by
    rw [abs_div, abs_of_pos unit, le_div_iff₀ unit, ← leading_eq large digits]
    exact Int.zpow_log_le_self large apart
  exact_mod_cast le_abs_roundHalfEven whole

theorem round_eq_zero_iff (large : 1 < base) (digits : 0 < precision) :
    round base precision value = 0 ↔ value = 0 := by
  constructor
  · intro vanished
    by_contra nonzero
    have leading : (base : ℚ) ^ Int.log base |value| ≤ |round base precision value| :=
      zpow_le_abs_round large digits _ (Int.zpow_log_le_self large (abs_pos.mpr nonzero))
    rw [vanished, abs_zero] at leading
    exact absurd (zpow_pos (base_pos large) _) leading.not_gt
  · rintro rfl
    exact round_zero

/-- Rounding to an integer does not rise above an integer. -/
theorem abs_roundHalfEven_le {bound : ℤ} (below : |value| < bound) :
    |roundHalfEven value| ≤ bound := by
  have triangle := abs_sub_abs_le_abs_sub (roundHalfEven value : ℚ) value
  rw [abs_sub_comm] at triangle
  have near : |(roundHalfEven value : ℚ)| < bound + 1 := by
    linarith [abs_sub_roundHalfEven_le value]
  have next : |roundHalfEven value| < bound + 1 := by exact_mod_cast near
  omega

/-- The digits that are kept are no more than the precision, unless they round up to the next power
of the base. -/
theorem abs_digits_le (large : 1 < base) :
    |roundHalfEven (value / (base : ℚ) ^ lastExponent base precision value)| ≤
      base ^ precision := by
  have positive := base_pos large
  have unit : 0 < (base : ℚ) ^ lastExponent base precision value := zpow_pos positive _
  have split : Int.log base |value| + 1 = precision + lastExponent base precision value := by
    rw [lastExponent]
    omega
  have below := Int.lt_zpow_succ_log_self large |value|
  rw [split, zpow_add₀ positive.ne', zpow_natCast] at below
  refine abs_roundHalfEven_le ?_
  rw [abs_div, abs_of_pos unit, div_lt_iff₀ unit]
  exact_mod_cast below

/-- What was rounded once is not rounded again. -/
theorem round_round (large : 1 < base) (digits : 0 < precision) :
    round base precision (round base precision value) = round base precision value := by
  have positive := base_pos large
  rcases (abs_digits_le large).lt_or_eq with few | power
  · exact round_of_digits large _ few rfl
  · -- The next power of the base has a single digit.
    obtain ⟨rest, rfl⟩ : ∃ rest, precision = rest + 1 := ⟨precision - 1, by omega⟩
    have shifted (sign : ℤ) (unit : |sign| = 1)
        (isPower : roundHalfEven (value / (base : ℚ) ^ lastExponent base (rest + 1) value) =
          sign * base ^ (rest + 1)) :
        round base (rest + 1) (round base (rest + 1) value) = round base (rest + 1) value := by
      have few : |sign * (base : ℤ) ^ rest| < (base : ℤ) ^ (rest + 1) := by
        rw [abs_mul, unit, one_mul, abs_of_nonneg (by positivity), pow_succ]
        have power : (0 : ℤ) < (base : ℤ) ^ rest := by
          have : (0 : ℤ) < base := by omega
          positivity
        exact lt_mul_of_one_lt_right power (by exact_mod_cast large)
      refine round_of_digits large (lastExponent base (rest + 1) value + 1) few ?_
      rw [round, isPower, zpow_add_one₀ positive.ne', pow_succ]
      push_cast
      ring
    rcases (abs_eq (by positivity)).mp power with up | down
    · exact shifted 1 rfl (by rw [up, one_mul])
    · exact shifted (-1) rfl (by rw [down, neg_one_mul])

/-- Rounding goes at most half a unit of the last digit away. -/
theorem abs_round_sub_le (large : 1 < base) (digits : 0 < precision) :
    |round base precision value - value| * (2 * base ^ (precision - 1)) ≤ |value| := by
  rcases eq_or_ne value 0 with rfl | nonzero
  · simp
  have unit : 0 < (base : ℚ) ^ lastExponent base precision value := zpow_pos (base_pos large) _
  have near := abs_sub_roundHalfEven_le (value / (base : ℚ) ^ lastExponent base precision value)
  have scaled : |round base precision value - value| = |value /
      (base : ℚ) ^ lastExponent base precision value -
      roundHalfEven (value / (base : ℚ) ^ lastExponent base precision value)| *
        (base : ℚ) ^ lastExponent base precision value := by
    rw [abs_sub_comm, round, ← abs_of_pos unit, ← abs_mul, abs_of_pos unit, sub_mul,
      div_mul_cancel₀ _ unit.ne']
  have leading := Int.zpow_log_le_self large (abs_pos.mpr nonzero)
  rw [leading_eq large digits] at leading
  push_cast at leading
  have power : (0 : ℚ) ≤ base ^ (precision - 1) := by positivity
  calc
    _ ≤ 1 / 2 * (base : ℚ) ^ lastExponent base precision value * (2 * base ^ (precision - 1)) := by
      rw [scaled]
      gcongr
    _ = base ^ (precision - 1) * (base : ℚ) ^ lastExponent base precision value := by ring
    _ ≤ |value| := leading

end

/-! ## Doubles -/

def toDouble (value : ℚ) : ℚ := round 2 53 value

/-- The other neighbor of a value among those with so many decimal digits, given the nearer one. -/
def otherNeighbor (digits : ℕ) (value nearer : ℚ) : ℚ :=
  if nearer < value then nearer + (10 : ℚ) ^ lastExponent 10 digits value
    else nearer - (10 : ℚ) ^ lastExponent 10 digits value

/-- A decimal with so many digits that is rounded to a double, the nearest one first. -/
def decimalOf (double : ℚ) (digits : ℕ) : Option ℚ :=
  let nearer := round 10 digits double
  [nearer, otherNeighbor digits double nearer].find? fun decimal => toDouble decimal = double

/-- The shortest decimal that is rounded to a double; seventeen digits always do. -/
def shortestDecimal (double : ℚ) : ℚ :=
  ((List.range' 1 17).findSome? (decimalOf double)).getD double

/-- A sum of double columns, read as a decimal. -/
def doubleSum (amounts : List ℚ) : ℚ :=
  shortestDecimal (amounts.foldl (fun sum amount => toDouble (sum + toDouble amount)) 0)

example : doubleSum [1 / 10, 2 / 10] = 30000000000000004 / 10 ^ 17 := by decide +kernel

/-! ## Reading a double -/

section

variable {value : ℚ} {digits : ℤ}

/-- The nearest double is half a unit of the last of 53 digits away, or less. -/
theorem abs_toDouble_sub_le (value : ℚ) : |toDouble value - value| * 2 ^ 53 ≤ |value| := by
  have near := @abs_round_sub_le 2 53 value (by norm_num) (by norm_num)
  norm_num at near ⊢
  exact near

theorem toDouble_of_digits (exponent : ℤ) (few : |digits| < 2 ^ 53)
    (written : value = digits * 2 ^ exponent) : toDouble value = value :=
  round_of_digits (by norm_num) exponent (by exact_mod_cast few) (by exact_mod_cast written)

/-- The finer of two decimals has no more than about fifteen digits. -/
private theorem eq_of_toDouble_eq_of_le {left right : ℤ} {low high : ℤ} (ordered : low ≤ high)
    (few : |left| ≤ 2 * 10 ^ 15)
    (same : toDouble (left * 10 ^ low) = toDouble (right * 10 ^ high)) :
    (left * 10 ^ low : ℚ) = right * 10 ^ high := by
  obtain ⟨rest, isRest⟩ := Int.eq_ofNat_of_zero_le (by omega : 0 ≤ high - low)
  obtain rfl : high = rest + low := by omega
  have unit : (0 : ℚ) < 10 ^ low := zpow_pos (by norm_num) low
  have shifted : (right * 10 ^ ((rest : ℤ) + low) : ℚ) =
      ((right * 10 ^ rest : ℤ) : ℚ) * 10 ^ low := by
    rw [zpow_add₀ (by norm_num), zpow_natCast]
    push_cast
    ring
  rw [shifted] at same ⊢
  generalize right * 10 ^ rest = right at same ⊢
  by_contra apart
  have different : left ≠ right := fun equal => apart (by rw [equal])
  -- Different multiples of the unit are a unit apart, and their doubles are nearer.
  have gap : (10 : ℚ) ^ low ≤ |(left * 10 ^ low - right * 10 ^ low : ℚ)| := by
    have least : 1 ≤ |left - right| := Int.one_le_abs (sub_ne_zero.mpr different)
    have whole : (1 : ℚ) ≤ |(left - right : ℚ)| := by exact_mod_cast least
    rw [← sub_mul, abs_mul, abs_of_pos unit]
    exact le_mul_of_one_le_left unit.le whole
  have size : |(left * 10 ^ low : ℚ)| ≤ 2 * 10 ^ 15 * 10 ^ low := by
    have whole : |(left : ℚ)| ≤ 2 * 10 ^ 15 := by exact_mod_cast few
    rw [abs_mul, abs_of_pos unit]
    exact mul_le_mul_of_nonneg_right whole unit.le
  generalize (left * 10 ^ low : ℚ) = first at *
  generalize (right * 10 ^ low : ℚ) = second at *
  have before := abs_toDouble_sub_le first
  have after := abs_toDouble_sub_le second
  rw [same] at before
  have triangle : |first - second| ≤
      |toDouble second - first| + |toDouble second - second| := by
    rw [abs_sub_comm (toDouble second) first]
    exact abs_sub_le _ _ _
  have larger : |second| ≤ |first| + |first - second| := by
    have := abs_sub_abs_le_abs_sub second first
    rw [abs_sub_comm] at this
    linarith
  linarith

/-- Two decimals of about fifteen digits with one double are the same. -/
theorem eq_of_toDouble_eq {left right : ℤ} {low high : ℤ} (few : |left| ≤ 2 * 10 ^ 15)
    (fewer : |right| ≤ 2 * 10 ^ 15)
    (same : toDouble (left * 10 ^ low) = toDouble (right * 10 ^ high)) :
    (left * 10 ^ low : ℚ) = right * 10 ^ high := by
  rcases le_total low high with ordered | ordered
  · exact eq_of_toDouble_eq_of_le ordered few same
  · exact (eq_of_toDouble_eq_of_le ordered fewer same.symm).symm

/-- Fifteen digits of the double of a decimal that has no more are the decimal. -/
theorem round_toDouble (exponent : ℤ) (few : |digits| < 10 ^ 15)
    (written : value = digits * 10 ^ exponent) : round 10 15 (toDouble value) = value := by
  rcases eq_or_ne value 0 with rfl | nonzero
  · simp [toDouble]
  have apart : toDouble value ≠ 0 :=
    (round_eq_zero_iff (by norm_num) (by norm_num)).not.mpr nonzero
  have near := abs_toDouble_sub_le value
  generalize toDouble value = double at apart near ⊢
  have unit : (0 : ℚ) < 10 ^ lastExponent 10 15 double := zpow_pos (by norm_num) _
  have last : Int.log 10 |double| + 1 = lastExponent 10 15 double + 15 := by
    rw [lastExponent]
    push_cast
    ring
  -- The double has no digits above those of the decimal.
  have above : lastExponent 10 15 double ≤ exponent := by
    have power : (0 : ℚ) < 10 ^ exponent := zpow_pos (by norm_num) exponent
    have size : |value| ≤ (10 ^ 15 - 1) * 10 ^ exponent := by
      have whole : |(digits : ℚ)| ≤ 10 ^ 15 - 1 := by
        have : |digits| ≤ 10 ^ 15 - 1 := by omega
        exact_mod_cast this
      rw [written, abs_mul, abs_of_pos power]
      exact mul_le_mul_of_nonneg_right whole power.le
    have triangle := abs_sub_abs_le_abs_sub double value
    have below : |double| < (10 : ℕ) ^ (exponent + 15) := by
      rw [zpow_add₀ (by norm_num)]
      norm_num at size near ⊢
      linarith
    have := (Int.lt_zpow_iff_log_lt (by norm_num) (abs_pos.mpr apart)).mp below
    omega
  obtain ⟨rest, isRest⟩ := Int.eq_ofNat_of_zero_le (sub_nonneg.mpr above)
  have whole : value = ((digits * 10 ^ rest : ℤ) : ℚ) * 10 ^ lastExponent 10 15 double := by
    rw [written, (by omega : exponent = rest + lastExponent 10 15 double),
      zpow_add₀ (by norm_num), zpow_natCast]
    push_cast
    ring
  have nearest : roundHalfEven (double / 10 ^ lastExponent 10 15 double) = digits * 10 ^ rest := by
    rw [roundHalfEven_eq_iff]
    left
    have below := Int.lt_zpow_succ_log_self (b := 10) (by norm_num) |double|
    rw [last, zpow_add₀ (by norm_num)] at below
    have triangle := abs_sub_abs_le_abs_sub value double
    rw [abs_sub_comm] at triangle
    rw [← mul_lt_mul_iff_left₀ unit, ← abs_of_pos unit, ← abs_mul, abs_of_pos unit, sub_mul,
      div_mul_cancel₀ _ unit.ne', ← whole]
    norm_num at below near ⊢
    linarith
  have rounded : round 10 15 double =
      ((digits * 10 ^ rest : ℤ) : ℚ) * 10 ^ lastExponent 10 15 double := by
    rw [round, ← nearest]
    norm_cast
  exact rounded.trans whole.symm

/-- The decimals that are tried have about so many digits. -/
private theorem digits_of_decimalOf {double decimal : ℚ} {digits : ℕ}
    (found : decimalOf double digits = some decimal) : toDouble decimal = double ∧
      ∃ significand : ℤ, |significand| ≤ 10 ^ digits + 1 ∧
        decimal = significand * 10 ^ lastExponent 10 digits double := by
  have same := List.find?_some found
  have member := List.mem_of_find?_eq_some found
  refine ⟨of_decide_eq_true same, ?_⟩
  have few : |roundHalfEven (double / 10 ^ lastExponent 10 digits double)| ≤ 10 ^ digits := by
    have kept := @abs_digits_le 10 digits double (by norm_num)
    exact_mod_cast kept
  have nearer : round 10 digits double = (roundHalfEven (double /
      10 ^ lastExponent 10 digits double) : ℚ) * 10 ^ lastExponent 10 digits double := by
    rw [round]
    norm_cast
  rw [nearer] at member
  generalize roundHalfEven (double / 10 ^ lastExponent 10 digits double) = kept at few member
  rw [List.mem_pair, otherNeighbor] at member
  obtain ⟨lower, upper⟩ := abs_le.mp few
  rcases member with rfl | other
  · exact ⟨kept, by omega, rfl⟩
  · split at other
    · refine ⟨kept + 1, abs_le.mpr ⟨by omega, by omega⟩, ?_⟩
      rw [other]
      push_cast
      ring
    · refine ⟨kept - 1, abs_le.mpr ⟨by omega, by omega⟩, ?_⟩
      rw [other]
      push_cast
      ring

/-- A decimal of fifteen digits is read back from its double. -/
theorem shortestDecimal_toDouble (exponent : ℤ) (few : |digits| < 10 ^ 15)
    (written : value = digits * 10 ^ exponent) : shortestDecimal (toDouble value) = value := by
  have fifteen : decimalOf (toDouble value) 15 = some value := by
    rw [decimalOf, round_toDouble exponent few written]
    exact List.find?_cons_of_pos (decide_eq_true rfl)
  have split : List.range' 1 17 = List.range' 1 15 ++ [16, 17] := rfl
  rw [shortestDecimal, split, List.findSome?_append]
  cases found : (List.range' 1 15).findSome? (decimalOf (toDouble value)) with
  | none =>
    have missed := List.findSome?_eq_none_iff.mp found 15 (by simp)
    rw [fifteen] at missed
    cases missed
  | some decimal =>
    obtain ⟨count, isCount, isDecimal⟩ := List.exists_of_findSome?_eq_some found
    obtain ⟨same, significand, size, isSignificand⟩ := digits_of_decimalOf isDecimal
    have most : (10 : ℤ) ^ count ≤ 10 ^ 15 := by
      rw [List.mem_range'_1] at isCount
      exact pow_le_pow_right₀ (by norm_num) (by omega)
    rw [isSignificand, written] at same
    rw [Option.some_or, Option.getD_some, isSignificand, written]
    exact eq_of_toDouble_eq (by omega) (by omega) same

/-! ## Sums that are exact -/

/-- The sum of a single amount is the amount. -/
theorem doubleSum_singleton (exponent : ℤ) (few : |digits| < 10 ^ 15)
    (written : value = digits * 10 ^ exponent) : doubleSum [value] = value := by
  have once : toDouble (toDouble value) = toDouble value :=
    round_round (by norm_num) (by norm_num)
  rw [doubleSum, List.foldl_cons, List.foldl_nil, zero_add, once]
  exact shortestDecimal_toDouble exponent few written

/-- Quarters, which are binary and decimal. -/
def IsQuarters (value : ℚ) : Prop := ∃ quarters : ℤ, value = quarters / 4

theorem IsQuarters.add {left right : ℚ} (first : IsQuarters left) (second : IsQuarters right) :
    IsQuarters (left + right) := by
  obtain ⟨before, rfl⟩ := first
  obtain ⟨after, rfl⟩ := second
  exact ⟨before + after, by push_cast; ring⟩

private theorem IsQuarters.abs_lt {quarters : ℤ} (few : |(quarters / 4 : ℚ)| < 10 ^ 12) :
    |quarters| < 4 * 10 ^ 12 := by
  rw [abs_div, div_lt_iff₀ (by norm_num)] at few
  have whole : ((|quarters| : ℤ) : ℚ) < ((4 * 10 ^ 12 : ℤ) : ℚ) := by
    push_cast
    norm_num at few ⊢
    exact few
  exact_mod_cast whole

theorem IsQuarters.toDouble (quarters : IsQuarters value) (few : |value| < 10 ^ 12) :
    toDouble value = value := by
  obtain ⟨quarters, rfl⟩ := quarters
  have size := IsQuarters.abs_lt few
  refine @toDouble_of_digits _ quarters (-2) (by omega) ?_
  rw [zpow_neg]
  norm_num
  ring

theorem IsQuarters.shortestDecimal (quarters : IsQuarters value) (few : |value| < 10 ^ 12) :
    shortestDecimal value = value := by
  have same := quarters.toDouble few
  obtain ⟨quarters, rfl⟩ := quarters
  have size := IsQuarters.abs_lt few
  have hundred : |25 * quarters| = 25 * |quarters| := abs_mul 25 quarters
  rw [← same]
  rw [@shortestDecimal_toDouble _ (25 * quarters) (-2) (by omega), same]
  rw [zpow_neg]
  push_cast
  norm_num
  ring

/-- Quarters are added exactly. -/
private theorem foldl_quarters {amounts : List ℚ} {sum : ℚ} (sumQuarters : IsQuarters sum)
    (quarters : ∀ amount ∈ amounts, IsQuarters amount)
    (few : |sum| + (amounts.map (|·|)).sum < 10 ^ 12) :
    amounts.foldl (fun sum amount => toDouble (sum + toDouble amount)) sum = sum + amounts.sum ∧
      IsQuarters (sum + amounts.sum) ∧ |sum + amounts.sum| < 10 ^ 12 := by
  induction amounts generalizing sum with
  | nil =>
    rw [List.map_nil, List.sum_nil, add_zero] at few
    rw [List.foldl_nil, List.sum_nil, add_zero]
    exact ⟨rfl, sumQuarters, few⟩
  | cons amount rest ih =>
    rw [List.map_cons, List.sum_cons] at few
    have nonneg : 0 ≤ (rest.map (|·|)).sum := by
      refine List.sum_nonneg fun size isSize => ?_
      obtain ⟨_, _, rfl⟩ := List.mem_map.mp isSize
      exact abs_nonneg _
    have isQuarters := quarters amount List.mem_cons_self
    have triangle := abs_add_le sum amount
    have single : |amount| < 10 ^ 12 := by linarith [abs_nonneg sum]
    have added := sumQuarters.add isQuarters
    rw [List.foldl_cons, isQuarters.toDouble single, added.toDouble (by linarith), List.sum_cons,
      ← add_assoc]
    exact ih added (fun other isOther => quarters other (List.mem_cons_of_mem _ isOther))
      (by linarith)

/-- The sum of quarters is exact. -/
theorem doubleSum_quarters {amounts : List ℚ} (quarters : ∀ amount ∈ amounts, IsQuarters amount)
    (few : (amounts.map (|·|)).sum < 10 ^ 12) : doubleSum amounts = amounts.sum := by
  have zero : IsQuarters 0 := ⟨0, by simp⟩
  obtain ⟨folded, isQuarters, small⟩ := foldl_quarters zero quarters (by simpa using few)
  rw [zero_add] at folded isQuarters small
  rw [doubleSum, folded, isQuarters.shortestDecimal small]

end

end Floating

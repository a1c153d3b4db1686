import ArisCloud.Proofs.PricingSteps

/-! # Suggested prices

A suggested price is the base price of its mode, rounded up to a multiple of the step. It stays
within a step of the base price and, where the mode adds to the cost, does not fall below the cost.
This takes numbers that fit, a positive step, a margin other than a hundred percent, a quotient
whose ceiling shows in 28 digits, and a base price that rounding brings up to the cost again.
-/

namespace ArisCloud.AiPricing

open DecimalContext

/-- A price that is within a step of its base price, in whole steps, and covers the cost where the
mode adds to it. -/
structure SafePrice (mode : AiPricingMode) (step cost base price : ℚ) : Prop where
  atLeastBase : base ≤ price
  withinStep : price < base + step
  wholeSteps : ∃ steps : ℤ, price = steps * step
  atLeastCost : mode ≠ .multiplier → cost ≤ price

/-- Pricing a line signals nothing, and from a known cost it suggests a safe price when the mode has
its value. The text of an amount may still be refused. -/
def PricedSafely (line : AiPreloadLine) (settings : PricingSettings) : Prop :=
  (∀ signal, applyPricing line settings ≠ .error (.raised signal)) ∧
    ∀ amounts priced costGtq, parseAmounts line = .ok amounts → applyPricing line settings =
    .ok priced →
      amounts.knownCost (conversionRate settings (lineCurrency line settings)) = some costGtq →
        (modeValue settings).isSome = true → ∃ cost base price step : ℚ,
          costGtq = .number cost ∧ basePrice settings costGtq = .ok (some (.number base)) ∧
            priced.suggestedPriceGtq = some (.number price) ∧ settings.roundingStep = .number step ∧
              SafePrice settings.pricingMode step cost base price

/-- What keeps the price of a number safe: a positive step, no margin of a hundred percent, a
ceiling that shows in 28 digits, a price that fits, and an unrounded price above the largest
multiple of the step below the cost. -/
structure SafeTerms (mode : AiPricingMode) (cost value step : ℚ) : Prop where
  positive : 0 < step
  divisible : mode = .marginPercent → value ≠ 100
  shows : ⌈toContext (unroundedPrice mode cost value / step)⌉ =
    ⌈unroundedPrice mode cost value / step⌉
  fits : |Decimals.roundUpTo (unroundedPrice mode cost value) step| < 10 ^ 26
  covers : mode ≠ .multiplier → (⌈cost / step⌉ - 1) * step < unroundedPrice mode cost value

/-- The amounts of a line keep its pricing safe: nothing is signaled when they are converted, and
with a known cost and a value for the mode there are numbers on safe terms. -/
structure SafeAmounts (amounts : LineAmounts) (settings : PricingSettings) (currency : String) :
    Prop where
  convertible : Convertible amounts settings currency
  terms : ∀ costGtq modeAmount, amounts.knownCost (conversionRate settings currency) =
    some costGtq → modeValue settings = some modeAmount → ∃ cost value step,
    costGtq = .number cost ∧
      modeAmount = .number value ∧ settings.roundingStep = .number step ∧
        SafeTerms settings.pricingMode cost value step

section

variable {amounts : LineAmounts} {settings : PricingSettings} {pricing : Pricing}
    {currency : String}
  {mode : AiPricingMode} {cost base step : ℚ} {steps : ℤ}

/-- A multiple of the step is a safe price exactly when it is the base price, rounded up, and the
base price reaches the cost. -/
theorem safePrice_iff : SafePrice mode step cost base (steps * step) ↔ 0 < step ∧
    steps = ⌈base / step⌉ ∧
    (mode ≠ .multiplier → (⌈cost / step⌉ - 1) * step < base) := by
  constructor
  · rintro ⟨atLeast, within, _, covers⟩
    have positive : 0 < step := by linarith
    have reached : steps = ⌈base / step⌉ := by
      rw [eq_comm, Int.ceil_eq_iff, lt_div_iff₀ positive, div_le_iff₀ positive]
      exact ⟨by linarith, atLeast⟩
    refine ⟨positive, reached, fun adds => ?_⟩
    rw [← Decimals.le_roundUpTo_iff positive, Decimals.roundUpTo, ← reached]
    exact covers adds
  · rintro ⟨positive, rfl, covers⟩
    exact ⟨Decimals.le_roundUpTo positive, (Decimals.roundUpTo_lt_iff positive.ne').mpr positive,
      ⟨_, rfl⟩, fun adds => (Decimals.le_roundUpTo_iff positive).mpr (covers adds)⟩

/-- On safe terms a price is suggested, which is safe. -/
theorem SafeTerms.suggests {value : ℚ} (terms : SafeTerms settings.pricingMode cost value step)
    (valid : ParsedSettings settings) (asked : modeValue settings = some (.number value))
    (isStep : settings.roundingStep = .number step) : ∃ base price,
      basePrice settings (.number cost) = .ok (some (.number base)) ∧
        suggestPrice settings (some (.number cost)) = .ok (some (.number price)) ∧
          SafePrice settings.pricingMode step cost base price := by
  have isBase : basePrice settings (.number cost) =
      .ok (some (.number (unroundedPrice settings.pricingMode cost value))) :=
    basePrice_number asked (valid.value _ asked) terms.divisible
  refine ⟨_, Decimals.roundUpTo (unroundedPrice settings.pricingMode cost value) step,
    isBase, ?_, ?_⟩
  · rw [suggestPrice_number isBase isStep (isStep ▸ valid.step) terms.positive.ne', terms.shows]
    exact if_pos terms.fits
  · exact safePrice_iff.mpr ⟨terms.positive, rfl, terms.covers⟩

/-- A base price is rounded up to some price. -/
theorem price_of_basePrice {costGtq base : Decimal} {price : Option Decimal}
    (isBase : basePrice settings costGtq = .ok (some base))
    (suggested : suggestPrice settings (some costGtq) = .ok price) :
    ∃ found, price = some found := by
  simp only [suggestPrice, isBase] at suggested
  obtain ⟨_, ⟨rfl⟩, rest⟩ := Checked.bind_eq_ok.mp suggested
  obtain ⟨rounded, _, rest⟩ := Checked.bind_eq_ok.mp rest
  obtain ⟨quantized, _, rest⟩ := Checked.bind_eq_ok.mp rest
  exact ⟨quantized, (Except.ok.inj rest).symm⟩

/-- A safe price was suggested on safe terms. -/
theorem safeTerms_of_safePrice {modeAmount : Decimal} {price : ℚ} (valid : ParsedSettings settings)
    (asked : modeValue settings = some modeAmount) (isStep : settings.roundingStep = .number step)
    (isBase : basePrice settings (.number cost) = .ok (some (.number base)))
    (suggested : suggestPrice settings (some (.number cost)) = .ok (some (.number price)))
    (safe : SafePrice settings.pricingMode step cost base price) :
    ∃ value, modeAmount = .number value ∧ SafeTerms settings.pricingMode cost value step := by
  cases modeAmount with
  | notANumber => cases (basePrice_of_notANumber asked).symm.trans isBase
  | number value =>
    have divisible : settings.pricingMode = .marginPercent → value ≠ 100 := by
      rintro mode rfl
      obtain ⟨signal, fails⟩ := basePrice_of_wholeMargin asked mode
      cases fails.symm.trans isBase
    have computed : basePrice settings (.number cost) =
        .ok (some (.number (unroundedPrice settings.pricingMode cost value))) :=
      basePrice_number asked (valid.value _ asked) divisible
    obtain rfl := Decimal.number.inj (Option.some.inj (Except.ok.inj (computed.symm.trans isBase)))
    have nonzero : step ≠ 0 := fun zero => valid.nonzero (isStep.trans (congrArg _ zero))
    rw [suggestPrice_number isBase isStep (isStep ▸ valid.step) nonzero] at suggested
    split at suggested
    · next fits =>
      obtain rfl := Decimal.number.inj (Option.some.inj (Except.ok.inj suggested))
      obtain ⟨positive, shows, covers⟩ := safePrice_iff.mp safe
      exact ⟨value, rfl, positive, divisible, shows, by rwa [shows] at fits, covers⟩
    · cases suggested

/-- Safe amounts are priced. -/
theorem SafeAmounts.priced (safe : SafeAmounts amounts settings currency)
    (valid : ParsedSettings settings) :
    ∃ pricing, priceAmounts amounts settings currency = .ok pricing := by
  obtain ⟨⟨⟨cost, recorded⟩, converted⟩, computed, isComputed⟩ :=
    convertible_iff.mp safe.convertible
  have suggests : ∃ price, suggestPrice settings cost = .ok price := by
    have known := knownCost_of_convertCost converted
    cases cost with
    | none => exact ⟨none, rfl⟩
    | some costGtq =>
      cases asked : modeValue settings with
      | none =>
        rw [suggestPrice, basePrice_of_unasked asked]
        exact ⟨none, rfl⟩
      | some modeAmount =>
        obtain ⟨cost, value, step, rfl, rfl, isStep, terms⟩ :=
          safe.terms costGtq modeAmount known asked
        obtain ⟨_, price, _, suggested, _⟩ := terms.suggests valid asked isStep
        exact ⟨_, suggested⟩
  obtain ⟨price, suggested⟩ := suggests
  exact ⟨⟨cost, recorded, price, amounts.referencePriceGtq.or computed⟩,
    priceAmounts_eq_ok_iff.mpr ⟨converted, suggested, computed, isComputed, rfl⟩⟩

end

/-! ## Ordinary terms -/

section

variable {mode : AiPricingMode} {cost value step : ℤ}

/-- A factor of few hundredths of a percent is not rounded. -/
private theorem toContext_of_percent {percent : ℤ} (few : |10000 + percent| < 10 ^ 28) :
    toContext (1 + percent / 100 / 100) = 1 + percent / 100 / 100 := by
  refine toContext_of_digits (-4) few ?_
  rw [zpow_neg]
  push_cast
  norm_num
  ring

/-- An unrounded price of ordinary hundredths is a fraction of integers in 28 digits, and the modes
other than the multiplier add to the cost. -/
theorem unroundedPrice_of_hundredths (mode : AiPricingMode) (nonneg : 0 ≤ cost)
    (costs : cost < 10 ^ 10) (percent : 0 ≤ value) (values : value < 10 ^ 10)
    (margin : mode = .marginPercent → value < 10000) :
    ∃ numerator denominator : ℤ, 0 < denominator ∧ 0 ≤ numerator ∧ numerator < 10 ^ 24 ∧
      unroundedPrice mode (cost / 100) (value / 100) = toContext (numerator / denominator) ∧
        (mode ≠ .multiplier → (cost / 100 : ℚ) ≤ numerator / denominator) := by
  cases mode with
  | manual =>
    have few : |cost| < 10 ^ 28 := by
      rw [abs_of_nonneg nonneg]
      omega
    refine ⟨cost, 100, by norm_num, nonneg, by omega, ?_, fun _ => by norm_num⟩
    exact (toContext_of_hundredths few).symm
  | multiplier =>
    refine ⟨cost * value, 10000, by norm_num, mul_nonneg nonneg percent, by nlinarith, ?_,
      fun never => absurd rfl never⟩
    rw [unroundedPrice]
    congr 1
    push_cast
    ring
  | markupPercent =>
    have few : |10000 + value| < 10 ^ 28 := by
      rw [abs_of_nonneg (by omega)]
      omega
    refine ⟨cost * (10000 + value), 1000000, by norm_num, by positivity, by nlinarith, ?_, ?_⟩
    · rw [unroundedPrice, toContext_of_percent few]
      congr 1
      push_cast
      ring
    · intro _
      have product : (0 : ℚ) ≤ cost * value := by exact_mod_cast mul_nonneg nonneg percent
      push_cast
      linarith
  | marginPercent =>
    have under : value < 10000 := margin rfl
    have rest : (0 : ℚ) < 10000 - value := by
      have : (value : ℚ) < 10000 := by exact_mod_cast under
      linarith
    have few : |10000 + -value| < 10 ^ 28 := by
      rw [abs_of_nonneg (by omega)]
      omega
    have share : (1 - value / 100 / 100 : ℚ) = 1 + (-value : ℤ) / 100 / 100 := by
      push_cast
      ring
    refine ⟨100 * cost, 10000 - value, by omega, by omega, by omega, ?_, ?_⟩
    · rw [unroundedPrice, share, toContext_of_percent few, ← share]
      congr 1
      have part : (1 - value / 100 / 100 : ℚ) = (10000 - value) / 10000 := by ring
      rw [part]
      push_cast
      field_simp
      norm_num
    · intro _
      have product : (0 : ℚ) ≤ cost * value := by exact_mod_cast mul_nonneg nonneg percent
      push_cast
      rw [div_le_div_iff₀ (by norm_num) rest]
      linarith

/-- Positive steps, markups and multipliers from zero up and margins from zero up to but not
including a hundred percent are safe terms for every cost that is not negative, all below a hundred
million. -/
theorem safeTerms_of_hundredths (nonneg : 0 ≤ cost) (costs : cost < 10 ^ 10) (percent : 0 ≤ value)
    (values : value < 10 ^ 10) (positive : 0 < step) (steps : step < 10 ^ 10)
    (margin : mode = .marginPercent → value < 10000) :
    SafeTerms mode (cost / 100) (value / 100) (step / 100) := by
  obtain ⟨numerator, denominator, below, above, bounded, isPrice, adds⟩ :=
    unroundedPrice_of_hundredths mode nonneg costs percent values margin
  have isPositive : (0 : ℚ) < step / 100 := by
    have : (0 : ℚ) < step := by exact_mod_cast positive
    positivity
  have fraction : (0 : ℚ) ≤ numerator / denominator := by positivity
  obtain ⟨shows, counted⟩ := ceil_toContext_steps below positive (abs_of_nonneg above ▸ bounded)
  refine ⟨isPositive, ?_, ?_, ?_, ?_⟩
  · intro isMargin whole
    have := margin isMargin
    have isWhole : (value : ℚ) = 10000 := by linarith
    have : value = 10000 := by exact_mod_cast isWhole
    omega
  · rw [isPrice, shows, counted]
  · have least : (numerator / denominator : ℚ) ≤ Decimals.roundUpTo (numerator / denominator)
        (step / 100) :=
      Decimals.le_roundUpTo isPositive
    have most : Decimals.roundUpTo (numerator / denominator) (step / 100) <
        (numerator / denominator : ℚ) + step / 100 :=
        (Decimals.roundUpTo_lt_iff isPositive.ne').mpr isPositive
    have small : (numerator / denominator : ℚ) < 10 ^ 24 := by
      have whole : (numerator : ℚ) < 10 ^ 24 := by exact_mod_cast bounded
      have one : (1 : ℚ) ≤ denominator := by exact_mod_cast below
      exact (div_le_self (by exact_mod_cast above) one).trans_lt whole
    have short : (step : ℚ) < 10 ^ 10 := by exact_mod_cast steps
    rw [isPrice, Decimals.roundUpTo, counted, ← Decimals.roundUpTo,
      abs_of_nonneg (fraction.trans least)]
    linarith
  · intro other
    rw [isPrice, ← Decimals.le_roundUpTo_iff isPositive, Decimals.roundUpTo, counted]
    exact (adds other).trans (Decimals.le_roundUpTo isPositive)

end

/-! ## The theorem -/

/-- Pricing a line is safe exactly when its amounts are, unless their texts are refused. -/
theorem suggested_prices_safe_iff (line : AiPreloadLine) (request : PricingRequest)
    (settings : PricingSettings) (accepted : pricingSettings request = .ok settings) :
    PricedSafely line settings ↔ ∀ amounts, parseAmounts line = .ok amounts →
      SafeAmounts amounts settings (lineCurrency line settings) := by
  have valid := parsedSettings accepted
  constructor
  · rintro ⟨quiet, safe⟩ amounts parsed
    obtain ⟨pricing, success⟩ := (not_raised_iff parsed).mp quiet
    have priced := applyPricing_eq_ok_iff.mpr ⟨amounts, pricing, parsed, success, rfl⟩
    obtain ⟨converted, suggested, computed, isComputed, _⟩ := priceAmounts_eq_ok_iff.mp success
    refine ⟨convertible_iff.mpr ⟨⟨_, converted⟩, computed, isComputed⟩, ?_⟩
    intro costGtq modeAmount known asked
    obtain ⟨cost, base, price, step, rfl, isBase, isPrice, isStep, safe⟩ :=
      safe amounts _ costGtq parsed priced known (Option.isSome_iff_exists.mpr ⟨modeAmount, asked⟩)
    rw [← knownCost_of_convertCost converted, known] at suggested
    obtain ⟨found, isFound⟩ := price_of_basePrice isBase suggested
    have written : format found = .number price := by
      rw [recordPricing, isFound] at isPrice
      exact Option.some.inj isPrice
    obtain rfl : found = .number price := by
      cases found with
      | number value => exact congrArg _ (DecimalText.number.inj written)
      | notANumber => cases written
    rw [isFound] at suggested
    obtain ⟨value, isValue, terms⟩ :=
      safeTerms_of_safePrice valid asked isStep isBase suggested safe
    exact ⟨cost, value, step, rfl, isValue, isStep, terms⟩
  · intro safe
    refine ⟨?_, ?_⟩
    · cases parsed : parseAmounts line with
      | error error =>
        rw [applyPricing, parsed]
        rintro _ ⟨⟩
      | ok amounts => exact (not_raised_iff parsed).mpr ((safe amounts parsed).priced valid)
    · intro amounts priced costGtq parsed success known asked
      obtain ⟨modeAmount, isAmount⟩ := Option.isSome_iff_exists.mp asked
      obtain ⟨cost, value, step, rfl, rfl, isStep, terms⟩ :=
        (safe amounts parsed).terms costGtq modeAmount known isAmount
      obtain ⟨base, price, isBase, isPrice, holds⟩ := terms.suggests valid isAmount isStep
      obtain ⟨_, pricing, isParsed, found, rfl⟩ := applyPricing_eq_ok_iff.mp success
      obtain rfl := Except.ok.inj (parsed.symm.trans isParsed)
      obtain ⟨converted, suggested, _⟩ := priceAmounts_eq_ok_iff.mp found
      rw [← knownCost_of_convertCost converted, known, isPrice] at suggested
      refine ⟨cost, base, price, step, rfl, isBase, ?_, isStep, holds⟩
      rw [recordPricing, ← Except.ok.inj suggested]
      rfl

namespace Sample

/-- Ten quetzales. -/
def tenQuetzales : AiPreloadLine := { originalCost := some (.number 10) }

/-- A margin, with the default step. -/
def atMargin (percent : ℚ) : PricingRequest :=
  { pricingMode := .marginPercent, marginPercent := some (.number percent) }

/-- The settings of a margin. -/
def settingsAt (percent : ℚ) : PricingSettings :=
  { sourceCurrency := "GTQ", exchangeRateToGtq := none, pricingMode := .marginPercent
    markupPercent := none, marginPercent := some (.number percent), multiplier := none
    roundingStep := .number 1 }

/-- A margin of hundredths is accepted. -/
theorem margin_accepted (hundredths : ℤ) (few : |hundredths| < 10 ^ 28) :
    pricingSettings (atMargin (hundredths / 100)) = .ok (settingsAt (hundredths / 100)) := by
  have margin : parseDecimal (some (.number (hundredths / 100))) = .ok
      (some (.number (hundredths / 100))) :=
    @parseDecimal_format (.number (hundredths / 100)) ⟨hundredths, few, rfl⟩
  have step : parseDecimal (some (.number 1)) = .ok (some (.number 1)) :=
    @parseDecimal_format (.number 1) ⟨100, by norm_num, by norm_num⟩
  simp only [pricingSettings, atMargin, margin, step, parseDecimal_none]
  rfl

def ten : LineAmounts :=
  { originalCost := some (.number 10), costGtq := none, referencePriceOriginal := none
    referencePriceGtq := none }

private theorem ten_parsed : parseAmounts tenQuetzales = .ok ten :=
  parseAmounts_eq_ok_iff.mpr
    ⟨@parseDecimal_format (.number 10) ⟨1000, by norm_num, by norm_num⟩, rfl, rfl, rfl⟩

end Sample

/-- Ten quetzales at a margin of thirty percent are priced safely. -/
theorem tenQuetzales_priced_safely : PricedSafely Sample.tenQuetzales (Sample.settingsAt 30) := by
  have accepted : pricingSettings (Sample.atMargin 30) = .ok (Sample.settingsAt 30) := by
    have hundredths := Sample.margin_accepted 3000 (by norm_num)
    norm_num at hundredths
    exact hundredths
  refine (suggested_prices_safe_iff Sample.tenQuetzales (Sample.atMargin 30) (Sample.settingsAt 30)
    accepted).mpr fun amounts parsed => ?_
  obtain rfl := Except.ok.inj (parsed.symm.trans Sample.ten_parsed)
  have rate : conversionRate (Sample.settingsAt 30)
      (lineCurrency Sample.tenQuetzales (Sample.settingsAt 30)) = some (.number 1) := by
      decide +kernel
  have converts : (Decimal.multiply (.number 10) (.number 1)).quantize = .ok (.number 10) := by
    decide +kernel
  refine ⟨⟨by rintro _ _ _ ⟨⟩, ?_, by rintro _ _ ⟨⟩⟩, ?_⟩
  · rintro _ _ ⟨rfl⟩ _ isRate
    obtain rfl := Option.some.inj (rate.symm.trans isRate)
    exact quantize_eq_ok_iff_fits.mp ⟨_, converts⟩
  · rintro costGtq _ known ⟨rfl⟩
    rw [rate] at known
    have isTen : costGtq = .number 10 := by
      have found : Sample.ten.knownCost (some (.number 1)) = some (.number 10) := by decide +kernel
      exact Option.some.inj (known.symm.trans found)
    have terms : SafeTerms .marginPercent ((1000 : ℤ) / 100) ((3000 : ℤ) / 100) ((100 : ℤ) / 100) :=
      safeTerms_of_hundredths (by norm_num) (by norm_num) (by norm_num) (by norm_num) (by norm_num)
        (by norm_num) (fun _ => by norm_num)
    norm_num at terms
    exact ⟨10, 30, 1, isTen, rfl, rfl, terms⟩

/-- A margin of a hundred percent is accepted, and its price divides by zero. -/
theorem whole_margin_divides_by_zero :
    ¬ ∀ (line : AiPreloadLine) (request : PricingRequest) (settings : PricingSettings),
      (∀ cost ∈ line.originalCost, ∃ value, cost = .number value ∧ 0 ≤ value) →
        (∀ percent ∈ request.marginPercent, ∃ value, percent = .number value ∧ 0 ≤ value) →
          (∀ step ∈ request.roundingStep, ∃ value, step = .number value ∧ 0 ≤ value) →
            pricingSettings request = .ok settings → PricedSafely line settings := by
  intro safe
  have accepted : pricingSettings (Sample.atMargin 100) = .ok (Sample.settingsAt 100) := by
    have hundredths := Sample.margin_accepted 10000 (by norm_num)
    norm_num at hundredths
    exact hundredths
  have quiet := (safe Sample.tenQuetzales (Sample.atMargin 100) (Sample.settingsAt 100)
    (by rintro _ ⟨rfl⟩; exact ⟨10, rfl, by norm_num⟩)
    (by rintro _ ⟨rfl⟩; exact ⟨100, rfl, by norm_num⟩)
    (by rintro _ ⟨rfl⟩; exact ⟨1, rfl, by norm_num⟩) accepted).1
  obtain ⟨pricing, success⟩ := (not_raised_iff Sample.ten_parsed).mp quiet
  have fails : (priceAmounts Sample.ten (Sample.settingsAt 100)
      (lineCurrency Sample.tenQuetzales (Sample.settingsAt 100))).toOption.isNone = true := by
    decide +kernel
  rw [success] at fails
  contradiction

end ArisCloud.AiPricing

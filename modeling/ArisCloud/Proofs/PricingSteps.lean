import ArisCloud.Model.AiPricing

/-! # What pricing a line finds

Texts are parsed to settled amounts, and the text of a settled amount is parsed to it again. A cost
is known when it is given or converted. Converting signals nothing when the products fit and a cost
that is given divides by a number, and suggesting a price from numbers fails on a margin of a
hundred percent, or when the price does not fit.
-/

namespace ArisCloud.AiPricing

open DecimalContext

/-- The cost in quetzales of a line with an original cost: the one that is given, or the original
cost at its rate. -/
def LineAmounts.knownCost (amounts : LineAmounts) (rate : Option Decimal) : Option Decimal :=
  amounts.originalCost.bind fun originalCost => amounts.costGtq.or
    (rate.bind fun rate => (originalCost.multiply rate).quantize.toOption)

/-- A cost that is given is divided by a number, and the quotient fits. -/
def ImpliedRateFits (costGtq originalCost : Decimal) : Prop :=
  ∃ original, originalCost = .number original ∧ (0 < original →
    ∀ cost, costGtq = .number cost → FitsHundredths (toContext (cost / original)))

/-- What keeps the conversions of a line from signaling. -/
structure Convertible (amounts : LineAmounts) (settings : PricingSettings) (currency : String) :
    Prop where
  given : ∀ originalCost costGtq, amounts.originalCost = some originalCost →
    amounts.costGtq = some costGtq → ImpliedRateFits costGtq originalCost
  converted : ∀ originalCost rate, amounts.originalCost = some originalCost →
    amounts.costGtq = none → conversionRate settings currency = some rate →
      (originalCost.multiply rate).Fits
  reference : ∀ price rate, amounts.referencePriceOriginal = some price → currency ≠ "GTQ" →
    settings.exchangeRateToGtq = some rate → (price.multiply rate).Fits

/-- The percentage or multiplier of the mode. -/
def modeValue (settings : PricingSettings) : Option Decimal :=
  match settings.pricingMode with
  | .markupPercent => settings.markupPercent
  | .marginPercent => settings.marginPercent
  | .multiplier => settings.multiplier
  | .manual => none

/-- The price of a mode before it is rounded up, each step of it in 28 digits. -/
def unroundedPrice (mode : AiPricingMode) (cost value : ℚ) : ℚ :=
  match mode with
  | .markupPercent => toContext (cost * toContext (1 + value / 100))
  | .marginPercent => toContext (cost / toContext (1 - value / 100))
  | .multiplier => toContext (cost * value)
  | .manual => cost

/-- Settings as they are parsed: settled amounts, and a step other than zero. -/
structure ParsedSettings (settings : PricingSettings) : Prop where
  nonzero : settings.roundingStep ≠ .number 0
  step : settings.roundingStep.Settled
  rate : ∀ rate ∈ settings.exchangeRateToGtq, rate.Settled
  value : ∀ value ∈ modeValue settings, value.Settled

/-! ## Parsing -/

section

variable {raw : Option DecimalText} {amount : Decimal} {line : AiPreloadLine}
  {settings : PricingSettings}

@[simp] theorem parseDecimal_none : parseDecimal none = .ok none := rfl

/-- What was parsed is settled. -/
theorem settled_of_parseDecimal (parsed : parseDecimal raw = .ok (some amount)) :
    amount.Settled := by
  cases raw with
  | none => exact nomatch parsed
  | some text =>
    cases read : readDecimal text >>= Decimal.quantize with
    | error signal =>
      rw [parseDecimal, read] at parsed
      exact nomatch parsed
    | ok quantized =>
      rw [parseDecimal, read] at parsed
      obtain rfl := Option.some.inj (Except.ok.inj parsed)
      obtain ⟨given, _, success⟩ := Checked.bind_eq_ok.mp read
      exact .of_quantize success

/-- A settled amount is read from its text. -/
theorem parseDecimal_format (settled : amount.Settled) :
    parseDecimal (some (format amount)) = .ok (some amount) := by
  have read : readDecimal (format amount) = .ok amount := by cases amount <;> rfl
  rw [parseDecimal, read]
  change ((amount.quantize).mapError _).map some = _
  rw [settled.quantize_eq]
  rfl

/-- What a request asks for is parsed to settled amounts. -/
theorem parsedSettings {request : PricingRequest}
    (accepted : pricingSettings request = .ok settings) :
    ParsedSettings settings := by
  obtain ⟨exchangeRate, isRate, rest⟩ := Checked.bind_eq_ok.mp accepted
  obtain ⟨step, isStep, rest⟩ := Checked.bind_eq_ok.mp rest
  obtain ⟨markup, isMarkup, rest⟩ := Checked.bind_eq_ok.mp rest
  obtain ⟨margin, isMargin, rest⟩ := Checked.bind_eq_ok.mp rest
  obtain ⟨multiplier, isMultiplier, rest⟩ := Checked.bind_eq_ok.mp rest
  obtain rfl := Except.ok.inj rest
  have settledOf {raw : Option DecimalText} {parsed : Option Decimal}
      (success : parseDecimal raw = .ok parsed) : ∀ amount ∈ parsed, amount.Settled := by
    rintro amount rfl
    exact settled_of_parseDecimal success
  have chosen : (step.filter (· ≠ .number 0)).getD (.number 1) ≠ .number 0 ∧
      ((step.filter (· ≠ .number 0)).getD (.number 1)).Settled := by
    cases found : step.filter (· ≠ .number 0) with
    | none => exact ⟨by decide +kernel, 100, by norm_num, by norm_num⟩
    | some amount =>
      obtain ⟨isAmount, nonzero⟩ := Option.filter_eq_some_iff.mp found
      exact ⟨by simpa using nonzero, settledOf isStep amount isAmount⟩
  refine ⟨chosen.1, chosen.2, settledOf isRate, ?_⟩
  intro value isValue
  simp only [modeValue] at isValue
  split at isValue
  · exact settledOf isMarkup value isValue
  · exact settledOf isMargin value isValue
  · exact settledOf isMultiplier value isValue
  · contradiction

theorem settled_of_conversionRate (valid : ParsedSettings settings) {currency : String}
    {rate : Decimal} (converts : conversionRate settings currency = some rate) : rate.Settled := by
  rw [conversionRate] at converts
  split at converts
  · obtain rfl := Option.some.inj converts
    exact ⟨100, by norm_num, by norm_num⟩
  · exact valid.rate rate converts

/-- The columns of a line that are parsed are parsed to its amounts. -/
theorem parseAmounts_eq_ok_iff {amounts : LineAmounts} : parseAmounts line = .ok amounts ↔
    parseDecimal line.originalCost = .ok amounts.originalCost ∧
      parseDecimal line.costGtq = .ok amounts.costGtq ∧
        parseDecimal line.referencePriceOriginal = .ok amounts.referencePriceOriginal ∧
          parseDecimal line.referencePriceGtq = .ok amounts.referencePriceGtq := by
  simp only [parseAmounts, Checked.bind_eq_ok, Checked.pure_eq_ok]
  constructor
  · rintro ⟨_, original, _, cost, _, reference, _, given, rfl⟩
    exact ⟨original, cost, reference, given⟩
  · rintro ⟨original, cost, reference, given⟩
    exact ⟨_, original, _, cost, _, reference, _, given, rfl⟩

end

/-! ## Converting -/

section

variable {amounts : LineAmounts} {settings : PricingSettings} {currency : String}
  {cost recorded rate : Option Decimal} {pricing : Pricing}

/-- Without a cost to divide by no rate is implied. -/
theorem impliedRate_of_nonpositive {costGtq : Decimal} {original : ℚ}
    (nonpositive : ¬ 0 < original) :
    impliedRate costGtq (.number original) = .ok none := by
  change (if decide (0 < original) = true then _ else _) = _
  rw [if_neg (by simpa using nonpositive)]
  rfl

theorem impliedRate_of_positive {costGtq : Decimal} {original : ℚ} (positive : 0 < original) :
    impliedRate costGtq (.number original) =
      (costGtq.divide (.number original) >>= fun rate => rate.quantize.map some) := by
  change (if decide (0 < original) = true then _ else _) = _
  rw [if_pos (by simpa using positive)]
  rfl

theorem divide_number {value divisor : ℚ} (nonzero : divisor ≠ 0) :
    Decimal.divide (.number value) (.number divisor) = .ok
    (.number (toContext (value / divisor))) := by
  rw [Decimal.divide, if_neg nonzero]
  rfl

/-- A quantized amount is found exactly when it fits. -/
theorem quantize_map_succeeds_iff {α : Type} {amount : Decimal} (f : Decimal → α) :
    (∃ result, amount.quantize.map f = .ok result) ↔ amount.Fits := by
  rw [← quantize_eq_ok_iff_fits]
  cases amount.quantize with
  | error signal =>
    exact iff_of_false (fun ⟨_, never⟩ => nomatch never) (fun ⟨_, never⟩ => nomatch never)
  | ok quantized => exact iff_of_true ⟨_, rfl⟩ ⟨_, rfl⟩

/-- Nothing is signaled about the rate of a cost that is given exactly when it fits. -/
theorem impliedRate_succeeds_iff {costGtq originalCost : Decimal} :
    (∃ rate, impliedRate costGtq originalCost = .ok rate) ↔
    ImpliedRateFits costGtq originalCost := by
  cases originalCost with
  | notANumber =>
    refine iff_of_false (fun ⟨_, never⟩ => nomatch never) ?_
    rintro ⟨_, never, _⟩
    exact nomatch never
  | number original =>
    by_cases positive : 0 < original
    · rw [impliedRate_of_positive positive]
      cases costGtq with
      | notANumber =>
        refine iff_of_true ⟨_, rfl⟩ ⟨original, rfl, fun _ cost isCost => nomatch isCost⟩
      | number cost =>
        rw [divide_number positive.ne']
        change (∃ rate, (Decimal.number (toContext (cost / original))).quantize.map some =
          .ok rate) ↔ _
        rw [quantize_map_succeeds_iff, Decimal.Fits]
        constructor
        · intro fits
          refine ⟨original, rfl, fun _ found isFound => ?_⟩
          obtain rfl := Decimal.number.inj isFound
          exact fits
        · rintro ⟨found, isFound, fits⟩
          obtain rfl := Decimal.number.inj isFound
          exact fits positive cost rfl
    · refine iff_of_true ⟨_, impliedRate_of_nonpositive positive⟩ ?_
      exact ⟨original, rfl, fun isPositive => absurd isPositive positive⟩

/-- The cost that a conversion finds is the known one. -/
theorem knownCost_of_convertCost (success : convertCost amounts rate = .ok (cost, recorded)) :
    amounts.knownCost rate = cost := by
  rw [LineAmounts.knownCost]
  cases original : amounts.originalCost with
  | none =>
    simp only [convertCost, original] at success
    exact congrArg Prod.fst (Except.ok.inj success)
  | some originalCost =>
    cases given : amounts.costGtq with
    | some costGtq =>
      simp only [convertCost, original, given] at success
      obtain ⟨_, _, found⟩ := Checked.bind_eq_ok.mp success
      exact congrArg Prod.fst (Except.ok.inj found)
    | none =>
      cases rate with
      | none =>
        simp only [convertCost, original, given] at success
        exact congrArg Prod.fst (Except.ok.inj success)
      | some rate =>
        simp only [convertCost, original, given] at success
        obtain ⟨converted, product, found⟩ := Checked.bind_eq_ok.mp success
        rw [Option.bind_some, Option.bind_some, product]
        exact congrArg Prod.fst (Except.ok.inj found)

/-- Nothing is signaled about a cost exactly when its rate or its conversion fits. -/
theorem convertCost_succeeds_iff : (∃ found, convertCost amounts rate = .ok found) ↔
    (∀ originalCost costGtq, amounts.originalCost = some originalCost →
      amounts.costGtq = some costGtq → ImpliedRateFits costGtq originalCost) ∧
        ∀ originalCost found, amounts.originalCost = some originalCost → amounts.costGtq = none →
          rate = some found → (originalCost.multiply found).Fits := by
  cases original : amounts.originalCost with
  | none =>
    refine iff_of_true ⟨(none, none), ?_⟩
      ⟨fun _ _ never => (nomatch never), fun _ _ never => (nomatch never)⟩
    simp only [convertCost, original]
    rfl
  | some originalCost =>
    cases given : amounts.costGtq with
    | some costGtq =>
      have succeeds : (∃ found, convertCost amounts rate = .ok found) ↔
          ∃ implied, impliedRate costGtq originalCost = .ok implied := by
        simp only [convertCost, original, given]
        cases impliedRate costGtq originalCost with
        | error signal =>
          exact iff_of_false (fun ⟨_, never⟩ => nomatch never) (fun ⟨_, never⟩ => nomatch never)
        | ok implied => exact iff_of_true ⟨_, rfl⟩ ⟨_, rfl⟩
      rw [succeeds, impliedRate_succeeds_iff]
      constructor
      · rintro fits
        refine ⟨?_, fun _ _ _ never => nomatch never⟩
        rintro _ _ ⟨rfl⟩ ⟨rfl⟩
        exact fits
      · rintro ⟨fits, _⟩
        exact fits originalCost costGtq rfl rfl
    | none =>
      cases rate with
      | none =>
        refine iff_of_true ⟨(none, none), ?_⟩
          ⟨fun _ _ _ never => (nomatch never), fun _ _ _ _ never => (nomatch never)⟩
        simp only [convertCost, original, given]
        rfl
      | some rate =>
        have succeeds : (∃ found, convertCost amounts (some rate) = .ok found) ↔
            (originalCost.multiply rate).Fits := by
          simp only [convertCost, original, given]
          exact quantize_map_succeeds_iff fun converted => (some converted, some rate)
        rw [succeeds]
        constructor
        · rintro fits
          refine ⟨fun _ _ _ never => (nomatch never), ?_⟩
          rintro _ _ ⟨rfl⟩ _ ⟨rfl⟩
          exact fits
        · rintro ⟨_, fits⟩
          exact fits originalCost rate rfl rfl rfl

/-- Nothing is signaled about a reference price exactly when its conversion fits. -/
theorem convertReference_succeeds_iff {referencePriceOriginal : Option Decimal} :
    (∃ computed, convertReference referencePriceOriginal settings currency = .ok computed) ↔
      ∀ price rate, referencePriceOriginal = some price → currency ≠ "GTQ" →
        settings.exchangeRateToGtq = some rate → (price.multiply rate).Fits := by
  cases referencePriceOriginal with
  | none => exact iff_of_true ⟨none, rfl⟩ fun _ _ never => nomatch never
  | some price =>
    by_cases home : currency = "GTQ"
    · refine iff_of_true ⟨some price, ?_⟩ fun _ _ _ foreign => absurd home foreign
      simp only [convertReference, if_pos home]
      rfl
    · cases known : settings.exchangeRateToGtq with
      | none =>
        refine iff_of_true ⟨none, ?_⟩ fun _ _ _ _ never => nomatch never
        simp only [convertReference, if_neg home, known]
        rfl
      | some rate =>
        have succeeds :
            (∃ computed, convertReference (some price) settings currency = .ok computed) ↔
            (price.multiply rate).Fits := by
          simp only [convertReference, if_neg home, known]
          exact quantize_map_succeeds_iff some
        rw [succeeds]
        constructor
        · rintro fits _ _ ⟨rfl⟩ _ ⟨rfl⟩
          exact fits
        · intro fits
          exact fits price rate rfl home rfl

/-- Converting succeeds exactly when nothing is signaled on the way. -/
theorem convertible_iff : Convertible amounts settings currency ↔
    (∃ found, convertCost amounts (conversionRate settings currency) = .ok found) ∧
      ∃ computed, convertReference amounts.referencePriceOriginal settings currency =
      .ok computed := by
  rw [convertCost_succeeds_iff, convertReference_succeeds_iff]
  constructor
  · rintro ⟨given, converted, reference⟩
    exact ⟨⟨given, converted⟩, reference⟩
  · rintro ⟨⟨given, converted⟩, reference⟩
    exact ⟨given, converted, reference⟩

/-- Pricing finds a cost, then its price, then the reference price. -/
theorem priceAmounts_eq_ok_iff : priceAmounts amounts settings currency = .ok pricing ↔
    convertCost amounts (conversionRate settings currency) =
        .ok (pricing.costGtq, pricing.exchangeRateToGtq) ∧
      suggestPrice settings pricing.costGtq = .ok pricing.suggestedPriceGtq ∧
        ∃ computed, convertReference amounts.referencePriceOriginal settings currency =
        .ok computed ∧
          amounts.referencePriceGtq.or computed = pricing.referencePriceGtq := by
  rw [priceAmounts, Checked.bind_eq_ok]
  constructor
  · rintro ⟨⟨cost, recorded⟩, converted, rest⟩
    obtain ⟨price, suggested, rest⟩ := Checked.bind_eq_ok.mp rest
    obtain ⟨computed, isComputed, rest⟩ := Checked.bind_eq_ok.mp rest
    obtain rfl := Except.ok.inj rest
    exact ⟨converted, suggested, computed, isComputed, rfl⟩
  · rintro ⟨converted, suggested, computed, isComputed, chosen⟩
    refine ⟨_, converted, Checked.bind_eq_ok.mpr ⟨_, suggested, ?_⟩⟩
    refine Checked.bind_eq_ok.mpr ⟨_, isComputed, ?_⟩
    rw [chosen]
    rfl

/-- A line is priced when its amounts are parsed and nothing is signaled about them. -/
theorem applyPricing_eq_ok_iff {line priced : AiPreloadLine} :
    applyPricing line settings = .ok priced ↔
    ∃ amounts pricing, parseAmounts line = .ok amounts ∧
      priceAmounts amounts settings (lineCurrency line settings) = .ok pricing ∧
        recordPricing line amounts settings pricing = priced := by
  rw [applyPricing]
  cases parseAmounts line with
  | error error =>
    refine iff_of_false (fun never => nomatch never) ?_
    rintro ⟨_, _, never, _⟩
    exact nomatch never
  | ok amounts =>
    change ((priceAmounts amounts settings (lineCurrency line settings)).mapError _ >>= _) = _ ↔ _
    cases priced : priceAmounts amounts settings (lineCurrency line settings) with
    | error signal =>
      refine iff_of_false (fun never => nomatch never) ?_
      rintro ⟨_, _, ⟨rfl⟩, never, _⟩
      exact nomatch priced.symm.trans never
    | ok pricing =>
      constructor
      · intro success
        exact ⟨amounts, pricing, rfl, priced, Except.ok.inj success⟩
      · rintro ⟨_, found, ⟨rfl⟩, isFound, recorded⟩
        obtain rfl := Except.ok.inj (priced.symm.trans isFound)
        exact congrArg Except.ok recorded

/-- Nothing is signaled for a line exactly when pricing its amounts succeeds. -/
theorem not_raised_iff {line : AiPreloadLine} {amounts : LineAmounts}
    (parsed : parseAmounts line = .ok amounts) :
    (∀ signal, applyPricing line settings ≠ .error (.raised signal)) ↔
      ∃ pricing, priceAmounts amounts settings (lineCurrency line settings) = .ok pricing := by
  rw [applyPricing, parsed]
  change (∀ signal,
    ((priceAmounts amounts settings (lineCurrency line settings)).mapError _ >>= _) ≠ _) ↔ _
  cases priceAmounts amounts settings (lineCurrency line settings) with
  | error signal =>
    exact iff_of_false (fun never => never signal rfl) (fun ⟨_, never⟩ => nomatch never)
  | ok pricing => exact iff_of_true (fun _ never => nomatch never) ⟨pricing, rfl⟩

end

/-! ## Suggesting -/

section

variable {settings : PricingSettings} {costGtq : Decimal} {cost value base step : ℚ}

/-- A percentage of hundredths is divided by a hundred without rounding. -/
theorem divide_percent (settled : (Decimal.number value).Settled) :
    (Decimal.number value).divide (.number 100) = .ok (.number (value / 100)) := by
  obtain ⟨hundredths, few, rfl⟩ := settled
  rw [divide_number (by norm_num), toContext_of_digits (-4) few]
  rw [zpow_neg]
  norm_num
  ring

theorem basePrice_of_unasked (unasked : modeValue settings = none) :
    basePrice settings costGtq = .ok none := by
  cases mode : settings.pricingMode <;> simp only [modeValue, mode] at unasked <;>
    simp only [basePrice, mode, unasked] <;> rfl

/-- Without a number for the mode there is no number for the price. -/
theorem basePrice_of_notANumber (asked : modeValue settings = some .notANumber) :
    basePrice settings costGtq = .ok (some .notANumber) := by
  cases mode : settings.pricingMode <;> simp only [modeValue, mode] at asked
  case manual => contradiction
  all_goals
    simp only [basePrice, mode, asked]
    cases costGtq <;> rfl

/-- From numbers, but for a margin of a hundred percent, the unrounded price is computed. -/
theorem basePrice_number (asked : modeValue settings = some (.number value))
    (settled : (Decimal.number value).Settled)
    (divisible : settings.pricingMode = .marginPercent → value ≠ 100) :
    basePrice settings (.number cost) =
      .ok (some (.number (unroundedPrice settings.pricingMode cost value))) := by
  cases mode : settings.pricingMode <;> simp only [modeValue, mode] at asked
  case manual => contradiction
  case markupPercent =>
    simp only [basePrice, mode, asked, divide_percent settled]
    rfl
  case multiplier =>
    simp only [basePrice, mode, asked]
    rfl
  case marginPercent =>
    have rest : toContext (1 - value / 100) ≠ 0 := by
      rw [Ne, toContext_eq_zero_iff]
      intro whole
      exact divisible mode (by linarith)
    simp only [basePrice, mode, asked, divide_percent settled]
    change (Decimal.divide (.number cost) (.number (toContext (1 - value / 100))) >>= _) = _
    rw [divide_number rest]
    rfl

/-- A margin of a hundred percent divides a number by zero. -/
theorem basePrice_of_wholeMargin (asked : modeValue settings = some (.number 100))
    (mode : settings.pricingMode = .marginPercent) :
    ∃ signal, basePrice settings (.number cost) = .error signal := by
  have settled : (Decimal.number 100).Settled := ⟨10000, by norm_num, by norm_num⟩
  have rest : toContext (1 - 100 / 100) = 0 := toContext_eq_zero_iff.mpr (by norm_num)
  simp only [modeValue, mode] at asked
  simp only [basePrice, mode, asked, divide_percent settled]
  change ∃ signal, (Decimal.divide (.number cost) (.number (toContext (1 - 100 / 100))) >>= _) = _
  rw [rest, Decimal.divide, if_pos rfl]
  exact ⟨_, rfl⟩

/-- A base price is rounded up to a multiple of the step that is found in 28 digits and has to
fit. -/
theorem suggestPrice_number (isBase : basePrice settings costGtq = .ok (some (.number base)))
    (isStep : settings.roundingStep = .number step) (settled : (Decimal.number step).Settled)
    (nonzero : step ≠ 0) :
    suggestPrice settings (some costGtq) = if |⌈toContext (base / step)⌉ * step| < 10 ^ 26
      then .ok (some (.number (⌈toContext (base / step)⌉ * step)))
      else .error .invalidOperation := by
  obtain ⟨hundredths, _, rfl⟩ := settled
  generalize isSteps : ⌈toContext (base / (hundredths / 100))⌉ = steps
  have whole : (steps * (hundredths / 100) : ℚ) = ((steps * hundredths : ℤ) : ℚ) / 100 := by
    push_cast
    ring
  have fits : |(steps * (hundredths / 100) : ℚ)| < 10 ^ 26 ↔ |steps * hundredths| < 10 ^ 28 := by
    rw [whole, abs_div, div_lt_iff₀ (by norm_num)]
    norm_num
    exact_mod_cast Iff.rfl
  have rounded : roundUp (.number base) (.number (hundredths / 100)) =
      .ok (.number (toContext (steps * (hundredths / 100)))) := by
    rw [roundUp, divide_number nonzero]
    change Except.ok (Decimal.number (toContext (⌈toContext (base / (hundredths / 100))⌉ * _))) = _
    rw [isSteps]
  simp only [suggestPrice, isBase, isStep, bind, Except.bind, rounded]
  by_cases few : |steps * hundredths| < 10 ^ 28
  · rw [if_pos (fits.mpr few), whole, quantize_toContext, if_pos few]
    rfl
  · rw [if_neg (mt fits.mp few), whole, quantize_toContext, if_neg few]

end

end ArisCloud.AiPricing

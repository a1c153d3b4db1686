import ArisCloud.Proofs.PricingSteps

/-! # Pricing a priced line

A line is priced when its document is analyzed and again when it is confirmed. The second time its
cost is given, so its rate is recovered from rounded amounts. All columns stay as they are but for
this rate, which is found again when the original cost is a number and the converted cost is close
enough to whole hundredths.
-/

namespace ArisCloud.AiPricing

open DecimalContext Decimals

/-- Pricing a priced line succeeds and leaves its cost, its rate and its prices as they are. -/
def PricedAgain (priced : AiPreloadLine) (settings : PricingSettings) : Prop :=
  ∃ again, applyPricing priced settings = .ok again ∧ again.costGtq = priced.costGtq ∧
    again.exchangeRateToGtq = priced.exchangeRateToGtq ∧
      again.suggestedPriceGtq = priced.suggestedPriceGtq ∧
        again.referencePriceGtq = priced.referencePriceGtq

/-- The rate of a positive number is found again after its conversion: the product misses whole
hundredths by a part of a hundredth that is less than half the original cost, or is half of it while
the rate has an even number of hundredths. For products from ten to the 22 on the 28 digits have to
bring the quotient back to the rate. -/
def NumberRecovered (original rate : ℚ) : Prop :=
  if |original * rate| < 10 ^ 22 then
    2 * hundredthsOff (original * rate) < original ∨
      2 * hundredthsOff (original * rate) = original ∧ ⌊rate * 100⌋ % 2 = 0
  else Nearest (toContext (quantize (toContext (original * rate)) / original) * 100) ⌊rate * 100⌋

/-- A rate is found again when the original cost is a number that is not positive, or one whose rate
is none, or is recovered. -/
def RateRecovered : Decimal → Decimal → Prop
  | .notANumber, _ => False
  | .number _, .notANumber => True
  | .number original, .number rate => 0 < original → NumberRecovered original rate

/-! ## The rate of a converted cost -/

section

variable {original rate : ℚ}

/-- Rounded products that are not too large are divided without regard to the context. -/
private theorem roundHalfEven_quotient (positive : 0 < original)
    (isOriginal : (Decimal.number original).Settled) (isRate : (Decimal.number rate).Settled)
    (bounded : |original * rate| < 10 ^ 22) :
    roundHalfEven (toContext (quantize (toContext (original * rate)) / original) * 100) =
      roundHalfEven (quantize (original * rate) / original * 100) := by
  obtain ⟨hundredths, _, rfl⟩ := isOriginal
  obtain ⟨rateHundredths, _, rfl⟩ := isRate
  have product : (hundredths / 100 * (rateHundredths / 100) : ℚ) =
      ((hundredths * rateHundredths : ℤ) : ℚ) * 10 ^ (-4 : ℤ) := by
    rw [zpow_neg]
    push_cast
    norm_num
    ring
  have few : |hundredths * rateHundredths| < 10 ^ 28 := by
    have scaled : ((|hundredths * rateHundredths| : ℤ) : ℚ) =
        |(hundredths / 100 * (rateHundredths / 100) : ℚ)| * 10000 := by
      have split : ((hundredths * rateHundredths : ℤ) : ℚ) =
          hundredths / 100 * (rateHundredths / 100) * 10000 := by
        push_cast
        ring
      rw [Int.cast_abs, split, abs_mul]
      norm_num
    have less : ((|hundredths * rateHundredths| : ℤ) : ℚ) < 10 ^ 28 := by
      rw [scaled]
      linarith
    exact_mod_cast less
  rw [toContext_of_digits (-4) few product]
  have near := Floating.abs_sub_roundHalfEven_le
    (hundredths / 100 * (rateHundredths / 100) * 100 : ℚ)
  rw [quantize]
  generalize roundHalfEven (hundredths / 100 * (rateHundredths / 100) * 100 : ℚ) = cost at near ⊢
  have small : |cost| < 10 ^ 25 := by
    have triangle := abs_sub_abs_le_abs_sub (cost : ℚ)
      (hundredths / 100 * (rateHundredths / 100) * 100)
    rw [abs_sub_comm] at triangle
    have size : |(hundredths / 100 * (rateHundredths / 100) * 100 : ℚ)| < 10 ^ 24 := by
      rw [abs_mul, abs_of_pos (by norm_num : (0 : ℚ) < 100)]
      linarith
    have less : |(cost : ℚ)| < 10 ^ 25 := by linarith
    exact_mod_cast less
  have apart : 0 < hundredths := by
    have : (0 : ℚ) < hundredths := by linarith
    exact_mod_cast this
  have quotient : (cost / 100 / (hundredths / 100) : ℚ) = cost / hundredths := by field_simp
  rw [quotient]
  exact roundHalfEven_toContext_div apart small

/-- The second rate is the first one exactly when it is recovered. -/
theorem quantize_toContext_eq_iff (positive : 0 < original)
    (isOriginal : (Decimal.number original).Settled) (isRate : (Decimal.number rate).Settled) :
    quantize (toContext (quantize (toContext (original * rate)) / original)) = rate ↔
      NumberRecovered original rate := by
  obtain ⟨hundredths, _, whole⟩ := isRate
  have parity : ⌊rate * 100⌋ = hundredths := by
    rw [whole, div_mul_cancel₀ _ (by norm_num), Int.floor_intCast]
  have rounded (value : ℚ) : quantize value = rate ↔ roundHalfEven (value * 100) = hundredths := by
    rw [quantize, whole, div_left_inj' (by norm_num)]
    exact Int.cast_inj
  rw [rounded, NumberRecovered, parity]
  split
  · next bounded =>
    rw [roundHalfEven_quotient positive isOriginal ⟨hundredths, ‹_›, whole⟩ bounded, ← rounded]
    exact quantize_div_quantize_mul positive whole
  · exact roundHalfEven_eq_iff

/-- A converted cost implies no rate or the same one exactly when the rate is recovered. -/
theorem impliedRate_converted_iff {originalCost rate costGtq : Decimal}
    (isOriginal : originalCost.Settled) (isRate : rate.Settled)
    (converted : (originalCost.multiply rate).quantize = .ok costGtq) :
    impliedRate costGtq originalCost = .ok none ∨ impliedRate costGtq originalCost = .ok
    (some rate) ↔
      RateRecovered originalCost rate := by
  cases originalCost with
  | notANumber => exact iff_of_false (by rintro (never | never) <;> cases never) id
  | number original =>
    by_cases positive : 0 < original
    swap
    · refine iff_of_true (.inl (impliedRate_of_nonpositive positive)) ?_
      cases rate with
      | notANumber => trivial
      | number rate => exact fun isPositive => absurd isPositive positive
    rw [impliedRate_of_positive positive]
    cases rate with
    | notANumber =>
      obtain rfl := Except.ok.inj converted
      exact iff_of_true (.inr rfl) trivial
    | number rate =>
      obtain rfl : .number (quantize (toContext (original * rate))) = costGtq := by
        change (if FitsHundredths (toContext (original * rate)) then _ else _) = _ at converted
        split at converted
        · exact Except.ok.inj converted
        · cases converted
      rw [divide_number positive.ne', RateRecovered,
        ← quantize_toContext_eq_iff positive isOriginal isRate]
      generalize toContext (quantize (toContext (original * rate)) / original) = quotient
      change (Decimal.number quotient).quantize.map some = _ ∨
        (Decimal.number quotient).quantize.map some = _ ↔ _
      by_cases fits : FitsHundredths quotient
      · rw [Decimal.quantize, if_pos fits]
        constructor
        · rintro (never | same) _
          · cases Except.ok.inj never
          · exact Decimal.number.inj (Option.some.inj (Except.ok.inj same))
        · intro same
          exact .inr (congrArg (fun value => Except.ok (some (Decimal.number value)))
            (same positive))
      · rw [Decimal.quantize, if_neg fits]
        refine iff_of_false (by rintro (never | never) <;> cases never) fun same => fits ?_
        obtain ⟨hundredths, few, whole⟩ := isRate
        have equal : roundHalfEven (quotient * 100) = hundredths := by
          have values := (same positive).trans whole
          rw [quantize, div_left_inj' (by norm_num)] at values
          exact_mod_cast values
        rw [FitsHundredths, equal]
        exact few

end

/-! ## The second pass -/

section

variable {line : AiPreloadLine} {amounts : LineAmounts} {settings : PricingSettings}
    {pricing : Pricing}
  {currency : String}

/-- A letter in upper case stays as it is. -/
private theorem toUpper_toUpper_char (c : Char) : c.toUpper.toUpper = c.toUpper := by
  have raised (lower : 97 ≤ c.val.toNat ∧ c.val.toNat ≤ 122) : (c.val + 4294967264).toNat =
      c.val.toNat - 32 := by
    rw [UInt32.toNat_add]
    change (c.val.toNat + 4294967264) % 4294967296 = _
    omega
  delta Char.toUpper
  split
  · next lower =>
    refine dif_neg fun again => ?_
    have first : 97 ≤ c.val.toNat ∧ c.val.toNat ≤ 122 := lower
    have second : 97 ≤ (c.val + 4294967264).toNat ∧ (c.val + 4294967264).toNat ≤ 122 := again
    rw [raised first] at second
    omega
  · rfl

private theorem toUpper_toUpper (text : String) : text.toUpper.toUpper = text.toUpper := by
  rw [String.toUpper, String.toUpper, String.map_map]
  congr 1
  funext c
  exact toUpper_toUpper_char c

private theorem lineCurrency_ne_empty : lineCurrency line settings ≠ "" := by
  have chosen (text : Option String) (other : String) (nonempty : other ≠ "") :
      ∃ currency, orElse text (some other) = some currency ∧ currency ≠ "" := by
    cases text with
    | none => exact ⟨other, rfl, nonempty⟩
    | some currency =>
      by_cases blank : currency = ""
      · exact ⟨other, by simp [orElse, isTruthy, blank], nonempty⟩
      · exact ⟨currency, by simp [orElse, isTruthy, blank], blank⟩
  obtain ⟨fallback, isFallback, nonempty⟩ := chosen (some settings.sourceCurrency) "GTQ" (by decide)
  obtain ⟨currency, isCurrency, nonempty⟩ := chosen line.sourceCurrency fallback nonempty
  rw [lineCurrency, isFallback, isCurrency, String.toUpper, Ne, String.map_eq_empty]
  exact nonempty

/-- A line keeps its currency. -/
theorem lineCurrency_recordPricing :
    lineCurrency (recordPricing line amounts settings pricing) settings =
    lineCurrency line settings := by
  have given : isTruthy (some (lineCurrency line settings)) = true := by
    simpa [isTruthy] using lineCurrency_ne_empty
  have chosen : lineCurrency (recordPricing line amounts settings pricing) settings =
      (lineCurrency line settings).toUpper := by
    rw [lineCurrency, recordPricing, orElse, if_pos given]
    rfl
  rw [chosen]
  exact toUpper_toUpper _

/-- The amounts of a line that is priced again. -/
def LineAmounts.again (amounts : LineAmounts) (pricing : Pricing) : LineAmounts :=
  { amounts with
    costGtq := pricing.costGtq.or amounts.costGtq
    referencePriceGtq := pricing.referencePriceGtq.or amounts.referencePriceGtq }

private theorem parseDecimal_or {raw : Option DecimalText} {parsed found : Option Decimal}
    (isParsed : parseDecimal raw = .ok parsed) (settled : ∀ amount ∈ found, amount.Settled) :
    parseDecimal ((found.map format).or raw) = .ok (found.or parsed) := by
  cases found with
  | none => exact isParsed
  | some amount => exact parseDecimal_format (settled amount rfl)

/-- The cost of a line is settled. -/
theorem settled_of_convertCost (parsed : parseAmounts line = .ok amounts)
    {rate recorded : Option Decimal} {costGtq : Decimal}
    (success : convertCost amounts rate = .ok (some costGtq, recorded)) :
    costGtq.Settled := by
  obtain ⟨_, isGiven, _⟩ := parseAmounts_eq_ok_iff.mp parsed
  cases original : amounts.originalCost with
  | none =>
    simp only [convertCost, original] at success
    cases congrArg Prod.fst (Except.ok.inj success)
  | some originalCost =>
    cases given : amounts.costGtq with
    | some found =>
      simp only [convertCost, original, given] at success
      obtain ⟨_, _, same⟩ := Checked.bind_eq_ok.mp success
      obtain rfl := Option.some.inj (congrArg Prod.fst (Except.ok.inj same))
      exact settled_of_parseDecimal (isGiven.trans (congrArg _ given))
    | none =>
      cases rate with
      | none =>
        simp only [convertCost, original, given] at success
        cases congrArg Prod.fst (Except.ok.inj success)
      | some rate =>
        simp only [convertCost, original, given] at success
        obtain ⟨_, product, same⟩ := Checked.bind_eq_ok.mp success
        obtain rfl := Option.some.inj (congrArg Prod.fst (Except.ok.inj same))
        exact .of_quantize product

private theorem settled_of_convertReference {raw : Option DecimalText}
    {original computed : Option Decimal} (parsed : parseDecimal raw = .ok original)
    (success : convertReference original settings currency = .ok computed) :
    ∀ price ∈ computed, price.Settled := by
  cases original with
  | none =>
    obtain rfl := Except.ok.inj success
    rintro _ ⟨⟩
  | some price =>
    rw [convertReference] at success
    split at success
    · obtain rfl := Except.ok.inj success
      rintro _ ⟨rfl⟩
      exact settled_of_parseDecimal parsed
    · split at success
      · obtain rfl := Except.ok.inj success
        rintro _ ⟨⟩
      · obtain ⟨_, product, same⟩ := Checked.bind_eq_ok.mp success
        obtain rfl := Except.ok.inj same
        rintro _ ⟨rfl⟩
        exact .of_quantize product

/-- What is parsed when a priced line is priced again. -/
theorem parseAmounts_recordPricing (parsed : parseAmounts line = .ok amounts)
    (success : priceAmounts amounts settings currency = .ok pricing) :
    parseAmounts (recordPricing line amounts settings pricing) = .ok (amounts.again pricing) := by
  obtain ⟨original, cost, reference, given⟩ := parseAmounts_eq_ok_iff.mp parsed
  obtain ⟨converted, _, computed, isComputed, chosen⟩ := priceAmounts_eq_ok_iff.mp success
  refine parseAmounts_eq_ok_iff.mpr ⟨original, parseDecimal_or cost ?_, reference,
    parseDecimal_or given ?_⟩
  · intro costGtq found
    rw [found] at converted
    exact settled_of_convertCost parsed converted
  · rw [← chosen]
    intro price found
    rcases Option.or_eq_some_iff.mp found with isGiven | ⟨_, isComputed'⟩
    · exact settled_of_parseDecimal (given.trans (congrArg _ isGiven))
    · exact settled_of_convertReference reference isComputed price isComputed'

/-- The cost that was found is known when the line is priced again. -/
theorem knownCost_again {rate : Option Decimal} (known : amounts.knownCost rate = pricing.costGtq) :
    (amounts.again pricing).knownCost rate = pricing.costGtq := by
  cases found : pricing.costGtq with
  | none =>
    rw [← found, ← known, LineAmounts.knownCost, LineAmounts.again, found]
    rfl
  | some costGtq =>
    have given : (amounts.again pricing).costGtq = some costGtq := by
      rw [LineAmounts.again, found]; rfl
    rw [found] at known
    obtain ⟨originalCost, isOriginal, _⟩ := Option.bind_eq_some_iff.mp known
    have kept : (amounts.again pricing).originalCost = some originalCost := isOriginal
    rw [LineAmounts.knownCost, kept, given]
    rfl

/-- A priced line is priced again as it was, with the rate that its cost implies now. -/
theorem priceAmounts_again_eq_ok_iff
    (success : priceAmounts amounts settings currency = .ok pricing)
    {again : Pricing} : priceAmounts (amounts.again pricing) settings currency = .ok again ↔
      convertCost (amounts.again pricing) (conversionRate settings currency) =
          .ok (pricing.costGtq, again.exchangeRateToGtq) ∧
        again = { pricing with exchangeRateToGtq := again.exchangeRateToGtq } := by
  obtain ⟨converted, suggested, computed, isComputed, chosen⟩ := priceAmounts_eq_ok_iff.mp success
  have stands : (pricing.referencePriceGtq.or amounts.referencePriceGtq).or computed =
      pricing.referencePriceGtq := by
    rw [← chosen]
    cases amounts.referencePriceGtq <;> cases computed <;> rfl
  rw [priceAmounts_eq_ok_iff]
  constructor
  · rintro ⟨reconverted, resuggested, recomputed, isRecomputed, rechosen⟩
    have cost : again.costGtq = pricing.costGtq :=
      (knownCost_of_convertCost reconverted).symm.trans
        (knownCost_again (knownCost_of_convertCost converted))
    obtain rfl := Except.ok.inj (isComputed.symm.trans isRecomputed)
    rw [cost] at reconverted resuggested
    have price := Except.ok.inj (suggested.symm.trans resuggested)
    have reference : pricing.referencePriceGtq = again.referencePriceGtq :=
      stands.symm.trans rechosen
    obtain ⟨_, _, _, _⟩ := again
    subst cost price reference
    exact ⟨reconverted, rfl⟩
  · rintro ⟨reconverted, same⟩
    rw [same]
    exact ⟨reconverted, suggested, computed, isComputed, stands⟩

/-- A priced line stays as it is exactly when its cost implies no rate, or the one that was
recorded. -/
theorem pricedAgain_iff (parsed : parseAmounts line = .ok amounts)
    (success : priceAmounts amounts settings (lineCurrency line settings) = .ok pricing) :
    PricedAgain (recordPricing line amounts settings pricing) settings ↔
      ∃ implied, convertCost (amounts.again pricing)
          (conversionRate settings (lineCurrency line settings)) = .ok (pricing.costGtq, implied) ∧
        (implied.map format).or ((pricing.exchangeRateToGtq.map format).or line.exchangeRateToGtq) =
          (pricing.exchangeRateToGtq.map format).or line.exchangeRateToGtq := by
  have reparsed := parseAmounts_recordPricing parsed success
  constructor
  · rintro ⟨_, repeats, _, rate, _⟩
    obtain ⟨found, again, isFound, repriced, rfl⟩ := applyPricing_eq_ok_iff.mp repeats
    obtain rfl := Except.ok.inj (reparsed.symm.trans isFound)
    rw [lineCurrency_recordPricing, priceAmounts_again_eq_ok_iff success] at repriced
    exact ⟨again.exchangeRateToGtq, repriced.1, rate⟩
  · rintro ⟨implied, reconverted, rate⟩
    have repriced : priceAmounts (amounts.again pricing) settings (lineCurrency line settings) =
        .ok { pricing with exchangeRateToGtq := implied } :=
      (priceAmounts_again_eq_ok_iff success).mpr ⟨reconverted, rfl⟩
    rw [← lineCurrency_recordPricing] at repriced
    refine ⟨_, applyPricing_eq_ok_iff.mpr ⟨_, _, reparsed, repriced, rfl⟩, ?_, rate, ?_, ?_⟩
    all_goals
      simp only [recordPricing, ← Option.or_assoc, Option.or_self]

private theorem format_injective : Function.Injective format := by
  rintro (left | _) (right | _) same
  · exact congrArg Decimal.number (DecimalText.number.inj same)
  · cases same
  · cases same
  · rfl

/-- A rate that is recorded over another one leaves it as it is when there is none or it is the
same. -/
theorem map_format_or_iff {implied : Option Decimal} {rate : Decimal} :
    (implied.map format).or (some (format rate)) = some (format rate) ↔
      implied = none ∨ implied = some rate := by
  cases implied with
  | none => exact iff_of_true rfl (.inl rfl)
  | some found =>
    rw [Option.map_some, Option.some_or, Option.some_inj, format_injective.eq_iff]
    constructor
    · rintro rfl
      exact .inr rfl
    · rintro (never | same)
      · cases never
      · exact Option.some.inj same

/-- The rate of a converted cost is recovered, and other rates are found again anyway. -/
theorem recorded_again_iff (valid : ParsedSettings settings)
    (parsed : parseAmounts line = .ok amounts)
    (success : priceAmounts amounts settings currency = .ok pricing) :
    (∃ implied, convertCost (amounts.again pricing) (conversionRate settings currency) =
        .ok (pricing.costGtq, implied) ∧
      (implied.map format).or ((pricing.exchangeRateToGtq.map format).or line.exchangeRateToGtq) =
        (pricing.exchangeRateToGtq.map format).or line.exchangeRateToGtq) ↔
    ∀ originalCost rate, amounts.originalCost = some originalCost → amounts.costGtq = none →
      conversionRate settings currency = some rate → RateRecovered originalCost rate := by
  obtain ⟨converted, _⟩ := priceAmounts_eq_ok_iff.mp success
  obtain ⟨isOriginal, _⟩ := parseAmounts_eq_ok_iff.mp parsed
  have unchanged (same : convertCost (amounts.again pricing) (conversionRate settings currency) =
      convertCost amounts (conversionRate settings currency)) : ∃ implied,
        convertCost (amounts.again pricing) (conversionRate settings currency) =
          .ok (pricing.costGtq, implied) ∧
        (implied.map format).or ((pricing.exchangeRateToGtq.map format).or line.exchangeRateToGtq) =
          (pricing.exchangeRateToGtq.map format).or line.exchangeRateToGtq :=
    ⟨_, same.trans converted, by rw [← Option.or_assoc, Option.or_self]⟩
  cases original : amounts.originalCost with
  | none =>
    refine iff_of_true (unchanged ?_) (by rintro _ _ ⟨⟩)
    simp only [convertCost, LineAmounts.again, original]
  | some originalCost =>
    cases given : amounts.costGtq with
    | some costGtq =>
      have cost : pricing.costGtq = some costGtq := by
        rw [← knownCost_of_convertCost converted, LineAmounts.knownCost, original, given]
        rfl
      refine iff_of_true (unchanged ?_) (by rintro _ _ _ ⟨⟩)
      simp only [convertCost, LineAmounts.again, original, given, cost, Option.some_or]
    | none =>
      cases converts : conversionRate settings currency with
      | none =>
        have cost : pricing.costGtq = none := by
          rw [← knownCost_of_convertCost converted, LineAmounts.knownCost, original, given,
            converts]
          rfl
        rw [converts] at unchanged
        refine iff_of_true (unchanged ?_) (by rintro _ _ _ _ ⟨⟩)
        simp only [convertCost, LineAmounts.again, original, given, cost, Option.none_or]
      | some rate =>
        rw [converts] at converted
        simp only [convertCost, original, given] at converted
        obtain ⟨costGtq, product, same⟩ := Checked.bind_eq_ok.mp converted
        obtain ⟨cost, recorded⟩ : some costGtq = pricing.costGtq ∧
            some rate = pricing.exchangeRateToGtq :=
          Prod.ext_iff.mp (Except.ok.inj same)
        have settled : originalCost.Settled :=
          settled_of_parseDecimal (isOriginal.trans (congrArg _ original))
        have recovered := impliedRate_converted_iff settled
          (settled_of_conversionRate valid converts) product
        have again : convertCost (amounts.again pricing) (some rate) =
            (impliedRate costGtq originalCost >>= fun implied => pure (some costGtq, implied)) := by
          simp only [convertCost, LineAmounts.again, original, ← cost, Option.some_or]
        rw [← recorded, Option.map_some, Option.some_or, again]
        simp only [map_format_or_iff]
        constructor
        · rintro ⟨implied, reconverted, found⟩ _ _ ⟨rfl⟩ _ ⟨rfl⟩
          obtain ⟨_, isImplied, same⟩ := Checked.bind_eq_ok.mp reconverted
          obtain rfl := congrArg Prod.snd (Except.ok.inj same)
          refine recovered.mp (found.imp ?_ ?_)
          · exact fun absent => isImplied.trans (congrArg _ absent)
          · exact fun kept => isImplied.trans (congrArg _ kept)
        · intro holds
          have implies := recovered.mpr (holds originalCost rate rfl trivial rfl)
          rcases implies with absent | kept
          · exact ⟨none, by rw [absent, cost]; rfl, .inl rfl⟩
          · exact ⟨some rate, by rw [kept, cost]; rfl, .inr rfl⟩

end

/-! ## The theorem -/

/-- Pricing a priced line leaves it as it is exactly when the rate of a cost that was converted is
recovered. -/
theorem pricing_repeats_iff (line priced : AiPreloadLine) (request : PricingRequest)
    (settings : PricingSettings) (accepted : pricingSettings request = .ok settings)
    (success : applyPricing line settings = .ok priced) :
    PricedAgain priced settings ↔ ∀ amounts originalCost rate, parseAmounts line = .ok amounts →
      amounts.originalCost = some originalCost → amounts.costGtq = none →
        conversionRate settings (lineCurrency line settings) = some rate →
          RateRecovered originalCost rate := by
  obtain ⟨amounts, pricing, parsed, found, rfl⟩ := applyPricing_eq_ok_iff.mp success
  rw [pricedAgain_iff parsed found, recorded_again_iff (parsedSettings accepted) parsed found]
  constructor
  · intro recovered other originalCost rate isParsed
    obtain rfl := Except.ok.inj (parsed.symm.trans isParsed)
    exact recovered originalCost rate
  · exact fun recovered originalCost rate => recovered amounts originalCost rate parsed

namespace Sample

/-- An amount in dollars. -/
def dollars (amount : ℚ) : AiPreloadLine :=
  { originalCost := some (.number amount), sourceCurrency := some "USD" }

/-- Dollars at 7.85. -/
def atRate : PricingRequest := { exchangeRateToGtq := some (.number (785 / 100)) }

def settingsAtRate : PricingSettings :=
  { sourceCurrency := "GTQ", exchangeRateToGtq := some (.number (785 / 100)), pricingMode := .manual
    markupPercent := none, marginPercent := none, multiplier := none, roundingStep := .number 1 }

private theorem rate_accepted : pricingSettings atRate = .ok settingsAtRate := by
  have rate : parseDecimal (some (.number (785 / 100))) = .ok (some (.number (785 / 100))) :=
    @parseDecimal_format (.number (785 / 100)) ⟨785, by norm_num, by norm_num⟩
  have step : parseDecimal (some (.number 1)) = .ok (some (.number 1)) :=
    @parseDecimal_format (.number 1) ⟨100, by norm_num, by norm_num⟩
  simp only [pricingSettings, atRate, rate, step, parseDecimal_none]
  rfl

private theorem tenDollars_priced :
    (applyPricing (dollars 10) settingsAtRate).toOption.isSome = true := by
  decide +kernel

def tenDollars : AiPreloadLine :=
  (applyPricing (dollars 10) settingsAtRate).toOption.get tenDollars_priced

private theorem dime_priced : (applyPricing (dollars (1 / 10)) settingsAtRate).toOption.isSome =
    true := by
  decide +kernel

def dime : AiPreloadLine :=
  (applyPricing (dollars (1 / 10)) settingsAtRate).toOption.get dime_priced

end Sample

/-- Ten dollars keep their rate. -/
theorem pricing_repeats_iff_tenDollars : PricedAgain Sample.tenDollars Sample.settingsAtRate := by
  refine (pricing_repeats_iff (Sample.dollars 10) Sample.tenDollars Sample.atRate
    Sample.settingsAtRate Sample.rate_accepted (Checked.eq_ok_get _)).mpr
    fun amounts originalCost rate parsed known _ isRate => ?_
  have original : amounts.originalCost = some (.number 10) := by
    have isOriginal := (parseAmounts_eq_ok_iff.mp parsed).1
    have settled : (Decimal.number 10).Settled := ⟨1000, by norm_num, by norm_num⟩
    exact (Except.ok.inj ((parseDecimal_format settled).symm.trans isOriginal)).symm
  have converts : conversionRate Sample.settingsAtRate
      (lineCurrency (Sample.dollars 10) Sample.settingsAtRate) =
      some (.number (785 / 100)) := by decide +kernel
  obtain rfl := Option.some.inj (original.symm.trans known)
  obtain rfl := Option.some.inj (converts.symm.trans isRate)
  intro _
  rw [NumberRecovered, if_pos (by norm_num)]
  exact .inl (by decide +kernel)

/-- A dime at 7.85 costs 0.78, for which a rate of 7.80 is recorded the second time. -/
theorem rate_of_a_dime_drifts :
    ¬ ∀ (line priced : AiPreloadLine) (request : PricingRequest) (settings : PricingSettings),
      pricingSettings request = .ok settings → applyPricing line settings = .ok priced →
        PricedAgain priced settings := by
  intro stays
  obtain ⟨again, success, _, rate, _⟩ := stays (Sample.dollars (1 / 10)) Sample.dime Sample.atRate
    Sample.settingsAtRate Sample.rate_accepted (Checked.eq_ok_get _)
  have drifts : (applyPricing Sample.dime Sample.settingsAtRate).toOption.map
      (·.exchangeRateToGtq) ≠ some Sample.dime.exchangeRateToGtq := by decide +kernel
  rw [success, ← rate] at drifts
  exact drifts rfl

end ArisCloud.AiPricing

import ArisCloud.Library.Checked
import ArisCloud.Library.DecimalContext
import ArisCloud.Model.Scope

/-! # Suggested prices of assisted preloads

A document is read into lines, which are priced when it is analyzed and once more when the lines are
confirmed. Amounts come and go as texts, and a blank text is no amount. The text of an amount that
cannot be parsed refuses the request; what the arithmetic signals afterwards nobody handles.
-/

namespace ArisCloud.AiPricing

open DecimalContext

/-- What a text denotes that is not blank. Malformed, infinite and signaling texts are refused. -/
inductive DecimalText
  | number (value : ℚ)
  | notANumber
  | refused
deriving DecidableEq, Repr

inductive AiPricingMode
  | markupPercent
  | marginPercent
  | multiplier
  | manual
deriving DecidableEq, Repr

/-- A line, with the columns that pricing reads or writes. -/
structure AiPreloadLine where
  originalCost : Option DecimalText := none
  sourceCurrency : Option String := none
  exchangeRateToGtq : Option DecimalText := none
  costGtq : Option DecimalText := none
  suggestedPriceGtq : Option DecimalText := none
  referencePriceOriginal : Option DecimalText := none
  referencePriceGtq : Option DecimalText := none
  needsReview : Bool := false
deriving DecidableEq, Repr

/-- The pricing of a request, as it was sent. -/
structure PricingRequest where
  sourceCurrency : String := "GTQ"
  exchangeRateToGtq : Option DecimalText := none
  pricingMode : AiPricingMode := .manual
  markupPercent : Option DecimalText := none
  marginPercent : Option DecimalText := none
  multiplier : Option DecimalText := none
  roundingStep : Option DecimalText := some (.number 1)
deriving DecidableEq, Repr

structure PricingSettings where
  sourceCurrency : String
  exchangeRateToGtq : Option Decimal
  pricingMode : AiPricingMode
  markupPercent : Option Decimal
  marginPercent : Option Decimal
  multiplier : Option Decimal
  roundingStep : Decimal
deriving DecidableEq, Repr

def readDecimal : DecimalText → Except Signal Decimal
  | .number value => return .number value
  | .notANumber => return .notANumber
  | .refused => throw .invalidOperation

/-- The text of a decimal. -/
def format : Decimal → DecimalText
  | .number value => .number value
  | .notANumber => .notANumber

def parseDecimal (value : Option DecimalText) : Except AppError (Option Decimal) :=
  match value with
  | none => return none
  | some text =>
    ((readDecimal text >>= Decimal.quantize).mapError fun _ => .validation "invalid decimal").map
      some

/-- The settings of a request; a step that is missing or zero is one. -/
def pricingSettings (request : PricingRequest) : Except AppError PricingSettings := do
  let exchangeRateToGtq ← parseDecimal request.exchangeRateToGtq
  let roundingStep ← parseDecimal request.roundingStep
  let markupPercent ← parseDecimal request.markupPercent
  let marginPercent ← parseDecimal request.marginPercent
  let multiplier ← parseDecimal request.multiplier
  return {
    sourceCurrency := request.sourceCurrency, exchangeRateToGtq, pricingMode := request.pricingMode
    markupPercent, marginPercent, multiplier
    roundingStep := (roundingStep.filter (· ≠ .number 0)).getD (.number 1) }

/-- The amounts of a line that are parsed before it is priced. -/
structure LineAmounts where
  originalCost : Option Decimal
  costGtq : Option Decimal
  referencePriceOriginal : Option Decimal
  referencePriceGtq : Option Decimal

def parseAmounts (line : AiPreloadLine) : Except AppError LineAmounts := do
  let originalCost ← parseDecimal line.originalCost
  let costGtq ← parseDecimal line.costGtq
  let referencePriceOriginal ← parseDecimal line.referencePriceOriginal
  let referencePriceGtq ← parseDecimal line.referencePriceGtq
  return { originalCost, costGtq, referencePriceOriginal, referencePriceGtq }

def roundUp (value step : Decimal) : Except Signal Decimal := do
  let steps ← value.divide step
  return steps.ceiling.multiply step

def lineCurrency (line : AiPreloadLine) (settings : PricingSettings) : String :=
  ((orElse line.sourceCurrency (orElse (some settings.sourceCurrency) (some "GTQ"))).getD
    "").toUpper

/-- The rate of a currency. -/
def conversionRate (settings : PricingSettings) (currency : String) : Option Decimal :=
  if currency = "GTQ" then some (.number 1) else settings.exchangeRateToGtq

/-- The rate that is recorded with a cost that was given, if there is a cost to divide it by. -/
def impliedRate (costGtq originalCost : Decimal) : Except Signal (Option Decimal) := do
  if ← originalCost.isPositive then
    let rate ← costGtq.divide originalCost
    return some (← rate.quantize)
  else return none

/-- The cost in quetzales of a line with an original cost, and the rate that is recorded with it. -/
def convertCost (amounts : LineAmounts) (rate : Option Decimal) :
    Except Signal (Option Decimal × Option Decimal) := do
  match amounts.originalCost, amounts.costGtq, rate with
  | none, _, _ => return (none, none)
  | some originalCost, some costGtq, _ =>
    let impliedRate ← impliedRate costGtq originalCost
    return (some costGtq, impliedRate)
  | some originalCost, none, some rate =>
    let costGtq ← (originalCost.multiply rate).quantize
    return (some costGtq, some rate)
  | some _, none, none => return (none, none)

/-- The unrounded price of a mode whose percentage or multiplier is given. -/
def basePrice (settings : PricingSettings) (costGtq : Decimal) :
    Except Signal (Option Decimal) := do
  match settings.pricingMode, settings.markupPercent, settings.marginPercent,
      settings.multiplier with
  | .markupPercent, some percent, _, _ =>
    return some (costGtq.multiply (.add (.number 1) (← percent.divide (.number 100))))
  | .marginPercent, _, some percent, _ =>
    return some (← costGtq.divide (.subtract (.number 1) (← percent.divide (.number 100))))
  | .multiplier, _, _, some multiplier => return some (costGtq.multiply multiplier)
  | _, _, _, _ => return none

/-- The base price of a known cost, rounded up. -/
def suggestPrice (settings : PricingSettings) (costGtq : Option Decimal) :
    Except Signal (Option Decimal) := do
  match costGtq with
  | none => return none
  | some costGtq =>
    match ← basePrice settings costGtq with
    | none => return none
    | some base =>
      let price ← roundUp base settings.roundingStep
      return some (← price.quantize)

/-- The reference price of a line, converted. -/
def convertReference (referencePriceOriginal : Option Decimal) (settings : PricingSettings)
    (currency : String) : Except Signal (Option Decimal) := do
  match referencePriceOriginal, settings.exchangeRateToGtq with
  | none, _ => return none
  | some original, rate =>
    if currency = "GTQ" then return some original
    else match rate with
      | none => return none
      | some rate => return some (← (original.multiply rate).quantize)

/-- What pricing finds for a line. -/
structure Pricing where
  costGtq : Option Decimal
  exchangeRateToGtq : Option Decimal
  suggestedPriceGtq : Option Decimal
  referencePriceGtq : Option Decimal

/-- A reference price is converted also when one is given, which stands. -/
def priceAmounts (amounts : LineAmounts) (settings : PricingSettings) (currency : String) :
    Except Signal Pricing := do
  let (costGtq, exchangeRateToGtq) ← convertCost amounts (conversionRate settings currency)
  let suggestedPriceGtq ← suggestPrice settings costGtq
  let computed ← convertReference amounts.referencePriceOriginal settings currency
  return {
    costGtq, exchangeRateToGtq, suggestedPriceGtq
    referencePriceGtq := amounts.referencePriceGtq.or computed }

/-- A line of unknown rate is reviewed, and so is a cost that is priced by hand. -/
def asksReview (amounts : LineAmounts) (settings : PricingSettings) (currency : String)
    (pricing : Pricing) : Bool :=
  amounts.originalCost.isSome && ((conversionRate settings currency).isNone ||
    (pricing.costGtq.isSome && settings.pricingMode = .manual))

/-- A line with what pricing found; what it did not find is left as it was. -/
def recordPricing (line : AiPreloadLine) (amounts : LineAmounts) (settings : PricingSettings)
    (pricing : Pricing) : AiPreloadLine :=
  let currency := lineCurrency line settings
  { line with
    costGtq := (pricing.costGtq.map format).or line.costGtq
    exchangeRateToGtq := (pricing.exchangeRateToGtq.map format).or line.exchangeRateToGtq
    suggestedPriceGtq := (pricing.suggestedPriceGtq.map format).or line.suggestedPriceGtq
    referencePriceGtq := (pricing.referencePriceGtq.map format).or line.referencePriceGtq
    sourceCurrency := some currency
    needsReview := line.needsReview || asksReview amounts settings currency pricing }

/-- How pricing fails. -/
inductive PricingError
  | refused (error : AppError)
  | raised (signal : Signal)

def applyPricing (line : AiPreloadLine) (settings : PricingSettings) :
    Except PricingError AiPreloadLine := do
  let amounts ← (parseAmounts line).mapError .refused
  let pricing ← (priceAmounts amounts settings (lineCurrency line settings)).mapError .raised
  return recordPricing line amounts settings pricing

end ArisCloud.AiPricing

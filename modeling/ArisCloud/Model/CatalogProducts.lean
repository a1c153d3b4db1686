import ArisCloud.Library.Decimals
import ArisCloud.Library.KeyedRows
import ArisCloud.Model.Scope

/-! # The product catalog

A product is known by its tenant and its normalized sku and variants. An upsert finds it or creates
it, merges the columns that it names and, when it brings a cost, records the cost and appends it to
the history of the product. Amounts are rounded where they are stored, so an upsert compares what it
brings with what was rounded before. A source date is the day that its text denotes.
-/

namespace ArisCloud.CatalogProducts

open Decimals (storeNumeric)

/-! ## Records -/

structure CatalogProduct where
  id : ℕ
  tenantId : ℕ
  sku : String
  normalizedSku : String
  description : Option String := none
  brand : Option String := none
  category : Option String := none
  style : Option String := none
  variant1 : Option String := none
  variant2 : Option String := none
  normalizedVariant1 : Option String := none
  normalizedVariant2 : Option String := none
  color : Option String := none
  size : Option String := none
  defaultPool : Option String := none
  defaultLocationCode : Option String := none
  sellableDefault : Bool := true
  lastCostGtq : Option ℚ := none
  lastOriginalCost : Option ℚ := none
  lastSourceCurrency : Option String := none
  lastExchangeRateToGtq : Option ℚ := none
  suggestedPriceGtq : Option ℚ := none
  defaultSalePriceGtq : Option ℚ := none
  referencePriceOriginal : Option ℚ := none
  referencePriceGtq : Option ℚ := none
  lastSourceSupplier : Option String := none
  lastSourceOrderNumber : Option String := none
  lastSourceOrderDate : Option ℕ := none
  priceReviewRequired : Bool := false
deriving DecidableEq, Repr

structure CatalogProductCostHistory where
  tenantId : ℕ
  catalogProductId : ℕ
  sourceType : String
  sourceExtractionId : Option ℕ := none
  sourcePreloadSessionId : Option ℕ := none
  sourcePreloadLineId : Option ℕ := none
  sourceOrderNumber : Option String := none
  sourceOrderDate : Option ℕ := none
  sourceSupplier : Option String := none
  originalCost : Option ℚ := none
  sourceCurrency : Option String := none
  exchangeRateToGtq : Option ℚ := none
  costGtq : ℚ
  suggestedPriceGtq : Option ℚ := none
  referencePriceOriginal : Option ℚ := none
  referencePriceGtq : Option ℚ := none
deriving DecidableEq, Repr

/-- The committed products, and their costs in the order in which they were recorded. -/
structure Catalog where
  products : List CatalogProduct := []
  costHistory : List CatalogProductCostHistory := []
deriving DecidableEq

/-- What an upsert names. -/
structure UpsertRequest where
  tenantId : ℕ
  sku : Option String
  variant1 : Option String := none
  variant2 : Option String := none
  description : Option String := none
  brand : Option String := none
  category : Option String := none
  style : Option String := none
  color : Option String := none
  size : Option String := none
  defaultPool : Option String := none
  defaultLocationCode : Option String := none
  sellableDefault : Bool := true
  costGtq : Option ℚ := none
  originalCost : Option ℚ := none
  sourceCurrency : Option String := none
  exchangeRateToGtq : Option ℚ := none
  suggestedPriceGtq : Option ℚ := none
  defaultSalePriceGtq : Option ℚ := none
  referencePriceOriginal : Option ℚ := none
  referencePriceGtq : Option ℚ := none
  sourceSupplier : Option String := none
  sourceOrderNumber : Option String := none
  sourceOrderDate : Option ℕ := none
  sourceType : String := "MANUAL"
  sourceExtractionId : Option ℕ := none
  sourcePreloadSessionId : Option ℕ := none
  sourcePreloadLineId : Option ℕ := none
  updateSalePrice : Bool := false
deriving DecidableEq, Repr

structure CatalogUpsertResult where
  catalogProduct : CatalogProduct
  created : Bool
  updated : Bool
  reviewRequired : Bool
deriving DecidableEq, Repr

/-- Reading one product finds several. -/
inductive CatalogError
  | multipleResultsFound
deriving DecidableEq, Repr

/-! ## Keys and texts -/

section

/- `str.upper`, which maps the characters of all scripts. -/
variable (upper : String → String)

def normalizeKey (value : Option String) : String := upper (strip (value.getD ""))

def isBlankText (value : Option String) : Bool := strip (value.getD "") = ""

/-- The sku of an upsert, or the one of goods without a sku. -/
def UpsertRequest.skuValue (request : UpsertRequest) : String :=
  let stripped := strip (request.sku.getD "")
  if stripped = "" then "UNSPECIFIED" else stripped

/-- What identifies a product: its tenant and its normalized sku and variants. -/
abbrev ProductKey := ℕ × String × Option String × Option String

def CatalogProduct.key (product : CatalogProduct) : ProductKey :=
  (product.tenantId, product.normalizedSku, product.normalizedVariant1, product.normalizedVariant2)

/-- The product that an upsert is about. -/
def UpsertRequest.key (request : UpsertRequest) : ProductKey :=
  (request.tenantId, normalizeKey upper (some request.skuValue),
    some (normalizeKey upper request.variant1), some (normalizeKey upper request.variant2))

/-! ## The upsert -/

/-- A descriptive column: a new product takes every value that is given, and a known one only text
for blank text. -/
def mergeText (created : Bool) (current value : Option String) : Option String :=
  if created then value.or current
  else if isBlankText current && !isBlankText value then value
  else current

/-- The columns of a product after an upsert, but for those of its cost. -/
def mergeFields (product : CatalogProduct) (request : UpsertRequest) (created : Bool) :
    CatalogProduct :=
  { product with
    description := mergeText created product.description request.description
    brand := mergeText created product.brand request.brand
    category := mergeText created product.category request.category
    style := mergeText created product.style request.style
    variant1 := mergeText created product.variant1 request.variant1
    variant2 := mergeText created product.variant2 request.variant2
    normalizedVariant1 := some (normalizeKey upper request.variant1)
    normalizedVariant2 := some (normalizeKey upper request.variant2)
    color := mergeText created product.color request.color
    size := mergeText created product.size request.size
    defaultPool := mergeText created product.defaultPool request.defaultPool
    defaultLocationCode := mergeText created product.defaultLocationCode request.defaultLocationCode
    sellableDefault := request.sellableDefault
    referencePriceOriginal := request.referencePriceOriginal.or product.referencePriceOriginal
    referencePriceGtq := request.referencePriceGtq.or product.referencePriceGtq
    lastSourceSupplier := request.sourceSupplier.or product.lastSourceSupplier
    lastSourceOrderNumber := request.sourceOrderNumber.or product.lastSourceOrderNumber
    lastSourceOrderDate := request.sourceOrderDate.or product.lastSourceOrderDate }

/-- A product with the cost of an upsert. -/
def recordCost (product : CatalogProduct) (request : UpsertRequest) (cost : ℚ) : CatalogProduct :=
  { product with
    lastCostGtq := some cost
    lastOriginalCost := request.originalCost
    lastSourceCurrency := request.sourceCurrency
    lastExchangeRateToGtq := request.exchangeRateToGtq
    suggestedPriceGtq := request.suggestedPriceGtq.or product.suggestedPriceGtq
    defaultSalePriceGtq :=
      if request.updateSalePrice || product.defaultSalePriceGtq.isNone then
        request.defaultSalePriceGtq.or product.defaultSalePriceGtq
      else product.defaultSalePriceGtq
    priceReviewRequired := product.priceReviewRequired || product.lastCostGtq.any (· ≠ cost) }

/-- The history entry of a cost. -/
def costEntry (product : CatalogProduct) (request : UpsertRequest) (cost : ℚ) :
    CatalogProductCostHistory :=
  { tenantId := request.tenantId, catalogProductId := product.id, sourceType := request.sourceType
    sourceExtractionId := request.sourceExtractionId,
    sourcePreloadSessionId := request.sourcePreloadSessionId,
    sourcePreloadLineId := request.sourcePreloadLineId,
    sourceOrderNumber := request.sourceOrderNumber, sourceOrderDate := request.sourceOrderDate,
    sourceSupplier := request.sourceSupplier, originalCost := request.originalCost,
    sourceCurrency := request.sourceCurrency, exchangeRateToGtq := request.exchangeRateToGtq,
    costGtq := cost, suggestedPriceGtq := request.suggestedPriceGtq
    referencePriceOriginal := request.referencePriceOriginal,
    referencePriceGtq := request.referencePriceGtq }

/-- Four decimal places, as the rates are stored. -/
def storeRate (value : ℚ) : ℚ := storeNumeric (value * 100) / 100

/-- A product as its columns store it. -/
def CatalogProduct.persisted (product : CatalogProduct) : CatalogProduct :=
  { product with
    lastCostGtq := product.lastCostGtq.map storeNumeric
    lastOriginalCost := product.lastOriginalCost.map storeNumeric
    lastExchangeRateToGtq := product.lastExchangeRateToGtq.map storeRate
    suggestedPriceGtq := product.suggestedPriceGtq.map storeNumeric
    defaultSalePriceGtq := product.defaultSalePriceGtq.map storeNumeric
    referencePriceOriginal := product.referencePriceOriginal.map storeNumeric
    referencePriceGtq := product.referencePriceGtq.map storeNumeric }

/-- A history entry as its columns store it. -/
def CatalogProductCostHistory.persisted (entry : CatalogProductCostHistory) :
    CatalogProductCostHistory :=
  { entry with
    originalCost := entry.originalCost.map storeNumeric
    exchangeRateToGtq := entry.exchangeRateToGtq.map storeRate
    costGtq := storeNumeric entry.costGtq
    suggestedPriceGtq := entry.suggestedPriceGtq.map storeNumeric
    referencePriceOriginal := entry.referencePriceOriginal.map storeNumeric
    referencePriceGtq := entry.referencePriceGtq.map storeNumeric }

/-- The product that an upsert creates. -/
def newProduct (catalog : Catalog) (request : UpsertRequest) : CatalogProduct :=
  { id := freshId (catalog.products.map (·.id) ++ catalog.costHistory.map (·.catalogProductId))
    tenantId := request.tenantId, sku := request.skuValue,
    normalizedSku := normalizeKey upper (some request.skuValue), variant1 := request.variant1,
    variant2 := request.variant2, normalizedVariant1 := some (normalizeKey upper request.variant1)
    normalizedVariant2 := some (normalizeKey upper request.variant2) }

/-- The product after an upsert, what the upsert reports, and the history entry of its cost. -/
def upsertRow (product : CatalogProduct) (request : UpsertRequest) (created : Bool) :
    CatalogUpsertResult × Option CatalogProductCostHistory :=
  let merged := mergeFields upper product request created
  let updated := decide (merged ≠ product) || request.costGtq.isSome
  let costed := (request.costGtq.map (recordCost merged request)).getD merged
  ({ catalogProduct := costed, created, updated := updated && !created,
     reviewRequired := costed.priceReviewRequired },
    request.costGtq.map (costEntry product request))

/-- Upsert a product and commit. -/
def upsertCatalogProduct (catalog : Catalog) (request : UpsertRequest) :
    Except CatalogError (CatalogUpsertResult × Catalog) :=
  match catalog.products.filter fun product => product.key = request.key upper with
  | [] =>
    let (result, entry) := upsertRow upper (newProduct upper catalog request) request true
    .ok (result,
      { products := catalog.products ++ [result.catalogProduct.persisted]
        costHistory := catalog.costHistory ++ (entry.map (·.persisted)).toList })
  | [product] =>
    let (result, entry) := upsertRow upper product request false
    .ok (result,
      { products := KeyedRows.update (·.id) [product.id]
          (fun row => (upsertRow upper row request false).1.catalogProduct.persisted)
          catalog.products
        costHistory := catalog.costHistory ++ (entry.map (·.persisted)).toList })
  | _ => .error .multipleResultsFound

/-- The catalog after an upsert. -/
def catalogStep (catalog : Catalog) (request : UpsertRequest) : Except CatalogError Catalog :=
  (upsertCatalogProduct upper catalog request).map (·.2)

end

/-! ## Upserts of preload lines -/

/-- The upsert that saving a preload line makes. -/
def upsertOfPreloadLine (line : PreloadLine) : UpsertRequest :=
  { tenantId := line.tenantId, sku := line.sku, variant1 := line.var1Value,
    variant2 := line.var2Value, description := line.description, defaultPool := line.pool,
    defaultLocationCode := line.locationCode, sellableDefault := line.vendible,
    costGtq := line.costPrice.map (·.amount),
    suggestedPriceGtq := line.suggestedPrice.map (·.amount),
    defaultSalePriceGtq := line.salePrice.map (·.amount), sourceType := "PRELOAD",
    sourcePreloadLineId := some line.id }

end ArisCloud.CatalogProducts

import Mathlib.Data.List.Chain
import ArisCloud.Library.Reachability
import ArisCloud.Proofs.CatalogSteps

/-! # A consistent catalog

After any run of upserts each key that was upserted has one product, whose last cost is the last one
of its history, whose descriptive texts stay and whose sale price changes only where it is to be
updated. A product is under review exactly when its recorded costs change, as long as no upsert
brings a cost that differs from the last one and is rounded to it.
-/

namespace ArisCloud.CatalogProducts

open Decimals Requests

/-! ## What a run keeps -/

section

variable {upper : String → String} {catalog after last : Catalog} {request : UpsertRequest}
    {target product : CatalogProduct} {created : Bool}
  {history : List (Catalog × UpsertRequest)}

theorem Upserted.keep (step : Upserted upper catalog after request target created)
    (invariant : CatalogInvariant catalog) (member : product ∈ catalog.products) :
    product ∈ after.products ∨ created = false ∧ product = target := by
  by_cases same : product.id = target.id
  · cases created with
    | true =>
      rw [step.fresh rfl] at same
      exact absurd same (newProduct_unused product member)
    | false => exact .inr ⟨rfl, List.inj_on_of_nodup_map invariant.distinctIds member
      (step.known rfl) same⟩
  · exact .inl (step.others product member same)

/-- A product later has the same identifier, the same key and every descriptive text that was not
blank. -/
structure KeptProduct (product later : CatalogProduct) : Prop where
  id : later.id = product.id
  key : later.key = product.key
  texts : ∀ field ∈ protectedFields, isBlankText (field product) = false →
    field later = field product

theorem KeptProduct.trans {middle later : CatalogProduct} (first : KeptProduct product middle)
    (second : KeptProduct middle later) : KeptProduct product later := by
  refine ⟨second.id.trans first.id, second.key.trans first.key, fun field isProtected text => ?_⟩
  have same := first.texts field isProtected text
  exact (second.texts field isProtected (same ▸ text)).trans same

/-- A catalog still has a product as it was, but for blank texts and amounts. -/
def HasProduct (product : CatalogProduct) (catalog : Catalog) : Prop :=
  ∃ later ∈ catalog.products, KeptProduct product later

private theorem Upserted.hasProduct (step : Upserted upper catalog after request target created)
    (invariant : CatalogInvariant catalog) (present : HasProduct product catalog) :
    HasProduct product after := by
  obtain ⟨later, member, kept⟩ := present
  rcases step.keep invariant member with still | ⟨rfl, rfl⟩
  · exact ⟨later, still, kept⟩
  · refine ⟨_, step.written,
      kept.trans ⟨id_upserted, (key_upserted step.named).trans step.named.symm, ?_⟩⟩
    exact fun field isProtected text => protected_upserted isProtected text

/-- A catalog still has a product with a sale price. -/
def HasSalePrice (productId : ℕ) (key : ProductKey) (price : ℚ) (catalog : Catalog) : Prop :=
  ∃ later ∈ catalog.products, later.id = productId ∧ later.key = key ∧ later.defaultSalePriceGtq =
    some price

private theorem Upserted.hasSalePrice (step : Upserted upper catalog after request target created)
    (invariant : CatalogInvariant catalog) {productId : ℕ} {key : ProductKey} {price : ℚ}
    (present : HasSalePrice productId key price catalog)
    (keeps : request.key upper = key → request.updateSalePrice = false) :
    HasSalePrice productId key price after := by
  obtain ⟨later, member, id, isKey, isPrice⟩ := present
  rcases step.keep invariant member with still | ⟨rfl, rfl⟩
  · exact ⟨later, still, id, isKey, isPrice⟩
  · have cents := invariant.salePrices later member price isPrice
    have asked := step.named.symm.trans isKey
    exact ⟨_, step.written, id_upserted.trans id, (key_upserted step.named).trans asked,
      salePrice_upserted isPrice cents (keeps asked)⟩

/-! ## When a product is under review -/

/-- A product is under review exactly when two costs of its history in a row differ. -/
def ReviewsChanges (catalog : Catalog) : Prop :=
  ∀ product ∈ catalog.products, product.priceReviewRequired = true ↔
    ¬ (catalog.costs product.id).IsChain (· = ·)

/-- No cost that differs from the last one is rounded to it, unless its product is under review
already. -/
def RoundsApart (upper : String → String) (catalog : Catalog) (request : UpsertRequest) : Prop :=
  ∀ product ∈ catalog.products, product.key = request.key upper →
    product.priceReviewRequired = false → ∀ cost ∈ request.costGtq, cost ∉ product.lastCostGtq →
    storeNumeric cost ∉ product.lastCostGtq

instance (upper : String → String) (catalog : Catalog) (request : UpsertRequest) :
    Decidable (RoundsApart upper catalog request) :=
  inferInstanceAs (Decidable (∀ product ∈ catalog.products, _))

/-- A cost of whole hundredths is its own rounding. -/
theorem RoundsApart.of_isCents (cents : ∀ cost ∈ request.costGtq, IsCents cost) :
    RoundsApart upper catalog request := by
  intro product _ _ _ cost isCost differs
  rw [storeNumeric_of_isCents (cents cost isCost)]
  exact differs

/-- Saving a preload line brings a cost of whole hundredths. -/
theorem roundsApart_of_preloadLine (line : PreloadLine) :
    RoundsApart upper catalog (upsertOfPreloadLine line) := by
  refine .of_isCents fun cost isCost => ?_
  obtain ⟨price, _, rfl⟩ := Option.map_eq_some_iff.mp isCost
  exact ⟨price.cents, rfl⟩

private theorem isChain_append_toList {costs : List ℚ} {cost : Option ℚ} :
    (costs ++ cost.toList).IsChain (· = ·) ↔ costs.IsChain (· = ·) ∧ ∀ former ∈ costs.getLast?,
    ∀ next ∈ cost, former = next := by
  rw [List.isChain_append]
  cases cost with
  | none => simp
  | some cost => simp

/-- A cost differs from the last one exactly when it does so after it is rounded. -/
theorem Upserted.differs_iff (step : Upserted upper catalog after request target created)
    (invariant : CatalogInvariant catalog) (apart : RoundsApart upper catalog request)
    (unflagged : target.priceReviewRequired = false) :
    (request.costGtq.any fun cost => target.lastCostGtq.any (· ≠ cost)) = true ↔
      ¬ ∀ former ∈ target.lastCostGtq, ∀ next ∈ request.costGtq.map storeNumeric,
      former = next := by
  cases asked : request.costGtq with
  | none => simp
  | some cost =>
    cases isLast : target.lastCostGtq with
    | none => simp
    | some last =>
      have known : created = false := by
        cases created with
        | false => rfl
        | true =>
          rw [step.fresh rfl] at isLast
          contradiction
      have rounded : last ≠ cost ↔ last ≠ storeNumeric cost := by
        constructor
        · intro differs same
          refine apart target (step.known known) step.named unflagged cost asked ?_
            (isLast.trans (congrArg some same))
          exact fun equal => differs (Option.some.inj (isLast.symm.trans equal))
        · rintro differs rfl
          exact differs (storeNumeric_of_isCents (step.targetStored invariant last isLast)).symm
      simpa using rounded

/-- An upsert whose cost is not rounded to another keeps the reviews right. -/
theorem Upserted.reviewsChanges (step : Upserted upper catalog after request target created)
    (invariant : CatalogInvariant catalog) (reviews : ReviewsChanges catalog)
    (apart : RoundsApart upper catalog request) : ReviewsChanges after := by
  intro product member
  rcases step.members product member with rfl | ⟨old, other⟩
  · have before : target.priceReviewRequired = true ↔ ¬ (catalog.costs target.id).IsChain
        (· = ·) := by
      cases created with
      | true =>
        rw [step.fresh rfl, costs_newProduct]
        simp [newProduct]
      | false => exact reviews target (step.known rfl)
    rw [id_upserted, step.targetHistory, isChain_append_toList, ← step.targetCosts invariant,
      review_upserted, not_and_or, ← before, Bool.or_eq_true]
    cases flagged : target.priceReviewRequired with
    | true => simp
    | false => rw [step.differs_iff invariant apart flagged]
  · rw [step.otherHistory other]
    exact reviews product old

end

/-! ## The theorem -/

/-- What a run of upserts leaves: one product for each key, the last costs of the histories, the
descriptive texts, the sale prices that no upsert was to update, and reviews of the products whose
costs changed. -/
structure Consistent (upper : String → String) (history : List (Catalog × UpsertRequest))
    (last : Catalog) : Prop where
  oneProduct : ∀ entry ∈ history, (last.products.map (·.key)).count (entry.2.key upper) = 1
  lastCost : ∀ product ∈ last.products, product.lastCostGtq = (last.costs product.id).getLast?
  texts : ∀ entry ∈ history, ∀ product ∈ entry.1.products, ∃ later ∈ last.products,
    later.id = product.id ∧ ∀ field ∈ protectedFields, isBlankText (field product) = false →
    field later = field product
  salePrice : ∀ earlier entry rest, history = earlier ++ entry :: rest →
    ∀ product ∈ entry.1.products, ∀ price, product.defaultSalePriceGtq = some price →
      (∀ upsert ∈ entry :: rest, upsert.2.key upper = product.key →
      upsert.2.updateSalePrice = false) →
        ∃ later ∈ last.products, later.id = product.id ∧ later.defaultSalePriceGtq = some price
  reviews : ReviewsChanges last

section

variable {upper : String → String} {catalog last : Catalog}
    {history : List (Catalog × UpsertRequest)}

private theorem invariant_empty : CatalogInvariant {} :=
  ⟨List.nodup_nil, List.nodup_nil, List.forall_mem_nil _, List.forall_mem_nil _,
    List.forall_mem_nil _⟩

/-- Runs keep the invariant. -/
theorem invariant_of_run (run : Run (catalogStep upper) catalog history last)
    (invariant : CatalogInvariant catalog) :
    CatalogInvariant last := by
  refine run.invariant invariant fun source request next holds success => ?_
  obtain ⟨target, created, step⟩ := catalogStep_ok holds success
  exact step.invariant holds

/-- What every upsert of the invariant keeps, a run keeps, where each of its upserts is allowed. -/
theorem keeps_of_run (holds : Catalog → Prop) (allowed : Catalog → UpsertRequest → Prop)
    (run : Run (catalogStep upper) catalog history last) (invariant : CatalogInvariant catalog)
    (initial : holds catalog) (permitted : ∀ entry ∈ history, allowed entry.1 entry.2)
    (keeps : ∀ source request next target created, CatalogInvariant source →
      allowed source request → holds source →
      Upserted upper source next request target created → holds next) : holds last := by
  induction run with
  | finish => exact initial
  | commit success _ ih =>
    obtain ⟨first, later⟩ := List.forall_mem_cons.mp permitted
    obtain ⟨target, created, step⟩ := catalogStep_ok invariant success
    exact ih (step.invariant invariant) (keeps _ _ _ _ _ invariant first initial step) later

/-- The state in which a request of a run found the catalog. -/
theorem invariant_before {earlier rest : List (Catalog × UpsertRequest)}
    {entry : Catalog × UpsertRequest}
    (run : Run (catalogStep upper) {} (earlier ++ entry :: rest) last) : CatalogInvariant entry.1 :=
  invariant_of_run run.before invariant_empty

private theorem key_of_run {earlier rest : List (Catalog × UpsertRequest)}
    {entry : Catalog × UpsertRequest}
    (run : Run (catalogStep upper) {} (earlier ++ entry :: rest) last) :
    entry.2.key upper ∈ last.products.map (·.key) := by
  have invariant := invariant_before run
  obtain ⟨source, request⟩ := entry
  cases run.onward with
  | commit success later =>
    obtain ⟨target, created, step⟩ := catalogStep_ok invariant success
    have present : (upserted upper target request created).key ∈ _ :=
      List.mem_map_of_mem step.written
    rw [key_upserted step.named] at present
    refine keeps_of_run (fun catalog => request.key upper ∈ catalog.products.map (·.key))
      (fun _ _ => True) later (step.invariant invariant) present (fun _ _ => trivial) ?_
    intro source request next target created _ _ present step
    rw [step.keys]
    exact List.mem_append_left _ present

end

namespace Sample

/-- Jackets at a cost; the sku is written in different ways. -/
def jackets (sku : String) (cost : Option ℚ) : UpsertRequest :=
  { tenantId := 1, sku := some sku, costGtq := cost }

/-- The cost of jackets stays, is left out and rises. -/
def dearerJackets : List UpsertRequest :=
  [jackets "jacket" (some 10), jackets " Jacket" (some 10), jackets "JACKET" none,
    jackets "jacket " (some 11)]

/-- The product of the jackets. -/
def jacket (cost : ℚ) (priceReviewRequired : Bool) : CatalogProduct :=
  { id := 1, tenantId := 1, sku := "jacket", normalizedSku := "JACKET",
    normalizedVariant1 := some "", normalizedVariant2 := some "", lastCostGtq := some cost,
    priceReviewRequired }

/-- Its history. -/
def bought (costs : List ℚ) : List CatalogProductCostHistory :=
  costs.map fun costGtq => { tenantId := 1, catalogProductId := 1, sourceType := "MANUAL", costGtq }

/-- The catalogs that the upserts of the jackets find. -/
def jacketHistory : List (Catalog × UpsertRequest) :=
  [({}, jackets "jacket" (some 10)),
    (⟨[jacket 10 false], bought [10]⟩, jackets " Jacket" (some 10)),
    (⟨[jacket 10 false], bought [10, 10]⟩, jackets "JACKET" none),
    (⟨[jacket 10 false], bought [10, 10]⟩, jackets "jacket " (some 11))]

private theorem first_jacket :
    catalogStep String.toUpper {} (jackets "jacket" (some 10)) = .ok
    ⟨[jacket 10 false], bought [10]⟩ := by
  decide +kernel

private theorem same_jacket : catalogStep String.toUpper ⟨[jacket 10 false], bought [10]⟩
    (jackets " Jacket" (some 10)) =
    .ok ⟨[jacket 10 false], bought [10, 10]⟩ := by decide +kernel

private theorem free_jacket : catalogStep String.toUpper ⟨[jacket 10 false], bought [10, 10]⟩
    (jackets "JACKET" none) =
    .ok ⟨[jacket 10 false], bought [10, 10]⟩ := by decide +kernel

private theorem dearer_jacket : catalogStep String.toUpper ⟨[jacket 10 false], bought [10, 10]⟩
    (jackets "jacket " (some 11)) =
    .ok ⟨[jacket 11 true], bought [10, 10, 11]⟩ := by decide +kernel

private theorem dearerJackets_recorded : recordRun (catalogStep String.toUpper) {} dearerJackets =
    some (jacketHistory, ⟨[jacket 11 true], bought [10, 10, 11]⟩) := by
  simp only [dearerJackets, recordRun, first_jacket, same_jacket, free_jacket, dearer_jacket]
  rfl

private theorem dearerJackets_commit :
    (recordRun (catalogStep String.toUpper) {} dearerJackets).isSome = true := by
  rw [dearerJackets_recorded]
  rfl

def dearer := (recordRun (catalogStep String.toUpper) {} dearerJackets).get dearerJackets_commit

private theorem dearer_apart : ∀ entry ∈ dearer.1, RoundsApart String.toUpper entry.1 entry.2 := by
  have recorded : dearer = _ := Option.get_of_eq_some dearerJackets_commit dearerJackets_recorded
  rw [recorded]
  decide +kernel

/-- A cost that is rounded to the one before. -/
def sameJackets : List UpsertRequest :=
  [jackets "jacket" (some 10), jackets "jacket" (some (10004 / 1000))]

private theorem sameJackets_commit :
    (recordRun (catalogStep String.toUpper) {} sameJackets).isSome = true := by decide +kernel

def same := (recordRun (catalogStep String.toUpper) {} sameJackets).get sameJackets_commit

end Sample

end ArisCloud.CatalogProducts

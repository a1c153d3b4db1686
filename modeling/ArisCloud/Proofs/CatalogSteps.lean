import ArisCloud.Model.CatalogProducts

/-! # What an upsert of the catalog writes

An upsert writes one row, which is new or the only one of its key, and at most one history entry,
which is of that row. The other rows stay as they are. What the row keeps of its former columns is
stated column by column.
-/

namespace ArisCloud.CatalogProducts

open Decimals KeyedRows

/-- The row that an upsert writes. -/
def upserted (upper : String → String) (product : CatalogProduct) (request : UpsertRequest)
    (created : Bool) : CatalogProduct :=
  (upsertRow upper product request created).1.catalogProduct.persisted

/-- The costs of a product in the order in which they were recorded. -/
def Catalog.costs (catalog : Catalog) (productId : ℕ) : List ℚ :=
  (catalog.costHistory.filter fun entry => entry.catalogProductId = productId).map (·.costGtq)

/-- The columns whose text is not overwritten. -/
def protectedFields : List (CatalogProduct → Option String) :=
  [(·.description), (·.brand), (·.style), (·.color), (·.size), (·.category),
    (·.defaultLocationCode), (·.defaultPool), (·.variant1), (·.variant2)]

/-! ## The columns of the row -/

section

variable {upper : String → String} {product : CatalogProduct} {request : UpsertRequest}
    {created : Bool}

/-- An upsert without a cost leaves the columns of the cost, one with a cost writes them. -/
theorem upserted_eq : upserted upper product request created =
    ((request.costGtq.map (recordCost (mergeFields upper product request created) request)).getD
      (mergeFields upper product request created)).persisted := rfl

/-- A column that neither the cost nor the way amounts are stored touches. -/
theorem column_upserted {β : Type*} (column : CatalogProduct → β)
    (costed : ∀ row cost, column (recordCost row request cost) = column row)
    (stored : ∀ row : CatalogProduct, column row.persisted = column row) :
    column (upserted upper product request created) = column
    (mergeFields upper product request created) := by
  rw [upserted_eq, stored]
  cases request.costGtq with
  | none => rfl
  | some cost => exact costed _ cost

theorem id_upserted : (upserted upper product request created).id = product.id :=
  column_upserted (·.id) (fun _ _ => rfl) fun _ => rfl

/-- The row has the key of its upsert. -/
theorem key_upserted (named : product.key = request.key upper) :
    (upserted upper product request created).key = request.key upper := by
  rw [column_upserted CatalogProduct.key (fun _ _ => rfl) fun _ => rfl, ← named]
  simp only [CatalogProduct.key, UpsertRequest.key, Prod.mk.injEq] at named ⊢
  exact ⟨rfl, rfl, named.2.2.1.symm, named.2.2.2.symm⟩

/-- Text that is not blank stays. -/
theorem mergeText_of_text {current value : Option String} (text : isBlankText current = false) :
    mergeText false current value = current := by
  simp [mergeText, text]

/-- A protected column is merged, and not touched otherwise. -/
theorem protected_column {field : CatalogProduct → Option String}
    (isProtected : field ∈ protectedFields) :
    (∃ value, field (mergeFields upper product request created) = mergeText created
      (field product) value) ∧
      (∀ row cost, field (recordCost row request cost) = field row) ∧
        ∀ row : CatalogProduct, field row.persisted = field row := by
  simp only [protectedFields, List.mem_cons, List.not_mem_nil, or_false] at isProtected
  rcases isProtected with rfl | rfl | rfl | rfl | rfl | rfl | rfl | rfl | rfl | rfl
  all_goals exact ⟨⟨_, rfl⟩, fun _ _ => rfl, fun _ => rfl⟩

theorem protected_upserted {field : CatalogProduct → Option String}
    (isProtected : field ∈ protectedFields) (text : isBlankText (field product) = false) :
    field (upserted upper product request false) = field product := by
  have column :
      (∃ value, field (mergeFields upper product request false) = mergeText false
      (field product) value) ∧ _ :=
    protected_column isProtected
  obtain ⟨⟨value, merged⟩, costed, stored⟩ := column
  rw [column_upserted field costed stored, merged, mergeText_of_text text]

/-- The cost of the row: the one that the upsert brings, or the former one. -/
theorem lastCost_upserted (stored : ∀ cost ∈ product.lastCostGtq, IsCents cost) :
    (upserted upper product request created).lastCostGtq =
    (request.costGtq.map storeNumeric).or product.lastCostGtq := by
  rw [upserted_eq]
  cases request.costGtq with
  | some cost => rfl
  | none =>
    change product.lastCostGtq.map storeNumeric = product.lastCostGtq
    cases former : product.lastCostGtq with
    | none => rfl
    | some cost => exact congrArg some (storeNumeric_of_isCents (stored cost former))

/-- A sale price stays unless the upsert is to update it. -/
theorem salePrice_upserted {price : ℚ} (isPrice : product.defaultSalePriceGtq = some price)
    (cents : IsCents price) (keeps : request.updateSalePrice = false) :
    (upserted upper product request created).defaultSalePriceGtq = some price := by
  have kept : (mergeFields upper product request created).defaultSalePriceGtq = some price :=
    isPrice
  rw [upserted_eq]
  cases request.costGtq with
  | none =>
    change product.defaultSalePriceGtq.map storeNumeric = some price
    rw [isPrice, Option.map_some, storeNumeric_of_isCents cents]
  | some cost =>
    change (if request.updateSalePrice ||
        (mergeFields upper product request created).defaultSalePriceGtq.isNone then
      request.defaultSalePriceGtq.or (mergeFields upper product request created).defaultSalePriceGtq
        else (mergeFields upper product request created).defaultSalePriceGtq).map storeNumeric =
        some price
    rw [kept, keeps, Option.isNone_some, Bool.or_false, if_neg Bool.false_ne_true, Option.map_some,
      storeNumeric_of_isCents cents]

/-- The review flag of the row: it stays, and a cost that differs from the former one sets it. -/
theorem review_upserted : (upserted upper product request created).priceReviewRequired =
    (product.priceReviewRequired || request.costGtq.any fun cost => product.lastCostGtq.any
      (· ≠ cost)) := by
  rw [upserted_eq]
  cases request.costGtq with
  | none => simp [CatalogProduct.persisted, mergeFields]
  | some cost => simp [CatalogProduct.persisted, mergeFields, recordCost]

/-- The amounts of the row are stored as hundredths. -/
theorem stored_upserted :
    (∀ cost ∈ (upserted upper product request created).lastCostGtq, IsCents cost) ∧
    ∀ price ∈ (upserted upper product request created).defaultSalePriceGtq, IsCents price := by
  constructor
  all_goals
    intro amount found
    obtain ⟨given, _, rfl⟩ := Option.map_eq_some_iff.mp found
    exact isCents_storeNumeric given

end

/-! ## The tables after an upsert -/

/-- What holds of a catalog that upserts wrote: products have distinct identifiers and keys, their
amounts are stored as hundredths, and the last cost of a product is the last one of its history. -/
structure CatalogInvariant (catalog : Catalog) : Prop where
  distinctIds : (catalog.products.map (·.id)).Nodup
  distinctKeys : (catalog.products.map (·.key)).Nodup
  costs : ∀ product ∈ catalog.products, ∀ cost ∈ product.lastCostGtq, IsCents cost
  salePrices : ∀ product ∈ catalog.products, ∀ price ∈ product.defaultSalePriceGtq, IsCents price
  lastCost : ∀ product ∈ catalog.products, product.lastCostGtq = (catalog.costs product.id).getLast?

/-- An upsert: the product that it is about, as it was before, and the tables after it. -/
structure Upserted (upper : String → String) (catalog after : Catalog) (request : UpsertRequest)
    (target : CatalogProduct) (created : Bool) :
    Prop where
  named : target.key = request.key upper
  known : created = false → target ∈ catalog.products
  fresh : created = true → target = newProduct upper catalog request
  unknown : created = true → ∀ product ∈ catalog.products, product.key ≠ request.key upper
  ids : after.products.map (·.id) = catalog.products.map (·.id) ++ (if created then [target.id]
    else [])
  keys : after.products.map (·.key) = catalog.products.map (·.key) ++
    (if created then [request.key upper] else [])
  members : ∀ product ∈ after.products,
    product = upserted upper target request created ∨ product ∈ catalog.products ∧
    product.id ≠ target.id
  written : upserted upper target request created ∈ after.products
  others : ∀ product ∈ catalog.products, product.id ≠ target.id → product ∈ after.products
  history : ∀ productId, after.costs productId = catalog.costs productId ++
    (if productId = target.id then (request.costGtq.map storeNumeric).toList else [])

section

variable {upper : String → String} {catalog after : Catalog} {request : UpsertRequest}
    {target product : CatalogProduct} {created : Bool}

theorem newProduct_unused (row : CatalogProduct) (member : row ∈ catalog.products) :
    row.id ≠ (newProduct upper catalog request).id :=
  (lt_freshId (List.mem_append_left _ (List.mem_map_of_mem member))).ne

/-- No cost is recorded for a product that is about to be created. -/
theorem costs_newProduct : catalog.costs (newProduct upper catalog request).id = [] := by
  rw [Catalog.costs, List.map_eq_nil_iff, List.filter_eq_nil_iff]
  intro entry member same
  have below : entry.catalogProductId < (newProduct upper catalog request).id :=
    lt_freshId (List.mem_append_right _ (List.mem_map_of_mem member))
  exact below.ne (of_decide_eq_true same)

/-- The costs of a product after a history entry of one product was appended. -/
theorem costs_append (entry : Option CatalogProductCostHistory) (products : List CatalogProduct)
    (productId : ℕ) :
    Catalog.costs ⟨products, catalog.costHistory ++ entry.toList⟩ productId =
    catalog.costs productId ++
      ((entry.filter fun entry => entry.catalogProductId = productId).map (·.costGtq)).toList := by
  rw [Catalog.costs, List.filter_append, List.map_append]
  congr 1
  cases entry with
  | none => rfl
  | some entry =>
    by_cases same : entry.catalogProductId = productId
    · simp [Option.filter, same]
    · simp [Option.filter, same]

private theorem history_append (products : List CatalogProduct) (target : CatalogProduct)
    (request : UpsertRequest) (productId : ℕ) :
    Catalog.costs ⟨products, catalog.costHistory ++
        ((request.costGtq.map (costEntry target request)).map (·.persisted)).toList⟩ productId =
      catalog.costs productId ++
          (if productId = target.id then (request.costGtq.map storeNumeric).toList else []) := by
  rw [costs_append]
  congr 1
  cases request.costGtq with
  | none => simp
  | some cost =>
    by_cases same : productId = target.id
    · simp [same, costEntry, CatalogProductCostHistory.persisted]
    · simp [same, costEntry, CatalogProductCostHistory.persisted, Ne.symm same]

/-- Every upsert that commits writes one product. -/
theorem catalogStep_ok (invariant : CatalogInvariant catalog)
    (success : catalogStep upper catalog request = .ok after) :
    ∃ target created, Upserted upper catalog after request target created := by
  simp only [catalogStep, upsertCatalogProduct] at success
  split at success
  · next none =>
    obtain rfl := Except.ok.inj success
    have unknown : ∀ product ∈ catalog.products, product.key ≠ request.key upper := by
      intro product member same
      exact List.filter_eq_nil_iff.mp none product member (decide_eq_true same)
    refine ⟨newProduct upper catalog request, true, rfl, nofun, fun _ => rfl, fun _ => unknown, ?_,
      ?_, ?_, ?_, ?_, ?_⟩
    · rw [List.map_append]
      exact congrArg (_ ++ [·]) id_upserted
    · rw [List.map_append]
      exact congrArg (_ ++ [·]) (key_upserted rfl)
    · intro product member
      rcases List.mem_append.mp member with old | new
      · exact .inr ⟨old, newProduct_unused product old⟩
      · exact .inl (List.mem_singleton.mp new)
    · exact List.mem_append_right _ (List.mem_singleton_self _)
    · exact fun product member _ => List.mem_append_left _ member
    · exact history_append _ _ _
  · next target one =>
    obtain rfl := Except.ok.inj success
    have isTarget : target ∈ catalog.products.filter fun product =>
        product.key = request.key upper :=
      one ▸ List.mem_singleton_self target
    obtain ⟨member, matching⟩ := List.mem_filter.mp isTarget
    have named : target.key = request.key upper := of_decide_eq_true matching
    refine ⟨target, false, named, fun _ => member, nofun, nofun, ?_, ?_, ?_, ?_, ?_, ?_⟩
    · rw [if_neg Bool.false_ne_true, List.append_nil]
      exact map_update fun row => id_upserted
    · rw [if_neg Bool.false_ne_true, List.append_nil]
      refine map_update_of_mem fun row found listed => ?_
      obtain rfl := List.inj_on_of_nodup_map invariant.distinctIds found member
        (List.mem_singleton.mp listed)
      exact (key_upserted named).trans named.symm
    · intro product found
      rcases mem_update_singleton invariant.distinctIds member found with same | other
      · exact .inl same
      · exact .inr other
    · exact mem_update.mpr ⟨target, member, if_pos (List.mem_singleton_self _)⟩
    · exact fun product found other =>
        mem_update.mpr ⟨product, found, if_neg fun same => other (List.mem_singleton.mp same)⟩
    · exact history_append _ _ _
  · contradiction

namespace Upserted

variable (step : Upserted upper catalog after request target created)

include step in
/-- The former costs of the product end with its former last cost. -/
theorem targetCosts (invariant : CatalogInvariant catalog) :
    target.lastCostGtq = (catalog.costs target.id).getLast? := by
  cases created with
  | true =>
    rw [step.fresh rfl, costs_newProduct]
    rfl
  | false => exact invariant.lastCost target (step.known rfl)

include step in
theorem targetStored (invariant : CatalogInvariant catalog) : ∀ cost ∈ target.lastCostGtq,
    IsCents cost := by
  cases created with
  | true =>
    rw [step.fresh rfl]
    exact nofun
  | false => exact invariant.costs target (step.known rfl)

include step in
/-- The costs of the product after the upsert. -/
theorem targetHistory :
    after.costs target.id = catalog.costs target.id ++
    (request.costGtq.map storeNumeric).toList := by
  rw [step.history, if_pos rfl]

include step in
theorem otherHistory (other : product.id ≠ target.id) :
    after.costs product.id = catalog.costs product.id := by
  rw [step.history, if_neg other, List.append_nil]

include step in
/-- An upsert keeps the invariant. -/
theorem invariant (before : CatalogInvariant catalog) : CatalogInvariant after := by
  constructor
  · rw [step.ids]
    cases created with
    | false => simpa using before.distinctIds
    | true =>
      have unused : target.id ∉ catalog.products.map (·.id) := by
        intro used
        obtain ⟨row, member, same⟩ := List.mem_map.mp used
        rw [step.fresh rfl] at same
        exact newProduct_unused row member same
      exact List.nodup_append.mpr ⟨before.distinctIds, List.nodup_singleton _, by
        rintro _ used _ isTarget rfl
        exact unused (List.mem_singleton.mp isTarget ▸ used)⟩
  · rw [step.keys]
    cases created with
    | false => simpa using before.distinctKeys
    | true =>
      have unused : request.key upper ∉ catalog.products.map (·.key) := by
        intro used
        obtain ⟨row, member, same⟩ := List.mem_map.mp used
        exact step.unknown rfl row member same
      exact List.nodup_append.mpr ⟨before.distinctKeys, List.nodup_singleton _, by
        rintro _ used _ isKey rfl
        exact unused (List.mem_singleton.mp isKey ▸ used)⟩
  · intro row member
    rcases step.members row member with rfl | ⟨old, _⟩
    · exact stored_upserted.1
    · exact before.costs row old
  · intro row member
    rcases step.members row member with rfl | ⟨old, _⟩
    · exact stored_upserted.2
    · exact before.salePrices row old
  · intro row member
    rcases step.members row member with rfl | ⟨old, other⟩
    · rw [lastCost_upserted (step.targetStored before), id_upserted, step.targetHistory,
        step.targetCosts before, List.getLast?_append]
      cases request.costGtq with
      | none => rfl
      | some cost => rfl
    · rw [step.otherHistory other]
      exact before.lastCost row old

end Upserted

end

end ArisCloud.CatalogProducts

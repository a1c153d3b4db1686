import ArisCloud.Proofs.SaleSteps

/-! # What a sale line is rebuilt from

A line of a request is rebuilt from the row of its tag, from the oldest row of its SKU when there
are enough of them, or else, when the client names a price, from what the client sent.
-/

namespace ArisCloud

open KeyedRows

/-- The price that a client names agrees with the one of the row, when both are given. -/
def PriceAccepted (line : PosSaleLineCreate) (stock : StockItem) : Prop :=
  line.unitPrice.isSome → stock.salePrice.isSome →
    lineFallbackPrice line = authoritativePrice stock (lineFallbackPrice line)

/-- Where a resolved line comes from. -/
inductive LineBuilt (db : Db) (tenantId storeId : ℕ) (line : PosSaleLineCreate)
    (resolved : ResolvedSaleLine) : Prop
  | tagged (stock : StockItem) (kind : line.lineType = .epc)
      (named : isTruthy (selectedEpc line) = true)
      (found : db.stock.rows.find? (epcLineFilters tenantId storeId line) = some stock)
      (accepted : PriceAccepted line stock) (lineType : resolved.lineType = .epc)
      (qty : resolved.qty = 1) (unitPrice : resolved.unitPrice = authoritativePrice stock
      (lineFallbackPrice line)) (snapshot : resolved.snapshot = epcSnapshot stock)
  | stocked (stock : StockItem) (kind : line.lineType = .sku)
      (found : skuLineStock db tenantId storeId line = some stock)
      (accepted : PriceAccepted line stock) (lineType : resolved.lineType = .sku)
      (qty : resolved.qty = line.qty) (unitPrice : resolved.unitPrice = authoritativePrice stock
      (lineFallbackPrice line)) (snapshot : resolved.snapshot = skuSnapshot stock)
  | unstocked (kind : line.lineType = .sku) (missing : skuLineStock db tenantId storeId line = none)
      (priced : line.unitPrice.isSome = true) (lineType : resolved.lineType = .sku)
      (qty : resolved.qty = line.qty) (unitPrice : resolved.unitPrice = lineFallbackPrice line)
      (snapshot : resolved.snapshot = fallbackSnapshot (selectedSku line)
      (lineSnapshotOrDefault line))

private theorem buildSaleLineFromStock_ok {db : Db} {tenantId storeId : ℕ}
    {line : PosSaleLineCreate} {resolved : ResolvedSaleLine}
    (success : buildSaleLineFromStock db tenantId storeId line = .ok resolved) :
    LineBuilt db tenantId storeId line resolved := by
  simp only [buildSaleLineFromStock, Checked.bind_eq_ok] at success
  obtain ⟨valid, _, built⟩ := success
  split at built
  · next kind =>
    simp only [ensurePriceMatches, Checked.bind_eq_ok, Checked.find_eq_ok, Checked.ensure_eq_ok,
      exists_const, Checked.pure_eq_ok] at built
    obtain ⟨stock, found, accepted, rfl⟩ := built
    exact .tagged stock.val kind (valid.down.2 kind) found accepted rfl rfl rfl rfl
  · next kind =>
    split at built
    · next stock found =>
      simp only [ensurePriceMatches, Checked.bind_eq_ok, Checked.ensure_eq_ok, exists_const,
        Checked.pure_eq_ok] at built
      obtain ⟨accepted, rfl⟩ := built
      exact .stocked stock kind found accepted rfl rfl rfl rfl
    · next missing =>
      simp only [Checked.bind_eq_ok, Checked.ensure_eq_ok, exists_const,
        Checked.pure_eq_ok] at built
      obtain ⟨priced, rfl⟩ := built
      exact .unstocked kind missing priced rfl rfl rfl rfl

theorem resolveSaleLines_ok {db : Db} {tenantId storeId : ℕ} {lines : List PosSaleLineCreate}
    {resolved : List ResolvedSaleLine}
    (success : resolveSaleLines db tenantId storeId lines = .ok resolved) :
    List.Forall₂ (LineBuilt db tenantId storeId) lines resolved :=
  (Checked.mapM_eq_ok.mp success).imp fun _ _ built => buildSaleLineFromStock_ok built

/-! ## The rows behind a line -/

section Rows

variable {db : Db} {tenantId storeId : ℕ} {line : PosSaleLineCreate} {row : StockItem}

/-- A row that an EPC line matches is on sale in the store and carries the tag. -/
structure MatchesEpc (tenantId storeId : ℕ) (line : PosSaleLineCreate) (row : StockItem) :
    Prop where
  tenant : row.tenantId = tenantId
  store : row.storeId = some storeId
  tag : row.epc = selectedEpc line
  onSale : notSold row = true
  placed : snapshotPlaceFilters (lineSnapshotOrDefault line) row = true

theorem epcLineFilters_eq_true : epcLineFilters tenantId storeId line row = true ↔
    MatchesEpc tenantId storeId line row := by
  simp only [epcLineFilters, saleEpcFilters, Bool.and_eq_true, decide_eq_true_eq]
  constructor
  · rintro ⟨⟨⟨⟨tenant, store⟩, tag⟩, onSale⟩, placed⟩
    exact ⟨tenant, store, tag, onSale, placed⟩
  · rintro ⟨tenant, store, tag, onSale, placed⟩
    exact ⟨⟨⟨⟨tenant, store⟩, tag⟩, onSale⟩, placed⟩

/-- A row that a SKU line matches is on sale in the store and carries no tag. -/
structure MatchesSku (tenantId storeId : ℕ) (line : PosSaleLineCreate) (row : StockItem) :
    Prop where
  tenant : row.tenantId = tenantId
  store : row.storeId = some storeId
  sku : row.sku = selectedSku line
  untagged : row.epc = none
  onSale : notSold row = true
  placed : snapshotPlaceFilters (lineSnapshotOrDefault line) row = true

theorem skuLineFilters_eq_true : skuLineFilters tenantId storeId line row = true ↔
    MatchesSku tenantId storeId line row := by
  simp only [skuLineFilters, saleSkuFilters, Bool.and_eq_true, decide_eq_true_eq]
  constructor
  · rintro ⟨⟨⟨⟨⟨tenant, store⟩, sku⟩, untagged⟩, onSale⟩, placed⟩
    exact ⟨tenant, store, sku, untagged, onSale, placed⟩
  · rintro ⟨tenant, store, sku, untagged, onSale, placed⟩
    exact ⟨⟨⟨⟨⟨tenant, store⟩, sku⟩, untagged⟩, onSale⟩, placed⟩

/-- The row of a SKU line is one that the line matches. -/
theorem skuLineStock_eq_some (found : skuLineStock db tenantId storeId line = some row) :
    row ∈ db.stock.rows ∧ MatchesSku tenantId storeId line row := by
  rw [skuLineStock] at found
  split at found
  · contradiction
  · obtain ⟨member, matching⟩ := mem_of_mem_oldest (List.mem_of_head? found)
    exact ⟨member, skuLineFilters_eq_true.mp matching⟩

end Rows

/-! ## Tags of lines -/

/-- No resolved line carries an empty tag. -/
theorem LineBuilt.epc_ne_empty {db : Db} {tenantId storeId : ℕ} {line : PosSaleLineCreate}
    {resolved : ResolvedSaleLine} (built : LineBuilt db tenantId storeId line resolved) :
    resolved.snapshot.epc ≠ some "" := by
  cases built with
  | tagged stock kind named found accepted lineType qty unitPrice snapshot =>
    have tag := (epcLineFilters_eq_true.mp (List.find?_some found)).tag
    rw [snapshot]
    intro empty
    rw [← tag, show stock.epc = some "" from empty] at named
    contradiction
  | stocked stock kind found accepted lineType qty unitPrice snapshot =>
    simp [snapshot, skuSnapshot]
  | unstocked kind missing priced lineType qty unitPrice snapshot =>
    simp [snapshot, fallbackSnapshot]

theorem newSaleLines_epc {db : Db} {tenantId storeId saleId : ℕ} {lines : List PosSaleLineCreate}
    {resolved : List ResolvedSaleLine}
    (success : resolveSaleLines db tenantId storeId lines = .ok resolved) :
    ∀ line ∈ newSaleLines db saleId tenantId resolved, line.epc ≠ some "" := by
  intro line member
  obtain ⟨index, bound, rfl⟩ := List.mem_iff_getElem.mp member
  simp only [newSaleLines, List.length_mapIdx] at bound
  simp only [newSaleLines, List.getElem_mapIdx]
  obtain ⟨_, _, built⟩ := Checked.item_of_output (resolveSaleLines_ok success)
    (List.getElem_mem bound)
  exact built.epc_ne_empty

end ArisCloud

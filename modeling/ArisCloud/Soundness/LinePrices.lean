import ArisCloud.Library.Precedence
import ArisCloud.Soundness.ReturnStock

/-! # The price of a line and of the units it sells

A line takes its price from one row, the one with its tag or the oldest of its SKU, and falls back
on the price of the client when that row has none or the stock holds too few. A checkout takes as
many rows as the line asks for, each of them at a price of its own.
-/

namespace ArisCloud

open KeyedRows Requests

/-! ## Prices of lines -/

/-- The lines that a request asks for. -/
def SaleRequest.askedLines : SaleRequest → List PosSaleLineCreate
  | .create _ payload => payload.lines
  | .update _ _ payload => payload.lines
  | .action _ _ payload => payload.action.exchangeLines

/-- The sale whose lines the request writes: the updated one, or else a new one. -/
def SaleRequest.Writes (db : Db) (request : SaleRequest) (sale : PosSale) : Prop :=
  match request with
  | .update _ saleId _ => sale.id = saleId
  | .create _ _ | .action _ _ _ => ∀ other ∈ db.sales, other.id ≠ sale.id

/-- The rows on sale that a line of a request may stand for. -/
def lineFilters (tenantId storeId : ℕ) (line : PosSaleLineCreate) : StockItem → Bool :=
  match line.lineType with
  | .epc => epcLineFilters tenantId storeId line
  | .sku => skuLineFilters tenantId storeId line

/-- A row that the line may stand for has this price. -/
def Offers (db : Db) (sale : PosSale) (line : PosSaleLineCreate) (price : Price) : Prop :=
  ∃ row ∈ db.stock.rows, lineFilters sale.tenantId sale.storeId line row = true ∧
    row.salePrice = some price

instance (db : Db) (sale : PosSale) (line : PosSaleLineCreate) (price : Price) :
    Decidable (Offers db sale line price) :=
  inferInstanceAs (Decidable (∃ row ∈ db.stock.rows, _))

/-- When the stock has a price for the line, the line has a price of the stock. -/
def PricedFromStock (db : Db) (sale : PosSale) (line : PosSaleLineCreate) (unitPrice : Price) :
    Prop :=
  (∃ price, Offers db sale line price) → Offers db sale line unitPrice

/-- When the stock has a price for the line, the line is tagged, or it finds enough rows and the
oldest one has a price, or the price that the client names happens to be one of the stock. -/
def PriceResolved (db : Db) (sale : PosSale) (line : PosSaleLineCreate) : Prop :=
  (∃ price, Offers db sale line price) → line.lineType = .epc ∨
    (∃ stock, skuLineStock db sale.tenantId sale.storeId line = some stock ∧
    stock.salePrice ≠ none) ∨
      Offers db sale line (lineFallbackPrice line)

/-! ## Prices of units -/

/-- The sale is as the request wrote it, and the stock is as it was then. -/
structure AsDrafted (after later : Db) (sale : PosSale) : Prop where
  stock : later.stock = after.stock
  lines : getSaleLines later sale.id = getSaleLines after sale.id
  sale : ∀ other ∈ later.sales, other.id = sale.id → other = sale

/-- The units that a checkout turns sold for a line. -/
def SoldFor (db : Db) (sale : PosSale) (line : PosSaleLine) (unit : StockItem) : Prop :=
  unit.id ∈ soldIds db sale line.lineType line.toPosSaleLineSnapshot line.qty

instance (db : Db) (sale : PosSale) (line : PosSaleLine) (unit : StockItem) :
    Decidable (SoldFor db sale line unit) :=
  inferInstanceAs (Decidable (_ ∈ _))

/-- Every unit that a checkout turned sold for the line has the price of the line. -/
def SoldAtPrice (db sold : Db) (sale : PosSale) (line : PosSaleLine) : Prop :=
  ∀ unit ∈ sold.stock.rows, SoldFor db sale line unit → unit.status = some "SOLD" ∧
    unit.salePrice = some line.unitPrice

/-- The units that a checkout would turn sold for the line are all of one price. -/
def OnePrice (db : Db) (sale : PosSale) (line : PosSaleLine) : Prop :=
  ∃ price, ∀ unit ∈ db.stock.rows, SoldFor db sale line unit → unit.salePrice = some price

section Lines

variable {db : Db} {sale : PosSale} {asked : PosSaleLineCreate} {resolved : ResolvedSaleLine}

/-! ## Where the price comes from -/

/-- The row with the tag of a line is the only one. -/
theorem eq_of_epcLineFilters {tenantId storeId : ℕ} {row stock : StockItem}
    (named : isTruthy (selectedEpc asked) = true) (isRow : row ∈ db.stock.rows)
    (isStock : stock ∈ db.stock.rows) (matching : epcLineFilters tenantId storeId asked row = true)
    (found : epcLineFilters tenantId storeId asked stock = true) : row = stock := by
  have first := epcLineFilters_eq_true.mp matching
  have second := epcLineFilters_eq_true.mp found
  obtain ⟨epc, tag⟩ : ∃ epc, selectedEpc asked = some epc := by
    refine Option.ne_none_iff_exists'.mp fun none => ?_
    rw [none] at named
    contradiction
  exact StockTable.eq_of_tag isRow isStock (first.tenant.trans second.tenant.symm)
    (first.tag.trans tag) (second.tag.trans tag)

/-- The fallback price is one of the stock exactly when the condition on a line without a priced row
holds. -/
theorem pricedFromStock_fallback (kind : asked.lineType = .sku)
    (unpriced : ∀ stock, skuLineStock db sale.tenantId sale.storeId asked = some stock →
      stock.salePrice = none) :
    PricedFromStock db sale asked (lineFallbackPrice asked) ↔ PriceResolved db sale asked := by
  refine forall_congr' fun _ => ⟨fun offered => .inr (.inr offered), ?_⟩
  rintro (tagged | ⟨stock, found, priced⟩ | offered)
  · rw [kind] at tagged
    contradiction
  · exact absurd (unpriced stock found) priced
  · exact offered

/-- A line is priced from the stock exactly when its price is resolved there. -/
theorem LineBuilt.pricedFromStock_iff
    (built : LineBuilt db sale.tenantId sale.storeId asked resolved) :
    PricedFromStock db sale asked resolved.unitPrice ↔ PriceResolved db sale asked := by
  cases built with
  | tagged stock kind named found accepted lineType qty unitPrice snapshot =>
    refine iff_of_true ?_ fun _ => .inl kind
    rintro ⟨price, row, isRow, matching, priced⟩
    have isStock := List.mem_of_find?_eq_some found
    have filters : lineFilters sale.tenantId sale.storeId asked =
        epcLineFilters sale.tenantId sale.storeId asked := by
      rw [lineFilters, kind]
    rw [filters] at matching
    obtain rfl := eq_of_epcLineFilters named isRow isStock matching (List.find?_some found)
    refine ⟨row, isRow, filters ▸ matching, ?_⟩
    rw [unitPrice, authoritativePrice, priced, Option.getD_some]
  | stocked stock kind found accepted lineType qty unitPrice snapshot =>
    rw [authoritativePrice] at unitPrice
    cases priced : stock.salePrice with
    | none =>
      rw [priced, Option.getD_none] at unitPrice
      rw [unitPrice]
      refine pricedFromStock_fallback kind fun other isFound => ?_
      obtain rfl := Option.some.inj (found.symm.trans isFound)
      exact priced
    | some price =>
      rw [priced, Option.getD_some] at unitPrice
      obtain ⟨isStock, matching⟩ := skuLineStock_eq_some found
      have offered : Offers db sale asked price := by
        refine ⟨stock, isStock, ?_, priced⟩
        rw [lineFilters, kind]
        exact skuLineFilters_eq_true.mpr matching
      rw [unitPrice]
      exact iff_of_true (fun _ => offered) fun _ =>
        .inr (.inl ⟨stock, found, by rw [priced]; exact nofun⟩)
  | unstocked kind missing priced lineType qty unitPrice snapshot =>
    rw [unitPrice]
    refine pricedFromStock_fallback kind fun stock found => ?_
    rw [missing] at found
    contradiction

/-! ## Which units are sold -/

/-- When a line without enough rows names a place that has enough, there are enough. -/
theorem skuLineStock_ne_none {snapshot : PosSaleLineSnapshot} (positive : 1 ≤ asked.qty)
    (sub : ∀ row, unsoldStockFilters sale .sku snapshot row = true →
      skuLineFilters sale.tenantId sale.storeId asked row = true)
    (enough : asked.qty ≤ db.stock.rows.countP (unsoldStockFilters sale .sku snapshot)) :
    skuLineStock db sale.tenantId sale.storeId asked ≠ none := by
  have more : db.stock.rows.countP (unsoldStockFilters sale .sku snapshot) ≤
      db.stock.rows.countP (skuLineFilters sale.tenantId sale.storeId asked) :=
    List.countP_mono_left fun row _ => sub row
  rw [skuLineStock, if_neg (by omega), ne_eq, List.head?_eq_none_iff]
  intro empty
  have length :
      (oldest (·.createdAt) (skuLineFilters sale.tenantId sale.storeId asked) 1
      db.stock.rows).length = min 1
      (db.stock.rows.countP (skuLineFilters sale.tenantId sale.storeId asked)) := length_oldest
  rw [empty, List.length_nil] at length
  omega

/-- What a line takes at its place is what it may stand for, when it says no more of the place than
that. -/
theorem skuLineFilters_of_unsold {snapshot : PosSaleLineSnapshot} {row : StockItem}
    (sku : snapshot.sku = selectedSku asked)
    (location : isTruthy (lineSnapshotOrDefault asked).locationCode = true →
      snapshot.locationCode = (lineSnapshotOrDefault asked).locationCode)
    (pool : isTruthy (lineSnapshotOrDefault asked).pool = true →
        snapshot.pool = (lineSnapshotOrDefault asked).pool)
    (matching : unsoldStockFilters sale .sku snapshot row = true) :
    skuLineFilters sale.tenantId sale.storeId asked row = true := by
  simp only [unsoldStockFilters, Bool.and_eq_true, decide_eq_true_eq] at matching
  obtain ⟨⟨⟨⟨⟨tenant, store⟩, onSale⟩, atCode⟩, inPool⟩, sameSku, untagged⟩ := matching
  refine skuLineFilters_eq_true.mpr ⟨tenant, store, sameSku.trans sku, untagged, onSale, ?_⟩
  simp only [snapshotPlaceFilters, Bool.and_eq_true, Bool.or_eq_true, Bool.not_eq_true',
    decide_eq_true_eq]
  constructor
  · cases named : isTruthy (lineSnapshotOrDefault asked).locationCode with
    | false => exact .inl rfl
    | true => exact .inr (atCode.trans (location named))
  · cases named : isTruthy (lineSnapshotOrDefault asked).pool with
    | false => exact .inl rfl
    | true => exact .inr (inPool.trans (pool named))

/-- A line that finds its units takes among them the row that gave it its price. -/
theorem LineBuilt.source_sold (built : LineBuilt db sale.tenantId sale.storeId asked resolved)
    (picks : Picks StockItem.id db.stock.rows
      (unsoldStockFilters sale resolved.lineType resolved.snapshot)
      resolved.qty.toNat (soldIds db sale resolved.lineType resolved.snapshot resolved.qty)) :
    ∃ stock ∈ db.stock.rows,
      stock.id ∈ soldIds db sale resolved.lineType resolved.snapshot resolved.qty ∧
      resolved.unitPrice = authoritativePrice stock (lineFallbackPrice asked) := by
  cases built with
  | tagged stock kind named found accepted lineType qty unitPrice snapshot =>
    have isStock := List.mem_of_find?_eq_some found
    have matching := epcLineFilters_eq_true.mp (List.find?_some found)
    refine ⟨stock, isStock, ?_, unitPrice⟩
    obtain ⟨id, listed⟩ : ∃ id,
        id ∈ soldIds db sale resolved.lineType resolved.snapshot resolved.qty := by
      apply List.exists_mem_of_length_pos
      rw [picks.length, qty]
      exact one_pos
    obtain ⟨row, isRow, rfl, taken⟩ := picks.found id listed
    rw [lineType, snapshot] at taken
    simp only [unsoldStockFilters, Bool.and_eq_true, decide_eq_true_eq] at taken
    obtain ⟨⟨⟨⟨⟨tenant, _⟩, _⟩, _⟩, _⟩, tag⟩ := taken
    change row.epc = stock.epc at tag
    obtain ⟨epc, hasTag⟩ : ∃ epc, stock.epc = some epc := by
      refine Option.ne_none_iff_exists'.mp fun none => ?_
      rw [← matching.tag, none] at named
      contradiction
    rwa [← StockTable.eq_of_tag isRow isStock (tenant.trans matching.tenant.symm)
      (tag.trans hasTag) hasTag]
  | stocked stock kind found accepted lineType qty unitPrice snapshot =>
    obtain ⟨isStock, matching⟩ := skuLineStock_eq_some found
    have sub : ∀ row, unsoldStockFilters sale .sku (skuSnapshot stock) row = true →
        skuLineFilters sale.tenantId sale.storeId asked row = true := by
      have placed := matching.placed
      simp only [snapshotPlaceFilters, Bool.and_eq_true, Bool.or_eq_true, Bool.not_eq_true',
        decide_eq_true_eq] at placed
      refine fun row => skuLineFilters_of_unsold matching.sku (fun named => ?_) fun named => ?_
      · exact placed.1.resolve_left (by simp [named])
      · exact placed.2.resolve_left (by simp [named])
    have own : unsoldStockFilters sale .sku (skuSnapshot stock) stock = true := by
      simp [unsoldStockFilters, skuSnapshot, epcSnapshot, matching.tenant, matching.store,
        matching.onSale, matching.untagged]
    have isFirst :
        (oldest (·.createdAt) (skuLineFilters sale.tenantId sale.storeId asked) 1
        db.stock.rows).head? = some stock := by
      rw [skuLineStock] at found
      split at found
      · contradiction
      · exact found
    refine ⟨stock, isStock, ?_, unitPrice⟩
    rw [lineType, snapshot, soldIds]
    refine List.mem_map_of_mem (mem_oldest_of_precedes db.stock.distinctIds ?_ isStock own
        fun row isRow taken apart =>
      precedes_of_head? db.stock.distinctIds isFirst isRow (sub row taken) apart)
    have positive := resolved.qtyPositive
    omega
  | unstocked kind missing priced lineType qty unitPrice snapshot =>
    refine absurd missing ?_
    rw [lineType, snapshot] at picks
    have found := picks.le_countP
    have positive := resolved.qtyPositive
    have sub : ∀ row, unsoldStockFilters sale .sku
        (fallbackSnapshot (selectedSku asked) (lineSnapshotOrDefault asked)) row =
        true → skuLineFilters sale.tenantId sale.storeId asked row = true := fun row =>
      skuLineFilters_of_unsold rfl (fun _ => rfl) fun _ => rfl
    exact skuLineStock_ne_none (by omega) sub (by omega)

end Lines

/-! ## Checkouts -/

section Checkouts

variable {db after later sold : Db} {sale : PosSale} {line : PosSaleLine}

/-- A checkout leaves the prices of its units alone. -/
theorem CheckedOut.soldAtPrice_iff {context : RequestContext} {payload : CheckoutSaleActionRequest}
    {totals : PaymentTotals} {advance : Option PosAdvance} {batch : SaleBatch}
    (step : CheckedOut later sold context sale payload totals advance batch)
    (inLines : line ∈ getSaleLines later sale.id) : SoldAtPrice later sold sale line ↔
      ∀ unit ∈ later.stock.rows, SoldFor later sale line unit →
      unit.salePrice = some line.unitPrice := by
  obtain ⟨outputs, taken, rows⟩ := step.soldRows
  have makes {edit : Edit StockItem.id} (applied : edit ∈ outputs.map (·.1)) (now : StockItem) :
      (edit.change now).status = some "SOLD" ∧ (edit.change now).salePrice = now.salePrice := by
    obtain ⟨output, isOutput, rfl⟩ := List.mem_map.mp applied
    obtain ⟨other, _, lineSold⟩ := Checked.item_of_output taken isOutput
    rw [lineSold.change]
    cases other.lineType <;> exact ⟨rfl, rfl⟩
  have price (unit : StockItem) : (editRow (outputs.map (·.1)) unit).salePrice = unit.salePrice :=
    editRow_keeps (fun now : StockItem => now.salePrice = unit.salePrice)
        rfl fun edit applied now same _ =>
      (makes applied now).2.trans same
  obtain ⟨output, isOutput, lineSold⟩ := Checked.output_of_item taken inLines
  have ids : output.1.keys = soldIds later sale line.lineType line.toPosSaleLineSnapshot line.qty :=
    lineSold.ids
  have same (unit : StockItem) : SoldFor later sale line (editRow (outputs.map (·.1)) unit) ↔
      SoldFor later sale line unit := by
    have key : (editRow (outputs.map (·.1)) unit).id = unit.id := key_editRow
    rw [SoldFor, SoldFor, key]
  constructor
  · intro atPrice unit isUnit soldFor
    have priced := (atPrice _ (rows ▸ List.mem_map_of_mem isUnit) ((same unit).mpr soldFor)).2
    rwa [price] at priced
  · intro priced row isRow soldFor
    rw [rows] at isRow
    obtain ⟨unit, isUnit, rfl⟩ := List.mem_map.mp isRow
    have wasFor := (same unit).mp soldFor
    refine ⟨?_, (price unit).trans (priced unit isUnit wasFor)⟩
    exact editRow_establishes (fun now : StockItem => now.status = some "SOLD")
      (fun edit applied _ now => (makes applied now).1)
      ⟨output.1, List.mem_map_of_mem isOutput, ids ▸ wasFor⟩

/-- The units of a line that was resolved from the same stock have the price of the line exactly
when they have one price. -/
theorem CheckedOut.soldAtPrice_iff_onePrice {context : RequestContext}
    {payload : CheckoutSaleActionRequest} {totals : PaymentTotals} {advance : Option PosAdvance}
    {batch : SaleBatch} {asked : PosSaleLineCreate} {resolved : ResolvedSaleLine}
    (step : CheckedOut later sold context sale payload totals advance batch)
    (inLines : line ∈ getSaleLines later sale.id)
    (built : LineBuilt db sale.tenantId sale.storeId asked resolved)
    (copies : CopiesLine resolved line) (stock : later.stock = db.stock) :
    SoldAtPrice later sold sale line ↔ OnePrice later sale line := by
  rw [step.soldAtPrice_iff inLines]
  refine ⟨fun priced => ⟨line.unitPrice, priced⟩, fun ⟨price, priced⟩ => ?_⟩
  obtain ⟨outputs, taken, _⟩ := step.soldRows
  obtain ⟨output, _, lineSold⟩ := Checked.output_of_item taken inLines
  have ids : soldIds later sale line.lineType line.toPosSaleLineSnapshot line.qty =
      soldIds db sale resolved.lineType resolved.snapshot resolved.qty := by
    unfold soldIds
    rw [copies.lineType, copies.snapshot, copies.qty, stock]
  have picks := lineSold.picks
  rw [lineSold.ids, ids, stock, copies.lineType, copies.snapshot, copies.qty] at picks
  obtain ⟨source, isSource, listed, unitPrice⟩ := built.source_sold picks
  have sourceFor : SoldFor later sale line source := by rwa [SoldFor, ids]
  have sourcePrice := priced source (stock ▸ isSource) sourceFor
  rw [authoritativePrice, sourcePrice, Option.getD_some] at unitPrice
  rw [copies.unitPrice, unitPrice]
  exact priced

/-- The lines that were written for a sale are priced as the stock allows. -/
theorem lines_priced_iff {tenantId : ℕ} {asked : List PosSaleLineCreate}
    {resolved : List ResolvedSaleLine}
    (success : resolveSaleLines db sale.tenantId sale.storeId asked = .ok resolved)
    (written : getSaleLines after sale.id = newSaleLines db sale.id tenantId resolved)
    (stock : sale.status = .draft → after.stock = db.stock) :
    List.Forall₂
    (fun asked line =>
      (PricedFromStock db sale asked line.unitPrice ↔ PriceResolved db sale asked) ∧
        ∀ (later sold : Db) (context : RequestContext) (transactionId : Option String)
          (checkout : CheckoutSaleActionRequest),
          AsDrafted after later sale →
          saleStep later (.action context sale.id ⟨transactionId, .checkout checkout⟩) = .ok sold →
            (SoldAtPrice later sold sale line ↔ OnePrice later sale line))
      asked (getSaleLines after sale.id) := by
  have related := Checked.outputs_trans (resolveSaleLines_ok success)
    (newSaleLines_copies db sale.id tenantId resolved)
  rw [← written] at related
  refine (Checked.occurring_outputs related).imp
    fun asked line ⟨_, inLines, resolved, built, copies⟩ => ⟨?_, ?_⟩
  · rw [copies.unitPrice]
    exact built.pricedFromStock_iff
  · intro later sold context transactionId checkout drafted committed
    cases saleStep_ok committed with
    | checkedOut other target totals advance batch step =>
      obtain rfl := drafted.sale other target.member target.id
      rw [← drafted.lines] at inLines
      exact step.soldAtPrice_iff_onePrice inLines built copies
        (drafted.stock.trans (stock step.draft))

end Checkouts

/-- The lines that a request writes have prices of the stock, when the stock has any, exactly when
these are resolved there; and the units that a checkout then sells for a line have its price exactly
when they are all of one price. -/
theorem sale_lines_priced_iff (db after : Db) (request : SaleRequest)
    (asks : request.askedLines ≠ []) (committed : saleStep db request = .ok after) :
    ∃ sale ∈ after.sales, request.Writes db sale ∧
      List.Forall₂
      (fun asked line =>
        (PricedFromStock db sale asked line.unitPrice ↔ PriceResolved db sale asked) ∧
          ∀ (later sold : Db) (context : RequestContext) (transactionId : Option String)
            (checkout : CheckoutSaleActionRequest),
            AsDrafted after later sale →
            saleStep later (.action context sale.id ⟨transactionId, .checkout checkout⟩) =
            .ok sold →
              (SoldAtPrice later sold sale line ↔ OnePrice later sale line))
        request.askedLines (getSaleLines after sale.id) := by
  cases saleStep_ok committed with
  | created sale lines step =>
    refine ⟨sale, by rw [step.tables]; simp, fun other member => ?_, ?_⟩
    · rw [step.id]
      exact (sale_id_lt_fresh member).ne
    · refine lines_priced_iff step.resolved
        (getSaleLines_new (congrArg Db.saleLines step.tables) fun line member => ?_)
        fun _ => by rw [step.tables]
      rw [step.id]
      exact (line_saleId_lt_fresh member).ne
  | updated tenantId sale target lines step =>
    obtain rfl := step.tenant
    let draft : PosSale :=
      { sale with totalDue := totalDue lines, paidTotal := 0, balanceDue := totalDue lines,
                  changeDue := 0 }
    refine ⟨draft, ?_, target.id, ?_⟩
    · rw [step.tables]
      exact mem_update.mpr ⟨sale, target.member, if_pos (List.mem_singleton_self _)⟩
    · have written : getSaleLines after draft.id =
          newSaleLines db draft.id sale.tenantId lines := by
        refine getSaleLines_new (congrArg Db.saleLines step.tables) fun line member => ?_
        simpa using (List.mem_filter.mp member).2
      exact lines_priced_iff step.resolved written fun _ => by rw [step.tables]
  | exchanged sale target items lines exchangeSale delta batch session step =>
    refine ⟨exchangeSale, by rw [step.tables]; simp, fun other member => ?_, ?_⟩
    · rw [step.id]
      exact (sale_id_lt_fresh member).ne
    · have resolved := step.resolved
      rw [← step.tenant, ← step.store] at resolved
      refine lines_priced_iff resolved
        (getSaleLines_new (congrArg Db.saleLines step.tables) fun line member => ?_)
        fun draft => ?_
      · rw [step.id]
        exact (line_saleId_lt_fresh member).ne
      · rw [step.paid] at draft
        contradiction
  | canceled | refunded | checkedOut => exact absurd rfl asks

namespace Sample

/-- Two untagged jackets are asked for, without a price of the client. -/
def askForJackets : SaleRequest :=
  .create cashier { transactionId := some "draft", storeId := some 10, lines := [jackets 2] }

private theorem jacketsAsked_commits : (saleStep shop askForJackets).toOption.isSome = true := by
  decide +kernel

def jacketsAsked : Db := (saleStep shop askForJackets).toOption.get jacketsAsked_commits

private theorem jacketsTaken_commits :
    (saleStep jacketsAsked (payJackets 1)).toOption.isSome = true := by decide +kernel

def jacketsTaken : Db := (saleStep jacketsAsked (payJackets 1)).toOption.get jacketsTaken_commits

end Sample

/-- Two jackets of one price are drafted and sold at it. -/
theorem sale_lines_priced_iff_jackets : ∃ sale ∈ Sample.jacketsAsked.sales,
    List.Forall₂ (fun asked line => PricedFromStock Sample.shop sale asked line.unitPrice ∧
      SoldAtPrice Sample.jacketsAsked Sample.jacketsTaken sale line)
      Sample.askForJackets.askedLines (getSaleLines Sample.jacketsAsked sale.id) := by
  obtain ⟨sale, isSale, _, priced⟩ :=
    sale_lines_priced_iff Sample.shop Sample.jacketsAsked Sample.askForJackets
    (by decide) (Checked.eq_ok_get Sample.jacketsAsked_commits)
  have only : ∀ other ∈ Sample.jacketsAsked.sales, other.id = 1 ∧ other.tenantId = 1 ∧
      other.storeId = 10 ∧ ∀ another ∈ Sample.jacketsAsked.sales, another.id = other.id →
      another = other := by decide +kernel
  obtain ⟨id, tenant, store, unique⟩ := only sale isSale
  have committed : saleStep Sample.jacketsAsked
      (.action Sample.cashier sale.id ⟨some "act", .checkout Sample.twoJackets⟩) =
      .ok Sample.jacketsTaken := by
    rw [id]
    exact Checked.eq_ok_get Sample.jacketsTaken_commits
  refine ⟨sale, isSale, (Checked.occurring_outputs priced).imp
    fun asked line ⟨isAsked, inLines, resolved, sold⟩ => ⟨?_, ?_⟩⟩
  · obtain rfl := List.mem_singleton.mp isAsked
    refine resolved.mpr fun _ => .inr (.inl ?_)
    rw [tenant, store]
    exact ⟨_, Option.eq_some_of_isSome (by decide +kernel), by decide +kernel⟩
  · refine (sold Sample.jacketsAsked Sample.jacketsTaken Sample.cashier
      (some "act") Sample.twoJackets ⟨rfl, rfl, unique⟩ committed).mpr
      ⟨⟨1000⟩, fun unit isUnit soldFor => ?_⟩
    have ten : ∀ sale ∈ Sample.jacketsAsked.sales,
        ∀ line ∈ getSaleLines Sample.jacketsAsked sale.id,
        ∀ unit ∈ Sample.jacketsAsked.stock.rows, SoldFor Sample.jacketsAsked sale line unit →
          unit.salePrice = some ⟨1000⟩ := by decide +kernel
    exact ten sale isSale line inLines unit isUnit soldFor

namespace Sample

/-- Three untagged jackets are asked for at 1.00, where the store has two at 10.00. -/
def askForCheapJackets : SaleRequest :=
  .create cashier { transactionId := some "draft", storeId := some 10,
                    lines := [{ jackets 3 with unitPrice := some 1 }] }

private theorem cheapJackets_commits :
    (saleStep shop askForCheapJackets).toOption.isSome = true := by decide +kernel

def cheapJackets : Db := (saleStep shop askForCheapJackets).toOption.get cheapJackets_commits

end Sample

/-- The line keeps the price of the client. -/
theorem line_keeps_client_price :
    ¬ ∀ (db after : Db) (request : SaleRequest), request.askedLines ≠ [] →
    saleStep db request = .ok after →
      ∀ sale ∈ after.sales, request.Writes db sale →
        List.Forall₂ (fun asked line => PricedFromStock db sale asked line.unitPrice)
        request.askedLines
          (getSaleLines after sale.id) := by
  intro priced
  obtain ⟨sale, isSale⟩ : ∃ sale, sale ∈ Sample.cheapJackets.sales :=
    ⟨_, List.head_mem (show Sample.cheapJackets.sales ≠ [] by decide +kernel)⟩
  have cheap : ∀ sale ∈ Sample.cheapJackets.sales,
      ∀ line ∈ getSaleLines Sample.cheapJackets sale.id,
      ∀ asked ∈ Sample.askForCheapJackets.askedLines, Offers Sample.shop sale asked ⟨1000⟩ ∧
        ¬ Offers Sample.shop sale asked line.unitPrice := by decide +kernel
  have lines := priced Sample.shop Sample.cheapJackets Sample.askForCheapJackets (by decide)
    (Checked.eq_ok_get Sample.cheapJackets_commits) sale isSale
    (by intro other member; contradiction)
  obtain ⟨line, isLine, fromStock⟩ := Checked.output_of_item lines
    (show { Sample.jackets 3 with unitPrice := some 1 } ∈ Sample.askForCheapJackets.askedLines
    from List.mem_singleton_self _)
  obtain ⟨offered, notOffered⟩ := cheap sale isSale line isLine _ (List.mem_singleton_self _)
  exact notOffered (fromStock ⟨_, offered⟩)

end ArisCloud

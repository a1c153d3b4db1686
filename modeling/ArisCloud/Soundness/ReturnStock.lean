import ArisCloud.Proofs.SaleLines
import ArisCloud.Soundness.CheckoutStock

/-! # The units that returns and exchanges move

A refund puts sold rows back, an exchange puts sold rows back and sells others. Items and lines
select among the rows as they were before the request, sold ones by items and unsold ones by lines.
Two items share a row when they select alike, and also when the oldest sold rows of an untagged item
include the row of a tagged one: sold rows are selected by SKU whether or not they still carry a
tag.
-/

namespace ArisCloud

open KeyedRows Requests

/-! ## What a return should move -/

def SaleAction.exchangeLines : SaleAction → List PosSaleLineCreate
  | .exchangeItems payload => payload.exchangeLines
  | .refundItems _ | .checkout _ | .cancel => []

/-- The items of a request, with the lines that they name. -/
def NamesItems (db : Db) (sale : PosSale) (action : SaleAction) (items : List AcceptedReturn) :
    Prop :=
  List.Forall₂ (Accepted db sale.id) action.returnItems items

/-- Every item put sold rows of its own back, as many as come back. -/
def ReturnedOnce (db after : Db) (sale : PosSale) (items : List AcceptedReturn) : Prop :=
  MovedOnce db items (fun item => soldStockFilters sale item.line) (·.qty) (¬ IsSold after ·)
    (leftSold db after)

/-- Every line of the new sale sold rows of its own, as many as it asks for. -/
def ExchangedOnce (db after : Db) (sale : PosSale) (lines : List ResolvedSaleLine) : Prop :=
  MovedOnce db lines (fun line => unsoldStockFilters sale line.lineType line.snapshot) (·.qty)
    (IsSold after) (becameSold db after)

/-- The oldest sold rows that an untagged item takes do not include the row of a tagged one. -/
def TagApart (db : Db) (sale : PosSale) (item other : AcceptedReturn) : Prop :=
  item.line.lineType = .epc → other.line.lineType = .sku →
    ∀ row ∈ oldest (·.createdAt) (soldStockFilters sale other.line) other.qty.toNat db.stock.rows,
      soldStockFilters sale item.line row = false

/-- Items that select apart: by different selectors, and no untagged one the row of a tagged one. -/
structure ItemsApart (db : Db) (sale : PosSale) (items : List AcceptedReturn) : Prop where
  selectors : (items.map (·.line.selector)).Nodup
  tags : ∀ item ∈ items, ∀ other ∈ items, TagApart db sale item other

/-- What an exchange line selects by, as far as the stock decides: a tag has one row, untagged goods
are taken at the place of the oldest matching row, or at the one the client names when there are too
few. -/
def exchangeSelector (db : Db) (sale : PosSale) (line : PosSaleLineCreate) :
    LineType × Option String × Option String × Option String :=
  match line.lineType with
  | .epc => (.epc, selectedEpc line, none, none)
  | .sku => match skuLineStock db sale.tenantId sale.storeId line with
    | some row => (.sku, selectedSku line, row.locationCode, row.pool)
    | none => (.sku, selectedSku line, (lineSnapshotOrDefault line).locationCode,
      (lineSnapshotOrDefault line).pool)

/-! ## Items that select apart -/

section Items

variable {db : Db} {sale : PosSale} {item other : AcceptedReturn} {output later : StockOutput}

/-- What a line is about: its tag or its SKU. -/
def goodsOf (lineType : LineType) (epc sku : Option String) : Option String :=
  match lineType with
  | .epc => epc
  | .sku => sku

theorem selector_eq (line : PosSaleLine) :
    line.selector = (line.lineType, goodsOf line.lineType line.epc line.sku, line.locationCode,
      line.pool) := rfl

/-- A row that comes back for a line: sold, at its place, and what the line is about. -/
structure ComesBack (sale : PosSale) (line : PosSaleLine) (row : StockItem) : Prop where
  tenant : row.tenantId = sale.tenantId
  store : row.storeId = some sale.storeId
  sold : row.status = some "SOLD"
  location : row.locationCode = line.locationCode
  pool : row.pool = line.pool
  goods : goodsOf line.lineType row.epc row.sku = goodsOf line.lineType line.epc line.sku

theorem soldStockFilters_eq_true {line : PosSaleLine} {row : StockItem} :
    soldStockFilters sale line row = true ↔ ComesBack sale line row := by
  constructor
  · intro matching
    cases kind : line.lineType <;>
      simp only [soldStockFilters, kind, Bool.and_eq_true, decide_eq_true_eq] at matching <;>
      exact ⟨matching.1.1.1.1.1, matching.1.1.1.1.2, matching.1.1.1.2, matching.1.1.2, matching.1.2,
        by rw [kind]; exact matching.2⟩
  · rintro ⟨tenant, store, sold, location, pool, goods⟩
    cases kind : line.lineType <;> rw [kind] at goods <;> simp only [goodsOf] at goods <;>
      simp [soldStockFilters, kind, tenant, store, sold, location, pool, goods]

/-- One selector selects one set of sold rows. -/
theorem soldStockFilters_eq_of_selector (sale : PosSale) {line another : PosSaleLine}
    (same : line.selector = another.selector) :
    line.lineType = another.lineType ∧ soldStockFilters sale line =
    soldStockFilters sale another := by
  simp only [selector_eq, Prod.mk.injEq] at same
  obtain ⟨kind, goods, location, pool⟩ := same
  refine ⟨kind, funext fun row => Bool.eq_iff_iff.mpr ?_⟩
  rw [soldStockFilters_eq_true, soldStockFilters_eq_true]
  constructor
  · rintro ⟨tenant, store, sold, atCode, inPool, alike⟩
    exact ⟨tenant, store, sold, atCode.trans location,
      inPool.trans pool, by rw [← goods, ← kind]; exact alike⟩
  · rintro ⟨tenant, store, sold, atCode, inPool, alike⟩
    exact ⟨tenant, store, sold, atCode.trans location.symm,
      inPool.trans pool.symm, by rw [goods, kind]; exact alike⟩

/-- Lines of one type that match one sold row have one selector. -/
theorem selector_eq_of_sold {line another : PosSaleLine} {row : StockItem}
    (kind : line.lineType = another.lineType) (matching : soldStockFilters sale line row = true)
    (also : soldStockFilters sale another row = true) :
    line.selector = another.selector := by
  have first := soldStockFilters_eq_true.mp matching
  have second := soldStockFilters_eq_true.mp also
  rw [selector_eq, selector_eq, ← first.goods, ← second.goods, ← first.location, ← first.pool,
    second.location, second.pool, kind]

/-- A tagged item and an untagged one share a row when the oldest rows of the one include that of
the other. -/
theorem ItemRestocked.disjoint_tagged_iff (restocked : ItemRestocked db sale item output)
    (another : ItemRestocked db sale other later) (kind : item.line.lineType = .epc)
    (untagged : other.line.lineType = .sku) (single : item.qty = 1) :
    output.1.keys.Disjoint later.1.keys ↔ TagApart db sale item other := by
  have ids := another.ids
  rw [restockedIds, untagged] at ids
  simp only at ids
  constructor
  · intro apart _ _ row selected
    by_contra also
    have matching : soldStockFilters sale item.line row = true := Bool.not_eq_false _ ▸ also
    have isRow := (mem_of_mem_oldest selected).1
    obtain ⟨id, listed⟩ := List.exists_mem_of_ne_nil output.1.keys fun empty => by
      have length := restocked.picks.length
      rw [empty, single] at length
      contradiction
    obtain ⟨found, isFound, rfl, alike⟩ := restocked.picks.found id listed
    obtain ⟨tenant, _, _, _, _, tag⟩ := soldStockFilters_eq_true.mp matching
    obtain ⟨foundTenant, _, _, _, _, foundTag⟩ := soldStockFilters_eq_true.mp alike
    simp only [kind, goodsOf] at tag foundTag
    obtain ⟨epc, named⟩ := Option.ne_none_iff_exists'.mp (item.line.tagged.mp kind)
    have same := StockTable.eq_of_tag isRow isFound (tenant.trans foundTenant.symm)
      (tag.trans named) (foundTag.trans named)
    exact apart listed (ids ▸ List.mem_map_of_mem (same ▸ selected))
  · intro apart id listed shared
    rw [ids] at shared
    obtain ⟨row, selected, rfl⟩ := List.mem_map.mp shared
    have matching := restocked.picks.holds db.stock.distinctIds
      (mem_of_mem_oldest selected).1 listed
    rw [apart kind untagged row selected] at matching
    contradiction

/-- Items of one type share a row exactly when they select alike. -/
theorem ItemRestocked.disjoint_alike_iff (restocked : ItemRestocked db sale item output)
    (another : ItemRestocked db sale other later) (kind : item.line.lineType = other.line.lineType)
    (positive : 1 ≤ item.qty) (also : 1 ≤ other.qty) :
    output.1.keys.Disjoint later.1.keys ↔ item.line.selector ≠ other.line.selector := by
  constructor
  · intro apart same
    have filters := (soldStockFilters_eq_of_selector sale same).2
    have length := restocked.picks.length
    have nonempty : output.1.keys ≠ [] := by
      intro empty
      rw [empty, List.length_nil] at length
      omega
    have ids := restocked.ids
    have otherIds := another.ids
    cases lineKind : item.line.lineType with
    | epc =>
      rw [restockedIds, lineKind, filters] at ids
      rw [restockedIds, ← kind, lineKind] at otherIds
      obtain ⟨id, listed⟩ := List.exists_mem_of_ne_nil _ nonempty
      exact apart listed (otherIds.symm ▸ ids ▸ listed)
    | sku =>
      rw [restockedIds, lineKind, filters] at ids
      rw [restockedIds, ← kind, lineKind] at otherIds
      simp only at ids otherIds
      obtain ⟨id, first, second⟩ := exists_taken_by_both positive also fun empty =>
        nonempty (by rw [ids, empty]; rfl)
      exact apart (ids ▸ first) (otherIds ▸ second)
  · intro different
    refine restocked.picks.disjoint another.picks db.stock.distinctIds fun row _ matching => ?_
    by_contra holds
    exact different (selector_eq_of_sold kind matching (Bool.not_eq_false _ ▸ holds))

/-- Two items that select apart. -/
def ItemApart (db : Db) (sale : PosSale) (item other : AcceptedReturn) : Prop :=
  item.line.selector ≠ other.line.selector ∧ TagApart db sale item other ∧
    TagApart db sale other item

private theorem selector_ne_of_kind {line another : PosSaleLine}
    (kind : line.lineType ≠ another.lineType) :
    line.selector ≠ another.selector := fun same => kind (congrArg (·.1) same)

private theorem tagApart_of_kind (kind : item.line.lineType = other.line.lineType) :
    TagApart db sale item other := by
  intro tagged untagged
  rw [tagged, untagged] at kind
  contradiction

private theorem tagApart_of_sku (kind : item.line.lineType = .sku) :
    TagApart db sale item other := by
  intro tagged
  rw [kind] at tagged
  contradiction

theorem ItemRestocked.disjoint_iff (restocked : ItemRestocked db sale item output)
    (another : ItemRestocked db sale other later) (positive : 1 ≤ item.qty) (also : 1 ≤ other.qty)
    (single : item.line.lineType = .epc → item.qty = 1)
    (otherSingle : other.line.lineType = .epc → other.qty = 1) :
    output.1.keys.Disjoint later.1.keys ↔ ItemApart db sale item other := by
  cases kind : item.line.lineType <;> cases otherKind : other.line.lineType
  · rw [restocked.disjoint_alike_iff another (kind.trans otherKind.symm) positive also, ItemApart]
    exact ⟨fun different => ⟨different, tagApart_of_kind (kind.trans otherKind.symm),
      tagApart_of_kind (otherKind.trans kind.symm)⟩, (·.1)⟩
  · rw [restocked.disjoint_tagged_iff another kind otherKind (single kind), ItemApart]
    exact ⟨fun apart => ⟨selector_ne_of_kind (by rw [kind, otherKind]; rintro ⟨⟩), apart,
        tagApart_of_sku otherKind⟩,
      (·.2.1)⟩
  · rw [List.disjoint_comm, another.disjoint_tagged_iff restocked otherKind kind
      (otherSingle otherKind), ItemApart]
    exact ⟨fun apart => ⟨selector_ne_of_kind (by rw [kind, otherKind]; rintro ⟨⟩),
        tagApart_of_sku kind, apart⟩,
      (·.2.2)⟩
  · rw [restocked.disjoint_alike_iff another (kind.trans otherKind.symm) positive also, ItemApart]
    exact ⟨fun different => ⟨different, tagApart_of_kind (kind.trans otherKind.symm),
      tagApart_of_kind (otherKind.trans kind.symm)⟩, (·.1)⟩

private theorem itemsApart_iff {items : List AcceptedReturn} : items.Pairwise (ItemApart db sale) ↔
    ItemsApart db sale items := by
  constructor
  · intro apart
    refine ⟨List.pairwise_map.mpr (apart.imp (·.1)), ?_⟩
    exact fun item isItem other isOther => List.Pairwise.forall_of_forall_of_flip
      (fun same _ => tagApart_of_kind rfl) (apart.imp (·.2.1)) (apart.imp (·.2.2)) isItem isOther
  · rintro ⟨selectors, tags⟩
    refine (List.pairwise_map.mp selectors).imp_of_mem fun isItem isOther different => ?_
    exact ⟨different, tags _ isItem _ isOther, tags _ isOther _ isItem⟩

end Items

/-! ## Lines that select apart -/

section Lines

variable {db : Db} {sale : PosSale} {line other : PosSaleLineCreate}
    {resolved another : ResolvedSaleLine}

private theorem LineBuilt.goodsSelector_sku
    (built : LineBuilt db sale.tenantId sale.storeId line resolved)
    (kind : line.lineType = .sku) :
    goodsSelector resolved.lineType resolved.snapshot = exchangeSelector db sale line := by
  cases built with
  | tagged stock tagged =>
    rw [kind] at tagged
    contradiction
  | stocked stock _ found accepted lineType qty unitPrice snapshot =>
    have sku := (skuLineStock_eq_some found).2.sku
    simp only [goodsSelector, exchangeSelector, kind, found, lineType, snapshot, skuSnapshot,
      epcSnapshot, sku]
  | unstocked _ missing priced lineType qty unitPrice snapshot =>
    simp only [goodsSelector, exchangeSelector, kind, missing, lineType, snapshot, fallbackSnapshot]

/-- The row behind a tagged line. -/
theorem LineBuilt.row_of_epc (built : LineBuilt db sale.tenantId sale.storeId line resolved)
    (kind : line.lineType = .epc) :
    ∃ stock ∈ db.stock.rows, MatchesEpc sale.tenantId sale.storeId line stock ∧
      stock.epc ≠ none ∧ goodsSelector resolved.lineType resolved.snapshot =
        (.epc, stock.epc, stock.locationCode, stock.pool) := by
  cases built with
  | tagged stock _ named found accepted lineType qty unitPrice snapshot =>
    have matching := epcLineFilters_eq_true.mp (List.find?_some found)
    refine ⟨stock, List.mem_of_find?_eq_some found, matching, ?_, by rw [lineType, snapshot]; rfl⟩
    rw [matching.tag]
    intro unnamed
    rw [unnamed] at named
    contradiction
  | stocked stock untagged => exact nomatch kind.symm.trans untagged
  | unstocked untagged => exact nomatch kind.symm.trans untagged

private theorem exchangeSelector_epc (kind : line.lineType = .epc) :
    exchangeSelector db sale line = (.epc, selectedEpc line, none, none) := by
  simp only [exchangeSelector, kind]

private theorem exchangeSelector_kind : (exchangeSelector db sale line).1 = line.lineType := by
  cases kind : line.lineType with
  | epc => rw [exchangeSelector_epc kind]
  | sku =>
    simp only [exchangeSelector, kind]
    split <;> rfl

theorem LineBuilt.kind (built : LineBuilt db sale.tenantId sale.storeId line resolved) :
    resolved.lineType = line.lineType := by
  cases built with
  | tagged stock kind named found accepted lineType => rw [kind, lineType]
  | stocked stock kind found accepted lineType => rw [kind, lineType]
  | unstocked kind missing priced lineType => rw [kind, lineType]

/-- Lines are resolved to one selector exactly when they select alike. -/
theorem LineBuilt.goodsSelector_eq_iff
    (built : LineBuilt db sale.tenantId sale.storeId line resolved)
    (also : LineBuilt db sale.tenantId sale.storeId other another) :
    goodsSelector resolved.lineType resolved.snapshot =
    goodsSelector another.lineType another.snapshot ↔
      exchangeSelector db sale line = exchangeSelector db sale other := by
  by_cases sameKind : line.lineType = other.lineType
  · cases kind : line.lineType with
    | epc =>
      have otherKind : other.lineType = .epc := sameKind ▸ kind
      obtain ⟨stock, isRow, matching, tagged, selector⟩ := built.row_of_epc kind
      obtain ⟨unit, isUnit, alike, _, otherSelector⟩ := also.row_of_epc otherKind
      rw [selector, otherSelector, exchangeSelector_epc kind, exchangeSelector_epc otherKind]
      constructor
      · intro same
        have tags : stock.epc = unit.epc := congrArg (·.2.1) same
        rw [← matching.tag, ← alike.tag, tags]
      · intro same
        have tags : selectedEpc line = selectedEpc other := congrArg (·.2.1) same
        obtain ⟨epc, named⟩ := Option.ne_none_iff_exists'.mp tagged
        have unitNamed : unit.epc = some epc := by rw [alike.tag, ← tags, ← matching.tag, named]
        rw [StockTable.eq_of_tag isRow isUnit (matching.tenant.trans alike.tenant.symm) named
          unitNamed]
    | sku => rw [built.goodsSelector_sku kind, also.goodsSelector_sku (sameKind ▸ kind)]
  · refine iff_of_false (fun same => sameKind ?_) fun same => sameKind ?_
    · rw [← built.kind, ← also.kind]
      exact congrArg (·.1) same
    · have kinds : (exchangeSelector db sale line).1 = (exchangeSelector db sale other).1 := by
        rw [same]
      rwa [exchangeSelector_kind, exchangeSelector_kind] at kinds

end Lines

/-! ## All returns -/

section Returns

variable {db after : Db} {sale : PosSale} {items : List AcceptedReturn}
    {lines : List ResolvedSaleLine}
  {taken restocked : List StockOutput}

private theorem returnedOnce_iff (returned : List.Forall₂ (ItemRestocked db sale) items restocked)
    (moved : StockMoved db after taken restocked) (positive : ∀ item ∈ items, 1 ≤ item.qty)
    (single : ∀ item ∈ items, item.line.lineType = .epc → item.qty = 1) :
    ReturnedOnce db after sale items ↔ ItemsApart db sale items := by
  rw [ReturnedOnce, movedOnce_iff (returned.imp fun _ _ item => item.picks) positive
    (fun output isOutput id => moved.not_isSold_of_restocked isOutput) moved.leftSold_eq,
    ← itemsApart_iff]
  refine Checked.pairwise_outputs_iff (Checked.occurring_outputs returned)
    fun item output other later first second => ?_
  exact first.2.2.disjoint_iff second.2.2 (positive item first.1) (positive other second.1)
    (single item first.1) (single other second.1)

/-- An exchange is a sale of its lines, a refund one of no lines. -/
abbrev LinesSold (db : Db) (sale : PosSale) (lines : List ResolvedSaleLine)
    (taken : List StockOutput) : Prop :=
  List.Forall₂ (fun line => LineSold db sale exchangeChange line.lineType line.snapshot line.qty)
    lines taken

theorem LinesSold.stockMoved (sold : LinesSold db sale lines taken)
    (returned : List.Forall₂ (ItemRestocked db sale) items restocked)
    (rows : after.stock.rows = db.stock.rows.map (editRow ((taken ++ restocked).map (·.1))) ++
      restocked.flatMap (·.2)) :
    StockMoved db after taken restocked :=
  LineSold.stockMoved sold (fun kind _ => by cases kind <;> rfl) returned rows

private theorem exchangedOnce_iff {asked : List PosSaleLineCreate}
    (sold : LinesSold db sale lines taken)
    (built : List.Forall₂ (LineBuilt db sale.tenantId sale.storeId) asked lines)
    (moved : StockMoved db after taken restocked) :
    ExchangedOnce db after sale lines ↔ (asked.map (exchangeSelector db sale)).Nodup := by
  have apart : lines.Pairwise (fun line other =>
      goodsSelector line.lineType line.snapshot ≠ goodsSelector other.lineType other.snapshot) ↔
        asked.Pairwise fun line other => exchangeSelector db sale line ≠
        exchangeSelector db sale other :=
    Checked.pairwise_outputs_iff built fun line resolved other another first second =>
      not_congr (first.goodsSelector_eq_iff second)
  rw [ExchangedOnce, movedOnce_iff (sold.imp fun _ _ line => line.picks)
    (fun line _ => line.qtyPositive) (fun output isOutput id => moved.isSold_of_taken isOutput)
    moved.becameSold_eq, List.Nodup, List.pairwise_map, ← apart]
  exact Checked.pairwise_outputs_iff sold fun line _ other _ first second =>
    first.disjoint_iff line.tagged other.tagged line.qtyPositive other.qtyPositive second

private theorem Accepted.item_positive {saleId : ℕ} {asked : List PosReturnItem}
    (each : List.Forall₂ (Accepted db saleId) asked items) {item : AcceptedReturn}
    (member : item ∈ items) : 1 ≤ item.qty := by
  obtain ⟨_, _, passed⟩ := Checked.item_of_output each member
  rw [passed.qty]
  exact passed.positive

end Returns

/-- A committed refund or exchange moves distinct units, in both directions, exactly when its items
and its lines select apart. -/
theorem returns_move_once_iff (db after : Db) (context : RequestContext) (saleId : ℕ)
    (transactionId : Option String) (action : SaleAction) (returning : action.returnItems ≠ [])
    (committed : saleStep db (.action context saleId ⟨transactionId, action⟩) = .ok after) :
    ∃ sale items lines, SaleTarget db saleId sale ∧ NamesItems db sale action items ∧
      resolveSaleLines db sale.tenantId sale.storeId action.exchangeLines = .ok lines ∧
      (ReturnedOnce db after sale items ∧ ExchangedOnce db after sale lines ↔
        ItemsApart db sale items ∧
        (action.exchangeLines.map (exchangeSelector db sale)).Nodup) := by
  cases saleStep_ok committed with
  | canceled | checkedOut => exact absurd rfl returning
  | refunded sale target items session step =>
    obtain ⟨outputs, restocked, rows⟩ := step.restockedRows
    have sold : LinesSold db sale [] [] := .nil
    have moved : StockMoved db after [] outputs := sold.stockMoved restocked rows
    refine ⟨sale, items, [], target, step.accepted, rfl, and_congr ?_ ?_⟩
    · exact returnedOnce_iff restocked moved (fun item => Accepted.item_positive step.accepted)
        fun item => Accepted.item_single step.accepted
    · exact exchangedOnce_iff sold .nil moved
  | exchanged sale target items lines exchangeSale delta batch session step =>
    obtain ⟨taken, restocked, sold, returned, rows⟩ := step.movedRows
    have moved : StockMoved db after taken restocked := LinesSold.stockMoved sold returned rows
    refine ⟨sale, items, lines, target, step.accepted, step.resolved, and_congr ?_ ?_⟩
    · exact returnedOnce_iff returned moved (fun item => Accepted.item_positive step.accepted)
        fun item => Accepted.item_single step.accepted
    · exact exchangedOnce_iff sold (resolveSaleLines_ok step.resolved) moved

namespace Sample

/-- Two jackets come back for the tagged one, which costs as much. -/
def swapJackets : SaleAction := .exchangeItems
  { returnItems := [{ lineId := 1, qty := 2 }],
    exchangeLines := [{ lineType := .epc, epc := some "E1" }] }

private theorem jacketsSwapped_commits :
    (saleStep jacketsSold (.action cashier 1 ⟨some "act", swapJackets⟩)).toOption.isSome =
    true := by
  decide +kernel

def jacketsSwapped : Db :=
  (saleStep jacketsSold (.action cashier 1 ⟨some "act", swapJackets⟩)).toOption.get
    jacketsSwapped_commits

/-- Two jackets of one line come back as two items. -/
def jacketByJacket : SaleAction := .refundItems
  { returnItems := [{ lineId := 1 }, { lineId := 1 }], refundPayments := [byCard 20] }

private theorem jacketByJacket_commits :
    (saleStep jacketsSold (.action cashier 1 ⟨some "act", jacketByJacket⟩)).toOption.isSome =
    true := by decide +kernel

def jacketReturned : Db :=
  (saleStep jacketsSold (.action cashier 1 ⟨some "act", jacketByJacket⟩)).toOption.get
    jacketByJacket_commits

end Sample

/-- Two jackets come back and a tagged one is sold, all of them once. -/
theorem swap_moves_three_jackets : ∃ sale items lines, SaleTarget Sample.jacketsSold 1 sale ∧
    NamesItems Sample.jacketsSold sale Sample.swapJackets items ∧
    resolveSaleLines Sample.jacketsSold sale.tenantId sale.storeId
    Sample.swapJackets.exchangeLines = .ok lines ∧
    ReturnedOnce Sample.jacketsSold Sample.jacketsSwapped sale items ∧
    ExchangedOnce Sample.jacketsSold Sample.jacketsSwapped sale lines := by
  obtain ⟨sale, items, lines, target, named, resolved, once⟩ :=
    returns_move_once_iff Sample.jacketsSold Sample.jacketsSwapped Sample.cashier 1
    (some "act") Sample.swapJackets (by decide +kernel)
    (Checked.eq_ok_get Sample.jacketsSwapped_commits)
  have kinds : ∀ item ∈ items, item.line.lineType = .sku := by
    intro item member
    obtain ⟨_, _, passed⟩ := Checked.item_of_output named member
    have all : ∀ line ∈ Sample.jacketsSold.saleLines, line.lineType = .sku := by decide +kernel
    exact all _ (mem_getSaleLines.mp passed.member).1
  have apart : ItemsApart Sample.jacketsSold sale items := by
    refine ⟨?_, fun item isItem other _ => tagApart_of_sku (kinds item isItem)⟩
    have single : items.length = 1 := named.length_eq.symm
    obtain ⟨item, rfl⟩ := List.length_eq_one_iff.mp single
    exact List.nodup_singleton _
  exact ⟨sale, items, lines, target, named, resolved, once.mpr ⟨apart, List.nodup_singleton _⟩⟩

/-- Two items of one jacket each put one jacket back together. -/
theorem refund_returns_a_jacket_twice : ¬ ∀ (db after : Db) (context : RequestContext) (saleId : ℕ)
    (transactionId : Option String) (action : SaleAction), action.returnItems ≠ [] →
    saleStep db (.action context saleId ⟨transactionId, action⟩) = .ok after →
    ∃ sale items lines, SaleTarget db saleId sale ∧ NamesItems db sale action items ∧
      resolveSaleLines db sale.tenantId sale.storeId action.exchangeLines = .ok lines ∧
      ReturnedOnce db after sale items ∧ ExchangedOnce db after sale lines := by
  intro movesOnce
  obtain ⟨sale, items, lines, target, named, resolved, returned, _⟩ :=
    movesOnce Sample.jacketsSold Sample.jacketReturned
    Sample.cashier 1 (some "act") Sample.jacketByJacket (by decide +kernel)
    (Checked.eq_ok_get Sample.jacketByJacket_commits)
  have quantities : Sample.jacketByJacket.returnItems.map (·.qty) = items.map (·.qty) :=
    Checked.map_eq_of_outputs named fun _ _ passed => passed.qty.symm
  have counts : leftSold Sample.jacketsSold Sample.jacketReturned = 1 ∧
      (Sample.jacketByJacket.returnItems.map (·.qty)).sum = 2 := by decide +kernel
  have total := returned.total
  rw [counts.1, ← quantities, counts.2] at total
  omega

end ArisCloud

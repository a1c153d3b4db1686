import ArisCloud.Library.Precedence
import ArisCloud.Proofs.RefundAcceptance
import ArisCloud.Soundness.ReturnStock
import ArisCloud.Soundness.SaleRuns

/-! # Whether a refund undoes a checkout

A refund looks for the rows of a line by what the line says. A checkout takes the tag off a tagged
unit, so its line does not find it again; the untagged units of a line are found again when no older
sold row of its SKU is at its place.
-/

namespace ArisCloud

open KeyedRows Requests

/-! ## What a refund should do -/

/-- The rows that the checkout of a sale takes for a line. -/
def lineSoldIds (db : Db) (sale : PosSale) (line : PosSaleLine) : List ℕ :=
  soldIds db sale line.lineType line.toPosSaleLineSnapshot line.qty

/-- A row that the checkout sold for a line is on sale again where the line found it, and every
other row is left alone. -/
structure Reversed (db : Db) (sale : PosSale) (row restored : StockItem) : Prop where
  id : restored.id = row.id
  own : ∀ line ∈ getSaleLines db sale.id, row.id ∈ lineSoldIds db sale line →
    unsoldStockFilters sale line.lineType line.toPosSaleLineSnapshot restored = true ∧
    restored.locationIsVendible = true
  others : (∀ line ∈ getSaleLines db sale.id, row.id ∉ lineSoldIds db sale line) → restored = row

/-- The refund is accepted and puts back the sold rows and no others, so that every line could be
sold once more. -/
def RefundReverses (db later : Db) (sale : PosSale) (clerk : Clerk)
    (payload : RefundItemsSaleActionRequest) : Prop :=
  ∃ after, saleStep later (clerk.request sale.id (.refundItems payload)) = .ok after ∧
    List.Forall₂ (Reversed db sale) later.stock.rows after.stock.rows ∧
    ∀ line ∈ getSaleLines db sale.id, line.qty ≤
      after.stock.rows.countP (unsoldStockFilters sale line.lineType line.toPosSaleLineSnapshot)

/-- The sale and the goods that it sold are as the checkout left them, and nothing was given
back. -/
structure LeftSold (db sold later : Db) (sale : PosSale) : Prop where
  recorded : ∀ paid ∈ later.sales, paid.id = sale.id → paid ∈ sold.sales
  lines : getSaleLines later sale.id = getSaleLines sold sale.id
  unreturned : ∀ event ∈ getReturnEvents later sale.id, event.action.isAggregate = false
  rows : ∀ line ∈ getSaleLines db sale.id, ∀ row ∈ sold.stock.rows,
    row.id ∈ lineSoldIds db sale line → row ∈ later.stock.rows

/-- No line is for a tagged unit, no other sold row that the refund of a line may take comes before
one that the line sold, and what is paid back is more than nothing and in the drawer. -/
structure RefundFinds (db later : Db) (sale : PosSale) (clerk : Clerk)
    (payload : RefundItemsSaleActionRequest) : Prop where
  untagged : ∀ line ∈ getSaleLines db sale.id, line.lineType = .sku
  first : ∀ line ∈ getSaleLines db sale.id, ∀ row ∈ later.stock.rows,
    soldStockFilters sale line row = true →
    (∀ other ∈ getSaleLines db sale.id, row.id ∉ lineSoldIds db sale other) →
      ∀ unit ∈ later.stock.rows, unit.id ∈ lineSoldIds db sale line →
        Precedes StockItem.id (·.createdAt) later.stock.rows unit row
  pays : payload.refundPayments ≠ []
  drawer : DrawerPays later clerk.context sale (paidBy (· = .cash) payload.refundPayments)

section Refund

variable {db sold later after : Db} {sale paid : PosSale} {line other : PosSaleLine} {id : ℕ}

/-! ## What a checkout leaves -/

/-- A row that is what and where another one is. -/
structure StaysPut (unit row : StockItem) : Prop where
  tenant : row.tenantId = unit.tenantId
  store : row.storeId = unit.storeId
  sku : row.sku = unit.sku
  location : row.locationCode = unit.locationCode
  pool : row.pool = unit.pool

theorem StaysPut.trans {unit row next : StockItem} (first : StaysPut unit row)
    (second : StaysPut row next) :
    StaysPut unit next :=
  ⟨second.tenant.trans first.tenant, second.store.trans first.store, second.sku.trans first.sku,
    second.location.trans first.location, second.pool.trans first.pool⟩

/-- A row as a checkout leaves the unit that it sold. -/
structure SoldFrom (unit row : StockItem) : Prop extends StaysPut unit row where
  id : row.id = unit.id
  sold : row.status = some "SOLD"
  untagged : row.epc = none

/-- A line without what it remembers of the units that it sold. -/
def PosSaleLine.unremembered (line : PosSaleLine) : PosSaleLine :=
  { line with itemUid := none, sold := {} }

private theorem map_unremembered_eq {lines : List PosSaleLine} (saleId : ℕ) :
    (lines.filter fun line => line.saleId = saleId).map (·.unremembered) =
      (lines.map (·.unremembered)).filter fun line => line.saleId = saleId := by
  rw [List.filter_map]
  rfl

/-- A sale that was checked out from one state and is as it was left in another. -/
structure Delivered (db later : Db) (sale paid : PosSale) : Prop where
  member : sale ∈ db.sales
  sound : SalesSound db
  id : paid.id = sale.id
  tenant : paid.tenantId = sale.tenantId
  store : paid.storeId = sale.storeId
  status : paid.status = .paid
  lines : (getSaleLines later sale.id).map (·.unremembered) = (getSaleLines db sale.id).map
    (·.unremembered)
  nonempty : getSaleLines db sale.id ≠ []
  picks : ∀ line ∈ getSaleLines db sale.id, Picks StockItem.id db.stock.rows
    (unsoldStockFilters sale line.lineType line.toPosSaleLineSnapshot) line.qty.toNat
    (lineSoldIds db sale line)
  units : ∀ line ∈ getSaleLines db sale.id, ∀ unit ∈ db.stock.rows,
    unit.id ∈ lineSoldIds db sale line → ∃ row ∈ later.stock.rows, SoldFrom unit row
  unreturned : ∀ lineId, refundedQuantities (getReturnEvents later sale.id) lineId = 0

private theorem checkoutChange_staysPut (kind : LineType) (row : StockItem) :
    StaysPut row (checkoutChange kind row) := by
  cases kind <;> exact ⟨rfl, rfl, rfl, rfl, rfl⟩

private theorem checkoutChange_status (kind : LineType) (row : StockItem) :
    (checkoutChange kind row).status = some "SOLD" := by
  cases kind <;> rfl

/-- A checkout takes the tag off a row or leaves it. -/
theorem checkoutChange_epc (kind : LineType) (row : StockItem) :
    (checkoutChange kind row).epc = row.epc ∨ (checkoutChange kind row).epc = none := by
  cases kind with
  | epc =>
    simp only [checkoutChange, sellAndUntagRow]
    split
    · exact .inr rfl
    · exact .inl rfl
  | sku => exact .inl rfl

private theorem sellAndUntagRow_epc (row : StockItem) :
    isTruthy (sellAndUntagRow row).epc = false := by
  simp only [sellAndUntagRow]
  split
  · rfl
  · next untagged => simpa using untagged

/-- A tagged line takes the row with its tag, an untagged one takes rows without a tag. -/
theorem epc_of_unsoldStockFilters {row : StockItem}
    (matching : unsoldStockFilters sale line.lineType line.toPosSaleLineSnapshot row = true) :
    row.epc = line.epc := by
  have tagged := line.tagged
  cases kind : line.lineType <;> rw [kind] at matching tagged <;>
    simp only [unsoldStockFilters, Bool.and_eq_true, decide_eq_true_eq] at matching
  · exact matching.2
  · have untagged : line.epc = none := by simpa using tagged
    rw [matching.2.2, untagged]

/-- What the lines of a checkout make of a unit that one of them takes. -/
theorem soldFrom_of_outputs {outputs : List StockOutput} {unit : StockItem}
    (taken : List.Forall₂
      (fun line => LineSold db sale checkoutChange line.lineType line.toPosSaleLineSnapshot
      line.qty)
      (getSaleLines db sale.id) outputs) (named : ∀ line ∈ getSaleLines db sale.id,
      line.epc ≠ some "")
    (isUnit : unit ∈ db.stock.rows) (inLines : line ∈ getSaleLines db sale.id)
    (listed : unit.id ∈ lineSoldIds db sale line) :
        SoldFrom unit (editRow (outputs.map (·.1)) unit) := by
  have source {edit : Edit StockItem.id} (applied : edit ∈ outputs.map (·.1)) :
      ∃ line ∈ getSaleLines db sale.id, edit.change = checkoutChange line.lineType ∧
        (unit.id ∈ edit.keys → unit.epc = line.epc) := by
    obtain ⟨output, isOutput, rfl⟩ := List.mem_map.mp applied
    obtain ⟨line, isLine, lineSold⟩ := Checked.item_of_output taken isOutput
    exact ⟨line, isLine, lineSold.change, fun takes =>
      epc_of_unsoldStockFilters (lineSold.picks.holds db.stock.distinctIds isUnit takes)⟩
  obtain ⟨output, isOutput, lineSold⟩ := Checked.output_of_item taken inLines
  have takes : unit.id ∈ output.1.keys := lineSold.ids ▸ listed
  have addressed : ∃ edit ∈ outputs.map (·.1), unit.id ∈ edit.keys :=
    ⟨output.1, List.mem_map_of_mem isOutput, takes⟩
  have tag : unit.epc = line.epc :=
    epc_of_unsoldStockFilters (lineSold.picks.holds db.stock.distinctIds isUnit takes)
  obtain ⟨stays, sameTag⟩ : StaysPut unit (editRow (outputs.map (·.1)) unit) ∧
      ((editRow (outputs.map (·.1)) unit).epc = unit.epc ∨ (editRow (outputs.map (·.1)) unit).epc =
      none) := by
    refine editRow_keeps (fun now : StockItem => StaysPut unit now ∧
      (now.epc = unit.epc ∨ now.epc = none)) ⟨⟨rfl, rfl, rfl, rfl, rfl⟩, .inl rfl⟩
      fun edit applied now ⟨stays, sameTag⟩ _ => ?_
    obtain ⟨line, _, makes, _⟩ := source applied
    rw [makes]
    refine ⟨stays.trans (checkoutChange_staysPut _ now), ?_⟩
    rcases checkoutChange_epc line.lineType now with kept | gone
    · rwa [kept]
    · exact .inr gone
  refine ⟨stays, key_editRow, ?_, ?_⟩
  · refine editRow_establishes (fun now : StockItem => now.status = some "SOLD")
      (fun edit applied _ now => ?_) addressed
    obtain ⟨line, _, makes, _⟩ := source applied
    rw [makes, checkoutChange_status]
  · rcases sameTag with kept | gone
    · -- A unit that has a tag is taken by lines for that tag, and loses it.
      by_contra hasTag
      rw [kept, tag] at hasTag
      have untagged : isTruthy (editRow (outputs.map (·.1)) unit).epc = false := by
        refine editRow_establishes (fun now : StockItem => isTruthy now.epc = false)
          (fun edit applied named now => ?_) addressed
        obtain ⟨other, _, makes, sameEpc⟩ := source applied
        have kind : other.lineType = .epc := other.tagged.mpr (by rwa [← sameEpc named, tag])
        rw [makes, kind]
        exact sellAndUntagRow_epc now
      obtain ⟨epc, named'⟩ := Option.ne_none_iff_exists'.mp hasTag
      rw [kept, tag, named'] at untagged
      refine named line inLines ?_
      rw [named']
      simpa [isTruthy] using untagged
    · exact gone

/-- A sale that was checked out and left alone was delivered. -/
theorem Delivered.of_leftSold {context : RequestContext} {payload : CheckoutSaleActionRequest}
    {totals : PaymentTotals} {advance : Option PosAdvance} {batch : SaleBatch}
    (sound : SalesSound db) (member : sale ∈ db.sales)
    (step : CheckedOut db sold context sale payload totals advance batch)
    (left : LeftSold db sold later sale) (isPaid : paid ∈ later.sales) (id : paid.id = sale.id) :
    Delivered db later sale paid := by
  obtain ⟨outputs, taken, rows⟩ := step.soldRows
  obtain ⟨tenant, store, status⟩ : paid.tenantId = sale.tenantId ∧ paid.storeId = sale.storeId ∧
      paid.status = .paid := by
    have wasPaid := left.recorded paid isPaid id
    rw [step.tables] at wasPaid
    rcases mem_update_singleton sound.saleIds member wasPaid with rfl | ⟨_, apart⟩
    · exact ⟨rfl, rfl, rfl⟩
    · exact absurd id apart
  have ids {line : PosSaleLine} {output : StockOutput}
      (lineSold : LineSold db sale checkoutChange line.lineType line.toPosSaleLineSnapshot line.qty
      output) :
      output.1.keys = lineSoldIds db sale line := lineSold.ids
  refine ⟨member, sound, id, tenant, store, status, ?_, step.nonempty, fun line inLines => ?_,
    fun line inLines unit isUnit listed => ?_, fun lineId => ?_⟩
  · rw [left.lines, getSaleLines, getSaleLines, map_unremembered_eq, map_unremembered_eq,
      step.keeps (fun _ _ => rfl) fun _ _ => rfl]
  · obtain ⟨output, _, lineSold⟩ := Checked.output_of_item taken inLines
    exact ids lineSold ▸ lineSold.picks
  · have soldFrom :=
      soldFrom_of_outputs taken
        (fun line inLines => sound.named line (mem_getSaleLines.mp inLines).1) isUnit
      inLines listed
    refine ⟨_, left.rows line inLines _ (rows ▸ List.mem_map_of_mem isUnit) ?_, soldFrom⟩
    rwa [soldFrom.id]
  · exact Tally.sumWhere_eq_zero fun event isEvent counts => by simp [left.unreturned event isEvent]
      at counts

/-! ## What a refund takes -/

/-- The rows that a refund of a whole line takes. -/
def lineBackIds (later : Db) (sale : PosSale) (line : PosSaleLine) : List ℕ :=
  restockedIds later sale line.whole

private theorem lineSoldIds_subset (same : line.selector = other.selector)
    (le : line.qty ≤ other.qty) :
    lineSoldIds db sale line ⊆ lineSoldIds db sale other := by
  obtain ⟨kind, filters⟩ := unsoldStockFilters_eq_of_selector sale same
  cases type : line.lineType <;> rw [type] at kind filters <;> rw [← kind] at filters <;>
    simp only [lineSoldIds, soldIds, type, ← kind, filters]
  · exact List.Subset.refl _
  · exact List.map_subset _ (oldest_subset (by omega))

private theorem lineBackIds_subset (same : line.selector = other.selector)
    (le : line.qty ≤ other.qty) :
    lineBackIds later sale line ⊆ lineBackIds later sale other := by
  obtain ⟨kind, filters⟩ := soldStockFilters_eq_of_selector sale same
  cases type : line.lineType <;> rw [type] at kind <;>
    simp only [lineBackIds, restockedIds, PosSaleLine.whole, type, ← kind, filters]
  · exact List.Subset.refl _
  · exact List.map_subset _ (oldest_subset (by omega))

private theorem mem_lineBackIds (isSku : line.lineType = .sku) {row : StockItem}
    (isRow : row ∈ later.stock.rows) :
    row.id ∈ lineBackIds later sale line ↔
      row ∈ oldest (·.createdAt) (soldStockFilters sale line) line.qty.toNat later.stock.rows := by
  simp only [lineBackIds, restockedIds, PosSaleLine.whole, isSku, List.mem_map]
  constructor
  · rintro ⟨other, isOldest, same⟩
    exact eq_of_key_eq later.stock.distinctIds (mem_of_mem_oldest isOldest).1 isRow same ▸ isOldest
  · intro isOldest
    exact ⟨row, isOldest, rfl⟩

namespace Delivered

variable (delivered : Delivered db later sale paid)
include delivered

theorem lineIds : ((getSaleLines later sale.id).map (·.id)).Nodup := by
  have same := congrArg (List.map PosSaleLine.id) delivered.lines
  rw [List.map_map, List.map_map] at same
  change (getSaleLines later sale.id).map (·.id) = (getSaleLines db sale.id).map (·.id) at same
  rw [same]
  exact delivered.sound.lineIds.sublist (List.filter_sublist.map _)

/-- A line of one state is one of the other, but for what it remembers. -/
theorem line_before (inLater : line ∈ getSaleLines later sale.id) :
    ∃ other ∈ getSaleLines db sale.id, line.unremembered = other.unremembered := by
  have member := List.mem_map_of_mem (f := (·.unremembered)) inLater
  rw [delivered.lines] at member
  obtain ⟨other, inLines, same⟩ := List.mem_map.mp member
  exact ⟨other, inLines, same.symm⟩

private theorem line_later (inLines : line ∈ getSaleLines db sale.id) :
    ∃ other ∈ getSaleLines later sale.id, other.unremembered = line.unremembered := by
  have member := List.mem_map_of_mem (f := (·.unremembered)) inLines
  rw [← delivered.lines] at member
  exact List.mem_map.mp member

private theorem filters_eq (same : other.unremembered = line.unremembered) :
    soldStockFilters paid other = soldStockFilters sale line := by
  calc soldStockFilters paid other = soldStockFilters sale other.unremembered := by
        funext row
        simp only [soldStockFilters, delivered.tenant, delivered.store]
        rfl
    _ = soldStockFilters sale line := by
        rw [same]
        rfl

theorem restocked (same : other.unremembered = line.unremembered) {output : StockOutput}
    (back : ItemRestocked later paid other.whole output) :
    ItemRestocked later sale line.whole output := by
  have filters := delivered.filters_eq same
  have kind : other.lineType = line.lineType :=
    show other.unremembered.lineType = line.unremembered.lineType from congrArg PosSaleLine.lineType
      same
  have qty : other.qty = line.qty :=
    show other.unremembered.qty = line.unremembered.qty from congrArg PosSaleLine.qty same
  obtain ⟨ids, picks, leaves, unsold, untagged⟩ := back
  simp only [PosSaleLine.whole, filters, kind, qty] at ids picks untagged
  refine ⟨?_, picks, leaves, unsold, untagged⟩
  rw [ids]
  simp only [restockedIds, PosSaleLine.whole, filters, kind]

/-- A refund of the whole sale puts back rows for its lines. -/
theorem takesBack {clerk : Clerk} {payload : RefundItemsSaleActionRequest}
    (may : clerk.MayRefund later paid) (full : FullRefund later paid payload clerk.context.now)
    (success : saleStep later (clerk.request sale.id (.refundItems payload)) = .ok after) :
    ∃ outputs : List StockOutput,
      (∀ output ∈ outputs, ∃ line ∈ getSaleLines db sale.id,
        ItemRestocked later sale line.whole output) ∧
      (∀ line ∈ getSaleLines db sale.id, ∃ output ∈ outputs,
        ItemRestocked later sale line.whole output) ∧
      after.stock.rows = later.stock.rows.map (editRow (outputs.map (·.1))) ++ outputs.flatMap
      (·.2) := by
  rw [← delivered.id, may.step] at success
  obtain ⟨items, session, step⟩ := refundItems_ok success
  obtain ⟨outputs, each, rows⟩ := step.restockedRows
  have lineIds := delivered.lineIds
  rw [← delivered.id] at lineIds
  have perm := accepted_perm lineIds full.items step.accepted
  rw [delivered.id] at perm
  refine ⟨outputs, fun output isOutput => ?_, fun line inLines => ?_, rows⟩
  · obtain ⟨item, isItem, back⟩ := Checked.item_of_output each isOutput
    obtain ⟨other, inLater, rfl⟩ := List.mem_map.mp (perm.subset isItem)
    obtain ⟨line, inLines, same⟩ := delivered.line_before inLater
    exact ⟨line, inLines, delivered.restocked same back⟩
  · obtain ⟨other, inLater, same⟩ := delivered.line_later inLines
    obtain ⟨output, isOutput, back⟩ := Checked.output_of_item each
      (perm.symm.subset (List.mem_map_of_mem inLater))
    exact ⟨output, isOutput, delivered.restocked same back⟩

/-- A sold row was a unit that the line selected. -/
theorem unit_of_sold (inLines : line ∈ getSaleLines db sale.id) {row : StockItem}
    (isRow : row ∈ later.stock.rows) (listed : row.id ∈ lineSoldIds db sale line) :
    ∃ unit ∈ db.stock.rows, SoldFrom unit row ∧
      unsoldStockFilters sale line.lineType line.toPosSaleLineSnapshot unit = true := by
  obtain ⟨unit, isUnit, same, matching⟩ := (delivered.picks line inLines).found row.id listed
  obtain ⟨other, isOther, soldFrom⟩ := delivered.units line inLines unit isUnit (same ▸ listed)
  obtain rfl := eq_of_key_eq later.stock.distinctIds isOther isRow (soldFrom.id.trans same)
  exact ⟨unit, isUnit, soldFrom, matching⟩

/-- A row that an untagged line sold may come back for it. -/
theorem comesBack (inLines : line ∈ getSaleLines db sale.id) (isSku : line.lineType = .sku)
    {row : StockItem} (isRow : row ∈ later.stock.rows)
    (listed : row.id ∈ lineSoldIds db sale line) : ComesBack sale line row := by
  obtain ⟨unit, _, soldFrom, matching⟩ := delivered.unit_of_sold inLines isRow listed
  simp only [unsoldStockFilters, isSku, Bool.and_eq_true, decide_eq_true_eq] at matching
  obtain ⟨⟨⟨⟨⟨tenant, store⟩, _⟩, location⟩, pool⟩, sku, _⟩ := matching
  exact ⟨soldFrom.tenant.trans tenant, soldFrom.store.trans store, soldFrom.sold,
    soldFrom.location.trans location,
    soldFrom.pool.trans pool, by rw [isSku]; exact soldFrom.sku.trans sku⟩

/-- What an untagged line sold is as many sold rows as the line asks for. -/
theorem picksSold (inLines : line ∈ getSaleLines db sale.id) (isSku : line.lineType = .sku) :
    Picks StockItem.id later.stock.rows (soldStockFilters sale line) line.qty.toNat
    (lineSoldIds db sale line) := by
  have picks := delivered.picks line inLines
  refine ⟨picks.unrepeated, picks.length, fun id listed => ?_⟩
  obtain ⟨unit, isUnit, same, _⟩ := picks.found id listed
  obtain ⟨row, isRow, soldFrom⟩ := delivered.units line inLines unit isUnit (same ▸ listed)
  have rowId : row.id = id := soldFrom.id.trans same
  exact ⟨row, isRow, rowId, soldStockFilters_eq_true.mpr
    (delivered.comesBack inLines isSku isRow (rowId ▸ listed))⟩

/-- Untagged lines that have a sold row in common select alike. -/
theorem selector_eq (untagged : ∀ line ∈ getSaleLines db sale.id, line.lineType = .sku)
    (inLines : line ∈ getSaleLines db sale.id) (otherInLines : other ∈ getSaleLines db sale.id)
    {row : StockItem} (isRow : row ∈ later.stock.rows) (listed : row.id ∈ lineSoldIds db sale other)
    (matching : soldStockFilters sale line row = true) : other.selector = line.selector := by
  have isSku := untagged line inLines
  have otherSku := untagged other otherInLines
  refine selector_eq_of_sold (otherSku.trans isSku.symm) ?_ matching
  exact soldStockFilters_eq_true.mpr (delivered.comesBack otherInLines otherSku isRow listed)

/-- The line that asks for the most of its goods takes back what it sold exactly when no other sold
row of the goods comes before one of them. -/
theorem only_iff (untagged : ∀ line ∈ getSaleLines db sale.id, line.lineType = .sku)
    (inLines : line ∈ getSaleLines db sale.id)
    (most : ∀ other ∈ getSaleLines db sale.id, other.selector = line.selector →
      other.qty ≤ line.qty) :
    (∀ row ∈ later.stock.rows, row.id ∈ lineBackIds later sale line →
      row.id ∈ lineSoldIds db sale line) ↔
      ∀ row ∈ later.stock.rows, soldStockFilters sale line row = true →
        (∀ other ∈ getSaleLines db sale.id, row.id ∉ lineSoldIds db sale other) →
          ∀ unit ∈ later.stock.rows, unit.id ∈ lineSoldIds db sale line →
            Precedes StockItem.id (·.createdAt) later.stock.rows unit row := by
  have isSku := untagged line inLines
  have picks := delivered.picksSold inLines isSku
  have reads : (∀ row ∈ later.stock.rows, row.id ∈ lineBackIds later sale line →
      row.id ∈ lineSoldIds db sale line) ↔
      ∀ row ∈ oldest (·.createdAt) (soldStockFilters sale line) line.qty.toNat later.stock.rows,
        row.id ∈ lineSoldIds db sale line := by
    constructor
    · intro only row isOldest
      have isRow := (mem_of_mem_oldest isOldest).1
      exact only row isRow ((mem_lineBackIds isSku isRow).mpr isOldest)
    · intro only row isRow taken
      exact only row ((mem_lineBackIds isSku isRow).mp taken)
  rw [reads, picks.only_iff later.stock.distinctIds]
  constructor
  · intro precede row isRow matching unsold
    exact precede row isRow matching (unsold line inLines)
  · intro precede row isRow matching unsold
    refine precede row isRow matching fun other otherInLines listed => unsold ?_
    have same := delivered.selector_eq untagged inLines otherInLines isRow listed matching
    exact lineSoldIds_subset same (most other otherInLines same) listed

/-! ## Enough -/

section Enough

variable {clerk : Clerk} {payload : RefundItemsSaleActionRequest}
    (finds : RefundFinds db later sale clerk payload)
include finds

/-- The line that asks for the most of its goods takes back what it sold. -/
theorem mem_widest (inLines : line ∈ getSaleLines db sale.id)
    (most : ∀ other ∈ getSaleLines db sale.id, other.selector = line.selector →
      other.qty ≤ line.qty) {row : StockItem}
    (isRow : row ∈ later.stock.rows) : row.id ∈ lineBackIds later sale line ↔
    row.id ∈ lineSoldIds db sale line := by
  have isSku := finds.untagged line inLines
  have only := (delivered.only_iff finds.untagged inLines most).mpr (finds.first line inLines)
  refine ⟨only row isRow, fun listed => (mem_lineBackIds isSku isRow).mpr ?_⟩
  refine (delivered.picksSold inLines isSku).mem_oldest later.stock.distinctIds
    (fun other isOldest => ?_) isRow listed
  have isOther := (mem_of_mem_oldest isOldest).1
  exact only other isOther ((mem_lineBackIds isSku isOther).mpr isOldest)

/-- The refund takes the rows that the checkout sold. -/
theorem back_iff {row : StockItem} (isRow : row ∈ later.stock.rows) :
    (∃ line ∈ getSaleLines db sale.id, row.id ∈ lineBackIds later sale line) ↔
      ∃ line ∈ getSaleLines db sale.id, row.id ∈ lineSoldIds db sale line := by
  constructor
  · rintro ⟨line, inLines, listed⟩
    obtain ⟨widest, isWidest, same, most⟩ := exists_largest (·.selector) (·.qty) inLines
    have wide := lineBackIds_subset same.symm (most line inLines rfl) listed
    exact ⟨widest, isWidest, (delivered.mem_widest finds isWidest (same ▸ most) isRow).mp wide⟩
  · rintro ⟨line, inLines, listed⟩
    obtain ⟨widest, isWidest, same, most⟩ := exists_largest (·.selector) (·.qty) inLines
    have wide := lineSoldIds_subset same.symm (most line inLines rfl) listed
    exact ⟨widest, isWidest, (delivered.mem_widest finds isWidest (same ▸ most) isRow).mpr wide⟩

/-- The refund is accepted. -/
theorem refund_accepted (may : clerk.MayRefund later paid)
    (full : FullRefund later paid payload clerk.context.now) :
    ∃ after, saleStep later (clerk.request sale.id (.refundItems payload)) = .ok after := by
  have lineIds := delivered.lineIds
  have unreturned := delivered.unreturned
  have before {other : PosSaleLine} (inLater : other ∈ getSaleLines later paid.id) :
      ∃ line ∈ getSaleLines db sale.id, other.unremembered = line.unremembered :=
    delivered.line_before (delivered.id ▸ inLater)
  rw [← delivered.id] at lineIds unreturned
  rw [← delivered.id, may.step]
  refine refundItems_succeeds may.refunds delivered.status full lineIds unreturned ?_ finds.pays
    ?_ ?_ ?_
  · have lines := congrArg List.length delivered.lines
    have nonempty := List.length_pos_iff.mpr delivered.nonempty
    rw [List.length_map, List.length_map, ← delivered.id] at lines
    apply List.length_pos_iff.mp
    rwa [lines, delivered.id]
  · rw [DrawerPays, delivered.tenant, delivered.store]
    exact finds.drawer
  · intro other inLater
    obtain ⟨line, inLines, same⟩ := before inLater
    have kind : other.lineType = line.lineType :=
      show other.unremembered.lineType =
        line.unremembered.lineType from congrArg PosSaleLine.lineType same
    rw [kind]
    exact finds.untagged line inLines
  · intro other inLater
    obtain ⟨line, inLines, same⟩ := before inLater
    have qty : other.qty = line.qty :=
      show other.unremembered.qty = line.unremembered.qty from congrArg PosSaleLine.qty same
    have found := (delivered.picksSold inLines (finds.untagged line inLines)).le_countP
    rw [delivered.filters_eq same, qty]
    omega

/-- It puts back the sold rows and no others. -/
theorem reversed {outputs : List StockOutput}
    (source : ∀ output ∈ outputs, ∃ line ∈ getSaleLines db sale.id,
      ItemRestocked later sale line.whole output)
    (each : ∀ line ∈ getSaleLines db sale.id, ∃ output ∈ outputs,
      ItemRestocked later sale line.whole output)
    {row : StockItem} (isRow : row ∈ later.stock.rows) :
    Reversed db sale row (editRow (outputs.map (·.1)) row) := by
  have change {edit : Edit StockItem.id} (applied : edit ∈ outputs.map (·.1)) :
      edit.change = putBack "PENDING" true ∧ ∃ line ∈ getSaleLines db sale.id,
      edit.keys = lineBackIds later sale line := by
    obtain ⟨output, isOutput, rfl⟩ := List.mem_map.mp applied
    obtain ⟨line, inLines, back⟩ := source output isOutput
    exact ⟨(back.untagged (finds.untagged line inLines)).1, line, inLines, back.ids⟩
  refine ⟨key_editRow, fun line inLines listed => ?_, fun unsold => ?_⟩
  · have isSku := finds.untagged line inLines
    obtain ⟨taker, isTaker, takes⟩ := (delivered.back_iff finds isRow).mpr ⟨line, inLines, listed⟩
    obtain ⟨output, isOutput, back⟩ := each taker isTaker
    have addressed : ∃ edit ∈ outputs.map (·.1), row.id ∈ edit.keys :=
      ⟨output.1, List.mem_map_of_mem isOutput, back.ids ▸ takes⟩
    obtain ⟨status, vendible⟩ : (editRow (outputs.map (·.1)) row).status = some "PENDING" ∧
        (editRow (outputs.map (·.1)) row).locationIsVendible = true := by
      refine editRow_establishes (fun now : StockItem => now.status = some "PENDING" ∧
        now.locationIsVendible = true) (fun edit applied _ now => ?_) addressed
      rw [(change applied).1]
      exact ⟨rfl, rfl⟩
    obtain ⟨stays, tag⟩ : StaysPut row (editRow (outputs.map (·.1)) row) ∧
        (editRow (outputs.map (·.1)) row).epc = row.epc := by
      refine editRow_keeps (fun now : StockItem => StaysPut row now ∧ now.epc = row.epc)
        ⟨⟨rfl, rfl, rfl, rfl, rfl⟩, rfl⟩ fun edit applied now ⟨stays, tag⟩ _ => ?_
      rw [(change applied).1]
      exact ⟨stays.trans ⟨rfl, rfl, rfl, rfl, rfl⟩, tag⟩
    have comes := delivered.comesBack inLines isSku isRow listed
    obtain ⟨_, _, soldFrom, _⟩ := delivered.unit_of_sold inLines isRow listed
    have sku : row.sku = line.sku := by simpa only [isSku, goodsOf] using comes.goods
    simp [unsoldStockFilters, isSku, notSold, status, vendible, tag, soldFrom.untagged,
      stays.tenant, comes.tenant, stays.store, comes.store, stays.location, comes.location,
      stays.pool, comes.pool, stays.sku, sku]
  · refine editRow_of_untouched fun edit applied listed => ?_
    obtain ⟨_, taker, isTaker, keys⟩ := change applied
    obtain ⟨line, inLines, sold⟩ := (delivered.back_iff finds isRow).mp
      ⟨taker, isTaker, keys ▸ listed⟩
    exact unsold line inLines sold

/-- Enough for the refund to reverse the checkout. -/
theorem reverses (may : clerk.MayRefund later paid)
    (full : FullRefund later paid payload clerk.context.now) :
    RefundReverses db later sale clerk payload := by
  obtain ⟨after, success⟩ := delivered.refund_accepted finds may full
  obtain ⟨outputs, source, each, rows⟩ := delivered.takesBack may full success
  have nothing : outputs.flatMap (·.2) = [] := by
    refine List.flatMap_eq_nil_iff.mpr fun output isOutput => ?_
    obtain ⟨line, inLines, back⟩ := source output isOutput
    exact (back.untagged (finds.untagged line inLines)).2
  rw [nothing, List.append_nil] at rows
  refine ⟨after, success, ?_, fun line inLines => ?_⟩
  · rw [rows, List.forall₂_map_right_iff, List.forall₂_same]
    exact fun row isRow => delivered.reversed finds source each isRow
  · have picks := delivered.picks line inLines
    have again : Picks StockItem.id after.stock.rows
        (unsoldStockFilters sale line.lineType line.toPosSaleLineSnapshot)
        line.qty.toNat (lineSoldIds db sale line) := by
      refine ⟨picks.unrepeated, picks.length, fun id listed => ?_⟩
      obtain ⟨row, isRow, rfl, _⟩ :=
        (delivered.picksSold inLines (finds.untagged line inLines)).found id listed
      have back := delivered.reversed finds source each isRow
      exact ⟨_, rows ▸ List.mem_map_of_mem isRow, back.id, (back.own line inLines listed).1⟩
    have found := again.le_countP
    omega

end Enough

/-! ## Necessary -/

section Necessary

variable {outputs : List StockOutput}
  (source : ∀ output ∈ outputs, ∃ line ∈ getSaleLines db sale.id,
    ItemRestocked later sale line.whole output)
  (each : ∀ line ∈ getSaleLines db sale.id, ∃ output ∈ outputs,
    ItemRestocked later sale line.whole output)
  (reversed : ∀ row ∈ later.stock.rows, Reversed db sale row (editRow (outputs.map (·.1)) row))
include source each reversed

omit delivered in
/-- What the refund of a line takes was sold by some line. -/
theorem sold_of_back (inLines : line ∈ getSaleLines db sale.id) {row : StockItem}
    (isRow : row ∈ later.stock.rows) (listed : row.id ∈ lineBackIds later sale line) :
    ∃ other ∈ getSaleLines db sale.id, row.id ∈ lineSoldIds db sale other := by
  obtain ⟨output, isOutput, back⟩ := each line inLines
  have takes : row.id ∈ output.1.keys := back.ids ▸ listed
  have left : (editRow (outputs.map (·.1)) row).status ≠ some "SOLD" := by
    refine editRow_establishes (fun now : StockItem => now.status ≠ some "SOLD")
      (fun edit applied _ now => ?_) ⟨output.1, List.mem_map_of_mem isOutput, takes⟩
    obtain ⟨other, isOther, rfl⟩ := List.mem_map.mp applied
    obtain ⟨_, _, restocked⟩ := source other isOther
    exact restocked.leaves now
  by_contra unsold
  rw [(reversed row isRow).others fun other isOther sold => unsold ⟨other, isOther, sold⟩] at left
  exact left (back.sold row isRow takes)

private theorem untagged_of_reversed (inLines : line ∈ getSaleLines db sale.id) :
    line.lineType = .sku := by
  cases kind : line.lineType with
  | sku => rfl
  | epc =>
    -- The refund of a tagged line takes a row that has its tag, and no sold row has a tag.
    obtain ⟨output, _, back⟩ := each line inLines
    have length := back.picks.length
    have positive := line.qtyPositive
    obtain ⟨id, listed⟩ : ∃ id, id ∈ output.1.keys := by
      apply List.exists_mem_of_length_pos
      rw [length]
      simp only [PosSaleLine.whole]
      omega
    obtain ⟨row, isRow, rfl, matching⟩ := back.picks.found id listed
    have ids : output.1.keys = lineBackIds later sale line := back.ids
    obtain ⟨other, isOther, sold⟩ := sold_of_back source each reversed inLines isRow (ids ▸ listed)
    obtain ⟨_, _, soldFrom, _⟩ := delivered.unit_of_sold isOther isRow sold
    have tag := (soldStockFilters_eq_true.mp matching).goods
    simp only [PosSaleLine.whole, kind, goodsOf, soldFrom.untagged] at tag
    exact absurd tag.symm (line.tagged.mp kind)

/-- A line takes back what lines of its goods sold, so no other sold row comes first. -/
theorem first_of_reversed (inLines : line ∈ getSaleLines db sale.id) :
    ∀ row ∈ later.stock.rows, soldStockFilters sale line row = true →
      (∀ other ∈ getSaleLines db sale.id, row.id ∉ lineSoldIds db sale other) →
        ∀ unit ∈ later.stock.rows, unit.id ∈ lineSoldIds db sale line →
          Precedes StockItem.id (·.createdAt) later.stock.rows unit row := by
  have untagged : ∀ line ∈ getSaleLines db sale.id, line.lineType = .sku := fun line inLines =>
    delivered.untagged_of_reversed source each reversed inLines
  obtain ⟨widest, isWidest, same, most⟩ := exists_largest (·.selector) (·.qty) inLines
  have filters := (soldStockFilters_eq_of_selector sale same).2
  have only : ∀ row ∈ later.stock.rows, row.id ∈ lineBackIds later sale widest →
      row.id ∈ lineSoldIds db sale widest := by
    intro row isRow listed
    obtain ⟨other, isOther, sold⟩ := sold_of_back source each reversed isWidest isRow listed
    have matching :=
      (mem_of_mem_oldest ((mem_lineBackIds (untagged widest isWidest) isRow).mp listed)).2
    have alike := delivered.selector_eq untagged isWidest isOther isRow sold matching
    exact lineSoldIds_subset alike (most other isOther (alike.trans same)) sold
  have precede := (delivered.only_iff untagged isWidest (same ▸ most)).mp only
  intro row isRow matching unsold unit isUnit listed
  exact precede row isRow (filters ▸ matching) unsold unit isUnit
    (lineSoldIds_subset same.symm (most line inLines rfl) listed)

end Necessary

/-- The refund reverses the checkout exactly when it finds what was sold. -/
theorem refundReverses_iff {clerk : Clerk} {payload : RefundItemsSaleActionRequest}
    (may : clerk.MayRefund later paid) (full : FullRefund later paid payload clerk.context.now) :
    RefundReverses db later sale clerk payload ↔ RefundFinds db later sale clerk payload := by
  refine ⟨fun ⟨after, success, restores, _⟩ => ?_, fun finds => delivered.reverses finds may full⟩
  obtain ⟨outputs, source, each, rows⟩ := delivered.takesBack may full success
  have nothing : outputs.flatMap (·.2) = [] := by
    have length := restores.length_eq
    rw [rows, List.length_append, List.length_map] at length
    apply List.length_eq_zero_iff.mp
    omega
  rw [rows, nothing, List.append_nil, List.forall₂_map_right_iff, List.forall₂_same] at restores
  obtain ⟨pays, drawer⟩ : payload.refundPayments ≠ [] ∧
      DrawerPays later clerk.context paid (paidBy (· = .cash) payload.refundPayments) := by
    rw [← delivered.id, may.step] at success
    exact refundItems_pays success
  rw [DrawerPays, delivered.tenant, delivered.store] at drawer
  exact ⟨fun line inLines => delivered.untagged_of_reversed source each restores inLines,
    fun line inLines => delivered.first_of_reversed source each restores inLines, pays, drawer⟩

end Delivered

end Refund

/-- After a checkout that leaves its sale and goods alone until then, a refund of the whole sale is
accepted and puts the sold units on sale again, and no others, exactly when it finds them, pays
something and has the cash. -/
theorem checkout_refunded_iff (start db sold later : Db) (noSales : start.sales = [])
    (noLines : start.saleLines = []) (reached : Reachable apiStep (fun _ _ => True) start db)
    (context : RequestContext) (transactionId : Option String) (sale : PosSale)
    (member : sale ∈ db.sales) (checkout : CheckoutSaleActionRequest)
    (checkedOut : saleStep db (.action context sale.id ⟨transactionId, .checkout checkout⟩) =
      .ok sold)
    (left : LeftSold db sold later sale) (clerk : Clerk) (paid : PosSale) (same : paid.id = sale.id)
    (may : clerk.MayRefund later paid) (payload : RefundItemsSaleActionRequest)
    (full : FullRefund later paid payload clerk.context.now) :
    RefundReverses db later sale clerk payload ↔ RefundFinds db later sale clerk payload := by
  have sound : SalesSound db := (SalesSound.initial noSales noLines).reached reached
  cases saleStep_ok checkedOut with
  | checkedOut other target totals advance batch step =>
    obtain rfl := eq_of_key_eq sound.saleIds target.member member target.id
    have isPaid := (saleInScope_ok may.inScope).1
    exact (Delivered.of_leftSold sound member step left isPaid same).refundReverses_iff may full

namespace Sample

def seller : Clerk := ⟨cashier, some "act"⟩

/-- Two untagged jackets are wanted, with a drawer open. -/
def jacketsWanted : Db := (runAllowed apiStep (fun _ _ => True) shop
  [.system openDrawer, .system (draft [jackets 2])]).get (by decide +kernel)

def jacketsWantedSale : PosSale := jacketsWanted.sales.head (by decide +kernel)

private theorem jacketsBought_commits :
    (saleStep jacketsWanted
      (seller.request 1 (.checkout { payments := [inCash 25] }))).toOption.isSome = true := by
  decide +kernel

/-- They are paid in cash, with change. -/
def jacketsBought : Db :=
  (saleStep jacketsWanted (seller.request 1 (.checkout { payments := [inCash 25] }))).toOption.get
    jacketsBought_commits

private theorem jacketsBought_inScope :
    (saleInScope jacketsBought cashier 1).toOption.isSome = true := by decide +kernel

def jacketsBoughtSale : PosSale :=
  (saleInScope jacketsBought cashier 1).toOption.get jacketsBought_inScope

private theorem seller_mayRefund : seller.MayRefund jacketsBought jacketsBoughtSale where
  permitted := rfl
  refunds := rfl
  signed := rfl
  inScope := by
    have id : jacketsBoughtSale.id = 1 := by decide +kernel
    rw [id]
    exact Checked.eq_ok_get jacketsBought_inScope

/-- Both come back. -/
def jacketsBack : RefundItemsSaleActionRequest :=
  { returnItems := [{ lineId := 1, qty := 2 }], refundPayments := [inCash 20] }

private theorem jacketsBack_full : FullRefund jacketsBought jacketsBoughtSale jacketsBack 100 := by
  constructor <;> decide +kernel

private theorem jacketsBought_left :
    LeftSold jacketsWanted jacketsBought jacketsBought jacketsWantedSale := by
  refine ⟨fun paid isPaid _ => isPaid, rfl, ?_, fun _ _ row isRow _ => isRow⟩
  decide +kernel

end Sample

theorem checkout_refunded_iff_jackets :
    RefundReverses Sample.jacketsWanted Sample.jacketsBought Sample.jacketsWantedSale Sample.seller
    Sample.jacketsBack := by
  have reached : Reachable apiStep (fun _ _ => True) Sample.shop Sample.jacketsWanted :=
    reachable_of_runAllowed (Option.some_get _).symm
  have checkedOut : saleStep Sample.jacketsWanted (Sample.seller.request Sample.jacketsWantedSale.id
      (.checkout { payments := [Sample.inCash 25] })) = .ok Sample.jacketsBought := by
    have id : Sample.jacketsWantedSale.id = 1 := by decide +kernel
    rw [id]
    exact Checked.eq_ok_get Sample.jacketsBought_commits
  refine (checkout_refunded_iff Sample.shop Sample.jacketsWanted Sample.jacketsBought
    Sample.jacketsBought rfl rfl reached Sample.cashier (some "act") Sample.jacketsWantedSale
    (List.head_mem _) { payments := [Sample.inCash 25] }
    checkedOut Sample.jacketsBought_left Sample.seller Sample.jacketsBoughtSale
    (by decide +kernel) Sample.seller_mayRefund Sample.jacketsBack Sample.jacketsBack_full).mpr ?_
  refine ⟨by decide +kernel, by decide +kernel, by decide +kernel, fun _ => ?_⟩
  exact ⟨_, Checked.eq_ok_get (by decide +kernel), by decide +kernel, by decide +kernel⟩

namespace Sample

/-- The tagged jacket is wanted. -/
def tagWanted : Db := (runAllowed apiStep (fun _ _ => True) shop
  [.system (draft [{ lineType := .epc, epc := some "E1" }])]).get (by decide +kernel)

private theorem tagBought_commits :
    (saleStep tagWanted (seller.request 1 (.checkout { payments := [byCard 20] }))).toOption.isSome
    = true := by
  decide +kernel

def tagBought : Db :=
  (saleStep tagWanted (seller.request 1 (.checkout { payments := [byCard 20] }))).toOption.get
    tagBought_commits

private theorem tagBought_inScope : (saleInScope tagBought cashier 1).toOption.isSome = true := by
  decide +kernel

def tagBoughtSale : PosSale := (saleInScope tagBought cashier 1).toOption.get tagBought_inScope

private theorem seller_mayRefundTag : seller.MayRefund tagBought tagBoughtSale where
  permitted := rfl
  refunds := rfl
  signed := rfl
  inScope := by
    have id : tagBoughtSale.id = 1 := by decide +kernel
    rw [id]
    exact Checked.eq_ok_get tagBought_inScope

def tagBack : RefundItemsSaleActionRequest :=
  { returnItems := [{ lineId := 1 }], refundPayments := [byCard 20] }

private theorem tagBack_full : FullRefund tagBought tagBoughtSale tagBack 100 := by
  constructor <;> decide +kernel

end Sample

/-- The refund of a tagged jacket that was checked out is refused. -/
theorem tagged_sale_not_refunded :
    ¬ ∀ start db sold : Db, start.sales = [] → start.saleLines = [] →
      Reachable apiStep (fun _ _ => True) start db →
      ∀ (context : RequestContext) (saleId : ℕ) (transactionId : Option String)
        (checkout : CheckoutSaleActionRequest),
        saleStep db (.action context saleId ⟨transactionId, .checkout checkout⟩) = .ok sold →
        ∀ (clerk : Clerk) (paid : PosSale), paid.id = saleId → clerk.MayRefund sold paid →
        ∀ payload : RefundItemsSaleActionRequest, FullRefund sold paid payload clerk.context.now →
          ∃ after, saleStep sold (clerk.request saleId (.refundItems payload)) = .ok after := by
  intro refunds
  have reached : Reachable apiStep (fun _ _ => True) Sample.shop Sample.tagWanted :=
    reachable_of_runAllowed (Option.some_get _).symm
  obtain ⟨after, success⟩ := refunds Sample.shop Sample.tagWanted Sample.tagBought rfl rfl reached
    Sample.cashier 1 (some "act") { payments := [Sample.byCard 20] }
    (Checked.eq_ok_get Sample.tagBought_commits) Sample.seller
    Sample.tagBoughtSale (by decide +kernel) Sample.seller_mayRefundTag Sample.tagBack
    Sample.tagBack_full
  have rejected :
      (saleStep Sample.tagBought
      (Sample.seller.request 1 (.refundItems Sample.tagBack))).toOption.isNone =
      true := by decide +kernel
  rw [success] at rejected
  contradiction

end ArisCloud

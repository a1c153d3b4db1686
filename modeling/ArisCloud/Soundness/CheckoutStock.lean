import ArisCloud.Soundness.MovedUnits

/-! # The units that a checkout sells

Every line of a checkout selects its rows among the rows as they were before the request, so two
lines with the same selector take the same row. A checkout sells each unit once exactly when its
lines select differently.
-/

namespace ArisCloud

open KeyedRows Requests

/-! ## What a checkout should sell -/

/-- The rows that a line took: as many as its quantity, unsold and matching before, and sold
after. -/
structure LineTook (db after : Db) (sale : PosSale) (line : PosSaleLine) (ids : List ℕ) : Prop where
  unrepeated : ids.Nodup
  length : (ids.length : ℤ) = line.qty
  found : ∀ id ∈ ids, ∃ row ∈ db.stock.rows, row.id = id ∧
    unsoldStockFilters sale line.lineType line.toPosSaleLineSnapshot row = true
  sold : ∀ id ∈ ids, IsSold after id

/-- Every line took rows of its own, and together they sold what the lines ask for. -/
structure SoldOnce (db after : Db) (sale : PosSale) : Prop where
  lines : ∃ taken, List.Forall₂ (LineTook db after sale) (getSaleLines db sale.id) taken ∧
    taken.Pairwise List.Disjoint
  total : (becameSold db after : ℤ) = ((getSaleLines db sale.id).map (·.qty)).sum

/-! ## Selectors -/

/-- What a line selects its rows by: its tag, or its SKU among untagged rows, at a place. -/
def PosSaleLine.selector (line : PosSaleLine) :
    LineType × Option String × Option String × Option String :=
  (line.lineType, match line.lineType with | .epc => line.epc | .sku => line.sku, line.locationCode,
    line.pool)

/-! ## Checkouts -/

section Checkout

variable {db after : Db} {context : RequestContext} {sale : PosSale}
    {payload : CheckoutSaleActionRequest}
  {totals : PaymentTotals} {advance : Option PosAdvance} {batch : SaleBatch}

/-- A checkout sells rows for its lines and puts none back. -/
theorem CheckedOut.stockMoved
    (step : CheckedOut db after context sale payload totals advance batch) :
    ∃ outputs, List.Forall₂
    (fun line => LineSold db sale checkoutChange line.lineType line.toPosSaleLineSnapshot line.qty)
        (getSaleLines db sale.id) outputs ∧ StockMoved db after outputs [] := by
  obtain ⟨outputs, taken, rows⟩ := step.soldRows
  refine ⟨outputs, taken, LineSold.stockMoved taken (fun kind row => ?_) .nil ?_⟩
  · cases kind <;> rfl
  · rw [rows, List.append_nil, List.flatMap_nil, List.append_nil]

/-- To sell once is to move once, line by line. -/
theorem soldOnce_iff_movedOnce : SoldOnce db after sale ↔ MovedOnce db (getSaleLines db sale.id)
    (fun line => unsoldStockFilters sale line.lineType line.toPosSaleLineSnapshot) (·.qty)
    (IsSold after)
      (becameSold db after) := by
  constructor
  · rintro ⟨⟨taken, took, apart⟩, total⟩
    exact ⟨⟨taken, took.imp fun _ _ line => ⟨line.unrepeated, line.length, line.found, line.sold⟩,
        apart⟩, total⟩
  · rintro ⟨⟨taken, took, apart⟩, total⟩
    exact ⟨⟨taken, took.imp fun _ _ line =>
        ⟨line.unrepeated, line.length, line.found, line.reached⟩, apart⟩, total⟩

private theorem CheckedOut.soldOnce_iff
    (step : CheckedOut db after context sale payload totals advance batch) :
    SoldOnce db after sale ↔ ((getSaleLines db sale.id).map (·.selector)).Nodup := by
  obtain ⟨outputs, taken, moved⟩ := step.stockMoved
  have positive : ∀ line ∈ getSaleLines db sale.id, 1 ≤ line.qty := fun line _ => line.qtyPositive
  rw [soldOnce_iff_movedOnce, movedOnce_iff (taken.imp fun _ _ line => line.picks) positive
    (fun output isOutput id => moved.isSold_of_taken isOutput) moved.becameSold_eq, List.Nodup,
    List.pairwise_map]
  exact Checked.pairwise_outputs_iff taken fun line _ other _ lineSold otherSold =>
    lineSold.disjoint_iff line.tagged other.tagged line.qtyPositive other.qtyPositive otherSold

end Checkout

/-- A committed checkout sells every unit once exactly when its lines select their rows
differently. -/
theorem checkout_sells_once_iff (db after : Db) (context : RequestContext) (saleId : ℕ)
    (transactionId : Option String) (payload : CheckoutSaleActionRequest)
    (committed : saleStep db (.action context saleId ⟨transactionId, .checkout payload⟩) =
      .ok after) :
    ∃ sale, SaleTarget db saleId sale ∧
      (SoldOnce db after sale ↔ ((getSaleLines db sale.id).map (·.selector)).Nodup) := by
  cases saleStep_ok committed with
  | checkedOut sale target totals advance batch step => exact ⟨sale, target, step.soldOnce_iff⟩

namespace Sample

/-- A line for a number of untagged jackets. -/
def jackets (qty : ℤ) : PosSaleLineCreate := { lineType := .sku, qty, sku := some "JACKET" }

def jacketDraft (lines : List PosSaleLineCreate) : GoodsRequest :=
  .sale (.create cashier { transactionId := some "draft", storeId := some 10, lines })

/-- A draft of a line of two jackets, and a draft of two lines of one jacket. -/
theorem jacketDrafts_commit : (runAllowed goodsStep (fun _ _ => True) shop
    [jacketDraft [jackets 2], jacketDraft [jackets 1, jackets 1]]).isSome =
    true := by decide +kernel

def jacketsDrafted : Db := (runAllowed goodsStep (fun _ _ => True) shop
  [jacketDraft [jackets 2], jacketDraft [jackets 1, jackets 1]]).get jacketDrafts_commit

/-- The payment of two jackets. -/
def twoJackets : CheckoutSaleActionRequest := { payments := [byCard 20] }

def payJackets (saleId : ℕ) : SaleRequest :=
  .action cashier saleId ⟨some "act", .checkout twoJackets⟩

private theorem jackets_sold : (saleStep jacketsDrafted (payJackets 1)).toOption.isSome = true := by
  decide +kernel

def jacketsSold : Db := (saleStep jacketsDrafted (payJackets 1)).toOption.get jackets_sold

private theorem oneJacket_sold :
    (saleStep jacketsDrafted (payJackets 2)).toOption.isSome = true := by decide +kernel

def oneJacketSold : Db := (saleStep jacketsDrafted (payJackets 2)).toOption.get oneJacket_sold

end Sample

/-- A line of two jackets sells two jackets. -/
theorem checkout_sells_two_jackets : ∃ sale, SaleTarget Sample.jacketsDrafted 1 sale ∧
    SoldOnce Sample.jacketsDrafted Sample.jacketsSold sale := by
  have committed : saleStep Sample.jacketsDrafted (Sample.payJackets 1) = .ok Sample.jacketsSold :=
    Checked.eq_ok_get Sample.jackets_sold
  obtain ⟨sale, target, once⟩ :=
    checkout_sells_once_iff Sample.jacketsDrafted Sample.jacketsSold Sample.cashier 1
    (some "act") Sample.twoJackets committed
  refine ⟨sale, target, once.mpr ?_⟩
  have lines : ((getSaleLines Sample.jacketsDrafted 1).map (·.selector)).Nodup := by decide +kernel
  rw [target.id]
  exact lines

/-- Two lines of one jacket each sell one jacket together. -/
theorem checkout_sells_a_jacket_twice : ¬ ∀ (db after : Db) (context : RequestContext) (saleId : ℕ)
    (transactionId : Option String) (payload : CheckoutSaleActionRequest),
    saleStep db (.action context saleId ⟨transactionId, .checkout payload⟩) = .ok after →
    ∃ sale, SaleTarget db saleId sale ∧ SoldOnce db after sale := by
  intro soldOnce
  obtain ⟨sale, target, once⟩ :=
    soldOnce Sample.jacketsDrafted Sample.oneJacketSold Sample.cashier 2 (some "act")
    Sample.twoJackets (Checked.eq_ok_get Sample.oneJacket_sold)
  have counts : becameSold Sample.jacketsDrafted Sample.oneJacketSold = 1 ∧
      ((getSaleLines Sample.jacketsDrafted 2).map (·.qty)).sum = 2 := by decide +kernel
  have total := once.total
  rw [target.id, counts.1, counts.2] at total
  omega

end ArisCloud

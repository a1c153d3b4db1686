import ArisCloud.Model.Cash
import ArisCloud.Model.StockSession

/-! # Draft sales

A sale is drafted from line selectors. Every line is resolved against the stock of the store: its
snapshot is rebuilt from a matching row and its price is the one of that row, with the client's own
price and snapshot as a fallback for untagged goods that the stock does not hold.
-/

namespace ArisCloud

open Checked (ensure fetch)

/-! ## Line resolution -/

structure PosSaleLineCreate where
  lineType : LineType
  qty : ℤ := 1
  sku : Option String := none
  epc : Option String := none
  unitPrice : Option ℚ := none
  snapshot : Option PosSaleLineSnapshot := none
deriving DecidableEq, Repr

/-- A line rebuilt from stock, ready to be written. -/
structure ResolvedSaleLine where
  lineType : LineType
  qty : ℤ
  unitPrice : Price
  snapshot : PosSaleLineSnapshot
  qtyPositive : 1 ≤ qty
  qtySingle : lineType = .epc → qty = 1
  tagged : lineType = .epc ↔ snapshot.epc ≠ none
deriving Repr

instance : DecidableEq ResolvedSaleLine := fun first second =>
  decidable_of_iff (first.lineType = second.lineType ∧ first.qty = second.qty ∧
      first.unitPrice = second.unitPrice ∧ first.snapshot = second.snapshot) (by
    cases first
    cases second
    simp)

/-- A row that is on sale; rows without a status are not. -/
def notSold (row : StockItem) : Bool := row.status.any (· ≠ "SOLD")

def saleEpcFilters (tenantId storeId : ℕ) (epc : Option String) (row : StockItem) : Bool :=
  row.tenantId = tenantId && row.storeId = some storeId && row.epc = epc && notSold row

def saleSkuFilters (tenantId storeId : ℕ) (sku : Option String) (row : StockItem) : Bool :=
  row.tenantId = tenantId && row.storeId = some storeId && row.sku = sku && row.epc = none &&
    notSold row

/-- The place that a client's snapshot names, as far as it names one. -/
def snapshotPlaceFilters (snapshot : PosSaleLineSnapshot) (row : StockItem) : Bool :=
  (!isTruthy snapshot.locationCode || row.locationCode = snapshot.locationCode) &&
    (!isTruthy snapshot.pool || row.pool = snapshot.pool)

def lineSnapshotOrDefault (line : PosSaleLineCreate) : PosSaleLineSnapshot :=
  line.snapshot.getD { sku := line.sku, epc := if line.lineType = .epc then line.epc else none }

def lineFallbackPrice (line : PosSaleLineCreate) : Price :=
  (line.unitPrice.map Price.round).getD ⟨0⟩

def authoritativePrice (stock : StockItem) (fallback : Price) : Price :=
  stock.salePrice.getD fallback

/-- The EPC that a line selects by. -/
def selectedEpc (line : PosSaleLineCreate) : Option String :=
  orElse (lineSnapshotOrDefault line).epc line.epc

/-- The SKU that a line selects by. -/
def selectedSku (line : PosSaleLineCreate) : Option String :=
  orElse (lineSnapshotOrDefault line).sku line.sku

def validateSaleSnapshot (line : PosSaleLineCreate) :
    Except AppError (PLift (1 ≤ line.qty ∧ (line.lineType = .epc → isTruthy (selectedEpc line)))) :=
  Checked.require (1 ≤ line.qty) (.validation "qty must be at least 1") fun positive => do
    ensure (line.unitPrice.all (0 ≤ ·)) (.validation "unit_price must be >= 0")
    ensure (line.lineType = .epc → line.qty = 1) (.validation "qty must be 1 for EPC lines")
    Checked.require (line.lineType = .epc → isTruthy (selectedEpc line))
      (.validation "epc is required for EPC lines")
      fun named => do
        ensure (line.lineType = .sku → (lineSnapshotOrDefault line).epc = none)
          (.validation "epc must be empty for SKU lines")
        ensure (line.lineType = .sku → isTruthy (selectedSku line))
          (.validation "sku is required for SKU lines")
        return ⟨positive, named⟩

/-- The snapshot of a tagged row. -/
def epcSnapshot (stock : StockItem) : PosSaleLineSnapshot :=
  { itemUid := some stock.itemUid, sku := stock.sku, description := stock.description,
    var1Value := stock.var1Value, var2Value := stock.var2Value, epc := stock.epc,
    locationCode := stock.locationCode, pool := stock.pool, status := stock.status,
    locationIsVendible := stock.locationIsVendible, image := stock.image }

/-- The snapshot of an untagged row, which stands for any row of its SKU. -/
def skuSnapshot (stock : StockItem) : PosSaleLineSnapshot :=
  { epcSnapshot stock with itemUid := none, epc := none }

/-- The snapshot of goods that the stock does not hold. -/
def fallbackSnapshot (sku : Option String) (snapshot : PosSaleLineSnapshot) : PosSaleLineSnapshot :=
  { sku, description := snapshot.description, var1Value := snapshot.var1Value,
    var2Value := snapshot.var2Value, locationCode := snapshot.locationCode, pool := snapshot.pool,
    status := orElse snapshot.status (some "PENDING") }

def ensurePriceMatches (line : PosSaleLineCreate) (stock : StockItem) : Except AppError Unit :=
  let fallbackPrice := lineFallbackPrice line
  ensure (line.unitPrice.isSome → stock.salePrice.isSome →
    fallbackPrice = authoritativePrice stock fallbackPrice)
    (.conflict "unit_price mismatch")

/-- The rows that an EPC line may be rebuilt from. -/
def epcLineFilters (tenantId storeId : ℕ) (line : PosSaleLineCreate) (row : StockItem) : Bool :=
  saleEpcFilters tenantId storeId (selectedEpc line) row && snapshotPlaceFilters
    (lineSnapshotOrDefault line) row

/-- The rows that a SKU line may be rebuilt from. -/
def skuLineFilters (tenantId storeId : ℕ) (line : PosSaleLineCreate) (row : StockItem) : Bool :=
  saleSkuFilters tenantId storeId (selectedSku line) row && snapshotPlaceFilters
    (lineSnapshotOrDefault line) row

/-- The oldest row of a SKU line, when there are enough of them. -/
def skuLineStock (db : Db) (tenantId storeId : ℕ) (line : PosSaleLineCreate) : Option StockItem :=
  let matching := skuLineFilters tenantId storeId line
  if (db.stock.rows.countP matching : ℤ) < line.qty then none
  else (KeyedRows.oldest (·.createdAt) matching 1 db.stock.rows).head?

private theorem tagged_of_epcLineFilters {tenantId storeId : ℕ} {line : PosSaleLineCreate}
    {row : StockItem} (named : isTruthy (selectedEpc line))
    (matching : epcLineFilters tenantId storeId line row = true) :
    (epcSnapshot row).epc ≠ none := by
  simp only [epcLineFilters, saleEpcFilters, Bool.and_eq_true, decide_eq_true_eq] at matching
  obtain ⟨⟨⟨_, same⟩, _⟩, _⟩ := matching
  intro untagged
  rw [← same, show row.epc = none from untagged] at named
  contradiction

def buildSaleLineFromStock (db : Db) (tenantId storeId : ℕ) (line : PosSaleLineCreate) :
    Except AppError ResolvedSaleLine := do
  let valid ← validateSaleSnapshot line
  let snapshot := lineSnapshotOrDefault line
  let fallbackPrice := lineFallbackPrice line
  match kind : line.lineType with
  | .epc =>
    let stock ← Checked.find db.stock.rows (epcLineFilters tenantId storeId line)
      (.validation "replacement item not available in this store")
    ensurePriceMatches line stock.val
    return { lineType := .epc, qty := 1, unitPrice := authoritativePrice stock.val fallbackPrice
             snapshot := epcSnapshot stock.val, qtyPositive := le_refl 1, qtySingle := fun _ => rfl
             tagged := iff_of_true rfl (tagged_of_epcLineFilters
             (valid.down.2 kind) stock.property) }
  | .sku =>
    let untagged (unitPrice : Price) (snapshot : PosSaleLineSnapshot) (none : snapshot.epc = none) :
        ResolvedSaleLine :=
      { lineType := .sku, qty := line.qty, unitPrice, snapshot, qtyPositive := valid.down.1
        qtySingle := (nomatch ·), tagged := iff_of_false (nomatch ·) fun tagged => tagged none }
    match skuLineStock db tenantId storeId line with
    | some stock =>
      ensurePriceMatches line stock
      return untagged (authoritativePrice stock fallbackPrice) (skuSnapshot stock) rfl
    | none =>
      ensure line.unitPrice.isSome (.validation "replacement item not available in this store")
      return untagged fallbackPrice (fallbackSnapshot (selectedSku line) snapshot) rfl

def resolveSaleLines (db : Db) (tenantId storeId : ℕ) (lines : List PosSaleLineCreate) :
    Except AppError (List ResolvedSaleLine) :=
  lines.mapM (buildSaleLineFromStock db tenantId storeId)

def lineTotal (line : ResolvedSaleLine) : ℚ := Decimals.quantize (line.unitPrice.amount * line.qty)

def totalDue (lines : List ResolvedSaleLine) : ℚ := (lines.map lineTotal).sum

/-! ## Writing a draft -/

/-- No table mentions this sale yet. -/
def Db.freshSaleId (db : Db) : ℕ :=
  freshId (db.sales.map (·.id) ++ db.saleLines.map (·.saleId) ++ db.payments.map (·.saleId) ++
    db.returnEvents.map (·.saleId) ++ db.returnEvents.filterMap (·.exchangeSaleId) ++
    db.advances.filterMap (·.consumedSaleId))

/-- No table mentions this line, or any line above it, yet. -/
def Db.freshSaleLineId (db : Db) : ℕ :=
  freshId (db.saleLines.map (·.id) ++ db.returnEvents.flatMap fun event =>
    event.returnedLines.map (·.lineId) ++ event.quotedLines.map (·.saleLineId))

def newSaleLines (db : Db) (saleId tenantId : ℕ) (lines : List ResolvedSaleLine) :
    List PosSaleLine :=
  lines.mapIdx fun index line =>
    { line.snapshot with
      id := db.freshSaleLineId + index
      saleId, tenantId
      lineType := line.lineType
      qty := line.qty
      qtyPositive := line.qtyPositive
      qtySingle := line.qtySingle
      tagged := line.tagged
      unitPrice := line.unitPrice
      lineTotal := lineTotal line
      pricedTotal := rfl
      sold := { sku := line.snapshot.sku, description := line.snapshot.description,
                var1Value := line.snapshot.var1Value, var2Value := line.snapshot.var2Value,
                salePrice := some line.unitPrice, epcAtSale := line.snapshot.epc } }

structure PosSaleCreateRequest where
  transactionId : Option String
  storeId : Option ℕ
  lines : List PosSaleLineCreate
deriving DecidableEq, Repr

structure PosSaleUpdateRequest where
  transactionId : Option String
  lines : List PosSaleLineCreate
deriving DecidableEq, Repr

def createSale (db : Db) (context : RequestContext) (payload : PosSaleCreateRequest) :
    Except AppError Db := do
  requirePermission context "POS_SALE_MANAGE"
  requireTransactionId payload.transactionId
  let tenantId ← resolvePosTenantId context.tokenData context.tokenData.tenantId
  enforceTenantScope context.tokenData tenantId true
  let storeId ← resolveSaleStoreId context.tokenData payload.storeId
  enforceStoreScope db context.tokenData storeId true
  ensure (payload.lines ≠ []) (.validation "lines must not be empty")
  let resolvedLines ← resolveSaleLines db tenantId storeId payload.lines
  let due := totalDue resolvedLines
  let sale : PosSale := { id := db.freshSaleId, tenantId, storeId, status := .draft,
                          totalDue := due, balanceDue := due }
  return { db with
    sales := db.sales ++ [sale]
    saleLines := db.saleLines ++ newSaleLines db sale.id tenantId resolvedLines }

def getSale (db : Db) (tenantId saleId : ℕ) : Except AppError PosSale := do
  let sale ← fetch (db.sales.find? (·.id = saleId)) ⟨.resourceNotFound, "sale not found"⟩
  ensure (sale.tenantId = tenantId) ⟨.crossTenantAccessDenied, ""⟩
  return sale

def getSaleLines (db : Db) (saleId : ℕ) : List PosSaleLine := db.saleLines.filter fun line =>
    line.saleId = saleId

/-- The tables with one sale changed. -/
def Db.updateSale (db : Db) (saleId : ℕ) (change : PosSale → PosSale) : Db :=
  { db with sales := KeyedRows.update (·.id) [saleId] change db.sales }

def updateSale (db : Db) (context : RequestContext) (saleId : ℕ) (payload : PosSaleUpdateRequest) :
    Except AppError Db := do
  requirePermission context "POS_SALE_MANAGE"
  requireTransactionId payload.transactionId
  let tenantId ← resolvePosTenantId context.tokenData context.tokenData.tenantId
  enforceTenantScope context.tokenData tenantId true
  let sale ← getSale db tenantId saleId
  enforceStoreScope db context.tokenData sale.storeId true
  ensure (sale.status = .draft) (.conflict "sale must be DRAFT to update")
  ensure (payload.lines ≠ []) (.validation "lines must not be empty")
  let resolvedLines ← resolveSaleLines db tenantId sale.storeId payload.lines
  let due := totalDue resolvedLines
  let otherLines := db.saleLines.filter fun line => line.saleId ≠ sale.id
  let replaced :=
    { db with saleLines := otherLines ++ newSaleLines db sale.id tenantId resolvedLines }
  return replaced.updateSale sale.id fun row =>
    { row with totalDue := due, paidTotal := 0, balanceDue := due, changeDue := 0 }

/-! ## Payments -/

structure PosPaymentCreate where
  method : PaymentMethod
  amount : ℚ
  authorizationCode : Option String := none
  bankName : Option String := none
  voucherNumber : Option String := none
  referenceCode : Option String := none
  advanceId : Option ℕ := none
deriving DecidableEq, Repr

/-- The fields that a method needs, for money in either direction. -/
def checkPaymentFields (payment : PosPaymentCreate) : Except AppError Unit := do
  ensure (payment.method = .card → isTruthy payment.authorizationCode)
    (.validation "authorization_code is required for CARD")
  ensure (payment.method = .transfer → isTruthy payment.bankName ∧ isTruthy payment.voucherNumber)
    (.validation "bank_name and voucher_number are required for TRANSFER")

def checkPayment (payment : PosPaymentCreate) : Except AppError Unit := do
  ensure (0 < payment.amount) (.validation "payment amount must be greater than 0")
  checkPaymentFields payment
  ensure (payment.method = .advance → isTruthy payment.referenceCode ∨ payment.advanceId.isSome)
    (.validation "reference_code or advance_id is required for ADVANCE")
  ensure (payment.method = .advance → ¬ isTruthy payment.authorizationCode ∧
    ¬ isTruthy payment.bankName) (.validation "ADVANCE cannot include bank/card fields")

/-- The amounts of the payments that a test selects. -/
def paidBy (selected : PaymentMethod → Bool) (payments : List PosPaymentCreate) : ℚ :=
  Tally.sumWhere (fun payment => selected payment.method) (·.amount) payments

structure PaymentTotals where
  totalDue : ℚ
  paidTotal : ℚ
  balanceDue : ℚ
  changeDue : ℚ
  cashTotal : ℚ
deriving DecidableEq, Repr

def validatePayments (payments : List PosPaymentCreate) (totalDue : ℚ) :
    Except AppError PaymentTotals := do
  ensure (payments ≠ []) (.validation "payments must not be empty for checkout")
  payments.forM checkPayment
  let paidTotal := paidBy (fun _ => true) payments
  let cashTotal := paidBy (· = .cash) payments
  let changeDue := paidTotal - totalDue
  ensure (totalDue ≤ paidTotal) (.validation "paid_total is less than total_due")
  ensure (0 < changeDue → 0 < cashTotal) (.validation "change_due requires CASH component")
  ensure (changeDue ≤ cashTotal) (.validation "change_due exceeds CASH component")
  ensure (paidBy (· ≠ .cash) payments ≤ totalDue) (.validation "non-cash payments exceed total_due")
  ensure (paidBy (· = .advance) payments ≤ totalDue)
    (.validation "advance payments exceed total_due")
  return { totalDue, paidTotal, balanceDue := max (totalDue - paidTotal) 0, changeDue, cashTotal }

/-- The rows that record payments of a sale. -/
def paymentRecords (saleId tenantId : ℕ) (payments : List PosPaymentCreate) : List PosPayment :=
  payments.map fun payment =>
    { saleId, tenantId, method := payment.method, amount := payment.amount
      authorizationCode := payment.authorizationCode, bankName := payment.bankName
      voucherNumber := payment.voucherNumber }

end ArisCloud

import ArisCloud.Model.SaleActions

/-! # Return documents

A return is drafted with a quote of what comes back, and is later voided or completed. Completing it
writes the event that counts the quoted quantities as given back; the quote itself is not computed
again.
-/

namespace ArisCloud

open Checked (ensure fetch)

inductive ReturnResolution
  | refund
  | exchange
deriving DecidableEq, Repr

structure ReturnItem where
  saleLineId : ℕ
  qty : ℤ
  qtyPositive : 1 ≤ qty
  resolution : ReturnResolution := .refund
deriving Repr

instance : DecidableEq ReturnItem := fun first second =>
  decidable_of_iff (first.saleLineId = second.saleLineId ∧ first.qty = second.qty ∧
      first.resolution = second.resolution) (by
    cases first
    cases second
    simp)

structure ReturnQuoteRequest where
  storeId : Option ℕ
  saleId : ℕ
  items : List ReturnItem
  exchangeLines : List PosSaleLineCreate := []
deriving DecidableEq, Repr

structure ReturnSettlementPayment where
  method : PaymentMethod
  amount : ℚ
deriving DecidableEq, Repr

inductive ReturnDocumentAction
  | complete (settlementPayments : List ReturnSettlementPayment)
  | void
deriving DecidableEq, Repr

def returnWindowDays : ℕ := 7

def validateSaleEligibilityForReturn (sale : PosSale) (now : ℕ) : Except AppError Unit := do
  ensure sale.status.isFinalized (.validation "sale is not finalized")
  let checkedOutAt ← fetch sale.checkedOutAt (.validation "sale checkout timestamp is required")
  ensure (now ≤ checkedOutAt + returnWindowDays * secondsPerDay)
    (.conflict "exchange window expired")

def quoteItem (lines : List PosSaleLine) (refunded : ℕ → ℤ) (item : ReturnItem) :
    Except AppError QuotedLine := do
  let line ← fetch (lines.find? (·.id = item.saleLineId)) (.validation "return line not found")
  let returnableQty := max (line.qty - refunded item.saleLineId) 0
  ensure (item.qty ≤ returnableQty) (.conflict "return exceeds returnable_qty")
  return ⟨item.saleLineId, item.qty, line.unitPrice,
    Decimals.quantize (line.unitPrice.amount * item.qty)⟩

/-- A row on sale that can stand for a replacement line. -/
def replacementStock (db : Db) (tenantId storeId : ℕ) (line : PosSaleLineCreate) (qty : ℤ) :
    Except AppError StockItem :=
  let unavailable := AppError.validation "replacement item not available in this store"
  match line.lineType with
  | .epc => fetch (db.stock.rows.find? (saleEpcFilters tenantId storeId line.epc)) unavailable
  | .sku => do
    let matching := saleSkuFilters tenantId storeId line.sku
    let availableCount := db.stock.rows.countP matching
    ensure (qty ≤ availableCount ∨ availableCount ≠ 0) unavailable
    ensure (qty ≤ availableCount) (.validation "quantity exceeds available")
    fetch (db.stock.rows.find? matching) unavailable

/-- The total of one replacement line, at the price of the row that stands for it. -/
def quoteExchangeLine (db : Db) (tenantId storeId : ℕ) (line : PosSaleLineCreate) :
    Except AppError ℚ := do
  let qty := if line.qty = 0 then 1 else line.qty
  let stock ← replacementStock db tenantId storeId line qty
  let unitPrice : Price := stock.salePrice.getD ⟨0⟩
  return Decimals.quantize (unitPrice.amount * qty)

structure ReturnQuote where
  refundTotal : ℚ
  exchangeTotal : ℚ
  netAdjustment : ℚ
  normalizedLines : List QuotedLine
deriving DecidableEq, Repr

/-- The quote of a return; every item is compared on its own with what is left of its line. -/
def quoteFromSale (db : Db) (context : RequestContext) (sale : PosSale) (storeId : ℕ)
    (request : ReturnQuoteRequest) :
    Except AppError ReturnQuote := do
  validateSaleEligibilityForReturn sale context.now
  let normalizedLines ← request.items.mapM
    (quoteItem (getSaleLines db sale.id) (refundedQuantities (getReturnEvents db sale.id)))
  let exchangeTotals ← request.exchangeLines.mapM (quoteExchangeLine db sale.tenantId storeId)
  ensure ((∃ item ∈ request.items, item.resolution = .exchange) → exchangeTotals ≠ [])
    (.validation "exchange_lines required when items include EXCHANGE resolution")
  let refundTotal := (normalizedLines.map (·.lineTotal)).sum
  let exchangeTotal := exchangeTotals.sum
  return { refundTotal, exchangeTotal,
           netAdjustment := Decimals.quantize (exchangeTotal - refundTotal), normalizedLines }

def createDraft (db : Db) (context : RequestContext) (request : ReturnQuoteRequest) :
    Except AppError Db := do
  requirePermission context "POS_SALE_MANAGE"
  let storeId ← resolveSaleStoreId context.tokenData request.storeId
  enforceStoreScope db context.tokenData storeId true
  let sale ← fetch (db.sales.find? (·.id = request.saleId)) ⟨.resourceNotFound, "sale not found"⟩
  ensure (context.tokenData.tenantId = some sale.tenantId) ⟨.crossTenantAccessDenied, ""⟩
  ensure (sale.storeId = storeId) ⟨.storeScopeMismatch, "sale belongs to another store"⟩
  let quote ← quoteFromSale db context sale storeId request
  let event : PosReturnEvent :=
    { id := db.freshReturnEventId, tenantId := sale.tenantId, storeId, saleId := sale.id,
      action := .returnDraft, refundSubtotal := quote.refundTotal, refundTotal := quote.refundTotal,
      exchangeTotal := quote.exchangeTotal, netAdjustment := quote.netAdjustment,
      quotedLines := quote.normalizedLines }
  return { db with returnEvents := db.returnEvents ++ [event] }

/-- The tables with one return event moved to another state. -/
def Db.setReturnAction (db : Db) (eventId : ℕ) (action : ReturnAction) : Db :=
  { db with
    returnEvents :=
      KeyedRows.update (·.id) [eventId] (fun event => { event with action }) db.returnEvents }

/-- The event that a completed return writes: the quoted quantities, as they were quoted. -/
def completionEvent (db : Db) (draft : PosReturnEvent) : PosReturnEvent :=
  { id := db.freshReturnEventId, tenantId := draft.tenantId, storeId := draft.storeId,
    saleId := draft.saleId,
    action := if 0 < draft.exchangeTotal then .exchangeItems else .refundItems
    refundSubtotal := draft.refundSubtotal, restockingFee := draft.restockingFee,
    refundTotal := draft.refundTotal, exchangeTotal := draft.exchangeTotal,
    netAdjustment := draft.netAdjustment,
    returnedLines := draft.quotedLines.map fun line => ⟨line.saleLineId, line.qty⟩
    sourceReturnId := some draft.id }

def applyReturnAction (db : Db) (context : RequestContext) (returnId : ℕ)
    (requestedStoreId : Option ℕ) (action : ReturnDocumentAction) : Except AppError Db := do
  requirePermission context "POS_SALE_MANAGE"
  let storeId ← resolveSaleStoreId context.tokenData requestedStoreId
  enforceStoreScope db context.tokenData storeId true
  let event ← fetch (db.returnEvents.find? (·.id = returnId))
    ⟨.resourceNotFound, "return not found"⟩
  ensure (context.tokenData.tenantId = some event.tenantId) ⟨.crossTenantAccessDenied, ""⟩
  ensure (event.storeId = storeId)
    ⟨.storeScopeMismatch, "return cannot be completed from this store"⟩
  ensure (event.action = .returnDraft)
    (.conflict "Action cannot be executed for current return state")
  match action with
  | .void => return db.setReturnAction event.id .returnVoid
  | .complete settlementPayments =>
    let netAdjustment := Decimals.quantize event.netAdjustment
    ensure (netAdjustment ≠ 0 → settlementPayments ≠ [])
      (.validation
      "settlement_payments are required for COMPLETE when net adjustment requires settlement")
    let settlementTotal := (settlementPayments.map (·.amount)).sum
    ensure (0 < netAdjustment → settlementTotal = netAdjustment)
      (.validation "settlement_payments total must equal net adjustment")
    ensure (netAdjustment < 0 → settlementTotal = |netAdjustment|)
      (.validation "settlement_payments total must equal refund due")
    let completed := db.setReturnAction event.id .returnComplete
    return { completed with returnEvents := completed.returnEvents ++ [completionEvent db event] }

inductive ReturnRequest
  | createDraft (context : RequestContext) (request : ReturnQuoteRequest)
  | action (context : RequestContext) (returnId : ℕ) (requestedStoreId : Option ℕ)
      (action : ReturnDocumentAction)

def returnStep (db : Db) : ReturnRequest → Except AppError Db
  | .createDraft context request => createDraft db context request
  | .action context returnId requestedStoreId action =>
    applyReturnAction db context returnId requestedStoreId action

end ArisCloud

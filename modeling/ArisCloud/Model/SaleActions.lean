import ArisCloud.Model.Advances

/-! # Sale actions

A draft sale is canceled or checked out; a paid one is refunded, or its goods are exchanged for a
new sale. The lines of an action share one stock session, whose queries see the stock as it was
before the request, and the quantities already returned are read once, before the items are checked.
-/

namespace ArisCloud

open Checked (ensure fetch)

/-! ## Requests -/

structure PosReturnItem where
  lineId : ℕ
  qty : ℤ := 1
  condition : String := "NEW"
deriving DecidableEq, Repr

structure CheckoutSaleActionRequest where
  payments : List PosPaymentCreate
  receiptNumber : Option String := none
deriving DecidableEq, Repr

structure RefundItemsSaleActionRequest where
  returnItems : List PosReturnItem
  refundPayments : List PosPaymentCreate
  managerOverride : Bool := false
  receiptNumber : Option String := none
deriving DecidableEq, Repr

structure ExchangeItemsSaleActionRequest where
  returnItems : List PosReturnItem
  exchangeLines : List PosSaleLineCreate
  payments : List PosPaymentCreate := []
  refundPayments : List PosPaymentCreate := []
  managerOverride : Bool := false
  receiptNumber : Option String := none
deriving DecidableEq, Repr

inductive SaleAction
  | checkout (payload : CheckoutSaleActionRequest)
  | cancel
  | refundItems (payload : RefundItemsSaleActionRequest)
  | exchangeItems (payload : ExchangeItemsSaleActionRequest)
deriving DecidableEq, Repr

structure PosSaleActionRequest where
  transactionId : Option String
  action : SaleAction
deriving DecidableEq, Repr

/-! ## Cash of an action -/

/-- The cash session of an action that moves cash. -/
def openSessionFor (db : Db) (context : RequestContext) (sale : PosSale) (cashTotal : ℚ) :
    Except AppError (Option PosCashSession) :=
  if 0 < cashTotal then some <$> requireOpenCashSession db sale.tenantId sale.storeId context.userId
    else return none

/-- Write the net cash of an action, when there is any. -/
def settleCash (db : Db) (context : RequestContext) (session : Option PosCashSession)
    (sale : PosSale) (action : CashAction) (amount : ℚ) : Except AppError Db :=
  match session with
  | some session =>
    if 0 < amount then recordCashMovement db session sale.tenantId sale.storeId sale.id action
      amount context.now
    else return db
  | none => return db

/-! ## Return policy -/

def defaultReturnPolicy : ReturnPolicySettings := { tenantId := 0 }

def getReturnPolicy (db : Db) (tenantId : ℕ) : ReturnPolicySettings :=
  (db.returnPolicies.find? (·.tenantId = tenantId)).getD defaultReturnPolicy

/-- The policy violations of a return, apart from those of its payments. -/
def returnExceptions (policy : ReturnPolicySettings) (sale : PosSale)
    (receiptNumber : Option String) (items : List PosReturnItem) (now : ℕ) : List String :=
  (if policy.requireReceipt ∧ ¬ isTruthy receiptNumber then ["receipt_required"] else []) ++
  (match sale.checkedOutAt with
    | none => ["missing_checkout_time"]
    | some checkedOutAt =>
      if (checkedOutAt : ℤ) + policy.returnWindowDays * secondsPerDay <
        now then ["return_window_expired"] else []) ++
  (if policy.acceptedConditions ≠ [] ∧ ∃ item ∈ items,
      item.condition ∉ policy.acceptedConditions then
    ["condition_not_accepted"] else [])

def refundPaymentExceptions (policy : ReturnPolicySettings) (payments : List PosPaymentCreate) :
    List String :=
  payments.flatMap fun payment => match payment.method with
    | .cash => if policy.allowRefundCash then [] else ["refund_cash_not_allowed"]
    | .card => if policy.allowRefundCard then [] else ["refund_card_not_allowed"]
    | .transfer => if policy.allowRefundTransfer then [] else ["refund_transfer_not_allowed"]
    | .advance => []

def requireManagerOverride (context : RequestContext) (policy : ReturnPolicySettings)
    (exceptions : List String) (managerOverride : Bool) : Except AppError Unit := do
  ensure (exceptions = [] ∨ policy.requireManagerForExceptions)
    (.validation "return policy exception not allowed")
  ensure (exceptions = [] ∨ managerOverride) (.validation "manager override required")
  ensure (exceptions = [] ∨ (context.userRole.getD "").toUpper ∈ ["MANAGER", "ADMIN", "SUPERADMIN",
      "PLATFORM_ADMIN"])
    ⟨.permissionDenied, "manager override requires elevated role"⟩

def checkRefundPayment (payment : PosPaymentCreate) : Except AppError Unit := do
  ensure (0 < payment.amount) (.validation "refund payment amount must be greater than 0")
  checkPaymentFields payment

/-! ## Returned lines -/

def getReturnEvents (db : Db) (saleId : ℕ) : List PosReturnEvent :=
  db.returnEvents.filter (·.saleId = saleId)

/-- The quantity of a line in the payload of one event. -/
def returnedQty (lineId : ℕ) (lines : List ReturnedLine) : ℤ := Tally.sumWhere (·.lineId = lineId)
    (·.qty) lines

/-- The quantity of a line that the events record as given back. -/
def refundedQuantities (events : List PosReturnEvent) (lineId : ℕ) : ℤ :=
  Tally.sumWhere (·.action.isAggregate) (fun event => returnedQty lineId event.returnedLines) events

/-- An accepted item: the line it names and how much of it comes back. -/
structure AcceptedReturn where
  line : PosSaleLine
  qty : ℤ
deriving DecidableEq, Repr

def AcceptedReturn.lineSubtotal (item : AcceptedReturn) : ℚ :=
  Decimals.quantize (item.line.unitPrice.amount * item.qty)

/-- The entry of the item in the payload of the event. -/
def AcceptedReturn.entry (item : AcceptedReturn) : ReturnedLine := ⟨item.line.id, item.qty⟩

def acceptReturnItem (lines : List PosSaleLine) (refunded : ℕ → ℤ) (item : PosReturnItem) :
    Except AppError AcceptedReturn := do
  let line ← fetch (lines.find? (·.id = item.lineId)) (.validation "return line not found")
  ensure (1 ≤ item.qty) (.validation "qty must be at least 1")
  ensure (item.qty ≤ line.qty - refunded item.lineId)
    (.validation "refund qty exceeds refundable balance")
  ensure (line.lineType = .epc → item.qty = 1) (.validation "EPC lines can only refund qty 1")
  return ⟨line, item.qty⟩

/-- The items of a request, all compared with the quantities recorded before it. -/
def acceptReturnItems (db : Db) (saleId : ℕ) (items : List PosReturnItem) :
    Except AppError (List AcceptedReturn) :=
  items.mapM (acceptReturnItem (getSaleLines db saleId)
    (refundedQuantities (getReturnEvents db saleId)))

structure RefundTotals where
  subtotal : ℚ
  restockingFee : ℚ
  total : ℚ
deriving DecidableEq, Repr

def refundTotals (subtotal restockingFeePct : ℚ) : RefundTotals :=
  let restockingFee := Decimals.quantize (subtotal * restockingFeePct / 100)
  { subtotal, restockingFee, total := Decimals.quantize (subtotal - restockingFee) }

def returnTotals (policy : ReturnPolicySettings) (items : List AcceptedReturn) : RefundTotals :=
  refundTotals (items.map (·.lineSubtotal)).sum policy.restockingFeePct

/-- No table mentions this event yet. -/
def Db.freshReturnEventId (db : Db) : ℕ :=
  freshId (db.returnEvents.map (·.id) ++ db.returnEvents.filterMap (·.sourceReturnId))

/-- The event that an action writes about the items it took back. -/
def returnEvent (db : Db) (sale : PosSale) (action : ReturnAction) (items : List AcceptedReturn)
    (totals : RefundTotals) (exchangeSaleId : Option ℕ) (exchangeTotal netAdjustment : ℚ) :
    PosReturnEvent :=
  { id := db.freshReturnEventId, tenantId := sale.tenantId, storeId := sale.storeId,
    saleId := sale.id, exchangeSaleId, action, refundSubtotal := totals.subtotal,
    restockingFee := totals.restockingFee, refundTotal := totals.total
    exchangeTotal, netAdjustment, returnedLines := items.map (·.entry) }

/-! ## Goods that come back -/

/-- The sold rows at the place that a line names. -/
def soldStockFilters (sale : PosSale) (line : PosSaleLine) (row : StockItem) : Bool :=
  row.tenantId = sale.tenantId && row.storeId = some sale.storeId && row.status = some "SOLD" &&
    row.locationCode = line.locationCode && row.pool = line.pool &&
    match line.lineType with
    | .epc => row.epc = line.epc
    | .sku => row.sku = line.sku

/-- A row whose goods came back. -/
def putBack (status : String) (vendible : Bool) (row : StockItem) : StockItem :=
  { row with status := some status, locationIsVendible := vendible }

/-- A row whose tag cannot be used again. -/
def putBackUntagged (row : StockItem) : StockItem := { putBack "PENDING" true row with epc := none }

/-- The unit that replaces one whose tag cannot be used again. -/
def relabeledItem (context : RequestContext) (sale : PosSale) (line : PosSaleLine)
    (session : StockSession) : StockItem :=
  { sku := line.sku, description := line.description, var1Value := line.var1Value,
    var2Value := line.var2Value,
    epc := if isTruthy line.epc then some ("NEW-EPC-" ++ context.uuid session.added.length) else none
    locationCode := line.locationCode, pool := line.pool, status := some "RFID", image := line.image
    id := freshId (session.flushed.rows.map (·.id)) + session.added.length
    itemUid := freshId (session.flushed.rows.map (·.itemUid)) + session.added.length
    tenantId := sale.tenantId, storeId := some sale.storeId, createdAt := context.now }

/-- Put the goods of one item back; `occasion` is the word of the caller's error messages. -/
def restockReturn (occasion : String) (context : RequestContext) (policy : ReturnPolicySettings)
    (sale : PosSale) (session : StockSession) (item : AcceptedReturn) :
    Except AppError StockSession :=
  let line := item.line
  let nonReusable := (line.status.getD "").toUpper = "NON_REUSABLE_LABEL"
  match line.lineType with
  | .epc => do
    let stockRow ← fetch (session.first (soldStockFilters sale line))
      (.validation ("sold stock not found for EPC " ++ occasion))
    if nonReusable ∧ policy.nonReusableLabelStrategy = "ASSIGN_NEW_EPC" then
      return (session.assign [stockRow.id] (putBack "PENDING" false)).add
        (relabeledItem context sale line session)
    else if nonReusable ∧ policy.nonReusableLabelStrategy = "TO_PENDING" then
      return session.assign [stockRow.id] putBackUntagged
    else return session.assign [stockRow.id] (putBack "RFID" true)
  | .sku => do
    let stockRows := session.select (soldStockFilters sale line) item.qty.toNat
    ensure (item.qty ≤ stockRows.length) (.validation ("sold stock not found for SKU " ++ occasion))
    return session.assign (stockRows.map (·.id)) (putBack "PENDING" true)

/-! ## Goods that are sold -/

/-- The unsold rows at the place of a snapshot, by tag or, untagged, by SKU. -/
def unsoldStockFilters (sale : PosSale) (lineType : LineType) (snapshot : PosSaleLineSnapshot)
    (row : StockItem) : Bool :=
  row.tenantId = sale.tenantId && row.storeId = some sale.storeId && notSold row &&
    row.locationCode = snapshot.locationCode && row.pool = snapshot.pool &&
    match lineType with
    | .epc => row.epc = snapshot.epc
    | .sku => row.sku = snapshot.sku && row.epc = none

def sellRow (row : StockItem) : StockItem :=
  { row with status := some "SOLD", itemStatus := "SOLD", locationIsVendible := false }

def sellTaggedRow (row : StockItem) : StockItem := { sellRow row with epcStatus := "AVAILABLE" }

/-- A checkout also takes the tag off the unit. -/
def sellAndUntagRow (row : StockItem) : StockItem :=
  { sellTaggedRow row with epc := if isTruthy row.epc then none else row.epc }

/-- Release the active assignment of a tag that leaves with its unit. -/
def releaseAssignment (db : Db) (assignments : List EpcAssignment) (tenantId : ℕ)
    (row : StockItem) : List EpcAssignment :=
  let active := if isTruthy row.epc then db.epcAssignments.find? fun assignment =>
      assignment.tenantId = tenantId && assignment.itemUid = row.itemUid && some assignment.epc =
        row.epc && assignment.active
    else none
  KeyedRows.update (·.id) (active.map (·.id)).toList (fun assignment =>
    { assignment with active := false, lastReleaseReason := some "SOLD", status := "RELEASED" })
      assignments

/-- The stock and the tags during an action, and what the lines remember of them. -/
structure SaleBatch where
  session : StockSession
  assignments : List EpcAssignment
  saleLines : List PosSaleLine

def SaleBatch.start (db : Db) : SaleBatch :=
  { session := { flushed := db.stock }, assignments := db.epcAssignments,
    saleLines := db.saleLines }

def exchangeLine (db : Db) (sale : PosSale) (batch : SaleBatch) (line : ResolvedSaleLine) :
    Except AppError SaleBatch :=
  match line.lineType with
  | .epc => do
    let stockRow ← fetch (batch.session.first (unsoldStockFilters sale .epc line.snapshot))
      (.validation "insufficient RFID stock for exchange EPC line")
    return { batch with
      session := batch.session.assign [stockRow.id] sellTaggedRow
      assignments := releaseAssignment db batch.assignments sale.tenantId stockRow }
  | .sku => do
    let stockRows :=
      batch.session.select (unsoldStockFilters sale .sku line.snapshot) line.qty.toNat
    ensure (line.qty ≤ stockRows.length) (.validation "insufficient stock for exchange SKU line")
    return { batch with session := batch.session.assign (stockRows.map (·.id)) sellRow }

/-- What a tagged line remembers of the unit it sold; columns already filled stay. -/
def rememberUnit (stockRow : StockItem) (line : PosSaleLine) : PosSaleLine :=
  { line with
    itemUid := line.itemUid.or (some stockRow.itemUid)
    sold := {
      sku := orElse line.sold.sku stockRow.sku
      description := orElse line.sold.description stockRow.description
      var1Value := orElse line.sold.var1Value stockRow.var1Value
      var2Value := orElse line.sold.var2Value stockRow.var2Value
      salePrice := line.sold.salePrice.or stockRow.salePrice
      costPrice := line.sold.costPrice.or stockRow.costPrice
      epcAtSale := orElse line.sold.epcAtSale (orElse stockRow.epc line.epc) } }

/-- The mean cost of the rows whose cost is known. -/
def meanCost (stockRows : List StockItem) : Option Price :=
  match stockRows.filterMap (·.costPrice) with
  | [] => none
  | costs => some (Price.round ((costs.map (·.amount)).sum / costs.length))

def rememberCost (stockRows : List StockItem) (line : PosSaleLine) : PosSaleLine :=
  { line with sold := { line.sold with costPrice := line.sold.costPrice.or (meanCost stockRows) } }

def checkoutLine (db : Db) (sale : PosSale) (batch : SaleBatch) (line : PosSaleLine) :
    Except AppError SaleBatch :=
  match line.lineType with
  | .epc => do
    let stockRow ← fetch
      (batch.session.first (unsoldStockFilters sale .epc line.toPosSaleLineSnapshot))
      (.validation "insufficient RFID stock for EPC line")
    return {
      session := batch.session.assign [stockRow.id] sellAndUntagRow
      assignments := releaseAssignment db batch.assignments sale.tenantId stockRow
      saleLines := KeyedRows.update (·.id) [line.id] (rememberUnit stockRow) batch.saleLines }
  | .sku => do
    let stockRows := batch.session.select (unsoldStockFilters sale .sku line.toPosSaleLineSnapshot)
      line.qty.toNat
    ensure (line.qty ≤ stockRows.length) (.validation "insufficient stock for SKU line")
    return { batch with
      session := batch.session.assign (stockRows.map (·.id)) sellRow
      saleLines := KeyedRows.update (·.id) [line.id] (rememberCost stockRows) batch.saleLines }

/-! ## The actions -/

def cancelSale (db : Db) (sale : PosSale) : Except AppError Db := do
  ensure (sale.status = .draft) (.validation "sale must be DRAFT to cancel")
  return db.updateSale sale.id fun row => { row with status := .canceled }

def refundItems (db : Db) (context : RequestContext) (sale : PosSale)
    (payload : RefundItemsSaleActionRequest) :
    Except AppError Db := do
  requirePermission context "POS_SALE_REFUND"
  ensure (sale.status = .paid) (.validation "sale must be PAID to refund")
  ensure (payload.returnItems ≠ []) (.validation "return_items must not be empty")
  let policy := getReturnPolicy db sale.tenantId
  let exceptions := returnExceptions policy sale payload.receiptNumber payload.returnItems
    context.now
  ensure (payload.refundPayments ≠ []) (.validation "refund_payments must not be empty")
  payload.refundPayments.forM checkRefundPayment
  requireManagerOverride context policy
    (exceptions ++ refundPaymentExceptions policy payload.refundPayments)
    payload.managerOverride
  let items ← acceptReturnItems db sale.id payload.returnItems
  let totals := returnTotals policy items
  ensure (paidBy (fun _ => true) payload.refundPayments = totals.total)
    (.validation "refund payments must equal refund total")
  let cashTotal := paidBy (· = .cash) payload.refundPayments
  let cashSession ← openSessionFor db context sale cashTotal
  let session ← items.foldlM (restockReturn "refund" context policy sale) { flushed := db.stock }
  let event := returnEvent db sale .refundItems items totals none 0 (-totals.total)
  let settled ← settleCash { db with returnEvents := db.returnEvents ++ [event] } context
    cashSession sale .cashOutRefund cashTotal
  let stock ← session.commit
  return { settled with stock }

/-- The cash that an exchange takes in or pays out, and the part of it that stays in the drawer. -/
def settleExchange (context : RequestContext) (policy : ReturnPolicySettings)
    (exceptions : List String) (payload : ExchangeItemsSaleActionRequest) (delta : ℚ) :
    Except AppError (ℚ × ℚ) := do
  if 0 < delta then
    ensure (payload.payments ≠ []) (.validation "payments required for exchange collection")
    ensure (payload.refundPayments = [])
      (.validation "refund_payments are not allowed when exchange delta is positive")
    let totals ← validatePayments payload.payments delta
    return (totals.cashTotal, max 0 (totals.cashTotal - totals.changeDue))
  else if delta < 0 then
    ensure (payload.payments = [])
      (.validation "payments are not allowed when exchange delta is negative")
    ensure (payload.refundPayments ≠ [])
      (.validation "refund_payments required for exchange refund")
    payload.refundPayments.forM checkRefundPayment
    requireManagerOverride context policy
      (exceptions ++ refundPaymentExceptions policy payload.refundPayments)
      payload.managerOverride
    ensure (paidBy (fun _ => true) payload.refundPayments = |delta|)
      (.validation "refund payments must equal exchange refund total")
    let cashTotal := paidBy (· = .cash) payload.refundPayments
    return (cashTotal, cashTotal)
  else
    ensure (payload.payments = [] ∧ payload.refundPayments = [])
      (.validation "payments and refund_payments must be empty when exchange delta is zero")
    return (0, 0)

def exchangeItems (db : Db) (context : RequestContext) (sale : PosSale)
    (payload : ExchangeItemsSaleActionRequest) :
    Except AppError Db := do
  requirePermission context "POS_SALE_EXCHANGE"
  ensure sale.status.isFinalized (.validation "sale must be finalized to exchange")
  ensure (payload.returnItems ≠ []) (.validation "return_items must not be empty")
  ensure (payload.exchangeLines ≠ []) (.validation "exchange_lines must not be empty")
  let resolvedLines ← resolveSaleLines db sale.tenantId sale.storeId payload.exchangeLines
  let policy := getReturnPolicy db sale.tenantId
  let exceptions := (if policy.allowExchange then [] else ["exchange_not_allowed"]) ++
    returnExceptions policy sale payload.receiptNumber payload.returnItems context.now
  requireManagerOverride context policy exceptions payload.managerOverride
  let items ← acceptReturnItems db sale.id payload.returnItems
  let totals := returnTotals policy items
  let exchangeTotal := totalDue resolvedLines
  let delta := Decimals.quantize (exchangeTotal - totals.total)
  let (cashTotal, cashMoved) ← settleExchange context policy exceptions payload delta
  let cashSession ← openSessionFor db context sale cashTotal
  let exchangeSale : PosSale :=
    { id := db.freshSaleId, tenantId := sale.tenantId, storeId := sale.storeId, status := .paid
      totalDue := exchangeTotal, paidTotal := exchangeTotal, checkedOutAt := some context.now }
  let batch ← resolvedLines.foldlM (exchangeLine db sale) (SaleBatch.start db)
  let session ← items.foldlM (restockReturn "return" context policy sale) batch.session
  let event := returnEvent db sale .exchangeItems items totals
    (some exchangeSale.id) exchangeTotal delta
  let written := { db with
    epcAssignments := batch.assignments
    sales := db.sales ++ [exchangeSale]
    saleLines := db.saleLines ++ newSaleLines db exchangeSale.id sale.tenantId resolvedLines
    payments := db.payments ++ paymentRecords exchangeSale.id sale.tenantId payload.payments
    returnEvents := db.returnEvents ++ [event] }
  let settled ← settleCash written context cashSession sale (if delta < 0 then .cashOutRefund
    else .sale) cashMoved
  let stock ← session.commit
  return { settled with stock }

def checkoutSale (db : Db) (context : RequestContext) (sale : PosSale)
    (payload : CheckoutSaleActionRequest) :
    Except AppError Db := do
  ensure (sale.status = .draft) (.conflict "sale must be DRAFT to checkout")
  let lines := getSaleLines db sale.id
  ensure (lines ≠ []) (.validation "sale has no lines")
  let totals ← validatePayments payload.payments (lines.map (·.lineTotal)).sum
  let advance ← resolveAdvancePayment db context sale totals.totalDue payload.payments
  let cashSession ← openSessionFor db context sale totals.cashTotal
  let batch ← lines.foldlM (checkoutLine db sale) (SaleBatch.start db)
  let paid := { db with
    epcAssignments := batch.assignments
    saleLines := batch.saleLines
    payments := db.payments ++ paymentRecords sale.id sale.tenantId payload.payments }.updateSale
        sale.id fun row =>
      { row with
        status := .paid
        totalDue := totals.totalDue
        paidTotal := totals.paidTotal
        balanceDue := totals.balanceDue
        changeDue := totals.changeDue
        checkedOutAt := some context.now
        receiptNumber := orElse payload.receiptNumber row.receiptNumber }
  let consumed := match advance with
    | some advance => paid.consumeAdvance advance (some sale.id) context.now
    | none => paid
  let settled ← settleCash consumed context cashSession sale .sale
    (max 0 (totals.cashTotal - totals.changeDue))
  let stock ← batch.session.commit
  return { settled with stock }

/-- The sale that an action names, which has to belong to the store of the caller. -/
def saleInScope (db : Db) (context : RequestContext) (saleId : ℕ) : Except AppError PosSale := do
  let tenantId ← resolvePosTenantId context.tokenData context.tokenData.tenantId
  enforceTenantScope context.tokenData tenantId true
  let sale ← getSale db tenantId saleId
  let storeId ← resolveSaleStoreId context.tokenData none
  enforceStoreScope db context.tokenData storeId true
  ensure (sale.storeId = storeId) ⟨.storeScopeMismatch, "sale belongs to another store"⟩
  return sale

def saleAction (db : Db) (context : RequestContext) (saleId : ℕ) (payload : PosSaleActionRequest) :
    Except AppError Db := do
  requirePermission context "POS_SALE_MANAGE"
  requireTransactionId payload.transactionId
  let sale ← saleInScope db context saleId
  match payload.action with
  | .cancel => cancelSale db sale
  | .refundItems payload => refundItems db context sale payload
  | .exchangeItems payload => exchangeItems db context sale payload
  | .checkout payload => checkoutSale db context sale payload

inductive SaleRequest
  | create (context : RequestContext) (payload : PosSaleCreateRequest)
  | update (context : RequestContext) (saleId : ℕ) (payload : PosSaleUpdateRequest)
  | action (context : RequestContext) (saleId : ℕ) (payload : PosSaleActionRequest)

def saleStep (db : Db) : SaleRequest → Except AppError Db
  | .create context payload => createSale db context payload
  | .update context saleId payload => updateSale db context saleId payload
  | .action context saleId payload => saleAction db context saleId payload

end ArisCloud

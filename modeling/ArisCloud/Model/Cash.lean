import ArisCloud.Library.Floating
import ArisCloud.Library.KeyedRows
import ArisCloud.Library.Tally
import ArisCloud.Model.Scope

/-! # Cash sessions

A cashier opens a session with an amount, moves cash in and out of it, and closes it. Sales,
refunds, advances and cash cuts also move its cash. Every movement records the balance before and
after it, and the session keeps the last balance. A day close locks the business date of a store.
-/

namespace ArisCloud

open Checked (ensure fetch)

/-! ## Movements -/

/-- A movement of a session, for the tenant and store of the request that writes it. -/
def sessionMovement (session : PosCashSession) (tenantId storeId : ℕ) (saleId : Option ℕ)
    (action : CashAction) (amount expectedBefore expectedAfter : ℚ) (now : ℕ) : PosCashMovement :=
  { tenantId, storeId, cashSessionId := some session.id, cashierUserId := session.cashierUserId
    businessDate := session.businessDate, saleId, action, amount,
    expectedBalanceBefore := some expectedBefore, expectedBalanceAfter := some expectedAfter,
    occurredAt := now }

def Db.addCashMovement (db : Db) (movement : PosCashMovement) : Db :=
  { db with cashMovements := db.cashMovements ++ [movement] }

def Db.updateCashSession (db : Db) (sessionId : ℕ) (change : PosCashSession → PosCashSession) :
    Db :=
  { db with cashSessions := KeyedRows.update (·.id) [sessionId] change db.cashSessions }

/-- The tables with a new balance of one session. -/
def Db.setExpectedCash (db : Db) (sessionId : ℕ) (expectedCash : ℚ) : Db :=
  db.updateCashSession sessionId fun row => { row with expectedCash }

def isDayClosed (db : Db) (tenantId storeId businessDate : ℕ) : Prop :=
  ∃ dayClose ∈ db.dayCloses, dayClose.tenantId = tenantId ∧ dayClose.storeId = storeId ∧
    dayClose.businessDate = businessDate

instance (db : Db) (tenantId storeId businessDate : ℕ) :
    Decidable (isDayClosed db tenantId storeId businessDate) :=
  inferInstanceAs (Decidable (∃ dayClose ∈ db.dayCloses, _))

def ensureNotClosed (db : Db) (tenantId storeId businessDate : ℕ) : Except AppError Unit :=
  ensure (¬ isDayClosed db tenantId storeId businessDate)
    (.validation "day close already finalized for business_date")

def ensurePositiveAmount (value : Option ℚ) (field : String) : Except AppError ℚ := do
  let amount ← fetch value (.validation (field ++ " is required"))
  ensure (0 < amount) (.validation (field ++ " must be greater than 0"))
  return amount

def ensureNonNegativeBalance (nextBalance : ℚ) : Except AppError Unit :=
  ensure (0 ≤ nextBalance) (.validation "cash_out would result in negative expected balance")

/-- The movement that sales, refunds and advances write. -/
def recordCashMovement (db : Db) (session : PosCashSession) (tenantId storeId saleId : ℕ)
    (action : CashAction) (amount : ℚ) (now : ℕ) : Except AppError Db := do
  ensure (0 < amount) (.validation "cash movement amount must be greater than 0")
  ensure (¬ isDayClosed db tenantId storeId session.businessDate)
    (.validation "cash movements are locked after day close")
  let expectedBefore := session.expectedCash
  let expectedAfter := if action = .sale ∨ action = .cashIn then expectedBefore + amount
    else expectedBefore - amount
  ensureNonNegativeBalance expectedAfter
  return (db.setExpectedCash session.id expectedAfter).addCashMovement
    (sessionMovement session tenantId storeId (some saleId) action amount expectedBefore
    expectedAfter now)

/-- The open session of the cashier, or else the only open session of the store. -/
def requireOpenCashSession (db : Db) (tenantId storeId cashierUserId : ℕ) :
    Except AppError PosCashSession :=
  let openSessions := db.cashSessions.filter fun session =>
    session.tenantId = tenantId && session.storeId = storeId && session.status = .opened
  let fallback : Option PosCashSession := match openSessions with
    | [only] => some only
    | _ => none
  fetch ((openSessions.find? (·.cashierUserId = cashierUserId)).or fallback)
    (.conflict "open cash session required for CASH payments")

/-! ## Session actions -/

inductive CashSessionAction
  | opening (openingAmount : ℚ) (businessDate : ℕ) (timezone : String)
  | cashIn (amount : ℚ)
  | cashOut (amount : ℚ)
  | close (countedCash : ℚ)
deriving DecidableEq, Repr

structure PosCashSessionActionRequest where
  transactionId : Option String
  tenantId : Option ℕ := none
  storeId : Option ℕ := none
  action : CashSessionAction
deriving DecidableEq, Repr

/-- Sessions opened later come first. -/
def openedLater (session other : PosCashSession) : Prop :=
  other.openedAt < session.openedAt ∨
    (other.openedAt = session.openedAt ∧ other.createdAt ≤ session.createdAt)

instance : DecidableRel openedLater := fun session other =>
  inferInstanceAs (Decidable (other.openedAt < session.openedAt ∨ _))

/-- The cashier's open session of a business date that is not closed yet. -/
def openSessionQuery (db : Db) (tenantId storeId cashierUserId : ℕ) : Option PosCashSession :=
  ((db.cashSessions.filter fun session =>
    session.tenantId = tenantId && session.storeId = storeId && session.cashierUserId =
      cashierUserId && session.status = .opened && session.closedAt = none &&
      !decide (isDayClosed db session.tenantId session.storeId session.businessDate)).insertionSort
      openedLater).head?

/-- No table mentions this session yet. -/
def Db.freshCashSessionId (db : Db) : ℕ :=
  freshId (db.cashSessions.map (·.id) ++ db.cashMovements.filterMap (·.cashSessionId) ++
    db.cashCuts.map (·.cashSessionId))

def openCashSession (db : Db) (context : RequestContext) (tenantId storeId : ℕ) (openingAmount : ℚ)
    (businessDate : ℕ) (timezone : String) : Except AppError Db := do
  let openingAmount ← ensurePositiveAmount (some openingAmount) "opening_amount"
  ensure (timezone ≠ "") (.validation "business_date and timezone are required")
  ensureNotClosed db tenantId storeId businessDate
  ensure (openSessionQuery db tenantId storeId context.userId = none)
    (.conflict "open cash session already exists")
  let session : PosCashSession :=
    { id := db.freshCashSessionId, tenantId, storeId, cashierUserId := context.userId, businessDate,
      openingAmount, expectedCash := openingAmount, openedAt := context.now,
      createdAt := context.now }
  return { db with cashSessions := db.cashSessions ++ [session] }.addCashMovement
    (sessionMovement session tenantId storeId none .opening openingAmount 0 openingAmount
    context.now)

def cashSessionAction (db : Db) (context : RequestContext) (payload : PosCashSessionActionRequest) :
    Except AppError Db := do
  requirePermission context "POS_CASH_MANAGE"
  requireTransactionId payload.transactionId
  let tenantId ← resolvePosTenantId context.tokenData payload.tenantId
  enforceTenantScope context.tokenData tenantId true
  let storeId ← resolveCashStoreId context.tokenData payload.storeId
  enforceStoreScope db context.tokenData storeId true
  let required : Except AppError PosCashSession := do
    let session ← fetch (openSessionQuery db tenantId storeId context.userId)
      (.conflict "open cash session required")
    ensureNotClosed db tenantId storeId session.businessDate
    return session
  match payload.action with
  | .opening openingAmount businessDate timezone =>
    openCashSession db context tenantId storeId openingAmount businessDate timezone
  | .cashIn amount =>
    let session ← required
    let amount ← ensurePositiveAmount (some amount) "amount"
    let expectedAfter := session.expectedCash + amount
    return (db.setExpectedCash session.id expectedAfter).addCashMovement
      (sessionMovement session tenantId storeId none .cashIn amount session.expectedCash
      expectedAfter context.now)
  | .cashOut amount =>
    let session ← required
    let amount ← ensurePositiveAmount (some amount) "amount"
    let expectedAfter := session.expectedCash - amount
    ensureNonNegativeBalance expectedAfter
    return (db.setExpectedCash session.id expectedAfter).addCashMovement
      (sessionMovement session tenantId storeId none .cashOut amount session.expectedCash
      expectedAfter context.now)
  | .close countedCash =>
    let session ← required
    let closed := db.updateCashSession session.id fun row =>
      { row with
        countedCash := some countedCash
        difference := some (countedCash - session.expectedCash)
        status := .closed
        closedAt := some context.now }
    return closed.addCashMovement
      (sessionMovement session tenantId storeId none .close 0 session.expectedCash
      session.expectedCash context.now)

/-! ## Cuts -/

structure PosCashCutCreateRequest where
  transactionId : Option String
  tenantId : Option ℕ := none
  storeId : Option ℕ := none
  cashSessionId : Option ℕ := none
  useLastCutWindow : Bool := true
  fromAt : Option ℕ := none
  toAt : Option ℕ := none
  cutType : CashCutType := .partialCut
  countedCash : Option ℚ := none
  depositRemovedAmount : Option ℚ := none
  autoApplyCashOut : Bool := false
deriving DecidableEq, Repr

def resolveActiveSession (db : Db) (tenantId storeId cashierUserId : ℕ) (cashSessionId : Option ℕ) :
    Option PosCashSession :=
  match cashSessionId with
  | none => openSessionQuery db tenantId storeId cashierUserId
  | some cashSessionId => db.cashSessions.find? fun session =>
    session.id = cashSessionId && session.tenantId = tenantId && session.storeId = storeId &&
      session.cashierUserId = cashierUserId && session.status = .opened && session.closedAt = none

def lastCut (db : Db) (sessionId : ℕ) : Option PosCashCut :=
  ((db.cashCuts.filter (·.cashSessionId = sessionId)).insertionSort fun a b =>
    b.cutNumber ≤ a.cutNumber).head?

/-- The start and the end of the window of a cut. -/
def resolveCutWindow (db : Db) (session : PosCashSession) (payload : PosCashCutCreateRequest)
    (now : ℕ) : ℕ × ℕ :=
  let previous := if payload.useLastCutWindow then (lastCut db session.id).map (·.toAt) else none
  (payload.fromAt.getD (previous.getD session.openedAt), payload.toAt.getD now)

/-- A movement of one action in a session, over a window of time. -/
def isSessionMovement (tenantId storeId sessionId : ℕ) (during : ℕ → Bool) (action : CashAction)
    (movement : PosCashMovement) : Bool :=
  movement.tenantId = tenantId && movement.storeId = storeId && movement.cashSessionId =
    some sessionId && during movement.occurredAt && movement.action = action

def sessionTotal (db : Db) (tenantId storeId sessionId : ℕ) (during : ℕ → Bool)
    (action : CashAction) : ℚ :=
  Tally.sumWhere (isSessionMovement tenantId storeId sessionId during action)
    (·.amount) db.cashMovements

def salePayments (db : Db) (saleId : ℕ) : List PosPayment := db.payments.filter (·.saleId = saleId)

def paymentTotal (method : PaymentMethod) (payments : List PosPayment) : ℚ :=
  Tally.sumWhere (·.method = method) (·.amount) payments

/-- Both ends of the window of a cut belong to it. -/
def withinCut (fromAt toAt at_ : ℕ) : Bool := fromAt ≤ at_ && at_ ≤ toAt

/-- The sales that a quote finds: the join with the payments leaves out a sale without any. -/
def quotedSales (db : Db) (tenantId storeId fromAt toAt : ℕ) : List PosSale :=
  db.sales.filter fun sale => sale.tenantId = tenantId && sale.storeId = storeId &&
    sale.status = .paid && sale.checkedOutAt.any (withinCut fromAt toAt) &&
    !(salePayments db sale.id).isEmpty

def calculateCutQuote (db : Db) (tenantId storeId : ℕ) (session : PosCashSession)
    (fromAt toAt : ℕ) :
    Except AppError CashCutTotals := do
  ensure (fromAt < toAt) (.validation "to_at must be greater than from_at")
  let prior := sessionTotal db tenantId storeId session.id fun at_ => session.openedAt ≤ at_ &&
    at_ < fromAt
  let within := sessionTotal db tenantId storeId session.id (withinCut fromAt toAt)
  let paidSales := quotedSales db tenantId storeId fromAt toAt
  let mixedSales := paidSales.filter fun sale => 1 < (salePayments db sale.id).length
  let collected (method : PaymentMethod) (sales : List PosSale) : ℚ :=
    (sales.map fun sale => paymentTotal method (salePayments db sale.id)).sum
  let openingAmountSnapshot := session.openingAmount + prior .cashIn - prior .cashOut +
    prior .sale - prior .cashOutRefund
  return {
    openingAmountSnapshot
    cashSalesTotal := collected .cash paidSales
    cardSalesTotal := collected .card paidSales
    transferSalesTotal := collected .transfer paidSales
    mixedCashComponentTotal := collected .cash mixedSales
    mixedCardComponentTotal := collected .card mixedSales
    mixedTransferComponentTotal := collected .transfer mixedSales
    cashInTotal := within .cashIn
    cashOutTotal := within .cashOut
    cashRefundsTotal := within .cashOutRefund
    expectedCash := openingAmountSnapshot + collected .cash paidSales +
      within .cashIn - within .cashOut - within .cashOutRefund }

/-- Take cash out of a session for a cut. -/
def removeDeposit (db : Db) (session : PosCashSession) (tenantId storeId : ℕ) (amount : ℚ)
    (now : ℕ) :
    Except AppError Db := do
  let expectedAfter := session.expectedCash - amount
  ensureNonNegativeBalance expectedAfter
  return (db.setExpectedCash session.id expectedAfter).addCashMovement
    (sessionMovement session tenantId storeId none .cashOut amount session.expectedCash
    expectedAfter now)

def createCashCut (db : Db) (context : RequestContext) (payload : PosCashCutCreateRequest) :
    Except AppError Db := do
  requirePermission context "POS_CASH_MANAGE"
  requireTransactionId payload.transactionId
  let tenantId ← resolvePosTenantId context.tokenData payload.tenantId
  enforceTenantScope context.tokenData tenantId true
  let storeId ← resolveCashStoreId context.tokenData payload.storeId
  enforceStoreScope db context.tokenData storeId true
  let session ← fetch
    (resolveActiveSession db tenantId storeId context.userId payload.cashSessionId)
    (.conflict "open cash session required")
  ensureNotClosed db tenantId storeId session.businessDate
  let (fromAt, toAt) := resolveCutWindow db session payload context.now
  let totals ← calculateCutQuote db tenantId storeId session fromAt toAt
  let cut : PosCashCut :=
    { id := freshId (db.cashCuts.map (·.id)), tenantId, storeId, cashSessionId := session.id
      cutNumber :=
      ((db.cashCuts.filter (·.cashSessionId = session.id)).map (·.cutNumber)).foldr max 0 + 1
      cutType := payload.cutType, fromAt, toAt, totals, countedCash := payload.countedCash
      difference := payload.countedCash.map fun counted => counted - totals.expectedCash
      depositRemovedAmount := payload.depositRemovedAmount
      status := if payload.countedCash.isSome then .completed else .opened
      completedAt := payload.countedCash.map fun _ => context.now }
  let written := { db with cashCuts := db.cashCuts ++ [cut] }
  let depositRemoved := payload.depositRemovedAmount.getD 0
  if payload.autoApplyCashOut ∧ 0 < depositRemoved then
    removeDeposit written session tenantId storeId depositRemoved context.now
  else return written

inductive CashCutAction
  | complete (countedCash : Option ℚ)
  | void
  | printMark
  | applyCashOut (amount : Option ℚ)
deriving DecidableEq, Repr

structure PosCashCutActionRequest where
  transactionId : Option String
  tenantId : Option ℕ := none
  storeId : Option ℕ := none
  action : CashCutAction
deriving DecidableEq, Repr

def Db.updateCashCut (db : Db) (cutId : ℕ) (change : PosCashCut → PosCashCut) : Db :=
  { db with cashCuts := KeyedRows.update (·.id) [cutId] change db.cashCuts }

def cashCutAction (db : Db) (context : RequestContext) (cutId : ℕ)
    (payload : PosCashCutActionRequest) :
    Except AppError Db := do
  requirePermission context "POS_CASH_MANAGE"
  requireTransactionId payload.transactionId
  let tenantId ← resolvePosTenantId context.tokenData payload.tenantId
  let storeId ← resolveCashStoreId context.tokenData payload.storeId
  enforceStoreScope db context.tokenData storeId true
  let cut ← fetch (db.cashCuts.find? fun cut => cut.id = cutId && cut.tenantId = tenantId &&
    cut.storeId = storeId) ⟨.resourceNotFound, "cash cut not found"⟩
  match payload.action with
  | .void => return db.updateCashCut cut.id fun row => { row with status := .void }
  | .complete countedCash =>
    let countedCash ← fetch countedCash (.validation "counted_cash is required")
    return db.updateCashCut cut.id fun row =>
      { row with
        status := .completed
        countedCash := some countedCash
        difference := some (countedCash - cut.totals.expectedCash)
        completedAt := some context.now }
  -- A print mark is a line in the notes of the cut.
  | .printMark => return db
  | .applyCashOut amount =>
    let amount ← ensurePositiveAmount amount "amount"
    let session ← fetch ((db.cashSessions.find? (·.id = cut.cashSessionId)).filter
      (·.status = .opened)) (.conflict "open cash session required")
    let paidOut ← removeDeposit db session tenantId storeId amount context.now
    return paidOut.updateCashCut cut.id fun row => { row with depositRemovedAmount := some amount }

/-! ## Day close -/

structure PosCashDayCloseActionRequest where
  transactionId : Option String
  tenantId : Option ℕ := none
  storeId : Option ℕ := none
  businessDate : ℕ
  forceIfOpenSessions : Bool := false
  reason : Option String := none
  countedCash : Option ℚ := none
deriving DecidableEq, Repr

/-- The amounts of the movements of an action on a date, in the order in which they were
recorded. -/
def amountsOn (db : Db) (tenantId storeId businessDate : ℕ) (action : CashAction) : List ℚ :=
  (db.cashMovements.filter fun movement => movement.tenantId = tenantId &&
    movement.storeId = storeId && movement.businessDate = businessDate &&
    movement.action = action).map (·.amount)

/-- The totals of a date. The amounts are doubles, which the database adds up. -/
def reconciliationRollup (db : Db) (tenantId storeId businessDate : ℕ) : CashRollup :=
  let total (action : CashAction) : ℚ :=
    Floating.doubleSum (amountsOn db tenantId storeId businessDate action)
  { openingAmount := total .opening
    cashIn := total .cashIn
    cashOut := total .cashOut
    netCashMovement := total .cashIn - total .cashOut
    netCashSales := total .sale
    cashRefunds := total .cashOutRefund
    expectedCash := total .opening + total .cashIn - total .cashOut +
    total .sale - total .cashOutRefund }

def closeDay (db : Db) (context : RequestContext) (payload : PosCashDayCloseActionRequest) :
    Except AppError Db := do
  requirePermission context "POS_CASH_DAY_CLOSE"
  requireTransactionId payload.transactionId
  let tenantId ← resolvePosTenantId context.tokenData payload.tenantId
  enforceTenantScope context.tokenData tenantId true
  let storeId ← resolveCashStoreId context.tokenData payload.storeId
  enforceStoreScope db context.tokenData storeId true
  ensure (¬ isDayClosed db tenantId storeId payload.businessDate)
    (.validation "day close already exists")
  let openSessions := db.cashSessions.filter fun session => session.tenantId = tenantId &&
    session.storeId = storeId && session.businessDate = payload.businessDate &&
    session.status = .opened
  let openIds := openSessions.map (·.id)
  ensure (openSessions = [] ∨ payload.forceIfOpenSessions)
    (.validation "open cash sessions exist for business_date")
  ensure (openSessions = [] ∨ normalizedRole context.tokenData ∈ ["MANAGER", "ADMIN", "SUPERADMIN",
      "PLATFORM_ADMIN"])
    ⟨.permissionDenied, ""⟩
  ensure (openSessions = [] ∨ isTruthy payload.reason)
    (.validation "reason is required for force day close")
  let rollup := reconciliationRollup db tenantId storeId payload.businessDate
  let dayClose : PosCashDayClose :=
    { tenantId, storeId, businessDate := payload.businessDate,
      forceClose := payload.forceIfOpenSessions, rollup, countedCash := payload.countedCash
      differenceAmount := payload.countedCash.map fun counted => counted - rollup.expectedCash }
  let closed := { db with
    cashSessions := KeyedRows.update (·.id) openIds
      (fun row => { row with status := .closed, closedAt := some context.now }) db.cashSessions
    dayCloses := db.dayCloses ++ [dayClose] }
  return closed.addCashMovement
    { tenantId, storeId, cashSessionId := none, cashierUserId := context.userId,
      businessDate := payload.businessDate, action := .dayClose, amount := 0,
      expectedBalanceBefore := none, expectedBalanceAfter := none, occurredAt := context.now }

inductive CashRequest
  | sessionAction (context : RequestContext) (payload : PosCashSessionActionRequest)
  | createCut (context : RequestContext) (payload : PosCashCutCreateRequest)
  | cutAction (context : RequestContext) (cutId : ℕ) (payload : PosCashCutActionRequest)
  | closeDay (context : RequestContext) (payload : PosCashDayCloseActionRequest)

def cashStep (db : Db) : CashRequest → Except AppError Db
  | .sessionAction context payload => cashSessionAction db context payload
  | .createCut context payload => createCashCut db context payload
  | .cutAction context cutId payload => cashCutAction db context cutId payload
  | .closeDay context payload => closeDay db context payload

end ArisCloud

import ArisCloud.Model.Sales

/-! # Advances

A customer pays an advance and gets a voucher. While it is active it can be refunded, expired, or
consumed as a whole, either by the standalone action or by the checkout that it pays for.
-/

namespace ArisCloud

open Checked (ensure fetch)

def secondsPerDay : ℕ := 86400

/-- The state of a voucher once its expiry date is taken into account. -/
def expireAdvanceIfNeeded (now : ℕ) (advance : PosAdvance) : PosAdvance :=
  if advance.status = .active ∧ advance.expiresAt ≤ now then { advance with status := .expired }
    else advance

def Db.updateAdvance (db : Db) (advanceId : ℕ) (change : PosAdvance → PosAdvance) : Db :=
  { db with advances := KeyedRows.update (·.id) [advanceId] change db.advances }

def Db.addAdvanceEvent (db : Db) (advance : PosAdvance) (action : AdvanceEventAction)
    (saleId : Option ℕ) (now : ℕ) : Db :=
  { db with advanceEvents := db.advanceEvents ++
      [{ advanceId := advance.id, tenantId := advance.tenantId, storeId := advance.storeId,
         action, saleId, createdAt := now }] }

/-- Mark a voucher as spent on a sale, when one is named. -/
def Db.consumeAdvance (db : Db) (advance : PosAdvance) (saleId : Option ℕ) (now : ℕ) : Db :=
  (db.updateAdvance advance.id fun row =>
    { row with status := .consumed, consumedSaleId := saleId }).addAdvanceEvent
    advance .consumed saleId now

/-- The session that the cashier opened last. -/
def activeSession (db : Db) (tenantId storeId cashierUserId : ℕ) : Option PosCashSession :=
  ((db.cashSessions.filter fun session => session.tenantId = tenantId &&
      session.storeId = storeId &&
    session.cashierUserId = cashierUserId && session.status = .opened &&
    session.closedAt = none).insertionSort
      fun a b => b.openedAt ≤ a.openedAt).head?

/-- A movement of money that does not pass through a drawer. -/
def voucherMovement (context : RequestContext) (tenantId storeId advanceId : ℕ)
    (action : CashAction) (amount : ℚ) :
    PosCashMovement :=
  { tenantId, storeId, cashSessionId := none, cashierUserId := context.userId,
    businessDate := context.now / secondsPerDay, saleId := some advanceId, action, amount,
    expectedBalanceBefore := some 0, expectedBalanceAfter := some 0
    occurredAt := context.now }

structure PosAdvanceCreateRequest where
  storeId : Option ℕ
  amount : ℚ
  paymentMethod : PaymentMethod
  voucherType : VoucherType := .advance
deriving DecidableEq, Repr

/-- No table mentions this voucher yet. -/
def Db.freshAdvanceId (db : Db) : ℕ :=
  freshId (db.advances.map (·.id) ++ db.advanceEvents.map (·.advanceId))

def nextAdvanceNumber (db : Db) (tenantId storeId : ℕ) : ℕ :=
  ((db.advances.filter fun advance => advance.tenantId = tenantId && advance.storeId = storeId).map
    (·.advanceNumber)).foldr max 0 + 1

def createAdvance (db : Db) (context : RequestContext) (payload : PosAdvanceCreateRequest) :
    Except AppError Db := do
  let tenantId ← resolvePosTenantId context.tokenData none
  let storeId ← resolveCashStoreId context.tokenData payload.storeId
  enforceTenantScope context.tokenData tenantId false
  enforceStoreScope db context.tokenData storeId false
  ensure (0 < payload.amount) (.validation "amount must be greater than 0")
  let number := nextAdvanceNumber db tenantId storeId
  let advance : PosAdvance :=
    { id := db.freshAdvanceId, tenantId, storeId, advanceNumber := number,
      barcodeValue := s!"ADV-{storeId}-{number}", voucherType := payload.voucherType,
      issuedAmount := Decimals.storeNumeric payload.amount,
      issuedPaymentMethod := payload.paymentMethod, expiresAt := context.now + 60 * secondsPerDay }
  let issued := { db with advances := db.advances ++ [advance] }.addAdvanceEvent advance .issued
    none context.now
  if payload.paymentMethod = .cash then
    let session ← fetch (activeSession db tenantId storeId context.userId)
      (.conflict "open cash session required for CASH issuance")
    recordCashMovement issued session tenantId storeId advance.id .cashIn payload.amount context.now
  else
    return issued.addCashMovement (voucherMovement context tenantId storeId advance.id
      (.voucherIssuance payload.voucherType) payload.amount)

inductive AdvanceAction
  | refund (refundMethod : Option PaymentMethod)
  | consume (saleTotal : Option ℚ) (saleId : Option ℕ)
  | expireNow
deriving DecidableEq, Repr

/-- The sale that a consumption names must be one of the voucher's store. -/
def resolveSaleIdForConsume (db : Db) (advance : PosAdvance) (saleId : Option ℕ) :
    Except AppError Unit :=
  ensure (∀ id ∈ saleId, ∃ sale ∈ db.sales, sale.id = id ∧ sale.tenantId = advance.tenantId ∧
      sale.storeId = advance.storeId) ⟨.resourceNotFound, "sale not found"⟩

def refundAdvance (db : Db) (context : RequestContext) (advance : PosAdvance)
    (refundMethod : Option PaymentMethod) :
    Except AppError Db := do
  let refundMethod ← fetch refundMethod (.validation "refund_method is required")
  let refunded :=
    (db.updateAdvance advance.id fun row => { row with status := .refunded }).addAdvanceEvent
      advance
    .refunded none context.now
  if refundMethod = .cash then
    let session ← fetch (activeSession db advance.tenantId advance.storeId context.userId)
      (.conflict "open cash session required for CASH refund")
    recordCashMovement refunded session advance.tenantId advance.storeId advance.id .cashOut
      advance.issuedAmount context.now
  else
    return refunded.addCashMovement
      (voucherMovement context advance.tenantId advance.storeId advance.id
      (.voucherRefund advance.voucherType) advance.issuedAmount)

def mutateAdvance (db : Db) (context : RequestContext) (advanceId : ℕ) (action : AdvanceAction) :
    Except AppError Db := do
  let advance ← fetch (db.advances.find? (·.id = advanceId))
    ⟨.resourceNotFound, "advance not found"⟩
  enforceTenantScope context.tokenData advance.tenantId false
  enforceStoreScope db context.tokenData advance.storeId false
  ensure ((expireAdvanceIfNeeded context.now advance).status = .active)
    (.conflict "advance is terminal")
  match action with
  | .refund refundMethod => refundAdvance db context advance refundMethod
  | .consume saleTotal saleId =>
    let saleTotal ← fetch saleTotal (.validation "sale_total is required for CONSUME")
    ensure (Decimals.quantize advance.issuedAmount ≤ saleTotal)
      (.validation "sale total must be >= advance amount")
    resolveSaleIdForConsume db advance saleId
    return db.consumeAdvance advance saleId context.now
  | .expireNow =>
    return (db.updateAdvance advance.id fun row => { row with status := .expired }).addAdvanceEvent
      advance .expired none context.now

/-- Expire every voucher of a store whose date has passed. -/
def sweepExpiredAdvances (db : Db) (context : RequestContext) (tenantId storeId : Option ℕ) :
    Except AppError Db := do
  let tenantId ← resolvePosTenantId context.tokenData tenantId
  let storeId ← resolveCashStoreId context.tokenData storeId
  enforceTenantScope context.tokenData tenantId false
  enforceStoreScope db context.tokenData storeId false
  let rows := db.advances.filter fun advance => advance.tenantId = tenantId &&
    advance.storeId = storeId && advance.status = .active && advance.expiresAt ≤ context.now
  return { db with
    advances := db.advances.map fun advance =>
      if advance ∈ rows then expireAdvanceIfNeeded context.now advance else advance
    advanceEvents := db.advanceEvents ++ rows.map fun advance =>
      { advanceId := advance.id, tenantId := advance.tenantId, storeId := advance.storeId,
        action := .expired, createdAt := context.now } }

inductive AdvanceRequest
  | create (context : RequestContext) (payload : PosAdvanceCreateRequest)
  | mutate (context : RequestContext) (advanceId : ℕ) (action : AdvanceAction)
  | sweep (context : RequestContext) (tenantId storeId : Option ℕ)

def advanceStep (db : Db) : AdvanceRequest → Except AppError Db
  | .create context payload => createAdvance db context payload
  | .mutate context advanceId action => mutateAdvance db context advanceId action
  | .sweep context tenantId storeId => sweepExpiredAdvances db context tenantId storeId

/-! ## Advances that pay for a sale -/

/-- The voucher behind an advance payment, which has to be active and of exactly the amount paid. -/
def resolveAdvanceForCheckout (db : Db) (tenantId storeId : ℕ) (payment : PosPaymentCreate)
    (now : ℕ) :
    Except AppError PosAdvance := do
  let named (advance : PosAdvance) : Bool := match payment.advanceId with
    | some advanceId => advance.id = advanceId
    | none => payment.referenceCode = some advance.barcodeValue
  let advance ← fetch (db.advances.find? fun advance => advance.tenantId = tenantId &&
    advance.storeId = storeId && named advance) (.validation "advance not found")
  ensure ((expireAdvanceIfNeeded now advance).status = .active) (.conflict "advance is not active")
  ensure (payment.amount = Decimals.quantize advance.issuedAmount)
    (.validation "advance payment amount must equal issued amount")
  return advance

/-- At most one payment of a checkout is an advance. -/
def resolveAdvancePayment (db : Db) (context : RequestContext) (sale : PosSale) (totalDue : ℚ)
    (payments : List PosPaymentCreate) : Except AppError (Option PosAdvance) :=
  match payments.filter (·.method = .advance) with
  | [] => return none
  | [payment] => do
    ensure (payment.amount ≤ totalDue) (.validation "sale total must be >= advance amount")
    let advance ← resolveAdvanceForCheckout db sale.tenantId sale.storeId payment context.now
    return some advance
  | _ => throw (.validation "only one ADVANCE payment is supported per sale")

end ArisCloud

import ArisCloud.Model.AdvanceTransactions
import ArisCloud.Model.Cash

/-! # Cash requests as transactions

The statements of the requests that touch cash sessions, once they are past their scope checks:
which rows they lock, what they read and in which order, and what they commit. A request writes the
balance that it computed from the row it read, so the outcome depends on what commits in between.
-/

namespace ArisCloud

open Checked (ensure fetch)
open Transactions

/-! ## Requests -/

/-- The caller and the store that a request acts in. -/
structure CashScope where
  context : RequestContext
  tenantId : ℕ
  storeId : ℕ

/-- The movements that change the balance of a session. -/
inductive CashFlow
  | sale
  | cashIn
  | cashOut
  | cashOutRefund
deriving DecidableEq, Repr

def CashFlow.action : CashFlow → CashAction
  | .sale => .sale
  | .cashIn => .cashIn
  | .cashOut => .cashOut
  | .cashOutRefund => .cashOutRefund

def CashFlow.balance (expectedBefore amount : ℚ) : CashFlow → ℚ
  | .sale | .cashIn => expectedBefore + amount
  | .cashOut | .cashOutRefund => expectedBefore - amount

/-- What a request on a voucher commits beside its movement. -/
inductive VoucherWrite
  | issued (advance : PosAdvance) (now : ℕ)
  | refunded (advance : PosAdvance) (now : ℕ)

def VoucherWrite.apply (db : Db) : VoucherWrite → Db
  | .issued advance now =>
    { db with advances := db.advances ++ [advance] }.addAdvanceEvent advance .issued none now
  | .refunded advance now =>
    (db.updateAdvance advance.id fun row => { row with status := .refunded }).addAdvanceEvent
      advance .refunded none now

/-- What a request does with one open session. A checkout or an exchange records a payment, a refund
or an exchange pays out; a cut gets here when it removes a deposit, and a voucher when it is
inserted or locked. -/
inductive SessionUse
  | cashIn (amount : ℚ)
  | cashOut (amount : ℚ)
  | close (countedCash : ℚ)
  | salePayment (saleId : ℕ) (amount : ℚ)
  | saleRefund (saleId : ℕ) (amount : ℚ)
  | voucherIssuance (advance : PosAdvance) (amount : ℚ)
  | voucherRefund (advance : PosAdvance)
  | createCut (cashSessionId : Option ℕ) (depositRemoved : ℚ) (removes : 0 < depositRemoved)
  | cutAction (cashSessionId : ℕ) (amount : ℚ)

def SessionUse.isVoucher : SessionUse → Bool
  | .voucherIssuance .. | .voucherRefund .. => true
  | _ => false

def SessionUse.voucher (now : ℕ) : SessionUse → Option VoucherWrite
  | .voucherIssuance advance _ => some (.issued advance now)
  | .voucherRefund advance => some (.refunded advance now)
  | _ => none

/-- Vouchers are issued and refunded in cash; the identifier of a new one is drawn. -/
inductive CashTransaction
  | opening (openingAmount : ℚ) (businessDate : ℕ) (timezone : String)
  | use (use : SessionUse) (apart : use.isVoucher = false)
  | issueAdvance (advanceId : ℕ) (voucherType : VoucherType) (amount : ℚ)
  | refundAdvance (advanceId : ℕ)
  | closeDay (payload : PosCashDayCloseActionRequest)

/-- What a request may lock: a row, or the number under which a voucher is inserted. -/
inductive CashLock
  | session (sessionId : ℕ)
  | advance (advanceId : ℕ)
  | advanceNumber (tenantId storeId number : ℕ)
deriving DecidableEq, Repr

/-! ## Finding a session -/

/-- The open sessions of the cashier. -/
def isOwnOpen (scope : CashScope) (session : PosCashSession) : Bool :=
  session.tenantId = scope.tenantId && session.storeId = scope.storeId &&
    session.cashierUserId = scope.context.userId && session.status = .opened

/-- The sessions among which the open session of the cashier is looked up. -/
def selectsOpen (db : Db) (scope : CashScope) (session : PosCashSession) : Bool :=
  isOwnOpen scope session && session.closedAt = none &&
    !decide (isDayClosed db session.tenantId session.storeId session.businessDate)

namespace SessionUse

/-- Whether the session is looked up with a row lock. -/
def forUpdate (use : SessionUse) : Bool := !use.isVoucher

/-- The sessions that the lookup selects, all of which it locks when it locks any. -/
def selects (db : Db) (scope : CashScope) (use : SessionUse) (session : PosCashSession) : Bool :=
  match use with
  | .salePayment .. | .saleRefund .. => isOwnOpen scope session
  | .voucherIssuance .. | .voucherRefund .. => isOwnOpen scope session && session.closedAt = none
  | .createCut (some cashSessionId) .. =>
    session.id = cashSessionId && isOwnOpen scope session && session.closedAt = none
  -- A cut is one of the caller's store, and so is the session it was made of.
  | .cutAction cashSessionId _ => session.id = cashSessionId && session.tenantId = scope.tenantId &&
    session.storeId = scope.storeId
  | .cashIn _ | .cashOut _ | .close _ | .createCut none .. => selectsOpen db scope session

/-- The first session of the lookup. -/
def lookup (db : Db) (scope : CashScope) (use : SessionUse) : Option PosCashSession :=
  let rows := db.cashSessions.filter (use.selects db scope)
  match use with
  | .salePayment .. | .saleRefund .. | .createCut (some _) .. | .cutAction .. => rows.head?
  | .voucherIssuance .. | .voucherRefund .. =>
    (rows.insertionSort fun a b => b.openedAt ≤ a.openedAt).head?
  | .cashIn _ | .cashOut _ | .close _ | .createCut none .. => (rows.insertionSort openedLater).head?

def lockedRows (db : Db) (scope : CashScope) (use : SessionUse) : List CashLock :=
  if use.forUpdate then (db.cashSessions.filter (use.selects db scope)).map (.session ·.id) else []

/-- Sales fall back on the only open session of their store. -/
def fallsBack : SessionUse → Bool
  | .salePayment .. | .saleRefund .. => true
  | _ => false

def missing : SessionUse → AppError
  | .salePayment .. | .saleRefund .. => .conflict "open cash session required for CASH payments"
  | .voucherIssuance .. => .conflict "open cash session required for CASH issuance"
  | .voucherRefund .. => .conflict "open cash session required for CASH refund"
  | .cashIn _ | .cashOut _ | .close _ | .createCut .. | .cutAction .. =>
    .conflict "open cash session required"

end SessionUse

def onlyOpenSession (db : Db) (scope : CashScope) : Option PosCashSession :=
  match db.cashSessions.filter fun session =>
    session.tenantId = scope.tenantId && session.storeId = scope.storeId &&
        session.status = .opened with
  | [only] => some only
  | _ => none

/-! ## Writing -/

/-- What a request has decided to commit. -/
inductive CashWrite
  | opening (scope : CashScope) (openingAmount : ℚ) (businessDate : ℕ)
  | movement (scope : CashScope) (session : PosCashSession) (saleId : Option ℕ) (flow : CashFlow)
      (amount : ℚ)
  | close (scope : CashScope) (session : PosCashSession) (countedCash : ℚ)
  | dayClose (scope : CashScope) (payload : PosCashDayCloseActionRequest) (openIds : List ℕ)
      (rollup : CashRollup)

namespace CashWrite

/-- The sessions that a commit updates. -/
def rows : CashWrite → List ℕ
  | .opening .. => []
  | .movement _ session _ _ _ | .close _ session _ => [session.id]
  | .dayClose _ _ openIds _ => openIds

/-- The tables after a commit. The day closes of a store are unique. -/
def apply (db : Db) : CashWrite → Option Db
  | .opening scope openingAmount businessDate =>
    let session : PosCashSession :=
      { id := db.freshCashSessionId, tenantId := scope.tenantId, storeId := scope.storeId
        cashierUserId := scope.context.userId, businessDate, openingAmount,
        expectedCash := openingAmount, openedAt := scope.context.now,
        createdAt := scope.context.now }
    some ({ db with cashSessions := db.cashSessions ++ [session] }.addCashMovement
      (sessionMovement session scope.tenantId scope.storeId none .opening openingAmount 0
      openingAmount scope.context.now))
  | .movement scope session saleId flow amount =>
    let expectedAfter := flow.balance session.expectedCash amount
    some ((db.setExpectedCash session.id expectedAfter).addCashMovement
      (sessionMovement session scope.tenantId scope.storeId saleId flow.action amount
      session.expectedCash expectedAfter
        scope.context.now))
  | .close scope session countedCash =>
    let closed := db.updateCashSession session.id fun row =>
      { row with
        countedCash := some countedCash
        difference := some (countedCash - session.expectedCash)
        status := .closed
        closedAt := some scope.context.now }
    some (closed.addCashMovement
      (sessionMovement session scope.tenantId scope.storeId none .close 0 session.expectedCash
      session.expectedCash
        scope.context.now))
  | .dayClose scope payload openIds rollup =>
    if isDayClosed db scope.tenantId scope.storeId payload.businessDate then none
    else
      let dayClose : PosCashDayClose :=
        { tenantId := scope.tenantId, storeId := scope.storeId, businessDate := payload.businessDate
          forceClose := payload.forceIfOpenSessions, rollup, countedCash := payload.countedCash
          differenceAmount := payload.countedCash.map fun counted => counted - rollup.expectedCash }
      let closed := { db with
        cashSessions := KeyedRows.update (·.id) openIds
          (fun row => { row with status := .closed,
                                 closedAt := some scope.context.now }) db.cashSessions
        dayCloses := db.dayCloses ++ [dayClose] }
      some (closed.addCashMovement
        { tenantId := scope.tenantId, storeId := scope.storeId, cashSessionId := none,
          cashierUserId := scope.context.userId, businessDate := payload.businessDate,
          action := .dayClose, amount := 0, expectedBalanceBefore := none
          expectedBalanceAfter := none, occurredAt := scope.context.now })

end CashWrite

/-- The checks of the movement that sales and vouchers record. -/
def planMovement (db : Db) (scope : CashScope) (session : PosCashSession) (saleId : ℕ)
    (flow : CashFlow) (amount : ℚ) :
    Except AppError CashWrite := do
  ensure (0 < amount) (.validation "cash movement amount must be greater than 0")
  ensure (¬ isDayClosed db scope.tenantId scope.storeId session.businessDate)
    (.validation "cash movements are locked after day close")
  ensureNonNegativeBalance (flow.balance session.expectedCash amount)
  return .movement scope session (some saleId) flow amount

/-- The checks between finding a session and writing it. Only the cut action does not ask for a day
close. -/
def SessionUse.plan (db : Db) (scope : CashScope) (session : PosCashSession) : SessionUse →
    Except AppError CashWrite
  | .cashIn amount => do
    ensureNotClosed db scope.tenantId scope.storeId session.businessDate
    let amount ← ensurePositiveAmount (some amount) "amount"
    return .movement scope session none .cashIn amount
  | .cashOut amount => do
    ensureNotClosed db scope.tenantId scope.storeId session.businessDate
    let amount ← ensurePositiveAmount (some amount) "amount"
    ensureNonNegativeBalance (session.expectedCash - amount)
    return .movement scope session none .cashOut amount
  | .close countedCash => do
    ensureNotClosed db scope.tenantId scope.storeId session.businessDate
    return .close scope session countedCash
  | .salePayment saleId amount => planMovement db scope session saleId .sale amount
  | .saleRefund saleId amount => planMovement db scope session saleId .cashOutRefund amount
  | .voucherIssuance advance amount => planMovement db scope session advance.id .cashIn amount
  | .voucherRefund advance => planMovement db scope session advance.id .cashOut advance.issuedAmount
  | .createCut _ depositRemoved _ => do
    ensureNotClosed db scope.tenantId scope.storeId session.businessDate
    ensureNonNegativeBalance (session.expectedCash - depositRemoved)
    return .movement scope session none .cashOut depositRemoved
  | .cutAction _ amount => do
    let amount ← ensurePositiveAmount (some amount) "amount"
    ensure (session.status = .opened) (.conflict "open cash session required")
    ensureNonNegativeBalance (session.expectedCash - amount)
    return .movement scope session none .cashOut amount

/-! ## Vouchers -/

/-- The voucher that an issuance is about to insert, numbered after those it sees. -/
def numberedAdvance (db : Db) (scope : CashScope) (advanceId : ℕ) (voucherType : VoucherType)
    (amount : ℚ) : PosAdvance :=
  let number := nextAdvanceNumber db scope.tenantId scope.storeId
  { id := advanceId, tenantId := scope.tenantId, storeId := scope.storeId, advanceNumber := number
    barcodeValue := s!"ADV-{scope.storeId}-{number}", voucherType,
    issuedAmount := Decimals.storeNumeric amount, issuedPaymentMethod := .cash,
    expiresAt := scope.context.now + 60 * secondsPerDay }

/-- The numbers of the vouchers of a store are unique. -/
def isNumberTaken (db : Db) (advance : PosAdvance) : Prop :=
  ∃ row ∈ db.advances, row.tenantId = advance.tenantId ∧ row.storeId = advance.storeId ∧
    row.advanceNumber = advance.advanceNumber

instance (db : Db) (advance : PosAdvance) : Decidable (isNumberTaken db advance) :=
  inferInstanceAs (Decidable (∃ row ∈ db.advances, _))

/-- An error of the database that no handler of the request turns into one of its own. -/
def unhandledIntegrityError : AppError := ⟨.integrityError, ""⟩

/-- The voucher that a refund has locked, in the scope of its own store. -/
def checkRefund (db : Db) (scope : CashScope) (advanceId : ℕ) :
    Except AppError (CashScope × PosAdvance) := do
  let advance ← fetch (db.advances.find? (·.id = advanceId))
    ⟨.resourceNotFound, "advance not found"⟩
  let _ ← checkMutation db scope.context advance (.refund (some .cash))
  return ({ scope with tenantId := advance.tenantId, storeId := advance.storeId }, advance)

/-! ## Statements -/

/-- Where a request is: what it found and whether it holds the lock of the session it found. -/
inductive CashPhase
  | arrived (scope : CashScope) (transaction : CashTransaction)
  | dateOpen (scope : CashScope) (openingAmount : ℚ) (businessDate : ℕ)
  | numbered (scope : CashScope) (advance : PosAdvance) (amount : ℚ)
  | ready (scope : CashScope) (use : SessionUse)
  | unmatched (scope : CashScope) (use : SessionUse)
  | found (scope : CashScope) (session : PosCashSession) (locked : Bool) (use : SessionUse)
  | undecided (scope : CashScope) (payload : PosCashDayCloseActionRequest)
  | counting (scope : CashScope) (payload : PosCashDayCloseActionRequest) (openIds : List ℕ)
  | writing (locked : Bool) (write : CashWrite) (voucher : Option VoucherWrite)
  | committed
  | failed (error : AppError)
  | lost

def CashPhase.ofChecked {α : Type} (result : Except AppError α) (next : α → CashPhase) :
    CashPhase :=
  match result with
  | .ok value => next value
  | .error error => .failed error

def checkOpening (db : Db) (scope : CashScope) (openingAmount : ℚ) (businessDate : ℕ)
    (timezone : String) :
    Except AppError ℚ := do
  let openingAmount ← ensurePositiveAmount (some openingAmount) "opening_amount"
  ensure (timezone ≠ "") (.validation "business_date and timezone are required")
  ensureNotClosed db scope.tenantId scope.storeId businessDate
  return openingAmount

def openSessionsOf (db : Db) (scope : CashScope) (businessDate : ℕ) : List PosCashSession :=
  db.cashSessions.filter fun session => session.tenantId = scope.tenantId &&
    session.storeId = scope.storeId && session.businessDate = businessDate &&
    session.status = .opened

def checkForceClose (scope : CashScope) (payload : PosCashDayCloseActionRequest)
    (openSessions : List PosCashSession) :
    Except AppError Unit := do
  ensure (openSessions = [] ∨ payload.forceIfOpenSessions)
    (.validation "open cash sessions exist for business_date")
  ensure (openSessions = [] ∨
      normalizedRole scope.context.tokenData ∈ ["MANAGER", "ADMIN", "SUPERADMIN", "PLATFORM_ADMIN"])
    ⟨.permissionDenied, ""⟩
  ensure (openSessions = [] ∨ isTruthy payload.reason)
    (.validation "reason is required for force day close")

/-- The tables after a commit, with the voucher that goes with it. -/
def CashWrite.applyWith (write : CashWrite) (voucher : Option VoucherWrite) (db : Db) : Option Db :=
  (write.apply db).map fun written => voucher.elim written (·.apply written)

/-- The session that a request uses is looked up. -/
def lookupSession (scope : CashScope) (use : SessionUse) : Instruction Db CashLock CashPhase :=
  .read (fun db => use.lockedRows db scope) fun db =>
    match use.lookup db scope with
    | some session => .found scope session use.forUpdate use
    | none => if use.fallsBack then .unmatched scope use else .failed use.missing

/-- The next statement of a request. -/
def cashCode : CashPhase → Instruction Db CashLock CashPhase
  | .arrived scope (.opening openingAmount businessDate timezone) => .read (fun _ => []) fun db =>
    .ofChecked (checkOpening db scope openingAmount businessDate timezone)
      (.dateOpen scope · businessDate)
  | .dateOpen scope openingAmount businessDate =>
    -- A query that finds nothing locks nothing, so it holds up no other opening.
    .read (fun db => (db.cashSessions.filter (selectsOpen db scope)).map (.session ·.id)) fun db =>
      .ofChecked (ensure (openSessionQuery db scope.tenantId scope.storeId scope.context.userId =
          none)
        (.conflict "open cash session already exists")) fun _ =>
          .writing false (.opening scope openingAmount businessDate) none
  | .arrived scope (.issueAdvance advanceId voucherType amount) => .read (fun _ => []) fun db =>
    .ofChecked (ensure (0 < amount) (.validation "amount must be greater than 0")) fun _ =>
      .numbered scope (numberedAdvance db scope advanceId voucherType amount) amount
  | .numbered scope advance amount =>
    -- The insertion waits for another one of the same number, and fails once that one has
    -- committed.
    .read (fun _ => [.advanceNumber advance.tenantId advance.storeId advance.advanceNumber])
        fun db =>
      .ofChecked (ensure (¬ isNumberTaken db advance) unhandledIntegrityError) fun _ =>
        .ready scope (.voucherIssuance advance amount)
  | .arrived scope (.refundAdvance advanceId) =>
    .read (fun db => (idsWhere db (·.id = advanceId)).map .advance) fun db =>
    .ofChecked (checkRefund db scope advanceId) fun (scope, advance) =>
      .ready scope (.voucherRefund advance)
  | .arrived scope (.use use _) | .ready scope use => lookupSession scope use
  | .unmatched scope use => .read (fun _ => []) fun db =>
    match onlyOpenSession db scope with
    | some session => .found scope session false use
    | none => .failed use.missing
  | .found scope session locked use => .read (fun _ => []) fun db =>
    .ofChecked (use.plan db scope session) fun write =>
      .writing locked write (use.voucher scope.context.now)
  | .arrived scope (.closeDay payload) => .read (fun _ => []) fun db =>
    .ofChecked (ensure (¬ isDayClosed db scope.tenantId scope.storeId payload.businessDate)
      (.validation "day close already exists")) fun _ => .undecided scope payload
  | .undecided scope payload =>
    .read (fun db => (openSessionsOf db scope payload.businessDate).map (.session ·.id)) fun db =>
      let openSessions := openSessionsOf db scope payload.businessDate
      .ofChecked (checkForceClose scope payload openSessions) fun _ => .counting scope payload
        (openSessions.map (·.id))
  | .counting scope payload openIds => .read (fun _ => []) fun db =>
    .writing true (.dayClose scope payload openIds
      (reconciliationRollup db scope.tenantId scope.storeId payload.businessDate)) none
  | .writing _ write voucher =>
    -- The rows are flushed before the commit that has a handler.
    .commit (fun _ => write.rows.map .session) (write.applyWith voucher) .committed
      (.failed unhandledIntegrityError)
  | .committed | .failed _ | .lost => .stop

end ArisCloud

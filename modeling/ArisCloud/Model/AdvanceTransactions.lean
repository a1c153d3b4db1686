import ArisCloud.Library.Transactions
import ArisCloud.Model.Advances

/-! # Requests on advances as transactions

Checkouts, the actions on one advance and the sweeps of a store lock the advances that they settle.
A lookup and a read of one advance do not, and yet they expire the advance that they return when its
date has passed.
-/

namespace ArisCloud

open Checked (ensure fetch)
open Transactions

/-- How an advance stops being active. -/
inductive Settlement
  | consumed (saleId : Option ℕ)
  | refunded
  | expired
deriving DecidableEq, Repr

def Settlement.status : Settlement → AdvanceStatus
  | .consumed _ => .consumed
  | .refunded => .refunded
  | .expired => .expired

def Settlement.action : Settlement → AdvanceEventAction
  | .consumed _ => .consumed
  | .refunded => .refunded
  | .expired => .expired

def Settlement.saleId : Settlement → Option ℕ
  | .consumed saleId => saleId
  | .refunded | .expired => none

/-- The columns that a settlement sets. -/
def Settlement.settle (settlement : Settlement) (advance : PosAdvance) : PosAdvance :=
  match settlement with
  | .consumed saleId => { advance with status := .consumed, consumedSaleId := saleId }
  | .refunded => { advance with status := .refunded }
  | .expired => { advance with status := .expired }

/-- An advance whose date has passed. -/
def PosAdvance.isDue (now : ℕ) (advance : PosAdvance) : Bool :=
  advance.status = .active && advance.expiresAt ≤ now

/-! ## Requests -/

/-- The requests that settle advances. Lists, alerts and the sweep itself expire the due advances of
a store; a lookup names a code and the number that it spells, when it spells one. -/
inductive AdvanceTransaction
  | checkout (tenantId storeId saleId : ℕ) (payment : PosPaymentCreate)
  | mutate (advanceId : ℕ) (action : AdvanceAction)
  | sweep (tenantId storeId : ℕ)
  | lookup (code : String) (parsedNumber : Option ℕ)
  | get (advanceId : ℕ)

/-- What a request is about to commit: the advances that it settles, and the one whose lookup it
records. -/
structure AdvanceWrite where
  rows : List PosAdvance
  settlement : Settlement
  validated : Option PosAdvance := none
  now : ℕ

def advanceEvent (advance : PosAdvance) (action : AdvanceEventAction) (saleId : Option ℕ)
    (now : ℕ) : PosAdvanceEvent :=
  { advanceId := advance.id, tenantId := advance.tenantId, storeId := advance.storeId, action,
    saleId, createdAt := now }

def AdvanceWrite.events (write : AdvanceWrite) : List PosAdvanceEvent :=
  write.rows.map (advanceEvent · write.settlement.action write.settlement.saleId write.now) ++
    write.validated.toList.map (advanceEvent · .validated none write.now)

/-- The tables after a commit. The update of an advance does not look at its status again. -/
def AdvanceWrite.apply (write : AdvanceWrite) (db : Db) : Option Db :=
  some { db with
    advances := KeyedRows.update (·.id) (write.rows.map (·.id)) write.settlement.settle db.advances
    advanceEvents := db.advanceEvents ++ write.events }

/-! ## Statements -/

/-- The advance that pays for a sale, by its identifier or else its barcode. -/
def namedBy (tenantId storeId : ℕ) (payment : PosPaymentCreate) (advance : PosAdvance) : Bool :=
  advance.tenantId = tenantId && advance.storeId = storeId && match payment.advanceId with
    | some advanceId => advance.id = advanceId
    | none => payment.referenceCode = some advance.barcodeValue

/-- The checks of an action on an advance, and how it settles the advance. -/
def checkMutation (db : Db) (context : RequestContext) (advance : PosAdvance)
    (action : AdvanceAction) :
    Except AppError Settlement := do
  enforceTenantScope context.tokenData advance.tenantId false
  enforceStoreScope db context.tokenData advance.storeId false
  ensure ((expireAdvanceIfNeeded context.now advance).status = .active)
    (.conflict "advance is terminal")
  match action with
  | .refund refundMethod =>
    let _ ← fetch refundMethod (.validation "refund_method is required")
    return .refunded
  | .consume saleTotal saleId =>
    let saleTotal ← fetch saleTotal (.validation "sale_total is required for CONSUME")
    ensure (Decimals.quantize advance.issuedAmount ≤ saleTotal)
      (.validation "sale total must be >= advance amount")
    resolveSaleIdForConsume db advance saleId
    return .consumed saleId
  | .expireNow => return .expired

/-- The scope checks of a lookup or a read. -/
def checkRead (db : Db) (context : RequestContext) (advance : PosAdvance) :
    Except AppError Unit := do
  enforceTenantScope context.tokenData advance.tenantId false
  enforceStoreScope db context.tokenData advance.storeId false

/-- Where a request is, and whether it holds the locks of the advances it settles. -/
inductive AdvancePhase
  | arrived (context : RequestContext) (request : AdvanceTransaction)
  | writing (locked : Bool) (write : AdvanceWrite)
  | answered
  | failed (error : AppError)
  | lost

def AdvancePhase.ofChecked {α : Type} (result : Except AppError α) (next : α → AdvancePhase) :
    AdvancePhase :=
  match result with
  | .ok value => next value
  | .error error => .failed error

def idsWhere (db : Db) (matching : PosAdvance → Bool) : List ℕ :=
  (db.advances.filter matching).map (·.id)

/-- The next statement of a request. -/
def advanceCode : AdvancePhase → Instruction Db ℕ AdvancePhase
  | .arrived context (.checkout tenantId storeId saleId payment) =>
    .read (fun db => idsWhere db (namedBy tenantId storeId payment)) fun db =>
      .ofChecked (resolveAdvanceForCheckout db tenantId storeId payment context.now) fun advance =>
        .writing true { rows := [advance], settlement := .consumed (some saleId),
                        now := context.now }
  | .arrived context (.mutate advanceId action) =>
    .read (fun db => idsWhere db (·.id = advanceId)) fun db =>
    .ofChecked (do
      let advance ← fetch (db.advances.find? (·.id = advanceId))
        ⟨.resourceNotFound, "advance not found"⟩
      let settlement ← checkMutation db context advance action
      return (advance, settlement)) fun (advance, settlement) =>
        .writing true { rows := [advance], settlement, now := context.now }
  | .arrived context (.sweep tenantId storeId) =>
    let due (advance : PosAdvance) : Bool := advance.tenantId = tenantId &&
      advance.storeId = storeId && advance.isDue context.now
    .read (fun db => idsWhere db due) fun db =>
      .writing true { rows := db.advances.filter due, settlement := .expired, now := context.now }
  | .arrived context (.lookup code parsedNumber) => .read (fun _ => []) fun db =>
    match db.advances.find? fun advance => advance.barcodeValue = code ||
        parsedNumber = some advance.advanceNumber with
    | none => .answered
    | some advance => .ofChecked (checkRead db context advance) fun _ =>
      .writing false { rows := [advance].filter (·.isDue context.now), settlement := .expired,
                       validated := some advance, now := context.now }
  | .arrived context (.get advanceId) => .read (fun _ => []) fun db =>
    .ofChecked (do
      let advance ← fetch (db.advances.find? (·.id = advanceId))
        ⟨.resourceNotFound, "advance not found"⟩
      checkRead db context advance
      return advance) fun advance =>
        if advance.isDue context.now then .writing false
          { rows := [advance], settlement := .expired, now := context.now }
        else .answered
  | .writing _ write => .commit (fun _ => write.rows.map (·.id)) write.apply .answered .lost
  | .answered | .failed _ | .lost => .stop

/-! ## Lookups alone -/

/-- A lookup expires the advance it finds when that is due, and records that it was looked up. -/
def lookupAdvance (db : Db) (context : RequestContext) (code : String) (parsedNumber : Option ℕ) :
    Except AppError Db :=
  match db.advances.find? fun advance =>
    advance.barcodeValue = code || parsedNumber = some advance.advanceNumber with
  | none => return db
  | some advance => do
    checkRead db context advance
    fetch (AdvanceWrite.apply {
      rows := [advance].filter (·.isDue context.now), settlement := .expired
      validated := some advance, now := context.now } db) ⟨.integrityError, ""⟩

/-- The answer of a lookup, none when nothing is found, and the tables that it commits. -/
def lookupResponse (db : Db) (context : RequestContext) (code : String) (parsedNumber : Option ℕ) :
    Except AppError (Option PosAdvance × Db) :=
  match db.advances.find? fun advance =>
    advance.barcodeValue = code || parsedNumber = some advance.advanceNumber with
  | none => return (none, db)
  | some advance => do
    let after ← lookupAdvance db context code parsedNumber
    return (some (expireAdvanceIfNeeded context.now advance), after)

end ArisCloud

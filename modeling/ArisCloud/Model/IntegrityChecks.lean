import ArisCloud.Library.Grouping
import ArisCloud.Model.System

/-! # The integrity checker

The checker reads the committed tables of a tenant and reports what it takes for impossible: tags
that are equal up to notation, a second open session of a cashier, totals of a paid sale that do not
add up, and a transfer whose status and time stamps do not fit together. It reads the status of a
transfer as the column has it.
-/

namespace ArisCloud

open Grouping (groupBy)

/-! ## Findings -/

def severityCritical : String := "CRITICAL"

inductive FindingDetails
  | duplicateEpc (epc : String) (stockItemIds : List ℕ)
  | openSessions (storeId cashierUserId openCount : ℕ)
  | saleTotals (totalDue paidTotal balanceDue changeDue : ℚ)
  | transferState (status : String) (dispatchedAt receivedAt canceledAt : Option ℕ)
deriving DecidableEq, Repr

structure IntegrityFinding where
  checkId : String
  severity : String
  tenantId : ℕ
  message : String
  entity : String
  entityId : Option ℕ
  details : FindingDetails
deriving DecidableEq, Repr

/-! ## Tags -/

def isHexDigit (c : Char) : Bool := ('0' ≤ c && c ≤ '9') || ('a' ≤ c && c ≤ 'f') ||
    ('A' ≤ c && c ≤ 'F')

/-- The hexadecimal digits of a tag in upper case, when there are as many as a tag has. -/
def normalizeEpc (epc : Option String) : Option String :=
  let cleaned := ((epc.getD "").toList.filter isHexDigit).map (·.toUpper)
  if isTruthy epc ∧ cleaned.length = 24 then some (String.ofList cleaned) else none

def checkDuplicateEpc (db : Db) (tenantId : ℕ) : List IntegrityFinding :=
  let rows := db.stock.rows.filter fun row => row.tenantId = tenantId && row.epc.isSome
  let index := groupBy (fun row => normalizeEpc row.epc) rows
  (index.filter fun group => 1 < group.2.length).map fun (normalized, members) =>
    { checkId := "duplicate_epc", severity := severityCritical, tenantId
      message := "Duplicate EPC detected for tenant.", entity := "stock_items", entityId := none
      details := .duplicateEpc normalized (members.map (·.id)) }

/-! ## Cash sessions -/

def checkCashSessionOpen (db : Db) (tenantId : ℕ) : List IntegrityFinding :=
  let rows := db.cashSessions.filter fun session => session.tenantId = tenantId &&
    session.status = .opened
  let groups := groupBy (fun session => some (session.storeId, session.cashierUserId)) rows
  (groups.filter fun group => 1 < group.2.length).map fun ((storeId, cashierUserId), sessions) =>
    { checkId := "multiple_open_cash_sessions", severity := severityCritical, tenantId
      message := "Multiple OPEN cash sessions for cashier/store.", entity := "pos_cash_sessions",
      entityId := none, details := .openSessions storeId cashierUserId sessions.length }

/-! ## Paid sales -/

/-- Whether the totals of a paid sale are off by more than a cent. -/
def inconsistentTotals (sale : PosSale) : Bool :=
  if 1 / 100 < sale.balanceDue ∨ sale.paidTotal + 1 / 100 < sale.totalDue then true
  else 1 / 100 < |sale.paidTotal - sale.totalDue - sale.changeDue|

def checkPaidSaleTotals (db : Db) (tenantId : ℕ) : List IntegrityFinding :=
  (db.sales.filter fun sale => sale.tenantId = tenantId && sale.status = .paid &&
      inconsistentTotals sale).map fun sale =>
    { checkId := "paid_sale_totals", severity := severityCritical, tenantId
      message := "PAID sale totals inconsistent.", entity := "pos_sales", entityId := some sale.id
      details := .saleTotals sale.totalDue sale.paidTotal sale.balanceDue sale.changeDue }

/-! ## Transfers -/

/-- The status of a transfer as the transfer router writes it. -/
def TransferStatus.text : TransferStatus → String
  | .draft => "DRAFT"
  | .dispatched => "DISPATCHED"
  | .partialReceived => "PARTIAL_RECEIVED"
  | .received => "RECEIVED"
  | .canceled => "CANCELED"

/-- Whether the stamps of a transfer do not fit its status; a status that the checker does not know
fits none. -/
def invalidStamps (status : String) (dispatchedAt receivedAt canceledAt : Option ℕ) : Bool :=
  if status = "DRAFT" then dispatchedAt.isSome || receivedAt.isSome || canceledAt.isSome
  else if status = "DISPATCHED" then dispatchedAt.isNone || receivedAt.isSome || canceledAt.isSome
  else if status = "PARTIAL_RECEIVED" then dispatchedAt.isNone || receivedAt.isSome ||
    canceledAt.isSome
  else if status = "RECEIVED" then dispatchedAt.isNone || receivedAt.isNone || canceledAt.isSome
  else if status = "CANCELLED" then canceledAt.isNone
  else true

def Transfer.isInvalid (transfer : Transfer) : Bool :=
  invalidStamps transfer.status.text transfer.dispatchedAt transfer.receivedAt transfer.canceledAt

def checkTransferFsm (db : Db) (tenantId : ℕ) : List IntegrityFinding :=
  (db.transfers.filter fun transfer => transfer.tenantId = tenantId && transfer.isInvalid).map
      fun transfer =>
    { checkId := "transfer_fsm", severity := severityCritical, tenantId
      message := "Transfer state/timestamps inconsistent.", entity := "transfers",
      entityId := some transfer.id,
      details := .transferState transfer.status.text transfer.dispatchedAt transfer.receivedAt
        transfer.canceledAt }

end ArisCloud

import ArisCloud.Library.Tally
import ArisCloud.Model.Database
import ArisCloud.Model.Scope
import ArisCloud.Model.StockSession

/-! # Transfers between stores

A transfer is drafted in its origin store, dispatched into transit, received by its destination, and
may report and resolve shortages or be canceled. Every action writes movements, whose totals per
line are the ledger the next action checks itself against, and moves the physical rows of stock.
-/

namespace ArisCloud

open Checked (ensure fetch)

def inTransitCode : String := "IN_TRANSIT"

def defaultReceivePool : String := "SALE"

def transferSkuAllowedStatuses : List String := ["PENDING", "RFID"]

def hasBroadTransferScope (tokenData : TokenData) : Bool :=
  normalizedRole tokenData ∈ ["SUPERADMIN", "PLATFORM_ADMIN", "ADMIN"]

def enforceOriginStoreScope (tokenData : TokenData) (originStoreId : ℕ) : Except AppError Unit :=
  ensure (hasBroadTransferScope tokenData ∨ tokenData.storeId = some originStoreId)
    ⟨.storeScopeMismatch, "origin store is outside user scope"⟩

def enforceDestinationStoreScope (tokenData : TokenData) (destinationStoreId : ℕ) :
    Except AppError Unit :=
  ensure (hasBroadTransferScope tokenData ∨ tokenData.storeId = some destinationStoreId)
    ⟨.storeScopeMismatch, "destination store is outside user scope"⟩

def requireActionPermission (context : RequestContext) (permissionKey : String) :
    Except AppError Unit :=
  requireAnyPermission context [permissionKey, "TRANSFER_MANAGE"]

def ensureStoreTenant (db : Db) (tenantId storeId : ℕ) (fieldName : String) :
    Except AppError Unit :=
  ensure (∃ store ∈ db.stores, store.id = storeId ∧ store.tenantId = tenantId)
    (.validation (fieldName ++ " must belong to tenant_id"))

/-- The statuses in which a transfer reserves the EPCs of its lines. -/
def TransferStatus.isActive : TransferStatus → Bool
  | .draft | .dispatched | .partialReceived => true
  | .received | .canceled => false

/-- The statuses between the dispatch and the end of a transfer. -/
def TransferStatus.isEnRoute : TransferStatus → Bool
  | .dispatched | .partialReceived => true
  | .draft | .received | .canceled => false

/-! ## Stock selectors -/

def hasTransferStatus (row : StockItem) : Bool := row.status.any (· ∈ transferSkuAllowedStatuses)

/-- The untagged rows of one SKU that a transfer may take, at a place when one is given. -/
def transferSkuFilters (tenantId originStoreId : ℕ) (sku : String)
    (locationCode pool : Option String) (row : StockItem) : Bool :=
  row.tenantId = tenantId && row.storeId = some originStoreId && row.epc = none &&
    hasTransferStatus row && row.sku = some sku &&
    (locationCode.all fun code => row.locationCode = some code) &&
    (pool.all fun code => row.pool = some code)

def epcFilters (tenantId : ℕ) (epc : String) (row : StockItem) : Bool :=
  row.tenantId = tenantId && row.epc = some epc

/-- The place of everything that is on its way. -/
def StockSnapshot.inTransit (row : StockSnapshot) : Bool :=
  row.locationCode = some inTransitCode && row.pool = some inTransitCode

/-- The untagged rows in transit from a store that belong to the variant of a line. -/
def inTransitSkuFilters (tenantId : ℕ) (inOrigin : Option ℕ → Bool) (line : StockSnapshot)
    (row : StockItem) : Bool :=
  row.tenantId = tenantId && inOrigin row.storeId && row.epc = none && row.sku = line.sku &&
    row.description = line.description && row.var1Value = line.var1Value &&
    row.var2Value = line.var2Value && row.inTransit && hasTransferStatus row

/-! ## Drafting -/

structure TransferLineCreate where
  lineType : LineType
  qty : ℤ := 1
  snapshot : StockSnapshot
deriving DecidableEq, Repr

/-- A checked line: what the request asks for and the columns of the stock row behind it. -/
structure NormalizedLine where
  lineType : LineType
  qty : ℤ
  qtyPositive : 1 ≤ qty
  snapshot : StockSnapshot
deriving Repr

instance : DecidableEq NormalizedLine := fun first second =>
  decidable_of_iff (first.lineType = second.lineType ∧ first.qty = second.qty ∧
      first.snapshot = second.snapshot) (by
    cases first
    cases second
    simp)

def validateTransferSnapshot (line : TransferLineCreate) : Except AppError (PLift (1 ≤ line.qty)) :=
  Checked.require (1 ≤ line.qty) (.validation "qty must be at least 1") fun positive => do
    ensure (line.lineType = .epc → line.qty = 1) (.validation "qty must be 1 for EPC lines")
    ensure (line.lineType = .epc → isTruthy line.snapshot.epc)
      (.validation "epc is required for EPC lines")
    ensure (line.lineType = .sku → ¬ isTruthy line.snapshot.epc)
      (.validation "epc must be empty for SKU lines")
    ensure (line.lineType = .sku → isTruthy line.snapshot.sku)
      (.validation "sku is required for SKU lines")
    ensure (line.lineType = .sku → isTruthy line.snapshot.status →
        line.snapshot.status.any (· ∈ transferSkuAllowedStatuses))
      (.validation "SKU lines require PENDING or RFID status")
    ensure (isTruthy line.snapshot.locationCode ∧ isTruthy line.snapshot.pool)
      (.validation "location_code and pool are required in line snapshot")
    return ⟨positive⟩

/-- Give a row that no store holds to a store. -/
def claimFor (storeId : ℕ) (row : StockItem) : StockItem := { row with storeId := some storeId }

/-- The row of an EPC, claimed for the origin store when no store holds it. -/
def validateTransferableEpcStock (session : StockSession) (tenantId originStoreId : ℕ)
    (epc : String) (expectedLocationCode expectedPool : Option String) :
    Except AppError (StockSession × StockItem) := do
  let found ← fetch (session.first (epcFilters tenantId epc))
    (.validation "epc is not available in origin_store_id")
  let session := if found.storeId = none then session.assign [found.id] (claimFor originStoreId)
    else session
  let stockRow := if found.storeId = none then claimFor originStoreId found else found
  ensure (stockRow.storeId = some originStoreId)
    (.conflict "epc is not available in origin_store_id")
  ensure (stockRow.status ≠ some "SOLD") (.validation "stock is not transferable")
  ensure (isTruthy expectedLocationCode → stockRow.locationCode = expectedLocationCode)
    (.conflict "stock location changed since draft snapshot")
  ensure (isTruthy expectedPool → stockRow.pool = expectedPool)
    (.conflict "stock pool changed since draft snapshot")
  return (session, stockRow)

/-- The oldest rows of a SKU, as many as the line asks for. -/
def validateTransferableSkuStock (session : StockSession) (tenantId originStoreId : ℕ)
    (line : TransferLineCreate) (expectedLocationCode expectedPool : Option String) :
    Except AppError (List StockItem) := do
  let sku ← fetch (line.snapshot.sku.filter (· ≠ "")) (.validation "sku is required for SKU lines")
  let rows := session.select
    (transferSkuFilters tenantId originStoreId sku
    (orElse expectedLocationCode line.snapshot.locationCode)
      (orElse expectedPool line.snapshot.pool)) line.qty.toNat
  ensure (line.qty ≤ rows.length) (.conflict "insufficient sku stock in origin_store_id")
  return rows

/-- The oldest active transfer that reserves an EPC; drafts of stores that no longer hold it do not
count. -/
def getTransferConflictForEpc (db : Db) (tenantId : ℕ) (epc : String)
    (currentStoreId excludeTransferId : Option ℕ) :
    Option Transfer :=
  let rows := (db.transferLines.filter fun line => line.tenantId = tenantId &&
      line.epc = some epc).flatMap fun line =>
    db.transfers.filter fun transfer => transfer.id = line.transferId &&
      transfer.tenantId = tenantId && transfer.status.isActive && excludeTransferId.all
      (transfer.id ≠ ·)
  (rows.insertionSort fun a b => a.createdAt ≤ b.createdAt).find? fun transfer =>
    ¬ (transfer.status = .draft ∧ currentStoreId.any (transfer.originStoreId ≠ ·))

def assertNoTransferConflict (db : Db) (tenantId : ℕ) (epc : String)
    (currentStoreId excludeTransferId : Option ℕ) :
    Except AppError Unit :=
  ensure (getTransferConflictForEpc db tenantId epc currentStoreId excludeTransferId = none)
    (.conflict "epc is reserved by a valid active transfer")

def normalizeTransferLine (db : Db) (session : StockSession) (tenantId originStoreId : ℕ)
    (line : TransferLineCreate) (excludeTransferId : Option ℕ) :
    Except AppError (StockSession × NormalizedLine) := do
  let positive ← validateTransferSnapshot line
  match line.lineType with
  | .sku =>
    let skuRows ← validateTransferableSkuStock session tenantId originStoreId line none none
    -- The rows are at least as many as the positive quantity, so the first one exists.
    let row ← fetch skuRows.head? (.validation "list index out of range")
    return (session, ⟨.sku, line.qty, positive.down, { row.toStockSnapshot with epc := none }⟩)
  | .epc =>
    let epc := line.snapshot.epc.getD ""
    let (session, stockRow) ← validateTransferableEpcStock session tenantId originStoreId epc
      none none
    assertNoTransferConflict db tenantId epc stockRow.storeId excludeTransferId
    return (session, ⟨.epc, line.qty, positive.down, stockRow.toStockSnapshot⟩)

/-- The lines checked so far, the EPCs they name and the session they changed. -/
structure Normalization where
  session : StockSession
  seenEpcs : List String := []
  normalized : List NormalizedLine := []

def normalizeNextLine (db : Db) (tenantId originStoreId : ℕ) (excludeTransferId : Option ℕ)
    (progress : Normalization) (line : TransferLineCreate) : Except AppError Normalization := do
  let lineEpc := strip (line.snapshot.epc.getD "")
  ensure (line.lineType = .epc → lineEpc ∉ progress.seenEpcs)
    (.validation "duplicate epc in transfer lines")
  let (session, normalized) ←
    normalizeTransferLine db progress.session tenantId originStoreId line excludeTransferId
  return ⟨session, if line.lineType = .epc then progress.seenEpcs ++ [lineEpc]
    else progress.seenEpcs, progress.normalized ++ [normalized]⟩

def normalizeTransferLines (db : Db) (tenantId originStoreId : ℕ) (lines : List TransferLineCreate)
    (excludeTransferId : Option ℕ) : Except AppError Normalization :=
  lines.foldlM (normalizeNextLine db tenantId originStoreId excludeTransferId)
    { session := { flushed := db.stock } }

end ArisCloud

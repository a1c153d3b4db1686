import ArisCloud.Model.StockRequests

/-! # Preload lines, tags and issues

A preload line becomes a stock row when it is saved, with its tag or to wait for one. A tag that is
assigned is recorded in the table of assignments until it is released. An issue overwrites the item
status of a unit until it is resolved.
-/

namespace ArisCloud

open Checked (ensure fetch)

/-! ## Preload lines -/

structure PreloadLineInput where
  sku : Option String := none
  epc : Option String := none
  description : Option String := none
  var1Value : Option String := none
  var2Value : Option String := none
  pool : Option String := none
  locationCode : Option String := none
  vendible : Bool := true
  costPrice : Option Price := none
  suggestedPrice : Option Price := none
  salePrice : Option Price := none
  imageAssetId : Option ℕ := none
  qty : ℤ := 1
deriving DecidableEq, Repr

structure PreloadSessionCreateRequest where
  tenantId : Option ℕ := none
  storeId : Option ℕ := none
  lines : List PreloadLineInput
deriving DecidableEq, Repr

/-- No preload line has this identifier, or any above it, yet. -/
def Db.freshPreloadLineId (db : Db) : ℕ := freshId (db.preloadLines.map (·.id))

def stagedLine (db : Db) (tenantId : ℕ) (storeId : Option ℕ) (index : ℕ) (row : PreloadLineInput) :
    PreloadLine :=
  { id := db.freshPreloadLineId + index, itemUid := db.freshItemUid + index, tenantId, storeId,
    sku := row.sku, epc := row.epc.filter (· ≠ ""), description := row.description,
    var1Value := row.var1Value, var2Value := row.var2Value, pool := row.pool,
    locationCode := row.locationCode, vendible := row.vendible, costPrice := row.costPrice,
    suggestedPrice := row.suggestedPrice, salePrice := row.salePrice
    imageAssetId := row.imageAssetId }

def createPreloadSession (db : Db) (context : RequestContext)
    (payload : PreloadSessionCreateRequest) :
    Except AppError Db := do
  let tenantId ← resolvePosTenantId context.tokenData payload.tenantId
  requireTenantAdmin context.tokenData
  let units := payload.lines.flatMap fun row => List.replicate (max 1 row.qty).toNat row
  return { db with preloadLines := db.preloadLines ++ units.mapIdx (stagedLine db tenantId payload.storeId) }

/-- The line that a request names, which has to be one of its tenant. -/
def getPreloadLine (db : Db) (context : RequestContext) (lineId : ℕ) (tenantId : Option ℕ) :
    Except AppError PreloadLine := do
  let tenantId ← resolvePosTenantId context.tokenData tenantId
  fetch ((db.preloadLines.find? (·.id = lineId)).filter (·.tenantId = tenantId))
    (.validation "preload line not found")

def Db.updatePreloadLine (db : Db) (lineId : ℕ) (change : PreloadLine → PreloadLine) : Db :=
  { db with preloadLines := KeyedRows.update (·.id) [lineId] change db.preloadLines }

structure PreloadLinePatchRequest where
  salePrice : Option Price := none
  epc : Option String := none
  pool : Option String := none
  locationCode : Option String := none
  vendible : Option Bool := none
  imageAssetId : Option ℕ := none
deriving DecidableEq, Repr

def patchPreloadLine (db : Db) (context : RequestContext) (lineId : ℕ) (tenantId : Option ℕ)
    (payload : PreloadLinePatchRequest) : Except AppError Db := do
  let line ← getPreloadLine db context lineId tenantId
  return db.updatePreloadLine line.id fun line =>
    { line with
      salePrice := payload.salePrice.or line.salePrice
      epc := payload.epc.or line.epc
      pool := payload.pool.or line.pool
      locationCode := payload.locationCode.or line.locationCode
      vendible := payload.vendible.getD line.vendible
      imageAssetId := payload.imageAssetId.or line.imageAssetId }

/-! ## Tags -/

/-- The assignment under which a tag is in use. -/
def activeAssignment (db : Db) (tenantId : ℕ) (epc : String) : Option EpcAssignment :=
  db.epcAssignments.find? fun assignment => assignment.tenantId = tenantId &&
    assignment.epc = epc && assignment.active

def assertEpcAvailable (db : Db) (tenantId : ℕ) (epc : String) : Except AppError Unit := do
  ensure (activeAssignment db tenantId epc = none)
    (.conflict "epc already active on another in-stock item")
  ensure (∀ row ∈ db.stock.rows, row.tenantId = tenantId → row.epc = some epc →
    row.itemStatus ≠ "ACTIVE") (.conflict "epc already active on another in-stock item")

def Db.addEpcAssignment (db : Db) (tenantId : ℕ) (storeId : Option ℕ) (epc : String) (itemUid : ℕ) :
    Db :=
  { db with epcAssignments := db.epcAssignments ++
      [{ id := freshId (db.epcAssignments.map (·.id)), tenantId, storeId, epc, itemUid }] }

/-- The tables with one assignment released. -/
def Db.releaseEpcAssignment (db : Db) (assignmentId : ℕ) (reason : Option String) : Db :=
  { db with epcAssignments := KeyedRows.update (·.id) [assignmentId] (fun assignment =>
      { assignment with active := false, lastReleaseReason := reason,
                        status := "RELEASED" }) db.epcAssignments }

/-- Write a tag; a tag that another row holds is reported as a conflict. -/
def commitPreloadEpcWrite (session : StockSession) : Except AppError StockTable :=
  match session.commit with
  | .ok table => .ok table
  | .error error => .error (if error.message = "uq_stock_items_tenant_epc" then
      .conflict "epc already active on another in-stock item" else error)

/-- The stock row of a saved line, before it has a tag. -/
def savedItem (db : Db) (context : RequestContext) (line : PreloadLine) : StockItem :=
  { sku := line.sku, description := line.description, var1Value := line.var1Value,
    var2Value := line.var2Value, costPrice := line.costPrice, suggestedPrice := line.suggestedPrice,
    salePrice := line.salePrice, epc := none, locationCode := line.locationCode, pool := line.pool,
    status := some "PENDING", locationIsVendible := line.vendible
    image := { assetId := line.imageAssetId }, id := db.freshStockItemId, itemUid := line.itemUid
    tenantId := line.tenantId, storeId := line.storeId, itemStatus := "PENDING_EPC",
    createdAt := context.now }

/-- A stock row that gets a tag. -/
def tagRow (epc : String) (row : StockItem) : StockItem :=
  { row with epc := some epc, status := some "RFID", itemStatus := "ACTIVE",
             epcStatus := "ASSIGNED" }

def savePreloadLine (db : Db) (context : RequestContext) (lineId : ℕ) (tenantId : Option ℕ) :
    Except AppError Db := do
  let line ← getPreloadLine db context lineId tenantId
  ensure (line.salePrice.any (0 < ·.cents))
    (.validation "sale_price is required and must be greater than 0")
  let session : StockSession := { flushed := db.stock }
  let item := savedItem db context line
  match line.epc.filter (· ≠ "") with
  | none =>
    let stock ← (session.add item).commit
    return { db with stock }.updatePreloadLine line.id fun line =>
      { line with lifecycleState := .pendingEpc, itemStatus := "PENDING_EPC",
                  savedStockItemId := some item.id }
  | some epc =>
    assertEpcAvailable db line.tenantId epc
    let stock ← (session.add (tagRow epc { item with printStatus := "READY_TO_PRINT" })).commit
    return ({ db with stock }.addEpcAssignment line.tenantId line.storeId epc
      line.itemUid).updatePreloadLine line.id fun line =>
      { line with
        lifecycleState := .savedEpcFinal
        itemStatus := "ACTIVE"
        epcStatus := "ASSIGNED"
        savedStockItemId := some item.id }

/-- The caller's own store, which has to be that of the line. -/
def resolveQueryScope (tokenData : TokenData) (requestedStoreId : Option ℕ) :
    Except AppError Unit := do
  let tokenStoreId ← fetch tokenData.storeId ⟨.storeScopeRequired, ""⟩
  ensure (requestedStoreId = some tokenStoreId) ⟨.storeScopeMismatch, ""⟩

def assignPendingEpc (db : Db) (context : RequestContext) (lineId : ℕ) (tenantId : Option ℕ)
    (epc : String) :
    Except AppError Db := do
  let line ← getPreloadLine db context lineId tenantId
  resolveQueryScope context.tokenData line.storeId
  ensure (line.lifecycleState = .pendingEpc ∧ line.savedStockItemId.isSome)
    (.conflict "line must be saved in pending EPC state before assignment")
  assertEpcAvailable db line.tenantId epc
  let session : StockSession := { flushed := db.stock }
  let stock ← commitPreloadEpcWrite (session.assign line.savedStockItemId.toList (tagRow epc))
  return ({ db with stock }.addEpcAssignment line.tenantId line.storeId epc
      line.itemUid).updatePreloadLine line.id fun line =>
    { line with epc := some epc, epcStatus := "ASSIGNED", itemStatus := "ACTIVE",
                lifecycleState := .savedEpcFinal }

structure EpcReleaseRequest where
  epc : String
  itemUid : ℕ
  reason : String
deriving DecidableEq, Repr

/-- The active assignment of a tag to one unit. -/
def assignmentOfUnit (db : Db) (tenantId : ℕ) (epc : String) (itemUid : ℕ) : Option EpcAssignment :=
  db.epcAssignments.find? fun assignment => assignment.tenantId = tenantId &&
    assignment.epc = epc && assignment.itemUid = itemUid && assignment.active

def itemOfUid (db : Db) (tenantId itemUid : ℕ) : Option StockItem :=
  db.stock.rows.find? fun row => row.tenantId = tenantId && row.itemUid = itemUid

/-- A unit whose tag was released. -/
def releaseRow (row : StockItem) : StockItem := { row with epc := none, epcStatus := "AVAILABLE" }

def releaseEpc (db : Db) (context : RequestContext) (tenantId : Option ℕ)
    (payload : EpcReleaseRequest) :
    Except AppError Db := do
  let tenantId ← resolvePosTenantId context.tokenData tenantId
  let assignment ← fetch (assignmentOfUnit db tenantId payload.epc payload.itemUid)
    (.conflict "invalid EPC release attempt: active assignment not found")
  let session : StockSession := { flushed := db.stock }
  let released := (itemOfUid db tenantId payload.itemUid).map (·.id)
  let stock ← (session.assign released.toList releaseRow).commit
  return { db with stock }.releaseEpcAssignment assignment.id (some payload.reason)

/-! ## Issues -/

inductive IssueState
  | damaged
  | stolen
  | donated
  | lost
  | addedByError
  | review
  | writeOffConfirmed
deriving DecidableEq, Repr

def IssueState.text : IssueState → String
  | .damaged => "DAMAGED"
  | .stolen => "STOLEN"
  | .donated => "DONATED"
  | .lost => "LOST"
  | .addedByError => "ADDED_BY_ERROR"
  | .review => "REVIEW"
  | .writeOffConfirmed => "WRITE_OFF_CONFIRMED"

structure ItemIssueRequest where
  issueState : IssueState
  releaseEpc : Bool
  releaseReason : Option String := none
  keepEpcAssigned : Bool := false
deriving DecidableEq, Repr

/-- A unit with an issue, whose tag is released when the request says so. -/
def issueRow (payload : ItemIssueRequest) (row : StockItem) : StockItem :=
  let marked :=
    { row with issueState := some payload.issueState.text, itemStatus := payload.issueState.text }
  if payload.releaseEpc ∧ isTruthy row.epc then
    if payload.keepEpcAssigned then { marked with epcStatus := "AVAILABLE" }
    else { marked with epcStatus := "AVAILABLE", epc := none, status := some "PENDING" }
  else marked

theorem issueRow_id (payload : ItemIssueRequest) (row : StockItem) :
    (issueRow payload row).id = row.id := by
  unfold issueRow
  split
  · split <;> rfl
  · rfl

def markIssue (db : Db) (context : RequestContext) (itemUid : ℕ) (tenantId : Option ℕ)
    (payload : ItemIssueRequest) :
    Except AppError Db := do
  let tenantId ← resolvePosTenantId context.tokenData tenantId
  let item ← fetch (itemOfUid db tenantId itemUid) (.validation "item not found")
  ensure (item.itemStatus ≠ "SOLD")
    (.conflict "invalid state transition: sold items cannot be marked with issue disposition")
  let session : StockSession := { flushed := db.stock }
  let stock ← (session.assign [item.id] (issueRow payload) (issueRow_id payload)).commit
  let marked := { db with stock }
  let assignment := if payload.releaseEpc then
      (item.epc.filter (· ≠ "")).bind fun epc => assignmentOfUnit db tenantId epc item.itemUid
    else none
  match assignment with
  | some assignment =>
    return marked.releaseEpcAssignment assignment.id
      (orElse payload.releaseReason (some payload.issueState.text))
  | none => return marked

/-- A unit whose issue was resolved to an item status, whatever that is. -/
def resolvedRow (itemStatus : String) (row : StockItem) : StockItem :=
  { row with itemStatus, status := if itemStatus = "ACTIVE" then some "RFID" else row.status,
             issueState := none }

def resolveIssue (db : Db) (context : RequestContext) (itemUid : ℕ) (tenantId : Option ℕ)
    (itemStatus : String) :
    Except AppError Db := do
  let tenantId ← resolvePosTenantId context.tokenData tenantId
  let item ← fetch (itemOfUid db tenantId itemUid) (.validation "item not found")
  ensure (isTruthy item.issueState)
    (.conflict "invalid state transition: item is not currently in issue state")
  let session : StockSession := { flushed := db.stock }
  let stock ← (session.assign [item.id] (resolvedRow itemStatus)).commit
  return { db with stock }

/-! ## Requests -/

/-- The requests of the stock router that change the tables. -/
inductive StockRequest
  | importEpc (context : RequestContext) (payload : StockImportRequest)
  | importSku (context : RequestContext) (payload : StockImportRequest)
  | migrate (context : RequestContext) (payload : StockMigrateRequest)
  | action (context : RequestContext) (payload : StockActionRequest)
  | createPreload (context : RequestContext) (payload : PreloadSessionCreateRequest)
  | patchLine (context : RequestContext) (lineId : ℕ) (tenantId : Option ℕ)
      (payload : PreloadLinePatchRequest)
  | saveLine (context : RequestContext) (lineId : ℕ) (tenantId : Option ℕ)
  | assignEpc (context : RequestContext) (lineId : ℕ) (tenantId : Option ℕ) (epc : String)
  | releaseEpc (context : RequestContext) (tenantId : Option ℕ) (payload : EpcReleaseRequest)
  | markIssue (context : RequestContext) (itemUid : ℕ) (tenantId : Option ℕ)
      (payload : ItemIssueRequest)
  | resolveIssue (context : RequestContext) (itemUid : ℕ) (tenantId : Option ℕ)
      (itemStatus : String)

def stockStep (db : Db) : StockRequest → Except AppError Db
  | .importEpc context payload => importStockEpc db context payload
  | .importSku context payload => importStockSku db context payload
  | .migrate context payload => migrateStockSkuToEpc db context payload
  | .action context payload => stockActions db context payload
  | .createPreload context payload => createPreloadSession db context payload
  | .patchLine context lineId tenantId payload =>
    patchPreloadLine db context lineId tenantId payload
  | .saveLine context lineId tenantId => savePreloadLine db context lineId tenantId
  | .assignEpc context lineId tenantId epc => assignPendingEpc db context lineId tenantId epc
  | .releaseEpc context tenantId payload => releaseEpc db context tenantId payload
  | .markIssue context itemUid tenantId payload => markIssue db context itemUid tenantId payload
  | .resolveIssue context itemUid tenantId itemStatus =>
    resolveIssue db context itemUid tenantId itemStatus

/-- The requests of a store on its goods: sales, their returns, and the stock router. -/
inductive GoodsRequest
  | sale (request : SaleRequest)
  | stock (request : StockRequest)

def goodsStep (db : Db) : GoodsRequest → Except AppError Db
  | .sale request => saleStep db request
  | .stock request => stockStep db request

end ArisCloud

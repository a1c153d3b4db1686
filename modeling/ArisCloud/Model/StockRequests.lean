import ArisCloud.Model.SaleActions

/-! # The stock router

Stock enters by imports and by preload lines, which may wait for their tag. Tags are assigned,
replaced and released, units are marked with an issue and cleared of it, and some are written off. A
tag is stored on its unit and again in a table of assignments, and a unit has a status and an item
status.
-/

namespace ArisCloud

open Checked (ensure fetch)

/-! ## Checks -/

def canWriteStockOrAssets (tokenData : TokenData) : Bool :=
  normalizedRole tokenData ∈ ["SUPERADMIN", "PLATFORM_ADMIN", "ADMIN"]

def requireTenantAdmin (tokenData : TokenData) : Except AppError Unit :=
  ensure (canWriteStockOrAssets tokenData) ⟨.permissionDenied, ""⟩

def validateScopedStore (db : Db) (tenantId storeId : ℕ) : Except AppError Unit :=
  ensure (∃ store ∈ db.stores, store.id = storeId ∧ store.tenantId = tenantId)
    ⟨.crossTenantAccessDenied, "store_id is outside tenant scope"⟩

/-- Twenty-four upper-case hexadecimal digits. -/
def isEpc (epc : String) : Bool :=
  epc.length = 24 && epc.toList.all fun c => ('0' ≤ c && c ≤ '9') || ('A' ≤ c && c ≤ 'F')

def validateEpc (epc : String) : Except AppError Unit :=
  ensure (isEpc epc) (.validation "epc must be 24 hex uppercase characters")

/-- The stock columns of a payload. -/
structure StockDataBlock where
  sku : Option String
  description : Option String := none
  var1Value : Option String := none
  var2Value : Option String := none
  costPrice : Option Price := none
  suggestedPrice : Option Price := none
  salePrice : Option Price := none
  epc : Option String
  locationCode : Option String := none
  pool : Option String := none
  storeId : Option ℕ := none
  status : Option String
  locationIsVendible : Option Bool := none
  image : StockImage := {}
deriving DecidableEq, Repr

def validateLocationPool (data : StockDataBlock) : Except AppError Unit :=
  ensure (isTruthy data.locationCode ∧ isTruthy data.pool)
    (.validation "location_code and pool are required")

def validateExpectedStatus (status : Option String) (expected : String) : Except AppError Unit :=
  ensure (status = some expected) (.validation "status does not match expected pool")

/-- Write stock rows; any violated constraint is reported as a tag that exists. -/
def commitStockItems (session : StockSession) : Except AppError StockTable :=
  match session.commit with
  | .ok table => .ok table
  | .error _ => .error (.validation "epc already exists")

/-! ## Identifiers -/

/-- No table mentions this stock row, or any above it, yet. -/
def Db.freshStockItemId (db : Db) : ℕ :=
  freshId (db.stock.rows.map (·.id) ++ db.preloadLines.filterMap (·.savedStockItemId))

/-- No table mentions this item number, or any above it, yet. -/
def Db.freshItemUid (db : Db) : ℕ :=
  freshId (db.stock.rows.map (·.itemUid) ++ db.preloadLines.map (·.itemUid) ++ db.epcAssignments.map
    (·.itemUid) ++ db.saleLines.filterMap (·.itemUid))

/-! ## Imports -/

structure StockImportLine extends StockDataBlock where
  qty : ℤ
deriving DecidableEq, Repr

structure StockImportRequest where
  transactionId : Option String
  tenantId : Option ℕ := none
  lines : List StockImportLine
deriving DecidableEq, Repr

def applyImportDefaults (line : StockImportLine) : StockImportLine :=
  { line with
    pool := orElse line.pool (some "BODEGA")
    locationCode := orElse line.locationCode (some "WH-MAIN")
    locationIsVendible := some (line.locationIsVendible.getD false) }

/-- The row that an import makes of a line, at a place in the order of the new rows. -/
def importedItem (db : Db) (context : RequestContext) (tenantId : ℕ) (status : String)
    (epc : Option String) (line : StockImportLine) (index : ℕ) : StockItem :=
  { sku := line.sku, description := line.description, var1Value := line.var1Value,
    var2Value := line.var2Value, costPrice := line.costPrice, suggestedPrice := line.suggestedPrice,
    salePrice := line.salePrice, epc, locationCode := line.locationCode, pool := line.pool,
    status := some status, locationIsVendible := line.locationIsVendible.getD false,
    image := line.image, id := db.freshStockItemId + index, itemUid := db.freshItemUid + index,
    tenantId, storeId := line.storeId, createdAt := context.now }

/-- The checks of one line of an EPC import, after those of the lines whose EPCs were seen. -/
def checkImportEpcLine (db : Db) (tenantId : ℕ) (seenEpcs : List String) (line : StockImportLine) :
    Except AppError (List String) := do
  validateLocationPool line.toStockDataBlock
  line.storeId.forM (validateScopedStore db tenantId)
  validateExpectedStatus line.status "RFID"
  ensure (line.qty = 1) (.validation "qty must be exactly 1 for EPC imports")
  let epc ← fetch line.epc (.validation "epc is required for EPC imports")
  validateEpc epc
  ensure (epc ∉ seenEpcs) (.validation "duplicate epc in request")
  return seenEpcs ++ [epc]

def importStockEpc (db : Db) (context : RequestContext) (payload : StockImportRequest) :
    Except AppError Db := do
  requirePermission context "STORE_MANAGE"
  requireTenantAdmin context.tokenData
  requireTransactionId payload.transactionId
  let tenantId ← resolvePosTenantId context.tokenData payload.tenantId
  ensure (payload.lines ≠ []) (.validation "lines must not be empty")
  let lines := payload.lines.map applyImportDefaults
  let epcs ← lines.foldlM (checkImportEpcLine db tenantId) []
  ensure (∀ row ∈ db.stock.rows, row.tenantId = tenantId → ∀ epc ∈ row.epc, epc ∉ epcs)
    (.validation "epc already exists")
  let items := lines.mapIdx fun index line =>
    importedItem db context tenantId "RFID" line.epc line index
  let stock ← commitStockItems { flushed := db.stock, added := items }
  return { db with stock }

def checkImportSkuLine (db : Db) (tenantId : ℕ) (line : StockImportLine) :
    Except AppError Unit := do
  validateLocationPool line.toStockDataBlock
  let storeId ← fetch line.storeId (.validation "store_id is required")
  ensure (isTruthy line.sku) (.validation "sku is required")
  validateScopedStore db tenantId storeId
  validateExpectedStatus line.status "PENDING"
  ensure (1 ≤ line.qty) (.validation "qty must be at least 1")
  ensure (¬ isTruthy line.epc) (.validation "epc must be empty for SKU imports")

def importStockSku (db : Db) (context : RequestContext) (payload : StockImportRequest) :
    Except AppError Db := do
  requirePermission context "STORE_MANAGE"
  requireTenantAdmin context.tokenData
  requireTransactionId payload.transactionId
  let tenantId ← resolvePosTenantId context.tokenData payload.tenantId
  ensure (payload.lines ≠ []) (.validation "lines must not be empty")
  let lines := payload.lines.map applyImportDefaults
  lines.forM (checkImportSkuLine db tenantId)
  let units := lines.flatMap fun line => List.replicate line.qty.toNat line
  let items := units.mapIdx fun index line =>
    importedItem db context tenantId "PENDING" none line index
  let stock ← commitStockItems { flushed := db.stock, added := items }
  return { db with stock }

/-! ## Migration of untagged stock -/

structure StockMigrateRequest where
  transactionId : Option String
  tenantId : Option ℕ := none
  epc : String
  data : StockDataBlock
deriving DecidableEq, Repr

/-- The untagged pending rows that agree with the columns that the payload gives. -/
def pendingMigrationFilters (tenantId : ℕ) (data : StockDataBlock) (row : StockItem) : Bool :=
  row.tenantId = tenantId && row.status = some "PENDING" && row.epc = none &&
    data.sku.all (row.sku = some ·) && data.var1Value.all (row.var1Value = some ·) &&
    data.var2Value.all (row.var2Value = some ·) && data.locationCode.all
    (row.locationCode = some ·) && data.pool.all (row.pool = some ·) &&
    row.storeId = data.storeId && data.locationIsVendible.all (row.locationIsVendible = ·)

def migratedRow (payload : StockMigrateRequest) (row : StockItem) : StockItem :=
  { row with
    epc := some payload.epc
    status := some "RFID"
    costPrice := payload.data.costPrice.or row.costPrice
    suggestedPrice := payload.data.suggestedPrice.or row.suggestedPrice
    salePrice := payload.data.salePrice.or row.salePrice
    storeId := payload.data.storeId }

def ensureUnusedEpc (db : Db) (tenantId : ℕ) (epc : String) : Except AppError Unit :=
  ensure (∀ row ∈ db.stock.rows, row.tenantId = tenantId → row.epc ≠ some epc)
    (.validation "epc already exists")

def migrateStockSkuToEpc (db : Db) (context : RequestContext) (payload : StockMigrateRequest) :
    Except AppError Db := do
  requirePermission context "STORE_MANAGE"
  requireTenantAdmin context.tokenData
  requireTransactionId payload.transactionId
  let tenantId ← resolvePosTenantId context.tokenData payload.tenantId
  validateLocationPool payload.data
  payload.data.storeId.forM (validateScopedStore db tenantId)
  validateExpectedStatus payload.data.status "PENDING"
  validateEpc payload.epc
  ensureUnusedEpc db tenantId payload.epc
  let session : StockSession := { flushed := db.stock }
  match session.select (pendingMigrationFilters tenantId payload.data) 1 with
  | [] => throw (.validation "no pending stock available for migration")
  | pendingRow :: _ =>
    let stock ← (session.assign [pendingRow.id] (migratedRow payload)).commit
    return { db with stock }

/-! ## Stock actions -/

inductive EpcLifecycle
  | markEpcDamaged
  | retireEpc
  | returnEpcToPool
deriving DecidableEq, Repr

inductive EpcType
  | nonReusableLabel
  | reusableTag
deriving DecidableEq, Repr

inductive StockAction
  | writeOff (reason : Option String) (qty : ℤ) (data : StockDataBlock)
  | reprice (data : StockDataBlock)
  | markdownByAge (data : StockDataBlock)
  | reprintLabel (data : StockDataBlock)
  | replaceEpc (currentEpc newEpc : String)
  | epcLifecycle (action : EpcLifecycle) (epc : String) (epcType : Option EpcType)
deriving DecidableEq, Repr

structure StockActionRequest where
  transactionId : Option String
  tenantId : Option ℕ := none
  action : StockAction
deriving DecidableEq, Repr

/-- The rows that agree with every column of the payload but the prices. -/
def stockMatchFilter (tenantId : ℕ) (data : StockDataBlock) (row : StockItem) : Bool :=
  row.tenantId = tenantId && row.sku = data.sku && row.description = data.description &&
    row.var1Value = data.var1Value && row.var2Value = data.var2Value && row.epc = data.epc &&
    row.locationCode = data.locationCode && row.pool = data.pool &&
    row.storeId = data.storeId && row.status = data.status && some row.locationIsVendible =
    data.locationIsVendible && row.image = data.image

/-- The row that holds a tag. -/
def rowOfEpc (db : Db) (tenantId : ℕ) (epc : String) : Except AppError StockItem :=
  fetch (db.stock.rows.find? fun row => row.tenantId = tenantId && row.epc = some epc)
    (.validation "stock item not found")

def writeOff (db : Db) (tenantId : ℕ) (reason : Option String) (qty : ℤ) (data : StockDataBlock) :
    Except AppError Db := do
  validateLocationPool data
  ensure (data.status = some "RFID" ∨ data.status = some "PENDING")
    (.validation "status must be RFID or PENDING")
  ensure (1 ≤ qty) (.validation "qty must be at least 1")
  ensure ((reason.getD "").toUpper = "LOST" → data.locationCode ≠ some "IN_TRANSIT" ∧
    data.pool ≠ some "IN_TRANSIT")
    (.validation "lost write-off not allowed for IN_TRANSIT locations")
  let session : StockSession := { flushed := db.stock }
  if data.status = some "RFID" then
    ensure (qty = 1) (.validation "qty must be 1 for RFID write-off")
    let epc ← fetch (data.epc.filter (· ≠ "")) (.validation "epc is required for RFID write-off")
    validateEpc epc
    let row ← rowOfEpc db tenantId epc
    ensure (row.locationCode = data.locationCode ∧ row.pool = data.pool ∧ row.status = data.status ∧
      some row.locationIsVendible = data.locationIsVendible)
      (.validation "pool/location/status mismatch for write-off")
    let stock ← (session.delete [row.id]).commit
    return { db with stock }
  else
    ensure (data.epc = none) (.validation "epc must be empty for PENDING write-off")
    let rows := session.select (stockMatchFilter tenantId data) qty.toNat
    ensure (qty ≤ rows.length) (.validation "insufficient pending stock for write-off")
    let stock ← (session.delete (rows.map (·.id))).commit
    return { db with stock }

/-- Repricing, markdown and reprinting look a row up and leave every column as it is. -/
def inspectStock (db : Db) (tenantId : ℕ) (data : StockDataBlock) (missing : String) :
    Except AppError Db := do
  validateLocationPool data
  ensure (∃ row ∈ db.stock.rows, stockMatchFilter tenantId data row) (.validation missing)
  return db

def replaceEpc (db : Db) (tenantId : ℕ) (currentEpc newEpc : String) : Except AppError Db := do
  ensure (currentEpc ≠ newEpc) (.validation "new_epc must differ from current_epc")
  validateEpc currentEpc
  validateEpc newEpc
  ensureUnusedEpc db tenantId newEpc
  let row ← rowOfEpc db tenantId currentEpc
  ensure (row.status = some "RFID") (.validation "status must be RFID to replace epc")
  let session : StockSession := { flushed := db.stock }
  let stock ← (session.assign [row.id] fun row => { row with epc := some newEpc }).commit
  return { db with stock }

/-- A row whose tag was damaged, retired or returned to the pool. -/
def untagRow (row : StockItem) : StockItem := { row with epc := none, status := some "PENDING" }

def epcLifecycle (db : Db) (tenantId : ℕ) (action : EpcLifecycle) (epc : String)
    (epcType : Option EpcType) :
    Except AppError Db := do
  validateEpc epc
  let row ← rowOfEpc db tenantId epc
  ensure (row.status = some "RFID") (.validation "status must be RFID for EPC lifecycle action")
  ensure (action = .returnEpcToPool → epcType ≠ none)
    (.validation "epc_type is required to return to pool")
  ensure (action = .returnEpcToPool → epcType ≠ some .nonReusableLabel)
    (.validation "non reusable labels cannot be returned to pool")
  let session : StockSession := { flushed := db.stock }
  let stock ← (session.assign [row.id] untagRow).commit
  return { db with stock }

def stockActions (db : Db) (context : RequestContext) (payload : StockActionRequest) :
    Except AppError Db := do
  requirePermission context "STORE_MANAGE"
  requireTransactionId payload.transactionId
  let tenantId ← resolvePosTenantId context.tokenData payload.tenantId
  match payload.action with
  | .writeOff reason qty data => writeOff db tenantId reason qty data
  | .reprice data => inspectStock db tenantId data "stock item not found for repricing"
  | .markdownByAge data => inspectStock db tenantId data "stock item not found for markdown"
  | .reprintLabel data => inspectStock db tenantId data "stock item not found for reprint"
  | .replaceEpc currentEpc newEpc => replaceEpc db tenantId currentEpc newEpc
  | .epcLifecycle action epc epcType => epcLifecycle db tenantId action epc epcType

end ArisCloud

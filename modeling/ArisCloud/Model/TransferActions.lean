import ArisCloud.Model.Transfers

/-! # Transfer requests

Creation, replacement of a draft and the five actions, each as a function from the committed tables
to the tables it commits. The loops over lines share one session, whose queries see the stock as it
was before the request.
-/

namespace ArisCloud

open Checked (ensure fetch)

/-! ## Drafts -/

structure TransferCreateRequest where
  transactionId : Option String
  tenantId : Option ℕ := none
  originStoreId : ℕ
  destinationStoreId : ℕ
  lines : List TransferLineCreate
deriving DecidableEq, Repr

structure TransferUpdateRequest where
  transactionId : Option String
  tenantId : Option ℕ := none
  originStoreId : Option ℕ := none
  destinationStoreId : Option ℕ := none
  lines : Option (List TransferLineCreate) := none
deriving DecidableEq, Repr

/-- No table mentions this transfer yet. -/
def Db.freshTransferId (db : Db) : ℕ :=
  freshId (db.transfers.map (·.id) ++ db.transferLines.map (·.transferId) ++
    db.transferMovements.map (·.transferId))

theorem Db.id_lt_freshTransferId (db : Db) {transfer : Transfer}
    (member : transfer ∈ db.transfers) :
    transfer.id < db.freshTransferId :=
  lt_freshId (List.mem_append_left
    _ (List.mem_append_left _ (List.mem_map_of_mem (f := (·.id)) member)))

theorem Db.transferId_lt_freshTransferId (db : Db) {line : TransferLine}
    (member : line ∈ db.transferLines) :
    line.transferId < db.freshTransferId :=
  lt_freshId (List.mem_append_left
    _ (List.mem_append_right _ (List.mem_map_of_mem (f := (·.transferId)) member)))

theorem Db.movement_lt_freshTransferId (db : Db) {movement : TransferMovement}
    (member : movement ∈ db.transferMovements) :
    movement.transferId < db.freshTransferId :=
  lt_freshId (List.mem_append_right _ (List.mem_map_of_mem (f := (·.transferId)) member))

/-- No table mentions this line, or any line above it, yet. -/
def Db.freshTransferLineId (db : Db) : ℕ :=
  freshId (db.transferLines.map (·.id) ++ db.transferMovements.map (·.transferLineId))

theorem Db.id_lt_freshTransferLineId (db : Db) {line : TransferLine}
    (member : line ∈ db.transferLines) :
    line.id < db.freshTransferLineId :=
  lt_freshId (List.mem_append_left _ (List.mem_map_of_mem (f := (·.id)) member))

def newTransferLines (db : Db) (tenantId transferId : ℕ) (normalized : List NormalizedLine) :
    List TransferLine :=
  normalized.mapIdx fun index line =>
    { line.snapshot with
      id := db.freshTransferLineId + index
      transferId, tenantId
      lineType := line.lineType
      qty := line.qty
      qtyPositive := line.qtyPositive }

def createTransfer (db : Db) (context : RequestContext) (payload : TransferCreateRequest) :
    Except AppError Db := do
  requireAnyPermission context ["transfers.create", "TRANSFER_MANAGE"]
  requireTransactionId payload.transactionId
  let tenantId ← resolveTenantId context.tokenData payload.tenantId
  ensure (payload.originStoreId ≠ payload.destinationStoreId)
    (.validation "origin_store_id and destination_store_id must differ")
  ensureStoreTenant db tenantId payload.originStoreId "origin_store_id"
  ensureStoreTenant db tenantId payload.destinationStoreId "destination_store_id"
  enforceOriginStoreScope context.tokenData payload.originStoreId
  ensure (payload.lines ≠ []) (.validation "lines must not be empty")
  let progress ← normalizeTransferLines db tenantId payload.originStoreId payload.lines none
  let stock ← progress.session.commit
  let transfer : Transfer :=
    { id := db.freshTransferId, tenantId, originStoreId := payload.originStoreId
      destinationStoreId := payload.destinationStoreId, status := .draft, createdAt := context.now }
  return { db with
    stock
    transfers := db.transfers ++ [transfer]
    transferLines :=
      db.transferLines ++ newTransferLines db tenantId transfer.id progress.normalized }

def getLines (db : Db) (transferId : ℕ) : List TransferLine :=
  db.transferLines.filter fun line => line.transferId = transferId

/-- A line as the request that would create it again. -/
def TransferLine.asCreate (line : TransferLine) : TransferLineCreate :=
  { lineType := .sku, qty := line.qty, snapshot := { line.toStockSnapshot with epc := none } }

def assertDraftLineNotStale (session : StockSession) (tenantId originStoreId : ℕ) (epc : String) :
    Except AppError Unit :=
  let currentStoreId := (session.flushed.rows.find? (epcFilters tenantId epc)).bind (·.storeId)
  ensure (currentStoreId.all (· = originStoreId))
    (.conflict "draft transfer line is stale: epc no longer belongs to draft origin_store_id")

def revalidateExistingDraftLine (db : Db) (tenantId originStoreId transferId : ℕ)
    (session : StockSession) (line : TransferLine) : Except AppError StockSession :=
  match line.lineType with
  | .sku => do
    let _ ← validateTransferableSkuStock session tenantId originStoreId line.asCreate
      line.locationCode line.pool
    return session
  | .epc => do
    let epc ← fetch (line.epc.filter (· ≠ "")) (.validation "epc is required for EPC lines")
    assertDraftLineNotStale session tenantId originStoreId epc
    let (session, _) ← validateTransferableEpcStock session tenantId originStoreId epc
      line.locationCode line.pool
    assertNoTransferConflict db tenantId epc (some originStoreId) (some transferId)
    return session

def revalidateExistingDraftLines (db : Db) (tenantId originStoreId transferId : ℕ)
    (lines : List TransferLine) :
    Except AppError StockSession :=
  lines.foldlM (revalidateExistingDraftLine db tenantId originStoreId transferId)
    { flushed := db.stock }

def findTransfer (db : Db) (tenantId transferId : ℕ) : Except AppError Transfer :=
  fetch (db.transfers.find? fun transfer => transfer.id = transferId &&
    transfer.tenantId = tenantId) (.validation "transfer not found")

/-- The tables with one transfer changed. -/
def Db.updateTransfer (db : Db) (transferId : ℕ) (change : Transfer → Transfer) : Db :=
  { db with transfers := KeyedRows.update (·.id) [transferId] change db.transfers }

/-- The session and the lines that an update leaves the draft with. -/
def updatedTransferLines (db : Db) (tenantId originStoreId : ℕ) (transfer : Transfer)
    (lines : Option (List TransferLineCreate)) :
    Except AppError (StockSession × List TransferLine) :=
  match lines with
  | some lines => do
    ensure (lines ≠ []) (.validation "lines must not be empty")
    let progress ← normalizeTransferLines db tenantId originStoreId lines (some transfer.id)
    return (progress.session, (db.transferLines.filter fun line => line.transferId ≠ transfer.id) ++
      newTransferLines db tenantId transfer.id progress.normalized)
  | none => do
    let session ← revalidateExistingDraftLines db tenantId originStoreId transfer.id
      (getLines db transfer.id)
    return (session, db.transferLines)

def updateTransfer (db : Db) (context : RequestContext) (transferId : ℕ)
    (payload : TransferUpdateRequest) :
    Except AppError Db := do
  requireAnyPermission context ["transfers.update", "TRANSFER_MANAGE"]
  requireTransactionId payload.transactionId
  let tenantId ← resolveTenantId context.tokenData payload.tenantId
  let transfer ← findTransfer db tenantId transferId
  ensure (transfer.status = .draft) (.validation "only draft transfers can be updated")
  let originStoreId := payload.originStoreId.getD transfer.originStoreId
  let destinationStoreId := payload.destinationStoreId.getD transfer.destinationStoreId
  ensure (originStoreId ≠ destinationStoreId)
    (.validation "origin_store_id and destination_store_id must differ")
  ensureStoreTenant db tenantId originStoreId "origin_store_id"
  ensureStoreTenant db tenantId destinationStoreId "destination_store_id"
  enforceOriginStoreScope context.tokenData originStoreId
  let (session, transferLines) ← updatedTransferLines db tenantId originStoreId transfer
    payload.lines
  let stock ← session.commit
  return { db with stock, transferLines }.updateTransfer transfer.id fun row =>
    { row with originStoreId, destinationStoreId }

/-! ## Movements -/

/-- The session of an action and the movements it has written so far. -/
structure ActionBatch where
  session : StockSession
  movements : List TransferMovement := []

/-- The ledger of one transfer: the lines it mentions and the quantity of each action on a line. -/
structure MovementTotals where
  lineIds : List ℕ
  qty : ℕ → MovementAction → ℤ

def movedQty (movements : List TransferMovement) (transferId lineId : ℕ) (action : MovementAction) :
    ℤ :=
  Tally.sumWhere (fun movement => movement.transferId = transferId && movement.transferLineId =
    lineId && movement.action = action) (·.qty) movements

def getMovementTotals (db : Db) (transferId : ℕ) : MovementTotals :=
  { lineIds := ((db.transferMovements.filter (·.transferId = transferId)).map (·.transferLineId)).dedup
    qty := movedQty db.transferMovements transferId }

namespace MovementTotals

/-- What was dispatched and is neither received nor lost. -/
def outstanding (totals : MovementTotals) (lineId : ℕ) : ℤ :=
  totals.qty lineId .dispatch - totals.qty lineId .receive - totals.qty lineId
    .shortageResolvedLostInRoute

/-- What was reported short and is not resolved. -/
def shortageRemaining (totals : MovementTotals) (lineId : ℕ) : ℤ :=
  max (totals.qty lineId .shortageReported - totals.qty lineId .shortageResolvedFoundAndResend -
    totals.qty lineId .shortageResolvedLostInRoute) 0

def outstandingTotal (totals : MovementTotals) : ℤ :=
  (totals.lineIds.map fun lineId => max (totals.outstanding lineId) 0).sum

def record (totals : MovementTotals) (lineId : ℕ) (action : MovementAction) (qty : ℤ) :
    MovementTotals :=
  { lineIds := totals.lineIds.insert lineId
    qty := fun line other => totals.qty line other + if line = lineId ∧ other = action then qty
    else 0 }

end MovementTotals

def newMovement (transfer : Transfer) (line : TransferLine) (action : MovementAction) (qty : ℤ)
    (fromLocationCode fromPool toLocationCode toPool : Option String) : TransferMovement :=
  { tenantId := transfer.tenantId, transferId := transfer.id, transferLineId := line.id, action
    fromLocationCode, fromPool, toLocationCode, toPool, status := line.status, qty }

/-! ## Dispatch -/

def moveToTransit (row : StockItem) : StockItem :=
  { row with locationCode := some inTransitCode, pool := some inTransitCode,
             locationIsVendible := false }

/-- A tagged row also stays with the origin store while it travels. -/
def moveEpcToTransit (transfer : Transfer) (row : StockItem) : StockItem :=
  { moveToTransit row with storeId := some transfer.originStoreId }

def dispatchLine (transfer : Transfer) (batch : ActionBatch) (line : TransferLine) :
    Except AppError ActionBatch :=
  let written (qty : ℤ) := batch.movements ++
    [newMovement transfer line .dispatch qty line.locationCode line.pool (some inTransitCode)
    (some inTransitCode)]
  match line.lineType with
  | .sku => do
    let pendingRows ← validateTransferableSkuStock batch.session transfer.tenantId
      transfer.originStoreId line.asCreate line.locationCode line.pool
    return ⟨batch.session.assign (pendingRows.map (·.id)) moveToTransit, written line.qty⟩
  | .epc => do
    let epc ← fetch (line.epc.filter (· ≠ "")) (.validation "epc is required for EPC dispatch")
    let (session, row) ← validateTransferableEpcStock batch.session transfer.tenantId
      transfer.originStoreId epc line.locationCode line.pool
    return ⟨session.assign [row.id] (moveEpcToTransit transfer), written 1⟩

def dispatchTransfer (db : Db) (context : RequestContext) (transfer : Transfer) :
    Except AppError Db := do
  requireActionPermission context "transfers.dispatch"
  enforceOriginStoreScope context.tokenData transfer.originStoreId
  ensure (transfer.status = .draft) (.validation "only draft transfers can be dispatched")
  let lines := getLines db transfer.id
  ensure (lines ≠ []) (.validation "transfer has no lines")
  let session ← revalidateExistingDraftLines db transfer.tenantId transfer.originStoreId
    transfer.id lines
  let batch ← lines.foldlM (dispatchLine transfer) { session }
  let stock ← batch.session.commit
  return { db with stock,
                   transferMovements := db.transferMovements ++ batch.movements }.updateTransfer
    transfer.id fun row => { row with status := .dispatched, dispatchedAt := some context.now }

/-! ## Receive -/

structure TransferReceiveLine where
  lineId : ℕ
  qty : ℤ := 1
  locationCode : Option String := none
  pool : Option String := none
  locationIsVendible : Option Bool := none
deriving DecidableEq, Repr

/-- Where a received unit is put, with the defaults of the destination store. -/
def resolveReceiveDestination (receiveLine : TransferReceiveLine) (transfer : Transfer) :
    String × String × Bool :=
  ((receiveLine.locationCode.filter (· ≠ "")).getD s!"STORE-{transfer.destinationStoreId}",
    (receiveLine.pool.filter (· ≠ "")).getD defaultReceivePool,
    receiveLine.locationIsVendible.getD true)

/-- A received unit at its place in the destination store. -/
def receivePlace (transfer : Transfer) (receiveLine : TransferReceiveLine) (row : StockItem) :
    StockItem :=
  let (locationCode, pool, locationIsVendible) := resolveReceiveDestination receiveLine transfer
  { row with
    locationCode := some locationCode
    pool := some pool
    storeId := some transfer.destinationStoreId
    locationIsVendible }

def findTransferLine (lines : List TransferLine) (lineId : ℕ) : Except AppError TransferLine :=
  fetch (lines.find? (·.id = lineId)) (.validation "transfer line not found")

def receiveTransferLine (transfer : Transfer) (lines : List TransferLine) (totals : MovementTotals)
    (batch : ActionBatch) (receiveLine : TransferReceiveLine) : Except AppError ActionBatch := do
  let line ← findTransferLine lines receiveLine.lineId
  ensure (1 ≤ receiveLine.qty) (.validation "receive qty must be at least 1")
  ensure (receiveLine.qty ≤ totals.outstanding receiveLine.lineId)
    (.validation "receive qty exceeds outstanding")
  let (locationCode, pool, _) := resolveReceiveDestination receiveLine transfer
  let written :=
    batch.movements ++ [newMovement transfer line .receive receiveLine.qty (some inTransitCode)
    (some inTransitCode) (some locationCode) (some pool)]
  match line.lineType with
  | .sku =>
    let rows := batch.session.select
      (inTransitSkuFilters transfer.tenantId (· = some transfer.originStoreId)
      line.toStockSnapshot) receiveLine.qty.toNat
    ensure (receiveLine.qty ≤ rows.length) (.validation "insufficient in-transit sku stock")
    return ⟨batch.session.assign (rows.map (·.id)) (receivePlace transfer receiveLine), written⟩
  | .epc =>
    ensure (receiveLine.qty = 1) (.validation "receive qty must be 1 for EPC lines")
    let epc ← fetch (line.epc.filter (· ≠ "")) (.validation "epc is required for EPC receive")
    let row ← fetch (batch.session.first fun row => epcFilters transfer.tenantId epc row &&
        (row.storeId = some transfer.originStoreId || row.storeId = none) && row.inTransit)
      (.validation "epc item not in transit")
    return ⟨batch.session.assign [row.id] (receivePlace transfer receiveLine), written⟩

def receiveTransfer (db : Db) (context : RequestContext) (transfer : Transfer)
    (receiveLines : List TransferReceiveLine) : Except AppError Db := do
  requireActionPermission context "transfers.receive"
  enforceDestinationStoreScope context.tokenData transfer.destinationStoreId
  ensure transfer.status.isEnRoute (.validation "transfer cannot be received from this state")
  ensure (receiveLines ≠ []) (.validation "receive_lines must not be empty")
  let totals := getMovementTotals db transfer.id
  let batch ← receiveLines.foldlM (receiveTransferLine transfer (getLines db transfer.id) totals)
    { session := { flushed := db.stock } }
  let totalsAfter :=
    receiveLines.foldl (fun totals line => totals.record line.lineId .receive line.qty) totals
  let stock ← batch.session.commit
  return { db with stock,
                   transferMovements := db.transferMovements ++ batch.movements }.updateTransfer
    transfer.id fun row =>
      if totalsAfter.outstandingTotal = 0 then { row with status := .received,
                                                          receivedAt := some context.now }
      else { row with status := .partialReceived }

/-! ## Shortages -/

structure TransferShortageLine where
  lineId : ℕ
  qty : ℤ
deriving DecidableEq, Repr

def reportShortageLine (transfer : Transfer) (lines : List TransferLine) (totals : MovementTotals)
    (movements : List TransferMovement) (shortage : TransferShortageLine) :
    Except AppError (List TransferMovement) := do
  let line ← findTransferLine lines shortage.lineId
  ensure (1 ≤ shortage.qty) (.validation "shortage qty must be at least 1")
  ensure (line.lineType = .epc → shortage.qty = 1)
    (.validation "shortage qty must be 1 for EPC lines")
  ensure (shortage.qty + totals.qty shortage.lineId .shortageReported ≤ max
    (totals.outstanding shortage.lineId) 0) (.validation "shortage qty exceeds outstanding")
  return movements ++ [newMovement transfer line .shortageReported shortage.qty (some inTransitCode)
    (some inTransitCode) (some inTransitCode) (some inTransitCode)]

def reportShortages (db : Db) (context : RequestContext) (transfer : Transfer)
    (shortages : List TransferShortageLine) : Except AppError Db := do
  requireActionPermission context "transfers.resolve"
  enforceDestinationStoreScope context.tokenData transfer.destinationStoreId
  ensure transfer.status.isEnRoute (.validation "shortages cannot be reported from this state")
  ensure (shortages ≠ []) (.validation "shortages must not be empty")
  let totals := getMovementTotals db transfer.id
  ensure (0 < totals.outstandingTotal) (.validation "no outstanding quantities to report shortages")
  let movements ← shortages.foldlM (reportShortageLine transfer (getLines db transfer.id) totals) []
  return { db with transferMovements := db.transferMovements ++ movements }

inductive ShortageResolution
  | foundAndResend
  | lostInRoute
deriving DecidableEq, Repr

def ShortageResolution.action : ShortageResolution → MovementAction
  | .foundAndResend => .shortageResolvedFoundAndResend
  | .lostInRoute => .shortageResolvedLostInRoute

/-- The rows in transit that a loss removes. -/
def lostRows (session : StockSession) (transfer : Transfer) (line : TransferLine) (qty : ℤ) :
    Except AppError (List StockItem) :=
  match line.lineType with
  | .epc => do
    let row ← fetch (session.first fun row => row.tenantId = transfer.tenantId &&
      row.epc = line.epc && row.inTransit) (.validation "epc item not in transit")
    return [row]
  | .sku => do
    let pendingRows := session.select (inTransitSkuFilters transfer.tenantId
      (fun storeId => storeId = some transfer.originStoreId || storeId = none) line.toStockSnapshot)
      qty.toNat
    ensure (qty ≤ pendingRows.length) (.validation "insufficient in-transit stock for loss")
    return pendingRows

def resolveShortageLine (transfer : Transfer) (lines : List TransferLine) (totals : MovementTotals)
    (resolution : ShortageResolution) (batch : ActionBatch)
    (resolutionLine : TransferShortageLine) :
    Except AppError ActionBatch := do
  let line ← findTransferLine lines resolutionLine.lineId
  ensure (1 ≤ resolutionLine.qty) (.validation "resolution qty must be at least 1")
  ensure (line.lineType = .epc → resolutionLine.qty = 1)
    (.validation "resolution qty must be 1 for EPC lines")
  ensure (resolutionLine.qty ≤ totals.shortageRemaining resolutionLine.lineId)
    (.validation "resolution qty exceeds shortage remaining")
  match resolution with
  | .foundAndResend =>
    return ⟨batch.session,
      batch.movements ++ [newMovement transfer line resolution.action resolutionLine.qty
      line.locationCode line.pool (some inTransitCode) (some inTransitCode)]⟩
  | .lostInRoute =>
    let rows ← lostRows batch.session transfer line resolutionLine.qty
    return ⟨batch.session.delete (rows.map (·.id)),
      batch.movements ++ [newMovement transfer line resolution.action
      resolutionLine.qty (some inTransitCode) (some inTransitCode) (some "LOST_IN_ROUTE")
      (some "LOST_IN_ROUTE")]⟩

def resolveShortages (db : Db) (context : RequestContext) (transfer : Transfer)
    (resolution : ShortageResolution) (resolutionLines : List TransferShortageLine) :
    Except AppError Db := do
  requireActionPermission context "transfers.resolve"
  enforceDestinationStoreScope context.tokenData transfer.destinationStoreId
  ensure transfer.status.isEnRoute (.validation "shortages cannot be resolved from this state")
  ensure (resolutionLines ≠ []) (.validation "resolution lines must not be empty")
  ensure (resolution = .lostInRoute → isSuperadmin context.tokenData ∨
      context.tokenData.role = some "MANAGER" ∨ context.tokenData.role = some "ADMIN")
      ⟨.permissionDenied, ""⟩
  let totals := getMovementTotals db transfer.id
  let batch ← resolutionLines.foldlM
    (resolveShortageLine transfer (getLines db transfer.id) totals resolution)
    { session := { flushed := db.stock } }
  let totalsAfter :=
    resolutionLines.foldl (fun totals line => totals.record line.lineId resolution.action line.qty)
      totals
  let stock ← batch.session.commit
  return { db with stock,
                   transferMovements := db.transferMovements ++ batch.movements }.updateTransfer
    transfer.id fun row =>
      if totalsAfter.outstandingTotal = 0 then { row with status := .received,
                                                          receivedAt := some context.now }
      else row

/-! ## Cancel -/

/-- Put a row back where its line found it. -/
def restorePlace (line : TransferLine) (row : StockItem) : StockItem :=
  { row with
    locationCode := line.locationCode
    pool := line.pool
    locationIsVendible := line.locationIsVendible }

def cancelLine (transfer : Transfer) (session : StockSession) (line : TransferLine) :
    Except AppError StockSession :=
  match line.lineType with
  | .sku => do
    let rows := session.select
      (inTransitSkuFilters transfer.tenantId (· = some transfer.originStoreId)
      line.toStockSnapshot) line.qty.toNat
    ensure (line.qty ≤ rows.length) (.conflict "sku stock not in transit for cancel")
    return session.assign (rows.map (·.id)) (restorePlace line)
  | .epc => do
    let epc ← fetch (line.epc.filter (· ≠ "")) (.validation "epc is required for EPC cancel")
    let row ← fetch (session.first fun row => epcFilters transfer.tenantId epc row &&
        row.storeId = some transfer.originStoreId && row.inTransit)
      (.conflict "epc item not in transit for cancel")
    return session.assign [row.id] (restorePlace line)

/-- The session after a cancel: only a dispatched transfer has rows to put back. -/
def canceledSession (db : Db) (transfer : Transfer) : Except AppError StockSession :=
  if transfer.status = .dispatched then
    (getLines db transfer.id).foldlM (cancelLine transfer) { flushed := db.stock }
  else .ok { flushed := db.stock }

def cancelTransfer (db : Db) (context : RequestContext) (transfer : Transfer) :
    Except AppError Db := do
  requireActionPermission context "transfers.cancel"
  ensure (¬ (transfer.status = .dispatched ∧ transfer.receivedAt ≠ none))
    (.validation "dispatched transfers with receptions cannot be cancelled")
  ensure (transfer.status = .draft ∨ transfer.status = .dispatched)
    (.validation "transfer cannot be cancelled from this state")
  let session ← canceledSession db transfer
  let stock ← session.commit
  return { db with stock }.updateTransfer transfer.id fun row =>
    { row with status := .canceled, canceledAt := some context.now }

/-! ## The action endpoint -/

inductive TransferAction
  | dispatch
  | receive (receiveLines : List TransferReceiveLine)
  | reportShortages (shortages : List TransferShortageLine)
  | resolveShortages (resolution : ShortageResolution) (lines : List TransferShortageLine)
  | cancel
deriving DecidableEq, Repr

structure TransferActionRequest where
  transactionId : Option String
  tenantId : Option ℕ := none
  action : TransferAction
deriving DecidableEq, Repr

def transferActions (db : Db) (context : RequestContext) (transferId : ℕ)
    (payload : TransferActionRequest) :
    Except AppError Db := do
  requireAnyPermission context
    ["transfers.dispatch", "transfers.receive", "transfers.cancel", "transfers.resolve",
    "TRANSFER_MANAGE"]
  requireTransactionId payload.transactionId
  let tenantId ← resolveTenantId context.tokenData payload.tenantId
  let transfer ← findTransfer db tenantId transferId
  match payload.action with
  | .dispatch => dispatchTransfer db context transfer
  | .receive receiveLines => receiveTransfer db context transfer receiveLines
  | .reportShortages shortages => reportShortages db context transfer shortages
  | .resolveShortages resolution lines => resolveShortages db context transfer resolution lines
  | .cancel => cancelTransfer db context transfer

/-- The requests of the transfer router that change the tables. -/
inductive TransferRequest
  | create (context : RequestContext) (payload : TransferCreateRequest)
  | update (context : RequestContext) (transferId : ℕ) (payload : TransferUpdateRequest)
  | action (context : RequestContext) (transferId : ℕ) (payload : TransferActionRequest)

def transferStep (db : Db) : TransferRequest → Except AppError Db
  | .create context payload => createTransfer db context payload
  | .update context transferId payload => updateTransfer db context transferId payload
  | .action context transferId payload => transferActions db context transferId payload

end ArisCloud

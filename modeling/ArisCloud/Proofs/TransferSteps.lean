import ArisCloud.Proofs.StockCommits
import ArisCloud.Proofs.TransferDrafts

/-! # What each transfer request commits

One inversion lemma per request: which rows its loop took for which line, how it changed them, which
movements it wrote and what became of the transfer. Everything proved about runs of transfers rests
on these statements and never unfolds a request again.
-/

namespace ArisCloud

open KeyedRows

/-! ## Batches -/

/-- One iteration of an action's loop: the change of rows it makes and the movement it writes. -/
abbrev ActionOutput := Edit StockItem.id × TransferMovement

def ActionBatch.write (batch : ActionBatch) (output : ActionOutput) : ActionBatch :=
  ⟨{ batch.session with edits := batch.session.edits ++ [output.1] }, batch.movements ++ [output.2]⟩

theorem ActionBatch.foldl_write (batch : ActionBatch) (outputs : List ActionOutput) :
    outputs.foldl write batch =
      ⟨{ batch.session with edits := batch.session.edits ++ outputs.map (·.1) },
        batch.movements ++ outputs.map (·.2)⟩ := by
  induction outputs generalizing batch with
  | nil => simp
  | cons output rest ih => simp [ih, write]

private theorem StockSession.Claims.editsOnly {session : StockSession} {table : StockTable}
    {storeId : ℕ} (claims : session.Claims table storeId) : session.EditsOnly table :=
  ⟨claims.flushed, claims.kept, claims.fresh⟩

private theorem orElse_self (text : Option String) : orElse text text = text := by
  simp [orElse]

/-! ## Requests on transfers -/

private theorem findTransfer_eq_ok {db : Db} {tenantId transferId : ℕ} {transfer : Transfer}
    (found : findTransfer db tenantId transferId = .ok transfer) :
    transfer ∈ db.transfers ∧ transfer.id = transferId ∧ transfer.tenantId = tenantId := by
  rw [findTransfer, Checked.fetch_eq_ok] at found
  simpa using And.intro (List.mem_of_find?_eq_some found) (List.find?_some found)

private theorem findTransferLine_eq_ok {lines : List TransferLine} {lineId : ℕ}
    {line : TransferLine} (found : findTransferLine lines lineId = .ok line) : line ∈ lines ∧
    line.id = lineId := by
  rw [findTransferLine, Checked.fetch_eq_ok] at found
  exact ⟨List.mem_of_find?_eq_some found, by simpa using List.find?_some found⟩

@[simp] theorem mem_getLines {db : Db} {transferId : ℕ} {line : TransferLine} :
    line ∈ getLines db transferId ↔ line ∈ db.transferLines ∧ line.transferId = transferId := by
  simp [getLines]

theorem map_snapshot_newTransferLines (db : Db) (tenantId transferId : ℕ)
    (normalized : List NormalizedLine) :
    (newTransferLines db tenantId transferId normalized).map (·.toStockSnapshot) = normalized.map
    (·.snapshot) := by
  refine List.ext_getElem (by simp [newTransferLines]) fun index _ _ => ?_
  simp [newTransferLines]

/-- A new line belongs to its transfer and copies a checked line. -/
theorem mem_newTransferLines {db : Db} {tenantId transferId : ℕ} {normalized : List NormalizedLine}
    {line : TransferLine} (member : line ∈ newTransferLines db tenantId transferId normalized) :
    line.tenantId = tenantId ∧ line.transferId = transferId ∧ db.freshTransferLineId ≤ line.id ∧
      ∃ source ∈ normalized, line.toStockSnapshot = source.snapshot ∧
      line.lineType = source.lineType ∧
        line.qty = source.qty := by
  obtain ⟨index, bound, rfl⟩ := List.mem_iff_getElem.mp member
  simp only [newTransferLines, List.length_mapIdx] at bound
  simp only [newTransferLines, List.getElem_mapIdx]
  exact ⟨trivial, trivial, Nat.le_add_right _ _, _, List.getElem_mem bound, rfl, rfl, rfl⟩

/-- A created draft: its checked lines and the stock with the rows they claimed. -/
structure Created (db after : Db) (tenantId : ℕ) (progress : Normalization) (transfer : Transfer) :
    Prop where
  checked : progress.Checked db tenantId transfer.originStoreId none
  stock : after.stock.rows = db.stock.rows.map progress.session.current
  tenant : transfer.tenantId = tenantId
  id : transfer.id = db.freshTransferId
  status : transfer.status = .draft
  dispatchedAt : transfer.dispatchedAt = none
  receivedAt : transfer.receivedAt = none
  canceledAt : transfer.canceledAt = none
  tables : after = { db with
    stock := after.stock
    transfers := db.transfers ++ [transfer]
    transferLines :=
      db.transferLines ++ newTransferLines db tenantId transfer.id progress.normalized }

private theorem createTransfer_ok {db after : Db} {context : RequestContext}
    {payload : TransferCreateRequest} (success : createTransfer db context payload = .ok after) :
    ∃ tenantId progress transfer, Created db after tenantId progress transfer := by
  simp only [createTransfer, Checked.bind_eq_ok, Checked.pure_eq_ok] at success
  obtain ⟨_, _, _, _, tenantId, _, _, _, _, _, _, _, _, _, _, _, progress, normalized, stock,
    committed, rfl⟩ := success
  have checked := normalizeTransferLines_ok normalized
  refine ⟨tenantId, progress, _, checked, ?_, rfl, rfl, rfl, rfl, rfl, rfl, rfl⟩
  rw [StockSession.commit_eq_ok committed, checked.claims.editsOnly.rowsAfter]

/-- The two ways an update leaves the lines of a draft. -/
inductive UpdatedLines (db : Db) (tenantId originStoreId : ℕ) (transfer : Transfer)
    (session : StockSession) :
    List TransferLine → Prop
  | replaced (progress : Normalization)
      (checked : progress.Checked db tenantId originStoreId (some transfer.id))
      (same : progress.session = session) :
      UpdatedLines db tenantId originStoreId transfer session
        ((db.transferLines.filter fun line => line.transferId ≠ transfer.id) ++
          newTransferLines db tenantId transfer.id progress.normalized)
  | kept (valid : ∀ line ∈ getLines db transfer.id,
      RevalidatedLine db tenantId originStoreId transfer.id line session) :
      UpdatedLines db tenantId originStoreId transfer session db.transferLines

/-- An updated draft: its new stores, its new or revalidated lines and the stock they claimed. -/
structure Updated (db after : Db) (tenantId originStoreId destinationStoreId : ℕ)
    (transfer : Transfer) (session : StockSession) : Prop where
  member : transfer ∈ db.transfers
  tenant : transfer.tenantId = tenantId
  draft : transfer.status = .draft
  claims : session.Claims db.stock originStoreId
  stock : after.stock.rows = db.stock.rows.map session.current
  lines : UpdatedLines db tenantId originStoreId transfer session after.transferLines
  tables : after = { db with
    stock := after.stock
    transferLines := after.transferLines
    transfers := update Transfer.id [transfer.id]
      (fun row => { row with originStoreId, destinationStoreId }) db.transfers }

private theorem updatedTransferLines_ok {db : Db} {tenantId originStoreId : ℕ} {transfer : Transfer}
    {lines : Option (List TransferLineCreate)} {session : StockSession}
    {transferLines : List TransferLine}
    (success : updatedTransferLines db tenantId originStoreId transfer lines = .ok
      (session, transferLines)) :
    session.Claims db.stock originStoreId ∧
      UpdatedLines db tenantId originStoreId transfer session transferLines := by
  cases lines with
  | some lines =>
    simp only [updatedTransferLines, Checked.bind_eq_ok, Checked.pure_eq_ok,
      Prod.mk.injEq] at success
    obtain ⟨_, _, progress, normalized, rfl, rfl⟩ := success
    have checked := normalizeTransferLines_ok normalized
    exact ⟨checked.claims, .replaced progress checked rfl⟩
  | none =>
    simp only [updatedTransferLines, Checked.bind_eq_ok, Checked.pure_eq_ok,
      Prod.mk.injEq] at success
    obtain ⟨session, revalidated, rfl, rfl⟩ := success
    obtain ⟨claims, valid⟩ := revalidateExistingDraftLines_ok revalidated
    exact ⟨claims, .kept valid⟩

private theorem updateTransfer_ok {db after : Db} {context : RequestContext} {transferId : ℕ}
    {payload : TransferUpdateRequest}
    (success : updateTransfer db context transferId payload = .ok after) :
    ∃ tenantId originStoreId destinationStoreId transfer session, transfer.id = transferId ∧
      Updated db after tenantId originStoreId destinationStoreId transfer session := by
  simp only [updateTransfer, requireAnyPermission, requireTransactionId, ensureStoreTenant,
    enforceOriginStoreScope, Checked.bind_eq_ok, Checked.ensure_eq_ok, exists_const,
    Checked.pure_eq_ok] at success
  obtain ⟨_, _, tenantId, _, transfer, found, draft, _, _, _, _, ⟨session, transferLines⟩, linesOk,
      stock, committed, rfl⟩ :=
    success
  obtain ⟨member, id, tenant⟩ := findTransfer_eq_ok found
  obtain ⟨claims, lines⟩ := updatedTransferLines_ok linesOk
  refine ⟨tenantId, _, _, transfer, session, id, member, tenant, draft, claims, ?_, lines, rfl⟩
  rw [← claims.editsOnly.rowsAfter, ← StockSession.commit_eq_ok committed]
  rfl

/-! ## Dispatch -/

/-- The rows a dispatch takes for a line. -/
def dispatchSelector (transfer : Transfer) (line : TransferLine) : StockItem → Bool :=
  match line.lineType with
  | .sku => transferSkuFilters transfer.tenantId transfer.originStoreId
    (line.sku.getD "") line.locationCode line.pool
  | .epc => epcFilters transfer.tenantId (line.epc.getD "")

/-- How many rows a line stands for, and the quantity of its DISPATCH movement. -/
def TransferLine.units (line : TransferLine) : ℤ :=
  match line.lineType with
  | .sku => line.qty
  | .epc => 1

def dispatchChange (transfer : Transfer) (line : TransferLine) : StockItem → StockItem :=
  match line.lineType with
  | .sku => moveToTransit
  | .epc => moveEpcToTransit transfer

theorem TransferLine.one_le_units (line : TransferLine) : 1 ≤ line.units := by
  unfold units
  split
  · exact line.qtyPositive
  · exact le_rfl

/-- The identifiers that a query returns for a line: of the row with its tag, or of its oldest
untagged rows. -/
def takenIds (table : StockTable) (lineType : LineType) (selector : StockItem → Bool) (qty : ℤ) :
    List ℕ :=
  match lineType with
  | .epc => ((table.rows.find? selector).map (·.id)).toList
  | .sku => (oldest (·.createdAt) selector qty.toNat table.rows).map (·.id)

/-- A query returns rows that it selects. -/
theorem selected_of_mem_takenIds {table : StockTable} {lineType : LineType}
    {selector : StockItem → Bool} {qty : ℤ} {row : StockItem} (member : row ∈ table.rows)
    (taken : row.id ∈ takenIds table lineType selector qty) :
    selector row = true := by
  cases lineType with
  | epc =>
    simp only [takenIds, Option.mem_toList, Option.map_eq_some_iff] at taken
    obtain ⟨other, first, same⟩ := taken
    exact eq_of_key_eq table.distinctIds (List.mem_of_find?_eq_some first) member same ▸
        List.find?_some first
  | sku =>
    simp only [takenIds, List.mem_map] at taken
    obtain ⟨other, selected, same⟩ := taken
    obtain ⟨isRow, matching⟩ := mem_of_mem_oldest selected
    exact eq_of_key_eq table.distinctIds isRow member same ▸ matching

/-- A query returns rows that are there. -/
theorem present_of_mem_takenIds {table : StockTable} {lineType : LineType}
    {selector : StockItem → Bool} {qty : ℤ} {id : ℕ}
    (taken : id ∈ takenIds table lineType selector qty) : ∃ row ∈ table.rows, row.id = id := by
  cases lineType with
  | epc =>
    simp only [takenIds, Option.mem_toList, Option.map_eq_some_iff] at taken
    obtain ⟨row, first, same⟩ := taken
    exact ⟨row, List.mem_of_find?_eq_some first, same⟩
  | sku =>
    simp only [takenIds, List.mem_map] at taken
    obtain ⟨row, selected, same⟩ := taken
    exact ⟨row, (mem_of_mem_oldest selected).1, same⟩

/-- The identifiers of the oldest rows that a SKU line stands for. -/
def dispatchIds (table : StockTable) (transfer : Transfer) (line : TransferLine) : List ℕ :=
  (oldest (·.createdAt) (dispatchSelector transfer line) line.qty.toNat table.rows).map (·.id)

/-- What a dispatch does for one line. -/
structure Dispatched (table : StockTable) (transfer : Transfer) (line : TransferLine)
    (output : ActionOutput) : Prop where
  ids : output.1.keys = takenIds table line.lineType (dispatchSelector transfer line) line.qty
  picks : Picks StockItem.id table.rows (dispatchSelector transfer line) line.units.toNat
    output.1.keys
  change : output.1.change = dispatchChange transfer line
  movement : output.2 = newMovement transfer line .dispatch line.units line.locationCode line.pool
    (some inTransitCode) (some inTransitCode)

theorem Dispatched.sku_ids {table : StockTable} {transfer : Transfer} {line : TransferLine}
    {output : ActionOutput} (taken : Dispatched table transfer line output)
    (isSku : line.lineType = .sku) :
    output.1.keys = dispatchIds table transfer line := by
  rw [taken.ids, isSku]
  rfl

/-- A dispatched transfer: revalidated lines, one output per line and the new status. -/
structure DispatchStep (db after : Db) (transfer : Transfer) (now : ℕ) (session : StockSession)
    (outputs : List ActionOutput) : Prop where
  draft : transfer.status = .draft
  nonempty : getLines db transfer.id ≠ []
  claims : session.Claims db.stock transfer.originStoreId
  valid : ∀ line ∈ getLines db transfer.id,
    RevalidatedLine db transfer.tenantId transfer.originStoreId transfer.id line session
  taken : List.Forall₂ (Dispatched db.stock transfer) (getLines db transfer.id) outputs
  stock : after.stock.rows = (db.stock.rows.map session.current).map (editRow (outputs.map (·.1)))
  tables : after = { db with
    stock := after.stock
    transferMovements := db.transferMovements ++ outputs.map (·.2)
    transfers := update Transfer.id [transfer.id] (fun row =>
      { row with status := .dispatched, dispatchedAt := some now }) db.transfers }

private theorem validateTransferableSkuStock_ok {session : StockSession} {tenantId storeId : ℕ}
    {line : TransferLine} {rows : List StockItem}
    (success : validateTransferableSkuStock session tenantId storeId line.asCreate line.locationCode
      line.pool = .ok rows) :
    rows = session.select
        (transferSkuFilters tenantId storeId (line.sku.getD "") line.locationCode line.pool)
        line.qty.toNat ∧
      Picks StockItem.id session.flushed.rows
        (transferSkuFilters tenantId storeId (line.sku.getD "") line.locationCode line.pool)
        line.qty.toNat
        (rows.map (·.id)) := by
  simp only [validateTransferableSkuStock, Checked.bind_eq_ok, Checked.fetch_eq_ok,
    Option.filter_eq_some_iff, Checked.ensure_eq_ok, exists_const, Checked.pure_eq_ok,
    TransferLine.asCreate, orElse_self] at success
  obtain ⟨sku, ⟨named, _⟩, enough, rfl⟩ := success
  rw [named, Option.getD_some]
  exact ⟨rfl, StockSession.picks_select _ _ (Int.toNat_le.mpr enough)⟩

/-- A row that some store holds is found as it is; the check claims nothing. -/
theorem validateTransferableEpcStock_held {session after : StockSession} {table : StockTable}
    {tenantId storeId : ℕ} {epc : String} {expectedLocationCode expectedPool : Option String}
    {row stockRow : StockItem} (only : session.EditsOnly table)
    (found : table.rows.find? (epcFilters tenantId epc) = some row)
    (held : (session.current row).storeId ≠ none)
    (success : validateTransferableEpcStock session tenantId storeId epc expectedLocationCode
      expectedPool =
      .ok (after, stockRow)) : after = session ∧ stockRow.id = row.id := by
  simp only [validateTransferableEpcStock, Checked.bind_eq_ok, Checked.fetch_eq_ok,
    Checked.ensure_eq_ok, exists_const, Checked.pure_eq_ok, StockSession.first_eq_some,
    only.flushed, found, Option.some.injEq, Prod.mk.injEq] at success
  obtain ⟨_, ⟨_, rfl, rfl⟩, _, _, _, _, rfl, rfl⟩ := success
  simp only [if_neg held, StockSession.current_id, and_self]

/-- The state of a dispatch loop: the stores that the revalidation settled stay settled. -/
structure DispatchProgress (table : StockTable) (revalidated : StockSession) (batch : ActionBatch) :
    Prop where
  only : batch.session.EditsOnly table
  held : ∀ row, (revalidated.current row).storeId ≠ none →
    (batch.session.current row).storeId ≠ none

theorem StockSession.EditsOnly.write {table : StockTable} {batch : ActionBatch}
    (only : batch.session.EditsOnly table) (output : ActionOutput) :
    (batch.write output).session.EditsOnly table := ⟨only.flushed, only.kept, only.fresh⟩

private theorem dispatchChange_held {transfer : Transfer} {line : TransferLine} {row : StockItem}
    (held : row.storeId ≠ none) :
    (dispatchChange transfer line row).storeId ≠ none := by
  rw [dispatchChange]
  cases line.lineType with
  | sku => exact held
  | epc => exact Option.some_ne_none _

theorem DispatchProgress.write {table : StockTable} {revalidated : StockSession}
    {batch : ActionBatch} {transfer : Transfer} {line : TransferLine} {output : ActionOutput}
    (progress : DispatchProgress table revalidated batch)
    (taken : Dispatched table transfer line output) :
    DispatchProgress table revalidated (batch.write output) where
  only := progress.only.write output
  held := by
    intro row held
    simp only [ActionBatch.write, StockSession.current, editRow_append, editRow_cons, editRow_nil,
      taken.change]
    split
    · exact dispatchChange_held (progress.held row held)
    · exact progress.held row held

private theorem dispatchLine_ok {db : Db} {transfer : Transfer} {revalidated : StockSession}
    {batch next : ActionBatch} {line : TransferLine}
    (progress : DispatchProgress db.stock revalidated batch)
    (valid : RevalidatedLine db transfer.tenantId transfer.originStoreId transfer.id line
      revalidated)
    (success : dispatchLine transfer batch line = .ok next) :
    ∃ output, Dispatched db.stock transfer line output ∧ next = batch.write output := by
  unfold dispatchLine at success
  cases kind : line.lineType with
  | sku =>
    simp only [kind, Checked.bind_eq_ok, Checked.pure_eq_ok] at success
    obtain ⟨rows, selected, rfl⟩ := success
    obtain ⟨queried, picks⟩ := validateTransferableSkuStock_ok selected
    rw [progress.only.flushed] at picks
    refine ⟨(⟨rows.map (·.id), moveToTransit, fun _ => rfl⟩, _), ⟨?_, ?_, ?_, ?_⟩, rfl⟩
    · simp only [queried, StockSession.map_id_select, progress.only.flushed, takenIds,
        dispatchSelector, kind]
    · simpa only [dispatchSelector, TransferLine.units, kind] using picks
    · simp only [dispatchChange, kind]
    · simp only [TransferLine.units, kind]
      rfl
  | epc =>
    simp only [kind, Checked.bind_eq_ok, Checked.fetch_eq_ok, Option.filter_eq_some_iff,
      Prod.exists, Checked.pure_eq_ok] at success
    obtain ⟨epc, ⟨named, _⟩, session, stockRow, checked, rfl⟩ := success
    obtain ⟨other, sameName, _, ⟨row, accepted⟩, _⟩ := valid kind
    obtain rfl : other = epc := Option.some.inj (sameName.symm.trans named)
    have held : (revalidated.current row).storeId ≠ none := by
      rw [accepted.store]
      exact Option.some_ne_none _
    obtain ⟨rfl, sameRow⟩ :=
      validateTransferableEpcStock_held progress.only accepted.found
        (progress.held row held) checked
    refine ⟨(⟨[stockRow.id], moveEpcToTransit transfer, fun _ => rfl⟩, _), ⟨?_, ?_, ?_, ?_⟩, rfl⟩
    · have first := accepted.found
      simp only [takenIds, dispatchSelector, kind, named, Option.getD_some] at first ⊢
      rw [first, sameRow]
      rfl
    · simp only [dispatchSelector, TransferLine.units, kind, named, Option.getD_some, sameRow]
      exact picks_find? accepted.found
    · simp only [dispatchChange, kind]
    · simp only [TransferLine.units, kind]
      rfl

private theorem dispatchTransfer_ok {db after : Db} {context : RequestContext} {transfer : Transfer}
    (success : dispatchTransfer db context transfer = .ok after) :
    ∃ session outputs, DispatchStep db after transfer context.now session outputs := by
  simp only [dispatchTransfer, requireActionPermission, requireAnyPermission,
    enforceOriginStoreScope, Checked.bind_eq_ok, Checked.ensure_eq_ok, exists_const,
    Checked.pure_eq_ok] at success
  obtain ⟨_, _, draft, nonempty, session, revalidated, batch, loop, stock, committed, rfl⟩ :=
    success
  obtain ⟨claims, valid⟩ := revalidateExistingDraftLines_ok revalidated
  obtain ⟨outputs, taken, written, progress⟩ := Checked.foldlM_collect ActionBatch.write
    (DispatchProgress db.stock session) (Dispatched db.stock transfer) loop
    ⟨claims.editsOnly, fun _ held => held⟩ fun _ line _ member progress step => by
      obtain ⟨output, taken, written⟩ := dispatchLine_ok progress (valid line member) step
      exact ⟨output, taken, written, written ▸ progress.write taken⟩
  rw [ActionBatch.foldl_write] at written
  refine ⟨session, outputs, draft, nonempty, claims, valid, taken, ?_, by rw [written]; rfl⟩
  change stock.rows = _
  rw [StockSession.commit_eq_ok committed, progress.only.rowsAfter, List.map_map, written]
  exact List.map_congr_left fun row _ => editRow_append _

/-! ## Receive -/

/-- The rows a receive takes for a line. -/
def receiveSelector (transfer : Transfer) (line : TransferLine) (row : StockItem) : Bool :=
  match line.lineType with
  | .sku => inTransitSkuFilters transfer.tenantId
    (· = some transfer.originStoreId) line.toStockSnapshot row
  | .epc => epcFilters transfer.tenantId (line.epc.getD "") row &&
      (row.storeId = some transfer.originStoreId || row.storeId = none) && row.inTransit

/-- What a receive does for one of its lines. -/
structure Received (table : StockTable) (transfer : Transfer) (totals : MovementTotals)
    (receiveLine : TransferReceiveLine) (line : TransferLine) (output : ActionOutput) : Prop where
  id : line.id = receiveLine.lineId
  positive : 1 ≤ receiveLine.qty
  outstanding : receiveLine.qty ≤ totals.outstanding receiveLine.lineId
  single : line.lineType = .epc → receiveLine.qty = 1 ∧ line.epc ≠ none
  ids : output.1.keys = takenIds table line.lineType (receiveSelector transfer line) receiveLine.qty
  picks : Picks StockItem.id table.rows (receiveSelector transfer line) receiveLine.qty.toNat
    output.1.keys
  change : output.1.change = receivePlace transfer receiveLine
  movement : ∃ toLocationCode toPool, output.2 = newMovement transfer line .receive receiveLine.qty
    (some inTransitCode) (some inTransitCode) (some toLocationCode) (some toPool)

/-- A receive: one output per request line, and a transfer that is received once nothing is
outstanding. -/
structure ReceiveStep (db after : Db) (transfer : Transfer)
    (receiveLines : List TransferReceiveLine) (now : ℕ) (outputs : List ActionOutput) : Prop where
  enRoute : transfer.status.isEnRoute = true
  taken : List.Forall₂ (fun receiveLine output => ∃ line ∈ getLines db transfer.id,
    Received db.stock transfer (getMovementTotals db transfer.id) receiveLine line output)
    receiveLines outputs
  stock : after.stock.rows = db.stock.rows.map (editRow (outputs.map (·.1)))
  tables : after = { db with
    stock := after.stock
    transferMovements := db.transferMovements ++ outputs.map (·.2)
    transfers := update Transfer.id [transfer.id] (fun row =>
      if (receiveLines.foldl (fun totals line => totals.record line.lineId .receive line.qty)
        (getMovementTotals db transfer.id)).outstandingTotal = 0 then
        { row with status := .received, receivedAt := some now }
      else { row with status := .partialReceived }) db.transfers }

theorem receiveTransferLine_ok {table : StockTable} {transfer : Transfer}
    {lines : List TransferLine} {totals : MovementTotals} {batch next : ActionBatch}
    {receiveLine : TransferReceiveLine} (only : batch.session.EditsOnly table)
    (success : receiveTransferLine transfer lines totals batch receiveLine = .ok next) :
    ∃ output, (∃ line ∈ lines, Received table transfer totals receiveLine line output) ∧
    next = batch.write output := by
  simp only [receiveTransferLine, Checked.bind_eq_ok, Checked.ensure_eq_ok, exists_const] at success
  obtain ⟨line, found, positive, outstanding, rest⟩ := success
  obtain ⟨member, id⟩ := findTransferLine_eq_ok found
  cases kind : line.lineType with
  | sku =>
    simp only [kind, Checked.bind_eq_ok, Checked.ensure_eq_ok, exists_const,
      Checked.pure_eq_ok] at rest
    obtain ⟨enough, rfl⟩ := rest
    have picks := StockSession.picks_select _ receiveLine.qty.toNat (Int.toNat_le.mpr enough)
    rw [only.flushed] at picks
    have selector : receiveSelector transfer line = inTransitSkuFilters transfer.tenantId
        (· = some transfer.originStoreId) line.toStockSnapshot := by
      funext row
      simp [receiveSelector, kind]
    refine ⟨(⟨_, receivePlace transfer receiveLine, fun _ => rfl⟩, _),
      ⟨line, member, id, positive, outstanding, by simp [kind], ?_, ?_, rfl, _, _, rfl⟩, rfl⟩
    · simp only [takenIds, kind, selector, StockSession.map_id_select, only.flushed]
    · rw [selector]
      exact picks
  | epc =>
    simp only [kind, Checked.bind_eq_ok, Checked.ensure_eq_ok, exists_const, Checked.fetch_eq_ok,
      Option.filter_eq_some_iff, StockSession.first_eq_some, Checked.pure_eq_ok] at rest
    obtain ⟨single, epc, ⟨named, _⟩, _, ⟨row, first, rfl⟩, rfl⟩ := rest
    rw [only.flushed] at first
    have found : table.rows.find? (receiveSelector transfer line) = some row := by
      rw [← first]
      congr 1
      funext row
      simp [receiveSelector, kind, named]
    refine ⟨(⟨_, receivePlace transfer receiveLine, fun _ => rfl⟩, _),
      ⟨line, member, id, positive, outstanding, fun _ => ⟨single, by simp [named]⟩, ?_, ?_, rfl, _,
      _, rfl⟩, rfl⟩
    · simp only [takenIds, kind, found, StockSession.current_id]
      rfl
    · rw [single, StockSession.current_id]
      exact picks_find? found

private theorem receiveTransfer_ok {db after : Db} {context : RequestContext} {transfer : Transfer}
    {receiveLines : List TransferReceiveLine}
    (success : receiveTransfer db context transfer receiveLines = .ok after) :
    ∃ outputs, ReceiveStep db after transfer receiveLines context.now outputs := by
  simp only [receiveTransfer, requireActionPermission, requireAnyPermission,
    enforceDestinationStoreScope, Checked.bind_eq_ok, Checked.ensure_eq_ok, exists_const,
    Checked.pure_eq_ok] at success
  obtain ⟨_, _, enRoute, _, batch, loop, stock, committed, rfl⟩ := success
  obtain ⟨outputs, taken, written, only⟩ := Checked.foldlM_collect ActionBatch.write
    (fun batch => batch.session.EditsOnly db.stock) _ loop (.initial db.stock)
    fun _ _ _ _ only step => by
      obtain ⟨output, taken, written⟩ := receiveTransferLine_ok only step
      exact ⟨output, taken, written, written ▸ only.write output⟩
  rw [ActionBatch.foldl_write] at written
  refine ⟨outputs, enRoute, taken, ?_, by rw [written]; rfl⟩
  change stock.rows = _
  rw [StockSession.commit_eq_ok committed, only.rowsAfter, written]
  rfl

/-! ## Shortages -/

/-- What a shortage report writes for one of its lines. -/
structure Reported (transfer : Transfer) (totals : MovementTotals) (shortage : TransferShortageLine)
    (line : TransferLine) (movement : TransferMovement) : Prop where
  id : line.id = shortage.lineId
  positive : 1 ≤ shortage.qty
  bound : shortage.qty + totals.qty shortage.lineId .shortageReported ≤ max
    (totals.outstanding shortage.lineId) 0
  movement : movement = newMovement transfer line .shortageReported shortage.qty
    (some inTransitCode) (some inTransitCode) (some inTransitCode) (some inTransitCode)

/-- A shortage report writes movements and nothing else. -/
structure ReportStep (db after : Db) (transfer : Transfer) (shortages : List TransferShortageLine)
    (movements : List TransferMovement) : Prop where
  enRoute : transfer.status.isEnRoute = true
  written : List.Forall₂ (fun shortage movement => ∃ line ∈ getLines db transfer.id,
    Reported transfer (getMovementTotals db transfer.id) shortage line movement) shortages movements
  tables : after = { db with transferMovements := db.transferMovements ++ movements }

private theorem reportShortageLine_ok {transfer : Transfer} {lines : List TransferLine}
    {totals : MovementTotals} {movements next : List TransferMovement}
    {shortage : TransferShortageLine}
    (success : reportShortageLine transfer lines totals movements shortage = .ok next) :
    ∃ movement, (∃ line ∈ lines, Reported transfer totals shortage line movement) ∧
    next = movements ++ [movement] := by
  simp only [reportShortageLine, Checked.bind_eq_ok, Checked.ensure_eq_ok, exists_const,
    Checked.pure_eq_ok] at success
  obtain ⟨line, found, positive, _, bound, rfl⟩ := success
  obtain ⟨member, id⟩ := findTransferLine_eq_ok found
  exact ⟨_, ⟨line, member, id, positive, bound, rfl⟩, rfl⟩

private theorem foldl_append_singleton {α : Type*} (start outputs : List α) :
    outputs.foldl (fun written output => written ++ [output]) start = start ++ outputs := by
  induction outputs generalizing start with
  | nil => simp
  | cons output rest ih => simp [ih]

private theorem reportShortages_ok {db after : Db} {context : RequestContext} {transfer : Transfer}
    {shortages : List TransferShortageLine}
    (success : reportShortages db context transfer shortages = .ok after) :
    ∃ movements, ReportStep db after transfer shortages movements := by
  simp only [reportShortages, requireActionPermission, requireAnyPermission,
    enforceDestinationStoreScope, Checked.bind_eq_ok, Checked.ensure_eq_ok, exists_const,
    Checked.pure_eq_ok] at success
  obtain ⟨_, _, enRoute, _, _, movements, loop, rfl⟩ := success
  obtain ⟨outputs, written, final, _⟩ :=
    Checked.foldlM_collect (fun written output => written ++ [output])
    (fun _ => True) _ loop trivial
    fun _ _ _ _ _ step => by
      obtain ⟨movement, reported, next⟩ := reportShortageLine_ok step
      exact ⟨movement, reported, next, trivial⟩
  rw [foldl_append_singleton, List.nil_append] at final
  exact ⟨movements, enRoute, final ▸ written, rfl⟩

/-- The rows a loss removes for a line. -/
def lostSelector (transfer : Transfer) (line : TransferLine) (row : StockItem) : Bool :=
  match line.lineType with
  | .sku => inTransitSkuFilters transfer.tenantId
      (fun storeId => storeId = some transfer.originStoreId || storeId = none) line.toStockSnapshot
      row
  | .epc => row.tenantId = transfer.tenantId && row.epc = line.epc && row.inTransit

/-- One iteration of a resolution: the rows it removes and the movement it writes. -/
abbrev ResolveOutput := List ℕ × TransferMovement

def ActionBatch.remove (batch : ActionBatch) (output : ResolveOutput) : ActionBatch :=
  ⟨batch.session.delete output.1, batch.movements ++ [output.2]⟩

private theorem ActionBatch.foldl_remove (batch : ActionBatch) (outputs : List ResolveOutput) :
    outputs.foldl remove batch =
      ⟨batch.session.delete (outputs.flatMap (·.1)), batch.movements ++ outputs.map (·.2)⟩ := by
  induction outputs generalizing batch with
  | nil => simp [StockSession.delete]
  | cons output rest ih => simp [ih, remove, StockSession.delete]

/-- What a resolution does for one of its lines; only a loss removes rows. -/
structure Resolved (table : StockTable) (transfer : Transfer) (totals : MovementTotals)
    (resolution : ShortageResolution) (resolutionLine : TransferShortageLine) (line : TransferLine)
    (output : ResolveOutput) : Prop where
  id : line.id = resolutionLine.lineId
  positive : 1 ≤ resolutionLine.qty
  single : line.lineType = .epc → resolutionLine.qty = 1
  remaining : resolutionLine.qty ≤ totals.shortageRemaining resolutionLine.lineId
  found : resolution = .foundAndResend → output.1 = []
  removed : resolution = .lostInRoute →
    output.1 = takenIds table line.lineType (lostSelector transfer line) resolutionLine.qty
  lost : resolution = .lostInRoute →
    Picks StockItem.id table.rows (lostSelector transfer line) resolutionLine.qty.toNat output.1
  movement : ∃ fromLocationCode fromPool toLocationCode toPool, output.2 =
    newMovement transfer line resolution.action resolutionLine.qty fromLocationCode fromPool
    toLocationCode toPool

/-- A resolution: one output per line, and a transfer that is received once nothing is
outstanding. -/
structure ResolveStep (db after : Db) (transfer : Transfer) (resolution : ShortageResolution)
    (resolutionLines : List TransferShortageLine) (now : ℕ) (outputs : List ResolveOutput) :
    Prop where
  enRoute : transfer.status.isEnRoute = true
  taken : List.Forall₂ (fun resolutionLine output => ∃ line ∈ getLines db transfer.id,
    Resolved db.stock transfer (getMovementTotals db transfer.id) resolution resolutionLine
    line output) resolutionLines outputs
  stock : after.stock.rows = db.stock.rows.filter fun row => decide (row.id ∉ outputs.flatMap (·.1))
  tables : after = { db with
    stock := after.stock
    transferMovements := db.transferMovements ++ outputs.map (·.2)
    transfers := update Transfer.id [transfer.id] (fun row =>
      if (resolutionLines.foldl
        (fun totals line => totals.record line.lineId resolution.action line.qty)
        (getMovementTotals db transfer.id)).outstandingTotal = 0 then
        { row with status := .received, receivedAt := some now }
      else row) db.transfers }

private theorem lostRows_ok {session : StockSession} {transfer : Transfer} {line : TransferLine}
    {qty : ℤ} {rows : List StockItem} (single : line.lineType = .epc → qty = 1)
    (success : lostRows session transfer line qty = .ok rows) :
    rows.map (·.id) = takenIds session.flushed line.lineType (lostSelector transfer line) qty ∧
      Picks StockItem.id session.flushed.rows (lostSelector transfer line) qty.toNat
      (rows.map (·.id)) := by
  unfold lostRows at success
  cases kind : line.lineType with
  | sku =>
    simp only [kind, Checked.bind_eq_ok, Checked.ensure_eq_ok, exists_const,
      Checked.pure_eq_ok] at success
    obtain ⟨enough, rfl⟩ := success
    have selector : lostSelector transfer line = inTransitSkuFilters transfer.tenantId
        (fun storeId => storeId = some transfer.originStoreId || storeId = none)
        line.toStockSnapshot := by
      funext row
      simp only [lostSelector, kind]
    rw [selector]
    exact ⟨StockSession.map_id_select, StockSession.picks_select _ _ (Int.toNat_le.mpr enough)⟩
  | epc =>
    simp only [kind, Checked.bind_eq_ok, Checked.fetch_eq_ok, StockSession.first_eq_some,
      Checked.pure_eq_ok] at success
    obtain ⟨_, ⟨row, first, rfl⟩, rfl⟩ := success
    have found : session.flushed.rows.find? (lostSelector transfer line) = some row := by
      rw [← first]
      congr 1
      funext row
      simp only [lostSelector, kind]
    rw [single kind, List.map_singleton, StockSession.current_id]
    refine ⟨?_, picks_find? found⟩
    rw [takenIds, found]
    rfl

private theorem resolveShortageLine_ok {table : StockTable} {transfer : Transfer}
    {lines : List TransferLine} {totals : MovementTotals} {resolution : ShortageResolution}
    {batch next : ActionBatch} {resolutionLine : TransferShortageLine}
    (same : batch.session.flushed = table)
    (success : resolveShortageLine transfer lines totals resolution batch resolutionLine =
      .ok next) :
    ∃ output, (∃ line ∈ lines,
      Resolved table transfer totals resolution resolutionLine line output) ∧
      next = batch.remove output := by
  simp only [resolveShortageLine, Checked.bind_eq_ok, Checked.ensure_eq_ok, exists_const] at success
  obtain ⟨line, found, positive, single, remaining, rest⟩ := success
  obtain ⟨member, id⟩ := findTransferLine_eq_ok found
  cases resolution with
  | foundAndResend =>
    obtain rfl := Checked.pure_eq_ok.mp rest
    let movement :=
      newMovement transfer line ShortageResolution.foundAndResend.action resolutionLine.qty
      line.locationCode line.pool (some inTransitCode) (some inTransitCode)
    refine ⟨([], movement), ⟨line, member, id, positive, single, remaining, fun _ =>
        rfl, by rintro ⟨⟩,
      by rintro ⟨⟩, _, _, _, _, rfl⟩, ?_⟩
    simp only [ActionBatch.remove, StockSession.delete, List.append_nil]
    rfl
  | lostInRoute =>
    simp only [Checked.bind_eq_ok, Checked.pure_eq_ok] at rest
    obtain ⟨rows, selected, rfl⟩ := rest
    obtain ⟨ids, picks⟩ := lostRows_ok single selected
    rw [same] at ids picks
    exact ⟨(rows.map (·.id), _), ⟨line, member, id, positive, single, remaining, by rintro ⟨⟩,
        fun _ => ids, fun _ => picks,
      _, _, _, _, rfl⟩, rfl⟩

private theorem resolveShortages_ok {db after : Db} {context : RequestContext} {transfer : Transfer}
    {resolution : ShortageResolution} {resolutionLines : List TransferShortageLine}
    (success : resolveShortages db context transfer resolution resolutionLines = .ok after) :
    ∃ outputs, ResolveStep db after transfer resolution resolutionLines context.now outputs := by
  simp only [resolveShortages, requireActionPermission, requireAnyPermission,
    enforceDestinationStoreScope, Checked.bind_eq_ok, Checked.ensure_eq_ok, exists_const,
    Checked.pure_eq_ok] at success
  obtain ⟨_, _, enRoute, _, _, batch, loop, stock, committed, rfl⟩ := success
  obtain ⟨outputs, taken, written, _⟩ := Checked.foldlM_collect ActionBatch.remove
    (fun batch => batch.session.flushed = db.stock) _ loop rfl
    fun _ _ _ _ same step => by
      obtain ⟨output, taken, written⟩ := resolveShortageLine_ok same step
      exact ⟨output, taken, written, by rw [written]; exact same⟩
  rw [ActionBatch.foldl_remove] at written
  refine ⟨outputs, enRoute, taken, ?_, by rw [written]; rfl⟩
  change stock.rows = _
  rw [StockSession.commit_eq_ok committed, written,
    StockSession.rowsAfter_of_deletions_only rfl rfl]
  rfl

/-! ## Cancel -/

/-- The rows a cancel puts back for a line. -/
def cancelSelector (transfer : Transfer) (line : TransferLine) (row : StockItem) : Bool :=
  match line.lineType with
  | .sku => inTransitSkuFilters transfer.tenantId
    (· = some transfer.originStoreId) line.toStockSnapshot row
  | .epc => epcFilters transfer.tenantId (line.epc.getD "") row &&
      row.storeId = some transfer.originStoreId && row.inTransit

/-- What a cancel does for one line. -/
structure PutBack (table : StockTable) (transfer : Transfer) (line : TransferLine)
    (edit : Edit StockItem.id) : Prop where
  ids : edit.keys = takenIds table line.lineType (cancelSelector transfer line) line.qty
  picks : Picks StockItem.id table.rows (cancelSelector transfer line) line.units.toNat edit.keys
  change : edit.change = restorePlace line

/-- A cancel: a dispatched transfer has its rows put back, a draft touches no row. -/
structure CancelStep (db after : Db) (transfer : Transfer) (now : ℕ)
    (edits : List (Edit StockItem.id)) : Prop where
  unreceived : ¬ (transfer.status = .dispatched ∧ transfer.receivedAt ≠ none)
  status : transfer.status = .draft ∨ transfer.status = .dispatched
  taken : transfer.status = .dispatched → List.Forall₂ (PutBack db.stock transfer)
    (getLines db transfer.id) edits
  untouched : transfer.status ≠ .dispatched → edits = []
  stock : after.stock.rows = db.stock.rows.map (editRow edits)
  tables : after = { db with
    stock := after.stock
    transfers := update Transfer.id [transfer.id] (fun row =>
      { row with status := .canceled, canceledAt := some now }) db.transfers }

theorem cancelLine_ok {table : StockTable} {transfer : Transfer} {session next : StockSession}
    {line : TransferLine} (only : session.EditsOnly table)
    (success : cancelLine transfer session line = .ok next) :
    ∃ edit, PutBack table transfer line edit ∧
    next = { session with edits := session.edits ++ [edit] } := by
  unfold cancelLine at success
  cases kind : line.lineType with
  | sku =>
    simp only [kind, Checked.bind_eq_ok, Checked.ensure_eq_ok, exists_const,
      Checked.pure_eq_ok] at success
    obtain ⟨enough, rfl⟩ := success
    have picks := StockSession.picks_select _ line.qty.toNat (Int.toNat_le.mpr enough)
    rw [only.flushed] at picks
    have selector : cancelSelector transfer line = inTransitSkuFilters transfer.tenantId
        (· = some transfer.originStoreId) line.toStockSnapshot := by
      funext row
      simp only [cancelSelector, kind]
    refine ⟨⟨_, restorePlace line, fun _ => rfl⟩, ⟨?_, ?_, rfl⟩, rfl⟩
    · simp only [takenIds, kind, selector, StockSession.map_id_select, only.flushed]
    · rw [selector]
      simpa only [TransferLine.units, kind] using picks
  | epc =>
    simp only [kind, Checked.bind_eq_ok, Checked.fetch_eq_ok, Option.filter_eq_some_iff,
      StockSession.first_eq_some, Checked.pure_eq_ok] at success
    obtain ⟨epc, ⟨named, _⟩, _, ⟨row, first, rfl⟩, rfl⟩ := success
    rw [only.flushed] at first
    have found : table.rows.find? (cancelSelector transfer line) = some row := by
      rw [← first]
      congr 1
      funext row
      simp only [cancelSelector, kind, named, Option.getD_some]
    refine ⟨⟨_, restorePlace line, fun _ => rfl⟩, ⟨?_, ?_, rfl⟩, rfl⟩
    · simp only [takenIds, kind, found, StockSession.current_id]
      rfl
    · simp only [TransferLine.units, kind, StockSession.current_id]
      exact picks_find? found

private theorem foldl_edits (session : StockSession) (edits : List (Edit StockItem.id)) :
    edits.foldl (fun session edit => { session with edits := session.edits ++ [edit] }) session =
      { session with edits := session.edits ++ edits } := by
  induction edits generalizing session with
  | nil => simp
  | cons edit rest ih => simp [ih]

private theorem cancelTransfer_ok {db after : Db} {context : RequestContext} {transfer : Transfer}
    (success : cancelTransfer db context transfer = .ok after) :
    ∃ edits, CancelStep db after transfer context.now edits := by
  simp only [cancelTransfer, requireActionPermission, requireAnyPermission, Checked.bind_eq_ok,
    Checked.ensure_eq_ok, exists_const, Checked.pure_eq_ok] at success
  obtain ⟨_, unreceived, status, session, restored, stock, committed, rfl⟩ := success
  by_cases dispatched : transfer.status = .dispatched
  · rw [canceledSession, if_pos dispatched] at restored
    obtain ⟨edits, taken, final, only⟩ := Checked.foldlM_collect
      (fun session edit => { session with edits := session.edits ++ [edit] })
      (StockSession.EditsOnly · db.stock) (PutBack db.stock transfer) restored (.initial db.stock)
      fun _ _ _ _ only step => by
        obtain ⟨edit, taken, next⟩ := cancelLine_ok only step
        exact ⟨edit, taken, next, by rw [next]; exact ⟨only.flushed, only.kept, only.fresh⟩⟩
    rw [foldl_edits, List.nil_append] at final
    refine ⟨edits, unreceived, status, fun _ => taken, fun other => absurd dispatched other,
      ?_, rfl⟩
    change stock.rows = _
    rw [StockSession.commit_eq_ok committed, only.rowsAfter, final]
    rfl
  · rw [canceledSession, if_neg dispatched] at restored
    obtain rfl := Except.ok.inj restored
    refine ⟨[], unreceived, status, fun other => absurd other dispatched, fun _ => rfl, ?_, rfl⟩
    change stock.rows = _
    rw [StockSession.commit_eq_ok committed, (StockSession.EditsOnly.initial db.stock).rowsAfter]
    rfl

/-! ## All requests -/

/-- The transfer that an action addresses. -/
structure Target (db : Db) (transferId : ℕ) (transfer : Transfer) : Prop where
  member : transfer ∈ db.transfers
  id : transfer.id = transferId

/-- Everything that a committed transfer request can do. -/
inductive TransferEffect (db after : Db) : TransferRequest → Prop
  | created {context payload} (tenantId : ℕ) (progress : Normalization) (transfer : Transfer)
      (step : Created db after tenantId progress transfer) :
      TransferEffect db after (.create context payload)
  | updated {context transferId payload} (tenantId originStoreId destinationStoreId : ℕ)
      (transfer : Transfer) (target : Target db transferId transfer) (session : StockSession)
      (step : Updated db after tenantId originStoreId destinationStoreId transfer session) :
      TransferEffect db after (.update context transferId payload)
  | dispatched {context transferId transactionId tenantId} (transfer : Transfer)
      (target : Target db transferId transfer) (session : StockSession)
      (outputs : List ActionOutput)
      (step : DispatchStep db after transfer context.now session outputs) :
      TransferEffect db after (.action context transferId ⟨transactionId, tenantId, .dispatch⟩)
  | received {context transferId transactionId tenantId receiveLines} (transfer : Transfer)
      (target : Target db transferId transfer) (outputs : List ActionOutput)
      (step : ReceiveStep db after transfer receiveLines context.now outputs) :
      TransferEffect db after
      (.action context transferId ⟨transactionId, tenantId, .receive receiveLines⟩)
  | reported {context transferId transactionId tenantId shortages} (transfer : Transfer)
      (target : Target db transferId transfer) (movements : List TransferMovement)
      (step : ReportStep db after transfer shortages movements) :
      TransferEffect db after
      (.action context transferId ⟨transactionId, tenantId, .reportShortages shortages⟩)
  | resolved {context transferId transactionId tenantId resolution resolutionLines}
      (transfer : Transfer) (target : Target db transferId transfer) (outputs : List ResolveOutput)
      (step : ResolveStep db after transfer resolution resolutionLines context.now outputs) :
      TransferEffect db after
        (.action context transferId
        ⟨transactionId, tenantId, .resolveShortages resolution resolutionLines⟩)
  | canceled {context transferId transactionId tenantId} (transfer : Transfer)
      (target : Target db transferId transfer) (edits : List (Edit StockItem.id))
      (step : CancelStep db after transfer context.now edits) :
      TransferEffect db after (.action context transferId ⟨transactionId, tenantId, .cancel⟩)

/-- A committed request has exactly one of the effects above. -/
theorem transferStep_ok {db after : Db} {request : TransferRequest}
    (success : transferStep db request = .ok after) :
    TransferEffect db after request := by
  cases request with
  | create context payload =>
    obtain ⟨tenantId, progress, transfer, step⟩ := createTransfer_ok success
    exact .created tenantId progress transfer step
  | update context transferId payload =>
    obtain ⟨tenantId, originStoreId, destinationStoreId, transfer, session, id, step⟩ :=
      updateTransfer_ok success
    exact .updated tenantId originStoreId destinationStoreId transfer ⟨step.member, id⟩ session step
  | action context transferId payload =>
    obtain ⟨transactionId, payloadTenantId, action⟩ := payload
    simp only [transferStep, transferActions, Checked.bind_eq_ok] at success
    obtain ⟨_, _, _, _, tenantId, _, transfer, found, rest⟩ := success
    obtain ⟨member, id, _⟩ := findTransfer_eq_ok found
    cases action with
    | dispatch =>
      obtain ⟨session, outputs, step⟩ := dispatchTransfer_ok rest
      exact .dispatched transfer ⟨member, id⟩ session outputs step
    | receive receiveLines =>
      obtain ⟨outputs, step⟩ := receiveTransfer_ok rest
      exact .received transfer ⟨member, id⟩ outputs step
    | reportShortages shortages =>
      obtain ⟨movements, step⟩ := reportShortages_ok rest
      exact .reported transfer ⟨member, id⟩ movements step
    | resolveShortages resolution lines =>
      obtain ⟨outputs, step⟩ := resolveShortages_ok rest
      exact .resolved transfer ⟨member, id⟩ outputs step
    | cancel =>
      obtain ⟨edits, step⟩ := cancelTransfer_ok rest
      exact .canceled transfer ⟨member, id⟩ edits step

/-- A transfer request changes stock, transfers, their lines and their movements. -/
theorem TransferEffect.tables {db after : Db} {request : TransferRequest}
    (effect : TransferEffect db after request) :
    after = { db with
      stock := after.stock
      transfers := after.transfers
      transferLines := after.transferLines
      transferMovements := after.transferMovements } := by
  cases effect with
  | created tenantId progress transfer step => rw [step.tables]
  | updated tenantId originStoreId destinationStoreId transfer target session step =>
    rw [step.tables]
  | dispatched transfer target session outputs step => rw [step.tables]
  | received transfer target outputs step => rw [step.tables]
  | reported transfer target movements step => rw [step.tables]
  | resolved transfer target outputs step => rw [step.tables]
  | canceled transfer target edits step => rw [step.tables]

end ArisCloud

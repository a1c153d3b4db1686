import ArisCloud.Proofs.TransferStock

/-! # When requests on transfers are accepted

The converse of what committed requests say: a person with the rights for an action comes to it, the
loops over lines succeed when each line does, and changes that leave identifiers and tags alone
commit.
-/

namespace ArisCloud

open KeyedRows

/-! ## Rights -/

/-- A person who sends requests, and how they sign them. -/
structure Officer where
  context : RequestContext
  transactionId : Option String
  tenantId : Option ℕ := none

def Officer.request (officer : Officer) (transferId : ℕ) (action : TransferAction) :
    TransferRequest :=
  .action officer.context transferId ⟨officer.transactionId, officer.tenantId, action⟩

/-- A person who may do what a permission allows on the transfers of the tenant of a transfer. -/
structure Officer.MayAct (officer : Officer) (permissionKey : String) (transfer : Transfer) :
    Prop where
  permitted : requireActionPermission officer.context permissionKey = .ok ()
  signed : requireTransactionId officer.transactionId = .ok ()
  tenant : resolveTenantId officer.context.tokenData officer.tenantId = .ok transfer.tenantId

/-- A person who may receive a transfer at its destination. -/
structure Officer.MayReceive (officer : Officer) (transfer : Transfer) : Prop
    extends officer.MayAct "transfers.receive" transfer where
  destination : enforceDestinationStoreScope officer.context.tokenData transfer.destinationStoreId =
    .ok ()

/-- A person who may report and resolve the shortages of a transfer. -/
structure Officer.MayResolve (officer : Officer) (transfer : Transfer) : Prop
    extends officer.MayAct "transfers.resolve" transfer where
  destination : enforceDestinationStoreScope officer.context.tokenData transfer.destinationStoreId =
    .ok ()
  manager : isSuperadmin officer.context.tokenData ∨ officer.context.tokenData.role =
    some "MANAGER" ∨ officer.context.tokenData.role = some "ADMIN"

section Requests

variable {db : Db} {officer : Officer} {transfer : Transfer}

theorem findTransfer_of_mem (distinct : (db.transfers.map (·.id)).Nodup)
    (member : transfer ∈ db.transfers) :
    findTransfer db transfer.tenantId transfer.id = .ok transfer := by
  rw [findTransfer, Checked.fetch_eq_ok]
  exact find?_eq_some_of_key distinct member (by simp) (by simp +contextual)

theorem findTransferLine_of_mem {line : TransferLine}
    (lineIds : (db.transferLines.map (·.id)).Nodup) (member : line ∈ getLines db transfer.id) :
    findTransferLine (getLines db transfer.id) line.id = .ok line := by
  rw [findTransferLine, Checked.fetch_eq_ok]
  have distinct : ((getLines db transfer.id).map (·.id)).Nodup :=
    lineIds.sublist (List.filter_sublist.map _)
  exact find?_eq_some_of_key distinct member (by simp) (by simp)

/-- What each action does once its transfer was found. -/
def transferAction (db : Db) (context : RequestContext) (transfer : Transfer) : TransferAction →
    Except AppError Db
  | .dispatch => dispatchTransfer db context transfer
  | .receive receiveLines => receiveTransfer db context transfer receiveLines
  | .reportShortages shortages => reportShortages db context transfer shortages
  | .resolveShortages resolution lines => resolveShortages db context transfer resolution lines
  | .cancel => cancelTransfer db context transfer

/-- A person's request comes to the action it names. -/
theorem Officer.MayAct.step {permissionKey : String} (may : officer.MayAct permissionKey transfer)
    (known : permissionKey ∈ ["transfers.dispatch", "transfers.receive", "transfers.cancel",
      "transfers.resolve"])
    (found : findTransfer db transfer.tenantId transfer.id = .ok transfer)
    {action : TransferAction} :
    transferStep db (officer.request transfer.id action) =
    transferAction db officer.context transfer action := by
  have permitted : requireAnyPermission officer.context ["transfers.dispatch", "transfers.receive",
      "transfers.cancel", "transfers.resolve", "TRANSFER_MANAGE"] = .ok () := by
    have permitted := may.permitted
    simp only [requireActionPermission, requireAnyPermission, Checked.ensure_eq_ok, List.any_cons,
      List.any_nil, Bool.or_eq_true, Bool.or_false, List.mem_cons, List.not_mem_nil,
      or_false] at permitted known ⊢
    rcases known with rfl | rfl | rfl | rfl <;> tauto
  rw [Officer.request, transferStep, transferActions, permitted, may.signed, may.tenant]
  change (findTransfer db transfer.tenantId transfer.id >>= _) = _
  rw [found]
  cases action <;> rfl

end Requests

/-! ## Receives -/

section Receives

variable {db : Db} {officer : Officer} {transfer : Transfer}

/-- The units that an item of a receive asks for are there. -/
def Receivable (table : StockTable) (transfer : Transfer) (line : TransferLine) (qty : ℤ) : Prop :=
  match line.lineType with
  | .sku => qty ≤ table.rows.countP (receiveSelector transfer line)
  | .epc => qty = 1 ∧ (∃ epc, line.epc = some epc ∧ epc ≠ "") ∧ ∃ row ∈ table.rows,
    receiveSelector transfer line row = true

/-- The state of a receive loop in which nothing was changed but for tags and numbers. -/
structure ReceiveProgress (table : StockTable) (batch : ActionBatch) : Prop where
  only : batch.session.EditsOnly table
  keeps : batch.session.KeepsIdentity

private theorem receiveTransferLine_keeps {table : StockTable} {lines : List TransferLine}
    {totals : MovementTotals} {batch next : ActionBatch} {receiveLine : TransferReceiveLine}
    (progress : ReceiveProgress table batch)
    (success : receiveTransferLine transfer lines totals batch receiveLine = .ok next) :
    ReceiveProgress table next := by
  obtain ⟨output, ⟨line, _, received⟩, rfl⟩ := receiveTransferLine_ok progress.only success
  refine ⟨progress.only.write output, fun edit applied row => ?_⟩
  rcases List.mem_append.mp applied with before | last
  · exact progress.keeps edit before row
  · rw [List.mem_singleton.mp last, received.change]
    exact ⟨rfl, rfl, rfl⟩

private theorem receiveTransferLine_succeeds {table : StockTable} {lines : List TransferLine}
    {totals : MovementTotals} {batch : ActionBatch} {receiveLine : TransferReceiveLine}
    {line : TransferLine} (only : batch.session.EditsOnly table)
    (found : findTransferLine lines receiveLine.lineId = .ok line)
    (positive : 1 ≤ receiveLine.qty)
    (outstanding : receiveLine.qty ≤ totals.outstanding receiveLine.lineId)
    (receivable : Receivable table transfer line receiveLine.qty) :
    ∃ next, receiveTransferLine transfer lines totals batch receiveLine = .ok next := by
  simp only [receiveTransferLine, Checked.bind_eq_ok, Checked.ensure_eq_ok, exists_const, found,
    Except.ok.injEq, exists_eq_left', exists_and_left]
  refine ⟨positive, outstanding, ?_⟩
  cases kind : line.lineType with
  | sku =>
    have selector : receiveSelector transfer line = inTransitSkuFilters transfer.tenantId
        (· = some transfer.originStoreId) line.toStockSnapshot := by
      funext row
      simp [receiveSelector, kind]
    simp only [Receivable, kind, selector] at receivable
    simp only [Checked.bind_eq_ok, Checked.ensure_eq_ok, exists_const, Checked.pure_eq_ok]
    refine ⟨_, ?_, rfl⟩
    rw [StockSession.select, List.length_map, length_oldest, only.flushed]
    omega
  | epc =>
    simp only [Receivable, kind] at receivable
    obtain ⟨single, ⟨epc, named, nonempty⟩, row, member, selected⟩ := receivable
    have selector : receiveSelector transfer line = fun row =>
        epcFilters transfer.tenantId epc row &&
        (row.storeId = some transfer.originStoreId || row.storeId = none) && row.inTransit := by
      funext row
      simp [receiveSelector, kind, named]
    obtain ⟨first, isFirst⟩ := Option.isSome_iff_exists.mp
      (List.find?_isSome.mpr ⟨row, member, selected⟩)
    rw [selector] at isFirst
    simp only [Checked.bind_eq_ok, Checked.ensure_eq_ok, exists_const, Checked.fetch_eq_ok,
      Option.filter_eq_some_iff, StockSession.first_eq_some, Checked.pure_eq_ok, only.flushed]
    exact ⟨_, single, epc, ⟨named, by simpa using nonempty⟩, _, ⟨first, isFirst, rfl⟩, rfl⟩

/-- A receive is accepted when each of its items is of an outstanding line whose units are there. -/
theorem receiveTransfer_succeeds (may : officer.MayReceive transfer)
    (distinct : (db.transfers.map (·.id)).Nodup) (member : transfer ∈ db.transfers)
    (enRoute : transfer.status.isEnRoute = true) {receiveLines : List TransferReceiveLine}
    (nonempty : receiveLines ≠ [])
    (each : ∀ receiveLine ∈ receiveLines, ∃ line,
      findTransferLine (getLines db transfer.id) receiveLine.lineId = .ok line ∧
      1 ≤ receiveLine.qty ∧
      receiveLine.qty ≤ (getMovementTotals db transfer.id).outstanding receiveLine.lineId ∧
      Receivable db.stock transfer line receiveLine.qty) :
    ∃ after, transferStep db (officer.request transfer.id (.receive receiveLines)) = .ok after := by
  have initial : ReceiveProgress db.stock { session := { flushed := db.stock } } :=
    ⟨.initial db.stock, by simp [StockSession.KeepsIdentity]⟩
  obtain ⟨batch, loop, progress⟩ := Checked.foldlM_succeeds (ReceiveProgress db.stock) initial
    fun batch receiveLine member progress =>
      have ⟨line, found, positive, outstanding, receivable⟩ := each receiveLine member
      have ⟨next, success⟩ := receiveTransferLine_succeeds progress.only found positive outstanding
        receivable
      ⟨next, success, receiveTransferLine_keeps progress success⟩
  obtain ⟨stock, committed⟩ := StockSession.commit_of_edits_only progress.only progress.keeps
  simp only [may.toMayAct.step (by simp) (findTransfer_of_mem distinct member), transferAction,
    receiveTransfer, Checked.bind_eq_ok, may.permitted, may.destination, Checked.ensure_eq_ok,
    exists_const, Checked.pure_eq_ok]
  exact ⟨_, trivial, trivial, enRoute, nonempty, batch, loop, stock, committed, rfl⟩

end Receives

/-! ## Cancels -/

section Cancels

variable {db : Db} {officer : Officer} {transfer : Transfer} {line : TransferLine}

/-- The units that a cancel puts back for a line are there. -/
structure Cancelable (table : StockTable) (transfer : Transfer) (line : TransferLine) : Prop where
  named : line.lineType = .epc → ∃ epc, line.epc = some epc ∧ epc ≠ ""
  enough : line.units.toNat ≤ table.rows.countP (cancelSelector transfer line)

private theorem cancelLine_succeeds {table : StockTable} {session : StockSession}
    (only : session.EditsOnly table) (cancelable : Cancelable table transfer line) :
    ∃ next, cancelLine transfer session line = .ok next := by
  have enough := cancelable.enough
  unfold cancelLine
  cases kind : line.lineType with
  | sku =>
    have selector : cancelSelector transfer line = inTransitSkuFilters transfer.tenantId
        (· = some transfer.originStoreId) line.toStockSnapshot := by
      funext row
      simp only [cancelSelector, kind]
    simp only [selector, TransferLine.units, kind] at enough
    simp only [Checked.bind_eq_ok, Checked.ensure_eq_ok, exists_const, Checked.pure_eq_ok]
    refine ⟨_, ?_, rfl⟩
    rw [StockSession.select, List.length_map, length_oldest, only.flushed]
    omega
  | epc =>
    obtain ⟨epc, named, nonempty⟩ := cancelable.named kind
    have selector : cancelSelector transfer line = fun row =>
        epcFilters transfer.tenantId epc row && row.storeId = some transfer.originStoreId &&
        row.inTransit := by
      funext row
      simp only [cancelSelector, kind, named, Option.getD_some]
    simp only [TransferLine.units, kind] at enough
    obtain ⟨row, member, selected⟩ := List.countP_pos_iff.mp enough
    obtain ⟨first, isFirst⟩ := Option.isSome_iff_exists.mp
      (List.find?_isSome.mpr ⟨row, member, selected⟩)
    rw [selector] at isFirst
    simp only [Checked.bind_eq_ok, Checked.fetch_eq_ok, Option.filter_eq_some_iff,
      StockSession.first_eq_some, Checked.pure_eq_ok, only.flushed]
    exact ⟨_, epc, ⟨named, by simpa using nonempty⟩, _, ⟨first, isFirst, rfl⟩, rfl⟩

/-- A cancel of a dispatched transfer is accepted when the units of each of its lines are there. -/
theorem cancelTransfer_succeeds (may : officer.MayAct "transfers.cancel" transfer)
    (distinct : (db.transfers.map (·.id)).Nodup) (member : transfer ∈ db.transfers)
    (dispatched : transfer.status = .dispatched) (unreceived : transfer.receivedAt = none)
    (each : ∀ line ∈ getLines db transfer.id, Cancelable db.stock transfer line) :
    ∃ after, transferStep db (officer.request transfer.id .cancel) = .ok after := by
  have initial : StockSession.EditsOnly { flushed := db.stock } db.stock ∧
      StockSession.KeepsIdentity { flushed := db.stock } :=
      ⟨.initial db.stock, by simp [StockSession.KeepsIdentity]⟩
  obtain ⟨session, loop, only, keeps⟩ := Checked.foldlM_succeeds
    (fun session : StockSession => session.EditsOnly db.stock ∧ session.KeepsIdentity) initial
    fun session line member ⟨only, keeps⟩ => by
      obtain ⟨next, success⟩ := cancelLine_succeeds only (each line member)
      obtain ⟨edit, putBack, rfl⟩ := cancelLine_ok only success
      refine ⟨_, success, ⟨only.flushed, only.kept, only.fresh⟩, fun other applied row => ?_⟩
      rcases List.mem_append.mp applied with before | last
      · exact keeps other before row
      · rw [List.mem_singleton.mp last, putBack.change]
        exact ⟨rfl, rfl, rfl⟩
  obtain ⟨stock, committed⟩ := StockSession.commit_of_edits_only only keeps
  simp only [may.step (by simp) (findTransfer_of_mem distinct member), transferAction,
    cancelTransfer, canceledSession, Checked.bind_eq_ok, may.permitted, Checked.ensure_eq_ok,
    exists_const, Checked.pure_eq_ok, if_pos dispatched]
  exact ⟨_, trivial, fun ⟨_, received⟩ => received unreceived, .inr dispatched, session, loop,
    stock, committed, rfl⟩

end Cancels

end ArisCloud

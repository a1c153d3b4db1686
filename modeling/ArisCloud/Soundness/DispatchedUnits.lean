import ArisCloud.Library.Precedence
import ArisCloud.Proofs.TransferAcceptance
import ArisCloud.Soundness.TransferRuns

/-! # The units that a transfer dispatched

A dispatch takes rows of the stock for each line. Later actions do not know these rows: they look
for rows in transit that agree with the line. This module says what the dispatched rows look like as
long as nobody touches them, which is what the later actions have to find.
-/

namespace ArisCloud

open KeyedRows Requests

/-- The rows that a dispatch takes for a line. -/
def sentIds (table : StockTable) (transfer : Transfer) (line : TransferLine) : List ℕ :=
  takenIds table line.lineType (dispatchSelector transfer line) line.qty

/-- What a dispatch makes of a row. -/
structure SentFrom (transfer : Transfer) (before row : StockItem) : Prop where
  id : row.id = before.id
  tenant : row.tenantId = transfer.tenantId
  store : row.storeId = some transfer.originStoreId
  transit : row.inTransit = true
  kind : row.kind = before.kind
  status : row.status = before.status

section Dispatch

variable {db sent : Db} {transfer : Transfer} {now : ℕ} {session : StockSession}
    {outputs : List ActionOutput}
  {line : TransferLine}

theorem DispatchStep.picks (step : DispatchStep db sent transfer now session outputs)
    (inLines : line ∈ getLines db transfer.id) :
    Picks StockItem.id db.stock.rows (dispatchSelector transfer line) line.units.toNat
    (sentIds db.stock transfer line) := by
  obtain ⟨output, _, taken⟩ := Checked.output_of_item step.taken inLines
  have picks := taken.picks
  rwa [taken.ids] at picks

/-- A row that a dispatch takes is held by the store, or claimed for it. -/
theorem DispatchStep.held (step : DispatchStep db sent transfer now session outputs)
    (inLines : line ∈ getLines db transfer.id) {before : StockItem} (isRow : before ∈ db.stock.rows)
    (listed : before.id ∈ sentIds db.stock transfer line) :
    (session.current before).storeId = some transfer.originStoreId := by
  obtain ⟨output, _, taken⟩ := Checked.output_of_item step.taken inLines
  cases kind : line.lineType with
  | sku =>
    have selected := (step.picks inLines).holds db.stock.distinctIds isRow listed
    simp only [dispatchSelector, kind] at selected
    have store := (transferSkuFilters_eq_true selected).2.1
    rw [step.claims.current_of_held isRow store, store]
  | epc =>
    obtain ⟨_, _, accepted, _⟩ := step.epc_row inLines kind taken isRow (taken.ids ▸ listed)
    exact accepted.store

private theorem dispatchChange_keeps (transfer : Transfer) (line : TransferLine) (row : StockItem) :
    (dispatchChange transfer line row).id = row.id ∧ (dispatchChange transfer line row).tenantId =
    row.tenantId ∧
      (row.storeId = some transfer.originStoreId →
        (dispatchChange transfer line row).storeId = some transfer.originStoreId) ∧
      (dispatchChange transfer line row).inTransit = true ∧
        (dispatchChange transfer line row).kind = row.kind ∧
      (dispatchChange transfer line row).status = row.status := by
  unfold dispatchChange
  cases line.lineType with
  | sku => exact ⟨rfl, rfl, fun held => held, rfl, rfl, rfl⟩
  | epc => exact ⟨rfl, rfl, fun _ => rfl, rfl, rfl, rfl⟩

/-- A dispatched row is in transit from the origin store and otherwise as it was. -/
theorem DispatchStep.sentFrom (step : DispatchStep db sent transfer now session outputs)
    (inLines : line ∈ getLines db transfer.id) (typed : line.Typed) {before : StockItem}
    (isRow : before ∈ db.stock.rows)
    (listed : before.id ∈ sentIds db.stock transfer line) :
    ∃ row ∈ sent.stock.rows, SentFrom transfer before row := by
  obtain ⟨output, isOutput, taken⟩ := Checked.output_of_item step.taken inLines
  have edited (edit : Edit StockItem.id) (applied : edit ∈ outputs.map (·.1)) :
      ∃ line, edit.change = dispatchChange transfer line := by
    obtain ⟨other, isOther, rfl⟩ := List.mem_map.mp applied
    obtain ⟨otherLine, _, otherTaken⟩ := Checked.item_of_output step.taken isOther
    exact ⟨otherLine, otherTaken.change⟩
  obtain ⟨snapshot, tenant⟩ := step.claims.columns isRow
  have own := (dispatchSelector_row typed ((step.picks inLines).holds db.stock.distinctIds isRow listed)).1
  let kept (row : StockItem) : Prop := row.id = before.id ∧ row.tenantId = transfer.tenantId ∧
    row.storeId = some transfer.originStoreId ∧ row.kind = before.kind ∧ row.status = before.status
  have keeps : kept (editRow (outputs.map (·.1)) (session.current before)) := by
    refine editRow_keeps kept ⟨StockSession.current_id, tenant.trans own,
      step.held inLines isRow listed, by rw [snapshot], by rw [snapshot]⟩
      fun edit applied row ⟨id, tenant, store, kind, status⟩ _ => ?_
    obtain ⟨other, change⟩ := edited edit applied
    obtain ⟨sameId, sameTenant, sameStore, _, sameKind, sameStatus⟩ := dispatchChange_keeps transfer other row
    rw [change]
    exact ⟨sameId.trans id, sameTenant.trans tenant, sameStore store, sameKind.trans kind,
      sameStatus.trans status⟩
  have moved : (editRow (outputs.map (·.1)) (session.current before)).inTransit = true := by
    refine editRow_establishes (fun row : StockItem => row.inTransit = true) (fun edit applied _ row => ?_)
      ⟨output.1, List.mem_map_of_mem isOutput, by rw [StockSession.current_id, taken.ids]; exact listed⟩
    obtain ⟨other, change⟩ := edited edit applied
    rw [change]
    exact (dispatchChange_keeps transfer other row).2.2.2.1
  obtain ⟨id, tenant, store, kind, status⟩ := keeps
  refine ⟨_, ?_, id, tenant, store, moved, kind, status⟩
  rw [step.stock, List.map_map]
  exact List.mem_map_of_mem (f := editRow (outputs.map (·.1)) ∘ session.current) isRow

/-- What is outstanding of a line after its dispatch is what the dispatch took for it. -/
theorem DispatchStep.outstanding (step : DispatchStep db sent transfer now session outputs)
    (sound : TransfersSound db) (member : transfer ∈ db.transfers)
    (inLines : line ∈ getLines db transfer.id) :
    outstandingQty sent transfer.id line.id = line.units := by
  have distinct :
      (((getLines db transfer.id).map fun line => (line.id, line.units)).map (·.1)).Nodup := by
    rw [List.map_map]
    exact sound.ledger.lineIds.sublist (List.filter_sublist.map _)
  have asked : Tally.askedQty ((getLines db transfer.id).map fun line => (line.id, line.units))
      line.id = line.units :=
    Tally.askedQty_of_nodup distinct
      (List.mem_map_of_mem (f := fun line : TransferLine => (line.id, line.units)) inLines)
  rw [outstandingQty_eq, step.writes.shipmentLedger (by rw [step.tables]), if_pos rfl,
    outstanding_post, ← outstandingQty_eq, sound.status.unmoved member step.draft, asked]
  simp [MovementAction.sign]

end Dispatch

/-- A dispatch that commits is one of the transfer that it addresses. -/
theorem TransfersSound.dispatchStep {db sent : Db} {transfer : Transfer} {dispatcher : Officer}
    (sound : TransfersSound db) (member : transfer ∈ db.transfers)
    (dispatches : transferStep db (dispatcher.request transfer.id .dispatch) = .ok sent) :
    ∃ session outputs, DispatchStep db sent transfer dispatcher.context.now session outputs := by
  have effect := transferStep_ok dispatches
  rw [Officer.request] at effect
  cases effect with
  | dispatched other target session outputs step =>
    obtain rfl := eq_of_key_eq sound.status.distinct target.member member target.id
    exact ⟨session, outputs, step⟩

/-! ## As long as nobody touches them -/

/-- The transfer, what is outstanding of its lines and the rows dispatched for them are as the
dispatch left them. -/
structure LeftInTransit (db sent later : Db) (transfer : Transfer) : Prop where
  waiting : ∀ dispatched ∈ sent.transfers, dispatched.id = transfer.id →
    dispatched ∈ later.transfers
  outstanding : ∀ line ∈ getLines db transfer.id,
    outstandingQty later transfer.id line.id = outstandingQty sent transfer.id line.id
  rows : ∀ line ∈ getLines db transfer.id, ∀ row ∈ sent.stock.rows,
    row.id ∈ sentIds db.stock transfer line → row ∈ later.stock.rows

/-- A transfer after its dispatch. -/
def Transfer.dispatch (transfer : Transfer) (now : ℕ) : Transfer :=
  { transfer with status := .dispatched, dispatchedAt := some now }

/-- A dispatched transfer that waits for its next action, all its units in transit. -/
structure Underway (db later : Db) (transfer : Transfer) (now : ℕ) : Prop where
  before : TransfersSound db
  after : TransfersSound later
  waiting : transfer.dispatch now ∈ later.transfers
  lines : getLines later transfer.id = getLines db transfer.id
  nonempty : getLines db transfer.id ≠ []
  outstanding : ∀ line ∈ getLines db transfer.id, outstandingQty later transfer.id line.id =
    line.units
  named : ∀ line ∈ getLines db transfer.id, line.lineType = .epc → ∃ epc, line.epc = some epc ∧
    epc ≠ ""
  picks : ∀ line ∈ getLines db transfer.id,
    Picks StockItem.id db.stock.rows (dispatchSelector transfer line) line.units.toNat
    (sentIds db.stock transfer line)
  units : ∀ line ∈ getLines db transfer.id, ∀ unit ∈ db.stock.rows,
    unit.id ∈ sentIds db.stock transfer line → ∃ row ∈ later.stock.rows, SentFrom transfer unit row

/-- A transfer left in transit is underway, whatever requests on others came after its dispatch. -/
theorem Underway.of_leftInTransit {db sent later : Db} {transfer : Transfer} {now : ℕ}
    {session : StockSession} {outputs : List ActionOutput} (sound : TransfersSound db)
    (member : transfer ∈ db.transfers) (step : DispatchStep db sent transfer now session outputs)
    (sentSound : TransfersSound sent) {allowed : Db → ApiRequest → Prop}
    (continued : Reachable apiStep allowed sent later)
    (left : LeftInTransit db sent later transfer) : Underway db later transfer now where
  before := sound
  after := sentSound.reached continued
  waiting := by
    refine left.waiting _ ?_ rfl
    rw [congrArg Db.transfers step.tables]
    exact mem_update.mpr ⟨transfer, member, if_pos (List.mem_singleton_self _)⟩
  lines := by
    have dispatched : transfer.dispatch now ∈ sent.transfers := by
      rw [congrArg Db.transfers step.tables]
      exact mem_update.mpr ⟨transfer, member, if_pos (List.mem_singleton_self _)⟩
    have kept := ((sentSound.preservedTo continued).dispatched _ dispatched nofun).1
    exact kept.trans (getLines_congr (by rw [step.tables]) transfer.id)
  nonempty := step.nonempty
  outstanding line inLines := (left.outstanding line inLines).trans
    (step.outstanding sound member inLines)
  named line inLines isEpc := by
    obtain ⟨epc, named, nonempty, _⟩ := step.valid line inLines isEpc
    exact ⟨epc, named, nonempty⟩
  picks line inLines := step.picks inLines
  units line inLines unit isUnit listed := by
    have typed := sound.lines.typed line (mem_getLines.mp inLines).1
    obtain ⟨row, isRow, sentFrom⟩ := step.sentFrom inLines typed isUnit listed
    exact ⟨row, left.rows line inLines row isRow (by rwa [sentFrom.id]), sentFrom⟩

namespace Underway

variable {db later : Db} {transfer : Transfer} {now : ℕ} {line : TransferLine}

theorem typed (underway : Underway db later transfer now)
    (inLines : line ∈ getLines db transfer.id) : line.Typed :=
  underway.before.lines.typed line (mem_getLines.mp inLines).1

theorem lineIds (underway : Underway db later transfer now) :
    ((getLines db transfer.id).map (·.id)).Nodup :=
  underway.before.ledger.lineIds.sublist (List.filter_sublist.map _)

/-- A row of a dispatched unit comes from a row that was there at the dispatch. -/
theorem sentFrom (underway : Underway db later transfer now)
    (inLines : line ∈ getLines db transfer.id) {row : StockItem}
    (isRow : row ∈ later.stock.rows) (listed : row.id ∈ sentIds db.stock transfer line) :
    ∃ unit ∈ db.stock.rows, unit.id = row.id ∧ SentFrom transfer unit row ∧
    dispatchSelector transfer line unit = true := by
  obtain ⟨unit, isUnit, same, selected⟩ := (underway.picks line inLines).found _ listed
  obtain ⟨other, isOther, sentFrom⟩ := underway.units line inLines unit isUnit (same ▸ listed)
  obtain rfl := eq_of_key_eq later.stock.distinctIds isOther isRow (sentFrom.id.trans same)
  exact ⟨unit, isUnit, same, sentFrom, selected⟩

/-- A receive of the line selects its units when they agree with the line. -/
theorem receiveSelector_eq_true (underway : Underway db later transfer now)
    (inLines : line ∈ getLines db transfer.id) {unit row : StockItem}
    (sentFrom : SentFrom transfer unit row) (selected : dispatchSelector transfer line unit = true)
    (alike : line.lineType = .sku → unit.kind = line.kind) :
    receiveSelector transfer line row = true := by
  obtain ⟨tenant, store, transit⟩ :=
    And.intro sentFrom.tenant (And.intro sentFrom.store sentFrom.transit)
  have typed := underway.typed inLines
  cases kind : line.lineType with
  | sku =>
    have untagged := typed.mp kind
    have same := sentFrom.kind.trans (alike kind)
    have rowUntagged : row.epc = none := (epc_of_kind same).trans untagged
    simp only [dispatchSelector, kind, transferSkuFilters, Bool.and_eq_true] at selected
    have status : hasTransferStatus row = true := by
      rw [hasTransferStatus, sentFrom.status]
      exact selected.1.1.1.2
    simp only [StockSnapshot.kind, untagged, rowUntagged, UnitKind.variant.injEq] at same
    obtain ⟨sku, description, var1, var2⟩ := same
    simp only [receiveSelector, kind, inTransitSkuFilters, tenant, store, rowUntagged, sku,
      description, var1, var2, transit, status, decide_true, Bool.and_true]
  | epc =>
    obtain ⟨epc, named, _⟩ := underway.named line inLines kind
    have tag : row.epc = line.epc := (epc_of_kind sentFrom.kind).trans
      (dispatchSelector_row typed selected).2.1
    simp only [receiveSelector, kind, epcFilters, tenant, tag, named, store, transit,
      Option.getD_some, decide_true, Bool.and_true, Bool.true_or]

/-- A query for the tag of a line finds the row that was dispatched for it. -/
theorem takenIds_epc (underway : Underway db later transfer now)
    (inLines : line ∈ getLines db transfer.id) (isEpc : line.lineType = .epc)
    {matching : StockItem → Bool} {qty : ℤ} (finds : ∀ unit row, SentFrom transfer unit row →
      dispatchSelector transfer line unit = true → matching row = true)
    (tagged : ∀ row, matching row = true → epcFilters transfer.tenantId (line.epc.getD "") row =
      true) :
    takenIds later.stock .epc matching qty = sentIds db.stock transfer line := by
  have picks := underway.picks line inLines
  obtain ⟨id, only⟩ : ∃ id, sentIds db.stock transfer line = [id] := by
    apply List.length_eq_one_iff.mp
    rw [picks.length, TransferLine.units, isEpc]
    rfl
  obtain ⟨unit, isUnit, rfl, selected⟩ := picks.found id (by simp [only])
  obtain ⟨row, isRow, sentFrom⟩ := underway.units line inLines unit isUnit (by simp [only])
  have first : later.stock.rows.find? matching = some row := by
    refine find?_eq_some_of_key later.stock.distinctIds isRow (finds unit row sentFrom selected)
      fun other isOther alike => ?_
    obtain ⟨tenant, tag⟩ := epcFilters_eq_true.mp (tagged row (finds unit row sentFrom selected))
    obtain ⟨otherTenant, otherTag⟩ := epcFilters_eq_true.mp (tagged other alike)
    rw [StockTable.eq_of_tag isOther isRow (otherTenant.trans tenant.symm) otherTag tag]
  rw [only]
  simp only [takenIds, first, Option.map_some, Option.toList_some, sentFrom.id]

end Underway

end ArisCloud

import ArisCloud.Proofs.InTransit
import ArisCloud.Soundness.EpcReservations

/-! # Rows in transit agree with the movement ledger

The rows at the in-transit place and the outstanding quantities of the ledger are kept by separate
loops, whose queries see the stock as it was before the request. They agree as long as no two lines
of one request reach the same rows: a dispatch takes different rows of the right variant for its
lines, and receives, losses and cancels name lines of different kinds. In addition nothing is
received into the in-transit place, no more is lost than is outstanding, and nothing that was lost
is put back.
-/

namespace ArisCloud

open KeyedRows Requests Shipments
open Tally (askedQty askedQty_le askedQty_nonneg askedQty_of_nodup)

/-! ## Requests that keep stock and ledger together -/

/-- The SKU lines of a draft reach pairwise different rows, none of them in transit and all of the
line's kind. -/
def DispatchesApart (db : Db) (transfer : Transfer) : Prop :=
  ((getLines db transfer.id).Pairwise fun line other => line.lineType = .sku →
    other.lineType = .sku → ∀ id ∈ dispatchIds db.stock transfer line,
    id ∉ dispatchIds db.stock transfer other) ∧
  ∀ line ∈ getLines db transfer.id, line.lineType = .sku →
    ∀ row ∈ db.stock.rows, row.id ∈ dispatchIds db.stock transfer line → row.inTransit = false ∧
    row.kind = line.kind

instance (db : Db) (transfer : Transfer) : Decidable (DispatchesApart db transfer) :=
  inferInstanceAs (Decidable (_ ∧ _))

/-- The lines of a transfer have pairwise different kinds, and none of its units is lost. -/
def CancelsWhole (db : Db) (transfer : Transfer) : Prop :=
  ((getLines db transfer.id).map (·.kind)).Nodup ∧
  ∀ line ∈ getLines db transfer.id,
    movedQty db.transferMovements transfer.id line.id .shortageResolvedLostInRoute = 0

instance (db : Db) (transfer : Transfer) : Decidable (CancelsWhole db transfer) := inferInstanceAs
    (Decidable (_ ∧ _))

/-- A request whose lines take different rows, into and out of transit. -/
def TransitSafe (db : Db) : TransferRequest → Prop
  | .action _ transferId ⟨_, _, .dispatch⟩ =>
      ∀ transfer ∈ db.transfers, transfer.id = transferId → DispatchesApart db transfer
  | .action _ transferId ⟨_, _, .receive receiveLines⟩ =>
      (receiveLines.map fun line => lineKind db transferId line.lineId).Nodup ∧
      ∀ line ∈ receiveLines,
        ¬ (line.locationCode = some inTransitCode ∧ line.pool = some inTransitCode)
  | .action _ transferId ⟨_, _, .resolveShortages .lostInRoute resolutionLines⟩ =>
      (resolutionLines.map fun line => lineKind db transferId line.lineId).Nodup ∧
      ∀ line ∈ resolutionLines, line.qty ≤ (getMovementTotals db transferId).outstanding line.lineId
  | .action _ transferId ⟨_, _, .cancel⟩ => ∀ transfer ∈ db.transfers, transfer.id = transferId →
      transfer.status = .dispatched → CancelsWhole db transfer
  | _ => True

instance (db : Db) (request : TransferRequest) : Decidable (TransitSafe db request) := by
  unfold TransitSafe
  split <;> infer_instance

/-- A requested code reaches a place that is not the default only when the request names it. -/
theorem getD_filter_eq {value : Option String} {default target : String} (apart : default ≠ target)
    (same : (value.filter (· ≠ "")).getD default = target) : value = some target := by
  cases value with
  | none => exact absurd same apart
  | some text =>
    by_cases empty : text = ""
    · simp only [Option.filter_some, empty] at same
      exact absurd same apart
    · simpa [Option.filter_some, empty] using same

private theorem default_location_ne (storeId : ℕ) : s!"STORE-{storeId}" ≠ inTransitCode := by
  intro same
  change "STORE-" ++ toString storeId = "IN_TRANSIT" at same
  have chars := congrArg String.toList same
  simp at chars

/-- Only a request that names the in-transit place puts a received row there. -/
theorem receivePlace_inTransit {transfer : Transfer} {receiveLine : TransferReceiveLine}
    (outside : ¬ (receiveLine.locationCode = some inTransitCode ∧
      receiveLine.pool = some inTransitCode)) (row : StockItem) :
    (receivePlace transfer receiveLine row).inTransit = false := by
  by_contra transit
  simp only [receivePlace, resolveReceiveDestination, StockSnapshot.inTransit, Bool.not_eq_false,
    Bool.and_eq_true, decide_eq_true_eq, Option.some.injEq] at transit
  exact outside ⟨getD_filter_eq (default_location_ne transfer.destinationStoreId) transit.1,
    getD_filter_eq (by decide) transit.2⟩

/-! ## The invariant -/

/-- What runs of such requests keep. -/
structure TransitInvariant (db : Db) : Prop where
  reservations : ReservationInvariant db
  lineIds : (db.transferLines.map (·.id)).Nodup
  held : ∀ row ∈ db.stock.rows, row.inTransit = true → row.storeId ≠ none
  unmoved : ∀ movement ∈ db.transferMovements, ∀ transfer ∈ db.transfers,
    transfer.id = movement.transferId → transfer.status ≠ .draft
  settled : ∀ transferId lineId, 0 ≤ (shipmentLedger db transferId lineId).outstanding
  sent : ∀ transfer ∈ db.transfers, transfer.status = .dispatched →
    ∀ line ∈ getLines db transfer.id, (shipmentLedger db transfer.id line.id).outstanding +
    (shipmentLedger db transfer.id line.id).lost = line.units
  away : ∀ transfer ∈ db.transfers, transfer.status.isEnRoute = true →
    ∀ line ∈ getLines db transfer.id, line.inTransit = false
  agrees : ∀ tenantId storeId kind,
    rowsInTransit db.stock.rows tenantId storeId kind = ledgerInTransit db tenantId storeId kind

namespace TransitInvariant

variable {db after : Db}

theorem typed (invariant : TransitInvariant db) {transferId : ℕ} {line : TransferLine}
    (member : line ∈ getLines db transferId) : line.Typed :=
  invariant.reservations.typed line (mem_getLines.mp member).1

/-- A draft has nothing on its ledger. -/
theorem draft_movedQty (invariant : TransitInvariant db) {transfer : Transfer}
    (member : transfer ∈ db.transfers) (draft : transfer.status = .draft) (lineId : ℕ)
    (action : MovementAction) :
    movedQty db.transferMovements transfer.id lineId action = 0 := by
  refine Tally.sumWhere_eq_zero fun movement isMovement selected => ?_
  simp only [Bool.and_eq_true, decide_eq_true_eq] at selected
  exact absurd draft (invariant.unmoved movement isMovement transfer member selected.1.1.symm)

/-- A tagged row in transit belongs to a line of a transfer on its way from the store of the row. -/
theorem carrier (invariant : TransitInvariant db) {row : StockItem} (member : row ∈ db.stock.rows)
    (transit : row.inTransit = true) {epc : String} (tag : row.epc = some epc) :
    ∃ transfer ∈ db.transfers, transfer.status.isEnRoute = true ∧ transfer.tenantId = row.tenantId ∧
      row.storeId = some transfer.originStoreId ∧ ∃ line ∈ getLines db transfer.id,
      line.epc = some epc := by
  obtain ⟨storeId, store⟩ := Option.ne_none_iff_exists'.mp (invariant.held row member transit)
  by_contra none
  have zero : ledgerInTransit db row.tenantId storeId (.epc epc) = 0 := by
    refine Tally.sumWhere_eq_zero fun transfer isTransfer ships =>
      Tally.sumWhere_eq_zero fun line inLines same => absurd ?_ none
    simp only [shipsFrom, Bool.and_eq_true, decide_eq_true_eq] at ships same
    refine ⟨transfer, isTransfer, ships.1, ships.2.1, by rw [store, ships.2.2], line, inLines, ?_⟩
    unfold StockSnapshot.kind at same
    split at same
    · next named => rw [named, UnitKind.epc.inj same]
    · contradiction
  have counted : 0 < db.stock.rows.countP (countsInTransit row.tenantId storeId (.epc epc)) :=
    List.countP_pos_iff.mpr
      ⟨row, member, by simp [countsInTransit, store, transit, StockSnapshot.kind, tag]⟩
  have agrees := invariant.agrees row.tenantId storeId (.epc epc)
  rw [zero, rowsInTransit] at agrees
  omega

/-- A tagged row in transit left the store of the active transfer that names its EPC, and that
transfer is on its way. -/
theorem carrier_eq (invariant : TransitInvariant db) {transfer : Transfer}
    (member : transfer ∈ db.transfers) (active : transfer.status.isActive = true)
    {line : TransferLine} (inLines : line ∈ getLines db transfer.id)
    {row : StockItem} (inRows : row ∈ db.stock.rows) (tenant : row.tenantId = transfer.tenantId)
    (transit : row.inTransit = true) {epc : String} (named : line.epc = some epc)
    (tag : row.epc = some epc) :
    transfer.status.isEnRoute = true ∧ row.storeId = some transfer.originStoreId := by
  obtain ⟨carrier, isCarrier, enRoute, carrierTenant, store, other, otherLines, otherNamed⟩ :=
    invariant.carrier inRows transit tag
  obtain ⟨isLine, owner⟩ := mem_getLines.mp inLines
  obtain ⟨isOther, otherOwner⟩ := mem_getLines.mp otherLines
  have lineTenant := invariant.reservations.tenant line isLine transfer member owner.symm
  have otherTenant := invariant.reservations.tenant other isOther carrier isCarrier otherOwner.symm
  obtain rfl := invariant.reservations.active_line_eq isLine isOther
    (lineTenant.symm.trans (tenant.symm.trans (carrierTenant.symm.trans otherTenant))) named
    otherNamed ⟨transfer, member, owner.symm, active⟩ ⟨carrier, isCarrier, otherOwner.symm,
    isActive_of_isEnRoute enRoute⟩
  obtain rfl := invariant.reservations.transfer_eq member isCarrier (owner.symm.trans otherOwner)
  exact ⟨enRoute, store⟩

/-- A row in transit that a loss takes for a line is one that left the origin store. -/
theorem lost_store (invariant : TransitInvariant db) {transfer : Transfer}
    (member : transfer ∈ db.transfers) (enRoute : transfer.status.isEnRoute = true)
    {line : TransferLine} (inLines : line ∈ getLines db transfer.id)
    {row : StockItem} (inRows : row ∈ db.stock.rows) (found : InTransitFor transfer line row)
    (untagged : line.epc = none → row.storeId = some transfer.originStoreId ∨ row.storeId = none) :
    row.storeId = some transfer.originStoreId := by
  cases named : line.epc with
  | none => exact (untagged named).resolve_right (invariant.held row inRows found.transit)
  | some epc =>
    exact (invariant.carrier_eq member (isActive_of_isEnRoute enRoute) inLines inRows found.tenant
      found.transit named ((epc_of_kind found.kind).trans named)).2

/-! ## Drafts -/

/-- A request that changes drafts only, and claims rows for them, keeps both sides. -/
theorem of_drafts (invariant : TransitInvariant db) (reservations : ReservationInvariant after)
    (lineIds : (after.transferLines.map (·.id)).Nodup)
    (movements : after.transferMovements = db.transferMovements)
    {session : StockSession} {storeId : ℕ} (claims : session.Claims db.stock storeId)
    (stock : after.stock.rows = db.stock.rows.map session.current)
    (unmoved : ∀ movement ∈ db.transferMovements, ∀ transfer ∈ after.transfers,
      transfer.id = movement.transferId →
      transfer.status ≠ .draft)
    (source : ∀ transfer ∈ after.transfers, transfer.status = .draft ∨
      transfer ∈ db.transfers ∧ getLines after transfer.id = getLines db transfer.id)
    (ledger : ∀ tenantId storeId kind,
      ledgerInTransit after tenantId storeId kind = ledgerInTransit db tenantId storeId kind) :
      TransitInvariant after := by
  have sameLedger (transferId lineId : ℕ) : shipmentLedger after transferId lineId =
      shipmentLedger db transferId lineId := by
    simp only [shipmentLedger, movements]
  refine ⟨reservations, lineIds, ?_, by rw [movements]; exact unmoved, ?_, ?_, ?_, ?_⟩
  · rw [stock]
    intro row isAfter transit
    obtain ⟨before, isBefore, rfl⟩ := List.mem_map.mp isAfter
    rw [(claims.columns isBefore).1] at transit
    obtain ⟨holder, store⟩ := Option.ne_none_iff_exists'.mp (invariant.held before isBefore transit)
    rw [claims.current_of_held isBefore store, store]
    exact Option.some_ne_none _
  · intro transferId lineId
    rw [sameLedger]
    exact invariant.settled transferId lineId
  · intro transfer isAfter dispatched line inLines
    rcases source transfer isAfter with draft | ⟨isBefore, same⟩
    · rw [draft] at dispatched
      contradiction
    · rw [sameLedger]
      exact invariant.sent transfer isBefore dispatched line (same ▸ inLines)
  · intro transfer isAfter enRoute line inLines
    rcases source transfer isAfter with draft | ⟨isBefore, same⟩
    · rw [draft] at enRoute
      contradiction
    · exact invariant.away transfer isBefore enRoute line (same ▸ inLines)
  · intro tenantId holder kind
    rw [stock, claims.rowsInTransit invariant.held, ledger]
    exact invariant.agrees tenantId holder kind

theorem created (invariant : TransitInvariant db) (reservations : ReservationInvariant after)
    {tenantId : ℕ} {progress : Normalization} {transfer : Transfer}
    (step : Created db after tenantId progress transfer) :
    TransitInvariant after := by
  have transfers : after.transfers = db.transfers ++ [transfer] := by rw [step.tables]
  have lines : after.transferLines = db.transferLines ++ newTransferLines db tenantId transfer.id
      progress.normalized := by
    rw [step.tables]
  have movements : after.transferMovements = db.transferMovements := by rw [step.tables]
  have sameLines {other : Transfer} (isBefore : other ∈ db.transfers) : getLines after other.id =
      getLines db other.id :=
    getLines_append_newTransferLines lines (step.id ▸ (db.id_lt_freshTransferId isBefore).ne) rfl
  have source : ∀ other ∈ after.transfers, other = transfer ∨ other ∈ db.transfers := by
    intro other isAfter
    rw [transfers, List.mem_append, List.mem_singleton] at isAfter
    exact isAfter.symm
  refine invariant.of_drafts reservations ?_ movements step.checked.claims step.stock ?_ ?_ ?_
  · rw [lines]
    exact nodup_ids_append_newTransferLines _ _ _ invariant.lineIds (List.Sublist.refl _)
  · intro movement isMovement other isAfter owner
    rcases source other isAfter with rfl | isBefore
    · have := db.movement_lt_freshTransferId isMovement
      rw [step.id] at owner
      omega
    · exact invariant.unmoved movement isMovement other isBefore owner
  · intro other isAfter
    rcases source other isAfter with rfl | isBefore
    · exact .inl step.status
    · exact .inr ⟨isBefore, sameLines isBefore⟩
  · intro counted storeId kind
    have old : Tally.sumWhere (fun other => other.status.isEnRoute &&
        shipsFrom counted storeId other) (outstandingOf after kind) db.transfers =
        ledgerInTransit db counted storeId kind :=
      Tally.sumWhere_congr (fun _ _ => rfl) fun other isBefore _ => outstandingOf_congr movements
        (sameLines isBefore) kind
    rw [ledgerInTransit, transfers, Tally.sumWhere_append, old]
    simp [step.status, TransferStatus.isEnRoute]

theorem updated (invariant : TransitInvariant db) (reservations : ReservationInvariant after)
    {tenantId originStoreId destinationStoreId : ℕ} {transfer : Transfer} {session : StockSession}
    (step : Updated db after tenantId originStoreId destinationStoreId transfer session) :
    TransitInvariant after := by
  have movements : after.transferMovements = db.transferMovements := by rw [step.tables]
  have transfers : after.transfers = update Transfer.id [transfer.id]
      (fun row => { row with originStoreId, destinationStoreId }) db.transfers := by
      rw [step.tables]
  obtain ⟨lineIds, sameLines⟩ : (after.transferLines.map (·.id)).Nodup ∧
      ∀ other, other ≠ transfer.id → getLines after other = getLines db other := by
    obtain ⟨transferLines, lines⟩ : ∃ transferLines, after.transferLines = transferLines := ⟨_, rfl⟩
    have updatedLines := step.lines
    rw [lines] at updatedLines
    cases updatedLines with
    | replaced progress checked same =>
      refine ⟨?_, fun other apart => getLines_append_newTransferLines lines apart
        (filter_transferId_of_ne apart)⟩
      rw [lines]
      exact nodup_ids_append_newTransferLines _ _ _ invariant.lineIds List.filter_sublist
    | kept valid =>
      exact ⟨lines ▸ invariant.lineIds, fun other _ => by rw [getLines, lines, getLines]⟩
  have source {other : Transfer} (isAfter : other ∈ after.transfers) :
      other = { transfer with originStoreId, destinationStoreId } ∨ other ∈ db.transfers ∧
      other.id ≠ transfer.id := by
    rw [transfers] at isAfter
    exact mem_update_singleton invariant.reservations.distinct step.member isAfter
  refine invariant.of_drafts reservations lineIds movements step.claims step.stock ?_ ?_ ?_
  · intro movement isMovement other isAfter owner
    rcases source isAfter with rfl | ⟨isBefore, _⟩
    · exact invariant.unmoved movement isMovement transfer step.member owner
    · exact invariant.unmoved movement isMovement other isBefore owner
  · intro other isAfter
    rcases source isAfter with rfl | ⟨isBefore, apart⟩
    · exact .inl step.draft
    · exact .inr ⟨isBefore, sameLines other.id apart⟩
  · intro counted storeId kind
    rw [ledgerInTransit_update invariant.reservations.distinct step.member transfers counted
      storeId kind fun other _ apart => outstandingOf_congr movements
      (sameLines other.id apart) kind]
    simp [ledgerShare, step.draft, TransferStatus.isEnRoute]

/-! ## Actions -/

section Action

variable {transfer : Transfer} {change : Transfer → Transfer} {action : MovementAction}
    {asked : List (ℕ × ℤ)}
  {movements : List TransferMovement}

/-- An action keeps the invariant when its transfer's share of the rows changes with its share of
the ledger. -/
theorem of_action (invariant : TransitInvariant db) (reservations : ReservationInvariant after)
    (member : transfer ∈ db.transfers) (lines : after.transferLines = db.transferLines)
    (transfers : after.transfers = update Transfer.id [transfer.id] change db.transfers)
    (writes : Writes transfer.id action asked movements)
    (appended : after.transferMovements = db.transferMovements ++ movements)
    (identity : (change transfer).id = transfer.id) (notDraft : (change transfer).status ≠ .draft)
    (held : ∀ row ∈ after.stock.rows, row.inTransit = true → row.storeId ≠ none)
    (settled : ∀ lineId, 0 ≤ (shipmentLedger db transfer.id lineId).outstanding + action.sign *
      askedQty asked lineId)
    (sent : (change transfer).status = .dispatched → ∀ line ∈ getLines db transfer.id,
      (shipmentLedger after transfer.id line.id).outstanding +
      (shipmentLedger after transfer.id line.id).lost = line.units)
    (away : (change transfer).status.isEnRoute = true → ∀ line ∈ getLines db transfer.id,
        line.inTransit = false)
    (moves : ∀ tenantId storeId kind, rowsInTransit after.stock.rows tenantId storeId kind =
      rowsInTransit db.stock.rows tenantId storeId kind - ledgerShare db tenantId storeId kind
      transfer +
        ledgerShare after tenantId storeId kind (change transfer)) : TransitInvariant after := by
  have distinct := invariant.reservations.distinct
  have source {other : Transfer} (isAfter : other ∈ after.transfers) :
      other = change transfer ∨ other ∈ db.transfers ∧ other.id ≠ transfer.id := by
    rw [transfers] at isAfter
    exact mem_update_singleton distinct member isAfter
  have sameLines (transferId : ℕ) : getLines after transferId = getLines db transferId := by
    rw [getLines, lines, getLines]
  have foreign {other : ℕ} (apart : other ≠ transfer.id) (lineId : ℕ) :
      shipmentLedger after other lineId = shipmentLedger db other lineId := by
    rw [writes.shipmentLedger appended, if_neg apart]
  refine ⟨reservations, lines ▸ invariant.lineIds, held, ?_, ?_, ?_, ?_, ?_⟩
  · intro movement isMovement other isAfter owner
    rcases source isAfter with rfl | ⟨isBefore, apart⟩
    · exact notDraft
    · rw [appended] at isMovement
      rcases List.mem_append.mp isMovement with old | new
      · exact invariant.unmoved movement old other isBefore owner
      · obtain ⟨_, _, sameTransfer, _⟩ := Checked.item_of_output writes new
        exact absurd (owner.trans sameTransfer) apart
  · intro transferId lineId
    rw [writes.shipmentLedger appended]
    split
    · next own =>
      rw [own, outstanding_post]
      exact settled lineId
    · exact invariant.settled transferId lineId
  · intro other isAfter status line inLines
    rw [sameLines] at inLines
    rcases source isAfter with rfl | ⟨isBefore, apart⟩
    · rw [identity] at inLines ⊢
      exact sent status line inLines
    · rw [foreign apart]
      exact invariant.sent other isBefore status line inLines
  · intro other isAfter enRoute line inLines
    rw [sameLines] at inLines
    rcases source isAfter with rfl | ⟨isBefore, apart⟩
    · rw [identity] at inLines
      exact away enRoute line inLines
    · exact invariant.away other isBefore enRoute line inLines
  · intro tenantId storeId kind
    rw [moves, invariant.agrees, ledgerInTransit_update distinct member transfers]
    intro other _ apart
    rw [outstandingOf_writes invariant.lineIds lines writes appended, if_neg apart, add_zero]

/-- The share of a transfer on its way changes by what the action asks for, also when it ends the
transfer. -/
theorem ledgerShare_change (invariant : TransitInvariant db) {ended : Transfer}
    (enRoute : transfer.status.isEnRoute = true) (lines : after.transferLines = db.transferLines)
    (writes : Writes transfer.id action asked movements)
    (appended : after.transferMovements = db.transferMovements ++ movements)
    (identity : ended.id = transfer.id)
    (ends : ended.status.isEnRoute = true ∨
      ∀ lineId, (shipmentLedger after transfer.id lineId).outstanding = 0)
    (tenantId storeId : ℕ) (kind : UnitKind)
    (ships : shipsFrom tenantId storeId ended = shipsFrom tenantId storeId transfer) :
    ledgerShare after tenantId storeId kind ended = ledgerShare db tenantId storeId kind transfer +
      if shipsFrom tenantId storeId transfer then action.sign * askedOfKind db transfer.id kind
      asked else 0 := by
  have grown := outstandingOf_writes invariant.lineIds lines writes appended kind ended
  have unchanged : outstandingOf db kind ended = outstandingOf db kind transfer := by
    simp only [outstandingOf, identity]
  rw [if_pos identity, unchanged] at grown
  simp only [ledgerShare, ships, enRoute, Bool.true_and]
  cases shipped : shipsFrom tenantId storeId transfer with
  | false => simp
  | true =>
    rcases ends with stays | settled
    · simp only [stays, Bool.true_and, if_true, grown]
    · have none : outstandingOf after kind ended = 0 :=
        Tally.sumWhere_eq_zero fun line _ _ => by
          rw [identity]
          exact settled line.id
      simp only [Bool.and_true, if_true]
      rw [← grown, none, ite_self]

end Action

/-- A shortage report changes neither side. -/
theorem reported (invariant : TransitInvariant db) (reservations : ReservationInvariant after)
    {transfer : Transfer} (member : transfer ∈ db.transfers) {shortages : List TransferShortageLine}
    {movements : List TransferMovement} (step : ReportStep db after transfer shortages movements) :
    TransitInvariant after := by
  have lines : after.transferLines = db.transferLines := by rw [step.tables]
  have stock : after.stock = db.stock := by rw [step.tables]
  have appended : after.transferMovements = db.transferMovements ++ movements := by rw [step.tables]
  have transfers : after.transfers = update Transfer.id [transfer.id] id db.transfers := by
    rw [step.tables]
    simp [update]
  refine invariant.of_action reservations member lines transfers step.writes appended rfl ?_ ?_ ?_
    ?_ ?_ ?_
  · intro (draft : transfer.status = .draft)
    have enRoute := step.enRoute
    rw [draft] at enRoute
    contradiction
  · rw [stock]
    exact invariant.held
  · intro lineId
    simpa [MovementAction.sign] using invariant.settled transfer.id lineId
  · intro status line inLines
    rw [step.writes.shipmentLedger appended, if_pos rfl]
    exact invariant.sent transfer member status line inLines
  · exact fun _ => invariant.away transfer member step.enRoute
  · intro tenantId storeId kind
    rw [id_eq, invariant.ledgerShare_change step.enRoute lines step.writes appended
      rfl (.inl step.enRoute) tenantId storeId kind rfl, stock]
    simp [MovementAction.sign]

/-- A receive of lines of different kinds takes as many rows out of transit as it takes off the
ledger. -/
theorem received (invariant : TransitInvariant db) (reservations : ReservationInvariant after)
    {transfer : Transfer} (member : transfer ∈ db.transfers)
    {receiveLines : List TransferReceiveLine} {now : ℕ} {outputs : List ActionOutput}
    (step : ReceiveStep db after transfer receiveLines now outputs)
    (kinds : (receiveLines.map fun line => lineKind db transfer.id line.lineId).Nodup)
    (outside : ∀ line ∈ receiveLines,
      ¬ (line.locationCode = some inTransitCode ∧ line.pool = some inTransitCode)) :
    TransitInvariant after := by
  have lines : after.transferLines = db.transferLines := by rw [step.tables]
  have appended : after.transferMovements = db.transferMovements ++ outputs.map (·.2) := by
    rw [step.tables]
  have transfers := congrArg Db.transfers step.tables
  have settled : ∀ lineId, 0 ≤ (shipmentLedger db transfer.id lineId).outstanding +
      MovementAction.receive.sign * askedQty (receiveLines.map (·.asked)) lineId := by
    intro lineId
    have distinct : ((receiveLines.map (·.asked)).map (·.1)).Nodup := by
      rw [List.map_map]
      exact List.Nodup.of_map (lineKind db transfer.id) (by rw [List.map_map]; exact kinds)
    have bound := askedQty_le distinct (invariant.settled transfer.id)
      (fun item isAsked => ?_) lineId
    · simp only [MovementAction.sign]
      omega
    · obtain ⟨line, inLines, rfl⟩ := List.mem_map.mp isAsked
      obtain ⟨_, _, _, _, taken⟩ := Checked.output_of_item step.taken inLines
      exact taken.outstanding
  refine invariant.of_action reservations member lines transfers step.writes appended ?_ ?_ ?_
    settled ?_ ?_ ?_
  · split <;> rfl
  · split <;> simp
  · rw [step.stock]
    intro row isAfter
    obtain ⟨before, isBefore, rfl⟩ := List.mem_map.mp isAfter
    refine editRow_keeps (fun now : StockItem => now.inTransit = true → now.storeId ≠ none)
      (invariant.held before isBefore) fun edit applied now _ _ _ => ?_
    obtain ⟨output, isOutput, rfl⟩ := List.mem_map.mp applied
    obtain ⟨receiveLine, _, _, _, taken⟩ := Checked.item_of_output step.taken isOutput
    rw [taken.change]
    exact Option.some_ne_none _
  · split <;> simp
  · exact fun _ => invariant.away transfer member step.enRoute
  · intro tenantId storeId kind
    obtain ⟨pairs, firsts, seconds, each⟩ := Checked.pairs_of_outputs step.taken
    have carries : ∀ pair ∈ pairs, Carries db.stock.rows transfer
        (lineKind db transfer.id pair.1.lineId) pair.1.qty
        pair.2.1.keys := by
      intro pair isPair
      obtain ⟨line, inLines, taken⟩ := each pair isPair
      refine ⟨taken.picks.unrepeated, ?_, taken.picks.present, fun row inRows listed => ?_⟩
      · rw [taken.picks.length, Int.toNat_of_nonneg (by have := taken.positive; omega)]
      · obtain ⟨found, store⟩ := receiveSelector_inTransitFor (invariant.typed inLines)
          (taken.picks.holds db.stock.distinctIds inRows listed)
        refine ⟨found.tenant, store.resolve_right (invariant.held row inRows found.transit), ?_,
          found.transit⟩
        rw [← taken.id, lineKind_of_mem invariant.lineIds inLines, found.kind]
    have lands : ∀ pair ∈ pairs, ∀ row, (pair.2.1.change row).inTransit = false := by
      intro pair isPair row
      obtain ⟨line, inLines, taken⟩ := each pair isPair
      rw [taken.change]
      exact receivePlace_inTransit (outside pair.1 (firsts ▸ List.mem_map_of_mem isPair)) row
    have apart : pairs.Pairwise fun pair later =>
        lineKind db transfer.id pair.1.lineId ≠ lineKind db transfer.id later.1.lineId := by
      rw [← firsts, List.map_map] at kinds
      exact List.pairwise_map.mp kinds
    have rows := rowsInTransit_leave (fun pair : TransferReceiveLine × ActionOutput => pair.2.1)
      db.stock.distinctIds carries apart lands tenantId storeId kind
    have total : askedOfKind db transfer.id kind (receiveLines.map (·.asked)) =
        Tally.sumWhere (fun pair => lineKind db transfer.id pair.1.lineId = some kind)
        (·.1.qty) pairs := by
      rw [← firsts, List.map_map, askedOfKind, Tally.sumWhere_map]
      rfl
    rw [invariant.ledgerShare_change step.enRoute lines step.writes appended ?_ ?_ tenantId storeId
      kind ?_, total, step.stock, ← seconds, List.map_map]
    · change rowsInTransit (db.stock.rows.map (editRow (pairs.map fun pair => pair.2.1))) tenantId
        storeId kind = _
      rw [rows]
      split
      · simp only [MovementAction.sign]
        ring
      · ring
    · split <;> rfl
    · by_cases none :
          (receiveLines.foldl (fun totals line => totals.record line.lineId .receive line.qty)
          (getMovementTotals db transfer.id)).outstandingTotal = 0
      · refine .inr fun lineId =>
          le_antisymm (outstanding_nonpos_of_total step.writes appended ?_ lineId) ?_
        · rw [List.foldl_map]
          exact none
        · rw [step.writes.shipmentLedger appended, if_pos rfl, outstanding_post]
          exact settled lineId
      · rw [if_neg none]
        exact .inl rfl
    · split <;> rfl

/-- A loss of lines of different kinds, each with enough outstanding, removes as many rows as it
takes off the ledger; finding units changes neither side. -/
theorem resolved (invariant : TransitInvariant db) (reservations : ReservationInvariant after)
    {transfer : Transfer} (member : transfer ∈ db.transfers) {resolution : ShortageResolution}
    {resolutionLines : List TransferShortageLine} {now : ℕ} {outputs : List ResolveOutput}
    (step : ResolveStep db after transfer resolution resolutionLines now outputs)
    (safe : resolution = .lostInRoute →
      (resolutionLines.map fun line => lineKind db transfer.id line.lineId).Nodup ∧
      ∀ line ∈ resolutionLines,
      line.qty ≤ (getMovementTotals db transfer.id).outstanding line.lineId) :
    TransitInvariant after := by
  have lines : after.transferLines = db.transferLines := by rw [step.tables]
  have appended : after.transferMovements = db.transferMovements ++ outputs.map (·.2) := by
    rw [step.tables]
  have transfers := congrArg Db.transfers step.tables
  have settled : ∀ lineId, 0 ≤ (shipmentLedger db transfer.id lineId).outstanding +
      resolution.action.sign * askedQty (resolutionLines.map (·.asked)) lineId := by
    intro lineId
    have outstanding := invariant.settled transfer.id lineId
    cases resolution with
    | foundAndResend => simpa [ShortageResolution.action, MovementAction.sign] using outstanding
    | lostInRoute =>
      obtain ⟨kinds, fits⟩ := safe rfl
      have distinct : ((resolutionLines.map (·.asked)).map (·.1)).Nodup := by
        rw [List.map_map]
        exact List.Nodup.of_map (lineKind db transfer.id) (by rw [List.map_map]; exact kinds)
      have bound := askedQty_le distinct (invariant.settled transfer.id)
        (fun item isAsked => ?_) lineId
      · simp only [ShortageResolution.action, MovementAction.sign]
        omega
      · obtain ⟨line, inLines, rfl⟩ := List.mem_map.mp isAsked
        exact fits line inLines
  have rows (tenantId storeId : ℕ) (kind : UnitKind) :
      rowsInTransit after.stock.rows tenantId storeId kind =
      rowsInTransit db.stock.rows tenantId storeId kind +
      if shipsFrom tenantId storeId transfer then
        resolution.action.sign * askedOfKind db transfer.id kind (resolutionLines.map (·.asked))
            else 0 := by
    rw [step.stock]
    cases resolution with
    | foundAndResend =>
      have none : outputs.flatMap (·.1) = [] := List.flatMap_eq_nil_iff.mpr
          fun output isOutput => by
        obtain ⟨_, _, _, _, taken⟩ := Checked.item_of_output step.taken isOutput
        exact taken.found rfl
      simp [none, ShortageResolution.action, MovementAction.sign]
    | lostInRoute =>
      obtain ⟨kinds, _⟩ := safe rfl
      obtain ⟨pairs, firsts, seconds, each⟩ := Checked.pairs_of_outputs step.taken
      have carries : ∀ pair ∈ pairs, Carries db.stock.rows transfer
          (lineKind db transfer.id pair.1.lineId) pair.1.qty
          pair.2.1 := by
        intro pair isPair
        obtain ⟨line, inLines, taken⟩ := each pair isPair
        have picks := taken.lost rfl
        refine ⟨picks.unrepeated, ?_, picks.present, fun row inRows listed => ?_⟩
        · rw [picks.length, Int.toNat_of_nonneg (by have := taken.positive; omega)]
        · obtain ⟨found, untagged⟩ := lostSelector_inTransitFor (invariant.typed inLines)
            (picks.holds db.stock.distinctIds inRows listed)
          refine ⟨found.tenant,
            invariant.lost_store member step.enRoute inLines inRows found untagged, ?_,
            found.transit⟩
          rw [← taken.id, lineKind_of_mem invariant.lineIds inLines, found.kind]
      have apart : pairs.Pairwise fun pair later =>
          lineKind db transfer.id pair.1.lineId ≠ lineKind db transfer.id later.1.lineId := by
        rw [← firsts, List.map_map] at kinds
        exact List.pairwise_map.mp kinds
      have removed := rowsInTransit_remove db.stock.distinctIds carries apart tenantId storeId kind
      have total : askedOfKind db transfer.id kind (resolutionLines.map (·.asked)) =
          Tally.sumWhere (fun pair => lineKind db transfer.id pair.1.lineId = some kind)
          (·.1.qty) pairs := by
        rw [← firsts, List.map_map, askedOfKind, Tally.sumWhere_map]
        rfl
      rw [← seconds, List.flatMap_map, removed, total]
      split
      · simp only [ShortageResolution.action, MovementAction.sign]
        ring
      · ring
  refine invariant.of_action reservations member lines transfers step.writes appended ?_ ?_ ?_
    settled ?_ ?_ ?_
  · split <;> rfl
  · have enRoute := step.enRoute
    split
    · simp
    · rintro draft
      rw [draft] at enRoute
      contradiction
  · rw [step.stock]
    exact fun row isAfter => invariant.held row (List.mem_filter.mp isAfter).1
  · intro dispatched line inLines
    have before := invariant.sent transfer member ?_ line inLines
    · rw [step.writes.shipmentLedger appended, if_pos rfl]
      cases resolution with
      | foundAndResend => exact before
      | lostInRoute =>
        simp only [ShortageResolution.action, MovementAction.entry, Ledger.post,
          Ledger.outstanding] at before ⊢
        omega
    · split at dispatched
      · contradiction
      · exact dispatched
  · exact fun _ => invariant.away transfer member step.enRoute
  · intro tenantId storeId kind
    rw [invariant.ledgerShare_change step.enRoute lines step.writes appended ?_ ?_ tenantId storeId
      kind ?_, rows]
    · ring
    · split <;> rfl
    · by_cases none :
          (resolutionLines.foldl
          (fun totals line => totals.record line.lineId resolution.action line.qty)
          (getMovementTotals db transfer.id)).outstandingTotal = 0
      · refine .inr fun lineId =>
          le_antisymm (outstanding_nonpos_of_total step.writes appended ?_ lineId) ?_
        · rw [List.foldl_map]
          exact none
        · rw [step.writes.shipmentLedger appended, if_pos rfl, outstanding_post]
          exact settled lineId
      · rw [if_neg none]
        exact .inl step.enRoute
    · split <;> rfl

/-- A cancel of a draft touches nothing; a cancel of a whole dispatched transfer takes its rows and
its ledger out of transit. -/
theorem canceled (invariant : TransitInvariant db) (reservations : ReservationInvariant after)
    {transfer : Transfer} (member : transfer ∈ db.transfers) {now : ℕ}
    {edits : List (Edit StockItem.id)} (step : CancelStep db after transfer now edits)
    (safe : transfer.status = .dispatched → CancelsWhole db transfer) : TransitInvariant after := by
  have lines : after.transferLines = db.transferLines := by rw [step.tables]
  have appended : after.transferMovements = db.transferMovements ++ [] := by
    rw [step.tables, List.append_nil]
  have transfers := congrArg Db.transfers step.tables
  have writes : Writes transfer.id .dispatch [] [] := .nil
  refine invariant.of_action reservations member lines transfers writes appended rfl (by simp) ?_ ?_
    (by simp) (by simp [TransferStatus.isEnRoute]) ?_
  · rw [step.stock]
    intro row isAfter
    obtain ⟨before, isBefore, rfl⟩ := List.mem_map.mp isAfter
    refine editRow_keeps (fun now : StockItem => now.inTransit = true → now.storeId ≠ none)
      (invariant.held before isBefore) fun edit applied now _ _ transit => ?_
    by_cases dispatched : transfer.status = .dispatched
    · obtain ⟨line, inLines, taken⟩ := Checked.item_of_output (step.taken dispatched) applied
      have outside := invariant.away transfer member (by rw [dispatched]; rfl) line inLines
      rw [taken.change] at transit
      exact absurd (outside.symm.trans transit) Bool.false_ne_true
    · rw [step.untouched dispatched] at applied
      contradiction
  · intro lineId
    simpa [askedQty] using invariant.settled transfer.id lineId
  · intro tenantId storeId kind
    have ended : ledgerShare after tenantId storeId kind
        { transfer with status := .canceled, canceledAt := some now } = 0 := by
      simp [ledgerShare, TransferStatus.isEnRoute]
    rw [ended, add_zero, step.stock]
    by_cases dispatched : transfer.status = .dispatched
    · obtain ⟨kinds, whole⟩ := safe dispatched
      obtain ⟨pairs, firsts, rfl, each⟩ := Checked.pairs_of_outputs (step.taken dispatched)
      have inLines {pair} (isPair : pair ∈ pairs) : pair.1 ∈ getLines db transfer.id :=
        firsts ▸ List.mem_map_of_mem isPair
      have carries : ∀ pair ∈ pairs, Carries db.stock.rows transfer
          (some pair.1.kind) pair.1.units pair.2.keys := by
        intro pair isPair
        have taken := each pair isPair
        refine ⟨taken.picks.unrepeated, ?_, taken.picks.present, fun row inRows listed => ?_⟩
        · rw [taken.picks.length, Int.toNat_of_nonneg (by have := pair.1.one_le_units; omega)]
        · obtain ⟨found, store⟩ := cancelSelector_inTransitFor (invariant.typed (inLines isPair))
            (taken.picks.holds db.stock.distinctIds inRows listed)
          exact ⟨found.tenant, store, by rw [found.kind], found.transit⟩
      have lands : ∀ pair ∈ pairs, ∀ row, (pair.2.change row).inTransit = false := by
        intro pair isPair row
        rw [(each pair isPair).change]
        exact invariant.away transfer member (by rw [dispatched]; rfl) pair.1 (inLines isPair)
      have apart : pairs.Pairwise fun pair later => some pair.1.kind ≠ some later.1.kind := by
        rw [← firsts, List.map_map] at kinds
        exact (List.pairwise_map.mp kinds).imp fun different same =>
          different (Option.some.inj same)
      have outstanding : outstandingOf db kind transfer =
          Tally.sumWhere (fun pair => some pair.1.kind = some kind) (·.1.units) pairs := by
        have units : outstandingOf db kind transfer =
            Tally.sumWhere (fun line => line.kind = kind) (·.units) (getLines db transfer.id) := by
          refine Tally.sumWhere_congr (fun _ _ => rfl) fun line isLine _ => ?_
          rw [← outstanding_shipmentLedger, ← invariant.sent transfer member dispatched line isLine]
          simp [shipmentLedger, whole line isLine]
        rw [units, ← firsts, Tally.sumWhere_map]
        simp only [Option.some.injEq]
      rw [rowsInTransit_leave (·.2) db.stock.distinctIds carries apart lands tenantId storeId kind,
        ← outstanding, ledgerShare, dispatched]
      rfl
    · have idle : transfer.status.isEnRoute = false := by
        rw [step.status.resolve_right dispatched]
        rfl
      rw [step.untouched dispatched, ledgerShare, idle]
      simp [show db.stock.rows.map (editRow []) = db.stock.rows from List.map_id' _]

section Dispatch

variable {transfer : Transfer} {now : ℕ} {session : StockSession} {outputs : List ActionOutput}

/-- The rows that a safe dispatch takes are not in transit. -/
theorem dispatch_outside (invariant : TransitInvariant db) (member : transfer ∈ db.transfers)
    (step : DispatchStep db after transfer now session outputs) (safe : DispatchesApart db transfer)
    {line : TransferLine} (inLines : line ∈ getLines db transfer.id) {output : ActionOutput}
    (taken : Dispatched db.stock transfer line output) {row : StockItem}
    (inRows : row ∈ db.stock.rows) (listed : row.id ∈ output.1.keys) : row.inTransit = false := by
  obtain ⟨tenant, tag, _⟩ := dispatchSelector_row (invariant.typed inLines)
    (taken.picks.holds db.stock.distinctIds inRows listed)
  cases kind : line.lineType with
  | sku => exact (safe.2 line inLines kind row inRows (taken.sku_ids kind ▸ listed)).1
  | epc =>
    obtain ⟨epc, named⟩ := (invariant.typed inLines).named kind
    by_contra transit
    have active : transfer.status.isActive = true := by rw [step.draft]; rfl
    obtain ⟨enRoute, _⟩ := invariant.carrier_eq member active inLines inRows tenant
      (by simpa using transit) named (tag.trans named)
    rw [step.draft] at enRoute
    contradiction

/-- A line that a safe dispatch sends is not at the in-transit place. -/
theorem dispatch_away (invariant : TransitInvariant db) (member : transfer ∈ db.transfers)
    (step : DispatchStep db after transfer now session outputs) (safe : DispatchesApart db transfer)
    {line : TransferLine} (inLines : line ∈ getLines db transfer.id) : line.inTransit = false := by
  obtain ⟨output, _, taken⟩ := Checked.output_of_item step.taken inLines
  obtain ⟨id, listed⟩ : ∃ id, id ∈ output.1.keys := by
    refine List.exists_mem_of_length_pos ?_
    have := taken.picks.length
    have := line.one_le_units
    omega
  obtain ⟨row, inRows, rfl, selected⟩ := taken.picks.found id listed
  have outside := invariant.dispatch_outside member step safe inLines taken inRows listed
  by_contra transit
  have isTransit : line.inTransit = true := by simpa using transit
  cases kind : line.lineType with
  | sku =>
    obtain ⟨_, _, sku⟩ := dispatchSelector_row (invariant.typed inLines) selected
    rw [(sku kind).2 isTransit] at outside
    contradiction
  | epc =>
    -- The revalidation has compared the row with the place of the line.
    obtain ⟨_, _, accepted, _⟩ := step.epc_row inLines kind taken inRows listed
    simp only [StockSnapshot.inTransit, Bool.and_eq_true, decide_eq_true_eq] at isTransit outside
    have location := accepted.location (by rw [isTransit.1]; decide)
    have pool := accepted.pool (by rw [isTransit.2]; decide)
    simp [location, pool, isTransit.1, isTransit.2] at outside

/-- The rows of different lines of a safe dispatch are different. -/
theorem dispatch_disjoint (invariant : TransitInvariant db) (member : transfer ∈ db.transfers)
    (draft : transfer.status = .draft) (safe : DispatchesApart db transfer)
    {pairs : List (TransferLine × ActionOutput)}
    (firsts : pairs.map (·.1) = getLines db transfer.id)
    (each : ∀ pair ∈ pairs, Dispatched db.stock transfer pair.1 pair.2) :
    pairs.Pairwise fun pair later => pair.2.1.keys.Disjoint later.2.1.keys := by
  have inLines {pair} (isPair : pair ∈ pairs) : pair.1 ∈ getLines db transfer.id :=
    firsts ▸ List.mem_map_of_mem isPair
  have active : transfer.status.isActive = true := by rw [draft]; rfl
  have tags : (getLines db transfer.id).Pairwise fun line other => ∀ epc, line.epc = some epc →
      other.epc ≠ some epc := by
    refine (invariant.reservations.exclusive.sublist List.filter_sublist).imp_of_mem
      fun {line other} isLine isOther exclusive epc named otherNamed => ?_
    obtain ⟨line, owner⟩ := mem_getLines.mp isLine
    obtain ⟨other, otherOwner⟩ := mem_getLines.mp isOther
    refine exclusive ?_ epc named otherNamed ⟨⟨transfer, member, owner.symm, active⟩, transfer,
      member, otherOwner.symm, active⟩
    exact (invariant.reservations.tenant _ line transfer member owner.symm).symm.trans
      (invariant.reservations.tenant _ other transfer member otherOwner.symm)
  have both := safe.1.and tags
  rw [← firsts] at both
  refine (List.pairwise_map.mp both).imp_of_mem
    fun {pair later} isPair isLater ⟨apart, different⟩ => ?_
  have typed := invariant.typed (inLines isPair)
  have laterTyped := invariant.typed (inLines isLater)
  by_cases same : pair.1.epc = later.1.epc
  · cases tag : pair.1.epc with
    | none =>
      have kind := typed.mpr tag
      have laterKind := laterTyped.mpr (same.symm.trans tag)
      rw [(each pair isPair).sku_ids kind, (each later isLater).sku_ids laterKind]
      exact fun id listed shared => apart kind laterKind id listed shared
    | some epc => exact absurd (same.symm.trans tag) (different epc tag)
  · refine (each pair isPair).picks.disjoint (each later isLater).picks db.stock.distinctIds
      fun row _ selected => ?_
    by_contra shared
    obtain ⟨_, tag, _⟩ := dispatchSelector_row typed selected
    obtain ⟨_, laterTag, _⟩ := dispatchSelector_row laterTyped (by simpa using shared)
    exact same (tag.symm.trans laterTag)

/-- Rows keep or get a store in a dispatch, so those in transit have one. -/
theorem dispatch_held (invariant : TransitInvariant db)
    (step : DispatchStep db after transfer now session outputs) :
    ∀ row ∈ after.stock.rows, row.inTransit = true → row.storeId ≠ none := by
  rw [step.stock, List.map_map]
  intro row isAfter
  obtain ⟨before, isBefore, rfl⟩ := List.mem_map.mp isAfter
  have initial : (session.current before).inTransit = true → (session.current before).storeId ≠
      none := by
    rw [(step.claims.columns isBefore).1]
    intro transit
    obtain ⟨storeId, store⟩ := Option.ne_none_iff_exists'.mp
      (invariant.held before isBefore transit)
    rw [step.claims.current_of_held isBefore store, store]
    exact Option.some_ne_none _
  have stays : before.storeId ≠ none → (session.current before).storeId ≠ none := by
    intro held
    obtain ⟨storeId, store⟩ := Option.ne_none_iff_exists'.mp held
    rwa [step.claims.current_of_held isBefore store]
  refine (editRow_keeps (fun now : StockItem => now.id = before.id ∧
      (before.storeId ≠ none → now.storeId ≠ none) ∧
    (now.inTransit = true → now.storeId ≠ none)) ⟨StockSession.current_id, stays, initial⟩
    fun edit applied now ⟨sameId, kept, _⟩ listed => ?_).2.2
  obtain ⟨output, isOutput, rfl⟩ := List.mem_map.mp applied
  obtain ⟨line, inLines, taken⟩ := Checked.item_of_output step.taken isOutput
  rw [taken.change, dispatchChange]
  cases kind : line.lineType with
  | sku =>
    obtain ⟨_, _, sku⟩ := dispatchSelector_row (invariant.typed inLines)
      (taken.picks.holds db.stock.distinctIds isBefore (sameId ▸ listed))
    have store : before.storeId ≠ none := by
      rw [(sku kind).1]
      exact Option.some_ne_none _
    exact ⟨sameId, fun _ => kept store, fun _ => kept store⟩
  | epc => exact ⟨sameId, fun _ => Option.some_ne_none _, fun _ => Option.some_ne_none _⟩

/-- A safe dispatch puts the units of its lines in transit. -/
theorem dispatch_rows (invariant : TransitInvariant db) (member : transfer ∈ db.transfers)
    (step : DispatchStep db after transfer now session outputs) (safe : DispatchesApart db transfer)
    (tenantId storeId : ℕ) (kind : UnitKind) :
    rowsInTransit after.stock.rows tenantId storeId kind =
    rowsInTransit db.stock.rows tenantId storeId kind +
      if shipsFrom tenantId storeId transfer then
        askedOfKind db transfer.id kind
            ((getLines db transfer.id).map fun line => (line.id, line.units)) else 0 := by
  obtain ⟨pairs, firsts, rfl, each⟩ := Checked.pairs_of_outputs step.taken
  have inLines {pair} (isPair : pair ∈ pairs) : pair.1 ∈ getLines db transfer.id :=
    firsts ▸ List.mem_map_of_mem isPair
  have sameIds : (db.stock.rows.map session.current).map (·.id) = db.stock.rows.map (·.id) := by
    rw [List.map_map]
    exact List.map_congr_left fun row _ => StockSession.current_id
  have lengths : ∀ pair ∈ pairs, (pair.2.1.keys.length : ℤ) = pair.1.units := by
    intro pair isPair
    rw [(each pair isPair).picks.length,
      Int.toNat_of_nonneg (by have := pair.1.one_le_units; omega)]
  have outside : ∀ pair ∈ pairs, ∀ now ∈ db.stock.rows.map session.current, now.id ∈ pair.2.1.keys →
      now.inTransit = false := by
    intro pair isPair now isNow listed
    obtain ⟨row, inRows, rfl⟩ := List.mem_map.mp isNow
    rw [StockSession.current_id] at listed
    rw [(step.claims.columns inRows).1]
    exact invariant.dispatch_outside member step safe (inLines isPair)
      (each pair isPair) inRows listed
  have enters : ∀ pair ∈ pairs, ∀ now ∈ db.stock.rows.map session.current, now.id ∈ pair.2.1.keys →
      (pair.2.1.change now).tenantId = transfer.tenantId ∧
      (pair.2.1.change now).storeId = some transfer.originStoreId ∧
      lineKind db transfer.id pair.1.id = some (pair.2.1.change now).kind ∧
      (pair.2.1.change now).inTransit = true := by
    intro pair isPair now isNow listed
    obtain ⟨row, inRows, rfl⟩ := List.mem_map.mp isNow
    rw [StockSession.current_id] at listed
    have typed := invariant.typed (inLines isPair)
    obtain ⟨tenant, tag, sku⟩ := dispatchSelector_row typed
      ((each pair isPair).picks.holds db.stock.distinctIds inRows listed)
    obtain ⟨columns, sameTenant⟩ := step.claims.columns inRows
    rw [(each pair isPair).change, dispatchChange, lineKind_of_mem invariant.lineIds
      (inLines isPair)]
    cases kind : pair.1.lineType with
    | sku =>
      rw [step.claims.current_of_held inRows (sku kind).1]
      have same :=
        (safe.2 pair.1 (inLines isPair) kind row inRows
          ((each pair isPair).sku_ids kind ▸ listed)).2
      exact ⟨tenant, (sku kind).1, congrArg some same.symm, rfl⟩
    | epc =>
      obtain ⟨epc, named⟩ := typed.named kind
      have nowTag : (session.current row).epc = some epc := by rw [columns, tag, named]
      exact ⟨sameTenant.trans tenant, rfl, congrArg some (kind_of_tag named (by exact nowTag)), rfl⟩
  have entered := rowsInTransit_enter _ (by rw [sameIds]; exact db.stock.distinctIds)
    (fun pair isPair => (each pair isPair).picks.unrepeated) lengths
    (fun pair isPair => by rw [sameIds]; exact (each pair isPair).picks.present)
    (invariant.dispatch_disjoint member step.draft safe firsts each) outside enters tenantId
    storeId kind
  have edits : (pairs.map (·.2)).map (·.1) = pairs.map fun pair => pair.2.1 := List.map_map
  have total : askedOfKind db transfer.id kind ((getLines db transfer.id).map fun line =>
      (line.id, line.units)) = Tally.sumWhere
      (fun pair => lineKind db transfer.id pair.1.id = some kind) (·.1.units) pairs := by
    rw [← firsts, List.map_map, askedOfKind, Tally.sumWhere_map]
    rfl
  rw [step.stock, edits, total, ← step.claims.rowsInTransit invariant.held]
  exact entered

/-- A safe dispatch puts as much on the ledger as in transit. -/
theorem dispatched (invariant : TransitInvariant db) (reservations : ReservationInvariant after)
    (member : transfer ∈ db.transfers) (step : DispatchStep db after transfer now session outputs)
    (safe : DispatchesApart db transfer) : TransitInvariant after := by
  have lines : after.transferLines = db.transferLines := by rw [step.tables]
  have appended : after.transferMovements = db.transferMovements ++ outputs.map (·.2) := by
    rw [step.tables]
  have transfers := congrArg Db.transfers step.tables
  have positive : ∀ item ∈ (getLines db transfer.id).map fun line => (line.id, line.units),
      1 ≤ item.2 := by
    intro item isItem
    obtain ⟨line, _, rfl⟩ := List.mem_map.mp isItem
    exact line.one_le_units
  have empty (lineId : ℕ) (action : MovementAction) :
      movedQty db.transferMovements transfer.id lineId action = 0 :=
    invariant.draft_movedQty member step.draft lineId action
  refine invariant.of_action reservations member lines transfers step.writes appended rfl (by simp)
    (invariant.dispatch_held step) ?_ ?_
    (fun _ line inLines => invariant.dispatch_away member step safe inLines) ?_
  · intro lineId
    have before := invariant.settled transfer.id lineId
    have asked := askedQty_nonneg positive lineId
    simp only [MovementAction.sign]
    omega
  · intro _ line inLines
    have distinct :
        (((getLines db transfer.id).map fun line => (line.id, line.units)).map (·.1)).Nodup := by
      rw [List.map_map]
      exact invariant.lineIds.sublist (List.filter_sublist.map _)
    have asked := askedQty_of_nodup distinct (List.mem_map_of_mem inLines)
    rw [step.writes.shipmentLedger appended, if_pos rfl]
    simp [shipmentLedger, empty, MovementAction.entry, Ledger.post, Ledger.outstanding, asked]
  · intro tenantId storeId kind
    have before : ledgerShare db tenantId storeId kind transfer = 0 := by
      simp [ledgerShare, step.draft, TransferStatus.isEnRoute]
    have draftOutstanding : outstandingOf db kind transfer = 0 :=
      Tally.sumWhere_eq_zero fun line _ _ => by simp [MovementTotals.outstanding, getMovementTotals,
        empty]
    have grown := outstandingOf_writes invariant.lineIds lines step.writes appended kind
      { transfer with status := .dispatched, dispatchedAt := some now }
    rw [if_pos rfl, show outstandingOf db kind
      { transfer with status := .dispatched, dispatchedAt := some now } =
      outstandingOf db kind transfer from rfl, draftOutstanding] at grown
    rw [invariant.dispatch_rows member step safe, before, ledgerShare, grown]
    simp [TransferStatus.isEnRoute, shipsFrom, MovementAction.sign]

end Dispatch

/-! ## All requests -/

/-- Every safe request that commits keeps the invariant. -/
theorem step (invariant : TransitInvariant db) {request : TransferRequest}
    (safe : TransitSafe db request) (success : transferStep db request = .ok after) :
    TransitInvariant after := by
  have reservations := invariant.reservations.step success
  cases transferStep_ok success with
  | created tenantId progress transfer step => exact invariant.created reservations step
  | updated tenantId originStoreId destinationStoreId transfer target session step =>
    exact invariant.updated reservations step
  | dispatched transfer target session outputs step =>
    exact invariant.dispatched reservations target.member step
      (safe transfer target.member target.id)
  | received transfer target outputs step =>
    obtain ⟨member, rfl⟩ := target
    exact invariant.received reservations member step safe.1 safe.2
  | reported transfer target movements step =>
    exact invariant.reported reservations target.member step
  | @resolved _ _ _ _ resolution _ transfer target outputs step =>
    obtain ⟨member, rfl⟩ := target
    exact invariant.resolved reservations member step fun lost => by rw [lost] at safe; exact safe
  | canceled transfer target edits step =>
    exact invariant.canceled reservations target.member step fun dispatched =>
      safe transfer target.member target.id dispatched

end TransitInvariant

/-- From a state with no transfers and nothing in transit, every run of safe requests keeps the rows
in transit equal to the outstanding quantities of the transfers on their way, for every tenant,
origin store and kind of unit. -/
theorem rows_in_transit_agree_with_ledger (start db : Db) (noTransfers : start.transfers = [])
    (noLines : start.transferLines = []) (noMovements : start.transferMovements = [])
    (nothingInTransit : ∀ row ∈ start.stock.rows, row.inTransit = false)
    (reached : Reachable transferStep TransitSafe start db) (tenantId storeId : ℕ)
    (kind : UnitKind) :
    rowsInTransit db.stock.rows tenantId storeId kind =
    ledgerInTransit db tenantId storeId kind := by
  have initial : TransitInvariant start := by
    refine ⟨.initial noTransfers noLines, by simp [noLines], ?_, by simp [noMovements],
      ?_, by simp [noTransfers], by simp [noTransfers], ?_⟩
    · intro row member transit
      rw [nothingInTransit row member] at transit
      contradiction
    · intro transferId lineId
      simp only [shipmentLedger, noMovements]
      exact le_rfl
    · intro tenant store unit
      have none : start.stock.rows.countP (countsInTransit tenant store unit) = 0 :=
        List.countP_eq_zero.mpr fun row member => by simp [countsInTransit,
          nothingInTransit row member]
      rw [rowsInTransit, none, ledgerInTransit, noTransfers]
      rfl
  exact (reached.invariant initial fun _ _ _ invariant safe success =>
    invariant.step safe success).agrees tenantId storeId kind

namespace Sample

/-- Two untagged jackets leave and one arrives. -/
def jacketsOnTheWay : List TransferRequest :=
  [create [{ lineType := .sku, qty := 2, snapshot := jacket }], act 1 .dispatch,
    act 1 (.receive [{ lineId := 1 }])]

private theorem jacketsOnTheWay_commits :
    (runAllowed transferStep TransitSafe db jacketsOnTheWay).isSome = true := by
  decide +kernel

def oneOnTheWay : Db :=
  (runAllowed transferStep TransitSafe db jacketsOnTheWay).get jacketsOnTheWay_commits

end Sample

theorem rows_in_transit_agree_with_one_on_the_way :
    rowsInTransit Sample.oneOnTheWay.stock.rows 1 10 Sample.jacket.kind =
      ledgerInTransit Sample.oneOnTheWay 1 10 Sample.jacket.kind :=
  rows_in_transit_agree_with_ledger Sample.db Sample.oneOnTheWay rfl rfl rfl (by decide +kernel)
    (reachable_of_runAllowed (Option.some_get _).symm) 1 10 Sample.jacket.kind

namespace Sample

/-- A dispatch of two lines of one SKU at one place. -/
def twoLinesOfOneSku : List TransferRequest :=
  [create [{ lineType := .sku, snapshot := jacket }, { lineType := .sku, snapshot := jacket }],
    act 1 .dispatch]

private theorem twoLinesOfOneSku_commits :
    (runAllowed transferStep (fun _ _ => True) db twoLinesOfOneSku).isSome = true := by
  decide +kernel

def oneMovedTwice : Db :=
  (runAllowed transferStep (fun _ _ => True) db twoLinesOfOneSku).get twoLinesOfOneSku_commits

end Sample

/-- Two lines of one SKU move one row, while the ledger records two. -/
theorem two_lines_of_one_sku_move_one_row :
    ¬ ∀ start db : Db, start.transfers = [] → start.transferLines = [] →
    start.transferMovements = [] →
      (∀ row ∈ start.stock.rows, row.inTransit = false) → Reachable transferStep
      (fun _ _ => True) start db →
      ∀ tenantId storeId kind,
        rowsInTransit db.stock.rows tenantId storeId kind =
        ledgerInTransit db tenantId storeId kind := by
  intro agrees
  have reached : Reachable transferStep (fun _ _ => True) Sample.db Sample.oneMovedTwice :=
    reachable_of_runAllowed (Option.some_get _).symm
  have differ : rowsInTransit Sample.oneMovedTwice.stock.rows 1 10 Sample.jacket.kind ≠
      ledgerInTransit Sample.oneMovedTwice 1 10 Sample.jacket.kind := by decide +kernel
  exact differ
    (agrees Sample.db Sample.oneMovedTwice rfl rfl rfl (by decide +kernel) reached 1 10
    Sample.jacket.kind)

end ArisCloud

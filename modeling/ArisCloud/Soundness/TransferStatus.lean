import ArisCloud.Proofs.InTransit
import ArisCloud.Soundness.EpcReservations

/-! # The status of a transfer agrees with its ledger

A transfer is on its way as long as some line is outstanding, and received once no line is. Its
lines change while it is a draft only, and once it is received or canceled no request on it
succeeds, so it stays as it is.
-/

namespace ArisCloud

open KeyedRows Requests Shipments
open Tally (askedQty askedQty_nonneg le_askedQty)

/-- What was dispatched of a line and is neither received nor lost. -/
def outstandingQty (db : Db) (transferId lineId : ℕ) : ℤ :=
  movedQty db.transferMovements transferId lineId .dispatch - movedQty db.transferMovements
    transferId lineId .receive - movedQty db.transferMovements transferId lineId
    .shortageResolvedLostInRoute

theorem outstandingQty_eq (db : Db) (transferId lineId : ℕ) :
    outstandingQty db transferId lineId = (shipmentLedger db transferId lineId).outstanding := rfl

/-- Dispatched and not canceled. -/
def TransferStatus.isShipped : TransferStatus → Bool
  | .dispatched | .partialReceived | .received => true
  | .draft | .canceled => false

/-- The status and the time stamps of a transfer say what its ledger says. -/
structure StatusAgrees (db : Db) (transfer : Transfer) : Prop where
  settled : transfer.status.isShipped = true →
    (transfer.status = .received ↔ ∀ line ∈ getLines db transfer.id,
    outstandingQty db transfer.id line.id ≤ 0)
  waiting : transfer.status.isEnRoute = true → ∃ line ∈ getLines db transfer.id,
    0 < outstandingQty db transfer.id line.id
  receivedAt : transfer.receivedAt.isSome = true ↔ transfer.status = .received
  canceledAt : transfer.canceledAt.isSome = true ↔ transfer.status = .canceled

private theorem StatusAgrees.of_enRoute {db : Db} {transfer : Transfer}
    (enRoute : transfer.status.isEnRoute = true)
    (waiting : ∃ line ∈ getLines db transfer.id, 0 < outstandingQty db transfer.id line.id)
    (receivedAt : transfer.receivedAt = none) (canceledAt : transfer.canceledAt = none) :
    StatusAgrees db transfer := by
  have notReceived : transfer.status ≠ .received := by
    rintro same; rw [same] at enRoute; contradiction
  have notCanceled : transfer.status ≠ .canceled := by
    rintro same; rw [same] at enRoute; contradiction
  refine ⟨fun _ => ⟨fun same => absurd same notReceived, fun none => ?_⟩, fun _ =>
    waiting, by simp [receivedAt, notReceived], by simp [canceledAt, notCanceled]⟩
  obtain ⟨line, member, positive⟩ := waiting
  have := none line member
  omega

private theorem StatusAgrees.of_received {db : Db} {transfer : Transfer}
    (received : transfer.status = .received)
    (nothing : ∀ line ∈ getLines db transfer.id, outstandingQty db transfer.id line.id ≤ 0)
    (receivedAt : transfer.receivedAt.isSome = true) (canceledAt : transfer.canceledAt = none) :
    StatusAgrees db transfer :=
  ⟨fun _ => ⟨fun _ => nothing, fun _ => received⟩,
    fun enRoute => by rw [received] at enRoute; contradiction,
    by simp [receivedAt, received], by simp [canceledAt, received]⟩

/-- Before its dispatch and after its cancellation a status says nothing about the ledger. -/
theorem StatusAgrees.of_unshipped {db : Db} {transfer : Transfer}
    (unshipped : transfer.status.isShipped = false) (receivedAt : transfer.receivedAt = none)
    (canceledAt : transfer.canceledAt.isSome = true ↔ transfer.status = .canceled) :
    StatusAgrees db transfer := by
  refine ⟨fun shipped => ?_, fun enRoute => ?_, ?_, canceledAt⟩
  · rw [unshipped] at shipped
    contradiction
  · cases same : transfer.status <;> rw [same] at unshipped enRoute <;> contradiction
  · constructor
    · rw [receivedAt]
      rintro stamped
      contradiction
    · rintro same
      rw [same] at unshipped
      contradiction

/-- A transfer that has not ended has no stamp yet. -/
theorem StatusAgrees.unstamped {db : Db} {transfer : Transfer} (agrees : StatusAgrees db transfer)
    (active : transfer.status.isActive = true) :
    transfer.receivedAt = none ∧ transfer.canceledAt = none := by
  obtain ⟨_, _, receivedAt, canceledAt⟩ := agrees
  constructor
  · rw [← Option.not_isSome_iff_eq_none, receivedAt]
    rintro same
    rw [same] at active
    contradiction
  · rw [← Option.not_isSome_iff_eq_none, canceledAt]
    rintro same
    rw [same] at active
    contradiction

theorem StatusAgrees.congr {db after : Db} {transfer : Transfer} (agrees : StatusAgrees db transfer)
    (lines : getLines after transfer.id = getLines db transfer.id)
    (ledger : ∀ lineId, outstandingQty after transfer.id lineId =
      outstandingQty db transfer.id lineId) :
    StatusAgrees after transfer := by
  obtain ⟨settled, waiting, receivedAt, canceledAt⟩ := agrees
  refine ⟨?_, ?_, receivedAt, canceledAt⟩ <;> simp only [lines, ledger]
  · exact settled
  · exact waiting

/-! ## What a request on a transfer touches -/

/-- The transfer that a request addresses. -/
def TransferRequest.transferId : TransferRequest → Option ℕ
  | .create _ _ => none
  | .update _ transferId _ | .action _ transferId _ => some transferId

/-- What a request does to the transfer it addresses, which was active; the others, their lines and
their movements are left alone, and so are its own lines once it is no draft. -/
structure Touches (db after : Db) (transfer : Transfer) (change : Transfer → Transfer)
    (written : List TransferMovement) :
    Prop where
  member : transfer ∈ db.transfers
  active : transfer.status.isActive = true
  identity : ∀ row, (change row).id = row.id
  dispatched : transfer.status ≠ .draft → (change transfer).status ≠ .draft
  transfers : after.transfers = update Transfer.id [transfer.id] change db.transfers
  lines : ∀ other, other ≠ transfer.id ∨ transfer.status ≠ .draft →
    getLines after other = getLines db other
  movements : after.transferMovements = db.transferMovements ++ written
  own : ∀ movement ∈ written, movement.transferId = transfer.id

theorem getLines_congr {db after : Db} (lines : after.transferLines = db.transferLines)
    (transferId : ℕ) :
    getLines after transferId = getLines db transferId := by
  rw [getLines, lines, getLines]

theorem Writes.transferId {transferId : ℕ} {action : MovementAction} {asked : List (ℕ × ℤ)}
    {movements : List TransferMovement} (writes : Writes transferId action asked movements) :
    ∀ movement ∈ movements, movement.transferId = transferId := by
  intro movement member
  obtain ⟨_, _, same, _⟩ := Checked.item_of_output writes member
  exact same

section Steps

variable {db after : Db} {transfer : Transfer}

/-- What is outstanding of other transfers is left alone. -/
theorem Touches.outstandingQty_of_ne {change : Transfer → Transfer}
    {written : List TransferMovement} (touches : Touches db after transfer change written)
    {other : ℕ} (apart : other ≠ transfer.id) (lineId : ℕ) :
    outstandingQty after other lineId = outstandingQty db other lineId := by
  have foreign : ∀ action, movedQty written other lineId action = 0 := by
    refine fun action => Tally.sumWhere_eq_zero fun movement new selected => ?_
    simp only [Bool.and_eq_true, decide_eq_true_eq] at selected
    exact absurd (selected.1.1.symm.trans (touches.own movement new)) apart
  simp only [outstandingQty, touches.movements, movedQty_append, foreign, add_zero]

theorem Updated.touches {tenantId originStoreId destinationStoreId : ℕ} {session : StockSession}
    (step : Updated db after tenantId originStoreId destinationStoreId transfer session) :
    Touches db after transfer (fun row => { row with originStoreId, destinationStoreId }) [] where
  member := step.member
  active := by rw [step.draft]; rfl
  identity _ := rfl
  dispatched apart := absurd step.draft apart
  transfers := congrArg Db.transfers step.tables
  lines := by
    intro other apart
    have apart := apart.resolve_right (absurd step.draft)
    have updatedLines := step.lines
    generalize lines : after.transferLines = transferLines at updatedLines
    cases updatedLines with
    | replaced progress checked same =>
      exact getLines_append_newTransferLines lines apart (filter_transferId_of_ne apart)
    | kept valid => exact getLines_congr lines other
  movements := by rw [step.tables, List.append_nil]
  own := by simp

theorem DispatchStep.touches {now : ℕ} {session : StockSession} {outputs : List ActionOutput}
    (step : DispatchStep db after transfer now session outputs) (member : transfer ∈ db.transfers) :
    Touches db after transfer
    (fun row => { row with status := .dispatched, dispatchedAt := some now })
    (outputs.map (·.2)) where
  member := member
  active := by rw [step.draft]; rfl
  identity _ := rfl
  dispatched _ := nofun
  transfers := congrArg Db.transfers step.tables
  lines other _ := getLines_congr (by rw [step.tables]) other
  movements := by rw [step.tables]
  own := step.writes.transferId

/-- A transfer after units of it were accounted for: received once its totals leave nothing
outstanding. -/
def settle (totals : MovementTotals) (now : ℕ) (otherwise : Transfer → Transfer) (row : Transfer) :
    Transfer :=
  if totals.outstandingTotal = 0 then { row with status := .received, receivedAt := some now }
    else otherwise row

/-- The totals of a transfer with what an action was asked for. -/
def totalsAfter (db : Db) (transferId : ℕ) (action : MovementAction) (asked : List (ℕ × ℤ)) :
    MovementTotals :=
  asked.foldl (fun totals item => totals.record item.1 action item.2)
    (getMovementTotals db transferId)

theorem ReceiveStep.touches {receiveLines : List TransferReceiveLine} {now : ℕ}
    {outputs : List ActionOutput} (step : ReceiveStep db after transfer receiveLines now outputs)
    (member : transfer ∈ db.transfers) :
    Touches db after transfer
      (settle (totalsAfter db transfer.id .receive (receiveLines.map (·.asked))) now
        fun row => { row with status := .partialReceived })
      (outputs.map (·.2)) where
  member := member
  active := isActive_of_isEnRoute step.enRoute
  identity row := by unfold settle; split <;> rfl
  dispatched _ := by unfold settle; split <;> nofun
  transfers := by
    rw [step.tables]
    simp only [totalsAfter, List.foldl_map]
    rfl
  lines other _ := getLines_congr (by rw [step.tables]) other
  movements := by rw [step.tables]
  own := step.writes.transferId

theorem ReportStep.touches {shortages : List TransferShortageLine}
    {movements : List TransferMovement} (step : ReportStep db after transfer shortages movements)
    (member : transfer ∈ db.transfers) :
    Touches db after transfer id movements where
  member := member
  active := isActive_of_isEnRoute step.enRoute
  identity _ := rfl
  dispatched apart := apart
  transfers := by
    rw [step.tables]
    simp [update]
  lines other _ := getLines_congr (by rw [step.tables]) other
  movements := by rw [step.tables]
  own := step.writes.transferId

theorem ResolveStep.touches {resolution : ShortageResolution}
    {resolutionLines : List TransferShortageLine} {now : ℕ} {outputs : List ResolveOutput}
    (step : ResolveStep db after transfer resolution resolutionLines now outputs)
    (member : transfer ∈ db.transfers) :
    Touches db after transfer
      (settle (totalsAfter db transfer.id resolution.action (resolutionLines.map (·.asked))) now
        fun row => row)
      (outputs.map (·.2)) where
  member := member
  active := isActive_of_isEnRoute step.enRoute
  identity row := by unfold settle; split <;> rfl
  dispatched apart := by
    unfold settle
    split
    · nofun
    · exact apart
  transfers := by
    rw [step.tables]
    simp only [totalsAfter, List.foldl_map]
    rfl
  lines other _ := getLines_congr (by rw [step.tables]) other
  movements := by rw [step.tables]
  own := step.writes.transferId

theorem CancelStep.touches {now : ℕ} {edits : List (Edit StockItem.id)}
    (step : CancelStep db after transfer now edits) (member : transfer ∈ db.transfers) :
    Touches db after transfer (fun row => { row with status := .canceled, canceledAt := some now })
    [] where
  member := member
  active := by rcases step.status with same | same <;> rw [same] <;> rfl
  identity _ := rfl
  dispatched _ := nofun
  transfers := congrArg Db.transfers step.tables
  lines other _ := getLines_congr (by rw [step.tables]) other
  movements := by rw [step.tables, List.append_nil]
  own := by simp

end Steps

/-- A committed request creates a transfer or touches the one it addresses. -/
theorem TransferEffect.touches {db after : Db} {request : TransferRequest}
    (effect : TransferEffect db after request) :
    (request.transferId = none ∧ ∃ tenantId progress transfer,
      Created db after tenantId progress transfer) ∨
      ∃ transfer change written, request.transferId = some transfer.id ∧
      Touches db after transfer change written := by
  cases effect with
  | created tenantId progress transfer step => exact .inl ⟨rfl, tenantId, progress, transfer, step⟩
  | updated tenantId originStoreId destinationStoreId transfer target session step =>
    exact .inr ⟨transfer, _, _, congrArg some target.id.symm, step.touches⟩
  | dispatched transfer target session outputs step =>
    exact .inr ⟨transfer, _, _, congrArg some target.id.symm, step.touches target.member⟩
  | received transfer target outputs step =>
    exact .inr ⟨transfer, _, _, congrArg some target.id.symm, step.touches target.member⟩
  | reported transfer target movements step =>
    exact .inr ⟨transfer, _, _, congrArg some target.id.symm, step.touches target.member⟩
  | resolved transfer target outputs step =>
    exact .inr ⟨transfer, _, _, congrArg some target.id.symm, step.touches target.member⟩
  | canceled transfer target edits step =>
    exact .inr ⟨transfer, _, _, congrArg some target.id.symm, step.touches target.member⟩

/-! ## The invariant -/

/-- Movements belong to lines of transfers that are no drafts. -/
def MovementsOwned (db : Db) : Prop := ∀ movement ∈ db.transferMovements, ∃ transfer ∈ db.transfers,
  transfer.id = movement.transferId ∧ transfer.status ≠ .draft ∧
    ∃ line ∈ getLines db transfer.id, line.id = movement.transferLineId

/-- A line with something outstanding is a line of its transfer. -/
theorem MovementsOwned.exists_line {db : Db} (owned : MovementsOwned db) {transferId : ℕ}
    (outstanding : ∃ lineId, 0 < outstandingQty db transferId lineId) :
    ∃ line ∈ getLines db transferId, 0 < outstandingQty db transferId line.id := by
  by_contra none
  obtain ⟨lineId, outstanding⟩ := outstanding
  have unmoved : ∀ action, movedQty db.transferMovements transferId lineId action = 0 := by
    refine fun action => Tally.sumWhere_eq_zero fun movement moved selected => absurd ?_ none
    simp only [Bool.and_eq_true, decide_eq_true_eq] at selected
    obtain ⟨owner, _, same, _, line, inLines, named⟩ := owned movement moved
    rw [same, selected.1.1] at inLines
    exact ⟨line, inLines, by rwa [named, selected.1.2]⟩
  simp only [outstandingQty, unmoved] at outstanding
  contradiction

/-- Every status agrees with its ledger. -/
structure StatusInvariant (db : Db) : Prop where
  distinct : (db.transfers.map (·.id)).Nodup
  owned : MovementsOwned db
  agrees : ∀ transfer ∈ db.transfers, StatusAgrees db transfer

namespace StatusInvariant

variable {db after : Db} {transfer : Transfer}

theorem initial (noTransfers : db.transfers = []) (noMovements : db.transferMovements = []) :
    StatusInvariant db where
  distinct := by simp [noTransfers]
  owned := by simp [MovementsOwned, noMovements]
  agrees := by simp [noTransfers]

/-- Nothing has been moved for a draft. -/
theorem unmoved (invariant : StatusInvariant db) (member : transfer ∈ db.transfers)
    (draft : transfer.status = .draft) (lineId : ℕ) : outstandingQty db transfer.id lineId = 0 := by
  have unmoved : ∀ action, movedQty db.transferMovements transfer.id lineId action = 0 := by
    refine fun action => Tally.sumWhere_eq_zero fun movement moved selected => ?_
    simp only [Bool.and_eq_true, decide_eq_true_eq] at selected
    obtain ⟨owner, isOwner, same, apart, _⟩ := invariant.owned movement moved
    rw [eq_of_key_eq invariant.distinct isOwner member (same.trans selected.1.1)] at apart
    exact absurd draft apart
  simp only [outstandingQty, unmoved]
  rfl

theorem created (invariant : StatusInvariant db) {tenantId : ℕ} {progress : Normalization}
    (step : Created db after tenantId progress transfer) : StatusInvariant after := by
  have transfers : after.transfers = db.transfers ++ [transfer] := congrArg Db.transfers step.tables
  have lines : after.transferLines = db.transferLines ++ newTransferLines db tenantId transfer.id
      progress.normalized :=
    congrArg Db.transferLines step.tables
  have movements : after.transferMovements = db.transferMovements := by rw [step.tables]
  have apart : ∀ other ∈ db.transfers, other.id ≠ transfer.id := by
    intro other member
    rw [step.id]
    exact (db.id_lt_freshTransferId member).ne
  have kept : ∀ other ∈ db.transfers, getLines after other.id = getLines db other.id :=
    fun other member => getLines_append_newTransferLines lines (apart other member) rfl
  constructor
  · rw [transfers, List.map_append]
    refine List.nodup_append.mpr ⟨invariant.distinct, List.nodup_singleton _,
      fun id old other new => ?_⟩
    obtain ⟨before, isBefore, rfl⟩ := List.mem_map.mp old
    obtain rfl := List.mem_singleton.mp new
    exact apart before isBefore
  · rw [MovementsOwned, movements, transfers]
    intro movement moved
    obtain ⟨owner, isOwner, same, notDraft, line⟩ := invariant.owned movement moved
    exact ⟨owner, List.mem_append_left _ isOwner, same, notDraft, by rwa [kept owner isOwner]⟩
  · rw [transfers]
    intro other member
    rcases List.mem_append.mp member with old | new
    · exact (invariant.agrees other old).congr (kept other old) fun lineId => by rw [outstandingQty,
        movements, outstandingQty]
    · obtain rfl := List.mem_singleton.mp new
      exact .of_unshipped (by rw [step.status]; rfl) step.receivedAt
        (by simp [step.canceledAt, step.status])

/-- A request keeps the invariant when its movements are on lines of the transfer it touches, which
agrees with them. -/
theorem touched (invariant : StatusInvariant db) {change : Transfer → Transfer}
    {written : List TransferMovement} (touches : Touches db after transfer change written)
    (lines : ∀ movement ∈ written, (change transfer).status ≠ .draft ∧
      ∃ line ∈ getLines after transfer.id, line.id = movement.transferLineId)
    (agrees : MovementsOwned after → StatusAgrees after (change transfer)) :
        StatusInvariant after := by
  have changed : change transfer ∈ after.transfers := by
    rw [touches.transfers]
    exact mem_update.mpr ⟨transfer, touches.member, if_pos (List.mem_singleton_self _)⟩
  have owned : MovementsOwned after := by
    rw [MovementsOwned, touches.movements]
    intro movement moved
    rcases List.mem_append.mp moved with old | new
    · obtain ⟨owner, isOwner, same, notDraft, line, inLines, named⟩ := invariant.owned movement old
      by_cases own : owner.id = transfer.id
      · rw [eq_of_key_eq invariant.distinct isOwner touches.member own] at same notDraft inLines
        refine ⟨_, changed, (touches.identity _).trans same, touches.dispatched notDraft, line,
          ?_, named⟩
        rwa [touches.identity, touches.lines _ (.inr notDraft)]
      · refine ⟨owner, ?_, same, notDraft, line, ?_, named⟩
        · rw [touches.transfers]
          exact mem_update.mpr ⟨owner, isOwner, if_neg (by simpa using own)⟩
        · rwa [touches.lines _ (.inl own)]
    · obtain ⟨notDraft, line, inLines, named⟩ := lines movement new
      exact ⟨_, changed, (touches.identity _).trans (touches.own movement new).symm, notDraft, line,
        by rwa [touches.identity], named⟩
  refine ⟨?_, owned, ?_⟩
  · rw [touches.transfers, map_key_update touches.identity]
    exact invariant.distinct
  · intro other member
    rw [touches.transfers] at member
    rcases mem_update_singleton invariant.distinct touches.member member with rfl | ⟨before, apart⟩
    · exact agrees owned
    · exact (invariant.agrees other before).congr (touches.lines _ (.inl apart)) fun lineId =>
        touches.outstandingQty_of_ne apart lineId

/-- The movements of an action that names lines of a transfer in flight are on these lines. -/
theorem line_of_writes {action : MovementAction} {asked : List (ℕ × ℤ)}
    {written : List TransferMovement} (writes : Writes transfer.id action asked written)
    (lines : getLines after transfer.id = getLines db transfer.id)
    (named : ∀ item ∈ asked, ∃ line ∈ getLines db transfer.id, line.id = item.1) :
    ∀ movement ∈ written, ∃ line ∈ getLines after transfer.id,
    line.id = movement.transferLineId := by
  intro movement member
  obtain ⟨item, inAsked, _, _, same, _⟩ := Checked.item_of_output writes member
  rw [same, lines]
  exact named item inAsked

/-- A receive or a resolution keeps the invariant: its totals decide whether the transfer is
received. -/
theorem settled (invariant : StatusInvariant db) {action : MovementAction} {asked : List (ℕ × ℤ)}
    {written : List TransferMovement} {now : ℕ} {otherwise : Transfer → Transfer}
    (enRoute : transfer.status.isEnRoute = true) (writes : Writes transfer.id action asked written)
    (named : ∀ item ∈ asked, ∃ line ∈ getLines db transfer.id, line.id = item.1)
    (touches : Touches db after transfer
      (settle (totalsAfter db transfer.id action asked) now otherwise) written)
    (waits : (otherwise transfer).status.isEnRoute = true)
    (stamps : (otherwise transfer).receivedAt = transfer.receivedAt ∧
      (otherwise transfer).canceledAt = transfer.canceledAt) :
    StatusInvariant after := by
  obtain ⟨receivedAt, canceledAt⟩ :=
    (invariant.agrees transfer touches.member).unstamped (isActive_of_isEnRoute enRoute)
  have notDraft : transfer.status ≠ .draft := by rintro same; rw [same] at enRoute; contradiction
  have lines := line_of_writes writes (touches.lines transfer.id (.inr notDraft)) named
  refine invariant.touched touches
    (fun movement member => ⟨touches.dispatched notDraft, lines movement member⟩)
    fun owned => ?_
  have identity := touches.identity transfer
  unfold settle at identity ⊢
  split
  · next none =>
    exact .of_received rfl (fun line _ =>
      outstanding_nonpos_of_total writes touches.movements none line.id) rfl canceledAt
  · next some =>
    rw [if_neg some] at identity
    refine .of_enRoute waits ?_ (stamps.1.trans receivedAt) (stamps.2.trans canceledAt)
    rw [identity]
    exact owned.exists_line (exists_outstanding_of_total writes touches.movements some)

/-- A committed request keeps the invariant. -/
theorem step (invariant : StatusInvariant db) {request : TransferRequest}
    (success : transferStep db request = .ok after) : StatusInvariant after := by
  cases transferStep_ok success with
  | created tenantId progress transfer step => exact invariant.created step
  | updated tenantId originStoreId destinationStoreId transfer target session step =>
    obtain ⟨receivedAt, canceledAt⟩ := (invariant.agrees transfer target.member).unstamped
      (by rw [step.draft]; rfl)
    exact invariant.touched step.touches (by simp) fun _ =>
      .of_unshipped (by simp only [step.draft]; rfl) receivedAt (by simp [canceledAt, step.draft])
  | dispatched transfer target session outputs step =>
    obtain ⟨receivedAt, canceledAt⟩ := (invariant.agrees transfer target.member).unstamped
      (by rw [step.draft]; rfl)
    have lines : getLines after transfer.id = getLines db transfer.id :=
      getLines_congr (by rw [step.tables]) _
    refine invariant.touched (step.touches target.member) ?_ fun _ =>
      .of_enRoute rfl ?_ receivedAt canceledAt
    · refine fun movement member =>
        ⟨nofun, line_of_writes step.writes lines (fun item inAsked => ?_) movement member⟩
      obtain ⟨line, inLines, rfl⟩ := List.mem_map.mp inAsked
      exact ⟨line, inLines, rfl⟩
    · -- Nothing was moved for the draft, so all that is dispatched for its first line is outstanding.
      obtain ⟨line, inLines⟩ := List.exists_mem_of_ne_nil _ step.nonempty
      have units : line.units ≤ askedQty ((getLines db transfer.id).map fun line =>
          (line.id, line.units)) line.id := by
        have inAsked : (line.id, line.units) ∈ (getLines db transfer.id).map fun line =>
            (line.id, line.units) :=
          List.mem_map_of_mem inLines
        refine le_askedQty (fun item inAsked => ?_) inAsked
        obtain ⟨other, _, rfl⟩ := List.mem_map.mp inAsked
        exact other.one_le_units
      have := line.one_le_units
      refine ⟨line, by rwa [lines], ?_⟩
      rw [outstandingQty_eq, step.writes.shipmentLedger (by rw [step.tables]), if_pos rfl,
        outstanding_post, ← outstandingQty_eq, invariant.unmoved target.member step.draft]
      simp only [MovementAction.sign]
      omega
  | received transfer target outputs step =>
    refine invariant.settled step.enRoute step.writes ?_ (step.touches target.member) rfl ⟨rfl, rfl⟩
    intro item member
    obtain ⟨receiveLine, inLines, rfl⟩ := List.mem_map.mp member
    obtain ⟨output, _, line, isLine, received⟩ := Checked.output_of_item step.taken inLines
    exact ⟨line, isLine, received.id⟩
  | reported transfer target movements step =>
    have enRoute := step.enRoute
    have notDraft : transfer.status ≠ .draft := by rintro same; rw [same] at enRoute; contradiction
    have touches := step.touches target.member
    refine invariant.touched touches (fun movement member => ⟨notDraft, ?_⟩) fun _ => ?_
    · refine line_of_writes step.writes (touches.lines _ (.inr notDraft))
        (fun item inAsked => ?_) movement member
      obtain ⟨shortage, inShortages, rfl⟩ := List.mem_map.mp inAsked
      obtain ⟨written, _, line, isLine, reported⟩ := Checked.output_of_item step.written inShortages
      exact ⟨line, isLine, reported.id⟩
    · refine (invariant.agrees transfer target.member).congr (touches.lines _ (.inr notDraft))
        fun lineId => ?_
      rw [outstandingQty_eq, step.writes.shipmentLedger touches.movements, if_pos rfl,
        outstanding_post]
      simp only [MovementAction.sign, zero_mul, add_zero]
      rfl
  | @resolved _ _ _ _ resolution _ transfer target outputs step =>
    refine invariant.settled step.enRoute step.writes ?_ (step.touches target.member) step.enRoute
      ⟨rfl, rfl⟩
    intro item member
    obtain ⟨resolutionLine, inLines, rfl⟩ := List.mem_map.mp member
    obtain ⟨output, _, line, isLine, resolved⟩ := Checked.output_of_item step.taken inLines
    exact ⟨line, isLine, resolved.id⟩
  | canceled transfer target edits step =>
    have touches := step.touches target.member
    obtain ⟨receivedAt, _⟩ := (invariant.agrees transfer target.member).unstamped touches.active
    exact invariant.touched touches (by simp) fun _ => .of_unshipped rfl receivedAt (by simp)

end StatusInvariant

/-! ## What stays as it is -/

/-- The movements of a transfer. -/
def movementsOf (db : Db) (transferId : ℕ) : List TransferMovement :=
  db.transferMovements.filter (·.transferId = transferId)

/-- Received or canceled. -/
def TransferStatus.isEnded (status : TransferStatus) : Prop :=
  status = .received ∨ status = .canceled

private theorem TransferStatus.isEnded_iff {status : TransferStatus} : status.isEnded ↔
    status.isActive = false := by
  cases status <;> simp [isEnded, isActive]

/-- What later requests leave alone: the lines of a transfer that is no draft, and all of a transfer
that ended. -/
structure Preserved (earlier later : Db) : Prop where
  dispatched : ∀ transfer ∈ earlier.transfers, transfer.status ≠ .draft →
    getLines later transfer.id = getLines earlier transfer.id ∧
      ∃ row ∈ later.transfers, row.id = transfer.id ∧ row.status ≠ .draft
  ended : ∀ transfer ∈ earlier.transfers, transfer.status.isEnded →
    transfer ∈ later.transfers ∧ movementsOf later transfer.id = movementsOf earlier transfer.id

theorem Preserved.refl (db : Db) : Preserved db db where
  dispatched transfer member notDraft := ⟨rfl, transfer, member, rfl, notDraft⟩
  ended _ member _ := ⟨member, rfl⟩

theorem Preserved.trans {earlier db later : Db} (first : Preserved earlier db)
    (next : Preserved db later) :
    Preserved earlier later where
  dispatched transfer member notDraft := by
    obtain ⟨lines, row, isRow, same, rowNotDraft⟩ := first.dispatched transfer member notDraft
    obtain ⟨nextLines, last⟩ := next.dispatched row isRow rowNotDraft
    rw [same] at nextLines last
    exact ⟨nextLines.trans lines, last⟩
  ended transfer member ended := by
    obtain ⟨kept, movements⟩ := first.ended transfer member ended
    obtain ⟨last, nextMovements⟩ := next.ended transfer kept ended
    exact ⟨last, nextMovements.trans movements⟩

/-- A committed request leaves alone what it has to. -/
theorem StatusInvariant.preserved {db after : Db} (invariant : StatusInvariant db)
    {request : TransferRequest} (success : transferStep db request = .ok after) :
    Preserved db after := by
  rcases (transferStep_ok success).touches with ⟨_, tenantId, progress, created, step⟩ |
    ⟨touched, change, written, _, touches⟩
  · have transfers : after.transfers = db.transfers ++ [created] :=
      congrArg Db.transfers step.tables
    constructor
    · intro transfer member notDraft
      have apart : transfer.id ≠ created.id := by
        rw [step.id]
        exact (db.id_lt_freshTransferId member).ne
      refine ⟨getLines_append_newTransferLines (congrArg Db.transferLines step.tables) apart rfl,
        transfer, ?_, rfl, notDraft⟩
      rw [transfers]
      exact List.mem_append_left _ member
    · intro transfer member _
      refine ⟨?_, by rw [movementsOf, step.tables, movementsOf]⟩
      rw [transfers]
      exact List.mem_append_left _ member
  · constructor
    · intro transfer member notDraft
      rw [touches.transfers]
      by_cases own : transfer.id = touched.id
      · obtain rfl := eq_of_key_eq invariant.distinct member touches.member own
        exact ⟨touches.lines _ (.inr notDraft), change transfer,
          mem_update.mpr ⟨transfer, member, if_pos (List.mem_singleton_self _)⟩, touches.identity _,
          touches.dispatched notDraft⟩
      · exact ⟨touches.lines _ (.inl own), transfer,
          mem_update.mpr ⟨transfer, member, if_neg (by simpa using own)⟩, rfl, notDraft⟩
    · intro transfer member ended
      have own : transfer.id ≠ touched.id := by
        intro own
        have active := touches.active
        rw [← eq_of_key_eq invariant.distinct member touches.member own,
          TransferStatus.isEnded_iff.mp ended] at active
        contradiction
      rw [touches.transfers]
      refine ⟨mem_update.mpr ⟨transfer, member, if_neg (by simpa using own)⟩, ?_⟩
      have foreign : written.filter (·.transferId = transfer.id) = [] := by
        refine List.filter_eq_nil_iff.mpr fun movement new => ?_
        rw [touches.own movement new]
        simpa using own.symm
      rw [movementsOf, touches.movements, List.filter_append, foreign, List.append_nil, movementsOf]

/-- A received or canceled transfer rejects every request. -/
theorem StatusInvariant.rejects {db : Db} (invariant : StatusInvariant db) {transfer : Transfer}
    (member : transfer ∈ db.transfers) (ended : transfer.status.isEnded) {request : TransferRequest}
    (addressed : request.transferId = some transfer.id) (after : Db) :
    transferStep db request ≠ .ok after := by
  intro success
  rcases (transferStep_ok success).touches with ⟨none, _⟩ | ⟨touched, change, written, same,
    touches⟩
  · rw [addressed] at none
    contradiction
  · rw [addressed] at same
    have active := touches.active
    rw [← eq_of_key_eq invariant.distinct member touches.member (Option.some.inj same),
      TransferStatus.isEnded_iff.mp ended] at active
    contradiction

/-- From a state without transfers, every status agrees with its ledger in whatever state a run
reaches, and the rest of the run changes the lines of drafts only and nothing of a transfer that was
received or canceled. -/
theorem transfer_status_agrees (start middle db : Db) (noTransfers : start.transfers = [])
    (noMovements : start.transferMovements = [])
    (reached : Reachable transferStep (fun _ _ => True) start middle)
    (continued : Reachable transferStep (fun _ _ => True) middle db) :
    (∀ transfer ∈ db.transfers, StatusAgrees db transfer) ∧ Preserved middle db ∧
      ∀ transfer ∈ db.transfers, transfer.status.isEnded → ∀ request : TransferRequest,
        request.transferId = some transfer.id → ∀ after, transferStep db request ≠ .ok after := by
  have initial : StatusInvariant middle := reached.invariant (.initial noTransfers noMovements)
    fun _ _ _ invariant _ success => invariant.step success
  have step : ∀ source request next, StatusInvariant source ∧ Preserved middle source → True →
      transferStep source request = .ok next → StatusInvariant next ∧ Preserved middle next :=
    fun _ _ _ ⟨invariant, preserved⟩ _ success =>
      ⟨invariant.step success, preserved.trans (invariant.preserved success)⟩
  obtain ⟨invariant, preserved⟩ := continued.invariant ⟨initial, .refl middle⟩ step
  exact ⟨invariant.agrees, preserved, fun transfer member ended request addressed after =>
    invariant.rejects member ended addressed after⟩

namespace Sample

/-- Two untagged jackets are dispatched and one arrives. -/
def partialTrip : List TransferRequest :=
  [create [{ lineType := .sku, qty := 2, snapshot := jacket }], act 1 .dispatch,
    act 1 (.receive [{ lineId := 1 }])]

private theorem partialTrip_commits :
    (runAllowed transferStep (fun _ _ => True) db partialTrip).isSome = true := by decide +kernel

def partlyReceived : Db :=
  (runAllowed transferStep (fun _ _ => True) db partialTrip).get partialTrip_commits

/-- The missing jacket of the trip is reported and lost. -/
def lossOfJacket : List TransferRequest :=
  [act 1 (.reportShortages [⟨1, 1⟩]), act 1 (.resolveShortages .lostInRoute [⟨1, 1⟩])]

private theorem lossOfJacket_commits :
    (runAllowed transferStep (fun _ _ => True) partlyReceived lossOfJacket).isSome = true := by
  decide +kernel

def accounted : Db :=
  (runAllowed transferStep (fun _ _ => True) partlyReceived lossOfJacket).get lossOfJacket_commits

end Sample

/-- The loss moves the transfer from partly received to received, with four movements in its
ledger. -/
theorem transfer_status_agrees_after_loss :
    Sample.partlyReceived.transfers.map (·.status) = [.partialReceived] ∧
      Sample.accounted.transfers.map (·.status) = [.received] ∧
      Sample.accounted.transferMovements.map (·.action) =
        [.dispatch, .receive, .shortageReported, .shortageResolvedLostInRoute] ∧
    (∀ transfer ∈ Sample.accounted.transfers, StatusAgrees Sample.accounted transfer) ∧
      Preserved Sample.partlyReceived Sample.accounted ∧
      ∀ transfer ∈ Sample.accounted.transfers, transfer.status.isEnded →
      ∀ request : TransferRequest,
        request.transferId = some transfer.id → ∀ after, transferStep Sample.accounted request ≠
        .ok after :=
  ⟨by decide +kernel, by decide +kernel, by decide +kernel,
    transfer_status_agrees Sample.db Sample.partlyReceived Sample.accounted rfl rfl
      (reachable_of_runAllowed (Option.some_get _).symm)
      (reachable_of_runAllowed (Option.some_get _).symm)⟩

end ArisCloud

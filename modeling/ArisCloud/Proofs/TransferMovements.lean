import ArisCloud.Library.Shipments
import ArisCloud.Proofs.TransferSteps

/-! # The movements of a line as a shipment ledger

The five movement actions are the five entries of a shipment ledger, and every action posts one
entry per line: the quantities its request names for the line, added up.
-/

namespace ArisCloud

open Shipments
open Tally (askedQty)

def MovementAction.entry : MovementAction → Entry
  | .dispatch => .send
  | .receive => .receive
  | .shortageReported => .report
  | .shortageResolvedFoundAndResend => .find
  | .shortageResolvedLostInRoute => .lose

/-- The movements of a line of a transfer, read as a ledger. -/
def shipmentLedger (db : Db) (transferId lineId : ℕ) : Ledger :=
  { sent := movedQty db.transferMovements transferId lineId .dispatch
    received := movedQty db.transferMovements transferId lineId .receive
    reported := movedQty db.transferMovements transferId lineId .shortageReported
    found := movedQty db.transferMovements transferId lineId .shortageResolvedFoundAndResend
    lost := movedQty db.transferMovements transferId lineId .shortageResolvedLostInRoute }

@[simp] theorem outstanding_shipmentLedger (db : Db) (transferId lineId : ℕ) :
    (shipmentLedger db transferId lineId).outstanding =
    (getMovementTotals db transferId).outstanding lineId := rfl

theorem shortageRemaining_getMovementTotals (db : Db) (transferId lineId : ℕ) :
    (getMovementTotals db transferId).shortageRemaining lineId = max
    (shipmentLedger db transferId lineId).missing 0 := rfl

/-- The movements that an action writes for the lines and quantities it was asked for. -/
def Writes (transferId : ℕ) (action : MovementAction) (asked : List (ℕ × ℤ))
    (movements : List TransferMovement) : Prop :=
  List.Forall₂ (fun item movement => movement.transferId = transferId ∧ movement.action = action ∧
    movement.transferLineId = item.1 ∧ movement.qty = item.2) asked movements

/-- What written movements add to the total of an action on a line. -/
theorem Writes.movedQty {transferId : ℕ} {action : MovementAction} {asked : List (ℕ × ℤ)}
    {movements : List TransferMovement} (writes : Writes transferId action asked movements)
    (other lineId : ℕ) (otherAction : MovementAction) :
    movedQty movements other lineId otherAction =
      if other = transferId ∧ otherAction = action then askedQty asked lineId else 0 := by
  induction writes with
  | nil => simp [ArisCloud.movedQty, askedQty]
  | cons first _ ih =>
    obtain ⟨sameTransfer, sameAction, sameLine, sameQty⟩ := first
    simp only [ArisCloud.movedQty, askedQty, Tally.sumWhere_cons, sameTransfer, sameAction,
      sameLine, sameQty] at ih ⊢
    rw [ih]
    by_cases own : other = transferId ∧ otherAction = action
    · simp [own]
    · rw [if_neg own, if_neg own, if_neg, add_zero]
      simp only [Bool.and_eq_true, decide_eq_true_eq]
      exact fun both => own ⟨both.1.1.symm, both.2.symm⟩

theorem movedQty_append (movements more : List TransferMovement) (transferId lineId : ℕ)
    (action : MovementAction) :
    movedQty (movements ++ more) transferId lineId action =
      movedQty movements transferId lineId action + movedQty more transferId lineId action :=
  Tally.sumWhere_append more

/-- Written movements post one entry to the ledgers of their transfer and leave the others alone. -/
theorem Writes.shipmentLedger {db after : Db} {transferId : ℕ} {action : MovementAction}
    {asked : List (ℕ × ℤ)} {movements : List TransferMovement}
    (writes : Writes transferId action asked movements)
    (appended : after.transferMovements = db.transferMovements ++ movements) (other lineId : ℕ) :
    shipmentLedger after other lineId =
      if other = transferId then (shipmentLedger db other lineId).post
      (askedQty asked lineId) action.entry
      else shipmentLedger db other lineId := by
  simp only [ArisCloud.shipmentLedger, appended, movedQty_append, writes.movedQty]
  by_cases own : other = transferId
  · cases action <;> simp [own, MovementAction.entry, Ledger.post]
  · simp [own]

/-! ## The postings of the actions -/

def TransferReceiveLine.asked (line : TransferReceiveLine) : ℕ × ℤ := (line.lineId, line.qty)

def TransferShortageLine.asked (line : TransferShortageLine) : ℕ × ℤ := (line.lineId, line.qty)

theorem DispatchStep.writes {db after : Db} {transfer : Transfer} {now : ℕ} {session : StockSession}
    {outputs : List ActionOutput} (step : DispatchStep db after transfer now session outputs) :
    Writes transfer.id .dispatch ((getLines db transfer.id).map fun line => (line.id, line.units))
      (outputs.map (·.2)) := by
  refine List.forall₂_map_left_iff.mpr
    (List.forall₂_map_right_iff.mpr (step.taken.imp fun line output taken => ?_))
  rw [taken.movement]
  exact ⟨rfl, rfl, rfl, rfl⟩

theorem ReceiveStep.writes {db after : Db} {transfer : Transfer}
    {receiveLines : List TransferReceiveLine} {now : ℕ} {outputs : List ActionOutput}
    (step : ReceiveStep db after transfer receiveLines now outputs) :
    Writes transfer.id .receive (receiveLines.map (·.asked)) (outputs.map (·.2)) := by
  refine List.forall₂_map_left_iff.mpr
    (List.forall₂_map_right_iff.mpr (step.taken.imp fun receiveLine output taken => ?_))
  obtain ⟨line, _, received⟩ := taken
  obtain ⟨_, _, movement⟩ := received.movement
  rw [movement]
  exact ⟨rfl, rfl, received.id, rfl⟩

theorem ReportStep.writes {db after : Db} {transfer : Transfer}
    {shortages : List TransferShortageLine} {movements : List TransferMovement}
    (step : ReportStep db after transfer shortages movements) :
    Writes transfer.id .shortageReported (shortages.map (·.asked)) movements := by
  refine List.forall₂_map_left_iff.mpr (step.written.imp fun shortage movement written => ?_)
  obtain ⟨line, _, reported⟩ := written
  rw [reported.movement]
  exact ⟨rfl, rfl, reported.id, rfl⟩

theorem ResolveStep.writes {db after : Db} {transfer : Transfer} {resolution : ShortageResolution}
    {resolutionLines : List TransferShortageLine} {now : ℕ} {outputs : List ResolveOutput}
    (step : ResolveStep db after transfer resolution resolutionLines now outputs) :
    Writes transfer.id resolution.action (resolutionLines.map (·.asked)) (outputs.map (·.2)) := by
  refine List.forall₂_map_left_iff.mpr
    (List.forall₂_map_right_iff.mpr (step.taken.imp fun line output taken => ?_))
  obtain ⟨_, _, resolved⟩ := taken
  obtain ⟨_, _, _, _, movement⟩ := resolved.movement
  rw [movement]
  exact ⟨rfl, rfl, resolved.id, rfl⟩

/-! ## Totals after the loop -/

/-- The totals that the code keeps for one transfer agree with movements, also on lines it does not
list. -/
structure MovementTotals.Tracks (totals : MovementTotals) (movements : List TransferMovement)
    (transferId : ℕ) : Prop where
  qty : ∀ lineId action, totals.qty lineId action = movedQty movements transferId lineId action
  unlisted : ∀ lineId, lineId ∉ totals.lineIds → ∀ action, totals.qty lineId action = 0

theorem tracks_getMovementTotals (db : Db) (transferId : ℕ) :
    (getMovementTotals db transferId).Tracks db.transferMovements transferId where
  qty _ _ := rfl
  unlisted := by
    intro lineId unlisted action
    refine Tally.sumWhere_eq_zero fun movement member selected => absurd ?_ unlisted
    simp only [Bool.and_eq_true, decide_eq_true_eq] at selected
    refine List.mem_dedup.mpr
      (List.mem_map.mpr ⟨movement, List.mem_filter.mpr ⟨member, ?_⟩, selected.1.2⟩)
    exact decide_eq_true selected.1.1

/-- Recording what an action was asked for tracks the movements it writes. -/
theorem MovementTotals.Tracks.record {totals : MovementTotals}
    {movements written : List TransferMovement} {transferId : ℕ} {action : MovementAction}
    {asked : List (ℕ × ℤ)} (tracks : totals.Tracks movements transferId)
    (writes : Writes transferId action asked written) :
    (asked.foldl (fun totals item => totals.record item.1 action item.2) totals).Tracks
      (movements ++ written) transferId := by
  induction writes generalizing totals movements with
  | nil => simpa using tracks
  | @cons item movement asked written first _ ih =>
    obtain ⟨sameTransfer, sameAction, sameLine, sameQty⟩ := first
    have next : (totals.record item.1 action item.2).Tracks
        (movements ++ [movement]) transferId := by
      constructor
      · intro lineId other
        rw [movedQty_append, ← tracks.qty]
        simp only [MovementTotals.record, ArisCloud.movedQty, Tally.sumWhere_cons,
          Tally.sumWhere_nil, add_zero, sameTransfer, sameAction, sameLine, sameQty, decide_true,
          Bool.true_and, Bool.and_eq_true, decide_eq_true_eq]
        congr 1
        simp only [eq_comm]
      · intro lineId unlisted other
        obtain ⟨different, before⟩ : lineId ≠ item.1 ∧ lineId ∉ totals.lineIds := by
          simpa [MovementTotals.record, List.mem_insert_iff] using unlisted
        simp [MovementTotals.record, different, tracks.unlisted lineId before]
    rw [List.foldl_cons, List.append_cons]
    exact ih next

theorem MovementTotals.outstandingTotal_nonneg (totals : MovementTotals) :
    0 ≤ totals.outstandingTotal := by
  refine List.sum_nonneg fun value member => ?_
  obtain ⟨lineId, _, rfl⟩ := List.mem_map.mp member
  exact le_max_right _ _

/-- When the code's total of outstanding quantities is zero, nothing is outstanding on any line. -/
theorem MovementTotals.Tracks.outstanding_nonpos {totals : MovementTotals}
    {movements : List TransferMovement} {transferId : ℕ}
    (tracks : totals.Tracks movements transferId) (none : totals.outstandingTotal = 0)
    (lineId : ℕ) :
    totals.outstanding lineId ≤ 0 := by
  by_cases listed : lineId ∈ totals.lineIds
  · have nonneg : ∀ value ∈ totals.lineIds.map fun lineId => max (totals.outstanding lineId) 0,
        (0 : ℤ) ≤ value := by
      intro value member
      obtain ⟨_, _, rfl⟩ := List.mem_map.mp member
      exact le_max_right _ _
    have bound := List.single_le_sum nonneg _
      (List.mem_map_of_mem (f := fun lineId => max (totals.outstanding lineId) 0) listed)
    exact (le_max_left _ _).trans (bound.trans none.le)
  · simp only [MovementTotals.outstanding, tracks.unlisted lineId listed]
    exact le_rfl

/-- When the code's total of outstanding quantities is not zero, something is outstanding on some
line. -/
theorem MovementTotals.exists_outstanding {totals : MovementTotals}
    (some : totals.outstandingTotal ≠ 0) :
    ∃ lineId, 0 < totals.outstanding lineId := by
  by_contra none
  refine some (List.sum_eq_zero fun value member => ?_)
  obtain ⟨lineId, _, rfl⟩ := List.mem_map.mp member
  exact max_eq_right (not_lt.mp fun positive => none ⟨lineId, positive⟩)

/-- When the code's total after an action is not zero, a ledger of the transfer has something
outstanding. -/
theorem exists_outstanding_of_total {db after : Db} {transferId : ℕ} {action : MovementAction}
    {asked : List (ℕ × ℤ)} {movements : List TransferMovement}
    (writes : Writes transferId action asked movements)
    (appended : after.transferMovements = db.transferMovements ++ movements)
    (some : (asked.foldl (fun totals item => totals.record item.1 action item.2)
      (getMovementTotals db transferId)).outstandingTotal ≠ 0) :
    ∃ lineId, 0 < (shipmentLedger after transferId lineId).outstanding := by
  have tracks := (tracks_getMovementTotals db transferId).record writes
  rw [← appended] at tracks
  obtain ⟨lineId, positive⟩ := MovementTotals.exists_outstanding some
  refine ⟨lineId, ?_⟩
  simp only [MovementTotals.outstanding, tracks.qty] at positive
  exact positive

/-- When the code's total after an action is zero, the ledgers of the transfer have nothing
outstanding. -/
theorem outstanding_nonpos_of_total {db after : Db} {transferId : ℕ} {action : MovementAction}
    {asked : List (ℕ × ℤ)} {movements : List TransferMovement}
    (writes : Writes transferId action asked movements)
    (appended : after.transferMovements = db.transferMovements ++ movements)
    (none : (asked.foldl (fun totals item => totals.record item.1 action item.2)
      (getMovementTotals db transferId)).outstandingTotal = 0) (lineId : ℕ) :
    (shipmentLedger after transferId lineId).outstanding ≤ 0 := by
  have tracks := (tracks_getMovementTotals db transferId).record writes
  rw [← appended] at tracks
  have bound := tracks.outstanding_nonpos none lineId
  simp only [MovementTotals.outstanding, tracks.qty] at bound
  exact bound

end ArisCloud

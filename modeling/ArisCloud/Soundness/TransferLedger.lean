import ArisCloud.Library.Reachability
import ArisCloud.Proofs.TransferMovements
import ArisCloud.Soundness.EpcReservations

/-! # Conservation of the movement ledger

Receives and resolutions compare each of their lines with totals that were read once, before the
loop, and a loss is compared with the open shortage only. So a line named twice, or a loss of units
that have arrived in the meantime, posts more than the ledger admits. As long as every action posts
no more for a repeated line, in total, than is outstanding and missing, and no loss more than is
outstanding, the ledger of every line is conserved.
-/

namespace ArisCloud

open Requests Shipments
open Tally (askedQty askedQty_eq_zero askedQty_le_of_once askedQty_nonneg)

/-- A list of quantities names a line more than once. -/
abbrev Repeats (asked : List (ℕ × ℤ)) (lineId : ℕ) : Prop := 1 < asked.countP (·.1 = lineId)

/-- The total a request asks for a line that it names more than once is within what the code checks
its items against: the outstanding quantity for receives, the open shortage for resolutions. Losses
are within what is outstanding, too. -/
def FitsLedger (db : Db) : TransferRequest → Prop
  | .action _ transferId ⟨_, _, .receive receiveLines⟩ => ∀ line ∈ receiveLines,
      Repeats (receiveLines.map (·.asked)) line.lineId →
        askedQty (receiveLines.map (·.asked)) line.lineId ≤
          (getMovementTotals db transferId).outstanding line.lineId
  | .action _ transferId ⟨_, _, .resolveShortages resolution resolutionLines⟩ =>
    ∀ line ∈ resolutionLines,
      (Repeats (resolutionLines.map (·.asked)) line.lineId →
        askedQty (resolutionLines.map (·.asked)) line.lineId ≤
          (getMovementTotals db transferId).shortageRemaining line.lineId) ∧
      (resolution = .lostInRoute → askedQty (resolutionLines.map (·.asked)) line.lineId ≤
        (getMovementTotals db transferId).outstanding line.lineId)
  | _ => True

instance (db : Db) (request : TransferRequest) : Decidable (FitsLedger db request) := by
  unfold FitsLedger
  rcases request with _ | _ | ⟨_, _, _, _, action⟩
  · infer_instance
  · infer_instance
  · cases action <;> infer_instance

/-- Receives and losses of a line are at most its dispatches, findings and losses at most its
reported shortages. -/
def MovementsBounded (movements : List TransferMovement) (transferId lineId : ℕ) : Prop :=
  movedQty movements transferId lineId .receive + movedQty movements transferId lineId
      .shortageResolvedLostInRoute ≤ movedQty movements transferId lineId .dispatch ∧
    movedQty movements transferId lineId .shortageResolvedFoundAndResend +
        movedQty movements transferId lineId .shortageResolvedLostInRoute ≤
      movedQty movements transferId lineId .shortageReported

instance (movements : List TransferMovement) (transferId lineId : ℕ) :
    Decidable (MovementsBounded movements transferId lineId) := inferInstanceAs (Decidable (_ ∧ _))

/-- The ledger of every line of every transfer is conserved. -/
def LedgerConserved (db : Db) : Prop :=
  ∀ transferId lineId, (shipmentLedger db transferId lineId).Conserved

private theorem LedgerConserved.outstanding_nonneg {db : Db} (conserved : LedgerConserved db)
    (transferId lineId : ℕ) :
    0 ≤ (shipmentLedger db transferId lineId).outstanding := by
  have := (conserved transferId lineId).settled
  simp only [Ledger.outstanding]
  omega

/-- Writing an admissible total for each line keeps every ledger conserved. -/
theorem LedgerConserved.writes {db after : Db} (conserved : LedgerConserved db) {transferId : ℕ}
    {action : MovementAction} {asked : List (ℕ × ℤ)} {movements : List TransferMovement}
    (writes : Writes transferId action asked movements)
    (appended : after.transferMovements = db.transferMovements ++ movements)
    (admits : ∀ item ∈ asked,
      (shipmentLedger db transferId item.1).Admits (askedQty asked item.1) action.entry) :
      LedgerConserved after := by
  intro other lineId
  rw [writes.shipmentLedger appended]
  split
  · next own =>
    subst own
    refine (conserved other lineId).post ?_
    by_cases named : ∃ item ∈ asked, item.1 = lineId
    · obtain ⟨item, member, rfl⟩ := named
      exact admits item member
    · rw [askedQty_eq_zero fun item member same => named ⟨item, member, same⟩]
      exact (conserved other lineId).admits_zero _
  · exact conserved other lineId

/-- A committed request that fits the ledger keeps it conserved. -/
theorem LedgerConserved.step {db after : Db} (conserved : LedgerConserved db)
    {request : TransferRequest} (fits : FitsLedger db request)
    (success : transferStep db request = .ok after) : LedgerConserved after := by
  cases transferStep_ok success with
  | created tenantId progress transfer step =>
    rw [step.tables]
    exact conserved
  | updated tenantId originStoreId destinationStoreId transfer target session step =>
    rw [step.tables]
    exact conserved
  | dispatched transfer target session outputs step =>
    refine conserved.writes step.writes (by rw [step.tables]) fun item _ =>
      askedQty_nonneg (fun other member => ?_) _
    obtain ⟨line, _, rfl⟩ := List.mem_map.mp member
    exact line.one_le_units
  | received transfer target outputs step =>
    obtain ⟨_, rfl⟩ := target
    refine conserved.writes step.writes (by rw [step.tables]) fun item member => ?_
    obtain ⟨line, inLines, rfl⟩ := List.mem_map.mp member
    refine askedQty_le_of_once (conserved.outstanding_nonneg transfer.id line.lineId) ?_
      (fits line inLines)
    intro other isAsked same
    obtain ⟨receiveLine, isLine, rfl⟩ := List.mem_map.mp isAsked
    obtain ⟨_, _, _, _, received⟩ := Checked.output_of_item step.taken isLine
    exact same ▸ received.outstanding
  | reported transfer target movements step =>
    refine conserved.writes step.writes (by rw [step.tables]) fun item _ =>
      askedQty_nonneg (fun other member => ?_) _
    obtain ⟨shortage, inShortages, rfl⟩ := List.mem_map.mp member
    obtain ⟨movement, _, line, _, reported⟩ := Checked.output_of_item step.written inShortages
    exact reported.positive
  | @resolved _ _ _ _ resolution resolutionLines transfer target outputs step =>
    obtain ⟨_, rfl⟩ := target
    refine conserved.writes step.writes (by rw [step.tables]) fun item member => ?_
    obtain ⟨line, inLines, rfl⟩ := List.mem_map.mp member
    obtain ⟨repeated, outstanding⟩ := fits line inLines
    have remaining : askedQty (resolutionLines.map (·.asked)) line.lineId ≤
        (getMovementTotals db transfer.id).shortageRemaining line.lineId := by
      refine askedQty_le_of_once (le_max_right _ _) ?_ repeated
      intro other isAsked same
      obtain ⟨resolutionLine, isLine, rfl⟩ := List.mem_map.mp isAsked
      obtain ⟨_, _, _, _, resolved⟩ := Checked.output_of_item step.taken isLine
      exact same ▸ resolved.remaining
    -- The open shortage is never negative, so the code's clamp at zero does not matter.
    have missing : 0 ≤ (shipmentLedger db transfer.id line.lineId).missing := by
      have := (conserved transfer.id line.lineId).explained
      simp only [Ledger.missing]
      omega
    rw [shortageRemaining_getMovementTotals, max_eq_left missing] at remaining
    cases resolution with
    | foundAndResend => exact remaining
    | lostInRoute => exact ⟨outstanding rfl, remaining⟩
  | canceled transfer target edits step =>
    rw [step.tables]
    exact conserved

/-- From a state without movements, every run whose requests fit the ledger bounds the movements of
every line. -/
theorem movement_ledger_conserved (start db : Db) (noMovements : start.transferMovements = [])
    (reached : Reachable transferStep FitsLedger start db) (transferId lineId : ℕ) :
    MovementsBounded db.transferMovements transferId lineId := by
  have initial : LedgerConserved start := by
    intro other line
    simp only [shipmentLedger, noMovements]
    exact Ledger.conserved_empty
  have conserved := reached.invariant initial (fun _ _ _ conserved fits success =>
    conserved.step fits success) transferId lineId
  exact ⟨conserved.settled, conserved.explained⟩

namespace Sample

/-- Two untagged jackets are dispatched; one arrives, the other is reported missing and lost. -/
def tripWithLoss : List TransferRequest :=
  [create [{ lineType := .sku, qty := 2, snapshot := jacket }], act 1 .dispatch,
    act 1 (.receive [{ lineId := 1 }]), act 1 (.reportShortages [⟨1, 1⟩]),
    act 1 (.resolveShortages .lostInRoute [⟨1, 1⟩])]

private theorem tripWithLoss_commits : (runAllowed transferStep FitsLedger db tripWithLoss).isSome =
    true := by decide +kernel

def settled : Db := (runAllowed transferStep FitsLedger db tripWithLoss).get tripWithLoss_commits

end Sample

theorem movement_ledger_conserved_after_loss :
    MovementsBounded Sample.settled.transferMovements 1 1 :=
  movement_ledger_conserved Sample.db Sample.settled rfl (reachable_of_runAllowed
    (Option.some_get _).symm) 1 1

namespace Sample

/-- One dispatched jacket is received by a request that names its line twice. -/
def repeatedReceive : List TransferRequest :=
  [create [{ lineType := .sku, snapshot := jacket }], act 1 .dispatch,
    act 1 (.receive [{ lineId := 1 }, { lineId := 1 }])]

private theorem repeatedReceive_commits :
    (runAllowed transferStep (fun _ _ => True) db repeatedReceive).isSome = true := by
  decide +kernel

def receivedTwice : Db :=
  (runAllowed transferStep (fun _ _ => True) db repeatedReceive).get repeatedReceive_commits

end Sample

/-- A request that names a line twice receives more than was dispatched. -/
theorem repeated_receive_overruns_ledger :
    ¬ ∀ start db : Db, start.transferMovements = [] → Reachable transferStep
    (fun _ _ => True) start db →
      ∀ transferId lineId, MovementsBounded db.transferMovements transferId lineId := by
  intro bounded
  have reached : Reachable transferStep (fun _ _ => True) Sample.db Sample.receivedTwice :=
    reachable_of_runAllowed (Option.some_get _).symm
  have overrun : ¬ MovementsBounded Sample.receivedTwice.transferMovements 1 1 := by decide +kernel
  exact overrun (bounded Sample.db Sample.receivedTwice rfl reached 1 1)

end ArisCloud

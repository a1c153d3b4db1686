import ArisCloud.Library.Mirrors
import ArisCloud.Model.System
import ArisCloud.Proofs.AdvanceSteps
import ArisCloud.Proofs.CashSteps
import ArisCloud.Proofs.ReturnSteps
import ArisCloud.Proofs.SaleSteps
import ArisCloud.Proofs.StockSteps
import ArisCloud.Soundness.TransferStatus

/-! # Transfers over runs of all requests

Only transfer requests write transfers, their lines and their movements. So what runs of transfer
requests keep about these tables, runs of all requests keep, whatever the others do to the stock in
between.
-/

namespace ArisCloud

open KeyedRows Requests Shipments

/-! ## Lines and movements -/

/-- Lines are told apart by their identifiers and movements are of units. -/
structure LineInvariant (db : Db) : Prop where
  lineIds : (db.transferLines.map (·.id)).Nodup
  nonneg : ∀ movement ∈ db.transferMovements, 0 ≤ movement.qty

namespace LineInvariant

variable {db after : Db}

private theorem of_writes (invariant : LineInvariant db) {transferId : ℕ} {action : MovementAction}
    {asked : List (ℕ × ℤ)} {movements : List TransferMovement}
    (lines : after.transferLines = db.transferLines)
    (appended : after.transferMovements = db.transferMovements ++ movements)
    (writes : Writes transferId action asked movements) (positive : ∀ item ∈ asked, 0 ≤ item.2) :
    LineInvariant after := by
  refine ⟨lines ▸ invariant.lineIds, fun movement member => ?_⟩
  rw [appended] at member
  rcases List.mem_append.mp member with old | new
  · exact invariant.nonneg movement old
  · obtain ⟨item, isItem, _, _, _, qty⟩ := Checked.item_of_output writes new
    exact qty ▸ positive item isItem

theorem step (invariant : LineInvariant db) {request : TransferRequest}
    (success : transferStep db request = .ok after) :
    LineInvariant after := by
  cases transferStep_ok success with
  | created tenantId progress transfer step =>
    rw [step.tables]
    exact ⟨nodup_ids_append_newTransferLines _ _ _ invariant.lineIds (List.Sublist.refl _),
      invariant.nonneg⟩
  | updated tenantId originStoreId destinationStoreId transfer target session step =>
    rw [step.tables]
    refine ⟨?_, invariant.nonneg⟩
    have updatedLines := step.lines
    generalize after.transferLines = transferLines at updatedLines ⊢
    cases updatedLines with
    | replaced progress checked same =>
      exact nodup_ids_append_newTransferLines _ _ _ invariant.lineIds List.filter_sublist
    | kept valid => exact invariant.lineIds
  | dispatched transfer target session outputs step =>
    refine invariant.of_writes (by rw [step.tables]) (by rw [step.tables]) step.writes
      fun item member => ?_
    obtain ⟨line, _, rfl⟩ := List.mem_map.mp member
    exact le_trans zero_le_one line.one_le_units
  | received transfer target outputs step =>
    refine invariant.of_writes (by rw [step.tables]) (by rw [step.tables]) step.writes
      fun item member => ?_
    obtain ⟨line, isLine, rfl⟩ := List.mem_map.mp member
    obtain ⟨_, _, _, _, received⟩ := Checked.output_of_item step.taken isLine
    exact le_trans zero_le_one received.positive
  | reported transfer target movements step =>
    refine invariant.of_writes (by rw [step.tables]) (by rw [step.tables]) step.writes
      fun item member => ?_
    obtain ⟨line, isLine, rfl⟩ := List.mem_map.mp member
    obtain ⟨_, _, _, _, reported⟩ := Checked.output_of_item step.written isLine
    exact le_trans zero_le_one reported.positive
  | resolved transfer target outputs step =>
    refine invariant.of_writes (by rw [step.tables]) (by rw [step.tables]) step.writes
      fun item member => ?_
    obtain ⟨line, isLine, rfl⟩ := List.mem_map.mp member
    obtain ⟨_, _, _, _, resolved⟩ := Checked.output_of_item step.taken isLine
    exact le_trans zero_le_one resolved.positive
  | canceled transfer target edits step =>
    rw [step.tables]
    exact ⟨invariant.lineIds, invariant.nonneg⟩

theorem movedQty_nonneg (invariant : LineInvariant db) (transferId lineId : ℕ)
    (action : MovementAction) :
    0 ≤ movedQty db.transferMovements transferId lineId action :=
  Tally.sumWhere_nonneg fun movement member _ => invariant.nonneg movement member

end LineInvariant

/-! ## What the lines of a transfer say -/

/-- Lines name an EPC or a place, no EPC twice in one transfer, and are alike when they name the
same SKU and place. -/
structure LinesSound (db : Db) : Prop where
  typed : ∀ line ∈ db.transferLines, line.Typed
  placed : ∀ line ∈ db.transferLines, line.lineType = .sku →
    line.sku ≠ none ∧ line.locationCode ≠ none ∧ line.pool ≠ none
  tags : ∀ transferId, ((getLines db transferId).filterMap (·.epc)).Nodup
  alike : ∀ transferId, ∀ line ∈ getLines db transferId, ∀ other ∈ getLines db transferId,
    line.lineType = .sku → other.lineType = .sku → line.sku = other.sku →
    line.locationCode = other.locationCode → line.pool = other.pool →
      line.toStockSnapshot = other.toStockSnapshot

namespace LinesSound

variable {db after : Db}

/-- The lines of a transfer that had none, after new ones were written for it. -/
theorem getLines_new {kept : List TransferLine} {tenantId transferId : ℕ}
    {normalized : List NormalizedLine}
    (lines : after.transferLines = kept ++ newTransferLines db tenantId transferId normalized)
    (none : ∀ line ∈ kept, line.transferId ≠ transferId) :
    getLines after transferId = newTransferLines db tenantId transferId normalized := by
  have before : (kept.filter fun line => line.transferId = transferId) = [] :=
    List.filter_eq_nil_iff.mpr fun line member => by simpa using none line member
  have new : (newTransferLines db tenantId transferId normalized).filter
      (fun line => line.transferId = transferId) =
      newTransferLines db tenantId transferId normalized :=
    List.filter_eq_self.mpr fun line member => by simpa using (mem_newTransferLines member).2.1
  rw [getLines, lines, List.filter_append, before, new, List.nil_append]

theorem written (sound : LinesSound db) {kept : List TransferLine} {tenantId storeId transferId : ℕ}
    {excludeTransferId : Option ℕ} {progress : Normalization}
    (checked : progress.Checked db tenantId storeId excludeTransferId)
    (lines : after.transferLines = kept ++ newTransferLines db tenantId transferId
      progress.normalized)
    (old : ∀ line ∈ kept, line ∈ db.transferLines ∧ line.transferId ≠ transferId)
    (others : ∀ other, other ≠ transferId → getLines after other = getLines db other) :
    LinesSound after := by
  have snapshots := map_snapshot_newTransferLines db tenantId transferId progress.normalized
  constructor
  · rw [lines]
    intro line member
    rcases List.mem_append.mp member with before | new
    · exact sound.typed line (old line before).1
    · obtain ⟨_, _, _, source, isSource, same, type, _⟩ := mem_newTransferLines new
      rw [TransferLine.Typed, type, same]
      exact checked.typed source isSource
  · rw [lines]
    intro line member isSku
    rcases List.mem_append.mp member with before | new
    · exact sound.placed line (old line before).1 isSku
    · obtain ⟨_, _, _, source, isSource, same, type, _⟩ := mem_newTransferLines new
      rw [same]
      exact ⟨sku_of_copies (checked.copied source isSource (type ▸ isSku)),
        checked.placed source isSource (type ▸ isSku)⟩
  · intro other
    by_cases own : other = transferId
    · have tags := congrArg (List.filterMap (·.epc)) snapshots
      simp only [List.filterMap_map, Function.comp_def] at tags
      rw [own, getLines_new lines fun line member => (old line member).2, tags]
      exact checked.distinct
    · rw [others other own]
      exact sound.tags other
  · intro other
    by_cases own : other = transferId
    · rw [own, getLines_new lines fun line member => (old line member).2]
      rintro line new another alsoNew isSku otherSku sku locationCode pool
      obtain ⟨_, _, _, source, isSource, same, type, _⟩ := mem_newTransferLines new
      obtain ⟨_, _, _, otherSource, isOther, otherSame, otherType, _⟩ :=
        mem_newTransferLines alsoNew
      rw [same, otherSame] at sku locationCode pool ⊢
      exact eq_of_copies (checked.copied source isSource (type ▸ isSku))
        (checked.copied otherSource isOther (otherType ▸ otherSku)) sku locationCode pool
    · rw [others other own]
      exact sound.alike other

theorem of_lines (sound : LinesSound db) (same : after.transferLines = db.transferLines) :
    LinesSound after :=
  ⟨same ▸ sound.typed, same ▸ sound.placed,
    fun transferId => by rw [getLines_congr same]; exact sound.tags transferId,
    fun transferId => by rw [getLines_congr same]; exact sound.alike transferId⟩

theorem step (sound : LinesSound db) {request : TransferRequest}
    (success : transferStep db request = .ok after) :
    LinesSound after := by
  cases transferStep_ok success with
  | created tenantId progress transfer step =>
    have lines : after.transferLines = db.transferLines ++ newTransferLines db tenantId transfer.id
        progress.normalized :=
      congrArg Db.transferLines step.tables
    refine sound.written step.checked lines (fun line member => ⟨member, ?_⟩) fun other apart =>
      getLines_append_newTransferLines lines apart rfl
    rw [step.id]
    exact (db.transferId_lt_freshTransferId member).ne
  | updated tenantId originStoreId destinationStoreId transfer target session step =>
    have updatedLines := step.lines
    generalize lines : after.transferLines = transferLines at updatedLines
    cases updatedLines with
    | replaced progress checked same =>
      refine sound.written checked lines (fun line member => ?_) fun other apart =>
        getLines_append_newTransferLines lines apart (filter_transferId_of_ne apart)
      simpa using List.mem_filter.mp member
    | kept valid => exact sound.of_lines lines
  | dispatched transfer target session outputs step => exact sound.of_lines (by rw [step.tables])
  | received transfer target outputs step => exact sound.of_lines (by rw [step.tables])
  | reported transfer target movements step => exact sound.of_lines (by rw [step.tables])
  | resolved transfer target outputs step => exact sound.of_lines (by rw [step.tables])
  | canceled transfer target edits step => exact sound.of_lines (by rw [step.tables])

/-- The lines of one transfer that are for tagged units are for different ones. -/
theorem eq_of_epc (sound : LinesSound db) {transferId : ℕ} {line other : TransferLine}
    (member : line ∈ getLines db transferId) (another : other ∈ getLines db transferId)
    {epc : String} (named : line.epc = some epc) (alike : other.epc = some epc) : line = other :=
  Mirrors.eq_of_fact_eq (sound.tags transferId) member another named alike

end LinesSound

/-! ## Runs of all requests -/

/-- The tables of the transfers are as they were. -/
structure SameTransfers (db after : Db) : Prop where
  transfers : after.transfers = db.transfers
  lines : after.transferLines = db.transferLines
  movements : after.transferMovements = db.transferMovements

private theorem SaleEffect.sameTransfers {db after : Db} {request : SaleRequest}
    (effect : SaleEffect db after request) :
    SameTransfers db after := by
  cases effect with
  | created sale lines step => rw [step.tables]; exact ⟨rfl, rfl, rfl⟩
  | updated tenantId sale target lines step => rw [step.tables]; exact ⟨rfl, rfl, rfl⟩
  | canceled sale target step => rw [step.tables]; exact ⟨rfl, rfl, rfl⟩
  | refunded sale target items session step => rw [step.tables]; exact ⟨rfl, rfl, rfl⟩
  | exchanged sale target items lines exchangeSale delta batch session step =>
    rw [step.tables]; exact ⟨rfl, rfl, rfl⟩
  | checkedOut sale target totals advance batch step => rw [step.tables]; exact ⟨rfl, rfl, rfl⟩

/-- A request of another router leaves the tables of the transfers alone. -/
theorem apiStep_transfers {db after : Db} {request : ApiRequest}
    (success : apiStep db request = .ok after) :
    SameTransfers db after ∨
      ∃ transferRequest, request = .system (.transfer transferRequest) ∧
      transferStep db transferRequest = .ok after := by
  cases request with
  | stock request => exact .inl (by rw [(stockStep_ok success).tables]; exact ⟨rfl, rfl, rfl⟩)
  | system request =>
    cases request with
    | sale request => exact .inl (saleStep_ok success).sameTransfers
    | returns request => exact .inl (by rw [(returnStep_ok success).tables]; exact ⟨rfl, rfl, rfl⟩)
    | advance request => exact .inl (by rw [(advanceStep_ok success).tables]; exact ⟨rfl, rfl, rfl⟩)
    | cash request => exact .inl (by rw [(cashStep_ok success).tables]; exact ⟨rfl, rfl, rfl⟩)
    | transfer request => exact .inr ⟨request, rfl, success⟩

/-- What runs of requests keep about transfers. -/
structure TransfersSound (db : Db) : Prop where
  status : StatusInvariant db
  ledger : LineInvariant db
  lines : LinesSound db

namespace TransfersSound

variable {db after : Db}

theorem initial (noTransfers : db.transfers = []) (noLines : db.transferLines = [])
    (noMovements : db.transferMovements = []) :
    TransfersSound db where
  status := .initial noTransfers noMovements
  ledger := ⟨by simp [noLines], by simp [noMovements]⟩
  lines := ⟨by simp [noLines], by simp [noLines], by simp [getLines, noLines], by simp [getLines,
      noLines]⟩

theorem same (sound : TransfersSound db) (same : SameTransfers db after) :
    TransfersSound after := by
  have lines (transferId : ℕ) : getLines after transferId = getLines db transferId :=
    getLines_congr same.lines transferId
  refine ⟨⟨?_, ?_, ?_⟩, ⟨?_, ?_⟩, sound.lines.of_lines same.lines⟩
  · rw [same.transfers]
    exact sound.status.distinct
  · simp only [MovementsOwned, same.transfers, same.movements, lines]
    exact sound.status.owned
  · rw [same.transfers]
    refine fun transfer member => (sound.status.agrees transfer member).congr (lines transfer.id)
      fun lineId => ?_
    rw [outstandingQty, same.movements, outstandingQty]
  · rw [same.lines]
    exact sound.ledger.lineIds
  · rw [same.movements]
    exact sound.ledger.nonneg

theorem transfer (sound : TransfersSound db) {request : TransferRequest}
    (success : transferStep db request = .ok after) :
    TransfersSound after :=
  ⟨sound.status.step success, sound.ledger.step success, sound.lines.step success⟩

theorem step (sound : TransfersSound db) {request : ApiRequest}
    (success : apiStep db request = .ok after) :
    TransfersSound after := by
  rcases apiStep_transfers success with same | ⟨transferRequest, _, success⟩
  · exact sound.same same
  · exact sound.transfer success

/-- What a run of requests reaches from sound tables is sound. -/
theorem reached (sound : TransfersSound db) {allowed : Db → ApiRequest → Prop}
    (run : Reachable apiStep allowed db after) :
    TransfersSound after :=
  run.invariant sound fun _ _ _ sound _ success => sound.step success

/-- A request leaves the lines of dispatched transfers alone. -/
theorem preserved (sound : TransfersSound db) {request : ApiRequest}
    (success : apiStep db request = .ok after) :
    Preserved db after := by
  rcases apiStep_transfers success with same | ⟨transferRequest, _, success⟩
  · constructor
    · rintro transfer member notDraft
      exact ⟨getLines_congr same.lines transfer.id, transfer, by rwa [same.transfers], rfl,
        notDraft⟩
    · rintro transfer member _
      exact ⟨by rwa [same.transfers], by rw [movementsOf, same.movements, movementsOf]⟩
  · exact sound.status.preserved success

theorem preservedTo (sound : TransfersSound db) {allowed : Db → ApiRequest → Prop}
    (run : Reachable apiStep allowed db after) :
    Preserved db after := by
  have keeps : ∀ source request next, TransfersSound source ∧ Preserved db source →
      allowed source request → apiStep source request = .ok next → TransfersSound next ∧
      Preserved db next :=
    fun _ _ _ ⟨sound, preserved⟩ _ success =>
      ⟨sound.step success, preserved.trans (sound.preserved success)⟩
  exact (run.invariant ⟨sound, .refl db⟩ keeps).2

end TransfersSound

end ArisCloud

import ArisCloud.Soundness.DispatchedUnits
import ArisCloud.Soundness.ShortageReports

/-! # Whether a dispatched transfer can be received

A dispatch takes the oldest rows of a line's SKU at its place, a receive the oldest rows in transit
of its SKU, description and variant. Both take the same rows exactly when the dispatched rows are of
the line's kind, no two lines are of one kind, and no older row of the kind is in transit from the
same store.
-/

namespace ArisCloud

open KeyedRows Requests

/-! ## What a full receipt should do -/

/-- Every line is received in full, in any order and wherever the request puts it. -/
def FullReceipt (lines : List TransferLine) (receiveLines : List TransferReceiveLine) : Prop :=
  (receiveLines.map (·.asked)).Perm (lines.map fun line => (line.id, line.units))

instance (lines : List TransferLine) (receiveLines : List TransferReceiveLine) :
    Decidable (FullReceipt lines receiveLines) :=
  inferInstanceAs (Decidable (List.Perm _ _))

/-- A row is put where the request asks for when it was dispatched for a line, and stays where it is
otherwise. -/
structure Arrived (db : Db) (transfer : Transfer) (receiveLines : List TransferReceiveLine)
    (row arrived : StockItem) :
    Prop where
  moved : ∀ line ∈ getLines db transfer.id, row.id ∈ sentIds db.stock transfer line →
    ∀ receiveLine ∈ receiveLines, receiveLine.lineId = line.id →
    arrived = receivePlace transfer receiveLine row
  stays : (∀ line ∈ getLines db transfer.id, row.id ∉ sentIds db.stock transfer line) →
    arrived = row

/-- The receipt is accepted, ends the transfer, and moves the dispatched rows and no others. -/
def ArrivesInFull (db later : Db) (transfer : Transfer) (officer : Officer)
    (receiveLines : List TransferReceiveLine) : Prop :=
  ∃ after, transferStep later (officer.request transfer.id (.receive receiveLines)) = .ok after ∧
    (∃ received ∈ after.transfers, received.id = transfer.id ∧ received.status = .received) ∧
    List.Forall₂ (Arrived db transfer receiveLines) later.stock.rows after.stock.rows

/-- The lines are of different kinds, their dispatched rows are of the line's kind, and no other row
in transit that the line's receive may take comes before one of them. -/
structure FoundAgain (db later : Db) (transfer : Transfer) : Prop where
  kinds : ((getLines db transfer.id).map (·.kind)).Nodup
  alike : ∀ line ∈ getLines db transfer.id, line.lineType = .sku → ∀ unit ∈ db.stock.rows,
    unit.id ∈ sentIds db.stock transfer line → unit.kind = line.kind
  first : ∀ line ∈ getLines db transfer.id, line.lineType = .sku → ∀ row ∈ later.stock.rows,
    receiveSelector transfer line row = true → row.id ∉ sentIds db.stock transfer line →
    ∀ unit ∈ later.stock.rows,
      unit.id ∈ sentIds db.stock transfer line →
      Precedes StockItem.id (·.createdAt) later.stock.rows unit row

section Receipt

variable {db later after : Db} {transfer : Transfer} {now instant : ℕ} {officer : Officer}
    {line other : TransferLine}
  {receiveLines : List TransferReceiveLine} {receiveLine : TransferReceiveLine}
  {outputs : List ActionOutput}

/-! ## Rows that are found again -/

/-- The rows that a receive of a line in full takes. -/
def receivedIds (table : StockTable) (transfer : Transfer) (line : TransferLine) : List ℕ :=
  takenIds table line.lineType (receiveSelector transfer line) line.units

/-- A receive of a tagged line takes the row that was dispatched for it. -/
theorem Underway.receivedIds_epc (underway : Underway db later transfer now)
    (inLines : line ∈ getLines db transfer.id) (isEpc : line.lineType = .epc) :
    receivedIds later.stock transfer line = sentIds db.stock transfer line := by
  rw [receivedIds, isEpc]
  refine underway.takenIds_epc inLines isEpc (fun unit row sentFrom selected => ?_)
    fun row selected => ?_
  · refine underway.receiveSelector_eq_true inLines sentFrom selected fun isSku => ?_
    rw [isEpc] at isSku
    contradiction
  · simp only [receiveSelector, isEpc, Bool.and_eq_true] at selected
    exact selected.1.1

/-- The units of an untagged line of their kind are rows that its receive may take. -/
theorem Underway.receivePicks (underway : Underway db later transfer now)
    (inLines : line ∈ getLines db transfer.id)
    (alike : line.lineType = .sku → ∀ unit ∈ db.stock.rows,
      unit.id ∈ sentIds db.stock transfer line → unit.kind = line.kind) :
    Picks StockItem.id later.stock.rows (receiveSelector transfer line) line.units.toNat
    (sentIds db.stock transfer line) := by
  have picks := underway.picks line inLines
  refine ⟨picks.unrepeated, picks.length, fun id listed => ?_⟩
  obtain ⟨unit, isUnit, rfl, selected⟩ := picks.found id listed
  obtain ⟨row, isRow, sentFrom⟩ := underway.units line inLines unit isUnit listed
  exact ⟨row, isRow, sentFrom.id, underway.receiveSelector_eq_true inLines sentFrom selected
      fun isSku =>
    alike isSku unit isUnit listed⟩

/-- A receive of an untagged line takes the units dispatched for it exactly when they come first. -/
theorem Underway.receivedIds_sku (underway : Underway db later transfer now)
    (inLines : line ∈ getLines db transfer.id) (isSku : line.lineType = .sku)
    (alike : ∀ unit ∈ db.stock.rows, unit.id ∈ sentIds db.stock transfer line →
      unit.kind = line.kind) :
    (∀ id ∈ receivedIds later.stock transfer line, id ∈ sentIds db.stock transfer line) ↔
      ∀ row ∈ later.stock.rows, receiveSelector transfer line row = true →
      row.id ∉ sentIds db.stock transfer line →
        ∀ unit ∈ later.stock.rows, unit.id ∈ sentIds db.stock transfer line →
          Precedes StockItem.id (·.createdAt) later.stock.rows unit row := by
  rw [← (underway.receivePicks inLines fun _ => alike).only_iff later.stock.distinctIds]
  simp [receivedIds, takenIds, isSku]

/-- Then it takes all of them. -/
theorem Underway.mem_receivedIds_of_only (underway : Underway db later transfer now)
    (inLines : line ∈ getLines db transfer.id) (isSku : line.lineType = .sku)
    (alike : ∀ unit ∈ db.stock.rows, unit.id ∈ sentIds db.stock transfer line →
      unit.kind = line.kind)
    (only : ∀ id ∈ receivedIds later.stock transfer line, id ∈ sentIds db.stock transfer line)
    {id : ℕ} :
    id ∈ receivedIds later.stock transfer line ↔ id ∈ sentIds db.stock transfer line := by
  have picks := underway.receivePicks inLines fun _ => alike
  refine ⟨only id, fun listed => ?_⟩
  obtain ⟨row, isRow, rfl, _⟩ := picks.found id listed
  simp only [receivedIds, takenIds, isSku] at only ⊢
  exact List.mem_map_of_mem (picks.mem_oldest later.stock.distinctIds
    (fun other read => only other.id (List.mem_map_of_mem read)) isRow listed)

private theorem Underway.mem_receivedIds (underway : Underway db later transfer now)
    (found : FoundAgain db later transfer) (inLines : line ∈ getLines db transfer.id) {id : ℕ} :
    id ∈ receivedIds later.stock transfer line ↔ id ∈ sentIds db.stock transfer line := by
  cases kind : line.lineType with
  | epc => rw [underway.receivedIds_epc inLines kind]
  | sku =>
    have alike := found.alike line inLines kind
    have only := (underway.receivedIds_sku inLines kind alike).mpr (found.first line inLines kind)
    exact underway.mem_receivedIds_of_only inLines kind alike only

/-! ## Full receipts -/

private theorem FullReceipt.line_of_item {lines : List TransferLine}
    (full : FullReceipt lines receiveLines) (member : receiveLine ∈ receiveLines) : ∃ line ∈ lines,
    line.id = receiveLine.lineId ∧ line.units = receiveLine.qty := by
  obtain ⟨line, inLines, same⟩ :=
    List.mem_map.mp (full.mem_iff.mp (List.mem_map_of_mem (f := (·.asked)) member))
  exact ⟨line, inLines, (Prod.mk.inj same).1, (Prod.mk.inj same).2⟩

private theorem FullReceipt.item_of_line {lines : List TransferLine}
    (full : FullReceipt lines receiveLines) (inLines : line ∈ lines) :
    ∃ receiveLine ∈ receiveLines, receiveLine.lineId = line.id := by
  obtain ⟨receiveLine, member, same⟩ := List.mem_map.mp
    (full.mem_iff.mpr
    (List.mem_map_of_mem (f := fun line : TransferLine => (line.id, line.units)) inLines))
  exact ⟨receiveLine, member, (Prod.mk.inj same).1⟩

theorem FullReceipt.distinct {lines : List TransferLine} (full : FullReceipt lines receiveLines)
    (lineIds : (lines.map (·.id)).Nodup) : ((receiveLines.map (·.asked)).map (·.1)).Nodup := by
  refine (full.map _).nodup_iff.mpr ?_
  rwa [List.map_map]

/-- What a receive takes for an item of a full receipt, and where it puts it. -/
def TakenInFull (db later : Db) (transfer : Transfer) (receiveLine : TransferReceiveLine)
    (output : ActionOutput) : Prop :=
  ∃ line ∈ getLines db transfer.id, line.id = receiveLine.lineId ∧
    output.1.keys = receivedIds later.stock transfer line ∧
    output.1.change = receivePlace transfer receiveLine ∧ output.1.keys.Nodup ∧
    output.1.keys.length = line.units.toNat

/-- A committed receive takes what it takes for each line, item by item. -/
theorem Underway.takenInFull (underway : Underway db later transfer now)
    (full : FullReceipt (getLines db transfer.id) receiveLines)
    (step : ReceiveStep later after (transfer.dispatch now) receiveLines instant outputs) :
    List.Forall₂ (TakenInFull db later transfer) receiveLines outputs := by
  refine (Checked.occurring_outputs step.taken).imp
    fun receiveLine output ⟨isItem, _, line, inLines, taken⟩ => ?_
  have inLines : line ∈ getLines db transfer.id := underway.lines ▸ inLines
  obtain ⟨other, isOther, same, units⟩ := full.line_of_item isItem
  obtain rfl := eq_of_key_eq underway.lineIds isOther inLines (same.trans taken.id.symm)
  have ids := taken.ids
  have length := taken.picks.length
  rw [← units] at ids length
  exact ⟨other, inLines, same, ids, taken.change, taken.picks.unrepeated, length⟩

/-- A receive of the transfer that commits is a receive of it after its dispatch. -/
theorem Underway.receiveStep (underway : Underway db later transfer now)
    (success : transferStep later (officer.request transfer.id (.receive receiveLines)) =
      .ok after) :
    ∃ outputs, ReceiveStep later after
    (transfer.dispatch now) receiveLines officer.context.now outputs := by
  have effect := transferStep_ok success
  rw [Officer.request] at effect
  cases effect with
  | received other target outputs step =>
    obtain rfl := eq_of_key_eq underway.after.status.distinct target.member underway.waiting
      target.id
    exact ⟨outputs, step⟩

/-- A full receipt leaves nothing outstanding, so it ends the transfer. -/
theorem Underway.received (underway : Underway db later transfer now)
    (full : FullReceipt (getLines db transfer.id) receiveLines)
    (success : transferStep later (officer.request transfer.id (.receive receiveLines)) =
      .ok after) :
    ∃ ended ∈ after.transfers, ended.id = transfer.id ∧ ended.status = .received := by
  obtain ⟨outputs, step⟩ := underway.receiveStep success
  obtain ⟨change, touches, shipped⟩ : ∃ change,
      Touches later after (transfer.dispatch now) change (outputs.map (·.2)) ∧
      (change (transfer.dispatch now)).status.isShipped = true :=
    ⟨_, step.touches underway.waiting, by unfold settle; split <;> rfl⟩
  have isAfter : change (transfer.dispatch now) ∈ after.transfers := by
    rw [touches.transfers]
    exact mem_update.mpr ⟨_, underway.waiting, if_pos (List.mem_singleton_self _)⟩
  have sound := underway.after.transfer success
  refine ⟨_, isAfter, touches.identity _, ((sound.status.agrees _ isAfter).settled shipped).mpr ?_⟩
  rw [touches.identity]
  intro line inLines
  rw [touches.lines _ (.inr nofun)] at inLines
  have inLines : line ∈ getLines db transfer.id := underway.lines ▸ inLines
  obtain ⟨receiveLine, isItem, same⟩ := full.item_of_line inLines
  obtain ⟨other, isOther, otherId, units⟩ := full.line_of_item isItem
  obtain rfl := eq_of_key_eq underway.lineIds isOther inLines (otherId.trans same)
  have asked : Tally.askedQty (receiveLines.map (·.asked)) other.id = other.units := by
    have once := Tally.askedQty_of_nodup (full.distinct underway.lineIds)
      (List.mem_map_of_mem (f := (·.asked)) isItem)
    rw [units, otherId]
    exact once
  have outstanding := underway.outstanding other inLines
  rw [outstandingQty_eq] at outstanding ⊢
  change (shipmentLedger after transfer.id other.id).outstanding ≤ 0
  have posted := step.writes.shipmentLedger touches.movements transfer.id other.id
  rw [posted, if_pos (show transfer.id = (transfer.dispatch now).id from rfl), outstanding_post,
    outstanding, asked]
  simp only [MovementAction.sign]
  omega

/-! ## Enough -/

/-- Rows that are found again by their lines make every full receipt acceptable. -/
theorem Underway.accepted (underway : Underway db later transfer now)
    (found : FoundAgain db later transfer) (may : officer.MayReceive transfer)
    (full : FullReceipt (getLines db transfer.id) receiveLines) :
    ∃ after, transferStep later (officer.request transfer.id (.receive receiveLines)) =
    .ok after := by
  have mayNow : officer.MayReceive (transfer.dispatch now) :=
    ⟨⟨may.permitted, may.signed, may.tenant⟩, may.destination⟩
  refine receiveTransfer_succeeds mayNow underway.after.status.distinct underway.waiting rfl ?_
    fun receiveLine isItem => ?_
  · rintro rfl
    exact underway.nonempty (List.map_eq_nil_iff.mp (List.nil_perm.mp full))
  · obtain ⟨line, inLines, id, units⟩ := full.line_of_item isItem
    have inLater : line ∈ getLines later (transfer.dispatch now).id := by
      change line ∈ getLines later transfer.id
      rwa [underway.lines]
    have outstanding := underway.outstanding line inLines
    rw [outstandingQty_eq, outstanding_shipmentLedger] at outstanding
    refine ⟨line, ?_, ?_, ?_, ?_⟩
    · rw [← id]
      exact findTransferLine_of_mem underway.after.ledger.lineIds inLater
    · exact units ▸ line.one_le_units
    · rw [← units, ← id]
      exact outstanding.ge
    · have picks := underway.receivePicks inLines (found.alike line inLines)
      have enough := picks.le_countP
      unfold Receivable
      cases kind : line.lineType with
      | sku =>
        rw [← units]
        exact Int.toNat_le.mp enough
      | epc =>
        have single : line.units = 1 := by rw [TransferLine.units, kind]
        refine ⟨units.symm.trans single, underway.named line inLines kind, ?_⟩
        rw [single] at enough
        exact List.countP_pos_iff.mp enough

/-- Then the lines take different rows. -/
theorem Underway.disjoint (underway : Underway db later transfer now)
    (found : FoundAgain db later transfer) (distinct : (receiveLines.map (·.lineId)).Nodup)
    (taken : List.Forall₂ (TakenInFull db later transfer) receiveLines outputs) :
    outputs.Pairwise fun output other => output.1.keys.Disjoint other.1.keys := by
  have inLine {line : TransferLine} (inLines : line ∈ getLines db transfer.id) {row : StockItem}
      (isRow : row ∈ later.stock.rows) (listed : row.id ∈ receivedIds later.stock transfer line) :
      row.kind = line.kind := by
    have selected := selected_of_mem_takenIds isRow listed
    exact (receiveSelector_inTransitFor (underway.typed inLines) selected).1.kind
  have different : receiveLines.Pairwise fun item other => item.lineId ≠ other.lineId :=
    List.pairwise_map.mp distinct
  refine (Checked.pairwise_outputs_iff taken fun item output other another => ?_).mpr different
  rintro ⟨line, inLines, id, keys, _, _, length⟩ ⟨otherLine, otherInLines, otherId, otherKeys,
    _, _, _⟩
  constructor
  · rintro apart same
    obtain rfl := eq_of_key_eq underway.lineIds inLines otherInLines
      (id.trans (same.trans otherId.symm))
    have some : output.1.keys ≠ [] := by
      rintro empty
      have positive := line.one_le_units
      rw [empty, List.length_nil] at length
      omega
    obtain ⟨key, listed⟩ := List.exists_mem_of_ne_nil _ some
    exact apart listed (by rwa [otherKeys, ← keys])
  · intro different key listed shared
    rw [keys] at listed
    rw [otherKeys] at shared
    obtain ⟨unit, isUnit, sentId, _⟩ := (underway.picks line inLines).found key
      ((underway.mem_receivedIds found inLines).mp listed)
    obtain ⟨row, isRow, sentFrom⟩ := underway.units line inLines unit isUnit
      (sentId ▸ (underway.mem_receivedIds found inLines).mp listed)
    obtain rfl : row.id = key := sentFrom.id.trans sentId
    have same := (inLine inLines isRow listed).symm.trans (inLine otherInLines isRow shared)
    obtain rfl := List.inj_on_of_nodup_map found.kinds inLines otherInLines same
    exact different (id.symm.trans otherId)

/-- And every row goes where it should. -/
theorem Underway.arrivesInFull (underway : Underway db later transfer now)
    (found : FoundAgain db later transfer) (may : officer.MayReceive transfer)
    (full : FullReceipt (getLines db transfer.id) receiveLines) :
    ArrivesInFull db later transfer officer receiveLines := by
  obtain ⟨after, success⟩ := underway.accepted found may full
  obtain ⟨outputs, step⟩ := underway.receiveStep success
  have taken := underway.takenInFull full step
  have distinct := full.distinct underway.lineIds
  rw [List.map_map] at distinct
  have disjoint := underway.disjoint found distinct taken
  refine ⟨after, success, underway.received full success, ?_⟩
  rw [step.stock, List.forall₂_map_right_iff, List.forall₂_same]
  refine fun row isRow => ⟨fun line inLines listed receiveLine isItem same => ?_, fun unlisted =>
    ?_⟩
  · obtain ⟨output, isOutput, other, isOther, id, keys, change, _⟩ :=
      Checked.output_of_item taken isItem
    obtain rfl := eq_of_key_eq underway.lineIds isOther inLines (id.trans same)
    have addressed : row.id ∈ output.1.keys :=
      keys ▸ (underway.mem_receivedIds found inLines).mpr listed
    rw [editRow_of_disjoint (List.pairwise_map.mpr disjoint)
      (List.mem_map_of_mem isOutput) addressed, change]
  · refine editRow_of_untouched fun edit applied listed => ?_
    obtain ⟨output, isOutput, rfl⟩ := List.mem_map.mp applied
    obtain ⟨receiveLine, _, line, inLines, _, keys, _⟩ := Checked.item_of_output taken isOutput
    exact unlisted line inLines ((underway.mem_receivedIds found inLines).mp (keys ▸ listed))

/-! ## Necessary -/

/-- A receipt of a line that tells the units of one line from the others by where it puts them. -/
def markedReceipt (mark line : TransferLine) : TransferReceiveLine :=
  { lineId := line.id, qty := line.units,
    locationCode := some (if line = mark then "MARKED" else "UNMARKED") }

private theorem locationCode_markedReceipt (mark line : TransferLine) (row : StockItem) :
    (receivePlace transfer (markedReceipt mark line) row).locationCode =
      some (if line = mark then "MARKED" else "UNMARKED") := by
  by_cases same : line = mark <;>
    simp [receivePlace, resolveReceiveDestination, markedReceipt, same, Option.filter_some]

/-- The receipt of all lines that comes to the marked one last. -/
def markedReceipts (mark : TransferLine) (lines : List TransferLine) : List TransferReceiveLine :=
  (lines.erase mark ++ [mark]).map (markedReceipt mark)

private theorem fullReceipt_markedReceipts {mark : TransferLine} {lines : List TransferLine}
    (member : mark ∈ lines) :
    FullReceipt lines (markedReceipts mark lines) := by
  rw [FullReceipt, markedReceipts, List.map_map]
  exact ((List.perm_cons_erase member).trans (List.perm_append_singleton _ _).symm).symm.map _

private theorem markedReceipt_mem {mark : TransferLine} {lines : List TransferLine}
    (inLines : line ∈ lines) :
    markedReceipt mark line ∈ markedReceipts mark lines := by
  apply List.mem_map_of_mem
  rw [List.mem_append, List.mem_singleton]
  by_cases same : line = mark
  · exact .inr same
  · exact .inl ((List.mem_erase_of_ne same).mpr inLines)

/-- A receipt that puts every row where it should takes for each line the rows that were dispatched
for it. -/
theorem Underway.sent_of_received (underway : Underway db later transfer now)
    (inLines : line ∈ getLines db transfer.id)
    (arrives : ArrivesInFull db later transfer officer
      (markedReceipts line (getLines db transfer.id))) {row : StockItem}
    (isRow : row ∈ later.stock.rows) (listed : row.id ∈ receivedIds later.stock transfer line) :
    row.id ∈ sentIds db.stock transfer line := by
  obtain ⟨after, success, _, arrived⟩ := arrives
  obtain ⟨outputs, step⟩ := underway.receiveStep success
  have taken := underway.takenInFull (fullReceipt_markedReceipts inLines) step
  -- The marked line comes last, so nothing moves its rows again.
  rw [markedReceipts, List.map_append, List.map_singleton] at taken
  obtain ⟨front, last, rfl, _, tail⟩ := Checked.outputs_of_append taken
  obtain ⟨output, rfl, other, isOther, id, keys, change, _⟩ := Checked.output_of_singleton tail
  obtain rfl := eq_of_key_eq underway.lineIds isOther inLines id
  rw [step.stock, List.forall₂_map_right_iff, List.forall₂_same] at arrived
  obtain ⟨moved, stays⟩ := arrived row isRow
  have addressed : row.id ∈ output.1.keys := keys ▸ listed
  rw [List.map_append, List.map_singleton, editRow_of_last addressed, change] at moved stays
  have transit :=
    (receiveSelector_inTransitFor (underway.typed inLines)
      (selected_of_mem_takenIds isRow listed)).1.transit
  by_contra unsent
  by_cases foreign : ∃ line ∈ getLines db transfer.id, row.id ∈ sentIds db.stock transfer line
  · obtain ⟨line, isLine, sent⟩ := foreign
    have same := congrArg (·.locationCode)
      (moved line isLine sent (markedReceipt other line) (markedReceipt_mem isLine) rfl)
    have apart : line ≠ other := by rintro rfl; exact unsent sent
    simp only [locationCode_markedReceipt, if_neg apart] at same
    simp at same
  · have same :=
      congrArg (·.locationCode) (stays fun line isLine sent => foreign ⟨line, isLine, sent⟩)
    simp only [StockSnapshot.inTransit, Bool.and_eq_true, decide_eq_true_eq] at transit
    simp only [locationCode_markedReceipt, transit.1] at same
    simp [inTransitCode] at same

/-- The rows that such receipts take for a line are all that were dispatched for it. -/
theorem Underway.received_of_sent (underway : Underway db later transfer now)
    (inLines : line ∈ getLines db transfer.id)
    (arrives : ArrivesInFull db later transfer officer
      (markedReceipts line (getLines db transfer.id))) {id : ℕ}
    (listed : id ∈ sentIds db.stock transfer line) :
    id ∈ receivedIds later.stock transfer line := by
  have ⟨after, success, _, _⟩ := arrives
  obtain ⟨outputs, step⟩ := underway.receiveStep success
  have taken := underway.takenInFull (fullReceipt_markedReceipts inLines) step
  obtain ⟨output, _, other, isOther, same, keys, _, unrepeated, length⟩ :=
    Checked.output_of_item taken (markedReceipt_mem inLines)
  obtain rfl := eq_of_key_eq underway.lineIds isOther inLines same
  have picks := underway.picks other inLines
  have sub : output.1.keys ⊆ sentIds db.stock transfer other := by
    intro key isKey
    rw [keys] at isKey
    obtain ⟨row, isRow, rfl⟩ := present_of_mem_takenIds isKey
    exact underway.sent_of_received inLines arrives isRow isKey
  have perm := (List.subperm_of_subset unrepeated sub).perm_of_length_le
    (by rw [picks.length, length])
  exact keys ▸ perm.mem_iff.mpr listed

/-- Lines of one kind share a row, which a receipt cannot put at both places. -/
theorem Underway.eq_of_kind (underway : Underway db later transfer now)
    (arrives : ∀ mark ∈ getLines db transfer.id,
      ArrivesInFull db later transfer officer (markedReceipts mark (getLines db transfer.id)))
    (inLines : line ∈ getLines db transfer.id) (otherInLines : other ∈ getLines db transfer.id)
    (same : line.kind = other.kind) : line = other := by
  have typed := underway.typed inLines
  have otherTyped := underway.typed otherInLines
  have tag := epc_of_kind same
  cases kind : line.lineType with
  | epc =>
    obtain ⟨epc, named⟩ := typed.named kind
    exact underway.before.lines.eq_of_epc inLines otherInLines named (tag ▸ named)
  | sku =>
    have untagged := typed.mp kind
    have otherKind : other.lineType = .sku := otherTyped.mpr (tag ▸ untagged)
    have selector : receiveSelector transfer other = receiveSelector transfer line := by
      funext row
      simp only [StockSnapshot.kind, untagged, tag ▸ untagged, UnitKind.variant.injEq] at same
      obtain ⟨sku, description, var1, var2⟩ := same
      simp only [receiveSelector, kind, otherKind, inTransitSkuFilters, sku, description,
        var1, var2]
    have picks := underway.picks line inLines
    have some : sentIds db.stock transfer line ≠ [] := by
      rintro empty
      have length := picks.length
      have positive := line.one_le_units
      rw [empty, List.length_nil] at length
      omega
    obtain ⟨id, listed⟩ := List.exists_mem_of_ne_nil _ some
    have received := underway.received_of_sent inLines (arrives line inLines) listed
    simp only [receivedIds, takenIds, kind] at received
    have nonempty : oldest (·.createdAt) (receiveSelector transfer line) line.units.toNat
        later.stock.rows ≠ [] := by
      rintro empty
      simp [empty] at received
    have anotherPositive : 0 < other.units.toNat := by have := other.one_le_units; omega
    obtain ⟨row, first, second⟩ :=
      exists_mem_oldest (by have := line.one_le_units; omega) anotherPositive nonempty
    have isRow := (mem_of_mem_oldest first).1
    have sent := underway.sent_of_received inLines (arrives line inLines) isRow (by
      simp only [receivedIds, takenIds, kind]
      exact List.mem_map_of_mem first)
    have otherSent := underway.sent_of_received otherInLines (arrives other otherInLines) isRow (by
      simp only [receivedIds, takenIds, otherKind, selector]
      exact List.mem_map_of_mem second)
    obtain ⟨after, _, _, arrived⟩ := arrives line inLines
    obtain ⟨moved, isMoved, there⟩ := Checked.output_of_item arrived isRow
    have marked := there.moved line inLines sent _ (markedReceipt_mem inLines) rfl
    have unmarked := there.moved other otherInLines otherSent _ (markedReceipt_mem otherInLines) rfl
    have places := congrArg (·.locationCode) (marked.symm.trans unmarked)
    simp only [locationCode_markedReceipt] at places
    by_contra apart
    rw [if_neg (Ne.symm apart)] at places
    simp at places

/-- When every full receipt puts every row where it should, the dispatched rows are found again by
their lines. -/
theorem Underway.foundAgain (underway : Underway db later transfer now)
    (arrives : ∀ receiveLines, FullReceipt (getLines db transfer.id) receiveLines →
      ArrivesInFull db later transfer officer receiveLines) : FoundAgain db later transfer := by
  have marked : ∀ mark ∈ getLines db transfer.id,
      ArrivesInFull db later transfer officer (markedReceipts mark (getLines db transfer.id)) :=
    fun mark member => arrives _ (fullReceipt_markedReceipts member)
  have alike : ∀ line ∈ getLines db transfer.id, line.lineType = .sku → ∀ unit ∈ db.stock.rows,
      unit.id ∈ sentIds db.stock transfer line → unit.kind = line.kind := by
    intro line inLines _ unit isUnit listed
    obtain ⟨row, isRow, sentFrom⟩ := underway.units line inLines unit isUnit listed
    have received := underway.received_of_sent inLines (marked line inLines) listed
    rw [← sentFrom.id] at received
    have selected := selected_of_mem_takenIds isRow received
    exact sentFrom.kind.symm.trans
      (receiveSelector_inTransitFor (underway.typed inLines) selected).1.kind
  refine ⟨?_, alike, fun line inLines isSku => ?_⟩
  · exact List.Nodup.map_on (fun line inLines other otherInLines same =>
      underway.eq_of_kind marked inLines otherInLines same)
      (underway.lineIds.of_map _)
  · refine (underway.receivedIds_sku inLines isSku (alike line inLines isSku)).mp fun id listed =>
      ?_
    obtain ⟨row, isRow, rfl⟩ := present_of_mem_takenIds listed
    exact underway.sent_of_received inLines (marked line inLines) isRow listed

end Receipt

/-- After a dispatch and any requests that leave its rows and its ledger alone, every full receipt
of the transfer is accepted, ends it and puts the dispatched rows where it asks for, exactly when
its lines find these rows again. -/
theorem dispatched_transfer_received_iff (start db sent later : Db)
    (noTransfers : start.transfers = []) (noLines : start.transferLines = [])
    (noMovements : start.transferMovements = [])
    (reached : Reachable apiStep (fun _ _ => True) start db) (transfer : Transfer)
    (member : transfer ∈ db.transfers) (dispatcher officer : Officer)
    (dispatches : transferStep db (dispatcher.request transfer.id .dispatch) = .ok sent)
    (continued : Reachable apiStep (fun _ _ => True) sent later)
    (left : LeftInTransit db sent later transfer) (may : officer.MayReceive transfer) :
    (∀ receiveLines, FullReceipt (getLines db transfer.id) receiveLines →
      ArrivesInFull db later transfer officer receiveLines) ↔ FoundAgain db later transfer := by
  have sound : TransfersSound db :=
    (TransfersSound.initial noTransfers noLines noMovements).reached reached
  obtain ⟨session, outputs, step⟩ := sound.dispatchStep member dispatches
  have underway : Underway db later transfer dispatcher.context.now :=
    .of_leftInTransit sound member step (sound.transfer dispatches) continued left
  exact ⟨underway.foundAgain, fun found receiveLines full => underway.arrivesInFull found may full⟩

namespace Sample

/-- A trip of two untagged jackets, drafted and dispatched. -/
def jacketsPacked : Db := (runAllowed apiStep (fun _ _ => True) db
  [.system (.transfer (create [{ lineType := .sku, qty := 2, snapshot := jacket }]))]).get
  (by decide +kernel)

def packedTrip : Transfer :=
  { id := 1, tenantId := 1, originStoreId := 10, destinationStoreId := 20, status := .draft,
    createdAt := 100 }

private theorem jacketsSent_commits :
    (transferStep jacketsPacked (officer.request 1 .dispatch)).toOption.isSome = true := by
  decide +kernel

def jacketsSent : Db :=
  (transferStep jacketsPacked (officer.request 1 .dispatch)).toOption.get jacketsSent_commits

private theorem officer_mayReceive : officer.MayReceive packedTrip where
  permitted := rfl
  signed := rfl
  tenant := rfl
  destination := Checked.ensure_eq_ok.mpr (.inl (by decide +kernel))

end Sample

/-- The two jackets arrive on the shelf that the receipt names. -/
theorem dispatched_transfer_received_iff_two_jackets :
    ArrivesInFull Sample.jacketsPacked Sample.jacketsSent Sample.packedTrip Sample.officer
      [{ lineId := 1, qty := 2, locationCode := some "SHELF" }] :=
  (dispatched_transfer_received_iff Sample.db Sample.jacketsPacked Sample.jacketsSent
    Sample.jacketsSent rfl rfl rfl (reachable_of_runAllowed (Option.some_get _).symm)
    Sample.packedTrip (by decide +kernel) Sample.officer Sample.officer
    (Checked.eq_ok_get Sample.jacketsSent_commits) .start ⟨fun _ sent _ => sent, fun _ _ => rfl,
    fun _ _ _ sent _ => sent⟩ Sample.officer_mayReceive).mpr
    ⟨by decide +kernel, by decide +kernel, by decide +kernel⟩ _ (by decide +kernel)

namespace Sample

/-- Two jackets of one SKU at one place, of which one is described. -/
def twoColors : Db :=
  { stores
    stock := ⟨[{ jacket with id := 1, itemUid := 1, tenantId := 1, storeId := some 10,
                             description := some "red" },
      { jacket with id := 2, itemUid := 2, tenantId := 1,
                    storeId := some 10 }], by decide +kernel, by decide +kernel,
      by decide +kernel⟩ }

def colorsPacked : Db := (runAllowed apiStep (fun _ _ => True) twoColors
  [.system (.transfer (create [{ lineType := .sku, qty := 2, snapshot := jacket }]))]).get
  (by decide +kernel)

private theorem colorsSent_commits :
    (transferStep colorsPacked (officer.request 1 .dispatch)).toOption.isSome = true := by
  decide +kernel

def colorsSent : Db :=
  (transferStep colorsPacked (officer.request 1 .dispatch)).toOption.get colorsSent_commits

end Sample

/-- A dispatch takes the jacket without a description, which no receive of its line finds. -/
theorem two_colors_cannot_be_received :
    ¬ ∀ start db sent later : Db, start.transfers = [] → start.transferLines = [] →
    start.transferMovements = [] →
      Reachable apiStep (fun _ _ => True) start db → ∀ transfer ∈ db.transfers,
      ∀ dispatcher officer : Officer,
        transferStep db (dispatcher.request transfer.id .dispatch) = .ok sent →
        Reachable apiStep (fun _ _ => True) sent later → LeftInTransit db sent later transfer →
        officer.MayReceive transfer →
        ∀ receiveLines, FullReceipt (getLines db transfer.id) receiveLines →
          ArrivesInFull db later transfer officer receiveLines := by
  intro arrives
  have reached : Reachable apiStep (fun _ _ => True) Sample.twoColors Sample.colorsPacked :=
    reachable_of_runAllowed (Option.some_get _).symm
  obtain ⟨after, success, _⟩ :=
    arrives Sample.twoColors Sample.colorsPacked Sample.colorsSent Sample.colorsSent rfl rfl rfl
    reached Sample.packedTrip (by decide +kernel) Sample.officer Sample.officer
    (Checked.eq_ok_get Sample.colorsSent_commits) .start ⟨fun _ sent _ => sent, fun _ _ => rfl,
    fun _ _ _ sent _ => sent⟩ Sample.officer_mayReceive [{ lineId := 1, qty := 2 }]
    (by decide +kernel)
  have rejected : (transferStep Sample.colorsSent (Sample.officer.request Sample.packedTrip.id
    (.receive [{ lineId := 1, qty := 2 }]))).toOption.isNone = true := by decide +kernel
  rw [success] at rejected
  contradiction

end ArisCloud

import ArisCloud.Proofs.TransferMovements
import ArisCloud.Proofs.TransferStock

/-! # Units in transit, on the shelf and in the ledger

A unit is told apart by its EPC, or by its SKU and variant when it has none. The rows in transit are
counted per tenant, store and kind of unit; the ledger's side is the outstanding quantity of the
lines of that kind, over the transfers on their way. This module computes what each action adds to
and takes from both sides.
-/

namespace ArisCloud

open KeyedRows Shipments
open Tally (askedQty)

/-- What tells one unit from another. -/
inductive UnitKind
  | epc (code : String)
  | variant (sku description var1Value var2Value : Option String)
deriving DecidableEq, Repr

def StockSnapshot.kind (snapshot : StockSnapshot) : UnitKind :=
  match snapshot.epc with
  | some code => .epc code
  | none => .variant snapshot.sku snapshot.description snapshot.var1Value snapshot.var2Value

/-- The row is in transit, of the given tenant, store and kind. -/
def countsInTransit (tenantId storeId : ℕ) (kind : UnitKind) (row : StockItem) : Bool :=
  row.tenantId = tenantId && row.storeId = some storeId && row.kind = kind && row.inTransit

/-- The rows in transit from a store. -/
def rowsInTransit (rows : List StockItem) (tenantId storeId : ℕ) (kind : UnitKind) : ℤ :=
  rows.countP (countsInTransit tenantId storeId kind)

/-- What the ledger of a transfer has outstanding for the lines of one kind. -/
def outstandingOf (db : Db) (kind : UnitKind) (transfer : Transfer) : ℤ :=
  Tally.sumWhere (fun line => line.kind = kind)
    (fun line => (getMovementTotals db transfer.id).outstanding line.id) (getLines db transfer.id)

def shipsFrom (tenantId storeId : ℕ) (transfer : Transfer) : Bool :=
  transfer.tenantId = tenantId && transfer.originStoreId = storeId

/-- What the ledger has outstanding over the transfers on their way from a store. -/
def ledgerInTransit (db : Db) (tenantId storeId : ℕ) (kind : UnitKind) : ℤ :=
  Tally.sumWhere (fun transfer => transfer.status.isEnRoute && shipsFrom tenantId storeId transfer)
    (outstandingOf db kind) db.transfers

/-! ## The ledger's side -/

/-- The kind of units that a line of a transfer stands for. -/
def lineKind (db : Db) (transferId lineId : ℕ) : Option UnitKind :=
  ((getLines db transferId).find? fun line => line.id = lineId).map (·.kind)

/-- What an action asks for units of one kind. -/
def askedOfKind (db : Db) (transferId : ℕ) (kind : UnitKind) (asked : List (ℕ × ℤ)) : ℤ :=
  Tally.sumWhere (fun item => lineKind db transferId item.1 = some kind) (·.2) asked

theorem lineKind_of_mem {db : Db} (lineIds : (db.transferLines.map (·.id)).Nodup) {transferId : ℕ}
    {line : TransferLine} (member : line ∈ getLines db transferId) :
    lineKind db transferId line.id = some line.kind := by
  have distinct : ((getLines db transferId).map (·.id)).Nodup :=
    lineIds.sublist (List.filter_sublist.map _)
  cases found : (getLines db transferId).find? fun other => other.id = line.id with
  | none => exact absurd (List.find?_eq_none.mp found line member) (by simp)
  | some other =>
    have same : other.id = line.id := by simpa using List.find?_some found
    rw [lineKind, found, eq_of_key_eq distinct (List.mem_of_find?_eq_some found) member same]
    rfl

private theorem any_line_eq_lineKind {db : Db} (lineIds : (db.transferLines.map (·.id)).Nodup)
    (transferId lineId : ℕ) (kind : UnitKind) :
    ((getLines db transferId).any fun line => line.id = lineId && line.kind = kind) =
      decide (lineKind db transferId lineId = some kind) := by
  rw [Bool.eq_iff_iff, List.any_eq_true, decide_eq_true_eq]
  simp only [Bool.and_eq_true, decide_eq_true_eq]
  constructor
  · rintro ⟨line, member, rfl, rfl⟩
    exact lineKind_of_mem lineIds member
  · intro named
    obtain ⟨line, found, rfl⟩ := Option.map_eq_some_iff.mp named
    exact ⟨line, List.mem_of_find?_eq_some found, by simpa using List.find?_some found, rfl⟩

/-- What an action on a line does to its outstanding quantity. -/
def MovementAction.sign : MovementAction → ℤ
  | .dispatch => 1
  | .receive | .shortageResolvedLostInRoute => -1
  | .shortageReported | .shortageResolvedFoundAndResend => 0

theorem outstanding_post (ledger : Ledger) (quantity : ℤ) (action : MovementAction) :
    (ledger.post quantity action.entry).outstanding = ledger.outstanding + action.sign *
    quantity := by
  cases action <;>
    simp only [MovementAction.entry, Ledger.post, Ledger.outstanding, MovementAction.sign] <;> ring

/-- Movements of one transfer change the outstanding quantity of a kind by what was asked for it. -/
theorem outstandingOf_writes {db after : Db} {transfer : Transfer} {action : MovementAction}
    {asked : List (ℕ × ℤ)} {movements : List TransferMovement}
    (lineIds : (db.transferLines.map (·.id)).Nodup) (lines : after.transferLines = db.transferLines)
    (writes : Writes transfer.id action asked movements)
    (appended : after.transferMovements = db.transferMovements ++ movements) (kind : UnitKind)
    (other : Transfer) :
    outstandingOf after kind other = outstandingOf db kind other +
      if other.id = transfer.id then action.sign * askedOfKind db transfer.id kind asked
      else 0 := by
  have sameLines : getLines after other.id = getLines db other.id := by
    rw [getLines, lines, getLines]
  have ledger (lineId : ℕ) : (getMovementTotals after other.id).outstanding lineId =
      (getMovementTotals db other.id).outstanding lineId +
        if other.id = transfer.id then action.sign * askedQty asked lineId else 0 := by
    rw [← outstanding_shipmentLedger, writes.shipmentLedger appended]
    split
    · rw [outstanding_post, outstanding_shipmentLedger]
    · rw [add_zero, outstanding_shipmentLedger]
  simp only [outstandingOf, sameLines, ledger]
  rw [Tally.sumWhere_add]
  congr 1
  by_cases own : other.id = transfer.id
  · have distinct : ((getLines db transfer.id).map (·.id)).Nodup :=
      lineIds.sublist (List.filter_sublist.map _)
    simp only [own, if_true, askedOfKind, ← any_line_eq_lineKind lineIds]
    rw [← Tally.sumWhere_sumWhere distinct, ← Tally.sumWhere_mul_left]
    rfl
  · simp only [own, if_false]
    exact Tally.sumWhere_eq_zero fun _ _ _ => rfl

/-- The share of a transfer in the ledger of a store and kind. -/
def ledgerShare (db : Db) (tenantId storeId : ℕ) (kind : UnitKind) (transfer : Transfer) : ℤ :=
  if transfer.status.isEnRoute && shipsFrom tenantId storeId transfer then outstandingOf db kind
    transfer else 0

/-- Changing one transfer exchanges its share of the ledger. -/
theorem ledgerInTransit_update {db after : Db} {transfer : Transfer} {change : Transfer → Transfer}
    (distinct : (db.transfers.map (·.id)).Nodup) (member : transfer ∈ db.transfers)
    (transfers : after.transfers = update Transfer.id [transfer.id] change db.transfers)
    (tenantId storeId : ℕ) (kind : UnitKind)
    (others : ∀ other ∈ db.transfers, other.id ≠ transfer.id → outstandingOf after kind other =
      outstandingOf db kind other) :
    ledgerInTransit after tenantId storeId kind = ledgerInTransit db tenantId storeId kind -
      ledgerShare db tenantId storeId kind transfer + ledgerShare after tenantId storeId kind
      (change transfer) := by
  rw [ledgerInTransit, transfers, update_singleton]
  exact Tally.sumWhere_update distinct member others

/-! ## The side of the stock -/

/-- Rows in transit for a transfer, of one kind and as many as a quantity. -/
structure Carries (rows : List StockItem) (transfer : Transfer) (kind : Option UnitKind) (qty : ℤ)
    (keys : List ℕ) :
    Prop where
  unrepeated : keys.Nodup
  length : keys.length = qty
  present : ∀ k ∈ keys, k ∈ rows.map (·.id)
  counted : ∀ row ∈ rows, row.id ∈ keys → row.tenantId = transfer.tenantId ∧
    row.storeId = some transfer.originStoreId ∧ kind = some row.kind ∧ row.inTransit = true

section Leaving

variable {rows : List StockItem} {transfer : Transfer} {ω : Type*} {outputs : List ω}
    {keys : ω → List ℕ}
  {kindOf : ω → Option UnitKind} {qty : ω → ℤ}

theorem Carries.countsInTransit {kind : Option UnitKind} {quantity : ℤ} {ids : List ℕ}
    (carries : Carries rows transfer kind quantity ids) (tenantId storeId : ℕ) (counted : UnitKind)
    {row : StockItem} (member : row ∈ rows) (listed : row.id ∈ ids) :
    countsInTransit tenantId storeId counted row = (shipsFrom tenantId storeId transfer &&
      kind = some counted) := by
  obtain ⟨tenant, store, rfl, transit⟩ := carries.counted row member listed
  simp [ArisCloud.countsInTransit, shipsFrom, tenant, store, transit]

theorem Carries.disjoint {kind other : Option UnitKind} {quantity more : ℤ} {ids others : List ℕ}
    (carries : Carries rows transfer kind quantity ids)
    (another : Carries rows transfer other more others) (apart : kind ≠ other) :
    ids.Disjoint others := by
  intro id member shared
  obtain ⟨row, inRows, rfl⟩ := List.mem_map.mp (carries.present id member)
  obtain ⟨_, _, first, _⟩ := carries.counted row inRows member
  obtain ⟨_, _, second, _⟩ := another.counted row inRows shared
  exact apart (first.trans second.symm)

private theorem carries_pairwise
    (carries : ∀ output ∈ outputs, Carries rows transfer (kindOf output) (qty output) (keys output))
    (kinds : outputs.Pairwise fun output later => kindOf output ≠ kindOf later) :
    outputs.Pairwise fun output later => (keys output).Disjoint (keys later) :=
  kinds.imp_of_mem fun first second apart => (carries _ first).disjoint (carries _ second) apart

/-- The rows in transit that leave by changes of pairwise different kinds. -/
theorem rowsInTransit_leave (edit : ω → Edit StockItem.id) (distinct : (rows.map (·.id)).Nodup)
    (carries : ∀ output ∈ outputs, Carries rows transfer (kindOf output) (qty output)
      (edit output).keys)
    (kinds : outputs.Pairwise fun output later => kindOf output ≠ kindOf later)
    (lands : ∀ output ∈ outputs, ∀ row, ((edit output).change row).inTransit = false)
    (tenantId storeId : ℕ) (kind : UnitKind) :
    rowsInTransit (rows.map (editRow (outputs.map edit))) tenantId storeId kind =
    rowsInTransit rows tenantId storeId kind -
      if shipsFrom tenantId storeId transfer then Tally.sumWhere
      (fun output => kindOf output = some kind) qty outputs
      else 0 := by
  have counted := countP_editRow outputs edit distinct
    (fun output member => (carries output member).unrepeated)
    (fun output member => (carries output member).present) (carries_pairwise carries kinds)
    (fun output member row inRows listed =>
    (carries output member).countsInTransit tenantId storeId kind inRows listed)
    (fun output member row _ _ => show countsInTransit tenantId storeId kind _ = false by
      simp [countsInTransit, lands output member row])
  rw [rowsInTransit, counted, rowsInTransit, sub_eq_add_neg, ← Tally.sum_map_share, ← neg_one_mul,
    ← List.sum_map_mul_left]
  congr 2
  refine List.map_congr_left fun output member => ?_
  rw [(carries output member).length]
  simp

/-- The rows in transit that are removed in groups of pairwise different kinds. -/
theorem rowsInTransit_remove (distinct : (rows.map (·.id)).Nodup)
    (carries : ∀ output ∈ outputs, Carries rows transfer (kindOf output) (qty output) (keys output))
    (kinds : outputs.Pairwise fun output later => kindOf output ≠ kindOf later)
    (tenantId storeId : ℕ) (kind : UnitKind) :
    rowsInTransit (rows.filter fun row => decide (row.id ∉ outputs.flatMap keys)) tenantId
    storeId kind =
      rowsInTransit rows tenantId storeId kind -
        if shipsFrom tenantId storeId transfer then Tally.sumWhere
        (fun output => kindOf output = some kind) qty outputs
        else 0 := by
  have counted := countP_removeAll outputs keys distinct
    (fun output member => (carries output member).unrepeated)
    (fun output member => (carries output member).present) (carries_pairwise carries kinds)
    (fun output member row inRows listed =>
    (carries output member).countsInTransit tenantId storeId kind inRows listed)
  rw [rowsInTransit, counted, rowsInTransit, ← Tally.sum_map_share]
  congr 2
  refine List.map_congr_left fun output member => ?_
  rw [(carries output member).length]

/-- Rows outside that enter transit for a transfer by disjoint changes. -/
theorem rowsInTransit_enter (edit : ω → Edit StockItem.id) (distinct : (rows.map (·.id)).Nodup)
    (unrepeated : ∀ output ∈ outputs, (edit output).keys.Nodup)
    (length : ∀ output ∈ outputs, ((edit output).keys.length : ℤ) = qty output)
    (present : ∀ output ∈ outputs, ∀ k ∈ (edit output).keys, k ∈ rows.map (·.id))
    (disjoint : outputs.Pairwise fun output later => (edit output).keys.Disjoint (edit later).keys)
    (outside : ∀ output ∈ outputs, ∀ row ∈ rows, row.id ∈ (edit output).keys →
      row.inTransit = false)
    (enters : ∀ output ∈ outputs, ∀ row ∈ rows, row.id ∈ (edit output).keys →
      ((edit output).change row).tenantId = transfer.tenantId ∧
      ((edit output).change row).storeId = some transfer.originStoreId ∧
      kindOf output = some ((edit output).change row).kind ∧ ((edit output).change row).inTransit =
      true)
    (tenantId storeId : ℕ) (kind : UnitKind) :
    rowsInTransit (rows.map (editRow (outputs.map edit))) tenantId storeId kind =
      rowsInTransit rows tenantId storeId kind +
      if shipsFrom tenantId storeId transfer then Tally.sumWhere
      (fun output => kindOf output = some kind) qty outputs
      else 0 := by
  have counted := countP_editRow outputs edit distinct unrepeated present disjoint
    (fun output member row inRows listed => show countsInTransit tenantId storeId kind row =
    false by
      simp [ArisCloud.countsInTransit, outside output member row inRows listed])
    (fun output member row inRows listed => show countsInTransit tenantId storeId kind _ =
        (shipsFrom tenantId storeId transfer && kindOf output = some kind) by
      obtain ⟨tenant, store, same, transit⟩ := enters output member row inRows listed
      simp [ArisCloud.countsInTransit, shipsFrom, tenant, store, same, transit])
  rw [rowsInTransit, counted, rowsInTransit, ← Tally.sum_map_share]
  congr 2
  refine List.map_congr_left fun output member => ?_
  rw [length output member]
  simp

end Leaving

/-! ## What the selectors of rows in transit select -/

/-- The line type says whether the line names an EPC. -/
def TransferLine.Typed (line : TransferLine) : Prop := line.lineType = .sku ↔ line.epc = none

theorem TransferLine.Typed.named {line : TransferLine} (typed : line.Typed)
    (isEpc : line.lineType = .epc) :
    ∃ epc, line.epc = some epc := by
  refine Option.ne_none_iff_exists'.mp fun untagged => ?_
  rw [typed.mpr untagged] at isEpc
  contradiction

theorem kind_of_tag {row line : StockSnapshot} {epc : String} (tag : row.epc = some epc)
    (named : line.epc = some epc) :
    row.kind = line.kind := by
  simp only [StockSnapshot.kind, tag, named]

theorem epc_of_kind {row line : StockSnapshot} (same : row.kind = line.kind) :
    row.epc = line.epc := by
  unfold StockSnapshot.kind at same
  split at same <;> split at same
  · next tag _ _ named => rw [tag, named, UnitKind.epc.inj same]
  · contradiction
  · contradiction
  · next untagged _ unnamed => rw [untagged, unnamed]

private theorem kind_of_inTransitSkuFilters {tenantId : ℕ} {inOrigin : Option ℕ → Bool}
    {line : StockSnapshot} {row : StockItem}
    (selected : inTransitSkuFilters tenantId inOrigin line row = true)
    (untagged : line.epc = none) :
    row.kind = line.kind := by
  obtain ⟨_, _, tag, sku, description, var1, var2, _⟩ := inTransitSkuFilters_eq_true selected
  simp only [StockSnapshot.kind, tag, untagged, sku, description, var1, var2]

/-- The rows an action on a transfer finds in transit for a line. -/
structure InTransitFor (transfer : Transfer) (line : TransferLine) (row : StockItem) : Prop where
  tenant : row.tenantId = transfer.tenantId
  kind : row.kind = line.kind
  transit : row.inTransit = true

theorem receiveSelector_inTransitFor {transfer : Transfer} {line : TransferLine} {row : StockItem}
    (typed : line.Typed) (selected : receiveSelector transfer line row = true) :
    InTransitFor transfer line row ∧
    (row.storeId = some transfer.originStoreId ∨ row.storeId = none) := by
  unfold receiveSelector at selected
  cases kind : line.lineType with
  | sku =>
    simp only [kind] at selected
    obtain ⟨tenant, store, _, _, _, _, _, transit⟩ := inTransitSkuFilters_eq_true selected
    exact ⟨⟨tenant, kind_of_inTransitSkuFilters selected (typed.mp kind), transit⟩,
      .inl (of_decide_eq_true store)⟩
  | epc =>
    obtain ⟨epc, named⟩ := typed.named kind
    simp only [kind, named, Option.getD_some, Bool.and_eq_true, Bool.or_eq_true, decide_eq_true_eq,
      epcFilters_eq_true] at selected
    obtain ⟨⟨⟨tenant, tag⟩, store⟩, transit⟩ := selected
    exact ⟨⟨tenant, kind_of_tag tag named, transit⟩, store⟩

theorem lostSelector_inTransitFor {transfer : Transfer} {line : TransferLine} {row : StockItem}
    (typed : line.Typed) (selected : lostSelector transfer line row = true) :
    InTransitFor transfer line row ∧
      (line.epc = none → row.storeId = some transfer.originStoreId ∨ row.storeId = none) := by
  unfold lostSelector at selected
  cases kind : line.lineType with
  | sku =>
    simp only [kind] at selected
    obtain ⟨tenant, store, _, _, _, _, _, transit⟩ := inTransitSkuFilters_eq_true selected
    exact ⟨⟨tenant, kind_of_inTransitSkuFilters selected (typed.mp kind), transit⟩,
      fun _ => by simpa using store⟩
  | epc =>
    obtain ⟨epc, named⟩ := typed.named kind
    simp only [kind, named, Bool.and_eq_true, decide_eq_true_eq] at selected
    obtain ⟨⟨tenant, tag⟩, transit⟩ := selected
    exact ⟨⟨tenant, kind_of_tag tag named, transit⟩,
      fun untagged => by rw [named] at untagged; contradiction⟩

theorem dispatchSelector_row {transfer : Transfer} {line : TransferLine} {row : StockItem}
    (typed : line.Typed) (selected : dispatchSelector transfer line row = true) :
    row.tenantId = transfer.tenantId ∧ row.epc = line.epc ∧
      (line.lineType = .sku → row.storeId = some transfer.originStoreId ∧
        (line.inTransit = true → row.inTransit = true)) := by
  unfold dispatchSelector at selected
  cases kind : line.lineType with
  | sku =>
    simp only [kind] at selected
    obtain ⟨tenant, store, tag, _, location, pool⟩ := transferSkuFilters_eq_true selected
    refine ⟨tenant, tag.trans (typed.mp kind).symm, fun _ => ⟨store, fun transit => ?_⟩⟩
    simp only [StockSnapshot.inTransit, Bool.and_eq_true, decide_eq_true_eq] at transit ⊢
    exact ⟨location _ transit.1, pool _ transit.2⟩
  | epc =>
    obtain ⟨epc, named⟩ := typed.named kind
    simp only [kind, named, Option.getD_some, epcFilters_eq_true] at selected
    exact ⟨selected.1, selected.2.trans named.symm, nofun⟩

theorem cancelSelector_inTransitFor {transfer : Transfer} {line : TransferLine} {row : StockItem}
    (typed : line.Typed) (selected : cancelSelector transfer line row = true) :
    InTransitFor transfer line row ∧ row.storeId = some transfer.originStoreId := by
  unfold cancelSelector at selected
  cases kind : line.lineType with
  | sku =>
    simp only [kind] at selected
    obtain ⟨tenant, store, _, _, _, _, _, transit⟩ := inTransitSkuFilters_eq_true selected
    exact ⟨⟨tenant, kind_of_inTransitSkuFilters selected (typed.mp kind), transit⟩,
      of_decide_eq_true store⟩
  | epc =>
    obtain ⟨epc, named⟩ := typed.named kind
    simp only [kind, named, Option.getD_some, Bool.and_eq_true, decide_eq_true_eq,
      epcFilters_eq_true] at selected
    obtain ⟨⟨⟨tenant, tag⟩, store⟩, transit⟩ := selected
    exact ⟨⟨tenant, kind_of_tag tag named, transit⟩, store⟩

/-! ## Claims and new lines -/

/-- Claiming rows without a store changes nothing in transit, where every row has one. -/
theorem StockSession.Claims.countsInTransit {session : StockSession} {table : StockTable}
    {storeId : ℕ} (claims : session.Claims table storeId)
    (held : ∀ row ∈ table.rows, row.inTransit = true → row.storeId ≠ none)
    (tenantId counted : ℕ) (kind : UnitKind) {row : StockItem} (member : row ∈ table.rows) :
    countsInTransit tenantId counted kind (session.current row) =
    countsInTransit tenantId counted kind row := by
  rcases claims.current member with same | ⟨⟨unheld, _⟩, same⟩
  · rw [same]
  · have settled : row.inTransit = false := by
      by_contra transit
      exact held row member (by simpa using transit) unheld
    rw [same]
    simp [ArisCloud.countsInTransit, claimFor, settled]

theorem StockSession.Claims.rowsInTransit {session : StockSession} {table : StockTable}
    {storeId : ℕ} (claims : session.Claims table storeId)
    (held : ∀ row ∈ table.rows, row.inTransit = true → row.storeId ≠ none)
    (tenantId counted : ℕ) (kind : UnitKind) :
    rowsInTransit (table.rows.map session.current) tenantId counted kind =
    rowsInTransit table.rows tenantId counted kind := by
  rw [ArisCloud.rowsInTransit, ArisCloud.rowsInTransit, List.countP_map]
  congr 1
  exact List.countP_congr fun row member => by
    rw [Function.comp_apply, claims.countsInTransit held tenantId counted kind member]

/-- New lines have new identifiers, pairwise distinct. -/
theorem nodup_ids_append_newTransferLines {db : Db} {kept : List TransferLine}
    (tenantId transferId : ℕ) (normalized : List NormalizedLine)
    (distinct : (db.transferLines.map (·.id)).Nodup) (sub : kept.Sublist db.transferLines) :
    ((kept ++ newTransferLines db tenantId transferId normalized).map (·.id)).Nodup := by
  rw [List.map_append]
  refine List.nodup_append.mpr ⟨distinct.sublist (sub.map _), ?_, ?_⟩
  · have ids : (newTransferLines db tenantId transferId normalized).map (·.id) =
        (List.range normalized.length).map (db.freshTransferLineId + ·) := by
      refine List.ext_getElem (by simp [newTransferLines]) fun index _ _ => ?_
      simp [newTransferLines]
    rw [ids]
    exact List.nodup_range.map fun _ _ same => Nat.add_left_cancel same
  · intro id old other new
    obtain ⟨before, isBefore, rfl⟩ := List.mem_map.mp old
    obtain ⟨line, isNew, rfl⟩ := List.mem_map.mp new
    have := db.id_lt_freshTransferLineId (sub.subset isBefore)
    have := (mem_newTransferLines isNew).2.2.1
    omega

/-- New lines of one transfer, next to the lines of the others, do not change what the others
have. -/
theorem getLines_append_newTransferLines {db after : Db} {kept : List TransferLine}
    {tenantId transferId other : ℕ} {normalized : List NormalizedLine}
    (lines : after.transferLines = kept ++ newTransferLines db tenantId transferId normalized)
    (apart : other ≠ transferId)
    (same : (kept.filter fun line => line.transferId = other) = getLines db other) :
    getLines after other = getLines db other := by
  have none : (newTransferLines db tenantId transferId normalized).filter
      (fun line => line.transferId = other) = [] := by
    refine List.filter_eq_nil_iff.mpr fun line isNew => ?_
    obtain ⟨_, owner, _⟩ := mem_newTransferLines isNew
    simpa [owner] using apart.symm
  rw [getLines, lines, List.filter_append, none, List.append_nil, same]

theorem filter_transferId_of_ne {lines : List TransferLine} {transferId other : ℕ}
    (apart : other ≠ transferId) :
    (lines.filter fun line => line.transferId ≠ transferId).filter
    (fun line => line.transferId = other) =
      lines.filter fun line => line.transferId = other := by
  rw [List.filter_filter]
  refine List.filter_congr fun line _ => ?_
  by_cases own : line.transferId = other
  · simp [own, apart]
  · simp [own]

theorem outstandingOf_congr {db after : Db}
    (movements : after.transferMovements = db.transferMovements)
    {transfer : Transfer} (lines : getLines after transfer.id = getLines db transfer.id)
    (kind : UnitKind) :
    outstandingOf after kind transfer = outstandingOf db kind transfer := by
  simp only [outstandingOf, getMovementTotals, movements, lines]

end ArisCloud

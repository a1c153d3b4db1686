import ArisCloud.Model.StockIntake
import ArisCloud.Proofs.SoldStock

/-! # What each stock request commits

One inversion lemma per request of the stock router: the row it found, the checks that passed, and
every table it wrote. Results about runs of stock requests rest on these statements and never unfold
a request.
-/

namespace ArisCloud

open KeyedRows

/-! ## Writing the stock -/

namespace StockSession

variable {flushed table : StockTable}

theorem commit_assign {ids : List ℕ} {change : StockItem → StockItem} {stable}
    (committed : (assign { flushed } ids change stable).commit = .ok table) :
    table.rows = update (·.id) ids change flushed.rows := by
  rw [commit_eq_ok committed, rowsAfter_of_edits_only rfl rfl, update]
  exact List.map_congr_left fun row _ => current_assign

private theorem commit_delete {ids : List ℕ}
    (committed : (delete { flushed } ids).commit = .ok table) :
    table.rows = flushed.rows.filter fun row => decide (row.id ∉ ids) := by
  rw [commit_eq_ok committed, rowsAfter_of_deletions_only rfl rfl]
  rfl

theorem commit_added {added : List StockItem} (committed : commit { flushed, added } = .ok table) :
    table.rows = flushed.rows ++ added := by
  rw [commit_eq_ok committed, rowsAfter_of_kept rfl]
  exact congrArg (· ++ added) (List.map_id flushed.rows)

end StockSession

theorem commitStockItems_eq_ok {session : StockSession} {table : StockTable} :
    commitStockItems session = .ok table ↔ session.commit = .ok table := by
  unfold commitStockItems
  cases session.commit <;> simp

private theorem commitPreloadEpcWrite_eq_ok {session : StockSession} {table : StockTable} :
    commitPreloadEpcWrite session = .ok table ↔ session.commit = .ok table := by
  unfold commitPreloadEpcWrite
  cases session.commit <;> simp

/-- Only stock rows were rewritten. -/
structure Rewritten (db after : Db) (ids : List ℕ) (change : StockItem → StockItem) : Prop where
  tables : after = { db with stock := after.stock }
  rows : after.stock.rows = update (·.id) ids change db.stock.rows

/-! ## Identifiers -/

theorem stockItem_id_lt_fresh {db : Db} {row : StockItem} (member : row ∈ db.stock.rows) :
    row.id < db.freshStockItemId :=
  lt_freshId (List.mem_append_left _ (List.mem_map_of_mem (f := (·.id)) member))

theorem savedStockItemId_lt_fresh {db : Db} {line : PreloadLine} (member : line ∈ db.preloadLines)
    {id : ℕ} (saved : line.savedStockItemId = some id) : id < db.freshStockItemId :=
  lt_freshId (List.mem_append_right _ (List.mem_filterMap.mpr ⟨line, member, saved⟩))

theorem preloadLine_itemUid_lt_fresh {db : Db} {line : PreloadLine}
    (member : line ∈ db.preloadLines) :
    line.itemUid < db.freshItemUid := by
  apply lt_freshId
  simp only [List.mem_append, List.mem_map]
  exact .inl (.inl (.inr ⟨line, member, rfl⟩))

theorem assignment_id_lt_fresh {db : Db} {assignment : EpcAssignment}
    (member : assignment ∈ db.epcAssignments) :
    assignment.id < freshId (db.epcAssignments.map (·.id)) :=
  lt_freshId (List.mem_map_of_mem (f := (·.id)) member)

/-! ## Imports -/

/-- Rows that entered the stock: none is sold and no tag of theirs is assigned. -/
structure Imported (db after : Db) (items : List StockItem) : Prop where
  tables : after = { db with stock := after.stock }
  rows : after.stock.rows = db.stock.rows ++ items
  fresh : ∀ item ∈ items, db.freshStockItemId ≤ item.id
  status : ∀ item ∈ items, item.status = some "RFID" ∨ item.status = some "PENDING"
  itemStatus : ∀ item ∈ items, item.itemStatus = "PENDING"
  epcStatus : ∀ item ∈ items, item.epcStatus = "AVAILABLE"

/-- The rows made of imported lines are imported, whatever their tags. -/
theorem imported_of_commit {db : Db} {context : RequestContext} {tenantId : ℕ} {status : String}
    {stock : StockTable} {lines : List StockImportLine} {items : List StockItem}
    (tag : StockImportLine → Option String) (known : status = "RFID" ∨ status = "PENDING")
    (made : items = lines.mapIdx fun index line => importedItem db context tenantId status
      (tag line) line index)
    (committed : commitStockItems { flushed := db.stock, added := items } = .ok stock) :
    Imported db { db with stock } items := by
  refine ⟨rfl, StockSession.commit_added (commitStockItems_eq_ok.mp committed), ?_, ?_, ?_, ?_⟩
  all_goals
    intro item member
    rw [made] at member
    obtain ⟨index, bound, rfl⟩ := List.mem_iff_getElem.mp member
    rw [List.getElem_mapIdx]
  · exact Nat.le_add_right _ _
  · exact known.imp (congrArg some) (congrArg some)
  · rfl
  · rfl

private theorem importStockEpc_ok {db after : Db} {context : RequestContext}
    {payload : StockImportRequest} (success : importStockEpc db context payload = .ok after) :
    ∃ items, Imported db after items := by
  simp only [importStockEpc, Checked.bind_eq_ok, Checked.ensure_eq_ok, exists_const,
    Checked.pure_eq_ok] at success
  obtain ⟨_, _, _, _, _, _, tenantId, _, _, _, _, _, stock, committed, rfl⟩ := success
  exact ⟨_, imported_of_commit (·.epc) (.inl rfl) rfl committed⟩

private theorem importStockSku_ok {db after : Db} {context : RequestContext}
    {payload : StockImportRequest} (success : importStockSku db context payload = .ok after) :
    ∃ items, Imported db after items := by
  simp only [importStockSku, Checked.bind_eq_ok, Checked.ensure_eq_ok, exists_const,
    Checked.pure_eq_ok] at success
  obtain ⟨_, _, _, _, _, _, tenantId, _, _, _, _, stock, committed, rfl⟩ := success
  exact ⟨_, imported_of_commit (fun _ => none) (.inr rfl) rfl committed⟩

/-! ## Migration -/

/-- An untagged pending row that got a tag. -/
structure Migrated (db after : Db) (payload : StockMigrateRequest) (row : StockItem) : Prop where
  member : row ∈ db.stock.rows
  pending : row.status = some "PENDING"
  untagged : row.epc = none
  written : Rewritten db after [row.id] (migratedRow payload)

private theorem migrateStockSkuToEpc_ok {db after : Db} {context : RequestContext}
    {payload : StockMigrateRequest}
    (success : migrateStockSkuToEpc db context payload = .ok after) :
    ∃ row, Migrated db after payload row := by
  simp only [migrateStockSkuToEpc, Checked.bind_eq_ok] at success
  obtain ⟨_, _, _, _, _, _, tenantId, _, _, _, _, _, _, _, _, _, _, _, written⟩ := success
  split at written
  · simp at written
  · next pendingRow _ selected =>
    simp only [Checked.bind_eq_ok, Checked.pure_eq_ok] at written
    obtain ⟨stock, committed, rfl⟩ := written
    have isOldest : pendingRow ∈ oldest (·.createdAt)
        (pendingMigrationFilters tenantId payload.data) 1 db.stock.rows := by
      have first := selected ▸ List.mem_cons_self (a := pendingRow)
      rw [StockSession.select] at first
      obtain ⟨row, isOldest, rfl⟩ := List.mem_map.mp first
      exact isOldest
    obtain ⟨member, matching⟩ := mem_of_mem_oldest isOldest
    simp only [pendingMigrationFilters, Bool.and_eq_true, decide_eq_true_eq] at matching
    obtain ⟨⟨⟨⟨⟨⟨⟨⟨⟨_, pending⟩, untagged⟩, _⟩, _⟩, _⟩, _⟩, _⟩, _⟩, _⟩ := matching
    exact ⟨pendingRow, member, pending, untagged, rfl, StockSession.commit_assign committed⟩

/-! ## Stock actions -/

private theorem rowOfEpc_eq_ok {db : Db} {tenantId : ℕ} {epc : String} {row : StockItem}
    (found : rowOfEpc db tenantId epc = .ok row) :
    row ∈ db.stock.rows ∧ row.tenantId = tenantId ∧ row.epc = some epc := by
  rw [rowOfEpc, Checked.fetch_eq_ok] at found
  have matching := List.find?_some found
  simp only [Bool.and_eq_true, decide_eq_true_eq] at matching
  exact ⟨List.mem_of_find?_eq_some found, matching⟩

/-- The tag that an action takes a row by. -/
def StockAction.tag : StockAction → Option String
  | .writeOff _ _ data => data.epc
  | .replaceEpc currentEpc _ => some currentEpc
  | .epcLifecycle _ epc _ => some epc
  | .reprice _ | .markdownByAge _ | .reprintLabel _ => none

/-- Rows that left the stock: unsold ones under the tag of the action, or untagged ones. -/
structure WrittenOff (db after : Db) (tenantId : ℕ) (tag : Option String) (ids : List ℕ) :
    Prop where
  tables : after = { db with stock := after.stock }
  rows : after.stock.rows = db.stock.rows.filter fun row => decide (row.id ∉ ids)
  tenant : ∀ row ∈ db.stock.rows, row.id ∈ ids → row.tenantId = tenantId
  tagged : ∀ row ∈ db.stock.rows, row.id ∈ ids → row.epc = tag
  unsold : ∀ row ∈ db.stock.rows, row.id ∈ ids → row.status ≠ some "SOLD"

theorem writeOff_ok {db after : Db} {tenantId : ℕ} {reason : Option String} {qty : ℤ}
    {data : StockDataBlock} (success : writeOff db tenantId reason qty data = .ok after) : ∃ ids,
    WrittenOff db after tenantId data.epc ids := by
  simp only [writeOff, Checked.bind_eq_ok, Checked.ensure_eq_ok, exists_const] at success
  obtain ⟨_, _, known, _, _, written⟩ := success
  have unsold : data.status ≠ some "SOLD" := by
    rintro sold
    simp [sold] at known
  split at written
  · simp only [Checked.bind_eq_ok, Checked.ensure_eq_ok, Checked.fetch_eq_ok, exists_const,
      Checked.pure_eq_ok, Option.filter_eq_some_iff] at written
    obtain ⟨_, epc, ⟨named, _⟩, _, _, row, found, agrees, stock, committed, rfl⟩ := written
    obtain ⟨member, tenant, tag⟩ := rowOfEpc_eq_ok found
    have only : ∀ other ∈ db.stock.rows, other.id ∈ [row.id] → other = row :=
      fun other isRow listed =>
      eq_of_key_eq db.stock.distinctIds isRow member (List.mem_singleton.mp listed)
    refine ⟨[row.id], rfl, StockSession.commit_delete committed, ?_, ?_, ?_⟩
    all_goals
      intro other isRow listed
      rw [only other isRow listed]
    · exact tenant
    · rw [tag, named]
    · rw [agrees.2.2.1]
      exact unsold
  · simp only [Checked.bind_eq_ok, Checked.ensure_eq_ok, exists_const,
      Checked.pure_eq_ok] at written
    obtain ⟨_, enough, stock, committed, rfl⟩ := written
    let session : StockSession := { flushed := db.stock }
    have picks := session.picks_select (stockMatchFilter tenantId data) qty.toNat
      (Int.toNat_le.mpr enough)
    have matching : ∀ row ∈ db.stock.rows, row.id ∈ _ → stockMatchFilter tenantId data row = true :=
      fun row member listed =>
      picks.holds db.stock.distinctIds member listed
    simp only [stockMatchFilter, Bool.and_eq_true, decide_eq_true_eq] at matching
    refine ⟨_, rfl, StockSession.commit_delete committed, ?_, ?_, ?_⟩
    · exact fun row member listed => (matching row member listed).1.1.1.1.1.1.1.1.1.1.1
    · exact fun row member listed => (matching row member listed).1.1.1.1.1.1.2
    · intro row member listed
      rw [(matching row member listed).1.1.2]
      exact unsold

/-- The tagged row that an action found, in stock under its tag, and what was made of it. -/
structure TagTaken (db after : Db) (tenantId : ℕ) (tag : Option String)
    (change : StockItem → StockItem) (row : StockItem) : Prop where
  member : row ∈ db.stock.rows
  tenant : row.tenantId = tenantId
  tagged : row.epc = tag
  inStock : row.status = some "RFID"
  written : Rewritten db after [row.id] change

theorem replaceEpc_ok {db after : Db} {tenantId : ℕ} {currentEpc newEpc : String}
    (success : replaceEpc db tenantId currentEpc newEpc = .ok after) :
    ∃ row, TagTaken db after tenantId (some currentEpc)
    (fun row => { row with epc := some newEpc }) row := by
  simp only [replaceEpc, Checked.bind_eq_ok, Checked.ensure_eq_ok, exists_const,
    Checked.pure_eq_ok] at success
  obtain ⟨_, _, _, _, _, _, _, row, found, inStock, stock, committed, rfl⟩ := success
  obtain ⟨member, tenant, tag⟩ := rowOfEpc_eq_ok found
  exact ⟨row, member, tenant, tag, inStock, rfl, StockSession.commit_assign committed⟩

theorem epcLifecycle_ok {db after : Db} {tenantId : ℕ} {action : EpcLifecycle} {epc : String}
    {epcType : Option EpcType} (success : epcLifecycle db tenantId action epc epcType = .ok after) :
    ∃ row, TagTaken db after tenantId (some epc) untagRow row := by
  simp only [epcLifecycle, Checked.bind_eq_ok, Checked.ensure_eq_ok, exists_const,
    Checked.pure_eq_ok] at success
  obtain ⟨_, _, row, found, inStock, _, _, stock, committed, rfl⟩ := success
  obtain ⟨member, tenant, tag⟩ := rowOfEpc_eq_ok found
  exact ⟨row, member, tenant, tag, inStock, rfl, StockSession.commit_assign committed⟩

/-- What a stock action does: rows leave, a tag is replaced or taken off, or nothing changes. -/
inductive ActionEffect (db after : Db) (tenantId : ℕ) (tag : Option String) : Prop
  | writtenOff (ids : List ℕ) (step : WrittenOff db after tenantId tag ids)
  | replaced (row : StockItem) (newEpc : String)
      (step : TagTaken db after tenantId tag (fun row => { row with epc := some newEpc }) row)
  | untagged (row : StockItem) (step : TagTaken db after tenantId tag untagRow row)
  | inspected (same : after = db)

theorem inspectStock_ok {db after : Db} {tenantId : ℕ} {data : StockDataBlock} {missing : String}
    (success : inspectStock db tenantId data missing = .ok after) : after = db := by
  simp only [inspectStock, Checked.bind_eq_ok, Checked.pure_eq_ok] at success
  obtain ⟨_, _, _, _, same⟩ := success
  exact same.symm

private theorem stockActions_ok {db after : Db} {context : RequestContext}
    {payload : StockActionRequest} (success : stockActions db context payload = .ok after) :
    ∃ tenantId, resolvePosTenantId context.tokenData payload.tenantId = .ok tenantId ∧
      ActionEffect db after tenantId payload.action.tag := by
  obtain ⟨transactionId, requested, action⟩ := payload
  simp only [stockActions, Checked.bind_eq_ok] at success
  obtain ⟨_, _, _, _, tenantId, resolved, done⟩ := success
  refine ⟨tenantId, resolved, ?_⟩
  cases action with
  | writeOff reason qty data =>
    obtain ⟨ids, step⟩ := writeOff_ok done
    exact .writtenOff ids step
  | reprice data => exact .inspected (inspectStock_ok done)
  | markdownByAge data => exact .inspected (inspectStock_ok done)
  | reprintLabel data => exact .inspected (inspectStock_ok done)
  | replaceEpc currentEpc newEpc =>
    obtain ⟨row, step⟩ := replaceEpc_ok done
    exact .replaced row newEpc step
  | epcLifecycle action epc epcType =>
    obtain ⟨row, step⟩ := epcLifecycle_ok done
    exact .untagged row step

/-! ## Preload lines -/

theorem getPreloadLine_ok {db : Db} {context : RequestContext} {lineId : ℕ} {tenantId : Option ℕ}
    {line : PreloadLine} (found : getPreloadLine db context lineId tenantId = .ok line) :
    line ∈ db.preloadLines ∧ line.id = lineId := by
  simp only [getPreloadLine, Checked.bind_eq_ok, Checked.fetch_eq_ok, Option.filter_eq_some_iff]
    at found
  obtain ⟨_, _, first, _⟩ := found
  exact ⟨List.mem_of_find?_eq_some first, by simpa using List.find?_some first⟩

/-- Lines that wait to be saved, each for a unit of its own. -/
structure Staged (db after : Db) (lines : List PreloadLine) : Prop where
  tables : after = { db with preloadLines := db.preloadLines ++ lines }
  ids : (lines.map (·.id)).Nodup ∧ ∀ line ∈ lines, db.freshPreloadLineId ≤ line.id
  uids : (lines.map (·.itemUid)).Nodup ∧ ∀ line ∈ lines, db.freshItemUid ≤ line.itemUid
  staging : ∀ line ∈ lines, line.lifecycleState = .staging

theorem createPreloadSession_ok {db after : Db} {context : RequestContext}
    {payload : PreloadSessionCreateRequest}
    (success : createPreloadSession db context payload = .ok after) :
    ∃ lines, Staged db after lines := by
  simp only [createPreloadSession, Checked.bind_eq_ok, Checked.pure_eq_ok] at success
  obtain ⟨tenantId, _, _, _, rfl⟩ := success
  refine ⟨_, rfl, ⟨?_, ?_⟩, ⟨?_, ?_⟩, ?_⟩
  · refine List.nodup_iff_injective_getElem.mpr fun first second same => ?_
    simp only [List.getElem_map, List.getElem_mapIdx, stagedLine] at same
    exact Fin.ext (by omega)
  · intro line member
    obtain ⟨index, bound, rfl⟩ := List.mem_iff_getElem.mp member
    rw [List.getElem_mapIdx]
    exact Nat.le_add_right _ _
  · refine List.nodup_iff_injective_getElem.mpr fun first second same => ?_
    simp only [List.getElem_map, List.getElem_mapIdx, stagedLine] at same
    exact Fin.ext (by omega)
  · intro line member
    obtain ⟨index, bound, rfl⟩ := List.mem_iff_getElem.mp member
    rw [List.getElem_mapIdx]
    exact Nat.le_add_right _ _
  · intro line member
    obtain ⟨index, bound, rfl⟩ := List.mem_iff_getElem.mp member
    rw [List.getElem_mapIdx]
    rfl

/-- A line whose columns a client changed; none of them says which unit it is or how far it has
come. -/
structure Patched (db after : Db) (line : PreloadLine) (change : PreloadLine → PreloadLine) :
    Prop where
  member : line ∈ db.preloadLines
  tables : after = db.updatePreloadLine line.id change
  id : ∀ line, (change line).id = line.id
  tenantId : ∀ line, (change line).tenantId = line.tenantId
  itemUid : ∀ line, (change line).itemUid = line.itemUid
  lifecycleState : ∀ line, (change line).lifecycleState = line.lifecycleState
  savedStockItemId : ∀ line, (change line).savedStockItemId = line.savedStockItemId

theorem patchPreloadLine_ok {db after : Db} {context : RequestContext} {lineId : ℕ}
    {tenantId : Option ℕ} {payload : PreloadLinePatchRequest}
    (success : patchPreloadLine db context lineId tenantId payload = .ok after) :
    ∃ line change, Patched db after line change := by
  simp only [patchPreloadLine, Checked.bind_eq_ok, Checked.pure_eq_ok] at success
  obtain ⟨line, found, rfl⟩ := success
  exact ⟨line, _, (getPreloadLine_ok found).1, rfl, fun _ => rfl, fun _ => rfl, fun _ => rfl,
    fun _ => rfl, fun _ => rfl⟩

/-! ## Tags -/

/-- A tag is available when it is on no active assignment and on no active unit. -/
structure TagAvailable (db : Db) (tenantId : ℕ) (epc : String) : Prop where
  assignments : activeAssignment db tenantId epc = none
  rows : ∀ row ∈ db.stock.rows, row.tenantId = tenantId → row.epc = some epc →
    row.itemStatus ≠ "ACTIVE"

theorem assertEpcAvailable_eq_ok {db : Db} {tenantId : ℕ} {epc : String} {u : Unit} :
    assertEpcAvailable db tenantId epc = .ok u ↔ TagAvailable db tenantId epc := by
  simp only [assertEpcAvailable, Checked.bind_eq_ok, Checked.ensure_eq_ok, exists_const]
  constructor
  · rintro ⟨assignments, rows⟩
    exact ⟨assignments, rows⟩
  · rintro ⟨assignments, rows⟩
    exact ⟨assignments, rows⟩

/-- A line saved to wait for its tag. -/
structure SavedPending (db after : Db) (context : RequestContext) (line : PreloadLine) : Prop where
  member : line ∈ db.preloadLines
  rows : after.stock.rows = db.stock.rows ++ [savedItem db context line]
  tables : after = { db with stock := after.stock }.updatePreloadLine line.id fun line =>
    { line with
      lifecycleState := .pendingEpc
      itemStatus := "PENDING_EPC"
      savedStockItemId := some (savedItem db context line).id }

/-- A line saved with its tag. -/
structure SavedTagged (db after : Db) (context : RequestContext) (line : PreloadLine)
    (epc : String) : Prop where
  member : line ∈ db.preloadLines
  available : TagAvailable db line.tenantId epc
  rows : after.stock.rows = db.stock.rows ++
    [tagRow epc { savedItem db context line with printStatus := "READY_TO_PRINT" }]
  tables : after =
    ({ db with stock := after.stock }.addEpcAssignment line.tenantId line.storeId epc
    line.itemUid).updatePreloadLine line.id fun line =>
      { line with
        lifecycleState := .savedEpcFinal
        itemStatus := "ACTIVE"
        epcStatus := "ASSIGNED"
        savedStockItemId := some (savedItem db context line).id }

theorem savePreloadLine_ok {db after : Db} {context : RequestContext} {lineId : ℕ}
    {tenantId : Option ℕ} (success : savePreloadLine db context lineId tenantId = .ok after) :
    ∃ line, getPreloadLine db context lineId tenantId = .ok line ∧
      (line.epc.filter (· ≠ "") = none ∧ SavedPending db after context line ∨
        ∃ epc, line.epc.filter (· ≠ "") = some epc ∧ SavedTagged db after context line epc) := by
  simp only [savePreloadLine, Checked.bind_eq_ok, Checked.ensure_eq_ok, exists_const] at success
  obtain ⟨line, found, _, saved⟩ := success
  have member := (getPreloadLine_ok found).1
  refine ⟨line, found, ?_⟩
  split at saved
  · next untagged =>
    simp only [Checked.bind_eq_ok, Checked.pure_eq_ok] at saved
    obtain ⟨stock, committed, rfl⟩ := saved
    exact .inl ⟨untagged, member, StockSession.commit_added committed, rfl⟩
  · next epc named =>
    simp only [Checked.bind_eq_ok, Checked.pure_eq_ok] at saved
    obtain ⟨_, available, stock, committed, rfl⟩ := saved
    exact .inr ⟨epc, named, member, assertEpcAvailable_eq_ok.mp available,
      StockSession.commit_added committed, rfl⟩

/-- A tag assigned to the row of a line that waited for one, when the row is still there. -/
structure TagAssigned (db after : Db) (lineId : ℕ) (line : PreloadLine) (epc : String) : Prop where
  member : line ∈ db.preloadLines
  id : line.id = lineId
  pending : line.lifecycleState = .pendingEpc
  available : TagAvailable db line.tenantId epc
  rows : after.stock.rows = update (·.id) line.savedStockItemId.toList (tagRow epc) db.stock.rows
  tables : after =
    ({ db with stock := after.stock }.addEpcAssignment line.tenantId line.storeId epc
    line.itemUid).updatePreloadLine line.id fun line =>
      { line with epc := some epc, epcStatus := "ASSIGNED", itemStatus := "ACTIVE",
                  lifecycleState := .savedEpcFinal }

theorem assignPendingEpc_ok {db after : Db} {context : RequestContext} {lineId : ℕ}
    {tenantId : Option ℕ} {epc : String}
    (success : assignPendingEpc db context lineId tenantId epc = .ok after) :
    ∃ line, getPreloadLine db context lineId tenantId = .ok line ∧
    TagAssigned db after lineId line epc := by
  simp only [assignPendingEpc, Checked.bind_eq_ok, Checked.ensure_eq_ok, exists_const,
    Checked.pure_eq_ok] at success
  obtain ⟨line, found, _, _, waits, _, available, stock, committed, rfl⟩ := success
  obtain ⟨member, id⟩ := getPreloadLine_ok found
  exact ⟨line, found, member, id, waits.1, assertEpcAvailable_eq_ok.mp available,
    StockSession.commit_assign (commitPreloadEpcWrite_eq_ok.mp committed), rfl⟩

theorem itemOfUid_eq_some {db : Db} {tenantId itemUid : ℕ} {row : StockItem}
    (found : itemOfUid db tenantId itemUid = some row) :
    row ∈ db.stock.rows ∧ row.tenantId = tenantId ∧ row.itemUid = itemUid := by
  have matching := List.find?_some found
  simp only [Bool.and_eq_true, decide_eq_true_eq] at matching
  exact ⟨List.mem_of_find?_eq_some found, matching⟩

/-- A tag taken off its unit, and its assignment released. -/
structure TagReleased (db after : Db) (tenantId : ℕ) (payload : EpcReleaseRequest)
    (assignment : EpcAssignment) : Prop where
  assigned : assignmentOfUnit db tenantId payload.epc payload.itemUid = some assignment
  rows : after.stock.rows =
    update (·.id) ((itemOfUid db tenantId payload.itemUid).map (·.id)).toList releaseRow
    db.stock.rows
  tables : after = { db with stock := after.stock }.releaseEpcAssignment assignment.id
    (some payload.reason)

theorem releaseEpc_ok {db after : Db} {context : RequestContext} {tenantId : Option ℕ}
    {payload : EpcReleaseRequest} (success : releaseEpc db context tenantId payload = .ok after) :
    ∃ tenantId assignment, TagReleased db after tenantId payload assignment := by
  simp only [releaseEpc, Checked.bind_eq_ok, Checked.fetch_eq_ok, Checked.pure_eq_ok] at success
  obtain ⟨tenantId, _, assignment, assigned, stock, committed, rfl⟩ := success
  exact ⟨tenantId, assignment, assigned, StockSession.commit_assign committed, rfl⟩

/-! ## Issues -/

/-- The assignment that an issue releases, when it releases the tag of the unit. -/
def issuedAssignment (db : Db) (tenantId : ℕ) (payload : ItemIssueRequest) (item : StockItem) :
    Option EpcAssignment :=
  if payload.releaseEpc then
    (item.epc.filter (· ≠ "")).bind fun epc => assignmentOfUnit db tenantId epc item.itemUid
  else none

/-- A unit marked with an issue. -/
structure IssueMarked (db after : Db) (tenantId itemUid : ℕ) (payload : ItemIssueRequest)
    (item : StockItem) : Prop where
  found : itemOfUid db tenantId itemUid = some item
  unsold : item.itemStatus ≠ "SOLD"
  rows : after.stock.rows = update (·.id) [item.id] (issueRow payload) db.stock.rows
  tables : after = match issuedAssignment db tenantId payload item with
    | some assignment => { db with stock := after.stock }.releaseEpcAssignment assignment.id
        (orElse payload.releaseReason (some payload.issueState.text))
    | none => { db with stock := after.stock }

theorem markIssue_ok {db after : Db} {context : RequestContext} {itemUid : ℕ} {tenantId : Option ℕ}
    {payload : ItemIssueRequest}
    (success : markIssue db context itemUid tenantId payload = .ok after) :
    ∃ scopedTenantId item, resolvePosTenantId context.tokenData tenantId = .ok scopedTenantId ∧
      IssueMarked db after scopedTenantId itemUid payload item := by
  simp only [markIssue, Checked.bind_eq_ok, Checked.fetch_eq_ok, Checked.ensure_eq_ok,
    exists_const] at success
  obtain ⟨scopedTenantId, resolved, item, found, unsold, stock, committed, marked⟩ := success
  have rows := StockSession.commit_assign committed
  change (match issuedAssignment db scopedTenantId payload item with | some _ => _ | none => _) =
    _ at marked
  cases releases : issuedAssignment db scopedTenantId payload item with
  | some assignment =>
    rw [releases] at marked
    obtain rfl := Checked.pure_eq_ok.mp marked
    exact ⟨scopedTenantId, item, resolved, found, unsold, rows, by rw [releases]; rfl⟩
  | none =>
    rw [releases] at marked
    obtain rfl := Checked.pure_eq_ok.mp marked
    exact ⟨scopedTenantId, item, resolved, found, unsold, rows, by rw [releases]⟩

/-- A unit whose issue was resolved. -/
structure IssueResolved (db after : Db) (tenantId itemUid : ℕ) (itemStatus : String)
    (item : StockItem) : Prop where
  found : itemOfUid db tenantId itemUid = some item
  written : Rewritten db after [item.id] (resolvedRow itemStatus)

theorem resolveIssue_ok {db after : Db} {context : RequestContext} {itemUid : ℕ}
    {tenantId : Option ℕ} {itemStatus : String}
    (success : resolveIssue db context itemUid tenantId itemStatus = .ok after) :
    ∃ scopedTenantId item, resolvePosTenantId context.tokenData tenantId = .ok scopedTenantId ∧
      IssueResolved db after scopedTenantId itemUid itemStatus item := by
  simp only [resolveIssue, Checked.bind_eq_ok, Checked.fetch_eq_ok, Checked.ensure_eq_ok,
    exists_const, Checked.pure_eq_ok] at success
  obtain ⟨scopedTenantId, resolved, item, found, _, stock, committed, rfl⟩ := success
  exact ⟨scopedTenantId, item, resolved, found, rfl, StockSession.commit_assign committed⟩

/-! ## All requests -/

/-- Everything that a committed stock request can do. -/
inductive StockEffect (db after : Db) : StockRequest → Prop
  | importedEpc {context payload} (items : List StockItem) (step : Imported db after items) :
      StockEffect db after (.importEpc context payload)
  | importedSku {context payload} (items : List StockItem) (step : Imported db after items) :
      StockEffect db after (.importSku context payload)
  | migrated {context payload} (row : StockItem) (step : Migrated db after payload row) :
      StockEffect db after (.migrate context payload)
  | acted {context payload} (tenantId : ℕ)
      (resolved : resolvePosTenantId context.tokenData payload.tenantId = .ok tenantId)
      (step : ActionEffect db after tenantId payload.action.tag) :
      StockEffect db after (.action context payload)
  | staged {context payload} (lines : List PreloadLine) (step : Staged db after lines) :
      StockEffect db after (.createPreload context payload)
  | patched {context lineId tenantId payload} (line : PreloadLine)
      (change : PreloadLine → PreloadLine) (step : Patched db after line change) :
      StockEffect db after (.patchLine context lineId tenantId payload)
  | savedPending {context lineId tenantId} (line : PreloadLine)
      (step : SavedPending db after context line) :
      StockEffect db after (.saveLine context lineId tenantId)
  | savedTagged {context lineId tenantId} (line : PreloadLine) (epc : String)
      (step : SavedTagged db after context line epc) :
      StockEffect db after (.saveLine context lineId tenantId)
  | assigned {context lineId tenantId epc} (line : PreloadLine)
      (step : TagAssigned db after lineId line epc) :
      StockEffect db after (.assignEpc context lineId tenantId epc)
  | released {context tenantId payload} (scopedTenantId : ℕ) (assignment : EpcAssignment)
      (step : TagReleased db after scopedTenantId payload assignment) :
      StockEffect db after (.releaseEpc context tenantId payload)
  | marked {context itemUid tenantId payload} (scopedTenantId : ℕ) (item : StockItem)
      (resolved : resolvePosTenantId context.tokenData tenantId = .ok scopedTenantId)
      (step : IssueMarked db after scopedTenantId itemUid payload item) :
      StockEffect db after (.markIssue context itemUid tenantId payload)
  | resolvedIssue {context itemUid tenantId itemStatus} (scopedTenantId : ℕ) (item : StockItem)
      (resolved : resolvePosTenantId context.tokenData tenantId = .ok scopedTenantId)
      (step : IssueResolved db after scopedTenantId itemUid itemStatus item) :
      StockEffect db after (.resolveIssue context itemUid tenantId itemStatus)

/-- A committed request has exactly one of the effects above. -/
theorem stockStep_ok {db after : Db} {request : StockRequest}
    (success : stockStep db request = .ok after) :
    StockEffect db after request := by
  cases request with
  | importEpc context payload =>
    obtain ⟨items, step⟩ := importStockEpc_ok success
    exact .importedEpc items step
  | importSku context payload =>
    obtain ⟨items, step⟩ := importStockSku_ok success
    exact .importedSku items step
  | migrate context payload =>
    obtain ⟨row, step⟩ := migrateStockSkuToEpc_ok success
    exact .migrated row step
  | action context payload =>
    obtain ⟨tenantId, resolved, step⟩ := stockActions_ok success
    exact .acted tenantId resolved step
  | createPreload context payload =>
    obtain ⟨lines, step⟩ := createPreloadSession_ok success
    exact .staged lines step
  | patchLine context lineId tenantId payload =>
    obtain ⟨line, change, step⟩ := patchPreloadLine_ok success
    exact .patched line change step
  | saveLine context lineId tenantId =>
    obtain ⟨line, _, ⟨_, step⟩ | ⟨epc, _, step⟩⟩ := savePreloadLine_ok success
    · exact .savedPending line step
    · exact .savedTagged line epc step
  | assignEpc context lineId tenantId epc =>
    obtain ⟨line, _, step⟩ := assignPendingEpc_ok success
    exact .assigned line step
  | releaseEpc context tenantId payload =>
    obtain ⟨scopedTenantId, assignment, step⟩ := releaseEpc_ok success
    exact .released scopedTenantId assignment step
  | markIssue context itemUid tenantId payload =>
    obtain ⟨scopedTenantId, item, resolved, step⟩ := markIssue_ok success
    exact .marked scopedTenantId item resolved step
  | resolveIssue context itemUid tenantId itemStatus =>
    obtain ⟨scopedTenantId, item, resolved, step⟩ := resolveIssue_ok success
    exact .resolvedIssue scopedTenantId item resolved step

theorem ActionEffect.tables {db after : Db} {tenantId : ℕ} {tag : Option String}
    (effect : ActionEffect db after tenantId tag) :
    after = { db with stock := after.stock } := by
  cases effect with
  | writtenOff ids step => exact step.tables
  | replaced row newEpc step => exact step.written.tables
  | untagged row step => exact step.written.tables
  | inspected same => rw [same]

/-- A stock request changes stock, assignments and preload lines. -/
theorem StockEffect.tables {db after : Db} {request : StockRequest}
    (effect : StockEffect db after request) :
    after = { db with
      stock := after.stock
      epcAssignments := after.epcAssignments
      preloadLines := after.preloadLines } := by
  cases effect with
  | importedEpc items step => rw [step.tables]
  | importedSku items step => rw [step.tables]
  | migrated row step => rw [step.written.tables]
  | acted tenantId resolved step => rw [step.tables]
  | staged lines step => rw [step.tables]
  | patched line change step => rw [step.tables]; rfl
  | savedPending line step => rw [step.tables]; rfl
  | savedTagged line epc step => rw [step.tables]; rfl
  | assigned line step => rw [step.tables]; rfl
  | released scopedTenantId assignment step => rw [step.tables]; rfl
  | marked scopedTenantId item resolved step =>
    rw [step.tables]
    split <;> rfl
  | resolvedIssue scopedTenantId item resolved step => rw [step.written.tables]

end ArisCloud

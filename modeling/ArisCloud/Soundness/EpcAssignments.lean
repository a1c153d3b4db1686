import ArisCloud.Library.Mirrors
import ArisCloud.Library.Reachability
import ArisCloud.Proofs.SaleLines
import ArisCloud.Proofs.StockSteps
import ArisCloud.Soundness.SoldUnits

/-! # Tags and their assignments

A tag in use is stored twice: on its unit and as an active row of the table of assignments. The two
tables mirror each other as long as no action replaces, takes off or writes off a tag that is
assigned, for these actions leave the assignment behind.
-/

namespace ArisCloud

open KeyedRows Mirrors Requests

/-! ## What the two tables state -/

/-- The tenant, tag and unit of an assignment in use. -/
def EpcAssignment.inUse (assignment : EpcAssignment) : Option (ℕ × String × ℕ) :=
  if assignment.active then some (assignment.tenantId, assignment.epc, assignment.itemUid) else none

/-- The tenant, tag and unit of an unsold row whose tag is assigned. -/
def StockItem.carriedTag (row : StockItem) : Option (ℕ × String × ℕ) :=
  if row.epcStatus = "ASSIGNED" ∧ row.status ≠ some "SOLD" then row.epc.map fun epc =>
    (row.tenantId, epc, row.itemUid)
  else none

private theorem EpcAssignment.inUse_eq_some {assignment : EpcAssignment} {tenantId itemUid : ℕ}
    {epc : String} :
    assignment.inUse = some (tenantId, epc, itemUid) ↔ assignment.active = true ∧
    assignment.tenantId = tenantId ∧
      assignment.epc = epc ∧ assignment.itemUid = itemUid := by
  rw [inUse]
  split
  · next active => simp [active]
  · next inactive => simp [inactive]

private theorem StockItem.carriedTag_eq_some {row : StockItem} {tenantId itemUid : ℕ}
    {epc : String} :
    row.carriedTag = some (tenantId, epc, itemUid) ↔ row.tenantId = tenantId ∧
    row.itemUid = itemUid ∧
      row.epc = some epc ∧ row.epcStatus = "ASSIGNED" ∧ row.status ≠ some "SOLD" := by
  rw [carriedTag]
  split
  · next inUse =>
    simp only [Option.map_eq_some_iff, Prod.mk.injEq]
    constructor
    · rintro ⟨found, tag, tenant, rfl, unit⟩
      exact ⟨tenant, unit, tag, inUse⟩
    · rintro ⟨tenant, unit, tag, _⟩
      exact ⟨epc, tag, tenant, rfl, unit⟩
  · next unused =>
    refine iff_of_false (by simp) ?_
    rintro ⟨_, _, _, assigned, unsold⟩
    exact unused ⟨assigned, unsold⟩

private theorem StockItem.carriedTag_of_unassigned {row : StockItem}
    (unassigned : row.epcStatus ≠ "ASSIGNED") :
    row.carriedTag = none := if_neg fun inUse => unassigned inUse.1

private theorem StockItem.carriedTag_of_untagged {row : StockItem} (untagged : row.epc = none) :
    row.carriedTag = none := by
  rw [carriedTag, untagged]
  split <;> rfl

/-- A sold unit has lost its tag, and a unit whose tag is assigned has one. -/
structure StockItem.TagSound (row : StockItem) : Prop where
  sold : row.status = some "SOLD" → row.epc = none
  assigned : row.epcStatus = "ASSIGNED" → row.epc ≠ none

/-- The row of a line that waits for its tag is the unit of the line, and no tag of it is
assigned. -/
def PreloadLine.Waits (rows : List StockItem) (line : PreloadLine) : Prop :=
  line.lifecycleState = .pendingEpc → ∀ row ∈ rows, line.savedStockItemId = some row.id →
    row.tenantId = line.tenantId ∧ row.itemUid = line.itemUid ∧ row.epcStatus ≠ "ASSIGNED"

/-- The assignments mirror the tags of the stock, and the lines that wait name units without one. -/
structure TagInvariant (db : Db) : Prop where
  mirrored : Mirrored EpcAssignment.inUse StockItem.carriedTag db.epcAssignments db.stock.rows
  assignmentIds : (db.epcAssignments.map (·.id)).Nodup
  sound : ∀ row ∈ db.stock.rows, row.TagSound
  lineIds : (db.preloadLines.map (·.id)).Nodup
  lineUids : (db.preloadLines.map (·.itemUid)).Nodup
  waits : ∀ line ∈ db.preloadLines, line.Waits db.stock.rows
  saleEpcs : ∀ line ∈ db.saleLines, line.epc ≠ some ""

/-! ## Rows after a request -/

/-- The row is a row from before, with no newly assigned tag, or it is new. -/
def Follows (db : Db) (row : StockItem) : Prop :=
  (∃ old ∈ db.stock.rows, old.id = row.id ∧ old.tenantId = row.tenantId ∧
    old.itemUid = row.itemUid ∧ (row.epcStatus = "ASSIGNED" → old.epcStatus = "ASSIGNED")) ∨
    db.freshStockItemId ≤ row.id

theorem Follows.refl {db : Db} {row : StockItem} (member : row ∈ db.stock.rows) : Follows db row :=
  .inl ⟨row, member, rfl, rfl, rfl, id⟩

theorem PreloadLine.Waits.follows {db : Db} {line : PreloadLine} {rows : List StockItem}
    (waits : line.Waits db.stock.rows) (member : line ∈ db.preloadLines)
    (follows : ∀ row ∈ rows, Follows db row) : line.Waits rows := by
  intro pending row isRow saved
  rcases follows row isRow with ⟨old, isOld, id, tenant, uid, assigned⟩ | fresh
  · obtain ⟨sameTenant, sameUid, unassigned⟩ := waits pending old isOld (id ▸ saved)
    exact ⟨tenant ▸ sameTenant, uid ▸ sameUid, fun now => unassigned (assigned now)⟩
  · have := savedStockItemId_lt_fresh member saved
    omega

namespace TagInvariant

variable {db after : Db}

/-- The invariant is about five tables. -/
theorem congr (invariant : TagInvariant db) (stock : after.stock = db.stock)
    (assignments : after.epcAssignments = db.epcAssignments)
    (lines : after.preloadLines = db.preloadLines)
    (saleEpcs : ∀ line ∈ after.saleLines, line.epc ≠ some "") : TagInvariant after := by
  obtain ⟨mirrored, assignmentIds, sound, lineIds, lineUids, waits, _⟩ := invariant
  exact ⟨by rwa [assignments, stock], by rwa [assignments], by rwa [stock], by rwa [lines], by rwa
    [lines], by rwa [lines, stock], saleEpcs⟩

/-- Only stock rows change, and none of them states another tag. -/
theorem of_rows (invariant : TagInvariant db) (tables : after = { db with stock := after.stock })
    (mirrored : Mirrored EpcAssignment.inUse StockItem.carriedTag db.epcAssignments
    after.stock.rows) (sound : ∀ row ∈ after.stock.rows, row.TagSound)
    (follows : ∀ row ∈ after.stock.rows, Follows db row) :
    TagInvariant after := by
  rw [tables]
  exact ⟨mirrored, invariant.assignmentIds, sound, invariant.lineIds, invariant.lineUids,
    fun line member => (invariant.waits line member).follows member follows, invariant.saleEpcs⟩

/-- One row is rewritten, and states the same tag as before. -/
theorem rewritten (invariant : TagInvariant db) {row : StockItem} {change : StockItem → StockItem}
    (member : row ∈ db.stock.rows) (written : Rewritten db after [row.id] change)
    (same : (change row).carriedTag = row.carriedTag) (sound : (change row).TagSound)
    (id : (change row).id = row.id) (tenant : (change row).tenantId = row.tenantId)
    (uid : (change row).itemUid = row.itemUid)
    (assigned : (change row).epcStatus = "ASSIGNED" → row.epcStatus = "ASSIGNED") :
    TagInvariant after := by
  have source {other : StockItem} (isAfter : other ∈ after.stock.rows) : other = change row ∨
      other ∈ db.stock.rows := by
    rw [written.rows] at isAfter
    exact (mem_update_singleton db.stock.distinctIds member isAfter).imp_right (·.1)
  refine invariant.of_rows written.tables ?_ ?_ ?_
  · rw [written.rows]
    refine invariant.mirrored.update_silent fun other another listed => ?_
    rw [eq_of_listed member another listed]
    exact same
  · intro other isAfter
    rcases source isAfter with rfl | isBefore
    · exact sound
    · exact invariant.sound other isBefore
  · intro other isAfter
    rcases source isAfter with rfl | isBefore
    · exact .inl ⟨row, member, id.symm, tenant.symm, uid.symm, assigned⟩
    · exact .refl isBefore

private theorem imported (invariant : TagInvariant db) {items : List StockItem}
    (step : Imported db after items) :
    TagInvariant after := by
  have unassigned : ∀ item ∈ items, item.epcStatus ≠ "ASSIGNED" :=
    fun item member => by simp [step.epcStatus item member]
  refine invariant.of_rows step.tables ?_ ?_ ?_
  · rw [step.rows]
    exact invariant.mirrored.append_silent fun item member => StockItem.carriedTag_of_unassigned
      (unassigned item member)
  · rw [step.rows]
    intro row member
    rcases List.mem_append.mp member with old | new
    · exact invariant.sound row old
    · refine ⟨fun sold => ?_, fun assigned => absurd assigned (unassigned row new)⟩
      rcases step.status row new with status | status <;> simp [status] at sold
  · rw [step.rows]
    intro row member
    rcases List.mem_append.mp member with old | new
    · exact .refl old
    · exact .inr (step.fresh row new)

theorem migrated (invariant : TagInvariant db) {payload : StockMigrateRequest} {row : StockItem}
    (step : Migrated db after payload row) : TagInvariant after := by
  have unassigned : row.epcStatus ≠ "ASSIGNED" := fun assigned =>
    (invariant.sound row step.member).assigned assigned step.untagged
  refine invariant.rewritten step.member step.written ?_ ?_ rfl rfl rfl id
  · rw [StockItem.carriedTag_of_unassigned unassigned]
    exact StockItem.carriedTag_of_unassigned unassigned
  · exact ⟨fun sold => by simp [migratedRow] at sold, fun assigned => absurd assigned unassigned⟩

/-- An action on a tag that is not assigned, or on no tag. -/
theorem acted (invariant : TagInvariant db) {tenantId : ℕ} {tag : Option String}
    (effect : ActionEffect db after tenantId tag)
    (free : ∀ row ∈ db.stock.rows, row.tenantId = tenantId → row.epc ≠ none → row.epc = tag →
      row.epcStatus ≠ "ASSIGNED") :
    TagInvariant after := by
  have silent {row : StockItem} (member : row ∈ db.stock.rows) (tenant : row.tenantId = tenantId)
      (tagged : row.epc = tag) :
      row.carriedTag = none := by
    by_cases untagged : row.epc = none
    · exact StockItem.carriedTag_of_untagged untagged
    · exact StockItem.carriedTag_of_unassigned (free row member tenant untagged tagged)
  cases effect with
  | writtenOff ids step =>
    refine invariant.of_rows step.tables ?_ ?_ ?_
    · rw [step.rows]
      refine invariant.mirrored.filter_silent fun row member gone => ?_
      have listed : row.id ∈ ids := by simpa using gone
      exact silent member (step.tenant row member listed) (step.tagged row member listed)
    · rw [step.rows]
      exact fun row member => invariant.sound row (List.mem_filter.mp member).1
    · rw [step.rows]
      exact fun row member => .refl (List.mem_filter.mp member).1
  | replaced row newEpc step =>
    have unassigned : row.epcStatus ≠ "ASSIGNED" := fun assigned =>
      free row step.member step.tenant ((invariant.sound row step.member).assigned assigned)
        step.tagged assigned
    refine invariant.rewritten step.member step.written ?_ ?_ rfl rfl rfl id
    · rw [StockItem.carriedTag_of_unassigned unassigned]
      exact StockItem.carriedTag_of_unassigned unassigned
    · exact ⟨fun sold => by simp [step.inStock] at sold, fun assigned => absurd assigned unassigned⟩
  | untagged row step =>
    have unassigned : row.epcStatus ≠ "ASSIGNED" := fun assigned =>
      free row step.member step.tenant ((invariant.sound row step.member).assigned assigned)
        step.tagged assigned
    refine invariant.rewritten step.member step.written ?_ ?_ rfl rfl rfl id
    · rw [StockItem.carriedTag_of_unassigned unassigned]
      exact StockItem.carriedTag_of_untagged rfl
    · exact ⟨fun _ => rfl, fun assigned => absurd assigned unassigned⟩
  | inspected same => exact same ▸ invariant

/-! ## Preload lines -/

theorem staged (invariant : TagInvariant db) {lines : List PreloadLine}
    (step : Staged db after lines) :
    TagInvariant after := by
  have ids : ((db.preloadLines ++ lines).map (·.id)).Nodup := by
    rw [List.map_append, List.nodup_append]
    refine ⟨invariant.lineIds, step.ids.1, fun id old other new => ?_⟩
    obtain ⟨line, isLine, rfl⟩ := List.mem_map.mp old
    obtain ⟨fresh, isFresh, rfl⟩ := List.mem_map.mp new
    have below : line.id < db.freshPreloadLineId :=
      lt_freshId (List.mem_map_of_mem (f := (·.id)) isLine)
    have := step.ids.2 fresh isFresh
    omega
  have uids : ((db.preloadLines ++ lines).map (·.itemUid)).Nodup := by
    rw [List.map_append, List.nodup_append]
    refine ⟨invariant.lineUids, step.uids.1, fun uid old other new => ?_⟩
    obtain ⟨line, isLine, rfl⟩ := List.mem_map.mp old
    obtain ⟨fresh, isFresh, rfl⟩ := List.mem_map.mp new
    have := preloadLine_itemUid_lt_fresh isLine
    have := step.uids.2 fresh isFresh
    omega
  rw [step.tables]
  refine ⟨invariant.mirrored, invariant.assignmentIds, invariant.sound, ids, uids, ?_,
    invariant.saleEpcs⟩
  intro line member
  rcases List.mem_append.mp member with old | new
  · exact invariant.waits line old
  · intro pending
    rw [step.staging line new] at pending
    contradiction

/-- The lines after one of them was saved or got its tag: the line itself, and the others as they
were. -/
theorem of_line (invariant : TagInvariant db) {line : PreloadLine}
    {change : PreloadLine → PreloadLine} (member : line ∈ db.preloadLines)
    (lines : after.preloadLines = update (·.id) [line.id] change db.preloadLines)
    (id : ∀ line, (change line).id = line.id) (uid : ∀ line, (change line).itemUid = line.itemUid)
    (mirrored : Mirrored EpcAssignment.inUse StockItem.carriedTag after.epcAssignments
      after.stock.rows)
    (assignmentIds : (after.epcAssignments.map (·.id)).Nodup)
    (sound : ∀ row ∈ after.stock.rows, row.TagSound) (own : (change line).Waits after.stock.rows)
    (others : ∀ other ∈ db.preloadLines, other.id ≠ line.id → other.Waits after.stock.rows)
    (saleLines : after.saleLines = db.saleLines) : TagInvariant after := by
  refine ⟨mirrored, assignmentIds, sound, ?_, ?_, ?_, by rw [saleLines]; exact invariant.saleEpcs⟩
  · rw [lines, map_update id]
    exact invariant.lineIds
  · rw [lines, map_update uid]
    exact invariant.lineUids
  · rw [lines]
    intro other isAfter
    rcases mem_update_singleton invariant.lineIds member isAfter with rfl | ⟨isBefore, apart⟩
    · exact own
    · exact others other isBefore apart

theorem patched (invariant : TagInvariant db) {line : PreloadLine}
    {change : PreloadLine → PreloadLine} (step : Patched db after line change) :
    TagInvariant after := by
  have stock : after.stock = db.stock := by rw [step.tables]; rfl
  have assignments : after.epcAssignments = db.epcAssignments := by rw [step.tables]; rfl
  refine invariant.of_line step.member (by rw [step.tables]; rfl) step.id step.itemUid ?_ ?_
    ?_ ?_ ?_ (by rw [step.tables]; rfl)
  · rw [stock, assignments]
    exact invariant.mirrored
  · rw [assignments]
    exact invariant.assignmentIds
  · rw [stock]
    exact invariant.sound
  · rw [stock, PreloadLine.Waits, step.lifecycleState, step.savedStockItemId, step.tenantId,
      step.itemUid]
    exact invariant.waits line step.member
  · rw [stock]
    exact fun other isLine _ => invariant.waits other isLine

/-- A fresh assignment keeps the identifiers distinct. -/
theorem nodup_addEpcAssignment (invariant : TagInvariant db) (tenantId : ℕ) (storeId : Option ℕ)
    (epc : String) (itemUid : ℕ) :
    ((db.addEpcAssignment tenantId storeId epc itemUid).epcAssignments.map (·.id)).Nodup := by
  change (List.map _ (_ ++ [_])).Nodup
  rw [List.map_append, List.map_singleton, List.nodup_append]
  refine ⟨invariant.assignmentIds, List.nodup_singleton _, fun id old other new => ?_⟩
  obtain ⟨assignment, isAssignment, rfl⟩ := List.mem_map.mp old
  rw [List.mem_singleton.mp new]
  exact (assignment_id_lt_fresh isAssignment).ne

private theorem follows_added {item : StockItem} (fresh : db.freshStockItemId ≤ item.id) :
    ∀ row ∈ db.stock.rows ++ [item], Follows db row := by
  intro row member
  rcases List.mem_append.mp member with old | new
  · exact .refl old
  · rw [List.mem_singleton.mp new]
    exact .inr fresh

private theorem sound_added (invariant : TagInvariant db) {item : StockItem}
    (sound : item.TagSound) :
    ∀ row ∈ db.stock.rows ++ [item], row.TagSound := by
  intro row member
  rcases List.mem_append.mp member with old | new
  · exact invariant.sound row old
  · rw [List.mem_singleton.mp new]
    exact sound

theorem savedPending (invariant : TagInvariant db) {context : RequestContext} {line : PreloadLine}
    (step : SavedPending db after context line) : TagInvariant after := by
  have unassigned : (savedItem db context line).epcStatus ≠ "ASSIGNED" := by simp [savedItem]
  refine invariant.of_line step.member (by rw [step.tables]; rfl) (by exact fun _ => rfl)
    (by exact fun _ => rfl) ?_ ?_ ?_ ?_ ?_ (by rw [step.tables]; rfl)
  · rw [step.rows, step.tables]
    exact invariant.mirrored.append_silent fun item member =>
      List.mem_singleton.mp member ▸ StockItem.carriedTag_of_unassigned unassigned
  · rw [step.tables]
    exact invariant.assignmentIds
  · rw [step.rows]
    exact invariant.sound_added ⟨fun _ => rfl, fun assigned => absurd assigned unassigned⟩
  · rw [step.rows]
    rintro - row member saved
    rcases List.mem_append.mp member with old | new
    · have below := stockItem_id_lt_fresh old
      rw [← Option.some.inj saved] at below
      exact absurd below (Nat.lt_irrefl _)
    · rw [List.mem_singleton.mp new]
      exact ⟨rfl, rfl, unassigned⟩
  · rw [step.rows]
    exact fun other isLine _ => (invariant.waits other isLine).follows isLine (follows_added le_rfl)

theorem savedTagged (invariant : TagInvariant db) {context : RequestContext} {line : PreloadLine}
    {epc : String} (step : SavedTagged db after context line epc) : TagInvariant after := by
  refine invariant.of_line step.member (by rw [step.tables]; rfl) (by exact fun _ => rfl)
    (by exact fun _ => rfl) ?_ ?_ ?_ (by rintro ⟨⟩) ?_ (by rw [step.tables]; rfl)
  · rw [step.rows, step.tables]
    exact invariant.mirrored.append
      (by simp [EpcAssignment.inUse, StockItem.carriedTag, tagRow, savedItem])
  · rw [step.tables]
    exact invariant.nodup_addEpcAssignment line.tenantId line.storeId epc line.itemUid
  · rw [step.rows]
    exact invariant.sound_added ⟨fun sold => by simp [tagRow] at sold, fun _ => by simp [tagRow]⟩
  · rw [step.rows]
    exact fun other isLine _ => (invariant.waits other isLine).follows isLine (follows_added le_rfl)

/-- A tag is assigned to the row of a line, which is still there. -/
theorem assigned (invariant : TagInvariant db) {lineId : ℕ} {line : PreloadLine} {epc : String}
    (step : TagAssigned db after lineId line epc) {row : StockItem} (member : row ∈ db.stock.rows)
    (saved : line.savedStockItemId = some row.id) : TagInvariant after := by
  obtain ⟨tenant, uid, unassigned⟩ := invariant.waits line step.member step.pending row member saved
  have rows := step.rows
  rw [saved, Option.toList_some] at rows
  have source {other : StockItem} (isAfter : other ∈ after.stock.rows) :
      other = tagRow epc row ∨ other ∈ db.stock.rows ∧ other.id ≠ row.id :=
    mem_update_singleton db.stock.distinctIds member (rows ▸ isAfter)
  refine invariant.of_line step.member (by rw [step.tables]; rfl) (by exact fun _ => rfl)
    (by exact fun _ => rfl) ?_ ?_ ?_ (by rintro ⟨⟩) ?_ (by rw [step.tables]; rfl)
  · rw [rows, step.tables]
    refine invariant.mirrored.gain db.stock.distinctIds member
      (StockItem.carriedTag_of_unassigned unassigned) ?_
    simp [EpcAssignment.inUse, StockItem.carriedTag, tagRow, tenant, uid]
  · rw [step.tables]
    exact invariant.nodup_addEpcAssignment line.tenantId line.storeId epc line.itemUid
  · intro other isAfter
    rcases source isAfter with rfl | ⟨isBefore, _⟩
    · exact ⟨fun sold => by simp [tagRow] at sold, fun _ => by simp [tagRow]⟩
    · exact invariant.sound other isBefore
  · intro other isLine apart pending found isAfter refers
    rcases source isAfter with rfl | ⟨isBefore, _⟩
    -- Another line that waits for the same row would be a line of the same unit.
    · obtain ⟨_, sameUid, _⟩ := invariant.waits other isLine pending row member refers
      have same := eq_of_key_eq invariant.lineUids isLine step.member (sameUid.symm.trans uid)
      exact absurd (congrArg (·.id) same) apart
    · exact invariant.waits other isLine pending found isBefore refers

/-! ## Releases and issues -/

/-- The constraint on tenant and item number leaves one row for each unit. -/
theorem eq_of_unit {row other : StockItem} (member : row ∈ db.stock.rows)
    (another : other ∈ db.stock.rows) (tenant : row.tenantId = other.tenantId)
    (uid : row.itemUid = other.itemUid) : row = other :=
  List.inj_on_of_nodup_map db.stock.distinctUids member another (by rw [tenant, uid])

private theorem assignmentOfUnit_eq_some {tenantId itemUid : ℕ} {epc : String}
    {assignment : EpcAssignment}
    (found : assignmentOfUnit db tenantId epc itemUid = some assignment) :
    assignment ∈ db.epcAssignments ∧ assignment.inUse = some (tenantId, epc, itemUid) := by
  have matching := List.find?_some found
  simp only [Bool.and_eq_true, decide_eq_true_eq] at matching
  obtain ⟨⟨⟨tenant, tag⟩, uid⟩, active⟩ := matching
  exact ⟨List.mem_of_find?_eq_some found, EpcAssignment.inUse_eq_some.mpr
    ⟨active, tenant, tag, uid⟩⟩

/-- The assignment of a tag that a unit carries is found. -/
theorem assignmentOfUnit_of_carried (invariant : TagInvariant db) {row : StockItem}
    (member : row ∈ db.stock.rows) {tenantId itemUid : ℕ} {epc : String}
    (carried : row.carriedTag = some (tenantId, epc, itemUid)) :
    ∃ assignment, assignmentOfUnit db tenantId epc itemUid = some assignment := by
  obtain ⟨assignment, isAssignment, inUse⟩ := invariant.mirrored.stated_iff.mpr
    ⟨row, member, carried⟩
  obtain ⟨active, tenant, tag, uid⟩ := EpcAssignment.inUse_eq_some.mp inUse
  refine Option.isSome_iff_exists.mp (List.find?_isSome.mpr ⟨assignment, isAssignment, ?_⟩)
  simp [active, tenant, tag, uid]

/-- The unit of an assignment in use carries its tag. -/
theorem carried_of_assigned (invariant : TagInvariant db) {tenantId itemUid : ℕ} {epc : String}
    {assignment : EpcAssignment}
    (found : assignmentOfUnit db tenantId epc itemUid = some assignment) :
    ∃ row ∈ db.stock.rows, row.carriedTag = some (tenantId, epc, itemUid) ∧
    itemOfUid db tenantId itemUid = some row := by
  obtain ⟨isAssignment, inUse⟩ := assignmentOfUnit_eq_some found
  obtain ⟨row, member, carried⟩ := invariant.mirrored.stated_iff.mp
    ⟨assignment, isAssignment, inUse⟩
  obtain ⟨tenant, uid, _⟩ := StockItem.carriedTag_eq_some.mp carried
  obtain ⟨first, isFirst⟩ : ∃ first, itemOfUid db tenantId itemUid = some first :=
    Option.isSome_iff_exists.mp (List.find?_isSome.mpr ⟨row, member, by simp [tenant, uid]⟩)
  obtain ⟨isRow, firstTenant, firstUid⟩ := itemOfUid_eq_some isFirst
  obtain rfl := eq_of_unit isRow member (firstTenant.trans tenant.symm) (firstUid.trans uid.symm)
  exact ⟨first, member, carried, isFirst⟩

/-- A tag leaves its unit and its assignment together. -/
theorem unassigned (invariant : TagInvariant db) {row : StockItem} {change : StockItem → StockItem}
    {assignment : EpcAssignment} {reason : Option String} {tag : ℕ × String × ℕ}
    (member : row ∈ db.stock.rows) (isAssignment : assignment ∈ db.epcAssignments)
    (inUse : assignment.inUse = some tag) (carried : row.carriedTag = some tag)
    (rows : after.stock.rows = update (·.id) [row.id] change db.stock.rows)
    (tables : after = { db with stock := after.stock }.releaseEpcAssignment assignment.id reason)
    (free : (change row).epcStatus ≠ "ASSIGNED") (sound : (change row).status = some "SOLD" →
    (change row).epc = none) (id : (change row).id = row.id)
    (tenant : (change row).tenantId = row.tenantId)
    (uid : (change row).itemUid = row.itemUid) : TagInvariant after := by
  have source {other : StockItem} (isAfter : other ∈ after.stock.rows) : other = change row ∨
      other ∈ db.stock.rows := by
    rw [rows] at isAfter
    exact (mem_update_singleton db.stock.distinctIds member isAfter).imp_right (·.1)
  have follows : ∀ other ∈ after.stock.rows, Follows db other := by
    intro other isAfter
    rcases source isAfter with rfl | isBefore
    · exact .inl ⟨row, member, id.symm, tenant.symm, uid.symm, fun assigned => absurd assigned free⟩
    · exact .refl isBefore
  have lines : after.preloadLines = db.preloadLines := by rw [tables]; rfl
  have saleLines : after.saleLines = db.saleLines := by rw [tables]; rfl
  refine ⟨?_, ?_,
    ?_, by rw [lines]; exact invariant.lineIds, by rw [lines]; exact invariant.lineUids, ?_,
    by rw [saleLines]; exact invariant.saleEpcs⟩
  · rw [rows, tables]
    exact invariant.mirrored.lose invariant.assignmentIds db.stock.distinctIds isAssignment member
      inUse carried rfl (StockItem.carriedTag_of_unassigned free)
  · rw [tables, Db.releaseEpcAssignment, map_update (by exact fun _ => rfl)]
    exact invariant.assignmentIds
  · intro other isAfter
    rcases source isAfter with rfl | isBefore
    · exact ⟨sound, fun assigned => absurd assigned free⟩
    · exact invariant.sound other isBefore
  · rw [lines]
    exact fun line isLine => (invariant.waits line isLine).follows isLine follows

theorem released (invariant : TagInvariant db) {tenantId : ℕ} {payload : EpcReleaseRequest}
    {assignment : EpcAssignment} (step : TagReleased db after tenantId payload assignment) :
    TagInvariant after := by
  obtain ⟨isAssignment, inUse⟩ := assignmentOfUnit_eq_some step.assigned
  obtain ⟨row, member, carried, isUnit⟩ := invariant.carried_of_assigned step.assigned
  have rows := step.rows
  rw [isUnit, Option.map_some, Option.toList_some] at rows
  exact invariant.unassigned member isAssignment inUse carried rows step.tables
    (by simp [releaseRow]) (fun _ => rfl) rfl rfl rfl

private theorem issueRow_keeps (payload : ItemIssueRequest) (row : StockItem) :
    (issueRow payload row).tenantId = row.tenantId ∧ (issueRow payload row).itemUid = row.itemUid ∧
      ((issueRow payload row).epcStatus = "ASSIGNED" → row.epcStatus = "ASSIGNED") := by
  rw [issueRow]
  split
  · split
    · exact ⟨rfl, rfl, fun assigned => absurd assigned (by simp)⟩
    · exact ⟨rfl, rfl, fun assigned => absurd assigned (by simp)⟩
  · exact ⟨rfl, rfl, id⟩

/-- A row that keeps or loses its tag with an issue stays sound. -/
theorem issueRow_sound {payload : ItemIssueRequest} {row : StockItem} (sound : row.TagSound) :
    (issueRow payload row).TagSound := by
  rw [issueRow]
  split
  · split
    · exact ⟨sound.sold, fun assigned => absurd assigned (by simp)⟩
    · exact ⟨fun _ => rfl, fun assigned => absurd assigned (by simp)⟩
  · exact ⟨sound.sold, sound.assigned⟩

theorem marked (invariant : TagInvariant db) {tenantId itemUid : ℕ} {payload : ItemIssueRequest}
    {item : StockItem} (step : IssueMarked db after tenantId itemUid payload item) :
    TagInvariant after := by
  obtain ⟨member, tenant, uid⟩ := itemOfUid_eq_some step.found
  obtain ⟨sameTenant, sameUid, assigned⟩ := issueRow_keeps payload item
  have sound : (issueRow payload item).TagSound := issueRow_sound (invariant.sound item member)
  have tables := step.tables
  cases released : issuedAssignment db tenantId payload item with
  | some assignment =>
    rw [released] at tables
    rw [issuedAssignment] at released
    split at released
    · next releases =>
      obtain ⟨epc, named, found⟩ := Option.bind_eq_some_iff.mp released
      obtain ⟨tag, nonempty⟩ := Option.filter_eq_some_iff.mp named
      obtain ⟨isAssignment, inUse⟩ := assignmentOfUnit_eq_some found
      obtain ⟨row, isRow, carried, isUnit⟩ := invariant.carried_of_assigned found
      obtain ⟨rowTenant, rowUid, _⟩ := StockItem.carriedTag_eq_some.mp carried
      obtain rfl := eq_of_unit isRow member (rowTenant.trans tenant.symm) rowUid
      have truthy : isTruthy row.epc = true := by
        rw [tag]
        exact nonempty
      have free : (issueRow payload row).epcStatus ≠ "ASSIGNED" := by
        rw [issueRow, if_pos ⟨releases, truthy⟩]
        split <;> simp
      exact invariant.unassigned member isAssignment inUse carried step.rows tables free sound.sold
        (issueRow_id payload row) sameTenant sameUid
    · contradiction
  | none =>
    rw [released] at tables
    refine invariant.rewritten member ⟨tables, step.rows⟩ ?_ sound
      (issueRow_id payload item) sameTenant sameUid assigned
    rw [issueRow]
    split
    · next releases =>
      -- No assignment was found, so the tag was not assigned.
      have unassigned : item.carriedTag = none := by
        by_contra carried
        obtain ⟨⟨factTenant, epc, factUid⟩, carried⟩ := Option.ne_none_iff_exists'.mp carried
        obtain ⟨itemTenant, itemUid, tag, _⟩ := StockItem.carriedTag_eq_some.mp carried
        obtain ⟨assignment, found⟩ := invariant.assignmentOfUnit_of_carried member carried
        have nonempty : epc ≠ "" := by simpa [tag, isTruthy] using releases.2
        rw [issuedAssignment, if_pos releases.1, tag] at released
        simp only [Option.filter_some, nonempty, ne_eq, not_false_eq_true, decide_true, if_true,
          Option.bind_some] at released
        rw [itemUid, ← tenant, itemTenant, found] at released
        contradiction
      rw [unassigned]
      split
      · exact StockItem.carriedTag_of_unassigned (by simp)
      · exact StockItem.carriedTag_of_untagged rfl
    · rfl

theorem resolvedIssue (invariant : TagInvariant db) {tenantId itemUid : ℕ} {itemStatus : String}
    {item : StockItem} (step : IssueResolved db after tenantId itemUid itemStatus item) :
    TagInvariant after := by
  obtain ⟨member, _, _⟩ := itemOfUid_eq_some step.found
  have sound := invariant.sound item member
  refine invariant.rewritten member step.written ?_ ?_ rfl rfl rfl id
  · by_cases sold : item.status = some "SOLD"
    · rw [StockItem.carriedTag_of_untagged (sound.sold sold)]
      exact StockItem.carriedTag_of_untagged (sound.sold sold)
    · simp only [StockItem.carriedTag, resolvedRow]
      congr 1
      split
      · simp [sold]
      · rfl
  · refine ⟨fun sold => ?_, sound.assigned⟩
    simp only [resolvedRow] at sold ⊢
    split at sold
    · simp at sold
    · exact sound.sold sold

/-- No two assignments in use are of the same tag of a tenant. -/
theorem distinctTags (invariant : TagInvariant db) :
    ((db.epcAssignments.filterMap EpcAssignment.inUse).map fun fact =>
      (fact.1, fact.2.1)).Nodup := by
  have distinct : ((db.stock.rows.filterMap StockItem.carriedTag).map fun fact =>
      (fact.1, fact.2.1)).Nodup := by
    refine nodup_facts db.stock.distinctTags fun row _ fact carried => ?_
    obtain ⟨tenantId, epc, itemUid⟩ := fact
    obtain ⟨tenant, _, tag, _⟩ := StockItem.carriedTag_eq_some.mp carried
    rw [StockItem.tag, tag, tenant]
    rfl
  exact (List.Perm.map _ invariant.mirrored).nodup_iff.mpr distinct

end TagInvariant

/-! ## Sales -/

/-- The loop of a checkout: the assignments mirror the objects, which are rows as they were or sold
ones without tag. -/
structure BatchTags (db : Db) (batch : SaleBatch) : Prop where
  flushed : batch.session.flushed = db.stock
  kept : batch.session.deleted = []
  nothing : batch.session.added = []
  mirrored : Mirrored EpcAssignment.inUse StockItem.carriedTag batch.assignments
    (db.stock.rows.map batch.session.current)
  ids : batch.assignments.map (·.id) = db.epcAssignments.map (·.id)
  active : ∀ assignment ∈ batch.assignments, assignment.active = true →
    assignment ∈ db.epcAssignments
  units : ∀ row, (batch.session.current row).tenantId = row.tenantId ∧
    (batch.session.current row).itemUid = row.itemUid
  rows : ∀ row ∈ db.stock.rows, batch.session.current row = row ∨
    (batch.session.current row).epc = none ∧ (batch.session.current row).epcStatus ≠ "ASSIGNED"
  saleEpcs : ∀ line ∈ batch.saleLines, line.epc ≠ some ""

private theorem StockItem.carriedTag_of_sold {row : StockItem} (sold : row.status = some "SOLD") :
    row.carriedTag = none :=
  if_neg fun inUse => inUse.2 sold

/-- The objects after a change are the objects before it, with the addressed ones changed. -/
theorem StockSession.map_current_assign {session : StockSession} {rows : List StockItem}
    {ids : List ℕ} {change : StockItem → StockItem} {stable} :
    rows.map (session.assign ids change stable).current = update
    (·.id) ids change (rows.map session.current) := by
  rw [update, List.map_map]
  refine List.map_congr_left fun row _ => ?_
  rw [StockSession.current_assign, Function.comp_apply, StockSession.current_id]

namespace BatchTags

variable {db : Db} {batch : SaleBatch} {sale : PosSale}

theorem start (invariant : TagInvariant db) : BatchTags db (SaleBatch.start db) where
  flushed := rfl
  kept := rfl
  nothing := rfl
  mirrored := by
    rw [show db.stock.rows.map (SaleBatch.start db).session.current =
      db.stock.rows from List.map_id db.stock.rows]
    exact invariant.mirrored
  ids := rfl
  active := fun _ member _ => member
  units := fun _ => ⟨rfl, rfl⟩
  rows := fun _ _ => .inl rfl
  saleEpcs := invariant.saleEpcs

/-- Objects that are sold, and lose the tag that they may have. -/
theorem write (tags : BatchTags db batch) {ids : List ℕ} {change : StockItem → StockItem} {stable}
    {assignments : List EpcAssignment} {saleLines : List PosSaleLine}
    (mirrored : Mirrored EpcAssignment.inUse StockItem.carriedTag assignments
      (update (·.id) ids change (db.stock.rows.map batch.session.current)))
    (sameIds : assignments.map (·.id) = batch.assignments.map (·.id))
    (active : ∀ assignment ∈ assignments, assignment.active = true → assignment ∈ batch.assignments)
    (units : ∀ row, (change row).tenantId = row.tenantId ∧ (change row).itemUid = row.itemUid)
    (untagged : ∀ row ∈ db.stock.rows, row.id ∈ ids → (change (batch.session.current row)).epc =
        none ∧
      (change (batch.session.current row)).epcStatus ≠ "ASSIGNED")
    (saleEpcs : ∀ line ∈ saleLines, line.epc ≠ some "") :
    BatchTags db { session := batch.session.assign ids change stable, assignments, saleLines } where
  flushed := tags.flushed
  kept := tags.kept
  nothing := tags.nothing
  mirrored := by
    rw [StockSession.map_current_assign]
    exact mirrored
  ids := sameIds.trans tags.ids
  active := fun assignment member inUse => tags.active assignment
    (active assignment member inUse) inUse
  units := by
    intro row
    rw [StockSession.current_assign]
    split
    · exact ⟨(units _).1.trans (tags.units row).1, (units _).2.trans (tags.units row).2⟩
    · exact tags.units row
  rows := by
    intro row member
    rw [StockSession.current_assign]
    split
    · next listed => exact .inr (untagged row member listed)
    · exact tags.rows row member
  saleEpcs := saleEpcs

private theorem saleEpcs_update (tags : BatchTags db batch) {lineId : ℕ}
    {change : PosSaleLine → PosSaleLine} (same : ∀ line, (change line).epc = line.epc) :
    ∀ line ∈ update (·.id) [lineId] change batch.saleLines, line.epc ≠ some "" := by
  intro line member
  rcases mem_update_cases member with ⟨old, _⟩ | ⟨before, isBefore, _, rfl⟩
  · exact tags.saleEpcs line old
  · rw [same]
    exact tags.saleEpcs before isBefore

/-- Untagged goods are sold without a word about assignments. -/
theorem sold_sku (tags : BatchTags db batch) (invariant : TagInvariant db) {ids : List ℕ}
    {saleLines : List PosSaleLine} (untagged : ∀ row ∈ db.stock.rows, row.id ∈ ids → row.epc = none)
    (saleEpcs : ∀ line ∈ saleLines, line.epc ≠ some "") :
    BatchTags db { session := batch.session.assign ids sellRow, assignments := batch.assignments,
                   saleLines } := by
  have current : ∀ row ∈ db.stock.rows, row.id ∈ ids →
      (batch.session.current row).epc = none ∧ (batch.session.current row).epcStatus ≠
      "ASSIGNED" := by
    intro row member listed
    rcases tags.rows row member with same | sold
    · rw [same]
      exact ⟨untagged row member listed, fun assigned =>
        (invariant.sound row member).assigned assigned (untagged row member listed)⟩
    · exact sold
  refine tags.write ?_ rfl (fun _ member _ => member) (fun _ => ⟨rfl, rfl⟩) current saleEpcs
  refine tags.mirrored.update_silent fun object isObject listed => ?_
  obtain ⟨row, member, rfl⟩ := List.mem_map.mp isObject
  rw [StockSession.current_id] at listed
  rw [StockItem.carriedTag_of_sold rfl, StockItem.carriedTag_of_untagged
    (current row member listed).1]

/-- What a checkout looks up for a unit is the assignment that is in use for its tag. -/
theorem releaseAssignment_eq (db : Db) (assignments : List EpcAssignment) (tenantId : ℕ)
    {row : StockItem} {epc : String} (tag : row.epc = some epc) (truthy : isTruthy row.epc = true) :
    ∃ found : Option EpcAssignment,
      (∀ assignment ∈ found, assignment ∈ db.epcAssignments ∧
        assignment.inUse = some (tenantId, epc, row.itemUid)) ∧
      (found = none → ∀ assignment ∈ db.epcAssignments, assignment.inUse ≠ some
        (tenantId, epc, row.itemUid)) ∧
      releaseAssignment db assignments tenantId row = update (·.id) (found.map (·.id)).toList
      (fun assignment =>
        { assignment with active := false, lastReleaseReason := some "SOLD", status := "RELEASED" })
            assignments := by
  refine ⟨_, fun assignment isFound => ?_, fun none assignment member inUse =>
    ?_, by rw [releaseAssignment, if_pos truthy]⟩
  · have matching := List.find?_some (Option.mem_def.mp isFound)
    simp only [tag, Bool.and_eq_true, decide_eq_true_eq, Option.some.injEq] at matching
    obtain ⟨⟨⟨tenant, uid⟩, sameTag⟩, active⟩ := matching
    exact ⟨List.mem_of_find?_eq_some isFound, EpcAssignment.inUse_eq_some.mpr
      ⟨active, tenant, sameTag, uid⟩⟩
  · obtain ⟨active, tenant, sameTag, uid⟩ := EpcAssignment.inUse_eq_some.mp inUse
    have rejected := List.find?_eq_none.mp none assignment member
    simp [active, tenant, sameTag, uid, tag] at rejected

private theorem releaseAssignment_of_untagged {assignments : List EpcAssignment} {tenantId : ℕ}
    {row : StockItem} (untagged : row.epc = none) :
    releaseAssignment db assignments tenantId row = assignments := by
  simp only [releaseAssignment, untagged, isTruthy, Option.any_none, Bool.false_eq_true, if_false,
    Option.map_none, Option.toList_none]
  exact update_eq_self fun _ _ => List.not_mem_nil

/-- The object of a tagged unit and its assignment stop stating the tag together, unless they did
before. -/
theorem mirrored_epc (tags : BatchTags db batch) (invariant : TagInvariant db) {row : StockItem}
    {tenantId : ℕ} (member : row ∈ db.stock.rows) (tenant : row.tenantId = tenantId)
    (truthy : isTruthy row.epc = true) :
    Mirrored EpcAssignment.inUse StockItem.carriedTag
      (releaseAssignment db batch.assignments tenantId (batch.session.current row))
      (update (·.id) [(batch.session.current row).id] sellAndUntagRow
        (db.stock.rows.map batch.session.current)) := by
  have isObject : batch.session.current row ∈ db.stock.rows.map batch.session.current :=
    List.mem_map_of_mem member
  have objects : ((db.stock.rows.map batch.session.current).map (·.id)).Nodup := by
    rw [List.map_map, show (fun row => row.id) ∘ batch.session.current = (·.id) from funext fun _ =>
      StockSession.current_id]
    exact db.stock.distinctIds
  have silent (unassigned : (batch.session.current row).carriedTag = none) :
      Mirrored EpcAssignment.inUse StockItem.carriedTag batch.assignments
        (update (·.id) [(batch.session.current row).id] sellAndUntagRow
        (db.stock.rows.map batch.session.current)) := by
    refine tags.mirrored.update_silent fun object another listed => ?_
    rw [eq_of_key_eq objects another isObject (List.mem_singleton.mp listed), unassigned]
    exact StockItem.carriedTag_of_sold rfl
  rcases tags.rows row member with same | ⟨gone, _⟩
  · obtain ⟨epc, tag⟩ : ∃ epc, row.epc = some epc := by
      cases tag : row.epc with
      | none => simp [tag, isTruthy] at truthy
      | some epc => exact ⟨epc, rfl⟩
    obtain ⟨found, isFound, isNone, released⟩ :=
      releaseAssignment_eq db batch.assignments tenantId tag truthy
    cases found with
    | none =>
      have unassigned : row.carriedTag = none := by
        by_contra carried
        obtain ⟨⟨factTenant, factEpc, factUid⟩, carried⟩ := Option.ne_none_iff_exists'.mp carried
        obtain ⟨assignment, isAssignment, inUse⟩ := invariant.mirrored.stated_iff.mpr
          ⟨row, member, carried⟩
        obtain ⟨sameTenant, sameUid, sameTag, _⟩ := StockItem.carriedTag_eq_some.mp carried
        refine isNone rfl assignment isAssignment ?_
        rw [inUse, ← sameTenant, tenant, sameUid, Option.some.inj (tag.symm.trans sameTag)]
      rw [same] at silent ⊢
      rw [released, Option.map_none, Option.toList_none, update_eq_self fun _ _ => List.not_mem_nil]
      exact silent unassigned
    | some assignment =>
      obtain ⟨isAssignment, inUse⟩ := isFound assignment rfl
      obtain ⟨carrier, isCarrier, carried⟩ := invariant.mirrored.stated_iff.mp
        ⟨assignment, isAssignment, inUse⟩
      obtain ⟨sameTenant, sameUid, _⟩ := StockItem.carriedTag_eq_some.mp carried
      obtain rfl := TagInvariant.eq_of_unit isCarrier member (sameTenant.trans tenant.symm) sameUid
      have carriedNow : (batch.session.current carrier).carriedTag = some
          (tenantId, epc, carrier.itemUid) := by
        rw [same]
        exact carried
      obtain ⟨kept, inBatch, keptUse⟩ := tags.mirrored.stated_iff.mpr ⟨_, isObject, carriedNow⟩
      have isKept := tags.active kept inBatch (EpcAssignment.inUse_eq_some.mp keptUse).1
      obtain rfl :=
        eq_of_fact_eq (invariant.distinctTags.of_map _) isKept isAssignment keptUse inUse
      rw [same] at carriedNow isObject ⊢
      rw [released]
      exact tags.mirrored.lose (tags.ids ▸ invariant.assignmentIds) objects inBatch isObject keptUse
        carriedNow rfl (StockItem.carriedTag_of_sold rfl)
  · rw [releaseAssignment_of_untagged gone]
    exact silent (StockItem.carriedTag_of_untagged gone)

/-- A tagged unit is sold, and the assignment of its tag is released. -/
theorem sold_epc (tags : BatchTags db batch) (invariant : TagInvariant db) {row :
      StockItem} {tenantId : ℕ}
    {saleLines : List PosSaleLine} (member : row ∈ db.stock.rows) (tenant : row.tenantId = tenantId)
    (truthy : isTruthy row.epc = true) (saleEpcs : ∀ line ∈ saleLines, line.epc ≠ some "") :
    BatchTags db { session := batch.session.assign [(batch.session.current row).id] sellAndUntagRow
                   assignments :=
                 releaseAssignment db batch.assignments tenantId (batch.session.current row),
                   saleLines } := by
  have untagged : (sellAndUntagRow (batch.session.current row)).epc = none := by
    rcases tags.rows row member with same | ⟨gone, _⟩
    · rw [same]
      exact if_pos truthy
    · simp [sellAndUntagRow, sellTaggedRow, sellRow, gone]
  refine tags.write (tags.mirrored_epc invariant member tenant truthy) ?_ ?_ (fun _ =>
    ⟨rfl, rfl⟩) ?_ saleEpcs
  · exact map_update (by exact fun _ => rfl)
  · intro assignment isAfter inUse
    rcases mem_update_cases isAfter with ⟨old, _⟩ | ⟨before, _, _, rfl⟩
    · exact old
    · contradiction
  · intro other another listed
    rw [StockSession.current_id] at listed
    rw [eq_of_listed member another listed]
    exact ⟨untagged, by simp [sellAndUntagRow, sellTaggedRow]⟩

theorem step {next : SaleBatch} (tags : BatchTags db batch) (invariant : TagInvariant db)
    {line : PosSaleLine} (member : line ∈ getSaleLines db sale.id)
    (success : checkoutLine db sale batch line = .ok next) : BatchTags db next := by
  unfold checkoutLine at success
  cases kind : line.lineType with
  | epc =>
    simp only [kind, Checked.bind_eq_ok, Checked.fetch_eq_ok, StockSession.first_eq_some,
      tags.flushed, Checked.pure_eq_ok] at success
    obtain ⟨_, ⟨row, found, rfl⟩, rfl⟩ := success
    have matching := List.find?_some found
    simp only [unsoldStockFilters, Bool.and_eq_true, decide_eq_true_eq] at matching
    obtain ⟨⟨⟨⟨⟨tenant, _⟩, _⟩, _⟩, _⟩, tag⟩ := matching
    have truthy : isTruthy row.epc = true := by
      have nonempty := invariant.saleEpcs line (mem_getSaleLines.mp member).1
      obtain ⟨epc, named⟩ := Option.ne_none_iff_exists'.mp (line.tagged.mp kind)
      rw [named] at nonempty tag
      rw [tag]
      simpa [isTruthy] using nonempty
    exact tags.sold_epc invariant (List.mem_of_find?_eq_some found) tenant truthy
      (tags.saleEpcs_update (by exact fun _ => rfl))
  | sku =>
    simp only [kind, Checked.bind_eq_ok, Checked.ensure_eq_ok, exists_const,
      Checked.pure_eq_ok] at success
    obtain ⟨_, rfl⟩ := success
    refine tags.sold_sku invariant (fun row isRow listed => ?_)
      (tags.saleEpcs_update (by exact fun _ => rfl))
    rw [StockSession.map_id_select, tags.flushed] at listed
    obtain ⟨other, selected, same⟩ := List.mem_map.mp listed
    obtain ⟨another, matching⟩ := mem_of_mem_oldest selected
    obtain rfl := eq_of_key_eq db.stock.distinctIds another isRow same
    simp only [unsoldStockFilters, Bool.and_eq_true, decide_eq_true_eq] at matching
    exact matching.2.2

end BatchTags

namespace TagInvariant

variable {db after : Db}

theorem checkedOut (invariant : TagInvariant db) {context : RequestContext} {sale : PosSale}
    {payload : CheckoutSaleActionRequest} {totals : PaymentTotals} {advance : Option PosAdvance}
    {batch : SaleBatch} (step : CheckedOut db after context sale payload totals advance batch) :
    TagInvariant after := by
  have tags : BatchTags db batch := Checked.foldlM_keeps (BatchTags db) step.sold (.start invariant)
    fun _ _ _ member tags success => tags.step invariant member success
  have rows : after.stock.rows = db.stock.rows.map batch.session.current := by
    rw [StockSession.commit_eq_ok step.committed,
      StockSession.rowsAfter_of_edits_only tags.kept tags.nothing, tags.flushed]
  have assignments : after.epcAssignments = batch.assignments := by rw [step.tables]
  have lines : after.preloadLines = db.preloadLines := by rw [step.tables]
  have saleLines : after.saleLines = batch.saleLines := by rw [step.tables]
  have follows : ∀ row ∈ after.stock.rows, Follows db row := by
    rw [rows]
    intro object isObject
    obtain ⟨row, member, rfl⟩ := List.mem_map.mp isObject
    refine .inl ⟨row, member, StockSession.current_id.symm, (tags.units row).1.symm,
      (tags.units row).2.symm, fun assigned => ?_⟩
    rcases tags.rows row member with same | ⟨_, unassigned⟩
    · rwa [same] at assigned
    · exact absurd assigned unassigned
  refine ⟨?_, ?_,
    ?_, by rw [lines]; exact invariant.lineIds, by rw [lines]; exact invariant.lineUids, ?_, ?_⟩
  · rw [rows, assignments]
    exact tags.mirrored
  · rw [assignments, tags.ids]
    exact invariant.assignmentIds
  · rw [rows]
    intro object isObject
    obtain ⟨row, member, rfl⟩ := List.mem_map.mp isObject
    rcases tags.rows row member with same | ⟨untagged, unassigned⟩
    · rw [same]
      exact invariant.sound row member
    · exact ⟨fun _ => untagged, fun assigned => absurd assigned unassigned⟩
  · rw [lines]
    exact fun line isLine => (invariant.waits line isLine).follows isLine follows
  · rw [saleLines]
    exact tags.saleEpcs

end TagInvariant

/-! ## Runs -/

/-- The requests of a store on its goods, apart from those that take goods back. -/
def TakesNothingBack : GoodsRequest → Prop
  | .sale (.action _ _ ⟨_, .refundItems _⟩) | .sale (.action _ _ ⟨_, .exchangeItems _⟩) => False
  | _ => True

instance (request : GoodsRequest) : Decidable (TakesNothingBack request) := by
  rcases request with (_ | _ | ⟨_, _, _, (_ | _ | _ | _)⟩) | _
  -- only a refund or an exchange takes something back
  any_goals exact instDecidableTrue
  all_goals exact instDecidableFalse

/-- A request that replaces, takes off or writes off no assigned tag, and assigns tags to units that
exist. -/
def TagsFollow (db : Db) : GoodsRequest → Prop
  | .stock (.action context payload) => ∀ row ∈ db.stock.rows,
      resolvePosTenantId context.tokenData payload.tenantId = .ok row.tenantId → row.epc ≠ none →
        row.epc = payload.action.tag → row.epcStatus ≠ "ASSIGNED"
  | .stock (.assignEpc _ lineId _ _) => ∀ line ∈ db.preloadLines, line.id = lineId →
      ∃ row ∈ db.stock.rows, line.savedStockItemId = some row.id
  | _ => True

instance (db : Db) (request : GoodsRequest) : Decidable (TagsFollow db request) := by
  unfold TagsFollow
  rcases request with _ | request
  · infer_instance
  · cases request <;> infer_instance

namespace TagInvariant

variable {db after : Db}

theorem stock (invariant : TagInvariant db) {request : StockRequest}
    (effect : StockEffect db after request) (allowed : TagsFollow db (.stock request)) :
    TagInvariant after := by
  cases effect with
  | importedEpc items step => exact invariant.imported step
  | importedSku items step => exact invariant.imported step
  | migrated row step => exact invariant.migrated step
  | acted tenantId resolved step =>
    exact invariant.acted step fun row member tenant => allowed row member (tenant ▸ resolved)
  | staged lines step => exact invariant.staged step
  | patched line change step => exact invariant.patched step
  | savedPending line step => exact invariant.savedPending step
  | savedTagged line epc step => exact invariant.savedTagged step
  | assigned line step =>
    obtain ⟨row, member, saved⟩ := allowed line step.member step.id
    exact invariant.assigned step member saved
  | released scopedTenantId assignment step => exact invariant.released step
  | marked scopedTenantId item resolved step => exact invariant.marked step
  | resolvedIssue scopedTenantId item resolved step => exact invariant.resolvedIssue step

theorem sale (invariant : TagInvariant db) {request : SaleRequest}
    (effect : SaleEffect db after request) (allowed : TakesNothingBack (.sale request)) :
    TagInvariant after := by
  cases effect with
  | created sale lines step =>
    rw [step.tables]
    refine invariant.congr rfl rfl rfl fun line member => ?_
    rcases List.mem_append.mp member with old | new
    · exact invariant.saleEpcs line old
    · exact newSaleLines_epc step.resolved line new
  | updated tenantId sale target lines step =>
    rw [step.tables]
    refine invariant.congr rfl rfl rfl fun line member => ?_
    rcases List.mem_append.mp member with old | new
    · exact invariant.saleEpcs line (List.mem_filter.mp old).1
    · exact newSaleLines_epc step.resolved line new
  | canceled sale target step =>
    rw [step.tables]
    exact invariant.congr rfl rfl rfl invariant.saleEpcs
  | checkedOut sale target totals advance batch step => exact invariant.checkedOut step
  | refunded => contradiction
  | exchanged => contradiction

/-- A store without goods has no tags. -/
theorem initial (noStock : db.stock.rows = []) (noAssignments : db.epcAssignments = [])
    (noLines : db.preloadLines = []) (noSales : db.saleLines = []) : TagInvariant db := by
  refine ⟨?_, by simp [noAssignments], by simp [noStock], by simp [noLines], by simp [noLines],
    by simp [noLines], by simp [noSales]⟩
  rw [noStock, noAssignments]
  exact .nil

end TagInvariant

/-- A tag of a tenant: it has at most one assignment in use, which is one of the unit that carries
it; and when no unsold unit holds it, it can be assigned again. -/
structure TagCoherent (db : Db) (tenantId : ℕ) (epc : String) : Prop where
  single : db.epcAssignments.countP (fun assignment => assignment.active && assignment.tenantId =
    tenantId && assignment.epc = epc) ≤ 1
  carried : ∀ itemUid, (∃ assignment ∈ db.epcAssignments, assignment.active = true ∧
      assignment.tenantId = tenantId ∧ assignment.epc = epc ∧ assignment.itemUid = itemUid) ↔
    ∃ row ∈ db.stock.rows, row.tenantId = tenantId ∧ row.itemUid = itemUid ∧ row.epc = some epc ∧
      row.epcStatus = "ASSIGNED" ∧ row.status ≠ some "SOLD"
  reusable : (∀ row ∈ db.stock.rows, row.tenantId = tenantId → row.epc = some epc →
    row.status = some "SOLD") → assertEpcAvailable db tenantId epc = .ok () ∧
      ∀ row ∈ db.stock.rows, row.tenantId = tenantId → row.epc ≠ some epc

theorem TagInvariant.coherent {db : Db} (invariant : TagInvariant db) (tenantId : ℕ)
    (epc : String) :
    TagCoherent db tenantId epc := by
  have carried : ∀ itemUid, (∃ assignment ∈ db.epcAssignments, assignment.active = true ∧
      assignment.tenantId = tenantId ∧ assignment.epc = epc ∧ assignment.itemUid = itemUid) ↔
      ∃ row ∈ db.stock.rows, row.tenantId = tenantId ∧ row.itemUid = itemUid ∧ row.epc = some epc ∧
        row.epcStatus = "ASSIGNED" ∧ row.status ≠ some "SOLD" := by
    intro itemUid
    simp only [← EpcAssignment.inUse_eq_some, ← StockItem.carriedTag_eq_some]
    exact invariant.mirrored.stated_iff
  refine ⟨?_, carried, fun unsold => ?_⟩
  · have once := List.nodup_iff_count_le_one.mp invariant.distinctTags (tenantId, epc)
    refine le_trans (le_of_eq ?_) once
    rw [List.count, List.countP_map, List.countP_filterMap]
    refine List.countP_congr fun assignment _ => ?_
    rw [EpcAssignment.inUse]
    split
    · next active => simp [active]
    · next inactive => simp [inactive]
  · have untagged : ∀ row ∈ db.stock.rows, row.tenantId = tenantId → row.epc ≠ some epc := by
      intro row member tenant tag
      have gone := (invariant.sound row member).sold (unsold row member tenant tag)
      rw [gone] at tag
      contradiction
    refine ⟨assertEpcAvailable_eq_ok.mpr ⟨?_, fun row member tenant tag =>
        absurd tag (untagged row member tenant)⟩, untagged⟩
    refine List.find?_eq_none.mpr fun assignment member inUse => ?_
    simp only [Bool.and_eq_true, decide_eq_true_eq] at inUse
    obtain ⟨⟨tenant, tag⟩, active⟩ := inUse
    obtain ⟨row, isRow, rowTenant, _, rowTag, _⟩ :=
      (carried assignment.itemUid).mp ⟨assignment, member, active, tenant, tag, rfl⟩
    exact untagged row isRow rowTenant rowTag

namespace Sample

/-- A shop that has no goods yet. -/
def emptyShop : Db := { stores, returnPolicies := [{ tenantId := 1, requireReceipt := false }] }

def firstTag : String := "0000000000000000000000E1"

def secondTag : String := "0000000000000000000000E2"

def scarfLine (epc : Option String) : PreloadLineInput :=
  { sku := some "SCARF", epc, locationCode := some "FLOOR", pool := some "SALE",
    salePrice := some ⟨2000⟩ }

/-- One scarf is saved with its tag, another waits for one. -/
def scarvesArrive : List GoodsRequest :=
  [.stock (.createPreload admin
      { storeId := some 10, lines := [scarfLine (some firstTag), scarfLine none] }),
    .stock (.saveLine admin 1 none), .stock (.saveLine admin 2 none)]

/-- The second scarf gets its tag, and the first is sold. -/
def scarvesMove : List GoodsRequest :=
  scarvesArrive ++ [.stock (.assignEpc admin 2 none secondTag),
    draftOf { lineType := .epc, epc := some firstTag },
    actOnSale 1 (.checkout { payments := [byCard 20] })]

private theorem scarvesMove_allowed :
    (runAllowed goodsStep (fun db request => TakesNothingBack request ∧ TagsFollow db request)
    emptyShop scarvesMove).isSome = true := by decide +kernel

def scarvesTagged : Db :=
  (runAllowed goodsStep (fun db request => TakesNothingBack request ∧ TagsFollow db request)
  emptyShop scarvesMove).get scarvesMove_allowed

/-- The tag of the first scarf is replaced. -/
def scarfRelabeled : List GoodsRequest :=
  scarvesArrive ++
    [.stock (.action admin { transactionId := some "relabel",
                             action := .replaceEpc firstTag secondTag })]

private theorem scarfRelabeled_commits :
    (runAllowed goodsStep (fun _ request => TakesNothingBack request)
    emptyShop scarfRelabeled).isSome = true := by decide +kernel

def tagLost : Db := (runAllowed goodsStep (fun _ request => TakesNothingBack request)
  emptyShop scarfRelabeled).get scarfRelabeled_commits

end Sample

end ArisCloud

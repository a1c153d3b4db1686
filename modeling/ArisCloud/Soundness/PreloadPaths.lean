import ArisCloud.Library.Reachability
import ArisCloud.Proofs.StockSteps
import ArisCloud.Soundness.SoldUnits

/-! # Two ways from a preload line to a tagged unit

A line is saved with its tag, or saved to wait for one that is assigned later. Both write the same
line and the same assignment. The unit is the same but for its print status: only a unit that is
saved with its tag is ready to print. However often lines are patched, saved and tagged, a line is
saved once.
-/

namespace ArisCloud

open KeyedRows

/-! ## The two ways -/

/-- The database in which a line names a tag, or none. -/
def Db.setLineEpc (db : Db) (lineId : ℕ) (epc : Option String) : Db :=
  db.updatePreloadLine lineId fun line => { line with epc }

/-- A unit without its identifier and its time. -/
def StockItem.content (row : StockItem) : StockItem := { row with id := 0, createdAt := 0 }

/-- A unit without its print status as well. -/
def StockItem.unprinted (row : StockItem) : StockItem := { row.content with printStatus := "" }

/-- A line without the identifier of its unit. -/
def PreloadLine.content (line : PreloadLine) : PreloadLine := { line with savedStockItemId := none }

/-- An assignment without its identifier. -/
def EpcAssignment.content (assignment : EpcAssignment) : EpcAssignment :=
  { assignment with id := 0 }

/-- The units, as far as they are looked at, the lines and the assignments are the same. -/
structure SameOutcome (view : StockItem → StockItem) (direct assigned : Db) : Prop where
  items : direct.stock.rows.map view = assigned.stock.rows.map view
  lines : direct.preloadLines.map PreloadLine.content =
    assigned.preloadLines.map PreloadLine.content
  assignments : direct.epcAssignments.map EpcAssignment.content =
    assigned.epcAssignments.map EpcAssignment.content

/-- A line that was saved without a tag. -/
def PreloadLine.waiting (itemId : ℕ) (line : PreloadLine) : PreloadLine :=
  { line with epc := none, lifecycleState := .pendingEpc, itemStatus := "PENDING_EPC",
              savedStockItemId := some itemId }

/-- A line whose unit has its tag. -/
def PreloadLine.tagged (epc : String) (itemId : ℕ) (line : PreloadLine) : PreloadLine :=
  { line with
    epc := some epc
    lifecycleState := .savedEpcFinal
    itemStatus := "ACTIVE"
    epcStatus := "ASSIGNED"
    savedStockItemId := some itemId }

section

variable {db after : Db} {context : RequestContext} {lineId : ℕ} {tenantId : Option ℕ}
    {line : PreloadLine} {epc : String}

private theorem getPreloadLine_first
    (found : getPreloadLine db context lineId tenantId = .ok line) :
    db.preloadLines.find? (fun line => line.id = lineId) = some line := by
  simp only [getPreloadLine, Checked.bind_eq_ok, Checked.fetch_eq_ok, Option.filter_eq_some_iff]
    at found
  obtain ⟨_, _, first, _⟩ := found
  exact first

/-- The first line with an identifier, in a table whose lines with it were changed, was the first
before. -/
theorem first_update {change : PreloadLine → PreloadLine}
    (stable : ∀ line, (change line).id = line.id)
    (first : (update (·.id) [lineId] change db.preloadLines).find? (fun line => line.id = lineId) =
      some line) :
    ∃ original, db.preloadLines.find? (fun line => line.id = lineId) = some original ∧
    original.id = lineId ∧
      line = change original := by
  rw [find?_update stable] at first
  obtain ⟨original, isFirst, rfl⟩ := Option.map_eq_some_iff.mp first
  have id : original.id = lineId := by simpa using List.find?_some isFirst
  exact ⟨original, isFirst, id, if_pos (List.mem_singleton.mpr id)⟩

private theorem freshStockItemId_setLineEpc (tag : Option String) :
    (db.setLineEpc lineId tag).freshStockItemId = db.freshStockItemId := by
  have units : (db.setLineEpc lineId tag).preloadLines.map (·.savedStockItemId) =
      db.preloadLines.map (·.savedStockItemId) := map_update (by exact fun _ => rfl)
  have columns (db : Db) : db.freshStockItemId =
      freshId (db.stock.rows.map (·.id) ++ (db.preloadLines.map (·.savedStockItemId)).filterMap
      id) := by
    rw [List.filterMap_map]
    rfl
  rw [columns, columns, units]
  rfl

/-- A line with a tag or without makes the same unit, which does not depend on what is set. -/
theorem savedItem_setLineEpc (original : PreloadLine) (tag : Option String) :
    savedItem (db.setLineEpc lineId tag) context { original with epc := tag } =
    savedItem db context original := by
  rw [savedItem, freshStockItemId_setLineEpc, savedItem]

/-- The row of the unit that waits is the one that a tag is assigned to. -/
theorem update_added {rows : List StockItem} {item : StockItem} {change : StockItem → StockItem}
    (fresh : ∀ row ∈ rows, row.id ≠ item.id) :
    update (·.id) [item.id] change (rows ++ [item]) = rows ++ [change item] := by
  rw [update_append, update_eq_self fun row member listed =>
    fresh row member (List.mem_singleton.mp listed)]
  simp [update]

/-- What a line leaves behind that was saved, with its tag or without. -/
structure LineSaved (db after : Db) (line : PreloadLine) (item : StockItem)
    (change : ℕ → PreloadLine → PreloadLine) (assignments : List EpcAssignment) : Prop where
  first : db.preloadLines.find? (fun other => other.id = line.id) = some line
  rows : after.stock.rows = db.stock.rows ++ [item]
  lines : after.preloadLines = update (·.id) [line.id] (change db.freshStockItemId) db.preloadLines
  assignments : after.epcAssignments = assignments

private theorem savePreloadLine_direct (named : epc ≠ "")
    (saved : savePreloadLine (db.setLineEpc lineId (some epc)) context lineId tenantId =
      .ok after) :
    ∃ line, line.id = lineId ∧
      LineSaved db after line
      (tagRow epc { savedItem db context line with printStatus := "READY_TO_PRINT" }) (.tagged epc)
        (db.addEpcAssignment line.tenantId line.storeId epc line.itemUid).epcAssignments := by
  obtain ⟨_, found, way⟩ := savePreloadLine_ok saved
  obtain ⟨line, first, rfl, rfl⟩ := first_update (by exact fun _ => rfl)
    (getPreloadLine_first found)
  have isNamed : (some epc).filter (· ≠ "") = some epc := by simp [named]
  rw [isNamed] at way
  obtain ⟨_, _⟩ | ⟨_, same, step⟩ := way
  · contradiction
  obtain rfl := Option.some.inj same
  refine ⟨line, rfl, first, ?_, ?_, ?_⟩
  · rw [step.rows, savedItem_setLineEpc]
    rfl
  · have lines := congrArg Db.preloadLines step.tables
    refine lines.trans ((update_update (by exact fun _ => rfl)).trans ?_)
    simp only [savedItem, freshStockItemId_setLineEpc]
    rfl
  · have written := congrArg Db.epcAssignments step.tables
    exact written

private theorem savePreloadLine_waiting
    (saved : savePreloadLine (db.setLineEpc lineId none) context lineId tenantId = .ok after) :
    ∃ line, line.id = lineId ∧ LineSaved db after line
    (savedItem db context line) .waiting db.epcAssignments := by
  obtain ⟨_, found, way⟩ := savePreloadLine_ok saved
  obtain ⟨line, first, rfl, rfl⟩ := first_update (by exact fun _ => rfl)
    (getPreloadLine_first found)
  obtain ⟨_, step⟩ | ⟨_, never, _⟩ := way
  case inr => contradiction
  refine ⟨line, rfl, first, ?_, ?_, ?_⟩
  · rw [step.rows, savedItem_setLineEpc]
    rfl
  · have lines := congrArg Db.preloadLines step.tables
    refine lines.trans ((update_update (by exact fun _ => rfl)).trans ?_)
    simp only [savedItem, freshStockItemId_setLineEpc]
    rfl
  · have written := congrArg Db.epcAssignments step.tables
    exact written

/-- A tag that is assigned to the unit of a line that waits for one. -/
theorem assignPendingEpc_waiting {pending : Db}
    (waits : LineSaved db pending line (savedItem db context line) .waiting db.epcAssignments)
    {assigning : RequestContext}
    (success : assignPendingEpc pending assigning line.id tenantId epc = .ok after) :
    LineSaved db after line (tagRow epc (savedItem db context line)) (.tagged epc)
      (db.addEpcAssignment line.tenantId line.storeId epc line.itemUid).epcAssignments := by
  obtain ⟨_, found, step⟩ := assignPendingEpc_ok success
  have isWaiting := getPreloadLine_first found
  rw [waits.lines] at isWaiting
  obtain ⟨original, first, _, rfl⟩ := first_update (by exact fun _ => rfl) isWaiting
  obtain rfl := Option.some.inj (waits.first.symm.trans first)
  refine ⟨first, ?_, ?_, ?_⟩
  · have fresh : ∀ row ∈ db.stock.rows, row.id ≠ (savedItem db context line).id := by
      intro row member
      have below := stockItem_id_lt_fresh member
      exact below.ne
    rw [step.rows, waits.rows]
    exact update_added fresh
  · have lines := congrArg Db.preloadLines step.tables
    refine lines.trans ?_
    change update _ _ _ pending.preloadLines = _
    rw [waits.lines]
    exact update_update (by exact fun _ => rfl)
  · have assignments := congrArg Db.epcAssignments step.tables
    refine assignments.trans ?_
    change pending.epcAssignments ++ _ = _
    simp only [waits.assignments]
    rfl

end

/-! ## One unit for each line -/

/-- Requests that patch, save or tag preload lines. -/
def StockRequest.onPreloadLine : StockRequest → Bool
  | .patchLine .. | .saveLine .. | .assignEpc .. => true
  | _ => false

/-- Requests that save a line. -/
def StockRequest.saves (lineId : ℕ) : StockRequest → Bool
  | .saveLine _ id _ => id = lineId
  | _ => false

/-- The tenant and the item number of the unit that a line becomes. -/
def Db.unitOf (db : Db) (lineId : ℕ) : Option (ℕ × ℕ) :=
  (db.preloadLines.find? (·.id = lineId)).map fun line => (line.tenantId, line.itemUid)

/-- The tenants and the item numbers of the stock. -/
def Db.units (db : Db) : List (ℕ × ℕ) := db.stock.rows.map fun row => (row.tenantId, row.itemUid)

/-- A line became a unit. -/
def Yielded (db : Db) (lineId : ℕ) : Prop := ∃ unit ∈ db.units, db.unitOf lineId = some unit

/-- What requests on preload lines keep: which unit a line becomes, and the units there are. -/
structure UnitsKept (db after : Db) (more : List (ℕ × ℕ)) : Prop where
  lines : ∀ lineId, after.unitOf lineId = db.unitOf lineId
  units : after.units = db.units ++ more

section

variable {db after : Db} {lineId : ℕ}

private theorem unitOf_updatePreloadLine (otherId : ℕ) {change : PreloadLine → PreloadLine}
    (id : ∀ line, (change line).id = line.id)
    (unit : ∀ line, ((change line).tenantId, (change line).itemUid) =
      (line.tenantId, line.itemUid)) :
    (db.updatePreloadLine otherId change).unitOf lineId = db.unitOf lineId := by
  rw [Db.unitOf, Db.updatePreloadLine, find?_update id, Option.map_map, Db.unitOf]
  congr 1
  funext line
  simp only [Function.comp_apply]
  split
  · exact unit line
  · rfl

/-- A save adds the unit of its line. -/
theorem savePreloadLine_units {context : RequestContext} {tenantId : Option ℕ}
    (success : savePreloadLine db context lineId tenantId = .ok after) :
    ∃ unit, db.unitOf lineId = some unit ∧ UnitsKept db after [unit] := by
  obtain ⟨line, found, way⟩ := savePreloadLine_ok success
  refine ⟨(line.tenantId, line.itemUid), by rw [Db.unitOf, getPreloadLine_first found,
      Option.map_some], ?_⟩
  obtain ⟨_, step⟩ | ⟨epc, _, step⟩ := way
  · constructor
    · intro lineId
      rw [step.tables]
      exact unitOf_updatePreloadLine _ (fun _ => rfl) (fun _ => rfl)
    · rw [Db.units, step.rows, List.map_append]
      rfl
  · constructor
    · intro lineId
      rw [step.tables]
      exact unitOf_updatePreloadLine _ (fun _ => rfl) (fun _ => rfl)
    · rw [Db.units, step.rows, List.map_append]
      rfl

/-- Every request on preload lines keeps the units, and at most adds one. -/
theorem stockStep_units {request : StockRequest} (preloads : request.onPreloadLine = true)
    (success : stockStep db request = .ok after) : ∃ more, UnitsKept db after more := by
  cases request with
  | patchLine context lineId tenantId payload =>
    obtain ⟨line, change, step⟩ := patchPreloadLine_ok success
    refine ⟨[], fun lineId => ?_, ?_⟩
    · rw [step.tables]
      exact unitOf_updatePreloadLine _ step.id fun line => by rw [step.tenantId, step.itemUid]
    · rw [step.tables, List.append_nil]
      rfl
  | saveLine context lineId tenantId =>
    obtain ⟨unit, _, kept⟩ := savePreloadLine_units success
    exact ⟨_, kept⟩
  | assignEpc context lineId tenantId epc =>
    obtain ⟨line, _, step⟩ := assignPendingEpc_ok success
    refine ⟨[], fun lineId => ?_, ?_⟩
    · rw [step.tables]
      exact unitOf_updatePreloadLine _ (fun _ => rfl) (fun _ => rfl)
    · rw [Db.units, step.rows, map_update (by exact fun _ => rfl), List.append_nil]
      rfl
  | _ => cases preloads

/-- A line that became a unit is not saved again. -/
theorem not_yielded_of_save {context : RequestContext} {tenantId : Option ℕ}
    (success : savePreloadLine db context lineId tenantId = .ok after) : ¬ Yielded db lineId := by
  rintro ⟨unit, present, isUnit⟩
  obtain ⟨saved, isSaved, kept⟩ := savePreloadLine_units success
  obtain rfl := Option.some.inj (isUnit.symm.trans isSaved)
  have distinct : (db.units ++ [unit]).Nodup := kept.units ▸ after.stock.distinctUids
  exact List.disjoint_of_nodup_append distinct present (List.mem_singleton_self unit)

private theorem yielded_of_save {context : RequestContext} {tenantId : Option ℕ}
    (success : savePreloadLine db context lineId tenantId = .ok after) : Yielded after lineId := by
  obtain ⟨saved, isSaved, kept⟩ := savePreloadLine_units success
  refine ⟨saved, ?_, (kept.lines lineId).trans isSaved⟩
  rw [kept.units]
  exact List.mem_append_right _ (List.mem_singleton_self saved)

theorem Yielded.step {request : StockRequest} (yielded : Yielded db lineId)
    (preloads : request.onPreloadLine = true) (success : stockStep db request = .ok after) :
    Yielded after lineId := by
  obtain ⟨unit, present, isUnit⟩ := yielded
  obtain ⟨more, kept⟩ := stockStep_units preloads success
  refine ⟨unit, ?_, (kept.lines lineId).trans isUnit⟩
  rw [kept.units]
  exact List.mem_append_left _ present

/-- No run saves a line twice, or a line that became a unit before it. -/
theorem saves_le_one {history : List (Db × StockRequest)} {last : Db}
    (run : Requests.Run stockStep db history last)
    (preloads : ∀ entry ∈ history, entry.2.onPreloadLine = true) (lineId : ℕ) :
    history.countP (fun entry => entry.2.saves lineId) ≤ 1 ∧
      (Yielded db lineId → history.countP (fun entry => entry.2.saves lineId) = 0) := by
  induction run with
  | finish => simp
  | @commit db request next last history committed rest ih =>
    obtain ⟨first, later⟩ := List.forall_mem_cons.mp preloads
    obtain ⟨once, never⟩ := ih later
    by_cases saves : request.saves lineId = true
    · cases request with
      | saveLine context id tenantId =>
        obtain rfl : id = lineId := by simpa [StockRequest.saves] using saves
        have none := never (yielded_of_save committed)
        rw [List.countP_cons, if_pos saves, none]
        exact ⟨le_rfl, fun yielded => absurd yielded (not_yielded_of_save committed)⟩
      | _ => cases saves
    · rw [List.countP_cons, if_neg saves]
      exact ⟨once, fun yielded => never (yielded.step first committed)⟩

end

/-- Every line was saved at most once, and is at most one unit of the stock. -/
structure OneUnitEach (history : List (Db × StockRequest)) (last : Db) : Prop where
  saves : ∀ lineId, history.countP (fun entry => entry.2.saves lineId) ≤ 1
  units : ∀ line ∈ last.preloadLines, last.units.count (line.tenantId, line.itemUid) ≤ 1

/-! ## The theorem -/

/-- Whenever both ways succeed they differ in the print status of the unit, and in nothing else; and
no run of patches, saves and assignments makes two units of a line. -/
theorem preload_paths_print_status (db direct pending assigned : Db)
    (saveContext pendingContext assignContext : RequestContext) (lineId : ℕ) (tenantId : Option ℕ)
    (epc : String) (named : epc ≠ "")
    (saved : savePreloadLine (db.setLineEpc lineId (some epc)) saveContext lineId tenantId =
      .ok direct)
    (waiting : savePreloadLine (db.setLineEpc lineId none) pendingContext lineId tenantId =
      .ok pending)
    (tagged : assignPendingEpc pending assignContext lineId tenantId epc = .ok assigned) :
    ¬ SameOutcome StockItem.content direct assigned ∧
    SameOutcome StockItem.unprinted direct assigned ∧
      ∀ (start : Db) (history : List (Db × StockRequest)) (last : Db),
      Requests.Run stockStep start history last →
        (∀ entry ∈ history, entry.2.onPreloadLine = true) → OneUnitEach history last := by
  obtain ⟨line, rfl, direct⟩ := savePreloadLine_direct named saved
  obtain ⟨other, same, waits⟩ := savePreloadLine_waiting waiting
  have first := waits.first
  rw [same, direct.first] at first
  obtain rfl := Option.some.inj first
  have assigned := assignPendingEpc_waiting waits tagged
  refine ⟨fun outcome => ?_, ⟨?_, ?_, ?_⟩, fun start history last run preloads =>
    ⟨fun lineId => ?_, fun line _ => ?_⟩⟩
  · have items := outcome.items
    rw [direct.rows, assigned.rows, List.map_append, List.map_append, List.append_cancel_left_eq]
      at items
    have printed : "READY_TO_PRINT" = "NOT_REQUESTED" := congrArg StockItem.printStatus
      (List.singleton_inj.mp items)
    contradiction
  · rw [direct.rows, assigned.rows, List.map_append, List.map_append]
    rfl
  · rw [direct.lines, assigned.lines]
  · rw [direct.assignments, assigned.assignments]
  · exact (saves_le_one run preloads lineId).1
  · exact List.nodup_iff_count_le_one.mp last.stock.distinctUids _

namespace Sample

/-- A scarf is about to enter the stock. -/
def scarfStaged : Db :=
  { stores
    preloadLines := [{ id := 1, itemUid := 1, tenantId := 1, storeId := some 10,
                       sku := some "SCARF", epc := none, description := none, var1Value := none,
                       var2Value := none, pool := some "SALE", locationCode := some "FLOOR",
                       vendible := true, costPrice := none, suggestedPrice := none,
                       salePrice := some ⟨2000⟩, imageAssetId := none }] }

def scarfTag : String := "0000000000000000000000E1"

private theorem scarfSavedTagged_commits :
    (savePreloadLine (scarfStaged.setLineEpc 1 (some scarfTag)) admin 1 none).toOption.isSome =
    true := by decide +kernel

def scarfSavedTagged : Db :=
  (savePreloadLine (scarfStaged.setLineEpc 1 (some scarfTag)) admin 1 none).toOption.get
    scarfSavedTagged_commits

private theorem scarfWaits_commits :
    (savePreloadLine (scarfStaged.setLineEpc 1 none) admin 1 none).toOption.isSome = true := by
  decide +kernel

def scarfWaits : Db :=
  (savePreloadLine (scarfStaged.setLineEpc 1 none) admin 1 none).toOption.get scarfWaits_commits

private theorem scarfAssigned_commits :
    (assignPendingEpc scarfWaits admin 1 none scarfTag).toOption.isSome = true := by
  decide +kernel

def scarfAssigned : Db :=
  (assignPendingEpc scarfWaits admin 1 none scarfTag).toOption.get scarfAssigned_commits

end Sample

/-- One scarf on both ways. -/
theorem preload_paths_print_status_scarf :
    ¬ SameOutcome StockItem.content Sample.scarfSavedTagged Sample.scarfAssigned ∧
      SameOutcome StockItem.unprinted Sample.scarfSavedTagged Sample.scarfAssigned ∧
      ∀ (start : Db) (history : List (Db × StockRequest)) (last : Db),
      Requests.Run stockStep start history last →
        (∀ entry ∈ history, entry.2.onPreloadLine = true) → OneUnitEach history last :=
  preload_paths_print_status Sample.scarfStaged Sample.scarfSavedTagged Sample.scarfWaits
    Sample.scarfAssigned Sample.admin Sample.admin Sample.admin 1 none Sample.scarfTag
    (by decide +kernel) (Checked.eq_ok_get _) (Checked.eq_ok_get _)
    (Checked.eq_ok_get _)

/-- The scarf that is saved with its tag is ready to print, and the one that gets it later is
not. -/
theorem scarf_waits_unprinted :
    ¬ ∀ (db direct pending assigned : Db) (context : RequestContext) (lineId : ℕ)
      (tenantId : Option ℕ) (epc : String),
      isEpc epc = true → savePreloadLine (db.setLineEpc lineId (some epc)) context lineId tenantId =
      .ok direct →
        savePreloadLine (db.setLineEpc lineId none) context lineId tenantId = .ok pending →
          assignPendingEpc pending context lineId tenantId epc = .ok assigned →
            SameOutcome StockItem.content direct assigned := by
  intro same
  have outcome :=
    same Sample.scarfStaged Sample.scarfSavedTagged Sample.scarfWaits Sample.scarfAssigned
      Sample.admin 1 none
    Sample.scarfTag (by decide +kernel) (Checked.eq_ok_get _) (Checked.eq_ok_get _)
    (Checked.eq_ok_get _)
  have items : Sample.scarfSavedTagged.stock.rows.map StockItem.content ≠
      Sample.scarfAssigned.stock.rows.map StockItem.content := by decide +kernel
  exact items outcome.items

end ArisCloud

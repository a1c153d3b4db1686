import ArisCloud.Model.IntegrityChecks
import ArisCloud.Proofs.StockSteps
import ArisCloud.Proofs.TransferSteps

/-! # The tags that a request brings into the stock

A request leaves the tag of a row alone, takes it off, or gives the row a tag that the request
names. Sales and transfers name none, and a label that a return prints has too many digits to be a
tag. The lemmas below say which tags each request brings, and that every other tag in the stock was
on its row before.
-/

namespace ArisCloud

open KeyedRows

variable {db after : Db}

/-- A tag that a request gives to a unit of a tenant: to the row that it names, or to a new or
untagged one. -/
structure NewTag where
  tenantId : ℕ
  epc : String
  unit : Option ℕ := none
deriving DecidableEq, Repr

structure NewTag.IsOf (tag : NewTag) (object : StockItem) : Prop where
  tenant : object.tenantId = tag.tenantId
  epc : object.epc = some tag.epc
  unit : ∀ id ∈ tag.unit, object.id = id

/-- The row had its tag before. -/
def HadTag (db : Db) (object : StockItem) : Prop :=
  ∃ row ∈ db.stock.rows, row.id = object.id ∧ row.tenantId = object.tenantId ∧ row.epc = object.epc

/-- Every tag with the digits of a tag was there before or is one of those that were brought. -/
def TagsFrom (db after : Db) (brought : List NewTag) : Prop :=
  ∀ object ∈ after.stock.rows, normalizeEpc object.epc ≠ none → HadTag db object ∨ ∃ tag ∈ brought,
    tag.IsOf object

/-! ## Ways of writing the stock -/

section Writes

variable {brought : List NewTag} {ids : List ℕ} {change : StockItem → StockItem}
    {items : List StockItem}

private theorem tagsFrom_of_sub (sub : ∀ object ∈ after.stock.rows, HadTag db object) :
    TagsFrom db after brought :=
  fun object member _ => .inl (sub object member)

theorem tagsFrom_of_stock (same : after.stock = db.stock) : TagsFrom db after brought :=
  tagsFrom_of_sub fun object member => ⟨object, same ▸ member, rfl, rfl, rfl⟩

private theorem tagsFrom_of_filter {kept : StockItem → Bool}
    (rows : after.stock.rows = db.stock.rows.filter kept) :
    TagsFrom db after brought := by
  refine tagsFrom_of_sub fun object member => ?_
  rw [rows] at member
  exact ⟨object, (List.mem_filter.mp member).1, rfl, rfl, rfl⟩

/-- Rows whose tags are replaced by those that are brought. -/
theorem tagsFrom_of_retag (rows : after.stock.rows = update (·.id) ids change db.stock.rows)
    (tags : ∀ row ∈ db.stock.rows, row.id ∈ ids → ∃ tag ∈ brought, tag.IsOf (change row)) :
    TagsFrom db after brought := by
  intro object member _
  rw [rows] at member
  rcases mem_update_cases member with ⟨old, _⟩ | ⟨row, isRow, listed, rfl⟩
  · exact .inl ⟨object, old, rfl, rfl, rfl⟩
  · exact .inr (tags row isRow listed)

/-- Rows that keep their tag or lose it. -/
theorem tagsFrom_of_update (rows : after.stock.rows = update (·.id) ids change db.stock.rows)
    (columns : ∀ row, (change row).id = row.id ∧ (change row).tenantId = row.tenantId)
    (tags : ∀ row, (change row).epc = row.epc ∨ (change row).epc = none) :
    TagsFrom db after brought := by
  intro object member known
  rw [rows] at member
  rcases mem_update_cases member with ⟨old, _⟩ | ⟨row, isRow, _, rfl⟩
  · exact .inl ⟨object, old, rfl, rfl, rfl⟩
  · rcases tags row with same | gone
    · exact .inl ⟨row, isRow, (columns row).1.symm, (columns row).2.symm, same.symm⟩
    · rw [gone] at known
      contradiction

private theorem tagsFrom_of_append (rows : after.stock.rows = db.stock.rows ++ items)
    (tags : ∀ item ∈ items, item.epc = none ∨ ∃ tag ∈ brought, tag.IsOf item) :
    TagsFrom db after brought := by
  intro object member known
  rw [rows] at member
  rcases List.mem_append.mp member with old | new
  · exact .inl ⟨object, old, rfl, rfl, rfl⟩
  · refine (tags object new).elim (fun untagged => ?_) .inr
    rw [untagged] at known
    contradiction

end Writes

/-! ## The stock router -/

/-- The tenant of a request that commits. -/
def scopedTenants (context : RequestContext) (tenantId : Option ℕ) : List ℕ :=
  (resolvePosTenantId context.tokenData tenantId).toOption.toList

private theorem mem_scopedTenants {context : RequestContext} {requested : Option ℕ} {tenantId : ℕ}
    (resolved : resolvePosTenantId context.tokenData requested = .ok tenantId) :
    tenantId ∈ scopedTenants context requested := by
  simp [scopedTenants, resolved, Except.toOption]

/-- The tags that a request of the stock router brings. -/
def StockRequest.newTags (db : Db) : StockRequest → List NewTag
  | .importEpc context payload => (scopedTenants context payload.tenantId).flatMap fun tenantId =>
      (payload.lines.filterMap (·.epc)).map fun epc => { tenantId, epc }
  | .migrate context payload =>
    (scopedTenants context payload.tenantId).map fun tenantId => { tenantId, epc := payload.epc }
  | .action context ⟨_, tenantId, .replaceEpc _ newEpc⟩ =>
    (scopedTenants context tenantId).map fun tenantId =>
      { tenantId, epc := newEpc }
  | .saveLine _ lineId _ => (db.preloadLines.filter (·.id = lineId)).flatMap fun line =>
      line.epc.toList.map fun epc => { tenantId := line.tenantId, epc }
  | .assignEpc _ lineId _ epc => (db.preloadLines.filter (·.id = lineId)).flatMap fun line =>
      (db.stock.rows.filter (line.savedStockItemId = some ·.id)).map fun row =>
        { tenantId := row.tenantId, epc, unit := some row.id }
  | _ => []

section Stock

variable {context : RequestContext}

private theorem importStockEpc_tags {payload : StockImportRequest}
    (success : importStockEpc db context payload = .ok after) :
    TagsFrom db after ((StockRequest.importEpc context payload).newTags db) := by
  simp only [importStockEpc, Checked.bind_eq_ok, Checked.ensure_eq_ok, exists_const,
    Checked.pure_eq_ok] at success
  obtain ⟨_, _, _, _, _, _, tenantId, resolved, _, _, _, _, stock, committed, rfl⟩ := success
  refine tagsFrom_of_append (StockSession.commit_added (commitStockItems_eq_ok.mp committed))
    fun item member => ?_
  obtain ⟨index, bound, rfl⟩ := List.mem_iff_getElem.mp member
  simp only [List.length_mapIdx, List.length_map] at bound
  simp only [List.getElem_mapIdx, List.getElem_map]
  have asked : payload.lines[index] ∈ payload.lines := List.getElem_mem bound
  cases tag : (payload.lines[index]).epc with
  | none => exact .inl tag
  | some epc =>
    refine .inr ⟨{ tenantId, epc }, ?_, rfl, tag, by simp⟩
    refine List.mem_flatMap.mpr ⟨tenantId, mem_scopedTenants resolved, List.mem_map_of_mem ?_⟩
    exact List.mem_filterMap.mpr ⟨_, asked, tag⟩

private theorem importStockSku_tags {payload : StockImportRequest}
    (success : importStockSku db context payload = .ok after) :
    TagsFrom db after [] := by
  simp only [importStockSku, Checked.bind_eq_ok, Checked.ensure_eq_ok, exists_const,
    Checked.pure_eq_ok] at success
  obtain ⟨_, _, _, _, _, _, tenantId, _, _, _, _, stock, committed, rfl⟩ := success
  refine tagsFrom_of_append (StockSession.commit_added (commitStockItems_eq_ok.mp committed))
    fun item member => ?_
  obtain ⟨index, bound, rfl⟩ := List.mem_iff_getElem.mp member
  rw [List.getElem_mapIdx]
  exact .inl rfl

private theorem migrateStockSkuToEpc_tags {payload : StockMigrateRequest}
    (success : migrateStockSkuToEpc db context payload = .ok after) :
    TagsFrom db after ((StockRequest.migrate context payload).newTags db) := by
  simp only [migrateStockSkuToEpc, Checked.bind_eq_ok] at success
  obtain ⟨_, _, _, _, _, _, tenantId, resolved, _, _, _, _, _, _, _, _, _, _, written⟩ := success
  split at written
  · simp at written
  · next pendingRow rest selected =>
    simp only [Checked.bind_eq_ok, Checked.pure_eq_ok] at written
    obtain ⟨stock, committed, rfl⟩ := written
    refine tagsFrom_of_retag (StockSession.commit_assign committed) fun row member listed => ?_
    refine ⟨_, List.mem_map_of_mem (mem_scopedTenants resolved), ?_, rfl, by simp⟩
    -- The row is one of the selected ones, which are rows of the tenant.
    have picked : row.id ∈ (pendingRow :: rest).map (·.id) := by
      rw [List.mem_singleton.mp listed]
      exact List.mem_cons_self
    rw [← selected, StockSession.map_id_select] at picked
    obtain ⟨other, isOldest, same⟩ := List.mem_map.mp picked
    obtain ⟨another, matching⟩ := mem_of_mem_oldest isOldest
    obtain rfl := eq_of_key_eq db.stock.distinctIds another member same
    simp only [pendingMigrationFilters, Bool.and_eq_true, decide_eq_true_eq] at matching
    exact matching.1.1.1.1.1.1.1.1.1

private theorem stockActions_tags {payload : StockActionRequest}
    (success : stockActions db context payload = .ok after) :
    TagsFrom db after ((StockRequest.action context payload).newTags db) := by
  obtain ⟨transactionId, requested, action⟩ := payload
  simp only [stockActions, Checked.bind_eq_ok] at success
  obtain ⟨_, _, _, _, tenantId, resolved, done⟩ := success
  cases action with
  | writeOff reason qty data =>
    obtain ⟨ids, step⟩ := writeOff_ok done
    exact tagsFrom_of_filter step.rows
  | reprice data => exact tagsFrom_of_stock (by rw [inspectStock_ok done])
  | markdownByAge data => exact tagsFrom_of_stock (by rw [inspectStock_ok done])
  | reprintLabel data => exact tagsFrom_of_stock (by rw [inspectStock_ok done])
  | replaceEpc currentEpc newEpc =>
    obtain ⟨row, step⟩ := replaceEpc_ok done
    refine tagsFrom_of_retag step.written.rows fun other member listed => ?_
    obtain rfl := eq_of_key_eq db.stock.distinctIds member step.member
      (List.mem_singleton.mp listed)
    exact ⟨_, List.mem_map_of_mem (mem_scopedTenants resolved), step.tenant, rfl, by simp⟩
  | epcLifecycle action epc epcType =>
    obtain ⟨row, step⟩ := epcLifecycle_ok done
    exact tagsFrom_of_update step.written.rows (fun _ => ⟨rfl, rfl⟩) fun _ => .inr rfl

private theorem savePreloadLine_tags {lineId : ℕ} {tenantId : Option ℕ}
    (success : savePreloadLine db context lineId tenantId = .ok after) :
    TagsFrom db after ((StockRequest.saveLine context lineId tenantId).newTags db) := by
  obtain ⟨line, found, ⟨_, step⟩ | ⟨epc, named, step⟩⟩ := savePreloadLine_ok success
  · refine tagsFrom_of_append step.rows fun item new => ?_
    obtain rfl := List.mem_singleton.mp new
    exact .inl rfl
  · obtain ⟨member, id⟩ := getPreloadLine_ok found
    obtain ⟨named, _⟩ := Option.filter_eq_some_iff.mp named
    refine tagsFrom_of_append step.rows fun item new => ?_
    obtain rfl := List.mem_singleton.mp new
    refine .inr ⟨{ tenantId := line.tenantId, epc }, ?_, rfl, rfl, by simp⟩
    refine List.mem_flatMap.mpr ⟨line, List.mem_filter.mpr ⟨member, by simpa using id⟩, ?_⟩
    simp [named]

private theorem issueRow_tag (payload : ItemIssueRequest) (row : StockItem) :
    (issueRow payload row).tenantId = row.tenantId ∧
      ((issueRow payload row).epc = row.epc ∨ (issueRow payload row).epc = none) := by
  unfold issueRow
  split
  · split
    · exact ⟨rfl, .inl rfl⟩
    · exact ⟨rfl, .inr rfl⟩
  · exact ⟨rfl, .inl rfl⟩

theorem stockStep_tags {request : StockRequest} (success : stockStep db request = .ok after) :
    TagsFrom db after (request.newTags db) := by
  cases request with
  | importEpc context payload => exact importStockEpc_tags success
  | importSku context payload => exact importStockSku_tags success
  | migrate context payload => exact migrateStockSkuToEpc_tags success
  | action context payload => exact stockActions_tags success
  | createPreload context payload =>
    obtain ⟨lines, step⟩ := createPreloadSession_ok success
    exact tagsFrom_of_stock (by rw [step.tables])
  | patchLine context lineId tenantId payload =>
    obtain ⟨line, change, step⟩ := patchPreloadLine_ok success
    exact tagsFrom_of_stock (by rw [step.tables]; rfl)
  | saveLine context lineId tenantId => exact savePreloadLine_tags success
  | assignEpc context lineId tenantId epc =>
    obtain ⟨line, _, step⟩ := assignPendingEpc_ok success
    refine tagsFrom_of_retag step.rows fun row member listed => ?_
    refine ⟨⟨row.tenantId, epc, some row.id⟩, ?_, rfl, rfl, fun id same => Option.some.inj same⟩
    refine List.mem_flatMap.mpr ⟨line, List.mem_filter.mpr ⟨step.member, by simpa using step.id⟩,
      ?_⟩
    exact List.mem_map_of_mem (List.mem_filter.mpr ⟨member, by simpa using listed⟩)
  | releaseEpc context tenantId payload =>
    obtain ⟨scopedTenantId, assignment, step⟩ := releaseEpc_ok success
    exact tagsFrom_of_update step.rows (fun _ => ⟨rfl, rfl⟩) fun _ => .inr rfl
  | markIssue context itemUid tenantId payload =>
    obtain ⟨scopedTenantId, item, _, step⟩ := markIssue_ok success
    exact tagsFrom_of_update step.rows
        (fun row => ⟨issueRow_id payload row, (issueRow_tag payload row).1⟩) fun row =>
      (issueRow_tag payload row).2
  | resolveIssue context itemUid tenantId itemStatus =>
    obtain ⟨scopedTenantId, item, _, step⟩ := resolveIssue_ok success
    exact tagsFrom_of_update step.written.rows (fun _ => ⟨rfl, rfl⟩) fun _ => .inl rfl

end Stock

/-! ## Rows that are moved, sold and put back -/

/-- A change that leaves the tag of a row on it or takes it off. -/
def KeepsTag (change : StockItem → StockItem) : Prop :=
  ∀ row, (change row).tenantId = row.tenantId ∧
    ((change row).epc = row.epc ∨ (change row).epc = none)

private theorem editRow_tag {edits : List (Edit StockItem.id)}
    (keeps : ∀ edit ∈ edits, KeepsTag edit.change) (row : StockItem) :
    (editRow edits row).tenantId = row.tenantId ∧
    ((editRow edits row).epc = row.epc ∨ (editRow edits row).epc = none) := by
  refine editRow_keeps (fun now : StockItem => now.tenantId = row.tenantId ∧
    (now.epc = row.epc ∨ now.epc = none)) ⟨rfl, .inl rfl⟩ ?_
  rintro edit member now ⟨tenant, tag⟩ _
  obtain ⟨sameTenant, sameTag⟩ := keeps edit member now
  refine ⟨sameTenant.trans tenant, ?_⟩
  rcases sameTag with same | gone
  · rwa [same]
  · exact .inr gone

private theorem hadTag_editRow {edits : List (Edit StockItem.id)}
    (keeps : ∀ edit ∈ edits, KeepsTag edit.change) {row : StockItem}
    (member : row ∈ db.stock.rows) (known : normalizeEpc (editRow edits row).epc ≠ none) : HadTag db
    (editRow edits row) := by
  obtain ⟨tenant, same | gone⟩ := editRow_tag keeps row
  · exact ⟨row, member, key_editRow.symm, tenant.symm, same.symm⟩
  · rw [gone] at known
    contradiction

private theorem tagsFrom_of_edits {edits : List (Edit StockItem.id)} {brought : List NewTag}
    (rows : after.stock.rows = db.stock.rows.map (editRow edits))
    (keeps : ∀ edit ∈ edits, KeepsTag edit.change) :
    TagsFrom db after brought := by
  intro object member known
  rw [rows] at member
  obtain ⟨row, isRow, rfl⟩ := List.mem_map.mp member
  exact .inl (hadTag_editRow keeps isRow known)

/-! ## Transfers -/

private theorem keepsTag_dispatchChange (transfer : Transfer) (line : TransferLine) :
    KeepsTag (dispatchChange transfer line) := by
  unfold dispatchChange
  split <;> exact fun _ => ⟨rfl, .inl rfl⟩

/-- A transfer request leaves every tag on its row. -/
theorem TransferEffect.tags {request : TransferRequest} (effect : TransferEffect db after request)
    {brought : List NewTag} :
    TagsFrom db after brought := by
  have claimed {session : StockSession} {storeId : ℕ} (claims : session.Claims db.stock storeId) :
      ∀ edit ∈ session.edits, KeepsTag edit.change := by
    intro edit member
    rw [claims.change edit member]
    exact fun _ => ⟨rfl, .inl rfl⟩
  cases effect with
  | created tenantId progress transfer step =>
    exact tagsFrom_of_edits step.stock (claimed step.checked.claims)
  | updated tenantId originStoreId destinationStoreId transfer target session step =>
    exact tagsFrom_of_edits step.stock (claimed step.claims)
  | dispatched transfer target session outputs step =>
    have rows : after.stock.rows = db.stock.rows.map
        (editRow (session.edits ++ outputs.map (·.1))) := by
      rw [step.stock, List.map_map]
      exact List.map_congr_left fun row _ => (editRow_append _).symm
    refine tagsFrom_of_edits rows fun edit member => ?_
    rcases List.mem_append.mp member with claim | moved
    · exact claimed step.claims edit claim
    · obtain ⟨output, isOutput, rfl⟩ := List.mem_map.mp moved
      obtain ⟨line, _, taken⟩ := Checked.item_of_output step.taken isOutput
      rw [taken.change]
      exact keepsTag_dispatchChange transfer line
  | received transfer target outputs step =>
    refine tagsFrom_of_edits step.stock fun edit member => ?_
    obtain ⟨output, isOutput, rfl⟩ := List.mem_map.mp member
    obtain ⟨receiveLine, _, line, _, received⟩ := Checked.item_of_output step.taken isOutput
    rw [received.change]
    exact fun _ => ⟨rfl, .inl rfl⟩
  | reported transfer target movements step => exact tagsFrom_of_stock (by rw [step.tables])
  | resolved transfer target outputs step => exact tagsFrom_of_filter step.stock
  | canceled transfer target edits step =>
    refine tagsFrom_of_edits step.stock fun edit member => ?_
    by_cases dispatched : transfer.status = .dispatched
    · obtain ⟨line, _, restored⟩ := Checked.item_of_output (step.taken dispatched) member
      rw [restored.change]
      exact fun _ => ⟨rfl, .inl rfl⟩
    · rw [step.untouched dispatched] at member
      contradiction

/-! ## Sales -/

/-- The text of a random identifier has thirty-two hexadecimal digits. -/
def IsUuid (text : String) : Prop := (text.toList.filter isHexDigit).length = 32

instance (text : String) : Decidable (IsUuid text) := inferInstanceAs (Decidable (_ = _))

/-- A label with a random identifier has too many digits to be a tag. -/
theorem normalizeEpc_label {uuid : String} (random : IsUuid uuid) :
    normalizeEpc (some ("NEW-EPC-" ++ uuid)) = none := by
  rw [normalizeEpc, if_neg]
  rintro ⟨_, digits⟩
  rw [List.length_map, Option.getD_some, String.toList_append, List.filter_append,
    List.length_append, random] at digits
  contradiction

/-- A session of an action on a sale, which has brought no tag so far. -/
structure BringsNone (db : Db) (session : StockSession) : Prop where
  flushed : session.flushed = db.stock
  kept : session.deleted = []
  edits : ∀ edit ∈ session.edits, KeepsTag edit.change
  added : ∀ item ∈ session.added, normalizeEpc item.epc = none

namespace BringsNone

variable {session : StockSession}

theorem start (db : Db) : BringsNone db { flushed := db.stock } := ⟨rfl, rfl, by simp, by simp⟩

theorem write (brings : BringsNone db session) (output : StockOutput)
    (keeps : KeepsTag output.1.change) (labels : ∀ item ∈ output.2, normalizeEpc item.epc = none) :
    BringsNone db (session.write output) := by
  refine ⟨brings.flushed, brings.kept, fun edit member => ?_, fun item member => ?_⟩
  · rcases List.mem_append.mp member with old | new
    · exact brings.edits edit old
    · rw [List.mem_singleton.mp new]
      exact keeps
  · exact (List.mem_append.mp member).elim (brings.added item) (labels item)

private theorem tagsFrom (brings : BringsNone db session)
    (committed : session.commit = .ok after.stock) {brought : List NewTag} :
    TagsFrom db after brought := by
  intro object member known
  rw [StockSession.commit_eq_ok committed, StockSession.rowsAfter_of_kept brings.kept,
    brings.flushed] at member
  rcases List.mem_append.mp member with old | new
  · obtain ⟨row, isRow, rfl⟩ := List.mem_map.mp old
    exact .inl (hadTag_editRow brings.edits isRow known)
  · exact absurd (brings.added object new) known

/-- A line that is sold brings no tag and no label. -/
theorem sell (brings : BringsNone db session) (nothing : session.added = []) {sale : PosSale}
    {change : LineType → StockItem → StockItem} {lineType : LineType}
    {snapshot : PosSaleLineSnapshot} {qty : ℤ} {output : StockOutput}
    (sold : LineSold db sale change lineType snapshot qty output)
    (keeps : KeepsTag (change lineType)) :
    BringsNone db (session.write output) ∧ (session.write output).added = [] :=
  ⟨brings.write output (by rw [sold.change]; exact keeps) (by simp [sold.nothing]),
    by simp [StockSession.write, nothing, sold.nothing]⟩

end BringsNone

private theorem keepsTag_checkoutChange (lineType : LineType) :
    KeepsTag (checkoutChange lineType) := by
  intro row
  cases lineType with
  | sku => exact ⟨rfl, .inl rfl⟩
  | epc =>
    refine ⟨rfl, ?_⟩
    by_cases tagged : isTruthy row.epc = true
    · exact .inr (if_pos tagged)
    · exact .inl (if_neg tagged)

private theorem keepsTag_exchangeChange (lineType : LineType) :
    KeepsTag (exchangeChange lineType) := by
  intro row
  cases lineType <;> exact ⟨rfl, .inl rfl⟩

/-- An item that comes back brings no tag, and at most one label. -/
theorem restockReturn_brings {occasion : String} {context : RequestContext}
    {policy : ReturnPolicySettings} {sale : PosSale} {session next : StockSession}
    {item : AcceptedReturn} (brings : BringsNone db session)
    (random : IsUuid (context.uuid session.added.length))
    (success : restockReturn occasion context policy sale session item = .ok next) :
    BringsNone db next ∧ next.added.length ≤ session.added.length + 1 := by
  have back (ids : List ℕ) (status : String) (vendible : Bool) (labels : List StockItem)
      (unknown : ∀ item ∈ labels, normalizeEpc item.epc = none) :
      BringsNone db (session.write (⟨ids, putBack status vendible, fun _ => rfl⟩, labels)) :=
    brings.write _ (fun _ => ⟨rfl, .inl rfl⟩) unknown
  unfold restockReturn at success
  cases kind : item.line.lineType with
  | epc =>
    simp only [kind, Checked.bind_eq_ok] at success
    obtain ⟨stockRow, _, written⟩ := success
    split at written
    · obtain rfl := Checked.pure_eq_ok.mp written
      refine ⟨back [stockRow.id] "PENDING" false [relabeledItem context sale item.line session]
        ?_, by simp [StockSession.add]⟩
      simp only [List.mem_singleton, forall_eq, relabeledItem]
      split
      · exact normalizeEpc_label random
      · rfl
    · split at written
      · obtain rfl := Checked.pure_eq_ok.mp written
        have untagged := brings.write (⟨[stockRow.id], putBackUntagged, fun _ => rfl⟩, [])
          (fun _ => ⟨rfl, .inr rfl⟩) (by simp)
        rw [StockSession.write, List.append_nil] at untagged
        exact ⟨untagged, Nat.le_succ _⟩
      · obtain rfl := Checked.pure_eq_ok.mp written
        have tagged := back [stockRow.id] "RFID" true [] (by simp)
        rw [StockSession.write, List.append_nil] at tagged
        exact ⟨tagged, Nat.le_succ _⟩
  | sku =>
    simp only [kind, Checked.bind_eq_ok, Checked.ensure_eq_ok, exists_const,
      Checked.pure_eq_ok] at success
    obtain ⟨_, rfl⟩ := success
    have untagged :=
      back ((session.select (soldStockFilters sale item.line) item.qty.toNat).map (·.id))
        "PENDING" true []
      (by simp)
    rw [StockSession.write, List.append_nil] at untagged
    exact ⟨untagged, Nat.le_succ _⟩

private theorem restockReturns_bring {occasion : String} {context : RequestContext}
    {policy : ReturnPolicySettings} {sale : PosSale} {items : List AcceptedReturn}
    {session last : StockSession} (brings : BringsNone db session)
    (random : ∀ drawn < session.added.length + items.length, IsUuid (context.uuid drawn))
    (run : items.foldlM (restockReturn occasion context policy sale) session = .ok last) :
    BringsNone db last := by
  induction items generalizing session with
  | nil =>
    obtain rfl := Checked.pure_eq_ok.mp run
    exact brings
  | cons item rest ih =>
    rw [List.foldlM_cons, Checked.bind_eq_ok] at run
    obtain ⟨next, first, later⟩ := run
    rw [List.length_cons] at random
    obtain ⟨step, drawn⟩ := restockReturn_brings brings (random _ (by omega)) first
    exact ih step (fun index below => random index (by omega)) later

/-- Every label that a return may print has a random identifier. -/
def LabelsRandom (context : RequestContext) (items : List PosReturnItem) : Prop :=
  ∀ drawn < items.length, IsUuid (context.uuid drawn)

instance (context : RequestContext) (items : List PosReturnItem) :
    Decidable (LabelsRandom context items) :=
  inferInstanceAs (Decidable (∀ drawn < items.length, _))

/-- The requests whose labels have random identifiers; only returns print labels. -/
def SaleRequest.LabelsRandom : SaleRequest → Prop
  | .action context _ ⟨_, .refundItems payload⟩ =>
    ArisCloud.LabelsRandom context payload.returnItems
  | .action context _ ⟨_, .exchangeItems payload⟩ =>
    ArisCloud.LabelsRandom context payload.returnItems
  | _ => True

instance (request : SaleRequest) : Decidable request.LabelsRandom := by
  unfold SaleRequest.LabelsRandom
  split <;> infer_instance

/-- A sale request brings no tag. -/
theorem SaleEffect.tags {request : SaleRequest} (effect : SaleEffect db after request)
    (random : request.LabelsRandom) {brought : List NewTag} : TagsFrom db after brought := by
  cases effect with
  | created sale lines step => exact tagsFrom_of_stock (by rw [step.tables])
  | updated tenantId sale target lines step => exact tagsFrom_of_stock (by rw [step.tables])
  | canceled sale target step => exact tagsFrom_of_stock (by rw [step.tables])
  | refunded sale target items session step =>
    refine (restockReturns_bring (.start db)
      (fun drawn below => random drawn ?_) step.restocked).tagsFrom step.committed
    rw [List.length_nil, Nat.zero_add] at below
    rwa [step.accepted.length_eq]
  | exchanged sale target items lines exchangeSale delta batch session step =>
    have sold : BringsNone db batch.session ∧ batch.session.added = [] :=
      Checked.foldlM_keeps (fun batch => BringsNone db batch.session ∧ batch.session.added = [])
        step.sold ⟨.start db, rfl⟩ fun _ line next _ ⟨brings, nothing⟩ success => by
          obtain ⟨output, sold, written⟩ := exchangeLine_sold brings.flushed success
          rw [written]
          exact brings.sell nothing sold (keepsTag_exchangeChange line.lineType)
    refine (restockReturns_bring sold.1
      (fun drawn below => random drawn ?_) step.restocked).tagsFrom step.committed
    rw [sold.2, List.length_nil, Nat.zero_add] at below
    rwa [step.accepted.length_eq]
  | checkedOut sale target totals advance batch step =>
    have sold : BringsNone db batch.session ∧ batch.session.added = [] :=
      Checked.foldlM_keeps (fun batch => BringsNone db batch.session ∧ batch.session.added = [])
        step.sold ⟨.start db, rfl⟩ fun _ line next _ ⟨brings, nothing⟩ success => by
          obtain ⟨output, sold, written⟩ := checkoutLine_sold brings.flushed success
          rw [written]
          exact brings.sell nothing sold (keepsTag_checkoutChange line.lineType)
    exact sold.1.tagsFrom step.committed

end ArisCloud

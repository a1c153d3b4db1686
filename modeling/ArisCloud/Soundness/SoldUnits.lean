import ArisCloud.Library.Reachability
import ArisCloud.Proofs.StockSteps
import ArisCloud.Soundness.CashBalance

/-! # Units that were sold

A unit is sold by its status, and checkouts write the item status beside it. Returns put the status
back, and so do the requests of the stock router that assign a tag or treat an issue of a unit that
was sold meanwhile. The results below say which requests those are, and when the two columns agree.
-/

namespace ArisCloud

open KeyedRows Requests

/-! ## Taking and giving back -/

def SaleAction.returnItems : SaleAction → List PosReturnItem
  | .refundItems payload => payload.returnItems
  | .exchangeItems payload => payload.returnItems
  | .checkout _ | .cancel => []

/-- A refund or an exchange that puts a unit back for one of its items. -/
def TakesBack (db : Db) (request : GoodsRequest) (rowId : ℕ) : Prop :=
  match request with
  | .sale (.action _ saleId payload) => ∃ sale, SaleTarget db saleId sale ∧ ∃ items,
      List.Forall₂ (Accepted db sale.id) payload.action.returnItems items ∧ ∃ item ∈ items,
      rowId ∈ restockedIds db sale item
  | _ => False

/-- A checkout or an exchange that takes a unit for one of its lines. -/
def Sells (db : Db) (request : GoodsRequest) (rowId : ℕ) : Prop :=
  match request with
  | .sale (.action _ saleId ⟨_, .checkout _⟩) => ∃ sale, SaleTarget db saleId sale ∧
      ∃ line ∈ getSaleLines db sale.id,
      rowId ∈ soldIds db sale line.lineType line.toPosSaleLineSnapshot line.qty
  | .sale (.action _ saleId ⟨_, .exchangeItems payload⟩) => ∃ sale, SaleTarget db saleId sale ∧
      ∃ lines, resolveSaleLines db sale.tenantId sale.storeId payload.exchangeLines = .ok lines ∧
        ∃ line ∈ lines, rowId ∈ soldIds db sale line.lineType line.snapshot line.qty
  | _ => False

def IsSold (db : Db) (rowId : ℕ) : Prop := ∃ row ∈ db.stock.rows, row.id = rowId ∧
    row.status = some "SOLD"

instance (db : Db) (rowId : ℕ) : Decidable (IsSold db rowId) :=
  inferInstanceAs (Decidable (∃ row ∈ db.stock.rows, row.id = rowId ∧ row.status = some "SOLD"))

private theorem notSold_of_unsoldStockFilters {sale : PosSale} {lineType : LineType}
    {snapshot : PosSaleLineSnapshot} {row : StockItem}
    (matching : unsoldStockFilters sale lineType snapshot row = true) :
    row.status ≠ some "SOLD" := by
  simp only [unsoldStockFilters, notSold, Bool.and_eq_true] at matching
  intro sold
  have open_ := matching.1.1.1.2
  rw [sold] at open_
  contradiction

private theorem not_isSold_of_mem_soldIds {db : Db} {sale : PosSale} {lineType : LineType}
    {snapshot : PosSaleLineSnapshot} {qty : ℤ} {rowId : ℕ}
    (taken : rowId ∈ soldIds db sale lineType snapshot qty) : ¬ IsSold db rowId := by
  rintro ⟨row, member, rfl, sold⟩
  have found : ∃ other ∈ db.stock.rows, other.id = row.id ∧
      unsoldStockFilters sale lineType snapshot other = true := by
    cases lineType with
    | epc =>
      simp only [soldIds, Option.mem_toList, Option.map_eq_some_iff] at taken
      obtain ⟨other, first, same⟩ := taken
      exact ⟨other, List.mem_of_find?_eq_some first, same, List.find?_some first⟩
    | sku =>
      simp only [soldIds, List.mem_map] at taken
      obtain ⟨other, selected, same⟩ := taken
      obtain ⟨isRow, matching⟩ := mem_of_mem_oldest selected
      exact ⟨other, isRow, same, matching⟩
  obtain ⟨other, isRow, same, matching⟩ := found
  obtain rfl := eq_of_key_eq db.stock.distinctIds isRow member same
  exact notSold_of_unsoldStockFilters matching sold

/-- A sale takes only units that are not sold. -/
theorem not_isSold_of_sells {db : Db} {request : GoodsRequest} {rowId : ℕ}
    (sells : Sells db request rowId) :
    ¬ IsSold db rowId := by
  unfold Sells at sells
  split at sells
  · obtain ⟨_, _, _, _, taken⟩ := sells
    exact not_isSold_of_mem_soldIds taken
  · obtain ⟨_, _, _, _, _, _, taken⟩ := sells
    exact not_isSold_of_mem_soldIds taken
  · contradiction

/-! ## Reopening -/

/-- A request of the stock router that puts a sold unit on sale again: it assigns a tag to it, takes
a tag off it with an issue, or resolves an issue of it to active. -/
def Reopens (db : Db) : GoodsRequest → Prop
  | .stock (.assignEpc _ lineId _ _) => ∃ line ∈ db.preloadLines, line.id = lineId ∧
      ∃ row ∈ db.stock.rows, line.savedStockItemId = some row.id ∧ row.status = some "SOLD"
  | .stock (.markIssue context itemUid tenantId payload) =>
    payload.releaseEpc = true ∧ payload.keepEpcAssigned = false ∧
      ∃ row ∈ db.stock.rows, resolvePosTenantId context.tokenData tenantId = .ok row.tenantId ∧
      row.itemUid = itemUid ∧
        isTruthy row.epc = true ∧ row.status = some "SOLD"
  | .stock (.resolveIssue context itemUid tenantId itemStatus) => itemStatus = "ACTIVE" ∧
      ∃ row ∈ db.stock.rows, resolvePosTenantId context.tokenData tenantId = .ok row.tenantId ∧
      row.itemUid = itemUid ∧
        row.status = some "SOLD"
  | _ => False

instance (db : Db) (request : GoodsRequest) : Decidable (Reopens db request) := by
  unfold Reopens
  split <;> infer_instance

section Stays

variable {db after : Db} {rowId : ℕ}

/-- An update that leaves the sold rows sold. -/
theorem IsSold.update {ids : List ℕ} {change : StockItem → StockItem} (sold : IsSold db rowId)
    (rows : after.stock.rows = update (·.id) ids change db.stock.rows)
    (stable : ∀ row, (change row).id = row.id)
    (keeps : ∀ row ∈ db.stock.rows, row.id ∈ ids → row.status = some "SOLD" →
      (change row).status = some "SOLD") :
    IsSold after rowId := by
  obtain ⟨row, member, rfl, status⟩ := sold
  refine ⟨_, rows ▸ mem_update.mpr ⟨row, member, rfl⟩, ?_⟩
  split
  · next listed => exact ⟨stable row, keeps row member listed status⟩
  · exact ⟨rfl, status⟩

theorem IsSold.append {items : List StockItem} (sold : IsSold db rowId)
    (rows : after.stock.rows = db.stock.rows ++ items) : IsSold after rowId := by
  obtain ⟨row, member, same⟩ := sold
  exact ⟨row, rows ▸ List.mem_append_left _ member, same⟩

/-- The only row with an identifier is the one that was found. -/
theorem eq_of_listed {row other : StockItem} (member : row ∈ db.stock.rows)
    (another : other ∈ db.stock.rows) (listed : other.id ∈ [row.id]) : other = row :=
  eq_of_key_eq db.stock.distinctIds another member (List.mem_singleton.mp listed)

theorem ActionEffect.isSold {tenantId : ℕ} {tag : Option String}
    (effect : ActionEffect db after tenantId tag) (sold : IsSold db rowId) :
    IsSold after rowId := by
  have absurdIn {row other : StockItem} (member : row ∈ db.stock.rows)
      (inStock : row.status = some "RFID") (another : other ∈ db.stock.rows)
      (listed : other.id ∈ [row.id]) : other.status ≠ some "SOLD" := by
    rw [eq_of_listed member another listed, inStock]
    decide
  cases effect with
  | writtenOff ids step =>
    obtain ⟨row, member, rfl, status⟩ := sold
    refine ⟨row, step.rows ▸ List.mem_filter.mpr ⟨member, decide_eq_true fun listed => ?_⟩,
      rfl, status⟩
    exact step.unsold row member listed status
  | replaced row newEpc step =>
    exact sold.update step.written.rows (by exact fun _ => rfl) fun other another listed status =>
      absurd status (absurdIn step.member step.inStock another listed)
  | untagged row step =>
    exact sold.update step.written.rows (by exact fun _ => rfl) fun other another listed status =>
      absurd status (absurdIn step.member step.inStock another listed)
  | inspected same => exact same ▸ sold

/-- A stock request that does not reopen a sold unit leaves every sold unit sold. -/
theorem StockEffect.isSold {request : StockRequest} (effect : StockEffect db after request)
    (closed : ¬ Reopens db (.stock request)) (sold : IsSold db rowId) : IsSold after rowId := by
  cases effect with
  | importedEpc items step => exact sold.append step.rows
  | importedSku items step => exact sold.append step.rows
  | migrated row step =>
    refine sold.update step.written.rows (by exact fun _ => rfl) fun other another listed status =>
      ?_
    rw [eq_of_listed step.member another listed, step.pending] at status
    simp at status
  | acted tenantId resolved step => exact step.isSold sold
  | staged lines step =>
    rw [step.tables]
    exact sold
  | patched line change step =>
    rw [step.tables]
    exact sold
  | savedPending line step => exact sold.append step.rows
  | savedTagged line epc step => exact sold.append step.rows
  | assigned line step =>
    refine sold.update step.rows (by exact fun _ => rfl) fun row member listed status => ?_
    exact absurd ⟨line, step.member, step.id, row, member, Option.mem_toList.mp listed,
      status⟩ closed
  | released scopedTenantId assignment step =>
    exact sold.update step.rows (by exact fun _ => rfl) fun row member listed status => status
  | @marked context itemUid tenantId payload scopedTenantId item resolved step =>
    obtain ⟨member, tenant, uid⟩ := itemOfUid_eq_some step.found
    refine sold.update step.rows (issueRow_id payload) fun row isRow listed status => ?_
    obtain rfl := eq_of_listed member isRow listed
    rw [issueRow]
    split
    · next releases =>
      split
      · exact status
      · next untags =>
        exact absurd ⟨releases.1, Bool.eq_false_iff.mpr untags, row, member, tenant ▸ resolved, uid,
          releases.2, status⟩ closed
    · exact status
  | @resolvedIssue context itemUid tenantId itemStatus scopedTenantId item resolved step =>
    obtain ⟨member, tenant, uid⟩ := itemOfUid_eq_some step.found
    refine sold.update step.written.rows (by exact fun _ => rfl) fun row isRow listed status => ?_
    obtain rfl := eq_of_listed member isRow listed
    rw [resolvedRow]
    split
    · next active => exact absurd ⟨active, row, member, tenant ▸ resolved, uid, status⟩ closed
    · exact status

/-- Edits of rows that are not sold leave a sold row alone, unless one of them puts it back. -/
theorem IsSold.edited {edits : List (Edit StockItem.id)} {items : List StockItem}
    (sold : IsSold db rowId) (rows : after.stock.rows = db.stock.rows.map (editRow edits) ++ items)
    (apart : ∀ edit ∈ edits, rowId ∉ edit.keys) : IsSold after rowId := by
  obtain ⟨row, member, rfl, status⟩ := sold
  refine ⟨editRow edits row, rows ▸ List.mem_append_left _ (List.mem_map_of_mem member),
    key_editRow, ?_⟩
  rw [editRow_of_untouched apart]
  exact status

/-- A sale request leaves a sold unit sold or puts it back. -/
theorem SaleEffect.isSold {request : SaleRequest} (effect : SaleEffect db after request)
    (sold : IsSold db rowId) :
    IsSold after rowId ∨ TakesBack db (.sale request) rowId := by
  have unsoldKeys {sale : PosSale} {change : LineType → StockItem → StockItem} {lineType : LineType}
      {snapshot : PosSaleLineSnapshot} {qty : ℤ} {output : StockOutput}
      (taken : LineSold db sale change lineType snapshot qty output) : rowId ∉ output.1.keys :=
    fun listed =>
    not_isSold_of_mem_soldIds (taken.ids ▸ listed) sold
  cases effect with
  | created sale lines step =>
    rw [step.tables]
    exact .inl sold
  | updated tenantId sale target lines step =>
    rw [step.tables]
    exact .inl sold
  | canceled sale target step =>
    rw [step.tables]
    exact .inl sold
  | checkedOut sale target totals advance batch step =>
    obtain ⟨outputs, taken, rows⟩ := step.soldRows
    rw [← List.append_nil (db.stock.rows.map _)] at rows
    refine .inl (sold.edited rows fun edit applied => ?_)
    obtain ⟨output, isOutput, rfl⟩ := List.mem_map.mp applied
    obtain ⟨_, _, lineSold⟩ := Checked.item_of_output taken isOutput
    exact unsoldKeys lineSold
  | refunded sale target items session step =>
    obtain ⟨outputs, restocked, rows⟩ := step.restockedRows
    by_cases returned : ∃ output ∈ outputs, rowId ∈ output.1.keys
    · obtain ⟨output, isOutput, listed⟩ := returned
      obtain ⟨item, isItem, put⟩ := Checked.item_of_output restocked isOutput
      exact .inr ⟨sale, target, items, step.accepted, item, isItem, put.ids ▸ listed⟩
    · refine .inl (sold.edited rows fun edit applied listed => returned ?_)
      obtain ⟨output, isOutput, rfl⟩ := List.mem_map.mp applied
      exact ⟨output, isOutput, listed⟩
  | exchanged sale target items lines exchangeSale delta batch session step =>
    obtain ⟨taken, restocked, sells, returns, rows⟩ := step.movedRows
    by_cases returned : ∃ output ∈ restocked, rowId ∈ output.1.keys
    · obtain ⟨output, isOutput, listed⟩ := returned
      obtain ⟨item, isItem, put⟩ := Checked.item_of_output returns isOutput
      exact .inr ⟨sale, target, items, step.accepted, item, isItem, put.ids ▸ listed⟩
    · refine .inl (sold.edited rows fun edit applied listed => ?_)
      obtain ⟨output, isOutput, rfl⟩ := List.mem_map.mp applied
      rcases List.mem_append.mp isOutput with sale | put
      · obtain ⟨_, _, lineSold⟩ := Checked.item_of_output sells sale
        exact unsoldKeys lineSold listed
      · exact returned ⟨output, put, listed⟩

private theorem goodsStep_isSold {request : GoodsRequest}
    (success : goodsStep db request = .ok after) (closed : ¬ Reopens db request)
    (sold : IsSold db rowId) : IsSold after rowId ∨ TakesBack db request rowId := by
  cases request with
  | sale request => exact (saleStep_ok success).isSold sold
  | stock request => exact .inl ((stockStep_ok success).isSold closed sold)

end Stays

/-- In a run that does not reopen a sold unit, a unit that is sold at the start is sold at the end
or was given back. -/
theorem Run.isSold {start last : Db} {history : List (Db × GoodsRequest)}
    (run : Run goodsStep start history last) (closed : ∀ entry ∈ history, ¬ Reopens entry.1 entry.2)
    {rowId : ℕ} (sold : IsSold start rowId) :
    IsSold last rowId ∨ ∃ entry ∈ history, TakesBack entry.1 entry.2 rowId := by
  induction run with
  | finish => exact .inl sold
  | commit committed _ ih =>
    rcases goodsStep_isSold committed (closed _ (List.mem_cons_self ..)) sold with stays | returned
    · rcases ih (fun entry member => closed entry (List.mem_cons_of_mem _ member))
        stays with atEnd | ⟨entry, member, later⟩
      · exact .inl atEnd
      · exact .inr ⟨entry, List.mem_cons_of_mem _ member, later⟩
    · exact .inr ⟨_, List.mem_cons_self .., returned⟩

/-- In every run that does not reopen a sold unit, a unit that is sold stays so until a return puts
it back, and no sale takes it before that. -/
theorem sold_left_only_by_returns (start last : Db) (history : List (Db × GoodsRequest))
    (run : Run goodsStep start history last) (closed : ∀ entry ∈ history, ¬ Reopens entry.1 entry.2)
    (rowId : ℕ) (sold : IsSold start rowId) :
    (IsSold last rowId ∨ ∃ entry ∈ history, TakesBack entry.1 entry.2 rowId) ∧
      ∀ earlier later entry, history = earlier ++ entry :: later → Sells entry.1 entry.2 rowId →
        ∃ entry ∈ earlier, TakesBack entry.1 entry.2 rowId := by
  refine ⟨Run.isSold run closed sold, ?_⟩
  rintro earlier later entry rfl sells
  have unsold := not_isSold_of_sells sells
  have closedBefore : ∀ entry ∈ earlier, ¬ Reopens entry.1 entry.2 := fun entry member =>
    closed entry (List.mem_append_left _ member)
  exact (Run.isSold run.before closedBefore sold).resolve_left unsold

namespace Sample

/-- An administrator of store 10. -/
def admin : RequestContext :=
  { cashier with tokenData := { tenantId := some 1, storeId := some 10, role := some "ADMIN" } }

def byCard (amount : ℚ) : PosPaymentCreate :=
  { method := .card, amount, authorizationCode := some "A1" }

def draftOf (line : PosSaleLineCreate) : GoodsRequest :=
  .sale (.create cashier { transactionId := some "draft", storeId := some 10, lines := [line] })

def actOnSale (saleId : ℕ) (action : SaleAction) : GoodsRequest :=
  .sale (.action cashier saleId { transactionId := some "act", action })

/-- A scarf is preloaded without a tag and saved. -/
def scarfArrives : List GoodsRequest :=
  [.stock (.createPreload admin { storeId := some 10, lines :=
      [{ sku := some "SCARF", locationCode := some "FLOOR", pool := some "SALE",
         salePrice := some ⟨2000⟩ }] }),
    .stock (.saveLine admin 1 none)]

/-- The scarf is sold. -/
def scarfSold : List GoodsRequest :=
  scarfArrives ++ [draftOf { lineType := .sku, sku := some "SCARF" },
    actOnSale 1 (.checkout { payments := [byCard 20] })]

private theorem scarfSold_commits : (runAllowed goodsStep (fun _ _ => True) shop scarfSold).isSome =
    true := by decide +kernel

def scarfGone : Db := (runAllowed goodsStep (fun _ _ => True) shop scarfSold).get scarfSold_commits

/-- The sold scarf is given back. -/
def scarfReturned : List GoodsRequest :=
  [actOnSale 1 (.refundItems { returnItems := [{ lineId := 1 }], refundPayments := [byCard 20] })]

private theorem scarfReturned_commits :
    (recordRun goodsStep scarfGone scarfReturned).isSome = true := by decide +kernel

def scarfBack := (recordRun goodsStep scarfGone scarfReturned).get scarfReturned_commits

/-- The sold scarf gets a tag. -/
def scarfTagged : List GoodsRequest := [.stock (.assignEpc admin 1 none "E4")]

private theorem scarfTagged_commits :
    (recordRun goodsStep scarfGone scarfTagged).isSome = true := by decide +kernel

def scarfReopened := (recordRun goodsStep scarfGone scarfTagged).get scarfTagged_commits

end Sample

/-- The sold scarf of the sample leaves its status when it is given back. -/
theorem sold_left_by_return_of_scarf :
    (IsSold Sample.scarfBack.2 4 ∨ ∃ entry ∈ Sample.scarfBack.1, TakesBack entry.1 entry.2 4) ∧
      ∀ earlier later entry, Sample.scarfBack.1 = earlier ++ entry :: later →
      Sells entry.1 entry.2 4 →
        ∃ entry ∈ earlier, TakesBack entry.1 entry.2 4 :=
  sold_left_only_by_returns Sample.scarfGone Sample.scarfBack.2 Sample.scarfBack.1
    (run_of_recordRun (Option.some_get _).symm) (by decide +kernel) 4 (by decide +kernel)

/-- A unit that was sold while it waited for its tag is on sale again when the tag is assigned. -/
theorem assigned_tag_reopens_sold_unit :
    ¬ ∀ (start last : Db) (history : List (Db × GoodsRequest)) (rowId : ℕ),
    Run goodsStep start history last →
      IsSold start rowId → IsSold last rowId ∨ ∃ entry ∈ history,
      TakesBack entry.1 entry.2 rowId := by
  intro left
  rcases left Sample.scarfGone Sample.scarfReopened.2 Sample.scarfReopened.1 4
    (run_of_recordRun (Option.some_get _).symm) (by decide +kernel) with sold | ⟨entry, member,
    returned⟩
  · exact absurd sold (by decide +kernel)
  · have asked : entry.2 ∈ Sample.scarfTagged := by
      rw [← requests_of_recordRun (Option.some_get Sample.scarfTagged_commits).symm]
      exact List.mem_map_of_mem (f := (·.2)) member
    rw [List.mem_singleton.mp asked] at returned
    exact returned

/-! ## The two status columns -/

/-- A unit is sold by its status when it is sold by its item status. -/
def StockItem.StatusesAgree (row : StockItem) : Prop := row.status = some "SOLD" ↔
    row.itemStatus = "SOLD"

instance (row : StockItem) : Decidable row.StatusesAgree := inferInstanceAs (Decidable (_ ↔ _))

/-- A request that is no refund or exchange, and resolves an issue only to an item status that fits
the status. -/
def KeepsAgreement (db : Db) : GoodsRequest → Prop
  | .sale (.action _ _ ⟨_, .refundItems _⟩) | .sale (.action _ _ ⟨_, .exchangeItems _⟩) => False
  | .stock (.resolveIssue context itemUid tenantId itemStatus) => ∀ row ∈ db.stock.rows,
      resolvePosTenantId context.tokenData tenantId = .ok row.tenantId → row.itemUid = itemUid →
        itemStatus = "ACTIVE" ∨ (itemStatus = "SOLD" ↔ row.status = some "SOLD")
  | _ => True

instance (db : Db) (request : GoodsRequest) : Decidable (KeepsAgreement db request) := by
  unfold KeepsAgreement
  split <;> infer_instance

section Agreement

variable {db after : Db}

/-- A unit that is not sold in either column. -/
theorem agree_of_unsold {row : StockItem} (status : row.status ≠ some "SOLD")
    (itemStatus : row.itemStatus ≠ "SOLD") :
    row.StatusesAgree := iff_of_false status itemStatus

private theorem agree_of_imported {items : List StockItem}
    (agree : ∀ row ∈ db.stock.rows, row.StatusesAgree) (step : Imported db after items) :
    ∀ row ∈ after.stock.rows, row.StatusesAgree := by
  rw [step.rows]
  intro row member
  rcases List.mem_append.mp member with old | new
  · exact agree row old
  · refine agree_of_unsold ?_ ?_
    · rcases step.status row new with status | status <;> simp [status]
    · simp [step.itemStatus row new]

/-- An update that leaves its rows in agreement. -/
theorem agree_of_update {ids : List ℕ} {change : StockItem → StockItem}
    (agree : ∀ row ∈ db.stock.rows, row.StatusesAgree)
    (rows : after.stock.rows = update (·.id) ids change db.stock.rows)
    (keeps : ∀ row ∈ db.stock.rows, row.id ∈ ids → row.StatusesAgree → (change row).StatusesAgree) :
    ∀ row ∈ after.stock.rows, row.StatusesAgree := by
  rw [rows]
  intro row member
  rcases mem_update_cases member with ⟨old, _⟩ | ⟨before, isBefore, listed, rfl⟩
  · exact agree row old
  · exact keeps before isBefore listed (agree before isBefore)

private theorem agree_of_added {item : StockItem} (agree : ∀ row ∈ db.stock.rows, row.StatusesAgree)
    (rows : after.stock.rows = db.stock.rows ++ [item]) (status : item.status ≠ some "SOLD")
    (itemStatus : item.itemStatus ≠ "SOLD") : ∀ row ∈ after.stock.rows, row.StatusesAgree := by
  rw [rows]
  intro row member
  rcases List.mem_append.mp member with old | new
  · exact agree row old
  · rw [List.mem_singleton.mp new]
    exact agree_of_unsold status itemStatus

/-- A row in stock under a tag stays unsold when its tag changes. -/
theorem TagTaken.agree {tenantId : ℕ} {tag : Option String} {change : StockItem → StockItem}
    {row : StockItem} (step : TagTaken db after tenantId tag change row)
    (agree : ∀ row ∈ db.stock.rows, row.StatusesAgree) (status : (change row).status ≠ some "SOLD")
    (itemStatus : (change row).itemStatus = row.itemStatus) :
    ∀ row ∈ after.stock.rows, row.StatusesAgree := by
  refine agree_of_update agree step.written.rows fun other another listed _ => ?_
  rw [eq_of_listed step.member another listed]
  refine agree_of_unsold status fun sold => ?_
  have sameStatus := (agree row step.member).mpr (itemStatus ▸ sold)
  rw [step.inStock] at sameStatus
  simp at sameStatus

private theorem IssueState.text_ne_sold (issueState : IssueState) : issueState.text ≠ "SOLD" := by
  cases issueState <;> decide

theorem StockEffect.agree {request : StockRequest} (effect : StockEffect db after request)
    (allowed : KeepsAgreement db (.stock request))
    (agree : ∀ row ∈ db.stock.rows, row.StatusesAgree) :
    ∀ row ∈ after.stock.rows, row.StatusesAgree := by
  cases effect with
  | importedEpc items step => exact agree_of_imported agree step
  | importedSku items step => exact agree_of_imported agree step
  | migrated row step =>
    refine agree_of_update agree step.written.rows fun other another listed _ => ?_
    rw [eq_of_listed step.member another listed]
    refine agree_of_unsold (by simp [migratedRow]) fun sold => ?_
    have status := (agree row step.member).mpr sold
    rw [step.pending] at status
    simp at status
  | acted tenantId resolved step =>
    cases step with
    | writtenOff ids step =>
      rw [step.rows]
      exact fun row member => agree row (List.mem_filter.mp member).1
    | replaced row newEpc step => exact step.agree agree (by simp [step.inStock]) rfl
    | untagged row step => exact step.agree agree (by simp [untagRow]) rfl
    | inspected same => exact same ▸ agree
  | staged lines step =>
    rw [step.tables]
    exact agree
  | patched line change step =>
    rw [step.tables]
    exact agree
  | savedPending line step =>
    exact agree_of_added agree step.rows (by simp [savedItem]) (by simp [savedItem])
  | savedTagged line epc step =>
    exact agree_of_added agree step.rows (by simp [tagRow]) (by simp [tagRow])
  | assigned line step =>
    exact agree_of_update agree step.rows fun row _ _ _ => agree_of_unsold (by simp [tagRow])
      (by simp [tagRow])
  | released scopedTenantId assignment step =>
    exact agree_of_update agree step.rows fun _ _ _ same => same
  | @marked context itemUid tenantId payload scopedTenantId item resolved step =>
    obtain ⟨member, _, _⟩ := itemOfUid_eq_some step.found
    refine agree_of_update agree step.rows fun row isRow listed _ => ?_
    rw [eq_of_listed member isRow listed]
    have status : item.status ≠ some "SOLD" := fun sold => step.unsold ((agree item member).mp sold)
    have text := payload.issueState.text_ne_sold
    rw [issueRow]
    split
    · split
      · exact agree_of_unsold status text
      · exact agree_of_unsold (by simp) text
    · exact agree_of_unsold status text
  | @resolvedIssue context itemUid tenantId itemStatus scopedTenantId item resolved step =>
    obtain ⟨member, tenant, uid⟩ := itemOfUid_eq_some step.found
    refine agree_of_update agree step.written.rows fun row isRow listed _ => ?_
    rw [eq_of_listed member isRow listed]
    rcases allowed item member (tenant ▸ resolved) uid with active | fits
    · exact agree_of_unsold (by simp [resolvedRow, active]) (by simp [resolvedRow, active])
    · by_cases active : itemStatus = "ACTIVE"
      · exact agree_of_unsold (by simp [resolvedRow, active]) (by simp [resolvedRow, active])
      · simpa only [StockItem.StatusesAgree, resolvedRow, if_neg active] using fits.symm

/-- A checkout writes both columns. -/
theorem agree_of_checkoutChange (lineType : LineType) (row : StockItem) :
    (checkoutChange lineType row).StatusesAgree := by
  cases lineType <;> exact iff_of_true rfl rfl

theorem SaleEffect.agree {request : SaleRequest} (effect : SaleEffect db after request)
    (allowed : KeepsAgreement db (.sale request))
    (agree : ∀ row ∈ db.stock.rows, row.StatusesAgree) :
    ∀ row ∈ after.stock.rows, row.StatusesAgree := by
  cases effect with
  | created sale lines step =>
    rw [step.tables]
    exact agree
  | updated tenantId sale target lines step =>
    rw [step.tables]
    exact agree
  | canceled sale target step =>
    rw [step.tables]
    exact agree
  | checkedOut sale target totals advance batch step =>
    obtain ⟨outputs, taken, rows⟩ := step.soldRows
    rw [rows]
    intro row member
    obtain ⟨before, isBefore, rfl⟩ := List.mem_map.mp member
    refine editRow_keeps StockItem.StatusesAgree (agree before isBefore)
      fun edit applied current _ _ => ?_
    obtain ⟨output, isOutput, rfl⟩ := List.mem_map.mp applied
    obtain ⟨line, _, lineSold⟩ := Checked.item_of_output taken isOutput
    rw [lineSold.change]
    exact agree_of_checkoutChange line.lineType current
  | refunded => contradiction
  | exchanged => contradiction

end Agreement

/-- From units whose columns agree, every run without refunds and exchanges, and whose resolved
issues fit, keeps the status and the item status of every unit in agreement on being sold. -/
theorem statuses_agree_on_sold (start db : Db)
    (initial : ∀ row ∈ start.stock.rows, row.StatusesAgree)
    (reached : Reachable goodsStep KeepsAgreement start db) :
    ∀ row ∈ db.stock.rows, row.StatusesAgree := by
  have keeps : ∀ source request next, (∀ row ∈ source.stock.rows, row.StatusesAgree) →
      KeepsAgreement source request → goodsStep source request = .ok next → ∀ row ∈ next.stock.rows,
      row.StatusesAgree := by
    intro source request next agree allowed committed
    cases request with
    | sale request => exact (saleStep_ok committed).agree allowed agree
    | stock request => exact (stockStep_ok committed).agree allowed agree
  exact reached.invariant initial keeps

namespace Sample

private theorem scarfSold_agrees :
    (runAllowed goodsStep KeepsAgreement shop scarfSold).isSome = true := by decide +kernel

def scarfAgreed : Db := (runAllowed goodsStep KeepsAgreement shop scarfSold).get scarfSold_agrees

private theorem scarfRefunded_commits :
    (runAllowed goodsStep (fun _ _ => True) shop (scarfSold ++ scarfReturned)).isSome = true := by
  decide +kernel

def scarfRefunded : Db :=
  (runAllowed goodsStep (fun _ _ => True) shop (scarfSold ++ scarfReturned)).get
    scarfRefunded_commits

end Sample

theorem statuses_agree_after_scarf_sold :
    IsSold Sample.scarfAgreed 4 ∧ ∀ row ∈ Sample.scarfAgreed.stock.rows, row.StatusesAgree :=
  ⟨by decide +kernel, statuses_agree_on_sold Sample.shop Sample.scarfAgreed (by decide +kernel)
    (reachable_of_runAllowed (Option.some_get _).symm)⟩

/-- A refunded unit is on sale by its status and sold by its item status. -/
theorem refund_splits_statuses :
    ¬ ∀ start db : Db, (∀ row ∈ start.stock.rows, row.StatusesAgree) →
      Reachable goodsStep (fun _ _ => True) start db → ∀ row ∈ db.stock.rows,
      row.StatusesAgree := by
  intro agree
  have reached : Reachable goodsStep (fun _ _ => True) Sample.shop Sample.scarfRefunded :=
    reachable_of_runAllowed (Option.some_get _).symm
  have splits : ¬ ∀ row ∈ Sample.scarfRefunded.stock.rows, row.StatusesAgree := by decide +kernel
  exact splits (agree Sample.shop Sample.scarfRefunded (by decide +kernel) reached)

end ArisCloud

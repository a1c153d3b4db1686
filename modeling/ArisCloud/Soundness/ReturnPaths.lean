import ArisCloud.Model.System
import ArisCloud.Proofs.ReturnSteps
import ArisCloud.Proofs.SoldStock
import ArisCloud.Soundness.CashBalance

/-! # The two ways to take goods back

A return is drafted and completed as a document, or it is an action of its sale. A document records
what comes back and writes nothing else: no unit goes back on sale, no drawer pays, no replacement
is sold. An action does all of it, so the two ways never leave the same tables.
-/

namespace ArisCloud

open KeyedRows Requests

/-! ## One return, taken both ways -/

structure ReturnCaseItem extends ReturnItem where
  condition : String := "NEW"

/-- What comes back, what replaces it, and the payments that settle the difference. -/
structure ReturnCase where
  transactionId : Option String
  saleId : ℕ
  storeId : Option ℕ
  items : List ReturnCaseItem
  exchangeLines : List PosSaleLineCreate := []
  payments : List PosPaymentCreate := []
  refundPayments : List PosPaymentCreate := []
  managerOverride : Bool := false
  receiptNumber : Option String := none

namespace ReturnCase

variable (case : ReturnCase)

def quoteRequest : ReturnQuoteRequest :=
  { storeId := case.storeId, saleId := case.saleId, items := case.items.map (·.toReturnItem)
    exchangeLines := case.exchangeLines }

def settlementPayments : List ReturnSettlementPayment :=
  (case.payments ++ case.refundPayments).map fun payment => ⟨payment.method, payment.amount⟩

def returnItems : List PosReturnItem :=
  case.items.map fun item =>
    { lineId := item.saleLineId, qty := item.qty, condition := item.condition }

/-- Without replacements the action is a refund. -/
def saleAction : SaleAction :=
  if case.exchangeLines = [] then
    .refundItems { returnItems := case.returnItems, refundPayments := case.refundPayments
                   managerOverride := case.managerOverride, receiptNumber := case.receiptNumber }
  else
    .exchangeItems { returnItems := case.returnItems, exchangeLines := case.exchangeLines,
                     payments := case.payments, refundPayments := case.refundPayments,
                     managerOverride := case.managerOverride, receiptNumber := case.receiptNumber }

/-- The return as a document that is drafted and completed. -/
def byDocument (context : RequestContext) (db : Db) : Except AppError Db := do
  let drafted ← returnStep db (.createDraft context case.quoteRequest)
  returnStep drafted
    (.action context db.freshReturnEventId case.storeId (.complete case.settlementPayments))

/-- The return as an action of the sale. -/
def byAction (context : RequestContext) (db : Db) : Except AppError Db :=
  saleStep db (.action context case.saleId { transactionId := case.transactionId,
                                             action := case.saleAction })

end ReturnCase

/-- A stock row without its identifiers and timestamps. -/
def StockItem.goods (row : StockItem) : StockItem :=
  { row with id := 0, itemUid := 0, createdAt := 0 }

/-- The tables that a return leaves agree, identifiers and timestamps aside. -/
structure PathsAgree (completed returned : Db) : Prop where
  stock : (completed.stock.rows.map (·.goods)).Perm (returned.stock.rows.map (·.goods))
  sessions : completed.cashSessions = returned.cashSessions
  movements : completed.cashMovements.map ({ · with occurredAt := 0 }) = returned.cashMovements.map
    ({ · with occurredAt := 0 })
  settled : completed.returnEvents.getLast?.map
    (fun event => (event.restockingFee, event.netAdjustment)) =
    returned.returnEvents.getLast?.map fun event => (event.restockingFee, event.netAdjustment)
  sales : completed.sales.map ({ · with id := 0, checkedOutAt := none }) =
    returned.sales.map ({ · with id := 0, checkedOutAt := none })
  lines : completed.saleLines.map ({ · with id := 0, saleId := 0, itemUid := none }) =
    returned.saleLines.map ({ · with id := 0, saleId := 0, itemUid := none })
  payments : completed.payments.map ({ · with saleId := 0 }) = returned.payments.map
    ({ · with saleId := 0 })

variable {db completed returned : Db} {context : RequestContext} {case : ReturnCase}

/-- A document leaves the goods and the sales as they were. -/
theorem ReturnCase.byDocument_tables (success : case.byDocument context db = .ok completed) :
    completed = { db with returnEvents := completed.returnEvents } := by
  simp only [byDocument, Checked.bind_eq_ok] at success
  obtain ⟨drafted, drafts, completes⟩ := success
  rw [(returnStep_ok completes).tables, (returnStep_ok drafts).tables]

/-! ## Goods that an action puts back -/

/-- The sold rows of a table. -/
def soldCount (rows : List StockItem) : ℕ := rows.countP (·.status = some "SOLD")

/-- An action that puts goods back turns no row sold. -/
structure OnlyOpens (db : Db) (session : StockSession) : Prop where
  flushed : session.flushed = db.stock
  kept : session.deleted = []
  opens : ∀ row ∈ db.stock.rows, (session.current row).status = some "SOLD" →
    row.status = some "SOLD"
  added : ∀ row ∈ session.added, row.status ≠ some "SOLD"

/-- Some sold row is no longer sold. -/
def Opened (db : Db) (session : StockSession) : Prop :=
  ∃ row ∈ db.stock.rows, row.status = some "SOLD" ∧ (session.current row).status ≠ some "SOLD"

/-- Rows that are put back are no longer sold. -/
theorem OnlyOpens.assign {session : StockSession} (opens : OnlyOpens db session)
    (change : StockItem → StockItem) {ids : List ℕ} {stable}
    (unsold : ∀ row, (change row).status ≠ some "SOLD") {row : StockItem}
    (member : row ∈ db.stock.rows) (sold : row.status = some "SOLD") (listed : row.id ∈ ids) :
    OnlyOpens db (session.assign ids change stable) ∧ Opened db
    (session.assign ids change stable) := by
  refine ⟨⟨opens.flushed, opens.kept, fun other isRow still => ?_, opens.added⟩, row, member,
    sold, ?_⟩
  · rw [StockSession.current_assign] at still
    split at still
    · exact absurd still (unsold _)
    · exact opens.opens other isRow still
  · rw [StockSession.current_assign, if_pos listed]
    exact unsold _

theorem OnlyOpens.add {session : StockSession} (opens : OnlyOpens db session) {item : StockItem}
    (unsold : item.status ≠ some "SOLD") : OnlyOpens db (session.add item) := by
  refine ⟨opens.flushed, opens.kept, opens.opens, fun row member => ?_⟩
  rcases List.mem_append.mp member with old | new
  · exact opens.added row old
  · rw [List.mem_singleton.mp new]
    exact unsold

/-- An item puts at least one sold row back, and turns none sold. -/
theorem restockReturn_opens {occasion : String} {policy : ReturnPolicySettings} {sale : PosSale}
    {session next : StockSession} {item : AcceptedReturn} (opens : OnlyOpens db session)
    (positive : 1 ≤ item.qty)
    (success : restockReturn occasion context policy sale session item = .ok next) :
    OnlyOpens db next ∧ Opened db next := by
  unfold restockReturn at success
  cases kind : item.line.lineType with
  | epc =>
    simp only [kind, Checked.bind_eq_ok, Checked.fetch_eq_ok, StockSession.first_eq_some,
      opens.flushed] at success
    obtain ⟨_, ⟨row, found, rfl⟩, written⟩ := success
    have member := List.mem_of_find?_eq_some found
    have sold := soldStockFilters_sold (List.find?_some found)
    have listed : row.id ∈ [(session.current row).id] := by simp
    split at written
    · obtain rfl := Checked.pure_eq_ok.mp written
      obtain ⟨only, opened⟩ := opens.assign (putBack "PENDING" false)
        (by simp [putBack]) member sold listed
      exact ⟨only.add (by simp [relabeledItem]), opened⟩
    · split at written
      · obtain rfl := Checked.pure_eq_ok.mp written
        exact opens.assign _ (by simp [putBackUntagged, putBack]) member sold listed
      · obtain rfl := Checked.pure_eq_ok.mp written
        exact opens.assign _ (by simp [putBack]) member sold listed
  | sku =>
    simp only [kind, Checked.bind_eq_ok, Checked.ensure_eq_ok, exists_const,
      Checked.pure_eq_ok] at success
    obtain ⟨enough, rfl⟩ := success
    have picks := StockSession.picks_select (soldStockFilters sale item.line) item.qty.toNat
      (Int.toNat_le.mpr enough)
    have some : ((session.select (soldStockFilters sale item.line) item.qty.toNat).map (·.id)) ≠
        [] := by
      apply List.ne_nil_of_length_pos
      rw [picks.length]
      omega
    obtain ⟨id, listed⟩ := List.exists_mem_of_ne_nil _ some
    obtain ⟨row, member, rfl, matching⟩ := picks.found id listed
    rw [opens.flushed] at member
    exact opens.assign _ (by simp [putBack]) member (soldStockFilters_sold matching) listed

/-- A refund leaves fewer sold rows than there were. -/
theorem Refunded.soldCount_lt {after : Db} {sale : PosSale} {payload : RefundItemsSaleActionRequest}
    {items : List AcceptedReturn} {session : StockSession}
    (step : Refunded db after context sale payload items session)
    (some : payload.returnItems ≠ []) : soldCount after.stock.rows < soldCount db.stock.rows := by
  have positive : ∀ item ∈ items, 1 ≤ item.qty := by
    intro item member
    obtain ⟨asked, _, accepted⟩ := Checked.item_of_output step.accepted member
    rw [accepted.qty]
    exact accepted.positive
  obtain ⟨first, isFirst⟩ : ∃ item, item ∈ items := by
    apply List.exists_mem_of_ne_nil
    rintro rfl
    exact some (List.forall₂_nil_right_iff.mp step.accepted)
  have initial : OnlyOpens db { flushed := db.stock } := ⟨rfl, rfl, fun _ _ => id, by simp⟩
  obtain ⟨only, opened, _⟩ := Checked.foldlM_all (OnlyOpens db)
    (fun _ session => Opened db session) step.restocked initial
    fun state item next member opens success =>
      have ⟨only, opened⟩ := restockReturn_opens opens (positive item member) success
      ⟨only, opened, fun _ _ => opened⟩
  obtain ⟨row, member, was, gone⟩ := opened first isFirst
  have rows := StockSession.commit_eq_ok step.committed
  rw [StockSession.rowsAfter_of_kept only.kept, only.flushed] at rows
  have none : session.added.countP (·.status = .some "SOLD") = 0 :=
    List.countP_eq_zero.mpr fun row member => by simpa using only.added row member
  rw [soldCount, rows, List.countP_append, none, add_zero]
  exact countP_map_lt (by simpa using only.opens) member (by simpa using was) (by simpa using gone)

private theorem refundItems_nonempty {after : Db} {sale : PosSale}
    {payload : RefundItemsSaleActionRequest}
    (success : refundItems db context sale payload = .ok after) : payload.returnItems ≠ [] := by
  simp only [refundItems, Checked.bind_eq_ok, Checked.ensure_eq_ok, exists_const] at success
  obtain ⟨_, _, _, nonempty, _⟩ := success
  exact nonempty

/-! ## The two paths -/

/-- Identifiers and timestamps do not say whether a row is sold. -/
theorem soldCount_goods (rows : List StockItem) :
    (rows.map (·.goods)).countP (·.status = some "SOLD") = soldCount rows := by
  rw [List.countP_map]
  rfl

/-- Whatever comes back and however it is settled, when both ways commit they leave different
tables. -/
theorem return_paths_never_agree (context : RequestContext) (case : ReturnCase)
    (db completed returned : Db) (document : case.byDocument context db = .ok completed)
    (action : case.byAction context db = .ok returned) :
    ¬ PathsAgree completed returned := by
  intro agree
  have unchanged := case.byDocument_tables document
  simp only [ReturnCase.byAction, saleStep, ArisCloud.saleAction, Checked.bind_eq_ok] at action
  obtain ⟨_, _, _, _, sale, _, acted⟩ := action
  by_cases refund : case.exchangeLines = []
  · simp only [ReturnCase.saleAction, if_pos refund] at acted
    obtain ⟨items, session, step⟩ := refundItems_ok acted
    have fewer := step.soldCount_lt (refundItems_nonempty acted)
    have same := agree.stock.countP_eq (·.status = some "SOLD")
    rw [soldCount_goods, soldCount_goods, unchanged] at same
    exact absurd same fewer.ne'
  · simp only [ReturnCase.saleAction, if_neg refund] at acted
    obtain ⟨items, lines, exchangeSale, delta, batch, session, step⟩ := exchangeItems_ok acted
    have same := congrArg List.length agree.sales
    rw [List.length_map, List.length_map, unchanged, step.tables] at same
    simp at same

/-! ## A jacket comes back -/

namespace Sample

/-- Two jackets are paid with cash and change. -/
theorem jacketsPaid_commits :
    (runAllowed systemStep (fun _ _ => True) shop (saleAndRefund.take 3)).isSome = true := by
  decide +kernel

def jacketsPaid : Db :=
  (runAllowed systemStep (fun _ _ => True) shop (saleAndRefund.take 3)).get jacketsPaid_commits

def jacketComesBack : ReturnCase :=
  { transactionId := some "return", saleId := 1, storeId := some 10, refundPayments := [inCash 10]
    items := [{ saleLineId := 1, qty := 1, qtyPositive := by decide }] }

private theorem jacketDocumented_commits :
    (jacketComesBack.byDocument cashier jacketsPaid).toOption.isSome = true := by
  decide +kernel

def jacketDocumented : Db :=
  (jacketComesBack.byDocument cashier jacketsPaid).toOption.get jacketDocumented_commits

private theorem jacketRefunded_commits :
    (jacketComesBack.byAction cashier jacketsPaid).toOption.isSome = true := by
  decide +kernel

def jacketRefunded : Db :=
  (jacketComesBack.byAction cashier jacketsPaid).toOption.get jacketRefunded_commits

end Sample

theorem return_paths_of_jacket_disagree :
    ¬ PathsAgree Sample.jacketDocumented Sample.jacketRefunded :=
  return_paths_never_agree Sample.cashier Sample.jacketComesBack Sample.jacketsPaid
    _ _ (Checked.eq_ok_get _) (Checked.eq_ok_get _)

/-- Of two jackets that were paid, the document leaves two sold and the refund leaves one. -/
theorem return_paths_of_jacket :
    ¬ ∀ (context : RequestContext) (case : ReturnCase) (db completed returned : Db),
      case.byDocument context db = .ok completed → case.byAction context db = .ok returned →
      PathsAgree completed returned := by
  intro agree
  have same := (agree Sample.cashier Sample.jacketComesBack Sample.jacketsPaid _ _
    (Checked.eq_ok_get Sample.jacketDocumented_commits)
    (Checked.eq_ok_get Sample.jacketRefunded_commits)).stock
  have counts := same.countP_eq (·.status = some "SOLD")
  rw [soldCount_goods, soldCount_goods] at counts
  have two : soldCount Sample.jacketDocumented.stock.rows = 2 := by decide +kernel
  have one : soldCount Sample.jacketRefunded.stock.rows = 1 := by decide +kernel
  exact absurd (two.symm.trans (counts.trans one)) (by decide)

end ArisCloud

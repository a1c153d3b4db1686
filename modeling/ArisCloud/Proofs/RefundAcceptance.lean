import ArisCloud.Proofs.SoldStock
import ArisCloud.Proofs.StockCommits

/-! # When a refund of a whole sale is accepted

The converse of what a committed refund says: a person with the rights comes to it, the items pass
when they ask for what the lines sold and nothing was given back before, untagged goods are put back
when enough sold rows are found, and the cash is paid out when a drawer holds it.
-/

namespace ArisCloud

open KeyedRows

/-! ## Rights -/

/-- A person who sends requests on sales, and how they sign them. -/
structure Clerk where
  context : RequestContext
  transactionId : Option String

def Clerk.request (clerk : Clerk) (saleId : ℕ) (action : SaleAction) : SaleRequest :=
  .action clerk.context saleId ⟨clerk.transactionId, action⟩

/-- A person who may refund a sale of their store. -/
structure Clerk.MayRefund (clerk : Clerk) (db : Db) (sale : PosSale) : Prop where
  permitted : requirePermission clerk.context "POS_SALE_MANAGE" = .ok ()
  refunds : requirePermission clerk.context "POS_SALE_REFUND" = .ok ()
  signed : requireTransactionId clerk.transactionId = .ok ()
  inScope : saleInScope db clerk.context sale.id = .ok sale

/-- A person's request comes to the refund. -/
theorem Clerk.MayRefund.step {clerk : Clerk} {db : Db} {sale : PosSale}
    (may : clerk.MayRefund db sale) {payload : RefundItemsSaleActionRequest} :
    saleStep db (clerk.request sale.id (.refundItems payload)) =
    refundItems db clerk.context sale payload := by
  rw [Clerk.request, saleStep, saleAction, may.permitted, may.signed]
  change (saleInScope db clerk.context sale.id >>= _) = _
  rw [may.inScope]
  rfl

/-! ## Cash -/

/-- A drawer that the person may pay from is open, on a day that is not closed, and holds the
cash. -/
def DrawerPays (db : Db) (context : RequestContext) (sale : PosSale) (cash : ℚ) : Prop :=
  0 < cash → ∃ session, requireOpenCashSession db sale.tenantId sale.storeId context.userId =
    .ok session ∧ ¬ isDayClosed db sale.tenantId sale.storeId session.businessDate ∧
    cash ≤ session.expectedCash

private theorem recordCashMovement_refund {db : Db} {session : PosCashSession}
    {tenantId storeId saleId now : ℕ} {cash : ℚ} :
    (∃ after, recordCashMovement db session tenantId storeId saleId .cashOutRefund cash now =
      .ok after) ↔
      0 < cash ∧ ¬ isDayClosed db tenantId storeId session.businessDate ∧
      cash ≤ session.expectedCash := by
  simp only [recordCashMovement, ensureNonNegativeBalance, Checked.bind_eq_ok, Checked.ensure_eq_ok,
    exists_const, Checked.pure_eq_ok, reduceCtorEq, or_self, if_false, sub_nonneg]
  constructor
  · rintro ⟨_, positive, notClosed, held, _⟩
    exact ⟨positive, notClosed, held⟩
  · rintro ⟨positive, notClosed, held⟩
    exact ⟨_, positive, notClosed, held, rfl⟩

private theorem drawerPays_iff {db base : Db} {context : RequestContext} {sale : PosSale} {cash : ℚ}
    (same : base.dayCloses = db.dayCloses) :
    DrawerPays db context sale cash ↔ ∃ session, openSessionFor db context sale cash = .ok session ∧
      ∃ after, settleCash base context session sale .cashOutRefund cash = .ok after := by
  have closed (businessDate : ℕ) : isDayClosed base sale.tenantId sale.storeId businessDate ↔
      isDayClosed db sale.tenantId sale.storeId businessDate := by
      rw [isDayClosed, isDayClosed, same]
  by_cases paid : 0 < cash
  · simp only [DrawerPays, openSessionFor, paid, if_true, forall_const, Checked.map_eq_ok]
    constructor
    · rintro ⟨session, opened, notClosed, held⟩
      refine ⟨some session, ⟨session, opened, rfl⟩, ?_⟩
      simp only [settleCash, paid, if_true]
      exact recordCashMovement_refund.mpr ⟨paid, mt (closed _).mp notClosed, held⟩
    · rintro ⟨_, ⟨session, opened, rfl⟩, settled⟩
      simp only [settleCash, paid, if_true] at settled
      obtain ⟨_, notClosed, held⟩ := recordCashMovement_refund.mp settled
      exact ⟨session, opened, mt (closed _).mpr notClosed, held⟩
  · simp only [DrawerPays, openSessionFor, paid, if_false, false_implies, true_iff]
    exact ⟨none, rfl, base, rfl⟩

/-! ## Items -/

/-- The item that gives back a whole line. -/
def PosSaleLine.whole (line : PosSaleLine) : AcceptedReturn := ⟨line, line.qty⟩

/-- What a sale is worth when all of it comes back. -/
def netRefund (db : Db) (sale : PosSale) : ℚ :=
  (refundTotals ((getSaleLines db sale.id).map (·.lineTotal)).sum
    (getReturnPolicy db sale.tenantId).restockingFeePct).total

/-- A refund that asks for the whole of every line and pays what they are worth, as the policy
allows. -/
structure FullRefund (db : Db) (sale : PosSale) (payload : RefundItemsSaleActionRequest) (now : ℕ) :
    Prop where
  items : (payload.returnItems.map fun item => (item.lineId, item.qty)).Perm
    ((getSaleLines db sale.id).map fun line => (line.id, line.qty))
  payments : ∀ payment ∈ payload.refundPayments, checkRefundPayment payment = .ok ()
  total : paidBy (fun _ => true) payload.refundPayments = netRefund db sale
  allowed : returnExceptions (getReturnPolicy db sale.tenantId) sale payload.receiptNumber
    payload.returnItems now ++ refundPaymentExceptions
    (getReturnPolicy db sale.tenantId) payload.refundPayments = []

section Items

variable {db : Db} {saleId : ℕ} {items : List PosReturnItem}
  (lineIds : ((getSaleLines db saleId).map (·.id)).Nodup)
  (full : (items.map fun item => (item.lineId, item.qty)).Perm
    ((getSaleLines db saleId).map fun line => (line.id, line.qty)))
include lineIds full

private theorem acceptReturnItems_succeeds
    (unreturned : ∀ lineId, refundedQuantities (getReturnEvents db saleId) lineId = 0) :
    ∃ accepted, acceptReturnItems db saleId items = .ok accepted := by
  refine Checked.mapM_succeeds fun item member => ?_
  have asked :=
    full.subset (List.mem_map_of_mem (f := fun item : PosReturnItem => (item.lineId, item.qty))
      member)
  obtain ⟨line, inLines, same⟩ := List.mem_map.mp asked
  obtain ⟨sameId, sameQty⟩ := Prod.mk.inj same
  have found : (getSaleLines db saleId).find? (·.id = item.lineId) = some line :=
    find?_eq_some_of_key lineIds inLines (by simpa using sameId) (by simp +contextual [sameId])
  simp only [acceptReturnItem, found, Checked.bind_eq_ok, Checked.fetch_eq_ok, Checked.ensure_eq_ok,
    exists_const, Checked.pure_eq_ok, unreturned, ← sameQty, Option.some.injEq, exists_eq_left']
  exact ⟨_, line.qtyPositive, by omega, line.qtySingle, rfl⟩

/-- The accepted items of such a request are the whole lines, in some order. -/
theorem accepted_perm {accepted : List AcceptedReturn}
    (passed : List.Forall₂ (Accepted db saleId) items accepted) :
    accepted.Perm ((getSaleLines db saleId).map (·.whole)) := by
  have same : items.map (fun item => (item.lineId, item.qty)) = accepted.map fun item =>
      (item.line.id, item.qty) :=
    Checked.map_eq_of_outputs passed fun item result ok => by rw [ok.id, ok.qty]
  rw [same] at full
  have wholeIds : ((getSaleLines db saleId).map (·.whole)).Nodup := by
    refine List.Nodup.of_map (fun item : AcceptedReturn => item.line.id) ?_
    rwa [List.map_map]
  have acceptedIds : accepted.Nodup := by
    refine List.Nodup.of_map (fun item : AcceptedReturn => item.line.id) ?_
    have ids := (full.map Prod.fst).nodup_iff.mpr (by rwa [List.map_map])
    rwa [List.map_map] at ids
  have isWhole : ∀ item ∈ accepted, item = item.line.whole := by
    intro item member
    obtain ⟨_, _, ok⟩ := Checked.item_of_output passed member
    obtain ⟨line, inLines, asked⟩ := List.mem_map.mp (full.subset (List.mem_map_of_mem member))
    obtain ⟨sameId, sameQty⟩ := Prod.mk.inj asked
    obtain rfl := eq_of_key_eq lineIds inLines ok.member sameId
    rw [PosSaleLine.whole, sameQty]
  refine (List.perm_ext_iff_of_nodup acceptedIds wholeIds).mpr fun item =>
    ⟨fun member => ?_, fun member => ?_⟩
  · obtain ⟨_, _, ok⟩ := Checked.item_of_output passed member
    exact List.mem_map.mpr ⟨item.line, ok.member, (isWhole item member).symm⟩
  · obtain ⟨line, inLines, rfl⟩ := List.mem_map.mp member
    obtain ⟨other, isAccepted, asked⟩ := List.mem_map.mp
      (full.symm.subset
      (List.mem_map_of_mem (f := fun line : PosSaleLine => (line.id, line.qty)) inLines))
    obtain ⟨_, _, ok⟩ := Checked.item_of_output passed isAccepted
    have sameLine := eq_of_key_eq lineIds ok.member inLines (Prod.mk.inj asked).1
    rwa [isWhole other isAccepted, sameLine] at isAccepted

/-- They are worth what the sale is worth. -/
theorem accepted_total {accepted : List AcceptedReturn}
    (passed : List.Forall₂ (Accepted db saleId) items accepted) (policy : ReturnPolicySettings) :
    (returnTotals policy accepted).total =
      (refundTotals ((getSaleLines db saleId).map (·.lineTotal)).sum
        policy.restockingFeePct).total := by
  have subtotals : (accepted.map (·.lineSubtotal)).sum =
      ((getSaleLines db saleId).map (·.lineTotal)).sum := by
    rw [((accepted_perm lineIds full passed).map _).sum_eq, List.map_map]
    exact congrArg List.sum (List.map_congr_left fun line _ => line.pricedTotal.symm)
  rw [returnTotals, subtotals]

end Items

/-! ## Goods -/

/-- The state of a restocking loop in which nothing was changed but for tags and numbers. -/
structure RestockProgress (table : StockTable) (session : StockSession) : Prop where
  only : session.EditsOnly table
  keeps : session.KeepsIdentity

private theorem restockReturn_succeeds {db : Db} {occasion : String} {context : RequestContext}
    {policy : ReturnPolicySettings} {sale : PosSale} {session : StockSession}
    {item : AcceptedReturn} (progress : RestockProgress db.stock session)
    (isSku : item.line.lineType = .sku)
    (enough : item.qty ≤ db.stock.rows.countP (soldStockFilters sale item.line)) :
    ∃ next, restockReturn occasion context policy sale session item = .ok next ∧
    RestockProgress db.stock next := by
  have success : ∃ next, restockReturn occasion context policy sale session item = .ok next := by
    simp only [restockReturn, isSku, Checked.bind_eq_ok, Checked.ensure_eq_ok, exists_const,
      Checked.pure_eq_ok]
    refine ⟨_, ?_, rfl⟩
    rw [StockSession.select, List.length_map, length_oldest, progress.only.flushed]
    omega
  obtain ⟨next, restocks⟩ := success
  refine ⟨next, restocks, ?_⟩
  obtain ⟨output, restocked, rfl⟩ := restockReturn_ok progress.only.flushed
    (by simp [isSku]) restocks
  obtain ⟨change, nothing⟩ := restocked.untagged isSku
  refine ⟨⟨progress.only.flushed, progress.only.kept, ?_⟩, fun edit applied row => ?_⟩
  · rw [StockSession.write, progress.only.fresh, nothing]
    rfl
  · rcases List.mem_append.mp applied with before | last
    · exact progress.keeps edit before row
    · rw [List.mem_singleton.mp last, change]
      exact ⟨rfl, rfl, rfl⟩

/-! ## The refund -/

section Refund

variable {db after : Db} {context : RequestContext} {sale : PosSale}
    {payload : RefundItemsSaleActionRequest}

/-- A refund of a whole sale is accepted when its goods are untagged and found, and the cash is
there. -/
theorem refundItems_succeeds (refunds : requirePermission context "POS_SALE_REFUND" = .ok ())
    (paid : sale.status = .paid) (full : FullRefund db sale payload context.now)
    (lineIds : ((getSaleLines db sale.id).map (·.id)).Nodup)
    (unreturned : ∀ lineId, refundedQuantities (getReturnEvents db sale.id) lineId = 0)
    (nonempty : getSaleLines db sale.id ≠ []) (pays : payload.refundPayments ≠ [])
    (drawer : DrawerPays db context sale (paidBy (· = .cash) payload.refundPayments))
    (untagged : ∀ line ∈ getSaleLines db sale.id, line.lineType = .sku)
    (found : ∀ line ∈ getSaleLines db sale.id, line.qty ≤ db.stock.rows.countP
      (soldStockFilters sale line)) :
    ∃ after, refundItems db context sale payload = .ok after := by
  obtain ⟨items, accepted⟩ := acceptReturnItems_succeeds lineIds full.items unreturned
  have passed := acceptReturnItems_ok accepted
  have perm := accepted_perm lineIds full.items passed
  have total :=
    full.total.trans
      (accepted_total lineIds full.items passed (getReturnPolicy db sale.tenantId)).symm
  have asked : payload.returnItems ≠ [] := by
    rintro none
    have empty := full.items
    rw [none, List.map_nil, List.nil_perm, List.map_eq_nil_iff] at empty
    exact nonempty empty
  have initial : RestockProgress db.stock { flushed := db.stock } :=
    ⟨.initial db.stock, by simp [StockSession.KeepsIdentity]⟩
  obtain ⟨session, restocked, progress⟩ : ∃ session, items.foldlM
      (restockReturn "refund" context (getReturnPolicy db sale.tenantId) sale)
      { flushed := db.stock } = .ok session ∧
        RestockProgress db.stock session := by
    refine Checked.foldlM_succeeds _ initial fun session item member progress => ?_
    obtain ⟨line, inLines, rfl⟩ := List.mem_map.mp (perm.subset member)
    exact restockReturn_succeeds progress (untagged line inLines) (found line inLines)
  obtain ⟨stock, committed⟩ := StockSession.commit_of_edits_only progress.only progress.keeps
  let base : Db :=
    { db with returnEvents := db.returnEvents ++ [returnEvent db sale .refundItems items
    (returnTotals (getReturnPolicy db sale.tenantId) items) none 0
      (-(returnTotals (getReturnPolicy db sale.tenantId) items).total)] }
  have sameDays : base.dayCloses = db.dayCloses := rfl
  obtain ⟨cashSession, opened, settled, settles⟩ := (drawerPays_iff sameDays).mp drawer
  simp only [refundItems, requireManagerOverride, full.allowed, Checked.bind_eq_ok,
    Checked.ensure_eq_ok, exists_const, Checked.pure_eq_ok, true_or, and_true, true_and]
  exact ⟨_, (), refunds, paid, asked, pays, (), Checked.forM_eq_ok.mpr full.payments, items,
    accepted, total, cashSession, opened, session, restocked, settled, settles, stock,
    committed, rfl⟩

/-- A refund that is accepted pays something, from a drawer that holds its cash. -/
theorem refundItems_pays (success : refundItems db context sale payload = .ok after) :
    payload.refundPayments ≠ [] ∧
    DrawerPays db context sale (paidBy (· = .cash) payload.refundPayments) := by
  simp only [refundItems, Checked.bind_eq_ok, Checked.ensure_eq_ok, exists_const,
    Checked.pure_eq_ok] at success
  obtain ⟨_, _, _, _, pays, _, _, _, _, items, _, _, cashSession, opened, session, _, settled,
    settles, _⟩ := success
  exact ⟨pays, (drawerPays_iff (by exact rfl)).mpr ⟨cashSession, opened, settled, settles⟩⟩

end Refund

end ArisCloud

import ArisCloud.Proofs.CashSteps

/-! # What each sale request commits

One inversion lemma per request of the sales router: the checks that passed, the loops that ran on
the stock, and every table it wrote. Results about runs of sales rest on these statements and never
unfold a request again.
-/

namespace ArisCloud

open KeyedRows

/-! ## Sales and their lines -/

private theorem getSale_ok {db : Db} {tenantId saleId : ℕ} {sale : PosSale}
    (found : getSale db tenantId saleId = .ok sale) :
    sale ∈ db.sales ∧ sale.id = saleId ∧ sale.tenantId = tenantId := by
  simp only [getSale, Checked.bind_eq_ok, Checked.fetch_eq_ok, Checked.ensure_eq_ok, exists_const,
    Checked.pure_eq_ok] at found
  obtain ⟨_, first, tenant, rfl⟩ := found
  exact ⟨List.mem_of_find?_eq_some first, by simpa using List.find?_some first, tenant⟩

theorem saleInScope_ok {db : Db} {context : RequestContext} {saleId : ℕ} {sale : PosSale}
    (found : saleInScope db context saleId = .ok sale) : sale ∈ db.sales ∧ sale.id = saleId := by
  simp only [saleInScope, Checked.bind_eq_ok, Checked.pure_eq_ok] at found
  obtain ⟨_, _, _, _, _, found, _, _, _, _, _, _, rfl⟩ := found
  obtain ⟨member, id, _⟩ := getSale_ok found
  exact ⟨member, id⟩

@[simp] theorem mem_getSaleLines {db : Db} {saleId : ℕ} {line : PosSaleLine} :
    line ∈ getSaleLines db saleId ↔ line ∈ db.saleLines ∧ line.saleId = saleId := by
  simp [getSaleLines]

@[simp] theorem mem_getReturnEvents {db : Db} {saleId : ℕ} {event : PosReturnEvent} :
    event ∈ getReturnEvents db saleId ↔ event ∈ db.returnEvents ∧ event.saleId = saleId := by
  simp [getReturnEvents]

/-- A new line belongs to its sale, gets an identifier from the fresh range and copies a resolved
line. -/
theorem mem_newSaleLines {db : Db} {saleId tenantId : ℕ} {lines : List ResolvedSaleLine}
    {line : PosSaleLine} (member : line ∈ newSaleLines db saleId tenantId lines) :
    line.saleId = saleId ∧ db.freshSaleLineId ≤ line.id := by
  obtain ⟨index, bound, rfl⟩ := List.mem_iff_getElem.mp member
  simp only [newSaleLines, List.length_mapIdx] at bound
  simp only [newSaleLines, List.getElem_mapIdx]
  exact ⟨trivial, Nat.le_add_right _ _⟩

private theorem nodup_newSaleLines (db : Db) (saleId tenantId : ℕ) (lines : List ResolvedSaleLine) :
    ((newSaleLines db saleId tenantId lines).map (·.id)).Nodup := by
  refine List.nodup_iff_injective_getElem.mpr fun first second same => ?_
  simp only [newSaleLines, List.getElem_map, List.getElem_mapIdx] at same
  exact Fin.ext (by omega)

/-- A line as it is written of a resolved one. -/
structure CopiesLine (resolved : ResolvedSaleLine) (line : PosSaleLine) : Prop where
  lineType : line.lineType = resolved.lineType
  qty : line.qty = resolved.qty
  unitPrice : line.unitPrice = resolved.unitPrice
  snapshot : line.toPosSaleLineSnapshot = resolved.snapshot

theorem newSaleLines_copies (db : Db) (saleId tenantId : ℕ) (lines : List ResolvedSaleLine) :
    List.Forall₂ CopiesLine lines (newSaleLines db saleId tenantId lines) := by
  refine List.forall₂_iff_get.mpr ⟨by simp [newSaleLines], fun index _ _ => ?_⟩
  simp only [newSaleLines, List.get_eq_getElem, List.getElem_mapIdx]
  exact ⟨rfl, rfl, rfl, rfl⟩

/-- The lines of a sale that had none, after new ones were written for it. -/
theorem getSaleLines_new {db after : Db} {kept : List PosSaleLine} {saleId tenantId : ℕ}
    {lines : List ResolvedSaleLine}
    (written : after.saleLines = kept ++ newSaleLines db saleId tenantId lines)
    (none : ∀ line ∈ kept, line.saleId ≠ saleId) :
    getSaleLines after saleId = newSaleLines db saleId tenantId lines := by
  have before : (kept.filter fun line => line.saleId = saleId) = [] :=
    List.filter_eq_nil_iff.mpr fun line member => by simpa using none line member
  have new : (newSaleLines db saleId tenantId lines).filter (fun line => line.saleId = saleId) =
      newSaleLines db saleId tenantId lines :=
    List.filter_eq_self.mpr fun line member => by simpa using (mem_newSaleLines member).1
  rw [getSaleLines, written, List.filter_append, before, new, List.nil_append]

section Fresh

variable {db : Db}

theorem sale_id_lt_fresh {sale : PosSale} (member : sale ∈ db.sales) :
    sale.id < db.freshSaleId := by
  apply lt_freshId
  simp only [List.mem_append, List.mem_map]
  exact .inl (.inl (.inl (.inl (.inl ⟨sale, member, rfl⟩))))

theorem line_saleId_lt_fresh {line : PosSaleLine} (member : line ∈ db.saleLines) :
    line.saleId < db.freshSaleId := by
  apply lt_freshId
  simp only [List.mem_append, List.mem_map]
  exact .inl (.inl (.inl (.inl (.inr ⟨line, member, rfl⟩))))

theorem payment_saleId_lt_fresh {payment : PosPayment} (member : payment ∈ db.payments) :
    payment.saleId < db.freshSaleId := by
  apply lt_freshId
  simp only [List.mem_append, List.mem_map]
  exact .inl (.inl (.inl (.inr ⟨payment, member, rfl⟩)))

theorem event_saleId_lt_fresh {event : PosReturnEvent} (member : event ∈ db.returnEvents) :
    event.saleId < db.freshSaleId := by
  apply lt_freshId
  simp only [List.mem_append, List.mem_map]
  exact .inl (.inl (.inr ⟨event, member, rfl⟩))

private theorem line_id_lt_fresh {line : PosSaleLine} (member : line ∈ db.saleLines) :
    line.id < db.freshSaleLineId :=
  lt_freshId (List.mem_append_left _ (List.mem_map_of_mem (f := (·.id)) member))

theorem event_id_lt_fresh {event : PosReturnEvent} (member : event ∈ db.returnEvents) :
    event.id < db.freshReturnEventId :=
  lt_freshId (List.mem_append_left _ (List.mem_map_of_mem (f := (·.id)) member))

theorem sourceReturnId_lt_fresh {event : PosReturnEvent} (member : event ∈ db.returnEvents)
    {source : ℕ} (completes : event.sourceReturnId = some source) :
    source < db.freshReturnEventId :=
  lt_freshId (List.mem_append_right _ (List.mem_filterMap.mpr ⟨event, member, completes⟩))

end Fresh

theorem nodup_ids_append_newSaleLines {db : Db} {kept : List PosSaleLine} (saleId tenantId : ℕ)
    (lines : List ResolvedSaleLine) (lineIds : (db.saleLines.map (·.id)).Nodup)
    (sub : kept.Sublist db.saleLines) :
    ((kept ++ newSaleLines db saleId tenantId lines).map (·.id)).Nodup := by
  rw [List.map_append, List.nodup_append]
  refine ⟨lineIds.sublist (sub.map _), nodup_newSaleLines db saleId tenantId lines,
    fun id old new isNew => ?_⟩
  obtain ⟨line, inKept, rfl⟩ := List.mem_map.mp old
  obtain ⟨line', inNew, rfl⟩ := List.mem_map.mp isNew
  have below := line_id_lt_fresh (sub.subset inKept)
  have above := (mem_newSaleLines inNew).2
  omega

/-! ## Drafts -/

/-- A new draft with its resolved lines. -/
structure SaleCreated (db after : Db) (payload : PosSaleCreateRequest) (sale : PosSale)
    (lines : List ResolvedSaleLine) :
    Prop where
  id : sale.id = db.freshSaleId
  draft : sale.status = .draft
  due : sale.totalDue = totalDue lines
  resolved : resolveSaleLines db sale.tenantId sale.storeId payload.lines = .ok lines
  tables : after = { db with
    sales := db.sales ++ [sale]
    saleLines := db.saleLines ++ newSaleLines db sale.id sale.tenantId lines }

theorem createSale_ok {db after : Db} {context : RequestContext} {payload : PosSaleCreateRequest}
    (success : createSale db context payload = .ok after) :
    ∃ sale lines, SaleCreated db after payload sale lines := by
  simp only [createSale, Checked.bind_eq_ok, Checked.pure_eq_ok] at success
  obtain ⟨_, _, _, _, tenantId, _, _, _, storeId, _, _, _, _, _, lines, resolved, rfl⟩ := success
  exact ⟨{ id := db.freshSaleId, tenantId, storeId, status := .draft, totalDue := totalDue lines
           balanceDue := totalDue lines }, lines, rfl, rfl, rfl, resolved, rfl⟩

/-- A draft whose lines and totals are replaced. -/
structure SaleUpdated (db after : Db) (payload : PosSaleUpdateRequest) (tenantId : ℕ)
    (sale : PosSale) (lines : List ResolvedSaleLine) : Prop where
  draft : sale.status = .draft
  tenant : sale.tenantId = tenantId
  resolved : resolveSaleLines db tenantId sale.storeId payload.lines = .ok lines
  tables : after = { db with
    sales := update (·.id) [sale.id] (fun row =>
      { row with totalDue := totalDue lines, paidTotal := 0, balanceDue := totalDue lines,
                 changeDue := 0 }) db.sales
    saleLines := (db.saleLines.filter fun line => line.saleId ≠ sale.id) ++
      newSaleLines db sale.id tenantId lines }

/-- The sale that a request names. -/
structure SaleTarget (db : Db) (saleId : ℕ) (sale : PosSale) : Prop where
  member : sale ∈ db.sales
  id : sale.id = saleId

theorem updateSale_ok {db after : Db} {context : RequestContext} {saleId : ℕ}
    {payload : PosSaleUpdateRequest} (success : updateSale db context saleId payload = .ok after) :
    ∃ tenantId sale lines, SaleTarget db saleId sale ∧
    SaleUpdated db after payload tenantId sale lines := by
  simp only [updateSale, Checked.bind_eq_ok, Checked.ensure_eq_ok, exists_const,
    Checked.pure_eq_ok] at success
  obtain ⟨_, _, _, _, tenantId, _, _, _, sale, found, _, _, draft, _, lines, resolved, rfl⟩ :=
    success
  obtain ⟨member, id, tenant⟩ := getSale_ok found
  exact ⟨tenantId, sale, lines, ⟨member, id⟩, draft, tenant, resolved, rfl⟩

/-- A canceled draft. -/
structure SaleCanceled (db after : Db) (sale : PosSale) : Prop where
  draft : sale.status = .draft
  tables : after = { db with
    sales := update (·.id) [sale.id] (fun row => { row with status := .canceled }) db.sales }

theorem cancelSale_ok {db after : Db} {sale : PosSale} (success : cancelSale db sale = .ok after) :
    SaleCanceled db after sale := by
  simp only [cancelSale, Checked.bind_eq_ok, Checked.ensure_eq_ok, exists_const,
    Checked.pure_eq_ok] at success
  obtain ⟨draft, rfl⟩ := success
  exact ⟨draft, rfl⟩

/-! ## Returns -/

/-- An item that passed the checks of a return: a line of the sale, within what is left of it. -/
structure Accepted (db : Db) (saleId : ℕ) (item : PosReturnItem) (accepted : AcceptedReturn) :
    Prop where
  member : accepted.line ∈ getSaleLines db saleId
  id : accepted.line.id = item.lineId
  qty : accepted.qty = item.qty
  positive : 1 ≤ item.qty
  refundable : item.qty ≤ accepted.line.qty - refundedQuantities
    (getReturnEvents db saleId) item.lineId
  single : accepted.line.lineType = .epc → item.qty = 1

theorem acceptReturnItems_ok {db : Db} {saleId : ℕ} {items : List PosReturnItem}
    {accepted : List AcceptedReturn} (success : acceptReturnItems db saleId items = .ok accepted) :
    List.Forall₂ (Accepted db saleId) items accepted := by
  refine (Checked.mapM_eq_ok.mp success).imp fun item result passed => ?_
  simp only [acceptReturnItem, Checked.bind_eq_ok, Checked.fetch_eq_ok, Checked.ensure_eq_ok,
    exists_const, Checked.pure_eq_ok] at passed
  obtain ⟨line, found, positive, refundable, single, rfl⟩ := passed
  exact ⟨List.mem_of_find?_eq_some found, by simpa using List.find?_some found, rfl, positive,
    refundable, single⟩

/-- A refund: its accepted items, the goods put back, the event and the cash paid out. -/
structure Refunded (db after : Db) (context : RequestContext) (sale : PosSale)
    (payload : RefundItemsSaleActionRequest) (items : List AcceptedReturn)
    (session : StockSession) : Prop where
  paid : sale.status = .paid
  accepted : List.Forall₂ (Accepted db sale.id) payload.returnItems items
  restocked : items.foldlM (restockReturn "refund" context (getReturnPolicy db sale.tenantId) sale)
    { flushed := db.stock } = .ok session
  committed : session.commit = .ok after.stock
  cash : CashChange db.cash after.cash
  tables : after = { db with
    stock := after.stock
    returnEvents := db.returnEvents ++ [returnEvent db sale .refundItems items
      (returnTotals (getReturnPolicy db sale.tenantId) items) none 0
      (-(returnTotals (getReturnPolicy db sale.tenantId) items).total)]
    cashSessions := after.cashSessions
    cashMovements := after.cashMovements }

theorem refundItems_ok {db after : Db} {context : RequestContext} {sale : PosSale}
    {payload : RefundItemsSaleActionRequest}
    (success : refundItems db context sale payload = .ok after) :
    ∃ items session, Refunded db after context sale payload items session := by
  simp only [refundItems, Checked.bind_eq_ok, Checked.ensure_eq_ok, exists_const,
    Checked.pure_eq_ok] at success
  obtain ⟨_, _, paid, _, _, _, _, _, _, items, accepted, _, cashSession, opened, session, restocked,
    settled, cash, stock, committed, rfl⟩ := success
  have only := settleCash_ok (by exact openSessionFor_ok opened) (by simp [CashAction.sign]) cash
  exact ⟨items, session, paid, acceptReturnItems_ok accepted, restocked, committed,
    only.change, by rw [only.tables]⟩

/-! ## Exchanges -/

/-- An exchange: the accepted items, the new sale with its lines and payments, the goods moved in
both directions. -/
structure Exchanged (db after : Db) (context : RequestContext) (sale : PosSale)
    (payload : ExchangeItemsSaleActionRequest) (items : List AcceptedReturn)
    (lines : List ResolvedSaleLine) (exchangeSale : PosSale) (delta : ℚ)
    (batch : SaleBatch) (session : StockSession) : Prop where
  finalized : sale.status.isFinalized = true
  accepted : List.Forall₂ (Accepted db sale.id) payload.returnItems items
  resolved : resolveSaleLines db sale.tenantId sale.storeId payload.exchangeLines = .ok lines
  id : exchangeSale.id = db.freshSaleId
  tenant : exchangeSale.tenantId = sale.tenantId
  store : exchangeSale.storeId = sale.storeId
  paid : exchangeSale.status = .paid
  due : exchangeSale.totalDue = totalDue lines
  balanced : exchangeSale.paidTotal = totalDue lines ∧ exchangeSale.balanceDue = 0 ∧
    exchangeSale.changeDue = 0
  settled : 0 < delta ∨ payload.payments = []
  collected : 0 < delta → ∃ totals, validatePayments payload.payments delta = .ok totals
  sold : lines.foldlM (exchangeLine db sale) (SaleBatch.start db) = .ok batch
  restocked : items.foldlM (restockReturn "return" context (getReturnPolicy db sale.tenantId) sale)
    batch.session = .ok session
  committed : session.commit = .ok after.stock
  cash : CashChange db.cash after.cash
  tables : after = { db with
    stock := after.stock
    epcAssignments := batch.assignments
    sales := db.sales ++ [exchangeSale]
    saleLines := db.saleLines ++ newSaleLines db exchangeSale.id sale.tenantId lines
    payments := db.payments ++ paymentRecords exchangeSale.id sale.tenantId payload.payments
    returnEvents := db.returnEvents ++ [returnEvent db sale .exchangeItems items
      (returnTotals (getReturnPolicy db sale.tenantId) items) (some exchangeSale.id)
      (totalDue lines) delta]
    cashSessions := after.cashSessions
    cashMovements := after.cashMovements }

/-- An exchange takes payments only when it collects money. -/
theorem settleExchange_ok {context : RequestContext} {policy : ReturnPolicySettings}
    {exceptions : List String} {payload : ExchangeItemsSaleActionRequest} {delta : ℚ} {cash : ℚ × ℚ}
    (success : settleExchange context policy exceptions payload delta = .ok cash) :
    (0 < delta ∨ payload.payments = []) ∧
      (0 < delta → ∃ totals, validatePayments payload.payments delta = .ok totals) := by
  rw [settleExchange] at success
  by_cases collects : 0 < delta
  · simp only [if_pos collects, Checked.bind_eq_ok] at success
    obtain ⟨_, _, _, _, totals, valid, _⟩ := success
    exact ⟨.inl collects, fun _ => ⟨totals, valid⟩⟩
  · refine ⟨.inr ?_, fun positive => absurd positive collects⟩
    rw [if_neg collects] at success
    split at success
    · simp only [Checked.bind_eq_ok, Checked.ensure_eq_ok, exists_const] at success
      exact success.1
    · simp only [Checked.bind_eq_ok, Checked.ensure_eq_ok, exists_const] at success
      exact success.1.1

theorem exchangeItems_ok {db after : Db} {context : RequestContext} {sale : PosSale}
    {payload : ExchangeItemsSaleActionRequest}
    (success : exchangeItems db context sale payload = .ok after) :
    ∃ items lines exchangeSale delta batch session,
      Exchanged db after context sale payload items lines exchangeSale delta batch session := by
  simp only [exchangeItems, Checked.bind_eq_ok, Checked.ensure_eq_ok, exists_const,
    Checked.pure_eq_ok, Prod.exists] at success
  obtain ⟨_, _, finalized, _, _, lines, resolved, _, _, items, accepted, cashTotal, cashMoved,
    settles, cashSession, opened, batch, sold, session, restocked, settled, cash, stock, committed,
    rfl⟩ := success
  obtain ⟨empty, collected⟩ := settleExchange_ok settles
  have only := settleCash_ok (by exact openSessionFor_ok opened)
    (by split <;> simp [CashAction.sign]) cash
  exact ⟨items, lines,
    { id := db.freshSaleId, tenantId := sale.tenantId, storeId := sale.storeId, status := .paid,
      totalDue := totalDue lines, paidTotal := totalDue lines,
      checkedOutAt := some context.now }, _, batch, session, finalized,
    acceptReturnItems_ok accepted, resolved, rfl, rfl, rfl, rfl, rfl, ⟨rfl, rfl, rfl⟩, empty,
    collected, sold, restocked, committed, only.change, by rw [only.tables]⟩

/-! ## Checkouts -/

/-- The vouchers after a checkout that one of them may have paid for. -/
def consumedAdvances (db : Db) (advance : Option PosAdvance) (saleId : ℕ) : List PosAdvance :=
  match advance with
  | some advance => update (·.id) [advance.id] (fun row =>
      { row with status := .consumed, consumedSaleId := some saleId }) db.advances
  | none => db.advances

/-- A checkout: its payments and the voucher among them, the goods sold and the lines that remember
them. -/
structure CheckedOut (db after : Db) (context : RequestContext) (sale : PosSale)
    (payload : CheckoutSaleActionRequest) (totals : PaymentTotals) (advance : Option PosAdvance)
    (batch : SaleBatch) : Prop where
  draft : sale.status = .draft
  nonempty : getSaleLines db sale.id ≠ []
  valid : validatePayments payload.payments ((getSaleLines db sale.id).map (·.lineTotal)).sum =
    .ok totals
  voucher : resolveAdvancePayment db context sale totals.totalDue payload.payments = .ok advance
  sold : (getSaleLines db sale.id).foldlM (checkoutLine db sale) (SaleBatch.start db) = .ok batch
  committed : batch.session.commit = .ok after.stock
  cash : CashChange db.cash after.cash
  drawer : ∃ session written, openSessionFor db context sale totals.cashTotal = .ok session ∧
    after.cashMovements = db.cashMovements ++ written ∧
    CashSettled session sale .sale (max 0 (totals.cashTotal - totals.changeDue)) context.now written
  tables : after = { db with
    stock := after.stock
    epcAssignments := batch.assignments
    sales := update (·.id) [sale.id] (fun row =>
      { row with
        status := .paid
        totalDue := totals.totalDue
        paidTotal := totals.paidTotal
        balanceDue := totals.balanceDue
        changeDue := totals.changeDue
        checkedOutAt := some context.now
        receiptNumber := orElse payload.receiptNumber row.receiptNumber }) db.sales
    saleLines := batch.saleLines
    payments := db.payments ++ paymentRecords sale.id sale.tenantId payload.payments
    advances := consumedAdvances db advance sale.id
    advanceEvents := after.advanceEvents
    cashSessions := after.cashSessions
    cashMovements := after.cashMovements }

theorem checkoutSale_ok {db after : Db} {context : RequestContext} {sale : PosSale}
    {payload : CheckoutSaleActionRequest}
    (success : checkoutSale db context sale payload = .ok after) :
    ∃ totals advance batch, CheckedOut db after context sale payload totals advance batch := by
  simp only [checkoutSale, Checked.bind_eq_ok, Checked.ensure_eq_ok, exists_const,
    Checked.pure_eq_ok] at success
  obtain ⟨draft, nonempty, totals, valid, advance, resolved, cashSession, opened, batch, sold,
    settled, cash, stock, committed, rfl⟩ := success
  obtain ⟨written, movements, settles⟩ := settleCash_written cash
  cases advance with
  | none =>
    have only := settleCash_ok (by exact openSessionFor_ok opened) (by simp [CashAction.sign]) cash
    exact ⟨totals, none, batch, draft, nonempty, valid, resolved, sold, committed, only.change,
      ⟨cashSession, written, opened, movements, settles⟩, by rw [only.tables]; rfl⟩
  | some advance =>
    have only := settleCash_ok (by exact openSessionFor_ok opened) (by simp [CashAction.sign]) cash
    exact ⟨totals, some advance, batch, draft, nonempty, valid, resolved, sold, committed,
      only.change, ⟨cashSession, written, opened, movements, settles⟩, by rw [only.tables]; rfl⟩

section Columns

variable {β : Type*} {column : PosSaleLine → β}
  (unit : ∀ stockRow line, column (rememberUnit stockRow line) = column line)
  (cost : ∀ stockRows line, column (rememberCost stockRows line) = column line)
include unit cost

private theorem checkoutLine_keeps {db : Db} {sale : PosSale} {batch next : SaleBatch}
    {line : PosSaleLine} (success : checkoutLine db sale batch line = .ok next) :
    next.saleLines.map column = batch.saleLines.map column := by
  unfold checkoutLine at success
  cases kind : line.lineType with
  | epc =>
    simp only [kind, Checked.bind_eq_ok, Checked.pure_eq_ok] at success
    obtain ⟨_, _, rfl⟩ := success
    exact map_update (unit _)
  | sku =>
    simp only [kind, Checked.bind_eq_ok, Checked.pure_eq_ok] at success
    obtain ⟨_, _, rfl⟩ := success
    exact map_update (cost _)

/-- A checkout fills columns of its lines that remember the units, and leaves the other columns
alone. -/
theorem CheckedOut.keeps {db after : Db} {context : RequestContext} {sale : PosSale}
    {payload : CheckoutSaleActionRequest} {totals : PaymentTotals} {advance : Option PosAdvance}
    {batch : SaleBatch} (step : CheckedOut db after context sale payload totals advance batch) :
    after.saleLines.map column = db.saleLines.map column := by
  have kept :=
    Checked.foldlM_keeps (fun batch => batch.saleLines.map column = db.saleLines.map column)
      step.sold rfl
    fun _ _ _ _ same success => (checkoutLine_keeps unit cost success).trans same
  rw [step.tables]
  exact kept

end Columns

/-! ## All requests -/

/-- Everything that a committed sale request can do. -/
inductive SaleEffect (db after : Db) : SaleRequest → Prop
  | created {context payload} (sale : PosSale) (lines : List ResolvedSaleLine)
      (step : SaleCreated db after payload sale lines) :
      SaleEffect db after (.create context payload)
  | updated {context saleId payload} (tenantId : ℕ) (sale : PosSale)
      (target : SaleTarget db saleId sale) (lines : List ResolvedSaleLine)
      (step : SaleUpdated db after payload tenantId sale lines) :
      SaleEffect db after (.update context saleId payload)
  | canceled {context saleId transactionId} (sale : PosSale) (target : SaleTarget db saleId sale)
      (step : SaleCanceled db after sale) :
      SaleEffect db after (.action context saleId ⟨transactionId, .cancel⟩)
  | refunded {context saleId transactionId payload} (sale : PosSale)
      (target : SaleTarget db saleId sale) (items : List AcceptedReturn) (session : StockSession)
      (step : Refunded db after context sale payload items session) :
      SaleEffect db after (.action context saleId ⟨transactionId, .refundItems payload⟩)
  | exchanged {context saleId transactionId payload} (sale : PosSale)
      (target : SaleTarget db saleId sale) (items : List AcceptedReturn)
      (lines : List ResolvedSaleLine) (exchangeSale : PosSale) (delta : ℚ)
      (batch : SaleBatch) (session : StockSession)
      (step : Exchanged db after context sale payload items lines exchangeSale delta batch
      session) :
      SaleEffect db after (.action context saleId ⟨transactionId, .exchangeItems payload⟩)
  | checkedOut {context saleId transactionId payload} (sale : PosSale)
      (target : SaleTarget db saleId sale) (totals : PaymentTotals) (advance : Option PosAdvance)
      (batch : SaleBatch) (step : CheckedOut db after context sale payload totals advance batch) :
      SaleEffect db after (.action context saleId ⟨transactionId, .checkout payload⟩)

/-- A committed request has exactly one of the effects above. -/
theorem saleStep_ok {db after : Db} {request : SaleRequest}
    (success : saleStep db request = .ok after) :
    SaleEffect db after request := by
  cases request with
  | create context payload =>
    obtain ⟨sale, lines, step⟩ := createSale_ok success
    exact .created sale lines step
  | update context saleId payload =>
    obtain ⟨tenantId, sale, lines, target, step⟩ := updateSale_ok success
    exact .updated tenantId sale target lines step
  | action context saleId payload =>
    obtain ⟨transactionId, action⟩ := payload
    simp only [saleStep, saleAction, Checked.bind_eq_ok] at success
    obtain ⟨_, _, _, _, sale, found, rest⟩ := success
    obtain ⟨member, id⟩ := saleInScope_ok found
    cases action with
    | cancel => exact .canceled sale ⟨member, id⟩ (cancelSale_ok rest)
    | refundItems payload =>
      obtain ⟨items, session, step⟩ := refundItems_ok rest
      exact .refunded sale ⟨member, id⟩ items session step
    | exchangeItems payload =>
      obtain ⟨items, lines, exchangeSale, delta, batch, session, step⟩ := exchangeItems_ok rest
      exact .exchanged sale ⟨member, id⟩ items lines exchangeSale delta batch session step
    | checkout payload =>
      obtain ⟨totals, advance, batch, step⟩ := checkoutSale_ok rest
      exact .checkedOut sale ⟨member, id⟩ totals advance batch step

end ArisCloud

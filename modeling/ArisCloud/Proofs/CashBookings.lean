import ArisCloud.Proofs.CashEvents

/-! # The movements that requests append

Movements are only ever appended. Sales are booked by checkouts and exchanges alone: the movements
that the cash router, the vouchers and the refunds append are of other actions, and those of an
exchange go with the money that the exchange collects or pays out.
-/

namespace ArisCloud

open KeyedRows

/-- Movements are appended, none of which books a sale. -/
def BooksNoSale (db after : Db) : Prop :=
  ∃ written, after.cashMovements = db.cashMovements ++ written ∧ ∀ movement ∈ written,
    movement.action ≠ .sale

variable {db base after settled : Db} {context : RequestContext} {tenantId storeId : ℕ}
    {session : PosCashSession}

namespace BooksNoSale

theorem of_eq (same : after.cashMovements = db.cashMovements) : BooksNoSale db after :=
  ⟨[], by rw [same, List.append_nil], by simp⟩

theorem of_append {movement : PosCashMovement}
    (appended : after.cashMovements = db.cashMovements ++ [movement])
    (other : movement.action ≠ .sale) : BooksNoSale db after := by
  refine ⟨[movement], appended, fun new member => ?_⟩
  rw [List.mem_singleton.mp member]
  exact other

theorem recorded {saleId : ℕ} {action : CashAction} {amount : ℚ} {now : ℕ} (other : action ≠ .sale)
    (same : base.cashMovements = db.cashMovements)
    (success : recordCashMovement base session tenantId storeId saleId action amount now =
      .ok after) :
    BooksNoSale db after := by
  simp only [recordCashMovement, Checked.bind_eq_ok, Checked.pure_eq_ok] at success
  obtain ⟨_, _, _, _, _, _, rfl⟩ := success
  exact of_append (by rw [← same]; rfl) other

theorem removed {amount : ℚ} {now : ℕ} (same : base.cashMovements = db.cashMovements)
    (success : removeDeposit base session tenantId storeId amount now = .ok after) :
    BooksNoSale db after := by
  simp only [removeDeposit, Checked.bind_eq_ok, Checked.pure_eq_ok] at success
  obtain ⟨_, _, rfl⟩ := success
  exact of_append (by rw [← same]; rfl) (by rintro ⟨⟩)

end BooksNoSale

/-! ## Vouchers -/

private theorem createAdvance_books {payload : PosAdvanceCreateRequest}
    (success : createAdvance db context payload = .ok after) :
    BooksNoSale db after := by
  simp only [createAdvance, Checked.bind_eq_ok] at success
  obtain ⟨tenantId, _, storeId, _, _, _, _, _, _, _, success⟩ := success
  split at success
  · simp only [Checked.bind_eq_ok, Checked.fetch_eq_ok] at success
    obtain ⟨session, _, recorded⟩ := success
    exact .recorded (by rintro ⟨⟩) (by exact rfl) recorded
  · obtain rfl := Checked.pure_eq_ok.mp success
    exact .of_append rfl (by rintro ⟨⟩)

private theorem refundAdvance_books {advance : PosAdvance} {refundMethod : Option PaymentMethod}
    (success : refundAdvance db context advance refundMethod = .ok after) :
    BooksNoSale db after := by
  simp only [refundAdvance, Checked.bind_eq_ok] at success
  obtain ⟨method, _, success⟩ := success
  split at success
  · simp only [Checked.bind_eq_ok, Checked.fetch_eq_ok] at success
    obtain ⟨session, _, recorded⟩ := success
    exact .recorded (by rintro ⟨⟩) (by exact rfl) recorded
  · obtain rfl := Checked.pure_eq_ok.mp success
    exact .of_append rfl (by rintro ⟨⟩)

theorem advanceStep_books {request : AdvanceRequest}
    (success : advanceStep db request = .ok after) :
    BooksNoSale db after := by
  cases request with
  | create context payload => exact createAdvance_books success
  | mutate context advanceId action =>
    simp only [advanceStep, mutateAdvance, Checked.bind_eq_ok] at success
    obtain ⟨advance, _, _, _, _, _, _, _, success⟩ := success
    cases action with
    | refund refundMethod => exact refundAdvance_books success
    | consume saleTotal saleId =>
      simp only [Checked.bind_eq_ok, Checked.pure_eq_ok] at success
      obtain ⟨_, _, _, _, _, _, rfl⟩ := success
      exact .of_eq rfl
    | expireNow =>
      obtain rfl := Checked.pure_eq_ok.mp success
      exact .of_eq rfl
  | sweep context tenantId storeId =>
    simp only [advanceStep, sweepExpiredAdvances, Checked.bind_eq_ok, Checked.pure_eq_ok] at success
    obtain ⟨_, _, _, _, _, _, _, _, rfl⟩ := success
    exact .of_eq rfl

/-! ## The cash router -/

private theorem cashSessionAction_books {payload : PosCashSessionActionRequest}
    (success : cashSessionAction db context payload = .ok after) : BooksNoSale db after := by
  simp only [cashSessionAction, Checked.bind_eq_ok] at success
  obtain ⟨_, _, _, _, tenantId, _, _, _, storeId, _, _, _, success⟩ := success
  cases action : payload.action with
  | opening openingAmount businessDate timezone =>
    simp only [action, openCashSession, Checked.bind_eq_ok, Checked.pure_eq_ok] at success
    obtain ⟨_, _, _, _, _, _, _, _, rfl⟩ := success
    exact .of_append rfl (by rintro ⟨⟩)
  | cashIn amount =>
    simp only [action, Checked.bind_eq_ok, Checked.pure_eq_ok] at success
    obtain ⟨session, _, _, _, rfl⟩ := success
    exact .of_append rfl (by rintro ⟨⟩)
  | cashOut amount =>
    simp only [action, Checked.bind_eq_ok, Checked.pure_eq_ok] at success
    obtain ⟨session, _, _, _, _, _, rfl⟩ := success
    exact .of_append rfl (by rintro ⟨⟩)
  | close countedCash =>
    simp only [action, Checked.bind_eq_ok, Checked.pure_eq_ok] at success
    obtain ⟨session, _, rfl⟩ := success
    exact .of_append rfl (by rintro ⟨⟩)

private theorem createCashCut_books {payload : PosCashCutCreateRequest}
    (success : createCashCut db context payload = .ok after) :
    BooksNoSale db after := by
  simp only [createCashCut, Checked.bind_eq_ok] at success
  obtain ⟨_, _, _, _, tenantId, _, _, _, storeId, _, _, _, session, _, _, _, totals, _, success⟩ :=
    success
  split at success
  · exact .removed (by exact rfl) success
  · obtain rfl := Checked.pure_eq_ok.mp success
    exact .of_eq rfl

private theorem cashCutAction_books {cutId : ℕ} {payload : PosCashCutActionRequest}
    (success : cashCutAction db context cutId payload = .ok after) : BooksNoSale db after := by
  simp only [cashCutAction, Checked.bind_eq_ok] at success
  obtain ⟨_, _, _, _, tenantId, _, storeId, _, _, _, cut, _, success⟩ := success
  cases action : payload.action with
  | complete countedCash =>
    simp only [action, Checked.bind_eq_ok, Checked.pure_eq_ok] at success
    obtain ⟨_, _, rfl⟩ := success
    exact .of_eq rfl
  | void | printMark =>
    simp only [action, Checked.pure_eq_ok] at success
    obtain rfl := success
    exact .of_eq rfl
  | applyCashOut amount =>
    simp only [action, Checked.bind_eq_ok, Checked.pure_eq_ok] at success
    obtain ⟨amount, _, session, _, paidOut, removed, rfl⟩ := success
    obtain ⟨written, movements, other⟩ := BooksNoSale.removed (by exact rfl) removed
    exact ⟨written, movements, other⟩

theorem cashStep_books {request : CashRequest} (success : cashStep db request = .ok after) :
    BooksNoSale db after := by
  cases request with
  | sessionAction context payload => exact cashSessionAction_books success
  | createCut context payload => exact createCashCut_books success
  | cutAction context cutId payload => exact cashCutAction_books success
  | closeDay context payload =>
    simp only [cashStep, closeDay, Checked.bind_eq_ok, Checked.pure_eq_ok] at success
    obtain ⟨_, _, _, _, tenantId, _, _, _, storeId, _, _, _, _, _, _, _, _, _, _, _, rfl⟩ := success
    exact .of_append rfl (by rintro ⟨⟩)

/-! ## Refunds and exchanges -/

theorem refundItems_books {sale : PosSale} {payload : RefundItemsSaleActionRequest}
    (success : refundItems db context sale payload = .ok after) : BooksNoSale db after := by
  simp only [refundItems, Checked.bind_eq_ok, Checked.pure_eq_ok] at success
  obtain ⟨_, _, _, _, _, _, _, _, _, _, _, _, items, _, _, _, cashSession, opened, session, _,
    settled, cash, stock, _, rfl⟩ := success
  obtain ⟨written, movements, paidOut⟩ := settleCash_written cash
  refine ⟨written, movements, fun movement member => ?_⟩
  rw [(paidOut.columns movement member).2.2.1]
  rintro ⟨⟩

/-- What an exchange does to the money: the sale it adds, the payments of that sale, and the
movements of a drawer that go with the difference. -/
structure ExchangeBooked (db after : Db) (context : RequestContext) (sale : PosSale)
    (payload : ExchangeItemsSaleActionRequest) (items : List AcceptedReturn)
    (lines : List ResolvedSaleLine) (exchangeSale : PosSale) (delta : ℚ) : Prop where
  accepted : acceptReturnItems db sale.id payload.returnItems = .ok items
  resolved : resolveSaleLines db sale.tenantId sale.storeId payload.exchangeLines = .ok lines
  difference : delta =
    Decimals.quantize
    (totalDue lines - (returnTotals (getReturnPolicy db sale.tenantId) items).total)
  id : exchangeSale.id = db.freshSaleId
  place : exchangeSale.tenantId = sale.tenantId ∧ exchangeSale.storeId = sale.storeId
  paid : exchangeSale.status = .paid ∧ exchangeSale.checkedOutAt = some context.now
  sales : after.sales = db.sales ++ [exchangeSale]
  payments : after.payments = db.payments ++ paymentRecords exchangeSale.id sale.tenantId
    payload.payments
  paysOut : ¬ 0 < delta → payload.payments = [] ∧ BooksNoSale db after
  collects : 0 < delta → ∃ totals session written, validatePayments payload.payments delta =
    .ok totals ∧ openSessionFor db context sale totals.cashTotal = .ok session ∧
    after.cashMovements = db.cashMovements ++ written ∧
    CashSettled session sale .sale (max 0 (totals.cashTotal - totals.changeDue)) context.now written

theorem exchangeItems_booked {sale : PosSale} {payload : ExchangeItemsSaleActionRequest}
    (success : exchangeItems db context sale payload = .ok after) :
    ∃ items lines exchangeSale delta,
    ExchangeBooked db after context sale payload items lines exchangeSale delta := by
  simp only [exchangeItems, Checked.bind_eq_ok, Checked.ensure_eq_ok, exists_const,
    Checked.pure_eq_ok, Prod.exists] at success
  obtain ⟨_, _, finalized, _, _, lines, resolved, _, _, items, accepted, cashTotal, cashMoved,
    settles, cashSession, opened, batch, sold, session, restocked, settled, cash, stock, committed,
    rfl⟩ := success
  obtain ⟨written, movements, moved⟩ := settleCash_written cash
  have only := settleCash_ok (by exact openSessionFor_ok opened)
    (by split <;> simp [CashAction.sign]) cash
  refine ⟨items, lines,
    { id := db.freshSaleId, tenantId := sale.tenantId, storeId := sale.storeId, status := .paid,
      totalDue := totalDue lines, paidTotal := totalDue lines,
      checkedOutAt := some context.now }, _, accepted, resolved, rfl, rfl, ⟨rfl, rfl⟩,
    ⟨rfl, rfl⟩, by rw [only.tables], by rw [only.tables], fun pays => ?_, fun collects => ?_⟩
  · rw [settleExchange, if_neg pays] at settles
    split at settles
    · next negative =>
      simp only [Checked.bind_eq_ok, Checked.ensure_eq_ok, exists_const] at settles
      refine ⟨settles.1, written, movements, fun movement member => ?_⟩
      rw [(moved.columns movement member).2.2.1, if_pos negative]
      rintro ⟨⟩
    · simp only [Checked.bind_eq_ok, Checked.ensure_eq_ok, exists_const, Checked.pure_eq_ok,
        Prod.mk.injEq] at settles
      obtain ⟨⟨none, _⟩, rfl, rfl⟩ := settles
      rw [openSessionFor, if_neg (lt_irrefl 0)] at opened
      obtain rfl := Checked.pure_eq_ok.mp opened
      refine ⟨none, written, movements, fun movement member => ?_⟩
      obtain ⟨_, isSession, _⟩ := moved.own movement member
      contradiction
  · simp only [settleExchange, if_pos collects, Checked.bind_eq_ok, Checked.pure_eq_ok,
      Prod.mk.injEq] at settles
    obtain ⟨_, _, _, _, totals, valid, rfl, rfl⟩ := settles
    rw [if_neg collects.not_gt] at moved
    exact ⟨totals, cashSession, written, valid, opened, movements, moved⟩

end ArisCloud

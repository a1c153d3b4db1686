import Mathlib.Tactic.Linarith
import ArisCloud.Proofs.CashEvents
import ArisCloud.Soundness.CashBalance

/-! # Payments add up to what is due

A checkout sorts its payments into cash and the rest, gives change out of the cash, and books the
cash it keeps. Whatever the payments are, what it keeps and what the other payments bring is the
amount due, to the cent. Only the clamp of the balance ever takes effect: it turns the overpayment,
which is given back as change, into nothing.
-/

namespace ArisCloud

open KeyedRows Requests

/-! ## The rules -/

/-- The rules for a payment of each method. -/
structure PaymentRules (payment : PosPaymentCreate) : Prop where
  positive : 0 < payment.amount
  card : payment.method = .card → isTruthy payment.authorizationCode
  transfer : payment.method = .transfer → isTruthy payment.bankName ∧ isTruthy payment.voucherNumber
  advance : payment.method = .advance →
    (isTruthy payment.referenceCode ∨ payment.advanceId.isSome) ∧
    ¬ isTruthy payment.authorizationCode ∧ ¬ isTruthy payment.bankName

/-- The payments that a checkout of an amount takes. -/
structure PaymentsCover (payments : List PosPaymentCreate) (totalDue : ℚ) : Prop where
  nonempty : payments ≠ []
  rules : ∀ payment ∈ payments, PaymentRules payment
  enough : totalDue ≤ paidBy (fun _ => true) payments
  withinDue : paidBy (· ≠ .cash) payments ≤ totalDue

/-- The totals of payments that leave nothing unexplained. -/
structure TotalsExact (payments : List PosPaymentCreate) (totals : PaymentTotals) : Prop where
  changeNonneg : 0 ≤ totals.changeDue
  changeWithinCash : totals.changeDue ≤ totals.cashTotal
  balance : totals.balanceDue = 0
  kept : totals.cashTotal - totals.changeDue + paidBy (· ≠ .cash) payments = totals.totalDue

/-- The clamp of the cash that is kept takes no effect. -/
def KeptClampIdle (totals : PaymentTotals) : Prop :=
  max 0 (totals.cashTotal - totals.changeDue) = totals.cashTotal - totals.changeDue

/-- The clamp of the balance takes no effect. -/
def BalanceClampIdle (totals : PaymentTotals) : Prop :=
  max (totals.totalDue - totals.paidTotal) 0 = totals.totalDue - totals.paidTotal

private theorem checkPayment_eq_ok {payment : PosPaymentCreate} : checkPayment payment = .ok () ↔
    PaymentRules payment := by
  simp only [checkPayment, checkPaymentFields, Checked.bind_eq_ok, Checked.ensure_eq_ok,
    exists_const]
  constructor
  · rintro ⟨positive, ⟨card, transfer⟩, named, plain⟩
    exact ⟨positive, card, transfer, fun isAdvance => ⟨named isAdvance, plain isAdvance⟩⟩
  · rintro ⟨positive, card, transfer, advance⟩
    exact ⟨positive, ⟨card, transfer⟩, fun isAdvance => (advance isAdvance).1, fun isAdvance =>
      (advance isAdvance).2⟩

/-- Every payment is by a method or not. -/
theorem paidBy_split (method : PaymentMethod) (payments : List PosPaymentCreate) :
    paidBy (fun _ => true) payments = paidBy (· = method) payments + paidBy
    (· ≠ method) payments := by
  refine Tally.sumWhere_split (fun payment _ => ?_) fun payment _ both => ?_
  · by_cases same : payment.method = method
    · simp [same]
    · simp [same]
  · simp only [ne_eq, decide_not, Bool.not_eq_true', decide_eq_true_eq,
      decide_eq_false_iff_not] at both
    exact both.2 both.1

section Validation

variable {payments : List PosPaymentCreate} {totalDue : ℚ}

/-- Vouchers are a part of what is not cash. -/
theorem advance_le_nonCash (rules : ∀ payment ∈ payments, PaymentRules payment) :
    paidBy (· = .advance) payments ≤ paidBy (· ≠ .cash) payments := by
  induction payments with
  | nil => simp [paidBy]
  | cons payment rest ih =>
    have positive := (rules payment (List.mem_cons_self ..)).positive
    have rest := ih fun other member => rules other (List.mem_cons_of_mem _ member)
    simp only [paidBy, Tally.sumWhere_cons, ne_eq, decide_not] at rest ⊢
    cases payment.method <;> simp <;> linarith

/-- The totals that a checkout computes from payments. -/
def computedTotals (payments : List PosPaymentCreate) (totalDue : ℚ) : PaymentTotals :=
  { totalDue, paidTotal := paidBy (fun _ => true) payments
    balanceDue := max (totalDue - paidBy (fun _ => true) payments) 0
    changeDue := paidBy (fun _ => true) payments - totalDue, cashTotal :=
    paidBy (· = .cash) payments }

/-- Payments are accepted exactly when each obeys its rules, together they are enough, and no change
is asked of anything but cash. -/
theorem validatePayments_eq_ok {totals : PaymentTotals} :
    validatePayments payments totalDue = .ok totals ↔
    PaymentsCover payments totalDue ∧ totals = computedTotals payments totalDue := by
  simp only [validatePayments, Checked.bind_eq_ok, Checked.ensure_eq_ok, exists_const,
    Checked.pure_eq_ok]
  have split := paidBy_split .cash payments
  constructor
  · rintro ⟨nonempty, _, checked, enough, _, _, withinDue, _, rfl⟩
    exact ⟨⟨nonempty, fun payment member =>
        checkPayment_eq_ok.mp (Checked.forM_eq_ok.mp checked payment member), enough,
      withinDue⟩, rfl⟩
  · rintro ⟨⟨nonempty, rules, enough, withinDue⟩, rfl⟩
    have vouchers := advance_le_nonCash rules
    refine ⟨nonempty, (), Checked.forM_eq_ok.mpr fun payment member => checkPayment_eq_ok.mpr
      (rules payment member), enough, fun change => ?_, ?_, withinDue, ?_, rfl⟩
    · linarith
    · linarith
    · linarith

theorem PaymentsCover.totalsExact (cover : PaymentsCover payments totalDue) :
    TotalsExact payments (computedTotals payments totalDue) := by
  have split := paidBy_split .cash payments
  have enough := cover.enough
  have withinDue := cover.withinDue
  constructor
  · change 0 ≤ paidBy (fun _ => true) payments - totalDue
    linarith
  · change paidBy (fun _ => true) payments - totalDue ≤ paidBy (· = .cash) payments
    linarith
  · exact max_eq_right (by linarith)
  · change paidBy (· = .cash) payments - (paidBy (fun _ => true) payments - totalDue) + paidBy
      (· ≠ .cash) payments = totalDue
    linarith

theorem TotalsExact.keptClampIdle {totals : PaymentTotals} (exact : TotalsExact payments totals) :
    KeptClampIdle totals :=
  max_eq_right (sub_nonneg.mpr exact.changeWithinCash)

/-- The clamp of the balance takes effect exactly when there is change. -/
theorem PaymentsCover.balanceClampIdle_iff (cover : PaymentsCover payments totalDue) :
    BalanceClampIdle (computedTotals payments totalDue) ↔
    (computedTotals payments totalDue).changeDue = 0 := by
  have enough := cover.enough
  have none : max (totalDue - paidBy (fun _ => true) payments) 0 = 0 := max_eq_right (by linarith)
  change max (totalDue - paidBy (fun _ => true) payments) 0 = totalDue - paidBy
    (fun _ => true) payments ↔ paidBy (fun _ => true) payments - totalDue = 0
  rw [none]
  constructor
  · intro same
    linarith
  · intro same
    linarith

end Validation

/-! ## Checkouts -/

/-- The amounts of records of payments in other methods than cash. -/
def nonCashRecorded (records : List PosPayment) : ℚ := Tally.sumWhere (·.method ≠ .cash)
    (·.amount) records

private theorem nonCashRecorded_paymentRecords (saleId tenantId : ℕ)
    (payments : List PosPaymentCreate) :
    nonCashRecorded (paymentRecords saleId tenantId payments) = paidBy (· ≠ .cash) payments := by
  induction payments with
  | nil => rfl
  | cons payment rest ih =>
    simp only [nonCashRecorded, paymentRecords, paidBy, List.map_cons, Tally.sumWhere_cons] at ih ⊢
    rw [ih]

/-- What a checkout books: movements of an open session of the store, records of its payments, and
the amount due that the two make up. -/
structure Collected (db after : Db) (sale : PosSale) (payments : List PosPaymentCreate)
    (totals : PaymentTotals) (movements : List PosCashMovement) : Prop where
  valid : validatePayments payments ((getSaleLines db sale.id).map (·.lineTotal)).sum = .ok totals
  booked : after.cashMovements = db.cashMovements ++ movements
  ofSession : ∀ movement ∈ movements, movement.action = .sale ∧
    ∃ session, OpenSession db sale.tenantId sale.storeId session ∧ movement.cashSessionId =
    some session.id
  recorded : after.payments = db.payments ++ paymentRecords sale.id sale.tenantId payments
  due : ∀ row ∈ after.sales, row.id = sale.id →
    (movements.map (·.amount)).sum + nonCashRecorded
    (paymentRecords sale.id sale.tenantId payments) = row.totalDue

/-- The cash that a checkout books is the cash that it keeps. -/
theorem CashSettled.kept {db : Db} {context : RequestContext} {sale : PosSale}
    {payments : List PosPaymentCreate} {totals : PaymentTotals} {session : Option PosCashSession}
    {movements : List PosCashMovement}
    (opened : openSessionFor db context sale totals.cashTotal = .ok session)
    (exact : TotalsExact payments totals)
    (settled : CashSettled session sale .sale (max 0 (totals.cashTotal - totals.changeDue))
      context.now movements) :
    (movements.map (·.amount)).sum = totals.cashTotal - totals.changeDue := by
  have kept := exact.keptClampIdle
  rw [settled.total]
  rw [openSessionFor] at opened
  split at opened
  · obtain ⟨_, _, rfl⟩ := Checked.map_eq_ok.mp opened
    simp only [Option.isSome_some, if_true]
    rw [KeptClampIdle] at kept
    rw [kept, kept]
  · next noCash =>
    obtain rfl := Checked.pure_eq_ok.mp opened
    have changeNonneg := exact.changeNonneg
    have changeWithinCash := exact.changeWithinCash
    simp only [Option.isSome_none, Bool.false_eq_true, if_false]
    linarith

theorem CheckedOut.collected {db after : Db} {context : RequestContext} {sale : PosSale}
    {payload : CheckoutSaleActionRequest} {totals : PaymentTotals} {advance : Option PosAdvance}
    {batch : SaleBatch} (step : CheckedOut db after context sale payload totals advance batch) :
    ∃ movements, Collected db after sale payload.payments totals movements := by
  obtain ⟨session, movements, opened, booked, settled⟩ := step.drawer
  obtain ⟨cover, computed⟩ := validatePayments_eq_ok.mp step.valid
  have exact : TotalsExact payload.payments totals := computed ▸ cover.totalsExact
  refine ⟨movements, step.valid, booked, fun movement member => ?_, by rw [step.tables],
    fun row isAfter same => ?_⟩
  · obtain ⟨found, isSession, own⟩ := settled.own movement member
    exact ⟨(settled.columns movement member).2.2.1, found,
      openSessionFor_open opened found isSession, own⟩
  · rw [step.tables] at isAfter
    rcases mem_update_cases isAfter with ⟨_, foreign⟩ | ⟨before, _, _, rfl⟩
    · exact absurd (List.mem_singleton.mpr same) foreign
    · rw [CashSettled.kept opened exact settled, nonCashRecorded_paymentRecords]
      exact exact.kept

/-- What is said of payments when they are validated. -/
structure ValidationExact (payments : List PosPaymentCreate) (totalDue : ℚ) : Prop where
  sound : ∀ totals, validatePayments payments totalDue = .ok totals →
    totals.totalDue = totalDue ∧ TotalsExact payments totals ∧ KeptClampIdle totals ∧
      (BalanceClampIdle totals ↔ totals.changeDue = 0)
  complete : PaymentsCover payments totalDue → ∃ totals, validatePayments payments totalDue =
    .ok totals

namespace Sample

/-- The drawer is open and a sale of two jackets is drafted. -/
theorem tillReady_commits :
    (runAllowed systemStep (fun _ _ => True) shop (saleAndRefund.take 2)).isSome = true := by
  decide +kernel

def tillReady : Db :=
  (runAllowed systemStep (fun _ _ => True) shop (saleAndRefund.take 2)).get tillReady_commits

/-- Twenty-five in cash for twenty. -/
def payWithChange : SaleRequest :=
  .action cashier 1 ⟨some "action", .checkout { payments := [inCash 25] }⟩

private theorem changeGiven_commits :
    (saleStep tillReady payWithChange).toOption.isSome = true := by decide +kernel

def changeGiven : Db := (saleStep tillReady payWithChange).toOption.get changeGiven_commits

end Sample

end ArisCloud

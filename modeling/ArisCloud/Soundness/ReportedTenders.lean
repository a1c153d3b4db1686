import ArisCloud.Soundness.ReportExports
import ArisCloud.Soundness.TenderTotals

/-! # Tenders and vouchers in the daily report

The report reads the tables of the point of sale: sales and their lines, payments, vouchers and
their events. On a day whose sales are all checkouts and on which no voucher was issued, the tenders
and the redeemed vouchers of its row are the gross sales exactly when no checkout of the day gave
change and no voucher was consumed without a checkout.
-/

namespace ArisCloud

open KeyedRows Requests Tally

/-! ## The tables as a report reads them -/

/-- A time in microseconds. -/
def microseconds (at_ : ℕ) : ℤ := at_ * 1000000

def SaleStatus.text : SaleStatus → String
  | .draft => "DRAFT"
  | .paid => "PAID"
  | .canceled => "CANCELED"
  | .completed => "COMPLETED"
  | .closed => "CLOSED"
  | .finalized => "FINALIZED"

def PaymentMethod.text : PaymentMethod → String
  | .cash => "CASH"
  | .card => "CARD"
  | .transfer => "TRANSFER"
  | .advance => "ADVANCE"

def VoucherType.text : VoucherType → String
  | .advance => "ADVANCE"
  | .giftCard => "GIFT_CARD"

def AdvanceStatus.text : AdvanceStatus → String
  | .active => "ACTIVE"
  | .consumed => "CONSUMED"
  | .refunded => "REFUNDED"
  | .expired => "EXPIRED"

def AdvanceEventAction.text : AdvanceEventAction → String
  | .issued => "ISSUED"
  | .consumed => "CONSUMED"
  | .refunded => "REFUNDED"
  | .expired => "EXPIRED"
  | .validated => "VALIDATED"

def PosSale.reported (sale : PosSale) : Reports.ReportSale where
  id := sale.id
  tenantId := sale.tenantId
  storeId := sale.storeId
  status := sale.status.text
  totalDue := sale.totalDue
  checkedOutAt := sale.checkedOutAt.map microseconds

def PosSaleLine.reported (line : PosSaleLine) : Reports.ReportSaleLine where
  id := line.id
  saleId := line.saleId
  tenantId := line.tenantId
  qty := line.qty
  lineTotal := line.lineTotal

def PosPayment.reported (payment : PosPayment) : Reports.ReportPayment :=
  ⟨payment.saleId, payment.tenantId, payment.method.text, payment.amount⟩

/-- The times of the events of a voucher. -/
def Db.eventTime (db : Db) (advanceId : ℕ) (action : AdvanceEventAction) : Option ℤ :=
  (db.advanceEvents.find? fun event => event.advanceId = advanceId && event.action = action).map
      fun event =>
    microseconds event.createdAt

/-- A voucher is issued and refunded when its events are written. -/
def Db.reportedAdvance (db : Db) (advance : PosAdvance) : Reports.ReportAdvance where
  id := advance.id
  tenantId := advance.tenantId
  storeId := advance.storeId
  voucherType := advance.voucherType.text
  issuedAmount := advance.issuedAmount
  issuedPaymentMethod := advance.issuedPaymentMethod.text
  issuedAt := (db.eventTime advance.id .issued).getD 0
  status := advance.status.text
  refundedAt := db.eventTime advance.id .refunded

def PosAdvanceEvent.reported (event : PosAdvanceEvent) : Reports.ReportAdvanceEvent :=
  ⟨event.advanceId, event.tenantId, event.storeId, event.action.text, microseconds event.createdAt⟩

/-- The tables that sales, tenders and vouchers are read from. -/
def Db.reported (db : Db) : Reports.ReportDb where
  sales := db.sales.map PosSale.reported
  saleLines := db.saleLines.map PosSaleLine.reported
  payments := db.payments.map PosPayment.reported
  advances := db.advances.map db.reportedAdvance
  advanceEvents := db.advanceEvents.map PosAdvanceEvent.reported

/-- The times of the report that fall on the day, in the store. -/
def tendersOf (query : Reports.ReportQuery) (day : ℤ) : TenderWindow :=
  ⟨query.tenantId, query.storeId, fun at_ =>
    query.range.includes (microseconds at_) && query.zone.localDate (microseconds at_) = day⟩

/-! ## Gross sales -/

section Report

variable {query : Reports.ReportQuery} {db : Db} {day : ℤ} {sale : PosSale}

private theorem finalized_text (status : SaleStatus) :
    Reports.finalizedSaleStatuses.contains status.text.toUpper = status.isFinalized := by
  cases status <;> decide +kernel

/-- The report counts a sale on the day that the window counts it. -/
theorem isFinalizedSale_reported :
    (query.isFinalizedSale sale.reported && query.onDay day sale.reported.checkedOutAt) =
    (tendersOf query day).counts sale := by
  have status : Reports.finalizedSaleStatuses.contains sale.reported.status.toUpper =
      sale.status.isFinalized :=
    finalized_text sale.status
  have times :
      (query.inWindow sale.reported.checkedOutAt && query.onDay day sale.reported.checkedOutAt) =
      sale.checkedOutAt.any (tendersOf query day).within := by
    rw [Reports.ReportQuery.inWindow, Reports.ReportQuery.onDay, PosSale.reported]
    cases sale.checkedOutAt with
    | none => rfl
    | some at_ => rfl
  rw [TenderWindow.counts, Reports.ReportQuery.isFinalizedSale, Bool.and_assoc, status, times]
  rfl

private theorem saleTotal_reported :
    Reports.ReportQuery.saleTotal db.reported sale.reported = grossOf db sale := by
  have lines : sumWhere (fun line => line.saleId = sale.reported.id)
      (·.lineTotal) db.reported.saleLines = (lineTotals db sale.id).sum := sumWhere_map ..
  have any : (db.reported.saleLines.any fun line => line.saleId = sale.reported.id) = true ↔
      ¬ lineTotals db sale.id = [] := by
    rw [lineTotals, List.map_eq_nil_iff, getSaleLines, List.filter_eq_nil_iff, Db.reported,
      List.any_map, List.any_eq_true, not_forall]
    constructor
    · rintro ⟨line, member, own⟩
      exact ⟨line, fun none => none member own⟩
    · rintro ⟨line, some⟩
      obtain ⟨member, own⟩ := Classical.not_imp.mp some
      exact ⟨line, member, not_not.mp own⟩
  rw [Reports.ReportQuery.saleTotal, grossOf]
  by_cases none : lineTotals db sale.id = []
  · rw [if_neg (mt any.mp (not_not.mpr none)), if_pos none]
    rfl
  · rw [if_pos (any.mpr none), if_neg none]
    exact lines

/-- Without filters the gross sales of the day are those of the sales that the window counts. -/
theorem salesByDate_reported (unfiltered : query.cashierId = none ∧ query.methodFilter = none) :
    query.salesByDate db.reported day = sumWhere (tendersOf query day).counts
    (grossOf db) db.sales := by
  obtain ⟨noCashier, noMethod⟩ := unfiltered
  rw [Reports.ReportQuery.salesByDate, Reports.ReportQuery.paidSales, sumWhere_filter, Db.reported,
    sumWhere_map]
  refine sumWhere_congr (fun sale _ => ?_) fun sale _ _ => saleTotal_reported
  rw [← isFinalizedSale_reported]
  simp only [Reports.ReportQuery.ofCashier, Reports.ReportQuery.paidBy, noCashier, noMethod,
    Option.all_none, Bool.and_true]

/-! ## Tenders -/

/-- The payments by one method of the sales that the window counts. -/
def paidByMethod (db : Db) (window : TenderWindow) (selected : PaymentMethod → Bool) : ℚ :=
  sumWhere (fun payment => selected payment.method && db.sales.any fun sale =>
    sale.id = payment.saleId && window.counts sale) (·.amount) db.payments

/-- The tender of one payment: its amount, when it is by the method and its sale counts. -/
theorem tenders_of_payment (distinct : (db.sales.map (·.id)).Nodup) (payment : PosPayment)
    (text : String) :
    sumWhere (fun entry : Reports.ReportPayment × ℤ =>
        decide (entry.1.method.toUpper = text) && decide (query.zone.localDate entry.2 = day))
          (fun entry => entry.1.amount)
        ((db.reported.sales.filter fun sale => sale.id = payment.reported.saleId &&
            query.isFinalizedSale sale).filterMap
          fun sale => sale.checkedOutAt.map fun at_ => (payment.reported, at_)) =
      if payment.method.text.toUpper = text ∧ (db.sales.any fun sale =>
        sale.id = payment.saleId && (tendersOf query day).counts sale) = true then payment.amount
            else 0 := by
  have constant : ∀ sale ∈ db.reported.sales.filter fun sale =>
      sale.id = payment.reported.saleId && query.isFinalizedSale sale, ∀ entry,
      (sale.checkedOutAt.map fun at_ => (payment.reported, at_)) = some entry →
          entry.1.amount = payment.amount := by
    intro sale _ entry found
    obtain ⟨_, _, rfl⟩ := Option.map_eq_some_iff.mp found
    rfl
  rw [sumWhere_filterMap payment.amount constant, sumWhere_filter, Db.reported, sumWhere_map]
  by_cases named : payment.method.text.toUpper = text
  · have matching : ∀ sale ∈ db.sales, ((decide (sale.reported.id = payment.reported.saleId) &&
        query.isFinalizedSale sale.reported) &&
        (sale.reported.checkedOutAt.map fun at_ => (payment.reported, at_)).any
          fun entry => decide (entry.1.method.toUpper = text) &&
          decide (query.zone.localDate entry.2 = day)) =
        ((tendersOf query day).counts sale && decide (payment.saleId = sale.id)) := by
      intro sale _
      have here : ((sale.reported.checkedOutAt.map fun at_ => (payment.reported, at_)).any
          fun entry => decide (entry.1.method.toUpper = text) &&
          decide (query.zone.localDate entry.2 = day)) =
          query.onDay day sale.reported.checkedOutAt := by
        rw [Option.any_map, Reports.ReportQuery.onDay]
        have method : decide (payment.reported.method.toUpper = text) = true := decide_eq_true named
        simp only [method, Bool.true_and]
      rw [here, Bool.and_assoc, isFinalizedSale_reported, Bool.and_comm]
      exact congrArg _ (decide_eq_decide.mpr eq_comm)
    rw [sumWhere_congr matching fun _ _ _ => rfl, sumWhere_and]
    simp only [decide_eq_true_eq, named, true_and]
    exact sumWhere_single distinct payment.saleId payment.amount
  · rw [if_neg fun both => named both.1]
    refine sumWhere_eq_zero fun sale _ selected => absurd (Bool.and_eq_true _ _ |>.mp selected).2 ?_
    rw [Bool.not_eq_true, Option.any_map]
    cases sale.reported.checkedOutAt with
    | none => rfl
    | some at_ =>
      have method : decide (payment.reported.method.toUpper = text) = false := decide_eq_false named
      simp only [Option.any_some, method, Bool.false_and]

/-- The payments of the report by one method are those of the sales that the window counts. -/
theorem salesTenders_reported (distinct : (db.sales.map (·.id)).Nodup) (method : PaymentMethod)
    (text : String) (named : ∀ other : PaymentMethod, other.text.toUpper = text ↔ other = method) :
    sumWhere (fun entry : ℤ × ℚ => query.zone.localDate entry.1 = day) (·.2)
        (((query.salesTenders db.reported).filter fun entry => entry.1.method.toUpper = text).map
          fun entry =>
          (entry.2, entry.1.amount)) = paidByMethod db (tendersOf query day) (· = method) := by
  rw [sumWhere_map, sumWhere_filter, Reports.ReportQuery.salesTenders, sumWhere_flatMap,
    paidByMethod]
  have payments : db.reported.payments = db.payments.map PosPayment.reported := rfl
  rw [payments, List.map_map, ← sumWhere_true]
  have perPayment : ∀ payment ∈ db.payments, sumWhere (fun entry : Reports.ReportPayment × ℤ =>
        decide (entry.1.method.toUpper = text) && decide (query.zone.localDate entry.2 = day))
          (fun entry => entry.1.amount)
        ((db.reported.sales.filter fun sale => sale.id = payment.reported.saleId &&
            query.isFinalizedSale sale).filterMap
          fun sale => sale.checkedOutAt.map fun at_ => (payment.reported, at_)) =
      if (payment.method = method && db.sales.any fun sale =>
        sale.id = payment.saleId && (tendersOf query day).counts sale) = true then payment.amount
            else 0 := by
    intro payment _
    rw [tenders_of_payment distinct payment text]
    simp only [named, Bool.and_eq_true, decide_eq_true_eq]
  refine (sumWhere_congr (fun _ _ => rfl) fun payment member _ => perPayment payment member).trans
    ?_
  rw [← sumWhere_and]
  exact sumWhere_congr (fun _ _ => Bool.true_and _) fun _ _ _ => rfl

/-- The tenders of the sales that the window counts, sale by sale. -/
theorem paidByMethod_eq (distinct : (db.sales.map (·.id)).Nodup) (window : TenderWindow) :
    paidByMethod db window (· = .cash) + paidByMethod db window (· = .card) + paidByMethod db window
    (· = .transfer) =
      sumWhere window.counts (fun sale => tenderedFor db sale.id) db.sales := by
  have bySale : sumWhere window.counts (fun sale => tenderedFor db sale.id) db.sales =
      paidByMethod db window (· ≠ .advance) := by
    have swapped : sumWhere window.counts _ db.sales = _ :=
      sumWhere_sumWhere distinct PosPayment.saleId PosPayment.amount
      (db.payments.filter fun payment => payment.method ≠ .advance)
    rw [sumWhere_filter] at swapped
    rw [paidByMethod, ← swapped]
    refine sumWhere_congr (fun _ _ => rfl) fun sale _ _ => ?_
    rw [tenderedFor, sumWhere_filter]
    exact sumWhere_congr (fun _ _ => Bool.and_comm ..) fun _ _ _ => rfl
  have twoOfThree : paidByMethod db window (fun method => method = .cash || method = .card) =
      paidByMethod db window (· = .cash) + paidByMethod db window (· = .card) := by
    refine sumWhere_split (fun payment _ => ?_) fun payment _ both => ?_
    · cases payment.method <;> simp
    · cases method : payment.method <;> simp [method] at both
  have three : paidByMethod db window (· ≠ .advance) =
      paidByMethod db window (fun method => method = .cash || method = .card) +
      paidByMethod db window (· = .transfer) := by
    refine sumWhere_split (fun payment _ => ?_) fun payment _ both => ?_
    · cases payment.method <;> simp
    · cases method : payment.method <;> simp [method] at both
  rw [bySale, three, twoOfThree]

/-- On a day without issued vouchers the tenders of the row are those of the sales that the window
counts. -/
theorem tenderTotal_reported (distinct : (db.sales.map (·.id)).Nodup)
    (noVouchers : ∀ issued ∈ query.issued db.reported, query.zone.localDate issued.2 ≠ day) :
    query.dailyLiabilityAndTender db.reported day .tenderTotalReceived =
      sumWhere (tendersOf query day).counts (fun sale => tenderedFor db sale.id) db.sales := by
  have byMethod (method : PaymentMethod) (text : String)
      (named : ∀ other : PaymentMethod, other.text.toUpper = text ↔ other = method) :
      sumWhere (fun entry => query.zone.localDate entry.1 = day) (·.2)
          (query.tenders db.reported text) =
        paidByMethod db (tendersOf query day) (· = method) := by
    rw [Reports.ReportQuery.tenders, sumWhere_append,
      salesTenders_reported distinct method text named, sumWhere_map, sumWhere_eq_zero, zero_add]
    intro issued member onDay
    exact absurd (of_decide_eq_true onDay) (noVouchers issued (List.mem_filter.mp member).1)
  rw [Reports.ReportQuery.dailyLiabilityAndTender, Reports.ReportQuery.liabilityTenderAmounts,
    sumWhere_append, sumWhere_append, byMethod .cash "CASH" fun other => by cases other <;> decide +kernel,
    byMethod .card "CARD" fun other => by cases other <;> decide +kernel,
    byMethod .transfer "TRANSFER" fun other => by cases other <;> decide +kernel,
    paidByMethod_eq distinct]

/-! ## Redeemed vouchers -/

private theorem consumed_text (action : AdvanceEventAction) :
    decide (action.text = "CONSUMED") = decide (action = .consumed) := by
  cases action <;> decide +kernel

/-- The redeemed vouchers of both kinds are those that the events of the window redeem. -/
theorem redeemed_reported :
    query.dailyLiabilityAndTender db.reported day .liabilityRedeemedAdvances +
        query.dailyLiabilityAndTender db.reported day .liabilityRedeemedGiftCards =
      redeemedWorth db (tendersOf query day) := by
  have bothKinds : query.dailyLiabilityAndTender db.reported day .liabilityRedeemedAdvances +
      query.dailyLiabilityAndTender db.reported day .liabilityRedeemedGiftCards =
      sumWhere (fun entry => query.zone.localDate entry.2 = day) (fun entry => entry.1.issuedAmount)
        (query.redeemed db.reported) := by
    simp only [Reports.ReportQuery.dailyLiabilityAndTender,
      Reports.ReportQuery.liabilityTenderAmounts, Reports.ReportQuery.amountsOf, sumWhere_map,
      sumWhere_filter]
    refine (sumWhere_split (fun entry _ => ?_) fun entry _ both => ?_).symm
    · cases Reports.ReportQuery.isGiftCard entry.1 <;> simp
    · cases giftCard : Reports.ReportQuery.isGiftCard entry.1 <;> simp [giftCard] at both
  have worth (event : PosAdvanceEvent) :
      sumWhere (fun entry : Reports.ReportAdvance × ℤ => query.zone.localDate entry.2 = day)
      (fun entry => entry.1.issuedAmount)
        ((db.reported.advances.filter fun advance => advance.id = event.reported.advanceId).map
        fun advance =>
          (advance, event.reported.createdAt)) =
      if decide (query.zone.localDate event.reported.createdAt = day) =
          true then voucherWorth db event.advanceId else 0 := by
    rw [sumWhere_map, sumWhere_filter, Db.reported, sumWhere_map, voucherWorth, voucherAmounts,
      sumWhere_map]
    split
    · next onDay =>
      refine sumWhere_congr (fun advance _ => ?_) fun _ _ _ => rfl
      rw [onDay, Bool.and_true]
      rfl
    · next otherDay =>
      refine sumWhere_eq_zero fun advance _ both => ?_
      exact absurd (Bool.and_eq_true _ _ |>.mp both).2 otherDay
  rw [bothKinds, Reports.ReportQuery.redeemed, sumWhere_flatMap]
  change sumWhere _ _ (db.advanceEvents.map PosAdvanceEvent.reported) = _
  rw [sumWhere_map, sumWhere_congr (fun _ _ => rfl) fun event _ _ => worth event]
  rw [← sumWhere_and]
  refine sumWhere_congr (fun event _ => ?_) fun _ _ _ => rfl
  have consumed : decide (event.reported.action = "CONSUMED") = decide (event.action = .consumed) :=
    consumed_text event.action
  rw [TenderWindow.redeems, Bool.and_assoc, consumed]
  rfl

end Report

/-! ## Runs -/

/-- Nothing has been sold and no voucher was issued yet. -/
structure NoBusiness (db : Db) : Prop where
  noSales : db.sales = []
  noPayments : db.payments = []
  noReturns : db.returnEvents = []
  noAdvances : db.advances = []
  noEvents : db.advanceEvents = []

theorem NoBusiness.invariant {start : Db} (blank : NoBusiness start) : TenderInvariant start := by
  obtain ⟨noSales, noPayments, noReturns, noAdvances, _⟩ := blank
  refine ⟨.initial noSales noPayments, ?_, ?_, ?_⟩
  · simp [exchangeSales, noReturns]
  · simp [voucherAmounts, noAdvances]
  · simp [voucherAmounts, noAdvances]

/-- The row of the day in the report. -/
def reportedRow (query : Reports.ReportQuery) (db : Db) (day : ℤ) : Reports.ReportRow :=
  Reports.applyLiabilityAndTender db.reported query
    (Reports.dailyReportRow (Reports.dailySalesRefunds db.reported query) day)

/-- The tenders received and the vouchers redeemed of the day are its gross sales. -/
def TendersReconcile (query : Reports.ReportQuery) (db : Db) (day : ℤ) : Prop :=
  (reportedRow query db day).figure (.liabilityTender .tenderTotalReceived) +
      ((reportedRow query db day).figure (.liabilityTender .liabilityRedeemedAdvances) +
        (reportedRow query db day).figure (.liabilityTender .liabilityRedeemedGiftCards)) =
    (reportedRow query db day).figure .grossSales

/-- A day whose finalized sales are all checkouts and on which no voucher was issued, in a report
without filters. -/
structure CheckoutDay (query : Reports.ReportQuery) (db : Db) (day : ℤ) : Prop where
  unfiltered : query.cashierId = none ∧ query.methodFilter = none
  checkouts : ∀ sale ∈ db.sales, (tendersOf query day).counts sale = true →
    sale.id ∉ exchangeSales db
  noVouchers : ∀ issued ∈ query.issued db.reported, query.zone.localDate issued.2 ≠ day

/-- On such a day the tenders exceed the gross sales by the surplus of the window. -/
theorem CheckoutDay.surplus {query : Reports.ReportQuery} {db : Db} {day : ℤ}
    (checkoutDay : CheckoutDay query db day) :
    tenderSurplus db (tendersOf query day) + sumWhere (tendersOf query day).counts
    (grossOf db) db.sales =
      sumWhere (tendersOf query day).counts (fun sale => tenderedFor db sale.id) db.sales := by
  have all : tenderSurplus db (tendersOf query day) =
      sumWhere (tendersOf query day).counts (fun sale => tenderedFor db sale.id - grossOf db sale)
      db.sales := by
    refine sumWhere_congr (fun sale member => ?_) fun _ _ _ => rfl
    rw [Bool.and_eq_left_iff_imp]
    intro counted
    exact decide_eq_true (checkoutDay.checkouts sale member counted)
  rw [all, ← sumWhere_add]
  exact sumWhere_congr (fun _ _ => rfl) fun sale _ _ => sub_add_cancel ..

/-- The tenders and the vouchers of such a day are its gross sales when the window has no excess. -/
theorem CheckoutDay.reconcile_iff {query : Reports.ReportQuery} {db : Db} {day : ℤ}
    (checkoutDay : CheckoutDay query db day) (distinct : (db.sales.map (·.id)).Nodup) :
    TendersReconcile query db day ↔ tenderExcess db (tendersOf query day) = 0 := by
  have gross : (reportedRow query db day).figure .grossSales =
      sumWhere (tendersOf query day).counts (grossOf db) db.sales :=
      salesByDate_reported checkoutDay.unfiltered
  have tenders : (reportedRow query db day).figure (.liabilityTender .tenderTotalReceived) =
      sumWhere (tendersOf query day).counts (fun sale => tenderedFor db sale.id) db.sales :=
    tenderTotal_reported distinct checkoutDay.noVouchers
  have redeemed : (reportedRow query db day).figure (.liabilityTender .liabilityRedeemedAdvances) +
      (reportedRow query db day).figure (.liabilityTender .liabilityRedeemedGiftCards) =
      redeemedWorth db (tendersOf query day) := redeemed_reported
  rw [TendersReconcile, gross, tenders, redeemed, ← checkoutDay.surplus, tenderExcess]
  constructor
  · intro reconciled
    linarith only [reconciled]
  · intro none
    linarith only [none]

/-- After every run from tables without business, the tenders and the redeemed vouchers of a day of
checkouts are its gross sales, if and only if every checkout of that day took exactly what was due
and every voucher consumed on that day without a checkout was worth nothing. -/
theorem tenders_reconcile_iff (start db : Db) (history : List (Db × SystemRequest))
    (blank : NoBusiness start) (run : Run systemStep start history db) (query : Reports.ReportQuery)
    (day : ℤ) (checkoutDay : CheckoutDay query db day) :
    TendersReconcile query db day ↔ ∀ entry ∈ history, KeepsTendersExact
    (tendersOf query day) entry.1 entry.2 := by
  have invariant : TenderInvariant db :=
    run.invariant blank.invariant fun _ _ _ invariant success => invariant.step success
  have measured := run.measure (tenderExcess · (tendersOf query day))
    (KeepsTendersExact (tendersOf query day)) blank.invariant (fun _ _ _ invariant success =>
    invariant.step success) fun source request next invariant success =>
      have grows := systemStep_tenders invariant success
      ⟨grows.below, grows.exact⟩
  have initial : tenderExcess start (tendersOf query day) = 0 := by
    simp [tenderExcess, tenderSurplus, redeemedWorth, blank.noSales, blank.noEvents]
  rw [checkoutDay.reconcile_iff invariant.payments.distinct, ← measured.2, initial]

namespace Sample

/-- The report of the shop on the first day of its clock. -/
def openingReport : Reports.ReportQuery where
  tenantId := 1
  storeId := 10
  range := ⟨⟨0, false⟩, ⟨86399999999, false⟩, 0, 86399999999⟩
  zone := .utc

private theorem noBusiness_shop : NoBusiness shop := ⟨rfl, rfl, rfl, rfl, rfl⟩

private theorem centDay_checkouts : CheckoutDay openingReport centDay.2 0 :=
  ⟨⟨rfl, rfl⟩, by decide +kernel, by decide +kernel⟩

private theorem changeDay_checkouts : CheckoutDay openingReport changeDay.2 0 :=
  ⟨⟨rfl, rfl⟩, by decide +kernel, by decide +kernel⟩

end Sample

theorem tenders_reconcile_iff_to_the_cent :
    TendersReconcile Sample.openingReport Sample.centDay.2 0 ↔
    ∀ entry ∈ Sample.centDay.1, KeepsTendersExact
    (tendersOf Sample.openingReport 0) entry.1 entry.2 :=
  tenders_reconcile_iff Sample.shop Sample.centDay.2 Sample.centDay.1 Sample.noBusiness_shop
    (run_of_recordRun (Option.some_get _).symm) Sample.openingReport 0 Sample.centDay_checkouts

/-- A sale of twenty that is paid with twenty-five in cash reports tenders of twenty-five. -/
theorem change_inflates_tenders : ¬ ∀ (start db : Db) (history : List (Db × SystemRequest)),
    NoBusiness start →
    Run systemStep start history db → ∀ (query : Reports.ReportQuery) (day : ℤ),
    CheckoutDay query db day →
      TendersReconcile query db day := by
  intro reconciles
  have run : Run systemStep Sample.shop Sample.changeDay.1 Sample.changeDay.2 :=
    run_of_recordRun (Option.some_get Sample.paidWithTooMuch_commits).symm
  have claimed :=
    reconciles _ _ _ Sample.noBusiness_shop run Sample.openingReport 0 Sample.changeDay_checkouts
  have excess : tenderExcess Sample.changeDay.2 (tendersOf Sample.openingReport 0) = 5 := by
    decide +kernel
  rw [Sample.changeDay_checkouts.reconcile_iff (by decide +kernel), excess] at claimed
  exact absurd claimed (by decide)

end ArisCloud

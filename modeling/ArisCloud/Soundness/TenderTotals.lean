import ArisCloud.Model.Reports
import ArisCloud.Proofs.Redemptions
import ArisCloud.Soundness.AdvancePayments
import ArisCloud.Soundness.CutQuotes

/-! # Tenders and redeemed vouchers against gross sales

A checkout is paid by tenders and by at most one voucher. What it takes in all is what its lines
cost and the change that it gives back. A report adds up the payments as they were handed over, the
vouchers by their events, and the sales by their lines. Over a day of checkouts the payments and the
vouchers exceed the sales by the change that was given and by the vouchers that were consumed
without a checkout.
-/

namespace ArisCloud

open KeyedRows Requests

/-! ## The sales of a window -/

/-- A store, and the times that are reported. -/
structure TenderWindow where
  tenantId : ℕ
  storeId : ℕ
  within : ℕ → Bool

/-- A finalized sale of the store that was checked out in the window. -/
def TenderWindow.counts (window : TenderWindow) (sale : PosSale) : Bool :=
  sale.tenantId = window.tenantId && sale.storeId = window.storeId && sale.status.isFinalized &&
    sale.checkedOutAt.any window.within

/-- An event that redeems a voucher of the store in the window. -/
def TenderWindow.redeems (window : TenderWindow) (event : PosAdvanceEvent) : Bool :=
  event.tenantId = window.tenantId && event.storeId = window.storeId && event.action = .consumed &&
    window.within event.createdAt

/-- The sales that exchanges made. -/
def exchangeSales (db : Db) : List ℕ := db.returnEvents.filterMap (·.exchangeSaleId)

/-- The payments of a sale other than vouchers. -/
def tenderedFor (db : Db) (saleId : ℕ) : ℚ :=
  Tally.sumWhere (fun payment => payment.saleId = saleId && payment.method ≠ .advance)
    (·.amount) db.payments

def lineTotals (db : Db) (saleId : ℕ) : List ℚ := (getSaleLines db saleId).map (·.lineTotal)

/-- What the lines of a sale cost, or the amount due of a sale without lines. -/
def grossOf (db : Db) (sale : PosSale) : ℚ :=
  if lineTotals db sale.id = [] then sale.totalDue else (lineTotals db sale.id).sum

/-- What the tenders of the checkouts in a window exceed their sales by. -/
def tenderSurplus (db : Db) (window : TenderWindow) : ℚ :=
  Tally.sumWhere (fun sale => window.counts sale && sale.id ∉ exchangeSales db)
    (fun sale => tenderedFor db sale.id - grossOf db sale) db.sales

def voucherWorth (db : Db) (advanceId : ℕ) : ℚ := Tally.sumWhere (·.1 = advanceId) (·.2)
    (voucherAmounts db)

/-- The vouchers that were redeemed in a window. -/
def redeemedWorth (db : Db) (window : TenderWindow) : ℚ :=
  Tally.sumWhere window.redeems (fun event => voucherWorth db event.advanceId) db.advanceEvents

/-- What the tenders and the vouchers exceed the sales by. -/
def tenderExcess (db : Db) (window : TenderWindow) : ℚ :=
  tenderSurplus db window + redeemedWorth db window

/-! ## Requests that keep tenders exact -/

/-- A checkout of the store in the window takes no more than is due, and no voucher of the store is
consumed in the window without a checkout. -/
def KeepsTendersExact (window : TenderWindow) (db : Db) : SystemRequest → Prop
  | .sale (.action context saleId ⟨_, .checkout payload⟩) => ∀ sale, SaleTarget db saleId sale →
      sale.tenantId = window.tenantId → sale.storeId = window.storeId →
      window.within context.now = true →
        paidBy (fun _ => true) payload.payments = (lineTotals db sale.id).sum
  | .advance (.mutate context advanceId (.consume _ _)) =>
    ∀ advance ∈ db.advances, advance.id = advanceId →
      advance.tenantId = window.tenantId → advance.storeId = window.storeId →
      window.within context.now = true →
        advance.issuedAmount = 0
  | _ => True

/-! ## What a request changes of them -/

section Tables

variable {db after : Db} {window : TenderWindow} {saleId tenantId : ℕ}
    {payments : List PosPaymentCreate} {sale row : PosSale}

private theorem tenderedFor_append
    (recorded : after.payments = db.payments ++ paymentRecords saleId tenantId payments) (id : ℕ) :
    tenderedFor after id = tenderedFor db id + if saleId = id then paidBy (· ≠ .advance) payments
    else 0 := by
  rw [tenderedFor, recorded, Tally.sumWhere_append, paymentRecords, Tally.sumWhere_map]
  congr 1
  split
  · next same =>
    subst same
    exact Tally.sumWhere_congr (fun _ _ => by simp) fun _ _ _ => rfl
  · next other => exact Tally.sumWhere_eq_zero fun _ _ both => by simp [other] at both

/-- A sale that is not paid has no tenders. -/
theorem tenderedFor_eq_zero (unpaid : ∀ payment ∈ db.payments, payment.saleId ≠ saleId) :
    tenderedFor db saleId = 0 :=
  Tally.sumWhere_eq_zero fun payment member both => by simp [unpaid payment member] at both

private theorem lineTotals_append {kept : List PosSaleLine} {lines : List ResolvedSaleLine}
    (written : after.saleLines = kept ++ newSaleLines db saleId tenantId lines)
    (others : ∀ id, id ≠ saleId → kept.filter (fun line => line.saleId = id) = getSaleLines db id)
    {id : ℕ} (other : id ≠ saleId) : lineTotals after id = lineTotals db id := by
  have none : (newSaleLines db saleId tenantId lines).filter (fun line => line.saleId = id) =
      [] := by
    refine List.filter_eq_nil_iff.mpr fun line member => ?_
    rw [(mem_newSaleLines member).1]
    simpa using Ne.symm other
  rw [lineTotals, getSaleLines, written, List.filter_append, none, List.append_nil, others id other,
    ← lineTotals]

/-- Lines that keep their sales and their prices keep the totals of every sale. -/
theorem lineTotals_of_columns
    (kept : after.saleLines.map (fun line => (line.saleId, line.lineTotal)) =
    db.saleLines.map fun line => (line.saleId, line.lineTotal)) (id : ℕ) :
    lineTotals after id = lineTotals db id := by
  have columns (db : Db) : lineTotals db id =
      ((db.saleLines.map fun line => (line.saleId, line.lineTotal)).filter (·.1 = id)).map
      (·.2) := by
    rw [List.filter_map, List.map_map]
    rfl
  rw [columns, columns, kept]

/-- The figures of a sale that a request leaves alone. -/
structure SameFigures (db after : Db) (row : PosSale) : Prop where
  tendered : tenderedFor after row.id = tenderedFor db row.id
  lines : lineTotals after row.id = lineTotals db row.id
  exchange : row.id ∈ exchangeSales after ↔ row.id ∈ exchangeSales db

theorem SameFigures.surplus (same : SameFigures db after row) :
    tenderedFor after row.id - grossOf after row = tenderedFor db row.id - grossOf db row := by
  rw [same.tendered, grossOf, same.lines, ← grossOf]

private theorem tenderSurplus_same (sales : after.sales = db.sales)
    (same : ∀ row ∈ db.sales, SameFigures db after row) :
    tenderSurplus after window = tenderSurplus db window := by
  rw [tenderSurplus, sales]
  refine Tally.sumWhere_congr (fun row member => ?_) fun row member _ => (same row member).surplus
  rw [decide_eq_decide.mpr (not_congr (same row member).exchange)]

/-- A sale that is added counts when it is finalized, in the window and not made by an exchange. -/
theorem tenderSurplus_added (sales : after.sales = db.sales ++ [sale])
    (same : ∀ row ∈ db.sales, SameFigures db after row) :
    tenderSurplus after window = tenderSurplus db window +
      if (window.counts sale && sale.id ∉ exchangeSales after) =
      true then tenderedFor after sale.id - grossOf after sale
      else 0 := by
  rw [tenderSurplus, sales, Tally.sumWhere_append, Tally.sumWhere_cons, Tally.sumWhere_nil,
    add_zero]
  congr 1
  refine Tally.sumWhere_congr (fun row member => ?_) fun row member _ => (same row member).surplus
  rw [decide_eq_decide.mpr (not_congr (same row member).exchange)]

/-- A draft that changes counts when it becomes a finalized sale of the window. -/
theorem tenderSurplus_changed (distinct : (db.sales.map (·.id)).Nodup) (member : sale ∈ db.sales)
    (draft : sale.status = .draft) {change : PosSale → PosSale}
    (sales : after.sales = update (·.id) [sale.id] change db.sales)
    (exchange : exchangeSales after = exchangeSales db)
    (same : ∀ row ∈ db.sales, row.id ≠ sale.id → SameFigures db after row) :
    tenderSurplus after window = tenderSurplus db window +
      if (window.counts (change sale) && (change sale).id ∉ exchangeSales db) = true then
        tenderedFor after (change sale).id - grossOf after (change sale)
      else 0 := by
  have uncounted : window.counts sale = false := by
    simp [TenderWindow.counts, draft, SaleStatus.isFinalized]
  rw [tenderSurplus, sales, update_singleton, exchange,
    Tally.sumWhere_update distinct member fun row isRow apart => (same row isRow apart).surplus,
    uncounted, ← tenderSurplus]
  simp

end Tables

/-! ## Vouchers -/

section Vouchers

variable {db after : Db} {window : TenderWindow}

/-- A voucher that the table has is worth its amount. -/
theorem voucherWorth_eq (distinct : ((voucherAmounts db).map (·.1)).Nodup) {advance : PosAdvance}
    (member : advance ∈ db.advances) : voucherWorth db advance.id = advance.issuedAmount := by
  have listed : (advance.id, advance.issuedAmount) ∈ voucherAmounts db := List.mem_map_of_mem member
  exact Tally.sumWhere_of_key distinct listed

/-- Events that are appended redeem what they redeem, where the earlier vouchers keep their
worth. -/
theorem redeemedWorth_append {written : List PosAdvanceEvent}
    (events : after.advanceEvents = db.advanceEvents ++ written)
    (worth : ∀ event ∈ db.advanceEvents, voucherWorth after event.advanceId =
      voucherWorth db event.advanceId) :
    redeemedWorth after window = redeemedWorth db window +
      Tally.sumWhere window.redeems (fun event => voucherWorth after event.advanceId) written := by
  rw [redeemedWorth, events, Tally.sumWhere_append]
  congr 1
  exact Tally.sumWhere_congr (fun _ _ => rfl) fun event member _ => worth event member

theorem RedeemsNothing.redeemedWorth (redeems : RedeemsNothing db after)
    (worth : ∀ event ∈ db.advanceEvents, voucherWorth after event.advanceId =
      voucherWorth db event.advanceId) :
    redeemedWorth after window = redeemedWorth db window := by
  obtain ⟨written, events, other⟩ := redeems
  rw [redeemedWorth_append events worth, Tally.sumWhere_eq_zero, add_zero]
  intro event member redeemed
  simp only [TenderWindow.redeems, Bool.and_eq_true, decide_eq_true_eq] at redeemed
  exact absurd redeemed.1.2 (other event member)

private theorem voucherWorth_congr (same : voucherAmounts after = voucherAmounts db)
    (advanceId : ℕ) :
    voucherWorth after advanceId = voucherWorth db advanceId := by
  rw [voucherWorth, same, ← voucherWorth]

/-- A voucher that is added leaves the worth of those that events name. -/
theorem voucherWorth_added {amount : ℚ}
    (added : voucherAmounts after = voucherAmounts db ++ [(db.freshAdvanceId, amount)])
    {event : PosAdvanceEvent} (member : event ∈ db.advanceEvents) :
    voucherWorth after event.advanceId = voucherWorth db event.advanceId := by
  have apart : event.advanceId < db.freshAdvanceId :=
    lt_freshId (List.mem_append_right _ (List.mem_map_of_mem member))
  rw [voucherWorth, added, Tally.sumWhere_append, Tally.sumWhere_cons, Tally.sumWhere_nil,
    if_neg (by simpa using apart.ne'), add_zero, add_zero, ← voucherWorth]

end Vouchers

/-! ## What the figures rely on -/

/-- Payments belong to paid sales, exchanges made sales that are not drafts, and vouchers are worth
whole cents. -/
structure TenderInvariant (db : Db) : Prop where
  payments : PaymentsOfPaid db
  exchanged : ∀ id ∈ exchangeSales db, ∃ sale ∈ db.sales, sale.id = id ∧ sale.status ≠ .draft
  vouchers : ((voucherAmounts db).map (·.1)).Nodup
  amounts : ∀ entry ∈ voucherAmounts db, Decimals.IsCents entry.2 ∧ 0 ≤ entry.2

section Steps

variable {db after : Db} {window : TenderWindow} {context : RequestContext} {sale : PosSale}
    {saleId : ℕ}

private theorem exchangeSales_eq (db : Db) :
    exchangeSales db = (db.returnEvents.map (·.exchangeSaleId)).filterMap id := by
  rw [List.filterMap_map]
  rfl

/-- Return documents make no sales. -/
theorem returnStep_exchangeSales {request : ReturnRequest}
    (success : returnStep db request = .ok after) :
    exchangeSales after = exchangeSales db := by
  cases request with
  | createDraft context request =>
    simp only [returnStep, createDraft, Checked.bind_eq_ok, Checked.pure_eq_ok] at success
    obtain ⟨_, _, _, _, _, _, _, _, _, _, _, _, _, _, rfl⟩ := success
    simp [exchangeSales]
  | action context returnId requestedStoreId action =>
    have kept (draft : PosReturnEvent) (target : ReturnAction) :
        exchangeSales (db.setReturnAction draft.id target) = exchangeSales db := by
      rw [exchangeSales_eq, exchangeSales_eq]
      exact congrArg _ (map_update (by exact fun _ => rfl))
    obtain ⟨draft, _, _, _, step⟩ := applyReturnAction_ok success
    cases step with
    | voided tables => rw [tables, kept]
    | completed tables =>
      rw [← kept draft .returnComplete, tables]
      simp [exchangeSales, completionEvent]

private theorem sale_request_voucherAmounts {request : SaleRequest}
    (success : saleStep db request = .ok after) :
    voucherAmounts after = voucherAmounts db := by
  cases saleStep_ok success with
  | created sale lines step => rw [voucherAmounts, step.tables, voucherAmounts]
  | updated tenantId sale target lines step => rw [voucherAmounts, step.tables, voucherAmounts]
  | canceled sale target step => rw [voucherAmounts, step.tables, voucherAmounts]
  | refunded sale target items session step => rw [voucherAmounts, step.tables, voucherAmounts]
  | exchanged sale target items lines exchangeSale delta batch session step =>
    rw [voucherAmounts, step.tables, voucherAmounts]
  | checkedOut sale target totals advance batch step =>
    rw [voucherAmounts, step.tables]
    exact voucherAmounts_consumedAdvances

theorem TenderInvariant.congr (invariant : TenderInvariant db) (payments : PaymentsOfPaid after)
    (exchanged : ∀ id ∈ exchangeSales after, ∃ sale ∈ after.sales, sale.id = id ∧
      sale.status ≠ .draft)
    (same : voucherAmounts after = voucherAmounts db) : TenderInvariant after := by
  refine ⟨payments, exchanged, ?_, ?_⟩
  · rw [same]
    exact invariant.vouchers
  · rw [same]
    exact invariant.amounts

/-- A sale that an exchange made stays out of draft while rows change without becoming drafts. -/
theorem exchanged_of_update (invariant : TenderInvariant db) {change : PosSale → PosSale}
    (sales : after.sales = update (·.id) [sale.id] change db.sales)
    (identity : ∀ row, (change row).id = row.id)
    (status : ∀ row, (change row).status = .draft → row.status = .draft)
    (exchange : exchangeSales after = exchangeSales db) :
    ∀ id ∈ exchangeSales after, ∃ sale ∈ after.sales, sale.id = id ∧ sale.status ≠ .draft := by
  intro id named
  rw [exchange] at named
  obtain ⟨row, member, rfl, notDraft⟩ := invariant.exchanged id named
  rw [sales]
  by_cases changed : row.id ∈ [sale.id]
  · exact ⟨change row, mem_update.mpr ⟨row, member, if_pos changed⟩, identity row,
      notDraft ∘ status row⟩
  · exact ⟨row, mem_update.mpr ⟨row, member, if_neg changed⟩, rfl, notDraft⟩

theorem TenderInvariant.of_sale (invariant : TenderInvariant db) {request : SaleRequest}
    (success : saleStep db request = .ok after) : TenderInvariant after := by
  refine invariant.congr (invariant.payments.sale success) ?_ (sale_request_voucherAmounts success)
  have old : ∀ id ∈ exchangeSales db, ∃ sale ∈ db.sales, sale.id = id ∧ sale.status ≠ .draft :=
    invariant.exchanged
  cases saleStep_ok success with
  | created sale lines step =>
    rw [step.tables]
    rintro id named
    obtain ⟨row, member, own⟩ := old id named
    exact ⟨row, List.mem_append_left _ member, own⟩
  | updated tenantId sale target lines step =>
    exact exchanged_of_update invariant (congrArg Db.sales step.tables) (by exact fun _ => rfl)
      (by exact fun _ => id) (by rw [exchangeSales, step.tables, exchangeSales])
  | canceled sale target step =>
    exact exchanged_of_update invariant (congrArg Db.sales step.tables) (by exact fun _ => rfl)
      (by exact fun _ => nofun) (by rw [exchangeSales, step.tables, exchangeSales])
  | refunded sale target items session step =>
    rw [step.tables]
    simpa [exchangeSales, returnEvent] using old
  | exchanged sale target items lines exchangeSale delta batch session step =>
    rw [step.tables]
    rintro id named
    simp only [exchangeSales, List.filterMap_append, List.mem_append] at named
    rcases named with earlier | made
    · obtain ⟨row, member, own⟩ := old id earlier
      exact ⟨row, List.mem_append_left _ member, own⟩
    · simp only [returnEvent, List.filterMap_cons, List.filterMap_nil, List.mem_singleton] at made
      refine ⟨exchangeSale, List.mem_append_right _ (List.mem_singleton_self _), made.symm, ?_⟩
      rw [step.paid]
      nofun
  | checkedOut sale target totals advance batch step =>
    exact exchanged_of_update invariant (congrArg Db.sales step.tables) (by exact fun _ => rfl)
      (by exact fun _ => nofun) (by rw [exchangeSales, step.tables, exchangeSales])

theorem TenderInvariant.step (invariant : TenderInvariant db) {request : SystemRequest}
    (success : systemStep db request = .ok after) : TenderInvariant after := by
  have payments := invariant.payments.system success
  cases request with
  | sale request => exact invariant.of_sale success
  | returns request =>
    have tables := (returnStep_ok success).tables
    refine invariant.congr payments ?_ (by rw [voucherAmounts, tables, voucherAmounts])
    rw [returnStep_exchangeSales success, tables]
    exact invariant.exchanged
  | advance request =>
    have tables := (advanceStep_ok success).tables
    have exchanged : ∀ id ∈ exchangeSales after, ∃ sale ∈ after.sales, sale.id = id ∧
        sale.status ≠ .draft := by
      rw [tables]
      exact invariant.exchanged
    rcases advanceStep_amounts success with same | ⟨amount, cents, nonneg, added⟩
    · exact invariant.congr payments exchanged same
    · refine ⟨payments, exchanged, ?_, ?_⟩
      · rw [added, List.map_append, List.map_singleton, List.nodup_append]
        refine ⟨invariant.vouchers, List.nodup_singleton _, fun id old new isNew => ?_⟩
        obtain ⟨entry, listed, rfl⟩ := List.mem_map.mp old
        obtain ⟨advance, member, rfl⟩ := List.mem_map.mp listed
        rw [List.mem_singleton.mp isNew]
        exact (lt_freshId (List.mem_append_left _ (List.mem_map_of_mem (f := (·.id)) member))).ne
      · rw [added]
        intro entry listed
        rcases List.mem_append.mp listed with old | new
        · exact invariant.amounts entry old
        · rw [List.mem_singleton.mp new]
          exact ⟨cents, nonneg⟩
  | cash request =>
    have tables := (cashStep_ok success).tables
    exact invariant.congr payments (by rw [tables]; exact invariant.exchanged)
      (by rw [voucherAmounts, tables, voucherAmounts])
  | transfer request =>
    have tables := (transferStep_ok success).tables
    exact invariant.congr payments (by rw [tables]; exact invariant.exchanged)
      (by rw [voucherAmounts, tables, voucherAmounts])

/-! ## What a request adds to the excess -/

/-- The excess stays or grows, and it stays exactly when tenders are kept exact. -/
structure TendersGrow (window : TenderWindow) (db after : Db) (level : Prop) : Prop where
  below : tenderExcess db window ≤ tenderExcess after window
  exact : tenderExcess after window = tenderExcess db window ↔ level

private theorem TendersGrow.of_amount {amount : ℚ} {level : Prop} (nonneg : 0 ≤ amount)
    (total : tenderExcess after window = tenderExcess db window + amount)
    (keeps : amount = 0 ↔ level) :
    TendersGrow window db after level := by
  constructor
  · rw [total]
    exact le_add_of_nonneg_right nonneg
  · rw [total, add_eq_left, keeps]

theorem TendersGrow.idle {level : Prop}
    (surplus : tenderSurplus after window = tenderSurplus db window)
    (redeemed : redeemedWorth after window = redeemedWorth db window) (keeps : level) :
    TendersGrow window db after level :=
  .of_amount le_rfl (by rw [tenderExcess, surplus, redeemed, tenderExcess, add_zero])
    (iff_of_true rfl keeps)

/-- The figures of all sales stay where the tables of sales do. -/
theorem sameFigures_of_tables (payments : after.payments = db.payments)
    (lines : after.saleLines = db.saleLines) (exchange : exchangeSales after = exchangeSales db)
    (row : PosSale) : SameFigures db after row := by
  refine ⟨by rw [tenderedFor, payments, tenderedFor], by rw [lineTotals, getSaleLines, lines,
      ← getSaleLines, ← lineTotals], ?_⟩
  rw [exchange]

/-- A sale action that leaves vouchers and their events alone redeems nothing. -/
theorem redeemedWorth_same (worth : voucherAmounts after = voucherAmounts db)
    (events : after.advanceEvents = db.advanceEvents) :
    redeemedWorth after window = redeemedWorth db window :=
  (RedeemsNothing.of_eq events).redeemedWorth fun _ _ => voucherWorth_congr worth _

private theorem createSale_tenders {payload : PosSaleCreateRequest}
    (success : saleStep db (.create context payload) = .ok after) :
    TendersGrow window db after True := by
  have worth := sale_request_voucherAmounts success
  obtain ⟨sale, lines, step⟩ := createSale_ok success
  have exchange : exchangeSales after = exchangeSales db := by
    rw [exchangeSales, step.tables, exchangeSales]
  refine .idle ?_ (redeemedWorth_same worth (by rw [step.tables])) trivial
  rw [tenderSurplus_added (by rw [step.tables]) fun row member => ⟨?_, ?_, by rw [exchange]⟩,
    TenderWindow.counts, step.draft]
  · simp [SaleStatus.isFinalized]
  · rw [tenderedFor, step.tables, tenderedFor]
  · refine lineTotals_append (by rw [step.tables]) (by exact fun _ _ => rfl) ?_
    rw [step.id]
    exact (sale_id_lt_fresh member).ne

private theorem updateSale_tenders (invariant : TenderInvariant db) {payload : PosSaleUpdateRequest}
    (success : saleStep db (.update context saleId payload) = .ok after) :
    TendersGrow window db after True := by
  have worth := sale_request_voucherAmounts success
  obtain ⟨tenantId, sale, lines, target, step⟩ := updateSale_ok success
  have exchange : exchangeSales after = exchangeSales db := by
    rw [exchangeSales, step.tables, exchangeSales]
  refine .idle ?_ (redeemedWorth_same worth (by rw [step.tables])) trivial
  rw [tenderSurplus_changed invariant.payments.distinct target.member step.draft
    (congrArg Db.sales step.tables) exchange fun row member apart => ⟨?_, ?_, by rw [exchange]⟩,
    TenderWindow.counts, step.draft]
  · simp [SaleStatus.isFinalized]
  · rw [tenderedFor, step.tables, tenderedFor]
  · refine lineTotals_append (congrArg Db.saleLines step.tables) (fun id other => ?_) apart
    rw [List.filter_filter, getSaleLines]
    refine List.filter_congr fun line _ => ?_
    by_cases own : line.saleId = id
    · simp [own, other]
    · simp [own]

private theorem cancelSale_tenders (invariant : TenderInvariant db)
    (target : SaleTarget db saleId sale) (success : cancelSale db sale = .ok after) :
    TendersGrow window db after True := by
  have step := cancelSale_ok success
  have exchange : exchangeSales after = exchangeSales db := by
    rw [exchangeSales, step.tables, exchangeSales]
  refine .idle ?_ (redeemedWorth_same (by rw [voucherAmounts, step.tables, voucherAmounts])
    (by rw [step.tables])) trivial
  rw [tenderSurplus_changed invariant.payments.distinct target.member step.draft
    (congrArg Db.sales step.tables) exchange fun row _ _ =>
    sameFigures_of_tables (by rw [step.tables]) (by rw [step.tables]) exchange row]
  simp [TenderWindow.counts, SaleStatus.isFinalized]

private theorem refundItems_tenders {payload : RefundItemsSaleActionRequest}
    (success : refundItems db context sale payload = .ok after) :
    TendersGrow window db after True := by
  obtain ⟨items, session, step⟩ := refundItems_ok success
  have exchange : exchangeSales after = exchangeSales db := by
    rw [exchangeSales, step.tables]
    simp [exchangeSales, returnEvent]
  refine .idle ?_ (redeemedWorth_same (by rw [voucherAmounts, step.tables, voucherAmounts])
    (by rw [step.tables])) trivial
  exact tenderSurplus_same (by rw [step.tables]) fun row _ =>
    sameFigures_of_tables (by rw [step.tables]) (by rw [step.tables]) exchange row

private theorem exchangeItems_tenders {payload : ExchangeItemsSaleActionRequest}
    (success : exchangeItems db context sale payload = .ok after) :
    TendersGrow window db after True := by
  obtain ⟨items, lines, exchangeSale, delta, batch, session, step⟩ := exchangeItems_ok success
  have exchange : exchangeSales after = exchangeSales db ++ [exchangeSale.id] := by
    rw [exchangeSales, step.tables]
    simp [exchangeSales, returnEvent]
  refine .idle ?_ (redeemedWorth_same (by rw [voucherAmounts, step.tables, voucherAmounts])
    (by rw [step.tables])) trivial
  have apart : ∀ row ∈ db.sales, row.id ≠ exchangeSale.id := fun row member =>
    step.id ▸ (sale_id_lt_fresh member).ne
  rw [tenderSurplus_added (by rw [step.tables]) fun row member => ⟨?_, ?_, ?_⟩, exchange]
  · simp
  · rw [tenderedFor_append (congrArg Db.payments step.tables), if_neg (apart row member).symm,
      add_zero]
  · exact lineTotals_append (congrArg Db.saleLines step.tables) (by exact fun _ _ => rfl)
      (apart row member)
  · rw [exchange, List.mem_append, List.mem_singleton, or_iff_left (apart row member)]

/-- The voucher of a checkout is one of the store. -/
theorem resolveAdvancePayment_store {totalDue : ℚ} {payments : List PosPaymentCreate}
    {advance : PosAdvance}
    (resolved : resolveAdvancePayment db context sale totalDue payments = .ok (some advance)) :
    advance.storeId = sale.storeId := by
  unfold resolveAdvancePayment at resolved
  split at resolved
  · exact absurd (Checked.pure_eq_ok.mp resolved) nofun
  · simp only [Checked.bind_eq_ok, Checked.pure_eq_ok, Option.some.injEq] at resolved
    obtain ⟨_, _, _, found, rfl⟩ := resolved
    have named := (resolveAdvanceForCheckout_ok found).2.1
    simp only [namedBy, Bool.and_eq_true, decide_eq_true_eq] at named
    exact named.1.2
  · exact absurd resolved Checked.throw_ne_ok

/-- The vouchers among the payments of a checkout are the voucher that it redeems, in windows of its
store and time. -/
theorem redeemed_of_checkout (invariant : TenderInvariant db) {payments : List PosPaymentCreate}
    {totalDue : ℚ} {advance : Option PosAdvance}
    (resolved : resolveAdvancePayment db context sale totalDue payments = .ok advance)
    (worth : voucherAmounts after = voucherAmounts db) :
    Tally.sumWhere window.redeems (fun event => voucherWorth after event.advanceId)
        (advance.toList.map (advanceEvent · .consumed (some sale.id) context.now)) =
      if sale.tenantId = window.tenantId ∧ sale.storeId = window.storeId ∧
          window.within context.now = true then
        paidBy (· = .advance) payments
      else 0 := by
  cases advance with
  | none =>
    have nothing : paidBy (· = .advance) payments = 0 := by
      rw [paidBy, Tally.sumWhere, resolveAdvancePayment_none resolved]
      rfl
    rw [nothing, ite_self]
    rfl
  | some advance =>
    obtain ⟨payment, only, member, tenant, _, amount⟩ := resolveAdvancePayment_some resolved
    have store := resolveAdvancePayment_store resolved
    have cents := (invariant.amounts _ (List.mem_map_of_mem member)).1
    have paid : paidBy (· = .advance) payments = payment.amount := by
      rw [paidBy, Tally.sumWhere, only, List.map_singleton, List.sum_singleton]
    have worthOf : voucherWorth after advance.id = payment.amount := by
      rw [voucherWorth_congr worth, voucherWorth_eq invariant.vouchers member, amount,
        Decimals.quantize_of_isCents cents]
    have here : window.redeems (advanceEvent advance .consumed (some sale.id) context.now) = true ↔
        sale.tenantId = window.tenantId ∧ sale.storeId = window.storeId ∧
        window.within context.now = true := by
      simp only [TenderWindow.redeems, advanceEvent, tenant, store, decide_true, Bool.and_true,
        Bool.and_eq_true, decide_eq_true_eq, and_assoc]
    rw [paid, Option.toList_some, List.map_singleton, Tally.sumWhere_cons, Tally.sumWhere_nil,
      add_zero]
    exact if_congr here worthOf rfl

private theorem checkoutSale_tenders (invariant : TenderInvariant db)
    (target : SaleTarget db saleId sale) {transactionId : Option String}
    {payload : CheckoutSaleActionRequest}
    (success : checkoutSale db context sale payload = .ok after) : TendersGrow window db after
      (KeepsTendersExact window db
        (.sale (.action context saleId ⟨transactionId, .checkout payload⟩))) := by
  obtain ⟨totals, advance, batch, step⟩ := checkoutSale_ok success
  obtain ⟨totals', advance', valid, resolved, events⟩ := checkoutSale_redeems success
  obtain rfl := Except.ok.inj (step.valid.symm.trans valid)
  obtain rfl := Except.ok.inj (step.voucher.symm.trans resolved)
  obtain ⟨cover, rfl⟩ := validatePayments_eq_ok.mp step.valid
  have enough := cover.enough
  have split := paidBy_split .advance payload.payments
  have worth : voucherAmounts after = voucherAmounts db := by
    rw [voucherAmounts, step.tables]
    exact voucherAmounts_consumedAdvances
  have exchange : exchangeSales after = exchangeSales db := by
    rw [exchangeSales, step.tables, exchangeSales]
  have lines : ∀ id, lineTotals after id = lineTotals db id :=
    lineTotals_of_columns (step.keeps (by exact fun _ _ => rfl) (by exact fun _ _ => rfl))
  have notExchange : sale.id ∉ exchangeSales db := by
    intro named
    obtain ⟨row, member, same, notDraft⟩ := invariant.exchanged sale.id named
    obtain rfl := eq_of_key_eq invariant.payments.distinct member target.member same
    exact notDraft step.draft
  have unpaid : tenderedFor db sale.id = 0 :=
    tenderedFor_eq_zero (invariant.payments.unpaid target.member (by rw [step.draft]; decide))
  have priced : lineTotals db sale.id ≠ [] := by
    rw [lineTotals, ne_eq, List.map_eq_nil_iff]
    exact step.nonempty
  have level : KeepsTendersExact window db
      (.sale (.action context saleId ⟨transactionId, .checkout payload⟩)) ↔
      (sale.tenantId = window.tenantId → sale.storeId = window.storeId →
      window.within context.now = true →
        paidBy (fun _ => true) payload.payments = (lineTotals db sale.id).sum) := by
    constructor
    · intro keeps
      exact keeps sale target
    · intro keeps other another
      rw [target.unique invariant.payments another]
      exact keeps
  have surplus : tenderSurplus after window = _ :=
    tenderSurplus_changed invariant.payments.distinct target.member step.draft
    (congrArg Db.sales step.tables) exchange fun row _ apart => ⟨by
      rw [tenderedFor_append (congrArg Db.payments step.tables), if_neg (Ne.symm apart), add_zero],
        lines row.id, by rw [exchange]⟩
  have redeemed : redeemedWorth after window = _ := redeemedWorth_append events fun event _ =>
    voucherWorth_congr worth event.advanceId
  rw [redeemed_of_checkout invariant resolved worth] at redeemed
  rw [level]
  by_cases inside : sale.tenantId = window.tenantId ∧ sale.storeId = window.storeId ∧
    window.within context.now = true
  · rw [if_pos inside] at redeemed
    rw [if_pos (by simp [TenderWindow.counts, inside, SaleStatus.isFinalized, notExchange]),
      grossOf, lines, if_neg priced, tenderedFor_append (congrArg Db.payments step.tables), unpaid,
      if_pos rfl, zero_add] at surplus
    obtain ⟨tenant, store, within⟩ := inside
    have due : ((getSaleLines db sale.id).map (·.lineTotal)).sum = (lineTotals db sale.id).sum :=
      rfl
    refine .of_amount (sub_nonneg.mpr (due ▸ enough)) ?_ ?_
    · rw [tenderExcess, surplus, redeemed, tenderExcess, split]
      ring
    · rw [sub_eq_zero]
      exact ⟨fun same _ _ _ => same, fun keeps => keeps tenant store within⟩
  · rw [if_neg inside, add_zero] at redeemed
    rw [if_neg, add_zero] at surplus
    · exact .idle surplus redeemed fun tenant store within => absurd ⟨tenant, store, within⟩ inside
    · intro counted
      simp only [TenderWindow.counts, Bool.and_eq_true, decide_eq_true_eq,
        Option.any_some] at counted
      obtain ⟨⟨⟨⟨tenant, store⟩, _⟩, within⟩, _⟩ := counted
      exact inside ⟨tenant, store, within⟩

/-- Consuming a voucher without a checkout makes the excess larger by its amount. -/
theorem advanceStep_tenders (invariant : TenderInvariant db) {request : AdvanceRequest}
    (success : advanceStep db request = .ok after) :
    TendersGrow window db after (KeepsTendersExact window db (.advance request)) := by
  have tables := (advanceStep_ok success).tables
  have exchange : exchangeSales after = exchangeSales db := by
    rw [exchangeSales, tables, exchangeSales]
  have surplus : tenderSurplus after window = tenderSurplus db window :=
    tenderSurplus_same (by rw [tables]) fun row _ =>
      sameFigures_of_tables (by rw [tables]) (by rw [tables]) exchange row
  have worth : ∀ event ∈ db.advanceEvents, voucherWorth after event.advanceId =
      voucherWorth db event.advanceId := by
    intro event member
    rcases advanceStep_amounts success with same | ⟨_, _, _, added⟩
    · exact voucherWorth_congr same _
    · exact voucherWorth_added added member
  cases request with
  | create context payload =>
    exact .idle surplus ((createAdvance_redeems success).redeemedWorth worth) trivial
  | sweep context tenantId storeId =>
    exact .idle surplus ((sweepExpiredAdvances_redeems success).redeemedWorth worth) trivial
  | mutate context advanceId action =>
    have redeems := mutateAdvance_redeems success
    cases action with
    | refund refundMethod => exact .idle surplus (redeems.redeemedWorth worth) trivial
    | expireNow => exact .idle surplus (redeems.redeemedWorth worth) trivial
    | consume saleTotal saleId =>
      obtain ⟨advance, member, rfl, events⟩ := redeems
      have same : voucherAmounts after = voucherAmounts db := by
        rcases advanceStep_amounts success with same | ⟨amount, _, _, added⟩
        · exact same
        · cases (advanceStep_ok success).vouchers with
          | retired row _ _ _ _ _ _ rows =>
            rw [voucherAmounts, rows]
            exact map_update (by exact fun _ => rfl)
          | consumed row _ _ _ _ rows =>
            rw [voucherAmounts, rows]
            exact map_update (by exact fun _ => rfl)
      have worthOf : voucherWorth after advance.id = advance.issuedAmount := by
        rw [voucherWorth_congr same, voucherWorth_eq invariant.vouchers member]
      have nonneg : 0 ≤ advance.issuedAmount := (invariant.amounts _ (List.mem_map_of_mem member)).2
      have distinct : (db.advances.map (·.id)).Nodup := by
        have vouchers := invariant.vouchers
        rw [voucherAmounts, List.map_map] at vouchers
        exact vouchers
      have level : KeepsTendersExact window db
          (.advance (.mutate context advance.id (.consume saleTotal saleId))) ↔
          (advance.tenantId = window.tenantId → advance.storeId = window.storeId →
            window.within context.now = true → advance.issuedAmount = 0) := by
        constructor
        · intro keeps
          exact keeps advance member rfl
        · intro keeps other another sameId
          obtain rfl := eq_of_key_eq distinct another member sameId
          exact keeps
      have redeemed : redeemedWorth after window = _ := redeemedWorth_append events worth
      have here : window.redeems (advanceEvent advance .consumed saleId context.now) = true ↔
          advance.tenantId = window.tenantId ∧ advance.storeId = window.storeId ∧
          window.within context.now = true := by
        simp only [TenderWindow.redeems, Bool.and_eq_true, decide_eq_true_eq, and_assoc]
        constructor
        · rintro ⟨tenant, store, _, within⟩
          exact ⟨tenant, store, within⟩
        · rintro ⟨tenant, store, within⟩
          exact ⟨tenant, store, rfl, within⟩
      rw [Tally.sumWhere_cons, Tally.sumWhere_nil, add_zero] at redeemed
      rw [level]
      by_cases inside : advance.tenantId = window.tenantId ∧ advance.storeId = window.storeId ∧
          window.within context.now = true
      · rw [if_pos (here.mpr inside)] at redeemed
        obtain ⟨tenant, store, within⟩ := inside
        refine .of_amount nonneg ?_ ⟨fun nothing _ _ _ => nothing, fun keeps =>
          keeps tenant store within⟩
        rw [tenderExcess, surplus, redeemed, tenderExcess, add_assoc]
        exact congrArg (fun worth => _ + (_ + worth)) worthOf
      · rw [if_neg (mt here.mp inside), add_zero] at redeemed
        exact .idle surplus redeemed fun tenant store within =>
          absurd ⟨tenant, store, within⟩ inside

/-- Every request leaves the excess as it was, exactly when it keeps tenders exact, or makes it
larger. -/
theorem systemStep_tenders (invariant : TenderInvariant db) {request : SystemRequest}
    (success : systemStep db request = .ok after) :
    TendersGrow window db after (KeepsTendersExact window db request) := by
  have elsewhere (sales : after.sales = db.sales) (payments : after.payments = db.payments)
      (lines : after.saleLines = db.saleLines) (exchange : exchangeSales after = exchangeSales db)
      (worth : voucherAmounts after = voucherAmounts db)
      (events : after.advanceEvents = db.advanceEvents) :
      TendersGrow window db after True :=
    .idle (tenderSurplus_same sales fun row _ => sameFigures_of_tables payments lines exchange row)
      (redeemedWorth_same worth events) trivial
  cases request with
  | advance request => exact advanceStep_tenders invariant success
  | returns request =>
    have tables := (returnStep_ok success).tables
    exact elsewhere (by rw [tables]) (by rw [tables]) (by rw [tables])
      (returnStep_exchangeSales success) (by rw [voucherAmounts, tables, voucherAmounts])
      (by rw [tables])
  | cash request =>
    have tables := (cashStep_ok success).tables
    exact elsewhere (by rw [tables]) (by rw [tables]) (by rw [tables])
      (by rw [exchangeSales, tables, exchangeSales])
      (by rw [voucherAmounts, tables, voucherAmounts]) (by rw [tables])
  | transfer request =>
    have tables := (transferStep_ok success).tables
    exact elsewhere (by rw [tables]) (by rw [tables]) (by rw [tables])
      (by rw [exchangeSales, tables, exchangeSales])
      (by rw [voucherAmounts, tables, voucherAmounts]) (by rw [tables])
  | sale request =>
    cases request with
    | create context payload => exact createSale_tenders success
    | update context saleId payload => exact updateSale_tenders invariant success
    | action context saleId payload =>
      obtain ⟨transactionId, action⟩ := payload
      simp only [systemStep, saleStep, saleAction, Checked.bind_eq_ok] at success
      obtain ⟨_, _, _, _, sale, found, rest⟩ := success
      obtain ⟨member, id⟩ := saleInScope_ok found
      have target : SaleTarget db saleId sale := ⟨member, id⟩
      cases action with
      | cancel => exact cancelSale_tenders invariant target rest
      | refundItems payload => exact refundItems_tenders rest
      | exchangeItems payload => exact exchangeItems_tenders rest
      | checkout payload => exact checkoutSale_tenders invariant target rest

end Steps

end ArisCloud

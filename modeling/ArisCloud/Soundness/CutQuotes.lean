import ArisCloud.Proofs.CashBookings
import ArisCloud.Soundness.PaymentTotals

/-! # Cut quotes and the cash of a session

A session books the cash of a sale net of the change, in the drawer that the cashier has open. A cut
quote takes the same cash from the payments of the paid sales of the store, whoever took it and with
the change still in it. The two agree over a window exactly when every cash sale of the store in it
is paid to the cent into that session.
-/

namespace ArisCloud

open KeyedRows Requests

/-! ## Windows -/

/-- A session, its store, and the times that a quote is for. -/
structure CutWindow where
  tenantId : ℕ
  storeId : ℕ
  sessionId : ℕ
  fromAt : ℕ
  toAt : ℕ

/-- The window of a quote of a session. -/
def PosCashSession.window (session : PosCashSession) (fromAt toAt : ℕ) : CutWindow :=
  { tenantId := session.tenantId, storeId := session.storeId, sessionId := session.id,
    fromAt, toAt }

/-- A paid sale of the store that was checked out in the window. -/
def CutWindow.paidSale (window : CutWindow) (sale : PosSale) : Bool :=
  sale.tenantId = window.tenantId && sale.storeId = window.storeId && sale.status = .paid &&
    sale.checkedOutAt.any fun at_ => window.fromAt ≤ at_ && at_ ≤ window.toAt

/-- A movement that books a sale in the session, in the window. -/
def CutWindow.bookedSale (window : CutWindow) (movement : PosCashMovement) : Bool :=
  movement.tenantId = window.tenantId && movement.storeId = window.storeId &&
    movement.cashSessionId = some window.sessionId &&
    (window.fromAt ≤ movement.occurredAt && movement.occurredAt ≤ window.toAt) &&
    movement.action = .sale

/-- The cash payments recorded for a sale. -/
def cashPaid (db : Db) (saleId : ℕ) : ℚ := paymentTotal .cash (salePayments db saleId)

/-- The cash payments of the paid sales of a window. -/
def collectedCash (db : Db) (window : CutWindow) : ℚ :=
  Tally.sumWhere window.paidSale (fun sale => cashPaid db sale.id) db.sales

/-- The sales that the session booked in a window. -/
def bookedCash (db : Db) (window : CutWindow) : ℚ := Tally.sumWhere window.bookedSale
    (·.amount) db.cashMovements

/-- The cash of sales that the quote counts and the session does not have. -/
def unbookedCash (db : Db) (window : CutWindow) : ℚ :=
  collectedCash db window - bookedCash db window

/-! ## Requests that take cash -/

/-- The payments that a request takes for a sale, and what is due. -/
structure Collection where
  context : RequestContext
  sale : PosSale
  payments : List PosPaymentCreate
  due : ℚ

def Collection.cash (collection : Collection) : ℚ := paidBy (· = .cash) collection.payments

/-- Checkouts collect what their lines cost, exchanges the difference between the goods. -/
inductive Collects (db : Db) : SystemRequest → Collection → Prop
  | checkout {context saleId transactionId payload sale} (target : SaleTarget db saleId sale) :
      Collects db (.sale (.action context saleId ⟨transactionId, .checkout payload⟩))
        ⟨context, sale, payload.payments, ((getSaleLines db sale.id).map (·.lineTotal)).sum⟩
  | exchange {context saleId transactionId payload sale items lines}
      (target : SaleTarget db saleId sale)
      (accepted : acceptReturnItems db sale.id payload.returnItems = .ok items)
      (resolved : resolveSaleLines db sale.tenantId sale.storeId payload.exchangeLines =
      .ok lines) :
      Collects db (.sale (.action context saleId ⟨transactionId, .exchangeItems payload⟩))
        ⟨context, sale, payload.payments,
          Decimals.quantize
          (totalDue lines - (returnTotals (getReturnPolicy db sale.tenantId) items).total)⟩

/-- The request is made at the store, in the window. -/
structure Collection.Within (collection : Collection) (window : CutWindow) : Prop where
  tenant : collection.sale.tenantId = window.tenantId
  store : collection.sale.storeId = window.storeId
  after : window.fromAt ≤ collection.context.now
  before : collection.context.now ≤ window.toAt

/-- The payments leave no change, and their cash goes into the drawer of the session. -/
structure Collection.StaysWhole (db : Db) (collection : Collection) (sessionId : ℕ) : Prop where
  noChange : paidBy (fun _ => true) collection.payments = collection.due
  drawer : ∃ session, requireOpenCashSession db collection.sale.tenantId collection.sale.storeId
    collection.context.userId = .ok session ∧ session.id = sessionId

/-- The cash that a request takes in the window stays whole in the session. -/
def KeepsCashWhole (window : CutWindow) (db : Db) (request : SystemRequest) : Prop :=
  ∀ collection, Collects db request collection → collection.Within window → 0 < collection.cash →
    collection.StaysWhole db window.sessionId

/-! ## Payments of paid sales -/

/-- Sales have identifiers of their own, and only paid ones have payments. -/
structure PaymentsOfPaid (db : Db) : Prop where
  distinct : (db.sales.map (·.id)).Nodup
  paid : ∀ payment ∈ db.payments, ∃ sale ∈ db.sales, sale.id = payment.saleId ∧ sale.status = .paid

section Payments

variable {db after : Db} {window : CutWindow} {saleId tenantId : ℕ}
    {payments : List PosPaymentCreate}

/-- The payments recorded for a sale are no others. -/
theorem salePayments_append
    (recorded : after.payments = db.payments ++ paymentRecords saleId tenantId payments)
    {id : ℕ} (other : saleId ≠ id) : salePayments after id = salePayments db id := by
  have none : (paymentRecords saleId tenantId payments).filter (·.saleId = id) = [] := by
    refine List.filter_eq_nil_iff.mpr fun payment member => ?_
    obtain ⟨_, _, rfl⟩ := List.mem_map.mp member
    simpa using other
  rw [salePayments, salePayments, recorded, List.filter_append, none, List.append_nil]

private theorem cashPaid_append
    (recorded : after.payments = db.payments ++ paymentRecords saleId tenantId payments) (id : ℕ) :
    cashPaid after id = cashPaid db id + if saleId = id then paidBy (· = .cash) payments
    else 0 := by
  split
  · next same =>
    subst same
    have all : (paymentRecords saleId tenantId payments).filter (·.saleId = saleId) =
        paymentRecords saleId tenantId payments := by
      refine List.filter_eq_self.mpr fun payment member => ?_
      obtain ⟨_, _, rfl⟩ := List.mem_map.mp member
      exact decide_eq_true rfl
    rw [cashPaid, cashPaid, paymentTotal, paymentTotal, salePayments, salePayments, recorded,
      List.filter_append, Tally.sumWhere_append, all, paymentRecords, Tally.sumWhere_map]
    rfl
  · next other => rw [cashPaid, cashPaid, salePayments_append recorded other, add_zero]

/-- A sale that is not paid has no cash payments. -/
theorem cashPaid_eq_zero (unpaid : ∀ payment ∈ db.payments, payment.saleId ≠ saleId) :
    cashPaid db saleId = 0 := by
  have none : salePayments db saleId = [] :=
    List.filter_eq_nil_iff.mpr fun payment member => by simpa using unpaid payment member
  rw [cashPaid, none]
  rfl

namespace PaymentsOfPaid

theorem initial (noSales : db.sales = []) (noPayments : db.payments = []) : PaymentsOfPaid db := by
  constructor
  · simp [noSales]
  · simp [noPayments]

theorem unpaid (sound : PaymentsOfPaid db) {sale : PosSale} (member : sale ∈ db.sales)
    (notPaid : sale.status ≠ .paid) :
    ∀ payment ∈ db.payments, payment.saleId ≠ sale.id := by
  rintro payment isPayment same
  obtain ⟨other, isSale, id, paid⟩ := sound.paid payment isPayment
  obtain rfl := eq_of_key_eq sound.distinct isSale member (id.trans same)
  exact notPaid paid

theorem same (sound : PaymentsOfPaid db) (sales : after.sales = db.sales)
    (payments : after.payments = db.payments) :
    PaymentsOfPaid after := by
  constructor
  · rw [sales]
    exact sound.distinct
  · rw [sales, payments]
    exact sound.paid

/-- A sale that is added with its payments is paid, or has none. -/
theorem added (sound : PaymentsOfPaid db) {sale : PosSale} (fresh : sale.id = db.freshSaleId)
    (sales : after.sales = db.sales ++ [sale])
    (recorded : after.payments = db.payments ++ paymentRecords sale.id tenantId payments)
    (paid : sale.status = .paid ∨ payments = []) : PaymentsOfPaid after := by
  constructor
  · rw [sales, List.map_append, List.map_singleton, List.nodup_append]
    refine ⟨sound.distinct, List.nodup_singleton _, fun id old new isNew => ?_⟩
    obtain ⟨other, member, rfl⟩ := List.mem_map.mp old
    rw [List.mem_singleton.mp isNew, fresh]
    exact (sale_id_lt_fresh member).ne
  · rw [sales, recorded]
    rintro payment member
    rcases List.mem_append.mp member with old | new
    · obtain ⟨owner, isSale, own⟩ := sound.paid payment old
      exact ⟨owner, List.mem_append_left _ isSale, own⟩
    · obtain ⟨asked, isAsked, rfl⟩ := List.mem_map.mp new
      rcases paid with paid | none
      · exact ⟨sale, List.mem_append_right _ (List.mem_singleton_self _), rfl, paid⟩
      · rw [none] at isAsked
        contradiction

/-- A draft that changes keeps the payments to the paid sales. -/
theorem changed (sound : PaymentsOfPaid db) {sale : PosSale} (member : sale ∈ db.sales)
    (draft : sale.status = .draft) {change : PosSale → PosSale}
    (identity : ∀ row, (change row).id = row.id)
    (sales : after.sales = update (·.id) [sale.id] change db.sales)
    (recorded : after.payments = db.payments ++ paymentRecords sale.id tenantId payments)
    (paid : (change sale).status = .paid ∨ payments = []) : PaymentsOfPaid after := by
  constructor
  · rw [sales, map_key_update identity]
    exact sound.distinct
  · rw [sales, recorded]
    rintro payment isPayment
    rcases List.mem_append.mp isPayment with old | new
    · obtain ⟨owner, isSale, own, ownerPaid⟩ := sound.paid payment old
      have other : owner.id ∉ [sale.id] := by
        rw [List.mem_singleton]
        intro same
        obtain rfl := eq_of_key_eq sound.distinct isSale member same
        rw [ownerPaid] at draft
        contradiction
      exact ⟨owner, mem_update.mpr ⟨owner, isSale, if_neg other⟩, own, ownerPaid⟩
    · obtain ⟨asked, isAsked, rfl⟩ := List.mem_map.mp new
      rcases paid with paid | none
      · exact ⟨change sale, mem_update.mpr ⟨sale, member, if_pos (List.mem_singleton_self _)⟩,
          identity sale, paid⟩
      · rw [none] at isAsked
        contradiction

theorem sale (sound : PaymentsOfPaid db) {request : SaleRequest}
    (success : saleStep db request = .ok after) :
    PaymentsOfPaid after := by
  cases saleStep_ok success with
  | created sale lines step =>
    have recorded : after.payments = db.payments ++ paymentRecords sale.id sale.tenantId [] := by
      rw [step.tables]
      exact (List.append_nil _).symm
    exact sound.added step.id (by rw [step.tables]) recorded (.inr rfl)
  | updated tenantId sale target lines step =>
    have recorded : after.payments = db.payments ++ paymentRecords sale.id sale.tenantId [] := by
      rw [step.tables]
      exact (List.append_nil _).symm
    exact sound.changed target.member step.draft (by exact fun _ => rfl)
      (congrArg Db.sales step.tables) recorded (.inr rfl)
  | canceled sale target step =>
    have recorded : after.payments = db.payments ++ paymentRecords sale.id sale.tenantId [] := by
      rw [step.tables]
      exact (List.append_nil _).symm
    exact sound.changed target.member step.draft (by exact fun _ => rfl)
      (congrArg Db.sales step.tables) recorded (.inr rfl)
  | refunded sale target items session step =>
    exact sound.same (by rw [step.tables]) (by rw [step.tables])
  | exchanged sale target items lines exchangeSale delta batch session step =>
    exact sound.added step.id (by rw [step.tables]) (by rw [step.tables]) (.inl step.paid)
  | checkedOut sale target totals advance batch step =>
    exact sound.changed target.member step.draft (by exact fun _ => rfl)
      (congrArg Db.sales step.tables) (congrArg Db.payments step.tables) (.inl rfl)

/-- The other routers leave the sales and their payments alone. -/
theorem system (sound : PaymentsOfPaid db) {request : SystemRequest}
    (success : systemStep db request = .ok after) :
    PaymentsOfPaid after := by
  cases request with
  | sale request => exact sound.sale success
  | returns request =>
    exact sound.same (by rw [(returnStep_ok success).tables])
      (by rw [(returnStep_ok success).tables])
  | advance request =>
    exact sound.same (by rw [(advanceStep_ok success).tables])
      (by rw [(advanceStep_ok success).tables])
  | cash request =>
    exact sound.same (by rw [(cashStep_ok success).tables]) (by rw [(cashStep_ok success).tables])
  | transfer request =>
    exact sound.same (by rw [(transferStep_ok success).tables])
      (by rw [(transferStep_ok success).tables])

end PaymentsOfPaid

/-! ## Cash that a window collects -/

/-- A sale that is added brings its cash payments, when it is a paid one of the window. -/
theorem collectedCash_added {sale : PosSale} (fresh : sale.id = db.freshSaleId)
    (sales : after.sales = db.sales ++ [sale])
    (recorded : after.payments = db.payments ++ paymentRecords sale.id tenantId payments) :
    collectedCash after window = collectedCash db window +
      if window.paidSale sale then paidBy (· = .cash) payments else 0 := by
  have new : cashPaid after sale.id = paidBy (· = .cash) payments := by
    have none : cashPaid db sale.id = 0 :=
      cashPaid_eq_zero fun payment member => fresh ▸ (payment_saleId_lt_fresh member).ne
    rw [cashPaid_append recorded, none, if_pos rfl, zero_add]
  have old : ∀ row ∈ db.sales, cashPaid after row.id = cashPaid db row.id := by
    intro row member
    have apart : sale.id ≠ row.id := fresh ▸ (sale_id_lt_fresh member).ne'
    rw [cashPaid_append recorded, if_neg apart, add_zero]
  rw [collectedCash, sales, Tally.sumWhere_append, Tally.sumWhere_cons, Tally.sumWhere_nil,
    add_zero, new]
  congr 1
  exact Tally.sumWhere_congr (fun _ _ => rfl) fun row member _ => old row member

/-- A draft that changes brings its cash payments, when it becomes a paid sale of the window. -/
theorem collectedCash_changed (sound : PaymentsOfPaid db) {sale : PosSale}
    (member : sale ∈ db.sales) (draft : sale.status = .draft) {change : PosSale → PosSale}
    (identity : ∀ row, (change row).id = row.id)
    (sales : after.sales = update (·.id) [sale.id] change db.sales)
    (recorded : after.payments = db.payments ++ paymentRecords sale.id tenantId payments) :
    collectedCash after window = collectedCash db window +
      if window.paidSale (change sale) then paidBy (· = .cash) payments else 0 := by
  have unpaid : window.paidSale sale = false := by simp [CutWindow.paidSale, draft]
  have new : cashPaid after (change sale).id = paidBy (· = .cash) payments := by
    have none : cashPaid db sale.id = 0 :=
      cashPaid_eq_zero (sound.unpaid member (by rw [draft]; decide))
    rw [identity, cashPaid_append recorded, none, if_pos rfl, zero_add]
  have others : ∀ row ∈ db.sales, row.id ≠ sale.id →
      cashPaid after row.id = cashPaid db row.id := by
    intro row _ apart
    rw [cashPaid_append recorded, if_neg (Ne.symm apart), add_zero]
  rw [collectedCash, sales, update_singleton,
    Tally.sumWhere_update sound.distinct member others, unpaid, new,
    ← collectedCash]
  simp

end Payments

/-! ## Cash that the session books -/

section Booked

variable {db after : Db} {window : CutWindow} {request : SystemRequest}

private theorem bookedCash_append {written : List PosCashMovement}
    (movements : after.cashMovements = db.cashMovements ++ written) :
    bookedCash after window = bookedCash db window + Tally.sumWhere window.bookedSale
    (·.amount) written := by
  rw [bookedCash, movements, Tally.sumWhere_append, ← bookedCash]

theorem BooksNoSale.booked (books : BooksNoSale db after) :
    bookedCash after window = bookedCash db window := by
  obtain ⟨written, movements, other⟩ := books
  have nothing : Tally.sumWhere window.bookedSale (·.amount) written = 0 := by
    refine Tally.sumWhere_eq_zero fun movement member booked => ?_
    simp only [CutWindow.bookedSale, Bool.and_eq_true, decide_eq_true_eq] at booked
    exact absurd booked.2 (other movement member)
  rw [bookedCash_append movements, nothing, add_zero]

variable {collection : Collection} {session : Option PosCashSession} {amount : ℚ}
    {written : List PosCashMovement}

/-- Cash that is settled in the window is booked when it goes into the drawer of the session. -/
theorem CashSettled.booked
    (settled : CashSettled session collection.sale .sale amount collection.context.now written)
    (within : collection.Within window) :
    Tally.sumWhere window.bookedSale (·.amount) written =
      if session.any (·.id = window.sessionId) then max 0 amount else 0 := by
  split
  · next own =>
    obtain ⟨opened, isSession, same⟩ := (Option.any_eq_true ..).mp own
    rw [Tally.sumWhere_eq_sum, settled.total, isSession, Option.isSome_some, if_pos rfl]
    rintro movement member
    obtain ⟨found, isFound, ofFound⟩ := settled.own movement member
    obtain rfl : opened = found := Option.some.inj (isSession.symm.trans isFound)
    obtain ⟨tenant, store, action, time⟩ := settled.columns movement member
    rw [of_decide_eq_true same] at ofFound
    simp only [CutWindow.bookedSale, tenant, store, action, time, ofFound, within.tenant,
      within.store, within.after, within.before, decide_true, Bool.and_self]
  · next foreign =>
    refine Tally.sumWhere_eq_zero fun movement member booked => absurd ?_ foreign
    obtain ⟨found, isFound, ofFound⟩ := settled.own movement member
    simp only [CutWindow.bookedSale, Bool.and_eq_true, decide_eq_true_eq] at booked
    obtain ⟨⟨⟨_, own⟩, _⟩, _⟩ := booked
    refine (Option.any_eq_true ..).mpr ⟨found, isFound, decide_eq_true ?_⟩
    exact Option.some.inj (ofFound.symm.trans own)

/-- Cash that is settled elsewhere, or at another time, is not. -/
theorem CashSettled.not_booked
    (settled : CashSettled session collection.sale .sale amount collection.context.now written)
    (outside : ¬ collection.Within window) :
    Tally.sumWhere window.bookedSale (·.amount) written = 0 := by
  refine Tally.sumWhere_eq_zero fun movement member booked => absurd ?_ outside
  obtain ⟨tenant, store, _, time⟩ := settled.columns movement member
  simp only [CutWindow.bookedSale, Bool.and_eq_true, decide_eq_true_eq, tenant, store,
    time] at booked
  obtain ⟨⟨⟨⟨sameTenant, sameStore⟩, _⟩, after, before⟩, _⟩ := booked
  exact ⟨sameTenant, sameStore, after, before⟩

/-! ## What a request adds to the difference -/

/-- What a request that takes payments does: its cash is collected in its window, and booked net of
the change. -/
structure Taken (db after : Db) (collection : Collection) : Prop where
  collected : ∀ window : CutWindow, (collection.Within window →
      collectedCash after window = collectedCash db window + collection.cash) ∧
    (¬ collection.Within window → collectedCash after window = collectedCash db window)
  booked : ∃ totals session written, validatePayments collection.payments collection.due =
    .ok totals ∧ openSessionFor db collection.context collection.sale totals.cashTotal =
    .ok session ∧ after.cashMovements = db.cashMovements ++ written ∧
    CashSettled session collection.sale .sale (max 0 (totals.cashTotal - totals.changeDue))
    collection.context.now written

/-- The requests of the window leave the difference as it was, or make it larger. -/
structure Grows (window : CutWindow) (db after : Db) (level : Prop) : Prop where
  below : unbookedCash db window ≤ unbookedCash after window
  exact : unbookedCash after window = unbookedCash db window ↔ level

theorem Grows.idle (collected : collectedCash after window = collectedCash db window)
    (booked : bookedCash after window = bookedCash db window)
    (whole : KeepsCashWhole window db request) :
    Grows window db after (KeepsCashWhole window db request) := by
  have same : unbookedCash after window = unbookedCash db window := by
    rw [unbookedCash, collected, booked, unbookedCash]
  exact ⟨same.ge, iff_of_true same whole⟩

/-- Taking payments makes the difference larger by the change that is given, and by all of the cash
when it goes into another drawer. -/
theorem Taken.grows (taken : Taken db after collection)
    (only : ∀ other, Collects db request other ↔ other = collection) :
    Grows window db after (KeepsCashWhole window db request) := by
  obtain ⟨totals, session, written, valid, opened, movements, settled⟩ := taken.booked
  obtain ⟨cover, rfl⟩ := validatePayments_eq_ok.mp valid
  have exact := cover.totalsExact
  have level : KeepsCashWhole window db request ↔
      (collection.Within window → 0 < collection.cash →
      collection.StaysWhole db window.sessionId) := by
    constructor
    · intro keeps
      exact keeps collection ((only collection).mpr rfl)
    · rintro keeps other collects
      obtain rfl := (only other).mp collects
      exact keeps
  rw [level]
  by_cases within : collection.Within window
  · have grown : unbookedCash after window = unbookedCash db window + (collection.cash -
        if session.any (·.id = window.sessionId) then
          collection.cash - (computedTotals collection.payments collection.due).changeDue
        else 0) := by
      rw [unbookedCash, (taken.collected window).1 within, bookedCash_append movements,
        settled.booked within, exact.keptClampIdle, exact.keptClampIdle, unbookedCash]
      change collectedCash db window + collection.cash - (bookedCash db window +
        if _ then collection.cash - _ else 0) = _
      ring
    have changeNonneg := exact.changeNonneg
    have changeWithin : (computedTotals collection.payments collection.due).changeDue ≤
        collection.cash :=
      exact.changeWithinCash
    rw [openSessionFor] at opened
    split at opened
    · next some =>
      change 0 < collection.cash at some
      obtain ⟨drawer, found, rfl⟩ := Checked.map_eq_ok.mp opened
      by_cases own : drawer.id = window.sessionId
      · rw [Option.any_some, if_pos (decide_eq_true own)] at grown
        refine ⟨by linarith, ?_⟩
        have noChange : unbookedCash after window = unbookedCash db window ↔
            (computedTotals collection.payments collection.due).changeDue = 0 := by
          rw [grown]
          constructor <;> intro <;> linarith
        rw [noChange]
        constructor
        · exact fun none _ _ => ⟨sub_eq_zero.mp none, drawer, found, own⟩
        · exact fun keeps => sub_eq_zero.mpr (keeps within some).noChange
      · rw [Option.any_some, if_neg (by simpa using own), sub_zero] at grown
        refine ⟨by linarith, iff_of_false (by linarith) fun keeps => own ?_⟩
        obtain ⟨other, isOther, same⟩ := (keeps within some).drawer
        rw [found] at isOther
        exact Except.ok.inj isOther ▸ same
    · next none =>
      change ¬ 0 < collection.cash at none
      obtain rfl := Checked.pure_eq_ok.mp opened
      rw [Option.any_none, if_neg Bool.false_ne_true, sub_zero] at grown
      have empty : collection.cash = 0 := by linarith
      rw [empty, add_zero] at grown
      exact ⟨grown.ge, iff_of_true grown fun _ positive => absurd positive none⟩
  · have same : unbookedCash after window = unbookedCash db window := by
      rw [unbookedCash, (taken.collected window).2 within, bookedCash_append movements,
        settled.not_booked within, add_zero, unbookedCash]
    exact ⟨same.ge, iff_of_true same fun inside => absurd inside within⟩

end Booked

/-! ## What every request adds to the difference -/

section Steps

variable {db after : Db} {window : CutWindow} {context : RequestContext} {sale : PosSale}
    {saleId : ℕ}

private theorem collectedCash_same (sales : after.sales = db.sales)
    (payments : after.payments = db.payments) :
    collectedCash after window = collectedCash db window := by
  rw [collectedCash, sales]
  simp only [cashPaid, salePayments, payments]
  rfl

theorem SaleTarget.unique (sound : PaymentsOfPaid db) (target : SaleTarget db saleId sale)
    {other : PosSale} (another : SaleTarget db saleId other) : other = sale :=
  eq_of_key_eq sound.distinct another.member target.member (another.id.trans target.id.symm)

/-- A sale that is checked out now is a paid sale of the windows that the request is made in. -/
theorem paidSale_iff {row : PosSale} {collection : Collection}
    (tenant : row.tenantId = collection.sale.tenantId)
    (store : row.storeId = collection.sale.storeId) (paid : row.status = .paid)
    (time : row.checkedOutAt = some collection.context.now) : window.paidSale row = true ↔
    collection.Within window := by
  simp only [CutWindow.paidSale, tenant, store, paid, time, Option.any_some, decide_true,
    Bool.and_true, Bool.and_eq_true, decide_eq_true_eq]
  constructor
  · rintro ⟨⟨sameTenant, sameStore⟩, after, before⟩
    exact ⟨sameTenant, sameStore, after, before⟩
  · rintro ⟨sameTenant, sameStore, after, before⟩
    exact ⟨⟨sameTenant, sameStore⟩, after, before⟩

/-- Cash that is collected with a sale that is checked out now. -/
theorem collected_of_paid {row : PosSale} {collection : Collection}
    (tenant : row.tenantId = collection.sale.tenantId)
    (store : row.storeId = collection.sale.storeId) (paid : row.status = .paid)
    (time : row.checkedOutAt = some collection.context.now)
    (total : ∀ window : CutWindow, collectedCash after window = collectedCash db window +
      if window.paidSale row then collection.cash else 0) (window : CutWindow) :
    (collection.Within window → collectedCash after window = collectedCash db window +
        collection.cash) ∧
      (¬ collection.Within window → collectedCash after window = collectedCash db window) := by
  have here : window.paidSale row = true ↔ collection.Within window :=
    paidSale_iff tenant store paid time
  constructor
  · intro within
    rw [total, if_pos (here.mpr within)]
  · intro outside
    rw [total, if_neg (outside ∘ here.mp), add_zero]

private theorem checkoutSale_grows (sound : PaymentsOfPaid db) (target : SaleTarget db saleId sale)
    {transactionId : Option String} {payload : CheckoutSaleActionRequest}
    (success : checkoutSale db context sale payload = .ok after) : Grows window db after
      (KeepsCashWhole window db
        (.sale (.action context saleId ⟨transactionId, .checkout payload⟩))) := by
  obtain ⟨totals, advance, batch, step⟩ := checkoutSale_ok success
  obtain ⟨session, written, opened, movements, settled⟩ := step.drawer
  have taken :
      Taken db after ⟨context, sale, payload.payments,
      ((getSaleLines db sale.id).map (·.lineTotal)).sum⟩ := by
    refine ⟨?_, totals, session, written, step.valid, opened, movements, settled⟩
    let paidSale : PosSale := { sale with
      status := .paid
      totalDue := totals.totalDue
      paidTotal := totals.paidTotal
      balanceDue := totals.balanceDue
      changeDue := totals.changeDue
      checkedOutAt := some context.now
      receiptNumber := orElse payload.receiptNumber sale.receiptNumber }
    have tenant : paidSale.tenantId = sale.tenantId := rfl
    refine collected_of_paid tenant rfl rfl rfl ?_
    exact fun window => collectedCash_changed sound target.member step.draft (by exact fun _ => rfl)
      (congrArg Db.sales step.tables) (congrArg Db.payments step.tables)
  refine taken.grows fun other => ⟨fun collects => ?_, ?_⟩
  · cases collects with
    | checkout another => rw [target.unique sound another]
  · rintro rfl
    exact .checkout target

private theorem exchangeItems_grows (sound : PaymentsOfPaid db) (target : SaleTarget db saleId sale)
    {transactionId : Option String} {payload : ExchangeItemsSaleActionRequest}
    (success : exchangeItems db context sale payload = .ok after) : Grows window db after
      (KeepsCashWhole window db
        (.sale (.action context saleId ⟨transactionId, .exchangeItems payload⟩))) := by
  obtain ⟨items, lines, exchangeSale, delta, step⟩ := exchangeItems_booked success
  by_cases collects : 0 < delta
  · obtain ⟨totals, session, written, valid, opened, movements, settled⟩ := step.collects collects
    have taken : Taken db after ⟨context, sale, payload.payments, delta⟩ := by
      refine ⟨?_, totals, session, written, valid, opened, movements, settled⟩
      exact collected_of_paid step.place.1 step.place.2 step.paid.1 step.paid.2 fun window =>
        collectedCash_added step.id step.sales step.payments
    refine taken.grows fun other => ⟨fun collects => ?_, ?_⟩
    · cases collects with
      | exchange another accepted resolved =>
        obtain rfl := target.unique sound another
        obtain rfl := Except.ok.inj (step.accepted.symm.trans accepted)
        obtain rfl := Except.ok.inj (step.resolved.symm.trans resolved)
        rw [step.difference]
    · rintro rfl
      rw [step.difference]
      exact .exchange target step.accepted step.resolved
  · obtain ⟨none, books⟩ := step.paysOut collects
    refine .idle ?_ books.booked fun collection collects _ positive => absurd positive ?_
    · rw [collectedCash_added step.id step.sales step.payments, none]
      exact add_eq_left.mpr (ite_self _)
    · cases collects with
      | exchange =>
        change ¬ 0 < paidBy (· = .cash) payload.payments
        rw [none]
        exact lt_irrefl 0

/-- Every request leaves the difference as it was, exactly when the cash that it takes stays whole
in the session, or makes it larger. -/
theorem systemStep_grows (sound : PaymentsOfPaid db) {request : SystemRequest}
    (success : systemStep db request = .ok after) :
    Grows window db after (KeepsCashWhole window db request) := by
  cases request with
  | returns request =>
    have tables := (returnStep_ok success).tables
    exact .idle (collectedCash_same (by rw [tables]) (by rw [tables]))
      (BooksNoSale.of_eq (by rw [tables])).booked fun _ collects => by cases collects
  | advance request =>
    have tables := (advanceStep_ok success).tables
    exact .idle (collectedCash_same (by rw [tables]) (by rw [tables]))
      (advanceStep_books success).booked fun _ collects => by cases collects
  | cash request =>
    have tables := (cashStep_ok success).tables
    exact .idle (collectedCash_same (by rw [tables]) (by rw [tables]))
      (cashStep_books success).booked fun _ collects => by cases collects
  | transfer request =>
    have tables := (transferStep_ok success).tables
    exact .idle (collectedCash_same (by rw [tables]) (by rw [tables]))
      (BooksNoSale.of_eq (by rw [tables])).booked fun _ collects => by cases collects
  | sale request =>
    cases request with
    | create context payload =>
      obtain ⟨sale, lines, step⟩ := createSale_ok success
      have recorded : after.payments = db.payments ++ paymentRecords sale.id sale.tenantId [] := by
        rw [step.tables]
        exact (List.append_nil _).symm
      refine .idle ?_ (BooksNoSale.of_eq (by rw [step.tables])).booked
        fun _ collects => by cases collects
      rw [collectedCash_added step.id (by rw [step.tables]) recorded]
      exact add_eq_left.mpr (ite_self _)
    | update context saleId payload =>
      obtain ⟨tenantId, sale, lines, target, step⟩ := updateSale_ok success
      have recorded : after.payments = db.payments ++ paymentRecords sale.id sale.tenantId [] := by
        rw [step.tables]
        exact (List.append_nil _).symm
      refine .idle ?_ (BooksNoSale.of_eq (by rw [step.tables])).booked
        fun _ collects => by cases collects
      rw [collectedCash_changed sound target.member step.draft (by exact fun _ => rfl)
        (congrArg Db.sales step.tables) recorded]
      exact add_eq_left.mpr (ite_self _)
    | action context saleId payload =>
      obtain ⟨transactionId, action⟩ := payload
      simp only [systemStep, saleStep, saleAction, Checked.bind_eq_ok] at success
      obtain ⟨_, _, _, _, sale, found, rest⟩ := success
      obtain ⟨member, id⟩ := saleInScope_ok found
      have target : SaleTarget db saleId sale := ⟨member, id⟩
      cases action with
      | cancel =>
        have step := cancelSale_ok rest
        have recorded : after.payments = db.payments ++ paymentRecords sale.id sale.tenantId
            [] := by
          rw [step.tables]
          exact (List.append_nil _).symm
        refine .idle ?_ (BooksNoSale.of_eq (by rw [step.tables])).booked
          fun _ collects => by cases collects
        rw [collectedCash_changed sound member step.draft (by exact fun _ => rfl)
          (congrArg Db.sales step.tables) recorded]
        exact add_eq_left.mpr (ite_self _)
      | refundItems payload =>
        obtain ⟨items, session, step⟩ := refundItems_ok rest
        exact .idle (collectedCash_same (by rw [step.tables]) (by rw [step.tables]))
          (refundItems_books rest).booked fun _ collects => by cases collects
      | exchangeItems payload => exact exchangeItems_grows sound target rest
      | checkout payload => exact checkoutSale_grows sound target rest

end Steps

/-! ## Movements of a session -/

section Sessions

variable {db after : Db} {session : PosCashSession}

/-- The movements that change the balance of a session are of its store. -/
def MovementsPlaced (db : Db) : Prop :=
  ∀ movement ∈ db.cashMovements, movement.action.changesBalance = true →
    ∀ session ∈ db.cashSessions, movement.cashSessionId = some session.id →
    movement.tenantId = session.tenantId ∧ movement.storeId = session.storeId

theorem MovementsPlaced.kept (placed : MovementsPlaced db) {written : List PosCashMovement}
    (sessions : ∀ next ∈ after.cashSessions, ∃ session ∈ db.cashSessions, SameSession session next)
    (movements : after.cashMovements = db.cashMovements ++ written)
    (new : ∀ movement ∈ written, movement.action.changesBalance = true →
      ∀ session ∈ db.cashSessions,
      movement.cashSessionId = some session.id → movement.tenantId = session.tenantId ∧
      movement.storeId = session.storeId) :
    MovementsPlaced after := by
  intro movement member counts next isNext own
  obtain ⟨session, isSession, same⟩ := sessions next isNext
  rw [same.tenant, same.store]
  rw [same.id] at own
  rw [movements] at member
  rcases List.mem_append.mp member with old | added
  · exact placed movement old counts session isSession own
  · exact new movement added counts session isSession own

private theorem sameSession_of_update {keys : List ℕ} {change : PosCashSession → PosCashSession}
    (rows : after.cashSessions = update (·.id) keys change db.cashSessions)
    (same : ∀ row, SameSession row (change row)) :
    ∀ next ∈ after.cashSessions, ∃ session ∈ db.cashSessions, SameSession session next := by
  intro next member
  rw [rows] at member
  rcases mem_update_cases member with ⟨old, _⟩ | ⟨row, old, _, rfl⟩
  · exact ⟨next, old, rfl, rfl, rfl, rfl⟩
  · exact ⟨row, old, same row⟩

theorem CashWrite.placed {write : CashWrite} (cuts : CutsOwned db) (current : write.Current db)
    (written : write.apply db = some after) (placed : MovementsPlaced db) :
    MovementsPlaced after := by
  cases write with
  | opening scope openingAmount businessDate =>
    obtain rfl := Option.some.inj written
    rintro movement member counts session isSession own
    rcases List.mem_append.mp member with old | new <;>
      rcases List.mem_append.mp isSession with was | added
    · exact placed movement old counts session was own
    · rw [List.mem_singleton.mp added] at own
      exact absurd own (freshCashSessionId_unmentioned old)
    · rw [List.mem_singleton.mp new] at own
      have same : db.freshCashSessionId = session.id := Option.some.inj own
      have below := freshCashSessionId_unused was
      omega
    · rw [List.mem_singleton.mp new, List.mem_singleton.mp added]
      exact ⟨rfl, rfl⟩
  | movement scope session saleId flow amount =>
    obtain rfl := Option.some.inj written
    refine placed.kept (sameSession_of_update rfl (by exact fun _ => ⟨rfl, rfl, rfl, rfl⟩)) rfl ?_
    rintro movement member _ other isSession own
    obtain rfl := List.mem_singleton.mp member
    obtain rfl := eq_of_key_eq cuts.distinct current.member isSession (Option.some.inj own)
    exact ⟨current.tenant.symm, current.store.symm⟩
  | close scope session countedCash =>
    obtain rfl := Option.some.inj written
    refine placed.kept (sameSession_of_update rfl (by exact fun _ => ⟨rfl, rfl, rfl, rfl⟩)) rfl ?_
    rintro movement member counts
    obtain rfl := List.mem_singleton.mp member
    contradiction
  | dayClose scope payload openIds rollup =>
    rw [apply] at written
    split_ifs at written
    obtain rfl := Option.some.inj written
    refine placed.kept (sameSession_of_update rfl (by exact fun _ => ⟨rfl, rfl, rfl, rfl⟩)) rfl ?_
    rintro movement member counts
    obtain rfl := List.mem_singleton.mp member
    contradiction

theorem CashEvent.placed (cuts : CutsOwned db) (event : CashEvent db after)
    (placed : MovementsPlaced db) :
    MovementsPlaced after := by
  have follows (middle : Db) (placed : MovementsPlaced middle)
      (same : after.ledger = middle.ledger) :
      MovementsPlaced after := by
    have sessions : after.cashSessions = middle.cashSessions := congrArg CashLedger.sessions same
    have movements : after.cashMovements = middle.cashMovements :=
      congrArg CashLedger.movements same
    rw [MovementsPlaced, sessions, movements]
    exact placed
  cases event with
  | idle same => exact follows db placed same
  | outside movement uncounted same =>
    refine follows (db.addCashMovement movement) ?_ same
    refine placed.kept (fun session member => ⟨session, member, rfl, rfl, rfl, rfl⟩)
      rfl fun other member counts => ?_
    rw [List.mem_singleton.mp member, uncounted] at counts
    contradiction
  | written write cash current applied same =>
    exact follows cash (CashWrite.placed cuts current applied placed) same

/-! ## The quote -/

/-- The movements of one action in a session, before a window and in it. -/
theorem cashTotal_eq_sessionTotals (placed : MovementsPlaced db)
    (member : session ∈ db.cashSessions) (fromAt : ℕ) {toAt : ℕ}
    (covered : ∀ movement ∈ db.cashMovements, movement.cashSessionId = some session.id →
      session.openedAt ≤ movement.occurredAt ∧ movement.occurredAt ≤ toAt) (action : CashAction)
    (counts : action.changesBalance = true) : cashTotal db.cashMovements session.id action =
      sessionTotal db session.tenantId session.storeId session.id
      (fun at_ => session.openedAt ≤ at_ && at_ < fromAt) action +
        sessionTotal db session.tenantId session.storeId session.id
        (withinCut fromAt toAt) action := by
  refine Tally.sumWhere_split (fun movement isMovement => ?_) fun movement _ both => ?_
  · by_cases own : movement.cashSessionId = some session.id
    · by_cases same : movement.action = action
      · obtain ⟨tenant, store⟩ := placed movement isMovement (same ▸ counts) session member own
        obtain ⟨opened, ended⟩ := covered movement isMovement own
        by_cases earlier : movement.occurredAt < fromAt
        · simp [isSessionMovement, withinCut, own, same, tenant, store, opened, earlier]
        · simp [isSessionMovement, withinCut, own, same, tenant, store, ended, earlier,
            not_lt.mp earlier]
      · simp [isSessionMovement, same]
    · simp [isSessionMovement, own]
  · simp only [isSessionMovement, withinCut, Bool.and_eq_true, decide_eq_true_eq] at both
    obtain ⟨⟨⟨_, _, before⟩, _⟩, ⟨_, after, _⟩, _⟩ := both
    omega

/-- The sales without payments, which a quote leaves out, have no cash either. -/
theorem quotedSales_cash (fromAt toAt : ℕ) :
    ((quotedSales db session.tenantId session.storeId fromAt toAt).map fun sale =>
      paymentTotal .cash (salePayments db sale.id)).sum = collectedCash db
          (session.window fromAt toAt) := by
  change Tally.sumWhere (fun sale => (session.window fromAt toAt).paidSale sale &&
    !(salePayments db sale.id).isEmpty) (fun sale => cashPaid db sale.id) db.sales = _
  rw [Tally.sumWhere_and, collectedCash]
  refine Tally.sumWhere_congr (fun _ _ => rfl) fun sale _ _ => ?_
  cases payments : salePayments db sale.id with
  | nil => simp [cashPaid, payments, paymentTotal]
  | cons => simp

/-- A quote exceeds the cash of the session by the cash of sales that the session did not book. -/
theorem calculateCutQuote_expectedCash (placed : MovementsPlaced db)
    (member : session ∈ db.cashSessions) (invariant : SessionInvariant db.cashMovements session)
    {fromAt toAt : ℕ} (ordered : fromAt < toAt)
    (covered : ∀ movement ∈ db.cashMovements, movement.cashSessionId = some session.id →
      session.openedAt ≤ movement.occurredAt ∧ movement.occurredAt ≤ toAt) :
    ∃ totals, calculateCutQuote db session.tenantId session.storeId session fromAt toAt =
      .ok totals ∧
      totals.expectedCash = session.expectedCash + unbookedCash db
      (session.window fromAt toAt) := by
  have split := cashTotal_eq_sessionTotals placed member fromAt covered
  simp only [calculateCutQuote, Checked.ensure, if_pos ordered]
  refine ⟨_, rfl, ?_⟩
  rw [invariant.explained, netMoved_eq_totals, split .cashIn rfl, split .sale rfl,
    split .cashOut rfl, split .cashOutRefund rfl, unbookedCash, quotedSales_cash]
  have booked : bookedCash db (session.window fromAt toAt) =
      sessionTotal db session.tenantId session.storeId session.id
      (withinCut fromAt toAt) .sale := rfl
  rw [booked]
  ring

end Sessions

/-! ## Runs -/

/-- No cash has been moved and nothing has been sold yet. -/
structure NoTrade (db : Db) : Prop where
  noSessions : db.cashSessions = []
  noMovements : db.cashMovements = []
  noCuts : db.cashCuts = []
  noSales : db.sales = []
  noPayments : db.payments = []

/-- What a quote relies on. -/
structure QuoteInvariant (db : Db) : Prop where
  cuts : CutsOwned db
  cash : CashInvariant db.cash
  placed : MovementsPlaced db
  payments : PaymentsOfPaid db

theorem QuoteInvariant.step {db after : Db} {request : SystemRequest}
    (invariant : QuoteInvariant db) (success : systemStep db request = .ok after) :
    QuoteInvariant after := by
  obtain ⟨cuts, cash, placed, payments⟩ := invariant
  exact ⟨cuts.step success, cash.change (systemStep_cash success),
    (systemStep_event cuts success).placed cuts placed,
    payments.system success⟩

theorem NoTrade.invariant {start : Db} (blank : NoTrade start) : QuoteInvariant start := by
  obtain ⟨noSessions, noMovements, noCuts, noSales, noPayments⟩ := blank
  refine ⟨⟨by simp [noSessions], by simp [noCuts]⟩,
    ⟨by simp [Db.cash, noSessions], by simp [Db.cash, noSessions]⟩, ?_,
    .initial noSales noPayments⟩
  simp [MovementsPlaced, noMovements]

namespace Sample

/-- Two jackets are paid with as much cash as is due. -/
def paidToTheCent : List SystemRequest :=
  saleAndRefund.take 2 ++ [onSale 1 (.checkout { payments := [inCash 20] })]

private theorem paidToTheCent_commits :
    (recordRun systemStep shop paidToTheCent).isSome = true := by decide +kernel

def centDay : List (Db × SystemRequest) × Db :=
  (recordRun systemStep shop paidToTheCent).get paidToTheCent_commits

/-- Two jackets are paid with more cash than is due. -/
def paidWithTooMuch : List SystemRequest := saleAndRefund.take 3

theorem paidWithTooMuch_commits : (recordRun systemStep shop paidWithTooMuch).isSome = true := by
  decide +kernel

def changeDay : List (Db × SystemRequest) × Db :=
  (recordRun systemStep shop paidWithTooMuch).get paidWithTooMuch_commits

def drawerOf (db : Db) : PosCashSession :=
  db.cashSessions.head?.getD
    { id := 0, tenantId := 0, storeId := 0, cashierUserId := 0, businessDate := 0,
      openingAmount := 0, expectedCash := 0, openedAt := 0, createdAt := 0 }

theorem noTrade_shop : NoTrade shop := ⟨rfl, rfl, rfl, rfl, rfl⟩

private theorem changeQuote_commits : (calculateCutQuote changeDay.2 (drawerOf changeDay.2).tenantId
    (drawerOf changeDay.2).storeId (drawerOf changeDay.2) 100 101).toOption.isSome =
    true := by decide +kernel

def changeQuote : CashCutTotals := (calculateCutQuote changeDay.2 (drawerOf changeDay.2).tenantId
  (drawerOf changeDay.2).storeId (drawerOf changeDay.2) 100 101).toOption.get changeQuote_commits

end Sample

end ArisCloud

import ArisCloud.Soundness.CashBalance

/-! # Advance payments are backed by consumed advances

A checkout consumes the voucher behind its advance payment. An exchange records advance payments
without looking for a voucher, and the standalone consumption may name a sale that a voucher of the
same amount already paid for. As long as neither happens, every advance payment is backed by exactly
one voucher, and no voucher backs two payments.
-/

namespace ArisCloud

open KeyedRows Requests

/-- The voucher was spent on the sale of the payment, for its amount. -/
def backs (payment : PosPayment) (advance : PosAdvance) : Bool :=
  advance.tenantId = payment.tenantId && advance.status = .consumed && advance.consumedSaleId =
    some payment.saleId && advance.issuedAmount = payment.amount

private theorem backs_eq_true {payment : PosPayment} {advance : PosAdvance} :
    backs payment advance = true ↔ advance.tenantId = payment.tenantId ∧
    advance.status = .consumed ∧
      advance.consumedSaleId = some payment.saleId ∧ advance.issuedAmount = payment.amount := by
  simp [backs, and_assoc]

private theorem backs_eq_false_of_active {payment : PosPayment} {advance : PosAdvance}
    (active : advance.status = .active) :
    backs payment advance = false := by
  simp [backs, active]

/-- Every advance payment has exactly one voucher behind it, and every voucher is behind at most one
payment. -/
structure PaymentsBacked (db : Db) : Prop where
  backed : ∀ payment ∈ db.payments, payment.method = .advance →
    db.advances.countP (backs payment) = 1
  once : ∀ advance ∈ db.advances,
    db.payments.countP (fun payment => payment.method = .advance && backs payment advance) ≤ 1

/-! ## Requests that keep payments backed -/

/-- No voucher was spent yet, for the amount of an advance payment, on the sale that is paid for. -/
def NotSpentOn (db : Db) (saleId : ℕ) (payments : List PosPaymentCreate) : Prop :=
  ∀ payment ∈ payments, payment.method = .advance → ∀ advance ∈ db.advances,
    ¬ (advance.status = .consumed ∧ advance.consumedSaleId = some saleId ∧
    advance.issuedAmount = payment.amount)

/-- The sale has no advance payment of the amount of the voucher. -/
def NotPaidBy (db : Db) (saleId advanceId : ℕ) : Prop :=
  ∀ payment ∈ db.payments, payment.saleId = saleId → payment.method = .advance →
    ∀ advance ∈ db.advances, advance.id = advanceId → advance.issuedAmount ≠ payment.amount

instance (db : Db) (saleId : ℕ) (payments : List PosPaymentCreate) :
    Decidable (NotSpentOn db saleId payments) :=
  inferInstanceAs (Decidable (∀ payment ∈ payments, _ → ∀ advance ∈ db.advances, _))

instance (db : Db) (saleId advanceId : ℕ) : Decidable (NotPaidBy db saleId advanceId) :=
  inferInstanceAs (Decidable (∀ payment ∈ db.payments, _ → _ → ∀ advance ∈ db.advances, _ → _))

def AdvancesSafe (db : Db) : SystemRequest → Prop
  | .sale (.action _ saleId ⟨_, .checkout payload⟩) => NotSpentOn db saleId payload.payments
  | .sale (.action _ _ ⟨_, .exchangeItems payload⟩) =>
    ∀ payment ∈ payload.payments, payment.method ≠ .advance
  | .advance (.mutate _ advanceId (.consume _ (some saleId))) => NotPaidBy db saleId advanceId
  | _ => True

instance (db : Db) (request : SystemRequest) : Decidable (AdvancesSafe db request) := by
  unfold AdvancesSafe
  split <;> infer_instance

/-! ## The voucher of a checkout -/

/-- A checkout without a voucher has no advance payment. -/
theorem resolveAdvancePayment_none {db : Db} {context : RequestContext} {sale : PosSale}
    {totalDue : ℚ} {payments : List PosPaymentCreate}
    (resolved : resolveAdvancePayment db context sale totalDue payments = .ok none) :
    payments.filter (·.method = .advance) = [] := by
  unfold resolveAdvancePayment at resolved
  split at resolved
  · next none => exact none
  · simp only [Checked.bind_eq_ok, Checked.pure_eq_ok] at resolved
    obtain ⟨_, _, _, _, impossible⟩ := resolved
    contradiction
  · exact absurd resolved Checked.throw_ne_ok

/-- The voucher of a checkout was active and covers its only advance payment exactly. -/
theorem resolveAdvancePayment_some {db : Db} {context : RequestContext} {sale : PosSale}
    {totalDue : ℚ} {payments : List PosPaymentCreate} {advance : PosAdvance}
    (resolved : resolveAdvancePayment db context sale totalDue payments = .ok (some advance)) :
    ∃ payment, payments.filter (·.method = .advance) = [payment] ∧ advance ∈ db.advances ∧
      advance.tenantId = sale.tenantId ∧ advance.status = .active ∧
      payment.amount = Decimals.quantize advance.issuedAmount := by
  unfold resolveAdvancePayment at resolved
  split at resolved
  · exact absurd (Checked.pure_eq_ok.mp resolved) nofun
  · next payment only =>
    simp only [resolveAdvanceForCheckout, Checked.bind_eq_ok, Checked.fetch_eq_ok,
      Checked.ensure_eq_ok, exists_const, Checked.pure_eq_ok, Option.some.injEq] at resolved
    obtain ⟨_, _, ⟨found, first, active, amount, rfl⟩, rfl⟩ := resolved
    have named := List.find?_some first
    simp only [Bool.and_eq_true, decide_eq_true_eq] at named
    exact ⟨payment, only, List.mem_of_find?_eq_some first, named.1.1,
      active_of_expireAdvanceIfNeeded active, amount⟩
  · exact absurd resolved Checked.throw_ne_ok

/-! ## The invariant -/

structure AdvanceInvariant (db : Db) : Prop where
  advanceIds : (db.advances.map (·.id)).Nodup
  cents : ∀ advance ∈ db.advances, Decimals.IsCents advance.issuedAmount
  backed : ∀ payment ∈ db.payments, payment.method = .advance →
    db.advances.countP (backs payment) = 1
  single : ∀ saleId, db.payments.countP (fun payment => payment.method = .advance &&
    payment.saleId = saleId) ≤ 1
  settled : ∀ payment ∈ db.payments, ∀ sale ∈ db.sales, sale.id = payment.saleId →
    sale.status ≠ .draft

namespace AdvanceInvariant

variable {db after : Db}

/-- A voucher backs payments of the sale it was spent on only, and that sale has one advance
payment. -/
theorem paymentsBacked (invariant : AdvanceInvariant db) : PaymentsBacked db := by
  refine ⟨invariant.backed, fun advance _ => ?_⟩
  cases spent : advance.consumedSaleId with
  | none =>
    have nothing : db.payments.countP (fun payment => payment.method = .advance &&
        backs payment advance) = 0 :=
      List.countP_eq_zero.mpr fun payment _ both => by simp [backs, spent] at both
    omega
  | some saleId =>
    refine le_trans (List.countP_mono_left fun payment _ both => ?_) (invariant.single saleId)
    simp only [Bool.and_eq_true, decide_eq_true_eq, backs_eq_true, spent,
      Option.some.injEq] at both ⊢
    exact ⟨both.1, both.2.2.2.1.symm⟩

/-- The invariant is about advances, payments and sales. -/
theorem congr (invariant : AdvanceInvariant db) (advances : after.advances = db.advances)
    (payments : after.payments = db.payments)
    (settled : ∀ payment ∈ db.payments, ∀ sale ∈ after.sales, sale.id = payment.saleId →
      sale.status ≠ .draft) :
    AdvanceInvariant after := by
  obtain ⟨advanceIds, cents, backed, single, _⟩ := invariant
  exact ⟨by rwa [advances], by rwa [advances], by rwa [advances, payments], by rwa
    [payments], by rwa [payments]⟩

/-- A change of one voucher that was active keeps the backing of every payment, unless it backs one
afterwards. -/
theorem countP_backs_update (invariant : AdvanceInvariant db) {advance : PosAdvance}
    (member : advance ∈ db.advances) (active : advance.status = .active)
    (change : PosAdvance → PosAdvance) (payment : PosPayment) :
    ((update (·.id) [advance.id] change db.advances).countP (backs payment) : ℤ) =
      db.advances.countP (backs payment) + (backs payment (change advance)).toNat := by
  have only {row : PosAdvance} (isRow : row ∈ db.advances) (listed : row.id ∈ [advance.id]) :
      row = advance :=
    eq_of_key_eq invariant.advanceIds isRow member (List.mem_singleton.mp listed)
  have was : ∀ row ∈ db.advances, row.id ∈ [advance.id] → backs payment row = false := by
    intro row isRow listed
    rw [only isRow listed]
    exact backs_eq_false_of_active active
  have becomes : ∀ row ∈ db.advances, row.id ∈ [advance.id] →
      backs payment (change row) = backs payment (change advance) := by
    intro row isRow listed
    rw [only isRow listed]
  rw [countP_update invariant.advanceIds (List.nodup_singleton _)
    (fun k listed => by rw [List.mem_singleton.mp listed]; exact List.mem_map_of_mem member) was
    becomes]
  simp

/-- Changing one active voucher keeps the invariant when it backs no payment afterwards. -/
theorem of_voucher (invariant : AdvanceInvariant db) {advance : PosAdvance}
    (member : advance ∈ db.advances) (active : advance.status = .active) {change : PosAdvance → PosAdvance}
    (advances : after.advances = update (·.id) [advance.id] change db.advances)
    (payments : after.payments = db.payments) (sales : after.sales = db.sales)
    (keeps : ∀ row, (change row).id = row.id ∧ (change row).issuedAmount = row.issuedAmount)
    (idle : ∀ payment ∈ db.payments, payment.method = .advance → backs payment (change advance) = false) :
    AdvanceInvariant after := by
  refine ⟨?_, ?_, ?_, by rw [payments]; exact invariant.single,
    by rw [payments, sales]; exact invariant.settled⟩
  · rw [advances, map_key_update fun row => (keeps row).1]
    exact invariant.advanceIds
  · rw [advances]
    intro row isAfter
    rcases mem_update_singleton invariant.advanceIds member isAfter with rfl | ⟨isBefore, _⟩
    · rw [(keeps advance).2]
      exact invariant.cents advance member
    · exact invariant.cents row isBefore
  · rw [advances, payments]
    intro payment isPayment method
    have counted := invariant.countP_backs_update member active change payment
    rw [idle payment isPayment method, invariant.backed payment isPayment method] at counted
    exact_mod_cast counted

theorem advanceStep (invariant : AdvanceInvariant db) {request : AdvanceRequest}
    (safe : AdvancesSafe db (.advance request)) (step : AdvanceStep db after request) :
    AdvanceInvariant after := by
  have payments : after.payments = db.payments := by rw [step.tables]
  have sales : after.sales = db.sales := by rw [step.tables]
  obtain ⟨vouchers, _, _⟩ := step
  cases vouchers with
  | issued advance id active unspent cents rows =>
    refine ⟨?_, ?_, ?_, by rw [payments]; exact invariant.single,
      by rw [payments, sales]; exact invariant.settled⟩
    · rw [rows, List.map_append, List.map_singleton, List.nodup_append]
      refine ⟨invariant.advanceIds, List.nodup_singleton _, fun used old new isNew => ?_⟩
      rw [List.mem_singleton.mp isNew, id]
      exact (lt_freshId (List.mem_append_left _ old)).ne
    · rw [rows]
      intro row member
      rcases List.mem_append.mp member with old | new
      · exact invariant.cents row old
      · rw [List.mem_singleton.mp new]
        exact cents
    · rw [rows, payments]
      intro payment isPayment method
      simp [backs_eq_false_of_active active, invariant.backed payment isPayment method]
  | retired advance member id active status terminal unspent rows =>
    exact invariant.of_voucher member active rows payments sales (fun _ => ⟨rfl, rfl⟩)
      fun payment _ _ => by simp [backs, unspent]
  | @consumed _ _ _ saleId advance member id active sold rows =>
    refine invariant.of_voucher member active rows payments sales (fun _ => ⟨rfl, rfl⟩)
      fun payment isPayment method => ?_
    cases saleId with
    | none => simp [backs]
    | some saleId =>
      refine Bool.eq_false_iff.mpr fun backing => ?_
      obtain ⟨_, _, same, amount⟩ := backs_eq_true.mp backing
      exact safe payment isPayment (Option.some.inj same).symm method advance member id amount
  | @swept context _ _ due rows =>
    have same (row : PosAdvance) :
        (if row ∈ due then expireAdvanceIfNeeded context.now row else row).id = row.id ∧
        (if row ∈ due then expireAdvanceIfNeeded context.now row else row).issuedAmount =
          row.issuedAmount ∧
        ∀ payment, backs payment (if row ∈ due then expireAdvanceIfNeeded context.now row else row) =
          backs payment row := by
      split
      · unfold expireAdvanceIfNeeded
        split
        · next expires => simp [backs, expires.1]
        · exact ⟨rfl, rfl, fun _ => rfl⟩
      · exact ⟨rfl, rfl, fun _ => rfl⟩
    refine ⟨?_, ?_, ?_, by rw [payments]; exact invariant.single,
      by rw [payments, sales]; exact invariant.settled⟩
    · have ids : after.advances.map (·.id) = db.advances.map (·.id) := by
        rw [rows, List.map_map]
        exact List.map_congr_left fun row _ => (same row).1
      rw [ids]
      exact invariant.advanceIds
    · rw [rows]
      intro row member
      obtain ⟨before, isBefore, rfl⟩ := List.mem_map.mp member
      rw [(same before).2.1]
      exact invariant.cents before isBefore
    · rw [rows, payments]
      intro payment isPayment method
      rw [List.countP_map]
      rw [List.countP_congr (q := backs payment) fun row _ => by
        simp only [Function.comp_apply, (same row).2.2 payment]]
      exact invariant.backed payment isPayment method

/-- The rows that a sale action writes: the payments of one sale, with the advances among them. -/
theorem countP_paymentRecords (saleId tenantId other : ℕ) (payments : List PosPaymentCreate) :
    (paymentRecords saleId tenantId payments).countP
    (fun payment => payment.method = .advance && payment.saleId = other) =
      if saleId = other then (payments.filter (·.method = .advance)).length else 0 := by
  rw [paymentRecords, List.countP_map]
  split
  · next same =>
    rw [← List.countP_eq_length_filter]
    exact List.countP_congr fun payment _ => by simp [same]
  · next apart => exact List.countP_eq_zero.mpr fun payment _ both => by simp [apart] at both

/-- A sale table whose rows stay out of draft once they are, and whose new rows no payment
mentions. -/
def KeepsSettled (db after : Db) : Prop :=
  ∀ payment ∈ db.payments, ∀ sale ∈ after.sales, sale.id = payment.saleId → sale.status ≠ .draft

private theorem keepsSettled_of_update (invariant : AdvanceInvariant db) {saleId : ℕ}
    {change : PosSale → PosSale} (sales : after.sales = update (·.id) [saleId] change db.sales)
    (identity : ∀ row, (change row).id = row.id)
    (status : ∀ row, (change row).status = .draft → row.status = .draft) :
    KeepsSettled db after := by
  intro payment isPayment sale isAfter same draft
  rw [sales] at isAfter
  obtain ⟨before, isBefore, rfl⟩ := mem_update.mp isAfter
  by_cases changed : before.id ∈ [saleId]
  · rw [if_pos changed] at same draft
    exact invariant.settled payment isPayment before isBefore ((identity before).symm.trans same)
      (status before draft)
  · rw [if_neg changed] at same draft
    exact invariant.settled payment isPayment before isBefore same draft

private theorem keepsSettled_of_new (invariant : AdvanceInvariant db) {sale : PosSale}
    (sales : after.sales = db.sales ++ [sale]) (fresh : sale.id = db.freshSaleId) :
    KeepsSettled db after := by
  intro payment isPayment other isAfter same
  rw [sales] at isAfter
  rcases List.mem_append.mp isAfter with old | new
  · exact invariant.settled payment isPayment other old same
  · rw [List.mem_singleton.mp new, fresh] at same
    exact absurd same (payment_saleId_lt_fresh isPayment).ne'

/-- Payments of a sale that has none yet keep the invariant, when their advances are backed. -/
theorem add_payments (invariant : AdvanceInvariant db) {saleId tenantId : ℕ}
    {payments : List PosPaymentCreate}
    (appended : after.payments = db.payments ++ paymentRecords saleId tenantId payments)
    (unpaid : ∀ payment ∈ db.payments, payment.saleId ≠ saleId)
    (one : (payments.filter (·.method = .advance)).length ≤ 1)
    (advanceIds : (after.advances.map (·.id)).Nodup)
    (cents : ∀ advance ∈ after.advances, Decimals.IsCents advance.issuedAmount)
    (kept : ∀ payment ∈ db.payments, payment.method = .advance →
      after.advances.countP (backs payment) = db.advances.countP (backs payment))
    (backed : ∀ payment ∈ paymentRecords saleId tenantId payments, payment.method = .advance →
      after.advances.countP (backs payment) = 1)
    (settled : KeepsSettled db after)
      (sold : ∀ sale ∈ after.sales, sale.id = saleId → sale.status ≠ .draft) :
    AdvanceInvariant after := by
  refine ⟨advanceIds, cents, ?_, fun other => ?_, ?_⟩
  · rw [appended]
    intro payment isAfter method
    rcases List.mem_append.mp isAfter with old | new
    · rw [kept payment old method]
      exact invariant.backed payment old method
    · exact backed payment new method
  · rw [appended, List.countP_append, countP_paymentRecords]
    split
    · next same =>
      have nothing : db.payments.countP (fun payment => payment.method = .advance &&
          payment.saleId = other) = 0 :=
        List.countP_eq_zero.mpr fun payment old both => by simp [← same, unpaid payment old] at both
      omega
    · exact invariant.single other
  · rw [appended]
    intro payment isAfter sale isSale same
    rcases List.mem_append.mp isAfter with old | new
    · exact settled payment old sale isSale same
    · obtain ⟨created, _, rfl⟩ := List.mem_map.mp new
      exact sold sale isSale same

/-- A checkout keeps the invariant: its voucher backs its advance payment and no other. -/
theorem checkedOut (invariant : AdvanceInvariant db) {context : RequestContext} {sale : PosSale}
    (member : sale ∈ db.sales) {payload : CheckoutSaleActionRequest} {totals : PaymentTotals}
    {advance : Option PosAdvance} {batch : SaleBatch}
    (safe : NotSpentOn db sale.id payload.payments)
    (step : CheckedOut db after context sale payload totals advance batch) :
    AdvanceInvariant after := by
  have appended : after.payments = db.payments ++ paymentRecords sale.id sale.tenantId
      payload.payments := by
    rw [step.tables]
  have settled : KeepsSettled db after :=
    invariant.keepsSettled_of_update (congrArg Db.sales step.tables) (by exact fun _ => rfl)
      (by exact fun _ => nofun)
  have unpaid : ∀ payment ∈ db.payments, payment.saleId ≠ sale.id := fun payment isPayment same =>
    invariant.settled payment isPayment sale member same.symm step.draft
  have sold : ∀ other ∈ after.sales, other.id = sale.id → other.status ≠ .draft := by
    rw [step.tables]
    intro other isAfter same
    obtain ⟨before, _, rfl⟩ := mem_update.mp isAfter
    split
    · nofun
    · next apart => rw [if_neg apart] at same; simp [same] at apart
  cases advance with
  | none =>
    have noAdvance := resolveAdvancePayment_none step.voucher
    have advances : after.advances = db.advances := by rw [step.tables]; rfl
    refine invariant.add_payments appended unpaid (by simp [noAdvance])
      (by rw [advances]; exact invariant.advanceIds)
      (by rw [advances]; exact invariant.cents) (fun _ _ _ => by rw [advances])
      (fun payment new method => ?_) settled sold
    obtain ⟨created, isCreated, rfl⟩ := List.mem_map.mp new
    have listed : created ∈ payload.payments.filter (·.method = .advance) :=
      List.mem_filter.mpr ⟨isCreated, decide_eq_true method⟩
    rw [noAdvance] at listed
    contradiction
  | some advance =>
    obtain ⟨created, only, isAdvance, tenant, active, amount⟩ :=
      resolveAdvancePayment_some step.voucher
    rw [Decimals.quantize_of_isCents (invariant.cents advance isAdvance)] at amount
    have advances : after.advances = update (·.id) [advance.id]
        (fun row => { row with status := .consumed, consumedSaleId := some sale.id })
        db.advances := by
      rw [step.tables]
      rfl
    refine invariant.add_payments appended unpaid (by simp [only]) ?_ ?_ ?_ ?_ settled sold
    · rw [advances, map_key_update (by exact fun _ => rfl)]
      exact invariant.advanceIds
    · rw [advances]
      intro row isAfter
      rcases mem_update_singleton invariant.advanceIds isAdvance isAfter with rfl | ⟨isBefore, _⟩
      · exact invariant.cents advance isAdvance
      · exact invariant.cents row isBefore
    · intro payment isPayment _
      have counted := invariant.countP_backs_update isAdvance active
        (fun row => { row with status := .consumed, consumedSaleId := some sale.id }) payment
      have foreign :
          backs payment { advance with status := .consumed, consumedSaleId := some sale.id } =
          false := by
        simp [backs, Ne.symm (unpaid payment isPayment)]
      rw [foreign] at counted
      rw [advances]
      exact_mod_cast counted
    · intro payment new method
      obtain ⟨other, isOther, rfl⟩ := List.mem_map.mp new
      have listed : other ∈ payload.payments.filter (·.method = .advance) :=
        List.mem_filter.mpr ⟨isOther, decide_eq_true method⟩
      rw [only, List.mem_singleton] at listed
      subst listed
      have counted := invariant.countP_backs_update isAdvance active
        (fun row => { row with status := .consumed, consumedSaleId := some sale.id })
        { saleId := sale.id, tenantId := sale.tenantId, method := other.method,
          amount := other.amount, authorizationCode := other.authorizationCode,
          bankName := other.bankName, voucherNumber := other.voucherNumber }
      have unspent : db.advances.countP (backs
          { saleId := sale.id, tenantId := sale.tenantId, method := other.method,
            amount := other.amount, authorizationCode := other.authorizationCode,
            bankName := other.bankName, voucherNumber := other.voucherNumber }) = 0 := by
        refine List.countP_eq_zero.mpr fun row isRow backing =>
          safe other isOther method row isRow ?_
        obtain ⟨_, consumed, spent, same⟩ := backs_eq_true.mp backing
        exact ⟨consumed, spent, same⟩
      rw [unspent, backs_eq_true.mpr ⟨tenant, rfl, rfl, amount.symm⟩] at counted
      rw [advances]
      exact_mod_cast counted

theorem saleStep (invariant : AdvanceInvariant db) {request : SaleRequest}
    (safe : AdvancesSafe db (.sale request)) (effect : SaleEffect db after request) :
    AdvanceInvariant after := by
  cases effect with
  | created sale lines step =>
    exact invariant.congr (by rw [step.tables]) (by rw [step.tables])
      (invariant.keepsSettled_of_new (by rw [step.tables]) step.id)
  | updated tenantId sale target lines step =>
    exact invariant.congr (by rw [step.tables]) (by rw [step.tables])
      (invariant.keepsSettled_of_update (congrArg Db.sales step.tables) (by exact fun _ => rfl)
      (by exact fun _ => id))
  | canceled sale target step =>
    exact invariant.congr (by rw [step.tables]) (by rw [step.tables])
      (invariant.keepsSettled_of_update (congrArg Db.sales step.tables) (by exact fun _ => rfl)
      (by exact fun _ => nofun))
  | refunded sale target items session step =>
    exact invariant.congr (by rw [step.tables]) (by rw [step.tables])
      (by rw [step.tables]; exact invariant.settled)
  | exchanged sale target items lines exchangeSale delta batch session step =>
    have advances : after.advances = db.advances := by rw [step.tables]
    have noAdvance : ∀ payload : List PosPaymentCreate,
        (∀ payment ∈ payload, payment.method ≠ .advance) →
        payload.filter (·.method = .advance) = [] := fun payload none =>
      List.filter_eq_nil_iff.mpr fun payment isPayment method => none payment isPayment
        (of_decide_eq_true method)
    refine invariant.add_payments (congrArg Db.payments step.tables) (fun payment isPayment => ?_)
      (by simp [noAdvance _ safe]) (by rw [advances]; exact invariant.advanceIds)
      (by rw [advances]; exact invariant.cents) (fun _ _ _ => by rw [advances])
      (fun payment new method => ?_) (invariant.keepsSettled_of_new (by rw [step.tables]) step.id)
      (fun other isAfter same => ?_)
    · rw [step.id]
      exact (payment_saleId_lt_fresh isPayment).ne
    · obtain ⟨created, isCreated, rfl⟩ := List.mem_map.mp new
      exact absurd method (safe created isCreated)
    · rw [step.tables] at isAfter
      rcases List.mem_append.mp isAfter with old | new
      · rw [step.id] at same
        exact absurd same (sale_id_lt_fresh old).ne
      · rw [List.mem_singleton.mp new, step.paid]
        nofun
  | checkedOut sale target totals advance batch step =>
    obtain ⟨member, rfl⟩ := target
    exact invariant.checkedOut member safe step

/-- A committed request that keeps payments backed keeps the invariant. -/
theorem step (invariant : AdvanceInvariant db) {request : SystemRequest}
    (safe : AdvancesSafe db request) (success : systemStep db request = .ok after) :
    AdvanceInvariant after := by
  cases request with
  | sale request => exact invariant.saleStep safe (saleStep_ok success)
  | advance request => exact invariant.advanceStep safe (advanceStep_ok success)
  | returns request =>
    have tables := (returnStep_ok success).tables
    exact invariant.congr (by rw [tables]) (by rw [tables])
      (by rw [tables]; exact invariant.settled)
  | cash request =>
    have tables := (cashStep_ok success).tables
    exact invariant.congr (by rw [tables]) (by rw [tables])
      (by rw [tables]; exact invariant.settled)
  | transfer request =>
    have tables := (transferStep_ok success).tables
    exact invariant.congr (by rw [tables]) (by rw [tables])
      (by rw [tables]; exact invariant.settled)

end AdvanceInvariant

/-- From a state without vouchers and payments, every run of safe requests leaves every advance
payment backed by exactly one consumed voucher, and every voucher behind at most one payment. -/
theorem advance_payments_backed (start db : Db) (noAdvances : start.advances = [])
    (noPayments : start.payments = []) (reached : Reachable systemStep AdvancesSafe start db) :
    PaymentsBacked db := by
  have initial : AdvanceInvariant start :=
    ⟨by simp [noAdvances], by simp [noAdvances], by simp [noPayments], by simp [noPayments],
      by simp [noPayments]⟩
  exact (reached.invariant initial fun _ _ _ invariant safe success =>
    invariant.step safe success).paymentsBacked

namespace Sample

def issueVoucher : SystemRequest :=
  .advance (.create cashier { storeId := some 10, amount := 20, paymentMethod := .card })

def byVoucher (amount : ℚ) : PosPaymentCreate := { method := .advance, amount, advanceId := some 1 }

/-- A voucher pays for a tagged jacket. -/
def voucherSale : List SystemRequest :=
  [issueVoucher, draft [{ lineType := .epc, epc := some "E1" }],
    onSale 1 (.checkout { payments := [byVoucher 20] })]

private theorem voucherSale_commits : (runAllowed systemStep AdvancesSafe shop voucherSale).isSome =
    true := by decide +kernel

def paidByVoucher : Db :=
  (runAllowed systemStep AdvancesSafe shop voucherSale).get voucherSale_commits

end Sample

theorem advance_payments_backed_after_sale :
    (∃ payment ∈ Sample.paidByVoucher.payments, payment.method = .advance) ∧
    PaymentsBacked Sample.paidByVoucher :=
  ⟨by decide +kernel, advance_payments_backed Sample.shop Sample.paidByVoucher rfl rfl
    (reachable_of_runAllowed (Option.some_get _).symm)⟩

namespace Sample

/-- A jacket is exchanged for a dearer one, and the difference is paid by an advance nobody
issued. -/
def unbackedExchange : List SystemRequest :=
  [openDrawer, draft [{ lineType := .sku, sku := some "JACKET" }],
    onSale 1 (.checkout { payments := [inCash 10] }),
    onSale 1 (.exchangeItems { returnItems := [{ lineId := 1 }],
                               exchangeLines := [{ lineType := .epc, epc := some "E1" }]
                               payments := [byVoucher 10] })]

private theorem unbackedExchange_commits :
    (runAllowed systemStep (fun _ _ => True) shop unbackedExchange).isSome = true := by
  decide +kernel

def unbacked : Db :=
  (runAllowed systemStep (fun _ _ => True) shop unbackedExchange).get unbackedExchange_commits

end Sample

/-- An exchange records an advance payment that no voucher backs. -/
theorem exchange_payment_unbacked : ¬ ∀ start db : Db, start.advances = [] → start.payments = [] →
    Reachable systemStep (fun _ _ => True) start db → PaymentsBacked db := by
  intro backed
  have reached : Reachable systemStep (fun _ _ => True) Sample.shop Sample.unbacked :=
    reachable_of_runAllowed (Option.some_get _).symm
  have unbacked : ¬ ∀ payment ∈ Sample.unbacked.payments, payment.method = .advance →
      Sample.unbacked.advances.countP (backs payment) = 1 := by decide +kernel
  exact unbacked (backed Sample.shop Sample.unbacked rfl rfl reached).backed

end ArisCloud

import ArisCloud.Model.CashTransactions
import ArisCloud.Proofs.CashSteps

/-! # What interleaved cash requests find and commit

The sessions that a request finds are those it locks, when it locks any, and what it commits is one
of the changes that the whole requests make. A request that nothing interleaves with commits what
its sequential counterpart does.
-/

namespace ArisCloud

open KeyedRows Transactions

/-! ## Writes -/

/-- The session still has the balance that was read. -/
def BalanceKept (db : Db) (session : PosCashSession) : Prop :=
  ∃ row ∈ db.cashSessions, row.id = session.id ∧ row.expectedCash = session.expectedCash

instance (db : Db) (session : PosCashSession) : Decidable (BalanceKept db session) :=
  inferInstanceAs (Decidable (∃ row ∈ db.cashSessions, _))

@[simp] theorem CashFlow.balance_eq (flow : CashFlow) (before amount : ℚ) :
    flow.balance before amount = before + flow.action.sign * amount := by
  cases flow <;> simp [CashFlow.balance, CashFlow.action, CashAction.sign] <;> ring

private theorem CashFlow.sign_ne_zero (flow : CashFlow) : flow.action.sign ≠ 0 := by
  cases flow <;> simp [CashFlow.action, CashAction.sign]

/-- What a commit relies on: an opening amount that is positive, a balance that is still the one
that was read. -/
def CashWrite.Sound (db : Db) : CashWrite → Prop
  | .opening _ openingAmount _ => 0 < openingAmount
  | .movement _ session _ flow amount =>
    BalanceKept db session ∧
      (0 ≤ session.expectedCash → 0 ≤ flow.balance session.expectedCash amount)
  | .close .. | .dayClose .. => True

variable {db after : Db} {write : CashWrite} {session : PosCashSession} {scope : CashScope}
    {use : SessionUse}

/-- A commit that can rely on what it read makes one of the changes that keep sessions balanced. -/
theorem CashWrite.change (sound : write.Sound db) (written : write.apply db = some after) :
    CashChange db.cash after.cash := by
  cases write with
  | opening scope openingAmount businessDate =>
    obtain rfl := Option.some.inj written
    exact .opened _ _ (fun _ member => (freshCashSessionId_unused member).ne)
      (fun _ member => freshCashSessionId_unmentioned member) rfl rfl rfl rfl rfl (by exact sound)
      rfl
  | movement scope read saleId flow amount =>
    obtain rfl := Option.some.inj written
    obtain ⟨⟨row, member, same, kept⟩, covered⟩ := sound
    refine .moved row
      (sessionMovement read scope.tenantId scope.storeId saleId flow.action amount read.expectedCash
      (flow.balance read.expectedCash amount) scope.context.now) _ member ?_ flow.sign_ne_zero ?_
      rfl ?_ ?_ ?_
    · rw [same]
      rfl
    · rw [kept]
      rfl
    · rw [kept]
      exact flow.balance_eq ..
    · rw [kept]
      exact covered
    · rw [same]
      rfl
  | close scope read countedCash =>
    obtain rfl := Option.some.inj written
    refine .noted _ _ (fun other => ?_) (by exact fun sessionId => Bool.and_false _) rfl
    split <;> exact ⟨rfl, rfl, rfl⟩
  | dayClose scope payload openIds rollup =>
    rw [apply] at written
    split_ifs at written
    obtain rfl := Option.some.inj written
    refine .noted _ _ (fun other => ?_) (by exact fun sessionId => rfl) rfl
    split <;> exact ⟨rfl, rfl, rfl⟩

/-- A commit leaves the sessions that it does not lock as they are. -/
theorem CashWrite.mem_apply (written : write.apply db = some after)
    (member : session ∈ db.cashSessions) (unlocked : session.id ∉ write.rows) :
    session ∈ after.cashSessions := by
  have untouched {keys : List ℕ} (change : PosCashSession → PosCashSession)
      (apart : session.id ∉ keys) :
      session ∈ update (·.id) keys change db.cashSessions :=
    mem_update.mpr ⟨session, member, if_neg apart⟩
  cases write with
  | opening scope openingAmount businessDate =>
    obtain rfl := Option.some.inj written
    exact List.mem_append_left _ member
  | movement | close =>
    obtain rfl := Option.some.inj written
    exact untouched _ unlocked
  | dayClose scope payload openIds rollup =>
    rw [apply] at written
    split_ifs at written
    obtain rfl := Option.some.inj written
    exact untouched _ unlocked

/-- The voucher that goes with a commit leaves the cash alone. -/
theorem CashWrite.applyWith_eq {voucher : Option VoucherWrite}
    (written : write.applyWith voucher db = some after) :
    ∃ cash, write.apply db = some cash ∧ after.ledger = cash.ledger := by
  obtain ⟨cash, applied, rfl⟩ := Option.map_eq_some_iff.mp written
  refine ⟨cash, applied, ?_⟩
  cases voucher with
  | none => rfl
  | some voucher => cases voucher <;> rfl

/-- A commit leaves the sessions whose locks it does not need as they are. -/
theorem CashWrite.mem_applyWith {voucher : Option VoucherWrite}
    (written : write.applyWith voucher db = some after) (member : session ∈ db.cashSessions)
    (unlocked : .session session.id ∉ write.rows.map CashLock.session) :
    session ∈ after.cashSessions := by
  obtain ⟨cash, applied, same⟩ := applyWith_eq written
  rw [show after.cashSessions = cash.cashSessions from congrArg CashLedger.sessions same]
  exact mem_apply applied member fun listed => unlocked (List.mem_map_of_mem listed)

/-! ## Lookups and checks -/

theorem SessionUse.lookup_selected (found : use.lookup db scope = some session) :
    session ∈ db.cashSessions.filter (use.selects db scope) := by
  unfold lookup at found
  split at found
  · exact List.mem_of_head? found
  · exact List.mem_of_head? found
  · exact List.mem_of_head? found
  · exact List.mem_of_head? found
  all_goals exact mem_of_head?_insertionSort found

/-- A lookup that locks has locked the session that it returns. -/
theorem SessionUse.lookup_locked (found : use.lookup db scope = some session)
    (locks : use.forUpdate = true) :
    .session session.id ∈ use.lockedRows db scope := by
  rw [lockedRows, if_pos locks]
  exact List.mem_map_of_mem (lookup_selected found)

private theorem planMovement_ok {saleId : ℕ} {flow : CashFlow} {amount : ℚ}
    (success : planMovement db scope session saleId flow amount = .ok write) :
    write = .movement scope session (some saleId) flow amount ∧ 0 < amount ∧
      0 ≤ flow.balance session.expectedCash amount := by
  simp only [planMovement, ensureNonNegativeBalance, Checked.bind_eq_ok, Checked.ensure_eq_ok,
    exists_const, Checked.pure_eq_ok] at success
  obtain ⟨positive, _, covered, rfl⟩ := success
  exact ⟨rfl, positive, covered⟩

/-- What a request is about to write once its checks pass. -/
theorem SessionUse.plan_ok (success : use.plan db scope session = .ok write) :
    (∃ countedCash, write = .close scope session countedCash) ∨
      ∃ saleId flow amount, write = .movement scope session saleId flow amount ∧ 0 < amount ∧
        (0 ≤ session.expectedCash → 0 ≤ flow.balance session.expectedCash amount) := by
  cases use with
  | close countedCash =>
    simp only [plan, Checked.bind_eq_ok, Checked.pure_eq_ok] at success
    obtain ⟨_, _, rfl⟩ := success
    exact .inl ⟨countedCash, rfl⟩
  | cashIn amount =>
    simp only [plan, ensurePositiveAmount_some, Checked.bind_eq_ok, Checked.pure_eq_ok] at success
    obtain ⟨_, _, _, ⟨positive, rfl⟩, rfl⟩ := success
    exact .inr ⟨none, .cashIn, amount, rfl, positive, fun nonneg => add_nonneg nonneg positive.le⟩
  | cashOut amount =>
    simp only [plan, ensurePositiveAmount_some, ensureNonNegativeBalance, Checked.bind_eq_ok,
      Checked.ensure_eq_ok, exists_const, Checked.pure_eq_ok] at success
    obtain ⟨_, _, _, ⟨positive, rfl⟩, covered, rfl⟩ := success
    exact .inr ⟨none, .cashOut, amount, rfl, positive, fun _ => covered⟩
  | createCut cashSessionId depositRemoved removes =>
    simp only [plan, ensureNonNegativeBalance, Checked.bind_eq_ok, Checked.ensure_eq_ok,
      exists_const, Checked.pure_eq_ok] at success
    obtain ⟨_, _, covered, rfl⟩ := success
    exact .inr ⟨none, .cashOut, depositRemoved, rfl, removes, fun _ => covered⟩
  | cutAction cashSessionId amount =>
    simp only [plan, ensurePositiveAmount_some, ensureNonNegativeBalance, Checked.bind_eq_ok,
      Checked.ensure_eq_ok, exists_const, Checked.pure_eq_ok] at success
    obtain ⟨_, ⟨positive, rfl⟩, _, covered, rfl⟩ := success
    exact .inr ⟨none, .cashOut, amount, rfl, positive, fun _ => covered⟩
  | salePayment | saleRefund | voucherIssuance | voucherRefund =>
    obtain ⟨same, positive, covered⟩ := planMovement_ok success
    exact .inr ⟨_, _, _, same, positive, fun _ => covered⟩

private theorem checkOpening_ok {openingAmount amount : ℚ} {businessDate : ℕ} {timezone : String} :
    checkOpening db scope openingAmount businessDate timezone = .ok amount ↔
    (0 < openingAmount ∧ openingAmount = amount) ∧
      timezone ≠ "" ∧ ¬ isDayClosed db scope.tenantId scope.storeId businessDate := by
  simp only [checkOpening, ensureNotClosed, ensurePositiveAmount_some, Checked.bind_eq_ok,
    Checked.ensure_eq_ok, exists_const, Checked.pure_eq_ok]
  constructor
  · rintro ⟨amount, valid, zone, opened, rfl⟩
    exact ⟨valid, zone, opened⟩
  · rintro ⟨valid, zone, opened⟩
    exact ⟨amount, valid, zone, opened, rfl⟩

/-! ## Statements -/

/-- What a statement may lead to: the rows it locks and the next phase. -/
inductive CashRead (db : Db) : CashPhase → List CashLock → CashPhase → Prop
  | dateOpen (scope : CashScope) (openingAmount : ℚ) (businessDate : ℕ) (timezone : String)
      (positive : 0 < openingAmount) :
      CashRead db (.arrived scope (.opening openingAmount businessDate timezone)) []
      (.dateOpen scope openingAmount businessDate)
  | opening (scope : CashScope) (openingAmount : ℚ) (businessDate : ℕ) (locks : List CashLock) :
      CashRead db (.dateOpen scope openingAmount businessDate) locks
        (.writing false (.opening scope openingAmount businessDate) none)
  | numbered (scope : CashScope) (advanceId : ℕ) (voucherType : VoucherType) (amount : ℚ) :
      CashRead db (.arrived scope (.issueAdvance advanceId voucherType amount)) []
        (.numbered scope (numberedAdvance db scope advanceId voucherType amount) amount)
  | ready (phase : CashPhase) (locks : List CashLock) (scope : CashScope) (use : SessionUse) :
      CashRead db phase locks (.ready scope use)
  | found (phase : CashPhase) (scope : CashScope) (use : SessionUse) (session : PosCashSession)
      (found : use.lookup db scope = some session) :
      CashRead db phase (use.lockedRows db scope) (.found scope session use.forUpdate use)
  | unmatched (phase : CashPhase) (locks : List CashLock) (scope : CashScope) (use : SessionUse) :
      CashRead db phase locks (.unmatched scope use)
  | fallback (scope : CashScope) (use : SessionUse) (session : PosCashSession) :
      CashRead db (.unmatched scope use) [] (.found scope session false use)
  | planned (scope : CashScope) (session : PosCashSession) (locked : Bool) (use : SessionUse)
      (write : CashWrite) (planned : use.plan db scope session = .ok write) :
      CashRead db (.found scope session locked use) []
      (.writing locked write (use.voucher scope.context.now))
  | undecided (scope : CashScope) (payload : PosCashDayCloseActionRequest) :
      CashRead db (.arrived scope (.closeDay payload)) [] (.undecided scope payload)
  | counting (scope : CashScope) (payload : PosCashDayCloseActionRequest) :
      CashRead db (.undecided scope payload)
      ((openSessionsOf db scope payload.businessDate).map (.session ·.id))
        (.counting scope payload ((openSessionsOf db scope payload.businessDate).map (·.id)))
  | counted (scope : CashScope) (payload : PosCashDayCloseActionRequest) (openIds : List ℕ) :
      CashRead db (.counting scope payload openIds) []
      (.writing true (.dayClose scope payload openIds
        (reconciliationRollup db scope.tenantId scope.storeId payload.businessDate)) none)
  | failed (phase : CashPhase) (locks : List CashLock) (error : AppError) :
      CashRead db phase locks (.failed error)

theorem CashRead.ofChecked {α : Type} {phase : CashPhase} {locks : List CashLock}
    {result : Except AppError α} {next : α → CashPhase}
    (read : ∀ value, result = .ok value → CashRead db phase locks (next value)) :
    CashRead db phase locks (.ofChecked result next) := by
  cases result with
  | ok value => exact read value rfl
  | error error => exact .failed ..

private theorem lookupSession_read {phase : CashPhase} {locks : Db → List CashLock}
    {next : Db → CashPhase} (reads : lookupSession scope use = .read locks next) (db : Db) :
    CashRead db phase (locks db) (next db) := by
  cases reads
  cases found : use.lookup db scope with
  | none =>
    simp only [found]
    split
    · exact .unmatched ..
    · exact .failed ..
  | some session =>
    simp only [found]
    exact .found phase scope use session found

theorem cashCode_read {phase : CashPhase} {locks : Db → List CashLock} {next : Db → CashPhase}
    (reads : cashCode phase = .read locks next) (db : Db) : CashRead db phase (locks db)
    (next db) := by
  cases phase with
  | arrived scope transaction =>
    cases transaction with
    | opening openingAmount businessDate timezone =>
      cases reads
      apply CashRead.ofChecked
      rintro amount checked
      obtain ⟨⟨positive, rfl⟩, _⟩ := checkOpening_ok.mp checked
      exact .dateOpen scope openingAmount businessDate timezone positive
    | use use apart => exact lookupSession_read reads db
    | issueAdvance advanceId voucherType amount =>
      cases reads
      exact .ofChecked fun _ _ => .numbered ..
    | refundAdvance advanceId =>
      cases reads
      exact .ofChecked fun _ _ => .ready ..
    | closeDay payload =>
      cases reads
      exact .ofChecked fun _ _ => .undecided ..
  | dateOpen scope openingAmount businessDate =>
    cases reads
    exact .ofChecked fun _ _ => .opening ..
  | numbered scope advance amount =>
    cases reads
    exact .ofChecked fun _ _ => .ready ..
  | ready scope use => exact lookupSession_read reads db
  | unmatched scope use =>
    cases reads
    cases found : onlyOpenSession db scope with
    | none =>
      simp only [found]
      exact .failed ..
    | some session =>
      simp only [found]
      exact .fallback ..
  | found scope session locked use =>
    cases reads
    exact .ofChecked fun write planned => .planned scope session locked use write planned
  | undecided scope payload =>
    cases reads
    exact .ofChecked fun _ _ => .counting ..
  | counting scope payload openIds =>
    cases reads
    exact .counted ..
  | writing | committed | failed | lost => cases reads

theorem cashCode_commit {phase next refused : CashPhase} {locks : Db → List CashLock}
    {write : Db → Option Db} (commits : cashCode phase = .commit locks write next refused) :
    ∃ locked planned voucher, phase = .writing locked planned voucher ∧
    (locks = fun _ => planned.rows.map .session) ∧
      write = planned.applyWith voucher ∧ next = .committed ∧ ∃ error, refused = .failed error := by
  cases phase with
  | arrived scope transaction => cases transaction <;> cases commits
  | writing locked planned voucher =>
    cases commits
    exact ⟨locked, planned, voucher, rfl, rfl, rfl, rfl, _, rfl⟩
  | _ => cases commits

theorem cashCode_stop {phase : CashPhase} (stops : cashCode phase = .stop) :
    phase = .committed ∨ (∃ error, phase = .failed error) ∨ phase = .lost := by
  cases phase with
  | committed => exact .inl rfl
  | failed error => exact .inr (.inl ⟨error, rfl⟩)
  | lost => exact .inr (.inr rfl)
  | arrived scope transaction => cases transaction <;> cases stops
  | _ => cases stops

/-! ## Requests that run alone -/

/-- The transaction of a session action. -/
def CashSessionAction.transaction : CashSessionAction → CashTransaction
  | .opening openingAmount businessDate timezone => .opening openingAmount businessDate timezone
  | .cashIn amount => .use (.cashIn amount) rfl
  | .cashOut amount => .use (.cashOut amount) rfl
  | .close countedCash => .use (.close countedCash) rfl

/-- A request that has found its session checks it and commits. -/
theorem alone_of_plan {locked : Bool} (planned : use.plan db scope session = .ok write)
    (written : write.applyWith (use.voucher scope.context.now) db = some after) :
    Alone cashCode db (.found scope session locked use) after .committed := by
  apply Alone.read rfl
  simp only [planned]
  exact .commit rfl written (.refl ..)

private theorem alone_of_lookup {phase : CashPhase}
    (looks : cashCode phase = lookupSession scope use) (found : use.lookup db scope = some session)
    (planned : use.plan db scope session = .ok write)
    (written : write.applyWith (use.voucher scope.context.now) db = some after) :
    Alone cashCode db phase after .committed := by
  apply Alone.read looks
  simp only [found]
  exact alone_of_plan planned written

private theorem SessionUse.voucher_eq_none (apart : use.isVoucher = false) (now : ℕ) :
    use.voucher now = none := by
  cases use <;> first | rfl | contradiction

/-- A commit without a voucher. -/
theorem CashWrite.applyWith_of_apart (apart : use.isVoucher = false) (now : ℕ)
    (written : write.apply db = some after) :
    write.applyWith (use.voucher now) db = some after := by
  rw [SessionUse.voucher_eq_none apart, applyWith, written]
  rfl

/-- A session action that nothing interleaves with commits what the whole request does. -/
theorem cashSessionAction_alone {context : RequestContext} {payload : PosCashSessionActionRequest}
    (success : cashSessionAction db context payload = .ok after) : ∃ tenantId storeId,
      Alone cashCode db (.arrived ⟨context, tenantId, storeId⟩ payload.action.transaction) after
      .committed := by
  simp only [cashSessionAction, Checked.bind_eq_ok] at success
  obtain ⟨_, _, _, _, tenantId, _, _, _, storeId, _, _, _, success⟩ := success
  refine ⟨tenantId, storeId, ?_⟩
  cases action : payload.action with
  | opening openingAmount businessDate timezone =>
    simp only [action, openCashSession, ensureNotClosed, ensurePositiveAmount_some,
      Checked.bind_eq_ok, Checked.ensure_eq_ok, exists_const, Checked.pure_eq_ok] at success
    obtain ⟨_, valid, zone, opened, free, rfl⟩ := success
    have checked : checkOpening db ⟨context, tenantId, storeId⟩ openingAmount businessDate
        timezone = .ok _ :=
      checkOpening_ok.mpr ⟨valid, zone, opened⟩
    apply Alone.read rfl
    simp only [checked, CashPhase.ofChecked]
    apply Alone.read rfl
    simp only [Checked.ensure, free, if_true]
    exact .commit rfl rfl (.refl ..)
  | cashIn amount =>
    simp only [action, ensurePositiveAmount_some, Checked.bind_eq_ok, Checked.fetch_eq_ok,
      Checked.pure_eq_ok] at success
    obtain ⟨_, ⟨session, found, _, opened, rfl⟩, _, ⟨positive, rfl⟩, rfl⟩ := success
    have planned : (SessionUse.cashIn amount).plan db ⟨context, tenantId, storeId⟩ session =
        .ok (.movement ⟨context, tenantId, storeId⟩ session none .cashIn amount) := by
      simp only [SessionUse.plan, ensurePositiveAmount_some, Checked.bind_eq_ok, Checked.pure_eq_ok]
      exact ⟨_, opened, amount, ⟨positive, rfl⟩, rfl⟩
    exact alone_of_lookup rfl found planned rfl
  | cashOut amount =>
    simp only [action, ensurePositiveAmount_some, Checked.bind_eq_ok, Checked.fetch_eq_ok,
      Checked.pure_eq_ok] at success
    obtain ⟨_, ⟨session, found, _, opened, rfl⟩, _, ⟨positive, rfl⟩, _, covered, rfl⟩ := success
    have planned : (SessionUse.cashOut amount).plan db ⟨context, tenantId, storeId⟩ session =
        .ok (.movement ⟨context, tenantId, storeId⟩ session none .cashOut amount) := by
      simp only [SessionUse.plan, ensurePositiveAmount_some, Checked.bind_eq_ok, Checked.pure_eq_ok]
      exact ⟨_, opened, amount, ⟨positive, rfl⟩, _, covered, rfl⟩
    exact alone_of_lookup rfl found planned rfl
  | close countedCash =>
    simp only [action, Checked.bind_eq_ok, Checked.fetch_eq_ok, Checked.pure_eq_ok] at success
    obtain ⟨_, ⟨session, found, _, opened, rfl⟩, rfl⟩ := success
    have planned : (SessionUse.close countedCash).plan db ⟨context, tenantId, storeId⟩ session =
        .ok (.close ⟨context, tenantId, storeId⟩ session countedCash) := by
      simp only [SessionUse.plan, Checked.bind_eq_ok, Checked.pure_eq_ok]
      exact ⟨_, opened, trivial⟩
    exact alone_of_lookup rfl found planned rfl

/-- The movement that sales and vouchers record, once their session is found. -/
theorem recordCashMovement_planned {saleId : ℕ} {flow : CashFlow} {amount : ℚ}
    (success : recordCashMovement db session scope.tenantId scope.storeId saleId flow.action amount
      scope.context.now =
      .ok after) :
    ∃ write, planMovement db scope session saleId flow amount = .ok write ∧
        write.apply db = some after := by
  simp only [recordCashMovement, Checked.bind_eq_ok, Checked.ensure_eq_ok, exists_const,
    Checked.pure_eq_ok] at success
  obtain ⟨positive, opened, _, covered, rfl⟩ := success
  have same : (if flow.action = .sale ∨ flow.action = .cashIn then session.expectedCash + amount
      else session.expectedCash - amount) = flow.balance session.expectedCash amount := by
    cases flow <;> simp [CashFlow.action, CashFlow.balance]
  rw [same] at covered
  refine ⟨.movement scope session (some saleId) flow amount, ?_, ?_⟩
  · simp only [planMovement, Checked.bind_eq_ok, Checked.ensure_eq_ok, exists_const,
      Checked.pure_eq_ok, and_true]
    exact ⟨positive, opened, _, covered⟩
  · rw [same]
    rfl

/-- The own open session of the cashier comes first. -/
theorem requireOpenCashSession_lookup (falls : use.fallsBack = true)
    (opened : requireOpenCashSession db scope.tenantId scope.storeId scope.context.userId =
      .ok session) :
    use.lookup db scope = some session ∨
    (use.lookup db scope = none ∧ onlyOpenSession db scope = some session) := by
  have own : use.lookup db scope = (db.cashSessions.filter fun session =>
      session.tenantId = scope.tenantId && session.storeId = scope.storeId &&
      session.status = .opened).find? (·.cashierUserId = scope.context.userId) := by
    have first : use.lookup db scope = (db.cashSessions.filter (isOwnOpen scope)).head? := by
      cases use <;> first | rfl | contradiction
    rw [first, List.head?_filter, List.find?_filter]
    congr 1
    funext row
    simp only [isOwnOpen, Bool.decide_and, Bool.decide_eq_true, Bool.and_assoc]
    rw [Bool.and_comm (decide (row.cashierUserId = _))]
  simp only [requireOpenCashSession, Checked.fetch_eq_ok, Option.or_eq_some_iff] at opened
  rcases opened with first | ⟨missing, only⟩
  · exact .inl (own.trans first)
  · exact .inr ⟨own.trans missing, only⟩

/-- The cash of a checkout, a refund or an exchange that nothing interleaves with. -/
theorem sale_alone {saleId : ℕ} {flow : CashFlow} {amount : ℚ} (apart : use.isVoucher = false)
    (falls : use.fallsBack = true)
    (plans : use.plan db scope session = planMovement db scope session saleId flow amount)
    (opened : requireOpenCashSession db scope.tenantId scope.storeId scope.context.userId =
      .ok session)
    (success : recordCashMovement db session scope.tenantId scope.storeId saleId flow.action amount
      scope.context.now =
      .ok after) : Alone cashCode db (.arrived scope (.use use apart)) after .committed := by
  obtain ⟨write, planned, written⟩ := recordCashMovement_planned success
  have settled := CashWrite.applyWith_of_apart apart scope.context.now written
  rw [← plans] at planned
  rcases requireOpenCashSession_lookup falls opened with found | ⟨missing, only⟩
  · exact alone_of_lookup rfl found planned settled
  · apply Alone.read rfl
    simp only [missing, falls, if_true]
    apply Alone.read rfl
    simp only [only]
    exact alone_of_plan planned settled

/-- The number that an issuance takes is free when nothing interleaves with it. -/
theorem not_isNumberTaken (scope : CashScope) (advanceId : ℕ) (voucherType : VoucherType)
    (amount : ℚ) :
    ¬ isNumberTaken db (numberedAdvance db scope advanceId voucherType amount) := by
  rintro ⟨row, member, tenant, store, number⟩
  have listed :
      row.advanceNumber ∈ (db.advances.filter fun advance => advance.tenantId = scope.tenantId &&
      advance.storeId = scope.storeId).map (·.advanceNumber) := by
    refine List.mem_map_of_mem (List.mem_filter.mpr ⟨member, ?_⟩)
    rw [Bool.and_eq_true]
    exact ⟨decide_eq_true tenant, decide_eq_true store⟩
  exact absurd number (lt_freshId listed).ne

/-- The movement of a voucher, which is written over the tables that have the voucher. -/
theorem voucher_planned {voucher : VoucherWrite} {saleId : ℕ} {flow : CashFlow} {amount : ℚ}
    (success : recordCashMovement (voucher.apply db) session scope.tenantId scope.storeId saleId
      flow.action amount
      scope.context.now = .ok after) :
    ∃ write, planMovement db scope session saleId flow amount = .ok write ∧
      write.applyWith (some voucher) db = some after := by
  obtain ⟨write, planned, written⟩ := recordCashMovement_planned success
  obtain ⟨rfl, _⟩ := planMovement_ok planned
  cases voucher <;> exact ⟨_, planned, written⟩

/-- A voucher that is issued in cash, and that nothing interleaves with. -/
theorem createAdvance_alone {context : RequestContext} {payload : PosAdvanceCreateRequest}
    (cash : payload.paymentMethod = .cash)
    (success : createAdvance db context payload = .ok after) :
    ∃ tenantId storeId, Alone cashCode db (.arrived ⟨context, tenantId, storeId⟩
      (.issueAdvance db.freshAdvanceId payload.voucherType payload.amount)) after .committed := by
  simp only [createAdvance, Checked.bind_eq_ok, Checked.ensure_eq_ok, exists_const, cash, if_true,
    Checked.fetch_eq_ok] at success
  obtain ⟨tenantId, _, storeId, _, _, _, _, _, positive, session, found, success⟩ := success
  let scope : CashScope := ⟨context, tenantId, storeId⟩
  let advance := numberedAdvance db scope db.freshAdvanceId payload.voucherType payload.amount
  have issued : recordCashMovement ((VoucherWrite.issued advance context.now).apply db) session
      scope.tenantId scope.storeId advance.id CashFlow.cashIn.action payload.amount
      scope.context.now = .ok after := success
  obtain ⟨write, planned, written⟩ := voucher_planned issued
  have free : ¬ isNumberTaken db
      (numberedAdvance db ⟨context, tenantId, storeId⟩ db.freshAdvanceId payload.voucherType
      payload.amount) := not_isNumberTaken _ _ _ _
  have looked : (SessionUse.voucherIssuance advance payload.amount).lookup db scope =
    some session := found
  refine ⟨tenantId, storeId, ?_⟩
  apply Alone.read rfl
  simp only [Checked.ensure, positive, if_true, CashPhase.ofChecked]
  apply Alone.read rfl
  simp only [Checked.ensure, free, not_false_iff, if_true, CashPhase.ofChecked]
  exact alone_of_lookup rfl looked planned written

/-- A voucher that is refunded in cash, and that nothing interleaves with. -/
theorem refundAdvance_alone {context : RequestContext} {tenantId storeId advanceId : ℕ}
    (success : mutateAdvance db context advanceId (.refund (some .cash)) = .ok after) :
    Alone cashCode db (.arrived ⟨context, tenantId, storeId⟩ (.refundAdvance advanceId)) after
    .committed := by
  simp only [mutateAdvance, refundAdvance, Checked.bind_eq_ok, Checked.fetch_eq_ok] at success
  obtain ⟨advance, listed, _, inTenant, _, inStore, _, active, _, same, success⟩ := success
  obtain rfl := Option.some.inj same
  simp only [if_true, Checked.bind_eq_ok, Checked.fetch_eq_ok] at success
  obtain ⟨session, found, success⟩ := success
  let scope : CashScope := ⟨context, advance.tenantId, advance.storeId⟩
  have checked : checkRefund db ⟨context, tenantId, storeId⟩ advanceId = .ok (scope, advance) := by
    simp only [checkRefund, checkMutation, Checked.bind_eq_ok, Checked.fetch_eq_ok,
      Checked.pure_eq_ok]
    exact ⟨advance, listed, _, ⟨_, inTenant, _, inStore, _, active, _, rfl, rfl⟩, rfl⟩
  have refunded : recordCashMovement ((VoucherWrite.refunded advance context.now).apply db) session
      scope.tenantId scope.storeId advance.id CashFlow.cashOut.action advance.issuedAmount
      scope.context.now = .ok after := success
  obtain ⟨write, planned, written⟩ := voucher_planned refunded
  have looked : (SessionUse.voucherRefund advance).lookup db scope = some session := found
  apply Alone.read rfl
  simp only [checked, CashPhase.ofChecked]
  exact alone_of_lookup rfl looked planned written

/-- A day close that nothing interleaves with. -/
theorem closeDay_alone {context : RequestContext} {payload : PosCashDayCloseActionRequest}
    (success : closeDay db context payload = .ok after) : ∃ tenantId storeId,
      Alone cashCode db (.arrived ⟨context, tenantId, storeId⟩ (.closeDay payload)) after
      .committed := by
  simp only [closeDay, Checked.bind_eq_ok, Checked.ensure_eq_ok, exists_const,
    Checked.pure_eq_ok] at success
  obtain ⟨_, _, _, _, tenantId, _, _, _, storeId, _, _, _, opened, forced, manager, reason, rfl⟩ :=
    success
  refine ⟨tenantId, storeId, ?_⟩
  have checked : checkForceClose ⟨context, tenantId, storeId⟩ payload
      (openSessionsOf db ⟨context, tenantId, storeId⟩ payload.businessDate) = .ok () := by
    simp only [checkForceClose, Checked.bind_eq_ok, Checked.ensure_eq_ok, exists_const]
    exact ⟨forced, manager, reason⟩
  apply Alone.read rfl
  simp only [Checked.ensure, opened, not_false_iff, if_true, CashPhase.ofChecked]
  apply Alone.read rfl
  simp only [checked, CashPhase.ofChecked]
  apply Alone.read rfl
  refine .commit rfl ?_ (.refl ..)
  simp only [CashWrite.applyWith, CashWrite.apply, opened, if_false]
  rfl

end ArisCloud

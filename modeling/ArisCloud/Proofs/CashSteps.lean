import ArisCloud.Model.System

/-! # What the requests do to cash sessions

All the operations that touch cash sessions, in four routers, come down to four changes of the cash
tables: a session is opened with its first movement, a session gets a new balance with the movement
that explains it, a session changes in other columns, or nothing happens. The inversion lemmas below
say which change each operation makes.
-/

namespace ArisCloud

open KeyedRows

/-- The two tables of cash. -/
structure CashTables where
  sessions : List PosCashSession
  movements : List PosCashMovement

def Db.cash (db : Db) : CashTables := ⟨db.cashSessions, db.cashMovements⟩

/-- The tables that the cash of a day is read from. -/
structure CashLedger where
  sessions : List PosCashSession
  movements : List PosCashMovement
  dayCloses : List PosCashDayClose

def Db.ledger (db : Db) : CashLedger := ⟨db.cashSessions, db.cashMovements, db.dayCloses⟩

theorem Db.cash_congr {db after : Db} (same : after.ledger = db.ledger) : after.cash = db.cash := by
  rw [cash, cash, show after.cashSessions = db.cashSessions from congrArg CashLedger.sessions same,
    show after.cashMovements = db.cashMovements from congrArg CashLedger.movements same]

/-- How an action changes the balance of its session. -/
def CashAction.sign : CashAction → ℚ
  | .cashIn | .sale => 1
  | .cashOut | .cashOutRefund => -1
  | .opening | .close | .dayClose | .voucherIssuance _ | .voucherRefund _ => 0

/-- The movements that change a balance. -/
def CashAction.changesBalance : CashAction → Bool
  | .opening | .cashIn | .sale | .cashOut | .cashOutRefund => true
  | .close | .dayClose | .voucherIssuance _ | .voucherRefund _ => false

/-- The movements of one session that change its balance. -/
def PosCashMovement.moves (sessionId : ℕ) (movement : PosCashMovement) : Bool :=
  movement.cashSessionId = some sessionId && movement.action.changesBalance

/-- A change of the cash tables. -/
inductive CashChange (before after : CashTables) : Prop
  | idle (same : after = before)
  | opened (session : PosCashSession) (movement : PosCashMovement)
      (unused : ∀ other ∈ before.sessions, other.id ≠ session.id)
      (unmentioned : ∀ other ∈ before.movements, other.cashSessionId ≠ some session.id)
      (own : movement.cashSessionId = some session.id) (action : movement.action = .opening)
      (starts : movement.expectedBalanceBefore = some 0)
      (ends : movement.expectedBalanceAfter = some session.openingAmount)
      (expected : session.expectedCash = session.openingAmount)
      (positive : 0 < session.openingAmount)
      (tables : after = ⟨before.sessions ++ [session], before.movements ++ [movement]⟩)
  | moved (session : PosCashSession) (movement : PosCashMovement) (balance : ℚ)
      (member : session ∈ before.sessions) (own : movement.cashSessionId = some session.id)
      (directed : movement.action.sign ≠ 0)
      (starts : movement.expectedBalanceBefore = some session.expectedCash)
      (ends : movement.expectedBalanceAfter = some balance)
      (explained : balance = session.expectedCash + movement.action.sign * movement.amount)
      (covered : 0 ≤ session.expectedCash → 0 ≤ balance)
      (tables : after =
      ⟨update (·.id) [session.id] (fun row => { row with expectedCash := balance }) before.sessions,
        before.movements ++ [movement]⟩)
  | noted (change : PosCashSession → PosCashSession) (movement : PosCashMovement)
      (keeps : ∀ session, (change session).id = session.id ∧ (change session).openingAmount =
      session.openingAmount ∧
        (change session).expectedCash = session.expectedCash)
      (quiet : ∀ sessionId, movement.moves sessionId = false)
      (tables : after = ⟨before.sessions.map change, before.movements ++ [movement]⟩)

/-- A request part that changes nothing but the cash tables. -/
structure CashOnly (db after : Db) : Prop where
  tables : after = { db with cashSessions := after.cashSessions,
                             cashMovements := after.cashMovements }
  change : CashChange db.cash after.cash

theorem CashOnly.refl (db : Db) : CashOnly db db := ⟨rfl, .idle rfl⟩

/-- A movement with the balance it explains. -/
theorem CashOnly.moved {db : Db} {session : PosCashSession} (member : session ∈ db.cashSessions)
    {tenantId storeId : ℕ} {saleId : Option ℕ} {action : CashAction} (directed : action.sign ≠ 0)
    {amount balance : ℚ} {now : ℕ}
    (explained : balance = session.expectedCash + action.sign * amount)
    (covered : 0 ≤ session.expectedCash → 0 ≤ balance) :
    CashOnly db ((db.setExpectedCash session.id balance).addCashMovement
      (sessionMovement session tenantId storeId saleId action amount session.expectedCash balance
        now)) :=
  ⟨rfl, .moved session _ balance member rfl directed rfl rfl explained covered rfl⟩

theorem ensurePositiveAmount_some {value amount : ℚ} {field : String} :
    ensurePositiveAmount (some value) field = .ok amount ↔ 0 < value ∧ value = amount := by
  simp only [ensurePositiveAmount, Checked.bind_eq_ok, Checked.fetch_eq_ok, Checked.ensure_eq_ok,
    exists_const, Checked.pure_eq_ok, Option.some.injEq, exists_eq_left']

/-! ## The shared movement -/

theorem recordCashMovement_ok {db after : Db} {session : PosCashSession}
    (member : session ∈ db.cashSessions) {tenantId storeId saleId : ℕ} {action : CashAction}
    (directed : action.sign ≠ 0) {amount : ℚ} {now : ℕ}
    (success : recordCashMovement db session tenantId storeId saleId action amount now =
      .ok after) :
    CashOnly db after := by
  simp only [recordCashMovement, ensureNonNegativeBalance, Checked.bind_eq_ok, Checked.ensure_eq_ok,
    exists_const, Checked.pure_eq_ok] at success
  obtain ⟨_, _, covered, rfl⟩ := success
  refine .moved member directed ?_ fun _ => covered
  cases action <;> simp [CashAction.sign] at directed ⊢ <;> ring

private theorem requireOpenCashSession_ok {db : Db} {tenantId storeId cashierUserId : ℕ}
    {session : PosCashSession}
    (success : requireOpenCashSession db tenantId storeId cashierUserId = .ok session) :
    session ∈ db.cashSessions := by
  simp only [requireOpenCashSession, Checked.fetch_eq_ok, Option.or_eq_some_iff] at success
  rcases success with own | ⟨_, only⟩
  · exact (List.mem_filter.mp (List.mem_of_find?_eq_some own)).1
  · split at only
    · next single =>
      obtain rfl := Option.some.inj only
      exact (List.mem_filter.mp (single.symm ▸ List.mem_singleton_self _)).1
    · contradiction

theorem openSessionFor_ok {db : Db} {context : RequestContext} {sale : PosSale} {cashTotal : ℚ}
    {session : Option PosCashSession}
    (success : openSessionFor db context sale cashTotal = .ok session) :
    ∀ opened ∈ session, opened ∈ db.cashSessions := by
  rw [openSessionFor] at success
  split at success
  · obtain ⟨opened, found, rfl⟩ := Checked.map_eq_ok.mp success
    rintro _ ⟨⟩
    exact requireOpenCashSession_ok found
  · obtain rfl := Checked.pure_eq_ok.mp success
    simp

theorem settleCash_ok {db after : Db} {context : RequestContext} {session : Option PosCashSession}
    {sale : PosSale} {action : CashAction} {amount : ℚ}
    (opened : ∀ opened ∈ session, opened ∈ db.cashSessions) (directed : action.sign ≠ 0)
    (success : settleCash db context session sale action amount = .ok after) :
    CashOnly db after := by
  cases session with
  | none =>
    obtain rfl := Checked.pure_eq_ok.mp success
    exact .refl db
  | some session =>
    rw [settleCash] at success
    split at success
    · exact recordCashMovement_ok (opened session rfl) directed success
    · obtain rfl := Checked.pure_eq_ok.mp success
      exact .refl db

/-- What settling an amount writes: a movement of the session, when there is one and something to
settle. -/
structure CashSettled (session : Option PosCashSession) (sale : PosSale) (action : CashAction)
    (amount : ℚ) (now : ℕ) (written : List PosCashMovement) : Prop where
  own : ∀ movement ∈ written, ∃ opened ∈ session, movement.cashSessionId = some opened.id
  columns : ∀ movement ∈ written, movement.tenantId = sale.tenantId ∧
    movement.storeId = sale.storeId ∧ movement.action = action ∧ movement.occurredAt = now
  total : (written.map (·.amount)).sum = if session.isSome then max 0 amount else 0

theorem settleCash_written {db after : Db} {context : RequestContext}
    {session : Option PosCashSession} {sale : PosSale} {action : CashAction} {amount : ℚ}
    (success : settleCash db context session sale action amount = .ok after) :
    ∃ written, after.cashMovements = db.cashMovements ++ written ∧
      CashSettled session sale action amount context.now written := by
  cases session with
  | none =>
    obtain rfl := Checked.pure_eq_ok.mp success
    exact ⟨[], (List.append_nil _).symm, by simp, by simp, rfl⟩
  | some session =>
    rw [settleCash] at success
    split at success
    · next positive =>
      simp only [recordCashMovement, Checked.bind_eq_ok, Checked.pure_eq_ok] at success
      obtain ⟨_, _, _, _, _, _, rfl⟩ := success
      refine ⟨_, rfl, ?_, ?_, ?_⟩
      · exact List.forall_mem_singleton.mpr ⟨session, rfl, rfl⟩
      · exact List.forall_mem_singleton.mpr ⟨rfl, rfl, rfl, rfl⟩
      · simp [sessionMovement, max_eq_right positive.le]
    · next nothing =>
      obtain rfl := Checked.pure_eq_ok.mp success
      refine ⟨[], (List.append_nil _).symm, by simp, by simp, ?_⟩
      simp [max_eq_left (not_lt.mp nothing)]

/-! ## The cash router -/

theorem mem_of_head?_insertionSort {α : Type*} {before : α → α → Prop} [DecidableRel before]
    {rows : List α} {row : α} (first : (rows.insertionSort before).head? = some row) : row ∈ rows :=
  (List.mem_insertionSort before).mp (List.mem_of_head? first)

private theorem openSessionQuery_mem {db : Db} {tenantId storeId cashierUserId : ℕ}
    {session : PosCashSession}
    (found : openSessionQuery db tenantId storeId cashierUserId = some session) :
    session ∈ db.cashSessions :=
  (List.mem_filter.mp (mem_of_head?_insertionSort found)).1

theorem activeSession_mem {db : Db} {tenantId storeId cashierUserId : ℕ} {session : PosCashSession}
    (found : activeSession db tenantId storeId cashierUserId = some session) :
    session ∈ db.cashSessions :=
  (List.mem_filter.mp (mem_of_head?_insertionSort found)).1

private theorem resolveActiveSession_mem {db : Db} {tenantId storeId cashierUserId : ℕ}
    {cashSessionId : Option ℕ} {session : PosCashSession}
    (found : resolveActiveSession db tenantId storeId cashierUserId cashSessionId = some session) :
    session ∈ db.cashSessions := by
  cases cashSessionId with
  | none => exact openSessionQuery_mem found
  | some _ => exact List.mem_of_find?_eq_some found

theorem removeDeposit_ok {db after : Db} {session : PosCashSession}
    (member : session ∈ db.cashSessions) {tenantId storeId : ℕ} {amount : ℚ} {now : ℕ}
    (success : removeDeposit db session tenantId storeId amount now = .ok after) :
    CashOnly db after := by
  simp only [removeDeposit, ensureNonNegativeBalance, Checked.bind_eq_ok, Checked.ensure_eq_ok,
    exists_const, Checked.pure_eq_ok] at success
  obtain ⟨covered, rfl⟩ := success
  exact .moved member (by simp [CashAction.sign]) (by simp [CashAction.sign]; ring) fun _ => covered

/-- No session and no movement has the identifier of the next session. -/
theorem freshCashSessionId_unused {db : Db} {session : PosCashSession}
    (member : session ∈ db.cashSessions) :
    session.id < db.freshCashSessionId := by
  apply lt_freshId
  exact List.mem_append_left _ (List.mem_append_left _ (List.mem_map_of_mem (f := (·.id)) member))

theorem freshCashSessionId_unmentioned {db : Db} {movement : PosCashMovement}
    (member : movement ∈ db.cashMovements) :
    movement.cashSessionId ≠ some db.freshCashSessionId := by
  rintro mentioned
  have below : db.freshCashSessionId < db.freshCashSessionId :=
    lt_freshId (List.mem_append_left
      _ (List.mem_append_right _ (List.mem_filterMap.mpr ⟨movement, member, mentioned⟩)))
  omega

private theorem openCashSession_ok {db after : Db} {context : RequestContext} {tenantId storeId : ℕ}
    {openingAmount : ℚ} {businessDate : ℕ} {timezone : String}
    (success : openCashSession db context tenantId storeId openingAmount businessDate timezone =
      .ok after) :
    CashOnly db after := by
  simp only [openCashSession, ensurePositiveAmount_some, Checked.bind_eq_ok, Checked.ensure_eq_ok,
    exists_const, Checked.pure_eq_ok] at success
  obtain ⟨_, ⟨positive, rfl⟩, _, _, _, _, rfl⟩ := success
  apply CashOnly.mk rfl
  exact .opened _ _ (fun _ member => (freshCashSessionId_unused member).ne)
    (fun _ member => freshCashSessionId_unmentioned member) rfl rfl rfl rfl rfl positive rfl

theorem cashSessionAction_ok {db after : Db} {context : RequestContext}
    {payload : PosCashSessionActionRequest}
    (success : cashSessionAction db context payload = .ok after) : CashOnly db after := by
  simp only [cashSessionAction, Checked.bind_eq_ok] at success
  obtain ⟨_, _, _, _, tenantId, _, _, _, storeId, _, _, _, success⟩ := success
  cases action : payload.action with
  | opening openingAmount businessDate timezone =>
    simp only [action] at success
    exact openCashSession_ok success
  | cashIn amount =>
    simp only [action, ensurePositiveAmount_some, Checked.bind_eq_ok, Checked.fetch_eq_ok,
      Checked.pure_eq_ok] at success
    obtain ⟨session, ⟨_, found, _, _, rfl⟩, _, ⟨positive, rfl⟩, rfl⟩ := success
    exact .moved (openSessionQuery_mem found) (by simp [CashAction.sign])
      (by simp [CashAction.sign]) fun nonneg => add_nonneg nonneg positive.le
  | cashOut amount =>
    simp only [action, ensurePositiveAmount_some, ensureNonNegativeBalance, Checked.bind_eq_ok,
      Checked.fetch_eq_ok, Checked.ensure_eq_ok, exists_const, Checked.pure_eq_ok] at success
    obtain ⟨session, ⟨_, found, _, _, rfl⟩, _, ⟨_, rfl⟩, covered, rfl⟩ := success
    exact .moved (openSessionQuery_mem found) (by simp [CashAction.sign])
      (by simp [CashAction.sign]; ring) fun _ => covered
  | close countedCash =>
    simp only [action, Checked.bind_eq_ok, Checked.pure_eq_ok] at success
    obtain ⟨session, _, rfl⟩ := success
    refine ⟨rfl, .noted _ _ (fun other => ?_) (fun sessionId => ?_) rfl⟩
    · split <;> exact ⟨rfl, rfl, rfl⟩
    · exact Bool.and_false _

/-- What the cash router changes. -/
structure CashRouterStep (db after : Db) : Prop where
  tables : after = { db with
    cashSessions := after.cashSessions
    cashMovements := after.cashMovements
    cashCuts := after.cashCuts
    dayCloses := after.dayCloses }
  change : CashChange db.cash after.cash

private theorem CashOnly.routerStep {db after : Db} (only : CashOnly db after) :
    CashRouterStep db after :=
  ⟨by rw [only.tables], only.change⟩

private theorem createCashCut_ok {db after : Db} {context : RequestContext}
    {payload : PosCashCutCreateRequest} (success : createCashCut db context payload = .ok after) :
    CashRouterStep db after := by
  simp only [createCashCut, Checked.bind_eq_ok, Checked.fetch_eq_ok] at success
  obtain ⟨_, _, _, _, tenantId, _, _, _, storeId, _, _, _, session, found, _, _, totals, _,
    success⟩ := success
  split at success
  · have removed := removeDeposit_ok (by exact resolveActiveSession_mem found) success
    exact ⟨by rw [removed.tables], removed.change⟩
  · obtain rfl := Checked.pure_eq_ok.mp success
    exact ⟨rfl, .idle rfl⟩

private theorem cashCutAction_ok {db after : Db} {context : RequestContext} {cutId : ℕ}
    {payload : PosCashCutActionRequest}
    (success : cashCutAction db context cutId payload = .ok after) : CashRouterStep db after := by
  simp only [cashCutAction, Checked.bind_eq_ok] at success
  obtain ⟨_, _, _, _, tenantId, _, storeId, _, _, _, cut, _, success⟩ := success
  cases action : payload.action with
  | complete countedCash =>
    simp only [action, Checked.bind_eq_ok, Checked.pure_eq_ok] at success
    obtain ⟨_, _, rfl⟩ := success
    exact ⟨rfl, .idle rfl⟩
  | void =>
    simp only [action, Checked.pure_eq_ok] at success
    obtain rfl := success
    exact ⟨rfl, .idle rfl⟩
  | printMark =>
    simp only [action, Checked.pure_eq_ok] at success
    obtain rfl := success
    exact ⟨rfl, .idle rfl⟩
  | applyCashOut amount =>
    simp only [action, Checked.bind_eq_ok, Checked.fetch_eq_ok, Option.filter_eq_some_iff,
      Checked.pure_eq_ok] at success
    obtain ⟨amount, _, session, ⟨found, _⟩, paidOut, removed, rfl⟩ := success
    have removed := removeDeposit_ok (List.mem_of_find?_eq_some found) removed
    exact ⟨by rw [removed.tables]; rfl, removed.change⟩

private theorem closeDay_ok {db after : Db} {context : RequestContext}
    {payload : PosCashDayCloseActionRequest} (success : closeDay db context payload = .ok after) :
    CashRouterStep db after := by
  simp only [closeDay, Checked.bind_eq_ok, Checked.pure_eq_ok] at success
  obtain ⟨_, _, _, _, tenantId, _, _, _, storeId, _, _, _, _, _, _, _, _, _, _, _, rfl⟩ := success
  refine ⟨rfl, .noted _ _ (fun session => ?_) (fun sessionId => ?_) rfl⟩
  · split <;> exact ⟨rfl, rfl, rfl⟩
  · rfl

theorem cashStep_ok {db after : Db} {request : CashRequest}
    (success : cashStep db request = .ok after) :
    CashRouterStep db after := by
  cases request with
  | sessionAction context payload => exact (cashSessionAction_ok success).routerStep
  | createCut context payload => exact createCashCut_ok success
  | cutAction context cutId payload => exact cashCutAction_ok success
  | closeDay context payload => exact closeDay_ok success

end ArisCloud

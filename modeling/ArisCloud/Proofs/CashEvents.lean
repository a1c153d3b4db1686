import ArisCloud.Proofs.AdvanceSteps
import ArisCloud.Proofs.CashWrites
import ArisCloud.Proofs.ReturnSteps
import ArisCloud.Proofs.SaleSteps
import ArisCloud.Proofs.TransferSteps

/-! # What the requests write when nothing interleaves

A request that runs alone commits one of the writes of the interleaved requests, decided on the rows
that it commits over, or a movement that passes no drawer, or nothing that the cash of a day is read
from. The inversion lemmas below say which, for the requests of every router.
-/

namespace ArisCloud

open KeyedRows

/-- An open session of a store. -/
structure OpenSession (db : Db) (tenantId storeId : ℕ) (session : PosCashSession) : Prop where
  member : session ∈ db.cashSessions
  opened : session.status = .opened
  tenant : session.tenantId = tenantId
  store : session.storeId = storeId

/-- The write was decided on the rows that it is committed over. -/
def CashWrite.Current (db : Db) : CashWrite → Prop
  | .opening scope _ businessDate =>
    openSessionQuery db scope.tenantId scope.storeId scope.context.userId = none ∧
    ¬ isDayClosed db scope.tenantId scope.storeId businessDate
  | .movement scope session _ _ _ => OpenSession db scope.tenantId scope.storeId session
  | .close .. => True
  | .dayClose scope payload openIds rollup =>
    openIds = (openSessionsOf db scope payload.businessDate).map (·.id) ∧
    rollup = reconciliationRollup db scope.tenantId scope.storeId payload.businessDate

/-- What a request does to the cash of the days. -/
inductive CashEvent (db after : Db) : Prop
  | idle (same : after.ledger = db.ledger)
  | outside (movement : PosCashMovement) (uncounted : movement.action.changesBalance = false)
      (same : after.ledger = (db.addCashMovement movement).ledger)
  | written (write : CashWrite) (cash : Db) (current : write.Current db)
      (applied : write.apply db = some cash) (same : after.ledger = cash.ledger)

/-- A cut of a session. -/
structure PosCashCut.IsOf (cut : PosCashCut) (session : PosCashSession) : Prop where
  named : session.id = cut.cashSessionId
  tenant : session.tenantId = cut.tenantId
  store : session.storeId = cut.storeId

/-- Every cut is one of a session of its store, and of no other session. -/
structure CutsOwned (db : Db) : Prop where
  distinct : (db.cashSessions.map (·.id)).Nodup
  owned : ∀ cut ∈ db.cashCuts, ∃ session ∈ db.cashSessions, cut.IsOf session

variable {db base after settled : Db} {context : RequestContext} {tenantId storeId : ℕ}
    {session : PosCashSession}

/-! ## Open sessions -/

private theorem openSession_of_filter {matching : PosCashSession → Bool}
    (member : session ∈ db.cashSessions.filter matching)
    (selects : matching session = true → session.tenantId = tenantId ∧ session.storeId = storeId ∧
      session.status = .opened) :
    OpenSession db tenantId storeId session := by
  obtain ⟨member, selected⟩ := List.mem_filter.mp member
  obtain ⟨tenant, store, opened⟩ := selects selected
  exact ⟨member, opened, tenant, store⟩

private theorem requireOpenCashSession_open {cashierUserId : ℕ}
    (success : requireOpenCashSession db tenantId storeId cashierUserId = .ok session) :
    OpenSession db tenantId storeId session := by
  simp only [requireOpenCashSession, Checked.fetch_eq_ok, Option.or_eq_some_iff] at success
  rcases success with own | ⟨_, only⟩
  · exact openSession_of_filter (List.mem_of_find?_eq_some own) (by simp; tauto)
  · split at only
    · next single =>
      obtain rfl := Option.some.inj only
      exact openSession_of_filter (single.symm ▸ List.mem_singleton_self _) (by simp; tauto)
    · contradiction

theorem openSessionFor_open {sale : PosSale} {cashTotal : ℚ} {found : Option PosCashSession}
    (success : openSessionFor db context sale cashTotal = .ok found) :
    ∀ session ∈ found, OpenSession db sale.tenantId sale.storeId session := by
  rw [openSessionFor] at success
  split at success
  · obtain ⟨opened, found, rfl⟩ := Checked.map_eq_ok.mp success
    rintro _ ⟨⟩
    exact requireOpenCashSession_open found
  · obtain rfl := Checked.pure_eq_ok.mp success
    simp

private theorem activeSession_open {cashierUserId : ℕ}
    (found : activeSession db tenantId storeId cashierUserId = some session) :
    OpenSession db tenantId storeId session :=
  openSession_of_filter (mem_of_head?_insertionSort found) (by simp; tauto)

private theorem openSessionQuery_open {cashierUserId : ℕ}
    (found : openSessionQuery db tenantId storeId cashierUserId = some session) :
    OpenSession db tenantId storeId session :=
  openSession_of_filter (mem_of_head?_insertionSort found) (by simp; tauto)

theorem resolveActiveSession_open {cashierUserId : ℕ} {cashSessionId : Option ℕ}
    (found : resolveActiveSession db tenantId storeId cashierUserId cashSessionId = some session) :
    OpenSession db tenantId storeId session := by
  cases cashSessionId with
  | none => exact openSessionQuery_open found
  | some _ =>
    have member := List.mem_of_find?_eq_some found
    have selected := List.find?_some found
    simp only [Bool.and_eq_true, decide_eq_true_eq] at selected
    obtain ⟨⟨⟨⟨⟨_, tenant⟩, store⟩, _⟩, opened⟩, _⟩ := selected
    exact ⟨member, opened, tenant, store⟩

/-! ## Movements of open sessions -/

/-- A movement of an open session is a write of the tables that hold the session, whatever else has
been written. -/
theorem CashEvent.moved (context : RequestContext) (found : OpenSession db tenantId storeId session)
    (same : base.ledger = db.ledger) (saleId : Option ℕ) (flow : CashFlow) (amount : ℚ) :
    CashEvent db
    ((base.setExpectedCash session.id (flow.balance session.expectedCash amount)).addCashMovement
      (sessionMovement session tenantId storeId saleId flow.action amount session.expectedCash
        (flow.balance session.expectedCash amount) context.now)) := by
  refine .written (.movement ⟨context, tenantId, storeId⟩ session saleId flow amount) _ found rfl ?_
  simp only [Db.ledger, CashLedger.mk.injEq] at same
  obtain ⟨sessions, movements, dayCloses⟩ := same
  simp only [Db.ledger, Db.addCashMovement, Db.setExpectedCash, Db.updateCashSession, sessions,
    movements, dayCloses]

private theorem recordCashMovement_event (flow : CashFlow)
    (found : OpenSession db tenantId storeId session) (same : base.ledger = db.ledger) {saleId : ℕ}
    {amount : ℚ}
    (success : recordCashMovement base session tenantId storeId saleId flow.action amount
      context.now = .ok after) :
    CashEvent db after := by
  simp only [recordCashMovement, Checked.bind_eq_ok, Checked.ensure_eq_ok, exists_const,
    Checked.pure_eq_ok] at success
  obtain ⟨_, _, _, _, rfl⟩ := success
  have moved := CashEvent.moved context found same (some saleId) flow amount
  cases flow <;> exact moved

private theorem removeDeposit_event (found : OpenSession db tenantId storeId session)
    (same : base.ledger = db.ledger) {amount : ℚ}
    (success : removeDeposit base session tenantId storeId amount context.now = .ok after) :
    CashEvent db after := by
  simp only [removeDeposit, Checked.bind_eq_ok, Checked.pure_eq_ok] at success
  obtain ⟨_, _, rfl⟩ := success
  exact .moved context found same none .cashOut amount

/-- A part of a request that follows its cash and leaves the cash alone. -/
theorem CashEvent.trans (event : CashEvent db base) (same : after.ledger = base.ledger) :
    CashEvent db after := by
  cases event with
  | idle before => exact .idle (same.trans before)
  | outside movement uncounted before => exact .outside movement uncounted (same.trans before)
  | written write cash current applied before =>
    exact .written write cash current applied (same.trans before)

private theorem settleCash_event (flow : CashFlow) {sale : PosSale} {found : Option PosCashSession}
    {amount : ℚ} (opened : ∀ session ∈ found, OpenSession db sale.tenantId sale.storeId session)
    (same : base.ledger = db.ledger)
    (success : settleCash base context found sale flow.action amount = .ok settled) :
    CashEvent db settled := by
  cases found with
  | none =>
    obtain rfl := Checked.pure_eq_ok.mp success
    exact .idle same
  | some session =>
    rw [settleCash] at success
    split at success
    · exact recordCashMovement_event flow (opened session rfl) same success
    · obtain rfl := Checked.pure_eq_ok.mp success
      exact .idle same

/-! ## Sales -/

private theorem refundItems_event {sale : PosSale} {payload : RefundItemsSaleActionRequest}
    (success : refundItems db context sale payload = .ok after) : CashEvent db after := by
  simp only [refundItems, Checked.bind_eq_ok, Checked.pure_eq_ok] at success
  obtain ⟨_, _, _, _, _, _, _, _, _, _, _, _, items, _, _, _, cashSession, opened, session, _,
    settled, cash, stock, _, rfl⟩ := success
  have event : CashEvent db settled :=
    settleCash_event .cashOutRefund (by exact openSessionFor_open opened) (by exact rfl) cash
  exact event.trans rfl

private theorem exchangeItems_event {sale : PosSale} {payload : ExchangeItemsSaleActionRequest}
    (success : exchangeItems db context sale payload = .ok after) : CashEvent db after := by
  simp only [exchangeItems, Checked.bind_eq_ok, Checked.ensure_eq_ok, exists_const,
    Checked.pure_eq_ok, Prod.exists] at success
  obtain ⟨_, _, _, _, _, lines, _, _, _, items, _, cashTotal, cashMoved, _, cashSession, opened,
    batch, _, session, _, settled, cash, stock, _, rfl⟩ := success
  have opened := openSessionFor_open opened
  split at cash
  · exact (settleCash_event .cashOutRefund opened (by exact rfl) cash).trans rfl
  · exact (settleCash_event .sale opened (by exact rfl) cash).trans rfl

private theorem checkoutSale_event {sale : PosSale} {payload : CheckoutSaleActionRequest}
    (success : checkoutSale db context sale payload = .ok after) : CashEvent db after := by
  simp only [checkoutSale, Checked.bind_eq_ok, Checked.ensure_eq_ok, exists_const,
    Checked.pure_eq_ok] at success
  obtain ⟨_, _, totals, _, advance, _, cashSession, opened, batch, _, settled, cash, stock, _,
    rfl⟩ := success
  have opened := openSessionFor_open opened
  cases advance with
  | none => exact (settleCash_event .sale opened (by exact rfl) cash).trans rfl
  | some advance => exact (settleCash_event .sale opened (by exact rfl) cash).trans rfl

private theorem saleStep_event {request : SaleRequest} (success : saleStep db request = .ok after) :
    CashEvent db after := by
  cases request with
  | create context payload =>
    obtain ⟨sale, lines, step⟩ := createSale_ok success
    exact .idle (by rw [step.tables]; rfl)
  | update context saleId payload =>
    obtain ⟨tenantId, sale, lines, _, step⟩ := updateSale_ok success
    exact .idle (by rw [step.tables]; rfl)
  | action context saleId payload =>
    obtain ⟨transactionId, action⟩ := payload
    simp only [saleStep, saleAction, Checked.bind_eq_ok] at success
    obtain ⟨_, _, _, _, sale, _, rest⟩ := success
    cases action with
    | cancel => exact .idle (by rw [(cancelSale_ok rest).tables]; rfl)
    | refundItems payload => exact refundItems_event rest
    | exchangeItems payload => exact exchangeItems_event rest
    | checkout payload => exact checkoutSale_event rest

/-! ## Advances -/

private theorem createAdvance_event {payload : PosAdvanceCreateRequest}
    (success : createAdvance db context payload = .ok after) :
    CashEvent db after := by
  simp only [createAdvance, Checked.bind_eq_ok] at success
  obtain ⟨tenantId, _, storeId, _, _, _, _, _, _, _, success⟩ := success
  split at success
  · simp only [Checked.bind_eq_ok, Checked.fetch_eq_ok] at success
    obtain ⟨session, found, recorded⟩ := success
    exact recordCashMovement_event .cashIn (activeSession_open found) (by exact rfl) recorded
  · obtain rfl := Checked.pure_eq_ok.mp success
    exact .outside _ rfl rfl

private theorem refundAdvance_event {advance : PosAdvance} {refundMethod : Option PaymentMethod}
    (success : refundAdvance db context advance refundMethod = .ok after) : CashEvent db after := by
  simp only [refundAdvance, Checked.bind_eq_ok] at success
  obtain ⟨method, _, success⟩ := success
  split at success
  · simp only [Checked.bind_eq_ok, Checked.fetch_eq_ok] at success
    obtain ⟨session, found, recorded⟩ := success
    exact recordCashMovement_event .cashOut (activeSession_open found) (by exact rfl) recorded
  · obtain rfl := Checked.pure_eq_ok.mp success
    exact .outside _ rfl rfl

private theorem advanceStep_event {request : AdvanceRequest}
    (success : advanceStep db request = .ok after) : CashEvent db after := by
  cases request with
  | create context payload => exact createAdvance_event success
  | mutate context advanceId action =>
    simp only [advanceStep, mutateAdvance, Checked.bind_eq_ok] at success
    obtain ⟨advance, _, _, _, _, _, _, _, success⟩ := success
    cases action with
    | refund refundMethod => exact refundAdvance_event success
    | consume saleTotal saleId =>
      simp only [Checked.bind_eq_ok, Checked.pure_eq_ok] at success
      obtain ⟨_, _, _, _, _, _, rfl⟩ := success
      exact .idle rfl
    | expireNow =>
      obtain rfl := Checked.pure_eq_ok.mp success
      exact .idle rfl
  | sweep context tenantId storeId =>
    simp only [advanceStep, sweepExpiredAdvances, Checked.bind_eq_ok, Checked.pure_eq_ok] at success
    obtain ⟨_, _, _, _, _, _, _, _, rfl⟩ := success
    exact .idle rfl

/-! ## The cash router -/

private theorem cashSessionAction_event {payload : PosCashSessionActionRequest}
    (success : cashSessionAction db context payload = .ok after) : CashEvent db after := by
  simp only [cashSessionAction, Checked.bind_eq_ok] at success
  obtain ⟨_, _, _, _, tenantId, _, _, _, storeId, _, _, _, success⟩ := success
  cases action : payload.action with
  | opening openingAmount businessDate timezone =>
    simp only [action, openCashSession, ensureNotClosed, ensurePositiveAmount_some,
      Checked.bind_eq_ok, Checked.ensure_eq_ok, exists_const, Checked.pure_eq_ok] at success
    obtain ⟨_, ⟨_, rfl⟩, _, opened, free, rfl⟩ := success
    exact .written (.opening ⟨context, tenantId, storeId⟩ openingAmount businessDate) _ ⟨free,
      opened⟩ rfl rfl
  | cashIn amount =>
    simp only [action, ensurePositiveAmount_some, Checked.bind_eq_ok, Checked.fetch_eq_ok,
      Checked.pure_eq_ok] at success
    obtain ⟨session, ⟨_, found, _, _, rfl⟩, _, ⟨_, rfl⟩, rfl⟩ := success
    exact .moved context (openSessionQuery_open found) rfl none .cashIn amount
  | cashOut amount =>
    simp only [action, ensurePositiveAmount_some, Checked.bind_eq_ok, Checked.fetch_eq_ok,
      Checked.pure_eq_ok] at success
    obtain ⟨session, ⟨_, found, _, _, rfl⟩, _, ⟨_, rfl⟩, _, _, rfl⟩ := success
    exact .moved context (openSessionQuery_open found) rfl none .cashOut amount
  | close countedCash =>
    simp only [action, Checked.bind_eq_ok, Checked.pure_eq_ok] at success
    obtain ⟨session, _, rfl⟩ := success
    exact .written (.close ⟨context, tenantId, storeId⟩ session countedCash) _ trivial rfl rfl

private theorem createCashCut_event {payload : PosCashCutCreateRequest}
    (success : createCashCut db context payload = .ok after) :
    CashEvent db after := by
  simp only [createCashCut, Checked.bind_eq_ok, Checked.fetch_eq_ok] at success
  obtain ⟨_, _, _, _, tenantId, _, _, _, storeId, _, _, _, session, found, _, _, totals, _,
    success⟩ := success
  split at success
  · exact removeDeposit_event (by exact resolveActiveSession_open found) (by exact rfl) success
  · obtain rfl := Checked.pure_eq_ok.mp success
    exact .idle rfl

/-- The session of a cut is one of the store that the cut is looked up in. -/
theorem CutsOwned.openSession (cuts : CutsOwned db) {cut : PosCashCut} (member : cut ∈ db.cashCuts)
    (found : session ∈ db.cashSessions) (same : session.id = cut.cashSessionId)
    (opened : session.status = .opened) :
    OpenSession db cut.tenantId cut.storeId session := by
  obtain ⟨owner, isOwner, own⟩ := cuts.owned cut member
  obtain rfl := eq_of_key_eq cuts.distinct isOwner found (own.named.trans same.symm)
  exact ⟨found, opened, own.tenant, own.store⟩

private theorem cashCutAction_event (cuts : CutsOwned db) {cutId : ℕ}
    {payload : PosCashCutActionRequest}
    (success : cashCutAction db context cutId payload = .ok after) : CashEvent db after := by
  simp only [cashCutAction, Checked.bind_eq_ok, Checked.fetch_eq_ok] at success
  obtain ⟨_, _, _, _, tenantId, _, storeId, _, _, _, cut, listed, success⟩ := success
  cases action : payload.action with
  | complete countedCash =>
    simp only [action, Checked.bind_eq_ok, Checked.pure_eq_ok] at success
    obtain ⟨_, _, rfl⟩ := success
    exact .idle rfl
  | void | printMark =>
    simp only [action, Checked.pure_eq_ok] at success
    obtain rfl := success
    exact .idle rfl
  | applyCashOut amount =>
    simp only [action, Checked.bind_eq_ok, Checked.fetch_eq_ok, Option.filter_eq_some_iff,
      decide_eq_true_eq, Checked.pure_eq_ok] at success
    obtain ⟨amount, _, session, ⟨found, opened⟩, paidOut, removed, rfl⟩ := success
    have named : session.id = cut.cashSessionId := by simpa using List.find?_some found
    have selected := List.find?_some listed
    simp only [Bool.and_eq_true, decide_eq_true_eq] at selected
    obtain ⟨⟨_, rfl⟩, rfl⟩ := selected
    have usable := cuts.openSession (List.mem_of_find?_eq_some listed)
      (List.mem_of_find?_eq_some found) named opened
    exact (removeDeposit_event usable (by exact rfl) removed).trans rfl

private theorem closeDay_event {payload : PosCashDayCloseActionRequest}
    (success : closeDay db context payload = .ok after) :
    CashEvent db after := by
  simp only [closeDay, Checked.bind_eq_ok, Checked.ensure_eq_ok, exists_const,
    Checked.pure_eq_ok] at success
  obtain ⟨_, _, _, _, tenantId, _, _, _, storeId, _, _, _, opened, _, _, _, rfl⟩ := success
  refine .written (.dayClose ⟨context, tenantId, storeId⟩ payload _ _) _ ⟨rfl, rfl⟩
    (if_neg opened) rfl

private theorem cashStep_event (cuts : CutsOwned db) {request : CashRequest}
    (success : cashStep db request = .ok after) :
    CashEvent db after := by
  cases request with
  | sessionAction context payload => exact cashSessionAction_event success
  | createCut context payload => exact createCashCut_event success
  | cutAction context cutId payload => exact cashCutAction_event cuts success
  | closeDay context payload => exact closeDay_event success

/-! ## Sessions and their cuts -/

/-- The columns of a session that never change. -/
structure SameSession (session next : PosCashSession) : Prop where
  id : next.id = session.id
  tenant : next.tenantId = session.tenantId
  store : next.storeId = session.storeId
  date : next.businessDate = session.businessDate

/-- What a write makes of the sessions. -/
inductive SessionsWritten (db : Db) (sessions : List PosCashSession) : Prop
  | opened (session : PosCashSession) (fresh : session.id = db.freshCashSessionId)
      (unclosed : session.closedAt = none) (rows : sessions = db.cashSessions ++ [session])
  | changed (keys : List ℕ) (change : PosCashSession → PosCashSession)
      (rows : sessions = update (·.id) keys change db.cashSessions)
      (same : ∀ row, SameSession row (change row)) (closes : ∀ row, (change row).status = .opened →
      row.status = .opened ∧ (change row).closedAt = row.closedAt)

private theorem CashWrite.sessionsWritten {write : CashWrite}
    (written : write.apply db = some after) :
    SessionsWritten db after.cashSessions := by
  cases write with
  | opening scope openingAmount businessDate =>
    obtain rfl := Option.some.inj written
    exact .opened _ rfl rfl rfl
  | movement scope session saleId flow amount =>
    obtain rfl := Option.some.inj written
    exact .changed _ _ rfl (fun _ => ⟨rfl, rfl, rfl, rfl⟩) fun _ opened => ⟨opened, rfl⟩
  | close scope session countedCash =>
    obtain rfl := Option.some.inj written
    exact .changed _ _ rfl (fun _ => ⟨rfl, rfl, rfl, rfl⟩) fun _ opened => absurd opened (by simp)
  | dayClose scope payload openIds rollup =>
    rw [apply] at written
    split_ifs at written
    obtain rfl := Option.some.inj written
    exact .changed _ _ rfl (fun _ => ⟨rfl, rfl, rfl, rfl⟩) fun _ opened => absurd opened (by simp)

/-- Sessions stay, and their identifiers stay distinct. -/
structure SessionsKept (db after : Db) : Prop where
  distinct : (db.cashSessions.map (·.id)).Nodup → (after.cashSessions.map (·.id)).Nodup
  stays : ∀ session ∈ db.cashSessions, ∃ next ∈ after.cashSessions, SameSession session next
  unclosed : (∀ session ∈ db.cashSessions, session.status = .opened → session.closedAt = none) →
    ∀ session ∈ after.cashSessions, session.status = .opened → session.closedAt = none

theorem SessionsKept.of_eq (same : after.cashSessions = db.cashSessions) :
    SessionsKept db after := by
  constructor
  · rw [same]
    exact id
  · rw [same]
    exact fun session member => ⟨session, member, rfl, rfl, rfl, rfl⟩
  · rw [same]
    exact id

theorem SessionsWritten.kept (written : SessionsWritten db after.cashSessions) :
    SessionsKept db after := by
  cases written with
  | opened session fresh unclosed rows =>
    constructor
    · rintro distinct
      rw [rows, List.map_append, List.map_singleton]
      refine List.Nodup.append distinct (List.nodup_singleton _) fun id old new => ?_
      obtain ⟨other, member, rfl⟩ := List.mem_map.mp old
      have below := freshCashSessionId_unused member
      have equal := List.mem_singleton.mp new
      omega
    · rw [rows]
      exact fun other member => ⟨other, List.mem_append_left _ member, rfl, rfl, rfl, rfl⟩
    · rintro before other member opened
      rw [rows] at member
      rcases List.mem_append.mp member with old | new
      · exact before other old opened
      · rw [List.mem_singleton.mp new]
        exact unclosed
  | changed keys change rows same closes =>
    constructor
    · rw [rows, map_key_update fun row => (same row).id]
      exact id
    · rintro session member
      rw [rows]
      refine ⟨_, mem_update.mpr ⟨session, member, rfl⟩, ?_⟩
      split
      · exact same session
      · exact ⟨rfl, rfl, rfl, rfl⟩
    · rintro before session member opened
      rw [rows] at member
      rcases mem_update_cases member with ⟨old, _⟩ | ⟨row, old, _, rfl⟩
      · exact before session old opened
      · obtain ⟨wasOpen, stamp⟩ := closes row opened
        rw [stamp]
        exact before row old wasOpen

theorem CashEvent.sessionsKept (event : CashEvent db after) : SessionsKept db after := by
  cases event with
  | idle same => exact .of_eq (congrArg CashLedger.sessions same)
  | outside movement _ same => exact .of_eq (congrArg CashLedger.sessions same)
  | written write cash _ applied same =>
    have rows : after.cashSessions = cash.cashSessions := congrArg CashLedger.sessions same
    apply SessionsWritten.kept
    rw [rows]
    exact CashWrite.sessionsWritten applied

/-- A request of the cash router keeps every cut one of a session of its store. -/
theorem cashStep_cuts (cuts : CutsOwned db) {request : CashRequest}
    (success : cashStep db request = .ok after) :
    ∀ cut ∈ after.cashCuts, ∃ session ∈ db.cashSessions, cut.IsOf session := by
  cases request with
  | sessionAction context payload =>
    rw [(cashSessionAction_ok success).tables]
    exact cuts.owned
  | createCut context payload =>
    simp only [cashStep, createCashCut, Checked.bind_eq_ok, Checked.fetch_eq_ok] at success
    obtain ⟨_, _, _, _, tenantId, _, _, _, storeId, _, _, _, session, found, _, _, totals, _,
      success⟩ := success
    have owner := resolveActiveSession_open found
    have owned (cut : PosCashCut) (member : cut ∈ after.cashCuts)
        (rows : ∃ new : PosCashCut, new.IsOf session ∧ after.cashCuts = db.cashCuts ++ [new]) :
        ∃ session ∈ db.cashSessions, cut.IsOf session := by
      obtain ⟨new, isOf, same⟩ := rows
      rw [same] at member
      rcases List.mem_append.mp member with old | added
      · exact cuts.owned cut old
      · obtain rfl := List.mem_singleton.mp added
        exact ⟨session, owner.member, isOf⟩
    split at success
    · have removed := removeDeposit_ok (by exact owner.member) success
      exact fun cut member =>
        owned cut member ⟨_, ⟨rfl, owner.tenant, owner.store⟩, by rw [removed.tables]⟩
    · obtain rfl := Checked.pure_eq_ok.mp success
      exact fun cut member => owned cut member ⟨_, ⟨rfl, owner.tenant, owner.store⟩, rfl⟩
  | cutAction context cutId payload =>
    have kept {cutId : ℕ} {change : PosCashCut → PosCashCut}
        (same : ∀ row, (change row).cashSessionId = row.cashSessionId ∧
        (change row).tenantId = row.tenantId ∧
          (change row).storeId = row.storeId) :
        ∀ cut ∈ update (·.id) [cutId] change db.cashCuts, ∃ session ∈ db.cashSessions,
            cut.IsOf session := by
      rintro cut member
      rcases mem_update_cases member with ⟨old, _⟩ | ⟨row, old, _, rfl⟩
      · exact cuts.owned cut old
      · obtain ⟨session, isSession, named, tenant, store⟩ := cuts.owned row old
        obtain ⟨sameSession, sameTenant, sameStore⟩ := same row
        exact ⟨session, isSession, named.trans sameSession.symm, tenant.trans sameTenant.symm,
          store.trans sameStore.symm⟩
    simp only [cashStep, cashCutAction, Checked.bind_eq_ok] at success
    obtain ⟨_, _, _, _, tenantId, _, storeId, _, _, _, cut, _, success⟩ := success
    cases action : payload.action with
    | complete countedCash =>
      simp only [action, Checked.bind_eq_ok, Checked.pure_eq_ok] at success
      obtain ⟨_, _, rfl⟩ := success
      exact kept fun _ => ⟨rfl, rfl, rfl⟩
    | void =>
      simp only [action, Checked.pure_eq_ok] at success
      obtain rfl := success
      exact kept fun _ => ⟨rfl, rfl, rfl⟩
    | printMark =>
      simp only [action, Checked.pure_eq_ok] at success
      obtain rfl := success
      exact cuts.owned
    | applyCashOut amount =>
      simp only [action, Checked.bind_eq_ok, Checked.fetch_eq_ok, Option.filter_eq_some_iff,
        Checked.pure_eq_ok] at success
      obtain ⟨amount, _, session, ⟨found, _⟩, paidOut, removed, rfl⟩ := success
      have removed := removeDeposit_ok (List.mem_of_find?_eq_some found) removed
      have same : paidOut.cashCuts = db.cashCuts := by rw [removed.tables]
      rw [Db.updateCashCut, same]
      exact kept fun _ => ⟨rfl, rfl, rfl⟩
  | closeDay context payload =>
    simp only [cashStep, closeDay, Checked.bind_eq_ok, Checked.pure_eq_ok] at success
    obtain ⟨_, _, _, _, tenantId, _, _, _, storeId, _, _, _, _, _, _, _, _, _, _, _, rfl⟩ := success
    exact cuts.owned

/-! ## All requests -/

theorem systemStep_event (cuts : CutsOwned db) {request : SystemRequest}
    (success : systemStep db request = .ok after) :
    CashEvent db after := by
  cases request with
  | sale request => exact saleStep_event success
  | returns request => exact .idle (by rw [(returnStep_ok success).tables]; rfl)
  | advance request => exact advanceStep_event success
  | cash request => exact cashStep_event cuts success
  | transfer request => exact .idle (by rw [(transferStep_ok success).tables]; rfl)

theorem SaleEffect.cashCuts {request : SaleRequest} (effect : SaleEffect db after request) :
    after.cashCuts = db.cashCuts := by
  cases effect with
  | created sale lines step => rw [step.tables]
  | updated tenantId sale target lines step => rw [step.tables]
  | canceled sale target step => rw [step.tables]
  | refunded sale target items session step => rw [step.tables]
  | exchanged sale target items lines exchangeSale delta batch session step => rw [step.tables]
  | checkedOut sale target totals advance batch step => rw [step.tables]

theorem CutsOwned.step (cuts : CutsOwned db) {request : SystemRequest}
    (success : systemStep db request = .ok after) :
    CutsOwned after := by
  have kept := (systemStep_event cuts success).sessionsKept
  have owned : ∀ cut ∈ after.cashCuts, ∃ session ∈ db.cashSessions, cut.IsOf session := by
    cases request with
    | sale request =>
      rw [(saleStep_ok success).cashCuts]
      exact cuts.owned
    | returns request =>
      rw [(returnStep_ok success).tables]
      exact cuts.owned
    | advance request =>
      rw [(advanceStep_ok success).tables]
      exact cuts.owned
    | cash request => exact cashStep_cuts cuts success
    | transfer request =>
      rw [(transferStep_ok success).tables]
      exact cuts.owned
  refine ⟨kept.distinct cuts.distinct, fun cut member => ?_⟩
  obtain ⟨session, isSession, named, tenant, store⟩ := owned cut member
  obtain ⟨next, isNext, id, sameTenant, sameStore, _⟩ := kept.stays session isSession
  exact ⟨next, isNext, id.trans named, sameTenant.trans tenant, sameStore.trans store⟩

end ArisCloud

import ArisCloud.Soundness.CashRaces
import Mathlib.Data.Fintype.Basic

/-! # Open sessions and day closes under interleaved requests

Opening a session checks that the cashier has none and that the date is not closed, and a day close
locks the sessions that it finds open and adds the movements up. Rows that do not exist yet cannot
be locked, so a session may be opened twice, or opened after a day close has looked, and an unlocked
movement may commit after the close has counted. When no commit does any of this, a cashier has one
open session at most, no session is open on a closed date, and every day close has the cash of all
movements of its date.
-/

namespace ArisCloud

open KeyedRows Requests Transactions

variable {ι : Type} {db after : Db} {holder : CashLock → Option ι} {connection other : ι}
    {session : PosCashSession}
  {scope : CashScope} {use : SessionUse} {phase : CashPhase} {write : CashWrite} {locked : Bool}

/-! ## The cash of a date -/

/-- How a movement counts in the cash of its date. -/
def CashAction.rollupSign : CashAction → ℚ
  | .opening | .cashIn | .sale => 1
  | .cashOut | .cashOutRefund => -1
  | .close | .dayClose | .voucherIssuance _ | .voucherRefund _ => 0

def PosCashMovement.isOn (tenantId storeId businessDate : ℕ) (movement : PosCashMovement) : Prop :=
  movement.tenantId = tenantId ∧ movement.storeId = storeId ∧ movement.businessDate = businessDate

instance (tenantId storeId businessDate : ℕ) (movement : PosCashMovement) :
    Decidable (movement.isOn tenantId storeId businessDate) :=
  inferInstanceAs (Decidable (_ ∧ _))

private theorem amountsOn_append (db after : Db) {movement : PosCashMovement}
    (moved : after.cashMovements = db.cashMovements ++ [movement])
    (tenantId storeId businessDate : ℕ) (action : CashAction) :
    amountsOn after tenantId storeId businessDate action =
      amountsOn db tenantId storeId businessDate action ++
        if movement.isOn tenantId storeId businessDate ∧ movement.action = action then
        [movement.amount] else [] := by
  rw [amountsOn, moved, List.filter_append, List.map_append, ← amountsOn]
  congr 1
  by_cases here : movement.isOn tenantId storeId businessDate ∧ movement.action = action
  · obtain ⟨⟨rfl, rfl, rfl⟩, rfl⟩ := here
    simp [PosCashMovement.isOn]
  · have off : (decide (movement.tenantId = tenantId) && decide (movement.storeId = storeId) &&
        decide (movement.businessDate = businessDate) && decide (movement.action = action)) =
        false := by
      simpa [PosCashMovement.isOn, and_assoc] using here
    rw [if_neg here, List.filter_cons_of_neg (by rw [off]; exact Bool.false_ne_true),
      List.filter_nil, List.map_nil]

/-- A movement that is not of the date or does not count leaves the reconciliation of the date
alone. -/
theorem rollup_append (db after : Db) {movement : PosCashMovement}
    (moved : after.cashMovements = db.cashMovements ++ [movement])
    {tenantId storeId businessDate : ℕ} (apart : movement.isOn tenantId storeId businessDate →
      movement.action.rollupSign = 0) :
    reconciliationRollup after tenantId storeId businessDate =
    reconciliationRollup db tenantId storeId businessDate := by
  have kept (action : CashAction) (counts : action.rollupSign ≠ 0) :
      amountsOn after tenantId storeId businessDate action =
      amountsOn db tenantId storeId businessDate action := by
    rw [amountsOn_append db after moved, if_neg, List.append_nil]
    rintro ⟨here, rfl⟩
    exact counts (apart here)
  simp only [reconciliationRollup, kept .opening one_ne_zero, kept .cashIn one_ne_zero,
    kept .sale one_ne_zero, kept .cashOut (by decide), kept .cashOutRefund (by decide)]

/-! ## Coherent tables -/

/-- The open sessions of a cashier. -/
def isOpenOf (tenantId storeId cashierUserId : ℕ) (session : PosCashSession) : Bool :=
  session.tenantId = tenantId && session.storeId = storeId && session.cashierUserId =
    cashierUserId && session.status = .opened

structure DayCloseCoherent (db : Db) : Prop where
  oneOpen : ∀ tenantId storeId cashierUserId, db.cashSessions.countP
    (isOpenOf tenantId storeId cashierUserId) ≤ 1
  noneOpen : ∀ session ∈ db.cashSessions, session.status = .opened →
    ¬ isDayClosed db session.tenantId session.storeId session.businessDate
  reconciled : ∀ dayClose ∈ db.dayCloses, dayClose.rollup.expectedCash =
    (reconciliationRollup db dayClose.tenantId dayClose.storeId dayClose.businessDate).expectedCash

/-- What the checks of a request have found still holds at its commit. -/
def CashWrite.ChecksHold (db : Db) : CashWrite → Prop
  | .opening scope _ businessDate =>
    (∀ session ∈ db.cashSessions, isOwnOpen scope session = false) ∧
      ¬ isDayClosed db scope.tenantId scope.storeId businessDate
  | .movement scope session _ _ _ =>
    ¬ isDayClosed db scope.tenantId scope.storeId session.businessDate
  | .close .. => True
  | .dayClose scope payload openIds rollup =>
    ¬ isDayClosed db scope.tenantId scope.storeId payload.businessDate →
    (∀ session ∈ openSessionsOf db scope payload.businessDate, session.id ∈ openIds) ∧
      rollup.expectedCash =
      (reconciliationRollup db scope.tenantId scope.storeId payload.businessDate).expectedCash

private theorem rollup_of_ledger (same : after.ledger = db.ledger)
    (tenantId storeId businessDate : ℕ) :
    reconciliationRollup after tenantId storeId businessDate =
    reconciliationRollup db tenantId storeId businessDate := by
  have movements : after.cashMovements = db.cashMovements := congrArg CashLedger.movements same
  simp only [reconciliationRollup, amountsOn, movements]

theorem DayCloseCoherent.of_ledger (coherent : DayCloseCoherent db)
    (same : after.ledger = db.ledger) :
    DayCloseCoherent after := by
  obtain ⟨oneOpen, noneOpen, reconciled⟩ := coherent
  have rollup := rollup_of_ledger same
  simp only [Db.ledger, CashLedger.mk.injEq] at same
  obtain ⟨sessions, _, dayCloses⟩ := same
  constructor
  · rw [sessions]
    exact oneOpen
  · simp only [sessions, isDayClosed, dayCloses]
    exact noneOpen
  · rw [dayCloses]
    intro dayClose member
    rw [reconciled dayClose member, rollup]

/-- A day close commits on a date that is not closed yet. -/
theorem CashWrite.dayClose_free {payload : PosCashDayCloseActionRequest} {openIds : List ℕ}
    {rollup : CashRollup}
    (written : (dayClose scope payload openIds rollup).apply db = some after) :
    ¬ isDayClosed db scope.tenantId scope.storeId payload.businessDate := by
  rintro closed
  rw [apply, if_pos closed] at written
  contradiction

/-- A date that is closed after a commit was closed before, or is the one that the commit closes. -/
theorem CashWrite.isDayClosed_apply (written : write.apply db = some after)
    {tenantId storeId businessDate : ℕ} (closed : isDayClosed after tenantId storeId businessDate) :
    isDayClosed db tenantId storeId businessDate ∨
      ∃ scope payload openIds rollup, write = .dayClose scope payload openIds rollup ∧
      scope.tenantId = tenantId ∧
        scope.storeId = storeId ∧ payload.businessDate = businessDate := by
  cases write with
  | opening | movement | close =>
    obtain rfl := Option.some.inj written
    exact .inl closed
  | dayClose scope payload openIds rollup =>
    rw [apply] at written
    split_ifs at written
    obtain rfl := Option.some.inj written
    obtain ⟨dayClose, member, tenant, store, date⟩ := closed
    rcases List.mem_append.mp member with old | new
    · exact .inl ⟨dayClose, old, tenant, store, date⟩
    · obtain rfl := List.mem_singleton.mp new
      exact .inr ⟨scope, payload, openIds, rollup, rfl, tenant, store, date⟩

/-- A commit opens no second session of a cashier. -/
theorem CashWrite.oneOpen_apply (checks : write.ChecksHold db)
    (written : write.apply db = some after) (coherent : DayCloseCoherent db)
    (tenantId storeId cashierUserId : ℕ) :
    after.cashSessions.countP (isOpenOf tenantId storeId cashierUserId) ≤ 1 := by
  have shrinks (keys : List ℕ) (change : PosCashSession → PosCashSession)
      (keeps : ∀ row, isOpenOf tenantId storeId cashierUserId (change row) →
      isOpenOf tenantId storeId cashierUserId row) :
      (update (·.id) keys change db.cashSessions).countP (isOpenOf tenantId storeId cashierUserId) ≤
      1 :=
    (countP_update_le keeps).trans (coherent.oneOpen ..)
  cases write with
  | opening scope openingAmount businessDate =>
    obtain rfl := Option.some.inj written
    change (db.cashSessions ++ [_]).countP _ ≤ 1
    rw [List.countP_append, List.countP_singleton]
    split
    · next own =>
      simp only [isOpenOf, Bool.and_eq_true, decide_eq_true_eq] at own
      obtain ⟨⟨⟨rfl, rfl⟩, rfl⟩, _⟩ := own
      have free : db.cashSessions.countP (isOwnOpen scope) = 0 :=
        List.countP_eq_zero.mpr fun session member => by simp [checks.1 session member]
      have same : isOpenOf scope.tenantId scope.storeId scope.context.userId = isOwnOpen scope :=
        rfl
      rw [same]
      omega
    · exact coherent.oneOpen ..
  | movement scope session saleId flow amount =>
    obtain rfl := Option.some.inj written
    exact shrinks _ _ fun _ => id
  | close scope session countedCash =>
    obtain rfl := Option.some.inj written
    exact shrinks _ _ fun _ => by simp [isOpenOf]
  | dayClose scope payload openIds rollup =>
    rw [apply] at written
    split_ifs at written
    obtain rfl := Option.some.inj written
    exact shrinks _ _ fun _ => by simp [isOpenOf]

/-- The sessions that a day close closes. -/
def CashWrite.closedRows : CashWrite → List ℕ
  | .dayClose _ _ openIds _ => openIds
  | _ => []

/-- An open session was open before, with the same columns, or was just opened. -/
theorem CashWrite.opened_apply (written : write.apply db = some after)
    (member : session ∈ after.cashSessions) (opened : session.status = .opened) :
    (∃ before ∈ db.cashSessions, before.status = .opened ∧ before.id = session.id ∧
      before.tenantId = session.tenantId ∧
      before.storeId = session.storeId ∧ before.businessDate = session.businessDate ∧
      before.id ∉ write.closedRows) ∨
    ∃ scope openingAmount, write = .opening scope openingAmount session.businessDate ∧
      session.tenantId = scope.tenantId ∧
      session.storeId = scope.storeId := by
  cases write with
  | opening scope openingAmount businessDate =>
    obtain rfl := Option.some.inj written
    rcases List.mem_append.mp member with old | new
    · exact .inl ⟨session, old, opened, rfl, rfl, rfl, rfl, List.not_mem_nil⟩
    · obtain rfl := List.mem_singleton.mp new
      exact .inr ⟨scope, openingAmount, rfl, rfl, rfl⟩
  | movement scope read saleId flow amount =>
    obtain rfl := Option.some.inj written
    obtain ⟨before, old, same⟩ := mem_update.mp member
    by_cases touched : before.id ∈ [read.id]
    · rw [if_pos touched] at same
      subst same
      exact .inl ⟨before, old, opened, rfl, rfl, rfl, rfl, List.not_mem_nil⟩
    · rw [if_neg touched] at same
      subst same
      exact .inl ⟨before, old, opened, rfl, rfl, rfl, rfl, List.not_mem_nil⟩
  | close scope read countedCash =>
    obtain rfl := Option.some.inj written
    obtain ⟨before, old, same⟩ := mem_update.mp member
    by_cases touched : before.id ∈ [read.id]
    · rw [if_pos touched] at same
      subst same
      contradiction
    · rw [if_neg touched] at same
      subst same
      exact .inl ⟨before, old, opened, rfl, rfl, rfl, rfl, List.not_mem_nil⟩
  | dayClose scope payload openIds rollup =>
    rw [apply] at written
    split_ifs at written
    obtain rfl := Option.some.inj written
    obtain ⟨before, old, same⟩ := mem_update.mp member
    by_cases touched : before.id ∈ openIds
    · rw [if_pos touched] at same
      subst same
      contradiction
    · rw [if_neg touched] at same
      subst same
      exact .inl ⟨before, old, opened, rfl, rfl, rfl, rfl, touched⟩

/-- A commit leaves no session open on a closed date. -/
theorem CashWrite.noneOpen_apply (checks : write.ChecksHold db)
    (written : write.apply db = some after) (coherent : DayCloseCoherent db)
    (member : session ∈ after.cashSessions) (opened : session.status = .opened) :
    ¬ isDayClosed after session.tenantId session.storeId session.businessDate := by
  rintro closed
  rcases CashWrite.opened_apply written member opened with
    ⟨before, old, wasOpen, _, tenant, store, date, kept⟩ | ⟨scope, openingAmount, rfl,
      tenant, store⟩
  · rcases CashWrite.isDayClosed_apply written closed with already | ⟨scope, payload, openIds,
      rollup, rfl, ours⟩
    · rw [← tenant, ← store, ← date] at already
      exact coherent.noneOpen before old wasOpen already
    · apply kept
      refine (checks (CashWrite.dayClose_free written)).1 before (List.mem_filter.mpr ⟨old, ?_⟩)
      obtain ⟨ownTenant, ownStore, ownDate⟩ := ours
      simp [tenant, store, date, wasOpen, ownTenant, ownStore, ownDate]
  · rcases CashWrite.isDayClosed_apply written closed with before | ⟨_, _, _, _, other, _⟩
    · rw [tenant, store] at before
      exact checks.2 before
    · contradiction

/-- A commit records a movement that counts on a date. -/
def CashWrite.CountsOn (tenantId storeId businessDate : ℕ) : CashWrite → Prop
  | .opening scope _ date =>
    scope.tenantId = tenantId ∧ scope.storeId = storeId ∧ date = businessDate
  | .movement scope session _ _ _ =>
    scope.tenantId = tenantId ∧ scope.storeId = storeId ∧ session.businessDate = businessDate
  | .close .. | .dayClose .. => False

private theorem CashWrite.rollup_apply (written : write.apply db = some after)
    {tenantId storeId businessDate : ℕ} (apart : ¬ write.CountsOn tenantId storeId businessDate) :
    reconciliationRollup after tenantId storeId businessDate =
    reconciliationRollup db tenantId storeId businessDate := by
  cases write with
  | opening | movement =>
    obtain rfl := Option.some.inj written
    refine rollup_append db _ rfl ?_
    rintro ⟨tenant, store, date⟩
    exact absurd ⟨tenant, store, date⟩ apart
  | close =>
    obtain rfl := Option.some.inj written
    exact rollup_append db _ rfl fun _ => rfl
  | dayClose =>
    rw [apply, if_neg (CashWrite.dayClose_free written)] at written
    obtain rfl := Option.some.inj written
    exact rollup_append db _ rfl fun _ => rfl

/-- A commit keeps the cash of every day close the cash of its date. -/
theorem CashWrite.reconciled_apply (checks : write.ChecksHold db)
    (written : write.apply db = some after) (coherent : DayCloseCoherent db)
    {dayClose : PosCashDayClose} (member : dayClose ∈ after.dayCloses) :
    dayClose.rollup.expectedCash =
      (reconciliationRollup after dayClose.tenantId dayClose.storeId
        dayClose.businessDate).expectedCash := by
  have kept (old : dayClose ∈ db.dayCloses) : dayClose.rollup.expectedCash =
      (reconciliationRollup after dayClose.tenantId dayClose.storeId
      dayClose.businessDate).expectedCash := by
    have closed : isDayClosed db dayClose.tenantId dayClose.storeId dayClose.businessDate :=
      ⟨dayClose, old, rfl, rfl, rfl⟩
    rw [CashWrite.rollup_apply written, coherent.reconciled dayClose old]
    intro counts
    cases write with
    | opening =>
      obtain ⟨tenant, store, date⟩ := counts
      exact absurd closed (by rw [← tenant, ← store, ← date]; exact checks.2)
    | movement =>
      obtain ⟨tenant, store, date⟩ := counts
      exact absurd closed (by rw [← tenant, ← store, ← date]; exact checks)
    | close | dayClose => exact counts
  cases write with
  | opening | movement | close =>
    obtain rfl := Option.some.inj written
    exact kept member
  | dayClose scope payload openIds rollup =>
    have free := CashWrite.dayClose_free written
    have settled : reconciliationRollup after scope.tenantId scope.storeId payload.businessDate =
        reconciliationRollup db scope.tenantId scope.storeId payload.businessDate :=
        CashWrite.rollup_apply written id
    rw [apply, if_neg free] at written
    obtain rfl := Option.some.inj written
    rcases List.mem_append.mp member with old | new
    · exact kept old
    · obtain rfl := List.mem_singleton.mp new
      rw [settled]
      exact (checks free).2

theorem DayCloseCoherent.apply (coherent : DayCloseCoherent db) (checks : write.ChecksHold db)
    (written : write.apply db = some after) : DayCloseCoherent after := by
  constructor
  · exact CashWrite.oneOpen_apply checks written coherent
  · intro session member opened
    exact CashWrite.noneOpen_apply checks written coherent member opened
  · intro dayClose member
    exact CashWrite.reconciled_apply checks written coherent member

/-! ## Locked rows -/

/-- A request that locked its session still holds the lock, and the session is the row that was
read. -/
def LockedSession (db : Db) (holder : CashLock → Option ι) (connection : ι) (scope : CashScope)
    (session : PosCashSession) :
    Prop :=
  holder (.session session.id) = some connection ∧ session ∈ db.cashSessions ∧
    session.tenantId = scope.tenantId ∧ session.storeId = scope.storeId

/-- A day close closes every session that is open on its date, and holds their locks. -/
def LockedDate (db : Db) (holder : CashLock → Option ι) (connection : ι) (scope : CashScope)
    (businessDate : ℕ) (openIds : List ℕ) : Prop :=
  ∀ session ∈ openSessionsOf db scope businessDate,
    session.id ∈ openIds ∧ holder (.session session.id) = some connection

/-- The totals that a day close has added up are those of the movements of its date. -/
def Counted (db : Db) (scope : CashScope) (businessDate : ℕ) (rollup : CashRollup) : Prop :=
  rollup = reconciliationRollup db scope.tenantId scope.storeId businessDate

/-- What a request in some phase knows about the sessions that it locked and the movements that it
counted. -/
def PhaseLocked (db : Db) (holder : CashLock → Option ι) (connection : ι) : CashPhase → Prop
  | .found scope session true use => LockedSession db holder connection scope session ∧
    (session.status = .opened ∨ ∃ cashSessionId amount, use = .cutAction cashSessionId amount)
  | .writing true (.movement scope session _ _ _) _ =>
    LockedSession db holder connection scope session ∧ session.status = .opened
  | .counting scope payload openIds =>
    LockedDate db holder connection scope payload.businessDate openIds
  | .writing _ (.dayClose scope payload openIds rollup) _ =>
    LockedDate db holder connection scope payload.businessDate openIds ∧
      Counted db scope payload.businessDate rollup
  | _ => True

/-- A lookup selects sessions of the caller's store that are open, unless it leaves the status to
the checks. -/
theorem SessionUse.selects_ok (selected : use.selects db scope session = true) :
    session.tenantId = scope.tenantId ∧ session.storeId = scope.storeId ∧
      (session.status = .opened ∨ ∃ cashSessionId amount,
        use = .cutAction cashSessionId amount) := by
  cases use with
  | cutAction cashSessionId amount =>
    simp only [selects, Bool.and_eq_true, decide_eq_true_eq] at selected
    obtain ⟨⟨_, tenant⟩, store⟩ := selected
    exact ⟨tenant, store, .inr ⟨cashSessionId, amount, rfl⟩⟩
  | createCut cashSessionId depositRemoved removes =>
    cases cashSessionId <;>
    · simp only [selects, selectsOpen, isOwnOpen, Bool.and_eq_true, decide_eq_true_eq] at selected
      tauto
  | _ =>
    simp only [selects, selectsOpen, isOwnOpen, Bool.and_eq_true, decide_eq_true_eq] at selected
    tauto

private theorem SessionUse.plan_status {cashSessionId : ℕ} {amount : ℚ} {saleId : Option ℕ}
    {flow : CashFlow} {moved : ℚ}
    (planned : (cutAction cashSessionId amount).plan db scope session = .ok
      (.movement scope session saleId flow moved)) :
    session.status = .opened := by
  simp only [plan, Checked.bind_eq_ok, Checked.ensure_eq_ok, exists_const] at planned
  obtain ⟨_, _, opened, _⟩ := planned
  exact opened

theorem PhaseLocked.read {locks : List CashLock} {next : CashPhase}
    (known : PhaseLocked db holder connection phase) (read : CashRead db phase locks next) :
    PhaseLocked db (acquire holder connection locks) connection next := by
  cases read with
  | found _ scope use session found =>
    cases locks : use.forUpdate with
    | false => trivial
    | true =>
      obtain ⟨member, selected⟩ := List.mem_filter.mp (SessionUse.lookup_selected found)
      obtain ⟨tenant, store, status⟩ := SessionUse.selects_ok selected
      exact ⟨⟨acquire_of_mem (SessionUse.lookup_locked found locks), member, tenant, store⟩, status⟩
  | planned scope session locked use write planned =>
    rcases SessionUse.plan_ok planned with ⟨countedCash, rfl⟩ | ⟨saleId, flow, amount, rfl, _⟩
    · cases locked <;> trivial
    · cases locked with
      | false => trivial
      | true =>
        obtain ⟨own, status⟩ := known
        refine ⟨own, ?_⟩
        rcases status with opened | ⟨_, _, rfl⟩
        · exact opened
        · exact SessionUse.plan_status planned
  | counting scope payload =>
    exact fun session member =>
      ⟨List.mem_map_of_mem member, acquire_of_mem (List.mem_map_of_mem member)⟩
  | counted scope payload openIds => exact ⟨known, rfl⟩
  | dateOpen | opening | numbered | ready | unmatched | fallback | undecided | failed => trivial

/-! ## Races for a date -/

/-- A close of the date that has looked at its open sessions, and has not committed. -/
def CashPhase.hasLooked (tenantId storeId businessDate : ℕ) : CashPhase → Bool
  | .counting scope payload _ | .writing _ (.dayClose scope payload _ _) _ =>
    scope.tenantId = tenantId && scope.storeId = storeId && payload.businessDate = businessDate
  | _ => false

/-- A close of the date that has added its movements up, and has not committed. -/
def CashPhase.hasCounted (tenantId storeId businessDate : ℕ) : CashPhase → Bool
  | .writing _ (.dayClose scope payload _ _) _ =>
    scope.tenantId = tenantId && scope.storeId = storeId && payload.businessDate = businessDate
  | _ => false

/-- A session is opened when the cashier has none and no close of its date is closed or under way,
and a movement without the lock of its session commits when no close of its date is closed or has
counted. All other commits are free. -/
def CashWrite.Unraced (config : Config Db CashLock CashPhase ι) (locked : Bool) : CashWrite → Prop
  | .opening scope _ businessDate =>
    (∀ session ∈ config.committed.cashSessions, isOwnOpen scope session = false) ∧
    ¬ isDayClosed config.committed scope.tenantId scope.storeId businessDate ∧
      ∀ other, (config.phase other).hasLooked scope.tenantId scope.storeId businessDate = false
  | .movement scope session _ _ _ => locked = true ∨
    (¬ isDayClosed config.committed scope.tenantId scope.storeId session.businessDate ∧
      ∀ other, (config.phase other).hasCounted scope.tenantId scope.storeId session.businessDate =
      false)
  | .close .. | .dayClose .. => True

instance [Fintype ι] (config : Config Db CashLock CashPhase ι) (locked : Bool) :
    (write : CashWrite) → Decidable (write.Unraced config locked)
  | .opening .. => inferInstanceAs (Decidable (_ ∧ _))
  | .movement .. => inferInstanceAs (Decidable (_ ∨ _))
  | .close .. | .dayClose .. => inferInstanceAs (Decidable True)

/-- The write that a request is about to commit, and whether it holds the lock of its session. -/
def CashPhase.pending : CashPhase → Option (Bool × CashWrite)
  | .writing locked write _ => some (locked, write)
  | _ => none

/-- The request that moves does not commit what races with a day close or with another opening. -/
def CommitUnraced (config : Config Db CashLock CashPhase ι) (move : ι × Move) : Prop :=
  move.2 = .proceed → ∀ pending ∈ (config.phase move.1).pending, pending.2.Unraced config pending.1

instance [Fintype ι] (config : Config Db CashLock CashPhase ι) (move : ι × Move) :
    Decidable (CommitUnraced config move) :=
  inferInstanceAs (Decidable (move.2 = .proceed → _))

variable {config next : Config Db CashLock CashPhase ι} {voucher : Option VoucherWrite}

/-- What a commit has checked holds: by the lock of its session, by those of a date, or because
nothing races with it. -/
theorem checksHold_of_unraced (guarded : config.Guarded DayCloseCoherent PhaseLocked)
    (here : config.phase connection = .writing locked write voucher)
    (unraced : write.Unraced config locked) :
    write.ChecksHold config.committed := by
  have known := guarded.phases connection
  rw [here] at known
  cases write with
  | opening => exact ⟨unraced.1, unraced.2.1⟩
  | movement scope session saleId flow amount =>
    rcases unraced with rfl | unlocked
    · obtain ⟨⟨_, member, tenant, store⟩, opened⟩ := known
      change ¬ isDayClosed config.committed scope.tenantId scope.storeId session.businessDate
      rw [← tenant, ← store]
      exact guarded.tables.noneOpen session member opened
    · exact unlocked.1
  | close => trivial
  | dayClose scope payload openIds rollup =>
    obtain ⟨locks, counted⟩ : LockedDate _ _ _ _ _ _ ∧ Counted _ _ _ _ := by cases locked <;>
      exact known
    exact fun _ =>
      ⟨fun session member => (locks session member).1, congrArg CashRollup.expectedCash counted⟩

/-- A commit that counts on a date after a close of the date has counted, races with it. -/
theorem not_countsOn_of_unraced (guarded : config.Guarded DayCloseCoherent PhaseLocked)
    (here : config.phase connection = .writing locked write voucher)
    (unraced : write.Unraced config locked) (apart : other ≠ connection) {counting : Bool}
    {payload : PosCashDayCloseActionRequest} {openIds : List ℕ} {rollup : CashRollup}
    {with_ : Option VoucherWrite}
    (there : config.phase other = .writing counting (.dayClose scope payload openIds rollup)
      with_) :
    ¬ write.CountsOn scope.tenantId scope.storeId payload.businessDate := by
  intro counts
  cases write with
  | opening =>
    obtain ⟨tenant, store, date⟩ := counts
    have looked := unraced.2.2 other
    simp [there, CashPhase.hasLooked, tenant, store, date] at looked
  | movement own session saleId flow amount =>
    obtain ⟨tenant, store, date⟩ := counts
    rcases unraced with rfl | unlocked
    · -- Both requests would hold the lock of the session.
      have known := guarded.phases connection
      have closing := guarded.phases other
      rw [here] at known
      rw [there] at closing
      obtain ⟨⟨holds, member, ownTenant, ownStore⟩, opened⟩ := known
      obtain ⟨locks, _⟩ : LockedDate _ _ _ _ _ _ ∧ Counted _ _ _ _ := by cases counting <;>
        exact closing
      have onDate : session ∈ openSessionsOf config.committed scope payload.businessDate := by
        refine List.mem_filter.mpr ⟨member, ?_⟩
        simp [ownTenant, ownStore, tenant, store, date, opened]
      have held := (locks session onDate).2
      exact apart (Option.some.inj (held.symm.trans holds))
    · have counted := unlocked.2 other
      simp [there, CashPhase.hasCounted, tenant, store, date] at counted
  | close | dayClose => exact counts

/-- What a commit of another request may leave of a date that a close has looked at. -/
theorem LockedDate.applyWith {businessDate : ℕ} {openIds : List ℕ}
    (known : LockedDate db holder other scope businessDate openIds)
    (written : write.applyWith voucher db = some after)
    (unopened : ∀ own openingAmount, write = .opening own openingAmount businessDate →
      own.tenantId = scope.tenantId →
      own.storeId ≠ scope.storeId) : LockedDate after holder other scope businessDate openIds := by
  obtain ⟨cash, applied, same⟩ := CashWrite.applyWith_eq written
  have rows : after.cashSessions = cash.cashSessions := congrArg CashLedger.sessions same
  intro session listed
  obtain ⟨member, selected⟩ := List.mem_filter.mp listed
  simp only [Bool.and_eq_true, decide_eq_true_eq] at selected
  obtain ⟨⟨⟨tenant, store⟩, date⟩, opened⟩ := selected
  rw [rows] at member
  rcases CashWrite.opened_apply applied member opened with
    ⟨before, old, wasOpen, sameId, sameTenant, sameStore, sameDate, _⟩ | ⟨own, openingAmount, rfl,
      ownTenant, ownStore⟩
  · have onDate : before ∈ openSessionsOf db scope businessDate := by
      refine List.mem_filter.mpr ⟨old, ?_⟩
      simp [sameTenant, sameStore, sameDate, tenant, store, date, wasOpen]
    rw [← sameId]
    exact known before onDate
  · exact absurd (ownStore.symm.trans store)
      (unopened own openingAmount (by rw [date]) (ownTenant.symm.trans tenant))

/-! ## All requests -/

section Moves

variable [DecidableEq ι]

/-- What a request knows about the session that it locked outlasts the moves of others. -/
theorem LockedSession.stays {moved : CashPhase}
    (move : config.Moved (fun _ => cashCode) .lost connection after holder moved)
    (apart : other ≠ connection)
    (known : LockedSession config.committed config.holder other scope session) :
    LockedSession after holder other scope session := by
  obtain ⟨holds, member, own⟩ := known
  refine ⟨move.holder_of_ne apart holds,
    move.keeps_locked (session ∈ ·.cashSessions) ?_ member apart holds, own⟩
  rintro locks write _ refused written commits writes unlocked
  obtain ⟨_, planned, voucher, _, rfl, rfl, _⟩ := cashCode_commit commits
  exact CashWrite.mem_applyWith writes member unlocked

/-- A move that commits nothing, or nothing that races with a day close or with another opening. -/
def MoveUnraced (config : Config Db CashLock CashPhase ι) (connection : ι) (after : Db) : Prop :=
  after = config.committed ∨ ∀ pending ∈ (config.phase connection).pending,
    pending.2.Unraced config pending.1

/-- The sessions of a date stay locked under the moves of others. -/
theorem LockedDate.stays {moved : CashPhase} {businessDate : ℕ} {openIds : List ℕ}
    (known : LockedDate config.committed config.holder other scope businessDate openIds)
    (move : config.Moved (fun _ => cashCode) .lost connection after holder moved)
    (unraced : MoveUnraced config connection after) (apart : other ≠ connection)
    (looked : (config.phase other).hasLooked scope.tenantId scope.storeId businessDate = true) :
    LockedDate after holder other scope businessDate openIds := by
  have held : LockedDate config.committed holder other scope businessDate openIds :=
    fun session member => (known session member).imp_right (move.holder_of_ne apart)
  cases move with
  | close | abort | read | refuse => exact held
  | commit locks write _ refused _ commits free written =>
    obtain ⟨locked, planned, voucher, here, rfl, rfl, _⟩ := cashCode_commit commits
    rcases unraced with same | unraced
    · rw [same]
      exact held
    · refine held.applyWith written ?_
      rintro own openingAmount rfl tenant store
      have free : (CashWrite.opening own openingAmount businessDate).Unraced config locked :=
        unraced (locked, _) (by rw [here]; rfl)
      have clear := free.2.2 other
      rw [tenant, store, looked] at clear
      contradiction

/-- What a day close has counted stays so under the moves of others. -/
theorem Counted.stays (guarded : config.Guarded DayCloseCoherent PhaseLocked) {moved : CashPhase}
    {counting : Bool} {payload : PosCashDayCloseActionRequest} {openIds : List ℕ}
    {rollup : CashRollup} {with_ : Option VoucherWrite}
    (known : Counted config.committed scope payload.businessDate rollup)
    (move : config.Moved (fun _ => cashCode) .lost connection after holder moved)
    (unraced : MoveUnraced config connection after) (apart : other ≠ connection)
    (there : config.phase other = .writing counting (.dayClose scope payload openIds rollup)
      with_) :
    Counted after scope payload.businessDate rollup := by
  cases move with
  | close | abort | read | refuse => exact known
  | commit locks write _ refused _ commits free written =>
    obtain ⟨locked, planned, voucher, here, rfl, rfl, _⟩ := cashCode_commit commits
    rcases unraced with same | unraced
    · rw [same]
      exact known
    · obtain ⟨cash, applied, same⟩ := CashWrite.applyWith_eq written
      have silent := not_countsOn_of_unraced guarded here
        (unraced (locked, planned) (by rw [here]; rfl)) apart there
      rw [Counted, rollup_of_ledger same, CashWrite.rollup_apply applied silent]
      exact known

/-- What a request knows outlasts the moves of others that race with no day close. -/
theorem PhaseLocked.stays {moved : CashPhase}
    (guarded : config.Guarded DayCloseCoherent PhaseLocked)
    (move : config.Moved (fun _ => cashCode) .lost connection after holder moved)
    (unraced : MoveUnraced config connection after) (apart : other ≠ connection) :
    PhaseLocked after holder other (config.phase other) := by
  have known := guarded.phases other
  cases there : config.phase other with
  | found scope session locked use =>
    rw [there] at known
    cases locked with
    | true => exact ⟨known.1.stays move apart, known.2⟩
    | false => trivial
  | counting scope payload openIds =>
    have looked : (config.phase other).hasLooked scope.tenantId scope.storeId payload.businessDate =
        true := by
      simp [there, CashPhase.hasLooked]
    rw [there] at known
    exact LockedDate.stays known move unraced apart looked
  | writing locked write voucher =>
    cases write with
    | movement =>
      rw [there] at known
      cases locked with
      | true => exact ⟨known.1.stays move apart, known.2⟩
      | false => trivial
    | opening | close => cases locked <;> trivial
    | dayClose scope payload openIds rollup =>
      have looked :
          (config.phase other).hasLooked scope.tenantId scope.storeId payload.businessDate =
          true := by
        simp [there, CashPhase.hasLooked]
      have settled : LockedDate config.committed config.holder other scope payload.businessDate
          openIds ∧ Counted config.committed scope payload.businessDate rollup := by
        rw [there] at known
        cases locked <;> exact known
      have stays := And.intro (settled.1.stays move unraced apart looked)
        (settled.2.stays guarded move unraced apart there)
      cases locked <;> exact stays
  | arrived | dateOpen | numbered | ready | unmatched | undecided | committed | failed | lost =>
    trivial

private theorem dayClose_step (guarded : config.Guarded DayCloseCoherent PhaseLocked)
    {move : ι × Move} (unraced : CommitUnraced config move)
    (success : config.step (fun _ => cashCode) .lost move = .ok next) :
    next.Guarded DayCloseCoherent PhaseLocked := by
  have known := guarded.phases move.1
  apply Config.Guarded.step guarded success
  · trivial
  · rintro proceeds after holder phase moved
    cases moved with
    | close stopped =>
      refine ⟨guarded.tables, ?_⟩
      rcases cashCode_stop stopped with here | ⟨error, here⟩ | here <;>
      · rw [here]
        trivial
    | abort => exact ⟨guarded.tables, trivial⟩
    | read locks next reads free => exact ⟨guarded.tables, known.read (cashCode_read reads _)⟩
    | commit locks write _ refused _ commits free written =>
      obtain ⟨locked, planned, voucher, here, rfl, rfl, rfl, _⟩ := cashCode_commit commits
      have checks := checksHold_of_unraced guarded here
        (unraced proceeds (locked, planned) (by rw [here]; rfl))
      obtain ⟨cash, applied, same⟩ := CashWrite.applyWith_eq written
      exact ⟨(guarded.tables.apply checks applied).of_ledger same, trivial⟩
    | refuse _ _ _ _ commits =>
      obtain ⟨_, _, _, _, _, _, _, _, rfl⟩ := cashCode_commit commits
      exact ⟨guarded.tables, trivial⟩
  · exact fun _ _ _ _ moved turn apart _ => PhaseLocked.stays guarded moved
      (turn.symm.imp_right unraced) apart

end Moves

/-! ## Two openings -/

namespace Sample

/-- The cashier opens a session twice, sells a voucher and closes the day. -/
def counterRequests : Fin 4 → CashTransaction
  | 0 => .opening 50 1 "UTC"
  | 1 => .opening 70 1 "UTC"
  | 2 => .issueAdvance 1 .advance 10
  | 3 => .closeDay { transactionId := some "close", businessDate := 1, forceIfOpenSessions := true,
                     reason := some "late" }

def counterArrived : Config Db CashLock CashPhase (Fin 4) :=
  { committed := {}, holder := fun _ => none,
    phase := fun connection => .arrived drawerScope (counterRequests connection) }

abbrev counterStep : Config Db CashLock CashPhase (Fin 4) → Fin 4 × Move →
    Except Blocked (Config Db CashLock CashPhase (Fin 4)) :=
  Config.step (fun _ => cashCode) .lost

def wholeDay : List (Fin 4 × Move) :=
  [0, 0, 0, 2, 2, 3, 2, 2, 2, 3, 3, 3].map fun connection => (connection, .proceed)

private theorem wholeDay_commits :
    (runAllowed counterStep CommitUnraced counterArrived wholeDay).isSome = true := by
  decide +kernel

def dayClosed : Config Db CashLock CashPhase (Fin 4) :=
  (runAllowed counterStep CommitUnraced counterArrived wholeDay).get wholeDay_commits

/-- Both openings find no session. -/
def openingsTogether : List (Fin 4 × Move) := [0, 1, 0, 1, 0, 1].map fun connection =>
    (connection, .proceed)

private theorem openingsTogether_commit :
    (runAllowed counterStep (fun _ _ => True) counterArrived openingsTogether).isSome = true := by
  decide +kernel

def openedTwice : Config Db CashLock CashPhase (Fin 4) :=
  (runAllowed counterStep (fun _ _ => True) counterArrived openingsTogether).get
    openingsTogether_commit

private theorem coherent_of_empty : DayCloseCoherent {} := by
  refine ⟨fun _ _ _ => Nat.zero_le _, fun session member => ?_, fun dayClose member => ?_⟩
  · exact absurd member List.not_mem_nil
  · exact absurd member List.not_mem_nil

end Sample

end ArisCloud

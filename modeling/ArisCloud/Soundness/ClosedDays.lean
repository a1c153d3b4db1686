import ArisCloud.Proofs.CashEvents
import ArisCloud.Soundness.CashBalance
import ArisCloud.Soundness.DayCloses

/-! # A closed day stays closed

In a run of requests that do not interleave, no session is open on a closed date. So no later
request writes a movement that counts on that date, changes the balance of one of its sessions or
opens one for it, and the cash of the date stays what its day close recorded.
-/

namespace ArisCloud

open KeyedRows Requests

variable {db after : Db} {write : CashWrite} {tenantId storeId businessDate : ℕ}

/-! ## The cash of a date -/

/-- The movements of a date that its reconciliation adds up. -/
def Db.countedMovements (db : Db) (tenantId storeId businessDate : ℕ) : List PosCashMovement :=
  db.cashMovements.filter fun movement => movement.isOn tenantId storeId businessDate &&
    movement.action.changesBalance

def PosCashSession.isOn (tenantId storeId businessDate : ℕ) (session : PosCashSession) : Prop :=
  session.tenantId = tenantId ∧ session.storeId = storeId ∧ session.businessDate = businessDate

instance (tenantId storeId businessDate : ℕ) (session : PosCashSession) :
    Decidable (session.isOn tenantId storeId businessDate) :=
  inferInstanceAs (Decidable (_ ∧ _))

/-- The sessions of a date and their balances. -/
def Db.dateBalances (db : Db) (tenantId storeId businessDate : ℕ) : List (ℕ × ℚ) :=
  (db.cashSessions.filter fun session => session.isOn tenantId storeId businessDate).map
      fun session =>
    (session.id, session.expectedCash)

/-- Nothing that the cash of a date is made of has changed. -/
structure DateKept (tenantId storeId businessDate : ℕ) (db after : Db) : Prop where
  movements : after.countedMovements tenantId storeId businessDate =
    db.countedMovements tenantId storeId businessDate
  balances : after.dateBalances tenantId storeId businessDate =
    db.dateBalances tenantId storeId businessDate

theorem DateKept.refl (db : Db) : DateKept tenantId storeId businessDate db db := ⟨rfl, rfl⟩

theorem DateKept.trans {later : Db} (first : DateKept tenantId storeId businessDate db after)
    (second : DateKept tenantId storeId businessDate after later) :
    DateKept tenantId storeId businessDate db later :=
  ⟨second.movements.trans first.movements, second.balances.trans first.balances⟩

theorem DateKept.of_ledger (same : after.ledger = db.ledger) :
    DateKept tenantId storeId businessDate db after := by
  simp only [Db.ledger, CashLedger.mk.injEq] at same
  obtain ⟨sessions, movements, _⟩ := same
  constructor
  · simp only [Db.countedMovements, movements]
  · simp only [Db.dateBalances, sessions]

/-- The amounts of an action that counts are those of the counted movements. -/
theorem amountsOn_eq_counted (db : Db) {action : CashAction}
    (counts : action.changesBalance = true) :
    amountsOn db tenantId storeId businessDate action =
      ((db.countedMovements tenantId storeId businessDate).filter (·.action = action)).map
      (·.amount) := by
  rw [Db.countedMovements, List.filter_filter, amountsOn]
  congr 1
  refine List.filter_congr fun movement _ => ?_
  by_cases same : movement.action = action
  · rw [Bool.eq_iff_iff]
    simp only [same, counts, decide_true, Bool.true_and, Bool.and_true, Bool.and_eq_true,
      decide_eq_true_eq]
    rw [PosCashMovement.isOn, and_assoc]
  · simp [same]

/-- The reconciliation of a date depends on its counted movements alone. -/
theorem DateKept.rollup (kept : DateKept tenantId storeId businessDate db after) :
    reconciliationRollup after tenantId storeId businessDate =
    reconciliationRollup db tenantId storeId businessDate := by
  have amounts (action : CashAction) (counts : action.changesBalance = true) :
      amountsOn after tenantId storeId businessDate action =
      amountsOn db tenantId storeId businessDate action := by
    rw [amountsOn_eq_counted after counts, kept.movements, ← amountsOn_eq_counted db counts]
  simp only [reconciliationRollup, amounts .opening rfl, amounts .cashIn rfl, amounts .cashOut rfl,
    amounts .sale rfl, amounts .cashOutRefund rfl]

/-! ## Sound tables -/

/-- What every request keeps of the sessions, the cuts and the day closes. -/
structure LedgerSound (db : Db) : Prop where
  cuts : CutsOwned db
  unclosed : ∀ session ∈ db.cashSessions, session.status = .opened → session.closedAt = none
  coherent : DayCloseCoherent db
  rollups : ∀ dayClose ∈ db.dayCloses,
    reconciliationRollup db dayClose.tenantId dayClose.storeId dayClose.businessDate =
    dayClose.rollup

/-- A cashier without an open session of an open date has no open session at all. -/
theorem LedgerSound.isOwnOpen_eq_false (sound : LedgerSound db) {scope : CashScope}
    (free : openSessionQuery db scope.tenantId scope.storeId scope.context.userId = none) :
    ∀ session ∈ db.cashSessions, isOwnOpen scope session = false := by
  intro session member
  by_contra own
  have selected : session ∈ db.cashSessions.filter (selectsOpen db scope) := by
    refine List.mem_filter.mpr ⟨member, ?_⟩
    simp only [isOwnOpen, Bool.not_eq_false, Bool.and_eq_true, decide_eq_true_eq] at own
    have opened := sound.coherent.noneOpen session member own.2
    simpa [selectsOpen, isOwnOpen, own, sound.unclosed session member own.2] using opened
  have sorted := (List.mem_insertionSort openedLater).mpr selected
  have empty : (db.cashSessions.filter (selectsOpen db scope)).insertionSort openedLater = [] :=
    List.head?_eq_none_iff.mp free
  rw [empty] at sorted
  contradiction

/-- What was checked by a request that runs alone holds when it commits. -/
theorem LedgerSound.checksHold (sound : LedgerSound db) (current : write.Current db) :
    write.ChecksHold db := by
  cases write with
  | opening scope openingAmount businessDate =>
    exact ⟨sound.isOwnOpen_eq_false current.1, current.2⟩
  | movement scope session saleId flow amount =>
    obtain ⟨member, opened, tenant, store⟩ := current
    change ¬ isDayClosed db scope.tenantId scope.storeId session.businessDate
    rw [← tenant, ← store]
    exact sound.coherent.noneOpen session member opened
  | close => trivial
  | dayClose scope payload openIds rollup =>
    obtain ⟨rfl, rfl⟩ := current
    exact fun _ => ⟨fun session member => List.mem_map_of_mem member, rfl⟩

/-- The tables with one more movement that does not count. -/
theorem DayCloseCoherent.outside (coherent : DayCloseCoherent db) {movement : PosCashMovement}
    (uncounted : movement.action.changesBalance = false) :
    DayCloseCoherent (db.addCashMovement movement) := by
  refine ⟨coherent.oneOpen, coherent.noneOpen, fun dayClose member => ?_⟩
  have silent : movement.action.rollupSign = 0 := by
    cases action : movement.action <;>
      simp [CashAction.changesBalance, CashAction.rollupSign, action] at uncounted ⊢
  rw [rollup_append db _ rfl fun _ => silent]
  exact coherent.reconciled dayClose member

/-! ## Closed dates -/

/-- A movement that does not count on a date leaves its counted movements alone. -/
theorem countedMovements_append {movement : PosCashMovement}
    (moved : after.cashMovements = db.cashMovements ++ [movement])
    (apart : movement.isOn tenantId storeId businessDate → movement.action.changesBalance = false) :
    after.countedMovements tenantId storeId businessDate =
    db.countedMovements tenantId storeId businessDate := by
  rw [Db.countedMovements, moved, List.filter_append, Db.countedMovements, List.filter_cons_of_neg,
    List.filter_nil, List.append_nil]
  simpa using apart

private theorem dateBalances_append {session : PosCashSession}
    (opened : after.cashSessions = db.cashSessions ++ [session])
    (apart : ¬ session.isOn tenantId storeId businessDate) :
    after.dateBalances tenantId storeId businessDate =
    db.dateBalances tenantId storeId businessDate := by
  rw [Db.dateBalances, opened, List.filter_append, Db.dateBalances, List.filter_cons_of_neg,
    List.filter_nil, List.append_nil]
  simpa using apart

private theorem CashWrite.dateKept (sound : LedgerSound db) (current : write.Current db)
    (written : write.apply db = some after)
    (closed : isDayClosed db tenantId storeId businessDate) :
    DateKept tenantId storeId businessDate db after := by
  cases write with
  | opening scope openingAmount openedDate =>
    obtain rfl := Option.some.inj written
    have apart : ¬ (scope.tenantId = tenantId ∧ scope.storeId = storeId ∧
        openedDate = businessDate) := by
      rintro ⟨rfl, rfl, rfl⟩
      exact current.2 closed
    constructor
    · exact countedMovements_append rfl fun here => absurd here apart
    · exact dateBalances_append rfl apart
  | movement scope session saleId flow amount =>
    obtain rfl := Option.some.inj written
    obtain ⟨member, opened, tenant, store⟩ := current
    have apart : ¬ session.isOn tenantId storeId businessDate := by
      rintro ⟨rfl, rfl, rfl⟩
      exact sound.coherent.noneOpen session member opened closed
    constructor
    · refine countedMovements_append rfl fun here => absurd here ?_
      rw [PosCashSession.isOn, tenant, store] at apart
      exact apart
    · apply map_filter_update
      rintro row isRow listed
      obtain rfl := eq_of_key_eq sound.cuts.distinct isRow member (List.mem_singleton.mp listed)
      exact ⟨rfl, fun here => absurd (of_decide_eq_true here) apart⟩
  | close scope session countedCash =>
    obtain rfl := Option.some.inj written
    exact ⟨countedMovements_append rfl fun _ => rfl, map_filter_update fun _ _ _ =>
      ⟨rfl, fun _ => rfl⟩⟩
  | dayClose scope payload openIds rollup =>
    rw [apply] at written
    split_ifs at written
    obtain rfl := Option.some.inj written
    exact ⟨countedMovements_append rfl fun _ => rfl, map_filter_update fun _ _ _ =>
      ⟨rfl, fun _ => rfl⟩⟩

/-- No request changes what the cash of a closed date is made of. -/
theorem LedgerSound.dateKept (sound : LedgerSound db) (event : CashEvent db after)
    (closed : isDayClosed db tenantId storeId businessDate) :
    DateKept tenantId storeId businessDate db after := by
  cases event with
  | idle same => exact .of_ledger same
  | outside movement uncounted same =>
    have kept : DateKept tenantId storeId businessDate db (db.addCashMovement movement) :=
      ⟨countedMovements_append rfl fun _ => uncounted, rfl⟩
    exact kept.trans (.of_ledger same)
  | written write cash current applied same =>
    exact (CashWrite.dateKept sound current applied closed).trans (.of_ledger same)

/-- A day close that is not in the tables yet closes a date with the cash of its movements. -/
theorem CashWrite.dayCloses_apply (current : write.Current db)
    (written : write.apply db = some after) {dayClose : PosCashDayClose}
    (member : dayClose ∈ after.dayCloses) : dayClose ∈ db.dayCloses ∨
      reconciliationRollup after dayClose.tenantId dayClose.storeId dayClose.businessDate =
      dayClose.rollup := by
  cases write with
  | opening | movement | close =>
    obtain rfl := Option.some.inj written
    exact .inl member
  | dayClose scope payload openIds rollup =>
    obtain ⟨rfl, rfl⟩ := current
    rw [apply] at written
    split_ifs at written
    obtain rfl := Option.some.inj written
    rcases List.mem_append.mp member with old | new
    · exact .inl old
    · obtain rfl := List.mem_singleton.mp new
      apply Or.inr
      apply DateKept.rollup
      exact ⟨countedMovements_append rfl fun _ => rfl, map_filter_update fun _ _ _ =>
        ⟨rfl, fun _ => rfl⟩⟩

theorem CashEvent.dayCloses (event : CashEvent db after) {dayClose : PosCashDayClose}
    (member : dayClose ∈ after.dayCloses) :
    dayClose ∈ db.dayCloses ∨
      reconciliationRollup after dayClose.tenantId dayClose.storeId dayClose.businessDate =
      dayClose.rollup := by
  cases event with
  | idle same | outside movement _ same =>
    have rows : after.dayCloses = db.dayCloses := congrArg CashLedger.dayCloses same
    exact .inl (rows ▸ member)
  | written write cash current applied same =>
    have rows : after.dayCloses = cash.dayCloses := congrArg CashLedger.dayCloses same
    rw [rows] at member
    rw [(DateKept.of_ledger same).rollup]
    exact CashWrite.dayCloses_apply current applied member

theorem CashEvent.coherent (sound : LedgerSound db) (event : CashEvent db after) :
    DayCloseCoherent after := by
  cases event with
  | idle same => exact sound.coherent.of_ledger same
  | outside movement uncounted same => exact (sound.coherent.outside uncounted).of_ledger same
  | written write cash current applied same =>
    exact (sound.coherent.apply (sound.checksHold current) applied).of_ledger same

/-- Every request keeps the sessions, the cuts and the day closes sound. -/
theorem LedgerSound.step (sound : LedgerSound db) {request : SystemRequest}
    (success : systemStep db request = .ok after) :
    LedgerSound after := by
  have event := systemStep_event sound.cuts success
  refine ⟨sound.cuts.step success, event.sessionsKept.unclosed sound.unclosed, event.coherent sound,
    ?_⟩
  intro dayClose member
  rcases event.dayCloses member with old | agrees
  · have kept := sound.dateKept event ⟨dayClose, old, rfl, rfl, rfl⟩
    rw [kept.rollup]
    exact sound.rollups dayClose old
  · exact agrees

theorem LedgerSound.of_empty (noSessions : db.cashSessions = []) (noCuts : db.cashCuts = [])
    (noDayCloses : db.dayCloses = []) :
    LedgerSound db := by
  constructor
  · exact ⟨by simp [noSessions], by simp [noCuts]⟩
  · simp [noSessions]
  · exact ⟨by simp [noSessions], by simp [noSessions], by simp [noDayCloses]⟩
  · simp [noDayCloses]

/-! ## All requests -/

/-- What stays of a closed day: the movements that count, the sessions and their balances, and the
cash of the date as the day close recorded it. -/
structure StaysClosed (closed later : Db) (dayClose : PosCashDayClose) : Prop where
  recorded : dayClose ∈ later.dayCloses
  kept : DateKept dayClose.tenantId dayClose.storeId dayClose.businessDate closed later
  rollup : reconciliationRollup later dayClose.tenantId dayClose.storeId dayClose.businessDate =
    dayClose.rollup

theorem CashEvent.recorded (event : CashEvent db after) {dayClose : PosCashDayClose}
    (member : dayClose ∈ db.dayCloses) :
    dayClose ∈ after.dayCloses := by
  cases event with
  | idle same | outside movement _ same =>
    have rows : after.dayCloses = db.dayCloses := congrArg CashLedger.dayCloses same
    exact rows ▸ member
  | written write cash current applied same =>
    have rows : after.dayCloses = cash.dayCloses := congrArg CashLedger.dayCloses same
    rw [rows]
    cases write with
    | opening | movement | close =>
      obtain rfl := Option.some.inj applied
      exact member
    | dayClose scope payload openIds rollup =>
      rw [CashWrite.apply] at applied
      split_ifs at applied
      obtain rfl := Option.some.inj applied
      exact List.mem_append_left _ member

namespace Sample

def closeFirstDay : SystemRequest :=
  .cash (.closeDay cashier
    { transactionId := some "close", businessDate := 1, forceIfOpenSessions := true,
      reason := some "late" })

/-- A day with a sale and a refund is closed while its session is open. -/
theorem firstDay_commits :
    (runAllowed systemStep (fun _ _ => True) shop (saleAndRefund ++ [closeFirstDay])).isSome =
    true := by
  decide +kernel

def firstDay : Db :=
  (runAllowed systemStep (fun _ _ => True) shop (saleAndRefund ++ [closeFirstDay])).get
    firstDay_commits

/-- The next day a jacket is sold, and another jacket of the first sale comes back. -/
def nextDayRequests : List SystemRequest :=
  [.cash (.sessionAction cashier { transactionId := some "open", action := .opening 50 2 "UTC" }),
    draft [{ lineType := .sku, qty := 1, sku := some "JACKET" }],
    onSale 2 (.checkout { payments := [inCash 10] }),
    onSale 1 (.refundItems { returnItems := [{ lineId := 1 }], refundPayments := [inCash 10] })]

private theorem nextDay_commits :
    (runAllowed systemStep (fun _ _ => True) firstDay nextDayRequests).isSome = true := by
  decide +kernel

def nextDay : Db :=
  (runAllowed systemStep (fun _ _ => True) firstDay nextDayRequests).get nextDay_commits

end Sample

end ArisCloud

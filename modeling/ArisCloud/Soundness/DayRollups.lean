import ArisCloud.Soundness.ClosedDays

/-! # The cash of a day is the cash of its sessions

The reconciliation of a date adds up movements, by their own date and action; a session keeps its
balance. Every movement that counts carries the store and the date of its session and moves the
balance by what it counts for, so the amounts of a date add up to the cash of its sessions. The
database adds doubles, action by action, and the reconciliation agrees with the sessions exactly
when the errors of these sums cancel.
-/

namespace ArisCloud

open KeyedRows Requests

variable {db after : Db} {write : CashWrite} {tenantId storeId businessDate : ℕ}

/-- The balances of the sessions of a date, added up. -/
def sessionsExpectedCash (db : Db) (tenantId storeId businessDate : ℕ) : ℚ :=
  Tally.sumWhere (fun session => session.isOn tenantId storeId businessDate)
    (·.expectedCash) db.cashSessions

/-! ## The cash of the movements -/

/-- The movements of a date that count, added up exactly. -/
def dayCash (db : Db) (tenantId storeId businessDate : ℕ) : ℚ :=
  Tally.sumWhere (fun movement => movement.isOn tenantId storeId businessDate)
    (fun movement => movement.action.rollupSign * movement.amount) db.cashMovements

/-- How far a sum of doubles is from the sum of the amounts. -/
def sumError (amounts : List ℚ) : ℚ := Floating.doubleSum amounts - amounts.sum

/-- How far the sums of a date are from the sums of its amounts, all in all. -/
def roundingError (db : Db) (tenantId storeId businessDate : ℕ) : ℚ :=
  let error (action : CashAction) : ℚ :=
    sumError (amountsOn db tenantId storeId businessDate action)
  error .opening + error .cashIn - error .cashOut + error .sale - error .cashOutRefund

private theorem dayCash_append (db after : Db) {movement : PosCashMovement}
    (moved : after.cashMovements = db.cashMovements ++ [movement])
    (tenantId storeId businessDate : ℕ) :
    dayCash after tenantId storeId businessDate = dayCash db tenantId storeId businessDate +
      if movement.isOn tenantId storeId businessDate then movement.action.rollupSign *
      movement.amount else 0 := by
  simp only [dayCash, moved, Tally.sumWhere_append, Tally.sumWhere_cons, Tally.sumWhere_nil,
    add_zero, decide_eq_true_eq]

/-- The movements of a date add up action by action. -/
theorem dayCash_eq (db : Db) (tenantId storeId businessDate : ℕ) :
    dayCash db tenantId storeId businessDate =
    (amountsOn db tenantId storeId businessDate .opening).sum +
    (amountsOn db tenantId storeId businessDate .cashIn).sum -
      (amountsOn db tenantId storeId businessDate .cashOut).sum +
      (amountsOn db tenantId storeId businessDate .sale).sum -
        (amountsOn db tenantId storeId businessDate .cashOutRefund).sum := by
  simp only [dayCash, amountsOn]
  induction db.cashMovements with
  | nil => simp
  | cons movement rest ih =>
    rw [Tally.sumWhere_cons, ih]
    by_cases here : movement.isOn tenantId storeId businessDate
    · obtain ⟨rfl, rfl, rfl⟩ := here
      cases action : movement.action <;>
        simp [action, CashAction.rollupSign, PosCashMovement.isOn] <;> ring
    · have off : (decide (movement.tenantId = tenantId) && decide (movement.storeId = storeId) &&
          decide (movement.businessDate = businessDate)) = false := by
        simpa [PosCashMovement.isOn, and_assoc] using here
      simp [here, off]

/-- The reconciliation of a date misses the cash of its movements by the errors of its sums. -/
theorem rollup_eq (db : Db) (tenantId storeId businessDate : ℕ) :
    (reconciliationRollup db tenantId storeId businessDate).expectedCash =
      dayCash db tenantId storeId businessDate + roundingError db tenantId storeId
      businessDate := by
  simp only [reconciliationRollup, dayCash_eq, roundingError, sumError]
  ring

/-! ## Sums without errors -/

/-- Amounts whose sum of doubles is exact: one of no more than fifteen digits, or any number of
quarters that stay below a million million. -/
inductive AddedExactly : List ℚ → Prop
  | none : AddedExactly []
  | single {amount : ℚ} {digits : ℤ} (exponent : ℤ) (few : |digits| < 10 ^ 15)
      (written : amount = digits * 10 ^ exponent) : AddedExactly [amount]
  | quarters {amounts : List ℚ} (quarters : ∀ amount ∈ amounts, Floating.IsQuarters amount)
      (few : (amounts.map (|·|)).sum < 10 ^ 12) : AddedExactly amounts

theorem AddedExactly.sumError {amounts : List ℚ} (added : AddedExactly amounts) :
    sumError amounts = 0 := by
  rw [ArisCloud.sumError, sub_eq_zero]
  cases added with
  | none => decide +kernel
  | single exponent few written =>
    rw [Floating.doubleSum_singleton exponent few written, List.sum_singleton]
  | quarters quarters few => exact Floating.doubleSum_quarters quarters few

/-- Dates whose actions have one movement each, or quarters, have no errors. -/
theorem roundingError_eq_zero (added : ∀ action,
    AddedExactly (amountsOn db tenantId storeId businessDate action)) :
    roundingError db tenantId storeId businessDate = 0 := by
  simp only [roundingError, (added _).sumError, add_zero, sub_zero]

/-! ## Every write -/

/-- The movements of every date have the cash of its sessions. -/
def DayCashAgrees (db : Db) : Prop :=
  ∀ tenantId storeId businessDate, dayCash db tenantId storeId businessDate =
    sessionsExpectedCash db tenantId storeId businessDate

theorem SameSession.isOn {session next : PosCashSession} (same : SameSession session next) :
    next.isOn tenantId storeId businessDate ↔ session.isOn tenantId storeId businessDate := by
  rw [PosCashSession.isOn, same.tenant, same.store, same.date]
  rfl

/-- A change of sessions in other columns leaves the cash of every date alone. -/
theorem sessionsExpectedCash_update (keys : List ℕ) (change : PosCashSession → PosCashSession)
    (rows : after.cashSessions = update (·.id) keys change db.cashSessions)
    (same : ∀ row, SameSession row (change row) ∧ (change row).expectedCash = row.expectedCash) :
    sessionsExpectedCash after tenantId storeId businessDate =
    sessionsExpectedCash db tenantId storeId businessDate := by
  rw [sessionsExpectedCash, rows, sessionsExpectedCash, Tally.sumWhere, Tally.sumWhere]
  congr 1
  apply map_filter_update
  rintro row _ _
  exact ⟨decide_eq_decide.mpr (same row).1.isOn, fun _ => (same row).2⟩

/-- A new balance of one session moves the cash of its date by the difference. -/
theorem sessionsExpectedCash_moved (distinct : (db.cashSessions.map (·.id)).Nodup)
    {session : PosCashSession} (member : session ∈ db.cashSessions) (balance : ℚ)
    (rows : after.cashSessions = update (·.id) [session.id]
      (fun row => { row with expectedCash := balance }) db.cashSessions) :
    sessionsExpectedCash after tenantId storeId businessDate =
    sessionsExpectedCash db tenantId storeId businessDate +
      if session.isOn tenantId storeId businessDate then balance - session.expectedCash else 0 := by
  rw [sessionsExpectedCash, rows, update_singleton, Tally.sumWhere_update distinct member
    fun _ _ _ => rfl, ← sessionsExpectedCash]
  by_cases here : session.isOn tenantId storeId businessDate
  · have still : PosCashSession.isOn tenantId storeId businessDate
      { session with expectedCash := balance } := here
    simp only [here, still, decide_true, if_true]
    ring
  · have still : ¬ PosCashSession.isOn tenantId storeId businessDate
      { session with expectedCash := balance } := here
    simp only [here, still, decide_false, if_false, Bool.false_eq_true]
    ring

/-- A write moves the cash of the movements of a date and the cash of its sessions by the same
amount. -/
theorem CashWrite.dayCashAgrees (cuts : CutsOwned db) (current : write.Current db)
    (written : write.apply db = some after) (agree : DayCashAgrees db) : DayCashAgrees after := by
  intro tenantId storeId businessDate
  have before := agree tenantId storeId businessDate
  cases write with
  | opening scope openingAmount openedDate =>
    obtain rfl := Option.some.inj written
    rw [dayCash_append db _ rfl, before, sessionsExpectedCash, sessionsExpectedCash]
    change _ = Tally.sumWhere _ _ (db.cashSessions ++ [_])
    rw [Tally.sumWhere_append, Tally.sumWhere_cons, Tally.sumWhere_nil, add_zero]
    congr 1
    simp only [sessionMovement, CashAction.rollupSign, one_mul, decide_eq_true_eq]
    rfl
  | movement scope session saleId flow amount =>
    obtain rfl := Option.some.inj written
    rw [dayCash_append db _ rfl, before]
    refine Eq.trans ?_
      (sessionsExpectedCash_moved cuts.distinct current.member _ (by exact rfl)).symm
    have same : (sessionMovement session scope.tenantId scope.storeId saleId flow.action amount
        session.expectedCash (flow.balance session.expectedCash amount) scope.context.now).isOn
        tenantId storeId businessDate ↔
          session.isOn tenantId storeId businessDate := by
      rw [PosCashSession.isOn, current.tenant, current.store]
      rfl
    congr 1
    by_cases here : session.isOn tenantId storeId businessDate
    · rw [if_pos here, if_pos (same.mpr here)]
      cases flow <;>
        simp [sessionMovement, CashFlow.action, CashFlow.balance, CashAction.rollupSign]
    · rw [if_neg here, if_neg (here ∘ same.mp)]
  | close scope session countedCash =>
    obtain rfl := Option.some.inj written
    rw [dayCash_append db _ rfl, before]
    refine Eq.trans ?_
      (sessionsExpectedCash_update _ _ rfl (by exact fun _ => ⟨⟨rfl, rfl, rfl, rfl⟩, rfl⟩)).symm
    simp [sessionMovement, CashAction.rollupSign]
  | dayClose scope payload openIds rollup =>
    rw [apply] at written
    split_ifs at written
    obtain rfl := Option.some.inj written
    rw [dayCash_append db _ rfl, before]
    refine Eq.trans ?_
      (sessionsExpectedCash_update _ _ rfl (by exact fun _ => ⟨⟨rfl, rfl, rfl, rfl⟩, rfl⟩)).symm
    simp [CashAction.rollupSign]

private theorem CashEvent.dayCashAgrees (cuts : CutsOwned db) (event : CashEvent db after)
    (agree : DayCashAgrees db) :
    DayCashAgrees after := by
  have follows {middle : Db} (agree : DayCashAgrees middle) (same : after.ledger = middle.ledger) :
      DayCashAgrees after := by
    intro tenantId storeId businessDate
    have movements : after.cashMovements = middle.cashMovements :=
      congrArg CashLedger.movements same
    have sessions : after.cashSessions = middle.cashSessions := congrArg CashLedger.sessions same
    rw [dayCash, sessionsExpectedCash, movements, sessions]
    exact agree tenantId storeId businessDate
  cases event with
  | idle same => exact follows agree same
  | outside movement uncounted same =>
    refine follows (fun tenantId storeId businessDate => ?_) same
    have silent : movement.action.rollupSign = 0 := by
      cases action : movement.action <;>
        simp [CashAction.changesBalance, CashAction.rollupSign, action] at uncounted ⊢
    rw [dayCash_append db _ rfl, silent, zero_mul, ite_self, add_zero]
    exact agree tenantId storeId businessDate
  | written write cash current applied same =>
    exact follows (CashWrite.dayCashAgrees cuts current applied agree) same

/-! ## All requests -/

/-- From tables without cash, the movements of every date have the cash of its sessions in every
reachable state. -/
theorem dayCashAgrees_of_reachable {start : Db} (noSessions : start.cashSessions = [])
    (noMovements : start.cashMovements = []) (noCuts : start.cashCuts = [])
    (reached : Reachable systemStep (fun _ _ => True) start db) : DayCashAgrees db := by
  have initial : CutsOwned start ∧ DayCashAgrees start := by
    refine ⟨⟨by simp [noSessions], by simp [noCuts]⟩, fun _ _ _ => ?_⟩
    simp [dayCash, sessionsExpectedCash, noMovements, noSessions]
  have keeps : ∀ (source : Db) (request : SystemRequest) (next : Db), CutsOwned source ∧
      DayCashAgrees source → True → systemStep source request = .ok next → CutsOwned next ∧
      DayCashAgrees next := by
    rintro source request next ⟨cuts, agree⟩ _ success
    exact ⟨cuts.step success, (systemStep_event cuts success).dayCashAgrees cuts agree⟩
  exact (reached.invariant initial keeps).2

/-- Dates whose actions have one movement each, or quarters, are reconciled with their sessions. -/
theorem expectedCash_of_addedExactly {start : Db} (noSessions : start.cashSessions = [])
    (noMovements : start.cashMovements = []) (noCuts : start.cashCuts = [])
    (reached : Reachable systemStep (fun _ _ => True) start db)
    (added : ∀ action, AddedExactly (amountsOn db tenantId storeId businessDate action)) :
    (reconciliationRollup db tenantId storeId businessDate).expectedCash =
      sessionsExpectedCash db tenantId storeId businessDate := by
  rw [rollup_eq, roundingError_eq_zero added, add_zero]
  exact dayCashAgrees_of_reachable noSessions noMovements noCuts reached tenantId storeId
    businessDate

namespace Sample

/-- A drawer opens with 50.00, and 0.10 and 0.20 are paid in. -/
def coins : List SystemRequest :=
  [.opening 50 1 "UTC", .cashIn (1 / 10), .cashIn (2 / 10)].map fun action =>
    .cash (.sessionAction cashier { transactionId := some "coins", action })

private theorem coins_commit :
    (runAllowed systemStep (fun _ _ => True) shop coins).isSome = true := by decide +kernel

def coinsPaidIn : Db := (runAllowed systemStep (fun _ _ => True) shop coins).get coins_commit

end Sample

end ArisCloud

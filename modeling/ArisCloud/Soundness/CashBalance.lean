import ArisCloud.Library.RunningBalance
import ArisCloud.Proofs.AdvanceSteps
import ArisCloud.Proofs.ReturnSteps
import ArisCloud.Soundness.EpcReservations

/-! # The balance of every cash session

Sessions are opened, paid into and paid out of by four routers, each with its own code. Whatever
they do, the expected cash of a session is its opening amount with its movements added up, it is
never negative, and each movement starts at the balance where the previous one of its session ended.
-/

namespace ArisCloud

open KeyedRows Requests RunningBalance

/-! ## Balanced sessions -/

/-- The amounts that one action moved in a session, added up. -/
def cashTotal (movements : List PosCashMovement) (sessionId : ℕ) (action : CashAction) : ℚ :=
  Tally.sumWhere (fun movement => movement.cashSessionId = some sessionId &&
    movement.action = action) (·.amount) movements

/-- The movements that change the balance of a session, in the order they were written. -/
def balanceHistory (movements : List PosCashMovement) (sessionId : ℕ) : List PosCashMovement :=
  movements.filter (·.moves sessionId)

/-- A session whose cash is explained by its movements. -/
structure BalancedSession (movements : List PosCashMovement) (session : PosCashSession) : Prop where
  explained : session.expectedCash = session.openingAmount +
    (cashTotal movements session.id .cashIn + cashTotal movements session.id .sale) -
    (cashTotal movements session.id .cashOut + cashTotal movements session.id .cashOutRefund)
  nonneg : 0 ≤ session.expectedCash
  opens : ∃ first rest, balanceHistory movements session.id = first :: rest ∧
    first.action = .opening ∧ first.expectedBalanceBefore = some 0 ∧ first.expectedBalanceAfter =
    some session.openingAmount
  chained : (balanceHistory movements session.id).IsChain fun movement next =>
    next.expectedBalanceBefore = movement.expectedBalanceAfter

/-! ## The invariant -/

def PosCashMovement.balances (movement : PosCashMovement) : RunningBalance.Step (Option ℚ) :=
  ⟨movement.expectedBalanceBefore, movement.expectedBalanceAfter⟩

/-- The signed amounts of the movements of a session, added up. -/
def netMoved (movements : List PosCashMovement) (sessionId : ℕ) : ℚ :=
  Tally.sumWhere (·.moves sessionId) (fun movement => movement.action.sign * movement.amount)
    movements

/-- What every change of the cash tables keeps for a session. -/
structure SessionInvariant (movements : List PosCashMovement) (session : PosCashSession) :
    Prop where
  explained : session.expectedCash = session.openingAmount + netMoved movements session.id
  nonneg : 0 ≤ session.expectedCash
  opens : ∃ first rest, balanceHistory movements session.id = first :: rest ∧
    first.action = .opening ∧ first.expectedBalanceBefore = some 0 ∧ first.expectedBalanceAfter =
    some session.openingAmount
  leads : Leads (some 0) ((balanceHistory movements session.id).map (·.balances))
    (some session.expectedCash)

/-- What every change of the cash tables keeps. -/
structure CashInvariant (tables : CashTables) : Prop where
  distinct : (tables.sessions.map (·.id)).Nodup
  sessions : ∀ session ∈ tables.sessions, SessionInvariant tables.movements session

section Movements

variable {movements : List PosCashMovement} {movement : PosCashMovement} {session : PosCashSession}
    {sessionId : ℕ}

private theorem balanceHistory_append_foreign (foreign : movement.moves sessionId = false) :
    balanceHistory (movements ++ [movement]) sessionId = balanceHistory movements sessionId := by
  simp [balanceHistory, foreign]

private theorem balanceHistory_append_own (own : movement.moves sessionId = true) :
    balanceHistory (movements ++ [movement]) sessionId = balanceHistory movements sessionId ++
    [movement] := by
  simp [balanceHistory, own]

private theorem netMoved_append : netMoved (movements ++ [movement]) sessionId =
    netMoved movements sessionId + if movement.moves sessionId then movement.action.sign *
    movement.amount else 0 := by
  simp [netMoved]

private theorem changesBalance_of_sign {action : CashAction} (directed : action.sign ≠ 0) :
    action.changesBalance = true := by
  cases action <;> simp [CashAction.sign, CashAction.changesBalance] at directed ⊢

/-- The four totals of a session, with their signs, are what its movements add up to. -/
theorem netMoved_eq_totals (movements : List PosCashMovement) (sessionId : ℕ) :
    netMoved movements sessionId =
    (cashTotal movements sessionId .cashIn + cashTotal movements sessionId .sale) -
      (cashTotal movements sessionId .cashOut + cashTotal movements sessionId .cashOutRefund) := by
  induction movements with
  | nil => simp [netMoved, cashTotal]
  | cons movement rest ih =>
    simp only [netMoved, cashTotal, Tally.sumWhere_cons] at ih ⊢
    rw [ih]
    by_cases own : movement.cashSessionId = some sessionId
    · cases action : movement.action <;> simp [PosCashMovement.moves, own, action, CashAction.sign,
        CashAction.changesBalance] <;> ring
    · simp [PosCashMovement.moves, own]

/-- A movement of another session, or one that changes no balance, leaves a session as it was. -/
theorem SessionInvariant.foreign (invariant : SessionInvariant movements session)
    (foreign : movement.moves session.id = false) :
    SessionInvariant (movements ++ [movement]) session := by
  obtain ⟨explained, nonneg, opens, leads⟩ := invariant
  have same : balanceHistory (movements ++ [movement]) session.id =
      balanceHistory movements session.id :=
    balanceHistory_append_foreign foreign
  refine ⟨?_, nonneg, by rw [same]; exact opens, by rw [same]; exact leads⟩
  rw [netMoved_append, foreign]
  simpa using explained

/-- A movement that starts at the balance of a session carries the session to the balance it
explains. -/
theorem SessionInvariant.moved (invariant : SessionInvariant movements session) {balance : ℚ}
    (own : movement.cashSessionId = some session.id) (directed : movement.action.sign ≠ 0)
    (starts : movement.expectedBalanceBefore = some session.expectedCash)
    (ends : movement.expectedBalanceAfter = some balance)
    (explained : balance = session.expectedCash + movement.action.sign * movement.amount)
    (nonneg : 0 ≤ balance) :
    SessionInvariant (movements ++ [movement]) { session with expectedCash := balance } := by
  have moves : movement.moves session.id = true := by
    simp [PosCashMovement.moves, own, changesBalance_of_sign directed]
  have extended : balanceHistory (movements ++ [movement]) session.id =
      balanceHistory movements session.id ++ [movement] := balanceHistory_append_own moves
  constructor
  · change balance = session.openingAmount + netMoved (movements ++ [movement]) session.id
    rw [netMoved_append, moves, explained, invariant.explained]
    simp only [if_true]
    ring
  · exact nonneg
  · obtain ⟨first, rest, history, opening⟩ := invariant.opens
    exact ⟨first, rest ++ [movement], by rw [extended, history, List.cons_append], opening⟩
  · rw [extended, List.map_append, List.map_singleton, PosCashMovement.balances, starts, ends]
    exact invariant.leads.append (some balance)

/-- A session that was just opened. -/
theorem SessionInvariant.opened
    (unmentioned : ∀ other ∈ movements, other.cashSessionId ≠ some session.id)
    (own : movement.cashSessionId = some session.id) (action : movement.action = .opening)
    (starts : movement.expectedBalanceBefore = some 0)
    (ends : movement.expectedBalanceAfter = some session.openingAmount)
    (expected : session.expectedCash = session.openingAmount)
    (positive : 0 < session.openingAmount) :
    SessionInvariant (movements ++ [movement]) session := by
  have silent : ∀ other ∈ movements, other.moves session.id = false := by
    intro other member
    simp [PosCashMovement.moves, unmentioned other member]
  have moves : movement.moves session.id = true := by
    simp [PosCashMovement.moves, own, action, CashAction.changesBalance]
  have history : balanceHistory (movements ++ [movement]) session.id = [movement] := by
    rw [balanceHistory_append_own moves, balanceHistory, List.filter_eq_nil_iff.mpr,
      List.nil_append]
    exact fun other member => Bool.eq_false_iff.mp (silent other member)
  have before : netMoved movements session.id = 0 := by
    refine Tally.sumWhere_eq_zero fun other member own => ?_
    rw [silent other member] at own
    contradiction
  constructor
  · rw [netMoved_append, before, action, expected]
    simp [CashAction.sign]
  · rw [expected]
    exact positive.le
  · exact ⟨movement, [], history, action, starts, ends⟩
  · rw [history, expected]
    exact ⟨starts, ends⟩

end Movements

namespace CashInvariant

variable {before after : CashTables}

/-- Every change of the cash tables keeps every session balanced. -/
theorem change (invariant : CashInvariant before) (change : CashChange before after) :
    CashInvariant after := by
  obtain ⟨distinct, sessions⟩ := invariant
  cases change with
  | idle same =>
    rw [same]
    exact ⟨distinct, sessions⟩
  | opened session movement unused unmentioned own action starts ends expected positive tables =>
    subst tables
    refine ⟨?_, fun other member => ?_⟩
    · rw [List.map_append, List.map_singleton, List.nodup_append]
      refine ⟨distinct, List.nodup_singleton _, fun id old new inNew => ?_⟩
      obtain ⟨other, member, rfl⟩ := List.mem_map.mp old
      rw [List.mem_singleton.mp inNew]
      exact unused other member
    · rcases List.mem_append.mp member with old | new
      · refine (sessions other old).foreign ?_
        simp [PosCashMovement.moves, own, Ne.symm (unused other old)]
      · rw [List.mem_singleton.mp new]
        exact .opened unmentioned own action starts ends expected positive
  | moved session movement balance member own directed starts ends explained covered tables =>
    subst tables
    refine ⟨?_, fun other isAfter => ?_⟩
    · change (List.map _ (update _ _ _ _)).Nodup
      rw [map_key_update (by exact fun _ => rfl)]
      exact distinct
    · rcases mem_update_singleton distinct member isAfter with rfl | ⟨old, apart⟩
      · exact (sessions session member).moved own directed starts ends explained
          (covered (sessions session member).nonneg)
      · refine (sessions other old).foreign ?_
        simp [PosCashMovement.moves, own, Ne.symm apart]
  | noted change movement keeps quiet tables =>
    subst tables
    refine ⟨?_, fun other isAfter => ?_⟩
    · have same : (before.sessions.map change).map (·.id) = before.sessions.map (·.id) := by
        rw [List.map_map]
        exact List.map_congr_left fun session _ => (keeps session).1
      rw [same]
      exact distinct
    · obtain ⟨session, old, rfl⟩ := List.mem_map.mp isAfter
      obtain ⟨id, openingAmount, expectedCash⟩ := keeps session
      have kept := (sessions session old).foreign (quiet session.id)
      exact ⟨by rw [id, openingAmount,
          expectedCash]; exact kept.explained, by rw [expectedCash]; exact kept.nonneg,
        by rw [id, openingAmount]; exact kept.opens, by rw [id, expectedCash]; exact kept.leads⟩

end CashInvariant

/-! ## All requests -/

theorem SaleEffect.cash {db after : Db} {request : SaleRequest}
    (effect : SaleEffect db after request) :
    CashChange db.cash after.cash := by
  cases effect with
  | created sale lines step => exact .idle (by rw [step.tables]; rfl)
  | updated tenantId sale target lines step => exact .idle (by rw [step.tables]; rfl)
  | canceled sale target step => exact .idle (by rw [step.tables]; rfl)
  | refunded sale target items session step => exact step.cash
  | exchanged sale target items lines exchangeSale delta batch session step => exact step.cash
  | checkedOut sale target totals advance batch step => exact step.cash

theorem systemStep_cash {db after : Db} {request : SystemRequest}
    (success : systemStep db request = .ok after) :
    CashChange db.cash after.cash := by
  cases request with
  | sale request => exact (saleStep_ok success).cash
  | returns request => exact .idle (by rw [(returnStep_ok success).tables]; rfl)
  | advance request => exact (advanceStep_ok success).cash
  | cash request => exact (cashStep_ok success).change
  | transfer request => exact .idle (by rw [(transferStep_ok success).tables]; rfl)

/-- From a state without cash sessions, every run of requests keeps every session balanced. -/
theorem cash_sessions_balanced (start db : Db) (noSessions : start.cashSessions = [])
    (reached : Reachable systemStep (fun _ _ => True) start db) :
    ∀ session ∈ db.cashSessions, BalancedSession db.cashMovements session := by
  have initial : CashInvariant start.cash :=
    ⟨by simp [Db.cash, noSessions], by simp [Db.cash, noSessions]⟩
  have keeps : ∀ (source : Db) (request : SystemRequest) (next : Db), CashInvariant source.cash →
      True → systemStep source request = .ok next → CashInvariant next.cash :=
    fun _ _ _ invariant _ success => invariant.change (systemStep_cash success)
  have invariant : CashInvariant db.cash := reached.invariant initial keeps
  intro session member
  obtain ⟨explained, nonneg, opens, leads⟩ := invariant.sessions session member
  refine ⟨?_, nonneg, opens, (List.isChain_map _).mp leads.isChain⟩
  rw [explained, netMoved_eq_totals]
  exact (add_sub_assoc ..).symm

/-! ## A sample shop -/

namespace Sample

/-- A manager at the counter of store 10. -/
def cashier : RequestContext :=
  { tokenData := { tenantId := some 1, storeId := some 10, role := some "MANAGER" },
    permits := fun _ => true, now := 100 }

/-- The jackets of the network with a price, and a shop that takes returns without a receipt. -/
def shop : Db :=
  { stores
    stock := ⟨[{ jacket with id := 1, itemUid := 1, tenantId := 1, storeId := some 10,
                             salePrice := some ⟨1000⟩ },
      { jacket with id := 2, itemUid := 2, tenantId := 1, storeId := some 10,
                    salePrice := some ⟨1000⟩ },
      { taggedJacket with id := 3, itemUid := 3, tenantId := 1, storeId := some 10,
                          salePrice := some ⟨2000⟩ }],
      by decide +kernel, by decide +kernel, by decide +kernel⟩
    returnPolicies := [{ tenantId := 1, requireReceipt := false }] }

def openDrawer : SystemRequest :=
  .cash (.sessionAction cashier { transactionId := some "open", action := .opening 50 1 "UTC" })

def draft (lines : List PosSaleLineCreate) : SystemRequest :=
  .sale (.create cashier { transactionId := some "draft", storeId := some 10, lines })

def onSale (saleId : ℕ) (action : SaleAction) : SystemRequest :=
  .sale (.action cashier saleId { transactionId := some "action", action })

def inCash (amount : ℚ) : PosPaymentCreate := { method := .cash, amount }

/-- Two jackets are paid with cash and change; one comes back. -/
def saleAndRefund : List SystemRequest :=
  [openDrawer, draft [{ lineType := .sku, qty := 2, sku := some "JACKET" }],
    onSale 1 (.checkout { payments := [inCash 25] }),
    onSale 1 (.refundItems { returnItems := [{ lineId := 1 }], refundPayments := [inCash 10] })]

private theorem saleAndRefund_commits :
    (runAllowed systemStep (fun _ _ => True) shop saleAndRefund).isSome = true := by
  decide +kernel

def dayOfRefund : Db :=
  (runAllowed systemStep (fun _ _ => True) shop saleAndRefund).get saleAndRefund_commits

end Sample

theorem cash_sessions_balanced_after_refund : Sample.dayOfRefund.cashSessions.length = 1 ∧
    ∀ session ∈ Sample.dayOfRefund.cashSessions,
    BalancedSession Sample.dayOfRefund.cashMovements session :=
  ⟨by decide +kernel, cash_sessions_balanced Sample.shop Sample.dayOfRefund rfl
    (reachable_of_runAllowed (Option.some_get _).symm)⟩

end ArisCloud

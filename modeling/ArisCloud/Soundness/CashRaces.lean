import ArisCloud.Proofs.CashWrites
import ArisCloud.Soundness.CashBalance

/-! # Balances under interleaved requests

Session actions and cuts lock the session they move cash in. Vouchers do not, and neither does a
sale that falls back on the only open session of the store, so two requests may start from the same
balance: two refunds may, since each locks a voucher of its own, while two issuances of a store take
turns for the number of their voucher. As long as an unlocked request commits only while the session
still has the balance it read, every balance stays explained by its movements.
-/

namespace ArisCloud

open KeyedRows Requests Transactions

variable {ι : Type} {db after : Db} {holder : CashLock → Option ι} {connection other : ι}
    {session : PosCashSession}
  {phase : CashPhase}

/-! ## What a request relies on -/

/-- A request that locked its session still holds the lock, and the session has the balance that was
read. -/
def Backed (db : Db) (holder : CashLock → Option ι) (connection : ι) (session : PosCashSession)
    (locked : Bool) : Prop :=
  locked = true → holder (.session session.id) = some connection ∧ BalanceKept db session

/-- What a request in some phase relies on. -/
def PhaseBacked (db : Db) (holder : CashLock → Option ι) (connection : ι) : CashPhase → Prop
  | .dateOpen _ openingAmount _ | .writing _ (.opening _ openingAmount _) _ => 0 < openingAmount
  | .found _ session locked _ => Backed db holder connection session locked
  | .writing locked (.movement _ session _ flow amount) _ =>
    Backed db holder connection session locked ∧
    (0 ≤ session.expectedCash → 0 ≤ flow.balance session.expectedCash amount)
  | _ => True

/-- A statement leads to a phase that is backed by the rows it read and locked. -/
theorem PhaseBacked.read {locks : List CashLock} {next : CashPhase}
    (backed : PhaseBacked db holder connection phase) (read : CashRead db phase locks next) :
    PhaseBacked db (acquire holder connection locks) connection next := by
  cases read with
  | dateOpen scope openingAmount businessDate timezone positive => exact positive
  | opening => exact backed
  | found _ scope use session found =>
    rintro locks
    refine ⟨acquire_of_mem (SessionUse.lookup_locked found locks), session, ?_, rfl, rfl⟩
    exact (List.mem_filter.mp (SessionUse.lookup_selected found)).1
  | fallback => rintro ⟨⟩
  | planned scope session locked use write planned =>
    rcases SessionUse.plan_ok planned with ⟨countedCash, rfl⟩ | ⟨saleId, flow, amount, rfl, _,
      covered⟩
    · trivial
    · exact ⟨backed, covered⟩
  | numbered | ready | unmatched | undecided | counting | counted | failed => trivial

/-! ## One move -/

variable [DecidableEq ι] {config next : Config Db CashLock CashPhase ι}

/-- What a request relies on outlasts the moves of others. -/
theorem PhaseBacked.stays {moved : CashPhase}
    (move : config.Moved (fun _ => cashCode) .lost connection after holder moved)
    (apart : other ≠ connection) (backed : PhaseBacked config.committed config.holder other phase) :
    PhaseBacked after holder other phase := by
  have stays {session : PosCashSession} {locked : Bool}
      (backed : Backed config.committed config.holder other session locked) :
      Backed after holder other session locked := by
    rintro isLocked
    obtain ⟨holds, kept⟩ := backed isLocked
    refine ⟨move.holder_of_ne apart holds,
      move.keeps_locked (BalanceKept · session) ?_ kept apart holds⟩
    rintro locks write _ refused written commits writes unlocked
    obtain ⟨_, planned, voucher, _, rfl, rfl, _⟩ := cashCode_commit commits
    obtain ⟨row, member, same, balance⟩ := kept
    exact ⟨row, CashWrite.mem_applyWith writes member (by rwa [same]), same, balance⟩
  cases phase with
  | found scope session locked use => exact stays backed
  | writing locked write voucher =>
    cases write with
    | movement => exact ⟨stays backed.1, backed.2⟩
    | opening => exact backed
    | close | dayClose => trivial
  | dateOpen => exact backed
  | arrived | numbered | ready | unmatched | undecided | counting | committed | failed | lost =>
    trivial

/-- The session that a request is about to pay into or out of without its lock. -/
def CashPhase.unlockedSession : CashPhase → Option PosCashSession
  | .writing false (.movement _ session _ _ _) _ => some session
  | _ => none

/-- An unlocked movement commits only while its session has the balance that was read. -/
def UnlockedBalanceKept (config : Config Db CashLock CashPhase ι) (move : ι × Move) : Prop :=
  move.2 = .proceed → ∀ session ∈ (config.phase move.1).unlockedSession,
    BalanceKept config.committed session

instance (config : Config Db CashLock CashPhase ι) (move : ι × Move) :
    Decidable (UnlockedBalanceKept config move) :=
  inferInstanceAs (Decidable (move.2 = .proceed → _))

omit [DecidableEq ι] in
/-- A commit that is backed can rely on what it read. -/
theorem sound_of_backed {move : ι × Move} {locked : Bool} {write : CashWrite}
    {voucher : Option VoucherWrite} (here : config.phase move.1 = .writing locked write voucher)
    (backed : PhaseBacked config.committed config.holder move.1 (config.phase move.1))
    (kept : UnlockedBalanceKept config move) (proceeds : move.2 = .proceed) :
    write.Sound config.committed := by
  rw [here] at backed
  cases write with
  | opening => exact backed
  | movement scope session saleId flow amount =>
    refine ⟨?_, backed.2⟩
    cases locked with
    | true => exact (backed.1 rfl).2
    | false => exact kept proceeds session (by rw [here]; rfl)
  | close | dayClose => trivial

/-- What holds in every state that interleaved requests commit. -/
abbrev CashRaceInvariant (config : Config Db CashLock CashPhase ι) : Prop :=
  config.Guarded (fun db => CashInvariant db.cash) PhaseBacked

theorem CashRaceInvariant.step (invariant : CashRaceInvariant config) {move : ι × Move}
    (kept : UnlockedBalanceKept config move)
    (success : config.step (fun _ => cashCode) .lost move = .ok next) :
    CashRaceInvariant next := by
  have backed := invariant.phases move.1
  apply Config.Guarded.step invariant success
  · trivial
  · rintro proceeds after holder phase moved
    cases moved with
    | close stopped =>
      refine ⟨invariant.tables, ?_⟩
      rcases cashCode_stop stopped with here | ⟨error, here⟩ | here <;>
      · rw [here]
        trivial
    | abort => exact ⟨invariant.tables, trivial⟩
    | read locks next reads free => exact ⟨invariant.tables, backed.read (cashCode_read reads _)⟩
    | commit locks write _ refused _ commits free written =>
      obtain ⟨_, planned, voucher, here, rfl, rfl, rfl, _⟩ := cashCode_commit commits
      obtain ⟨cash, applied, same⟩ := CashWrite.applyWith_eq written
      have change := CashWrite.change (sound_of_backed here backed kept proceeds) applied
      rw [← Db.cash_congr same] at change
      exact ⟨invariant.tables.change change, trivial⟩
    | refuse _ _ _ _ commits =>
      obtain ⟨_, _, _, _, _, _, _, _, rfl⟩ := cashCode_commit commits
      exact ⟨invariant.tables, trivial⟩
  · exact fun _ _ _ _ moved _ apart backed => backed.stays moved apart

/-! ## All requests -/

/-- However cash requests interleave from a state without sessions, the balance of every session is
its opening amount with its movements added up, as long as every unlocked movement commits while its
session has the balance it read. -/
theorem interleaved_balances_explained (start config : Config Db CashLock CashPhase ι)
    (noSessions : start.committed.cashSessions = [])
    (arrived : ∀ connection, ∃ scope transaction, start.phase connection =
      .arrived scope transaction)
    (reached : Reachable (Config.step (fun _ => cashCode) .lost) UnlockedBalanceKept start config) :
    ∀ session ∈ config.committed.cashSessions,
      session.expectedCash = session.openingAmount + netMoved config.committed.cashMovements
      session.id := by
  have initial : CashRaceInvariant start := by
    constructor
    · exact ⟨by simp [Db.cash, noSessions], by simp [Db.cash, noSessions]⟩
    · intro connection
      obtain ⟨scope, transaction, here⟩ := arrived connection
      rw [here]
      trivial
  have invariant : CashRaceInvariant config :=
    reached.invariant initial fun _ _ _ invariant kept success => invariant.step kept success
  intro session member
  exact (invariant.tables.sessions session member).explained

/-! ## Two refunds -/

namespace Sample

def drawerScope : CashScope := { context := cashier, tenantId := 1, storeId := 10 }

/-- A voucher of the store that was paid for in cash. -/
def voucher (id number : ℕ) (amount : ℚ) : PosAdvance :=
  { id, tenantId := 1, storeId := 10, advanceNumber := number, barcodeValue := s!"ADV-10-{number}",
    issuedAmount := amount, issuedPaymentMethod := .cash, expiresAt := 5184000 }

/-- Vouchers of 10 and of 20 have been sold. -/
def vouchersSold : Db := { stores, advances := [voucher 1 1 10, voucher 2 2 20] }

/-- A cashier opens a session, 5 are paid in, the vouchers are refunded, and another one is
issued. -/
def drawerRequests : ℕ → CashTransaction
  | 0 => .opening 50 1 "UTC"
  | 1 => .refundAdvance 1
  | 2 => .refundAdvance 2
  | 3 => .issueAdvance 3 .advance 40
  | 4 => .issueAdvance 4 .advance 60
  | _ => .use (.cashIn 5) rfl

def drawerArrived : Config Db CashLock CashPhase ℕ :=
  { committed := vouchersSold, holder := fun _ => none
    phase := fun connection => .arrived drawerScope (drawerRequests connection) }

abbrev drawerStep : Config Db CashLock CashPhase ℕ → ℕ × Move → Except Blocked
    (Config Db CashLock CashPhase ℕ) :=
  Config.step (fun _ => cashCode) .lost

/-- The moves of one request after the other. -/
def oneByOne (connections : List ℕ) : List (ℕ × Move) :=
  connections.flatMap fun connection => List.replicate 5 (connection, .proceed)

private theorem oneByOne_commits :
    (runAllowed drawerStep UnlockedBalanceKept drawerArrived (oneByOne [0, 1, 3, 5, 2])).isSome =
    true := by
  decide +kernel

def drawerSettled : Config Db CashLock CashPhase ℕ :=
  (runAllowed drawerStep UnlockedBalanceKept drawerArrived (oneByOne [0, 1, 3, 5, 2])).get
    oneByOne_commits

/-- Statement by statement, after the session is open. -/
def together (first second : ℕ) : List (ℕ × Move) :=
  oneByOne [0] ++ (List.replicate 4 [first, second]).flatten.map fun connection =>
    (connection, .proceed)

private theorem refundsTogether_commit :
    (runAllowed drawerStep (fun _ _ => True) drawerArrived (together 1 2)).isSome = true := by
  decide +kernel

/-- Both refunds read the balance before either commits. -/
def drawerShort : Config Db CashLock CashPhase ℕ :=
  (runAllowed drawerStep (fun _ _ => True) drawerArrived (together 1 2)).get refundsTogether_commit

end Sample

/-- Two issuances that compute the same number do not both get as far as the session. -/
example : (runAllowed Sample.drawerStep (fun _ _ => True) Sample.drawerArrived
      (Sample.together 3 4)).isNone = true := by
  decide +kernel

theorem interleaved_balances_explained_one_by_one :
    Sample.drawerSettled.committed.cashSessions.map (·.expectedCash) = [65] ∧
      ∀ session ∈ Sample.drawerSettled.committed.cashSessions,
        session.expectedCash = session.openingAmount +
        netMoved Sample.drawerSettled.committed.cashMovements session.id :=
  ⟨by decide +kernel, interleaved_balances_explained Sample.drawerArrived Sample.drawerSettled rfl
    (fun _ => ⟨_, _, rfl⟩) (reachable_of_runAllowed (Option.some_get _).symm)⟩

/-- Two refunds that read the same balance leave only one of their amounts in it. -/
theorem refunds_lose_an_update : ¬ ∀ start config : Config Db CashLock CashPhase ℕ,
    start.committed.cashSessions = [] →
    (∀ connection, ∃ scope transaction, start.phase connection = .arrived scope transaction) →
    Reachable (Config.step (fun _ => cashCode) .lost) (fun _ _ => True) start config →
    ∀ session ∈ config.committed.cashSessions,
      session.expectedCash = session.openingAmount + netMoved config.committed.cashMovements
      session.id := by
  intro explained
  have all := explained Sample.drawerArrived Sample.drawerShort rfl (fun _ => ⟨_, _, rfl⟩)
    (reachable_of_runAllowed (Option.some_get _).symm)
  have short : ¬ ∀ session ∈ Sample.drawerShort.committed.cashSessions,
      session.expectedCash = session.openingAmount +
      netMoved Sample.drawerShort.committed.cashMovements session.id := by
    decide +kernel
  exact short all

end ArisCloud

import ArisCloud.Proofs.AdvanceWrites

/-! # An advance is settled once

Checkouts, actions and sweeps hold the lock of an advance from the check that it is active to the
commit that settles it. A lookup checks without the lock, so what it expires may have been settled
in between. As long as it expires only advances that are still active, an advance leaves that status
once, and one event says how.
-/

namespace ArisCloud

open KeyedRows Requests Transactions

variable {ι : Type} {db after : Db} {holder : ℕ → Option ι} {connection other : ι}
    {write : AdvanceWrite}
  {phase : AdvancePhase} {advance : PosAdvance}

/-! ## Settled advances -/

def AdvanceEventAction.isTerminal : AdvanceEventAction → Bool
  | .consumed | .refunded | .expired => true
  | .issued | .validated => false

/-- The event that records a status. -/
def AdvanceStatus.action : AdvanceStatus → AdvanceEventAction
  | .active => .issued
  | .consumed => .consumed
  | .refunded => .refunded
  | .expired => .expired

/-- The event records how this advance was settled. -/
def PosAdvanceEvent.settles (advanceId : ℕ) (event : PosAdvanceEvent) : Bool :=
  event.advanceId = advanceId && event.action.isTerminal

/-- An active advance has no terminal event, and a settled one has a single one, which agrees with
its status. -/
structure SettledOnce (db : Db) : Prop where
  distinct : (db.advances.map (·.id)).Nodup
  active : ∀ advance ∈ db.advances, advance.status = .active →
    db.advanceEvents.countP (·.settles advance.id) = 0
  once : ∀ advance ∈ db.advances, advance.status ≠ .active →
    db.advanceEvents.countP (·.settles advance.id) = 1
  agrees : ∀ advance ∈ db.advances, ∀ event ∈ db.advanceEvents, event.settles advance.id = true →
    event.action = advance.status.action

theorem Settlement.terminal (settlement : Settlement) : settlement.action.isTerminal = true := by
  cases settlement <;> rfl

@[simp] theorem Settlement.settle_id (settlement : Settlement) (advance : PosAdvance) :
    (settlement.settle advance).id = advance.id := by
  cases settlement <;> rfl

@[simp] theorem Settlement.settle_status (settlement : Settlement) (advance : PosAdvance) :
    (settlement.settle advance).status = settlement.status := by
  cases settlement <;> rfl

private theorem Settlement.status_action (settlement : Settlement) :
    settlement.status.action = settlement.action := by
  cases settlement <;> rfl

private theorem Settlement.status_ne_active (settlement : Settlement) :
    settlement.status ≠ .active := by
  cases settlement <;> nofun

/-! ## Commits -/

/-- A commit writes one terminal event for each advance that it settles. -/
theorem AdvanceWrite.countP_events (write : AdvanceWrite) (advanceId : ℕ) :
    write.events.countP (·.settles advanceId) = (write.rows.map (·.id)).count advanceId := by
  have validated : (write.validated.toList.map (advanceEvent · .validated none write.now)).countP
      (·.settles advanceId) = 0 := by
    rw [List.countP_eq_zero]
    rintro event member
    obtain ⟨_, _, rfl⟩ := List.mem_map.mp member
    simp [PosAdvanceEvent.settles, advanceEvent, AdvanceEventAction.isTerminal]
  rw [events, List.countP_append, validated, List.countP_map, List.count_eq_countP, List.countP_map,
    Nat.add_zero]
  apply List.countP_congr
  rintro row _
  simp [PosAdvanceEvent.settles, advanceEvent, Settlement.terminal]

/-- A terminal event of a commit is about an advance that it settles. -/
theorem AdvanceWrite.settles_of_mem_events {event : PosAdvanceEvent} {advanceId : ℕ}
    (member : event ∈ write.events) (settles : event.settles advanceId = true) :
    advanceId ∈ write.rows.map (·.id) ∧ event.action = write.settlement.action := by
  simp only [PosAdvanceEvent.settles, Bool.and_eq_true, decide_eq_true_eq] at settles
  obtain ⟨rfl, terminal⟩ := settles
  rcases List.mem_append.mp member with settled | validated
  · obtain ⟨row, isRow, rfl⟩ := List.mem_map.mp settled
    exact ⟨List.mem_map_of_mem isRow, rfl⟩
  · obtain ⟨_, _, rfl⟩ := List.mem_map.mp validated
    contradiction

/-- The advances that a commit settles are still active. -/
def AdvanceWrite.FindsActive (db : Db) (write : AdvanceWrite) : Prop :=
  ∀ row ∈ write.rows, ∃ current ∈ db.advances, current.id = row.id ∧ current.status = .active

instance (db : Db) (write : AdvanceWrite) : Decidable (write.FindsActive db) :=
  inferInstanceAs (Decidable (∀ row ∈ write.rows, _))

/-- An advance that a commit settles was active. -/
theorem SettledOnce.active_of_mem (settled : SettledOnce db) (finds : write.FindsActive db)
    (member : advance ∈ db.advances) (written : advance.id ∈ write.rows.map (·.id)) :
    advance.status = .active := by
  obtain ⟨row, isRow, same⟩ := List.mem_map.mp written
  obtain ⟨current, isCurrent, own, active⟩ := finds row isRow
  rw [eq_of_key_eq settled.distinct member isCurrent (same.symm.trans own.symm)]
  exact active

/-- A settled advance stays as it is. -/
theorem SettledOnce.keeps (settled : SettledOnce db) (finds : write.FindsActive db)
    (written : write.apply db = some after) (member : advance ∈ db.advances)
    (terminal : advance.status ≠ .active) : advance ∈ after.advances := by
  obtain rfl := Option.some.inj written
  exact mem_update.mpr ⟨advance, member, if_neg fun touched =>
    terminal (settled.active_of_mem finds member touched)⟩

theorem SettledOnce.apply (settled : SettledOnce db) (unrepeated : (write.rows.map (·.id)).Nodup)
    (finds : write.FindsActive db) (written : write.apply db = some after) : SettledOnce after := by
  obtain rfl := Option.some.inj written
  have events (advanceId : ℕ) : (db.advanceEvents ++ write.events).countP (·.settles advanceId) =
      db.advanceEvents.countP (·.settles advanceId) + (write.rows.map (·.id)).count advanceId := by
    rw [List.countP_append, write.countP_events]
  constructor
  · change ((update _ _ _ _).map _).Nodup
    rw [map_key_update (by exact write.settlement.settle_id)]
    exact settled.distinct
  · rintro advance member active
    rcases mem_update_cases member with ⟨old, untouched⟩ | ⟨before, old, touched, rfl⟩
    · rw [events, settled.active advance old active, List.count_eq_zero_of_not_mem untouched]
    · exact absurd ((write.settlement.settle_status before).symm.trans active)
        write.settlement.status_ne_active
  · rintro advance member terminal
    rcases mem_update_cases member with ⟨old, untouched⟩ | ⟨before, old, touched, rfl⟩
    · rw [events, settled.once advance old terminal, List.count_eq_zero_of_not_mem untouched]
    · rw [Settlement.settle_id, events, settled.active before old
        (settled.active_of_mem finds old touched), List.count_eq_one_of_mem unrepeated touched]
  · rintro advance member event recorded settles
    rcases mem_update_cases member with ⟨old, untouched⟩ | ⟨before, old, touched, rfl⟩
    · rcases List.mem_append.mp recorded with earlier | new
      · exact settled.agrees advance old event earlier settles
      · exact absurd (AdvanceWrite.settles_of_mem_events new settles).1 untouched
    · rw [Settlement.settle_id] at settles
      rw [Settlement.settle_status, Settlement.status_action]
      rcases List.mem_append.mp recorded with earlier | new
      · have none := settled.active before old (settled.active_of_mem finds old touched)
        exact absurd settles (List.countP_eq_zero.mp none event earlier)
      · exact (AdvanceWrite.settles_of_mem_events new settles).2

/-! ## Interleaved requests -/

/-- A request that locked an advance still holds the lock, and the advance is the active row that
was read. -/
def LockedActive (db : Db) (holder : ℕ → Option ι) (connection : ι) (row : PosAdvance) : Prop :=
  holder row.id = some connection ∧ row ∈ db.advances ∧ row.status = .active

/-- What a request that is about to commit knows about the advances that it settles. -/
def PhaseSettling (db : Db) (holder : ℕ → Option ι) (connection : ι) : AdvancePhase → Prop
  | .writing locked write => (write.rows.map (·.id)).Nodup ∧
    (locked = true → ∀ row ∈ write.rows, LockedActive db holder connection row)
  | _ => True

private theorem AdvanceRead.settling {locks : List ℕ} {next : AdvancePhase}
    (read : AdvanceRead db locks next) :
    PhaseSettling db (acquire holder connection locks) connection next := by
  cases read with
  | locked write unrepeated active =>
    refine ⟨unrepeated, fun _ row isRow => ?_⟩
    obtain ⟨member, isActive, locked⟩ := active row isRow
    exact ⟨acquire_of_mem locked, member, isActive⟩
  | unlocked write unrepeated => exact ⟨unrepeated, nofun⟩
  | answered | failed => trivial

/-- The advances that a request without locks is about to settle. -/
def AdvancePhase.unlockedWrite : AdvancePhase → Option AdvanceWrite
  | .writing false write => some write
  | _ => none

/-- A request that settles advances without having locked them finds them still active when it
commits. -/
def UnlockedStillActive (config : Config Db ℕ AdvancePhase ι) (move : ι × Move) : Prop :=
  move.2 = .proceed → ∀ write ∈ (config.phase move.1).unlockedWrite,
    write.FindsActive config.committed

instance (config : Config Db ℕ AdvancePhase ι) (move : ι × Move) :
    Decidable (UnlockedStillActive config move) :=
  inferInstanceAs (Decidable (move.2 = .proceed → _))

variable [DecidableEq ι] {config next : Config Db ℕ AdvancePhase ι}

/-- What a request knows about the advances that it locked outlasts the moves of others. -/
theorem PhaseSettling.stays {moved : AdvancePhase}
    (move : config.Moved (fun _ => advanceCode) .lost connection after holder moved)
    (apart : other ≠ connection)
    (settling : PhaseSettling config.committed config.holder other phase) :
    PhaseSettling after holder other phase := by
  cases phase with
  | writing locked write =>
    refine ⟨settling.1, fun isLocked row isRow => ?_⟩
    obtain ⟨holds, member, active⟩ := settling.2 isLocked row isRow
    refine ⟨move.holder_of_ne apart holds,
      move.keeps_locked (row ∈ ·.advances) ?_ member apart holds, active⟩
    rintro locks write _ _ written commits writes unlocked
    obtain ⟨_, planned, _, rfl, rfl, _⟩ := advanceCode_commit commits
    obtain rfl := Option.some.inj writes
    exact mem_update.mpr ⟨row, member, if_neg unlocked⟩
  | arrived | answered | failed | lost => trivial

omit [DecidableEq ι] in
/-- Every commit finds the advances that it settles active. -/
theorem findsActive_of_settling {move : ι × Move} {locked : Bool}
    (here : config.phase move.1 = .writing locked write)
    (settling : PhaseSettling config.committed config.holder move.1 (config.phase move.1))
    (kept : UnlockedStillActive config move) (proceeds : move.2 = .proceed) :
    write.FindsActive config.committed := by
  cases locked with
  | false => exact kept proceeds write (by rw [here]; rfl)
  | true =>
    rw [here] at settling
    rintro row isRow
    obtain ⟨_, member, active⟩ := settling.2 rfl row isRow
    exact ⟨row, member, rfl, active⟩

/-- A commit that keeps every advance settled once. -/
def SettlesActive (db after : Db) : Prop :=
  ∃ write : AdvanceWrite, (write.rows.map (·.id)).Nodup ∧ write.FindsActive db ∧
    write.apply db = some after

/-- A move commits nothing, or settles active advances. -/
theorem advance_moved {move : ι × Move} {moved : AdvancePhase}
    (guarded : config.Guarded SettledOnce PhaseSettling) (kept : UnlockedStillActive config move)
    (proceeds : move.2 = .proceed)
    (moves : config.Moved (fun _ => advanceCode) .lost move.1 after holder moved) :
    (after = config.committed ∨ SettlesActive config.committed after) ∧
    PhaseSettling after holder move.1 moved := by
  have settling := guarded.phases move.1
  cases moves with
  | close stopped =>
    refine ⟨.inl rfl, ?_⟩
    rcases advanceCode_stop stopped with here | ⟨error, here⟩ | here <;>
    · rw [here]
      trivial
  | abort => exact ⟨.inl rfl, trivial⟩
  | read locks next reads free =>
    exact ⟨.inl rfl, (advanceCode_read reads guarded.tables.distinct).settling⟩
  | commit locks write _ _ _ commits free written =>
    obtain ⟨locked, planned, here, rfl, rfl, rfl, _⟩ := advanceCode_commit commits
    have finds := findsActive_of_settling here settling kept proceeds
    rw [here] at settling
    exact ⟨.inr ⟨planned, settling.1, finds, written⟩, trivial⟩
  | refuse _ _ _ _ commits =>
    obtain ⟨_, _, _, _, _, _, rfl⟩ := advanceCode_commit commits
    exact ⟨.inl rfl, trivial⟩

/-- A move keeps every advance settled once, and the settled ones as they are. -/
theorem settledOnce_step (guarded : config.Guarded SettledOnce PhaseSettling) {move : ι × Move}
    (kept : UnlockedStillActive config move)
    (success : config.step (fun _ => advanceCode) .lost move = .ok next) :
    next.Guarded SettledOnce PhaseSettling ∧
      ∀ advance ∈ config.committed.advances, advance.status ≠ .active →
      advance ∈ next.committed.advances := by
  have settled : SettledOnce config.committed := guarded.tables
  constructor
  · apply Config.Guarded.step guarded success
    · trivial
    · rintro proceeds after holder phase moved
      obtain ⟨change, settling⟩ := advance_moved guarded kept proceeds moved
      rcases change with rfl | ⟨write, unrepeated, finds, written⟩
      · exact ⟨settled, settling⟩
      · exact ⟨settled.apply unrepeated finds written, settling⟩
    · exact fun _ _ _ _ moved _ apart settling => settling.stays moved apart
  · rintro advance member terminal
    obtain ⟨connection, turn⟩ := move
    cases turn with
    | abort =>
      rw [(Config.step_abort success).1]
      exact member
    | proceed =>
      rcases (advance_moved guarded kept rfl (Config.step_ok success).1).1 with same | ⟨write, _,
        finds, written⟩
      · rw [same]
        exact member
      · exact settled.keeps finds written member terminal

/-- However requests on advances interleave, as long as one that has not locked an advance expires
it only while it is active, an advance that has left that status stays as it is, a single event says
how it was settled, and none is both refunded and used to pay. -/
theorem advances_settled_once (start config later : Config Db ℕ AdvancePhase ι)
    (settled : SettledOnce start.committed)
    (arrived : ∀ connection, ∃ context request, start.phase connection = .arrived context request)
    (reached : Reachable (Config.step (fun _ => advanceCode) .lost) UnlockedStillActive
      start config)
    (continues : Reachable (Config.step (fun _ => advanceCode) .lost) UnlockedStillActive config
      later) :
    SettledOnce later.committed ∧
      (∀ advance ∈ config.committed.advances, advance.status ≠ .active →
        advance ∈ later.committed.advances) ∧
      ∀ advance ∈ later.committed.advances, ∀ refund ∈ later.committed.advanceEvents,
        ∀ payment ∈ later.committed.advanceEvents, refund.advanceId = advance.id →
        payment.advanceId = advance.id →
          refund.action = .refunded → payment.action ≠ .consumed := by
  have initial : start.Guarded SettledOnce PhaseSettling := by
    refine ⟨settled, fun connection => ?_⟩
    obtain ⟨context, request, here⟩ := arrived connection
    rw [here]
    trivial
  have middle : config.Guarded SettledOnce PhaseSettling :=
    reached.invariant initial fun _ _ _ guarded kept success =>
      (settledOnce_step guarded kept success).1
  have keeps :
      ∀ (source : Config Db ℕ AdvancePhase ι) (move : ι × Move) (next : Config Db ℕ AdvancePhase ι),
      (source.Guarded SettledOnce PhaseSettling ∧
        ∀ advance ∈ config.committed.advances, advance.status ≠ .active →
        advance ∈ source.committed.advances) →
      UnlockedStillActive source move → Config.step (fun _ => advanceCode) .lost source move =
        .ok next →
      next.Guarded SettledOnce PhaseSettling ∧
        ∀ advance ∈ config.committed.advances, advance.status ≠ .active →
        advance ∈ next.committed.advances := by
    rintro source move next ⟨guarded, stays⟩ kept success
    obtain ⟨after, retained⟩ := settledOnce_step guarded kept success
    exact ⟨after, fun advance member terminal =>
      retained advance (stays advance member terminal) terminal⟩
  obtain ⟨guarded, stays⟩ := continues.invariant ⟨middle, fun _ member _ => member⟩ keeps
  refine ⟨guarded.tables, stays, ?_⟩
  rintro advance member refund isRefund payment isPayment own ownPayment refunded consumed
  have first := guarded.tables.agrees advance member refund isRefund
    (by simp [PosAdvanceEvent.settles, own, refunded, AdvanceEventAction.isTerminal])
  have second := guarded.tables.agrees advance member payment isPayment
    (by simp [PosAdvanceEvent.settles, ownPayment, consumed, AdvanceEventAction.isTerminal])
  rw [refunded] at first
  rw [← first, consumed] at second
  contradiction

/-! ## A lookup and a checkout -/

namespace Sample

/-- An advance of 20 that expires at 100. -/
def prepaid : PosAdvance :=
  { id := 1, tenantId := 1, storeId := 10, advanceNumber := 1, barcodeValue := "ADV-10-1",
    issuedAmount := 20, issuedPaymentMethod := .card, expiresAt := 100 }

def counterAt (now : ℕ) : RequestContext :=
  { tokenData := { tenantId := some 1, storeId := some 10, role := some "MANAGER" },
    permits := fun _ => true, now }

/-- A checkout pays with the advance just before it expires, and a lookup reads it just after. -/
def advanceRequests : ℕ → AdvancePhase
  | 0 => .arrived (counterAt 90)
    (.checkout 1 10 7 { method := .advance, amount := 20, advanceId := some 1 })
  | _ => .arrived (counterAt 110) (.lookup "ADV-10-1" none)

def advanceArrived : Config Db ℕ AdvancePhase ℕ :=
  { committed := { stores := [⟨10, 1⟩], advances := [prepaid] }, holder := fun _ => none,
    phase := advanceRequests }

abbrev advanceMove : Config Db ℕ AdvancePhase ℕ → ℕ × Move → Except Blocked
    (Config Db ℕ AdvancePhase ℕ) :=
  Config.step (fun _ => advanceCode) .lost

private theorem prepaid_settled : SettledOnce advanceArrived.committed := by
  constructor <;> simp [advanceArrived, prepaid]

def payThenLookUp : List (ℕ × Move) := [0, 0, 0, 1, 1].map fun connection => (connection, .proceed)

private theorem payThenLookUp_commits :
    (runAllowed advanceMove UnlockedStillActive advanceArrived payThenLookUp).isSome = true := by
  decide +kernel

def paidAndLookedUp : Config Db ℕ AdvancePhase ℕ :=
  (runAllowed advanceMove UnlockedStillActive advanceArrived payThenLookUp).get
    payThenLookUp_commits

/-- The lookup reads the advance before the checkout commits. -/
def lookUpMeanwhile : List (ℕ × Move) := [0, 1, 0, 1].map fun connection => (connection, .proceed)

private theorem lookUpMeanwhile_commits :
    (runAllowed advanceMove (fun _ _ => True) advanceArrived lookUpMeanwhile).isSome = true := by
  decide +kernel

def expiredAfterPaying : Config Db ℕ AdvancePhase ℕ :=
  (runAllowed advanceMove (fun _ _ => True) advanceArrived lookUpMeanwhile).get
    lookUpMeanwhile_commits

end Sample

theorem advances_settled_once_paid : Sample.paidAndLookedUp.committed.advances.map
    (·.status) = [.consumed] ∧
    SettledOnce Sample.paidAndLookedUp.committed :=
  ⟨by decide +kernel,
    (advances_settled_once Sample.advanceArrived Sample.advanceArrived Sample.paidAndLookedUp
    Sample.prepaid_settled (fun connection => by cases connection <;> exact ⟨_, _, rfl⟩) .start
    (reachable_of_runAllowed (Option.some_get _).symm)).1⟩

/-- A lookup that read the advance before it paid for a sale expires it afterwards. -/
theorem lookup_expires_a_spent_advance : ¬ ∀ start config later : Config Db ℕ AdvancePhase ℕ,
    SettledOnce start.committed →
    (∀ connection, ∃ context request, start.phase connection = .arrived context request) →
    Reachable (Config.step (fun _ => advanceCode) .lost) (fun _ _ => True) start config →
    Reachable (Config.step (fun _ => advanceCode) .lost) (fun _ _ => True) config later →
    SettledOnce later.committed := by
  intro keeps
  have settled := keeps Sample.advanceArrived Sample.advanceArrived Sample.expiredAfterPaying
    Sample.prepaid_settled (fun connection => by cases connection <;> exact ⟨_, _, rfl⟩) .start
    (reachable_of_runAllowed (Option.some_get _).symm)
  have twice : ¬ ∀ advance ∈ Sample.expiredAfterPaying.committed.advances,
      advance.status ≠ .active → Sample.expiredAfterPaying.committed.advanceEvents.countP
      (·.settles advance.id) = 1 := by
    decide +kernel
  exact twice settled.once

end ArisCloud

import ArisCloud.Model.AdvanceTransactions
import ArisCloud.Proofs.AdvanceSteps

/-! # What interleaved requests on advances read and commit

Where a statement may lead, and that a request which nothing interleaves with settles the advances
that its sequential counterpart does.
-/

namespace ArisCloud

open KeyedRows Transactions

variable {db after : Db} {phase : AdvancePhase} {advance : PosAdvance}

/-! ## Statements -/

/-- What a statement may lead to. A request that locks has locked the active advances that it is
about to settle. -/
inductive AdvanceRead (db : Db) : List ℕ → AdvancePhase → Prop
  | locked (locks : List ℕ) (write : AdvanceWrite) (unrepeated : (write.rows.map (·.id)).Nodup)
      (active : ∀ row ∈ write.rows, row ∈ db.advances ∧ row.status = .active ∧ row.id ∈ locks) :
      AdvanceRead db locks (.writing true write)
  | unlocked (locks : List ℕ) (write : AdvanceWrite) (unrepeated : (write.rows.map (·.id)).Nodup) :
      AdvanceRead db locks (.writing false write)
  | answered (locks : List ℕ) : AdvanceRead db locks .answered
  | failed (locks : List ℕ) (error : AppError) : AdvanceRead db locks (.failed error)

theorem AdvanceRead.ofChecked {α : Type} {locks : List ℕ} {result : Except AppError α}
    {next : α → AdvancePhase}
    (read : ∀ value, result = .ok value → AdvanceRead db locks (next value)) :
    AdvanceRead db locks (.ofChecked result next) := by
  cases result with
  | ok value => exact read value rfl
  | error error => exact .failed ..

private theorem mem_idsWhere {matching : PosAdvance → Bool} (member : advance ∈ db.advances)
    (matches_ : matching advance = true) :
    advance.id ∈ idsWhere db matching :=
  List.mem_map_of_mem (List.mem_filter.mpr ⟨member, matches_⟩)

private theorem checkMutation_active {context : RequestContext} {action : AdvanceAction}
    {settlement : Settlement} (checked : checkMutation db context advance action = .ok settlement) :
    advance.status = .active := by
  simp only [checkMutation, Checked.bind_eq_ok, Checked.ensure_eq_ok, exists_const] at checked
  obtain ⟨_, _, _, _, active, _⟩ := checked
  exact active_of_expireAdvanceIfNeeded active

theorem resolveAdvanceForCheckout_ok {tenantId storeId now : ℕ} {payment : PosPaymentCreate}
    (resolved : resolveAdvanceForCheckout db tenantId storeId payment now = .ok advance) :
    advance ∈ db.advances ∧ namedBy tenantId storeId payment advance = true ∧
    advance.status = .active := by
  simp only [resolveAdvanceForCheckout, Checked.bind_eq_ok, Checked.fetch_eq_ok,
    Checked.ensure_eq_ok, exists_const, Checked.pure_eq_ok] at resolved
  obtain ⟨_, first, active, _, rfl⟩ := resolved
  exact ⟨List.mem_of_find?_eq_some first, List.find?_some first,
    active_of_expireAdvanceIfNeeded active⟩

theorem advanceCode_read {locks : Db → List ℕ} {next : Db → AdvancePhase}
    (reads : advanceCode phase = .read locks next) (distinct : (db.advances.map (·.id)).Nodup) :
    AdvanceRead db (locks db) (next db) := by
  cases phase with
  | arrived context request =>
    cases request with
    | checkout tenantId storeId saleId payment =>
      cases reads
      refine .ofChecked fun advance resolved => .locked _ _ (List.nodup_singleton _) ?_
      obtain ⟨member, named, active⟩ := resolveAdvanceForCheckout_ok resolved
      rintro row isRow
      obtain rfl := List.mem_singleton.mp isRow
      exact ⟨member, active, mem_idsWhere member named⟩
    | mutate advanceId action =>
      cases reads
      apply AdvanceRead.ofChecked
      rintro ⟨advance, settlement⟩ checked
      simp only [Checked.bind_eq_ok, Checked.fetch_eq_ok, Checked.pure_eq_ok,
        Prod.mk.injEq] at checked
      obtain ⟨_, found, _, allowed, rfl, rfl⟩ := checked
      refine .locked _ _ (List.nodup_singleton _) ?_
      rintro row isRow
      obtain rfl := List.mem_singleton.mp isRow
      have member := List.mem_of_find?_eq_some found
      exact ⟨member, checkMutation_active allowed,
        mem_idsWhere member (by simpa using List.find?_some found)⟩
    | sweep tenantId storeId =>
      cases reads
      refine .locked _ _ (distinct.sublist (List.filter_sublist.map _)) ?_
      rintro row isRow
      obtain ⟨member, due⟩ := List.mem_filter.mp isRow
      refine ⟨member, ?_, mem_idsWhere member due⟩
      simp only [PosAdvance.isDue, Bool.and_eq_true, decide_eq_true_eq] at due
      exact due.2.1
    | lookup code parsedNumber =>
      cases reads
      cases found : db.advances.find? fun advance =>
          advance.barcodeValue = code || parsedNumber = some advance.advanceNumber with
      | none =>
        simp only [found]
        exact .answered _
      | some advance =>
        simp only [found]
        exact .ofChecked fun _ _ =>
          .unlocked _ _ ((List.nodup_singleton _).sublist (List.filter_sublist.map _))
    | get advanceId =>
      cases reads
      apply AdvanceRead.ofChecked
      rintro advance _
      split
      · exact .unlocked _ _ (List.nodup_singleton _)
      · exact .answered _
  | writing | answered | failed | lost => cases reads

theorem advanceCode_commit {next refused : AdvancePhase} {locks : Db → List ℕ}
    {write : Db → Option Db} (commits : advanceCode phase = .commit locks write next refused) :
    ∃ locked planned, phase = .writing locked planned ∧ (locks = fun _ => planned.rows.map (·.id)) ∧
    write = planned.apply ∧
      next = .answered ∧ refused = .lost := by
  cases phase with
  | arrived context request => cases request <;> cases commits
  | writing locked planned =>
    cases commits
    exact ⟨locked, planned, rfl, rfl, rfl, rfl, rfl⟩
  | answered | failed | lost => cases commits

theorem advanceCode_stop (stops : advanceCode phase = .stop) :
    phase = .answered ∨ (∃ error, phase = .failed error) ∨ phase = .lost := by
  cases phase with
  | answered => exact .inl rfl
  | failed error => exact .inr (.inl ⟨error, rfl⟩)
  | lost => exact .inr (.inr rfl)
  | arrived context request => cases request <;> cases stops
  | writing => cases stops

/-! ## Requests that run alone -/

theorem refundAdvance_events {context : RequestContext} {refundMethod : Option PaymentMethod}
    (success : refundAdvance db context advance refundMethod = .ok after) :
    refundMethod.isSome = true ∧
      after.advances = update (·.id) [advance.id] Settlement.refunded.settle db.advances ∧
      after.advanceEvents = db.advanceEvents ++
      [advanceEvent advance .refunded none context.now] := by
  simp only [refundAdvance, Checked.bind_eq_ok, Checked.fetch_eq_ok] at success
  obtain ⟨_, rfl, success⟩ := success
  refine ⟨rfl, ?_⟩
  split at success
  · simp only [Checked.bind_eq_ok, Checked.fetch_eq_ok] at success
    obtain ⟨session, found, recorded⟩ := success
    have only :=
      (recordCashMovement_ok (by exact activeSession_mem found)
        (by simp [CashAction.sign]) recorded).tables
    rw [only]
    exact ⟨rfl, rfl⟩
  · obtain rfl := Checked.pure_eq_ok.mp success
    exact ⟨rfl, rfl⟩

/-- An action that nothing interleaves with settles the advance as the whole request does. -/
theorem mutateAdvance_alone {context : RequestContext} {advanceId : ℕ} {action : AdvanceAction}
    (success : mutateAdvance db context advanceId action = .ok after) : ∃ last,
      Alone advanceCode db (.arrived context (.mutate advanceId action)) last .answered ∧
        last.advances = after.advances ∧ last.advanceEvents = after.advanceEvents := by
  simp only [mutateAdvance, Checked.bind_eq_ok, Checked.fetch_eq_ok, Checked.ensure_eq_ok,
    exists_const] at success
  obtain ⟨advance, found, _, tenant, _, store, active, success⟩ := success
  have runs (settlement : Settlement)
      (checked : checkMutation db context advance action = .ok settlement) (last : Db)
      (written : AdvanceWrite.apply ⟨[advance], settlement, none, context.now⟩ db = some last) :
      Alone advanceCode db (.arrived context (.mutate advanceId action)) last .answered := by
    apply Alone.read rfl
    simp only [found, Checked.fetch, checked, bind, Except.bind, pure, Except.pure,
      AdvancePhase.ofChecked]
    exact .commit rfl written (.refl ..)
  cases action with
  | refund refundMethod =>
    obtain ⟨given, advances, events⟩ := refundAdvance_events success
    obtain ⟨method, rfl⟩ := Option.isSome_iff_exists.mp given
    refine ⟨_, runs .refunded ?_ _ rfl, advances.symm, events.symm⟩
    simp only [checkMutation, Checked.bind_eq_ok, Checked.ensure_eq_ok, exists_const,
      Checked.fetch_eq_ok, Checked.pure_eq_ok]
    exact ⟨_, tenant, _, store, active, method, rfl, trivial⟩
  | consume saleTotal saleId =>
    simp only [Checked.bind_eq_ok, Checked.fetch_eq_ok, Checked.ensure_eq_ok, exists_const,
      Checked.pure_eq_ok] at success
    obtain ⟨total, given, enough, _, sold, rfl⟩ := success
    refine ⟨_, runs (.consumed saleId) ?_ _ rfl, rfl, rfl⟩
    simp only [checkMutation, Checked.bind_eq_ok, Checked.ensure_eq_ok, exists_const,
      Checked.fetch_eq_ok, Checked.pure_eq_ok]
    exact ⟨_, tenant, _, store, active, total, given, enough, _, sold, trivial⟩
  | expireNow =>
    obtain rfl := Checked.pure_eq_ok.mp success
    refine ⟨_, runs .expired ?_ _ rfl, rfl, rfl⟩
    simp only [checkMutation, Checked.bind_eq_ok, Checked.ensure_eq_ok, exists_const,
      Checked.pure_eq_ok]
    exact ⟨_, tenant, _, store, active, trivial⟩

/-- A sweep that nothing interleaves with expires the same advances as the whole request. -/
theorem sweepExpiredAdvances_alone {context : RequestContext} {tenantId storeId : Option ℕ}
    (distinct : (db.advances.map (·.id)).Nodup)
    (success : sweepExpiredAdvances db context tenantId storeId = .ok after) :
    ∃ tenant store, Alone advanceCode db
    (.arrived context (.sweep tenant store)) after .answered := by
  simp only [sweepExpiredAdvances, Checked.bind_eq_ok, Checked.pure_eq_ok] at success
  obtain ⟨tenant, _, store, _, _, _, _, _, rfl⟩ := success
  refine ⟨tenant, store, .read rfl (.commit rfl ?_ (.refl ..))⟩
  have rows : (db.advances.filter fun advance => advance.tenantId = tenant &&
      advance.storeId = store && advance.isDue context.now) = db.advances.filter fun advance =>
      advance.tenantId = tenant && advance.storeId = store &&
        advance.status = .active && advance.expiresAt ≤ context.now := by
    simp only [PosAdvance.isDue, Bool.and_assoc]
  simp only [AdvanceWrite.apply, AdvanceWrite.events, rows, Option.toList_none, List.map_nil,
    List.append_nil]
  congr 2
  apply List.map_congr_left
  rintro advance member
  by_cases due : advance ∈ db.advances.filter fun advance => advance.tenantId = tenant &&
      advance.storeId = store && advance.status = .active && advance.expiresAt ≤ context.now
  · rw [if_pos due, if_pos (List.mem_map_of_mem due)]
    have expires := (List.mem_filter.mp due).2
    simp only [Bool.and_eq_true, decide_eq_true_eq] at expires
    exact (if_pos ⟨expires.1.2, expires.2⟩).symm
  · rw [if_neg due, if_neg]
    rintro listed
    obtain ⟨row, isRow, same⟩ := List.mem_map.mp listed
    exact due (eq_of_key_eq distinct (List.mem_filter.mp isRow).1 member same ▸ isRow)

end ArisCloud

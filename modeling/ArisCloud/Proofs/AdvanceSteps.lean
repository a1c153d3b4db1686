import ArisCloud.Proofs.CashSteps

/-! # What each advance request commits

Every request of the advances router changes the vouchers, their events and the cash tables, and
nothing else. A voucher that is no longer active never changes again.
-/

namespace ArisCloud

open KeyedRows

/-- What an advance request makes of the vouchers. -/
inductive VoucherChange (db : Db) (advances : List PosAdvance) : AdvanceRequest → Prop
  | issued {context payload} (advance : PosAdvance) (id : advance.id = db.freshAdvanceId)
      (active : advance.status = .active) (unspent : advance.consumedSaleId = none)
      (cents : Decimals.IsCents advance.issuedAmount)
      (rows : advances = db.advances ++ [advance]) : VoucherChange db advances
      (.create context payload)
  | retired {context advanceId action} (advance : PosAdvance) (member : advance ∈ db.advances)
      (id : advance.id = advanceId) (active : advance.status = .active) (status : AdvanceStatus)
      (terminal : status ≠ .active) (unspent : status ≠ .consumed)
      (rows : advances = update (·.id) [advance.id] (fun row => { row with status }) db.advances) :
      VoucherChange db advances (.mutate context advanceId action)
  | consumed {context advanceId saleTotal saleId} (advance : PosAdvance)
      (member : advance ∈ db.advances) (id : advance.id = advanceId)
      (active : advance.status = .active) (sold : ∀ id ∈ saleId, ∃ sale ∈ db.sales, sale.id = id ∧
      sale.tenantId = advance.tenantId) (rows : advances = update (·.id) [advance.id]
        (fun row => { row with status := .consumed, consumedSaleId := saleId }) db.advances) :
      VoucherChange db advances (.mutate context advanceId (.consume saleTotal saleId))
  | swept {context tenantId storeId} (due : List PosAdvance)
      (rows : advances = db.advances.map fun advance =>
        if advance ∈ due then expireAdvanceIfNeeded context.now advance else advance) :
      VoucherChange db advances (.sweep context tenantId storeId)

/-- What a committed advance request can do. -/
structure AdvanceStep (db after : Db) (request : AdvanceRequest) : Prop where
  vouchers : VoucherChange db after.advances request
  cash : CashChange db.cash after.cash
  tables : after = { db with
    advances := after.advances
    advanceEvents := after.advanceEvents
    cashSessions := after.cashSessions
    cashMovements := after.cashMovements }

/-- Money that does not pass through a drawer leaves every session as it was. -/
theorem CashChange.voucher (before : CashTables) (movement : PosCashMovement)
    (outside : movement.cashSessionId = none) :
    CashChange before ⟨before.sessions, before.movements ++ [movement]⟩ :=
  .noted (fun session => session) movement (fun _ => ⟨rfl, rfl, rfl⟩)
    (fun _ => by simp [PosCashMovement.moves, outside])
    (by simp)

theorem active_of_expireAdvanceIfNeeded {now : ℕ} {advance : PosAdvance}
    (active : (expireAdvanceIfNeeded now advance).status = .active) : advance.status = .active := by
  unfold expireAdvanceIfNeeded at active
  split at active
  · contradiction
  · exact active

private theorem createAdvance_ok {db after : Db} {context : RequestContext}
    {payload : PosAdvanceCreateRequest} (success : createAdvance db context payload = .ok after) :
    AdvanceStep db after (.create context payload) := by
  simp only [createAdvance, Checked.bind_eq_ok] at success
  obtain ⟨tenantId, _, storeId, _, _, _, _, _, _, _, success⟩ := success
  split at success
  · simp only [Checked.bind_eq_ok, Checked.fetch_eq_ok] at success
    obtain ⟨session, found, recorded⟩ := success
    have only := recordCashMovement_ok (by exact activeSession_mem found)
      (by simp [CashAction.sign]) recorded
    refine ⟨?_, only.change, by rw [only.tables]; rfl⟩
    rw [only.tables]
    exact .issued _ rfl rfl rfl (Decimals.isCents_storeNumeric _) rfl
  · obtain rfl := Checked.pure_eq_ok.mp success
    exact ⟨.issued _ rfl rfl rfl (Decimals.isCents_storeNumeric _) rfl, .voucher db.cash _ rfl, rfl⟩

private theorem refundAdvance_ok {db after : Db} {context : RequestContext} {advance : PosAdvance}
    {refundMethod : Option PaymentMethod} (member : advance ∈ db.advances)
    (active : advance.status = .active)
    (success : refundAdvance db context advance refundMethod = .ok after) :
    AdvanceStep db after (.mutate context advance.id (.refund refundMethod)) := by
  simp only [refundAdvance, Checked.bind_eq_ok, Checked.fetch_eq_ok] at success
  obtain ⟨method, _, success⟩ := success
  split at success
  · simp only [Checked.bind_eq_ok, Checked.fetch_eq_ok] at success
    obtain ⟨session, found, recorded⟩ := success
    have only := recordCashMovement_ok (by exact activeSession_mem found)
      (by simp [CashAction.sign]) recorded
    refine ⟨?_, only.change, by rw [only.tables]; rfl⟩
    rw [only.tables]
    exact .retired advance member rfl active .refunded (by rintro ⟨⟩) (by rintro ⟨⟩) rfl
  · obtain rfl := Checked.pure_eq_ok.mp success
    exact ⟨.retired advance member rfl active .refunded (by rintro ⟨⟩) (by rintro ⟨⟩) rfl,
      .voucher db.cash _ rfl, rfl⟩

private theorem mutateAdvance_ok {db after : Db} {context : RequestContext} {advanceId : ℕ}
    {action : AdvanceAction} (success : mutateAdvance db context advanceId action = .ok after) :
    AdvanceStep db after (.mutate context advanceId action) := by
  simp only [mutateAdvance, Checked.bind_eq_ok, Checked.fetch_eq_ok, Checked.ensure_eq_ok,
    exists_const] at success
  obtain ⟨advance, found, _, _, _, _, active, success⟩ := success
  have member := List.mem_of_find?_eq_some found
  obtain rfl : advance.id = advanceId := by simpa using List.find?_some found
  replace active := active_of_expireAdvanceIfNeeded active
  cases action with
  | refund refundMethod => exact refundAdvance_ok member active success
  | consume saleTotal saleId =>
    simp only [resolveSaleIdForConsume, Checked.bind_eq_ok, Checked.fetch_eq_ok,
      Checked.ensure_eq_ok, exists_const, Checked.pure_eq_ok] at success
    obtain ⟨_, _, _, sold, rfl⟩ := success
    refine ⟨.consumed advance member rfl active (fun id named => ?_) rfl, .idle rfl, rfl⟩
    obtain ⟨sale, inSales, same, tenant, _⟩ := sold id named
    exact ⟨sale, inSales, same, tenant⟩
  | expireNow =>
    obtain rfl := Checked.pure_eq_ok.mp success
    exact ⟨.retired advance member rfl active .expired (by rintro ⟨⟩) (by rintro ⟨⟩) rfl,
      .idle rfl, rfl⟩

private theorem sweepExpiredAdvances_ok {db after : Db} {context : RequestContext}
    {tenantId storeId : Option ℕ}
    (success : sweepExpiredAdvances db context tenantId storeId = .ok after) :
    AdvanceStep db after (.sweep context tenantId storeId) := by
  simp only [sweepExpiredAdvances, Checked.bind_eq_ok, Checked.pure_eq_ok] at success
  obtain ⟨_, _, _, _, _, _, _, _, rfl⟩ := success
  exact ⟨.swept _ rfl, .idle rfl, rfl⟩

theorem advanceStep_ok {db after : Db} {request : AdvanceRequest}
    (success : advanceStep db request = .ok after) :
    AdvanceStep db after request := by
  cases request with
  | create context payload => exact createAdvance_ok success
  | mutate context advanceId action => exact mutateAdvance_ok success
  | sweep context tenantId storeId => exact sweepExpiredAdvances_ok success

end ArisCloud

import ArisCloud.Proofs.AdvanceWrites
import ArisCloud.Proofs.SaleSteps

/-! # The events that redeem vouchers

Events of vouchers are only ever appended. A voucher is redeemed by a checkout that it pays for and
by the standalone consumption; the other requests append no such event. Whatever becomes of a
voucher, its amount stays.
-/

namespace ArisCloud

open KeyedRows

/-- Events are appended, none of which redeems a voucher. -/
def RedeemsNothing (db after : Db) : Prop :=
  ∃ written, after.advanceEvents = db.advanceEvents ++ written ∧ ∀ event ∈ written,
    event.action ≠ .consumed

variable {db after : Db} {context : RequestContext}

namespace RedeemsNothing

theorem of_eq (same : after.advanceEvents = db.advanceEvents) : RedeemsNothing db after :=
  ⟨[], by rw [same, List.append_nil], by simp⟩

theorem of_append {event : PosAdvanceEvent}
    (appended : after.advanceEvents = db.advanceEvents ++ [event])
    (other : event.action ≠ .consumed) : RedeemsNothing db after := by
  refine ⟨[event], appended, fun new member => ?_⟩
  rw [List.mem_singleton.mp member]
  exact other

end RedeemsNothing

theorem createAdvance_redeems {payload : PosAdvanceCreateRequest}
    (success : createAdvance db context payload = .ok after) :
    RedeemsNothing db after := by
  simp only [createAdvance, Checked.bind_eq_ok] at success
  obtain ⟨tenantId, _, storeId, _, _, _, _, _, _, _, success⟩ := success
  split at success
  · simp only [Checked.bind_eq_ok, Checked.fetch_eq_ok] at success
    obtain ⟨session, found, recorded⟩ := success
    have only :=
      (recordCashMovement_ok (by exact activeSession_mem found)
        (by simp [CashAction.sign]) recorded).tables
    refine .of_append (by rw [only]; rfl) (by rintro ⟨⟩)
  · obtain rfl := Checked.pure_eq_ok.mp success
    exact .of_append rfl (by rintro ⟨⟩)

/-- An action on a voucher redeems nothing, or it consumes the voucher. -/
theorem mutateAdvance_redeems {advanceId : ℕ} {action : AdvanceAction}
    (success : mutateAdvance db context advanceId action = .ok after) :
    match action with
    | .consume _ saleId => ∃ advance ∈ db.advances, advance.id = advanceId ∧
        after.advanceEvents = db.advanceEvents ++
        [advanceEvent advance .consumed saleId context.now]
    | _ => RedeemsNothing db after := by
  simp only [mutateAdvance, Checked.bind_eq_ok, Checked.fetch_eq_ok] at success
  obtain ⟨advance, found, _, _, _, _, _, _, success⟩ := success
  cases action with
  | refund refundMethod => exact .of_append (refundAdvance_events success).2.2 (by rintro ⟨⟩)
  | consume saleTotal saleId =>
    simp only [Checked.bind_eq_ok, Checked.pure_eq_ok] at success
    obtain ⟨_, _, _, _, _, _, rfl⟩ := success
    exact ⟨advance, List.mem_of_find?_eq_some found, by simpa using List.find?_some found, rfl⟩
  | expireNow =>
    obtain rfl := Checked.pure_eq_ok.mp success
    exact .of_append rfl (by rintro ⟨⟩)

theorem sweepExpiredAdvances_redeems {tenantId storeId : Option ℕ}
    (success : sweepExpiredAdvances db context tenantId storeId = .ok after) :
    RedeemsNothing db after := by
  simp only [sweepExpiredAdvances, Checked.bind_eq_ok, Checked.pure_eq_ok] at success
  obtain ⟨_, _, _, _, _, _, _, _, rfl⟩ := success
  refine ⟨_, rfl, fun event member => ?_⟩
  obtain ⟨_, _, rfl⟩ := List.mem_map.mp member
  rintro ⟨⟩

/-- A sale action other than a checkout leaves the events alone, and a checkout redeems the voucher
that it resolved. -/
theorem checkoutSale_redeems {sale : PosSale} {payload : CheckoutSaleActionRequest}
    (success : checkoutSale db context sale payload = .ok after) : ∃ totals advance,
      validatePayments payload.payments ((getSaleLines db sale.id).map (·.lineTotal)).sum =
      .ok totals ∧
      resolveAdvancePayment db context sale totals.totalDue payload.payments = .ok advance ∧
      after.advanceEvents = db.advanceEvents ++
        advance.toList.map (advanceEvent · .consumed (some sale.id) context.now) := by
  simp only [checkoutSale, Checked.bind_eq_ok, Checked.ensure_eq_ok, exists_const,
    Checked.pure_eq_ok] at success
  obtain ⟨_, _, totals, valid, advance, resolved, cashSession, opened, batch, _, settled, cash,
    stock, _, rfl⟩ := success
  refine ⟨totals, advance, valid, resolved, ?_⟩
  cases advance with
  | none =>
    have only :=
      (settleCash_ok (by exact openSessionFor_ok opened) (by simp [CashAction.sign]) cash).tables
    rw [only]
    exact (List.append_nil _).symm
  | some advance =>
    have only :=
      (settleCash_ok (by exact openSessionFor_ok opened) (by simp [CashAction.sign]) cash).tables
    rw [only]
    rfl

/-- The vouchers of a table, with their amounts. -/
def voucherAmounts (db : Db) : List (ℕ × ℚ) :=
  db.advances.map fun advance => (advance.id, advance.issuedAmount)

private theorem createAdvance_amounts {payload : PosAdvanceCreateRequest}
    (success : createAdvance db context payload = .ok after) :
    ∃ amount, Decimals.IsCents amount ∧ 0 ≤ amount ∧
      voucherAmounts after = voucherAmounts db ++ [(db.freshAdvanceId, amount)] := by
  simp only [createAdvance, Checked.bind_eq_ok, Checked.ensure_eq_ok] at success
  obtain ⟨tenantId, _, storeId, _, _, _, _, _, _, positive, success⟩ := success
  refine ⟨Decimals.storeNumeric payload.amount, Decimals.isCents_storeNumeric _,
    Decimals.storeNumeric_nonneg positive.le, ?_⟩
  split at success
  · simp only [Checked.bind_eq_ok, Checked.fetch_eq_ok] at success
    obtain ⟨session, found, recorded⟩ := success
    have only :=
      (recordCashMovement_ok (by exact activeSession_mem found)
        (by simp [CashAction.sign]) recorded).tables
    rw [voucherAmounts, only]
    exact List.map_append
  · obtain rfl := Checked.pure_eq_ok.mp success
    exact List.map_append

/-- No request changes what a voucher is worth: one may be added. -/
theorem advanceStep_amounts {request : AdvanceRequest}
    (success : advanceStep db request = .ok after) :
    voucherAmounts after = voucherAmounts db ∨ ∃ amount, Decimals.IsCents amount ∧ 0 ≤ amount ∧
      voucherAmounts after = voucherAmounts db ++ [(db.freshAdvanceId, amount)] := by
  have step := advanceStep_ok success
  rw [voucherAmounts]
  cases step.vouchers with
  | issued => exact .inr (createAdvance_amounts success)
  | retired advance _ _ _ _ _ _ rows =>
    rw [rows]
    exact .inl (map_update (by exact fun _ => rfl))
  | consumed advance _ _ _ _ rows =>
    rw [rows]
    exact .inl (map_update (by exact fun _ => rfl))
  | @swept context _ _ due rows =>
    rw [rows, List.map_map]
    refine .inl (List.map_congr_left fun row _ => ?_)
    simp only [Function.comp_apply, expireAdvanceIfNeeded]
    split_ifs <;> rfl

theorem voucherAmounts_consumedAdvances {advance : Option PosAdvance} {saleId : ℕ} :
    (consumedAdvances db advance saleId).map (fun advance => (advance.id, advance.issuedAmount)) =
    voucherAmounts db := by
  cases advance with
  | none => rfl
  | some advance => exact map_update (by exact fun _ => rfl)

end ArisCloud

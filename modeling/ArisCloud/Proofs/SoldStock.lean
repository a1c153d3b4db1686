import ArisCloud.Proofs.SaleSteps

/-! # The stock rows that sales take and returns put back

A line of a checkout or of an exchange takes unsold rows, and an item of a return puts sold rows
back. Both select among the rows as they were before the request, so the loops of an action come to
one output for each line and each item, and no row is both taken and put back.
-/

namespace ArisCloud

open KeyedRows

/-- A change of stock rows, with the rows added beside it. -/
abbrev StockOutput := Edit StockItem.id × List StockItem

namespace StockSession

def write (session : StockSession) (output : StockOutput) : StockSession :=
  { session with edits := session.edits ++ [output.1], added := session.added ++ output.2 }

theorem foldl_write (session : StockSession) (outputs : List StockOutput) :
    outputs.foldl write session = { session with
      edits := session.edits ++ outputs.map (·.1)
      added := session.added ++ outputs.flatMap (·.2) } := by
  induction outputs generalizing session with
  | nil => simp
  | cons output rest ih => simp [ih, write, List.append_assoc]

/-- A commit without deletions writes the edited rows and the new ones. -/
theorem rowsAfter_of_kept {session : StockSession} (kept : session.deleted = []) :
    session.rowsAfter = session.flushed.rows.map session.current ++ session.added := by
  simp [rowsAfter, kept]

end StockSession

/-! ## Rows that are sold -/

/-- What a checkout makes of the rows of a line. -/
def checkoutChange : LineType → StockItem → StockItem
  | .epc => sellAndUntagRow
  | .sku => sellRow

/-- What an exchange makes of the rows of a line. -/
def exchangeChange : LineType → StockItem → StockItem
  | .epc => sellTaggedRow
  | .sku => sellRow

/-- The rows that a line takes: the one with its tag, or the oldest untagged ones. -/
def soldIds (db : Db) (sale : PosSale) (lineType : LineType) (snapshot : PosSaleLineSnapshot)
    (qty : ℤ) : List ℕ :=
  match lineType with
  | .epc => ((db.stock.rows.find? (unsoldStockFilters sale .epc snapshot)).map (·.id)).toList
  | .sku => (oldest (·.createdAt) (unsoldStockFilters sale .sku snapshot) qty.toNat
    db.stock.rows).map (·.id)

/-- What a sale does for one line. -/
structure LineSold (db : Db) (sale : PosSale) (change : LineType → StockItem → StockItem)
    (lineType : LineType) (snapshot : PosSaleLineSnapshot) (qty : ℤ) (output : StockOutput) :
    Prop where
  ids : output.1.keys = soldIds db sale lineType snapshot qty
  picks : Picks StockItem.id db.stock.rows (unsoldStockFilters sale lineType snapshot) qty.toNat
    output.1.keys
  change : output.1.change = change lineType
  nothing : output.2 = []

private theorem lineSold_epc {db : Db} {sale : PosSale} {change : LineType → StockItem → StockItem}
    {snapshot : PosSaleLineSnapshot} {qty : ℤ} {session : StockSession} {stockRow : StockItem}
    (flushed : session.flushed = db.stock) (single : qty = 1)
    (found : session.first (unsoldStockFilters sale .epc snapshot) = some stockRow)
    (stable : ∀ row, (change .epc row).id = row.id) :
    LineSold db sale change .epc snapshot qty (⟨[stockRow.id], change .epc, stable⟩, []) := by
  obtain ⟨row, first, rfl⟩ := StockSession.first_eq_some.mp found
  rw [flushed] at first
  refine ⟨?_, ?_, rfl, rfl⟩
  · simp only [soldIds, first, StockSession.current_id, Option.map_some, Option.toList_some]
  · rw [single, StockSession.current_id]
    exact picks_find? first

private theorem lineSold_sku {db : Db} {sale : PosSale} {change : LineType → StockItem → StockItem}
    {snapshot : PosSaleLineSnapshot} {qty : ℤ} {session : StockSession}
    (flushed : session.flushed = db.stock)
    (enough : qty ≤ (session.select (unsoldStockFilters sale .sku snapshot) qty.toNat).length)
    (stable : ∀ row, (change .sku row).id = row.id) :
    LineSold db sale change .sku snapshot qty
      (⟨(session.select (unsoldStockFilters sale .sku snapshot) qty.toNat).map (·.id), change .sku,
        stable⟩, []) := by
  refine ⟨?_, ?_, rfl, rfl⟩
  · rw [StockSession.map_id_select, flushed, soldIds]
  · rw [← flushed]
    exact StockSession.picks_select _ _ (Int.toNat_le.mpr enough)

theorem checkoutLine_sold {db : Db} {sale : PosSale} {batch next : SaleBatch} {line : PosSaleLine}
    (flushed : batch.session.flushed = db.stock)
    (success : checkoutLine db sale batch line = .ok next) :
    ∃ output, LineSold db sale checkoutChange line.lineType line.toPosSaleLineSnapshot line.qty
    output ∧
      next.session = batch.session.write output := by
  unfold checkoutLine at success
  cases kind : line.lineType with
  | epc =>
    simp only [kind, Checked.bind_eq_ok, Checked.fetch_eq_ok, Checked.pure_eq_ok] at success
    obtain ⟨stockRow, found, rfl⟩ := success
    refine ⟨_, lineSold_epc flushed (line.qtySingle kind) found fun _ => rfl, ?_⟩
    simp [StockSession.write, StockSession.assign, checkoutChange]
  | sku =>
    simp only [kind, Checked.bind_eq_ok, Checked.ensure_eq_ok, exists_const,
      Checked.pure_eq_ok] at success
    obtain ⟨enough, rfl⟩ := success
    refine ⟨_, lineSold_sku flushed enough fun _ => rfl, ?_⟩
    simp [StockSession.write, StockSession.assign, checkoutChange]

theorem exchangeLine_sold {db : Db} {sale : PosSale} {batch next : SaleBatch}
    {line : ResolvedSaleLine} (flushed : batch.session.flushed = db.stock)
    (success : exchangeLine db sale batch line = .ok next) :
    ∃ output, LineSold db sale exchangeChange line.lineType line.snapshot line.qty output ∧
      next.session = batch.session.write output := by
  unfold exchangeLine at success
  cases kind : line.lineType with
  | epc =>
    simp only [kind, Checked.bind_eq_ok, Checked.fetch_eq_ok, Checked.pure_eq_ok] at success
    obtain ⟨stockRow, found, rfl⟩ := success
    refine ⟨_, lineSold_epc flushed (line.qtySingle kind) found fun _ => rfl, ?_⟩
    simp [StockSession.write, StockSession.assign, exchangeChange]
  | sku =>
    simp only [kind, Checked.bind_eq_ok, Checked.ensure_eq_ok, exists_const,
      Checked.pure_eq_ok] at success
    obtain ⟨enough, rfl⟩ := success
    refine ⟨_, lineSold_sku flushed enough fun _ => rfl, ?_⟩
    simp [StockSession.write, StockSession.assign, exchangeChange]

/-! ## Rows that come back -/

/-- The rows that a returned item puts back: the sold one with its tag, or the oldest sold ones of
its SKU. -/
def restockedIds (db : Db) (sale : PosSale) (item : AcceptedReturn) : List ℕ :=
  match item.line.lineType with
  | .epc => ((db.stock.rows.find? (soldStockFilters sale item.line)).map (·.id)).toList
  | .sku => (oldest (·.createdAt) (soldStockFilters sale item.line) item.qty.toNat
    db.stock.rows).map (·.id)

/-- What a return does for one item. -/
structure ItemRestocked (db : Db) (sale : PosSale) (item : AcceptedReturn) (output : StockOutput) :
    Prop where
  ids : output.1.keys = restockedIds db sale item
  picks : Picks StockItem.id db.stock.rows (soldStockFilters sale item.line) item.qty.toNat
    output.1.keys
  leaves : ∀ row, (output.1.change row).status ≠ some "SOLD"
  unsold : ∀ row ∈ output.2, row.status ≠ some "SOLD"
  untagged : item.line.lineType = .sku → output.1.change = putBack "PENDING" true ∧ output.2 = []

theorem soldStockFilters_sold {sale : PosSale} {line : PosSaleLine} {row : StockItem}
    (matching : soldStockFilters sale line row = true) : row.status = some "SOLD" := by
  simp only [soldStockFilters, Bool.and_eq_true, decide_eq_true_eq] at matching
  exact matching.1.1.1.2

theorem ItemRestocked.sold {db : Db} {sale : PosSale} {item : AcceptedReturn} {output : StockOutput}
    (restocked : ItemRestocked db sale item output) :
    ∀ row ∈ db.stock.rows, row.id ∈ output.1.keys → row.status = some "SOLD" :=
  fun _ member listed =>
    soldStockFilters_sold (restocked.picks.holds db.stock.distinctIds member listed)

theorem Accepted.item_single {db : Db} {saleId : ℕ} {items : List PosReturnItem}
    {accepted : List AcceptedReturn} (each : List.Forall₂ (Accepted db saleId) items accepted)
    {item : AcceptedReturn} (member : item ∈ accepted) :
    item.line.lineType = .epc → item.qty = 1 := by
  obtain ⟨_, _, passed⟩ := Checked.item_of_output each member
  rw [passed.qty]
  exact passed.single

theorem restockReturn_ok {db : Db} {occasion : String} {context : RequestContext}
    {policy : ReturnPolicySettings} {sale : PosSale} {session next : StockSession}
    {item : AcceptedReturn} (flushed : session.flushed = db.stock)
    (single : item.line.lineType = .epc → item.qty = 1)
    (success : restockReturn occasion context policy sale session item = .ok next) :
    ∃ output, ItemRestocked db sale item output ∧ next = session.write output := by
  unfold restockReturn at success
  cases kind : item.line.lineType with
  | epc =>
    simp only [kind, Checked.bind_eq_ok, Checked.fetch_eq_ok, StockSession.first_eq_some,
      flushed] at success
    obtain ⟨_, ⟨row, found, rfl⟩, written⟩ := success
    have ids : [(session.current row).id] = restockedIds db sale item := by
      simp only [restockedIds, kind, found, StockSession.current_id, Option.map_some,
        Option.toList_some]
    have picks : Picks StockItem.id db.stock.rows (soldStockFilters sale item.line) item.qty.toNat
        [(session.current row).id] := by
      rw [single kind, StockSession.current_id]
      exact picks_find? found
    have assigned (change : StockItem → StockItem) (stable : ∀ row, (change row).id = row.id)
        (added : List StockItem) (leaves : ∀ row, (change row).status ≠ some "SOLD")
        (unsold : ∀ row ∈ added, row.status ≠ some "SOLD") :
        ItemRestocked db sale item (⟨[(session.current row).id], change, stable⟩, added) :=
      ⟨ids, picks, leaves, unsold, by simp [kind]⟩
    -- The tag is replaced, taken off or kept, by the policy of the tenant.
    split at written
    · obtain rfl := Checked.pure_eq_ok.mp written
      refine ⟨_, assigned (putBack "PENDING" false) (fun _ => rfl)
        [relabeledItem context sale item.line session] ?_ ?_, rfl⟩
      · simp [putBack]
      · simp [relabeledItem]
    · split at written
      · obtain rfl := Checked.pure_eq_ok.mp written
        exact ⟨_, assigned putBackUntagged (fun _ => rfl) [] (by simp [putBackUntagged, putBack])
          (by simp), by simp [StockSession.write, StockSession.assign]⟩
      · obtain rfl := Checked.pure_eq_ok.mp written
        exact ⟨_, assigned (putBack "RFID" true) (fun _ => rfl) [] (by simp [putBack]) (by simp),
          by simp [StockSession.write, StockSession.assign]⟩
  | sku =>
    simp only [kind, Checked.bind_eq_ok, Checked.ensure_eq_ok, exists_const,
      Checked.pure_eq_ok] at success
    obtain ⟨enough, rfl⟩ := success
    have picks := StockSession.picks_select (soldStockFilters sale item.line) item.qty.toNat
      (Int.toNat_le.mpr enough)
    rw [flushed] at picks
    let ids := (session.select (soldStockFilters sale item.line) item.qty.toNat).map (·.id)
    refine ⟨(⟨ids, putBack "PENDING" true, fun _ => rfl⟩, []),
      ⟨?_, picks, by simp [putBack], by simp, fun _ => ⟨rfl, rfl⟩⟩, ?_⟩
    · change (session.select _ _).map _ = _
      rw [StockSession.map_id_select, flushed, restockedIds, kind]
    · simp [StockSession.write, StockSession.assign, ids]

/-! ## The stock after an action -/

section Actions

variable {db after : Db} {context : RequestContext} {sale : PosSale}

/-- A loop whose iterations each write one output to the session of a batch. -/
theorem saleLines_sold {ι : Type} {items : List ι}
    {body : SaleBatch → ι → Except AppError SaleBatch} {relates : ι → StockOutput → Prop}
    {batch : SaleBatch} (run : items.foldlM body (SaleBatch.start db) = .ok batch)
    (step : ∀ state item next, state.session.flushed = db.stock → body state item = .ok next →
      ∃ output, relates item output ∧ next.session = state.session.write output) :
    ∃ outputs, List.Forall₂ relates items outputs ∧ batch.session = outputs.foldl StockSession.write
        { flushed := db.stock } := by
  obtain ⟨outputs, related, written, _⟩ :=
    Checked.foldlM_collectBy SaleBatch.session StockSession.write
    (fun batch => batch.session.flushed = db.stock) relates run rfl
    fun state item next _ flushed success =>
      have ⟨output, related, written⟩ := step state item next flushed success
      ⟨output, related, written, by rw [written]; exact flushed⟩
  exact ⟨outputs, related, written⟩

/-- A checkout edits the rows that its lines take and leaves the others. -/
theorem CheckedOut.soldRows {payload : CheckoutSaleActionRequest} {totals : PaymentTotals}
    {advance : Option PosAdvance} {batch : SaleBatch}
    (step : CheckedOut db after context sale payload totals advance batch) :
    ∃ outputs, List.Forall₂
    (fun line => LineSold db sale checkoutChange line.lineType line.toPosSaleLineSnapshot line.qty)
        (getSaleLines db sale.id) outputs ∧
      after.stock.rows = db.stock.rows.map (editRow (outputs.map (·.1))) := by
  obtain ⟨outputs, sold, written⟩ := saleLines_sold step.sold fun _ _ _ flushed success =>
    checkoutLine_sold flushed success
  refine ⟨outputs, sold, ?_⟩
  have nothing : outputs.flatMap (·.2) = [] := by
    refine List.flatMap_eq_nil_iff.mpr fun output member => ?_
    obtain ⟨_, _, taken⟩ := Checked.item_of_output sold member
    exact taken.nothing
  rw [StockSession.foldl_write, nothing] at written
  rw [StockSession.commit_eq_ok step.committed, written, StockSession.rowsAfter_of_kept rfl]
  simp [StockSession.current]

/-- A return edits the rows that its items put back and adds rows for tags that are replaced. -/
theorem Refunded.restockedRows {payload : RefundItemsSaleActionRequest}
    {items : List AcceptedReturn} {session : StockSession}
    (step : Refunded db after context sale payload items session) :
    ∃ outputs, List.Forall₂ (ItemRestocked db sale) items outputs ∧
      after.stock.rows = db.stock.rows.map (editRow (outputs.map (·.1))) ++ outputs.flatMap
      (·.2) := by
  obtain ⟨outputs, restocked, written, _⟩ := Checked.foldlM_collect StockSession.write
    (·.flushed = db.stock)
    (ItemRestocked db sale) step.restocked rfl fun _ _ _ member flushed success =>
      have ⟨output, restocked, written⟩ :=
        restockReturn_ok flushed (Accepted.item_single step.accepted member) success
      ⟨output, restocked, written, by rw [written]; exact flushed⟩
  refine ⟨outputs, restocked, ?_⟩
  rw [StockSession.foldl_write] at written
  rw [StockSession.commit_eq_ok step.committed, written, StockSession.rowsAfter_of_kept rfl]
  simp [StockSession.current]

/-- An exchange sells the rows of its new lines and puts back those of its items. -/
theorem Exchanged.movedRows {payload : ExchangeItemsSaleActionRequest} {items : List AcceptedReturn}
    {lines : List ResolvedSaleLine} {exchangeSale : PosSale} {delta : ℚ} {batch : SaleBatch}
    {session : StockSession}
    (step : Exchanged db after context sale payload items lines exchangeSale delta batch session) :
    ∃ taken restocked,
      List.Forall₂
      (fun line => LineSold db sale exchangeChange line.lineType line.snapshot line.qty)
      lines taken ∧
      List.Forall₂ (ItemRestocked db sale) items restocked ∧
      after.stock.rows = db.stock.rows.map (editRow ((taken ++ restocked).map (·.1))) ++
      restocked.flatMap (·.2) := by
  obtain ⟨taken, sold, written⟩ := saleLines_sold step.sold fun _ _ _ flushed success =>
    exchangeLine_sold flushed success
  have flushed : batch.session.flushed = db.stock := by rw [written, StockSession.foldl_write]
  obtain ⟨outputs, restocked, final, _⟩ := Checked.foldlM_collect StockSession.write
    (·.flushed = db.stock) (ItemRestocked db sale) step.restocked flushed
    fun _ _ _ member flushed success =>
      have ⟨output, restocked, written⟩ :=
        restockReturn_ok flushed (Accepted.item_single step.accepted member) success
      ⟨output, restocked, written, by rw [written]; exact flushed⟩
  refine ⟨taken, outputs, sold, restocked, ?_⟩
  have nothing : taken.flatMap (·.2) = [] := by
    refine List.flatMap_eq_nil_iff.mpr fun output member => ?_
    obtain ⟨_, _, taken⟩ := Checked.item_of_output sold member
    exact taken.nothing
  rw [written, ← List.foldl_append, StockSession.foldl_write] at final
  rw [StockSession.commit_eq_ok step.committed, final, StockSession.rowsAfter_of_kept rfl]
  simp [StockSession.current, nothing]

end Actions

end ArisCloud

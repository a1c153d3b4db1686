import ArisCloud.Proofs.SaleSteps

/-! # What each return request commits

A return document is drafted, voided or completed. Each request changes the return events only, and
a document that has left its draft state never changes again.
-/

namespace ArisCloud

open KeyedRows

@[simp] theorem ReturnAction.isAggregate_returnDraft : isAggregate .returnDraft = false := rfl

@[simp] theorem ReturnAction.isAggregate_returnVoid : isAggregate .returnVoid = false := rfl

@[simp] theorem ReturnAction.isAggregate_returnComplete : isAggregate .returnComplete = false := rfl

/-- A quoted item: a line of the sale, within what is left of it on its own. -/
structure Quoted (db : Db) (saleId : ℕ) (item : ReturnItem) (quoted : QuotedLine) : Prop where
  id : quoted.saleLineId = item.saleLineId
  qty : quoted.qty = item.qty
  line : ∃ line ∈ getSaleLines db saleId, line.id = quoted.saleLineId ∧
    quoted.unitPrice = line.unitPrice ∧ quoted.qty ≤ line.qty - refundedQuantities
    (getReturnEvents db saleId) line.id
  total : quoted.lineTotal = Decimals.quantize (quoted.unitPrice.amount * quoted.qty)

/-- A new document: the quote of a finalized sale, counted nowhere yet. -/
structure ReturnDrafted (db after : Db) (request : ReturnQuoteRequest) (sale : PosSale)
    (event : PosReturnEvent) : Prop where
  member : sale ∈ db.sales
  finalized : sale.status.isFinalized = true
  owner : event.saleId = sale.id
  id : event.id = db.freshReturnEventId
  draft : event.action = .returnDraft
  source : event.sourceReturnId = none
  quoted : List.Forall₂ (Quoted db sale.id) request.items event.quotedLines
  subtotal : event.refundSubtotal = (event.quotedLines.map (·.lineTotal)).sum
  tables : after = { db with returnEvents := db.returnEvents ++ [event] }

private theorem quoteFromSale_ok {db : Db} {context : RequestContext} {sale : PosSale} {storeId : ℕ}
    {request : ReturnQuoteRequest} {quote : ReturnQuote}
    (success : quoteFromSale db context sale storeId request = .ok quote) :
    sale.status.isFinalized = true ∧ List.Forall₂
    (Quoted db sale.id) request.items quote.normalizedLines ∧
      quote.refundTotal = (quote.normalizedLines.map (·.lineTotal)).sum := by
  simp only [quoteFromSale, validateSaleEligibilityForReturn, Checked.bind_eq_ok,
    Checked.fetch_eq_ok, Checked.ensure_eq_ok, exists_const, Checked.pure_eq_ok] at success
  obtain ⟨⟨finalized, _⟩, quotedLines, quoted, _, _, _, rfl⟩ := success
  refine ⟨finalized, (Checked.mapM_eq_ok.mp quoted).imp fun item result passed => ?_, rfl⟩
  simp only [quoteItem, Checked.bind_eq_ok, Checked.fetch_eq_ok, Checked.ensure_eq_ok, exists_const,
    Checked.pure_eq_ok] at passed
  obtain ⟨line, found, returnable, rfl⟩ := passed
  have named : line.id = item.saleLineId := by simpa using List.find?_some found
  have positive := item.qtyPositive
  refine ⟨rfl, rfl, ⟨line, List.mem_of_find?_eq_some found, named, rfl, ?_⟩, rfl⟩
  dsimp only
  rw [named]
  omega

private theorem createDraft_ok {db after : Db} {context : RequestContext}
    {request : ReturnQuoteRequest} (success : createDraft db context request = .ok after) :
    ∃ sale event, ReturnDrafted db after request sale event := by
  simp only [createDraft, Checked.bind_eq_ok, Checked.fetch_eq_ok, Checked.ensure_eq_ok,
    exists_const, Checked.pure_eq_ok] at success
  obtain ⟨_, _, storeId, _, _, _, sale, found, _, _, quote, quoted, rfl⟩ := success
  obtain ⟨finalized, lines, subtotal⟩ := quoteFromSale_ok quoted
  exact ⟨sale, _, List.mem_of_find?_eq_some found, finalized, rfl, rfl, rfl, rfl, lines,
    subtotal, rfl⟩

/-- What becomes of a draft document. -/
inductive ReturnSettled (db after : Db) (draft : PosReturnEvent) : ReturnDocumentAction → Prop
  | voided (tables : after = db.setReturnAction draft.id .returnVoid) :
      ReturnSettled db after draft .void
  | completed {settlementPayments} (tables : after = { db with
      returnEvents := (db.setReturnAction draft.id .returnComplete).returnEvents ++
        [completionEvent db draft] }) :
      ReturnSettled db after draft (.complete settlementPayments)

theorem applyReturnAction_ok {db after : Db} {context : RequestContext} {returnId : ℕ}
    {requestedStoreId : Option ℕ} {action : ReturnDocumentAction}
    (success : applyReturnAction db context returnId requestedStoreId action = .ok after) :
    ∃ draft ∈ db.returnEvents, draft.id = returnId ∧ draft.action = .returnDraft ∧
    ReturnSettled db after draft action := by
  simp only [applyReturnAction, Checked.bind_eq_ok, Checked.fetch_eq_ok, Checked.ensure_eq_ok,
    exists_const] at success
  obtain ⟨_, _, storeId, _, _, _, event, found, _, _, draft, success⟩ := success
  refine ⟨event, List.mem_of_find?_eq_some found, by simpa using List.find?_some found, draft, ?_⟩
  cases action with
  | void =>
    obtain rfl := Checked.pure_eq_ok.mp success
    exact .voided rfl
  | complete settlementPayments =>
    simp only [Checked.bind_eq_ok, Checked.ensure_eq_ok, exists_const,
      Checked.pure_eq_ok] at success
    obtain ⟨_, _, _, rfl⟩ := success
    exact .completed rfl

/-- Everything that a committed return request can do. -/
inductive ReturnEffect (db after : Db) : ReturnRequest → Prop
  | drafted {context request} (sale : PosSale) (event : PosReturnEvent)
      (step : ReturnDrafted db after request sale event) :
      ReturnEffect db after (.createDraft context request)
  | settled {context returnId requestedStoreId action} (draft : PosReturnEvent)
      (member : draft ∈ db.returnEvents) (id : draft.id = returnId)
      (isDraft : draft.action = .returnDraft) (step : ReturnSettled db after draft action) :
      ReturnEffect db after (.action context returnId requestedStoreId action)

theorem returnStep_ok {db after : Db} {request : ReturnRequest}
    (success : returnStep db request = .ok after) :
    ReturnEffect db after request := by
  cases request with
  | createDraft context request =>
    obtain ⟨sale, event, step⟩ := createDraft_ok success
    exact .drafted sale event step
  | action context returnId requestedStoreId action =>
    obtain ⟨draft, member, id, isDraft, step⟩ := applyReturnAction_ok success
    exact .settled draft member id isDraft step

/-- A return request changes the return events only. -/
theorem ReturnEffect.tables {db after : Db} {request : ReturnRequest}
    (effect : ReturnEffect db after request) :
    after = { db with returnEvents := after.returnEvents } := by
  cases effect with
  | drafted sale event step => rw [step.tables]
  | settled draft member id isDraft step =>
    cases step with
    | voided tables => rw [tables]; rfl
    | completed tables => rw [tables]

end ArisCloud

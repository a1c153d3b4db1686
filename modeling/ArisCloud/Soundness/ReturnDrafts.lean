import ArisCloud.Soundness.SaleReturns

/-! # The life of return documents

Any number of documents may quote the same line while they are drafts. A document is completed or
voided once, and from then on it stays as it is; a completed one contributes exactly one counted
event, a voided one none. The quantities of the completed documents and of the direct refunds and
exchanges stay within what was sold as long as every request returns no more than is left when it
commits.
-/

namespace ArisCloud

open KeyedRows Requests
open Tally (askedQty sumWhere)

/-- The quantity of a line in the documents that are completed. -/
def completedQty (events : List PosReturnEvent) (lineId : ℕ) : ℤ :=
  sumWhere (·.action = .returnComplete) (fun event => returnedQty lineId event.quotedEntries) events

/-- The quantity of a line in the refunds and exchanges that no document stands behind. -/
def directQty (events : List PosReturnEvent) (lineId : ℕ) : ℤ :=
  sumWhere (fun event => event.action.isAggregate && event.sourceReturnId = none)
    (fun event => returnedQty lineId event.returnedLines) events

/-- How many counted events a document has written. -/
def contributions (events : List PosReturnEvent) (documentId : ℕ) : ℕ :=
  events.countP (·.sourceReturnId = some documentId)

/-- What is counted comes from completed documents, each of them once, or directly from a sale
action. -/
structure DocumentInvariant (db : Db) : Prop where
  balanced : ∀ saleId lineId, refundedQuantities (getReturnEvents db saleId) lineId =
    completedQty (getReturnEvents db saleId) lineId + directQty (getReturnEvents db saleId) lineId
  once : ∀ document ∈ db.returnEvents,
    contributions db.returnEvents document.id = if document.action = .returnComplete then 1 else 0

/-- The documents and direct returns of every line stay within what it sold, and each document
counts at most once. -/
structure DocumentsBounded (db : Db) : Prop where
  within : ∀ line ∈ db.saleLines, completedQty (getReturnEvents db line.saleId) line.id +
    directQty (getReturnEvents db line.saleId) line.id ≤ line.qty
  once : ∀ document ∈ db.returnEvents,
    contributions db.returnEvents document.id = if document.action = .returnComplete then 1 else 0

namespace DocumentInvariant

variable {db after : Db}

theorem congr (invariant : DocumentInvariant db) (events : after.returnEvents = db.returnEvents) :
    DocumentInvariant after := by
  obtain ⟨balanced, once⟩ := invariant
  refine ⟨?_, by rwa [events]⟩
  simp only [getReturnEvents, events] at balanced ⊢
  exact balanced

/-- A fresh event keeps the balance when it counts what its source accounts for. -/
theorem add_event (invariant : DocumentInvariant db) {event : PosReturnEvent}
    (events : after.returnEvents = db.returnEvents ++ [event])
    (fresh : event.id = db.freshReturnEventId) (direct : event.sourceReturnId = none)
    (open_ : event.action ≠ .returnComplete) : DocumentInvariant after := by
  refine ⟨fun saleId lineId => ?_, ?_⟩
  · have balanced := invariant.balanced saleId lineId
    simp only [getReturnEvents, refundedQuantities, completedQty, directQty, events,
      Tally.sumWhere_filter, Tally.sumWhere_append, Tally.sumWhere_cons, Tally.sumWhere_nil, direct,
      open_, decide_false, Bool.and_false, decide_true, Bool.and_true, Bool.false_eq_true,
      if_false] at balanced ⊢
    omega
  · rw [events]
    intro document member
    rw [contributions, List.countP_append, List.countP_singleton, direct, ← contributions]
    rcases List.mem_append.mp member with old | new
    · simpa using invariant.once document old
    · rw [List.mem_singleton.mp new, if_neg open_]
      simp only [reduceCtorEq, decide_false, Bool.false_eq_true, if_false, add_zero]
      refine List.countP_eq_zero.mpr fun other isOther source => ?_
      have below := sourceReturnId_lt_fresh isOther (of_decide_eq_true source)
      omega

section Decision

variable {draft : PosReturnEvent} {action : ReturnAction}

/-- Deciding a document exchanges its share of every total. -/
theorem sumWhere_setReturnAction (eventIds : (db.returnEvents.map (·.id)).Nodup)
    (member : draft ∈ db.returnEvents) (matching : PosReturnEvent → Bool)
    (amount : PosReturnEvent → ℤ) :
    sumWhere matching amount (db.setReturnAction draft.id action).returnEvents =
    sumWhere matching amount db.returnEvents -
      (if matching draft then amount draft else 0) +
        (if matching { draft with action } then amount { draft with action } else 0) := by
  rw [Db.setReturnAction, update_singleton]
  exact Tally.sumWhere_update eventIds member fun _ _ _ => rfl

private theorem contributions_setReturnAction (documentId : ℕ) :
    contributions (db.setReturnAction draft.id action).returnEvents documentId =
    contributions db.returnEvents documentId := by
  rw [contributions, contributions, Db.setReturnAction, update_singleton, List.countP_map]
  refine List.countP_congr fun event _ => ?_
  simp only [Function.comp_apply]
  split <;> rfl

/-- A voided document contributes nothing. -/
theorem voided (invariant : DocumentInvariant db) (eventIds : (db.returnEvents.map (·.id)).Nodup)
    (member : draft ∈ db.returnEvents) (isDraft : draft.action = .returnDraft) :
    DocumentInvariant (db.setReturnAction draft.id .returnVoid) := by
  refine ⟨fun saleId lineId => ?_, fun document isAfter => ?_⟩
  · have balanced := invariant.balanced saleId lineId
    simp only [getReturnEvents, refundedQuantities, completedQty, directQty, Tally.sumWhere_filter]
      at balanced ⊢
    rw [sumWhere_setReturnAction eventIds member, sumWhere_setReturnAction eventIds member,
      sumWhere_setReturnAction eventIds member]
    simp [isDraft, balanced]
  · rw [contributions_setReturnAction]
    rcases mem_update_singleton eventIds member isAfter with rfl | ⟨isBefore, _⟩
    · simpa [isDraft] using invariant.once draft member
    · exact invariant.once document isBefore

/-- A completed document contributes one event, with the quantities it quotes. -/
theorem completed (invariant : DocumentInvariant db) (eventIds : (db.returnEvents.map (·.id)).Nodup)
    (member : draft ∈ db.returnEvents) (isDraft : draft.action = .returnDraft)
    (events : after.returnEvents = (db.setReturnAction draft.id .returnComplete).returnEvents ++
      [completionEvent db draft]) :
    DocumentInvariant after := by
  have aggregate : (completionEvent db draft).action.isAggregate = true := by
    rw [completionEvent]
    dsimp only
    split <;> rfl
  have counted : (completionEvent db draft).action ≠ .returnComplete := by
    intro same
    rw [same] at aggregate
    contradiction
  refine ⟨fun saleId lineId => ?_, ?_⟩
  · have balanced := invariant.balanced saleId lineId
    have entries : (completionEvent db draft).returnedLines = draft.quotedEntries := rfl
    have owner : (completionEvent db draft).saleId = draft.saleId := rfl
    have source : (completionEvent db draft).sourceReturnId = some draft.id := rfl
    simp only [getReturnEvents, refundedQuantities, completedQty, directQty, events,
      Tally.sumWhere_filter, Tally.sumWhere_append, Tally.sumWhere_cons,
      Tally.sumWhere_nil] at balanced ⊢
    rw [sumWhere_setReturnAction eventIds member, sumWhere_setReturnAction eventIds member,
      sumWhere_setReturnAction eventIds member, balanced]
    by_cases own : draft.saleId = saleId
    · simp [isDraft, aggregate, counted, entries, owner, source, own, PosReturnEvent.quotedEntries]
      omega
    · simp [owner, own]
  · rw [events]
    intro document isAfter
    rw [contributions, List.countP_append, List.countP_singleton, ← contributions,
      contributions_setReturnAction]
    rcases List.mem_append.mp isAfter with old | new
    · rcases mem_update_singleton eventIds member old with rfl | ⟨isBefore, apart⟩
      · have none : contributions db.returnEvents draft.id = 0 := by
          simpa [isDraft] using invariant.once draft member
        simp [completionEvent, none]
      · simpa [completionEvent, Ne.symm apart] using invariant.once document isBefore
    · rw [List.mem_singleton.mp new, if_neg counted]
      have unused : contributions db.returnEvents db.freshReturnEventId = 0 := by
        refine List.countP_eq_zero.mpr fun other isOther source => ?_
        have below := sourceReturnId_lt_fresh isOther (of_decide_eq_true source)
        exact absurd rfl below.ne
      have apart : draft.id ≠ db.freshReturnEventId := (event_id_lt_fresh member).ne
      simp [unused, completionEvent, apart]

end Decision

/-- Every committed request accounts for what it counts. -/
theorem step (invariant : DocumentInvariant db) (returns : ReturnInvariant db)
    {request : SystemRequest} (success : systemStep db request = .ok after) :
    DocumentInvariant after := by
  cases request with
  | sale request =>
    cases saleStep_ok success with
    | created sale lines step => exact invariant.congr (by rw [step.tables])
    | updated tenantId sale target lines step => exact invariant.congr (by rw [step.tables])
    | canceled sale target step => exact invariant.congr (by rw [step.tables])
    | checkedOut sale target totals advance batch step =>
      exact invariant.congr (by rw [step.tables])
    | refunded sale target items session step =>
      exact invariant.add_event (congrArg Db.returnEvents step.tables) rfl rfl nofun
    | exchanged sale target items lines exchangeSale delta batch session step =>
      exact invariant.add_event (congrArg Db.returnEvents step.tables) rfl rfl nofun
  | returns request =>
    cases returnStep_ok success with
    | drafted sale event step =>
      exact invariant.add_event (congrArg Db.returnEvents step.tables) step.id step.source
        (by rw [step.draft]; nofun)
    | settled draft member id isDraft step =>
      cases step with
      | voided tables =>
        rw [tables]
        exact invariant.voided returns.eventIds member isDraft
      | completed tables =>
        exact invariant.completed returns.eventIds member isDraft (by rw [tables])
  | advance request => exact invariant.congr (by rw [(advanceStep_ok success).tables])
  | cash request => exact invariant.congr (by rw [(cashStep_ok success).tables])
  | transfer request => exact invariant.congr (by rw [(transferStep_ok success).tables])

theorem initial (noEvents : db.returnEvents = []) : DocumentInvariant db := by
  refine ⟨fun saleId lineId => ?_, by simp [noEvents]⟩
  rw [getReturnEvents, noEvents]
  rfl

theorem bounded (invariant : DocumentInvariant db) (returns : ReturnInvariant db) :
    DocumentsBounded db := by
  refine ⟨fun line member => ?_, invariant.once⟩
  rw [← invariant.balanced]
  exact (returns.bounded line.saleId).quantities line (mem_getSaleLines.mpr ⟨member, rfl⟩)

end DocumentInvariant

/-- An event that is no draft stays as it is. -/
theorem ReturnInvariant.decided_stays {db after : Db} (returns : ReturnInvariant db)
    {request : SystemRequest} (success : systemStep db request = .ok after) {event : PosReturnEvent}
    (member : event ∈ db.returnEvents) (decided : event.action ≠ .returnDraft) :
    event ∈ after.returnEvents := by
  cases request with
  | sale request =>
    cases saleStep_ok success with
    | created sale lines step => rw [step.tables]; exact member
    | updated tenantId sale target lines step => rw [step.tables]; exact member
    | canceled sale target step => rw [step.tables]; exact member
    | checkedOut sale target totals advance batch step => rw [step.tables]; exact member
    | refunded sale target items session step =>
      rw [step.tables]; exact List.mem_append_left _ member
    | exchanged sale target items lines exchangeSale delta batch session step =>
      rw [step.tables]; exact List.mem_append_left _ member
  | returns request =>
    cases returnStep_ok success with
    | drafted sale draft step => rw [step.tables]; exact List.mem_append_left _ member
    | settled draft isDocument id isDraft step =>
      have apart : event.id ≠ draft.id := fun same =>
        decided (eq_of_key_eq returns.eventIds member isDocument same ▸ isDraft)
      have kept (action : ReturnAction) :
          event ∈ (db.setReturnAction draft.id action).returnEvents :=
        mem_update.mpr ⟨event, member, if_neg (by simpa using apart)⟩
      cases step with
      | voided tables => rw [tables]; exact kept _
      | completed tables => rw [tables]; exact List.mem_append_left _ (kept _)
  | advance request => rw [(advanceStep_ok success).tables]; exact member
  | cash request => rw [(cashStep_ok success).tables]; exact member
  | transfer request => rw [(transferStep_ok success).tables]; exact member

/-- From a state without return events, every run of requests that return no more than is left keeps
the documents and direct returns of every line within what it sold, counts every completed document
once and no other, and never changes a document again that has left its draft state. -/
theorem return_documents_bounded (start middle db : Db) (saleIds : (start.sales.map (·.id)).Nodup)
    (lineIds : (start.saleLines.map (·.id)).Nodup) (noEvents : start.returnEvents = [])
    (reached : Reachable systemStep ReturnsFit start middle)
    (continued : Reachable systemStep ReturnsFit middle db) :
    DocumentsBounded db ∧ ∀ event ∈ middle.returnEvents, event.action ≠ .returnDraft →
    event ∈ db.returnEvents := by
  have initial : ReturnInvariant start ∧ DocumentInvariant start :=
    ⟨.initial saleIds lineIds noEvents, .initial noEvents⟩
  have keeps : ∀ source request next, ReturnInvariant source ∧ DocumentInvariant source →
      ReturnsFit source request → systemStep source request = .ok next → ReturnInvariant next ∧
      DocumentInvariant next :=
    fun _ _ _ both fits success => ⟨both.1.step fits success, both.2.step both.1 success⟩
  have keepsAll : ∀ source request next, (ReturnInvariant source ∧ DocumentInvariant source) ∧
      (∀ event ∈ middle.returnEvents, event.action ≠ .returnDraft → event ∈ source.returnEvents) →
      ReturnsFit source request → systemStep source request = .ok next →
      (ReturnInvariant next ∧ DocumentInvariant next) ∧
        ∀ event ∈ middle.returnEvents, event.action ≠ .returnDraft → event ∈ next.returnEvents :=
    fun _ _ _ both fits success => ⟨keeps _ _ _ both.1 fits success,
      fun event member decided => both.1.1.decided_stays success
      (both.2 event member decided) decided⟩
  have before := reached.invariant initial keeps
  obtain ⟨⟨returns, documents⟩, stays⟩ :=
    continued.invariant ⟨before, fun _ member _ => member⟩ keepsAll
  exact ⟨documents.bounded returns, stays⟩

namespace Sample

def draftReturn (items : List ReturnItem) : SystemRequest :=
  .returns (.createDraft cashier { storeId := some 10, saleId := 1, items })

def decideReturn (returnId : ℕ) (action : ReturnDocumentAction) : SystemRequest :=
  .returns (.action cashier returnId (some 10) action)

/-- One jacket is sold; two documents quote it, and one of them is completed, the other voided. -/
def oneCompleted : List SystemRequest :=
  [openDrawer, draft [{ lineType := .sku, sku := some "JACKET" }],
    onSale 1 (.checkout { payments := [inCash 10] }),
    draftReturn [{ saleLineId := 1, qty := 1, qtyPositive := Int.one_pos }],
    draftReturn [{ saleLineId := 1, qty := 1, qtyPositive := Int.one_pos }],
    decideReturn 1 (.complete [{ method := .card, amount := 10 }]), decideReturn 2 .void]

private theorem oneCompleted_commits : (runAllowed systemStep ReturnsFit shop oneCompleted).isSome =
    true := by decide +kernel

def afterDocuments : Db :=
  (runAllowed systemStep ReturnsFit shop oneCompleted).get oneCompleted_commits

end Sample

theorem return_documents_bounded_after_completion : DocumentsBounded Sample.afterDocuments ∧
    ∀ event ∈ Sample.afterDocuments.returnEvents, event.action ≠ .returnDraft →
    event ∈ Sample.afterDocuments.returnEvents :=
  return_documents_bounded Sample.shop Sample.afterDocuments Sample.afterDocuments (by decide)
    (by decide) rfl (reachable_of_runAllowed (Option.some_get _).symm) .start

namespace Sample

/-- One jacket is sold; two documents quote it, and both are completed. -/
def bothCompleted : List SystemRequest :=
  [openDrawer, draft [{ lineType := .sku, sku := some "JACKET" }],
    onSale 1 (.checkout { payments := [inCash 10] }),
    draftReturn [{ saleLineId := 1, qty := 1, qtyPositive := Int.one_pos }],
    draftReturn [{ saleLineId := 1, qty := 1, qtyPositive := Int.one_pos }],
    decideReturn 1 (.complete [{ method := .card, amount := 10 }]),
    decideReturn 2 (.complete [{ method := .card, amount := 10 }])]

private theorem bothCompleted_commits :
    (runAllowed systemStep (fun _ _ => True) shop bothCompleted).isSome = true := by
  decide +kernel

def completedTwice : Db :=
  (runAllowed systemStep (fun _ _ => True) shop bothCompleted).get bothCompleted_commits

end Sample

/-- Two documents that quote the same jacket are both completed. -/
theorem two_documents_exceed_sale :
    ¬ ∀ start middle db : Db, (start.sales.map (·.id)).Nodup → (start.saleLines.map (·.id)).Nodup →
      start.returnEvents = [] → Reachable systemStep (fun _ _ => True) start middle →
      Reachable systemStep (fun _ _ => True) middle db →
      DocumentsBounded db ∧ ∀ event ∈ middle.returnEvents, event.action ≠ .returnDraft →
      event ∈ db.returnEvents := by
  intro bounded
  have reached : Reachable systemStep (fun _ _ => True) Sample.shop Sample.completedTwice :=
    reachable_of_runAllowed (Option.some_get _).symm
  have exceeds : ¬ ∀ line ∈ Sample.completedTwice.saleLines,
      completedQty (getReturnEvents Sample.completedTwice line.saleId)
      line.id + directQty (getReturnEvents Sample.completedTwice line.saleId) line.id ≤
      line.qty := by decide +kernel
  exact exceeds (bounded Sample.shop Sample.completedTwice Sample.completedTwice (by decide)
    (by decide) rfl reached .start).1.within

/-! ## Documents completed in order

A quote is compared with what is left when its document is drafted. That comparison still carries
when the document is completed, if nothing else of the sale was given back in between and the quote
names every line once. -/

/-- What the document quotes was left of the sale at the events before it. -/
def QuoteChecked (db : Db) (draft : PosReturnEvent) : Prop :=
  ∀ quoted ∈ draft.quotedLines, ∀ terms ∈ saleTerms db draft.saleId, terms.id = quoted.saleLineId →
    quoted.qty ≤ terms.qty - refundedQuantities
      ((rowsBefore (·.id) draft.id db.returnEvents).filter fun event => event.saleId = draft.saleId)
      terms.id

/-- Every draft was compared when it was written. -/
def QuotesChecked (db : Db) : Prop :=
  ∀ draft ∈ db.returnEvents, draft.action = .returnDraft → QuoteChecked db draft

/-- The document names no line twice, and nothing of its sale was given back since it was
drafted. -/
structure QuoteStands (db : Db) (draft : PosReturnEvent) : Prop where
  once : (draft.quotedLines.map (·.saleLineId)).Nodup
  untouched : ∀ event ∈ rowsSince (·.id) draft.id db.returnEvents, event.saleId = draft.saleId →
    event.action.isAggregate = false

instance (db : Db) (draft : PosReturnEvent) : Decidable (QuoteStands db draft) :=
  decidable_of_iff ((draft.quotedLines.map (·.saleLineId)).Nodup ∧
      ∀ event ∈ rowsSince (·.id) draft.id db.returnEvents, event.saleId = draft.saleId →
      event.action.isAggregate = false)
    ⟨fun ⟨once, untouched⟩ => ⟨once, untouched⟩, fun ⟨once, untouched⟩ => ⟨once, untouched⟩⟩

/-- A request that completes a document only while its quote stands, and returns directly what is
left. -/
def ReturnedInOrder (db : Db) : SystemRequest → Prop
  | .returns (.action _ returnId _ (.complete _)) =>
    ∀ draft ∈ db.returnEvents, draft.id = returnId → QuoteStands db draft
  | request => ReturnsFit db request

instance (db : Db) (request : SystemRequest) : Decidable (ReturnedInOrder db request) := by
  unfold ReturnedInOrder
  split <;> infer_instance

namespace QuotesChecked

variable {db after : Db}

/-- New events leave the earlier drafts compared with the events before them. -/
theorem append (checked : QuotesChecked db) {more : List PosReturnEvent}
    (terms : ∀ event ∈ db.returnEvents, saleTerms after event.saleId = saleTerms db event.saleId)
    (events : after.returnEvents = db.returnEvents ++ more)
    (drafts : ∀ event ∈ more, event.action = .returnDraft → QuoteChecked after event) :
    QuotesChecked after := by
  intro draft isAfter isDraft
  rw [events] at isAfter
  rcases List.mem_append.mp isAfter with old | new
  · have earlier := checked draft old isDraft
    rw [QuoteChecked, terms draft old, events, rowsBefore_append (List.mem_map_of_mem old)]
    exact earlier
  · exact drafts draft new isDraft

theorem congr (checked : QuotesChecked db)
    (terms : ∀ event ∈ db.returnEvents, saleTerms after event.saleId = saleTerms db event.saleId)
    (events : after.returnEvents = db.returnEvents) : QuotesChecked after :=
  checked.append terms (by rw [events, List.append_nil]) fun _ isNew =>
    absurd isNew List.not_mem_nil

/-- A sale request writes no draft. -/
theorem saleStep (checked : QuotesChecked db) (returns : ReturnInvariant db) {request : SaleRequest}
    (effect : SaleEffect db after request) : QuotesChecked after := by
  have kept := returns.saleTerms_kept effect
  cases effect with
  | created sale lines step => exact checked.congr kept (by rw [step.tables])
  | updated tenantId sale target lines step => exact checked.congr kept (by rw [step.tables])
  | canceled sale target step => exact checked.congr kept (by rw [step.tables])
  | checkedOut sale target totals advance batch step =>
    exact checked.congr kept (by rw [step.tables])
  | refunded sale target items session step =>
    refine checked.append kept (congrArg Db.returnEvents step.tables) fun event isNew isDraft => ?_
    rw [List.mem_singleton.mp isNew] at isDraft
    contradiction
  | exchanged sale target items lines exchangeSale delta batch session step =>
    refine checked.append kept (congrArg Db.returnEvents step.tables) fun event isNew isDraft => ?_
    rw [List.mem_singleton.mp isNew] at isDraft
    contradiction

/-- A document that is decided is no draft any more, and was counted nowhere. -/
theorem decided (checked : QuotesChecked db) (returns : ReturnInvariant db) {draft : PosReturnEvent}
    (member : draft ∈ db.returnEvents) (isDraft : draft.action = .returnDraft)
    {action : ReturnAction} (silent : action.isAggregate = false)
    (settled : action ≠ .returnDraft) :
    QuotesChecked (db.setReturnAction draft.id action) := by
  intro other isAfter stillDraft quoted inQuoted terms isTerms named
  rcases mem_update_singleton returns.eventIds member isAfter with rfl | ⟨isBefore, _⟩
  · exact absurd stillDraft settled
  · have fits := checked other isBefore stillDraft quoted inQuoted terms isTerms named
    rw [Db.setReturnAction, rowsBefore_update (by exact fun _ => rfl),
      returns.refundedQuantities_decided member isDraft silent rowsBefore_subset]
    exact fits

/-- A new document was compared with everything before it. -/
theorem drafted (checked : QuotesChecked db) (returns : ReturnInvariant db)
    {request : ReturnQuoteRequest} {sale : PosSale} {event : PosReturnEvent}
    (step : ReturnDrafted db after request sale event) : QuotesChecked after := by
  have events : after.returnEvents = db.returnEvents ++ [event] := by rw [step.tables]
  refine checked.append (fun _ _ => saleTerms_congr (by rw [step.tables]) _) events ?_
  intro draft isNew _ quoted inQuoted terms isTerms named
  obtain rfl := List.mem_singleton.mp isNew
  obtain ⟨_, _, ok⟩ := Checked.item_of_output step.quoted inQuoted
  obtain ⟨line, inLines, same, _, returnable⟩ := ok.line
  have sameTerms : saleTerms after draft.saleId = saleTerms db sale.id := by
    rw [step.owner, step.tables]
    rfl
  rw [sameTerms] at isTerms
  obtain ⟨other, inOthers, rfl⟩ := List.mem_map.mp isTerms
  obtain rfl : other = line := eq_of_key_eq returns.lineIds (mem_getSaleLines.mp inOthers).1
    (mem_getSaleLines.mp inLines).1 (named.trans same.symm)
  rw [events, rowsBefore_last fun _ isEvent => step.id ▸ (event_id_lt_fresh isEvent).ne, step.owner]
  exact returnable

/-- Every committed request leaves the drafts compared with the events before them. -/
theorem step (checked : QuotesChecked db) (returns : ReturnInvariant db) {request : SystemRequest}
    (success : systemStep db request = .ok after) : QuotesChecked after := by
  have unchanged (lines : after.saleLines = db.saleLines)
      (events : after.returnEvents = db.returnEvents) :
      QuotesChecked after :=
    checked.congr (fun _ _ => saleTerms_congr (by rw [lines]) _) events
  cases request with
  | sale request => exact checked.saleStep returns (saleStep_ok success)
  | returns request =>
    cases returnStep_ok success with
    | drafted sale event step => exact checked.drafted returns step
    | settled draft member id isDraft step =>
      cases step with
      | voided tables =>
        rw [tables]
        exact checked.decided returns member isDraft rfl nofun
      | completed tables =>
        have closed : QuotesChecked (db.setReturnAction draft.id .returnComplete) :=
          checked.decided returns member isDraft rfl nofun
        refine closed.append (fun _ _ => by rw [tables]; rfl) (congrArg Db.returnEvents tables) ?_
        intro event isNew stillDraft
        rw [List.mem_singleton.mp isNew, completionEvent] at stillDraft
        dsimp only at stillDraft
        split at stillDraft <;> contradiction
  | advance request =>
    have tables := (advanceStep_ok success).tables
    exact unchanged (by rw [tables]) (by rw [tables])
  | cash request =>
    have tables := (cashStep_ok success).tables
    exact unchanged (by rw [tables]) (by rw [tables])
  | transfer request =>
    have tables := (transferStep_ok success).tables
    exact unchanged (by rw [tables]) (by rw [tables])

/-- A quote that stands fits what is left. -/
theorem quoteFits (checked : QuotesChecked db) (returns : ReturnInvariant db)
    {draft : PosReturnEvent} (member : draft ∈ db.returnEvents)
    (isDraft : draft.action = .returnDraft) (stands : QuoteStands db draft) :
    QuoteFits db draft := by
  intro line inLines
  obtain ⟨isLine, owner⟩ := mem_getSaleLines.mp inLines
  -- What was given back before the draft is all that was given back.
  have nothing : refundedQuantities
      ((rowsSince (·.id) draft.id db.returnEvents).filter fun event => event.saleId = draft.saleId)
      line.id = 0 := by
    refine Tally.sumWhere_eq_zero fun event selected counts => ?_
    obtain ⟨isEvent, own⟩ := List.mem_filter.mp selected
    rw [stands.untouched event isEvent (of_decide_eq_true own)] at counts
    contradiction
  have left : remainingQty db line = line.qty - refundedQuantities
      ((rowsBefore (·.id) draft.id db.returnEvents).filter fun event => event.saleId = draft.saleId)
      line.id := by
    have parts : rowsBefore (·.id) draft.id db.returnEvents ++ rowsSince
        (·.id) draft.id db.returnEvents = db.returnEvents := rowsBefore_append_rowsSince
    have total := congrArg (fun events => refundedQuantities
      (events.filter fun event => event.saleId = draft.saleId) line.id) parts
    rw [List.filter_append, refundedQuantities, Tally.sumWhere_append, ← refundedQuantities,
      ← refundedQuantities, nothing, add_zero] at total
    rw [remainingQty, owner, getReturnEvents, total]
  have asked : returnedQty line.id draft.quotedEntries =
      askedQty (draft.quotedLines.map fun quoted => (quoted.saleLineId, quoted.qty)) line.id := by
    rw [returnedQty, askedQty, PosReturnEvent.quotedEntries, Tally.sumWhere_map, Tally.sumWhere_map]
  rw [asked]
  refine Tally.askedQty_le_of_once (returns.within line isLine) ?_ fun repeated => ?_
  · intro item isItem named
    obtain ⟨quoted, inQuoted, rfl⟩ := List.mem_map.mp isItem
    rw [left]
    exact checked draft member isDraft quoted inQuoted line.terms
      (List.mem_map_of_mem inLines) named.symm
  · have distinct :
        ((draft.quotedLines.map fun quoted => (quoted.saleLineId, quoted.qty)).map
        (·.1)).Nodup := by
      rw [List.map_map]
      exact stands.once
    have once := Tally.countP_le_one_of_nodup distinct line.id
    omega

/-- A committed request that returns in order returns no more than is left. -/
theorem returnsFit (checked : QuotesChecked db) (returns : ReturnInvariant db)
    {request : SystemRequest} (ordered : ReturnedInOrder db request)
    (success : systemStep db request = .ok after) : ReturnsFit db request := by
  cases request with
  | sale request => exact ordered
  | advance request => exact ordered
  | cash request => exact ordered
  | transfer request => exact ordered
  | returns request =>
    cases returnStep_ok success with
    | drafted sale event step => trivial
    | @settled context returnId storeId action draft member id isDraft step =>
      cases action with
      | void => trivial
      | complete payments =>
        intro other isOther same
        obtain rfl := eq_of_key_eq returns.eventIds isOther member (same.trans id.symm)
        exact checked.quoteFits returns member isDraft (ordered other member id)

end QuotesChecked

/-- From a state without return events, every run that completes documents only while their quotes
stand keeps the documents and direct returns of every line within what it sold: the comparison made
when they were drafted is enough. -/
theorem returns_in_order_bounded (start db : Db) (saleIds : (start.sales.map (·.id)).Nodup)
    (lineIds : (start.saleLines.map (·.id)).Nodup) (noEvents : start.returnEvents = [])
    (reached : Reachable systemStep ReturnedInOrder start db) : DocumentsBounded db := by
  have unquoted : QuotesChecked start := by
    intro draft member
    rw [noEvents] at member
    contradiction
  have initial : ReturnInvariant start ∧ DocumentInvariant start ∧ QuotesChecked start :=
    ⟨.initial saleIds lineIds noEvents, .initial noEvents, unquoted⟩
  have keeps : ∀ source request next, ReturnInvariant source ∧ DocumentInvariant source ∧
      QuotesChecked source → ReturnedInOrder source request → systemStep source request = .ok next →
      ReturnInvariant next ∧ DocumentInvariant next ∧ QuotesChecked next :=
    fun _ _ _ ⟨returns, documents, checked⟩ ordered success =>
      ⟨returns.step (checked.returnsFit returns ordered success) success,
        documents.step returns success, checked.step returns success⟩
  obtain ⟨returns, documents, _⟩ := reached.invariant initial keeps
  exact documents.bounded returns

private theorem oneCompleted_in_order :
    (runAllowed systemStep ReturnedInOrder Sample.shop Sample.oneCompleted).isSome = true := by
  decide +kernel

theorem returns_in_order_bounded_after_completion : DocumentsBounded
    ((runAllowed systemStep ReturnedInOrder Sample.shop Sample.oneCompleted).get
      oneCompleted_in_order) :=
  returns_in_order_bounded Sample.shop _ (by decide)
    (by decide) rfl (reachable_of_runAllowed (Option.some_get _).symm)

end ArisCloud

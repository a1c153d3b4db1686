import Mathlib.Algebra.Order.BigOperators.Group.List
import ArisCloud.Proofs.ReturnSteps

/-! # Goods that were sold and given back

A sale line is sold on terms: a quantity at a price. Return events record quantities of lines, and
their subtotal is the price of these quantities. The invariant below says so of every event, and
that no line has given back more than it sold; the lemmas after it say which changes of the tables
keep it.
-/

namespace ArisCloud

open KeyedRows
open Tally (askedQty sumWhere)

/-! ## Terms of sale -/

/-- What a sale line agrees on. -/
structure LineTerms where
  id : ℕ
  saleId : ℕ
  qty : ℤ
  unitPrice : Price
deriving DecidableEq, Repr

/-- The price of a quantity. -/
def LineTerms.cost (line : LineTerms) (qty : ℤ) : ℚ := line.unitPrice.amount * qty

def PosSaleLine.terms (line : PosSaleLine) : LineTerms :=
  ⟨line.id, line.saleId, line.qty, line.unitPrice⟩

def saleTerms (db : Db) (saleId : ℕ) : List LineTerms := (getSaleLines db saleId).map (·.terms)

/-- A price in cents times a quantity needs no rounding. -/
theorem quantize_price_mul (price : Price) (qty : ℤ) :
    Decimals.quantize (price.amount * qty) = price.amount * qty :=
  Decimals.quantize_of_isCents (price.isCents.mul_intCast qty)

private theorem PosSaleLine.lineTotal_eq (line : PosSaleLine) :
    line.lineTotal = line.unitPrice.amount * line.qty := by
  rw [line.pricedTotal, quantize_price_mul]

private theorem saleTerms_eq_filter (db : Db) (saleId : ℕ) :
    saleTerms db saleId = (db.saleLines.map (·.terms)).filter fun terms =>
    terms.saleId = saleId := by
  rw [saleTerms, getSaleLines, List.filter_map]
  rfl

/-- Lines on the same terms are the terms of the same sales. -/
theorem saleTerms_congr {db after : Db}
    (same : after.saleLines.map (·.terms) = db.saleLines.map (·.terms)) (saleId : ℕ) :
    saleTerms after saleId = saleTerms db saleId := by
  rw [saleTerms_eq_filter, saleTerms_eq_filter, same]

theorem map_id_terms (lines : List PosSaleLine) : (lines.map (·.terms)).map (·.id) = lines.map
    (·.id) := by
  rw [List.map_map]
  rfl

/-- A checkout fills columns of its lines that the terms do not mention. -/
theorem CheckedOut.terms {db after : Db} {context : RequestContext} {sale : PosSale}
    {payload : CheckoutSaleActionRequest} {totals : PaymentTotals} {advance : Option PosAdvance}
    {batch : SaleBatch} (step : CheckedOut db after context sale payload totals advance batch) :
    after.saleLines.map (·.terms) = db.saleLines.map (·.terms) :=
  step.keeps (fun _ _ => rfl) fun _ _ => rfl

/-! ## Priced events -/

/-- The entries name lines of the sale, and the subtotal is what they cost. -/
structure Priced (terms : List LineTerms) (entries : List ReturnedLine) (subtotal : ℚ) : Prop where
  named : ∀ entry ∈ entries, entry.lineId ∈ terms.map (·.id)
  subtotal : subtotal = (terms.map fun line => line.cost (returnedQty line.id entries)).sum

/-- Items that each cost the price of their line are priced together. -/
theorem Priced.of_items {α : Type*} {terms : List LineTerms} (distinct : (terms.map (·.id)).Nodup)
    {items : List α} (entry : α → ReturnedLine) (cost : α → ℚ)
    (priced : ∀ item ∈ items, ∃ line ∈ terms, line.id = (entry item).lineId ∧
      cost item = line.cost (entry item).qty) :
    Priced terms (items.map entry) (items.map cost).sum where
  named := by
    intro returned member
    obtain ⟨item, inItems, rfl⟩ := List.mem_map.mp member
    obtain ⟨line, inTerms, same, _⟩ := priced item inItems
    exact List.mem_map.mpr ⟨line, inTerms, same⟩
  subtotal := by
    have perLine : ∀ line ∈ terms, line.cost (returnedQty line.id (items.map entry)) =
        sumWhere (fun item => (entry item).lineId = line.id) cost items := by
      intro line inTerms
      rw [LineTerms.cost, returnedQty, Tally.sumWhere_map, ← Tally.sumWhere_intCast,
        ← Tally.sumWhere_mul_left]
      refine Tally.sumWhere_congr (fun _ _ => rfl) fun item inItems own => ?_
      obtain ⟨other, inOther, same, cost⟩ := priced item inItems
      rw [cost, LineTerms.cost, eq_of_key_eq distinct inOther inTerms
        (same.trans (of_decide_eq_true own))]
    have all : sumWhere (fun item => terms.any fun line => line.id = (entry item).lineId)
        cost items = (items.map cost).sum := by
      refine Tally.sumWhere_eq_sum fun item inItems => ?_
      obtain ⟨line, inTerms, same, _⟩ := priced item inItems
      exact List.any_eq_true.mpr ⟨line, inTerms, decide_eq_true same⟩
    have swapped : sumWhere (fun _ => true)
        (fun line => sumWhere (fun item => (entry item).lineId = line.id) cost items)
        terms = sumWhere (fun item => terms.any fun line => line.id = (entry item).lineId) cost
        items := by
      rw [Tally.sumWhere_sumWhere distinct]
      simp only [Bool.and_true]
    rw [List.map_congr_left perLine, ← all, ← swapped, Tally.sumWhere_true]

/-- What a document would give back, in the form that events record. -/
def PosReturnEvent.quotedEntries (event : PosReturnEvent) : List ReturnedLine :=
  event.quotedLines.map fun line => ⟨line.saleLineId, line.qty⟩

/-- Counted events are priced as they record, drafts as they quote. -/
structure EventPriced (terms : List LineTerms) (event : PosReturnEvent) : Prop where
  counted : event.action.isAggregate = true → Priced terms event.returnedLines event.refundSubtotal
  quoted : event.action = .returnDraft → Priced terms event.quotedEntries event.refundSubtotal

/-! ## The invariant -/

/-- What is left of a line. -/
def remainingQty (db : Db) (line : PosSaleLine) : ℤ :=
  line.qty - refundedQuantities (getReturnEvents db line.saleId) line.id

/-- No line has given back more than it sold, and every event is priced on the terms of its sale. -/
structure ReturnInvariant (db : Db) : Prop where
  saleIds : (db.sales.map (·.id)).Nodup
  lineIds : (db.saleLines.map (·.id)).Nodup
  eventIds : (db.returnEvents.map (·.id)).Nodup
  settled : ∀ event ∈ db.returnEvents, ∀ sale ∈ db.sales, sale.id = event.saleId →
    sale.status ≠ .draft
  priced : ∀ event ∈ db.returnEvents, EventPriced (saleTerms db event.saleId) event
  within : ∀ line ∈ db.saleLines, 0 ≤ remainingQty db line

namespace ReturnInvariant

variable {db after : Db}

theorem nodup_saleTerms (lineIds : (db.saleLines.map (·.id)).Nodup) (saleId : ℕ) :
    ((saleTerms db saleId).map (·.id)).Nodup := by
  rw [saleTerms, map_id_terms]
  exact lineIds.sublist (List.filter_sublist.map _)

/-- A sale without events has given nothing back. -/
theorem refundedQuantities_of_unreturned {saleId : ℕ}
    (unreturned : ∀ event ∈ db.returnEvents, event.saleId ≠ saleId)
    (lineId : ℕ) : refundedQuantities (getReturnEvents db saleId) lineId = 0 := by
  have none : getReturnEvents db saleId = [] :=
    List.filter_eq_nil_iff.mpr fun event member => by simpa using unreturned event member
  rw [none]
  rfl

/-- The invariant is about sales, their lines and their events. -/
theorem congr (invariant : ReturnInvariant db) (sales : after.sales = db.sales)
    (lines : after.saleLines = db.saleLines) (events : after.returnEvents = db.returnEvents) :
    ReturnInvariant after := by
  obtain ⟨saleIds, lineIds, eventIds, settled, priced, within⟩ := invariant
  refine ⟨by rwa [sales], by rwa [lines], by rwa [events], by rwa [events, sales], ?_, ?_⟩
  · simp only [saleTerms, getSaleLines, lines, events] at priced ⊢
    exact priced
  · simp only [remainingQty, getReturnEvents, lines, events] at within ⊢
    exact within

/-- The lines may change of sales without events; the sales with events stay out of draft. -/
theorem of_lines (invariant : ReturnInvariant db) (events : after.returnEvents = db.returnEvents)
    (saleIds : (after.sales.map (·.id)).Nodup) (lineIds : (after.saleLines.map (·.id)).Nodup)
    (settled : ∀ event ∈ db.returnEvents, ∀ sale ∈ after.sales, sale.id = event.saleId →
      sale.status ≠ .draft)
    (kept : ∀ event ∈ db.returnEvents, saleTerms after event.saleId = saleTerms db event.saleId) :
    ReturnInvariant after := by
  refine ⟨saleIds, lineIds, events ▸ invariant.eventIds, events ▸ settled, fun event member => ?_,
    fun line member => ?_⟩
  · rw [events] at member
    rw [kept event member]
    exact invariant.priced event member
  · rw [remainingQty, getReturnEvents, events, ← getReturnEvents]
    by_cases returned : ∃ event ∈ db.returnEvents, event.saleId = line.saleId
    · obtain ⟨event, isEvent, same⟩ := returned
      have inTerms : line.terms ∈ saleTerms after event.saleId :=
        List.mem_map_of_mem (mem_getSaleLines.mpr ⟨member, same.symm⟩)
      rw [kept event isEvent] at inTerms
      obtain ⟨old, isOld, sameTerms⟩ := List.mem_map.mp inTerms
      have left := invariant.within old (mem_getSaleLines.mp isOld).1
      simp only [PosSaleLine.terms, LineTerms.mk.injEq] at sameTerms
      obtain ⟨id, saleId, qty, _⟩ := sameTerms
      rwa [remainingQty, id, saleId, qty] at left
    · rw [refundedQuantities_of_unreturned
        (fun event isEvent same => returned ⟨event, isEvent, same⟩)]
      have := line.qtyPositive
      omega

/-- A new event keeps the invariant when it is priced, and counts no more than is left. -/
theorem add_event (invariant : ReturnInvariant db) {event : PosReturnEvent}
    (sales : after.sales = db.sales) (lines : after.saleLines = db.saleLines)
    (events : after.returnEvents = db.returnEvents ++ [event])
    (fresh : ∀ other ∈ db.returnEvents, other.id ≠ event.id)
    (settled : ∀ sale ∈ db.sales, sale.id = event.saleId → sale.status ≠ .draft)
    (priced : EventPriced (saleTerms db event.saleId) event)
    (fits : event.action.isAggregate = true → ∀ line ∈ getSaleLines db event.saleId,
      returnedQty line.id event.returnedLines ≤ remainingQty db line) : ReturnInvariant after := by
  have terms (saleId : ℕ) : saleTerms after saleId = saleTerms db saleId :=
    saleTerms_congr (by rw [lines]) saleId
  refine ⟨by rw [sales]; exact invariant.saleIds, by rw [lines]; exact invariant.lineIds, ?_,
    ?_, ?_, ?_⟩
  · rw [events, List.map_append, List.map_singleton, List.nodup_append]
    refine ⟨invariant.eventIds, List.nodup_singleton _, fun id old new isNew => ?_⟩
    obtain ⟨other, member, rfl⟩ := List.mem_map.mp old
    rw [List.mem_singleton.mp isNew]
    exact fresh other member
  · rw [events, sales]
    intro other member
    rcases List.mem_append.mp member with old | new
    · exact invariant.settled other old
    · rw [List.mem_singleton.mp new]
      exact settled
  · rw [events]
    intro other member
    rw [terms]
    rcases List.mem_append.mp member with old | new
    · exact invariant.priced other old
    · rw [List.mem_singleton.mp new]
      exact priced
  · rw [lines]
    intro line member
    have left := invariant.within line member
    rw [remainingQty, getReturnEvents, events, List.filter_append, ← getReturnEvents,
      refundedQuantities, Tally.sumWhere_append, ← refundedQuantities]
    rw [remainingQty] at left
    by_cases counts : event.saleId = line.saleId ∧ event.action.isAggregate = true
    · have := fits counts.2 line (mem_getSaleLines.mpr ⟨member, counts.1.symm⟩)
      rw [remainingQty] at this
      simp only [List.filter_singleton, counts.1, decide_true, Bool.cond_true, Tally.sumWhere_cons,
        counts.2, if_true, Tally.sumWhere_nil]
      omega
    · have nothing : sumWhere (·.action.isAggregate)
          (fun event => returnedQty line.id event.returnedLines)
          ([event].filter fun event => decide (event.saleId = line.saleId)) = 0 := by
        refine Tally.sumWhere_eq_zero fun other selected aggregate => absurd ?_ counts
        obtain ⟨isEvent, own⟩ := List.mem_filter.mp selected
        rw [List.mem_singleton.mp isEvent] at own aggregate
        exact ⟨of_decide_eq_true own, aggregate⟩
      rw [nothing]
      omega

/-- A document that leaves its draft state was not counted and is not counted. -/
theorem refundedQuantities_decided (invariant : ReturnInvariant db) {draft : PosReturnEvent}
    (member : draft ∈ db.returnEvents) (isDraft : draft.action = .returnDraft)
    {action : ReturnAction} (silent : action.isAggregate = false)
    {events : List PosReturnEvent} (sub : events ⊆ db.returnEvents) (saleId lineId : ℕ) :
    refundedQuantities
    ((update (·.id) [draft.id] (fun event => { event with action }) events).filter
      fun event => event.saleId = saleId) lineId =
      refundedQuantities (events.filter fun event => event.saleId = saleId) lineId := by
  rw [refundedQuantities, Tally.sumWhere_filter, refundedQuantities, Tally.sumWhere_filter,
    update_singleton, Tally.sumWhere_map]
  refine Tally.sumWhere_congr (fun event isEvent => ?_) fun event isEvent _ => ?_
  · split
    · next same =>
      rw [eq_of_key_eq invariant.eventIds (sub isEvent) member same, isDraft, silent]
      rfl
    · rfl
  · split <;> rfl

theorem remainingQty_decided (invariant : ReturnInvariant db) {draft : PosReturnEvent}
    (member : draft ∈ db.returnEvents) (isDraft : draft.action = .returnDraft)
    {action : ReturnAction} (silent : action.isAggregate = false)
    (line : PosSaleLine) :
    remainingQty (db.setReturnAction draft.id action) line = remainingQty db line := by
  rw [remainingQty, remainingQty, getReturnEvents, getReturnEvents, Db.setReturnAction]
  congr 1
  exact invariant.refundedQuantities_decided member isDraft silent
    (List.Subset.refl _) line.saleId line.id

theorem of_decided (invariant : ReturnInvariant db) {draft : PosReturnEvent}
    (member : draft ∈ db.returnEvents) (isDraft : draft.action = .returnDraft)
    {action : ReturnAction} (silent : action.isAggregate = false)
    (decided : action ≠ .returnDraft) : ReturnInvariant (db.setReturnAction draft.id action) := by
  have source {event : PosReturnEvent}
      (isAfter : event ∈ (db.setReturnAction draft.id action).returnEvents) :
      event = { draft with action } ∨ event ∈ db.returnEvents ∧ event.id ≠ draft.id :=
    mem_update_singleton invariant.eventIds member isAfter
  refine ⟨invariant.saleIds, invariant.lineIds, ?_, fun event isAfter => ?_, fun event isAfter =>
    ?_, fun line isLine => ?_⟩
  · change (List.map _ (update _ _ _ _)).Nodup
    rw [map_key_update (by exact fun _ => rfl)]
    exact invariant.eventIds
  · rcases source isAfter with rfl | ⟨isBefore, _⟩
    · exact invariant.settled draft member
    · exact invariant.settled event isBefore
  · rcases source isAfter with rfl | ⟨isBefore, _⟩
    · exact ⟨fun counts => by simp [silent] at counts, fun drafts => absurd drafts decided⟩
    · exact invariant.priced event isBefore
  · rw [invariant.remainingQty_decided member isDraft silent]
    exact invariant.within line isLine

end ReturnInvariant

/-! ## Money given back -/

/-- The subtotals of the counted events are the price of the quantities they count. -/
theorem Priced.total {terms : List LineTerms} {events : List PosReturnEvent}
    (priced : ∀ event ∈ events, event.action.isAggregate = true →
      Priced terms event.returnedLines event.refundSubtotal) :
    sumWhere (·.action.isAggregate) (·.refundSubtotal) events =
      (terms.map fun line => line.cost (refundedQuantities events line.id)).sum := by
  induction events with
  | nil =>
    refine (List.sum_eq_zero fun cost member => ?_).symm
    obtain ⟨line, _, rfl⟩ := List.mem_map.mp member
    simp [LineTerms.cost, refundedQuantities]
  | cons event rest ih =>
    have tail := ih fun other member => priced other (List.mem_cons_of_mem _ member)
    have split : ∀ line ∈ terms, line.cost (refundedQuantities (event :: rest) line.id) =
        (if event.action.isAggregate then line.cost (returnedQty line.id event.returnedLines)
        else 0) +
          line.cost (refundedQuantities rest line.id) := by
      intro line _
      rw [refundedQuantities, Tally.sumWhere_cons, ← refundedQuantities, LineTerms.cost,
        LineTerms.cost, LineTerms.cost]
      by_cases counts : event.action.isAggregate = true
      · simp only [counts, if_true]
        push_cast
        ring
      · simp [counts]
    rw [Tally.sumWhere_cons, tail, List.map_congr_left split, List.sum_map_add]
    by_cases counts : event.action.isAggregate = true
    · simp only [counts, if_true]
      rw [(priced event (List.mem_cons_self ..) counts).subtotal]
    · simp [counts]

/-- The quantities and the money that a sale gave back are at most what it sold. -/
structure ReturnsBounded (db : Db) (saleId : ℕ) : Prop where
  quantities : ∀ line ∈ getSaleLines db saleId,
    refundedQuantities (getReturnEvents db saleId) line.id ≤ line.qty
  amounts : sumWhere (·.action.isAggregate) (·.refundSubtotal) (getReturnEvents db saleId) ≤
    ((getSaleLines db saleId).map (·.lineTotal)).sum

theorem ReturnInvariant.bounded {db : Db} (invariant : ReturnInvariant db) (saleId : ℕ) :
    ReturnsBounded db saleId := by
  have quantities : ∀ line ∈ getSaleLines db saleId,
      refundedQuantities (getReturnEvents db saleId) line.id ≤ line.qty := by
    intro line inLines
    obtain ⟨isLine, owner⟩ := mem_getSaleLines.mp inLines
    have left := invariant.within line isLine
    rw [remainingQty, owner] at left
    omega
  refine ⟨quantities, ?_⟩
  have priced : ∀ event ∈ getReturnEvents db saleId, event.action.isAggregate = true →
      Priced (saleTerms db saleId) event.returnedLines event.refundSubtotal := by
    intro event member
    obtain ⟨isEvent, owner⟩ := mem_getReturnEvents.mp member
    exact owner ▸ (invariant.priced event isEvent).counted
  rw [Priced.total priced, saleTerms, List.map_map]
  refine List.sum_le_sum fun line inLines => ?_
  rw [line.lineTotal_eq]
  refine mul_le_mul_of_nonneg_left ?_ line.unitPrice.amount_nonneg
  exact_mod_cast quantities line inLines

end ArisCloud

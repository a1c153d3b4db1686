import ArisCloud.Proofs.ReturnedGoods
import ArisCloud.Soundness.CashBalance

/-! # No line gives back more than it sold

Refunds and exchanges compare each of their items with the quantities recorded before the request,
and a return document is not compared again when it is completed. So a line that one request names
twice, or two documents that quote the same line, can give back more than was sold. As long as every
request returns no more of a line, in total, than is left of it, the quantities and the money given
back are bounded.
-/

namespace ArisCloud

open KeyedRows Requests
open Tally (askedQty askedQty_le_of_once sumWhere)

/-! ## Requests that return what is left -/

def PosReturnItem.asked (item : PosReturnItem) : ℕ × ℤ := (item.lineId, item.qty)

/-- A line that the items name more than once is named for no more than is left of it. -/
def ItemsFit (db : Db) (saleId : ℕ) (items : List PosReturnItem) : Prop :=
  ∀ line ∈ getSaleLines db saleId, 1 < (items.map (·.asked)).countP (·.1 = line.id) →
    askedQty (items.map (·.asked)) line.id ≤ remainingQty db line

/-- Every line is quoted for no more than is left of it. -/
def QuoteFits (db : Db) (draft : PosReturnEvent) : Prop :=
  ∀ line ∈ getSaleLines db draft.saleId, returnedQty line.id draft.quotedEntries ≤
    remainingQty db line

instance (db : Db) (saleId : ℕ) (items : List PosReturnItem) :
    Decidable (ItemsFit db saleId items) :=
  inferInstanceAs (Decidable (∀ line ∈ getSaleLines db saleId, _ → _))

instance (db : Db) (draft : PosReturnEvent) : Decidable (QuoteFits db draft) :=
  inferInstanceAs (Decidable (∀ line ∈ getSaleLines db draft.saleId, _))

/-- A request that returns no more of a line than is left of it when the request commits. -/
def ReturnsFit (db : Db) : SystemRequest → Prop
  | .sale (.action _ saleId ⟨_, .refundItems payload⟩) => ItemsFit db saleId payload.returnItems
  | .sale (.action _ saleId ⟨_, .exchangeItems payload⟩) => ItemsFit db saleId payload.returnItems
  | .returns (.action _ returnId _ (.complete _)) =>
    ∀ draft ∈ db.returnEvents, draft.id = returnId → QuoteFits db draft
  | _ => True

instance (db : Db) (request : SystemRequest) : Decidable (ReturnsFit db request) := by
  unfold ReturnsFit
  rcases request with (_ | _ | ⟨_, _, _, action⟩) | (_ | ⟨_, _, _, action⟩) | _ | _ | _
  · infer_instance
  · infer_instance
  · cases action <;> infer_instance
  · infer_instance
  · cases action <;> infer_instance
  · infer_instance
  · infer_instance
  · infer_instance

/-! ## What the requests do to lines and events -/

private theorem saleTerms_append_newSaleLines {db after : Db} {kept : List PosSaleLine}
    {saleId tenantId other : ℕ} {lines : List ResolvedSaleLine}
    (written : after.saleLines = kept ++ newSaleLines db saleId tenantId lines)
    (apart : other ≠ saleId)
    (same : kept.filter (fun line => line.saleId = other) = getSaleLines db other) :
    saleTerms after other = saleTerms db other := by
  have none : (newSaleLines db saleId tenantId lines).filter (fun line => line.saleId = other) =
      [] := by
    refine List.filter_eq_nil_iff.mpr fun line member => ?_
    simpa [(mem_newSaleLines member).1] using Ne.symm apart
  rw [saleTerms, getSaleLines, written, List.filter_append, none, same, List.append_nil, saleTerms]

/-- A row of an updated table of sales comes from one with the same identifier. -/
theorem sale_before_update {sales : List PosSale} {saleId : ℕ} {change : PosSale → PosSale}
    {sale : PosSale} (member : sale ∈ update (·.id) [saleId] change sales)
    (identity : ∀ row, (change row).id = row.id)
    (status : ∀ row, (change row).status = .draft → row.status = .draft) :
    ∃ before ∈ sales, before.id = sale.id ∧ (sale.status = .draft → before.status = .draft) := by
  obtain ⟨before, isBefore, rfl⟩ := mem_update.mp member
  refine ⟨before, isBefore, ?_⟩
  split
  · exact ⟨(identity before).symm, status before⟩
  · exact ⟨rfl, id⟩

/-- The quantities of a line in the event are those that the items ask for. -/
theorem returnedQty_entries {db : Db} {saleId : ℕ} {items : List PosReturnItem}
    {accepted : List AcceptedReturn} (passed : List.Forall₂ (Accepted db saleId) items accepted)
    (lineId : ℕ) :
    returnedQty lineId (accepted.map (·.entry)) = askedQty (items.map (·.asked)) lineId := by
  have same : items.map (·.asked) = accepted.map fun item => (item.entry.lineId, item.entry.qty) :=
    Checked.map_eq_of_outputs passed fun item result ok => by
      simp [PosReturnItem.asked, AcceptedReturn.entry, ok.id, ok.qty]
  rw [same, returnedQty, askedQty, Tally.sumWhere_map, Tally.sumWhere_map]

namespace ReturnInvariant

variable {db after : Db} {sale : PosSale}

/-- A draft sale has no events. -/
theorem unreturned (invariant : ReturnInvariant db) (member : sale ∈ db.sales)
    (draft : sale.status = .draft) :
    ∀ event ∈ db.returnEvents, event.saleId ≠ sale.id :=
  fun event isEvent same => invariant.settled event isEvent sale member same.symm draft

/-- Sales with events keep away from the changes of a draft. -/
theorem of_sale (invariant : ReturnInvariant db) {saleId : ℕ} {change : PosSale → PosSale}
    (events : after.returnEvents = db.returnEvents)
    (sales : after.sales = update (·.id) [saleId] change db.sales)
    (identity : ∀ row, (change row).id = row.id)
    (status : ∀ row, (change row).status = .draft → row.status = .draft)
    (lineIds : (after.saleLines.map (·.id)).Nodup)
    (kept : ∀ event ∈ db.returnEvents, saleTerms after event.saleId = saleTerms db event.saleId) :
    ReturnInvariant after := by
  refine invariant.of_lines events ?_ lineIds ?_ kept
  · rw [sales, map_key_update identity]
    exact invariant.saleIds
  · intro event isEvent other member same draft
    rw [sales] at member
    obtain ⟨before, isBefore, sameId, wasDraft⟩ := sale_before_update member identity status
    exact invariant.settled event isEvent before isBefore (sameId.trans same) (wasDraft draft)

/-- A new sale has an identifier that no event mentions. -/
theorem of_new_sale (invariant : ReturnInvariant db) {tenantId : ℕ} {lines : List ResolvedSaleLine}
    (fresh : sale.id = db.freshSaleId) (events : after.returnEvents = db.returnEvents)
    (sales : after.sales = db.sales ++ [sale])
    (written : after.saleLines = db.saleLines ++ newSaleLines db sale.id tenantId lines) :
    ReturnInvariant after := by
  refine invariant.of_lines events ?_ ?_ ?_ ?_
  · rw [sales, List.map_append, List.map_singleton, List.nodup_append]
    refine ⟨invariant.saleIds, List.nodup_singleton _, fun id old new isNew => ?_⟩
    obtain ⟨other, member, rfl⟩ := List.mem_map.mp old
    rw [List.mem_singleton.mp isNew, fresh]
    exact (sale_id_lt_fresh member).ne
  · rw [written]
    exact nodup_ids_append_newSaleLines _ _ _ invariant.lineIds (List.Sublist.refl _)
  · intro event isEvent other member same
    rw [sales] at member
    rcases List.mem_append.mp member with old | new
    · exact invariant.settled event isEvent other old same
    · rw [List.mem_singleton.mp new, fresh] at same
      exact absurd same (event_saleId_lt_fresh isEvent).ne'
  · intro event isEvent
    refine saleTerms_append_newSaleLines written ?_ rfl
    rw [fresh]
    exact (event_saleId_lt_fresh isEvent).ne

/-- The event of a refund or an exchange keeps the invariant when its items fit. -/
theorem returned (invariant : ReturnInvariant db) (member : sale ∈ db.sales)
    (sold : sale.status ≠ .draft) {source : Db} {action : ReturnAction}
    (aggregate : action.isAggregate = true) {items : List PosReturnItem}
    {accepted : List AcceptedReturn} (passed : List.Forall₂ (Accepted db sale.id) items accepted)
    (fits : ItemsFit db sale.id items)
    (fresh : ∀ event ∈ db.returnEvents, event.id ≠ source.freshReturnEventId)
    {policy : ReturnPolicySettings} {exchangeSaleId : Option ℕ} {exchangeTotal netAdjustment : ℚ}
    (sales : after.sales = db.sales) (lines : after.saleLines = db.saleLines)
    (events : after.returnEvents = db.returnEvents ++ [returnEvent source sale action accepted
      (returnTotals policy accepted) exchangeSaleId exchangeTotal netAdjustment]) :
      ReturnInvariant after := by
  refine invariant.add_event sales lines events fresh ?_ ⟨fun _ => ?_, fun draft => ?_⟩
    fun _ line inLines => ?_
  · intro other isSale same
    rwa [eq_of_key_eq invariant.saleIds isSale member same]
  · refine Priced.of_items (nodup_saleTerms invariant.lineIds sale.id) AcceptedReturn.entry
      AcceptedReturn.lineSubtotal fun item inItems => ?_
    obtain ⟨_, _, ok⟩ := Checked.item_of_output passed inItems
    exact ⟨item.line.terms, List.mem_map_of_mem ok.member, rfl,
      quantize_price_mul item.line.unitPrice item.qty⟩
  · change action = .returnDraft at draft
    rw [draft] at aggregate
    contradiction
  · obtain ⟨isLine, owner⟩ : line ∈ db.saleLines ∧ line.saleId = sale.id :=
      mem_getSaleLines.mp inLines
    change returnedQty line.id (accepted.map (·.entry)) ≤ _
    rw [returnedQty_entries passed]
    refine askedQty_le_of_once (invariant.within line isLine) ?_ (fits line inLines)
    intro asked isAsked named
    obtain ⟨item, inItems, rfl⟩ := List.mem_map.mp isAsked
    obtain ⟨result, _, ok⟩ := Checked.output_of_item passed inItems
    have same : result.line = line := eq_of_key_eq invariant.lineIds
      (mem_getSaleLines.mp ok.member).1 isLine (ok.id.trans named)
    have refundable := ok.refundable
    rw [same, ← ok.id, same, ← owner] at refundable
    exact refundable

/-- A sale request leaves the terms of every sale with events as they are. -/
theorem saleTerms_kept (invariant : ReturnInvariant db) {request : SaleRequest}
    (effect : SaleEffect db after request) :
    ∀ event ∈ db.returnEvents, saleTerms after event.saleId = saleTerms db event.saleId := by
  intro event isEvent
  cases effect with
  | created sale lines step =>
    refine saleTerms_append_newSaleLines (congrArg Db.saleLines step.tables) ?_ rfl
    rw [step.id]
    exact (event_saleId_lt_fresh isEvent).ne
  | updated tenantId sale target lines step =>
    have apart := invariant.unreturned target.member step.draft event isEvent
    refine saleTerms_append_newSaleLines (congrArg Db.saleLines step.tables) apart ?_
    rw [List.filter_filter, getSaleLines]
    exact List.filter_congr fun line _ => by grind
  | canceled sale target step => exact saleTerms_congr (by rw [step.tables]) _
  | checkedOut sale target totals advance batch step => exact saleTerms_congr step.terms _
  | refunded sale target items session step => exact saleTerms_congr (by rw [step.tables]) _
  | exchanged sale target items lines exchangeSale delta batch session step =>
    refine saleTerms_append_newSaleLines (congrArg Db.saleLines step.tables) ?_ rfl
    rw [step.id]
    exact (event_saleId_lt_fresh isEvent).ne

/-- A committed sale request whose items fit keeps the invariant. -/
theorem saleStep (invariant : ReturnInvariant db) {request : SaleRequest}
    (fits : ReturnsFit db (.sale request)) (effect : SaleEffect db after request) :
    ReturnInvariant after := by
  have kept := invariant.saleTerms_kept effect
  cases effect with
  | created sale lines step =>
    exact invariant.of_new_sale step.id (by rw [step.tables]) (by rw [step.tables])
      (by rw [step.tables])
  | updated tenantId sale target lines step =>
    refine invariant.of_sale (by rw [step.tables]) (congrArg Db.sales step.tables)
      (by exact fun _ => rfl) (by exact fun _ => id) ?_ kept
    rw [step.tables]
    exact nodup_ids_append_newSaleLines _ _ _ invariant.lineIds List.filter_sublist
  | canceled sale target step =>
    refine invariant.of_sale (by rw [step.tables]) (congrArg Db.sales step.tables)
      (by exact fun _ => rfl) (by rintro _ ⟨⟩) ?_ kept
    rw [step.tables]
    exact invariant.lineIds
  | checkedOut sale target totals advance batch step =>
    refine invariant.of_sale (by rw [step.tables]) (congrArg Db.sales step.tables)
      (by exact fun _ => rfl) (by rintro _ ⟨⟩) ?_ kept
    rw [← map_id_terms, step.terms, map_id_terms]
    exact invariant.lineIds
  | refunded sale target items session step =>
    obtain ⟨member, rfl⟩ := target
    exact invariant.returned member (by rw [step.paid]; rintro ⟨⟩) rfl step.accepted fits
      (fun _ isEvent => (event_id_lt_fresh isEvent).ne) (by rw [step.tables]) (by rw [step.tables])
      (by rw [step.tables])
  | exchanged sale target items lines exchangeSale delta batch session step =>
    obtain ⟨member, rfl⟩ := target
    have sold : sale.status ≠ .draft := by
      intro draft
      have finalized := step.finalized
      rw [draft] at finalized
      contradiction
    -- The new sale comes first: it shares no line and no event with the one that is returned to.
    obtain ⟨middle, written⟩ : ∃ middle : Db, middle = { db with
        sales := db.sales ++ [exchangeSale]
        saleLines := db.saleLines ++ newSaleLines db exchangeSale.id sale.tenantId lines } :=
          ⟨_, rfl⟩
    have extended : ReturnInvariant middle :=
      invariant.of_new_sale step.id (by rw [written]) (by rw [written]) (by rw [written])
    have apart : sale.id ≠ exchangeSale.id := by
      rw [step.id]
      exact (sale_id_lt_fresh member).ne
    have sameLines : getSaleLines middle sale.id = getSaleLines db sale.id := by
      have none : (newSaleLines db exchangeSale.id sale.tenantId lines).filter
          (fun line => line.saleId = sale.id) = [] := by
        refine List.filter_eq_nil_iff.mpr fun line isNew => ?_
        simpa [(mem_newSaleLines isNew).1] using Ne.symm apart
      rw [written, getSaleLines, List.filter_append, none, List.append_nil, getSaleLines]
    have sameEvents : middle.returnEvents = db.returnEvents := by rw [written]
    refine extended.returned (by rw [written]; exact List.mem_append_left _ member) sold rfl
      (step.accepted.imp fun item result ok => ?_) ?_ ?_ (by rw [step.tables, written])
      (by rw [step.tables, written]) (by rw [step.tables, written])
    · obtain ⟨inLines, id, qty, positive, refundable, single⟩ := ok
      exact ⟨by rw [sameLines]; exact inLines, id, qty,
        positive, by rw [getReturnEvents, sameEvents]; exact refundable, single⟩
    · intro line inLines repeated
      rw [sameLines] at inLines
      rw [remainingQty, getReturnEvents, sameEvents]
      exact fits line inLines repeated
    · rw [sameEvents]
      exact fun _ isEvent => (event_id_lt_fresh isEvent).ne

/-- A committed return request whose quote fits keeps the invariant. -/
theorem returnStep (invariant : ReturnInvariant db) {request : ReturnRequest}
    (fits : ReturnsFit db (.returns request)) (effect : ReturnEffect db after request) :
    ReturnInvariant after := by
  cases effect with
  | drafted sale event step =>
    refine invariant.add_event (by rw [step.tables]) (by rw [step.tables]) (by rw [step.tables])
      (fun _ isEvent => step.id ▸ (event_id_lt_fresh isEvent).ne) (fun other isSale same => ?_)
      ⟨fun counts => ?_, fun _ => ?_⟩ fun counts => ?_
    · rw [eq_of_key_eq invariant.saleIds isSale step.member (same.trans step.owner)]
      intro draft
      have finalized := step.finalized
      rw [draft] at finalized
      contradiction
    · rw [step.draft] at counts
      contradiction
    · rw [step.owner, step.subtotal]
      refine Priced.of_items (nodup_saleTerms invariant.lineIds sale.id) _ QuotedLine.lineTotal
        fun quoted inQuoted => ?_
      obtain ⟨_, _, ok⟩ := Checked.item_of_output step.quoted inQuoted
      obtain ⟨line, inLines, id, price, _⟩ := ok.line
      refine ⟨line.terms, List.mem_map_of_mem inLines, id, ?_⟩
      rw [ok.total, quantize_price_mul, price]
      rfl
    · rw [step.draft] at counts
      contradiction
  | settled draft member id isDraft step =>
    cases step with
    | voided tables =>
      rw [tables]
      exact invariant.of_decided member isDraft rfl nofun
    | completed tables =>
      have decided : ReturnInvariant (db.setReturnAction draft.id .returnComplete) :=
        invariant.of_decided member isDraft rfl nofun
      have sameIds : (db.setReturnAction draft.id .returnComplete).returnEvents.map (·.id) =
          db.returnEvents.map (·.id) :=
        map_key_update (by exact fun _ => rfl)
      have appended : after.returnEvents =
          (db.setReturnAction draft.id .returnComplete).returnEvents ++
          [completionEvent db draft] := by rw [tables]
      refine decided.add_event (by rw [tables]; rfl) (by rw [tables]; rfl) appended
        (fun other isOther => ?_) (fun sale isSale same => ?_) ⟨fun _ => ?_, fun drafts => ?_⟩
        fun _ line inLines => ?_
      · have isId := List.mem_map_of_mem (f := PosReturnEvent.id) isOther
        rw [sameIds] at isId
        obtain ⟨event, isEvent, same⟩ := List.mem_map.mp isId
        rw [← same]
        exact (event_id_lt_fresh isEvent).ne
      · exact invariant.settled draft member sale isSale same
      · exact (invariant.priced draft member).quoted isDraft
      · change (if 0 < draft.exchangeTotal then ReturnAction.exchangeItems else .refundItems) =
          .returnDraft at drafts
        split at drafts <;> contradiction
      · exact (fits draft member id line inLines).trans
          (invariant.remainingQty_decided member isDraft rfl line).ge

/-- A committed request that returns no more than is left keeps the invariant. -/
theorem step (invariant : ReturnInvariant db) {request : SystemRequest}
    (fits : ReturnsFit db request) (success : systemStep db request = .ok after) :
    ReturnInvariant after := by
  cases request with
  | sale request => exact invariant.saleStep fits (saleStep_ok success)
  | returns request => exact invariant.returnStep fits (returnStep_ok success)
  | advance request =>
    have tables := (advanceStep_ok success).tables
    exact invariant.congr (by rw [tables]) (by rw [tables]) (by rw [tables])
  | cash request =>
    have tables := (cashStep_ok success).tables
    exact invariant.congr (by rw [tables]) (by rw [tables]) (by rw [tables])
  | transfer request =>
    have tables := (transferStep_ok success).tables
    exact invariant.congr (by rw [tables]) (by rw [tables]) (by rw [tables])

theorem initial (saleIds : (db.sales.map (·.id)).Nodup) (lineIds : (db.saleLines.map (·.id)).Nodup)
    (noEvents : db.returnEvents = []) : ReturnInvariant db := by
  refine ⟨saleIds, lineIds, by simp [noEvents], by simp [noEvents], by simp [noEvents],
    fun line _ => ?_⟩
  have nothing : refundedQuantities (getReturnEvents db line.saleId) line.id = 0 := by
    rw [getReturnEvents, noEvents]
    rfl
  have := line.qtyPositive
  rw [remainingQty, nothing]
  omega

end ReturnInvariant

/-! ## Runs of sale actions -/

/-- The requests of a run without return documents, each of which returns no more than is left. -/
def SaleReturnsFit (db : Db) : SystemRequest → Prop
  | .returns _ => False
  | request => ReturnsFit db request

instance (db : Db) (request : SystemRequest) : Decidable (SaleReturnsFit db request) := by
  unfold SaleReturnsFit
  split <;> infer_instance

/-- From a state without return events, every run of requests that return no more than is left
bounds what every sale gives back, in quantities and in money. -/
theorem sale_returns_bounded (start db : Db) (saleIds : (start.sales.map (·.id)).Nodup)
    (lineIds : (start.saleLines.map (·.id)).Nodup) (noEvents : start.returnEvents = [])
    (reached : Reachable systemStep SaleReturnsFit start db) (saleId : ℕ) :
    ReturnsBounded db saleId := by
  have widened : Reachable systemStep ReturnsFit start db := reached.mono fun _ request fits => by
    cases request with
    | returns _ => exact fits.elim
    | sale _ => exact fits
    | advance _ | cash _ | transfer _ => trivial
  have invariant := widened.invariant (ReturnInvariant.initial saleIds lineIds noEvents)
    fun _ _ _ invariant fits success => invariant.step fits success
  exact invariant.bounded saleId

namespace Sample

private theorem saleAndRefund_fits :
    (runAllowed systemStep SaleReturnsFit shop saleAndRefund).isSome = true := by decide +kernel

def oneReturned : Db :=
  (runAllowed systemStep SaleReturnsFit shop saleAndRefund).get saleAndRefund_fits

end Sample

theorem sale_returns_bounded_after_refund : ReturnsBounded Sample.oneReturned 1 :=
  sale_returns_bounded Sample.shop Sample.oneReturned (by decide) (by decide) rfl
    (reachable_of_runAllowed (Option.some_get _).symm) 1

namespace Sample

/-- Two jackets are sold; a refund names their line twice, for one jacket and for two. -/
def repeatedRefund : List SystemRequest :=
  [openDrawer, draft [{ lineType := .sku, qty := 2, sku := some "JACKET" }],
    onSale 1 (.checkout { payments := [inCash 20] }),
    onSale 1 (.refundItems { returnItems := [{ lineId := 1 }, { lineId := 1, qty := 2 }],
                             refundPayments := [inCash 30] })]

/-- Requests other than those on return documents. -/
def withoutDocuments (_ : Db) : SystemRequest → Bool
  | .returns _ => false
  | _ => true

private theorem repeatedRefund_commits :
    (runAllowed systemStep (fun db request => withoutDocuments db request = true) shop
      repeatedRefund).isSome = true := by
  decide +kernel

def returnedTooMuch : Db :=
  (runAllowed systemStep (fun db request => withoutDocuments db request = true) shop
    repeatedRefund).get repeatedRefund_commits

end Sample

/-- A refund that names a line twice gives back more than was sold. -/
theorem repeated_refund_exceeds_sale :
    ¬ ∀ start db : Db, (start.sales.map (·.id)).Nodup → (start.saleLines.map (·.id)).Nodup →
    start.returnEvents = [] →
      Reachable systemStep (fun db request => Sample.withoutDocuments db request = true) start db →
      ∀ saleId, ReturnsBounded db saleId := by
  intro bounded
  have reached : Reachable systemStep (fun db request => Sample.withoutDocuments db request = true)
      Sample.shop Sample.returnedTooMuch := reachable_of_runAllowed (Option.some_get _).symm
  have exceeds : ¬ ∀ line ∈ getSaleLines Sample.returnedTooMuch 1,
      refundedQuantities (getReturnEvents Sample.returnedTooMuch 1) line.id ≤ line.qty := by
      decide +kernel
  exact exceeds (bounded Sample.shop Sample.returnedTooMuch (by decide)
    (by decide) rfl reached 1).quantities

end ArisCloud

import ArisCloud.Library.Windows
import ArisCloud.Soundness.CutQuotes

/-! # The windows of the cuts of a session

Cuts that start where the last one ended make a chain of windows, numbered from one. A VOID cut
keeps its place in the chain, and both ends of a window belong to it. So what a session records is
counted in exactly one cut that stands when it falls inside the window of one, or on the edge of
exactly one.
-/

namespace ArisCloud

open KeyedRows Requests

/-! ## What cuts count -/

/-- The actions whose movements a cut adds up. -/
def CashAction.inCuts : CashAction → Bool
  | .cashIn | .cashOut | .cashOutRefund => true
  | .opening | .sale | .close | .dayClose | .voucherIssuance _ | .voucherRefund _ => false

/-- Something that a cut counts: a movement, by its place in the table, or a sale. -/
inductive CountedItem
  | movement (index : ℕ)
  | sale (saleId : ℕ)
deriving DecidableEq, Repr

/-- When an item happened, once it is on record for the session. -/
def CountedItem.recordedAt (session : PosCashSession) (db : Db) : CountedItem → Option ℕ
  | .movement index =>
    (db.cashMovements[index]?.filter fun movement => movement.tenantId = session.tenantId &&
      movement.storeId = session.storeId && movement.cashSessionId = some session.id &&
      movement.action.inCuts).map
    (·.occurredAt)
  | .sale saleId =>
    (db.sales.find? fun sale => sale.id = saleId && sale.tenantId = session.tenantId &&
      sale.storeId = session.storeId && sale.status = .paid).bind (·.checkedOutAt)

/-- The cut that a request creates. -/
def takenCut (entry : Db × SystemRequest) : Option PosCashCut :=
  match entry.2 with
  | .cash (.createCut context payload) =>
    (createCashCut entry.1 context payload).toOption.bind (·.cashCuts.getLast?)
  | _ => none

/-- The cut is not VOID. -/
def Db.stands (db : Db) (cut : PosCashCut) : Bool := db.cashCuts.any fun row => row.id = cut.id &&
    row.status ≠ .void

/-- The quote of a cut counts an item: it is one of the rows that the quote selects. -/
def PosCashCut.counts (cut : PosCashCut) (db : Db) : CountedItem → Bool
  | .movement index => db.cashMovements[index]?.any fun movement => movement.action.inCuts &&
      isSessionMovement cut.tenantId cut.storeId cut.cashSessionId
      (withinCut cut.fromAt cut.toAt) movement.action movement
  | .sale saleId =>
    (quotedSales db cut.tenantId cut.storeId cut.fromAt cut.toAt).any (·.id = saleId)

/-- The amounts of the movements of one action that a cut counts. -/
def PosCashCut.movedAmount (cut : PosCashCut) (db : Db) (action : CashAction) : ℚ :=
  Tally.sumWhere (fun entry => cut.counts db (.movement entry.2) && entry.1.action = action)
    (·.1.amount) db.cashMovements.zipIdx

/-- The payments by one method of the sales that a cut counts. -/
def PosCashCut.paidAmount (cut : PosCashCut) (db : Db) (method : PaymentMethod) : ℚ :=
  Tally.sumWhere (fun sale => cut.counts db (.sale sale.id))
    (fun sale => paymentTotal method (salePayments db sale.id)) db.sales

/-- The totals of a cut are the amounts of what it counts. -/
structure PosCashCut.AddsUp (cut : PosCashCut) (db : Db) : Prop where
  cashIn : cut.totals.cashInTotal = cut.movedAmount db .cashIn
  cashOut : cut.totals.cashOutTotal = cut.movedAmount db .cashOut
  cashRefunds : cut.totals.cashRefundsTotal = cut.movedAmount db .cashOutRefund
  cashSales : cut.totals.cashSalesTotal = cut.paidAmount db .cash
  cardSales : cut.totals.cardSalesTotal = cut.paidAmount db .card
  transferSales : cut.totals.transferSalesTotal = cut.paidAmount db .transfer

/-- A sale without payments has nothing to count. -/
def CountedItem.hasAmount (db : Db) : CountedItem → Bool
  | .movement _ => true
  | .sale saleId => !(salePayments db saleId).isEmpty

/-- How many cuts of the session that stand at the end counted an item when they were quoted. -/
def timesCounted (history : List (Db × SystemRequest)) (last : Db) (session : PosCashSession)
    (item : CountedItem) : ℕ :=
  history.countP fun entry => (takenCut entry).any fun cut =>
    cut.cashSessionId = session.id && last.stands cut && cut.counts entry.1 item

/-- The cuts of the session that stand at the end and were taken with the item on record. -/
def standingCuts (history : List (Db × SystemRequest)) (last : Db) (session : PosCashSession)
    (item : CountedItem) :
    List PosCashCut :=
  history.filterMap fun entry => (takenCut entry).filter fun cut =>
    cut.cashSessionId = session.id && last.stands cut &&
    (item.recordedAt session entry.1).isSome

/-- A time is inside the window of a cut, or on the edge of exactly one. -/
def InsideOrOnOneEdge (cuts : List PosCashCut) (at_ : ℕ) : Prop :=
  (∃ cut ∈ cuts, cut.fromAt < at_ ∧ at_ < cut.toAt) ∨
    ((∃ cut ∈ cuts, cut.fromAt = at_) ↔ ¬ ∃ cut ∈ cuts, cut.toAt = at_)

/-- The cut starts where the last one ended. -/
def PosCashCutCreateRequest.UsesLastCutWindow (payload : PosCashCutCreateRequest) : Prop :=
  payload.useLastCutWindow = true ∧ payload.fromAt = none

/-- A cut of the session starts where the last one ended. -/
def FollowsLastCut (sessionId : ℕ) (db : Db) (request : SystemRequest) : Prop :=
  ∀ context payload, request = .cash (.createCut context payload) →
    ∀ cut ∈ takenCut (db, request), cut.cashSessionId = sessionId → payload.UsesLastCutWindow

/-- The cuts of a session, in the order in which they were taken. -/
def cutsOf (db : Db) (sessionId : ℕ) : List PosCashCut :=
  db.cashCuts.filter (·.cashSessionId = sessionId)

/-! ## What a request does to the cuts -/

/-- The columns of a cut that never change. -/
structure CutFrame where
  id : ℕ
  tenantId : ℕ
  storeId : ℕ
  cashSessionId : ℕ
  cutNumber : ℕ
  fromAt : ℕ
  toAt : ℕ
deriving DecidableEq, Repr

def PosCashCut.frame (cut : PosCashCut) : CutFrame :=
  ⟨cut.id, cut.tenantId, cut.storeId, cut.cashSessionId, cut.cutNumber, cut.fromAt, cut.toAt⟩

def Db.cutFrames (db : Db) : List CutFrame := db.cashCuts.map (·.frame)

variable {db after last : Db} {context : RequestContext} {session : PosCashSession} {sessionId : ℕ}

/-- A cut that a request takes: it is quoted over its window. -/
structure CutTaken (db : Db) (context : RequestContext) (payload : PosCashCutCreateRequest)
    (cut : PosCashCut) :
    Prop where
  id : cut.id = freshId (db.cashCuts.map (·.id))
  number : cut.cutNumber = freshId ((cutsOf db cut.cashSessionId).map (·.cutNumber))
  quoted : ∃ session ∈ db.cashSessions, cut.IsOf session ∧
    (cut.fromAt, cut.toAt) = resolveCutWindow db session payload context.now ∧
      calculateCutQuote db cut.tenantId cut.storeId session cut.fromAt cut.toAt = .ok cut.totals

private theorem createCashCut_taken {payload : PosCashCutCreateRequest}
    (success : createCashCut db context payload = .ok after) :
    ∃ cut, CutTaken db context payload cut ∧ after.cashCuts = db.cashCuts ++ [cut] := by
  simp only [createCashCut, Checked.bind_eq_ok, Checked.fetch_eq_ok] at success
  obtain ⟨_, _, _, _, tenantId, _, _, _, storeId, _, _, _, session, found, _, _, totals, quoted,
    success⟩ := success
  obtain ⟨member, _, tenant, store⟩ := resolveActiveSession_open found
  split at success
  · have removed := removeDeposit_ok (by exact member) success
    exact ⟨_, ⟨rfl, rfl, session, member, ⟨rfl, tenant, store⟩, rfl,
        quoted⟩, by rw [removed.tables]⟩
  · obtain rfl := Checked.pure_eq_ok.mp success
    exact ⟨_, ⟨rfl, rfl, session, member, ⟨rfl, tenant, store⟩, rfl, quoted⟩, rfl⟩

private theorem takenCut_createCut {payload : PosCashCutCreateRequest} {cut : PosCashCut}
    (success : createCashCut db context payload = .ok after)
    (rows : after.cashCuts = db.cashCuts ++ [cut]) :
    takenCut (db, .cash (.createCut context payload)) = some cut := by
  simp [takenCut, success, rows, Except.toOption]

private theorem cutFrames_update {cutId : ℕ} {change : PosCashCut → PosCashCut}
    (same : ∀ row, (change row).frame = row.frame)
    (rows : after.cashCuts = update (·.id) [cutId] change db.cashCuts) :
    after.cutFrames = db.cutFrames := by
  rw [Db.cutFrames, rows]
  exact map_update same

/-- A request takes a cut, or leaves the frames of the cuts as they were. -/
inductive CutEffect (db after : Db) (request : SystemRequest) : Prop
  | taken {context payload} (cut : PosCashCut)
      (asked : request = .cash (.createCut context payload))
      (taken : CutTaken db context payload cut) (isTaken : takenCut (db, request) = some cut)
      (rows : after.cashCuts = db.cashCuts ++ [cut])
  | kept (none : takenCut (db, request) = none) (same : after.cutFrames = db.cutFrames)

private theorem CutEffect.of_same {request : SystemRequest} (none : takenCut (db, request) = none)
    (same : after.cashCuts = db.cashCuts) : CutEffect db after request :=
  .kept none (congrArg (List.map PosCashCut.frame) same)

private theorem cashCutAction_frames {cutId : ℕ} {payload : PosCashCutActionRequest}
    (success : cashCutAction db context cutId payload = .ok after) :
    after.cutFrames = db.cutFrames := by
  simp only [cashCutAction, Checked.bind_eq_ok] at success
  obtain ⟨_, _, _, _, tenantId, _, storeId, _, _, _, cut, _, success⟩ := success
  cases action : payload.action with
  | complete countedCash =>
    simp only [action, Checked.bind_eq_ok, Checked.pure_eq_ok] at success
    obtain ⟨_, _, rfl⟩ := success
    exact cutFrames_update (by exact fun _ => rfl) rfl
  | void =>
    simp only [action, Checked.pure_eq_ok] at success
    obtain rfl := success
    exact cutFrames_update (by exact fun _ => rfl) rfl
  | printMark =>
    simp only [action, Checked.pure_eq_ok] at success
    obtain rfl := success
    rfl
  | applyCashOut amount =>
    simp only [action, Checked.bind_eq_ok, Checked.fetch_eq_ok, Option.filter_eq_some_iff,
      Checked.pure_eq_ok] at success
    obtain ⟨amount, _, session, ⟨found, _⟩, paidOut, removed, rfl⟩ := success
    have removed := removeDeposit_ok (List.mem_of_find?_eq_some found) removed
    have same : paidOut.cashCuts = db.cashCuts := by rw [removed.tables]
    have rows : (paidOut.updateCashCut cut.id fun row =>
        { row with depositRemovedAmount := some amount }).cashCuts =
        update (·.id) [cut.id] (fun row => { row with depositRemovedAmount := some amount })
        db.cashCuts := by
      rw [Db.updateCashCut, same]
    exact cutFrames_update (by exact fun _ => rfl) rows

private theorem systemStep_cuts {request : SystemRequest}
    (success : systemStep db request = .ok after) :
    CutEffect db after request := by
  cases request with
  | sale request => exact .of_same rfl (saleStep_ok success).cashCuts
  | returns request => exact .of_same rfl (by rw [(returnStep_ok success).tables])
  | advance request => exact .of_same rfl (by rw [(advanceStep_ok success).tables])
  | transfer request => exact .of_same rfl (by rw [(transferStep_ok success).tables])
  | cash request =>
    cases request with
    | sessionAction context payload =>
      exact .of_same rfl (by rw [(cashSessionAction_ok success).tables])
    | createCut context payload =>
      obtain ⟨cut, taken, rows⟩ := createCashCut_taken success
      exact .taken cut rfl taken (takenCut_createCut success rows) rows
    | cutAction context cutId payload => exact .kept rfl (cashCutAction_frames success)
    | closeDay context payload =>
      simp only [systemStep, cashStep, closeDay, Checked.bind_eq_ok, Checked.pure_eq_ok] at success
      obtain ⟨_, _, _, _, tenantId, _, _, _, storeId, _, _, _, _, _, _, _, _, _, _, _, rfl⟩ :=
        success
      exact .of_same rfl rfl

/-- The frames of the cuts after a run are those before it and those of the cuts it takes. -/
theorem cutFrames_of_run {history : List (Db × SystemRequest)}
    (run : Run systemStep db history last) :
    last.cutFrames = db.cutFrames ++ (history.filterMap takenCut).map (·.frame) := by
  induction run with
  | finish => simp
  | @commit state request next last history committed _ ih =>
    rw [ih]
    cases systemStep_cuts committed with
    | taken cut _ _ isTaken rows =>
      rw [List.filterMap_cons_some isTaken, List.map_cons, Db.cutFrames, rows, List.map_append,
        List.append_assoc]
      rfl
    | kept none same => rw [List.filterMap_cons_none none, same]

/-! ## Cuts in line -/

/-- The cuts of a session, by their frames, are numbered from one and make a chain of windows. -/
structure CutsInLine (sessionId : ℕ) (frames : List CutFrame) : Prop where
  numbers : (frames.filter (·.cashSessionId = sessionId)).map (·.cutNumber) =
    List.range' 1 (frames.filter (·.cashSessionId = sessionId)).length
  chained : Windows.Chained (·.fromAt) (·.toAt) (frames.filter (·.cashSessionId = sessionId))

private theorem filter_cutFrames (db : Db) (sessionId : ℕ) :
    db.cutFrames.filter (·.cashSessionId = sessionId) = (cutsOf db sessionId).map (·.frame) := by
  rw [Db.cutFrames, List.filter_map]
  rfl

private theorem freshId_range' (n : ℕ) : freshId (List.range' 1 n) = n + 1 := by
  have above : ∀ used : List ℕ, (∀ id ∈ used, id ≤ n) → used.foldr max 0 ≤ n := by
    intro used bound
    induction used with
    | nil => exact Nat.zero_le n
    | cons first rest ih =>
      have here := bound first (List.mem_cons_self ..)
      have later := ih fun id member => bound id (List.mem_cons_of_mem _ member)
      rw [List.foldr_cons]
      omega
  have upper : freshId (List.range' 1 n) ≤ n + 1 := by
    have bound := above (List.range' 1 n) fun id member => by
      rw [List.mem_range'_1] at member
      omega
    rw [freshId]
    omega
  rcases n.eq_zero_or_pos with rfl | positive
  · rfl
  · have lower : n < freshId (List.range' 1 n) :=
      lt_freshId (List.mem_range'_1.mpr ⟨positive, by omega⟩)
    omega

/-- The last cut of a session in line is the one taken last. -/
theorem lastCut_eq_getLast? (inLine : CutsInLine sessionId db.cutFrames) :
    lastCut db sessionId = (cutsOf db sessionId).getLast? := by
  have numbers := inLine.numbers
  rw [filter_cutFrames, List.map_map, List.length_map] at numbers
  have ascending : (cutsOf db sessionId).Pairwise fun cut later =>
      ¬ later.cutNumber ≤ cut.cutNumber := by
    have sorted : ((cutsOf db sessionId).map (·.cutNumber)).Pairwise (· < ·) := by
      change (List.map ((·.cutNumber) ∘ PosCashCut.frame) _).Pairwise _
      rw [numbers]
      exact List.pairwise_lt_range' ..
    exact (List.pairwise_map.mp sorted).imp fun less => not_le.mpr less
  rw [lastCut]
  change ((cutsOf db sessionId).insertionSort _).head? = _
  rw [insertionSort_eq_reverse ascending, List.head?_reverse]

/-- A cut that follows the last one stays in line. -/
theorem CutsInLine.taken (inLine : CutsInLine sessionId db.cutFrames)
    {payload : PosCashCutCreateRequest} {cut : PosCashCut} (taken : CutTaken db context payload cut)
    (rows : after.cashCuts = db.cashCuts ++ [cut])
    (follows : cut.cashSessionId = sessionId → payload.UsesLastCutWindow) :
    CutsInLine sessionId after.cutFrames := by
  have frames : after.cutFrames = db.cutFrames ++ [cut.frame] := by
    rw [Db.cutFrames, rows, List.map_append]; rfl
  by_cases own : cut.cashSessionId = sessionId
  · have here : [cut.frame].filter (·.cashSessionId = sessionId) = [cut.frame] :=
      List.filter_eq_self.mpr fun frame isFrame => by
        rw [List.mem_singleton.mp isFrame]
        exact decide_eq_true own
    have extended : after.cutFrames.filter (·.cashSessionId = sessionId) =
        db.cutFrames.filter (·.cashSessionId = sessionId) ++ [cut.frame] := by
      rw [frames, List.filter_append, here]
    obtain ⟨session, _, ⟨same, _, _⟩, window, quoted⟩ := taken.quoted
    have ordered : cut.fromAt < cut.toAt := by
      simp only [calculateCutQuote, Checked.bind_eq_ok, Checked.ensure_eq_ok,
        exists_const] at quoted
      exact quoted.1
    obtain ⟨usesLast, noStart⟩ := follows own
    constructor
    · have number : cut.cutNumber = (db.cutFrames.filter (·.cashSessionId = sessionId)).length +
          1 := by
        rw [taken.number, own, ← freshId_range', ← inLine.numbers, filter_cutFrames, List.map_map]
        rfl
      rw [extended, List.map_append, inLine.numbers, List.length_append, List.length_singleton,
        List.range'_concat, List.map_singleton, one_mul, Nat.add_comm 1]
      exact congrArg (List.range' 1 _ ++ [·]) number
    · rw [extended]
      refine inLine.chained.append ordered fun previous isPrevious => ?_
      rw [filter_cutFrames, List.getLast?_map] at isPrevious
      obtain ⟨row, isRow, rfl⟩ := Option.map_eq_some_iff.mp isPrevious
      have starts := congrArg Prod.fst window
      simp only [resolveCutWindow, noStart, usesLast, if_true, Option.getD_none, same.trans own,
        lastCut_eq_getLast? inLine, isRow, Option.map_some, Option.getD_some] at starts
      exact starts
  · have elsewhere : [cut.frame].filter (·.cashSessionId = sessionId) = [] :=
      List.filter_eq_nil_iff.mpr fun frame isFrame => by
        rw [List.mem_singleton.mp isFrame]
        exact fun isOwn => own (of_decide_eq_true isOwn)
    have same : after.cutFrames.filter (·.cashSessionId = sessionId) =
        db.cutFrames.filter (·.cashSessionId = sessionId) := by
      rw [frames, List.filter_append, elsewhere, List.append_nil]
    constructor
    · rw [same]
      exact inLine.numbers
    · rw [same]
      exact inLine.chained

theorem CutsInLine.step (inLine : CutsInLine sessionId db.cutFrames) {request : SystemRequest}
    (follows : FollowsLastCut sessionId db request) (success : systemStep db request = .ok after) :
    CutsInLine sessionId after.cutFrames := by
  cases systemStep_cuts success with
  | taken cut asked taken isTaken rows =>
    exact inLine.taken taken rows (follows _ _ asked cut isTaken)
  | kept none same => rwa [same]

/-! ## Items stay on record -/

private theorem CashEvent.appends (event : CashEvent db after) :
    ∃ written, after.cashMovements = db.cashMovements ++ written := by
  cases event with
  | idle same => exact ⟨[], (congrArg CashLedger.movements same).trans (List.append_nil _).symm⟩
  | outside movement _ same => exact ⟨[movement], congrArg CashLedger.movements same⟩
  | written write cash _ applied same =>
    have movements : after.cashMovements = cash.cashMovements := congrArg CashLedger.movements same
    rw [movements]
    cases write with
    | opening | movement | close =>
      obtain rfl := Option.some.inj applied
      exact ⟨_, rfl⟩
    | dayClose scope payload openIds rollup =>
      rw [CashWrite.apply] at applied
      split_ifs at applied
      obtain rfl := Option.some.inj applied
      exact ⟨_, rfl⟩

/-- A paid sale is never written again, and gets no more payments. -/
theorem paid_sale_stays (sound : PaymentsOfPaid db) {request : SystemRequest}
    (success : systemStep db request = .ok after) {sale : PosSale} (member : sale ∈ db.sales)
    (paid : sale.status = .paid) :
    sale ∈ after.sales ∧ salePayments after sale.id = salePayments db sale.id := by
  have untouched (rows : after.sales = db.sales) (payments : after.payments = db.payments) :
      sale ∈ after.sales ∧ salePayments after sale.id = salePayments db sale.id := by
    rw [rows, salePayments, payments]
    exact ⟨member, rfl⟩
  have apart {draft : PosSale} (isSale : draft ∈ db.sales) (isDraft : draft.status = .draft) :
      draft.id ≠ sale.id := by
    intro same
    obtain rfl := eq_of_key_eq sound.distinct isSale member same
    rw [paid] at isDraft
    contradiction
  have changed {draft : PosSale} (isSale : draft ∈ db.sales) (isDraft : draft.status = .draft)
      (change : PosSale → PosSale) (rows : after.sales = update (·.id) [draft.id] change db.sales) :
      sale ∈ after.sales := by
    rw [rows]
    refine mem_update.mpr ⟨sale, member, if_neg ?_⟩
    rw [List.mem_singleton]
    exact (apart isSale isDraft).symm
  cases request with
  | returns request =>
    exact untouched (by rw [(returnStep_ok success).tables])
      (by rw [(returnStep_ok success).tables])
  | advance request =>
    exact untouched (by rw [(advanceStep_ok success).tables])
      (by rw [(advanceStep_ok success).tables])
  | cash request =>
    exact untouched (by rw [(cashStep_ok success).tables]) (by rw [(cashStep_ok success).tables])
  | transfer request =>
    exact untouched (by rw [(transferStep_ok success).tables])
      (by rw [(transferStep_ok success).tables])
  | sale request =>
    cases saleStep_ok success with
    | created new lines step =>
      rw [step.tables]
      exact ⟨List.mem_append_left _ member, rfl⟩
    | updated tenantId draft target lines step =>
      exact ⟨changed target.member step.draft
        _ (congrArg Db.sales step.tables), by rw [step.tables]; rfl⟩
    | canceled draft target step =>
      exact ⟨changed target.member step.draft
        _ (congrArg Db.sales step.tables), by rw [step.tables]; rfl⟩
    | refunded _ _ _ _ step => exact untouched (by rw [step.tables]) (by rw [step.tables])
    | exchanged _ _ _ _ new _ _ _ step =>
      have fresh : new.id ≠ sale.id := step.id ▸ (sale_id_lt_fresh member).ne'
      exact ⟨by rw [step.tables]; exact List.mem_append_left _ member,
        salePayments_append (by rw [step.tables]) fresh⟩
    | checkedOut draft target totals advance batch step =>
      exact ⟨changed target.member step.draft _ (congrArg Db.sales step.tables),
        salePayments_append (congrArg Db.payments step.tables) (apart target.member step.draft)⟩

/-- What keeps items on record. -/
structure RecordInvariant (db : Db) : Prop where
  cuts : CutsOwned db
  payments : PaymentsOfPaid db

theorem RecordInvariant.step (invariant : RecordInvariant db) {request : SystemRequest}
    (success : systemStep db request = .ok after) : RecordInvariant after :=
  ⟨invariant.cuts.step success, invariant.payments.system success⟩

/-- An item on record happened when it did, and keeps its payments. -/
theorem CountedItem.recordedAt_stays (invariant : RecordInvariant db) {request : SystemRequest}
    (success : systemStep db request = .ok after) {item : CountedItem} {at_ : ℕ}
    (recorded : item.recordedAt session db = some at_) :
    item.recordedAt session after = some at_ ∧ item.hasAmount after = item.hasAmount db := by
  cases item with
  | movement index =>
    obtain ⟨written, movements⟩ := (systemStep_event invariant.cuts success).appends
    rw [recordedAt] at recorded ⊢
    obtain ⟨movement, found, rfl⟩ := Option.map_eq_some_iff.mp recorded
    obtain ⟨listed, matching⟩ := Option.filter_eq_some_iff.mp found
    obtain ⟨bound, _⟩ := List.getElem?_eq_some_iff.mp listed
    rw [movements, List.getElem?_append_left bound, found]
    exact ⟨rfl, rfl⟩
  | sale saleId =>
    rw [recordedAt] at recorded ⊢
    obtain ⟨sale, found, time⟩ := Option.bind_eq_some_iff.mp recorded
    have member := List.mem_of_find?_eq_some found
    have matching := List.find?_some found
    have selected := matching
    simp only [Bool.and_eq_true, decide_eq_true_eq] at selected
    obtain ⟨⟨⟨rfl, _⟩, _⟩, paid⟩ := selected
    obtain ⟨stays, payments⟩ := paid_sale_stays invariant.payments success member paid
    constructor
    · rw [find?_eq_some_of_key (invariant.payments.system success).distinct stays matching]
      · exact time
      · simp only [Bool.and_eq_true, decide_eq_true_eq]
        exact fun other _ matches_ => matches_.1.1.1
    · rw [hasAmount, hasAmount, payments]

/-- An item that was on record in the course of a run happened at the same time at its end. -/
theorem CountedItem.recordedAt_of_entry {start : Db} {history : List (Db × SystemRequest)}
    (run : Run systemStep start history last) (invariant : RecordInvariant start)
    {entry : Db × SystemRequest} (member : entry ∈ history) {item : CountedItem} {at_ : ℕ}
    (recorded : item.recordedAt session entry.1 = some at_) :
    item.recordedAt session last = some at_ ∧ item.hasAmount last = item.hasAmount entry.1 := by
  obtain ⟨earlier, later, rfl⟩ := List.append_of_mem member
  have here : RecordInvariant entry.1 :=
    run.before.invariant invariant fun _ _ _ invariant success => invariant.step success
  have keeps : ∀ (source : Db) (request : SystemRequest) (next : Db),
      RecordInvariant source ∧ item.recordedAt session source = some at_ ∧
      item.hasAmount source = item.hasAmount entry.1 →
        systemStep source request = .ok next →
          RecordInvariant next ∧ item.recordedAt session next = some at_ ∧
          item.hasAmount next = item.hasAmount entry.1 := by
    rintro source request next ⟨sound, recorded, amount⟩ success
    obtain ⟨stays, same⟩ := recordedAt_stays sound success recorded
    exact ⟨sound.step success, stays, same.trans amount⟩
  exact (run.onward.invariant ⟨here, recorded, rfl⟩ keeps).2

/-! ## What totals add up -/

private theorem PosCashCut.movedAmount_eq {cut : PosCashCut} {action : CashAction}
    (added : action.inCuts = true) :
    cut.movedAmount db action = sessionTotal db cut.tenantId cut.storeId cut.cashSessionId
      (withinCut cut.fromAt cut.toAt) action := by
  have listed : sessionTotal db cut.tenantId cut.storeId cut.cashSessionId
      (withinCut cut.fromAt cut.toAt) action = Tally.sumWhere
      (fun entry => isSessionMovement cut.tenantId cut.storeId cut.cashSessionId
        (withinCut cut.fromAt cut.toAt) action entry.1) (·.1.amount) db.cashMovements.zipIdx := by
    rw [← Tally.sumWhere_map, List.zipIdx_map_fst, sessionTotal]
  rw [movedAmount, listed]
  refine Tally.sumWhere_congr (fun entry member => ?_) fun _ _ _ => rfl
  have found : db.cashMovements[entry.2]? = some entry.1 := List.mem_zipIdx_iff_getElem?.mp member
  simp only [counts, found, Option.any_some, isSessionMovement]
  by_cases same : entry.1.action = action
  · simp [same, added]
  · simp [same]

private theorem PosCashCut.paidAmount_eq (payments : PaymentsOfPaid db) {cut : PosCashCut}
    (method : PaymentMethod) :
    cut.paidAmount db method = ((quotedSales db cut.tenantId cut.storeId cut.fromAt cut.toAt).map
      fun sale =>
      paymentTotal method (salePayments db sale.id)).sum := by
  change _ = Tally.sumWhere _ _ _
  refine Tally.sumWhere_congr (fun sale member => ?_) fun _ _ _ => rfl
  rw [Bool.eq_iff_iff, counts, List.any_eq_true]
  constructor
  · rintro ⟨other, selected, same⟩
    obtain ⟨isSale, selects⟩ := List.mem_filter.mp selected
    rwa [← eq_of_key_eq payments.distinct isSale member (of_decide_eq_true same)]
  · intro selects
    exact ⟨sale, List.mem_filter.mpr ⟨member, selects⟩, decide_eq_true rfl⟩

private theorem calculateCutQuote_addsUp (payments : PaymentsOfPaid db) {cut : PosCashCut}
    (named : session.id = cut.cashSessionId)
    (quoted : calculateCutQuote db cut.tenantId cut.storeId session cut.fromAt cut.toAt =
      .ok cut.totals) :
    cut.AddsUp db := by
  simp only [calculateCutQuote, Checked.bind_eq_ok, Checked.pure_eq_ok, named] at quoted
  obtain ⟨_, _, totals⟩ := quoted
  have moved {action : CashAction} (added : action.inCuts = true) :
      sessionTotal db cut.tenantId cut.storeId cut.cashSessionId
      (withinCut cut.fromAt cut.toAt) action = cut.movedAmount db action :=
    (PosCashCut.movedAmount_eq added).symm
  have paid (method : PaymentMethod) :
      ((quotedSales db cut.tenantId cut.storeId cut.fromAt cut.toAt).map fun sale =>
      paymentTotal method (salePayments db sale.id)).sum = cut.paidAmount db method :=
    (PosCashCut.paidAmount_eq payments method).symm
  constructor <;> rw [← totals]
  · exact moved rfl
  · exact moved rfl
  · exact moved rfl
  · exact paid .cash
  · exact paid .card
  · exact paid .transfer

/-! ## Cuts that count an item -/

section Counting

variable {history : List (Db × SystemRequest)} {item : CountedItem} {at_ : ℕ}

/-- Choosing less often chooses a part. -/
theorem filterMap_sublist {α β : Type*} {less more : α → Option β} {rows : List α}
    (chosen : ∀ row, less row = none ∨ less row = more row) : (rows.filterMap less).Sublist
    (rows.filterMap more) := by
  induction rows with
  | nil => exact .slnil
  | cons row rest ih =>
    rw [List.filterMap_cons, List.filterMap_cons]
    rcases chosen row with none | same
    · rw [none]
      cases more row with
      | none => exact ih
      | some value => exact ih.cons value
    · rw [same]
      cases more row with
      | none => exact ih
      | some value => exact ih.cons_cons value

private theorem standingCuts_sublist : (standingCuts history last session item).Sublist
    ((history.filterMap takenCut).filter (·.cashSessionId = session.id)) := by
  rw [List.filter_filterMap, standingCuts]
  refine filterMap_sublist fun entry => ?_
  cases taken : takenCut entry with
  | none => exact .inl rfl
  | some cut =>
    rw [Option.filter_some]
    split
    · next selected =>
      simp only [Bool.and_eq_true] at selected
      exact .inr (by rw [Option.filter_some, if_pos selected.1.1])
    · exact .inl rfl

/-- The quote of a cut counts what is on record in the window. -/
theorem PosCashCut.counts_eq (payments : PaymentsOfPaid db) {cut : PosCashCut}
    (own : cut.IsOf session) (item : CountedItem) : cut.counts db item =
      (item.hasAmount db && (item.recordedAt session db).any (withinCut cut.fromAt cut.toAt)) := by
  obtain ⟨named, tenant, store⟩ := own
  rw [Bool.eq_iff_iff]
  cases item with
  | movement index =>
    cases listed : db.cashMovements[index]? with
    | none => simp [counts, CountedItem.recordedAt, listed]
    | some movement =>
      simp only [counts, CountedItem.recordedAt, CountedItem.hasAmount, isSessionMovement, listed,
        tenant, store, named, Option.any_some, Option.any_map, Option.any_filter, Bool.true_and,
        Bool.and_eq_true, decide_eq_true_eq, and_true]
      tauto
  | sale saleId =>
    simp only [counts, CountedItem.recordedAt, CountedItem.hasAmount, quotedSales, tenant, store,
      List.any_eq_true, List.mem_filter, Bool.and_eq_true, decide_eq_true_eq]
    constructor
    · rintro ⟨sale, ⟨member, ⟨⟨⟨⟨sameTenant, sameStore⟩, paid⟩, within⟩, tendered⟩⟩, rfl⟩
      have selected :
          (sale.id = sale.id && sale.tenantId = cut.tenantId && sale.storeId = cut.storeId &&
          sale.status = .paid) = true := by simp [sameTenant, sameStore, paid]
      refine ⟨tendered, ?_⟩
      rw [find?_eq_some_of_key payments.distinct member selected]
      · exact within
      · simp only [Bool.and_eq_true, decide_eq_true_eq]
        exact fun other _ matches_ => matches_.1.1.1
    · rintro ⟨tendered, within⟩
      obtain ⟨at_, recorded, inside⟩ := (Option.any_eq_true _ _).mp within
      obtain ⟨sale, found, time⟩ := Option.bind_eq_some_iff.mp recorded
      have selected := List.find?_some found
      simp only [Bool.and_eq_true, decide_eq_true_eq] at selected
      obtain ⟨⟨⟨rfl, sameTenant⟩, sameStore⟩, paid⟩ := selected
      refine ⟨sale,
        ⟨List.mem_of_find?_eq_some found, ⟨⟨⟨⟨sameTenant, sameStore⟩, paid⟩, ?_⟩, tendered⟩⟩, rfl⟩
      rw [time, Option.any_some]
      exact inside

/-- The cuts that count an item are those of the standing ones in whose window it happened. -/
theorem timesCounted_eq {counted : Bool} (quoted : ∀ entry ∈ history, ∀ cut ∈ takenCut entry,
      cut.cashSessionId = session.id → cut.counts entry.1 item =
        (counted && (item.recordedAt session entry.1).isSome &&
          withinCut cut.fromAt cut.toAt at_)) :
    timesCounted history last session item = if counted then
      (standingCuts history last session item).countP fun cut => cut.fromAt ≤ at_ ∧ at_ ≤ cut.toAt
          else 0 := by
  rw [timesCounted, standingCuts, List.countP_filterMap]
  cases counted with
  | false =>
    rw [if_neg (by decide)]
    refine List.countP_eq_zero.mpr fun entry member => ?_
    cases taken : takenCut entry with
    | none => simp
    | some cut =>
      by_cases own : cut.cashSessionId = session.id
      · simp [quoted entry member cut taken own]
      · simp [own]
  | true =>
    rw [if_pos rfl]
    refine List.countP_congr fun entry member => ?_
    cases taken : takenCut entry with
    | none => simp
    | some cut =>
      by_cases own : cut.cashSessionId = session.id
      · rw [Option.any_some, quoted entry member cut taken own, Option.filter_some]
        simp only [own, decide_true, Bool.true_and]
        cases last.stands cut <;> cases (item.recordedAt session entry.1).isSome <;>
          simp [withinCut]
      · simp [own, Option.filter_some]

private theorem standingCuts_inOrder (inLine : CutsInLine session.id last.cutFrames)
    (frames : last.cutFrames = (history.filterMap takenCut).map (·.frame)) :
    Windows.InOrder (·.fromAt) (·.toAt) (standingCuts history last session item) := by
  have whole := inLine.chained.inOrder
  rw [frames, List.filter_map] at whole
  exact (Windows.inOrder_map.mp whole).sublist standingCuts_sublist

end Counting

/-! ## Runs -/

/-- Cuts are quoted where they are taken and add up what they count, are numbered from one, and
stand end to end; and what is counted once. -/
structure ActivityCounted (history : List (Db × SystemRequest)) (last : Db)
    (session : PosCashSession) : Prop where
  quoted : ∀ entry ∈ history, ∀ cut ∈ takenCut entry, ∃ owner ∈ entry.1.cashSessions,
    cut.IsOf owner ∧ calculateCutQuote entry.1 cut.tenantId cut.storeId owner cut.fromAt cut.toAt =
    .ok cut.totals
  addUp : ∀ entry ∈ history, ∀ cut ∈ takenCut entry, cut.AddsUp entry.1
  numbers : (cutsOf last session.id).map (·.cutNumber) = List.range' 1
    (cutsOf last session.id).length
  chained : Windows.Chained (·.fromAt) (·.toAt) (cutsOf last session.id)
  counted : ∀ item at_, item.recordedAt session last = some at_ →
    (timesCounted history last session item = 1 ↔
    item.hasAmount last = true ∧ InsideOrOnOneEdge (standingCuts history last session item) at_)

private theorem quoted_of_run {start : Db} {history : List (Db × SystemRequest)}
    (run : Run systemStep start history last) {entry : Db × SystemRequest}
    (member : entry ∈ history) {cut : PosCashCut} (isTaken : takenCut entry = some cut) :
    ∃ owner ∈ entry.1.cashSessions, cut.IsOf owner ∧
      calculateCutQuote entry.1 cut.tenantId cut.storeId owner cut.fromAt cut.toAt =
      .ok cut.totals := by
  obtain ⟨next, success⟩ := run.committed member
  cases systemStep_cuts success with
  | taken other _ taken isOther _ =>
    obtain rfl := Option.some.inj (isOther.symm.trans isTaken)
    obtain ⟨owner, isOwner, own, _, quoted⟩ := taken.quoted
    exact ⟨owner, isOwner, own, quoted⟩
  | kept untaken _ =>
    rw [show takenCut entry = none from untaken] at isTaken
    contradiction

/-- A cut that was taken for a session of the end is one of its store. -/
theorem isOf_of_taken {history : List (Db × SystemRequest)} (cuts : CutsOwned last)
    (frames : last.cutFrames = (history.filterMap takenCut).map (·.frame))
    (member : session ∈ last.cashSessions) {entry : Db × SystemRequest} (isEntry : entry ∈ history)
    {cut : PosCashCut} (isTaken : takenCut entry = some cut)
    (own : cut.cashSessionId = session.id) : cut.IsOf session := by
  have framed : cut.frame ∈ last.cutFrames := by
    rw [frames]
    exact List.mem_map_of_mem (List.mem_filterMap.mpr ⟨entry, isEntry, isTaken⟩)
  obtain ⟨row, isRow, same⟩ := List.mem_map.mp framed
  obtain ⟨owner, isOwner, named, tenant, store⟩ := cuts.owned row isRow
  simp only [PosCashCut.frame, CutFrame.mk.injEq] at same
  obtain ⟨_, sameTenant, sameStore, sameSession, _⟩ := same
  obtain rfl := eq_of_key_eq cuts.distinct isOwner member (named.trans (sameSession.trans own))
  exact ⟨own.symm, tenant.trans sameTenant, store.trans sameStore⟩

/-- From tables without trade, after every run in which the cuts of a session start where its last
cut ended: the totals of the cuts are the amounts of what they count, the cuts are numbered from one
and stand end to end, and an item on record is counted in exactly one cut that stands if and only if
it has an amount and happened inside the window of one, taken with the item on record, or on the
edge of exactly one. -/
theorem activity_counted_once_iff (start last : Db) (history : List (Db × SystemRequest))
    (blank : NoTrade start) (run : Run systemStep start history last) (session : PosCashSession)
    (member : session ∈ last.cashSessions)
    (follows : ∀ entry ∈ history, FollowsLastCut session.id entry.1 entry.2) :
    ActivityCounted history last session := by
  have noFrames : start.cutFrames = [] := by simp [Db.cutFrames, blank.noCuts]
  have inLine : CutsInLine session.id last.cutFrames := by
    have initial : CutsInLine session.id start.cutFrames := by
      rw [noFrames]
      exact ⟨rfl, .nil⟩
    have keeps : ∀ (source : Db) (request : SystemRequest) (next : Db),
        CutsInLine session.id source.cutFrames → FollowsLastCut session.id source request →
        systemStep source request = .ok next →
          CutsInLine session.id next.cutFrames := fun _ _ _ inLine follows success =>
          inLine.step follows success
    exact (run.reachable follows).invariant initial keeps
  have frames : last.cutFrames = (history.filterMap takenCut).map (·.frame) := by
    rw [cutFrames_of_run run, noFrames, List.nil_append]
  have recorded : RecordInvariant start := ⟨blank.invariant.cuts, blank.invariant.payments⟩
  have keeps : ∀ (source : Db) (request : SystemRequest) (next : Db), RecordInvariant source →
      systemStep source request = .ok next → RecordInvariant next := fun _ _ _ invariant success =>
      invariant.step success
  have sound : ∀ entry ∈ history, RecordInvariant entry.1 := by
    intro entry isEntry
    obtain ⟨earlier, later, rfl⟩ := List.append_of_mem isEntry
    exact run.before.invariant recorded keeps
  have ended : RecordInvariant last := run.invariant recorded keeps
  refine ⟨fun entry isEntry cut isTaken => quoted_of_run run isEntry isTaken,
    fun entry isEntry cut isTaken => ?_, ?_, ?_, fun item at_ isRecorded => ?_⟩
  · obtain ⟨owner, _, own, quoted⟩ := quoted_of_run run isEntry isTaken
    exact calculateCutQuote_addsUp (sound entry isEntry).payments own.named quoted
  · have numbers := inLine.numbers
    rw [filter_cutFrames, List.map_map, List.length_map] at numbers
    exact numbers
  · obtain ⟨proper, meets⟩ := inLine.chained
    rw [filter_cutFrames] at proper meets
    exact ⟨fun cut member => proper cut.frame (List.mem_map_of_mem member),
      (List.isChain_map _).mp meets⟩
  · have quoted : ∀ entry ∈ history, ∀ cut ∈ takenCut entry, cut.cashSessionId = session.id →
        cut.counts entry.1 item =
          (item.hasAmount last && (item.recordedAt session entry.1).isSome &&
          withinCut cut.fromAt cut.toAt at_) := by
      intro entry isEntry cut isTaken own
      rw [cut.counts_eq (sound entry isEntry).payments
        (isOf_of_taken ended.cuts frames member isEntry isTaken own)]
      cases before : item.recordedAt session entry.1 with
      | none => simp
      | some time =>
        obtain ⟨after, same⟩ := CountedItem.recordedAt_of_entry run recorded isEntry before
        obtain rfl := Option.some.inj (after.symm.trans isRecorded)
        rw [same, Option.any_some, Option.isSome_some, Bool.and_true]
    rw [timesCounted_eq quoted, InsideOrOnOneEdge]
    cases item.hasAmount last with
    | false => simp
    | true =>
      rw [if_pos rfl, and_iff_right rfl]
      exact (standingCuts_inOrder inLine frames).countP_eq_one_iff

namespace Sample

def atTill (now : ℕ) : RequestContext := { cashier with now }

def putIn (now : ℕ) : SystemRequest :=
  .cash (.sessionAction (atTill now) { transactionId := some "in", action := .cashIn 10 })

def takeCut (now : ℕ) : SystemRequest :=
  .cash (.createCut (atTill now) { transactionId := some "cut" })

/-- Ten are put in between two cuts. -/
def betweenCuts : List SystemRequest := [openDrawer, takeCut 110, putIn 115, takeCut 120]

private theorem betweenCuts_commits : (recordRun systemStep shop betweenCuts).isSome = true := by
  decide +kernel

def cutDay : List (Db × SystemRequest) × Db :=
  (recordRun systemStep shop betweenCuts).get betweenCuts_commits

/-- Ten are put in at the very time at which a cut is taken. -/
def onTheEdge : List SystemRequest := [openDrawer, putIn 110, takeCut 110, takeCut 120]

private theorem onTheEdge_commits : (recordRun systemStep shop onTheEdge).isSome = true := by
  decide +kernel

def edgeDay : List (Db × SystemRequest) × Db :=
  (recordRun systemStep shop onTheEdge).get onTheEdge_commits

/-- Every cut that a list of requests takes starts where the last one ended. -/
theorem follows_of_requests {requests : List SystemRequest}
    {recorded : List (Db × SystemRequest) × Db}
    (success : recordRun systemStep shop requests = some recorded)
    (follow : ∀ request ∈ requests, ∀ context payload,
      request = .cash (.createCut context payload) →
      payload.UsesLastCutWindow) (sessionId : ℕ) :
    ∀ entry ∈ recorded.1, FollowsLastCut sessionId entry.1 entry.2 := by
  intro entry member context payload asked _ _ _
  have isRequest : entry.2 ∈ requests := by
    rw [← requests_of_recordRun success]
    exact List.mem_map_of_mem member
  exact follow entry.2 isRequest context payload asked

private theorem cutDay_follows : ∀ request ∈ betweenCuts, ∀ context payload, request = .cash
    (.createCut context payload) →
    payload.UsesLastCutWindow := by
  intro request member context payload asked
  simp only [betweenCuts, takeCut, putIn, openDrawer, List.mem_cons, List.not_mem_nil,
    or_false] at member
  rcases member with rfl | rfl | rfl | rfl <;> cases asked <;> exact ⟨rfl, rfl⟩

private theorem edgeDay_follows : ∀ request ∈ onTheEdge, ∀ context payload, request = .cash
    (.createCut context payload) →
    payload.UsesLastCutWindow := by
  intro request member context payload asked
  simp only [onTheEdge, takeCut, putIn, openDrawer, List.mem_cons, List.not_mem_nil,
    or_false] at member
  rcases member with rfl | rfl | rfl | rfl <;> cases asked <;> exact ⟨rfl, rfl⟩

end Sample

theorem activity_counted_once_iff_between_cuts :
    ActivityCounted Sample.cutDay.1 Sample.cutDay.2 (Sample.drawerOf Sample.cutDay.2) :=
  activity_counted_once_iff Sample.shop Sample.cutDay.2 Sample.cutDay.1 Sample.noTrade_shop
    (run_of_recordRun (Option.some_get _).symm) (Sample.drawerOf Sample.cutDay.2)
    (by decide +kernel)
    (Sample.follows_of_requests (Option.some_get Sample.betweenCuts_commits).symm
    Sample.cutDay_follows _)

/-- A movement at the end of a cut is counted in this cut and in the next. -/
theorem movement_on_edge_counted_twice :
    ¬ ∀ (start last : Db) (history : List (Db × SystemRequest)), NoTrade start →
    Run systemStep start history last → ∀ session ∈ last.cashSessions,
      (∀ entry ∈ history, FollowsLastCut session.id entry.1 entry.2) →
        ∀ item at_, item.recordedAt session last = some at_ → session.openedAt ≤ at_ →
          (∃ cut ∈ cutsOf last session.id, cut.status ≠ .void ∧ at_ ≤ cut.toAt) →
            timesCounted history last session item = 1 := by
  intro claimed
  have once := claimed Sample.shop Sample.edgeDay.2 Sample.edgeDay.1 Sample.noTrade_shop
    (run_of_recordRun (Option.some_get Sample.onTheEdge_commits).symm)
    (Sample.drawerOf Sample.edgeDay.2) (by decide +kernel)
    (Sample.follows_of_requests (Option.some_get Sample.onTheEdge_commits).symm
    Sample.edgeDay_follows _) (.movement 1) 110 (by decide +kernel) (by decide +kernel)
    (by decide +kernel)
  have twice : timesCounted Sample.edgeDay.1 Sample.edgeDay.2 (Sample.drawerOf Sample.edgeDay.2)
      (.movement 1) = 2 := by
    decide +kernel
  omega

end ArisCloud

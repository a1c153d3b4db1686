import ArisCloud.Proofs.TagWrites
import ArisCloud.Soundness.ClosedDays
import ArisCloud.Soundness.EpcAssignments
import ArisCloud.Soundness.TransferStatus

/-! # Which states the integrity checker takes for impossible

Every run of requests leaves tables in which a cashier has one open session at most and the totals
of a paid sale add up. The checker knows no canceled transfer under the name that the router gives
it, and it compares tags by their digits where preloads take any text. As long as no transfer is
canceled and no new tag has the digits of another one of its tenant, it reports nothing.
-/

namespace ArisCloud

open Grouping KeyedRows Requests

variable {db after : Db}

/-! ## Tags that differ by their digits -/

/-- Tags of a tenant differ by their digits. -/
def TagsApart (db : Db) : Prop :=
  ∀ row ∈ db.stock.rows, ∀ other ∈ db.stock.rows, row.tenantId = other.tenantId → ∀ form,
    normalizeEpc row.epc = some form → normalizeEpc other.epc = some form → row = other

/-- A new tag differs by its digits from the tags of the other rows of its tenant, and from other
new tags. -/
def NewTagsApart (db : Db) (brought : List NewTag) : Prop :=
  ∀ tag ∈ brought, ∀ form ∈ normalizeEpc (some tag.epc),
    (∀ row ∈ db.stock.rows, row.tenantId = tag.tenantId → some row.id ≠ tag.unit →
    normalizeEpc row.epc ≠ some form) ∧
      ∀ other ∈ brought, other.tenantId = tag.tenantId → normalizeEpc (some other.epc) = some form →
      other.epc = tag.epc

instance (db : Db) (brought : List NewTag) : Decidable (NewTagsApart db brought) :=
  inferInstanceAs (Decidable (∀ tag ∈ brought, ∀ form ∈ normalizeEpc (some tag.epc), _ ∧ _))

/-- A row with a new tag and a row that had its tag before are the same when the tags have the same
digits. -/
theorem NewTagsApart.eq_of_hadTag {brought : List NewTag} (apart : NewTagsApart db brought)
    {tag : NewTag} (isNew : tag ∈ brought) {row other : StockItem} (own : tag.IsOf row)
    (had : HadTag db other) (member : row ∈ after.stock.rows) (another : other ∈ after.stock.rows)
    (tenant : row.tenantId = other.tenantId) {form : String}
    (rowForm : normalizeEpc row.epc = some form) (otherForm : normalizeEpc other.epc = some form) :
    row = other := by
  obtain ⟨before, isBefore, id, sameTenant, epc⟩ := had
  rw [own.epc] at rowForm
  have stays := (apart tag isNew form rowForm).1 before isBefore
    (sameTenant.trans (tenant.symm.trans own.tenant))
  -- The row before has the digits of the new tag, so it is the unit that gets the tag.
  have unit : some before.id = tag.unit := by
    by_contra different
    exact stays different (by rw [epc, otherForm])
  exact eq_of_key_eq after.stock.distinctIds member another
    ((own.unit before.id unit.symm).trans id)

theorem TagsApart.step {brought : List NewTag} (tags : TagsApart db)
    (source : TagsFrom db after brought) (apart : NewTagsApart db brought) : TagsApart after := by
  intro row member other another tenant form rowForm otherForm
  rcases source row member (by simp [rowForm]) with rowHad | ⟨tag, isNew, own⟩
  · rcases source other another (by simp [otherForm]) with otherHad | ⟨tag, isNew, own⟩
    · obtain ⟨before, isBefore, id, sameTenant, epc⟩ := rowHad
      obtain ⟨otherBefore, isOtherBefore, otherId, otherTenant, otherEpc⟩ := otherHad
      have same := tags before isBefore otherBefore isOtherBefore
        (sameTenant.trans (tenant.trans otherTenant.symm)) form
        (by rw [epc, rowForm]) (by rw [otherEpc, otherForm])
      subst same
      exact eq_of_key_eq after.stock.distinctIds member another (id.symm.trans otherId)
    · exact (apart.eq_of_hadTag isNew own rowHad another member tenant.symm otherForm rowForm).symm
  · rcases source other another (by simp [otherForm]) with otherHad | ⟨otherTag, otherNew, otherOwn⟩
    · exact apart.eq_of_hadTag isNew own otherHad member another tenant rowForm otherForm
    · rw [own.epc] at rowForm
      rw [otherOwn.epc] at otherForm
      have same := (apart tag isNew form rowForm).2 otherTag otherNew
        (otherOwn.tenant.symm.trans (tenant.symm.trans own.tenant)) otherForm
      exact StockTable.eq_of_tag member another tenant own.epc (by rw [otherOwn.epc, same])

theorem TagsApart.checkDuplicateEpc (tags : TagsApart db) (tenantId : ℕ) :
    checkDuplicateEpc db tenantId = [] := by
  rw [ArisCloud.checkDuplicateEpc, List.map_eq_nil_iff, List.filter_eq_nil_iff]
  intro group member
  have apart (form : String) : (db.stock.rows.filter fun row => row.tenantId = tenantId &&
      row.epc.isSome).countP (fun row => normalizeEpc row.epc = some form) ≤ 1 := by
    rw [List.countP_filter]
    apply countP_le_one
    refine (db.stock.distinctIds.of_map _).imp_of_mem
      fun {row other} member another different both => ?_
    simp only [Bool.and_eq_true, decide_eq_true_eq] at both
    obtain ⟨⟨form, tenant, _⟩, otherForm, otherTenant, _⟩ := both
    exact different (tags row member other another (tenant.trans otherTenant.symm) _ form otherForm)
  have single := length_group_le_one apart member
  simpa using single

/-! ## Open sessions -/

theorem DayCloseCoherent.checkCashSessionOpen (coherent : DayCloseCoherent db) (tenantId : ℕ) :
    checkCashSessionOpen db tenantId = [] := by
  rw [ArisCloud.checkCashSessionOpen, List.map_eq_nil_iff, List.filter_eq_nil_iff]
  intro group member
  have apart (owner : ℕ × ℕ) :
      (db.cashSessions.filter fun session => session.tenantId = tenantId &&
      session.status = .opened).countP
        (fun session => some (session.storeId, session.cashierUserId) = some owner) ≤ 1 := by
    rw [List.countP_filter]
    refine le_trans (le_of_eq (List.countP_congr fun session _ => ?_))
      (coherent.oneOpen tenantId owner.1 owner.2)
    simp only [isOpenOf, Option.some.injEq, Prod.ext_iff, Bool.and_eq_true, decide_eq_true_eq]
    tauto
  have single := length_group_le_one apart member
  simpa using single

/-- The cash tables stay sound when they stay as they are. -/
theorem LedgerSound.of_ledger (sound : LedgerSound db) (same : after.ledger = db.ledger)
    (cuts : after.cashCuts = db.cashCuts) : LedgerSound after := by
  have coherent := sound.coherent.of_ledger same
  have rollup (tenantId storeId businessDate : ℕ) :
      reconciliationRollup after tenantId storeId businessDate =
      reconciliationRollup db tenantId storeId businessDate := (DateKept.of_ledger same).rollup
  simp only [Db.ledger, CashLedger.mk.injEq] at same
  obtain ⟨sessions, _, dayCloses⟩ := same
  refine ⟨⟨?_, ?_⟩, ?_, coherent, ?_⟩
  · rw [sessions]
    exact sound.cuts.distinct
  · rw [cuts, sessions]
    exact sound.cuts.owned
  · rw [sessions]
    exact sound.unclosed
  · rw [dayCloses]
    intro dayClose member
    rw [rollup]
    exact sound.rollups dayClose member

/-! ## Paid sales -/

/-- A paid sale owes nothing, and its change is what was paid too much. -/
structure TotalsAddUp (sale : PosSale) : Prop where
  settled : sale.balanceDue = 0
  covered : sale.totalDue ≤ sale.paidTotal
  change : sale.changeDue = sale.paidTotal - sale.totalDue

theorem TotalsAddUp.consistent {sale : PosSale} (totals : TotalsAddUp sale) :
    inconsistentTotals sale = false := by
  obtain ⟨settled, covered, change⟩ := totals
  rw [inconsistentTotals, if_neg, change, sub_self]
  · norm_num
  · rw [settled]
    rintro (owes | short)
    · norm_num at owes
    · linarith

/-- Sales have their own identifiers, and the totals of the paid ones add up. -/
structure SaleTotals (db : Db) : Prop where
  distinct : (db.sales.map (·.id)).Nodup
  paid : ∀ sale ∈ db.sales, sale.status = .paid → TotalsAddUp sale

namespace SaleTotals

private theorem of_sales (totals : SaleTotals db) (same : after.sales = db.sales) :
    SaleTotals after :=
  ⟨same ▸ totals.distinct, same ▸ totals.paid⟩

theorem added (totals : SaleTotals db) {sale : PosSale} (sales : after.sales = db.sales ++ [sale])
    (id : sale.id = db.freshSaleId) (paid : sale.status = .paid → TotalsAddUp sale) :
    SaleTotals after := by
  constructor
  · rw [sales, List.map_append, List.map_singleton, List.nodup_append]
    refine ⟨totals.distinct, List.nodup_singleton _, fun old isOld new isNew => ?_⟩
    obtain ⟨other, member, rfl⟩ := List.mem_map.mp isOld
    rw [List.mem_singleton.mp isNew, id]
    exact (sale_id_lt_fresh member).ne
  · rw [sales]
    intro other member
    rcases List.mem_append.mp member with old | new
    · exact totals.paid other old
    · rw [List.mem_singleton.mp new]
      exact paid

theorem changed (totals : SaleTotals db) {sale : PosSale} (member : sale ∈ db.sales)
    {change : PosSale → PosSale} (sales : after.sales = update (·.id) [sale.id] change db.sales)
    (id : ∀ row, (change row).id = row.id)
    (paid : (change sale).status = .paid → TotalsAddUp (change sale)) : SaleTotals after := by
  constructor
  · rw [sales, map_update id]
    exact totals.distinct
  · rw [sales]
    intro other isAfter
    rcases mem_update_singleton totals.distinct member isAfter with rfl | ⟨old, _⟩
    · exact paid
    · exact totals.paid other old

theorem sale (totals : SaleTotals db) {request : SaleRequest}
    (effect : SaleEffect db after request) : SaleTotals after := by
  cases effect with
  | created sale lines step =>
    exact totals.added (congrArg Db.sales step.tables) step.id (by simp [step.draft])
  | updated tenantId sale target lines step =>
    exact totals.changed target.member (congrArg Db.sales step.tables) (fun _ => rfl)
      (by simp [step.draft])
  | canceled sale target step =>
    exact totals.changed target.member (congrArg Db.sales step.tables) (fun _ => rfl) (by simp)
  | refunded sale target items session step => exact totals.of_sales (by rw [step.tables])
  | exchanged sale target items lines exchangeSale delta batch session step =>
    obtain ⟨paid, balance, change⟩ := step.balanced
    refine totals.added (congrArg Db.sales step.tables) step.id fun _ => ⟨balance, ?_, ?_⟩
    · rw [paid, step.due]
    · rw [change, paid, step.due, sub_self]
  | checkedOut sale target totals' advance batch step =>
    refine totals.changed target.member (congrArg Db.sales step.tables) (fun _ => rfl) fun _ => ?_
    have valid := step.valid
    simp only [validatePayments, Checked.bind_eq_ok, Checked.ensure_eq_ok, exists_const,
      Checked.pure_eq_ok] at valid
    obtain ⟨_, _, _, covered, _, _, _, _, rfl⟩ := valid
    exact ⟨max_eq_right (sub_nonpos.mpr covered), covered, rfl⟩

theorem step (totals : SaleTotals db) {request : SystemRequest}
    (success : systemStep db request = .ok after) :
    SaleTotals after := by
  cases request with
  | sale request => exact totals.sale (saleStep_ok success)
  | returns request => exact totals.of_sales (by rw [(returnStep_ok success).tables])
  | advance request => exact totals.of_sales (by rw [(advanceStep_ok success).tables])
  | cash request => exact totals.of_sales (by rw [(cashStep_ok success).tables])
  | transfer request => exact totals.of_sales (by rw [(transferStep_ok success).tables])

theorem checkPaidSaleTotals (totals : SaleTotals db) (tenantId : ℕ) :
    checkPaidSaleTotals db tenantId = [] := by
  rw [ArisCloud.checkPaidSaleTotals, List.map_eq_nil_iff, List.filter_eq_nil_iff]
  intro sale member flagged
  simp only [Bool.and_eq_true, decide_eq_true_eq] at flagged
  obtain ⟨⟨_, paid⟩, inconsistent⟩ := flagged
  rw [(totals.paid sale member paid).consistent] at inconsistent
  contradiction

end SaleTotals

/-! ## Transfers -/

/-- What the checker asks of the stamps: no canceled transfer passes. -/
theorem Transfer.isInvalid_eq_false {transfer : Transfer} : transfer.isInvalid = false ↔
    match transfer.status with
    | .draft => transfer.dispatchedAt = none ∧ transfer.receivedAt = none ∧
      transfer.canceledAt = none
    | .dispatched | .partialReceived =>
      transfer.dispatchedAt ≠ none ∧ transfer.receivedAt = none ∧ transfer.canceledAt = none
    | .received =>
      transfer.dispatchedAt ≠ none ∧ transfer.receivedAt ≠ none ∧ transfer.canceledAt = none
    | .canceled => False := by
  cases status : transfer.status <;>
    simp [isInvalid, invalidStamps, status, TransferStatus.text, and_assoc,
    Option.isSome_iff_ne_none]

/-- Transfers have their own identifiers, and their stamps pass the check. -/
structure TransferStamps (db : Db) : Prop where
  distinct : (db.transfers.map (·.id)).Nodup
  valid : ∀ transfer ∈ db.transfers, transfer.isInvalid = false

namespace TransferStamps

variable {transfer : Transfer}

private theorem of_transfers (stamps : TransferStamps db) (same : after.transfers = db.transfers) :
    TransferStamps after :=
  ⟨same ▸ stamps.distinct, same ▸ stamps.valid⟩

theorem touched (stamps : TransferStamps db) {change : Transfer → Transfer}
    {written : List TransferMovement} (touches : Touches db after transfer change written)
    (valid : (change transfer).isInvalid = false) :
    TransferStamps after := by
  constructor
  · rw [touches.transfers, map_key_update touches.identity]
    exact stamps.distinct
  · rw [touches.transfers]
    intro other isAfter
    rcases mem_update_singleton stamps.distinct touches.member isAfter with rfl | ⟨old, _⟩
    · exact valid
    · exact stamps.valid other old

/-- The stamps of a transfer on its way. -/
theorem enRoute (stamps : TransferStamps db) (member : transfer ∈ db.transfers)
    (enRoute : transfer.status.isEnRoute = true) :
    transfer.dispatchedAt ≠ none ∧ transfer.receivedAt = none ∧ transfer.canceledAt = none := by
  have valid := Transfer.isInvalid_eq_false.mp (stamps.valid transfer member)
  cases status : transfer.status <;> simp_all [TransferStatus.isEnRoute]

/-- A transfer that is settled has its stamps, and one that is not keeps those it has. -/
theorem settled (stamps : TransferStamps db) (member : transfer ∈ db.transfers)
    (enRoute : transfer.status.isEnRoute = true) (totals : MovementTotals) (now : ℕ)
    {otherwise : Transfer → Transfer} (kept : (otherwise transfer).isInvalid = false) :
    (settle totals now otherwise transfer).isInvalid = false := by
  obtain ⟨dispatchedAt, _, canceledAt⟩ := stamps.enRoute member enRoute
  unfold settle
  split
  · exact Transfer.isInvalid_eq_false.mpr ⟨dispatchedAt, nofun, canceledAt⟩
  · exact kept

theorem step (stamps : TransferStamps db) {request : TransferRequest}
    (effect : TransferEffect db after request)
    (kept : ∀ context transferId transactionId tenantId, request ≠ .action context transferId
      ⟨transactionId, tenantId, .cancel⟩) :
    TransferStamps after := by
  cases effect with
  | created tenantId progress transfer step =>
    have transfers : after.transfers = db.transfers ++ [transfer] :=
      congrArg Db.transfers step.tables
    constructor
    · rw [transfers, List.map_append, List.map_singleton, List.nodup_append]
      refine ⟨stamps.distinct, List.nodup_singleton _, fun old isOld new isNew => ?_⟩
      obtain ⟨other, member, rfl⟩ := List.mem_map.mp isOld
      rw [List.mem_singleton.mp isNew, step.id]
      exact (db.id_lt_freshTransferId member).ne
    · rw [transfers]
      intro other member
      rcases List.mem_append.mp member with old | new
      · exact stamps.valid other old
      · rw [List.mem_singleton.mp new, Transfer.isInvalid_eq_false, step.status]
        exact ⟨step.dispatchedAt, step.receivedAt, step.canceledAt⟩
  | updated tenantId originStoreId destinationStoreId transfer target session step =>
    exact stamps.touched step.touches (stamps.valid transfer target.member)
  | dispatched transfer target session outputs step =>
    have draft := Transfer.isInvalid_eq_false.mp (stamps.valid transfer target.member)
    rw [step.draft] at draft
    exact stamps.touched (step.touches target.member)
      (Transfer.isInvalid_eq_false.mpr ⟨nofun, draft.2⟩)
  | received transfer target outputs step =>
    have stamped := stamps.enRoute target.member step.enRoute
    refine stamps.touched (step.touches target.member)
      (stamps.settled target.member step.enRoute _ _ ?_)
    exact Transfer.isInvalid_eq_false.mpr stamped
  | reported transfer target movements step =>
    exact stamps.touched (step.touches target.member) (stamps.valid transfer target.member)
  | resolved transfer target outputs step =>
    refine stamps.touched (step.touches target.member)
      (stamps.settled target.member step.enRoute _ _ ?_)
    exact stamps.valid transfer target.member
  | canceled transfer target edits step => exact absurd rfl (kept _ _ _ _)

theorem checkTransferFsm (stamps : TransferStamps db) (tenantId : ℕ) :
    checkTransferFsm db tenantId = [] := by
  rw [ArisCloud.checkTransferFsm, List.map_eq_nil_iff, List.filter_eq_nil_iff]
  intro transfer member flagged
  rw [stamps.valid transfer member, Bool.and_false] at flagged
  contradiction

end TransferStamps

/-! ## All requests -/

theorem SaleEffect.transfers {request : SaleRequest} (effect : SaleEffect db after request) :
    after.transfers = db.transfers := by
  cases effect with
  | created sale lines step => rw [step.tables]
  | updated tenantId sale target lines step => rw [step.tables]
  | canceled sale target step => rw [step.tables]
  | refunded sale target items session step => rw [step.tables]
  | exchanged sale target items lines exchangeSale delta batch session step => rw [step.tables]
  | checkedOut sale target totals advance batch step => rw [step.tables]

/-- A request that cancels no transfer, prints random labels and brings only tags that differ by
their digits from the other tags of the tenant. -/
def CausesNoAlarm (db : Db) : ApiRequest → Prop
  | .system (.transfer (.action _ _ ⟨_, _, .cancel⟩)) => False
  | .system (.sale request) => request.LabelsRandom
  | .stock request => NewTagsApart db (request.newTags db)
  | _ => True

instance (db : Db) (request : ApiRequest) : Decidable (CausesNoAlarm db request) := by
  unfold CausesNoAlarm
  split <;> infer_instance

/-- The tables that the checker reads. -/
structure Unalarming (db : Db) : Prop where
  tags : TagsApart db
  ledger : LedgerSound db
  totals : SaleTotals db
  stamps : TransferStamps db

namespace Unalarming

theorem system (sound : Unalarming db) {request : SystemRequest}
    (allowed : CausesNoAlarm db (.system request)) (success : systemStep db request = .ok after) :
    Unalarming after := by
  have ledger := sound.ledger.step success
  have totals := sound.totals.step success
  have unbrought : NewTagsApart db [] := fun _ => by simp
  cases request with
  | sale request =>
    have effect := saleStep_ok success
    exact ⟨sound.tags.step (effect.tags allowed) unbrought, ledger, totals,
      sound.stamps.of_transfers effect.transfers⟩
  | returns request =>
    have tables := (returnStep_ok success).tables
    exact ⟨sound.tags.step (tagsFrom_of_stock (by rw [tables])) unbrought, ledger, totals,
      sound.stamps.of_transfers (by rw [tables])⟩
  | advance request =>
    have tables := (advanceStep_ok success).tables
    exact ⟨sound.tags.step (tagsFrom_of_stock (by rw [tables])) unbrought, ledger, totals,
      sound.stamps.of_transfers (by rw [tables])⟩
  | cash request =>
    have tables := (cashStep_ok success).tables
    exact ⟨sound.tags.step (tagsFrom_of_stock (by rw [tables])) unbrought, ledger, totals,
      sound.stamps.of_transfers (by rw [tables])⟩
  | transfer request =>
    have effect := transferStep_ok success
    refine ⟨sound.tags.step effect.tags unbrought, ledger, totals, sound.stamps.step effect ?_⟩
    rintro _ _ _ _ rfl
    exact allowed

theorem stock (sound : Unalarming db) {request : StockRequest}
    (allowed : CausesNoAlarm db (.stock request)) (success : stockStep db request = .ok after) :
    Unalarming after := by
  have tables := (stockStep_ok success).tables
  refine ⟨sound.tags.step (stockStep_tags success) allowed, sound.ledger.of_ledger ?_ ?_,
    sound.totals.of_sales ?_, sound.stamps.of_transfers ?_⟩
  all_goals
    rw [tables]
  rfl

end Unalarming

/-- The checks of a tenant report nothing. -/
structure NoAlarm (db : Db) (tenantId : ℕ) : Prop where
  transfers : checkTransferFsm db tenantId = []
  sales : checkPaidSaleTotals db tenantId = []
  sessions : checkCashSessionOpen db tenantId = []
  tags : checkDuplicateEpc db tenantId = []

/-- Tables without stock, transfers, sales and cash; the stores, the policies and the vouchers do
not matter. -/
structure Db.IsEmpty (db : Db) : Prop where
  stock : db.stock.rows = []
  transfers : db.transfers = []
  sales : db.sales = []
  sessions : db.cashSessions = []
  cuts : db.cashCuts = []
  dayCloses : db.dayCloses = []

theorem Unalarming.of_empty (empty : db.IsEmpty) : Unalarming db where
  tags := by simp [TagsApart, empty.stock]
  ledger := .of_empty empty.sessions empty.cuts empty.dayCloses
  totals := ⟨by simp [empty.sales], by simp [empty.sales]⟩
  stamps := ⟨by simp [empty.transfers], by simp [empty.transfers]⟩

namespace Sample

private theorem emptyShop_isEmpty : emptyShop.IsEmpty := ⟨rfl, rfl, rfl, rfl, rfl, rfl⟩

/-- A scarf is saved with its tag, and another one gets its tag later. -/
def scarvesSaved : List ApiRequest :=
  [.stock (.createPreload admin
      { storeId := some 10, lines := [scarfLine (some firstTag), scarfLine none] }),
    .stock (.saveLine admin 1 none), .stock (.saveLine admin 2 none),
    .stock (.assignEpc admin 2 none secondTag)]

/-- The second scarf is to go to the other store. -/
def scarfTrip : ApiRequest :=
  .system (.transfer (create [{
    lineType := .epc
    snapshot := { epc := some secondTag, locationCode := some "FLOOR", pool := some "SALE" } }]))

/-- The first scarf is sold for cash, and the second one travels to the other store. -/
def scarvesTraded : List ApiRequest :=
  scarvesSaved ++
    [.system (.cash
      (.sessionAction cashier { transactionId := some "open", action := .opening 50 1 "UTC" })),
    .system (draft [{ lineType := .epc, epc := some firstTag }]),
    .system (onSale 1 (.checkout { payments := [inCash 25] })),
    scarfTrip, .system (.transfer (act 1 .dispatch)),
    .system (.transfer (act 1 (.receive [{ lineId := 1 }])))]

private theorem scarvesTraded_allowed :
    (runAllowed apiStep CausesNoAlarm emptyShop scarvesTraded).isSome = true := by
  decide +kernel

def traded : Db :=
  (runAllowed apiStep CausesNoAlarm emptyShop scarvesTraded).get scarvesTraded_allowed

/-- A transfer of a scarf is drafted and canceled. -/
def scarfTripCanceled : List ApiRequest :=
  scarvesSaved ++ [scarfTrip, .system (.transfer (act 1 .cancel))]

private theorem scarfTripCanceled_commits :
    (runAllowed apiStep (fun _ _ => True) emptyShop scarfTripCanceled).isSome = true := by
  decide +kernel

def tripCanceled : Db :=
  (runAllowed apiStep (fun _ _ => True) emptyShop scarfTripCanceled).get scarfTripCanceled_commits

end Sample

/-- A preload takes a tag in lower case beside the same tag in upper case, which is a finding. -/
example : (runAllowed apiStep (fun _ _ => True) Sample.emptyShop (Sample.scarvesSaved.take 3 ++
    [.stock (.assignEpc Sample.admin 2 none "0000000000000000000000e1")])).map
      (fun db => (checkDuplicateEpc db 1).length) = some 1 := by
  decide +kernel

end ArisCloud

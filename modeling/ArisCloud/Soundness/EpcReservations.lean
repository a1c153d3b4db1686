import Mathlib.Data.List.Pairwise
import ArisCloud.Library.Reachability
import ArisCloud.Proofs.TransferStock

/-! # An EPC is reserved by one active transfer

The conflict query skips drafts of stores that no longer hold an EPC. It is still enough, because a
draft whose store has lost the EPC never arises from transfer requests alone: the row of every
tagged line of a draft stays in the origin store. With that, no two lines of active transfers name
one EPC.
-/

namespace ArisCloud

open KeyedRows Requests

/-- The store that holds an EPC now. -/
def currentStore (db : Db) (tenantId : ℕ) (epc : String) : Option ℕ :=
  (db.stock.rows.find? (epcFilters tenantId epc)).bind (·.storeId)

/-- A line that reserves an EPC: of a transfer on its way, or of a draft of the store that holds the
EPC. -/
def reserves (db : Db) (tenantId : ℕ) (epc : String) (line : TransferLine) : Bool :=
  line.tenantId = tenantId && line.epc = some epc && db.transfers.any fun transfer =>
    transfer.id = line.transferId && (transfer.status.isEnRoute ||
      transfer.status = .draft && currentStore db tenantId epc = some transfer.originStoreId)

/-- The line belongs to an active transfer. -/
def ActiveLine (db : Db) (line : TransferLine) : Prop :=
  ∃ transfer ∈ db.transfers, transfer.id = line.transferId ∧ transfer.status.isActive = true

/-- Two lines do not reserve one EPC at the same time. -/
def Exclusive (db : Db) (line other : TransferLine) : Prop :=
  line.tenantId = other.tenantId → ∀ epc, line.epc = some epc → other.epc = some epc →
    ¬ (ActiveLine db line ∧ ActiveLine db other)

/-- What all runs of transfer requests keep about reservations. -/
structure ReservationInvariant (db : Db) : Prop where
  distinct : (db.transfers.map (·.id)).Nodup
  tenant : ∀ line ∈ db.transferLines, ∀ transfer ∈ db.transfers, transfer.id = line.transferId →
    transfer.tenantId = line.tenantId
  typed : ∀ line ∈ db.transferLines, line.lineType = .sku ↔ line.epc = none
  exclusive : db.transferLines.Pairwise (Exclusive db)
  placed : ∀ line ∈ db.transferLines, ∀ transfer ∈ db.transfers, transfer.id = line.transferId →
    transfer.status = .draft → ∀ epc, line.epc = some epc →
      HoldsEpc db.stock.rows line.tenantId epc transfer.originStoreId

instance (db : Db) : Std.Symm (Exclusive db) where
  symm _ _ exclusive tenant epc named otherNamed both :=
    exclusive tenant.symm epc otherNamed named both.symm

theorem isActive_of_isEnRoute {status : TransferStatus} (enRoute : status.isEnRoute = true) :
    status.isActive = true := by
  cases status <;> first | rfl | contradiction

namespace ReservationInvariant

variable {db after : Db}

theorem initial (noTransfers : db.transfers = []) (noLines : db.transferLines = []) :
    ReservationInvariant db :=
  ⟨by rw [noTransfers]; exact List.nodup_nil, by simp [noLines], by simp [noLines], by simp [noLines],
    by simp [noLines]⟩

theorem transfer_eq (invariant : ReservationInvariant db) {transfer other : Transfer}
    (member : transfer ∈ db.transfers) (another : other ∈ db.transfers)
    (same : transfer.id = other.id) : transfer = other :=
  eq_of_key_eq invariant.distinct member another same

/-- Lines of active transfers that name one EPC are one line. -/
theorem active_line_eq (invariant : ReservationInvariant db) {line other : TransferLine}
    {epc : String} (inLines : line ∈ db.transferLines) (another : other ∈ db.transferLines)
    (tenant : line.tenantId = other.tenantId) (named : line.epc = some epc)
    (otherNamed : other.epc = some epc) (active : ActiveLine db line)
    (otherActive : ActiveLine db other) : line = other := by
  by_contra different
  exact invariant.exclusive.forall inLines another different tenant epc named otherNamed
    ⟨active, otherActive⟩

/-- A transfer on its way names no EPC that a draft names. -/
theorem unnamed (invariant : ReservationInvariant db) {transfer draft : Transfer}
    {line : TransferLine} {epc : String} (member : transfer ∈ db.transfers)
    (enRoute : transfer.status.isEnRoute = true) (inLines : line ∈ db.transferLines)
    (drafted : draft ∈ db.transfers) (owner : draft.id = line.transferId)
    (isDraft : draft.status = .draft) (named : line.epc = some epc) :
    line.tenantId = transfer.tenantId → ∀ other ∈ getLines db transfer.id,
    other.epc ≠ some epc := by
  intro tenant other otherMember otherNamed
  obtain ⟨otherInLines, otherOwner⟩ := mem_getLines.mp otherMember
  obtain rfl := invariant.active_line_eq inLines otherInLines
    (tenant.trans (invariant.tenant other otherInLines transfer member otherOwner.symm)) named
    otherNamed ⟨draft, drafted, owner, by rw [isDraft]; rfl⟩
    ⟨transfer, member, otherOwner.symm, isActive_of_isEnRoute enRoute⟩
  obtain rfl := invariant.transfer_eq drafted member (owner.trans otherOwner)
  rw [isDraft] at enRoute
  contradiction

/-- An action that leaves lines and holders alone and ends no transfer as a draft keeps the
invariant. -/
theorem of_action (invariant : ReservationInvariant db) {transfer : Transfer}
    {change : Transfer → Transfer} (member : transfer ∈ db.transfers)
    (active : transfer.status.isActive = true) (lines : after.transferLines = db.transferLines)
    (transfers : after.transfers = update Transfer.id [transfer.id] change db.transfers)
    (identity : (change transfer).id = transfer.id ∧ (change transfer).tenantId = transfer.tenantId)
    (notDraft : (change transfer).status ≠ .draft)
    (holders : ∀ line ∈ db.transferLines, ∀ draft ∈ db.transfers, draft.id = line.transferId →
      draft.status = .draft → ∀ epc, line.epc = some epc →
        HoldsEpc db.stock.rows line.tenantId epc draft.originStoreId →
        HoldsEpc after.stock.rows line.tenantId epc draft.originStoreId) :
        ReservationInvariant after := by
  -- Every transfer after the action is one from before or the changed transfer.
  have source : ∀ other ∈ after.transfers, other = change transfer ∨ other ∈ db.transfers := by
    intro other isAfter
    rw [transfers] at isAfter
    obtain ⟨before, isBefore, rfl⟩ := mem_update.mp isAfter
    by_cases addressed : before.id ∈ [transfer.id]
    · rw [if_pos addressed, invariant.transfer_eq isBefore member (List.mem_singleton.mp addressed)]
      exact .inl rfl
    · rw [if_neg addressed]
      exact .inr isBefore
  have activeBefore {line : TransferLine} (isActive : ActiveLine after line) :
      ActiveLine db line := by
    obtain ⟨other, isAfter, owner, status⟩ := isActive
    rcases source other isAfter with rfl | isBefore
    · exact ⟨transfer, member, identity.1.symm.trans owner, active⟩
    · exact ⟨other, isBefore, owner, status⟩
  refine ⟨?_, ?_, ?_, ?_, ?_⟩
  · rw [transfers]
    have keys : (update Transfer.id [transfer.id] change db.transfers).map (·.id) = db.transfers.map
        (·.id) := by
      rw [update, List.map_map]
      refine List.map_congr_left fun other isBefore => ?_
      rw [Function.comp_apply]
      by_cases addressed : other.id ∈ [transfer.id]
      · rw [if_pos addressed, invariant.transfer_eq isBefore member
          (List.mem_singleton.mp addressed), identity.1]
      · rw [if_neg addressed]
    rw [keys]
    exact invariant.distinct
  · intro line inLines other isAfter owner
    rw [lines] at inLines
    rcases source other isAfter with rfl | isBefore
    · rw [identity.2]
      exact invariant.tenant line inLines transfer member (identity.1.symm.trans owner)
    · exact invariant.tenant line inLines other isBefore owner
  · rw [lines]
    exact invariant.typed
  · rw [lines]
    exact invariant.exclusive.imp fun exclusive tenant epc named otherNamed both =>
      exclusive tenant epc named otherNamed ⟨activeBefore both.1, activeBefore both.2⟩
  · intro line inLines other isAfter owner isDraft epc named
    rw [lines] at inLines
    rcases source other isAfter with rfl | isBefore
    · exact absurd isDraft notDraft
    · exact holders line inLines other isBefore owner isDraft epc named
        (invariant.placed line inLines other isBefore owner isDraft epc named)

/-- A line checked against the conflict query meets no other active line of its EPC. -/
theorem no_conflict (invariant : ReservationInvariant db) {session : StockSession}
    {tenantId storeId : ℕ} {excludeTransferId : Option ℕ} {epc : String}
    (claims : session.Claims db.stock storeId)
    (reservable : Reservable db session tenantId storeId excludeTransferId epc)
    {line : TransferLine} {transfer : Transfer} (inLines : line ∈ db.transferLines)
    (tenant : line.tenantId = tenantId) (named : line.epc = some epc)
    (member : transfer ∈ db.transfers) (owner : transfer.id = line.transferId)
    (active : transfer.status.isActive = true)
    (notExcluded : excludeTransferId ≠ some transfer.id) : False := by
  obtain ⟨isDraft, elsewhere⟩ :=
    getTransferConflictForEpc_eq_none.mp reservable.free line inLines tenant named
    transfer member owner ((invariant.tenant line inLines transfer member owner).trans tenant)
    active notExcluded
  -- The draft's own row and the checked row are the same row, held by both stores.
  obtain ⟨row, inRows, rowTenant, tag, held⟩ :=
    invariant.placed line inLines transfer member owner isDraft epc named
  obtain ⟨other, otherInRows, otherTenant, otherTag, otherHeld⟩ := reservable.held
  obtain rfl := StockTable.eq_of_tag inRows otherInRows
    (rowTenant.trans (tenant.trans otherTenant.symm)) tag otherTag
  rw [claims.current_of_held inRows held, held] at otherHeld
  exact elsewhere (Option.some.inj otherHeld)

/-- Adding the checked lines of a draft to the lines of other transfers keeps them exclusive. -/
theorem exclusive_append (invariant : ReservationInvariant db) {tenantId storeId transferId : ℕ}
    {excludeTransferId : Option ℕ} {progress : Normalization} {kept : List TransferLine}
    (checked : progress.Checked db tenantId storeId excludeTransferId)
    (sub : kept.Sublist db.transferLines) (foreign : ∀ line ∈ kept, line.transferId ≠ transferId)
    (others : ∀ transfer ∈ after.transfers, transfer.id ≠ transferId → transfer ∈ db.transfers)
    (excluded : excludeTransferId.all (· = transferId)) :
    (kept ++ newTransferLines db tenantId transferId progress.normalized).Pairwise
    (Exclusive after) := by
  have activeBefore {line : TransferLine} (member : line ∈ kept)
      (isActive : ActiveLine after line) :
      ∃ transfer ∈ db.transfers, transfer.id = line.transferId ∧ transfer.status.isActive = true ∧
        excludeTransferId ≠ some transfer.id := by
    obtain ⟨transfer, isAfter, owner, active⟩ := isActive
    have apart : transfer.id ≠ transferId := by rw [owner]; exact foreign line member
    refine ⟨transfer, others transfer isAfter apart, owner, active, fun same => apart ?_⟩
    rw [same, Option.all_some, decide_eq_true_eq] at excluded
    exact excluded
  refine List.pairwise_append.mpr ⟨?_, ?_, ?_⟩
  · refine (invariant.exclusive.sublist sub).imp_of_mem
      fun left right exclusive tenant epc named otherNamed both => ?_
    obtain ⟨first, firstMember, firstOwner, firstActive, _⟩ := activeBefore left both.1
    obtain ⟨second, secondMember, secondOwner, secondActive, _⟩ := activeBefore right both.2
    exact exclusive tenant epc named otherNamed
      ⟨⟨first, firstMember, firstOwner, firstActive⟩, second, secondMember, secondOwner,
      secondActive⟩
  · have tags : (newTransferLines db tenantId transferId progress.normalized).filterMap (·.epc) =
        progress.normalized.filterMap (·.snapshot.epc) := by
      have mapped := congrArg (List.filterMap (·.epc))
        (map_snapshot_newTransferLines db tenantId transferId progress.normalized)
      rwa [List.filterMap_map, List.filterMap_map] at mapped
    refine (List.pairwise_filterMap.mp (tags ▸ checked.distinct)).imp
      fun apart _ epc named otherNamed _ => ?_
    exact apart epc named epc otherNamed rfl
  · intro line member new isNew tenant epc named newNamed both
    obtain ⟨newTenant, _, _, source, isSource, columns, _⟩ := mem_newTransferLines isNew
    obtain ⟨transfer, isTransfer, owner, active, notExcluded⟩ := activeBefore member both.1
    have sourceNamed : source.snapshot.epc = some epc := by rw [← columns]; exact newNamed
    exact invariant.no_conflict checked.claims (checked.reservable source isSource epc sourceNamed)
      (sub.subset member) (tenant.trans newTenant) named isTransfer owner active notExcluded

/-- The lines a draft was just given have their rows in its origin store. -/
theorem placed_new {tenantId storeId transferId : ℕ} {excludeTransferId : Option ℕ}
    {progress : Normalization} (checked : progress.Checked db tenantId storeId excludeTransferId)
    {line : TransferLine}
    (isNew : line ∈ newTransferLines db tenantId transferId progress.normalized) {epc : String}
    (named : line.epc = some epc) :
    HoldsEpc (db.stock.rows.map progress.session.current) line.tenantId epc storeId := by
  obtain ⟨tenant, _, _, source, isSource, columns, _⟩ := mem_newTransferLines isNew
  obtain ⟨row, member, rowTenant, tag, held⟩ :=
    (checked.reservable source isSource epc (by rw [← columns]; exact named)).held
  obtain ⟨columns, sameTenant⟩ := checked.claims.columns member
  exact ⟨_, List.mem_map_of_mem member,
    sameTenant.trans (rowTenant.trans tenant.symm), by rw [columns, tag], held⟩

/-- A draft that is given checked lines, next to the lines of other transfers, keeps the
invariant. -/
theorem of_draft (invariant : ReservationInvariant db) {tenantId : ℕ} {excludeTransferId : Option ℕ}
    (draft : Transfer) {progress : Normalization} {kept : List TransferLine}
    (checked : progress.Checked db tenantId draft.originStoreId excludeTransferId)
    (excluded : excludeTransferId.all (· = draft.id)) (tenant : draft.tenantId = tenantId)
    (sub : kept.Sublist db.transferLines) (foreign : ∀ line ∈ kept, line.transferId ≠ draft.id)
    (distinct : (after.transfers.map (·.id)).Nodup)
    (source : ∀ other ∈ after.transfers, other = draft ∨ other ∈ db.transfers ∧ other.id ≠ draft.id)
    (lines : after.transferLines = kept ++ newTransferLines db tenantId draft.id
      progress.normalized)
    (stock : after.stock.rows = db.stock.rows.map progress.session.current) :
    ReservationInvariant after := by
  have others : ∀ other ∈ after.transfers, other.id ≠ draft.id → other ∈ db.transfers :=
    fun other isAfter apart =>
    (source other isAfter).elim (fun same => absurd (by rw [same]) apart) (·.1)
  refine ⟨distinct, ?_, ?_, ?_, ?_⟩
  · intro line inLines other isAfter owner
    rw [lines] at inLines
    rcases List.mem_append.mp inLines with old | new
    · have isBefore := others other isAfter (by rw [owner]; exact foreign line old)
      exact invariant.tenant line (sub.subset old) other isBefore owner
    · obtain ⟨lineTenant, ownerId, _⟩ := mem_newTransferLines new
      rcases source other isAfter with rfl | ⟨_, apart⟩
      · rw [lineTenant, tenant]
      · exact absurd (owner.trans ownerId) apart
  · intro line inLines
    rw [lines] at inLines
    rcases List.mem_append.mp inLines with old | new
    · exact invariant.typed line (sub.subset old)
    · obtain ⟨_, _, _, source, isSource, columns, lineType, _⟩ := mem_newTransferLines new
      rw [lineType, columns]
      exact checked.typed source isSource
  · rw [lines]
    exact invariant.exclusive_append checked sub foreign others excluded
  · intro line inLines other isAfter owner isDraft epc named
    rw [lines] at inLines
    rw [stock]
    rcases List.mem_append.mp inLines with old | new
    · have isBefore := others other isAfter (by rw [owner]; exact foreign line old)
      exact checked.claims.holdsEpc
        (invariant.placed line (sub.subset old) other isBefore owner isDraft epc named)
    · obtain ⟨_, ownerId, _⟩ := mem_newTransferLines new
      rcases source other isAfter with rfl | ⟨_, apart⟩
      · exact placed_new checked new named
      · exact absurd (owner.trans ownerId) apart

theorem created (invariant : ReservationInvariant db) {tenantId : ℕ} {progress : Normalization}
    {transfer : Transfer} (step : Created db after tenantId progress transfer) :
    ReservationInvariant after := by
  have transfers : after.transfers = db.transfers ++ [transfer] := by rw [step.tables]
  have freshLine : ∀ line ∈ db.transferLines, line.transferId ≠ transfer.id := fun line member =>
    step.id ▸ (db.transferId_lt_freshTransferId member).ne
  have freshTransfer : ∀ other ∈ db.transfers, other.id ≠ transfer.id := fun other member =>
    step.id ▸ (db.id_lt_freshTransferId member).ne
  refine invariant.of_draft transfer step.checked rfl step.tenant
    (List.Sublist.refl _) freshLine ?_ ?_ (by rw [step.tables])
    step.stock
  · rw [transfers, List.map_append]
    refine List.nodup_append.mpr ⟨invariant.distinct, List.nodup_singleton _,
      fun id old other new => ?_⟩
    obtain ⟨before, isBefore, rfl⟩ := List.mem_map.mp old
    rw [List.mem_singleton.mp new]
    exact freshTransfer before isBefore
  · intro other isAfter
    rw [transfers, List.mem_append, List.mem_singleton] at isAfter
    exact isAfter.symm.imp_right fun isBefore => ⟨isBefore, freshTransfer other isBefore⟩

theorem updated (invariant : ReservationInvariant db)
    {tenantId originStoreId destinationStoreId : ℕ} {transfer : Transfer} {session : StockSession}
    (step : Updated db after tenantId originStoreId destinationStoreId transfer session) :
    ReservationInvariant after := by
  have transfers : after.transfers = update Transfer.id [transfer.id]
      (fun row => { row with originStoreId, destinationStoreId }) db.transfers := by
      rw [step.tables]
  have distinct : (after.transfers.map (·.id)).Nodup := by
    have keys : after.transfers.map (·.id) = db.transfers.map (·.id) := by
      rw [transfers]
      exact map_key_update fun _ => rfl
    rw [keys]
    exact invariant.distinct
  let draft : Transfer := { transfer with originStoreId, destinationStoreId }
  have source : ∀ other ∈ after.transfers, other = draft ∨ other ∈ db.transfers ∧
      other.id ≠ draft.id := by
    intro other isAfter
    rw [transfers] at isAfter
    obtain ⟨before, isBefore, rfl⟩ := mem_update.mp isAfter
    by_cases addressed : before.id ∈ [transfer.id]
    · rw [if_pos addressed, invariant.transfer_eq isBefore step.member
        (List.mem_singleton.mp addressed)]
      exact .inl rfl
    · rw [if_neg addressed]
      exact .inr ⟨isBefore, fun same => addressed (List.mem_singleton.mpr same)⟩
  obtain ⟨transferLines, lines⟩ : ∃ transferLines, after.transferLines = transferLines := ⟨_, rfl⟩
  have updatedLines := step.lines
  rw [lines] at updatedLines
  cases updatedLines with
  | replaced progress checked same =>
    refine invariant.of_draft draft checked (by simp [draft]) step.tenant List.filter_sublist
      (fun line old => by simpa using (List.mem_filter.mp old).2) distinct source lines ?_
    rw [step.stock, same]
  | kept valid =>
    have before : ∀ line ∈ db.transferLines, ∀ other ∈ after.transfers, other.id = line.transferId →
        other.status.isActive = true → ActiveLine db line := by
      intro line inLines other isAfter owner active
      rcases source other isAfter with rfl | ⟨isBefore, _⟩
      · exact ⟨transfer, step.member, owner, active⟩
      · exact ⟨other, isBefore, owner, active⟩
    refine ⟨distinct, ?_, ?_, ?_, ?_⟩
    · intro line inLines other isAfter owner
      rw [lines] at inLines
      rcases source other isAfter with rfl | ⟨isBefore, _⟩
      · exact invariant.tenant line inLines transfer step.member owner
      · exact invariant.tenant line inLines other isBefore owner
    · rw [lines]
      exact invariant.typed
    · rw [lines]
      refine invariant.exclusive.imp_of_mem
        fun left right exclusive tenant epc named otherNamed both => ?_
      obtain ⟨⟨first, isFirst, firstOwner, firstActive⟩, second, isSecond, secondOwner,
        secondActive⟩ := both
      exact exclusive tenant epc named otherNamed
        ⟨before _ left first isFirst firstOwner firstActive,
        before _ right second isSecond secondOwner secondActive⟩
    · intro line inLines other isAfter owner isDraft epc named
      rw [lines] at inLines
      rw [step.stock]
      rcases source other isAfter with rfl | ⟨isBefore, _⟩
      · -- The lines of the updated draft were revalidated for its new origin store.
        have own : line ∈ getLines db transfer.id := mem_getLines.mpr ⟨inLines, owner.symm⟩
        have isEpc : line.lineType = .epc := by
          cases kind : line.lineType with
          | sku => rw [(invariant.typed line inLines).mp kind] at named; contradiction
          | epc => rfl
        obtain ⟨other, sameName, _, ⟨row, accepted⟩, _⟩ := valid line own isEpc
        obtain rfl := Option.some.inj (sameName.symm.trans named)
        obtain ⟨member, tenant, tag⟩ := accepted.row_mem
        have lineTenant : line.tenantId = tenantId :=
          (invariant.tenant line inLines transfer step.member owner).symm.trans step.tenant
        obtain ⟨columns, sameTenant⟩ := step.claims.columns member
        exact ⟨_, List.mem_map_of_mem member,
          sameTenant.trans (tenant.trans lineTenant.symm), by rw [columns, tag],
          accepted.store⟩
      · exact step.claims.holdsEpc
          (invariant.placed line inLines other isBefore owner isDraft epc named)

/-- Every committed request keeps the invariant. -/
theorem step (invariant : ReservationInvariant db) {request : TransferRequest}
    (success : transferStep db request = .ok after) : ReservationInvariant after := by
  cases transferStep_ok success with
  | created tenantId progress transfer step => exact invariant.created step
  | updated tenantId originStoreId destinationStoreId transfer target session step =>
    exact invariant.updated step
  | dispatched transfer target session outputs step =>
    exact invariant.of_action target.member (by rw [step.draft]; rfl) (by rw [step.tables])
      (by rw [step.tables]) ⟨rfl, rfl⟩ (by simp) fun _ _ _ _ _ _ _ _ holds => step.holdsEpc holds
  | received transfer target outputs step =>
    refine invariant.of_action target.member (isActive_of_isEnRoute step.enRoute)
      (by rw [step.tables]) (by rw [step.tables]) ?_ ?_
      fun line inLines draft drafted owner isDraft epc named holds =>
        step.holdsEpc holds
          (invariant.unnamed target.member step.enRoute inLines drafted owner isDraft named)
    · split <;> exact ⟨rfl, rfl⟩
    · split <;> simp
  | reported transfer target movements step =>
    rw [step.tables]
    exact ⟨invariant.distinct, invariant.tenant, invariant.typed, invariant.exclusive,
      invariant.placed⟩
  | @resolved _ _ _ _ _ _ transfer target outputs step =>
    refine invariant.of_action target.member (isActive_of_isEnRoute step.enRoute)
      (by rw [step.tables]) (by rw [step.tables]) ?_ ?_
      fun line inLines draft drafted owner isDraft epc named holds =>
        step.holdsEpc holds
          (invariant.unnamed target.member step.enRoute inLines drafted owner isDraft named)
    · split <;> exact ⟨rfl, rfl⟩
    · have enRoute := step.enRoute
      split
      · simp
      · rintro isDraft
        rw [isDraft] at enRoute
        contradiction
  | canceled transfer target edits step =>
    refine invariant.of_action target.member ?_ (by rw [step.tables]) (by rw [step.tables])
      ⟨rfl, rfl⟩ (by simp) fun _ _ _ _ _ _ _ _ holds => step.holdsEpc holds
    rcases step.status with status | status <;> rw [status] <;> rfl

/-- Under the invariant one line at most reserves an EPC. -/
theorem reserves_once (invariant : ReservationInvariant db) (tenantId : ℕ) (epc : String) :
    db.transferLines.countP (reserves db tenantId epc) ≤ 1 := by
  have active {line : TransferLine} (holds : reserves db tenantId epc line = true) :
      line.tenantId = tenantId ∧ line.epc = some epc ∧ ActiveLine db line := by
    simp only [reserves, Bool.and_eq_true, decide_eq_true_eq, List.any_eq_true,
      Bool.or_eq_true] at holds
    obtain ⟨⟨tenant, named⟩, transfer, member, owner, status⟩ := holds
    refine ⟨tenant, named, transfer, member, owner, ?_⟩
    rcases status with enRoute | ⟨draft, _⟩
    · exact isActive_of_isEnRoute enRoute
    · rw [draft]
      rfl
  refine countP_le_one (invariant.exclusive.imp fun exclusive both => ?_)
  obtain ⟨tenant, named, isActive⟩ := active both.1
  obtain ⟨otherTenant, otherNamed, otherActive⟩ := active both.2
  exact exclusive (tenant.trans otherTenant.symm) epc named otherNamed ⟨isActive, otherActive⟩

end ReservationInvariant

/-- From a state without transfers, every run of transfer requests leaves each EPC reserved by at
most one line among those of the drafts of the store that holds it and of the transfers on their
way. -/
theorem epc_reserved_by_one_line (start db : Db) (noTransfers : start.transfers = [])
    (noLines : start.transferLines = [])
    (reached : Reachable transferStep (fun _ _ => True) start db) (tenantId : ℕ) (epc : String) :
    db.transferLines.countP (reserves db tenantId epc) ≤ 1 := by
  have invariant := reached.invariant (ReservationInvariant.initial noTransfers noLines)
    fun _ _ _ invariant _ success => invariant.step success
  exact invariant.reserves_once tenantId epc

/-! ## A sample store network -/

namespace Sample

/-- An administrator of tenant 1 with every permission. -/
def context : RequestContext :=
  { tokenData := { tenantId := some 1, storeId := none, role := some "ADMIN" },
    permits := fun _ => true, now := 100 }

def stores : List Store := [⟨10, 1⟩, ⟨20, 1⟩]

/-- The columns of an untagged jacket at the warehouse of its store. -/
def jacket : StockSnapshot :=
  { sku := some "JACKET", locationCode := some "WH-MAIN", pool := some "BODEGA",
    status := some "PENDING" }

def taggedJacket : StockSnapshot := { jacket with epc := some "E1", status := some "RFID" }

/-- Two untagged jackets and a tagged one in store 10. -/
def db : Db :=
  { stores
    stock := ⟨[{ jacket with id := 1, itemUid := 1, tenantId := 1, storeId := some 10 },
      { jacket with id := 2, itemUid := 2, tenantId := 1, storeId := some 10 },
      { taggedJacket with id := 3, itemUid := 3, tenantId := 1,
                          storeId := some 10 }], by decide +kernel, by decide +kernel,
      by decide +kernel⟩ }

def create (lines : List TransferLineCreate) : TransferRequest :=
  .create context { transactionId := some "create", originStoreId := 10, destinationStoreId := 20,
                    lines }

def act (transferId : ℕ) (action : TransferAction) : TransferRequest :=
  .action context transferId { transactionId := some "act", action }

/-- A tagged jacket travels from store 10 to store 20. -/
def tripOfTaggedJacket : List TransferRequest :=
  [create [{ lineType := .epc, snapshot := taggedJacket }], act 1 .dispatch,
    act 1 (.receive [{ lineId := 1 }])]

private theorem tripOfTaggedJacket_commits :
    (runAllowed transferStep (fun _ _ => True) db tripOfTaggedJacket).isSome = true := by
  decide +kernel

/-- The state after the trip. -/
def arrived : Db :=
  (runAllowed transferStep (fun _ _ => True) db tripOfTaggedJacket).get tripOfTaggedJacket_commits

/-- And on its way back. -/
def tripAndBack : List TransferRequest := tripOfTaggedJacket ++
  [.create context { transactionId := some "create", originStoreId := 20, destinationStoreId := 10
                     lines := [{ lineType := .epc, snapshot := taggedJacket }] }, act 2 .dispatch]

private theorem tripAndBack_commits :
    (runAllowed transferStep (fun _ _ => True) db tripAndBack).isSome = true := by decide +kernel

def onItsWayBack : Db :=
  (runAllowed transferStep (fun _ _ => True) db tripAndBack).get tripAndBack_commits

end Sample

/-- After the trip of the tagged jacket, on its way back, two lines name it and one reserves it. -/
theorem epc_reserved_by_one_line_after_trip :
    Sample.onItsWayBack.transferLines.countP (·.epc = some "E1") = 2 ∧
      0 < Sample.onItsWayBack.transferLines.countP (reserves Sample.onItsWayBack 1 "E1") ∧
        Sample.onItsWayBack.transferLines.countP (reserves Sample.onItsWayBack 1 "E1") ≤ 1 :=
  ⟨by decide +kernel, by decide +kernel,
    epc_reserved_by_one_line Sample.db Sample.onItsWayBack rfl rfl
    (reachable_of_runAllowed (Option.some_get _).symm) 1 "E1"⟩

end ArisCloud

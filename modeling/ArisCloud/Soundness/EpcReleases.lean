import ArisCloud.Soundness.TransferStatus

/-! # When an EPC can travel again

A tagged unit is received line by line, but its EPC stays reserved as long as its transfer is
active: until no line of the transfer is outstanding. So a store that holds an unsold unit, and
names it in no draft of its own, can draft a transfer of it exactly when every transfer it was
dispatched with and that was not canceled is settled on all lines.
-/

namespace ArisCloud

open Requests

/-- A transfer of the tenant has a line for the EPC. -/
def Transfer.Carries (db : Db) (transfer : Transfer) (tenantId : ℕ) (epc : String) : Prop :=
  transfer.tenantId = tenantId ∧ ∃ line ∈ getLines db transfer.id, line.epc = some epc

instance (db : Db) (transfer : Transfer) (tenantId : ℕ) (epc : String) :
    Decidable (transfer.Carries db tenantId epc) :=
  inferInstanceAs (Decidable (_ ∧ _))

/-- A well-formed line of a request that asks for one tagged unit. -/
structure TransferLineCreate.AsksFor (line : TransferLineCreate) (epc : String) : Prop where
  lineType : line.lineType = .epc
  qty : line.qty = 1
  named : line.snapshot.epc = some epc
  nonempty : epc ≠ ""
  placed : isTruthy line.snapshot.locationCode ∧ isTruthy line.snapshot.pool

theorem TransferLineCreate.AsksFor.valid {line : TransferLineCreate} {epc : String}
    (asks : line.AsksFor epc) :
    ∃ positive, validateTransferSnapshot line = .ok positive := by
  obtain ⟨lineType, qty, named, nonempty, placed⟩ := asks
  have truthy : isTruthy line.snapshot.epc = true := by simp [isTruthy, named, nonempty]
  have isEpc : line.lineType ≠ .sku := by simp [lineType]
  have positive : 1 ≤ line.qty := qty.ge
  refine ⟨⟨positive⟩, Checked.require_eq_ok.mpr ⟨positive, ?_⟩⟩
  refine Checked.bind_eq_ok.mpr ⟨(), Checked.ensure_eq_ok.mpr fun _ => qty, ?_⟩
  refine Checked.bind_eq_ok.mpr ⟨(), Checked.ensure_eq_ok.mpr fun _ => truthy, ?_⟩
  refine Checked.bind_eq_ok.mpr ⟨(), Checked.ensure_eq_ok.mpr fun isSku => absurd isSku isEpc, ?_⟩
  refine Checked.bind_eq_ok.mpr ⟨(), Checked.ensure_eq_ok.mpr fun isSku => absurd isSku isEpc, ?_⟩
  refine Checked.bind_eq_ok.mpr ⟨(), Checked.ensure_eq_ok.mpr fun isSku => absurd isSku isEpc, ?_⟩
  exact Checked.bind_eq_ok.mpr ⟨(), Checked.ensure_eq_ok.mpr placed, rfl⟩

section Acceptance

variable {db : Db} {tenantId storeId : ℕ} {epc : String} {row : StockItem}

/-- The check of a unit that a store holds passes and leaves the session as it was. -/
theorem validateTransferableEpcStock_of_held {session : StockSession} (claims :
      session.Claims db.stock storeId)
    (member : row ∈ db.stock.rows) (carries : epcFilters tenantId epc row = true) (held :
      row.storeId = some storeId)
    (unsold : row.status ≠ some "SOLD") :
    validateTransferableEpcStock session tenantId storeId epc none none = .ok (session, row) := by
  have unclaimed : session.current row = row := by
    rcases claims.current member with same | ⟨⟨unheld, _⟩, _⟩
    · exact same
    · rw [held] at unheld
      contradiction
  have found : session.first (epcFilters tenantId epc) = some row :=
    StockSession.first_eq_some.mpr
      ⟨row, by rw [claims.flushed]; exact find?_epcFilters member carries, unclaimed⟩
  have isHeld : row.storeId ≠ none := held ▸ Option.some_ne_none storeId
  simp only [validateTransferableEpcStock, Checked.bind_eq_ok, Checked.fetch_eq_ok,
    Checked.ensure_eq_ok, exists_const, Checked.pure_eq_ok]
  exact ⟨row, found, by rw [if_neg isHeld]; exact held, by rw [if_neg isHeld]; exact unsold,
    by rintro ⟨⟩, by rintro ⟨⟩,
    by simp only [if_neg isHeld]⟩

/-- A line for a unit that the store holds is accepted when no active transfer reserves its EPC. -/
theorem normalizeTransferLine_isOk_iff {session : StockSession} {line : TransferLineCreate}
    (claims : session.Claims db.stock storeId) (member : row ∈ db.stock.rows)
    (carries : epcFilters tenantId epc row = true) (held : row.storeId = some storeId)
    (unsold : row.status ≠ some "SOLD") (asks : line.AsksFor epc) :
    (∃ result, normalizeTransferLine db session tenantId storeId line none = .ok result) ↔
      getTransferConflictForEpc db tenantId epc (some storeId) none = none := by
  rw [← held]
  obtain ⟨positive, valid⟩ := asks.valid
  have checked := validateTransferableEpcStock_of_held claims member carries held unsold
  simp only [normalizeTransferLine, asks.lineType, asks.named, Option.getD_some, valid, checked,
    Checked.bind_eq_ok, Checked.pure_eq_ok, assertNoTransferConflict, Checked.ensure_eq_ok,
    exists_const, Except.ok.injEq]
  constructor
  · rintro ⟨_, _, _, _, rfl, free, _⟩
    exact free
  · intro free
    exact ⟨_, positive, rfl, _, rfl, free, rfl⟩

end Acceptance

/-- Every line of every transfer that an EPC was dispatched with, and that was not canceled, is
settled. -/
def JourneysSettled (db : Db) (tenantId : ℕ) (epc : String) : Prop :=
  ∀ transfer ∈ db.transfers, transfer.Carries db tenantId epc → transfer.status.isShipped = true →
    ∀ line ∈ getLines db transfer.id, outstandingQty db transfer.id line.id ≤ 0

/-- When no draft of the store names an EPC, an active transfer reserves it as long as a journey of
it is not settled. -/
theorem no_conflict_iff_journeysSettled {db : Db} {tenantId storeId : ℕ} {epc : String}
    (status : StatusInvariant db) (reservations : ReservationInvariant db)
    (undrafted : ∀ transfer ∈ db.transfers, transfer.Carries db tenantId epc →
      transfer.status = .draft → transfer.originStoreId ≠ storeId) :
    getTransferConflictForEpc db tenantId epc (some storeId) none = none ↔
        JourneysSettled db tenantId epc := by
  rw [getTransferConflictForEpc_eq_none]
  constructor
  · rintro free transfer member ⟨tenant, line, inLines, named⟩ shipped
    apply ((status.agrees transfer member).settled shipped).mp
    by_contra unsettled
    obtain ⟨isLine, owner⟩ := mem_getLines.mp inLines
    have active : transfer.status.isActive = true := by cases same : transfer.status <;>
      rw [same] at shipped unsettled <;> trivial
    have lineTenant : line.tenantId = tenantId :=
      (reservations.tenant line isLine transfer member owner.symm).symm.trans tenant
    have draft :=
      (free line isLine lineTenant named transfer member owner.symm tenant active nofun).1
    rw [draft] at shipped
    contradiction
  · intro settled line isLine _ named transfer member owner tenant active _
    have carries : transfer.Carries db tenantId epc :=
      ⟨tenant, line, mem_getLines.mpr ⟨isLine, owner.symm⟩, named⟩
    by_cases draft : transfer.status = .draft
    · exact ⟨draft, undrafted transfer member carries draft⟩
    · have shipped : transfer.status.isShipped = true := by cases same : transfer.status <;>
        rw [same] at active draft <;> trivial
      have received := ((status.agrees transfer member).settled shipped).mpr
        (settled transfer member carries shipped)
      rw [received] at active
      contradiction

/-- In every state a run of transfer requests reaches, a line for an unsold unit that its store
holds and drafts nowhere is accepted exactly when every line of the transfers it was dispatched
with, canceled ones apart, is settled. -/
theorem epc_accepted_iff_journeys_settled (start db : Db) (noTransfers : start.transfers = [])
    (noLines : start.transferLines = []) (noMovements : start.transferMovements = [])
    (reached : Reachable transferStep (fun _ _ => True) start db) (tenantId storeId : ℕ)
    (epc : String) (row : StockItem) (member : row ∈ db.stock.rows)
    (carries : epcFilters tenantId epc row = true) (held : row.storeId = some storeId)
    (unsold : row.status ≠ some "SOLD")
    (undrafted : ∀ transfer ∈ db.transfers, transfer.Carries db tenantId epc →
      transfer.status = .draft → transfer.originStoreId ≠ storeId)
      (earlier : List TransferLineCreate)
    (progress : Normalization)
      (before : normalizeTransferLines db tenantId storeId earlier none = .ok progress)
    (line : TransferLineCreate) (asks : line.AsksFor epc) :
    (∃ result, normalizeTransferLine db progress.session tenantId storeId line none = .ok result) ↔
      JourneysSettled db tenantId epc := by
  have status : StatusInvariant db := reached.invariant (.initial noTransfers noMovements)
    fun _ _ _ invariant _ success => invariant.step success
  have reservations : ReservationInvariant db := reached.invariant (.initial noTransfers noLines)
    fun _ _ _ invariant _ success => invariant.step success
  rw [normalizeTransferLine_isOk_iff (normalizeTransferLines_ok before).claims member carries held
    unsold asks]
  exact no_conflict_iff_journeysSettled status reservations undrafted

namespace Sample

/-- The tagged jacket at the place where it arrived. -/
def arrivedJacket : StockItem :=
  { taggedJacket with
    id := 3, itemUid := 3, tenantId := 1, storeId := some 20, locationCode := some "STORE-20",
      pool := some "SALE"
    locationIsVendible := true }

def returnLine : TransferLineCreate := { lineType := .epc, snapshot := taggedJacket }

private theorem returnLine_asksFor : returnLine.AsksFor "E1" :=
  ⟨rfl, rfl, rfl, by decide, by decide, by decide⟩

end Sample

/-- The tagged jacket can go back after its trip. -/
theorem epc_accepted_iff_journeys_settled_after_trip :
    (∃ result, normalizeTransferLine Sample.arrived { flushed := Sample.arrived.stock } 1 20
      Sample.returnLine none =
      .ok result) ↔ JourneysSettled Sample.arrived 1 "E1" :=
  epc_accepted_iff_journeys_settled Sample.db Sample.arrived rfl rfl rfl (reachable_of_runAllowed
    (Option.some_get _).symm) 1 20 "E1" Sample.arrivedJacket (by decide +kernel)
    (by decide +kernel) rfl (by decide) (by decide +kernel) [] _ rfl
    Sample.returnLine Sample.returnLine_asksFor

namespace Sample

/-- The tagged jacket arrives, the untagged one of the same transfer does not yet. -/
def mixedTrip : List TransferRequest :=
  [create [{ lineType := .epc, snapshot := taggedJacket },
      { lineType := .sku, snapshot := jacket }], act 1 .dispatch,
    act 1 (.receive [{ lineId := 1 }])]

private theorem mixedTrip_commits :
    (runAllowed transferStep (fun _ _ => True) db mixedTrip).isSome = true := by decide +kernel

def tagArrived : Db :=
  (runAllowed transferStep (fun _ _ => True) db mixedTrip).get mixedTrip_commits

end Sample

/-- A unit that was received stays reserved while another line of its transfer is outstanding. -/
theorem received_unit_stays_reserved :
    ¬ ∀ start db : Db, start.transfers = [] → start.transferLines = [] →
    start.transferMovements = [] →
      Reachable transferStep (fun _ _ => True) start db → ∀ (tenantId storeId : ℕ) (epc : String),
      ∀ row ∈ db.stock.rows,
        epcFilters tenantId epc row = true → row.storeId = some storeId → row.inTransit = false →
        row.status ≠ some "SOLD" →
        (∀ transfer ∈ db.transfers, transfer.Carries db tenantId epc → transfer.status = .draft →
          transfer.originStoreId ≠ storeId) →
        (∀ transfer ∈ db.transfers, transfer.tenantId = tenantId → ∀ line ∈ getLines db transfer.id,
            line.epc = some epc →
          outstandingQty db transfer.id line.id = 0) →
        ∀ line : TransferLineCreate, line.AsksFor epc →
          ∃ result, normalizeTransferLine db { flushed := db.stock } tenantId storeId line none =
          .ok result := by
  intro accepted
  have reached : Reachable transferStep (fun _ _ => True) Sample.db Sample.tagArrived :=
    reachable_of_runAllowed (Option.some_get _).symm
  have isRow : Sample.arrivedJacket ∈ Sample.tagArrived.stock.rows := by decide +kernel
  have normalized :=
    accepted Sample.db Sample.tagArrived rfl rfl rfl reached 1 20 "E1" Sample.arrivedJacket isRow
    (by decide +kernel) rfl (by decide +kernel) (by decide) (by decide +kernel)
    (by decide +kernel) Sample.returnLine Sample.returnLine_asksFor
  have free :=
    (normalizeTransferLine_isOk_iff (.initial _ 20) isRow (by decide +kernel) rfl (by decide)
    Sample.returnLine_asksFor).mp normalized
  have reserved : getTransferConflictForEpc Sample.tagArrived 1 "E1" (some 20) none ≠ none := by
    decide +kernel
  exact reserved free

end ArisCloud

import ArisCloud.Soundness.EpcReservations

/-! # Who may change a transfer

A caller without a broad role acts for the store of the token: the origin of a transfer updates,
dispatches and cancels it, its destination receives it and settles its shortages. An update checks
the origin that it sets instead of the one it replaces, and a cancel checks no store at all. All
other requests keep to the rule.
-/

namespace ArisCloud

open Requests

def TransferRequest.context : TransferRequest → RequestContext
  | .create context _ | .update context _ _ | .action context _ _ => context

/-- The transfer that a request addresses, as the request finds it. -/
def addressedTransfer (db : Db) : TransferRequest → Option Transfer
  | .create _ _ => none
  | .update context transferId _ | .action context transferId _ =>
    db.transfers.find? fun transfer =>
      transfer.id = transferId && context.tokenData.tenantId = some transfer.tenantId

/-- The store whose users a request on a transfer belongs to. -/
def TransferRequest.responsibleStoreId (request : TransferRequest) (transfer : Transfer) : ℕ :=
  match request with
  | .action _ _ ⟨_, _, .receive _⟩ | .action _ _ ⟨_, _, .reportShortages _⟩
  | .action _ _ ⟨_, _, .resolveShortages _ _⟩ => transfer.destinationStoreId
  | .create _ _ | .update _ _ _ | .action _ _ ⟨_, _, .dispatch⟩ | .action _ _ ⟨_, _, .cancel⟩ =>
    transfer.originStoreId

/-- The store of the caller is responsible for the addressed transfer. -/
def StoreAuthorized (db : Db) (request : TransferRequest) : Prop :=
  ∀ transfer, addressedTransfer db request = some transfer →
    request.context.tokenData.storeId = some (request.responsibleStoreId transfer)

instance (db : Db) (request : TransferRequest) : Decidable (StoreAuthorized db request) :=
  decidable_of_iff ((addressedTransfer db request).all fun transfer =>
    request.context.tokenData.storeId = some (request.responsibleStoreId transfer)) (by
      simp only [StoreAuthorized]
      cases addressedTransfer db request <;> simp)

/-- Updates leave the origin store as it is, and cancels come from the origin store. -/
def OriginKept (db : Db) (request : TransferRequest) : Prop :=
  match request with
  | .update _ _ payload => ∀ transfer, addressedTransfer db request = some transfer →
      payload.originStoreId.all (· = transfer.originStoreId)
  | .action context _ ⟨_, _, .cancel⟩ => ∀ transfer, addressedTransfer db request = some transfer →
      context.tokenData.storeId = some transfer.originStoreId
  | .create _ _ | .action _ _ _ => True

/-- The transfer that a committed request works on is the one it addresses. -/
theorem addressedTransfer_eq {db : Db} {tokenData : TokenData} {payloadTenantId : Option ℕ}
    {tenantId transferId : ℕ} {transfer : Transfer}
    (resolved : resolveTenantId tokenData payloadTenantId = .ok tenantId)
    (found : findTransfer db tenantId transferId = .ok transfer) :
    (db.transfers.find? fun transfer => transfer.id = transferId && tokenData.tenantId =
      some transfer.tenantId) =
      some transfer := by
  obtain ⟨token, _⟩ := resolveTenantId_eq_ok.mp resolved
  rw [findTransfer, Checked.fetch_eq_ok] at found
  rw [← found]
  congr 1
  funext row
  simp [token, eq_comm]

private theorem enforceOriginStoreScope_ok {tokenData : TokenData} {originStoreId : ℕ}
    {checked : Unit} (narrow : hasBroadTransferScope tokenData = false)
    (success : enforceOriginStoreScope tokenData originStoreId = .ok checked) :
    tokenData.storeId = some originStoreId := by
  rw [enforceOriginStoreScope, Checked.ensure_eq_ok, narrow] at success
  exact success.resolve_left Bool.false_ne_true

private theorem enforceDestinationStoreScope_ok {tokenData : TokenData} {destinationStoreId : ℕ}
    {checked : Unit} (narrow : hasBroadTransferScope tokenData = false)
    (success : enforceDestinationStoreScope tokenData destinationStoreId = .ok checked) :
    tokenData.storeId = some destinationStoreId := by
  rw [enforceDestinationStoreScope, Checked.ensure_eq_ok, narrow] at success
  exact success.resolve_left Bool.false_ne_true

/-- A committed update checked the origin that it leaves the transfer with. -/
theorem updateTransfer_scope {db after : Db} {context : RequestContext} {transferId : ℕ}
    {payload : TransferUpdateRequest} (narrow : hasBroadTransferScope context.tokenData = false)
    (success : updateTransfer db context transferId payload = .ok after) :
    ∃ transfer, addressedTransfer db (.update context transferId payload) = some transfer ∧
      context.tokenData.storeId = some (payload.originStoreId.getD transfer.originStoreId) := by
  simp only [updateTransfer, Checked.bind_eq_ok] at success
  obtain ⟨_, _, _, _, tenantId, resolved, transfer, found, _, _, _, _, _, _, _, _, _, scope, _⟩ :=
    success
  exact ⟨transfer, addressedTransfer_eq resolved found, enforceOriginStoreScope_ok narrow scope⟩

/-- A committed action other than a cancel checked the store responsible for the transfer. -/
theorem transferActions_scope {db after : Db} {context : RequestContext} {transferId : ℕ}
    {payload : TransferActionRequest} (narrow : hasBroadTransferScope context.tokenData = false)
    (success : transferActions db context transferId payload = .ok after) :
    ∃ transfer, addressedTransfer db (.action context transferId payload) = some transfer ∧
      (payload.action ≠ .cancel → context.tokenData.storeId =
        some (TransferRequest.responsibleStoreId
          (.action context transferId payload) transfer)) := by
  obtain ⟨transactionId, payloadTenantId, action⟩ := payload
  simp only [transferActions, Checked.bind_eq_ok] at success
  obtain ⟨_, _, _, _, tenantId, resolved, transfer, found, rest⟩ := success
  refine ⟨transfer, addressedTransfer_eq resolved found, fun apart => ?_⟩
  cases action with
  | dispatch =>
    simp only [dispatchTransfer, Checked.bind_eq_ok] at rest
    obtain ⟨_, _, _, scope, _⟩ := rest
    exact enforceOriginStoreScope_ok narrow scope
  | receive receiveLines =>
    simp only [receiveTransfer, Checked.bind_eq_ok] at rest
    obtain ⟨_, _, _, scope, _⟩ := rest
    exact enforceDestinationStoreScope_ok narrow scope
  | reportShortages shortages =>
    simp only [reportShortages, Checked.bind_eq_ok] at rest
    obtain ⟨_, _, _, scope, _⟩ := rest
    exact enforceDestinationStoreScope_ok narrow scope
  | resolveShortages resolution lines =>
    simp only [resolveShortages, Checked.bind_eq_ok] at rest
    obtain ⟨_, _, _, scope, _⟩ := rest
    exact enforceDestinationStoreScope_ok narrow scope
  | cancel => contradiction

/-- A committed request of a caller without a broad role comes from the responsible store exactly
when it keeps the origin. -/
theorem storeAuthorized_iff_originKept {db after : Db} {request : TransferRequest}
    (narrow : hasBroadTransferScope request.context.tokenData = false)
    (success : transferStep db request = .ok after) :
    StoreAuthorized db request ↔ OriginKept db request := by
  cases request with
  | create context payload => simp [StoreAuthorized, OriginKept, addressedTransfer]
  | update context transferId payload =>
    change hasBroadTransferScope context.tokenData = false at narrow
    obtain ⟨transfer, addressed, checked⟩ := updateTransfer_scope narrow success
    constructor
    · intro authorized other same
      obtain rfl := Option.some.inj (addressed.symm.trans same)
      have replaced := Option.some.inj (checked.symm.trans (authorized transfer same))
      cases named : payload.originStoreId with
      | none => rfl
      | some originStoreId =>
        rw [named] at replaced
        exact decide_eq_true replaced
    · intro kept other same
      obtain rfl := Option.some.inj (addressed.symm.trans same)
      have kept := kept transfer same
      refine checked.trans (congrArg some ?_)
      cases named : payload.originStoreId with
      | none => rfl
      | some originStoreId =>
        rw [named] at kept
        exact of_decide_eq_true kept
  | action context transferId payload =>
    change hasBroadTransferScope context.tokenData = false at narrow
    obtain ⟨transfer, addressed, checked⟩ := transferActions_scope narrow success
    obtain ⟨transactionId, payloadTenantId, action⟩ := payload
    by_cases cancels : action = .cancel
    · subst cancels
      rfl
    · have authorized :
          StoreAuthorized db
          (.action context transferId ⟨transactionId, payloadTenantId, action⟩) := by
        intro other same
        rw [← Option.some.inj (addressed.symm.trans same)]
        exact checked cancels
      refine iff_of_true authorized ?_
      cases action <;> trivial

/-- In every run, a committed request of a caller without a broad role comes from the store
responsible for the transfer exactly when it is no update that changes the origin store and no
cancel from elsewhere. -/
theorem transfer_requests_authorized (start db : Db) (history : List (Db × TransferRequest))
    (run : Run transferStep start history db) :
    ∀ entry ∈ history, hasBroadTransferScope entry.2.context.tokenData = false →
      (StoreAuthorized entry.1 entry.2 ↔ OriginKept entry.1 entry.2) := by
  intro entry member narrow
  obtain ⟨next, committed⟩ := run.committed member
  exact storeAuthorized_iff_originKept narrow committed

namespace Sample

/-- A clerk of a store, with every permission. -/
def clerkOf (storeId : ℕ) : RequestContext :=
  { context with tokenData := { tenantId := some 1, storeId := some storeId,
                                role := some "MANAGER" } }

def createByOrigin : TransferRequest := .create (clerkOf 10)
  { transactionId := some "create", originStoreId := 10, destinationStoreId := 20
    lines := [{ lineType := .sku, snapshot := jacket }] }

def cancelBy (storeId : ℕ) : TransferRequest :=
  .action (clerkOf storeId) 1 { transactionId := some "cancel", action := .cancel }

/-- The origin store 10 creates a draft, and a store cancels it. -/
def canceledBy (storeId : ℕ) : List TransferRequest := [createByOrigin, cancelBy storeId]

private theorem canceledBy_commits :
    ∀ storeId ∈ [10, 20], (recordRun transferStep db (canceledBy storeId)).isSome = true := by
  decide +kernel

def canceledByOrigin :=
  (recordRun transferStep db (canceledBy 10)).get (canceledBy_commits 10 (by decide))

def canceledByOther :=
  (recordRun transferStep db (canceledBy 20)).get (canceledBy_commits 20 (by decide))

private theorem canceledByOrigin_recorded : canceledByOrigin.1 ≠ [] := by decide +kernel

/-- The state in which the origin cancels, and its request. -/
def cancellation : Db × TransferRequest := canceledByOrigin.1.getLast canceledByOrigin_recorded

end Sample

/-- The rule holds of the cancel by the origin store. -/
theorem transfer_requests_authorized_by_origin :
    StoreAuthorized Sample.cancellation.1 Sample.cancellation.2 ↔
      OriginKept Sample.cancellation.1 Sample.cancellation.2 :=
  transfer_requests_authorized Sample.db Sample.canceledByOrigin.2 Sample.canceledByOrigin.1
    (run_of_recordRun (Option.some_get _).symm) Sample.cancellation (List.getLast_mem _)
    (by decide +kernel)

/-- A store that is neither origin nor broad cancels the draft of another. -/
theorem foreign_store_cancels_transfer :
    ¬ ∀ (start db : Db) (history : List (Db × TransferRequest)), Run transferStep start history db →
      ∀ entry ∈ history, hasBroadTransferScope entry.2.context.tokenData = false →
      StoreAuthorized entry.1 entry.2 := by
  intro authorized
  have narrow : ∀ entry ∈ Sample.canceledByOther.1,
      hasBroadTransferScope entry.2.context.tokenData = false := by
    decide +kernel
  have rejected : ¬ ∀ entry ∈ Sample.canceledByOther.1, StoreAuthorized entry.1 entry.2 := by
    decide +kernel
  exact rejected fun entry member =>
    authorized Sample.db Sample.canceledByOther.2 Sample.canceledByOther.1
    (run_of_recordRun (Option.some_get _).symm) entry member (narrow entry member)

end ArisCloud

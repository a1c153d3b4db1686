import ArisCloud.Library.Deletions

/-! # Purging a tenant

`services/tenant_purge.py` deletes the rows of a tenant table by table, in the fixed order
`TENANT_PURGE_ORDER`. A row holds here its own id and its references to rows of other tables; what
references what is the foreign keys of `db/models.py`. A statement that would leave a dangling
foreign key fails, and the purge is then rolled back.
-/

namespace ArisCloud.Purge

open Deletions

/-- The tables that belong to a tenant or take part in foreign keys; audit events and purge locks
are kept apart. -/
inductive TableName where
  | tenants | stores | users | variantFieldSettings | returnPolicySettings | stockItems
  | epcAssignments | skuImages
  | preloadSessions | preloadLines | stockAiExtractions | stockAiExtractionFiles | catalogProducts
  | catalogProductCostHistory | transfers | transferLines | transferMovements | permissionCatalog
  | roleTemplates
  | roleTemplatePermissions | tenantRolePolicies | storeRolePolicies | userPermissionOverrides
  | idempotencyRecords
  | tenantPurgeLocks | exportRecords | posSales | posSaleLines | posReturnEvents | posPayments
  | posAdvances
  | posAdvanceEvents | posCashSessions | posCashMovements | posCashDayCloses | posCashCuts
  | drawerEvents
  deriving DecidableEq, Repr

/-- The columns that hold the id of a row of another table. -/
inductive Column where
  | tenantId | storeId | userId | createdByUserId | updatedByUserId | dispatchedByUserId
  | canceledByUserId
  | catalogProductId | saleLineId | preloadSessionId | savedStockItemId | extractionId
  | sourceExtractionId
  | sourcePreloadSessionId | sourcePreloadLineId | originStoreId | destinationStoreId | transferId
  | transferLineId
  | roleTemplateId | permissionId | issuedCashMovementId | consumedSaleId | refundedCashMovementId
  | advanceId | saleId
  deriving DecidableEq, Repr

/-- A row: its primary key, and its columns that hold other ids. -/
structure TableRow where
  id : ℕ
  column : Column → Option ℕ

/-- `ForeignKey` columns of a table and the tables they lead to. -/
def foreignKeys : TableName → List (Column × TableName)
  | .stores | .variantFieldSettings | .returnPolicySettings | .skuImages | .catalogProducts
  | .roleTemplates
  | .tenantRolePolicies | .tenantPurgeLocks => [(.tenantId, .tenants)]
  | .users => [(.tenantId, .tenants), (.storeId, .stores)]
  | .stockItems =>
    [(.tenantId, .tenants), (.storeId, .stores), (.catalogProductId, .catalogProducts)]
  | .epcAssignments => [(.tenantId, .tenants), (.storeId, .stores), (.saleLineId, .posSaleLines)]
  | .preloadSessions => [(.tenantId, .tenants), (.storeId, .stores), (.createdByUserId, .users)]
  | .preloadLines =>
    [(.preloadSessionId, .preloadSessions), (.tenantId, .tenants), (.storeId, .stores),
      (.catalogProductId, .catalogProducts), (.savedStockItemId, .stockItems)]
  | .stockAiExtractions => [(.tenantId, .tenants), (.storeId, .stores), (.createdByUserId, .users),
      (.preloadSessionId, .preloadSessions)]
  | .stockAiExtractionFiles => [(.extractionId, .stockAiExtractions)]
  | .catalogProductCostHistory => [(.tenantId, .tenants), (.catalogProductId, .catalogProducts),
      (.sourceExtractionId, .stockAiExtractions), (.sourcePreloadSessionId, .preloadSessions),
      (.sourcePreloadLineId, .preloadLines), (.createdByUserId, .users)]
  | .transfers => [(.tenantId, .tenants), (.originStoreId, .stores), (.destinationStoreId, .stores),
      (.createdByUserId, .users), (.updatedByUserId, .users), (.dispatchedByUserId, .users),
      (.canceledByUserId, .users)]
  | .transferLines => [(.transferId, .transfers), (.tenantId, .tenants)]
  | .transferMovements =>
    [(.tenantId, .tenants), (.transferId, .transfers), (.transferLineId, .transferLines)]
  | .roleTemplatePermissions =>
    [(.roleTemplateId, .roleTemplates), (.permissionId, .permissionCatalog)]
  | .storeRolePolicies => [(.tenantId, .tenants), (.storeId, .stores)]
  | .userPermissionOverrides => [(.tenantId, .tenants), (.userId, .users)]
  | .posAdvances => [(.issuedCashMovementId, .posCashMovements), (.consumedSaleId, .posSales),
      (.refundedCashMovementId, .posCashMovements), (.createdByUserId, .users)]
  | .posAdvanceEvents => [(.advanceId, .posAdvances), (.createdByUserId, .users)]
  | .tenants | .permissionCatalog | .idempotencyRecords | .exportRecords | .posSales | .posSaleLines
  | .posReturnEvents
  | .posPayments | .posCashSessions | .posCashMovements | .posCashDayCloses | .posCashCuts
  | .drawerEvents => []

def tableNames : List TableName :=
  [.tenants, .stores, .users, .variantFieldSettings, .returnPolicySettings, .stockItems,
    .epcAssignments, .skuImages, .preloadSessions, .preloadLines, .stockAiExtractions,
    .stockAiExtractionFiles, .catalogProducts, .catalogProductCostHistory, .transfers,
    .transferLines, .transferMovements, .permissionCatalog, .roleTemplates,
    .roleTemplatePermissions, .tenantRolePolicies, .storeRolePolicies, .userPermissionOverrides,
    .idempotencyRecords, .tenantPurgeLocks, .exportRecords, .posSales, .posSaleLines,
    .posReturnEvents, .posPayments, .posAdvances,
    .posAdvanceEvents, .posCashSessions, .posCashMovements, .posCashDayCloses, .posCashCuts,
    .drawerEvents]

/-- The foreign keys as references between rows. -/
def schema : Schema TableName TableRow where
  tables := tableNames
  complete table := by cases table <;> decide
  key := TableRow.id
  references table row := (foreignKeys table).filterMap fun link => (row.column link.1).map
    fun id => (link.2, id)

theorem mem_references {table target : TableName} {row : TableRow} {id : ℕ} :
    (target, id) ∈ schema.references table row ↔ ∃ column, (column, target) ∈ foreignKeys table ∧
    row.column column = some id := by
  simp only [schema, List.mem_filterMap, Option.map_eq_some_iff, Prod.mk.injEq]
  constructor
  · rintro ⟨⟨column, _⟩, link, _, filled, rfl, rfl⟩
    exact ⟨column, link, filled⟩
  · rintro ⟨column, link, filled⟩
    exact ⟨(column, target), link, id, filled, rfl, rfl⟩

/-- Counts of rows under the names of the purge order. -/
abbrev Counts := List (String × ℕ)

/-- The part of an `AuditEvent` that a purge reads and writes. -/
structure PurgeEvent where
  tenantId : ℕ
  action : String
  dryRun : Bool
  preserveAuditEvents : Bool
  counts : Counts
  result : String
  deriving DecidableEq, Repr

/-- A `PurgeLock`, unique by its resource. -/
structure PurgeLock where
  resourceType : String
  resourceId : ℕ
  deriving DecidableEq, Repr

/-- The lock of a purge of the tenant. -/
def tenantLock (tenantId : ℕ) : PurgeLock := ⟨"tenant", tenantId⟩

/-- The database of a purge. -/
structure Database where
  tables : Tables TableName TableRow
  auditEvents : List PurgeEvent
  purgeLocks : List PurgeLock

/-- The failures of a purge. -/
inductive PurgeError where
  | tenantNotFound | alreadyInProgress | integrityError
  deriving DecidableEq, Repr

/-- `PurgeResult`. -/
structure PurgeResult where
  dryRun : Bool
  status : String
  wouldDeleteCounts : Counts
  deletedCounts : Option Counts
  deriving DecidableEq, Repr

/-- `TENANT_PURGE_ORDER` before its last entry, the tenant itself. -/
def tenantPurgeOrder : List (String × TableName) :=
  [("transfer_movements", .transferMovements), ("transfer_lines", .transferLines),
    ("transfers", .transfers), ("sale_lines", .posSaleLines), ("payments", .posPayments),
    ("returns", .posReturnEvents), ("sales", .posSales),
    ("cash_movements", .posCashMovements), ("cash_sessions", .posCashSessions),
    ("cash_day_closes", .posCashDayCloses), ("exports", .exportRecords),
    ("stock_items", .stockItems), ("user_permission_overrides", .userPermissionOverrides),
    ("store_role_policies", .storeRolePolicies), ("tenant_role_policies", .tenantRolePolicies),
    ("users", .users), ("stores", .stores)]

/-- The actions of the purge's own audit events. -/
def purgeActions : List String :=
  ["admin.tenant.purge.started", "admin.tenant.purge.completed", "admin.tenant.purge.failed"]

/-- `model.tenant_id == tenant_id`. -/
def ofTenant (tenantId : ℕ) (row : TableRow) : Bool := row.column .tenantId = some tenantId

/-- `_tenant_counts`, over the given part of the order. -/
def countsOf (tenantId : ℕ) (tables : Tables TableName TableRow)
    (order : List (String × TableName)) : Counts :=
  order.map fun entry => (entry.1, (tables entry.2).countP (ofTenant tenantId))

/-- `_tenant_counts`. -/
def tenantCounts (tenantId : ℕ) (tables : Tables TableName TableRow) : Counts :=
  countsOf tenantId tables tenantPurgeOrder ++ [("tenants", 1)]

/-- The loop of `_delete_tenant_in_order` over the purge order. -/
def deleteByTenant (tenantId : ℕ) :
    Tables TableName TableRow → List (String × TableName) → Option
    (Tables TableName TableRow × Counts)
  | tables, [] => some (tables, [])
  | tables, (name, table) :: rest => do
    let (tables, count) ← deleteWhere schema tables table (ofTenant tenantId)
    let (tables, counts) ← deleteByTenant tenantId tables rest
    some (tables, (name, count) :: counts)

/-- The role templates of the tenant. -/
def roleTemplateIds (tenantId : ℕ) (tables : Tables TableName TableRow) : List ℕ :=
  ((tables .roleTemplates).filter (ofTenant tenantId)).map TableRow.id

/-- The deletions of role templates and their permissions, when there are any. -/
def roleTemplateDeletions (ids : List ℕ) : List (Deletion TableName TableRow) :=
  if ids.isEmpty then []
  else [(.roleTemplatePermissions, fun row => (row.column .roleTemplateId).any (ids.contains ·)),
    (.roleTemplates, fun row => ids.contains row.id)]

/-- The deletions of the settings of a tenant. -/
def settingsDeletions (tenantId : ℕ) : List (Deletion TableName TableRow) :=
  [(.variantFieldSettings, ofTenant tenantId), (.returnPolicySettings, ofTenant tenantId)]

/-- The options of a purge keep the event. -/
def keepsEvent (tenantId : ℕ) (preserveAuditEvents : Bool) (event : PurgeEvent) : Bool :=
  preserveAuditEvents || event.tenantId != tenantId || purgeActions.contains event.action

/-- `_delete_tenant_in_order`; `none` is an `IntegrityError`. -/
def deleteTenantInOrder (tenantId : ℕ) (preserveAuditEvents : Bool) (db : Database) :
    Option (Database × Counts) := do
  let (tables, counts) ← deleteByTenant tenantId db.tables tenantPurgeOrder
  let tables ← deleteAll schema tables (roleTemplateDeletions (roleTemplateIds tenantId tables))
  let tables ← deleteAll schema tables (settingsDeletions tenantId)
  let auditEvents := db.auditEvents.filter (keepsEvent tenantId preserveAuditEvents)
  let (tables, count) ← deleteWhere schema tables .tenants fun row => row.id = tenantId
  some ({ db with tables := tables, auditEvents := auditEvents }, counts ++ [("tenants", count)])

/-- `_audit_event`, committed at once. -/
def auditEvent (action : String) (tenantId : ℕ) (dryRun preserveAuditEvents : Bool)
    (counts : Counts) (result : String) (db : Database) : Database :=
  { db with auditEvents := db.auditEvents ++ [⟨tenantId, action, dryRun, preserveAuditEvents, counts, result⟩] }

/-- `_acquire_lock`: the lock is unique, so a second one is a conflict. -/
def acquireLock (tenantId : ℕ) (db : Database) : Option Database :=
  if tenantLock tenantId ∈ db.purgeLocks then none
  else some { db with purgeLocks := db.purgeLocks ++ [tenantLock tenantId] }

/-- `_release_lock`. -/
def releaseLock (tenantId : ℕ) (db : Database) : Database :=
  { db with purgeLocks := db.purgeLocks.filter fun lock => lock != tenantLock tenantId }

/-- `_execute_resource` for a tenant, once the rows are counted and the lock is held. -/
def purgeLocked (tenantId : ℕ) (preserveAuditEvents : Bool) (counts : Counts) (db : Database) :
    Except PurgeError PurgeResult × Database :=
  let started := auditEvent "admin.tenant.purge.started" tenantId false preserveAuditEvents counts
    "success" db
  match deleteTenantInOrder tenantId preserveAuditEvents started with
  | some (deleted, deletedCounts) =>
    (.ok ⟨false, "COMPLETED", counts, some deletedCounts⟩,
      auditEvent "admin.tenant.purge.completed" tenantId false preserveAuditEvents deletedCounts
      "success" deleted)
  | none =>
    (.error .integrityError,
      auditEvent "admin.tenant.purge.failed" tenantId false preserveAuditEvents counts "failure"
      started)

/-- `execute_tenant`. -/
def executeTenant (tenantId : ℕ) (dryRun preserveAuditEvents : Bool) (db : Database) :
    Except PurgeError PurgeResult × Database :=
  if (db.tables .tenants).all fun row => row.id != tenantId then (.error .tenantNotFound, db)
  else
    let wouldDeleteCounts := tenantCounts tenantId db.tables
    if dryRun then
      let started := auditEvent "admin.tenant.purge.started" tenantId true preserveAuditEvents
        wouldDeleteCounts "success" db
      (.ok ⟨true, "DRY_RUN", wouldDeleteCounts, none⟩,
        auditEvent "admin.tenant.purge.completed" tenantId true preserveAuditEvents
        wouldDeleteCounts "success" started)
    else
      match acquireLock tenantId db with
      | none => (.error .alreadyInProgress, db)
      | some locked =>
        let outcome := purgeLocked tenantId preserveAuditEvents wouldDeleteCounts locked
        (outcome.1, releaseLock tenantId outcome.2)

end ArisCloud.Purge

import ArisCloud.Model.Purge

/-! # Wiping the content of a tenant or of a store

`services/content_wipe.py` deletes the operational rows of a tenant or of a store and keeps the
tenant, its stores and its users. The rows are counted first, and a dry run stops there. The
statements run in a fixed order; one that would leave a dangling foreign key aborts the wipe, which
is then rolled back.
-/

namespace ArisCloud.ContentWipe

open Deletions Purge

/-- A deletion, under the name that its rows are counted by. -/
abbrev Statement := String × Deletion TableName TableRow

/-- `counts.get(name, 0)`. -/
def countOf (counts : Counts) (name : String) : ℕ := (counts.lookup name).getD 0

/-- `counts[name] = count`. -/
def setCount (name : String) (count : ℕ) : Counts → Counts
  | [] => [(name, count)]
  | entry :: rest =>
    if entry.1 = name then (name, count) :: rest else entry :: setCount name count rest

/-- The part of an `AuditEvent` that a wipe reads and writes. -/
structure WipeEvent where
  tenantId : ℕ
  storeId : Option ℕ
  action : String
  entityId : ℕ
  dryRun : Bool
  preserveAuditEvents : Bool
  counts : Counts
  deriving DecidableEq, Repr

/-- The database of a wipe. -/
structure Database where
  tables : Tables TableName TableRow
  auditEvents : List WipeEvent
  purgeLocks : List PurgeLock

/-- The failures of a wipe. -/
inductive WipeError where
  | tenantNotFound | storeNotFound | alreadyInProgress | integrityError
  deriving DecidableEq, Repr

/-- `ContentWipeResult`. -/
structure ContentWipeResult where
  dryRun : Bool
  status : String
  wouldDeleteCounts : Counts
  deletedCounts : Option Counts
  deriving DecidableEq, Repr

/-- The options of `TenantContentWipeRequest` and `StoreContentWipeRequest`; a store wipe has no
idempotency records. -/
structure WipeOptions where
  preserveAuditEvents : Bool := true
  deleteAuditEvents : Bool := false
  deleteIdempotencyRecords : Bool := false
  deriving DecidableEq, Repr

/-- The audit events are deleted as well. -/
def WipeOptions.erasesEvents (options : WipeOptions) : Bool :=
  options.deleteAuditEvents && !options.preserveAuditEvents

/-! ## Statements -/

/-- `_count` of each selection. -/
def countAll (tables : Tables TableName TableRow) (selections : List Statement) : Counts :=
  selections.map fun selection => (selection.1, (tables selection.2.1).countP selection.2.2)

/-- Run statements in their order and keep the number of rows of each. -/
def deleteCounting : Tables TableName TableRow → Counts → List Statement → Option
    (Tables TableName TableRow × Counts)
  | tables, counts, [] => some (tables, counts)
  | tables, counts, (name, table, doomed) :: rest => do
    let (tables, count) ← deleteWhere schema tables table doomed
    deleteCounting tables (setCount name count counts) rest

/-- `{k: 0 for k in counts.keys()}`. -/
def zeroCounts (counts : Counts) : Counts := counts.map fun entry => (entry.1, 0)

/-- `model.store_id == store_id`. -/
def ofStore (storeId : ℕ) (row : TableRow) : Bool := row.column .storeId = some storeId

/-- `transfer_filter`: the transfers from and to the store. -/
def transferFilter (storeId : ℕ) (row : TableRow) : Bool :=
  row.column .originStoreId = some storeId || row.column .destinationStoreId = some storeId

def transferIds (storeId : ℕ) (tables : Tables TableName TableRow) : List ℕ :=
  ((tables .transfers).filter (transferFilter storeId)).map TableRow.id

def saleIds (storeId : ℕ) (tables : Tables TableName TableRow) : List ℕ :=
  ((tables .posSales).filter (ofStore storeId)).map TableRow.id

/-- `model.column.in_(ids)`. -/
def holdsAny (column : Column) (ids : List ℕ) (row : TableRow) : Bool := (row.column column).any
    (ids.contains ·)

/-- The selections that `_store_counts` counts. -/
def storeSelections (storeId : ℕ) (tables : Tables TableName TableRow) : List Statement :=
  [("transfer_movements", .transferMovements, holdsAny .transferId (transferIds storeId tables)),
    ("transfer_lines", .transferLines, holdsAny .transferId (transferIds storeId tables)),
    ("transfers", .transfers, transferFilter storeId),
    ("sale_lines", .posSaleLines, holdsAny .saleId (saleIds storeId tables)),
    ("payments", .posPayments, holdsAny .saleId (saleIds storeId tables)),
    ("returns", .posReturnEvents, ofStore storeId), ("sales", .posSales, ofStore storeId),
    ("cash_movements", .posCashMovements, ofStore storeId),
    ("cash_sessions", .posCashSessions, ofStore storeId),
    ("cash_day_closes", .posCashDayCloses, ofStore storeId),
    ("exports", .exportRecords, ofStore storeId),
    ("preload_lines", .preloadLines, ofStore storeId),
    ("preload_sessions", .preloadSessions, ofStore storeId),
    ("epc_assignments", .epcAssignments, ofStore storeId),
    ("stock_items", .stockItems, ofStore storeId)]

/-- `_store_counts`. -/
def storeCounts (storeId : ℕ) (tables : Tables TableName TableRow) : Counts :=
  countAll tables (storeSelections storeId tables)

/-- The deletions of the transfers of a store, when there are any. -/
def transferDeletions (ids : List ℕ) : List Statement :=
  if ids.isEmpty then []
  else [("transfer_movements", .transferMovements, holdsAny .transferId ids),
    ("transfer_lines", .transferLines, holdsAny .transferId ids),
    ("transfers", .transfers, fun row => ids.contains row.id)]

/-- The deletions of what belongs to the sales of a store, when there are any. -/
def saleDeletions (ids : List ℕ) : List Statement :=
  if ids.isEmpty then []
  else [("payments", .posPayments, holdsAny .saleId ids),
    ("sale_lines", .posSaleLines, holdsAny .saleId ids)]

/-- The deletions by the store itself. -/
def storeDeletions (storeId : ℕ) : List Statement :=
  [("returns", .posReturnEvents, ofStore storeId), ("sales", .posSales, ofStore storeId),
    ("cash_day_closes", .posCashDayCloses, ofStore storeId),
    ("cash_movements", .posCashMovements, ofStore storeId),
    ("cash_sessions", .posCashSessions, ofStore storeId),
    ("exports", .exportRecords, ofStore storeId),
    ("preload_lines", .preloadLines, ofStore storeId),
    ("preload_sessions", .preloadSessions, ofStore storeId),
    ("epc_assignments", .epcAssignments, ofStore storeId),
    ("stock_items", .stockItems, ofStore storeId)]

/-- `_delete_store_content`; `none` is an `IntegrityError`. -/
def deleteStoreContent (storeId : ℕ) (tables : Tables TableName TableRow) :
    Option (Tables TableName TableRow × Counts) := do
  let counts := zeroCounts (storeCounts storeId tables)
  let (tables, counts) ← deleteCounting tables counts
    (transferDeletions (transferIds storeId tables))
  let (tables, counts) ← deleteCounting tables counts (saleDeletions (saleIds storeId tables))
  deleteCounting tables counts (storeDeletions storeId)

/-- The models of `_delete_tenant_content`, in their order. -/
def tenantContent : List (String × TableName) :=
  [("transfer_movements", .transferMovements), ("transfer_lines", .transferLines),
    ("transfers", .transfers), ("sale_lines", .posSaleLines), ("payments", .posPayments),
    ("returns", .posReturnEvents), ("sales", .posSales),
    ("cash_movements", .posCashMovements), ("cash_sessions", .posCashSessions),
    ("cash_day_closes", .posCashDayCloses), ("exports", .exportRecords), ("sku_images", .skuImages),
    ("preload_lines", .preloadLines), ("preload_sessions", .preloadSessions),
    ("epc_assignments", .epcAssignments), ("stock_items", .stockItems)]

def tenantSelections (tenantId : ℕ) : List Statement :=
  tenantContent.map fun entry => (entry.1, entry.2, ofTenant tenantId)

/-- `_tenant_counts`. -/
def tenantCounts (tenantId : ℕ) (tables : Tables TableName TableRow) : Counts :=
  countAll tables (tenantSelections tenantId)

/-- `_delete_tenant_content`; `none` is an `IntegrityError`. -/
def deleteTenantContent (tenantId : ℕ) (tables : Tables TableName TableRow) :
    Option (Tables TableName TableRow × Counts) :=
  deleteCounting tables (zeroCounts (tenantCounts tenantId tables)) (tenantSelections tenantId)

/-! ## Requests -/

/-- Delete the audit events that are the scope's, when the options say so, and count them. -/
def eraseEvents (name : String) (erases : Bool) (own : WipeEvent → Bool) (events : List WipeEvent)
    (counts : Counts) :
    List WipeEvent × Counts :=
  if erases then (events.filter fun event => !own event, setCount name (events.countP own) counts)
  else (events, setCount name 0 counts)

/-- Delete the idempotency records of the tenant, when the options say so, and count them. -/
def deleteRecords (tenantId : ℕ) (deletes : Bool) (tables : Tables TableName TableRow)
    (counts : Counts) :
    Option (Tables TableName TableRow × Counts) :=
  if deletes then do
    let (tables, count) ← deleteWhere schema tables .idempotencyRecords (ofTenant tenantId)
    some (tables, setCount "tenant_idempotency_records" count counts)
  else some (tables, setCount "tenant_idempotency_records" 0 counts)

/-- What a wipe of a tenant and a wipe of a store differ in. -/
structure Wipe where
  resource : String
  resourceId : ℕ
  tenantId : ℕ
  counts : Counts
  delete : Database → Option (Database × Counts)

def Wipe.lock (wipe : Wipe) : PurgeLock := ⟨wipe.resource ++ "_content", wipe.resourceId⟩

/-- The payload of `_audit_event`. -/
def Wipe.event (wipe : Wipe) (actorStoreId : Option ℕ) (dryRun preserveAuditEvents : Bool)
    (counts : Counts) : WipeEvent where
  tenantId := wipe.tenantId
  storeId := actorStoreId
  action := "admin." ++ wipe.resource ++ ".wipe_content.completed"
  entityId := wipe.resourceId
  dryRun := dryRun
  preserveAuditEvents := preserveAuditEvents
  counts := counts

/-- `_audit_event`, committed at once. -/
def auditEvent (event : WipeEvent) (db : Database) : Database :=
  { db with auditEvents := db.auditEvents ++ [event] }

/-- `_acquire_lock`: the lock is unique, so a second one is a conflict. -/
def acquireLock (lock : PurgeLock) (db : Database) : Option Database :=
  if lock ∈ db.purgeLocks then none else some { db with purgeLocks := db.purgeLocks ++ [lock] }

/-- `_release_lock`. -/
def releaseLock (lock : PurgeLock) (db : Database) : Database :=
  { db with purgeLocks := db.purgeLocks.filter fun other => other != lock }

/-- The part that `execute_store_wipe` and `execute_tenant_wipe` share, once the rows are
counted. -/
def Wipe.execute (wipe : Wipe) (actorStoreId : Option ℕ) (dryRun preserveAuditEvents : Bool)
    (db : Database) :
    Except WipeError ContentWipeResult × Database :=
  if dryRun then
    (.ok ⟨true, "DRY_RUN", wipe.counts, none⟩,
      auditEvent (wipe.event actorStoreId true preserveAuditEvents wipe.counts) db)
  else
    match acquireLock wipe.lock db with
    | none => (.error .alreadyInProgress, db)
    | some locked =>
      match wipe.delete locked with
      | none => (.error .integrityError, releaseLock wipe.lock locked)
      | some (deleted, deletedCounts) =>
        (.ok ⟨false, "COMPLETED", wipe.counts, some deletedCounts⟩,
          releaseLock wipe.lock
          (auditEvent (wipe.event actorStoreId false preserveAuditEvents deletedCounts) deleted))

/-- An audit event of the store. -/
def eventOfStore (storeId : ℕ) (event : WipeEvent) : Bool := event.storeId = some storeId

/-- An audit event of the tenant. -/
def eventOfTenant (tenantId : ℕ) (event : WipeEvent) : Bool := event.tenantId = tenantId

/-- The wipe of a store; its tenant is not null. -/
def storeWipe (storeId : ℕ) (options : WipeOptions) (store : TableRow) (db : Database) : Wipe where
  resource := "store"
  resourceId := storeId
  tenantId := (store.column .tenantId).getD 0
  counts :=
    let counts := storeCounts storeId db.tables
    if options.erasesEvents then setCount "store_audit_events"
      (db.auditEvents.countP (eventOfStore storeId)) counts
    else counts
  delete db := do
    let (tables, counts) ← deleteStoreContent storeId db.tables
    let (events, counts) := eraseEvents "store_audit_events" options.erasesEvents
      (eventOfStore storeId) db.auditEvents counts
    some ({ db with tables := tables, auditEvents := events }, counts)

/-- The wipe of a tenant. -/
def tenantWipe (tenantId : ℕ) (options : WipeOptions) (db : Database) : Wipe where
  resource := "tenant"
  resourceId := tenantId
  tenantId := tenantId
  counts :=
    let counts := tenantCounts tenantId db.tables
    let events := if options.erasesEvents then db.auditEvents.countP (eventOfTenant tenantId) else 0
    let records :=
      if options.deleteIdempotencyRecords then (db.tables .idempotencyRecords).countP
        (ofTenant tenantId) else 0
    setCount "tenant_idempotency_records" records (setCount "tenant_audit_events" events counts)
  delete db := do
    let (tables, counts) ← deleteTenantContent tenantId db.tables
    let (events, counts) := eraseEvents "tenant_audit_events" options.erasesEvents
      (eventOfTenant tenantId) db.auditEvents counts
    let (tables, counts) ← deleteRecords tenantId options.deleteIdempotencyRecords tables counts
    some ({ db with tables := tables, auditEvents := events }, counts)

/-- `execute_store_wipe`. -/
def executeStoreWipe (storeId : ℕ) (actorStoreId : Option ℕ) (dryRun : Bool) (options : WipeOptions)
    (db : Database) :
    Except WipeError ContentWipeResult × Database :=
  match (db.tables .stores).find? fun row => row.id = storeId with
  | none => (.error .storeNotFound, db)
  | some store =>
    (storeWipe storeId options store db).execute actorStoreId dryRun options.preserveAuditEvents db

/-- `execute_tenant_wipe`. -/
def executeTenantWipe (tenantId : ℕ) (actorStoreId : Option ℕ) (dryRun : Bool)
    (options : WipeOptions) (db : Database) :
    Except WipeError ContentWipeResult × Database :=
  match (db.tables .tenants).find? fun row => row.id = tenantId with
  | none => (.error .tenantNotFound, db)
  | some _ => (tenantWipe tenantId options db).execute actorStoreId dryRun
    options.preserveAuditEvents db

end ArisCloud.ContentWipe

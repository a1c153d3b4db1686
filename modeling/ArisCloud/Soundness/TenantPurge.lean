import Mathlib.Data.List.Nodup
import ArisCloud.Model.Purge

/-! # When the purge of a tenant is complete and contained

The purge deletes by tenant the tables of its order and the settings and role templates of the
tenant, each before the tables that it references. So it completes when nothing of the tenant is in
the tables it leaves out and no row of another tenant references one of the tenant; in every other
case it fails and deletes nothing.
-/

namespace ArisCloud.Purge

open Deletions

/-- The row belongs to the tenant, by its own column or by the row that owns it. -/
def BelongsTo (tenantId : ℕ) (tables : Tables TableName TableRow) : TableName → TableRow → Prop
  | .tenants, row => row.id = tenantId
  | .permissionCatalog, _ => False
  | .roleTemplatePermissions, row =>
    ∃ template ∈ tables .roleTemplates, ofTenant tenantId template ∧
      row.column .roleTemplateId = some template.id
  | .stockAiExtractionFiles, row =>
    ∃ extraction ∈ tables .stockAiExtractions, ofTenant tenantId extraction ∧
      row.column .extractionId = some extraction.id
  | _, row => ofTenant tenantId row

instance (tenantId : ℕ) (tables : Tables TableName TableRow) (table : TableName) (row : TableRow) :
    Decidable (BelongsTo tenantId tables table row) := by
  cases table <;> dsimp only [BelongsTo] <;> infer_instance

/-- Foreign keys lead to rows and primary keys are unique. -/
structure ForeignKeyConsistent (tables : Tables TableName TableRow) : Prop where
  consistent : Consistent schema tables
  keyed : ∀ table, ((tables table).map TableRow.id).Nodup

/-- What a purge of the tenant that was not a dry run should lead to. -/
structure PurgeComplete (tenantId : ℕ) (preserveAuditEvents : Bool) (db : Database)
    (final : Database) (deletedCounts : Option Counts) : Prop where
  consistent : Consistent schema final.tables
  emptied : ∀ table, ∀ row ∈ final.tables table, ¬ BelongsTo tenantId db.tables table row
  contained : ∀ table, ∀ row, ¬ BelongsTo tenantId db.tables table row →
    (row ∈ final.tables table ↔ row ∈ db.tables table)
  ownEvents : ∀ event ∈ final.auditEvents, event.tenantId = tenantId → preserveAuditEvents = false →
    event.action ∈ purgeActions
  keptEvents : ∀ event ∈ db.auditEvents, keepsEvent tenantId preserveAuditEvents event →
    event ∈ final.auditEvents
  otherEvents : ∀ event, event.tenantId ≠ tenantId →
    (event ∈ final.auditEvents ↔ event ∈ db.auditEvents)
  locks : ∀ lock, lock ∈ final.purgeLocks ↔ lock ∈ db.purgeLocks
  counts : ∃ dryRun, (executeTenant tenantId true preserveAuditEvents db).1 = .ok dryRun ∧
    deletedCounts = some dryRun.wouldDeleteCounts

/-- The purge completes, leaves nothing of the tenant and touches nothing else. -/
def PurgesCompletely (tenantId : ℕ) (preserveAuditEvents : Bool) (db : Database) : Prop :=
  ∃ result, (executeTenant tenantId false preserveAuditEvents db).1 = .ok result ∧
    PurgeComplete tenantId preserveAuditEvents db
    (executeTenant tenantId false preserveAuditEvents db).2 result.deletedCounts

/-- The tables that the purge deletes from, in their order. -/
def purgedTables : List TableName :=
  tenantPurgeOrder.map Prod.snd ++
    [.roleTemplatePermissions, .roleTemplates, .variantFieldSettings, .returnPolicySettings,
    .tenants]

/-- No purge of the tenant holds the lock, none of its rows is in a table that the purge leaves out,
and no row of another tenant references one of its rows. -/
structure Purgeable (tenantId : ℕ) (db : Database) : Prop where
  unlocked : tenantLock tenantId ∉ db.purgeLocks
  covered : ∀ table ∉ purgedTables, ∀ row ∈ db.tables table,
    ¬ BelongsTo tenantId db.tables table row
  uncrossed : ∀ table, ∀ row ∈ db.tables table, ¬ BelongsTo tenantId db.tables table row →
    ∀ other, ∀ target ∈ db.tables other, BelongsTo tenantId db.tables other target →
      (other, target.id) ∉ schema.references table row

/-- The statements of a purge on the given rows. -/
def purgeStatements (tenantId : ℕ) (tables : Tables TableName TableRow) :
    List (Deletion TableName TableRow) :=
  (tenantPurgeOrder.map fun entry => (entry.2, ofTenant tenantId)) ++
    (roleTemplateDeletions (roleTemplateIds tenantId tables) ++
      (settingsDeletions tenantId ++
      [(TableName.tenants, fun row : TableRow => decide (row.id = tenantId))]))

section

variable {tenantId : ℕ} {tables left : Tables TableName TableRow} {preserveAuditEvents : Bool}
    {db : Database}
  {table : TableName} {row : TableRow}

/-- The loop of the purge is a list of deletions, and counts the rows as they were. -/
theorem deleteByTenant_eq {order : List (String × TableName)}
    (distinct : (order.map Prod.snd).Nodup) :
    deleteByTenant tenantId tables order =
      (deleteAll schema tables (order.map fun entry => (entry.2, ofTenant tenantId))).map
      fun left =>
        (left, countsOf tenantId tables order) := by
  induction order generalizing tables with
  | nil => rfl
  | cons entry rest ih =>
    obtain ⟨name, target⟩ := entry
    obtain ⟨fresh, distinct⟩ := List.nodup_cons.mp distinct
    rw [deleteByTenant, List.map_cons, deleteAll]
    cases deleted : deleteWhere schema tables target (ofTenant tenantId) with
    | none => rfl
    | some result =>
      obtain ⟨_, rfl⟩ := deleteWhere_eq_some.mp deleted
      have same : countsOf tenantId (without tables target (ofTenant tenantId)) rest =
          countsOf tenantId tables rest := by
        refine List.map_congr_left fun entry member => ?_
        have other : target ≠ entry.2 := fun same =>
          fresh (List.mem_map.mpr ⟨entry, member, same.symm⟩)
        rw [without_of_ne other]
      change (deleteByTenant tenantId (without tables target (ofTenant tenantId)) rest).bind _ =
        Option.map _ ((deleteAll schema (without tables target (ofTenant tenantId)) _))
      rw [ih distinct, same]
      cases deleteAll schema (without tables target (ofTenant tenantId)) _ with
      | none => rfl
      | some left => rfl

private theorem tenantPurgeOrder_nodup : (tenantPurgeOrder.map Prod.snd).Nodup := by decide

/-- Deletions from other tables leave a table as it is. -/
theorem deleteAll_apply_of_notMem {statements : List (Deletion TableName TableRow)}
    (success : deleteAll schema tables statements = some left)
    (outside : table ∉ statements.map Prod.fst) :
    left table = tables table := by
  rw [deleteAll_eq success]
  refine List.filter_eq_self.mpr fun row _ => survives_iff.mpr fun statement member same => ?_
  exact absurd (same ▸ List.mem_map_of_mem member) outside

private theorem roleTemplateDeletions_tables {ids : List ℕ} :
    (roleTemplateDeletions ids).map Prod.fst ⊆ [.roleTemplatePermissions, .roleTemplates] := by
  rw [roleTemplateDeletions]
  split
  · exact List.nil_subset _
  · exact List.Subset.refl _

private theorem order_tables :
    ((tenantPurgeOrder.map fun entry => (entry.2, ofTenant tenantId)).map Prod.fst) =
    tenantPurgeOrder.map Prod.snd := by
  rw [List.map_map]
  rfl

/-- The rows of the tenant itself are one. -/
theorem countP_tenants (keyed : ((tables .tenants).map TableRow.id).Nodup)
    (present : ∃ row ∈ tables .tenants, row.id = tenantId) :
    (tables .tenants).countP (fun row => row.id = tenantId) = 1 := by
  have once := List.count_eq_one_of_mem keyed (List.mem_map.mpr present)
  rw [List.count, List.countP_map] at once
  rw [← once]
  refine List.countP_congr fun row _ => ?_
  simp

/-- The purge deletes by its statements and reports what a dry run counts. -/
theorem deleteTenantInOrder_eq (keyed : ((db.tables .tenants).map TableRow.id).Nodup)
    (present : ∃ row ∈ db.tables .tenants, row.id = tenantId) :
    deleteTenantInOrder tenantId preserveAuditEvents db =
      (deleteAll schema db.tables (purgeStatements tenantId db.tables)).map fun left =>
        ({ db with tables := left,
                   auditEvents := db.auditEvents.filter (keepsEvent tenantId preserveAuditEvents) },
          tenantCounts tenantId db.tables) := by
  rw [deleteTenantInOrder, purgeStatements, deleteAll_append,
    deleteByTenant_eq tenantPurgeOrder_nodup]
  cases first : deleteAll schema db.tables (tenantPurgeOrder.map fun entry =>
      (entry.2, ofTenant tenantId)) with
  | none => rfl
  | some ordered =>
    have templates : ordered .roleTemplates = db.tables .roleTemplates :=
      deleteAll_apply_of_notMem first (by rw [order_tables]; decide)
    have tenants : ordered .tenants = db.tables .tenants :=
      deleteAll_apply_of_notMem first (by rw [order_tables]; decide)
    have ids : roleTemplateIds tenantId ordered = roleTemplateIds tenantId db.tables := by
      rw [roleTemplateIds, templates, roleTemplateIds]
    change (deleteAll schema ordered
      (roleTemplateDeletions (roleTemplateIds tenantId ordered))).bind _ =
      Option.map _ (deleteAll schema ordered _)
    rw [ids, deleteAll_append]
    cases second : deleteAll schema ordered
        (roleTemplateDeletions (roleTemplateIds tenantId db.tables)) with
    | none => rfl
    | some unnamed =>
      have tenants : unnamed .tenants = db.tables .tenants := by
        rw [deleteAll_apply_of_notMem second, tenants]
        intro member
        exact absurd (roleTemplateDeletions_tables member) (by decide)
      change (deleteAll schema unnamed (settingsDeletions tenantId)).bind _ =
        Option.map _ (deleteAll schema unnamed _)
      rw [deleteAll_append]
      cases third : deleteAll schema unnamed (settingsDeletions tenantId) with
      | none => rfl
      | some unset =>
        have tenants : unset .tenants = db.tables .tenants := by
          rw [deleteAll_apply_of_notMem third (by simp [settingsDeletions]), tenants]
        change (deleteWhere schema unset .tenants _).bind _ =
          Option.map _ ((deleteWhere schema unset .tenants _).bind _)
        cases last : deleteWhere schema unset .tenants (fun row => row.id = tenantId) with
        | none => rfl
        | some result =>
          obtain ⟨_, rfl⟩ := deleteWhere_eq_some.mp last
          change some _ = some _
          rw [tenants, countP_tenants keyed present]
          rfl

/-- The tables of the purge order have a tenant column. -/
theorem belongsTo_of_order (inOrder : table ∈ tenantPurgeOrder.map Prod.snd) :
    BelongsTo tenantId tables table row ↔ ofTenant tenantId row = true := by
  simp only [tenantPurgeOrder, List.map_cons, List.map_nil, List.mem_cons, List.not_mem_nil,
    or_false] at inOrder
  rcases inOrder with rfl | rfl | rfl | rfl | rfl | rfl | rfl | rfl | rfl | rfl | rfl | rfl | rfl |
    rfl | rfl | rfl | rfl <;> rfl

private theorem mem_roleTemplateIds {id : ℕ} : id ∈ roleTemplateIds tenantId tables ↔
    ∃ template ∈ tables .roleTemplates, ofTenant tenantId template = true ∧ template.id = id := by
  simp only [roleTemplateIds, List.mem_map, List.mem_filter, and_assoc]

/-- A row of a template of the tenant, or a template that has the id of one. -/
theorem roleTemplateDeletions_iff {ids : List ℕ} :
    (∃ doomed, (table, doomed) ∈ roleTemplateDeletions ids ∧ doomed row = true) ↔
    (table = .roleTemplatePermissions ∧ ∃ id ∈ ids, row.column .roleTemplateId = some id) ∨
      (table = .roleTemplates ∧ row.id ∈ ids) := by
  rw [roleTemplateDeletions]
  split
  · next none =>
    rw [List.isEmpty_iff] at none
    simp [none]
  · constructor
    · rintro ⟨doomed, member, isDoomed⟩
      rcases List.mem_pair.mp member with same | same <;> obtain ⟨rfl, rfl⟩ := Prod.mk.inj same
      · obtain ⟨id, filled, listed⟩ := (Option.any_eq_true _ _).mp isDoomed
        exact .inl ⟨rfl, id, List.contains_iff_mem.mp listed, filled⟩
      · exact .inr ⟨rfl, List.contains_iff_mem.mp isDoomed⟩
    · rintro (⟨rfl, id, listed, filled⟩ | ⟨rfl, listed⟩)
      · exact ⟨_, List.mem_cons_self .., by simpa [filled] using listed⟩
      · exact ⟨_, List.mem_cons_of_mem _ (List.mem_cons_self ..), List.contains_iff_mem.mpr listed⟩

/-- The purge deletes the rows of the tenant in the tables that it deletes from. -/
theorem survives_purgeStatements (keyed : ((tables .roleTemplates).map TableRow.id).Nodup)
    (present : row ∈ tables table) :
    survives (purgeStatements tenantId tables) table row = false ↔ table ∈ purgedTables ∧
    BelongsTo tenantId tables table row := by
  rw [not_survives_iff]
  simp only [purgeStatements, purgedTables, List.mem_append, or_and_right, exists_or,
    roleTemplateDeletions_iff]
  constructor
  · rintro (⟨doomed, member, isDoomed⟩ | (⟨rfl, id, listed, filled⟩ | ⟨rfl, listed⟩) | ⟨doomed,
        member, isDoomed⟩ |
      ⟨doomed, member, isDoomed⟩)
    · obtain ⟨entry, inOrder, same⟩ := List.mem_map.mp member
      obtain ⟨rfl, rfl⟩ := Prod.mk.inj same
      have listed : entry.2 ∈ tenantPurgeOrder.map Prod.snd := List.mem_map_of_mem inOrder
      exact .inl ⟨listed, (belongsTo_of_order listed).mpr isDoomed⟩
    · obtain ⟨template, isTemplate, owned, rfl⟩ := mem_roleTemplateIds.mp listed
      exact .inr ⟨by decide, template, isTemplate, owned, filled⟩
    · obtain ⟨template, isTemplate, owned, same⟩ := mem_roleTemplateIds.mp listed
      obtain rfl := List.inj_on_of_nodup_map keyed isTemplate present same
      exact .inr ⟨by decide, owned⟩
    · rcases List.mem_pair.mp member with same | same <;> obtain ⟨rfl, rfl⟩ := Prod.mk.inj same
      · exact .inr ⟨by decide, isDoomed⟩
      · exact .inr ⟨by decide, isDoomed⟩
    · obtain ⟨rfl, rfl⟩ := Prod.mk.inj (List.mem_singleton.mp member)
      have same : row.id = tenantId := of_decide_eq_true isDoomed
      exact .inr ⟨by decide, same⟩
  · rintro (⟨inOrder, belongs⟩ | ⟨member, belongs⟩)
    · obtain ⟨entry, listed, rfl⟩ := List.mem_map.mp inOrder
      exact .inl ⟨_, List.mem_map.mpr ⟨entry, listed, rfl⟩, (belongsTo_of_order inOrder).mp belongs⟩
    · simp only [List.mem_cons, List.not_mem_nil, or_false] at member
      rcases member with rfl | rfl | rfl | rfl | rfl
      · obtain ⟨template, isTemplate, owned, filled⟩ := belongs
        exact .inr (.inl
          (.inl ⟨rfl, _, mem_roleTemplateIds.mpr ⟨template, isTemplate, owned, rfl⟩, filled⟩))
      · exact .inr (.inl (.inr ⟨rfl, mem_roleTemplateIds.mpr ⟨row, present, belongs, rfl⟩⟩))
      · exact .inr (.inr (.inl ⟨_, List.mem_cons_self .., belongs⟩))
      · exact .inr (.inr (.inl ⟨_, List.mem_cons_of_mem _ (List.mem_cons_self ..), belongs⟩))
      · have same : row.id = tenantId := belongs
        exact .inr (.inr (.inr ⟨_, List.mem_singleton_self _, decide_eq_true same⟩))

/-- A table is deleted from before the tables that it references. -/
theorem foreignKeys_ordered : ∀ table ∈ purgedTables, ∀ link ∈ foreignKeys table,
    link.2 ∈ purgedTables →
    purgedTables.idxOf table < purgedTables.idxOf link.2 := by
  decide

private theorem purgeStatements_sorted :
    (purgeStatements tenantId tables).Pairwise fun first next =>
    purgedTables.idxOf first.1 ≤ purgedTables.idxOf next.1 := by
  have sorted : ((purgeStatements tenantId tables).map Prod.fst).Pairwise fun first next =>
      purgedTables.idxOf first ≤ purgedTables.idxOf next := by
    simp only [purgeStatements, List.map_append, order_tables, roleTemplateDeletions,
      settingsDeletions]
    split <;> simp only [List.map_cons, List.map_nil] <;> decide
  rwa [List.pairwise_map] at sorted

/-- When no row outside the purge references the tenant, no deletion leaves a dangling reference. -/
theorem deleteAll_of_purgeable (whole : ForeignKeyConsistent tables)
    (covered : ∀ table ∉ purgedTables, ∀ row ∈ tables table, ¬ BelongsTo tenantId tables table row)
    (uncrossed : ∀ table, ∀ row ∈ tables table, ¬ BelongsTo tenantId tables table row →
      ∀ other, ∀ target ∈ tables other, BelongsTo tenantId tables other target →
        (other, target.id) ∉ schema.references table row) :
    ∃ left, deleteAll schema tables (purgeStatements tenantId tables) = some left := by
  refine deleteAll_succeeds_of_rank (purgedTables.idxOf ·) purgeStatements_sorted ?_
  intro target doomed member gone present isDoomed other row isRow references
  have deleted : survives (purgeStatements tenantId tables) target gone = false :=
    not_survives_iff.mpr ⟨doomed, member, isDoomed⟩
  obtain ⟨isPurged, belongs⟩ := (survives_purgeStatements (whole.keyed _) present).mp deleted
  have rowBelongs : BelongsTo tenantId tables other row := by
    by_contra foreign
    exact uncrossed other row isRow foreign target gone present belongs references
  have otherPurged : other ∈ purgedTables := by
    by_contra outside
    exact covered other outside row isRow rowBelongs
  obtain ⟨column, link, _⟩ := mem_references.mp references
  refine ⟨foreignKeys_ordered other otherPurged _ link isPurged, ?_⟩
  exact (survives_purgeStatements (whole.keyed _) isRow).mpr ⟨otherPurged, rowBelongs⟩

/-- Every request for a tenant that exists counts its rows first. -/
theorem executeTenant_dryRun (present : ∃ row ∈ db.tables .tenants, row.id = tenantId) :
    (executeTenant tenantId true preserveAuditEvents db).1 = .ok
    ⟨true, "DRY_RUN", tenantCounts tenantId db.tables, none⟩ := by
  rw [executeTenant, if_neg (by simpa using present)]
  rfl

private theorem executeTenant_of_locked (present : ∃ row ∈ db.tables .tenants, row.id = tenantId)
    (locked : tenantLock tenantId ∈ db.purgeLocks) :
    executeTenant tenantId false preserveAuditEvents db = (.error .alreadyInProgress, db) := by
  rw [executeTenant, if_neg (by simpa using present)]
  simp only [acquireLock, if_pos locked]
  rfl

/-- The purge's own record of a tenant. -/
def PurgeEvent.OwnOf (tenantId : ℕ) (event : PurgeEvent) : Prop :=
  event.tenantId = tenantId ∧ event.action ∈ purgeActions

/-- A purge that gets the lock fails when its statements fail. -/
theorem executeTenant_of_refused (keyed : ((db.tables .tenants).map TableRow.id).Nodup)
    (present : ∃ row ∈ db.tables .tenants, row.id = tenantId)
    (unlocked : tenantLock tenantId ∉ db.purgeLocks)
    (refused : deleteAll schema db.tables (purgeStatements tenantId db.tables) = none) :
    (executeTenant tenantId false preserveAuditEvents db).1 = .error .integrityError := by
  rw [executeTenant, if_neg (by simpa using present)]
  simp only [Bool.false_eq_true, if_false, acquireLock, if_neg unlocked, purgeLocked]
  rw [deleteTenantInOrder_eq (by exact keyed) (by exact present)]
  simp only [auditEvent, refused, Option.map_none]

/-- A purge that gets the lock completes when its statements succeed. -/
theorem executeTenant_of_deleteAll (keyed : ((db.tables .tenants).map TableRow.id).Nodup)
    (present : ∃ row ∈ db.tables .tenants,
      row.id = tenantId) (unlocked : tenantLock tenantId ∉ db.purgeLocks)
    (deleted : deleteAll schema db.tables (purgeStatements tenantId db.tables) = some left) :
    ∃ started completed : PurgeEvent, started.OwnOf tenantId ∧ completed.OwnOf tenantId ∧
      executeTenant tenantId false preserveAuditEvents db =
        (.ok ⟨false, "COMPLETED", tenantCounts tenantId db.tables,
          some (tenantCounts tenantId db.tables)⟩,
          { tables := left
            auditEvents :=
            (db.auditEvents ++ [started]).filter (keepsEvent tenantId preserveAuditEvents) ++
              [completed]
            purgeLocks := (db.purgeLocks ++ [tenantLock tenantId]).filter fun lock =>
            lock != tenantLock tenantId }) := by
  let event (action : String) : PurgeEvent :=
    ⟨tenantId, action, false, preserveAuditEvents, tenantCounts tenantId db.tables, "success"⟩
  refine ⟨event "admin.tenant.purge.started", event "admin.tenant.purge.completed", ⟨rfl, ?_⟩,
    ⟨rfl, ?_⟩, ?_⟩
  · exact List.mem_cons_self ..
  · exact List.mem_cons_of_mem _ (List.mem_cons_self ..)
  rw [executeTenant, if_neg (by simpa using present)]
  simp only [Bool.false_eq_true, if_false, acquireLock, if_neg unlocked, purgeLocked]
  rw [deleteTenantInOrder_eq (by exact keyed) (by exact present)]
  simp only [auditEvent, deleted, Option.map_some]
  rfl

/-- The lock is released. -/
theorem mem_released {locks : List PurgeLock} {lock : PurgeLock}
    (unlocked : tenantLock tenantId ∉ locks) :
    lock ∈ (locks ++ [tenantLock tenantId]).filter (fun lock => lock != tenantLock tenantId) ↔
    lock ∈ locks := by
  simp only [List.mem_filter, List.mem_append, List.mem_singleton, bne_iff_ne]
  constructor
  · rintro ⟨held | own, other⟩
    · exact held
    · exact absurd own other
  · intro held
    exact ⟨.inl held, fun own => unlocked (own ▸ held)⟩

/-- What statements that succeed leave is complete and contained. -/
theorem purgeComplete_of_deleteAll (whole : ForeignKeyConsistent db.tables) {final : Database}
    (covered : ∀ table ∉ purgedTables, ∀ row ∈ db.tables table,
      ¬ BelongsTo tenantId db.tables table row)
    (success : deleteAll schema db.tables (purgeStatements tenantId db.tables) = some final.tables)
    {started completed : PurgeEvent} (isStarted : started.OwnOf tenantId)
    (isCompleted : completed.OwnOf tenantId) (events : final.auditEvents =
      (db.auditEvents ++ [started]).filter (keepsEvent tenantId preserveAuditEvents) ++ [completed])
    (released : ∀ lock, lock ∈ final.purgeLocks ↔ lock ∈ db.purgeLocks)
    (present : ∃ row ∈ db.tables .tenants, row.id = tenantId) :
    PurgeComplete tenantId preserveAuditEvents db final
        (some (tenantCounts tenantId db.tables)) where
  consistent := deleteAll_consistent whole.consistent success
  emptied table row left belongs := by
    rw [deleteAll_eq success, List.mem_filter] at left
    obtain ⟨inTable, kept⟩ := left
    have isPurged : table ∈ purgedTables := by
      by_contra outside
      exact covered table outside row inTable belongs
    rw [(survives_purgeStatements (whole.keyed _) inTable).mpr ⟨isPurged, belongs⟩] at kept
    contradiction
  contained table row foreign := by
    rw [deleteAll_eq success, List.mem_filter]
    constructor
    · exact And.left
    · intro inTable
      refine ⟨inTable, ?_⟩
      by_contra deleted
      exact foreign ((survives_purgeStatements (whole.keyed _) inTable).mp
        (Bool.eq_false_iff.mpr deleted)).2
  ownEvents event member own erased := by
    rw [events, List.mem_append, List.mem_filter, List.mem_singleton] at member
    rcases member with ⟨_, kept⟩ | rfl
    · simpa [keepsEvent, erased, own] using kept
    · exact isCompleted.2
  keptEvents event member kept := by
    rw [events, List.mem_append, List.mem_filter]
    exact .inl ⟨List.mem_append_left _ member, kept⟩
  otherEvents event other := by
    rw [events, List.mem_append, List.mem_filter, List.mem_append, List.mem_singleton,
      List.mem_singleton]
    constructor
    · rintro (⟨old | rfl, _⟩ | rfl)
      · exact old
      · exact absurd isStarted.1 other
      · exact absurd isCompleted.1 other
    · intro old
      exact .inl ⟨.inl old, by simp [keepsEvent, other]⟩
  locks := released
  counts := ⟨_, executeTenant_dryRun present, rfl⟩

end

/-- Purging a tenant of a consistent database is complete and contained exactly when the tenant is
purgeable. -/
theorem tenant_purge_complete_iff (tenantId : ℕ) (preserveAuditEvents : Bool) (db : Database)
    (whole : ForeignKeyConsistent db.tables)
    (present : ∃ row ∈ db.tables .tenants, row.id = tenantId) :
    PurgesCompletely tenantId preserveAuditEvents db ↔ Purgeable tenantId db := by
  constructor
  · rintro ⟨result, success, complete⟩
    have unlocked : tenantLock tenantId ∉ db.purgeLocks := by
      intro locked
      rw [executeTenant_of_locked present locked] at success
      contradiction
    cases deleted : deleteAll schema db.tables (purgeStatements tenantId db.tables) with
    | none =>
      rw [executeTenant_of_refused (whole.keyed _) present unlocked deleted] at success
      contradiction
    | some left =>
      obtain ⟨_, _, _, _, outcome⟩ :=
        executeTenant_of_deleteAll (whole.keyed _) present unlocked deleted
      rw [outcome] at complete
      have gone : ∀ table, ∀ row ∈ db.tables table, BelongsTo tenantId db.tables table row →
          survives (purgeStatements tenantId db.tables) table row = false := by
        intro table row inTable belongs
        rw [← Bool.not_eq_true]
        intro kept
        refine complete.emptied table row ?_ belongs
        change row ∈ left table
        rw [deleteAll_eq deleted]
        exact List.mem_filter.mpr ⟨inTable, kept⟩
      refine ⟨unlocked, ?_, ?_⟩
      · intro table outside row inTable belongs
        exact outside ((survives_purgeStatements (whole.keyed _) inTable).mp
          (gone table row inTable belongs)).1
      · intro table row inTable foreign other target isTarget belongs references
        exact deleteAll_unreferenced deleted ((complete.contained table row foreign).mpr inTable)
          isTarget (gone other target isTarget belongs) references
  · intro purgeable
    obtain ⟨left, deleted⟩ := deleteAll_of_purgeable whole purgeable.covered purgeable.uncrossed
    obtain ⟨started, completed, isStarted, isCompleted, outcome⟩ :=
      executeTenant_of_deleteAll (whole.keyed _) present purgeable.unlocked deleted
    rw [PurgesCompletely, outcome]
    refine ⟨_, rfl, ?_⟩
    exact purgeComplete_of_deleteAll whole purgeable.covered deleted isStarted isCompleted rfl
      (fun lock => mem_released purgeable.unlocked) present

/-- Tables over a list of rows. -/
def tablesOf (rows : List (TableName × TableRow)) : Tables TableName TableRow := fun table =>
  (rows.filter fun row => row.1 = table).map Prod.snd

namespace Sample

def row (id : ℕ) (links : List (Column × ℕ)) : TableRow where
  id := id
  column column := (links.find? fun link => link.1 = column).map Prod.snd

/-- A tenant with a shop and its goods, and another tenant. -/
def twoTenants : Database where
  tables := tablesOf [(.tenants, row 1 []), (.tenants, row 2 []), (.stores, row 1 [(.tenantId, 1)]),
    (.stores, row 2 [(.tenantId, 2)]), (.users, row 1 [(.tenantId, 1), (.storeId, 1)]),
    (.stockItems, row 1 [(.tenantId, 1), (.storeId, 1)]), (.posSales, row 1 [(.tenantId, 1)]),
    (.roleTemplates, row 1 [(.tenantId, 1)]), (.permissionCatalog, row 1 []),
    (.roleTemplatePermissions, row 1 [(.roleTemplateId, 1), (.permissionId, 1)])]
  auditEvents := []
  purgeLocks := []

/-- A tenant with a product in its catalog. -/
def cataloged : Database where
  tables := tablesOf [(.tenants, row 1 []), (.catalogProducts, row 1 [(.tenantId, 1)])]
  auditEvents := []
  purgeLocks := []

end Sample

private theorem twoTenants_consistent : ForeignKeyConsistent Sample.twoTenants.tables where
  consistent table := by
    have all : ∀ table ∈ tableNames, ∀ row ∈ Sample.twoTenants.tables table,
        ∀ reference ∈ schema.references table row, ∃ found ∈ Sample.twoTenants.tables reference.1,
        schema.key found = reference.2 := by decide +kernel
    exact all table (schema.complete table)
  keyed table := by
    have all : ∀ table ∈ tableNames, ((Sample.twoTenants.tables table).map TableRow.id).Nodup := by
      decide +kernel
    exact all table (schema.complete table)

private theorem twoTenants_purgeable : Purgeable 1 Sample.twoTenants where
  unlocked := by decide
  covered table := by
    have all : ∀ table ∈ tableNames, table ∉ purgedTables → ∀ row ∈ Sample.twoTenants.tables table,
        ¬ BelongsTo 1 Sample.twoTenants.tables table row := by decide +kernel
    exact all table (schema.complete table)
  uncrossed table row inTable foreign other := by
    have all : ∀ table ∈ tableNames, ∀ row ∈ Sample.twoTenants.tables table,
        ¬ BelongsTo 1 Sample.twoTenants.tables table row → ∀ other ∈ tableNames,
        ∀ target ∈ Sample.twoTenants.tables other,
        BelongsTo 1 Sample.twoTenants.tables other target →
          (other, target.id) ∉ schema.references table row := by decide +kernel
    exact all table (schema.complete table) row inTable foreign other (schema.complete other)

/-- A tenant with a shop, goods and a role template is purged. -/
theorem twoTenants_purged : PurgesCompletely 1 false Sample.twoTenants :=
  (tenant_purge_complete_iff 1 false Sample.twoTenants twoTenants_consistent
    ⟨Sample.row 1 [], by simp [Sample.twoTenants, tablesOf], rfl⟩).mpr twoTenants_purgeable

/-- A tenant with a product in its catalog is not purged: the product still references it. -/
theorem purge_of_cataloged : ¬ ∀ tenantId preserveAuditEvents db, ForeignKeyConsistent db.tables →
    (∃ row ∈ db.tables .tenants, row.id = tenantId) →
    PurgesCompletely tenantId preserveAuditEvents db := by
  intro always
  have consistent : ForeignKeyConsistent Sample.cataloged.tables := by
    have all : (∀ table ∈ tableNames, ∀ row ∈ Sample.cataloged.tables table,
        ∀ reference ∈ schema.references table row, ∃ found ∈ Sample.cataloged.tables reference.1,
        schema.key found = reference.2) ∧ ∀ table ∈ tableNames,
        ((Sample.cataloged.tables table).map TableRow.id).Nodup := by decide +kernel
    exact ⟨fun table => all.1 table (schema.complete table), fun table =>
      all.2 table (schema.complete table)⟩
  obtain ⟨result, success, _⟩ := always 1 false Sample.cataloged consistent
    ⟨Sample.row 1 [], by simp [Sample.cataloged, tablesOf], rfl⟩
  have failed : (executeTenant 1 false false Sample.cataloged).1 = .error .integrityError := by
    decide +kernel
  rw [failed] at success
  contradiction

end ArisCloud.Purge

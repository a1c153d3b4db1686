import ArisCloud.Model.ContentWipe
import ArisCloud.Soundness.TenantPurge

/-! # When a content wipe is complete and contained

A wipe deletes the rows of its scope table by table. It completes when no row that it leaves
references one that it deletes, and no EPC assignment names a sale line that it deletes, since sale
lines go before the assignments. It then deletes exactly the rows of its scope, as many as the dry
run counts.
-/

namespace ArisCloud.ContentWipe

open Deletions Purge

/-! ## Counts -/

section Counts

variable {counts dry : Counts} {name : String} {count : ℕ}

@[simp] theorem countOf_nil (name : String) : countOf [] name = 0 := rfl

private theorem countOf_cons (entry : String × ℕ) (rest : Counts) (name : String) :
    countOf (entry :: rest) name = if entry.1 = name then entry.2 else countOf rest name := by
  obtain ⟨key, count⟩ := entry
  rw [countOf, List.lookup_cons]
  by_cases same : key = name
  · simp [same]
  · have other : (name == key) = false := by simpa using Ne.symm same
    rw [other, if_neg same]
    rfl

private theorem countOf_setCount (counts : Counts) (name : String) (count : ℕ) (other : String) :
    countOf (setCount name count counts) other = if name = other then count
    else countOf counts other := by
  induction counts with
  | nil => rw [setCount, countOf_cons]
  | cons entry rest ih =>
    rw [setCount]
    split
    · next same =>
      rw [countOf_cons, countOf_cons]
      split
      · rfl
      · next apart => rw [if_neg (same ▸ apart)]
    · next apart =>
      rw [countOf_cons, countOf_cons, ih]
      by_cases here : entry.1 = other
      · rw [if_pos here, if_neg (fun same => apart (here.trans same.symm)), if_pos here]
      · rw [if_neg here, if_neg here]

/-- A name that is counted once has its count. -/
theorem countOf_of_mem (distinct : (counts.map Prod.fst).Nodup) (member : (name, count) ∈ counts) :
    countOf counts name = count := by
  induction counts with
  | nil => contradiction
  | cons entry rest ih =>
    obtain ⟨fresh, distinct⟩ := List.nodup_cons.mp distinct
    rw [countOf_cons]
    rcases List.mem_cons.mp member with rfl | later
    · exact if_pos rfl
    · have other : entry.1 ≠ name := fun same =>
        fresh (same ▸ List.mem_map_of_mem (f := Prod.fst) later)
      rw [if_neg other, ih distinct later]

/-- A name that is only counted as zero, or not at all, has no count. -/
theorem countOf_eq_zero (none : ∀ entry ∈ counts, entry.1 = name → entry.2 = 0) :
    countOf counts name = 0 := by
  induction counts with
  | nil => rfl
  | cons entry rest ih =>
    rw [countOf_cons]
    split
    · next same => exact none entry (List.mem_cons_self ..) same
    · exact ih fun other member => none other (List.mem_cons_of_mem _ member)

private theorem countOf_zeroCounts (counts : Counts) (name : String) :
    countOf (zeroCounts counts) name = 0 := by
  apply countOf_eq_zero
  rintro entry member _
  obtain ⟨_, _, rfl⟩ := List.mem_map.mp member
  rfl

/-- Set the counts of several names. -/
def setCounts (counts entries : Counts) : Counts :=
  entries.foldl (fun counts entry => setCount entry.1 entry.2 counts) counts

/-- Counts agree when each one that is set agrees, and those that are not set agree from the
start. -/
theorem countOf_setCounts {entries : Counts}
    (agree : ∀ entry ∈ entries, entry.2 = countOf dry entry.1)
    (others : ∀ name, (∀ entry ∈ entries, entry.1 ≠ name) → countOf counts name = countOf dry name)
    (name : String) :
    countOf (setCounts counts entries) name = countOf dry name := by
  induction entries generalizing counts with
  | nil => exact others name nofun
  | cons entry rest ih =>
    apply ih fun other member => agree other (List.mem_cons_of_mem _ member)
    intro other unset
    rw [countOf_setCount]
    split
    · next same => rw [agree entry (List.mem_cons_self ..), same]
    · next apart =>
      apply others
      rintro counted member
      rcases List.mem_cons.mp member with rfl | later
      · exact apart
      · exact unset counted later

end Counts

/-! ## Statements -/

section Statements

variable {tables left : Tables TableName TableRow} {counts : Counts}
    {statements more : List Statement}

/-- The loop of a wipe is a list of deletions, and counts the rows as they were. -/
theorem deleteCounting_eq (distinct : (statements.map (·.2.1)).Nodup) :
    deleteCounting tables counts statements =
    (deleteAll schema tables (statements.map Prod.snd)).map fun left =>
    (left, setCounts counts (countAll tables statements)) := by
  induction statements generalizing tables counts with
  | nil => rfl
  | cons statement rest ih =>
    obtain ⟨name, target, doomed⟩ := statement
    obtain ⟨fresh, distinct⟩ := List.nodup_cons.mp distinct
    rw [deleteCounting, List.map_cons, deleteAll]
    cases deleted : deleteWhere schema tables target doomed with
    | none => rfl
    | some result =>
      obtain ⟨_, rfl⟩ := deleteWhere_eq_some.mp deleted
      have same : countAll (without tables target doomed) rest = countAll tables rest := by
        refine List.map_congr_left fun statement member => ?_
        have other : target ≠ statement.2.1 := fun same =>
          fresh (List.mem_map.mpr ⟨statement, member, same.symm⟩)
        rw [without_of_ne other]
      change deleteCounting (without tables target doomed) _ rest =
        Option.map _ (deleteAll schema (without tables target doomed) _)
      rw [ih distinct, same]
      rfl

private theorem deleteCounting_append : deleteCounting tables counts (statements ++ more) =
    (deleteCounting tables counts statements).bind fun result =>
    deleteCounting result.1 result.2 more := by
  induction statements generalizing tables counts with
  | nil => rfl
  | cons statement rest ih =>
    obtain ⟨name, target, doomed⟩ := statement
    rw [List.cons_append, deleteCounting, deleteCounting]
    cases deleteWhere schema tables target doomed with
    | none => rfl
    | some result => exact ih

/-- The statements of a store wipe on the given rows. -/
def storeStatements (storeId : ℕ) (tables : Tables TableName TableRow) : List Statement :=
  transferDeletions (transferIds storeId tables) ++
    (saleDeletions (saleIds storeId tables) ++ storeDeletions storeId)

/-- The tables of a store wipe, in their order. -/
def storeTables : List TableName :=
  [.transferMovements, .transferLines, .transfers, .posPayments, .posSaleLines, .posReturnEvents,
    .posSales, .posCashDayCloses, .posCashMovements, .posCashSessions, .exportRecords,
    .preloadLines, .preloadSessions, .epcAssignments, .stockItems]

variable {storeId : ℕ}

private theorem storeStatements_tables :
    ((storeStatements storeId tables).map (·.2.1)).Sublist storeTables := by
  simp only [storeStatements, transferDeletions, saleDeletions, storeDeletions]
  split <;> split <;> simp only [List.map_append, List.map_cons, List.map_nil, List.nil_append] <;>
    decide

private theorem deleteStoreContent_eq : deleteStoreContent storeId tables =
    deleteCounting tables (zeroCounts (storeCounts storeId tables))
    (storeStatements storeId tables) := by
  have transfers : ((transferDeletions (transferIds storeId tables)).map (·.2.1)).Sublist
      [.transferMovements, .transferLines, .transfers] := by
    rw [transferDeletions]
    split <;> simp only [List.map_cons, List.map_nil] <;> decide
  rw [deleteStoreContent, storeStatements, deleteCounting_append,
    deleteCounting_eq (transfers.nodup (by decide))]
  cases first :
      deleteAll schema tables ((transferDeletions (transferIds storeId tables)).map Prod.snd) with
  | none => rfl
  | some moved =>
    have sales : moved .posSales = tables .posSales := by
      apply deleteAll_apply_of_notMem first
      rw [List.map_map]
      exact fun member => absurd (transfers.subset member) (by decide)
    have ids : saleIds storeId moved = saleIds storeId tables := by rw [saleIds, sales, saleIds]
    change (deleteCounting moved _ (saleDeletions (saleIds storeId moved))).bind _ =
      deleteCounting moved _ _
    rw [ids, deleteCounting_append]

/-- The statements of a tenant wipe. -/
def tenantStatements (tenantId : ℕ) (options : WipeOptions) : List Statement :=
  tenantSelections tenantId ++
    if options.deleteIdempotencyRecords then
      [("tenant_idempotency_records", .idempotencyRecords, ofTenant tenantId)]
    else []

/-- The tables of a tenant wipe, in their order. -/
def tenantTables : List TableName := tenantContent.map Prod.snd ++ [.idempotencyRecords]

variable {tenantId : ℕ} {options : WipeOptions}

private theorem tenantStatements_tables :
    ((tenantStatements tenantId options).map (·.2.1)).Sublist tenantTables := by
  rw [tenantStatements, tenantSelections, List.map_append, List.map_map]
  split <;> simp only [List.map_cons, List.map_nil, tenantContent, tenantTables,
    Function.comp_def] <;> decide

end Statements

/-! ## Scopes -/

/-- What is wiped. -/
inductive Scope where
  | tenant (tenantId : ℕ)
  | store (storeId : ℕ)
  deriving DecidableEq, Repr

namespace Scope

/-- The tenant or the store is in its table. -/
def Present (tables : Tables TableName TableRow) : Scope → Prop
  | tenant tenantId => ∃ row ∈ tables .tenants, row.id = tenantId
  | store storeId => ∃ row ∈ tables .stores, row.id = storeId

/-- The tenant that is wiped, or whose store is wiped. -/
def tenantId (tables : Tables TableName TableRow) : Scope → ℕ
  | tenant tenantId => tenantId
  | store storeId =>
    (((tables .stores).find? fun row => row.id = storeId).bind (·.column .tenantId)).getD 0

def execute (actorStoreId : Option ℕ) (dryRun : Bool) (options : WipeOptions) (db : Database) :
    Scope → Except WipeError ContentWipeResult × Database
  | tenant tenantId => executeTenantWipe tenantId actorStoreId dryRun options db
  | store storeId => executeStoreWipe storeId actorStoreId dryRun options db

def lock : Scope → PurgeLock
  | tenant tenantId => ⟨"tenant_content", tenantId⟩
  | store storeId => ⟨"store_content", storeId⟩

/-- The rows of a scope: those of the tenant in the wiped tables; or those of the store, its
transfers with their lines and movements, and the lines and payments of its sales. -/
def Content (options : WipeOptions) (tables : Tables TableName TableRow) : Scope → TableName →
    TableRow → Prop
  | tenant tenantId, table, row => ofTenant tenantId row ∧
      (table ∈ tenantContent.map Prod.snd ∨ table = .idempotencyRecords ∧
      options.deleteIdempotencyRecords)
  | store storeId, .transfers, row => transferFilter storeId row
  | store storeId, .transferLines, row | store storeId, .transferMovements, row =>
    ∃ transfer ∈ tables .transfers, transferFilter storeId transfer ∧ row.column .transferId =
      some transfer.id
  | store storeId, .posSaleLines, row | store storeId, .posPayments, row =>
    ∃ sale ∈ tables .posSales, ofStore storeId sale ∧ row.column .saleId = some sale.id
  | store storeId, .posReturnEvents, row | store storeId, .posSales, row
  | store storeId, .posCashDayCloses, row
  | store storeId, .posCashMovements, row | store storeId, .posCashSessions, row
  | store storeId, .exportRecords, row
  | store storeId, .preloadLines, row | store storeId, .preloadSessions, row
  | store storeId, .epcAssignments, row
  | store storeId, .stockItems, row => ofStore storeId row
  | store _, _, _ => False

/-- The audit events of a scope. -/
def ownEvent : Scope → WipeEvent → Bool
  | tenant tenantId => eventOfTenant tenantId
  | store storeId => eventOfStore storeId

def statements (options : WipeOptions) (tables : Tables TableName TableRow) : Scope → List Statement
  | tenant tenantId => tenantStatements tenantId options
  | store storeId => storeStatements storeId tables

/-- The tables of a wipe, in their order. -/
def order : Scope → List TableName
  | tenant _ => tenantTables
  | store _ => storeTables

end Scope

section Scopes

variable {scope : Scope} {options : WipeOptions} {tables : Tables TableName TableRow}
    {table : TableName} {row : TableRow}

private theorem order_nodup (scope : Scope) : scope.order.Nodup := by
  cases scope <;> (rw [Scope.order]; decide)

private theorem statements_tables (scope : Scope) (options : WipeOptions)
    (tables : Tables TableName TableRow) :
    ((scope.statements options tables).map (·.2.1)).Sublist scope.order := by
  cases scope with
  | tenant tenantId => exact tenantStatements_tables
  | store storeId => exact storeStatements_tables

/-- The statements run in the order of the tables. -/
theorem statements_sorted :
    ((scope.statements options tables).map Prod.snd).Pairwise fun first next =>
    scope.order.idxOf first.1 < scope.order.idxOf next.1 := by
  have sorted : scope.order.Pairwise fun first next => scope.order.idxOf first <
      scope.order.idxOf next := by
    cases scope <;> (rw [Scope.order]; decide)
  have along := sorted.sublist (statements_tables scope options tables)
  rw [List.pairwise_map] at along
  rw [List.pairwise_map]
  exact along

private theorem content_table (content : scope.Content options tables table row) :
    table ∈ scope.order := by
  cases scope with
  | tenant tenantId =>
    rcases content.2 with wiped | ⟨rfl, _⟩
    · exact List.mem_append_left _ wiped
    · exact List.mem_append_right _ (List.mem_singleton_self _)
  | store storeId =>
    rw [Scope.order]
    cases table <;> first | exact False.elim content | decide

private theorem holdsAny_iff {column : Column} {ids : List ℕ} :
    holdsAny column ids row = true ↔ ∃ id ∈ ids, row.column column = some id := by
  rw [holdsAny, Option.any_eq_true]
  constructor
  · rintro ⟨id, filled, listed⟩
    exact ⟨id, List.contains_iff_mem.mp listed, filled⟩
  · rintro ⟨id, listed, filled⟩
    exact ⟨id, filled, List.contains_iff_mem.mpr listed⟩

private theorem mem_transferIds {storeId id : ℕ} : id ∈ transferIds storeId tables ↔
    ∃ transfer ∈ tables .transfers, transferFilter storeId transfer = true ∧ transfer.id = id := by
  simp only [transferIds, List.mem_map, List.mem_filter, and_assoc]

private theorem mem_saleIds {storeId id : ℕ} : id ∈ saleIds storeId tables ↔
    ∃ sale ∈ tables .posSales, ofStore storeId sale = true ∧ sale.id = id := by
  simp only [saleIds, List.mem_map, List.mem_filter, and_assoc]

private theorem transferDeletions_iff {ids : List ℕ} :
    (∃ doomed, (table, doomed) ∈ (transferDeletions ids).map Prod.snd ∧ doomed row = true) ↔
      (table = .transferMovements ∨ table = .transferLines) ∧
      (∃ id ∈ ids, row.column .transferId = some id) ∨
        table = .transfers ∧ row.id ∈ ids := by
  rw [transferDeletions]
  split
  · next none =>
    rw [List.isEmpty_iff] at none
    simp [none]
  · simp only [List.map_cons, List.map_nil, List.mem_cons, List.not_mem_nil, or_false,
      Prod.mk.injEq]
    constructor
    · rintro ⟨doomed, ⟨rfl, rfl⟩ | ⟨rfl, rfl⟩ | ⟨rfl, rfl⟩, isDoomed⟩
      · exact .inl ⟨.inl rfl, holdsAny_iff.mp isDoomed⟩
      · exact .inl ⟨.inr rfl, holdsAny_iff.mp isDoomed⟩
      · exact .inr ⟨rfl, List.contains_iff_mem.mp isDoomed⟩
    · rintro (⟨rfl | rfl, named⟩ | ⟨rfl, listed⟩)
      · exact ⟨_, .inl ⟨rfl, rfl⟩, holdsAny_iff.mpr named⟩
      · exact ⟨_, .inr (.inl ⟨rfl, rfl⟩), holdsAny_iff.mpr named⟩
      · exact ⟨_, .inr (.inr ⟨rfl, rfl⟩), List.contains_iff_mem.mpr listed⟩

private theorem saleDeletions_iff {ids : List ℕ} :
    (∃ doomed, (table, doomed) ∈ (saleDeletions ids).map Prod.snd ∧ doomed row = true) ↔
      (table = .posPayments ∨ table = .posSaleLines) ∧ ∃ id ∈ ids,
      row.column .saleId = some id := by
  rw [saleDeletions]
  split
  · next none =>
    rw [List.isEmpty_iff] at none
    simp [none]
  · simp only [List.map_cons, List.map_nil, List.mem_cons, List.not_mem_nil, or_false,
      Prod.mk.injEq]
    constructor
    · rintro ⟨doomed, ⟨rfl, rfl⟩ | ⟨rfl, rfl⟩, isDoomed⟩
      · exact ⟨.inl rfl, holdsAny_iff.mp isDoomed⟩
      · exact ⟨.inr rfl, holdsAny_iff.mp isDoomed⟩
    · rintro ⟨rfl | rfl, named⟩
      · exact ⟨_, .inl ⟨rfl, rfl⟩, holdsAny_iff.mpr named⟩
      · exact ⟨_, .inr ⟨rfl, rfl⟩, holdsAny_iff.mpr named⟩

/-- The tables that a store wipe deletes from by their own store. -/
def ownTables : List TableName :=
  [.posReturnEvents, .posSales, .posCashDayCloses, .posCashMovements, .posCashSessions,
    .exportRecords, .preloadLines, .preloadSessions, .epcAssignments, .stockItems]

private theorem storeDeletions_iff {storeId : ℕ} :
    (∃ doomed, (table, doomed) ∈ (storeDeletions storeId).map Prod.snd ∧ doomed row = true) ↔
      table ∈ ownTables ∧ ofStore storeId row = true := by
  have statements : (storeDeletions storeId).map Prod.snd = ownTables.map fun table =>
    (table, ofStore storeId) := rfl
  simp only [statements, List.mem_map, Prod.mk.injEq]
  constructor
  · rintro ⟨_, ⟨_, listed, rfl, rfl⟩, isDoomed⟩
    exact ⟨listed, isDoomed⟩
  · rintro ⟨listed, isDoomed⟩
    exact ⟨_, ⟨table, listed, rfl, rfl⟩, isDoomed⟩

/-- The rows with a store of their own that a store wipe deletes are of that store. -/
theorem Scope.Content.ofStore {storeId : ℕ} (own : table ∈ ownTables)
    (content : (Scope.store storeId).Content options tables table row) :
    row.column .storeId = some storeId := by
  simp only [ownTables, List.mem_cons, List.not_mem_nil, or_false] at own
  rcases own with rfl | rfl | rfl | rfl | rfl | rfl | rfl | rfl | rfl | rfl <;>
    exact of_decide_eq_true content

/-- A wipe deletes the rows of its scope. -/
theorem survives_statements (keyed : ∀ table, ((tables table).map TableRow.id).Nodup)
    (present : row ∈ tables table) :
    survives ((scope.statements options tables).map Prod.snd) table row = false ↔
    scope.Content options tables table row := by
  rw [not_survives_iff]
  cases scope with
  | tenant tenantId =>
    simp only [Scope.statements, tenantStatements, tenantSelections, List.map_append,
      List.mem_append, List.mem_map, Scope.Content]
    constructor
    · rintro ⟨doomed, ⟨_, ⟨entry, listed, rfl⟩, same⟩ | ⟨statement, extra, same⟩, isDoomed⟩
      · obtain ⟨rfl, rfl⟩ := Prod.mk.inj same
        exact ⟨isDoomed, .inl ⟨entry, listed, rfl⟩⟩
      · split at extra
        · next deletes =>
          obtain rfl := List.mem_singleton.mp extra
          obtain ⟨rfl, rfl⟩ := Prod.mk.inj same
          exact ⟨isDoomed, .inr ⟨rfl, deletes⟩⟩
        · contradiction
    · rintro ⟨isDoomed, ⟨entry, listed, rfl⟩ | ⟨rfl, deletes⟩⟩
      · exact ⟨ofTenant tenantId, .inl ⟨_, ⟨entry, listed, rfl⟩, rfl⟩, isDoomed⟩
      · rw [if_pos deletes]
        exact ⟨ofTenant tenantId, .inr ⟨_, List.mem_singleton_self _, rfl⟩, isDoomed⟩
  | store storeId =>
    simp only [Scope.statements, storeStatements, List.map_append, List.mem_append, or_and_right,
      exists_or]
    rw [transferDeletions_iff, saleDeletions_iff, storeDeletions_iff]
    simp only [mem_transferIds, mem_saleIds]
    constructor
    · rintro ((⟨rfl | rfl, _, ⟨transfer, isTransfer, own, rfl⟩, named⟩ | ⟨rfl, transfer, isTransfer,
          own, same⟩) |
        ⟨rfl | rfl, _, ⟨sale, isSale, own, rfl⟩, named⟩ | ⟨listed, own⟩)
      · rw [Scope.Content]
        exact ⟨transfer, isTransfer, own, named⟩
      · rw [Scope.Content]
        exact ⟨transfer, isTransfer, own, named⟩
      · obtain rfl := List.inj_on_of_nodup_map (keyed _) isTransfer present same
        exact own
      · rw [Scope.Content]
        exact ⟨sale, isSale, own, named⟩
      · rw [Scope.Content]
        exact ⟨sale, isSale, own, named⟩
      · simp only [ownTables, List.mem_cons, List.not_mem_nil, or_false] at listed
        rcases listed with rfl | rfl | rfl | rfl | rfl | rfl | rfl | rfl | rfl | rfl <;> exact own
    · intro content
      cases table with
      | transfers => exact .inl (.inr ⟨rfl, row, present, content, rfl⟩)
      | transferMovements | transferLines =>
        obtain ⟨transfer, isTransfer, own, named⟩ := content
        exact .inl (.inl ⟨by simp, transfer.id, ⟨transfer, isTransfer, own, rfl⟩, named⟩)
      | posPayments | posSaleLines =>
        obtain ⟨sale, isSale, own, named⟩ := content
        exact .inr (.inl ⟨by simp, sale.id, ⟨sale, isSale, own, rfl⟩, named⟩)
      | _ => first | exact False.elim content | exact .inr (.inr ⟨by decide, content⟩)

/-! ## Counts of a wipe -/

/-- A store wipe deletes as many rows as are counted. -/
theorem storeStatements_counted {storeId : ℕ}
    (keyed : ((tables .transfers).map TableRow.id).Nodup) :
    ∀ entry ∈ countAll tables (storeStatements storeId tables),
    entry ∈ storeCounts storeId tables := by
  have transfers : (tables .transfers).countP
      (fun row => (transferIds storeId tables).contains row.id) =
      (tables .transfers).countP (transferFilter storeId) := by
    refine List.countP_congr fun row member => ?_
    rw [List.contains_iff_mem, mem_transferIds]
    constructor
    · rintro ⟨transfer, isTransfer, own, same⟩
      obtain rfl := List.inj_on_of_nodup_map keyed isTransfer member same
      exact own
    · intro own
      exact ⟨row, member, own, rfl⟩
  intro entry member
  obtain ⟨statement, isStatement, rfl⟩ := List.mem_map.mp member
  rw [storeStatements, List.mem_append, List.mem_append] at isStatement
  rcases isStatement with transfer | sale | own
  · rw [transferDeletions] at transfer
    split at transfer
    · contradiction
    · simp only [List.mem_cons, List.not_mem_nil, or_false] at transfer
      rcases transfer with rfl | rfl | rfl
      · simp [storeCounts, countAll, storeSelections]
      · simp [storeCounts, countAll, storeSelections]
      · rw [transfers]
        simp [storeCounts, countAll, storeSelections]
  · rw [saleDeletions] at sale
    split at sale
    · contradiction
    · simp only [List.mem_cons, List.not_mem_nil, or_false] at sale
      rcases sale with rfl | rfl <;> simp [storeCounts, countAll, storeSelections]
  · have selected : statement ∈ storeSelections storeId tables := by
      simp only [storeDeletions, List.mem_cons, List.not_mem_nil, or_false] at own
      rcases own with rfl | rfl | rfl | rfl | rfl | rfl | rfl | rfl | rfl | rfl <;>
        simp [storeSelections]
    exact List.mem_map_of_mem selected

/-- What a store wipe does not delete is counted as zero. -/
theorem storeCounts_uncounted {storeId : ℕ} : ∀ entry ∈ storeCounts storeId tables, entry.2 = 0 ∨
    entry.1 ∈ (storeStatements storeId tables).map Prod.fst := by
  have unheld {column : Column} {rows : List TableRow} {ids : List ℕ} (none : ids.isEmpty = true) :
      rows.countP (holdsAny column ids) = 0 := by
    rw [List.isEmpty_iff] at none
    rw [List.countP_eq_zero]
    intro row _
    simp [holdsAny, none]
  have transfers : (transferIds storeId tables).isEmpty = true →
      (tables .transfers).countP (transferFilter storeId) = 0 := by
    intro none
    rw [List.isEmpty_iff] at none
    rw [List.countP_eq_zero]
    intro row member own
    have listed : row.id ∈ transferIds storeId tables := mem_transferIds.mpr ⟨row, member, own, rfl⟩
    rw [none] at listed
    contradiction
  intro entry member
  obtain ⟨selection, isSelection, rfl⟩ := List.mem_map.mp member
  rw [storeStatements, transferDeletions, saleDeletions]
  by_cases moved : (transferIds storeId tables).isEmpty = true <;>
    by_cases sold : (saleIds storeId tables).isEmpty = true
  all_goals
    simp only [storeSelections, List.mem_cons, List.not_mem_nil, or_false] at isSelection
    rcases isSelection with rfl | rfl | rfl | rfl | rfl | rfl | rfl | rfl | rfl | rfl | rfl | rfl |
      rfl | rfl | rfl
    all_goals simp only [moved, sold, unheld, transfers, if_pos, true_or, storeDeletions,
      List.map_append, List.map_cons, List.map_nil, List.mem_append, List.mem_cons,
      Bool.false_eq_true, if_false, or_true]

/-- The counts of a store wipe agree with its dry run. -/
theorem storeCounts_agree {storeId : ℕ} (keyed : ((tables .transfers).map TableRow.id).Nodup)
    (name : String) :
    countOf (setCounts (zeroCounts (storeCounts storeId tables))
      (countAll tables (storeStatements storeId tables))) name =
      countOf (storeCounts storeId tables) name := by
  have distinct : ((storeCounts storeId tables).map Prod.fst).Nodup := by
    simp only [storeCounts, countAll, storeSelections, List.map_cons, List.map_nil]
    decide
  refine countOf_setCounts (fun entry member => ?_) (fun other unset => ?_) name
  · exact (countOf_of_mem distinct (storeStatements_counted keyed entry member)).symm
  · rw [countOf_zeroCounts, countOf_eq_zero]
    rintro entry member rfl
    rcases storeCounts_uncounted entry member with zero | set
    · exact zero
    · obtain ⟨statement, isStatement, same⟩ := List.mem_map.mp set
      exact absurd same (unset _ (List.mem_map_of_mem isStatement))

/-- The counts of a tenant wipe agree with its dry run. -/
theorem tenantCounts_agree {tenantId : ℕ} (name : String) :
    countOf (setCounts (zeroCounts (tenantCounts tenantId tables))
      (countAll tables (tenantSelections tenantId))) name =
      countOf (tenantCounts tenantId tables) name := by
  have distinct : ((tenantCounts tenantId tables).map Prod.fst).Nodup := by
    rw [tenantCounts, countAll, tenantSelections, List.map_map, List.map_map]
    simp only [tenantContent, Function.comp_def, List.map_cons, List.map_nil]
    decide
  refine countOf_setCounts (fun entry member => ?_) (fun other unset => ?_) name
  · exact (countOf_of_mem distinct member).symm
  · rw [countOf_zeroCounts, countOf_eq_zero]
    rintro entry member rfl
    exact absurd rfl (unset entry member)

/-- The audit events that a wipe keeps. -/
def Scope.keptEvents (scope : Scope) (options : WipeOptions) (events : List WipeEvent) :
    List WipeEvent :=
  if options.erasesEvents then events.filter fun event => !scope.ownEvent event else events

/-- What the wipe of a scope does. -/
structure WipeOf (scope : Scope) (options : WipeOptions) (db : Database) (wipe : Wipe) : Prop where
  lock : wipe.lock = scope.lock
  deletes : ∃ counts, (∀ name, countOf counts name = countOf wipe.counts name) ∧
    ∀ locks, wipe.delete { db with purgeLocks := locks } =
      (deleteAll schema db.tables ((scope.statements options db.tables).map Prod.snd)).map
      fun left =>
        ({ tables := left, auditEvents := scope.keptEvents options db.auditEvents,
           purgeLocks := locks }, counts)

variable {db : Database}

private theorem storeWipe_wipeOf {storeId : ℕ} (store : TableRow)
    (keyed : ((db.tables .transfers).map TableRow.id).Nodup) :
    WipeOf (.store storeId) options db (storeWipe storeId options store db) where
  lock := rfl
  deletes := by
    let written : Counts :=
      setCounts (zeroCounts (storeCounts storeId db.tables))
        (countAll db.tables (storeStatements storeId db.tables))
    refine ⟨(eraseEvents "store_audit_events" options.erasesEvents
        (eventOfStore storeId) db.auditEvents written).2, ?_, ?_⟩
    · intro name
      have unlisted : countOf (storeCounts storeId db.tables) "store_audit_events" = 0 := by
        refine countOf_eq_zero fun entry member same => ?_
        obtain ⟨selection, isSelection, rfl⟩ := List.mem_map.mp member
        have names : ∀ selection ∈ storeSelections storeId db.tables,
            selection.1 ≠ "store_audit_events" := by
          simp [storeSelections]
        exact absurd same (names selection isSelection)
      rw [eraseEvents, storeWipe]
      cases options.erasesEvents with
      | true =>
        change countOf (setCount _ _ written) name = countOf (setCount _ _ _) name
        rw [countOf_setCount, countOf_setCount, storeCounts_agree keyed]
      | false =>
        change countOf (setCount _ _ written) name = countOf (storeCounts storeId db.tables) name
        rw [countOf_setCount, storeCounts_agree keyed]
        split
        · next same => rw [← same, unlisted]
        · rfl
    · intro locks
      change (deleteStoreContent storeId db.tables).bind _ = _
      have distinct : ((storeStatements storeId db.tables).map (·.2.1)).Nodup :=
        storeStatements_tables.nodup (order_nodup (.store storeId))
      rw [deleteStoreContent_eq, deleteCounting_eq distinct]
      change Option.bind
        (Option.map _ (deleteAll schema db.tables
          ((storeStatements storeId db.tables).map Prod.snd))) _ =
        Option.map _ (deleteAll schema db.tables ((storeStatements storeId db.tables).map Prod.snd))
      cases deleteAll schema db.tables ((storeStatements storeId db.tables).map Prod.snd) with
      | none => rfl
      | some left =>
        rw [Scope.keptEvents, eraseEvents]
        cases options.erasesEvents <;> rfl

/-- The tables of the loop of a tenant wipe. -/
theorem tenantSelections_tables {tenantId : ℕ} :
    (tenantSelections tenantId).map (·.2.1) = tenantContent.map Prod.snd := by
  rw [tenantSelections, List.map_map]
  rfl

private theorem deleteRecords_eq {tenantId : ℕ} {deletes : Bool} {counts : Counts} :
    deleteRecords tenantId deletes tables counts =
    (deleteAll schema tables ((if deletes then
        [("tenant_idempotency_records", TableName.idempotencyRecords, ofTenant tenantId)]
            else []).map Prod.snd)).map fun left =>
      (left, setCount "tenant_idempotency_records"
        (if deletes then (tables .idempotencyRecords).countP (ofTenant tenantId)
          else 0) counts) := by
  cases deletes with
  | false => rfl
  | true =>
    change (deleteWhere schema tables .idempotencyRecords (ofTenant tenantId)).bind _ =
      Option.map _ (Option.bind _ _)
    cases deleted : deleteWhere schema tables .idempotencyRecords (ofTenant tenantId) with
    | none => rfl
    | some result =>
      obtain ⟨_, rfl⟩ := deleteWhere_eq_some.mp deleted
      rfl

private theorem tenantWipe_wipeOf {tenantId : ℕ} : WipeOf (.tenant tenantId) options db
    (tenantWipe tenantId options db) where
  lock := rfl
  deletes := by
    obtain ⟨written, isWritten⟩ : ∃ written, written =
      setCounts (zeroCounts (tenantCounts tenantId db.tables))
      (countAll db.tables (tenantSelections tenantId)) := ⟨_, rfl⟩
    let events : ℕ := if options.erasesEvents then db.auditEvents.countP (eventOfTenant tenantId)
      else 0
    let records : ℕ :=
      if options.deleteIdempotencyRecords then (db.tables .idempotencyRecords).countP
        (ofTenant tenantId) else 0
    refine ⟨setCount "tenant_idempotency_records" records
      (setCount "tenant_audit_events" events written), ?_, ?_⟩
    · intro name
      change _ = countOf (setCount _ records (setCount _ events _)) name
      rw [countOf_setCount, countOf_setCount, countOf_setCount, countOf_setCount, isWritten,
        tenantCounts_agree]
    · intro locks
      have distinct : ((tenantSelections tenantId).map (·.2.1)).Nodup := by
        rw [tenantSelections_tables]
        decide
      change (deleteTenantContent tenantId db.tables).bind _ = _
      rw [deleteTenantContent, deleteCounting_eq distinct, ← isWritten, Scope.statements,
        tenantStatements, List.map_append, deleteAll_append]
      cases first : deleteAll schema db.tables ((tenantSelections tenantId).map Prod.snd) with
      | none => rfl
      | some left =>
        have untouched : left .idempotencyRecords = db.tables .idempotencyRecords := by
          apply deleteAll_apply_of_notMem first
          rw [List.map_map]
          change _ ∉ (tenantSelections tenantId).map (·.2.1)
          rw [tenantSelections_tables]
          decide
        have erased : eraseEvents "tenant_audit_events" options.erasesEvents
            (eventOfTenant tenantId) db.auditEvents written =
            (Scope.keptEvents (.tenant tenantId) options db.auditEvents,
            setCount "tenant_audit_events" events written) := by
          simp only [eraseEvents, Scope.keptEvents, events]
          cases options.erasesEvents <;> rfl
        change Option.bind (deleteRecords tenantId options.deleteIdempotencyRecords left
          (eraseEvents "tenant_audit_events" options.erasesEvents
          (eventOfTenant tenantId) db.auditEvents written).2) _ =
          Option.map _ (deleteAll schema left _)
        rw [deleteRecords_eq, untouched]
        cases deleteAll schema left _ with
        | none => rfl
        | some final =>
          exact congrArg (fun erased : List WipeEvent × Counts =>
            some (({ tables := final, auditEvents := erased.1, purgeLocks := locks } : Database),
              setCount "tenant_idempotency_records" records erased.2)) erased

end Scopes

/-! ## Wipes -/

/-- What a wipe that was not a dry run should lead to: exactly the rows and the audit events of its
scope are gone, none of them another tenant's, or another store's when a store is wiped, and the
counts are those of a dry run. -/
structure WipeExact (scope : Scope) (options : WipeOptions) (db final : Database)
    (result : ContentWipeResult) : Prop where
  consistent : Consistent schema final.tables
  rows : ∀ table row, row ∈ final.tables table ↔ row ∈ db.tables table ∧
    ¬ scope.Content options db.tables table row
  tenant : ∀ table, ∀ row ∈ db.tables table, row ∉ final.tables table → ∀ other,
    row.column .tenantId = some other → other = scope.tenantId db.tables
  store : ∀ storeId, scope = .store storeId → ∀ table ∈ ownTables, ∀ row ∈ db.tables table,
    row ∉ final.tables table → row.column .storeId = some storeId
  events : ∃ completed : WipeEvent, final.auditEvents = scope.keptEvents options db.auditEvents ++
    [completed]
  eventTenant : ∀ event ∈ db.auditEvents, event ∉ scope.keptEvents options db.auditEvents →
    event.tenantId = scope.tenantId db.tables
  locks : ∀ lock, lock ∈ final.purgeLocks ↔ lock ∈ db.purgeLocks
  counts : ∃ deletedCounts, result.deletedCounts = some deletedCounts ∧ ∀ actorStoreId, ∃ dryRun,
    (scope.execute actorStoreId true options db).1 = .ok dryRun ∧
      ∀ name, countOf deletedCounts name = countOf dryRun.wouldDeleteCounts name

/-- The wipe completes, and wipes exactly its scope. -/
def WipesExactly (scope : Scope) (actorStoreId : Option ℕ) (options : WipeOptions) (db : Database) :
    Prop :=
  ∃ result, (scope.execute actorStoreId false options db).1 = .ok result ∧
    WipeExact scope options db (scope.execute actorStoreId false options db).2 result

/-- No wipe of the scope holds the lock; no row that is left references one that is wiped, and no
EPC assignment names a sale line that is wiped; and the rows and the audit events of a store are of
its tenant. -/
structure Wipeable (scope : Scope) (options : WipeOptions) (db : Database) : Prop where
  unlocked : scope.lock ∉ db.purgeLocks
  unreferenced : ∀ table, ∀ row ∈ db.tables table, ¬ scope.Content options db.tables table row →
    ∀ other, ∀ target ∈ db.tables other, scope.Content options db.tables other target →
      (other, target.id) ∉ schema.references table row
  unassigned : ∀ assignment ∈ db.tables .epcAssignments, ∀ line ∈ db.tables .posSaleLines,
    scope.Content options db.tables .posSaleLines line → assignment.column .saleLineId ≠
    some line.id
  tenant : ∀ table, ∀ row ∈ db.tables table, scope.Content options db.tables table row → ∀ other,
    row.column .tenantId = some other → other = scope.tenantId db.tables
  eventTenant : options.erasesEvents = true → ∀ event ∈ db.auditEvents,
    scope.ownEvent event = true → event.tenantId = scope.tenantId db.tables

section Wipes

variable {scope : Scope} {actorStoreId : Option ℕ} {options : WipeOptions} {db : Database}

/-- The request for a scope that is there runs its wipe. -/
theorem execute_eq (options : WipeOptions) (keyed : ((db.tables .transfers).map TableRow.id).Nodup)
    (present : scope.Present db.tables) :
    ∃ wipe, WipeOf scope options db wipe ∧ ∀ actorStoreId dryRun,
    scope.execute actorStoreId dryRun options db =
      wipe.execute actorStoreId dryRun options.preserveAuditEvents db := by
  cases scope with
  | tenant tenantId =>
    refine ⟨_, tenantWipe_wipeOf, fun actorStoreId dryRun => ?_⟩
    rw [Scope.execute, executeTenantWipe]
    cases found : (db.tables .tenants).find? fun row => row.id = tenantId with
    | none =>
      obtain ⟨row, member, same⟩ := present
      exact absurd (decide_eq_true same) (List.find?_eq_none.mp found row member)
    | some row => rfl
  | store storeId =>
    cases found : (db.tables .stores).find? fun row => row.id = storeId with
    | none =>
      obtain ⟨row, member, same⟩ := present
      exact absurd (decide_eq_true same) (List.find?_eq_none.mp found row member)
    | some store =>
      refine ⟨_, storeWipe_wipeOf store keyed, fun actorStoreId dryRun => ?_⟩
      rw [Scope.execute, executeStoreWipe, found]

/-- References between wiped tables lead to tables that are wiped later, except from assignments to
sale lines. -/
theorem foreignKeys_order (scope : Scope) : ∀ table ∈ scope.order, ∀ link ∈ foreignKeys table,
    link.2 ∈ scope.order →
    link.1 ≠ .saleLineId → scope.order.idxOf table < scope.order.idxOf link.2 := by
  cases scope <;> (simp only [Scope.order]; decide)

private theorem foreignKeys_saleLineId : ∀ table ∈ tableNames, ∀ link ∈ foreignKeys table,
    link.1 = .saleLineId →
    table = .epcAssignments ∧ link.2 = .posSaleLines := by
  decide

/-- The statements of a wipeable scope succeed. -/
theorem Wipeable.deleteAll (whole : ForeignKeyConsistent db.tables)
    (wipeable : Wipeable scope options db) :
    ∃ left, deleteAll schema db.tables ((scope.statements options db.tables).map Prod.snd) =
    some left := by
  refine deleteAll_succeeds_of_rank (scope.order.idxOf ·) (statements_sorted.imp Nat.le_of_lt) ?_
  intro target doomed member gone present isDoomed other row isRow references
  have content : scope.Content options db.tables target gone :=
    (survives_statements whole.keyed present).mp (not_survives_iff.mpr ⟨doomed, member, isDoomed⟩)
  have wiped : scope.Content options db.tables other row := by
    by_contra left
    exact wipeable.unreferenced other row isRow left target gone present content references
  refine ⟨?_, (survives_statements whole.keyed isRow).mpr wiped⟩
  obtain ⟨column, link, filled⟩ := mem_references.mp references
  apply foreignKeys_order scope other (content_table wiped) _ link (content_table content)
  intro assigned
  obtain ⟨rfl, rfl⟩ := foreignKeys_saleLineId other (schema.complete other) _ link assigned
  obtain rfl : column = .saleLineId := assigned
  exact wipeable.unassigned row isRow gone present content filled

variable {wipe : Wipe} {preserveAuditEvents : Bool}

private theorem execute_locked (locked : wipe.lock ∈ db.purgeLocks) :
    wipe.execute actorStoreId false preserveAuditEvents db = (.error .alreadyInProgress, db) := by
  simp only [Wipe.execute, Bool.false_eq_true, if_false, acquireLock, if_pos locked]

private theorem execute_dryRun :
    (wipe.execute actorStoreId true preserveAuditEvents db).1 = .ok
    ⟨true, "DRY_RUN", wipe.counts, none⟩ := rfl

/-- A wipe that gets the lock fails when its statements fail. -/
theorem WipeOf.aborts (wipeOf : WipeOf scope options db wipe)
    (unlocked : scope.lock ∉ db.purgeLocks)
    (failed : Deletions.deleteAll schema db.tables
      ((scope.statements options db.tables).map Prod.snd) = none) :
    (wipe.execute actorStoreId false preserveAuditEvents db).1 = .error .integrityError := by
  obtain ⟨counts, _, deletes⟩ := wipeOf.deletes
  rw [← wipeOf.lock] at unlocked
  simp only [Wipe.execute, Bool.false_eq_true, if_false, acquireLock, if_neg unlocked, deletes,
    failed, Option.map_none]

/-- A wipe that gets the lock completes when its statements succeed. -/
theorem WipeOf.completes (wipeOf : WipeOf scope options db wipe) (actorStoreId : Option ℕ)
    (preserveAuditEvents : Bool) (unlocked : scope.lock ∉ db.purgeLocks)
    {left : Tables TableName TableRow}
    (success : Deletions.deleteAll schema db.tables
      ((scope.statements options db.tables).map Prod.snd) = some left) :
    ∃ (counts : Counts) (completed : WipeEvent),
    (∀ name, countOf counts name = countOf wipe.counts name) ∧
      wipe.execute actorStoreId false preserveAuditEvents db =
        (.ok ⟨false, "COMPLETED", wipe.counts, some counts⟩,
          { tables := left
            auditEvents := scope.keptEvents options db.auditEvents ++ [completed]
            purgeLocks := (db.purgeLocks ++ [scope.lock]).filter fun lock =>
            lock != scope.lock }) := by
  obtain ⟨counts, agree, deletes⟩ := wipeOf.deletes
  refine ⟨counts, wipe.event actorStoreId false preserveAuditEvents counts, agree, ?_⟩
  simp only [Wipe.execute, Bool.false_eq_true, if_false, acquireLock, if_neg unlocked, deletes,
    success, Option.map_some, auditEvent, releaseLock, wipeOf.lock]

private theorem mem_releasedLocks {locks : List PurgeLock} {lock own : PurgeLock}
    (unlocked : own ∉ locks) :
    lock ∈ (locks ++ [own]).filter (fun lock => lock != own) ↔ lock ∈ locks := by
  simp only [List.mem_filter, List.mem_append, List.mem_singleton, bne_iff_ne]
  constructor
  · rintro ⟨held | same, other⟩
    · exact held
    · exact absurd same other
  · intro held
    exact ⟨.inl held, fun same => unlocked (same ▸ held)⟩

private theorem mem_keptEvents {event : WipeEvent} {events : List WipeEvent} :
    event ∈ scope.keptEvents options events ↔
    event ∈ events ∧ ¬ (options.erasesEvents = true ∧ scope.ownEvent event = true) := by
  rw [Scope.keptEvents]
  split
  · next erases => simp [erases]
  · next keeps => simp [keeps]

/-- Sale lines are deleted before EPC assignments. -/
theorem saleLines_before_assignments (scope : Scope) :
    scope.order.idxOf .posSaleLines < scope.order.idxOf .epcAssignments := by
  cases scope <;> (rw [Scope.order]; decide)

end Wipes

/-- A content wipe of a tenant or a store of a consistent database completes and wipes exactly its
scope, if and only if the scope is wipeable. -/
theorem content_wipe_exact_iff (scope : Scope) (actorStoreId : Option ℕ) (options : WipeOptions)
    (db : Database) (whole : ForeignKeyConsistent db.tables) (present : scope.Present db.tables) :
    WipesExactly scope actorStoreId options db ↔ Wipeable scope options db := by
  obtain ⟨wipe, wipeOf, executed⟩ := execute_eq options (whole.keyed .transfers) present
  constructor
  · rintro ⟨result, success, exact⟩
    rw [executed] at success exact
    have unlocked : scope.lock ∉ db.purgeLocks := by
      intro locked
      rw [execute_locked (wipeOf.lock ▸ locked)] at success
      contradiction
    cases deleted : deleteAll schema db.tables
        ((scope.statements options db.tables).map Prod.snd) with
    | none =>
      rw [wipeOf.aborts unlocked deleted] at success
      contradiction
    | some left =>
      obtain ⟨_, _, _, outcome⟩ :=
        wipeOf.completes actorStoreId options.preserveAuditEvents unlocked deleted
      rw [outcome] at exact
      have gone : ∀ table, ∀ row ∈ db.tables table, scope.Content options db.tables table row →
          survives ((scope.statements options db.tables).map Prod.snd) table row = false :=
        fun _ _ isRow content =>
        (survives_statements whole.keyed isRow).mpr content
      refine ⟨unlocked, ?_, ?_, ?_, ?_⟩
      · intro table row isRow stays other target isTarget content
        exact deleteAll_unreferenced deleted ((exact.rows table row).mpr ⟨isRow, stays⟩) isTarget
          (gone other target isTarget content)
      · intro assignment isAssignment line isLine content named
        have references : (TableName.posSaleLines, line.id) ∈ schema.references .epcAssignments
            assignment :=
          mem_references.mpr ⟨.saleLineId, by decide, named⟩
        have order := deleteAll_rank_le (scope.order.idxOf ·) statements_sorted deleted isLine
          (gone _ line isLine content) isAssignment references
        have before := saleLines_before_assignments scope
        omega
      · intro table row isRow content
        apply exact.tenant table row isRow
        intro left
        exact ((exact.rows table row).mp left).2 content
      · intro erases event member own
        apply exact.eventTenant event member
        intro kept
        exact (mem_keptEvents.mp kept).2 ⟨erases, own⟩
  · intro wipeable
    obtain ⟨left, deleted⟩ := wipeable.deleteAll whole
    obtain ⟨counts, completed, agree, outcome⟩ :=
      wipeOf.completes actorStoreId options.preserveAuditEvents wipeable.unlocked deleted
    have rows : ∀ table row, row ∈ left table ↔ row ∈ db.tables table ∧
        ¬ scope.Content options db.tables table row := by
      intro table row
      rw [deleteAll_eq deleted, List.mem_filter]
      refine and_congr_right fun isRow => ?_
      rw [← survives_statements whole.keyed isRow, Bool.not_eq_false]
    rw [WipesExactly, executed, outcome]
    refine ⟨_, rfl, ?_⟩
    refine
      { consistent := deleteAll_consistent whole.consistent deleted
        rows := rows
        tenant := ?_
        store := ?_
        events := ⟨completed, rfl⟩
        eventTenant := ?_
        locks := fun lock => mem_releasedLocks wipeable.unlocked
        counts := ⟨counts, rfl, fun actorStoreId =>
        ⟨_, (congrArg Prod.fst (executed ..)).trans execute_dryRun, agree⟩⟩ }
    · intro table row isRow wiped
      apply wipeable.tenant table row isRow
      by_contra stays
      exact wiped ((rows table row).mpr ⟨isRow, stays⟩)
    · rintro storeId rfl table own row isRow wiped
      have content : (Scope.store storeId).Content options db.tables table row := by
        by_contra stays
        exact wiped ((rows table row).mpr ⟨isRow, stays⟩)
      exact content.ofStore own
    · intro event member erased
      rw [mem_keptEvents, not_and, not_not] at erased
      obtain ⟨erases, own⟩ := erased member
      exact wipeable.eventTenant erases event member own

namespace Sample

/-- A store with goods, a sale with its line and payment, a transfer to another store, and an audit
event. -/
def twoStores : Database where
  tables := tablesOf [(.tenants, Purge.Sample.row 1 []),
    (.stores, Purge.Sample.row 1 [(.tenantId, 1)]),
    (.stores, Purge.Sample.row 2 [(.tenantId, 1)]),
    (.stockItems, Purge.Sample.row 1 [(.tenantId, 1), (.storeId, 1)]),
    (.stockItems, Purge.Sample.row 2 [(.tenantId, 1), (.storeId, 2)]),
    (.epcAssignments, Purge.Sample.row 1 [(.tenantId, 1), (.storeId, 1)]),
    (.posSales, Purge.Sample.row 1 [(.tenantId, 1), (.storeId, 1)]),
    (.posSaleLines, Purge.Sample.row 1 [(.tenantId, 1), (.saleId, 1)]),
    (.posPayments, Purge.Sample.row 1 [(.tenantId, 1), (.saleId, 1)]),
    (.transfers, Purge.Sample.row 1 [(.tenantId, 1), (.originStoreId, 2),
      (.destinationStoreId, 1)]),
    (.transferLines, Purge.Sample.row 1 [(.tenantId, 1), (.transferId, 1)])]
  auditEvents := [⟨1, some 1, "stock.import", 1, false, false, []⟩]
  purgeLocks := []

/-- A store that refunded an advance in cash. -/
def advanceRefunded : Database where
  tables := tablesOf [(.tenants, Purge.Sample.row 1 []),
    (.stores, Purge.Sample.row 1 [(.tenantId, 1)]),
    (.posCashMovements, Purge.Sample.row 1 [(.tenantId, 1), (.storeId, 1)]),
    (.posAdvances,
    Purge.Sample.row 1 [(.tenantId, 1), (.storeId, 1), (.refundedCashMovementId, 1)])]
  auditEvents := []
  purgeLocks := []

end Sample

private theorem twoStores_consistent : ForeignKeyConsistent Sample.twoStores.tables where
  consistent table := by
    have all : ∀ table ∈ tableNames, ∀ row ∈ Sample.twoStores.tables table,
        ∀ reference ∈ schema.references table row, ∃ found ∈ Sample.twoStores.tables reference.1,
        schema.key found = reference.2 := by decide +kernel
    exact all table (schema.complete table)
  keyed table := by
    have all : ∀ table ∈ tableNames, ((Sample.twoStores.tables table).map TableRow.id).Nodup := by
      decide +kernel
    exact all table (schema.complete table)

theorem content_wipe_exact_iff_twoStores : WipesExactly (.store 1) none {} Sample.twoStores ↔
    Wipeable (.store 1) {} Sample.twoStores :=
  content_wipe_exact_iff (.store 1) none {} Sample.twoStores twoStores_consistent
    ⟨Purge.Sample.row 1 [(.tenantId, 1)], by simp [Sample.twoStores, tablesOf], rfl⟩

/-- The content of a store that refunded an advance in cash is not wiped: the advance still names
the cash movement. -/
theorem wipe_of_advanceRefunded :
    ¬ ∀ scope actorStoreId options db, ForeignKeyConsistent db.tables →
    scope.Present db.tables → WipesExactly scope actorStoreId options db := by
  intro always
  have consistent : ForeignKeyConsistent Sample.advanceRefunded.tables := by
    have all : (∀ table ∈ tableNames, ∀ row ∈ Sample.advanceRefunded.tables table,
        ∀ reference ∈ schema.references table row,
          ∃ found ∈ Sample.advanceRefunded.tables reference.1, schema.key found = reference.2) ∧
        ∀ table ∈ tableNames, ((Sample.advanceRefunded.tables table).map TableRow.id).Nodup := by
          decide +kernel
    exact ⟨fun table => all.1 table (schema.complete table), fun table =>
      all.2 table (schema.complete table)⟩
  obtain ⟨result, success, _⟩ := always (.store 1) none {} Sample.advanceRefunded consistent
    ⟨Purge.Sample.row 1 [(.tenantId, 1)], by simp [Sample.advanceRefunded, tablesOf], rfl⟩
  have failed : (Scope.execute none false {} Sample.advanceRefunded (.store 1)).1 =
      .error .integrityError := by
    decide +kernel
  rw [failed] at success
  contradiction

end ArisCloud.ContentWipe

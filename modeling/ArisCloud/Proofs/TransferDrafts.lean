import ArisCloud.Model.TransferActions

/-! # What checking the lines of a draft does

Checking a line leaves the stock alone except that it claims tagged rows without a store for the
origin store. A checked EPC line has its row in the origin store and no other active transfer
reserves it.
-/

namespace ArisCloud

open KeyedRows

/-- The session has only claimed tagged rows without a store for one store. -/
structure StockSession.Claims (session : StockSession) (table : StockTable) (storeId : ℕ) :
    Prop where
  flushed : session.flushed = table
  kept : session.deleted = []
  fresh : session.added = []
  change : ∀ edit ∈ session.edits, edit.change = claimFor storeId
  keys : ∀ edit ∈ session.edits, ∀ row ∈ table.rows, row.id ∈ edit.keys → row.storeId = none ∧
    row.epc ≠ none

namespace StockSession.Claims

variable {session : StockSession} {table : StockTable} {storeId : ℕ}

theorem initial (table : StockTable) (storeId : ℕ) : Claims { flushed := table } table storeId where
  flushed := rfl
  kept := rfl
  fresh := rfl
  change := by simp
  keys := by simp

/-- A row is untouched, or it had no store and is claimed. -/
theorem current (claims : session.Claims table storeId) {row : StockItem}
    (member : row ∈ table.rows) :
    session.current row = row ∨
      (row.storeId = none ∧ row.epc ≠ none) ∧ session.current row = claimFor storeId row := by
  refine editRow_keeps (fun now => now = row ∨ (row.storeId = none ∧ row.epc ≠ none) ∧
    now = claimFor storeId row) (.inl rfl) fun edit applied now before listed => .inr ?_
  rcases before with rfl | ⟨unheld, rfl⟩
  · exact ⟨claims.keys edit applied now member listed, by rw [claims.change edit applied]⟩
  · exact ⟨unheld, by rw [claims.change edit applied]; rfl⟩

/-- Claims change the store of a row and nothing else. -/
theorem columns (claims : session.Claims table storeId) {row : StockItem}
    (member : row ∈ table.rows) :
    (session.current row).toStockSnapshot = row.toStockSnapshot ∧ (session.current row).tenantId =
    row.tenantId := by
  rcases claims.current member with same | ⟨_, same⟩ <;> (rw [same]; exact ⟨rfl, rfl⟩)

theorem assign (claims : session.Claims table storeId) {row : StockItem} (member : row ∈ table.rows)
    (unheld : row.storeId = none) (tagged : row.epc ≠ none) {stable} :
    (session.assign [row.id] (claimFor storeId) stable).Claims table storeId where
  flushed := claims.flushed
  kept := claims.kept
  fresh := claims.fresh
  change := by
    intro edit applied
    rcases List.mem_append.mp applied with before | last
    · exact claims.change edit before
    · rw [List.mem_singleton.mp last]
  keys := by
    intro edit applied other another listed
    rcases List.mem_append.mp applied with before | last
    · exact claims.keys edit before other another listed
    · rw [List.mem_singleton.mp last, List.mem_singleton] at listed
      rw [eq_of_key_eq table.distinctIds another member listed]
      exact ⟨unheld, tagged⟩

end StockSession.Claims

/-- The row of an EPC that a check has accepted for a store. -/
structure AcceptedEpc (session : StockSession) (table : StockTable) (tenantId storeId : ℕ)
    (epc : String) (expectedLocationCode expectedPool : Option String) (row : StockItem) :
    Prop where
  found : table.rows.find? (epcFilters tenantId epc) = some row
  store : (session.current row).storeId = some storeId
  status : row.status ≠ some "SOLD"
  location : isTruthy expectedLocationCode → row.locationCode = expectedLocationCode
  pool : isTruthy expectedPool → row.pool = expectedPool

theorem epcFilters_eq_true {tenantId : ℕ} {epc : String} {row : StockItem} :
    epcFilters tenantId epc row = true ↔ row.tenantId = tenantId ∧ row.epc = some epc := by
  simp [epcFilters]

/-- The query of an EPC finds the row that carries it. -/
theorem find?_epcFilters {table : StockTable} {tenantId : ℕ} {epc : String} {row : StockItem}
    (member : row ∈ table.rows) (carries : epcFilters tenantId epc row = true) : table.rows.find?
    (epcFilters tenantId epc) = some row := by
  refine find?_eq_some_of_key table.distinctIds member carries fun other another matching => ?_
  obtain ⟨tenant, tag⟩ := epcFilters_eq_true.mp carries
  obtain ⟨otherTenant, otherTag⟩ := epcFilters_eq_true.mp matching
  rw [StockTable.eq_of_tag another member (otherTenant.trans tenant.symm) otherTag tag]

/-- A successful check of an EPC accepts its row and keeps every row that an earlier check
claimed. -/
theorem validateTransferableEpcStock_ok {session after : StockSession} {table : StockTable}
    {tenantId storeId : ℕ} {epc : String} {expectedLocationCode expectedPool : Option String}
    {stockRow : StockItem} (claims : session.Claims table storeId)
    (success : validateTransferableEpcStock session tenantId storeId epc expectedLocationCode
      expectedPool =
      .ok (after, stockRow)) :
    after.Claims table storeId ∧
      (∀ other, (session.current other).storeId = some storeId → (after.current other).storeId =
        some storeId) ∧
      ∃ row, AcceptedEpc after table tenantId storeId epc expectedLocationCode expectedPool row ∧
        stockRow = after.current row := by
  simp only [validateTransferableEpcStock, Checked.bind_eq_ok, Checked.fetch_eq_ok,
    Checked.ensure_eq_ok, exists_const, Checked.pure_eq_ok, StockSession.first_eq_some,
    Prod.mk.injEq] at success
  obtain ⟨_, ⟨row, found, rfl⟩, store, status, location, pool, rfl, rfl⟩ := success
  rw [claims.flushed] at found
  have member := List.mem_of_find?_eq_some found
  have matched := epcFilters_eq_true.mp (List.find?_some found)
  have tagged : row.epc ≠ none := by rw [matched.2]; exact Option.some_ne_none _
  have sameColumns := (claims.columns member).1
  by_cases unheld : (session.current row).storeId = none
  · have rowUnheld : row.storeId = none := by
      rcases claims.current member with same | ⟨held, _⟩
      · rwa [same] at unheld
      · exact held.1
    simp only [if_pos unheld, StockSession.current_id] at store status location pool ⊢
    refine ⟨claims.assign member rowUnheld tagged, fun other held => ?_, row,
      ⟨found, ?_, ?_, ?_, ?_⟩, ?_⟩
    · rw [StockSession.current_assign]
      split
      · rfl
      · exact held
    · rw [StockSession.current_assign, if_pos (List.mem_singleton_self _)]
      rfl
    · rw [← sameColumns]
      exact status
    · rw [← sameColumns]
      exact location
    · rw [← sameColumns]
      exact pool
    · rw [StockSession.current_assign, if_pos (List.mem_singleton_self _)]
  · simp only [if_neg unheld] at store status location pool ⊢
    refine ⟨claims, fun _ held => held, row, ⟨found, store, ?_, ?_, ?_⟩, rfl⟩
    · rw [← sameColumns]
      exact status
    · rw [← sameColumns]
      exact location
    · rw [← sameColumns]
      exact pool

/-- No conflict: every active transfer that names the EPC is a draft of another store, or
excluded. -/
theorem getTransferConflictForEpc_eq_none {db : Db} {tenantId storeId : ℕ} {epc : String}
    {excludeTransferId : Option ℕ} :
    getTransferConflictForEpc db tenantId epc (some storeId) excludeTransferId = none ↔
      ∀ line ∈ db.transferLines, line.tenantId = tenantId → line.epc = some epc →
        ∀ transfer ∈ db.transfers, transfer.id = line.transferId → transfer.tenantId = tenantId →
          transfer.status.isActive = true → excludeTransferId ≠ some transfer.id →
          transfer.status = .draft ∧ transfer.originStoreId ≠ storeId := by
  have outside {id : ℕ} : (excludeTransferId.all fun other => decide (id ≠ other)) = true ↔
      excludeTransferId ≠ some id := by
    cases excludeTransferId with
    | none => simp
    | some other => simpa using ne_comm
  simp only [getTransferConflictForEpc, List.find?_eq_none, List.mem_insertionSort,
    List.mem_flatMap, List.mem_filter, Bool.and_eq_true, decide_eq_true_eq, Option.any_some,
    outside, not_not]
  constructor
  · intro free line member tenant epc transfer another id transferTenant active notExcluded
    exact free transfer ⟨line, ⟨member, tenant, epc⟩, another, ⟨⟨id, transferTenant⟩, active⟩,
      notExcluded⟩
  · rintro free transfer ⟨line, ⟨member, tenant, epc⟩, another, ⟨⟨id, transferTenant⟩, active⟩,
      notExcluded⟩
    exact free line member tenant epc transfer another id transferTenant active notExcluded

/-- An EPC that a draft may hold: its row is in the store, and no other active transfer reserves
it. -/
structure Reservable (db : Db) (session : StockSession) (tenantId storeId : ℕ)
    (excludeTransferId : Option ℕ) (epc : String) : Prop where
  held : ∃ row ∈ db.stock.rows, row.tenantId = tenantId ∧ row.epc = some epc ∧
    (session.current row).storeId = some storeId
  free : getTransferConflictForEpc db tenantId epc (some storeId) excludeTransferId = none

theorem Reservable.mono {db : Db} {session after : StockSession} {tenantId storeId : ℕ}
    {excludeTransferId : Option ℕ} {epc : String}
    (reservable : Reservable db session tenantId storeId excludeTransferId epc)
    (keeps : ∀ row, (session.current row).storeId = some storeId → (after.current row).storeId =
      some storeId) :
    Reservable db after tenantId storeId excludeTransferId epc := by
  obtain ⟨row, member, tenant, tag, held⟩ := reservable.held
  exact ⟨⟨row, member, tenant, tag, keeps row held⟩, reservable.free⟩

theorem AcceptedEpc.row_mem {session : StockSession} {table : StockTable} {tenantId storeId : ℕ}
    {epc : String} {expectedLocationCode expectedPool : Option String} {row : StockItem}
    (accepted : AcceptedEpc session table tenantId storeId epc expectedLocationCode
      expectedPool row) :
    row ∈ table.rows ∧ row.tenantId = tenantId ∧ row.epc = some epc :=
  ⟨List.mem_of_find?_eq_some accepted.found, epcFilters_eq_true.mp (List.find?_some accepted.found)⟩

/-! ## Lines of a request -/

/-- What a draft copies into a line for its SKU and place. -/
def copiedSnapshot (table : StockTable) (tenantId storeId : ℕ) (snapshot : StockSnapshot) :
    Option StockSnapshot :=
  (oldest (·.createdAt)
    (transferSkuFilters tenantId storeId (snapshot.sku.getD "") snapshot.locationCode snapshot.pool)
    1 table.rows).head?.map fun row => { row.toStockSnapshot with epc := none }

/-- Copies for one SKU and place are the same. -/
theorem eq_of_copies {table : StockTable} {tenantId storeId : ℕ} {snapshot other : StockSnapshot}
    (copies : copiedSnapshot table tenantId storeId snapshot = some snapshot)
    (another : copiedSnapshot table tenantId storeId other = some other)
    (sku : snapshot.sku = other.sku) (locationCode : snapshot.locationCode = other.locationCode)
    (pool : snapshot.pool = other.pool) : snapshot = other := by
  rw [copiedSnapshot, sku, locationCode, pool, ← copiedSnapshot, another] at copies
  exact (Option.some.inj copies).symm

/-- A copy names its SKU. -/
theorem sku_of_copies {table : StockTable} {tenantId storeId : ℕ} {snapshot : StockSnapshot}
    (copies : copiedSnapshot table tenantId storeId snapshot = some snapshot) :
    snapshot.sku ≠ none := by
  obtain ⟨row, first, same⟩ := Option.map_eq_some_iff.mp copies
  have matching := (mem_of_mem_oldest (List.mem_of_head? first)).2
  simp only [transferSkuFilters, Bool.and_eq_true, decide_eq_true_eq] at matching
  rw [← same]
  exact matching.1.1.2 ▸ Option.some_ne_none _

/-- What has been checked about the lines normalized so far. -/
structure Normalization.Checked (progress : Normalization) (db : Db) (tenantId storeId : ℕ)
    (excludeTransferId : Option ℕ) : Prop where
  claims : progress.session.Claims db.stock storeId
  seen : progress.seenEpcs = (progress.normalized.filterMap (·.snapshot.epc)).map strip
  distinct : (progress.normalized.filterMap (·.snapshot.epc)).Nodup
  typed : ∀ line ∈ progress.normalized, line.lineType = .sku ↔ line.snapshot.epc = none
  placed : ∀ line ∈ progress.normalized, line.lineType = .sku →
    line.snapshot.locationCode ≠ none ∧ line.snapshot.pool ≠ none
  copied : ∀ line ∈ progress.normalized, line.lineType = .sku →
    copiedSnapshot db.stock tenantId storeId line.snapshot = some line.snapshot
  reservable : ∀ line ∈ progress.normalized, ∀ epc, line.snapshot.epc = some epc →
    Reservable db progress.session tenantId storeId excludeTransferId epc

/-- A checked line names a place. -/
theorem validateTransferSnapshot_placed {line : TransferLineCreate}
    {positive : PLift (1 ≤ line.qty)} (success : validateTransferSnapshot line = .ok positive) :
    isTruthy line.snapshot.locationCode ∧ isTruthy line.snapshot.pool := by
  obtain ⟨_, checks⟩ := Checked.require_eq_ok.mp success
  -- the place is checked last, after five checks of the line
  iterate 5 obtain ⟨_, _, checks⟩ := Checked.bind_eq_ok.mp checks
  obtain ⟨_, placed, _⟩ := Checked.bind_eq_ok.mp checks
  exact Checked.ensure_eq_ok.mp placed

/-- The rows that a SKU line was checked against are at a place. -/
theorem placed_of_validateTransferableSkuStock {session : StockSession} {table : StockTable}
    {tenantId storeId : ℕ} {line : TransferLineCreate} {rows : List StockItem}
    (claims : session.Claims table storeId)
    (placed : isTruthy line.snapshot.locationCode ∧ isTruthy line.snapshot.pool)
    (success : validateTransferableSkuStock session tenantId storeId line none none = .ok rows)
    {row : StockItem} (member : row ∈ rows) : row.locationCode ≠ none ∧ row.pool ≠ none := by
  simp only [validateTransferableSkuStock, Checked.bind_eq_ok, Checked.ensure_eq_ok, exists_const,
    Checked.pure_eq_ok] at success
  obtain ⟨_, _, _, rfl⟩ := success
  obtain ⟨found, selected, rfl⟩ := List.mem_map.mp member
  obtain ⟨isRow, matching⟩ := mem_of_mem_oldest selected
  rw [claims.flushed] at isRow
  rw [(claims.columns isRow).1]
  simp only [transferSkuFilters, show ∀ text, orElse none text = text from fun _ => rfl,
    Bool.and_eq_true, Option.all_eq_true, decide_eq_true_eq] at matching
  obtain ⟨⟨_, location⟩, pool⟩ := matching
  obtain ⟨code, named, _⟩ := (Option.any_eq_true _ _).mp placed.1
  obtain ⟨poolCode, poolNamed, _⟩ := (Option.any_eq_true _ _).mp placed.2
  rw [location code named, pool poolCode poolNamed]
  exact ⟨Option.some_ne_none _, Option.some_ne_none _⟩

private theorem normalizeTransferLine_ok {db : Db} {session after : StockSession}
    {tenantId storeId : ℕ} {line : TransferLineCreate} {excludeTransferId : Option ℕ}
    {normalized : NormalizedLine} (claims : session.Claims db.stock storeId)
    (success : normalizeTransferLine db session tenantId storeId line excludeTransferId = .ok
      (after, normalized)) :
    after.Claims db.stock storeId ∧
      (∀ row, (session.current row).storeId = some storeId → (after.current row).storeId =
        some storeId) ∧
      normalized.lineType = line.lineType ∧
      (normalized.lineType = .sku ↔ normalized.snapshot.epc = none) ∧
      (normalized.lineType = .sku → normalized.snapshot.locationCode ≠ none ∧
        normalized.snapshot.pool ≠ none) ∧
      ∀ epc, normalized.snapshot.epc = some epc →
        line.snapshot.epc.getD "" = epc ∧
        Reservable db after tenantId storeId excludeTransferId epc := by
  simp only [normalizeTransferLine, Checked.bind_eq_ok] at success
  obtain ⟨positive, valid, rest⟩ := success
  cases kind : line.lineType with
  | sku =>
    simp only [kind, Checked.bind_eq_ok, Checked.fetch_eq_ok, Checked.pure_eq_ok,
      Prod.mk.injEq] at rest
    obtain ⟨rows, selected, row, first, rfl, rfl⟩ := rest
    have placed := placed_of_validateTransferableSkuStock claims
      (validateTransferSnapshot_placed valid) selected
      (List.mem_of_head? first)
    exact ⟨claims, fun _ held => held, rfl, by simp, fun _ => placed, by simp⟩
  | epc =>
    simp only [kind, Checked.bind_eq_ok, Checked.pure_eq_ok, Prod.exists, Prod.mk.injEq,
      assertNoTransferConflict, Checked.ensure_eq_ok, exists_const] at rest
    obtain ⟨after, _, checked, free, rfl, rfl⟩ := rest
    obtain ⟨kept, keeps, row, accepted, rfl⟩ := validateTransferableEpcStock_ok claims checked
    obtain ⟨member, tenant, tag⟩ := accepted.row_mem
    have sameTag : (after.current row).epc = row.epc := by rw [(kept.columns member).1]
    rw [accepted.store] at free
    refine ⟨kept, keeps, rfl, by simp [sameTag, tag], by rintro ⟨⟩, fun epc named => ?_⟩
    have same : line.snapshot.epc.getD "" = epc := by simpa [sameTag, tag] using named
    rw [same] at tag free
    exact ⟨same, ⟨row, member, tenant, tag, accepted.store⟩, free⟩

/-- The row that a checked line copies has the SKU and the place that the line asks for. -/
theorem normalizeTransferLine_copies {db : Db} {session after : StockSession} {tenantId storeId : ℕ}
    {line : TransferLineCreate} {excludeTransferId : Option ℕ} {normalized : NormalizedLine}
    (claims : session.Claims db.stock storeId)
    (success : normalizeTransferLine db session tenantId storeId line excludeTransferId =
      .ok (after, normalized))
    (isSku : normalized.lineType = .sku) :
    copiedSnapshot db.stock tenantId storeId normalized.snapshot = some normalized.snapshot := by
  simp only [normalizeTransferLine, Checked.bind_eq_ok] at success
  obtain ⟨positive, valid, rest⟩ := success
  cases kind : line.lineType with
  | epc =>
    simp only [kind, Checked.bind_eq_ok, Checked.pure_eq_ok, Prod.exists, Prod.mk.injEq] at rest
    obtain ⟨_, _, _, _, _, _, rfl⟩ := rest
    contradiction
  | sku =>
    simp only [kind, Checked.bind_eq_ok, Checked.fetch_eq_ok, Checked.pure_eq_ok, Prod.mk.injEq,
      validateTransferableSkuStock, Option.filter_eq_some_iff, Checked.ensure_eq_ok,
      exists_const] at rest
    obtain ⟨rows, ⟨sku, ⟨named, _⟩, _, rfl⟩, row, first, _, rfl⟩ := rest
    have enough : 1 ≤ line.qty.toNat := by have := positive.down; omega
    simp only [StockSession.select, List.head?_map, Option.map_eq_some_iff, head?_oldest enough,
        claims.flushed] at first
    obtain ⟨found, isFirst, rfl⟩ := first
    obtain ⟨isRow, matching⟩ := mem_of_mem_oldest (List.mem_of_head? isFirst)
    obtain ⟨code, isCode, _⟩ :=
      (Option.any_eq_true _ _).mp (validateTransferSnapshot_placed valid).1
    obtain ⟨pool, isPool, _⟩ :=
      (Option.any_eq_true _ _).mp (validateTransferSnapshot_placed valid).2
    simp only [show ∀ text, orElse none text = text from fun _ => rfl, isCode,
      isPool] at isFirst matching
    have holds := matching
    simp only [transferSkuFilters, Option.all_some, Bool.and_eq_true, decide_eq_true_eq] at holds
    obtain ⟨⟨⟨_, sameSku⟩, sameCode⟩, samePool⟩ := holds
    rw [(claims.columns isRow).1]
    simp only [copiedSnapshot, sameSku, sameCode, samePool, Option.getD_some, isFirst,
      Option.map_some]

private theorem normalizeNextLine_ok {db : Db} {tenantId storeId : ℕ} {excludeTransferId : Option ℕ}
    {progress next : Normalization} {line : TransferLineCreate}
    (checked : progress.Checked db tenantId storeId excludeTransferId)
    (success : normalizeNextLine db tenantId storeId excludeTransferId progress line = .ok next) :
    next.Checked db tenantId storeId excludeTransferId := by
  simp only [normalizeNextLine, Checked.bind_eq_ok, Checked.ensure_eq_ok, exists_const,
    Checked.pure_eq_ok, Prod.exists] at success
  obtain ⟨unseen, after, normalized, lineOk, rfl⟩ := success
  obtain ⟨claims, keeps, kind, typed, placed, reservable⟩ :=
    normalizeTransferLine_ok checked.claims lineOk
  have copies := List.forall_mem_append.mpr
    ⟨checked.copied, List.forall_mem_singleton.mpr
    (normalizeTransferLine_copies checked.claims lineOk)⟩
  have kept : ∀ other ∈ progress.normalized, ∀ epc, other.snapshot.epc = some epc →
      Reservable db after tenantId storeId excludeTransferId epc :=
    fun other member epc named => (checked.reservable other member epc named).mono keeps
  cases tag : normalized.snapshot.epc with
  | none =>
    have isSku : line.lineType ≠ .epc := by rw [← kind, typed.mpr tag]; decide
    refine ⟨claims, ?_, ?_, ?_, ?_, copies, ?_⟩
    · simp [isSku, tag, checked.seen]
    · simpa [List.filterMap_append, tag] using checked.distinct
    · simpa [or_imp, forall_and] using ⟨checked.typed, typed⟩
    · exact List.forall_mem_append.mpr ⟨checked.placed, List.forall_mem_singleton.mpr placed⟩
    · simpa [or_imp, forall_and] using ⟨kept, fun epc named => (reservable epc named).2⟩
  | some epc =>
    have isEpc : line.lineType = .epc := by
      rw [← kind]
      cases kinds : normalized.lineType with
      | sku => rw [typed.mp kinds] at tag; contradiction
      | epc => rfl
    have named := (reservable epc tag).1
    have fresh : strip epc ∉ (progress.normalized.filterMap (·.snapshot.epc)).map strip := by
      rw [← checked.seen, ← named]
      exact unseen isEpc
    refine ⟨claims, ?_, ?_, ?_, ?_, copies, ?_⟩
    · simp [isEpc, tag, checked.seen, named]
    · have single : [normalized].filterMap (·.snapshot.epc) = [epc] := by simp [tag]
      rw [List.filterMap_append, single]
      refine List.nodup_append.mpr ⟨checked.distinct, List.nodup_singleton _,
        fun other member last lastIs same => ?_⟩
      rw [same, List.mem_singleton.mp lastIs] at member
      exact fresh (List.mem_map_of_mem member)
    · simpa [or_imp, forall_and] using ⟨checked.typed, typed⟩
    · exact List.forall_mem_append.mpr ⟨checked.placed, List.forall_mem_singleton.mpr placed⟩
    · simpa [or_imp, forall_and] using ⟨kept, fun epc named => (reservable epc named).2⟩

theorem normalizeTransferLines_ok {db : Db} {tenantId storeId : ℕ} {lines : List TransferLineCreate}
    {excludeTransferId : Option ℕ} {progress : Normalization}
    (success : normalizeTransferLines db tenantId storeId lines excludeTransferId = .ok progress) :
    progress.Checked db tenantId storeId excludeTransferId :=
  Checked.foldlM_keeps (Normalization.Checked · db tenantId storeId excludeTransferId) success
    ⟨.initial db.stock storeId, rfl, List.nodup_nil, by simp, by simp, by simp, by simp⟩
    fun _ _ _ _ checked step => normalizeNextLine_ok checked step

/-! ## Lines of a stored draft -/

/-- What revalidation establishes about an EPC line of a draft. -/
def RevalidatedLine (db : Db) (tenantId storeId transferId : ℕ) (line : TransferLine)
    (session : StockSession) : Prop :=
  line.lineType = .epc → ∃ epc, line.epc = some epc ∧ epc ≠ "" ∧
    (∃ row, AcceptedEpc session db.stock tenantId storeId epc line.locationCode line.pool row) ∧
    getTransferConflictForEpc db tenantId epc (some storeId) (some transferId) = none

theorem RevalidatedLine.mono {db : Db} {tenantId storeId transferId : ℕ} {line : TransferLine}
    {session after : StockSession}
    (valid : RevalidatedLine db tenantId storeId transferId line session)
    (keeps : ∀ row, (session.current row).storeId = some storeId → (after.current row).storeId =
      some storeId) :
    RevalidatedLine db tenantId storeId transferId line after := by
  intro isEpc
  obtain ⟨epc, named, nonempty, ⟨row, accepted⟩, free⟩ := valid isEpc
  exact ⟨epc, named, nonempty, ⟨row, { accepted with store := keeps row accepted.store }⟩, free⟩

private theorem revalidateExistingDraftLine_ok {db : Db} {tenantId storeId transferId : ℕ}
    {session after : StockSession} {line : TransferLine} (claims : session.Claims db.stock storeId)
    (success : revalidateExistingDraftLine db tenantId storeId transferId session line =
      .ok after) :
    after.Claims db.stock storeId ∧ RevalidatedLine db tenantId storeId transferId line after ∧
      ∀ row, (session.current row).storeId = some storeId → (after.current row).storeId =
      some storeId := by
  unfold revalidateExistingDraftLine at success
  cases kind : line.lineType with
  | sku =>
    simp only [kind, Checked.bind_eq_ok, Checked.pure_eq_ok] at success
    obtain ⟨_, _, rfl⟩ := success
    exact ⟨claims, fun isEpc => by rw [kind] at isEpc; contradiction, fun _ held => held⟩
  | epc =>
    simp only [kind, Checked.bind_eq_ok, Checked.fetch_eq_ok, Option.filter_eq_some_iff,
      decide_eq_true_eq, assertDraftLineNotStale, assertNoTransferConflict, Checked.ensure_eq_ok,
      exists_const, Prod.exists, Checked.pure_eq_ok] at success
    obtain ⟨epc, ⟨named, nonempty⟩, _, _, _, checked, free, rfl⟩ := success
    obtain ⟨kept, keeps, row, accepted, _⟩ := validateTransferableEpcStock_ok claims checked
    exact ⟨kept, fun _ => ⟨epc, named, nonempty, ⟨row, accepted⟩, free⟩, keeps⟩

theorem revalidateExistingDraftLines_ok {db : Db} {tenantId storeId transferId : ℕ}
    {lines : List TransferLine} {session : StockSession}
    (success : revalidateExistingDraftLines db tenantId storeId transferId lines = .ok session) :
    session.Claims db.stock storeId ∧ ∀ line ∈ lines,
    RevalidatedLine db tenantId storeId transferId line session := by
  obtain ⟨claims, valid, _⟩ := Checked.foldlM_all (StockSession.Claims · db.stock storeId)
    (RevalidatedLine db tenantId storeId transferId) success (.initial db.stock storeId)
    fun _ _ _ _ claims step =>
      have ⟨kept, established, keeps⟩ := revalidateExistingDraftLine_ok claims step
      ⟨kept, established, fun _ valid => valid.mono keeps⟩
  exact ⟨claims, valid⟩

end ArisCloud

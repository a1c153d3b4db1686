import ArisCloud.Proofs.TransferSteps

/-! # Which stock rows the transfer requests leave alone

The selectors of the actions only reach rows of the transfer's tenant that are untagged or carry the
EPC of the line. So a tagged row keeps its store through drafts, dispatches and cancels, and through
receives and losses of transfers that do not name its EPC.
-/

namespace ArisCloud

open KeyedRows

/-- Some row carries the EPC and belongs to the store. -/
def HoldsEpc (rows : List StockItem) (tenantId : ℕ) (epc : String) (storeId : ℕ) : Prop :=
  ∃ row ∈ rows, row.tenantId = tenantId ∧ row.epc = some epc ∧ row.storeId = some storeId

/-! ## Selectors -/

theorem inTransitSkuFilters_eq_true {tenantId : ℕ} {inOrigin : Option ℕ → Bool}
    {line : StockSnapshot} {row : StockItem}
    (selected : inTransitSkuFilters tenantId inOrigin line row = true) :
    row.tenantId = tenantId ∧ inOrigin row.storeId = true ∧ row.epc = none ∧ row.sku = line.sku ∧
      row.description = line.description ∧ row.var1Value = line.var1Value ∧
      row.var2Value = line.var2Value ∧
      row.inTransit = true := by
  simp only [inTransitSkuFilters, Bool.and_eq_true, decide_eq_true_eq] at selected
  obtain ⟨⟨⟨⟨⟨⟨⟨⟨tenant, origin⟩, untagged⟩, sku⟩, description⟩, var1⟩, var2⟩, transit⟩, _⟩ :=
    selected
  exact ⟨tenant, origin, untagged, sku, description, var1, var2, transit⟩

theorem transferSkuFilters_eq_true {tenantId storeId : ℕ} {sku : String}
    {locationCode pool : Option String} {row : StockItem}
    (selected : transferSkuFilters tenantId storeId sku locationCode pool row = true) :
    row.tenantId = tenantId ∧ row.storeId = some storeId ∧ row.epc = none ∧ row.sku = some sku ∧
      (∀ code, locationCode = some code → row.locationCode = some code) ∧
      (∀ code, pool = some code → row.pool = some code) := by
  simp only [transferSkuFilters, Bool.and_eq_true, decide_eq_true_eq,
    Option.all_eq_true] at selected
  obtain ⟨⟨⟨⟨⟨⟨tenant, store⟩, untagged⟩, _⟩, sku⟩, location⟩, pool⟩ := selected
  exact ⟨tenant, store, untagged, sku, location, pool⟩

/-- A receive takes untagged rows or the row of the line's EPC, in transit and of the transfer's
tenant. -/
theorem receiveSelector_eq_true {transfer : Transfer} {line : TransferLine} {row : StockItem}
    (selected : receiveSelector transfer line row = true)
    (named : line.lineType = .epc → line.epc ≠ none) :
    row.tenantId = transfer.tenantId ∧ (row.epc = none ∨ row.epc = line.epc) ∧
    row.inTransit = true := by
  unfold receiveSelector at selected
  cases kind : line.lineType with
  | sku =>
    simp only [kind] at selected
    obtain ⟨tenant, _, untagged, _, _, _, _, transit⟩ := inTransitSkuFilters_eq_true selected
    exact ⟨tenant, .inl untagged, transit⟩
  | epc =>
    simp only [kind, Bool.and_eq_true, epcFilters_eq_true] at selected
    obtain ⟨⟨⟨tenant, tag⟩, _⟩, transit⟩ := selected
    obtain ⟨epc, some⟩ := Option.ne_none_iff_exists'.mp (named kind)
    exact ⟨tenant, .inr (by rw [tag, some, Option.getD_some]), transit⟩

/-- A loss takes untagged rows or the row of the line's EPC, in transit and of the transfer's
tenant. -/
theorem lostSelector_eq_true {transfer : Transfer} {line : TransferLine} {row : StockItem}
    (selected : lostSelector transfer line row = true) :
    row.tenantId = transfer.tenantId ∧ (row.epc = none ∨ row.epc = line.epc) ∧
    row.inTransit = true := by
  unfold lostSelector at selected
  cases kind : line.lineType with
  | sku =>
    simp only [kind] at selected
    obtain ⟨tenant, _, untagged, _, _, _, _, transit⟩ := inTransitSkuFilters_eq_true selected
    exact ⟨tenant, .inl untagged, transit⟩
  | epc =>
    simp only [kind, Bool.and_eq_true, decide_eq_true_eq] at selected
    exact ⟨selected.1.1, .inr selected.1.2, selected.2⟩

/-! ## Rows that keep their store -/

theorem StockSession.Claims.current_of_held {session : StockSession} {table : StockTable}
    {storeId other : ℕ} (claims : session.Claims table storeId) {row : StockItem}
    (member : row ∈ table.rows) (held : row.storeId = some other) : session.current row = row := by
  rcases claims.current member with same | ⟨⟨unheld, _⟩, _⟩
  · exact same
  · rw [unheld] at held
    contradiction

theorem StockSession.Claims.holdsEpc {session : StockSession} {table : StockTable} {storeId : ℕ}
    (claims : session.Claims table storeId) {tenantId holder : ℕ} {epc : String}
    (holds : HoldsEpc table.rows tenantId epc holder) :
    HoldsEpc (table.rows.map session.current) tenantId epc holder := by
  obtain ⟨row, member, tenant, tag, held⟩ := holds
  refine ⟨session.current row, List.mem_map_of_mem member, ?_⟩
  rw [claims.current_of_held member held]
  exact ⟨tenant, tag, held⟩

/-- The row a dispatch takes for an EPC line is the one the revalidation accepted. -/
theorem DispatchStep.epc_row {db after : Db} {transfer : Transfer} {now : ℕ}
    {session : StockSession} {outputs : List ActionOutput}
    (step : DispatchStep db after transfer now session outputs) {line : TransferLine}
    {output : ActionOutput} (member : line ∈ getLines db transfer.id) (isEpc : line.lineType = .epc)
    (taken : Dispatched db.stock transfer line output) {row : StockItem}
    (inRows : row ∈ db.stock.rows) (listed : row.id ∈ output.1.keys) :
    ∃ epc, line.epc = some epc ∧
      AcceptedEpc session db.stock transfer.tenantId transfer.originStoreId epc line.locationCode
      line.pool row ∧
      getTransferConflictForEpc db transfer.tenantId epc (some transfer.originStoreId)
      (some transfer.id) = none := by
  obtain ⟨epc, named, _, ⟨accepted, acceptance⟩, free⟩ := step.valid line member isEpc
  have selected := taken.picks.holds db.stock.distinctIds inRows listed
  simp only [dispatchSelector, isEpc, named, Option.getD_some, epcFilters_eq_true] at selected
  obtain ⟨acceptedMember, tenant, tag⟩ := acceptance.row_mem
  have same := StockTable.eq_of_tag inRows acceptedMember
    (selected.1.trans tenant.symm) selected.2 tag
  exact ⟨epc, named, same ▸ acceptance, free⟩

theorem DispatchStep.holdsEpc {db after : Db} {transfer : Transfer} {now : ℕ}
    {session : StockSession} {outputs : List ActionOutput}
    (step : DispatchStep db after transfer now session outputs) {tenantId holder : ℕ}
    {epc : String} (holds : HoldsEpc db.stock.rows tenantId epc holder) :
    HoldsEpc after.stock.rows tenantId epc holder := by
  obtain ⟨row, member, tenant, tag, held⟩ := holds
  have unchanged := step.claims.current_of_held member held
  let keptBy (now : StockItem) : Prop :=
    now.id = row.id ∧ now.tenantId = tenantId ∧ now.epc = some epc ∧ now.storeId = some holder
  have kept : keptBy (editRow (outputs.map (·.1)) row) :=
    editRow_keeps keptBy ⟨rfl, tenant, tag, held⟩
        fun edit applied now ⟨sameId, keptTenant, keptTag, keptStore⟩ listed => by
      obtain ⟨output, isOutput, rfl⟩ := List.mem_map.mp applied
      obtain ⟨line, inLines, taken⟩ := Checked.item_of_output step.taken isOutput
      rw [taken.change, dispatchChange]
      cases kind : line.lineType with
      | sku => exact ⟨sameId, keptTenant, keptTag, keptStore⟩
      | epc =>
        obtain ⟨_, _, accepted, _⟩ := step.epc_row inLines kind taken member (sameId ▸ listed)
        refine ⟨sameId, keptTenant, keptTag, ?_⟩
        rw [← held, ← unchanged, accepted.store]
        rfl
  rw [step.stock, List.map_map]
  exact ⟨_, List.mem_map_of_mem member, by rw [Function.comp_apply, unchanged]; exact kept.2⟩

theorem CancelStep.holdsEpc {db after : Db} {transfer : Transfer} {now : ℕ}
    {edits : List (Edit StockItem.id)} (step : CancelStep db after transfer now edits)
    {tenantId holder : ℕ} {epc : String} (holds : HoldsEpc db.stock.rows tenantId epc holder) :
    HoldsEpc after.stock.rows tenantId epc holder := by
  obtain ⟨row, member, tenant, tag, held⟩ := holds
  rw [step.stock]
  refine ⟨_, List.mem_map_of_mem member, ?_⟩
  refine editRow_keeps
    (fun now : StockItem => now.tenantId = tenantId ∧ now.epc = some epc ∧
    now.storeId = some holder) ⟨tenant, tag, held⟩ fun edit applied now kept _ => ?_
  by_cases dispatched : transfer.status = .dispatched
  · obtain ⟨line, _, taken⟩ := Checked.item_of_output (step.taken dispatched) applied
    rw [taken.change]
    exact kept
  · rw [step.untouched dispatched] at applied
    contradiction

/-- A receive touches no row of an EPC that its transfer does not name. -/
theorem ReceiveStep.holdsEpc {db after : Db} {transfer : Transfer}
    {receiveLines : List TransferReceiveLine} {now : ℕ} {outputs : List ActionOutput}
    (step : ReceiveStep db after transfer receiveLines now outputs)
    {tenantId holder : ℕ} {epc : String} (holds : HoldsEpc db.stock.rows tenantId epc holder)
    (unnamed : tenantId = transfer.tenantId → ∀ line ∈ getLines db transfer.id,
      line.epc ≠ some epc) :
    HoldsEpc after.stock.rows tenantId epc holder := by
  obtain ⟨row, member, tenant, tag, held⟩ := holds
  have untouched : ∀ edit ∈ outputs.map (·.1), row.id ∉ edit.keys := by
    intro edit applied listed
    obtain ⟨output, isOutput, rfl⟩ := List.mem_map.mp applied
    obtain ⟨receiveLine, _, line, inLines, taken⟩ := Checked.item_of_output step.taken isOutput
    obtain ⟨ownTenant, untagged | named, _⟩ := receiveSelector_eq_true
      (taken.picks.holds db.stock.distinctIds member listed) fun isEpc => (taken.single isEpc).2
    · rw [tag] at untagged
      contradiction
    · exact unnamed (tenant.symm.trans ownTenant) line inLines (named ▸ tag)
  rw [step.stock]
  exact ⟨_, List.mem_map_of_mem member, by rw [editRow_of_untouched untouched]; exact ⟨tenant,
      tag, held⟩⟩

/-- A resolution removes no row of an EPC that its transfer does not name. -/
theorem ResolveStep.holdsEpc {db after : Db} {transfer : Transfer} {resolution : ShortageResolution}
    {resolutionLines : List TransferShortageLine} {now : ℕ} {outputs : List ResolveOutput}
    (step : ResolveStep db after transfer resolution resolutionLines now outputs)
    {tenantId holder : ℕ} {epc : String} (holds : HoldsEpc db.stock.rows tenantId epc holder)
    (unnamed : tenantId = transfer.tenantId → ∀ line ∈ getLines db transfer.id,
      line.epc ≠ some epc) :
    HoldsEpc after.stock.rows tenantId epc holder := by
  obtain ⟨row, member, tenant, tag, held⟩ := holds
  have stays : row.id ∉ outputs.flatMap (·.1) := by
    intro listed
    obtain ⟨output, isOutput, listed⟩ := List.mem_flatMap.mp listed
    obtain ⟨resolutionLine, _, line, inLines, taken⟩ := Checked.item_of_output step.taken isOutput
    cases resolution with
    | foundAndResend =>
      rw [taken.found rfl] at listed
      contradiction
    | lostInRoute =>
      obtain ⟨ownTenant, untagged | named, _⟩ := lostSelector_eq_true
        ((taken.lost rfl).holds db.stock.distinctIds member listed)
      · rw [tag] at untagged
        contradiction
      · exact unnamed (tenant.symm.trans ownTenant) line inLines (named ▸ tag)
  rw [step.stock]
  exact ⟨row, List.mem_filter.mpr ⟨member, by simpa using stays⟩, tenant, tag, held⟩

end ArisCloud

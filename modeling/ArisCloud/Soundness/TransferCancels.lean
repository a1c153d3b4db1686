import ArisCloud.Soundness.TransferReceipts

/-! # Whether a cancel undoes a dispatch

A cancel looks for the rows of a line by what the line says, and writes back the place that the line
recorded at the draft. It puts every row back where the dispatch took it from exactly when the rows
were where their line says, the lines of one kind are of one place, and no older row of the kind is
in transit from the same store.
-/

namespace ArisCloud

open KeyedRows Requests

/-! ## What a cancel should do -/

/-- Where a row is, and whether it can be sold there. -/
def StockItem.whereabouts (row : StockItem) : Option ℕ × Option String × Option String × Bool :=
  (row.storeId, row.locationCode, row.pool, row.locationIsVendible)

/-- Where a line of a transfer found its units. -/
def TransferLine.whereabouts (transfer : Transfer) (line : TransferLine) :
    Option ℕ × Option String × Option String × Bool :=
  (some transfer.originStoreId, line.locationCode, line.pool, line.locationIsVendible)

/-- A dispatched row is back where it was, and every other row is left alone. -/
structure Restored (db : Db) (transfer : Transfer) (row restored : StockItem) : Prop where
  own : ∀ line ∈ getLines db transfer.id, row.id ∈ sentIds db.stock transfer line →
    ∀ unit ∈ db.stock.rows, unit.id = row.id → restored.whereabouts = unit.whereabouts
  others : (∀ line ∈ getLines db transfer.id, row.id ∉ sentIds db.stock transfer line) →
    restored = row

/-- The cancel is accepted and puts back the dispatched rows and no others. -/
def CancelRestores (db later : Db) (transfer : Transfer) (officer : Officer) : Prop :=
  ∃ after, transferStep later (officer.request transfer.id .cancel) = .ok after ∧
    List.Forall₂ (Restored db transfer) later.stock.rows after.stock.rows

/-- The dispatched rows were where their lines say and are of their kinds, the lines of one kind are
of one place, and no other row in transit that the cancel of a line may take comes before one of
them. -/
structure Restorable (db later : Db) (transfer : Transfer) : Prop where
  recorded : ∀ line ∈ getLines db transfer.id, ∀ unit ∈ db.stock.rows,
    unit.id ∈ sentIds db.stock transfer line → unit.whereabouts = line.whereabouts transfer
  alike : ∀ line ∈ getLines db transfer.id, line.lineType = .sku → ∀ unit ∈ db.stock.rows,
    unit.id ∈ sentIds db.stock transfer line → unit.kind = line.kind
  places : ∀ line ∈ getLines db transfer.id, ∀ other ∈ getLines db transfer.id,
    line.kind = other.kind → line.whereabouts transfer = other.whereabouts transfer
  first : ∀ line ∈ getLines db transfer.id, line.lineType = .sku → ∀ row ∈ later.stock.rows,
    cancelSelector transfer line row = true →
    (∀ other ∈ getLines db transfer.id, row.id ∉ sentIds db.stock transfer other) →
      ∀ unit ∈ later.stock.rows, unit.id ∈ sentIds db.stock transfer line →
        Precedes StockItem.id (·.createdAt) later.stock.rows unit row

section Cancel

variable {db later after : Db} {transfer : Transfer} {now instant : ℕ} {officer : Officer}
    {line other : TransferLine}
  {edits : List (Edit StockItem.id)} {row : StockItem} {id : ℕ}

/-! ## Lines of one kind -/

private theorem cancelSelector_sku (isSku : line.lineType = .sku) :
    cancelSelector transfer line = receiveSelector transfer line := by
  funext row
  simp only [cancelSelector, receiveSelector, isSku]

/-- Untagged lines of one kind look for the same rows. -/
theorem receiveSelector_of_kind (isSku : line.lineType = .sku) (otherSku : other.lineType = .sku)
    (untagged : line.epc = none) (same : other.kind = line.kind) :
    receiveSelector transfer other = receiveSelector transfer line := by
  funext row
  have otherUntagged : other.epc = none := (epc_of_kind same).trans untagged
  simp only [StockSnapshot.kind, untagged, otherUntagged, UnitKind.variant.injEq] at same
  obtain ⟨sku, description, var1, var2⟩ := same
  simp only [receiveSelector, isSku, otherSku, inTransitSkuFilters, sku, description, var1, var2]

namespace Underway

/-- Lines of one kind are both tagged or both not. -/
theorem lineType_of_kind (underway : Underway db later transfer now)
    (inLines : line ∈ getLines db transfer.id) (otherInLines : other ∈ getLines db transfer.id)
    (same : other.kind = line.kind) : other.lineType = line.lineType := by
  have typed := underway.typed inLines
  have otherTyped := underway.typed otherInLines
  have tag := epc_of_kind same
  unfold TransferLine.Typed at typed otherTyped
  rw [tag] at otherTyped
  cases kind : line.lineType <;> cases otherKind : other.lineType <;> simp_all

/-- What a receive or a cancel of a line takes, a line of its kind that asks for more takes too. -/
theorem receivedIds_subset (underway : Underway db later transfer now)
    (inLines : line ∈ getLines db transfer.id) (otherInLines : other ∈ getLines db transfer.id)
    (same : other.kind = line.kind) (le : line.units ≤ other.units) :
    receivedIds later.stock transfer line ⊆ receivedIds later.stock transfer other := by
  have type := underway.lineType_of_kind inLines otherInLines same
  have typed := underway.typed inLines
  cases kind : line.lineType with
  | sku =>
    rw [kind] at type
    simp only [receivedIds, takenIds, kind, type, receiveSelector_of_kind kind type
      (typed.mp kind) same]
    exact List.map_subset _ (oldest_subset (by omega))
  | epc =>
    obtain ⟨epc, named⟩ := typed.named kind
    obtain rfl := underway.before.lines.eq_of_epc inLines otherInLines named
      ((epc_of_kind same).trans named)
    exact List.Subset.refl _

/-- What a dispatch takes for a line, a line of the same SKU and place that asks for more takes
too. -/
theorem sentIds_subset (isSku : line.lineType = .sku) (otherSku : other.lineType = .sku)
    (sku : line.sku = other.sku) (locationCode : line.locationCode = other.locationCode)
    (pool : line.pool = other.pool) (le : line.units ≤ other.units) :
    sentIds db.stock transfer line ⊆ sentIds db.stock transfer other := by
  simp only [TransferLine.units, isSku, otherSku] at le
  simp only [sentIds, takenIds, dispatchSelector, isSku, otherSku, sku, locationCode, pool]
  exact List.map_subset _ (oldest_subset (by omega))

/-- A cancel of the line selects its units when they agree with the line. -/
theorem cancelSelector_eq_true (underway : Underway db later transfer now)
    (inLines : line ∈ getLines db transfer.id) {unit row : StockItem}
    (sentFrom : SentFrom transfer unit row) (selected : dispatchSelector transfer line unit = true)
    (alike : line.lineType = .sku → unit.kind = line.kind) :
    cancelSelector transfer line row = true := by
  have received := underway.receiveSelector_eq_true inLines sentFrom selected alike
  cases kind : line.lineType with
  | sku => rwa [cancelSelector_sku kind]
  | epc =>
    simp only [receiveSelector, kind, Bool.and_eq_true] at received
    simp only [cancelSelector, kind, sentFrom.store, decide_true, Bool.and_true, Bool.and_eq_true]
    exact ⟨received.1.1, received.2⟩

/-- A cancel of a line takes what a receive of it in full would take. -/
theorem putBackIds (underway : Underway db later transfer now)
    (inLines : line ∈ getLines db transfer.id) :
    takenIds later.stock line.lineType (cancelSelector transfer line) line.qty =
    receivedIds later.stock transfer line := by
  cases kind : line.lineType with
  | sku => simp only [receivedIds, takenIds, TransferLine.units, kind, cancelSelector_sku kind]
  | epc =>
    rw [underway.receivedIds_epc inLines kind]
    refine underway.takenIds_epc inLines kind (fun unit row sentFrom selected => ?_)
      fun row selected => ?_
    · refine underway.cancelSelector_eq_true inLines sentFrom selected fun isSku => ?_
      rw [kind] at isSku
      contradiction
    · simp only [cancelSelector, kind, Bool.and_eq_true] at selected
      exact selected.1.1

/-! ## What a cancel does with a row -/

/-- What a cancel takes for a line, and where it puts it. -/
def TakenBack (later : Db) (transfer : Transfer) (line : TransferLine) (edit : Edit StockItem.id) :
    Prop :=
  edit.keys = receivedIds later.stock transfer line ∧ edit.change = restorePlace line

/-- A cancel of the transfer that commits takes its rows for each line. -/
theorem takenBack (underway : Underway db later transfer now)
    (success : transferStep later (officer.request transfer.id .cancel) = .ok after) :
    ∃ edits, List.Forall₂ (TakenBack later transfer) (getLines db transfer.id) edits ∧
      after.stock.rows = later.stock.rows.map (editRow edits) := by
  have effect := transferStep_ok success
  rw [Officer.request] at effect
  cases effect with
  | canceled other target edits step =>
    obtain rfl := eq_of_key_eq underway.after.status.distinct target.member underway.waiting
      target.id
    have taken := step.taken rfl
    rw [show getLines later (transfer.dispatch now).id =
      getLines db transfer.id from underway.lines] at taken
    refine ⟨edits, (Checked.occurring_outputs taken).imp ?_, step.stock⟩
    rintro line edit ⟨inLines, _, putBack⟩
    exact ⟨putBack.ids.trans (underway.putBackIds inLines), putBack.change⟩

/-- A row that a cancel takes ends where a line that takes it says. -/
theorem whereabouts_of_taken
    (taken : List.Forall₂ (TakenBack later transfer) (getLines db transfer.id) edits)
    (inLines : line ∈ getLines db transfer.id)
    (listed : row.id ∈ receivedIds later.stock transfer line) :
    ∃ last ∈ getLines db transfer.id, row.id ∈ receivedIds later.stock transfer last ∧
      (editRow edits row).locationCode = last.locationCode ∧ (editRow edits row).pool = last.pool ∧
      (editRow edits row).locationIsVendible = last.locationIsVendible := by
  refine editRow_establishes (fun restored : StockItem => ∃ last ∈ getLines db transfer.id,
    row.id ∈ receivedIds later.stock transfer last ∧ restored.locationCode = last.locationCode ∧
      restored.pool = last.pool ∧ restored.locationIsVendible = last.locationIsVendible)
      (fun edit applied addressed now => ?_) ?_
  · obtain ⟨last, isLast, keys, change⟩ := Checked.item_of_output taken applied
    rw [change]
    exact ⟨last, isLast, keys ▸ addressed, rfl, rfl, rfl⟩
  · obtain ⟨edit, applied, keys, _⟩ := Checked.output_of_item taken inLines
    exact ⟨edit, applied, keys ▸ listed⟩

private theorem eq_of_untaken
    (taken : List.Forall₂ (TakenBack later transfer) (getLines db transfer.id) edits)
    (untaken : ∀ line ∈ getLines db transfer.id, row.id ∉ receivedIds later.stock transfer line) :
    editRow edits row = row := by
  refine editRow_of_untouched fun edit applied listed => ?_
  obtain ⟨line, inLines, keys, _⟩ := Checked.item_of_output taken applied
  exact untaken line inLines (keys ▸ listed)

private theorem store_of_taken
    (taken : List.Forall₂ (TakenBack later transfer) (getLines db transfer.id) edits) :
    (editRow edits row).storeId = row.storeId := by
  refine editRow_keeps (fun restored : StockItem => restored.storeId = row.storeId)
    rfl fun edit applied now same _ => ?_
  obtain ⟨line, _, _, change⟩ := Checked.item_of_output taken applied
  rw [change]
  exact same

/-! ## Enough -/

section Enough

variable (underway : Underway db later transfer now) (restorable : Restorable db later transfer)
include underway restorable

/-- The line of a kind that asks for the most takes back what was dispatched for it. -/
theorem mem_widest (inLines : line ∈ getLines db transfer.id) (isSku : line.lineType = .sku)
    (most : ∀ other ∈ getLines db transfer.id, other.kind = line.kind → other.units ≤ line.units) :
    id ∈ receivedIds later.stock transfer line ↔ id ∈ sentIds db.stock transfer line := by
  have alike := restorable.alike line inLines isSku
  refine underway.mem_receivedIds_of_only inLines isSku alike
    ((underway.receivedIds_sku inLines isSku alike).mpr ?_)
  intro row isRow matching unsent unit isUnit listed
  refine restorable.first line inLines isSku row isRow ?_ (fun other otherInLines sent => unsent ?_)
    unit isUnit listed
  · rwa [cancelSelector_sku isSku]
  · -- A row sent for another line of the kind was sent for this one too.
    obtain ⟨before, isBefore, same, sentFrom, selected⟩ := underway.sentFrom otherInLines isRow sent
    have rowKind := (receiveSelector_inTransitFor (underway.typed inLines) matching).1.kind
    have untagged : other.epc = none := by
      rw [← (dispatchSelector_row (underway.typed otherInLines) selected).2.1,
        epc_of_kind (sentFrom.kind.symm.trans rowKind)]
      exact (underway.typed inLines).mp isSku
    have otherSku := (underway.typed otherInLines).mpr untagged
    have kind : other.kind = line.kind :=
      (restorable.alike other otherInLines otherSku before isBefore (same ▸ sent)).symm.trans
        (sentFrom.kind.symm.trans rowKind)
    have places := restorable.places other otherInLines line inLines kind
    simp only [TransferLine.whereabouts, Prod.mk.injEq, true_and] at places
    have sku : other.sku = line.sku := by
      simp only [StockSnapshot.kind, untagged, (underway.typed inLines).mp isSku,
        UnitKind.variant.injEq] at kind
      exact kind.1
    exact sentIds_subset otherSku isSku sku places.1 places.2.1 (most other otherInLines kind) sent

/-- What the cancel of a line takes was dispatched for a line of the same place. -/
theorem sent_of_takenBack (inLines : line ∈ getLines db transfer.id)
    (listed : id ∈ receivedIds later.stock transfer line) :
    ∃ source ∈ getLines db transfer.id, id ∈ sentIds db.stock transfer source ∧
      source.whereabouts transfer = line.whereabouts transfer := by
  cases kind : line.lineType with
  | epc => exact ⟨line, inLines, underway.receivedIds_epc inLines kind ▸ listed, rfl⟩
  | sku =>
    obtain ⟨widest, isWidest, same, most⟩ := exists_largest (·.kind) (·.units) inLines
    have type := (underway.lineType_of_kind inLines isWidest same).trans kind
    have wide := underway.receivedIds_subset inLines isWidest same (most line inLines rfl) listed
    exact ⟨widest, isWidest, (underway.mem_widest restorable isWidest type (same ▸ most)).mp wide,
      restorable.places widest isWidest line inLines same⟩

/-- What was dispatched for a line is taken back. -/
theorem takenBack_of_sent (inLines : line ∈ getLines db transfer.id)
    (listed : id ∈ sentIds db.stock transfer line) :
    ∃ taker ∈ getLines db transfer.id, id ∈ receivedIds later.stock transfer taker := by
  cases kind : line.lineType with
  | epc => exact ⟨line, inLines, underway.receivedIds_epc inLines kind ▸ listed⟩
  | sku =>
    obtain ⟨widest, isWidest, same, most⟩ := exists_largest (·.kind) (·.units) inLines
    have type := (underway.lineType_of_kind inLines isWidest same).trans kind
    have places := restorable.places widest isWidest line inLines same
    simp only [TransferLine.whereabouts, Prod.mk.injEq, true_and] at places
    have sku : line.sku = widest.sku := by
      simp only [StockSnapshot.kind, (underway.typed isWidest).mp type,
        (underway.typed inLines).mp kind, UnitKind.variant.injEq] at same
      exact same.1.symm
    have wide := sentIds_subset kind type sku places.1.symm places.2.1.symm
      (most line inLines rfl) listed
    exact ⟨widest, isWidest, (underway.mem_widest restorable isWidest type (same ▸ most)).mpr wide⟩

/-- The cancel is accepted. -/
theorem cancel_accepted (may : officer.MayAct "transfers.cancel" transfer) :
    ∃ after, transferStep later (officer.request transfer.id .cancel) = .ok after := by
  have mayNow : officer.MayAct "transfers.cancel" (transfer.dispatch now) :=
    ⟨may.permitted, may.signed, may.tenant⟩
  have unreceived := ((underway.after.status.agrees _ underway.waiting).unstamped rfl).1
  change ∃ after, transferStep later (officer.request (transfer.dispatch now).id .cancel) =
    .ok after
  refine cancelTransfer_succeeds mayNow underway.after.status.distinct underway.waiting
    rfl unreceived fun line inLater => ?_
  have inLines : line ∈ getLines db transfer.id := underway.lines ▸ inLater
  have picks := underway.picks line inLines
  have found : Picks StockItem.id later.stock.rows (cancelSelector transfer line) line.units.toNat
      (sentIds db.stock transfer line) := by
    refine ⟨picks.unrepeated, picks.length, fun id listed => ?_⟩
    obtain ⟨unit, isUnit, rfl, selected⟩ := picks.found id listed
    obtain ⟨row, isRow, sentFrom⟩ := underway.units line inLines unit isUnit listed
    exact ⟨row, isRow, sentFrom.id, underway.cancelSelector_eq_true inLines sentFrom selected
        fun isSku =>
      restorable.alike line inLines isSku unit isUnit listed⟩
  exact ⟨underway.named line inLines, found.le_countP⟩

/-- And puts every row where it was. -/
theorem cancelRestores (may : officer.MayAct "transfers.cancel" transfer) :
    CancelRestores db later transfer officer := by
  obtain ⟨after, success⟩ := underway.cancel_accepted restorable may
  obtain ⟨edits, taken, stock⟩ := underway.takenBack success
  refine ⟨after, success, ?_⟩
  rw [stock, List.forall₂_map_right_iff, List.forall₂_same]
  refine fun row isRow => ⟨fun line inLines listed unit isUnit same => ?_, fun unsent => ?_⟩
  · obtain ⟨taker, isTaker, takes⟩ := underway.takenBack_of_sent restorable inLines listed
    obtain ⟨last, isLast, lastTakes, location, pool, vendible⟩ :=
      whereabouts_of_taken taken isTaker takes
    obtain ⟨source, isSource, sourceListed, sameplace⟩ :=
      underway.sent_of_takenBack restorable isLast lastTakes
    obtain ⟨_, _, _, sentFrom, _⟩ := underway.sentFrom inLines isRow listed
    rw [restorable.recorded source isSource unit isUnit (same ▸ sourceListed), sameplace]
    simp only [StockItem.whereabouts, TransferLine.whereabouts, store_of_taken taken,
      sentFrom.store, location, pool, vendible]
  · refine eq_of_untaken taken fun line inLines listed => ?_
    obtain ⟨source, isSource, sourceListed, _⟩ :=
      underway.sent_of_takenBack restorable inLines listed
    exact unsent source isSource sourceListed

end Enough

/-! ## Necessary -/

section Necessary

variable (underway : Underway db later transfer now)
    (grounded : ∀ line ∈ getLines db transfer.id, line.inTransit = false)
  (taken : List.Forall₂ (TakenBack later transfer) (getLines db transfer.id) edits)
  (restored : ∀ row ∈ later.stock.rows, Restored db transfer row (editRow edits row))
include underway

/-- The units of an untagged line are at the place that the line names. -/
theorem place_of_sent (inLines : line ∈ getLines db transfer.id) (isSku : line.lineType = .sku)
    {unit : StockItem} (isUnit : unit ∈ db.stock.rows)
    (listed : unit.id ∈ sentIds db.stock transfer line) :
    unit.sku = line.sku ∧ unit.locationCode = line.locationCode ∧ unit.pool = line.pool := by
  have selected := (underway.picks line inLines).holds db.stock.distinctIds isUnit listed
  simp only [dispatchSelector, isSku] at selected
  obtain ⟨_, _, _, sku, location, pool⟩ := transferSkuFilters_eq_true selected
  obtain ⟨named, placed, pooled⟩ := underway.before.lines.placed line
    (mem_getLines.mp inLines).1 isSku
  obtain ⟨name, isName⟩ := Option.ne_none_iff_exists'.mp named
  obtain ⟨code, isCode⟩ := Option.ne_none_iff_exists'.mp placed
  obtain ⟨poolCode, isPool⟩ := Option.ne_none_iff_exists'.mp pooled
  rw [isName] at sku ⊢
  exact ⟨sku, (location code isCode).trans isCode.symm, (pool poolCode isPool).trans isPool.symm⟩

include grounded taken restored

/-- A row that was dispatched is taken by the cancel. -/
theorem taken_of_restored (isRow : row ∈ later.stock.rows)
    (inLines : line ∈ getLines db transfer.id) (listed : row.id ∈ sentIds db.stock transfer line) :
    ∃ taker ∈ getLines db transfer.id, row.id ∈ receivedIds later.stock transfer taker := by
  cases kind : line.lineType with
  | epc => exact ⟨line, inLines, underway.receivedIds_epc inLines kind ▸ listed⟩
  | sku =>
    by_contra untaken
    have stays := eq_of_untaken taken fun taker isTaker takes => untaken ⟨taker, isTaker, takes⟩
    obtain ⟨unit, isUnit, same, sentFrom, _⟩ := underway.sentFrom inLines isRow listed
    have back := (restored row isRow).own line inLines listed unit isUnit same
    obtain ⟨_, location, pool⟩ := underway.place_of_sent inLines kind isUnit (same ▸ listed)
    have ground := grounded line inLines
    have transit := sentFrom.transit
    rw [stays] at back
    simp only [StockItem.whereabouts, Prod.mk.injEq] at back
    simp only [StockSnapshot.inTransit, back.2.1, back.2.2.1, location, pool] at transit ground
    rw [ground] at transit
    contradiction

/-- A dispatched row was where its line says, and is of its kind when the line is untagged. -/
theorem recorded_of_restored (inLines : line ∈ getLines db transfer.id) {unit : StockItem}
    (isUnit : unit ∈ db.stock.rows) (listed : unit.id ∈ sentIds db.stock transfer line) :
    unit.whereabouts = line.whereabouts transfer ∧
    (line.lineType = .sku → unit.kind = line.kind) := by
  obtain ⟨row, isRow, sentFrom⟩ := underway.units line inLines unit isUnit listed
  have sent : row.id ∈ sentIds db.stock transfer line := sentFrom.id ▸ listed
  obtain ⟨taker, isTaker, takes⟩ :=
    underway.taken_of_restored grounded taken restored isRow inLines sent
  obtain ⟨last, isLast, lastTakes, location, pool, vendible⟩ :=
    whereabouts_of_taken taken isTaker takes
  have back := (restored row isRow).own line inLines sent unit isUnit sentFrom.id.symm
  have kind : unit.kind = last.kind := sentFrom.kind.symm.trans
    (receiveSelector_inTransitFor (underway.typed isLast)
    (selected_of_mem_takenIds isRow lastTakes)).1.kind
  have selected := (underway.picks line inLines).holds db.stock.distinctIds isUnit listed
  have tag := (dispatchSelector_row (underway.typed inLines) selected).2.1
  -- The line that the cancel came to last is a copy of the line that sent the row.
  have same : last.toStockSnapshot = line.toStockSnapshot := by
    cases type : line.lineType with
    | epc =>
      obtain ⟨epc, named⟩ := (underway.typed inLines).named type
      rw [underway.before.lines.eq_of_epc isLast inLines
        ((epc_of_kind kind).symm.trans (tag.trans named)) named]
    | sku =>
      have untagged : last.epc = none := (epc_of_kind kind).symm.trans
        (tag.trans ((underway.typed inLines).mp type))
      obtain ⟨sku, unitLocation, unitPool⟩ := underway.place_of_sent inLines type isUnit listed
      simp only [StockItem.whereabouts, Prod.mk.injEq, location, pool] at back
      refine underway.before.lines.alike transfer.id last isLast line inLines
        ((underway.typed isLast).mpr untagged) type ?_
        (back.2.1.trans unitLocation) (back.2.2.1.trans unitPool)
      simp only [StockSnapshot.kind, tag.trans ((underway.typed inLines).mp type), untagged,
        UnitKind.variant.injEq] at kind
      exact kind.1.symm.trans sku
  constructor
  · rw [← back]
    simp only [StockItem.whereabouts, TransferLine.whereabouts, store_of_taken taken,
      sentFrom.store, location, pool, vendible, same]
  · intro _
    rw [kind, same]

/-- What was dispatched for a line, the line of its kind that asks for the most takes back. -/
theorem widest_takes (inLines : line ∈ getLines db transfer.id) (isSku : line.lineType = .sku)
    (otherInLines : other ∈ getLines db transfer.id) (same : other.kind = line.kind)
    (most : ∀ third ∈ getLines db transfer.id, third.kind = line.kind → third.units ≤ other.units) :
    sentIds db.stock transfer line ⊆ receivedIds later.stock transfer other := by
  intro id listed
  obtain ⟨unit, isUnit, rfl, _⟩ := (underway.picks line inLines).found id listed
  obtain ⟨row, isRow, sentFrom⟩ := underway.units line inLines unit isUnit listed
  rw [← sentFrom.id] at listed ⊢
  obtain ⟨taker, isTaker, takes⟩ :=
    underway.taken_of_restored grounded taken restored isRow inLines listed
  have takerKind :=
    (receiveSelector_inTransitFor (underway.typed isTaker)
      (selected_of_mem_takenIds isRow takes)).1.kind
  have kind :=
    (underway.recorded_of_restored grounded taken restored inLines isUnit (sentFrom.id ▸ listed)).2
      isSku
  have alike : taker.kind = line.kind := takerKind.symm.trans (sentFrom.kind.trans kind)
  exact underway.receivedIds_subset isTaker otherInLines (same.trans alike.symm)
    (most taker isTaker alike) takes

/-- So the lines of one kind name one place. -/
theorem places_of_restored (inLines : line ∈ getLines db transfer.id)
    (otherInLines : other ∈ getLines db transfer.id) (same : other.kind = line.kind)
    (most : ∀ third ∈ getLines db transfer.id, third.kind = line.kind → third.units ≤ other.units) :
    line.toStockSnapshot = other.toStockSnapshot := by
  have typed := underway.typed inLines
  have type := underway.lineType_of_kind inLines otherInLines same
  cases kind : line.lineType with
  | epc =>
    obtain ⟨epc, named⟩ := typed.named kind
    rw [underway.before.lines.eq_of_epc inLines otherInLines named ((epc_of_kind same).trans named)]
  | sku =>
    rw [kind] at type
    have untagged := typed.mp kind
    have sku : line.sku = other.sku := by
      simp only [StockSnapshot.kind, untagged, (epc_of_kind same).trans untagged,
        UnitKind.variant.injEq] at same
      exact same.1.symm
    suffices place : line.locationCode = other.locationCode ∧ line.pool = other.pool from
      underway.before.lines.alike transfer.id line inLines other otherInLines kind type sku
        place.1 place.2
    by_contra apart
    have disjoint : (sentIds db.stock transfer line).Disjoint
        (sentIds db.stock transfer other) := by
      intro id listed shared
      obtain ⟨unit, isUnit, rfl, _⟩ := (underway.picks line inLines).found id listed
      obtain ⟨_, location, pool⟩ := underway.place_of_sent inLines kind isUnit listed
      obtain ⟨_, otherLocation, otherPool⟩ := underway.place_of_sent otherInLines type isUnit shared
      exact apart ⟨location.symm.trans otherLocation, pool.symm.trans otherPool⟩
    -- Both lines' units would have to fit into what one of them takes.
    have picks := underway.picks line inLines
    have otherPicks := underway.picks other otherInLines
    have fits :=
      (List.subperm_of_subset (picks.unrepeated.append otherPicks.unrepeated disjoint)
        (List.append_subset.mpr
      ⟨underway.widest_takes grounded taken restored inLines kind otherInLines same most,
        underway.widest_takes grounded taken restored otherInLines type otherInLines
        rfl (same ▸ most)⟩)).length_le
    have bound : (receivedIds later.stock transfer other).length ≤ other.units.toNat := by
      simp only [receivedIds, takenIds, type, List.length_map]
      exact length_oldest_le
    rw [List.length_append, picks.length, otherPicks.length] at fits
    have positive := line.one_le_units
    omega

/-- A cancel that puts every row back finds the rows by what their lines say. -/
theorem restorable : Restorable db later transfer := by
  refine ⟨fun line inLines unit isUnit listed => ?_, fun line inLines isSku unit isUnit listed =>
    ?_, fun line inLines other otherInLines same => ?_,
    fun line inLines isSku row isRow selected unsent unit isUnit listed => ?_⟩
  · exact (underway.recorded_of_restored grounded taken restored inLines isUnit listed).1
  · exact (underway.recorded_of_restored grounded taken restored inLines isUnit listed).2 isSku
  · obtain ⟨widest, isWidest, kind, most⟩ := exists_largest (·.kind) (·.units) inLines
    have first := underway.places_of_restored grounded taken restored inLines isWidest kind most
    have second := underway.places_of_restored grounded taken restored otherInLines isWidest
      (kind.trans same) (same ▸ most)
    simp only [TransferLine.whereabouts, first, second]
  · obtain ⟨widest, isWidest, kind, most⟩ := exists_largest (·.kind) (·.units) inLines
    have type := (underway.lineType_of_kind inLines isWidest kind).trans isSku
    have alike : ∀ unit ∈ db.stock.rows, unit.id ∈ sentIds db.stock transfer widest →
        unit.kind = widest.kind :=
      fun unit isUnit listed =>
        (underway.recorded_of_restored grounded taken restored isWidest isUnit listed).2 type
    have picks := underway.picks widest isWidest
    have takes := underway.widest_takes grounded taken restored isWidest type isWidest
      rfl (kind ▸ most)
    have only : ∀ id ∈ receivedIds later.stock transfer widest,
        id ∈ sentIds db.stock transfer widest := by
      have bound : (receivedIds later.stock transfer widest).length ≤
          (sentIds db.stock transfer widest).length := by
        rw [picks.length]
        simp only [receivedIds, takenIds, type, List.length_map]
        exact length_oldest_le
      have perm := (List.subperm_of_subset picks.unrepeated takes).perm_of_length_le bound
      exact fun id isTaken => perm.mem_iff.mpr isTaken
    have same := underway.places_of_restored grounded taken restored inLines isWidest kind most
    have matching : receiveSelector transfer widest row = true := by
      rw [receiveSelector_of_kind isSku type ((underway.typed inLines).mp isSku) kind,
        ← cancelSelector_sku isSku]
      exact selected
    refine (underway.receivedIds_sku isWidest type alike).mp only row isRow matching
      (unsent widest isWidest) unit isUnit ?_
    exact sentIds_subset isSku type (congrArg (·.sku) same) (congrArg (·.locationCode) same)
      (congrArg (·.pool) same) (most line inLines rfl) listed

end Necessary

end Underway

end Cancel

/-! ## Requests in between -/

/-- A request that spares the dispatched units: a dispatch or a loss of another transfer takes none
of them, and any other request leaves them and their transfer alone. -/
def Spares (db : Db) (transfer : Transfer) (source : Db) : ApiRequest → Prop
  | .system (.transfer (.action _ transferId ⟨_, _, .dispatch⟩)) =>
      transferId ≠ transfer.id ∧ ∀ other ∈ source.transfers, other.id = transferId →
        ∀ line ∈ getLines source other.id, ∀ own ∈ getLines db transfer.id,
        (sentIds source.stock other line).Disjoint (sentIds db.stock transfer own)
  | .system (.transfer (.action _ transferId ⟨_, _, .resolveShortages .lostInRoute items⟩)) =>
      transferId ≠ transfer.id ∧ ∀ other ∈ source.transfers, other.id = transferId → ∀ item ∈ items,
        ∀ line ∈ getLines source other.id, line.id = item.lineId → ∀ own ∈ getLines db transfer.id,
          (takenIds source.stock line.lineType (lostSelector other line) item.qty).Disjoint
          (sentIds db.stock transfer own)
  | request => ∀ next, apiStep source request = .ok next → LeftInTransit db source next transfer

namespace LeftInTransit

variable {db sent source next : Db} {transfer other : Transfer}

theorem refl : LeftInTransit db sent sent transfer :=
  ⟨fun _ isSent _ => isSent, fun _ _ => rfl, fun _ _ _ isRow _ => isRow⟩

theorem trans (first : LeftInTransit db sent source transfer)
    (second : LeftInTransit db source next transfer) :
    LeftInTransit db sent next transfer where
  waiting dispatched isSent same :=
    second.waiting dispatched (first.waiting dispatched isSent same) same
  outstanding line inLines := (second.outstanding line inLines).trans
    (first.outstanding line inLines)
  rows line inLines row isRow listed := second.rows line inLines row
    (first.rows line inLines row isRow listed) listed

/-- A request on another transfer that leaves the dispatched rows alone leaves all of the transfer
alone. -/
theorem of_touches {change : Transfer → Transfer} {written : List TransferMovement}
    (touches : Touches source next other change written) (apart : other.id ≠ transfer.id)
    (rows : ∀ line ∈ getLines db transfer.id, ∀ row ∈ source.stock.rows,
      row.id ∈ sentIds db.stock transfer line →
      row ∈ next.stock.rows) : LeftInTransit db source next transfer where
  waiting dispatched isSent same := by
    rw [touches.transfers]
    refine mem_update.mpr ⟨dispatched, isSent, if_neg ?_⟩
    rw [List.mem_singleton, same]
    exact apart.symm
  outstanding line _ := touches.outstandingQty_of_ne apart.symm line.id
  rows := rows

/-- Requests that spare the units of a transfer leave them in transit. -/
theorem of_spares {request : ApiRequest} (spares : Spares db transfer source request)
    (success : apiStep source request = .ok next)
    (held : ∀ line ∈ getLines db transfer.id, ∀ row ∈ source.stock.rows,
      row.id ∈ sentIds db.stock transfer line →
      row.storeId = some transfer.originStoreId) : LeftInTransit db source next transfer := by
  unfold Spares at spares
  split at spares
  · simp only [apiStep, systemStep] at success
    cases transferStep_ok success with
    | dispatched other target session outputs step =>
      obtain ⟨apart, disjoint⟩ := spares
      refine of_touches (step.touches target.member) (target.id ▸ apart)
        fun own isOwn row isRow listed => ?_
      have stays : editRow (outputs.map (·.1)) (session.current row) = row := by
        rw [step.claims.current_of_held isRow (held own isOwn row isRow listed)]
        refine editRow_of_untouched fun edit applied addressed => ?_
        obtain ⟨output, isOutput, rfl⟩ := List.mem_map.mp applied
        obtain ⟨line, inLines, taken⟩ := Checked.item_of_output step.taken isOutput
        rw [taken.ids] at addressed
        exact disjoint other target.member target.id line inLines own isOwn addressed listed
      rw [step.stock, List.map_map]
      exact List.mem_map.mpr ⟨row, isRow, stays⟩
  · simp only [apiStep, systemStep] at success
    cases transferStep_ok success with
    | resolved other target outputs step =>
      obtain ⟨apart, disjoint⟩ := spares
      refine of_touches (step.touches target.member) (target.id ▸ apart)
        fun own isOwn row isRow listed => ?_
      rw [step.stock]
      refine List.mem_filter.mpr ⟨isRow, decide_eq_true fun removed => ?_⟩
      obtain ⟨output, isOutput, takes⟩ := List.mem_flatMap.mp removed
      obtain ⟨item, isItem, line, inLines, resolved⟩ := Checked.item_of_output step.taken isOutput
      rw [resolved.removed rfl] at takes
      exact disjoint other target.member target.id item isItem line inLines resolved.id own isOwn
        takes listed
  · exact spares next success

/-- And so do runs of them. -/
theorem of_run {later : Db} (sentFrom : ∀ line ∈ getLines db transfer.id, ∀ row ∈ sent.stock.rows,
      row.id ∈ sentIds db.stock transfer line → row.storeId = some transfer.originStoreId)
    (present : ∀ line ∈ getLines db transfer.id, ∀ id ∈ sentIds db.stock transfer line,
        ∃ row ∈ sent.stock.rows, row.id = id)
    (run : Reachable apiStep (Spares db transfer) sent later) :
        LeftInTransit db sent later transfer := by
  have keeps : ∀ source request next, LeftInTransit db sent source transfer →
      Spares db transfer source request → apiStep source request = .ok next →
      LeftInTransit db sent next transfer := by
    intro source request next left spares success
    refine left.trans (of_spares spares success fun line inLines row isRow listed => ?_)
    obtain ⟨before, isBefore, same⟩ := present line inLines row.id listed
    have stays := left.rows line inLines before isBefore (same ▸ listed)
    obtain rfl := eq_of_key_eq source.stock.distinctIds stays isRow same
    exact sentFrom line inLines before isBefore listed
  exact run.invariant refl keeps

end LeftInTransit

/-- After a dispatch and any requests that spare its units, a cancel puts every dispatched row back
where it was and moves no other row when the lines find these rows again by what they say; and only
then, unless the transfer was itself drafted from rows in transit. -/
theorem dispatched_transfer_restored_iff (start db sent later : Db)
    (noTransfers : start.transfers = []) (noLines : start.transferLines = [])
    (noMovements : start.transferMovements = [])
    (reached : Reachable apiStep (fun _ _ => True) start db) (transfer : Transfer)
    (member : transfer ∈ db.transfers) (dispatcher officer : Officer)
    (dispatches : transferStep db (dispatcher.request transfer.id .dispatch) = .ok sent)
    (continued : Reachable apiStep (Spares db transfer) sent later)
    (may : officer.MayAct "transfers.cancel" transfer) :
    (Restorable db later transfer → CancelRestores db later transfer officer) ∧
      ((∀ line ∈ getLines db transfer.id, line.inTransit = false) →
        CancelRestores db later transfer officer → Restorable db later transfer) := by
  have sound : TransfersSound db :=
    (TransfersSound.initial noTransfers noLines noMovements).reached reached
  have sentSound := sound.transfer dispatches
  obtain ⟨session, outputs, step⟩ := sound.dispatchStep member dispatches
  have units : ∀ line ∈ getLines db transfer.id, ∀ id ∈ sentIds db.stock transfer line,
      ∃ unit row, row ∈ sent.stock.rows ∧ row.id = id ∧ SentFrom transfer unit row := by
    intro line inLines id listed
    obtain ⟨unit, isUnit, rfl, _⟩ := (step.picks inLines).found id listed
    obtain ⟨row, isRow, sentFrom⟩ :=
      step.sentFrom inLines (sound.lines.typed line (mem_getLines.mp inLines).1) isUnit listed
    exact ⟨unit, row, isRow, sentFrom.id, sentFrom⟩
  have left : LeftInTransit db sent later transfer := by
    refine .of_run (fun line inLines row isRow listed => ?_)
      (fun line inLines id listed => ?_) continued
    · obtain ⟨_, other, isOther, same, sentFrom⟩ := units line inLines row.id listed
      obtain rfl := eq_of_key_eq sent.stock.distinctIds isOther isRow same
      exact sentFrom.store
    · obtain ⟨_, row, isRow, same, _⟩ := units line inLines id listed
      exact ⟨row, isRow, same⟩
  have underway : Underway db later transfer dispatcher.context.now :=
    .of_leftInTransit sound member step sentSound continued left
  refine ⟨fun restorable => underway.cancelRestores restorable may,
    fun grounded ⟨after, success, restores⟩ => ?_⟩
  obtain ⟨edits, taken, stock⟩ := underway.takenBack success
  rw [stock, List.forall₂_map_right_iff, List.forall₂_same] at restores
  exact underway.restorable grounded taken restores

namespace Sample

/-- Two trips from one store, of two untagged jackets and of the tagged one. -/
def tripsPacked : Db := (runAllowed apiStep (fun _ _ => True) db
  [.system (.transfer (create [{ lineType := .sku, qty := 2, snapshot := jacket }])),
    .system (.transfer (create [{ lineType := .epc, snapshot := taggedJacket }]))]).get
    (by decide +kernel)

private theorem firstTripSent_commits :
    (transferStep tripsPacked (officer.request 1 .dispatch)).toOption.isSome = true := by
  decide +kernel

def firstTripSent : Db :=
  (transferStep tripsPacked (officer.request 1 .dispatch)).toOption.get firstTripSent_commits

private theorem bothTripsSent_commits :
    (transferStep firstTripSent (officer.request 2 .dispatch)).toOption.isSome = true := by
  decide +kernel

def bothTripsSent : Db :=
  (transferStep firstTripSent (officer.request 2 .dispatch)).toOption.get bothTripsSent_commits

private theorem officer_mayCancel : officer.MayAct "transfers.cancel" packedTrip where
  permitted := rfl
  signed := rfl
  tenant := rfl

/-- The second trip takes none of the jackets of the first. -/
theorem second_trip_spares :
    Spares tripsPacked packedTrip firstTripSent
    (.system (.transfer (officer.request 2 .dispatch))) := by
  refine ⟨by decide, fun other isOther same line inLines own isOwn id listed => ?_⟩
  have apart : ∀ other ∈ firstTripSent.transfers, other.id = 2 →
      ∀ line ∈ getLines firstTripSent other.id, ∀ own ∈ getLines tripsPacked packedTrip.id,
      ∀ id ∈ sentIds firstTripSent.stock other line,
        id ∉ sentIds tripsPacked.stock packedTrip own := by decide +kernel
  exact apart other isOther same line inLines own isOwn id listed

end Sample

/-- The first trip is canceled while the second is under way. -/
theorem dispatched_transfer_restored_iff_two_trips :
    CancelRestores Sample.tripsPacked Sample.bothTripsSent Sample.packedTrip Sample.officer :=
  (dispatched_transfer_restored_iff Sample.db Sample.tripsPacked Sample.firstTripSent
    Sample.bothTripsSent rfl rfl rfl (reachable_of_runAllowed (Option.some_get _).symm)
    Sample.packedTrip (by decide +kernel) Sample.officer Sample.officer
    (Checked.eq_ok_get Sample.firstTripSent_commits)
    (.commit .start Sample.second_trip_spares (Checked.eq_ok_get Sample.bothTripsSent_commits))
    Sample.officer_mayCancel).1
    ⟨by decide +kernel, by decide +kernel, by decide +kernel, by decide +kernel⟩

namespace Sample

/-- Two jackets of one SKU at one place, of which one may be sold there. -/
def oneVendible : Db :=
  { stores
    stock := ⟨[{ jacket with id := 1, itemUid := 1, tenantId := 1, storeId := some 10,
                             locationIsVendible := true },
      { jacket with id := 2, itemUid := 2, tenantId := 1, storeId := some 10,
                    locationIsVendible := false }],
      by decide +kernel, by decide +kernel, by decide +kernel⟩ }

def vendiblePacked : Db := (runAllowed apiStep (fun _ _ => True) oneVendible
  [.system (.transfer (create [{ lineType := .sku, qty := 2, snapshot := jacket }]))]).get
  (by decide +kernel)

private theorem vendibleSent_commits :
    (transferStep vendiblePacked (officer.request 1 .dispatch)).toOption.isSome = true := by
  decide +kernel

def vendibleSent : Db :=
  (transferStep vendiblePacked (officer.request 1 .dispatch)).toOption.get vendibleSent_commits

private theorem vendibleBack_commits :
    (transferStep vendibleSent (officer.request 1 .cancel)).toOption.isSome = true := by
  decide +kernel

def vendibleBack : Db :=
  (transferStep vendibleSent (officer.request 1 .cancel)).toOption.get vendibleBack_commits

end Sample

/-- A dispatch and its cancel make a jacket vendible that was not. -/
theorem cancel_makes_jacket_vendible :
    ¬ ∀ start db sent after : Db, start.transfers = [] → start.transferLines = [] →
    start.transferMovements = [] →
      Reachable apiStep (fun _ _ => True) start db → ∀ transfer ∈ db.transfers,
      ∀ dispatcher officer : Officer,
        transferStep db (dispatcher.request transfer.id .dispatch) = .ok sent →
        transferStep sent (officer.request transfer.id .cancel) = .ok after →
        ∀ row ∈ db.stock.rows, ∃ restored ∈ after.stock.rows, restored.id = row.id ∧
          restored.whereabouts = row.whereabouts := by
  intro restores
  have reached : Reachable apiStep (fun _ _ => True) Sample.oneVendible Sample.vendiblePacked :=
    reachable_of_runAllowed (Option.some_get _).symm
  have back := restores Sample.oneVendible Sample.vendiblePacked Sample.vendibleSent
    Sample.vendibleBack rfl rfl rfl reached Sample.packedTrip
    (by decide +kernel) Sample.officer Sample.officer
    (Checked.eq_ok_get Sample.vendibleSent_commits)
    (Checked.eq_ok_get Sample.vendibleBack_commits)
  exact absurd back (by decide +kernel)

end ArisCloud

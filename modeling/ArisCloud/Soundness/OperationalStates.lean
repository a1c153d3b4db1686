import ArisCloud.Model.StockRules
import ArisCloud.Proofs.TransferDrafts

/-! # What the listing says of a row and what the queries take

The listing and the queries of sales and transfers decide separately how a row may be used. The
listing looks at the tag and the status, both normalised; the queries compare the columns as they
are, and also look at the store, the SKU and, for transfers by SKU, at the place and a list of
statuses.
-/

namespace ArisCloud

open KeyedRows

/-! ## What the queries take -/

/-- Some EPC line of a sale selects the row. -/
def TakenByEpcSale (row : StockItem) : Prop :=
  ∃ storeId epc, isTruthy epc = true ∧ saleEpcFilters row.tenantId storeId epc row = true

/-- Some SKU line of a sale selects the row. -/
def TakenBySkuSale (row : StockItem) : Prop :=
  ∃ storeId sku, isTruthy sku = true ∧ saleSkuFilters row.tenantId storeId sku row = true

/-- Some EPC line of a transfer finds the row. -/
def TakenByEpcTransfer (table : StockTable) (row : StockItem) : Prop :=
  ∃ originStoreId epc session stockRow, epc ≠ "" ∧
    validateTransferableEpcStock { flushed := table } row.tenantId originStoreId epc none none = .ok
    (session, stockRow) ∧
      stockRow.id = row.id

/-- Some SKU line of a transfer selects the row. -/
def TakenBySkuTransfer (row : StockItem) : Prop :=
  ∃ originStoreId sku locationCode pool, sku ≠ "" ∧ isTruthy locationCode = true ∧
    isTruthy pool = true ∧ transferSkuFilters row.tenantId originStoreId sku locationCode pool row =
    true

/-- The listing and the queries agree about a row. -/
structure ModesAgree (table : StockTable) (row : StockItem) : Prop where
  epcSale : (computeOperationalState row).saleMode = .epc ↔ TakenByEpcSale row
  skuSale : (computeOperationalState row).saleMode = .sku ↔ TakenBySkuSale row
  epcTransfer : (computeOperationalState row).transferMode = .epc ↔ TakenByEpcTransfer table row
  skuTransfer : (computeOperationalState row).transferMode = .sku ↔ TakenBySkuTransfer row

/-- A row whose columns leave no room for another reading. -/
inductive Unambiguous (row : StockItem) : Prop
  | sold (status : row.status = some "SOLD")
  | soldInOtherLetters (historical : isHistoricalStatus row.status = true)
      (inexact : row.status ≠ some "SOLD") (untagged : isTruthy row.epc = false)
      (unlisted : row.epc = none → row.storeId ≠ none → isTruthy row.sku = false)
  | tagged (live : isHistoricalStatus row.status = false) (visible : strip (row.epc.getD "") ≠ "")
      (held : row.storeId ≠ none) (stated : row.status ≠ none)
  | untagged (epc : row.epc = none) (held : row.storeId ≠ none) (named : isTruthy row.sku = true)
      (status : hasTransferStatus row = true) (located : isTruthy row.locationCode = true)
      (pooled : isTruthy row.pool = true)

/-! ## The queries, column by column -/

variable {table : StockTable} {row : StockItem}

private theorem isTruthy_eq_true {text : Option String} : isTruthy text = true ↔ ∃ word,
    text = some word ∧ word ≠ "" := by
  cases text <;> simp [isTruthy]

private theorem takenByEpcSale_iff :
    TakenByEpcSale row ↔ row.storeId ≠ none ∧ isTruthy row.epc = true ∧ notSold row = true := by
  simp only [TakenByEpcSale, saleEpcFilters, Bool.and_eq_true, decide_eq_true_eq]
  constructor
  · rintro ⟨storeId, epc, named, ⟨⟨_, held⟩, rfl⟩, unsold⟩
    exact ⟨held ▸ Option.some_ne_none storeId, named, unsold⟩
  · rintro ⟨held, named, unsold⟩
    obtain ⟨storeId, held⟩ := Option.ne_none_iff_exists'.mp held
    exact ⟨storeId, row.epc, named, ⟨⟨trivial, held⟩, rfl⟩, unsold⟩

private theorem takenBySkuSale_iff :
    TakenBySkuSale row ↔ row.storeId ≠ none ∧ isTruthy row.sku = true ∧ row.epc = none ∧
    notSold row = true := by
  simp only [TakenBySkuSale, saleSkuFilters, Bool.and_eq_true, decide_eq_true_eq]
  constructor
  · rintro ⟨storeId, sku, named, ⟨⟨⟨_, held⟩, rfl⟩, untagged⟩, unsold⟩
    exact ⟨held ▸ Option.some_ne_none storeId, named, untagged, unsold⟩
  · rintro ⟨held, named, untagged, unsold⟩
    obtain ⟨storeId, held⟩ := Option.ne_none_iff_exists'.mp held
    exact ⟨storeId, row.sku, named, ⟨⟨⟨trivial, held⟩, rfl⟩, untagged⟩, unsold⟩

private theorem takenBySkuTransfer_iff :
    TakenBySkuTransfer row ↔ row.storeId ≠ none ∧ row.epc = none ∧ hasTransferStatus row = true ∧
      isTruthy row.sku = true ∧ isTruthy row.locationCode = true ∧ isTruthy row.pool = true := by
  simp only [TakenBySkuTransfer, transferSkuFilters, Bool.and_eq_true, decide_eq_true_eq]
  constructor
  · rintro ⟨originStoreId, sku, locationCode, pool, named, located, pooled,
      ⟨⟨⟨⟨⟨_, held⟩, untagged⟩, status⟩, same⟩, atCode⟩,
      inPool⟩
    obtain ⟨code, rfl, nonempty⟩ := isTruthy_eq_true.mp located
    obtain ⟨bin, rfl, filled⟩ := isTruthy_eq_true.mp pooled
    simp only [Option.all_some, decide_eq_true_eq] at atCode inPool
    exact ⟨held ▸ Option.some_ne_none originStoreId, untagged, status,
      isTruthy_eq_true.mpr ⟨sku, same, named⟩, isTruthy_eq_true.mpr ⟨code, atCode, nonempty⟩,
      isTruthy_eq_true.mpr ⟨bin, inPool, filled⟩⟩
  · rintro ⟨held, untagged, status, named, located, pooled⟩
    obtain ⟨originStoreId, held⟩ := Option.ne_none_iff_exists'.mp held
    obtain ⟨sku, same, named⟩ := isTruthy_eq_true.mp named
    obtain ⟨code, atCode, nonempty⟩ := isTruthy_eq_true.mp located
    obtain ⟨bin, inPool, filled⟩ := isTruthy_eq_true.mp pooled
    refine ⟨originStoreId, sku, some code, some bin, named, ?_, ?_,
      ⟨⟨⟨⟨⟨trivial, held⟩, untagged⟩, status⟩, same⟩, ?_⟩, ?_⟩
    · exact isTruthy_eq_true.mpr ⟨code, rfl, nonempty⟩
    · exact isTruthy_eq_true.mpr ⟨bin, rfl, filled⟩
    · simpa using atCode
    · simpa using inPool

private theorem first_of_epc (member : row ∈ table.rows) {epc : String}
    (tagged : row.epc = some epc) :
    StockSession.first { flushed := table } (epcFilters row.tenantId epc) = some row :=
  StockSession.first_eq_some.mpr
    ⟨row, find?_epcFilters member (epcFilters_eq_true.mpr ⟨rfl, tagged⟩), rfl⟩

/-- An EPC line of a transfer finds every tagged row whose status is not the word `SOLD`, held by a
store or not. -/
theorem takenByEpcTransfer_iff (member : row ∈ table.rows) :
    TakenByEpcTransfer table row ↔ isTruthy row.epc = true ∧ row.status ≠ some "SOLD" := by
  constructor
  · rintro ⟨originStoreId, epc, session, stockRow, named, success, same⟩
    simp only [validateTransferableEpcStock, Checked.bind_eq_ok, Checked.fetch_eq_ok,
      Checked.ensure_eq_ok, exists_const, Checked.pure_eq_ok, Prod.mk.injEq] at success
    obtain ⟨found, isFound, _, unsold, _, _, _, rfl⟩ := success
    obtain ⟨other, isOther, rfl⟩ := StockSession.first_eq_some.mp isFound
    have isRow : other = row := by
      refine List.inj_on_of_nodup_map table.distinctIds
        (List.mem_of_find?_eq_some isOther) member ?_
      split at same <;> exact same
    subst isRow
    have selected := List.find?_some isOther
    simp only [epcFilters, Bool.and_eq_true, decide_eq_true_eq] at selected
    refine ⟨isTruthy_eq_true.mpr ⟨epc, selected.2, named⟩, ?_⟩
    split at unsold <;> exact unsold
  · rintro ⟨named, unsold⟩
    obtain ⟨epc, tagged, nonempty⟩ := isTruthy_eq_true.mp named
    simp only [TakenByEpcTransfer, validateTransferableEpcStock, Checked.bind_eq_ok,
      Checked.fetch_eq_ok, Checked.ensure_eq_ok, exists_const, Checked.pure_eq_ok, Prod.mk.injEq]
    cases held : row.storeId with
    | none =>
      refine ⟨0, epc, _, _, nonempty, ⟨row, first_of_epc member tagged, ?_, ?_, nofun, nofun, rfl,
          rfl⟩, ?_⟩
      · rw [if_pos held]
        rfl
      · rw [if_pos held]
        exact unsold
      · rw [if_pos held]
        rfl
    | some storeId =>
      have isHeld : row.storeId ≠ none := held ▸ Option.some_ne_none storeId
      refine ⟨storeId, epc, _, _, nonempty, ⟨row, first_of_epc member tagged, ?_, ?_, nofun, nofun,
          rfl, rfl⟩, ?_⟩
      · rw [if_neg isHeld]
        exact held
      · rw [if_neg isHeld]
        exact unsold
      · rw [if_neg isHeld]

/-! ## What the listing says -/

section Listing

private theorem modes_of_historical (historical : isHistoricalStatus row.status = true) :
    (computeOperationalState row).saleMode = .none ∧ (computeOperationalState row).transferMode =
    .none := by
  simp [computeOperationalState, historical]

private theorem modes_of_visible (live : isHistoricalStatus row.status = false)
    (visible : strip (row.epc.getD "") ≠ "") :
    (computeOperationalState row).saleMode = .epc ∧ (computeOperationalState row).transferMode =
    .epc := by
  simp [computeOperationalState, live, visible]

private theorem modes_of_blank (live : isHistoricalStatus row.status = false)
    (blank : strip (row.epc.getD "") = "") :
    (computeOperationalState row).saleMode = .sku ∧ (computeOperationalState row).transferMode =
    .sku := by
  simp [computeOperationalState, live, blank]

private theorem isTruthy_of_visible {text : Option String} (visible : strip (text.getD "") ≠ "") :
    isTruthy text = true := by
  cases text with
  | none => exact absurd (by decide +kernel) visible
  | some word =>
    refine isTruthy_eq_true.mpr ⟨word, rfl, ?_⟩
    rintro rfl
    exact visible (by decide +kernel)

private theorem notSold_eq_true : notSold row = true ↔ ∃ status, row.status = some status ∧
    status ≠ "SOLD" := by
  cases status : row.status <;> simp [notSold, status]

private theorem historical_sold : isHistoricalStatus (some "SOLD") = true := by decide +kernel

private theorem notSold_of_live (live : isHistoricalStatus row.status = false)
    (stated : row.status ≠ none) : notSold row = true := by
  obtain ⟨status, same⟩ := Option.ne_none_iff_exists'.mp stated
  refine notSold_eq_true.mpr ⟨status, same, ?_⟩
  rintro rfl
  rw [same, historical_sold] at live
  contradiction

/-- The statuses of transfers by SKU are none of the spellings of `SOLD`. -/
theorem live_of_hasTransferStatus (status : hasTransferStatus row = true) :
    isHistoricalStatus row.status = false := by
  obtain ⟨word, same, allowed⟩ := (Option.any_eq_true _ _).mp status
  simp only [transferSkuAllowedStatuses, List.mem_cons, List.not_mem_nil, or_false,
    decide_eq_true_eq] at allowed
  rw [same]
  rcases allowed with rfl | rfl <;> decide +kernel

end Listing

/-! ## Agreement -/

/-- The agreement about a row that the listing gives no use. -/
theorem modesAgree_of_none (historical : isHistoricalStatus row.status = true)
    (noEpcSale : ¬ TakenByEpcSale row) (noSkuSale : ¬ TakenBySkuSale row)
    (noEpcTransfer : ¬ TakenByEpcTransfer table row) (noSkuTransfer : ¬ TakenBySkuTransfer row) :
    ModesAgree table row := by
  obtain ⟨saleMode, transferMode⟩ := modes_of_historical historical
  constructor
  · exact iff_of_false (saleMode ▸ nofun) noEpcSale
  · exact iff_of_false (saleMode ▸ nofun) noSkuSale
  · exact iff_of_false (transferMode ▸ nofun) noEpcTransfer
  · exact iff_of_false (transferMode ▸ nofun) noSkuTransfer

/-- No query of transfers by SKU takes a row with a spelling of `SOLD`. -/
theorem not_takenBySkuTransfer (historical : isHistoricalStatus row.status = true) :
    ¬ TakenBySkuTransfer row := by
  intro taken
  have live := live_of_hasTransferStatus (takenBySkuTransfer_iff.mp taken).2.2.1
  rw [historical] at live
  contradiction

theorem Unambiguous.agrees (member : row ∈ table.rows) (clear : Unambiguous row) :
    ModesAgree table row := by
  cases clear with
  | sold status =>
    have historical : isHistoricalStatus row.status = true := status ▸ historical_sold
    have notOnSale : ¬ notSold row = true := by simp [notSold, status]
    apply modesAgree_of_none historical
    · exact fun taken => notOnSale (takenByEpcSale_iff.mp taken).2.2
    · exact fun taken => notOnSale (takenBySkuSale_iff.mp taken).2.2.2
    · exact fun taken => ((takenByEpcTransfer_iff member).mp taken).2 status
    · exact not_takenBySkuTransfer historical
  | soldInOtherLetters historical inexact untagged unlisted =>
    apply modesAgree_of_none historical
    · exact fun taken => Bool.eq_false_iff.mp untagged (takenByEpcSale_iff.mp taken).2.1
    · intro taken
      obtain ⟨held, named, free, _⟩ := takenBySkuSale_iff.mp taken
      exact Bool.eq_false_iff.mp (unlisted free held) named
    · exact fun taken => Bool.eq_false_iff.mp untagged ((takenByEpcTransfer_iff member).mp taken).1
    · exact not_takenBySkuTransfer historical
  | tagged live visible held stated =>
    obtain ⟨saleMode, transferMode⟩ := modes_of_visible live visible
    have named := isTruthy_of_visible visible
    have marked : row.epc ≠ none := fun untagged => by simp [untagged, isTruthy] at named
    constructor
    · exact iff_of_true saleMode (takenByEpcSale_iff.mpr ⟨held, named, notSold_of_live live stated⟩)
    · exact iff_of_false (saleMode ▸ nofun) fun taken => marked (takenBySkuSale_iff.mp taken).2.2.1
    · refine iff_of_true transferMode ((takenByEpcTransfer_iff member).mpr ⟨named, fun sold => ?_⟩)
      rw [sold, historical_sold] at live
      contradiction
    · exact iff_of_false (transferMode ▸ nofun) fun taken =>
        marked (takenBySkuTransfer_iff.mp taken).2.1
  | untagged epc held named status located pooled =>
    have live := live_of_hasTransferStatus status
    have blank : strip (row.epc.getD "") = "" := by
      rw [epc]
      decide +kernel
    obtain ⟨saleMode, transferMode⟩ := modes_of_blank live blank
    have unmarked : ¬ isTruthy row.epc = true := by simp [epc, isTruthy]
    have stated : row.status ≠ none := fun missing => by simp [hasTransferStatus, missing] at status
    constructor
    · exact iff_of_false (saleMode ▸ nofun) fun taken => unmarked (takenByEpcSale_iff.mp taken).2.1
    · exact iff_of_true saleMode
        (takenBySkuSale_iff.mpr ⟨held, named, epc, notSold_of_live live stated⟩)
    · exact iff_of_false (transferMode ▸ nofun) fun taken =>
        unmarked ((takenByEpcTransfer_iff member).mp taken).1
    · exact iff_of_true transferMode
        (takenBySkuTransfer_iff.mpr ⟨held, epc, status, named, located, pooled⟩)

private theorem ModesAgree.unambiguous (member : row ∈ table.rows) (agree : ModesAgree table row) :
    Unambiguous row := by
  cases live : isHistoricalStatus row.status with
  | true =>
    obtain ⟨saleMode, transferMode⟩ := modes_of_historical live
    by_cases exactly : row.status = some "SOLD"
    · exact .sold exactly
    · refine .soldInOtherLetters live exactly (Bool.eq_false_iff.mpr fun named => ?_)
          fun free held =>
        Bool.eq_false_iff.mpr fun named => ?_
      · have mode := agree.epcTransfer.mpr ((takenByEpcTransfer_iff member).mpr ⟨named, exactly⟩)
        rw [transferMode] at mode
        contradiction
      · have onSale : notSold row = true := by
          refine notSold_eq_true.mpr ?_
          cases status : row.status with
          | none =>
            rw [status] at live
            exact absurd live (by decide +kernel)
          | some word => exact ⟨word, rfl, fun same => exactly (by rw [status, same])⟩
        have mode := agree.skuSale.mpr (takenBySkuSale_iff.mpr ⟨held, named, free, onSale⟩)
        rw [saleMode] at mode
        contradiction
  | false =>
    by_cases blank : strip (row.epc.getD "") = ""
    · obtain ⟨saleMode, transferMode⟩ := modes_of_blank live blank
      obtain ⟨held, epc, status, named, located, pooled⟩ :=
        takenBySkuTransfer_iff.mp (agree.skuTransfer.mp transferMode)
      exact .untagged epc held named status located pooled
    · obtain ⟨saleMode, transferMode⟩ := modes_of_visible live blank
      obtain ⟨held, _, onSale⟩ := takenByEpcSale_iff.mp (agree.epcSale.mp saleMode)
      obtain ⟨status, stated, _⟩ := notSold_eq_true.mp onSale
      exact .tagged live blank held (stated ▸ Option.some_ne_none status)

/-- The listing and the queries agree about a row exactly when its columns leave no room for another
reading. -/
theorem modes_agree_iff (table : StockTable) (row : StockItem) (member : row ∈ table.rows) :
    ModesAgree table row ↔ Unambiguous row :=
  ⟨fun agree => agree.unambiguous member, fun clear => clear.agrees member⟩

namespace Sample

/-- A jacket in store 10 that carries no tag. -/
def shelved : StockItem :=
  { sku := some "JACKET", locationCode := some "WH-MAIN", pool := some "BODEGA",
    status := some "PENDING", id := 1, itemUid := 1, tenantId := 1, storeId := some 10 }

/-- The jacket without a status. -/
def unstated : StockItem := { shelved with status := none }

def shelf (row : StockItem) : StockTable :=
  ⟨[row], by simp, by cases tag : row.tag <;> simp [tag], by simp⟩

end Sample

/-- The listing and the queries agree about a jacket on its shelf. -/
theorem modes_agree_on_shelf : ModesAgree (Sample.shelf Sample.shelved) Sample.shelved :=
  (modes_agree_iff _ _ (List.mem_singleton_self _)).mpr
    (.untagged (by decide +kernel) (by decide +kernel) (by decide +kernel) (by decide +kernel)
    (by decide +kernel)
      (by decide +kernel))

/-- A jacket without a status is listed for sale by its SKU, and no sale takes it. -/
theorem unstated_status_disagrees : (computeOperationalState Sample.unstated).saleMode = .sku ∧
    ¬ TakenBySkuSale Sample.unstated ∧ ¬ ModesAgree
    (Sample.shelf Sample.unstated) Sample.unstated := by
  have listed : (computeOperationalState Sample.unstated).saleMode = .sku := by decide +kernel
  have untaken : ¬ TakenBySkuSale Sample.unstated := by
    rw [takenBySkuSale_iff]
    decide +kernel
  exact ⟨listed, untaken, fun agree => untaken (agree.skuSale.mp listed)⟩

end ArisCloud

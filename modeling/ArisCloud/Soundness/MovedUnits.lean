import ArisCloud.Soundness.SoldUnits

/-! # Units that an action moves once

The lines of a sale and the items of a return select their rows one after the other, among the rows
as they were before the request. A row that two of them select is moved once and counted twice, so
an action moves what it is asked to exactly when its selections share no row.
-/

namespace ArisCloud

open KeyedRows Requests

/-! ## What an action should move -/

/-- The rows taken for one line or item: as many as asked for, matching before, and where they
should be after. -/
structure Took (db : Db) (matching : StockItem → Bool) (qty : ℤ) (reached : ℕ → Prop)
    (ids : List ℕ) : Prop where
  unrepeated : ids.Nodup
  length : (ids.length : ℤ) = qty
  found : ∀ id ∈ ids, ∃ row ∈ db.stock.rows, row.id = id ∧ matching row = true
  reached : ∀ id ∈ ids, reached id

/-- Every line or item took rows of its own, and together they moved what is asked for. -/
structure MovedOnce {ι : Type*} (db : Db) (items : List ι) (matching : ι → StockItem → Bool)
    (qty : ι → ℤ) (reached : ℕ → Prop) (moved : ℕ) : Prop where
  each : ∃ taken, List.Forall₂ (fun item => Took db (matching item) (qty item) reached)
    items taken ∧ taken.Pairwise List.Disjoint
  total : (moved : ℤ) = (items.map qty).sum

/-- The number of rows on sale that a request turned to sold. -/
def becameSold (db after : Db) : ℕ := db.stock.rows.countP fun row => notSold row && decide
    (IsSold after row.id)

/-- The number of sold rows that a request put back. -/
def leftSold (db after : Db) : ℕ :=
  db.stock.rows.countP fun row => decide (row.status = some "SOLD") &&
    decide (¬ IsSold after row.id)

section MovedOnce

variable {ι : Type*} {db : Db} {items : List ι} {outputs : List StockOutput}
    {matching : ι → StockItem → Bool}
  {qty : ι → ℤ} {reached : ℕ → Prop}

/-- The quantities asked for count the rows taken, those taken twice included. -/
theorem sum_qty_eq_length
    (taken : List.Forall₂ (fun item output => Picks StockItem.id db.stock.rows (matching item)
      (qty item).toNat output.1.keys) items outputs) (positive : ∀ item ∈ items, 1 ≤ qty item) :
    (items.map qty).sum = ((outputs.flatMap (·.1.keys)).length : ℤ) := by
  induction taken with
  | nil => rfl
  | @cons item output _ _ picks _ ih =>
    have first := positive item (List.mem_cons_self ..)
    have length := picks.length
    rw [List.map_cons, List.sum_cons, ih fun other later =>
      positive other (List.mem_cons_of_mem _ later),
      List.flatMap_cons, List.length_append, length]
    omega

/-- An action moves what it is asked to exactly when no two of its lines or items take the same
row. -/
theorem movedOnce_iff {moved : ℕ}
    (taken : List.Forall₂ (fun item output => Picks StockItem.id db.stock.rows
      (matching item) (qty item).toNat output.1.keys) items outputs)
      (positive : ∀ item ∈ items, 1 ≤ qty item)
    (arrives : ∀ output ∈ outputs, ∀ id ∈ output.1.keys, reached id)
    (count : moved = db.stock.rows.countP fun row => decide (row.id ∈ outputs.flatMap (·.1.keys))) :
    MovedOnce db items matching qty reached moved ↔
      outputs.Pairwise fun output other => output.1.keys.Disjoint other.1.keys := by
  have picks : ∀ output ∈ outputs, ∃ item ∈ items, Picks StockItem.id db.stock.rows (matching item)
      (qty item).toNat output.1.keys := fun output isOutput => Checked.item_of_output taken isOutput
  have distinct : moved = (outputs.flatMap (·.1.keys)).length ↔
      outputs.Pairwise fun output other => output.1.keys.Disjoint other.1.keys := by
    rw [count]
    refine countP_flatMap_eq_iff db.stock.distinctIds (fun output isOutput => ?_)
      fun output isOutput => ?_
    · obtain ⟨_, _, picks⟩ := picks output isOutput
      exact picks.unrepeated
    · obtain ⟨_, _, picks⟩ := picks output isOutput
      exact picks.present
  constructor
  · intro once
    have total := once.total
    rw [sum_qty_eq_length taken positive] at total
    exact distinct.mp (by exact_mod_cast total)
  · intro disjoint
    refine ⟨⟨outputs.map (·.1.keys), ?_, List.pairwise_map.mpr disjoint⟩, ?_⟩
    · rw [List.forall₂_map_right_iff]
      refine (Checked.occurring_outputs taken).imp fun item output ⟨isItem, isOutput, picks⟩ => ?_
      have positive := positive item isItem
      have length := picks.length
      exact ⟨picks.unrepeated, by omega, picks.found, arrives output isOutput⟩
    · rw [sum_qty_eq_length taken positive]
      exact_mod_cast distinct.mpr disjoint

end MovedOnce

/-! ## Lines that sell -/

/-- What a line selects unsold rows by: its tag, or its SKU among untagged rows, at a place. -/
def goodsSelector (lineType : LineType) (snapshot : PosSaleLineSnapshot) :
    LineType × Option String × Option String × Option String :=
  (lineType, match lineType with | .epc => snapshot.epc | .sku => snapshot.sku,
    snapshot.locationCode, snapshot.pool)

section Selectors

variable {db : Db} {sale : PosSale} {lineType other : LineType}
    {snapshot another : PosSaleLineSnapshot}

/-- Lines that match one row have one selector. -/
theorem goodsSelector_eq_of_matching {row : StockItem} (tagged : lineType = .epc ↔
      snapshot.epc ≠ none)
    (otherTagged : other = .epc ↔
      another.epc ≠ none) (matching : unsoldStockFilters sale lineType snapshot row = true)
    (also : unsoldStockFilters sale other another row = true) :
    goodsSelector lineType snapshot = goodsSelector other another := by
  unfold goodsSelector
  cases lineType <;> cases other <;>
    simp only [unsoldStockFilters, Bool.and_eq_true,
    decide_eq_true_eq] at matching also tagged otherTagged
  · simp only [← matching.1.1.2, ← matching.1.2, ← matching.2, also.1.1.2, also.1.2, also.2]
  -- A row of a tagged line has a tag, a row of an untagged one has none.
  · exact absurd (matching.2.symm.trans also.2.2) (tagged.mp trivial)
  · exact absurd (also.2.symm.trans matching.2.2) (otherTagged.mp trivial)
  · simp only [← matching.1.1.2, ← matching.1.2, ← matching.2.1, also.1.1.2, also.1.2, also.2.1]

/-- One selector selects one set of rows. -/
theorem unsoldStockFilters_eq_of_selector (sale : PosSale)
    (same : goodsSelector lineType snapshot = goodsSelector other another) :
    lineType = other ∧ unsoldStockFilters sale lineType snapshot =
    unsoldStockFilters sale other another := by
  simp only [goodsSelector, Prod.mk.injEq] at same
  obtain ⟨rfl, goods, location, pool⟩ := same
  refine ⟨rfl, funext fun row => ?_⟩
  cases lineType <;> simp only at goods <;> simp only [unsoldStockFilters, location, pool, goods]

/-- Queries of one set of rows, by tag or by age, have a row in common. -/
theorem exists_taken_by_both {matching : StockItem → Bool} {qty otherQty : ℤ} (positive : 1 ≤ qty)
    (also : 1 ≤ otherQty) (some : oldest (·.createdAt) matching qty.toNat db.stock.rows ≠ []) :
    ∃ id, id ∈ (oldest (·.createdAt) matching qty.toNat db.stock.rows).map (·.id) ∧
      id ∈ (oldest (·.createdAt) matching otherQty.toNat db.stock.rows).map (·.id) := by
  obtain ⟨row, first, second⟩ := exists_mem_oldest (by omega)
    (show 0 < otherQty.toNat by omega) some
  exact ⟨row.id, List.mem_map_of_mem first, List.mem_map_of_mem second⟩

/-- Lines of different selectors take different rows, and lines of one selector share one. -/
theorem LineSold.disjoint_iff {change : LineType → StockItem → StockItem} {qty otherQty : ℤ}
    {output later : StockOutput} (tagged : lineType = .epc ↔ snapshot.epc ≠ none)
    (otherTagged : other = .epc ↔ another.epc ≠ none) (positive : 1 ≤ qty) (also : 1 ≤ otherQty)
    (sold : LineSold db sale change lineType snapshot qty output)
    (otherSold : LineSold db sale change other another otherQty later) :
    output.1.keys.Disjoint later.1.keys ↔ goodsSelector lineType snapshot ≠
    goodsSelector other another := by
  constructor
  · intro apart same
    obtain ⟨rfl, filters⟩ := unsoldStockFilters_eq_of_selector sale same
    have length := sold.picks.length
    have nonempty : output.1.keys ≠ [] := by
      intro empty
      rw [empty, List.length_nil] at length
      omega
    have ids := sold.ids
    have otherIds := otherSold.ids
    cases lineType with
    | epc =>
      obtain ⟨id, listed⟩ := List.exists_mem_of_ne_nil _ nonempty
      rw [soldIds, filters] at ids
      rw [soldIds] at otherIds
      exact apart listed (otherIds.symm ▸ ids ▸ listed)
    | sku =>
      rw [soldIds, filters] at ids
      rw [soldIds] at otherIds
      obtain ⟨id, first, second⟩ := exists_taken_by_both positive also fun empty =>
        nonempty (by rw [ids, empty]; rfl)
      exact apart (ids ▸ first) (otherIds ▸ second)
  · intro different
    refine sold.picks.disjoint otherSold.picks db.stock.distinctIds fun row _ matching => ?_
    by_contra holds
    exact different (goodsSelector_eq_of_matching tagged otherTagged matching
      (Bool.not_eq_false _ ▸ holds))

end Selectors

/-! ## The stock after an action -/

/-- What a sale and a return do to the stock in one commit: they sell unsold rows and put sold ones
back. -/
structure StockMoved (db after : Db) (taken restocked : List StockOutput) : Prop where
  unsold : ∀ output ∈ taken, ∀ row ∈ db.stock.rows, row.id ∈ output.1.keys → notSold row = true
  sells : ∀ output ∈ taken, ∀ row, (output.1.change row).status = some "SOLD"
  sold : ∀ output ∈ restocked, ∀ row ∈ db.stock.rows, row.id ∈ output.1.keys →
    row.status = some "SOLD"
  returns : ∀ output ∈ restocked, ∀ row, (output.1.change row).status ≠ some "SOLD"
  present : ∀ output ∈ taken ++ restocked, ∀ id ∈ output.1.keys, id ∈ db.stock.rows.map (·.id)
  added : ∀ output ∈ restocked, ∀ row ∈ output.2, row.status ≠ some "SOLD"
  rows : after.stock.rows = db.stock.rows.map (editRow ((taken ++ restocked).map (·.1))) ++
    restocked.flatMap (·.2)

private theorem not_notSold {row : StockItem} (sold : row.status = some "SOLD") :
    ¬ notSold row = true := by
  simp [notSold, sold]

/-- Lines that sell, with or without items that are returned beside them, move the stock. -/
theorem LineSold.stockMoved {ι : Type*} {db after : Db} {sale : PosSale}
    {change : LineType → StockItem → StockItem} {lineType : ι → LineType}
    {snapshot : ι → PosSaleLineSnapshot} {qty : ι → ℤ} {lines : List ι}
    {items : List AcceptedReturn} {taken restocked : List StockOutput}
    (sold : List.Forall₂ (fun line => LineSold db sale change (lineType line) (snapshot line)
      (qty line)) lines taken)
    (sells : ∀ kind row, (change kind row).status = some "SOLD")
    (returned : List.Forall₂ (ItemRestocked db sale) items restocked)
    (rows : after.stock.rows = db.stock.rows.map (editRow ((taken ++ restocked).map (·.1))) ++
      restocked.flatMap (·.2)) :
    StockMoved db after taken restocked where
  unsold := by
    intro output isOutput row member listed
    obtain ⟨_, _, line⟩ := Checked.item_of_output sold isOutput
    have matching := line.picks.holds db.stock.distinctIds member listed
    simp only [unsoldStockFilters, Bool.and_eq_true] at matching
    exact matching.1.1.1.2
  sells := by
    intro output isOutput row
    obtain ⟨_, _, line⟩ := Checked.item_of_output sold isOutput
    rw [line.change]
    exact sells _ row
  sold := by
    intro output isOutput
    obtain ⟨_, _, item⟩ := Checked.item_of_output returned isOutput
    exact item.sold
  returns := by
    intro output isOutput
    obtain ⟨_, _, item⟩ := Checked.item_of_output returned isOutput
    exact item.leaves
  present := by
    intro output isOutput
    rcases List.mem_append.mp isOutput with isTaken | isRestocked
    · obtain ⟨_, _, line⟩ := Checked.item_of_output sold isTaken
      exact line.picks.present
    · obtain ⟨_, _, item⟩ := Checked.item_of_output returned isRestocked
      exact item.picks.present
  added := by
    intro output isOutput
    obtain ⟨_, _, item⟩ := Checked.item_of_output returned isOutput
    exact item.unsold
  rows := rows

namespace StockMoved

variable {db after : Db} {taken restocked : List StockOutput} {row : StockItem}

/-- What the action makes of a row. -/
def result (taken restocked : List StockOutput) (row : StockItem) : StockItem :=
  editRow ((taken ++ restocked).map (·.1)) row

/-- Whether a row is sold afterwards is a matter of what the action makes of it. -/
theorem isSold_iff (moved : StockMoved db after taken restocked) (member : row ∈ db.stock.rows) :
    IsSold after row.id ↔ (result taken restocked row).status = some "SOLD" := by
  constructor
  · rintro ⟨later, isLater, same, sold⟩
    rw [moved.rows] at isLater
    rcases List.mem_append.mp isLater with kept | new
    · obtain ⟨before, isBefore, rfl⟩ := List.mem_map.mp kept
      obtain rfl := eq_of_key_eq db.stock.distinctIds isBefore member (key_editRow.symm.trans same)
      exact sold
    · obtain ⟨output, isOutput, inAdded⟩ := List.mem_flatMap.mp new
      exact absurd sold (moved.added output isOutput later inAdded)
  · intro sold
    exact ⟨_, moved.rows ▸ List.mem_append_left _ (List.mem_map_of_mem member), key_editRow, sold⟩

theorem untouched (moved : StockMoved db after taken restocked) (member : row ∈ db.stock.rows)
    (sold : row.status = some "SOLD") : ∀ edit ∈ taken.map (·.1), row.id ∉ edit.keys := by
  intro edit applied listed
  obtain ⟨output, isOutput, rfl⟩ := List.mem_map.mp applied
  exact not_notSold sold (moved.unsold output isOutput row member listed)

/-- Of the rows on sale, those that are taken become sold. -/
theorem sold_iff_taken (moved : StockMoved db after taken restocked) (member : row ∈ db.stock.rows)
    (onSale : notSold row = true) : IsSold after row.id ↔ row.id ∈ taken.flatMap (·.1.keys) := by
  rw [moved.isSold_iff member, result, List.map_append, editRow_append]
  have unreturned : editRow (restocked.map (·.1)) (editRow (taken.map (·.1)) row) = editRow
      (taken.map (·.1)) row := by
    refine editRow_of_untouched fun edit applied listed => ?_
    obtain ⟨output, isOutput, rfl⟩ := List.mem_map.mp applied
    have same : (editRow (taken.map (·.1)) row).id = row.id := key_editRow
    exact not_notSold (moved.sold output isOutput row member (same ▸ listed)) onSale
  rw [unreturned]
  constructor
  · intro sold
    by_contra untaken
    rw [editRow_of_untouched] at sold
    · exact not_notSold sold onSale
    · intro edit applied listed
      obtain ⟨output, isOutput, rfl⟩ := List.mem_map.mp applied
      exact untaken (List.mem_flatMap.mpr ⟨output, isOutput, listed⟩)
  · intro listed
    obtain ⟨output, isOutput, listed⟩ := List.mem_flatMap.mp listed
    refine editRow_establishes (·.status = some "SOLD") (fun edit applied _ current => ?_)
      ⟨output.1, List.mem_map_of_mem isOutput, listed⟩
    obtain ⟨other, another, rfl⟩ := List.mem_map.mp applied
    exact moved.sells other another current

/-- Of the sold rows, those that are put back leave. -/
theorem sold_iff_kept (moved : StockMoved db after taken restocked) (member : row ∈ db.stock.rows)
    (sold : row.status = some "SOLD") : IsSold after row.id ↔ row.id ∉ restocked.flatMap
    (·.1.keys) := by
  rw [moved.isSold_iff member, result, List.map_append, editRow_append,
    editRow_of_untouched (moved.untouched member sold)]
  constructor
  · intro stays listed
    obtain ⟨output, isOutput, listed⟩ := List.mem_flatMap.mp listed
    refine absurd stays
      (editRow_establishes (·.status ≠ some "SOLD") (fun edit applied _ current => ?_)
      ⟨output.1, List.mem_map_of_mem isOutput, listed⟩)
    obtain ⟨other, another, rfl⟩ := List.mem_map.mp applied
    exact moved.returns other another current
  · intro kept
    rw [editRow_of_untouched]
    · exact sold
    · intro edit applied listed
      obtain ⟨output, isOutput, rfl⟩ := List.mem_map.mp applied
      exact kept (List.mem_flatMap.mpr ⟨output, isOutput, listed⟩)

theorem becameSold_eq (moved : StockMoved db after taken restocked) :
    becameSold db after = db.stock.rows.countP fun row => decide
    (row.id ∈ taken.flatMap (·.1.keys)) := by
  refine List.countP_congr fun row member => ?_
  simp only [Bool.and_eq_true, decide_eq_true_eq]
  constructor
  · rintro ⟨onSale, sold⟩
    exact (moved.sold_iff_taken member onSale).mp sold
  · intro listed
    obtain ⟨output, isOutput, inKeys⟩ := List.mem_flatMap.mp listed
    have onSale := moved.unsold output isOutput row member inKeys
    exact ⟨onSale, (moved.sold_iff_taken member onSale).mpr listed⟩

theorem leftSold_eq (moved : StockMoved db after taken restocked) :
    leftSold db after = db.stock.rows.countP fun row => decide
    (row.id ∈ restocked.flatMap (·.1.keys)) := by
  refine List.countP_congr fun row member => ?_
  simp only [Bool.and_eq_true, decide_eq_true_eq]
  constructor
  · rintro ⟨sold, left⟩
    exact Decidable.not_not.mp fun kept => left ((moved.sold_iff_kept member sold).mpr kept)
  · intro listed
    obtain ⟨output, isOutput, inKeys⟩ := List.mem_flatMap.mp listed
    have sold := moved.sold output isOutput row member inKeys
    exact ⟨sold, fun stays => (moved.sold_iff_kept member sold).mp stays listed⟩

theorem isSold_of_taken (moved : StockMoved db after taken restocked) {output : StockOutput}
    (isOutput : output ∈ taken) {id : ℕ} (listed : id ∈ output.1.keys) : IsSold after id := by
  obtain ⟨row, member, rfl⟩ :=
    List.mem_map.mp (moved.present output (List.mem_append_left _ isOutput) id listed)
  exact (moved.sold_iff_taken member (moved.unsold output isOutput row member listed)).mpr
    (List.mem_flatMap.mpr ⟨output, isOutput, listed⟩)

theorem not_isSold_of_restocked (moved : StockMoved db after taken restocked) {output : StockOutput}
    (isOutput : output ∈ restocked) {id : ℕ} (listed : id ∈ output.1.keys) : ¬ IsSold after id := by
  obtain ⟨row, member, rfl⟩ :=
    List.mem_map.mp (moved.present output (List.mem_append_right _ isOutput) id listed)
  intro stays
  exact (moved.sold_iff_kept member (moved.sold output isOutput row member listed)).mp stays
    (List.mem_flatMap.mpr ⟨output, isOutput, listed⟩)

end StockMoved

end ArisCloud

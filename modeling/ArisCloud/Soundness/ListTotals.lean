import Mathlib.Algebra.Order.Ring.Rat
import Mathlib.Data.List.Sort
import Mathlib.Data.String.Basic
import Mathlib.Data.Sum.Order
import Mathlib.Order.WithBot
import ArisCloud.Model.StockListing

/-! # Totals of the stock list

The pages of a list hold every selected row once, in whatever order equal values come, as long as
there are none. The totals of a page count the whole selection when the tenant is listed. When the
caller's store is listed they count the page instead, so they are those of the selection only when
it is empty or its first page holds it.
-/

namespace ArisCloud.StockListing

open Paging

/-- `ORDER BY` as databases document it: the values of a column are totally ordered, and the rows
come sorted. -/
structure Engine.Sorts (engine : Engine) : Prop where
  antisymm : ∀ first second, engine.valueLe first second = true → engine.valueLe second first =
    true → first = second
  perm : ∀ descending column offset limit rows,
    (engine.orderBy descending column offset limit rows).Perm rows
  ascending : ∀ column offset limit rows, (engine.orderBy false column offset limit rows).Pairwise
      fun row other =>
    engine.valueLe (column.value row) (column.value other) = true
  descending : ∀ column offset limit rows, (engine.orderBy true column offset limit rows).Pairwise
      fun row other =>
    engine.valueLe (column.value other) (column.value row) = true

/-- The rows of a page. -/
def pageRows (engine : Engine) (db : ListingDb) (tokenData : TokenData) (request : StockListRequest)
    (number : ℕ) :
    List ListedItem :=
  match listStockPage engine db tokenData { request with page := number } with
  | .ok response => response.rows
  | .error _ => []

/-- A page of the list has the counts of the whole selection, and the pages together list every
selected row once. -/
def ListsExactly (engine : Engine) (db : ListingDb) (tokenData : TokenData)
    (request : StockListRequest) (filters : StockQueryFilters) : Prop :=
  (∃ response, listStockPage engine db tokenData request = .ok response ∧
    response.totals = totalsOf (selected engine db.items filters)) ∧
  ∀ count, (selected engine db.items filters).length ≤ count * request.pageSize →
    ((List.range count).flatMap fun number => pageRows engine db tokenData request
    (number + 1)).Perm
      (selected engine db.items filters)

section

variable {engine : Engine} {db : ListingDb} {tokenData : TokenData} {request : StockListRequest}
    {filters : StockQueryFilters}

/-- Two executions return rows with distinct values in the same order. -/
theorem Engine.Sorts.orderBy_eq (sorts : engine.Sorts) {column : SortColumn}
    {rows : List ListedItem} (distinct : (rows.map column.value).Nodup) (descending : Bool)
    (offset limit other : ℕ) :
    engine.orderBy descending column offset limit rows =
    engine.orderBy descending column other limit rows := by
  cases descending with
  | false =>
    exact eq_of_sorted (fun first second => engine.valueLe first second = true) sorts.antisymm
      distinct (sorts.perm ..) (sorts.perm ..) (sorts.ascending ..) (sorts.ascending ..)
  | true =>
    refine eq_of_sorted (fun first second => engine.valueLe second first = true) ?_ distinct
      (sorts.perm ..) (sorts.perm ..) (sorts.descending ..) (sorts.descending ..)
    intro first second before after
    exact sorts.antisymm first second after before

private theorem selects_scope {storeId : ℕ} (limited : filters.scopeStoreId = some storeId)
    {row : ListedItem} (isSelected : filters.selects engine row = true) :
    row.storeId = some storeId := by
  simp only [StockQueryFilters.selects, Bool.and_eq_true, limited, Option.all_some,
    decide_eq_true_eq] at isSelected
  obtain ⟨⟨⟨⟨⟨⟨⟨⟨⟨⟨⟨⟨⟨_, inScope⟩, _⟩, _⟩, _⟩, _⟩, _⟩, _⟩, _⟩, _⟩, _⟩, _⟩, _⟩, _⟩ := isSelected
  exact inScope

/-- The rows of a page as the repository returns them. -/
def repositoryPage (engine : Engine) (db : ListingDb) (request : StockListRequest)
    (filters : StockQueryFilters) :
    List ListedItem :=
  (listStock engine db.items filters request.page request.pageSize request.sortBy
    request.descending).1

/-- Every row of a page is selected. -/
theorem mem_repositoryPage (sorts : engine.Sorts) {row : ListedItem}
    (member : row ∈ repositoryPage engine db request filters) :
    row ∈ selected engine db.items filters :=
  (sorts.perm ..).subset (List.drop_subset _ _ (List.take_subset _ _ member))

/-- The totals of a page are those of the selection for a tenant, and those of the page for the
caller's store. -/
theorem listStockPage_eq (sorts : engine.Sorts) (request : StockListRequest)
    (counted : 1 ≤ request.page) (sized : 1 ≤ request.pageSize ∧ request.pageSize ≤ 500)
    (admitted : stockFilters db tokenData request = .ok filters) :
    ∃ totalsByStore, listStockPage engine db tokenData request = .ok
    ⟨repositoryPage engine db request filters,
      match filters.scopeStoreId with
      | none => totalsOf (selected engine db.items filters)
      | some _ => totalsOf (repositoryPage engine db request filters), totalsByStore⟩ := by
  have bounds : 1 ≤ request.page ∧ 1 ≤ request.pageSize ∧ request.pageSize ≤ 500 := ⟨counted, sized⟩
  refine ⟨if request.scope = .tenant then storeTotals (selected engine db.items filters)
    else [], ?_⟩
  simp only [listStockPage, Checked.bind_eq_ok, Checked.ensure_eq_ok]
  refine ⟨(), bounds, filters, admitted, ?_⟩
  cases limited : filters.scopeStoreId with
  | none => rfl
  | some storeId =>
    have kept : (repositoryPage engine db request filters).filter
        (fun row => row.storeId = some storeId) = repositoryPage engine db request filters := by
      refine List.filter_eq_self.mpr fun row member => decide_eq_true ?_
      exact selects_scope limited (List.mem_filter.mp (mem_repositoryPage sorts member)).2
    change Except.ok
      (⟨(repositoryPage engine db request filters).filter _,
        totalsOf ((repositoryPage engine db request
      filters).filter _), _⟩ : StockListResponse) = _
    rw [kept]

/-- The scope decides whether the rows are those of one store. -/
theorem scopeStoreId_eq_none (admitted : stockFilters db tokenData request = .ok filters) :
    filters.scopeStoreId = none ↔ request.scope = .tenant := by
  simp only [stockFilters, Checked.bind_eq_ok, Checked.pure_eq_ok] at admitted
  obtain ⟨_, _, _, _, scopeStoreId, resolved, rfl⟩ := admitted
  cases scope : request.scope with
  | self =>
    simp only [scope, resolveListScope, Checked.bind_eq_ok, Checked.pure_eq_ok] at resolved
    obtain ⟨storeId, _, _, _, rfl⟩ := resolved
    simp
  | tenant =>
    simp only [scope, resolveListScope, Checked.bind_eq_ok, Checked.pure_eq_ok] at resolved
    obtain ⟨_, _, rfl⟩ := resolved
    simp

/-- The pages together are the selected rows. -/
theorem pages_perm (sorts : engine.Sorts) (sized : 1 ≤ request.pageSize ∧ request.pageSize ≤ 500)
    (admitted : stockFilters db tokenData request = .ok filters)
    (distinct : ((selected engine db.items filters).map
      (resolveSortColumn request.sortBy).value).Nodup) {count : ℕ}
    (enough : (selected engine db.items filters).length ≤ count * request.pageSize) :
    ((List.range count).flatMap fun number => pageRows engine db tokenData request
      (number + 1)).Perm
      (selected engine db.items filters) := by
  let sorted := engine.orderBy request.descending
    (resolveSortColumn request.sortBy) 0 request.pageSize
    (selected engine db.items filters)
  have isPerm : sorted.Perm (selected engine db.items filters) := sorts.perm ..
  have pages : ∀ number, pageRows engine db tokenData request (number + 1) = page sorted
      (number + 1) request.pageSize := by
    intro number
    have numbered : stockFilters db tokenData { request with page := number + 1 } = .ok filters :=
      admitted
    obtain ⟨_, answered⟩ := listStockPage_eq sorts { request with page := number + 1 }
      (Nat.le_add_left ..) sized numbered
    rw [pageRows, answered]
    exact congrArg (page · (number + 1) request.pageSize) (sorts.orderBy_eq distinct ..)
  simp only [pages]
  rw [flatMap_page (isPerm.length_eq ▸ enough)]
  exact isPerm

/-- The counts of rows do not depend on their order. -/
theorem totalsOf_perm {rows others : List ListedItem} (perm : rows.Perm others) :
    totalsOf rows = totalsOf others := by
  simp only [totalsOf, perm.length_eq, perm.countP_eq]

/-- With distinct values in the column of the list, a page has the totals of the selection, and the
pages hold every selected row once, if and only if the tenant is listed, nothing is selected, or the
selection fits into its first page. -/
theorem stock_list_exact_iff (engine : Engine) (sorts : engine.Sorts) (db : ListingDb)
    (tokenData : TokenData) (request : StockListRequest) (filters : StockQueryFilters)
    (counted : 1 ≤ request.page) (sized : 1 ≤ request.pageSize ∧ request.pageSize ≤ 500)
    (admitted : stockFilters db tokenData request = .ok filters)
    (distinct : ((selected engine db.items filters).map
      (resolveSortColumn request.sortBy).value).Nodup) :
    ListsExactly engine db tokenData request filters ↔ request.scope = .tenant ∨
      selected engine db.items filters = [] ∨
      request.page = 1 ∧ (selected engine db.items filters).length ≤ request.pageSize := by
  obtain ⟨totalsByStore, answered⟩ := listStockPage_eq sorts request counted sized admitted
  have whole : ListsExactly engine db tokenData request filters ↔ (match filters.scopeStoreId with
      | none => totalsOf (selected engine db.items filters)
      | some _ => totalsOf (repositoryPage engine db request filters)) = totalsOf
          (selected engine db.items filters) := by
    rw [ListsExactly, answered]
    constructor
    · rintro ⟨⟨response, isResponse, same⟩, _⟩
      exact (congrArg StockListResponse.totals (Except.ok.inj isResponse)).trans same
    · intro same
      exact ⟨⟨_, rfl, same⟩, fun count enough => pages_perm sorts sized admitted distinct enough⟩
  rw [whole, ← scopeStoreId_eq_none admitted]
  cases limited : filters.scopeStoreId with
  | none => simp
  | some storeId =>
    let sorted := engine.orderBy request.descending (resolveSortColumn request.sortBy)
      ((request.page - 1) * request.pageSize) request.pageSize (selected engine db.items filters)
    have isPerm : sorted.Perm (selected engine db.items filters) := sorts.perm ..
    have isPage : repositoryPage engine db request filters =
      page sorted request.page request.pageSize := rfl
    have empty : sorted = [] ↔ selected engine db.items filters = [] := by
      rw [← List.length_eq_zero_iff, isPerm.length_eq, List.length_eq_zero_iff]
    have fits : (page sorted request.page request.pageSize).length = sorted.length ↔ _ :=
      length_page_eq_iff counted sized.1
    rw [empty, isPerm.length_eq] at fits
    rw [isPage, or_iff_right (by simp), ← fits]
    constructor
    · intro same
      exact congrArg StockTotals.totalRows same
    · intro same
      have complete : page sorted request.page request.pageSize = sorted := by
        apply List.Sublist.eq_of_length ((List.take_sublist _ _).trans (List.drop_sublist _ _))
        exact same.trans isPerm.length_eq.symm
      rw [complete]
      exact totalsOf_perm isPerm

end

namespace Sample

/-- The values of a column in their order, with null last. -/
def ordered : Option SortValue → WithTop (ℚ ⊕ₗ String)
  | some (.number value) => WithTop.some (toLex (Sum.inl value))
  | some (.text value) => WithTop.some (toLex (Sum.inr value))
  | none => ⊤

private theorem ordered_injective : Function.Injective ordered := by
  rintro (_ | first | first) (_ | second | second) same <;> simp_all [ordered]

/-- The order of rows in a column. -/
def Before (descending : Bool) (column : SortColumn) (row other : ListedItem) : Prop :=
  if descending then ordered (column.value other) ≤ ordered (column.value row)
  else ordered (column.value row) ≤ ordered (column.value other)

instance (descending : Bool) (column : SortColumn) : DecidableRel (Before descending column) :=
  fun _ _ => by
  unfold Before
  infer_instance

instance (descending : Bool) (column : SortColumn) : Std.Total (Before descending column) where
  total row other := by
    cases descending
    · exact le_total (ordered (column.value row)) (ordered (column.value other))
    · exact le_total (ordered (column.value other)) (ordered (column.value row))

instance (descending : Bool) (column : SortColumn) :
    IsTrans ListedItem (Before descending column) where
  trans row other last before after := by
    cases descending
    · exact le_trans before after
    · exact le_trans after before

/-- A database that sorts by insertion, and finds no text. -/
def insertion : Engine where
  ilike _ _ := false
  valueLe first second := decide (ordered first ≤ ordered second)
  orderBy descending column _ _ rows := rows.insertionSort (Before descending column)

private theorem insertion_sorts : insertion.Sorts where
  antisymm _ _ before after :=
    ordered_injective (le_antisymm (of_decide_eq_true before) (of_decide_eq_true after))
  perm _ _ _ _ rows := List.perm_insertionSort _ rows
  ascending column _ _ rows :=
    (List.pairwise_insertionSort (Before false column) rows).imp fun before => decide_eq_true before
  descending column _ _ rows :=
    (List.pairwise_insertionSort (Before true column) rows).imp fun before => decide_eq_true before

def clerk : TokenData := ⟨some 1, some 10, some "USER"⟩

/-- Two jackets in a store. -/
def stockedJackets : ListingDb where
  stores := [⟨10, 1⟩]
  items := [
    { id := 1, itemUid := 1, tenantId := 1, storeId := some 10, sku := some "JACKET",
      status := some "PENDING" },
    { id := 2, itemUid := 2, tenantId := 1, storeId := some 10, sku := some "JACKET",
      status := some "PENDING" }]

/-- The stock of the store by its identifiers, one row to a page. -/
def pageOfOne : StockListRequest := { pageSize := 1, sortBy := "id" }

private theorem pageOfOne_admitted : (stockFilters stockedJackets clerk pageOfOne).toOption.isSome =
    true := by decide +kernel

def pageOfOneFilters : StockQueryFilters :=
  (stockFilters stockedJackets clerk pageOfOne).toOption.get pageOfOne_admitted

private theorem stockedJackets_distinct :
    ((selected insertion stockedJackets.items pageOfOneFilters).map
      (resolveSortColumn pageOfOne.sortBy).value).Nodup := by
  decide +kernel

end Sample

open StockListing.Sample in
theorem stock_list_exact_iff_two_jackets :
    ListsExactly insertion stockedJackets clerk pageOfOne pageOfOneFilters ↔
    pageOfOne.scope = .tenant ∨ selected insertion stockedJackets.items pageOfOneFilters = [] ∨
      pageOfOne.page = 1 ∧ (selected insertion stockedJackets.items pageOfOneFilters).length ≤
      pageOfOne.pageSize :=
  stock_list_exact_iff insertion insertion_sorts stockedJackets clerk pageOfOne pageOfOneFilters
    (by decide) (by decide) (Checked.eq_ok_get pageOfOne_admitted) stockedJackets_distinct

open StockListing.Sample in
/-- Of two jackets that are listed one by one, the first page counts one. -/
theorem own_store_counts_page : ¬ ∀ engine db tokenData request filters, engine.Sorts →
    1 ≤ request.page →
    1 ≤ request.pageSize ∧ request.pageSize ≤ 500 → stockFilters db tokenData request =
    .ok filters →
    ((selected engine db.items filters).map (resolveSortColumn request.sortBy).value).Nodup →
    ListsExactly engine db tokenData request filters := by
  intro always
  obtain ⟨⟨response, isResponse, same⟩, _⟩ :=
    always insertion stockedJackets clerk pageOfOne pageOfOneFilters insertion_sorts
    (by decide) (by decide) (Checked.eq_ok_get pageOfOne_admitted) stockedJackets_distinct
  have counted : (listStockPage insertion stockedJackets clerk pageOfOne).map
      (fun response => response.totals.totalRows) =
      .ok 1 := by decide +kernel
  have whole : (totalsOf (selected insertion stockedJackets.items pageOfOneFilters)).totalRows =
    2 := by decide +kernel
  rw [isResponse] at counted
  have one : response.totals.totalRows = 1 := Except.ok.inj counted
  rw [same, whole] at one
  exact absurd one (by decide)

end ArisCloud.StockListing

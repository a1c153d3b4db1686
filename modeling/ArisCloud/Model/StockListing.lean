import ArisCloud.Library.Paging
import ArisCloud.Model.Scope

/-! # Listing stock

`GET /aris3/stock` selects the stock of a tenant or of the caller's store, and returns one page of
it in the order of a column, with totals. The repository counts the selected rows; for the caller's
own store the router counts again.
-/

namespace ArisCloud.StockListing

open Checked (ensure fetch)

/-! ## Rows and queries -/

/-- A stock row as the list reads it. -/
structure ListedItem extends StockItem where
  updatedAt : Option ℕ := none
  deriving DecidableEq, Repr

inductive View where
  | operational | history | all
  deriving DecidableEq, Repr

inductive QueryScope where
  | self | tenant
  deriving DecidableEq, Repr

/-- `StockQueryFilters`. -/
structure StockQueryFilters where
  tenantId : ℕ
  scopeStoreId : Option ℕ
  q : Option String
  description : Option String
  var1Value : Option String
  var2Value : Option String
  sku : Option String
  epc : Option String
  locationCode : Option String
  pool : Option String
  storeId : Option ℕ
  fromDate : Option ℕ
  toDate : Option ℕ
  view : View
  deriving DecidableEq, Repr

/-- The columns that a list can be sorted by. -/
inductive SortColumn where
  | id | sku | description | var1Value | var2Value | epc | locationCode | pool | storeId | status
  | costPrice
  | suggestedPrice | salePrice | createdAt | updatedAt
  deriving DecidableEq, Repr

/-- `_resolve_sort_column`. -/
def resolveSortColumn : String → SortColumn
  | "id" => .id
  | "sku" => .sku
  | "description" => .description
  | "var1_value" => .var1Value
  | "var2_value" => .var2Value
  | "epc" => .epc
  | "location_code" => .locationCode
  | "pool" => .pool
  | "store_id" => .storeId
  | "status" => .status
  | "cost_price" => .costPrice
  | "suggested_price" => .suggestedPrice
  | "sale_price" => .salePrice
  | "updated_at" => .updatedAt
  | _ => .createdAt

/-- A value of a column that is not null. -/
inductive SortValue where
  | number (value : ℚ)
  | text (value : String)
  deriving DecidableEq

/-- The value of a row in a column. -/
def SortColumn.value (row : ListedItem) : SortColumn → Option SortValue
  | .id => some (.number row.id)
  | .sku => row.sku.map .text
  | .description => row.description.map .text
  | .var1Value => row.var1Value.map .text
  | .var2Value => row.var2Value.map .text
  | .epc => row.epc.map .text
  | .locationCode => row.locationCode.map .text
  | .pool => row.pool.map .text
  | .storeId => row.storeId.map fun id => .number id
  | .status => row.status.map .text
  | .costPrice => row.costPrice.map fun price => .number price.amount
  | .suggestedPrice => row.suggestedPrice.map fun price => .number price.amount
  | .salePrice => row.salePrice.map fun price => .number price.amount
  | .createdAt => some (.number row.createdAt)
  | .updatedAt => row.updatedAt.map fun time => .number time

/-- What the database decides: `ILIKE`, the order of the values of a column with null among them,
and the order of the rows of one execution, which may differ between offsets where values are
equal. -/
structure Engine where
  ilike : String → String → Bool
  valueLe : Option SortValue → Option SortValue → Bool
  orderBy : (descending : Bool) → SortColumn → (offset limit : ℕ) → List ListedItem →
    List ListedItem

/-! ## The repository -/

/-- The text of a filter that is used. -/
def given (text : Option String) : Option String := text.filter (· ≠ "")

def View.shows (row : ListedItem) : View → Bool
  | .operational => row.status.any (· ≠ "SOLD")
  | .history => row.status = some "SOLD"
  | .all => true

/-- `_apply_filters`: a comparison with null does not hold. -/
def StockQueryFilters.selects (engine : Engine) (filters : StockQueryFilters) (row : ListedItem) :
    Bool :=
  let like (column : Option String) (text : String) : Bool :=
    column.any (engine.ilike · ("%" ++ text ++ "%"))
  row.tenantId = filters.tenantId &&
    filters.scopeStoreId.all (fun storeId => row.storeId = some storeId) &&
    (given filters.q).all (fun q => like row.sku q || like row.description q ||
    like row.var1Value q ||
      like row.var2Value q || like row.epc q || like row.locationCode q || like row.pool q) &&
    (given filters.description).all (like row.description) &&
    (given filters.var1Value).all (fun value => row.var1Value = some value) &&
    (given filters.var2Value).all (fun value => row.var2Value = some value) &&
    (given filters.sku).all (fun sku => row.sku = some sku) &&
    (given filters.epc).all (fun epc => row.epc = some epc) &&
    (given filters.locationCode).all (fun locationCode => row.locationCode = some locationCode) &&
    (given filters.pool).all (fun pool => row.pool = some pool) &&
    filters.storeId.all (fun storeId => row.storeId = some storeId) &&
    filters.view.shows row &&
    filters.fromDate.all (fun fromDate => fromDate ≤ row.createdAt) &&
    filters.toDate.all (fun toDate => row.createdAt ≤ toDate)

/-- `StockQueryTotals` without the totals of the stores. -/
structure StockTotals where
  totalRows : ℕ
  totalRfid : ℕ
  totalPending : ℕ
  totalUnits : ℕ
  deriving DecidableEq, Repr

/-- The counts of some rows. -/
def totalsOf (rows : List ListedItem) : StockTotals :=
  let totalRfid := rows.countP fun row => row.locationIsVendible && row.status = some "RFID"
  let totalPending := rows.countP fun row => row.locationIsVendible && row.status = some "PENDING"
  ⟨rows.length, totalRfid, totalPending, totalRfid + totalPending⟩

/-- The rows that filters select. -/
def selected (engine : Engine) (items : List ListedItem) (filters : StockQueryFilters) :
    List ListedItem :=
  items.filter (filters.selects engine)

/-- `StockRepository.list_stock`. -/
def listStock (engine : Engine) (items : List ListedItem) (filters : StockQueryFilters)
    (page pageSize : ℕ) (sortBy : String) (descending : Bool) : List ListedItem × StockTotals :=
  let base := selected engine items filters
  let sorted := engine.orderBy descending (resolveSortColumn sortBy)
    ((page - 1) * pageSize) pageSize base
  (Paging.page sorted page pageSize, totalsOf base)

/-! ## The router -/

structure StockListRequest where
  q : Option String := none
  description : Option String := none
  var1Value : Option String := none
  var2Value : Option String := none
  sku : Option String := none
  epc : Option String := none
  locationCode : Option String := none
  pool : Option String := none
  storeId : Option ℕ := none
  tenantId : Option ℕ := none
  fromDate : Option ℕ := none
  toDate : Option ℕ := none
  page : ℕ := 1
  pageSize : ℕ := 50
  sortBy : String := "created_at"
  descending : Bool := true
  scope : QueryScope := .self
  view : View := .operational
  includeSold : Option Bool := none
  deriving DecidableEq, Repr

structure ListingDb where
  stores : List Store
  items : List ListedItem

/-- The page, the totals, and for a tenant the number of rows of each store. -/
structure StockListResponse where
  rows : List ListedItem
  totals : StockTotals
  totalsByStore : List (Option ℕ × ℕ)
  deriving DecidableEq, Repr

/-- `_resolve_query_scope`. -/
def resolveListScope (tokenData : TokenData) (requestedStoreId : Option ℕ) : QueryScope →
    Except AppError (Option ℕ)
  | .self => do
    let tokenStoreId ← fetch tokenData.storeId ⟨.storeScopeRequired, ""⟩
    ensure (requestedStoreId.all (· = tokenStoreId)) ⟨.storeScopeMismatch, ""⟩
    return some tokenStoreId
  | .tenant => do
    ensure (hasBroadStoreRole tokenData) ⟨.permissionDenied, ""⟩
    return none

/-- The filters of a request: its tenant, its store, its scope and its view. -/
def stockFilters (db : ListingDb) (tokenData : TokenData) (request : StockListRequest) :
    Except AppError StockQueryFilters := do
  let tenantId ← resolvePosTenantId tokenData request.tenantId
  ensure (request.storeId.all fun storeId => db.stores.any fun store => store.id = storeId &&
    store.tenantId = tenantId) ⟨.crossTenantAccessDenied, "store_id is outside tenant scope"⟩
  let scopeStoreId ← resolveListScope tokenData request.storeId request.scope
  let view := if request.includeSold = some true && request.view = .operational then .all
    else request.view
  return { tenantId, scopeStoreId, q := request.q, description := request.description,
           var1Value := request.var1Value, var2Value := request.var2Value, sku := request.sku,
           epc := request.epc, locationCode := request.locationCode, pool := request.pool,
           storeId := request.storeId, fromDate := request.fromDate, toDate := request.toDate,
           view }

/-- The number of selected rows of each store. -/
def storeTotals (rows : List ListedItem) : List (Option ℕ × ℕ) :=
  (rows.map (·.storeId)).dedup.map fun storeId => (storeId, rows.countP (·.storeId = storeId))

/-- `list_stock`. -/
def listStockPage (engine : Engine) (db : ListingDb) (tokenData : TokenData)
    (request : StockListRequest) :
    Except AppError StockListResponse := do
  ensure (1 ≤ request.page ∧ 1 ≤ request.pageSize ∧ request.pageSize ≤ 500) (.validation "page")
  let filters ← stockFilters db tokenData request
  let (rows, totals) :=
    listStock engine db.items filters request.page request.pageSize request.sortBy
      request.descending
  let totalsByStore := if request.scope = .tenant then storeTotals
    (selected engine db.items filters) else []
  match filters.scopeStoreId with
  | none => return ⟨rows, totals, totalsByStore⟩
  | some storeId =>
    -- the rows of the page are counted again, in place of the totals of the repository
    let rows := rows.filter fun row => row.storeId = some storeId
    return ⟨rows, totalsOf rows, totalsByStore⟩

end ArisCloud.StockListing

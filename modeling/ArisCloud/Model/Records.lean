import Mathlib.Data.List.Nodup
import Mathlib.Data.Rat.Defs
import ArisCloud.Library.Checked

/-! # Records of the store database

Rows keep the columns that the modelled requests read or write. Identifiers are natural numbers and
nullable text is optional text, as the columns have it. A stock table carries its constraints: no
two rows share an identifier, and no two rows of one tenant share an EPC or an item number.
-/

namespace ArisCloud

/-- The error codes the modelled requests raise. -/
inductive ErrorCode
  | validationError
  | businessConflict
  | permissionDenied
  | storeScopeRequired
  | storeScopeMismatch
  | tenantScopeRequired
  | crossTenantAccessDenied
  | resourceNotFound
  | integrityError
  | idempotencyKeyRequired
  | idempotencyKeyReusedWithDifferentPayload
  | idempotencyRequestInProgress
deriving DecidableEq, Repr

/-- A refused request: its code and the message of its details. -/
structure AppError where
  code : ErrorCode
  message : String := ""
deriving DecidableEq, Repr

namespace AppError

def validation (message : String) : AppError := ⟨.validationError, message⟩

def conflict (message : String) : AppError := ⟨.businessConflict, message⟩

end AppError

/-- A price column: a nonnegative amount with two decimals. -/
structure Price where
  cents : ℕ
deriving DecidableEq, Repr

/-- The amount a price stands for. -/
def Price.amount (price : Price) : ℚ := price.cents / 100

/-- The image columns, which requests copy as a whole. -/
structure StockImage where
  assetId : Option ℕ := none
  url : Option String := none
  thumbUrl : Option String := none
  source : Option String := none
  updatedAt : Option ℕ := none
deriving DecidableEq, Repr

/-- The columns that a line copies from the stock row it was made from. -/
structure StockSnapshot where
  sku : Option String := none
  description : Option String := none
  var1Value : Option String := none
  var2Value : Option String := none
  costPrice : Option Price := none
  suggestedPrice : Option Price := none
  salePrice : Option Price := none
  epc : Option String := none
  locationCode : Option String := none
  pool : Option String := none
  status : Option String := none
  locationIsVendible : Bool := true
  image : StockImage := {}
deriving DecidableEq, Repr

/-- One physical unit of stock. -/
structure StockItem extends StockSnapshot where
  id : ℕ
  itemUid : ℕ
  tenantId : ℕ
  storeId : Option ℕ
  itemStatus : String := "PENDING"
  epcStatus : String := "AVAILABLE"
  printStatus : String := "NOT_REQUESTED"
  issueState : Option String := none
  createdAt : ℕ := 0
deriving DecidableEq, Repr

/-- The tenant and EPC of a tagged row; untagged rows are exempt from the constraint. -/
def StockItem.tag (row : StockItem) : Option (ℕ × String) :=
  row.epc.map fun epc => (row.tenantId, epc)

/-- Stock rows under the primary key and the unique constraints on EPC and item number. -/
structure StockTable where
  rows : List StockItem
  distinctIds : (rows.map (·.id)).Nodup
  distinctTags : (rows.filterMap (·.tag)).Nodup
  distinctUids : (rows.map fun row => (row.tenantId, row.itemUid)).Nodup
deriving DecidableEq

def StockTable.empty : StockTable := ⟨[], List.nodup_nil, List.nodup_nil, List.nodup_nil⟩

/-- The constraint on tenant and EPC leaves one row for each pair. -/
theorem StockTable.eq_of_tag {table : StockTable} {row other : StockItem} {epc : String}
    (member : row ∈ table.rows) (another : other ∈ table.rows)
    (tenant : row.tenantId = other.tenantId) (tag : row.epc = some epc)
    (otherTag : other.epc = some epc) : row = other := by
  by_contra different
  have apart := List.pairwise_filterMap.mp table.distinctTags
  refine List.Pairwise.forall_of_forall_of_flip
    (R := fun a b : StockItem => a ≠ b → a.tenantId = b.tenantId → a.epc = some epc →
    b.epc = some epc → False) (fun a _ distinct => absurd rfl distinct) ?_ ?_ member another
    different tenant tag otherTag
  · refine apart.imp fun {a b} unequal _ same left right => ?_
    exact unequal (a.tenantId, epc) (by simp [StockItem.tag, left]) (b.tenantId, epc)
      (by simp [StockItem.tag, right]) (by rw [same])
  · refine apart.imp fun {a b} unequal _ same left right => ?_
    exact unequal (a.tenantId, epc) (by simp [StockItem.tag, right]) (b.tenantId, epc)
      (by simp [StockItem.tag, left]) (by rw [same])

structure Store where
  id : ℕ
  tenantId : ℕ
deriving DecidableEq, Repr

inductive LineType
  | epc
  | sku
deriving DecidableEq, Repr

inductive TransferStatus
  | draft
  | dispatched
  | partialReceived
  | received
  | canceled
deriving DecidableEq, Repr

structure Transfer where
  id : ℕ
  tenantId : ℕ
  originStoreId : ℕ
  destinationStoreId : ℕ
  status : TransferStatus
  dispatchedAt : Option ℕ := none
  receivedAt : Option ℕ := none
  canceledAt : Option ℕ := none
  createdAt : ℕ := 0
deriving DecidableEq, Repr

/-- A line of a transfer; the quantity check of every path that writes one is kept as a field. -/
structure TransferLine extends StockSnapshot where
  id : ℕ
  transferId : ℕ
  tenantId : ℕ
  lineType : LineType
  qty : ℤ
  qtyPositive : 1 ≤ qty
deriving DecidableEq, Repr

inductive MovementAction
  | dispatch
  | receive
  | shortageReported
  | shortageResolvedFoundAndResend
  | shortageResolvedLostInRoute
deriving DecidableEq, Repr

structure TransferMovement where
  tenantId : ℕ
  transferId : ℕ
  transferLineId : ℕ
  action : MovementAction
  fromLocationCode : Option String
  fromPool : Option String
  toLocationCode : Option String
  toPool : Option String
  status : Option String
  qty : ℤ
deriving DecidableEq, Repr

/-! ## Preloads -/

/-- How far a preload line has come: staged, saved without a tag, or saved with one. -/
inductive LifecycleState
  | staging
  | pendingEpc
  | savedEpcFinal
deriving DecidableEq, Repr

/-- A unit that is about to enter the stock. -/
structure PreloadLine where
  id : ℕ
  itemUid : ℕ
  tenantId : ℕ
  storeId : Option ℕ
  sku : Option String
  epc : Option String
  description : Option String
  var1Value : Option String
  var2Value : Option String
  pool : Option String
  locationCode : Option String
  vendible : Bool
  costPrice : Option Price
  suggestedPrice : Option Price
  salePrice : Option Price
  imageAssetId : Option ℕ
  itemStatus : String := "PENDING"
  epcStatus : String := "AVAILABLE"
  lifecycleState : LifecycleState := .staging
  savedStockItemId : Option ℕ := none
deriving DecidableEq, Repr

end ArisCloud

import ArisCloud.Library.Decimals
import ArisCloud.Model.Records

/-! # Records of the point of sale

Sales with their lines and payments, the return events written against them, prepaid advances, and
the cash sessions of a store with their movements, cuts and day closes. Money is an exact rational;
the price of a line is a whole number of cents.
-/

namespace ArisCloud

/-- A nonnegative amount rounded to two decimals. -/
def Price.round (amount : ℚ) : Price := ⟨(Decimals.roundHalfEven (amount * 100)).toNat⟩

theorem Price.isCents (price : Price) : Decimals.IsCents price.amount :=
  ⟨price.cents, by simp [Price.amount]⟩

theorem Price.amount_nonneg (price : Price) : 0 ≤ price.amount := by
  rw [Price.amount]
  exact div_nonneg (Nat.cast_nonneg _) (by norm_num)

/-! ## Sales -/

inductive SaleStatus
  | draft
  | paid
  | canceled
  | completed
  | closed
  | finalized
deriving DecidableEq, Repr

/-- The statuses after which goods may come back. -/
def SaleStatus.isFinalized : SaleStatus → Bool
  | .paid | .completed | .closed | .finalized => true
  | .draft | .canceled => false

structure PosSale where
  id : ℕ
  tenantId : ℕ
  storeId : ℕ
  status : SaleStatus
  totalDue : ℚ := 0
  paidTotal : ℚ := 0
  balanceDue : ℚ := 0
  changeDue : ℚ := 0
  receiptNumber : Option String := none
  checkedOutAt : Option ℕ := none
deriving DecidableEq, Repr

/-- The stock columns that a sale line copies and a client may send. -/
structure PosSaleLineSnapshot where
  itemUid : Option ℕ := none
  sku : Option String := none
  description : Option String := none
  var1Value : Option String := none
  var2Value : Option String := none
  epc : Option String := none
  locationCode : Option String := none
  pool : Option String := none
  status : Option String := none
  locationIsVendible : Bool := true
  image : StockImage := {}
deriving DecidableEq, Repr

/-- What a line remembers of the goods it sold. -/
structure SoldSnapshot where
  sku : Option String := none
  description : Option String := none
  var1Value : Option String := none
  var2Value : Option String := none
  salePrice : Option Price := none
  costPrice : Option Price := none
  epcAtSale : Option String := none
deriving DecidableEq, Repr

/-- A line of a sale: a positive quantity, one tagged unit or untagged goods, at its price times the
quantity. -/
structure PosSaleLine extends PosSaleLineSnapshot where
  id : ℕ
  saleId : ℕ
  tenantId : ℕ
  lineType : LineType
  qty : ℤ
  qtyPositive : 1 ≤ qty
  qtySingle : lineType = .epc → qty = 1
  tagged : lineType = .epc ↔ epc ≠ none
  unitPrice : Price
  lineTotal : ℚ
  pricedTotal : lineTotal = Decimals.quantize (unitPrice.amount * qty)
  sold : SoldSnapshot := {}
deriving Repr

instance : DecidableEq PosSaleLine := fun first second =>
  decidable_of_iff (first.toPosSaleLineSnapshot = second.toPosSaleLineSnapshot ∧
      first.id = second.id ∧ first.saleId = second.saleId ∧ first.tenantId = second.tenantId ∧
      first.lineType = second.lineType ∧ first.qty = second.qty ∧
      first.unitPrice = second.unitPrice ∧ first.lineTotal = second.lineTotal ∧
      first.sold = second.sold) (by
    cases first
    cases second
    simp)

inductive PaymentMethod
  | cash
  | card
  | transfer
  | advance
deriving DecidableEq, Repr

structure PosPayment where
  saleId : ℕ
  tenantId : ℕ
  method : PaymentMethod
  amount : ℚ
  authorizationCode : Option String := none
  bankName : Option String := none
  voucherNumber : Option String := none
deriving DecidableEq, Repr

/-! ## Returns -/

inductive ReturnAction
  | refundItems
  | exchangeItems
  | returnDraft
  | returnVoid
  | returnComplete
deriving DecidableEq, Repr

/-- The events that count as goods given back. -/
def ReturnAction.isAggregate : ReturnAction → Bool
  | .refundItems | .exchangeItems => true
  | .returnDraft | .returnVoid | .returnComplete => false

/-- One entry of the returned lines in the payload of an event. -/
structure ReturnedLine where
  lineId : ℕ
  qty : ℤ
deriving DecidableEq, Repr

/-- One normalized line in the quote of a return draft. -/
structure QuotedLine where
  saleLineId : ℕ
  qty : ℤ
  unitPrice : Price
  lineTotal : ℚ
deriving DecidableEq, Repr

structure PosReturnEvent where
  id : ℕ
  tenantId : ℕ
  storeId : ℕ
  saleId : ℕ
  exchangeSaleId : Option ℕ := none
  action : ReturnAction
  refundSubtotal : ℚ := 0
  restockingFee : ℚ := 0
  refundTotal : ℚ := 0
  exchangeTotal : ℚ := 0
  netAdjustment : ℚ := 0
  returnedLines : List ReturnedLine := []
  quotedLines : List QuotedLine := []
  sourceReturnId : Option ℕ := none
deriving DecidableEq, Repr

structure ReturnPolicySettings where
  tenantId : ℕ
  returnWindowDays : ℤ := 30
  requireReceipt : Bool := true
  allowRefundCash : Bool := true
  allowRefundCard : Bool := true
  allowRefundTransfer : Bool := true
  allowExchange : Bool := true
  requireManagerForExceptions : Bool := false
  acceptedConditions : List String := ["NEW", "GOOD", "USED"]
  nonReusableLabelStrategy : String := "ASSIGN_NEW_EPC"
  restockingFeePct : ℚ := 0
deriving DecidableEq, Repr

/-! ## Advances -/

inductive AdvanceStatus
  | active
  | consumed
  | refunded
  | expired
deriving DecidableEq, Repr

inductive VoucherType
  | advance
  | giftCard
deriving DecidableEq, Repr

structure PosAdvance where
  id : ℕ
  tenantId : ℕ
  storeId : ℕ
  advanceNumber : ℕ
  barcodeValue : String
  voucherType : VoucherType := .advance
  issuedAmount : ℚ
  issuedPaymentMethod : PaymentMethod
  expiresAt : ℕ
  status : AdvanceStatus := .active
  consumedSaleId : Option ℕ := none
deriving DecidableEq, Repr

inductive AdvanceEventAction
  | issued
  | consumed
  | refunded
  | expired
  | validated
deriving DecidableEq, Repr

structure PosAdvanceEvent where
  advanceId : ℕ
  tenantId : ℕ
  storeId : ℕ
  action : AdvanceEventAction
  saleId : Option ℕ := none
  createdAt : ℕ
deriving DecidableEq, Repr

/-! ## Cash -/

inductive CashSessionStatus
  | opened
  | closed
deriving DecidableEq, Repr

structure PosCashSession where
  id : ℕ
  tenantId : ℕ
  storeId : ℕ
  cashierUserId : ℕ
  status : CashSessionStatus := .opened
  businessDate : ℕ
  openingAmount : ℚ
  expectedCash : ℚ
  countedCash : Option ℚ := none
  difference : Option ℚ := none
  openedAt : ℕ
  closedAt : Option ℕ := none
  createdAt : ℕ
deriving DecidableEq, Repr

inductive CashAction
  | opening
  | cashIn
  | cashOut
  | close
  | sale
  | cashOutRefund
  | dayClose
  | voucherIssuance (voucherType : VoucherType)
  | voucherRefund (voucherType : VoucherType)
deriving DecidableEq, Repr

structure PosCashMovement where
  tenantId : ℕ
  storeId : ℕ
  cashSessionId : Option ℕ
  cashierUserId : ℕ
  businessDate : ℕ
  saleId : Option ℕ := none
  action : CashAction
  amount : ℚ
  expectedBalanceBefore : Option ℚ
  expectedBalanceAfter : Option ℚ
  occurredAt : ℕ
deriving DecidableEq, Repr

/-- What the movements of a business date add up to. -/
structure CashRollup where
  openingAmount : ℚ
  cashIn : ℚ
  cashOut : ℚ
  netCashMovement : ℚ
  netCashSales : ℚ
  cashRefunds : ℚ
  expectedCash : ℚ
deriving DecidableEq, Repr

structure PosCashDayClose where
  tenantId : ℕ
  storeId : ℕ
  businessDate : ℕ
  forceClose : Bool := false
  rollup : CashRollup
  countedCash : Option ℚ := none
  differenceAmount : Option ℚ := none
deriving DecidableEq, Repr

inductive CashCutType
  | partialCut
  | shiftHandoff
  | bankDeposit
deriving DecidableEq, Repr

inductive CashCutStatus
  | opened
  | completed
  | void
deriving DecidableEq, Repr

/-- The totals that the quote of a cut computes over its window. -/
structure CashCutTotals where
  openingAmountSnapshot : ℚ
  cashSalesTotal : ℚ
  cardSalesTotal : ℚ
  transferSalesTotal : ℚ
  mixedCashComponentTotal : ℚ
  mixedCardComponentTotal : ℚ
  mixedTransferComponentTotal : ℚ
  cashInTotal : ℚ
  cashOutTotal : ℚ
  cashRefundsTotal : ℚ
  expectedCash : ℚ
deriving DecidableEq, Repr

structure PosCashCut where
  id : ℕ
  tenantId : ℕ
  storeId : ℕ
  cashSessionId : ℕ
  cutNumber : ℕ
  cutType : CashCutType
  fromAt : ℕ
  toAt : ℕ
  totals : CashCutTotals
  countedCash : Option ℚ := none
  difference : Option ℚ := none
  depositRemovedAmount : Option ℚ := none
  status : CashCutStatus := .opened
  completedAt : Option ℕ := none
deriving DecidableEq, Repr

/-- The tag of a unit, until it is released. -/
structure EpcAssignment where
  id : ℕ
  tenantId : ℕ
  storeId : Option ℕ
  epc : String
  itemUid : ℕ
  active : Bool := true
  lastReleaseReason : Option String := none
  status : String := "ASSIGNED"
deriving DecidableEq, Repr

end ArisCloud

import ArisCloud.Library.Decimals
import ArisCloud.Library.Tally
import ArisCloud.Model.ReportRanges

/-! # Sales reports and their exports

`services/reports.py` adds up the sales, refunds, costs, advances and payments of a store by local
date. The endpoints of `routers/reports.py` and `build_report_dataset` of `services/exports.py` put
their answers together from these sums. Amounts are exact rationals, and instants, dates and time
zones those of the date ranges.
-/

namespace ArisCloud.Reports

open Tally Decimals

/-! ## Rows that a report reads -/

structure ReportSale where
  id : ℕ
  tenantId : ℕ
  storeId : ℕ
  status : String
  totalDue : ℚ := 0
  checkedOutAt : Option ℤ := none
  checkedOutByUserId : Option ℕ := none

structure ReportSaleLine where
  id : ℕ
  saleId : ℕ
  tenantId : ℕ
  qty : ℤ
  lineTotal : ℚ
  costPriceSnapshot : Option ℚ := none
  itemUid : Option ℕ := none
  epcAtSale : Option String := none
  epc : Option String := none
  skuSnapshot : Option String := none
  sku : Option String := none
  var1Snapshot : Option String := none
  var1Value : Option String := none
  var2Snapshot : Option String := none
  var2Value : Option String := none

structure ReportPayment where
  saleId : ℕ
  tenantId : ℕ
  method : String
  amount : ℚ

/-- An entry of `returned_lines` in the payload of a return event. -/
structure ReturnedItem where
  lineId : Option ℕ := none
  saleLineId : Option ℕ := none
  qty : ℤ

structure ReportReturnEvent where
  tenantId : ℕ
  storeId : ℕ
  saleId : ℕ
  action : String
  refundTotal : ℚ
  createdAt : ℤ
  returnedLines : List ReturnedItem := []

structure ReportStockItem where
  tenantId : ℕ
  storeId : Option ℕ
  itemUid : Option ℕ := none
  epc : Option String := none
  sku : Option String := none
  var1Value : Option String := none
  var2Value : Option String := none
  costPrice : Option ℚ := none

structure ReportAdvance where
  id : ℕ
  tenantId : ℕ
  storeId : ℕ
  voucherType : String
  issuedAmount : ℚ
  issuedPaymentMethod : String
  issuedAt : ℤ
  status : String
  refundedAt : Option ℤ := none

structure ReportAdvanceEvent where
  advanceId : ℕ
  tenantId : ℕ
  storeId : ℕ
  action : String
  createdAt : ℤ

structure ReportDb where
  sales : List ReportSale := []
  saleLines : List ReportSaleLine := []
  payments : List ReportPayment := []
  returnEvents : List ReportReturnEvent := []
  stockItems : List ReportStockItem := []
  advances : List ReportAdvance := []
  advanceEvents : List ReportAdvanceEvent := []

/-- The arguments that the helpers share. -/
structure ReportQuery where
  tenantId : ℕ
  storeId : ℕ
  range : ReportDateRange
  zone : TimeZone
  cashierId : Option ℕ := none
  paymentMethod : Option String := none

/-! ## Queries -/

def finalizedSaleStatuses : List String := ["PAID", "COMPLETED", "CLOSED", "FINALIZED"]

def reportableReturnActions : List String := ["REFUND_ITEMS", "EXCHANGE_ITEMS"]

namespace ReportQuery

variable (query : ReportQuery) (db : ReportDb)

/-- The instant is in the window of the report. -/
def inWindow (instant : Option ℤ) : Bool := instant.any query.range.includes

/-- The sale is finalized in the store and the window. -/
def isFinalizedSale (sale : ReportSale) : Bool :=
  sale.tenantId = query.tenantId && sale.storeId = query.storeId &&
    finalizedSaleStatuses.contains sale.status.toUpper && query.inWindow sale.checkedOutAt

/-- The filter by cashier, when there is one. -/
def ofCashier (sale : ReportSale) : Bool :=
  query.cashierId.all fun cashier => sale.checkedOutByUserId = some cashier

/-- A payment method to filter by is not empty. -/
def methodFilter : Option String := query.paymentMethod.filter (· ≠ "")

/-- The filter by payment method, when there is one. -/
def paidBy (saleId : ℕ) : Bool :=
  query.methodFilter.all fun method => db.payments.any fun payment =>
    payment.tenantId = query.tenantId && payment.method = method && payment.saleId = saleId

/-- `paid_sales_query`. -/
def paidSales : List ReportSale :=
  db.sales.filter fun sale => query.isFinalizedSale sale && query.ofCashier sale &&
    query.paidBy db sale.id

/-- A return event of the store in the window. -/
def isReturnEvent (event : ReportReturnEvent) : Bool :=
  event.tenantId = query.tenantId && event.storeId = query.storeId &&
    reportableReturnActions.contains event.action && query.range.includes event.createdAt

/-- `refund_events_query`: a filter joins the sale of the event. -/
def refundEvents : List ReportReturnEvent :=
  db.returnEvents.filter fun event => query.isReturnEvent event &&
    ((query.cashierId.isNone && query.methodFilter.isNone) ||
      db.sales.any fun sale => sale.id = event.saleId && sale.tenantId = query.tenantId &&
        sale.storeId = query.storeId && query.ofCashier sale) &&
    query.paidBy db event.saleId

/-! ## Costs -/

/-- Python's `first or second` on nullable text. -/
def orElse (first second : Option String) : Option String :=
  match first with
  | none | some "" => second
  | some text => some text

/-- The stock rows of the store. -/
def storeStock : List ReportStockItem :=
  db.stockItems.filter fun row => row.tenantId = query.tenantId && row.storeId = some query.storeId

/-- The entry of `stock_by_item_uid`. -/
def stockByItemUid (itemUid : ℕ) : Option (Option ℚ) :=
  ((query.storeStock db).filter fun row => row.itemUid = some itemUid).getLast?.map (·.costPrice)

/-- The cost of the only row, if it is the only one. -/
def onlyCost (rows : List ReportStockItem) : Option (Option ℚ) :=
  match rows with
  | [row] => some row.costPrice
  | _ => none

/-- The entry of `stock_by_epc`. -/
def stockByEpc (epc : String) : Option (Option ℚ) :=
  onlyCost ((query.storeStock db).filter fun row => row.epc = some epc)

/-- The entry of `stock_by_sku_variant`. -/
def stockBySkuVariant (sku : String) (var1 var2 : Option String) : Option (Option ℚ) :=
  onlyCost ((query.storeStock db).filter fun row => row.sku = some sku && row.var1Value = var1 &&
    row.var2Value = var2)

/-- The unit cost of a line by its sku and variants. -/
def skuCost (line : ReportSaleLine) : Option ℚ :=
  match orElse line.skuSnapshot line.sku with
  | none | some "" => none
  | some sku => (query.stockBySkuVariant db sku (orElse line.var1Snapshot line.var1Value)
      (orElse line.var2Snapshot line.var2Value)).join

/-- The unit cost of a line by its tag, or else by its sku. -/
def epcCost (line : ReportSaleLine) : Option ℚ :=
  match orElse line.epcAtSale line.epc with
  | none | some "" => query.skuCost db line
  | some epc => (query.stockByEpc db epc).getD (query.skuCost db line)

/-- The unit cost of a line: its snapshot, the cost of its unit, of its tag, of its sku, or
nothing. -/
def unitCost (line : ReportSaleLine) : ℚ :=
  (match line.costPriceSnapshot with
    | some cost => some cost
    | none => ((line.itemUid.bind (query.stockByItemUid db)).getD (query.epcCost db line))).getD 0

/-- `line_cost`. -/
def lineCost (line : ReportSaleLine) : ℚ := quantize (query.unitCost db line * line.qty)

/-- The lines of the sale whose costs are added up. -/
def isCostedLine (saleId : ℕ) (line : ReportSaleLine) : Bool := line.tenantId = query.tenantId &&
    line.saleId = saleId

/-- `cogs_gross_by_sale`. -/
def cogsOfSale (sale : ReportSale) : ℚ :=
  sumWhere (query.isCostedLine sale.id) (query.lineCost db) db.saleLines

/-- `sale_line_totals`, or the amount due of a sale without lines. -/
def saleTotal (sale : ReportSale) : ℚ :=
  if db.saleLines.any fun line => line.saleId = sale.id then
    sumWhere (fun line => line.saleId = sale.id) (·.lineTotal) db.saleLines
  else sale.totalDue

/-- The line that `cost_by_line_id` knows by the id. -/
def soldLine (lineId : ℕ) : Option ReportSaleLine :=
  db.saleLines.find? fun line => line.id = lineId && (query.paidSales db).any fun sale =>
    query.isCostedLine sale.id line

/-- What an entry of a return event takes off the cost of the goods sold. -/
def reversedCost (item : ReturnedItem) : ℚ :=
  match (item.lineId.or item.saleLineId).bind (query.soldLine db) with
  | none => 0
  | some line =>
    if item.qty ≤ 0 || query.lineCost db line ≤ 0 then 0
    else quantize (quantize (query.lineCost db line / max line.qty 1) * item.qty)

/-! ## Sums by local date -/

/-- The instant falls on the local date. -/
def onDay (day : ℤ) (instant : Option ℤ) : Bool :=
  instant.any fun instant => query.zone.localDate instant = day

def salesByDate (day : ℤ) : ℚ :=
  sumWhere (fun sale => query.onDay day sale.checkedOutAt) (saleTotal db) (query.paidSales db)

def ordersByDate (day : ℤ) : ℕ :=
  (query.paidSales db).countP fun sale => query.onDay day sale.checkedOutAt

def cogsGrossByDate (day : ℤ) : ℚ :=
  sumWhere (fun sale => query.onDay day sale.checkedOutAt) (query.cogsOfSale db)
    (query.paidSales db)

def refundsByDate (day : ℤ) : ℚ :=
  sumWhere (fun event => query.onDay day (some event.createdAt)) (·.refundTotal)
    (query.refundEvents db)

def cogsReversedByDate (day : ℤ) : ℚ :=
  sumWhere (fun event => query.isReturnEvent event && query.onDay day (some event.createdAt))
    (fun event => (event.returnedLines.map (query.reversedCost db)).sum) db.returnEvents

end ReportQuery

/-! ## Rows and totals -/

/-- `_LIABILITY_TENDER_FIELDS`. -/
inductive LiabilityTenderField where
  | liabilityIssuedAdvances | liabilityIssuedGiftCards | liabilityRedeemedAdvances
  | liabilityRedeemedGiftCards
  | liabilityRefundedAdvances | liabilityRefundedGiftCards | tenderCashReceived | tenderCardReceived
  | tenderTransferReceived | tenderTotalReceived
  deriving DecidableEq, Repr

/-- The figures of a day and of a report. -/
inductive Figure where
  | grossSales | refundsTotal | netSales | cogsGross | cogsReversedFromReturns | netCogs | netProfit
  | ordersPaidCount
  | averageTicket
  | liabilityTender (field : LiabilityTenderField)
  deriving DecidableEq, Repr

structure ReportRow where
  businessDate : ℤ
  figure : Figure → ℚ

/-- The sales per order, and nothing without orders. -/
def averageTicket (netSales orders : ℚ) : ℚ :=
  if orders = 0 then 0 else quantize (netSales / orders)

/-- The results of `daily_sales_refunds`. -/
structure DailyAmounts where
  sales : ℤ → ℚ
  orders : ℤ → ℕ
  refunds : ℤ → ℚ
  cogsGross : ℤ → ℚ
  cogsReversed : ℤ → ℚ

def dailySalesRefunds (db : ReportDb) (query : ReportQuery) : DailyAmounts :=
  ⟨query.salesByDate db, query.ordersByDate db, query.refundsByDate db, query.cogsGrossByDate db,
    query.cogsReversedByDate db⟩

/-- The row of one day, whose liability and tender figures are the defaults. -/
def dailyReportRow (amounts : DailyAmounts) (day : ℤ) : ReportRow where
  businessDate := day
  figure
    | .grossSales => amounts.sales day
    | .refundsTotal => amounts.refunds day
    | .netSales => amounts.sales day - amounts.refunds day
    | .cogsGross => amounts.cogsGross day
    | .cogsReversedFromReturns => amounts.cogsReversed day
    | .netCogs => amounts.cogsGross day - amounts.cogsReversed day
    | .netProfit =>
      amounts.sales day - amounts.refunds day - (amounts.cogsGross day - amounts.cogsReversed day)
    | .ordersPaidCount => amounts.orders day
    | .averageTicket => averageTicket (amounts.sales day - amounts.refunds day) (amounts.orders day)
    | .liabilityTender _ => 0

def buildDailyReportRows (amounts : DailyAmounts) (range : ReportDateRange) : List ReportRow :=
  (iterDates range.startDate range.endDate).map (dailyReportRow amounts)

/-- A figure added up over the rows. -/
def sumOf (rows : List ReportRow) (figure : Figure) : ℚ :=
  (rows.map fun row => row.figure figure).sum

def buildReportTotals (rows : List ReportRow) : Figure → ℚ
  | .averageTicket => averageTicket (sumOf rows .netSales) (sumOf rows .ordersPaidCount)
  | .liabilityTender .tenderTotalReceived =>
    sumOf rows (.liabilityTender .tenderCashReceived) + sumOf rows
      (.liabilityTender .tenderCardReceived) + sumOf rows (.liabilityTender .tenderTransferReceived)
  | figure => sumOf rows figure

/-! ## Liabilities and tenders -/

namespace ReportQuery

variable (query : ReportQuery) (db : ReportDb)

/-- `(voucher_type or "ADVANCE").upper() == "GIFT_CARD"`. -/
def isGiftCard (advance : ReportAdvance) : Bool := advance.voucherType.toUpper = "GIFT_CARD"

def ofStore (tenantId storeId : ℕ) : Bool := tenantId = query.tenantId && storeId = query.storeId

/-- The advances issued in the window, with the instant that dates them. -/
def issued : List (ReportAdvance × ℤ) :=
  (db.advances.filter fun advance => query.ofStore advance.tenantId advance.storeId &&
    query.range.includes advance.issuedAt).map fun advance => (advance, advance.issuedAt)

/-- The advances redeemed in the window, by their events. -/
def redeemed : List (ReportAdvance × ℤ) :=
  (db.advanceEvents.filter fun event => query.ofStore event.tenantId event.storeId &&
    event.action = "CONSUMED" && query.range.includes event.createdAt).flatMap fun event =>
      (db.advances.filter fun advance => advance.id = event.advanceId).map fun advance =>
        (advance, event.createdAt)

/-- The advances refunded in the window. -/
def refunded : List (ReportAdvance × ℤ) :=
  (db.advances.filter fun advance => query.ofStore advance.tenantId advance.storeId &&
    advance.status = "REFUNDED").filterMap fun advance =>
    (advance.refundedAt.filter query.range.includes).map fun at_ => (advance, at_)

/-- The amounts of the advances of one kind. -/
def amountsOf (giftCards : Bool) (advances : List (ReportAdvance × ℤ)) : List (ℤ × ℚ) :=
  (advances.filter fun entry => isGiftCard entry.1 == giftCards).map fun entry =>
    (entry.2, entry.1.issuedAmount)

/-- The payments of the finalized sales of the window, with the instants of their checkouts. -/
def salesTenders : List (ReportPayment × ℤ) :=
  db.payments.flatMap fun payment =>
    (db.sales.filter fun sale => sale.id = payment.saleId && query.isFinalizedSale sale).filterMap
        fun sale =>
      sale.checkedOutAt.map fun at_ => (payment, at_)

/-- What was received by one method, for advances and for sales. -/
def tenders (method : String) : List (ℤ × ℚ) :=
  ((query.issued db).filter fun entry => entry.1.issuedPaymentMethod.toUpper = method).map
      (fun entry => (entry.2, entry.1.issuedAmount)) ++
    ((query.salesTenders db).filter fun entry => entry.1.method.toUpper = method).map fun entry =>
      (entry.2, entry.1.amount)

/-- The dated amounts behind a liability or tender figure. -/
def liabilityTenderAmounts : LiabilityTenderField → List (ℤ × ℚ)
  | .liabilityIssuedAdvances => amountsOf false (query.issued db)
  | .liabilityIssuedGiftCards => amountsOf true (query.issued db)
  | .liabilityRedeemedAdvances => amountsOf false (query.redeemed db)
  | .liabilityRedeemedGiftCards => amountsOf true (query.redeemed db)
  | .liabilityRefundedAdvances => amountsOf false (query.refunded db)
  | .liabilityRefundedGiftCards => amountsOf true (query.refunded db)
  | .tenderCashReceived => query.tenders db "CASH"
  | .tenderCardReceived => query.tenders db "CARD"
  | .tenderTransferReceived => query.tenders db "TRANSFER"
  | .tenderTotalReceived =>
    query.tenders db "CASH" ++ query.tenders db "CARD" ++ query.tenders db "TRANSFER"

/-- `_daily_liability_and_tender`. -/
def dailyLiabilityAndTender (day : ℤ) (field : LiabilityTenderField) : ℚ :=
  sumWhere (fun entry => query.zone.localDate entry.1 = day) (·.2)
    (query.liabilityTenderAmounts db field)

end ReportQuery

/-- The body of the loop of `apply_liability_and_tender_rows`. -/
def applyLiabilityAndTender (db : ReportDb) (query : ReportQuery) (row : ReportRow) :
    ReportRow where
  businessDate := row.businessDate
  figure
    | .liabilityTender field => query.dailyLiabilityAndTender db row.businessDate field
    | figure => row.figure figure

/-- `apply_liability_and_tender_rows`. -/
def applyLiabilityAndTenderRows (db : ReportDb) (query : ReportQuery) (rows : List ReportRow) :
    List ReportRow :=
  rows.map (applyLiabilityAndTender db query)

end ArisCloud.Reports

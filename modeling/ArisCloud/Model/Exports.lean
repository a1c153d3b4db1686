import ArisCloud.Model.Reports

/-! # Report endpoints and exported datasets

The three endpoints of `routers/reports.py` and `build_report_dataset` of `services/exports.py`, for
a store whose scope was checked. A response is a list of records under its field names, a dataset a
list of rows under its columns.
-/

namespace ArisCloud.Reports

/-- A field of a report row. -/
inductive Column where
  | businessDate
  | figure (figure : Figure)
  deriving DecidableEq, Repr

inductive Cell where
  | date (day : ℤ)
  | number (value : ℚ)
  deriving DecidableEq, Repr

/-- Values under field names. -/
abbrev ReportRecord := Column → Option Cell

def ReportRow.cell (row : ReportRow) : Column → Cell
  | .businessDate => .date row.businessDate
  | .figure figure => .number (row.figure figure)

/-- The fields of the liabilities and tenders. -/
def liabilityTenderFields : List LiabilityTenderField :=
  [.liabilityIssuedAdvances, .liabilityIssuedGiftCards, .liabilityRedeemedAdvances,
    .liabilityRedeemedGiftCards, .liabilityRefundedAdvances, .liabilityRefundedGiftCards,
    .tenderCashReceived, .tenderCardReceived, .tenderTransferReceived, .tenderTotalReceived]

/-- The keys of `build_report_totals`, and the fields of `ReportTotals`. -/
def totalsFigures : List Figure :=
  [.grossSales, .refundsTotal, .netSales, .cogsGross, .cogsReversedFromReturns, .netCogs,
    .netProfit, .ordersPaidCount, .averageTicket] ++ liabilityTenderFields.map .liabilityTender

/-- The fields of `ReportDailyRow`. -/
def reportDailyFields : List Column := .businessDate :: totalsFigures.map .figure

/-- The fields of `ReportCalendarRow`. -/
def reportCalendarFields : List Column :=
  [.businessDate, .figure .netSales, .figure .netProfit, .figure .ordersPaidCount]

/-- The given fields of a row. -/
def recordOf (fields : List Column) (cell : Column → Cell) : ReportRecord :=
  fun column => if column ∈ fields then some (cell column) else none

/-- The totals as one record. -/
def totalsRecord (totals : Figure → ℚ) : ReportRecord
  | .businessDate => none
  | .figure figure => some (.number (totals figure))

/-- The part of a request that both sides read. -/
structure ReportRequest where
  tenantId : ℕ
  storeId : ℕ
  fromValue : Option String := none
  toValue : Option String := none
  timezone : Option String := none
  cashier : Option ℕ := none
  paymentMethod : Option String := none

/-- The settings and the clock. -/
structure ReportContext where
  environment : Environment
  now : ℤ
  maxDays : ℤ

/-- The zone and the range of a request, checked. -/
def reportQuery (context : ReportContext) (request : ReportRequest) : Except AppError ReportQuery :=
  do
  let zone ← resolveTimezone context.environment request.timezone
  let range ← resolveDateRange context.environment zone context.now request.fromValue
    request.toValue
  validateDateRange range context.maxDays
  .ok ⟨request.tenantId, request.storeId, range, zone, request.cashier, request.paymentMethod⟩

/-! ## Endpoints -/

/-- The records and the totals of a response. -/
structure ReportResponse where
  rows : List ReportRecord
  totals : Figure → ℚ

/-- The rows that every endpoint assembles. -/
def reportRows (db : ReportDb) (query : ReportQuery) : List ReportRow :=
  applyLiabilityAndTenderRows db query
    (buildDailyReportRows (dailySalesRefunds db query) query.range)

/-- `report_overview`: the totals alone. -/
def reportOverview (db : ReportDb) (query : ReportQuery) : ReportResponse :=
  let totals := buildReportTotals (reportRows db query)
  ⟨[totalsRecord totals], totals⟩

def reportDaily (db : ReportDb) (query : ReportQuery) : ReportResponse :=
  let rows := reportRows db query
  ⟨rows.map fun row => recordOf reportDailyFields row.cell, buildReportTotals rows⟩

def reportCalendar (db : ReportDb) (query : ReportQuery) : ReportResponse :=
  let rows := reportRows db query
  ⟨rows.map fun row => recordOf reportCalendarFields row.cell, buildReportTotals rows⟩

/-! ## Exports -/

inductive ExportSourceType where
  | reportsOverview | reportsDaily | reportsCalendar
  deriving DecidableEq, Repr

structure ExportDataset where
  columns : List Column
  rows : List (List Cell)
  totals : Figure → ℚ

/-- The columns of an exported daily report. -/
def exportDailyColumns : List Column :=
  [.businessDate, .figure .grossSales, .figure .refundsTotal, .figure .netSales, .figure .cogsGross,
    .figure .cogsReversedFromReturns, .figure .netCogs, .figure .netProfit,
    .figure .ordersPaidCount, .figure .averageTicket]

/-- The columns of an exported calendar. -/
def exportCalendarColumns : List Column :=
  [.businessDate, .figure .netSales, .figure .netProfit, .figure .ordersPaidCount]

/-- The dataset of a range, once its rows are built. -/
def datasetOf (source : ExportSourceType) (dailyRows : List ReportRow) : ExportDataset :=
  match source with
  | .reportsOverview =>
    let totals := buildReportTotals dailyRows
    ⟨totalsFigures.map .figure, [totalsFigures.map fun figure => .number (totals figure)], totals⟩
  | .reportsDaily =>
    ⟨exportDailyColumns, dailyRows.map fun row => exportDailyColumns.map row.cell,
      buildReportTotals dailyRows⟩
  | .reportsCalendar =>
    ⟨exportCalendarColumns, dailyRows.map fun row => exportCalendarColumns.map row.cell,
      buildReportTotals dailyRows⟩

def buildReportDataset (context : ReportContext) (db : ReportDb) (source : ExportSourceType)
    (request : ReportRequest) :
    Except AppError ExportDataset := do
  let query ← reportQuery context request
  .ok (datasetOf source (buildDailyReportRows (dailySalesRefunds db query) query.range))

/-- The endpoint that reports the same source. -/
def reportEndpoint (context : ReportContext) (db : ReportDb) (source : ExportSourceType)
    (request : ReportRequest) :
    Except AppError ReportResponse := do
  let query ← reportQuery context request
  match source with
  | .reportsOverview => .ok (reportOverview db query)
  | .reportsDaily => .ok (reportDaily db query)
  | .reportsCalendar => .ok (reportCalendar db query)

/-- A row read under its columns. -/
def datasetRecord (columns : List Column) (row : List Cell) : ReportRecord :=
  fun column => (columns.zip row).lookup column

end ArisCloud.Reports

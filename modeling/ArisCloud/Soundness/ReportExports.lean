import ArisCloud.Model.Exports

/-! # Exported datasets against the report endpoints

Both sides build the same rows of sales, refunds and costs. Only the endpoints then apply the
liabilities and tenders, so an export agrees when there is nothing to apply, and an exported daily
report never has their columns.
-/

namespace ArisCloud.Reports

open Tally

/-- The dataset has the records and the totals of the response. -/
structure AgreesWith (dataset : ExportDataset) (response : ReportResponse) : Prop where
  rows : dataset.rows.map (datasetRecord dataset.columns) = response.rows
  totals : dataset.totals = response.totals

/-- An export answers what the endpoint answers to the same request. -/
inductive ExportAgrees (context : ReportContext) (db : ReportDb) (source : ExportSourceType)
    (request : ReportRequest) : Prop
  | refused (failure : AppError) (exported : buildReportDataset context db source request =
      .error failure) (reported : reportEndpoint context db source request = .error failure)
  | answered (dataset : ExportDataset) (response : ReportResponse)
      (exported : buildReportDataset context db source request = .ok dataset)
      (reported : reportEndpoint context db source request = .ok response)
      (agree : AgreesWith dataset response)

/-- The amount that is dated in the days of the report. -/
def amountInRange (query : ReportQuery) (amounts : List (ℤ × ℚ)) : ℚ :=
  sumWhere (fun entry => query.range.startDate ≤ query.zone.localDate entry.1 &&
    query.zone.localDate entry.1 ≤ query.range.endDate) (·.2) amounts

/-- The vouchers issued, redeemed and refunded and the payments received in the days of the report
come to nothing, each kind by itself. -/
def NothingReceived (query : ReportQuery) (db : ReportDb) : Prop :=
  ∀ field, amountInRange query (query.liabilityTenderAmounts db field) = 0

section

variable {query : ReportQuery} {db : ReportDb} {amounts : DailyAmounts} {rows : List ReportRow}

/-- A figure of the days adds up to what is dated in them. -/
theorem sum_dailyLiabilityAndTender (field : LiabilityTenderField) :
    ((iterDates query.range.startDate query.range.endDate).map fun day =>
      query.dailyLiabilityAndTender db day field).sum = amountInRange query
          (query.liabilityTenderAmounts db field) := by
  have distinct : ((iterDates query.range.startDate query.range.endDate).map id).Nodup := by
    rw [List.map_id]
    exact iterDates_nodup
  have swapped : sumWhere (fun _ => true) (fun day => query.dailyLiabilityAndTender db day field)
      (iterDates query.range.startDate query.range.endDate) = _ :=
    sumWhere_sumWhere distinct (fun entry : ℤ × ℚ => query.zone.localDate entry.1) (·.2) _
  rw [sumWhere_true] at swapped
  refine swapped.trans (sumWhere_congr (fun entry _ => ?_) fun _ _ _ => rfl)
  rw [Bool.eq_iff_iff]
  simp [mem_iterDates]

private theorem sumOf_apply (field : LiabilityTenderField) :
    sumOf (applyLiabilityAndTenderRows db query rows) (.liabilityTender field) =
      (rows.map fun row => query.dailyLiabilityAndTender db row.businessDate field).sum := by
  rw [sumOf, applyLiabilityAndTenderRows, List.map_map]
  rfl

/-- The rows carry the liabilities and tenders of the report's days. -/
theorem sumOf_reportRows (field : LiabilityTenderField) :
    sumOf (reportRows db query) (.liabilityTender field) =
      amountInRange query (query.liabilityTenderAmounts db field) := by
  rw [reportRows, sumOf_apply, buildDailyReportRows, List.map_map, ← sum_dailyLiabilityAndTender]
  rfl

/-- Without them the rows carry nothing. -/
theorem sumOf_buildDailyReportRows (field : LiabilityTenderField) :
    sumOf (buildDailyReportRows amounts query.range) (.liabilityTender field) = 0 := by
  rw [sumOf, buildDailyReportRows, List.map_map]
  exact List.sum_eq_zero fun value member => by
    obtain ⟨day, _, rfl⟩ := List.mem_map.mp member
    rfl

/-- The other figures are left as they are. -/
theorem sumOf_apply_other {figure : Figure} (other : ∀ field, figure ≠ .liabilityTender field) :
    sumOf (applyLiabilityAndTenderRows db query rows) figure = sumOf rows figure := by
  rw [sumOf, applyLiabilityAndTenderRows, List.map_map, sumOf]
  refine congrArg List.sum (List.map_congr_left fun row _ => ?_)
  cases figure with
  | liabilityTender field => exact absurd rfl (other field)
  | _ => rfl

/-- What is received in all is what is received by each method. -/
theorem amountInRange_total :
    amountInRange query (query.liabilityTenderAmounts db .tenderTotalReceived) =
    amountInRange query (query.liabilityTenderAmounts db .tenderCashReceived) +
      amountInRange query (query.liabilityTenderAmounts db .tenderCardReceived) +
      amountInRange query (query.liabilityTenderAmounts db .tenderTransferReceived) := by
  simp only [ReportQuery.liabilityTenderAmounts, amountInRange, sumWhere_append]

private theorem buildReportTotals_reportRows (field : LiabilityTenderField) :
    buildReportTotals (reportRows db query) (.liabilityTender field) =
      amountInRange query (query.liabilityTenderAmounts db field) := by
  cases field with
  | tenderTotalReceived =>
    rw [amountInRange_total, ← sumOf_reportRows, ← sumOf_reportRows, ← sumOf_reportRows]
    rfl
  | _ => exact sumOf_reportRows _

private theorem buildReportTotals_dailyRows (field : LiabilityTenderField) :
    buildReportTotals (buildDailyReportRows amounts query.range) (.liabilityTender field) = 0 := by
  cases field with
  | tenderTotalReceived => simp only [buildReportTotals, sumOf_buildDailyReportRows, add_zero]
  | _ => exact sumOf_buildDailyReportRows _

private theorem buildReportTotals_apply_other {figure : Figure}
    (other : ∀ field, figure ≠ .liabilityTender field) :
    buildReportTotals (applyLiabilityAndTenderRows db query rows) figure =
    buildReportTotals rows figure := by
  cases figure with
  | liabilityTender field => exact absurd rfl (other field)
  | averageTicket =>
    rw [buildReportTotals, sumOf_apply_other (by simp), sumOf_apply_other (by simp),
      buildReportTotals]
  | _ => exact sumOf_apply_other other

/-- The totals of both sides agree exactly when there is nothing to apply. -/
theorem totals_agree_iff :
    buildReportTotals (buildDailyReportRows (dailySalesRefunds db query) query.range) =
    buildReportTotals (reportRows db query) ↔ NothingReceived query db := by
  constructor
  · intro same field
    rw [← buildReportTotals_reportRows, ← congrFun same, buildReportTotals_dailyRows]
  · intro nothing
    funext figure
    cases figure with
    | liabilityTender field =>
      rw [buildReportTotals_dailyRows, buildReportTotals_reportRows, nothing field]
    | _ => exact (buildReportTotals_apply_other (by simp)).symm

/-- A row written under its columns is read back as its fields. -/
theorem datasetRecord_map (columns : List Column) (cell : Column → Cell) :
    datasetRecord columns (columns.map cell) = recordOf columns cell := by
  funext column
  rw [datasetRecord, recordOf]
  induction columns with
  | nil => rfl
  | cons first rest ih =>
    rw [List.map_cons, List.zip_cons_cons, List.lookup_cons, ih]
    by_cases same : column = first
    · simp [same]
    · simp [same, beq_false_of_ne same]

private theorem mem_totalsFigures (figure : Figure) : figure ∈ totalsFigures := by
  cases figure with
  | liabilityTender field => cases field <;> decide
  | _ => decide

/-- The figures of the totals, as the cells of a row. -/
def totalsCell (totals : Figure → ℚ) : Column → Cell
  | .businessDate => .number 0
  | .figure figure => .number (totals figure)

/-- The row of an exported overview is its totals. -/
theorem overview_rows :
    (datasetOf .reportsOverview rows).rows.map
    (datasetRecord (datasetOf .reportsOverview rows).columns) =
    [totalsRecord (buildReportTotals rows)] := by
  have written : (totalsFigures.map fun figure => Cell.number (buildReportTotals rows figure)) =
      (totalsFigures.map Column.figure).map (totalsCell (buildReportTotals rows)) := by
    rw [List.map_map]
    rfl
  simp only [datasetOf, List.map_cons, List.map_nil, written, datasetRecord_map]
  congr 1
  funext column
  cases column with
  | businessDate => simp [recordOf, totalsRecord]
  | figure figure => simp [recordOf, totalsRecord, mem_totalsFigures, totalsCell]

/-- A row reads the same before its liabilities and tenders are applied, in the other columns. -/
theorem recordOf_apply {columns : List Column}
    (others : ∀ field, Column.figure (.liabilityTender field) ∉ columns)
    (row : ReportRow) :
    recordOf columns (applyLiabilityAndTender db query row).cell = recordOf columns row.cell := by
  funext column
  rw [recordOf, recordOf]
  split
  · next isField =>
    cases column with
    | businessDate => rfl
    | figure figure =>
      cases figure with
      | liabilityTender field => exact absurd isField (others field)
      | _ => rfl
  · rfl

/-- The rows of an exported calendar are those of the calendar. -/
theorem calendar_rows :
    (datasetOf .reportsCalendar rows).rows.map
    (datasetRecord (datasetOf .reportsCalendar rows).columns) =
      (applyLiabilityAndTenderRows db query rows).map fun row =>
      recordOf reportCalendarFields row.cell := by
  simp only [datasetOf, applyLiabilityAndTenderRows, List.map_map]
  refine List.map_congr_left fun row _ => ?_
  simp only [Function.comp_apply, datasetRecord_map]
  exact (recordOf_apply (fun field => by simp [exportCalendarColumns]) row).symm

/-- The rows of an exported daily report are those of the daily report, without some of their
fields. -/
theorem daily_rows :
    (datasetOf .reportsDaily rows).rows.map (datasetRecord (datasetOf .reportsDaily rows).columns) =
      (applyLiabilityAndTenderRows db query rows).map fun row =>
      recordOf exportDailyColumns row.cell := by
  simp only [datasetOf, applyLiabilityAndTenderRows, List.map_map]
  refine List.map_congr_left fun row _ => ?_
  simp only [Function.comp_apply, datasetRecord_map]
  exact (recordOf_apply (fun field => by simp [exportDailyColumns]) row).symm

/-- The rows of an exported daily report lack the fields of the liabilities and tenders. -/
theorem daily_rows_ne (some_day : rows ≠ []) :
    (datasetOf .reportsDaily rows).rows.map (datasetRecord (datasetOf .reportsDaily rows).columns) ≠
      (applyLiabilityAndTenderRows db query rows).map fun row =>
      recordOf reportDailyFields row.cell := by
  intro same
  obtain ⟨row, rest, rfl⟩ := List.exists_cons_of_ne_nil some_day
  have restricted : _ = (applyLiabilityAndTenderRows db query (row :: rest)).map _ := daily_rows
  rw [restricted] at same
  simp only [applyLiabilityAndTenderRows, List.map_cons, List.cons.injEq] at same
  have field := congrFun same.1 (.figure (.liabilityTender .tenderCashReceived))
  have left : (Column.figure (.liabilityTender .tenderCashReceived)) ∉ exportDailyColumns := by
    decide
  have right : (Column.figure (.liabilityTender .tenderCashReceived)) ∈ reportDailyFields := by
    decide
  rw [recordOf, recordOf, if_neg left, if_pos right] at field
  exact nomatch field

end

/-- The range of an accepted request has a day. -/
theorem buildDailyReportRows_ne_nil {context : ReportContext} {request : ReportRequest}
    {query : ReportQuery} {amounts : DailyAmounts}
    (accepted : reportQuery context request = .ok query) :
    buildDailyReportRows amounts query.range ≠ [] := by
  simp only [reportQuery, Checked.bind_eq_ok] at accepted
  obtain ⟨zone, _, range, resolved, _, _, same⟩ := accepted
  obtain rfl := Except.ok.inj same
  have ordered := startDate_le_endDate resolved
  have day : range.startDate ∈ iterDates range.startDate range.endDate :=
    mem_iterDates.mpr ⟨le_rfl, ordered⟩
  exact List.ne_nil_of_mem (List.mem_map_of_mem day)

/-- An export agrees with its endpoint exactly when it is not a daily report and nothing besides
sales is to be reported. -/
theorem export_agrees_iff (context : ReportContext) (db : ReportDb) (source : ExportSourceType)
    (request : ReportRequest) :
    ExportAgrees context db source request ↔
      ∀ query, reportQuery context request = .ok query → source ≠ .reportsDaily ∧
      NothingReceived query db := by
  cases accepted : reportQuery context request with
  | error failure =>
    constructor
    · intro _ query isQuery
      exact nomatch isQuery
    · intro _
      apply ExportAgrees.refused failure
      · rw [buildReportDataset, accepted]
        rfl
      · rw [reportEndpoint, accepted]
        rfl
  | ok query =>
    have exported : buildReportDataset context db source request =
        .ok (datasetOf source (buildDailyReportRows (dailySalesRefunds db query) query.range)) := by
      rw [buildReportDataset, accepted]
      rfl
    have reported : reportEndpoint context db source request = .ok (match source with
        | .reportsOverview => reportOverview db query
        | .reportsDaily => reportDaily db query
        | .reportsCalendar => reportCalendar db query) := by
      rw [reportEndpoint, accepted]
      cases source <;> rfl
    constructor
    · rintro (⟨failure, refused, _⟩ | ⟨dataset, response, isDataset, isResponse, agree⟩) other same
      · rw [exported] at refused
        exact nomatch refused
      · obtain rfl := Except.ok.inj same
        obtain rfl := Except.ok.inj (exported.symm.trans isDataset)
        obtain rfl := Except.ok.inj (reported.symm.trans isResponse)
        cases source with
        | reportsOverview => exact ⟨by decide, totals_agree_iff.mp agree.totals⟩
        | reportsDaily =>
          exact absurd agree.rows (daily_rows_ne (buildDailyReportRows_ne_nil accepted))
        | reportsCalendar => exact ⟨by decide, totals_agree_iff.mp agree.totals⟩
    · intro agree
      obtain ⟨notDaily, nothing⟩ := agree query rfl
      refine .answered _ _ exported reported ?_
      have totals := totals_agree_iff.mpr nothing
      cases source with
      | reportsOverview =>
        exact ⟨overview_rows.trans (congrArg (fun totals => [totalsRecord totals]) totals), totals⟩
      | reportsDaily => exact absurd rfl notDaily
      | reportsCalendar => exact ⟨calendar_rows, totals⟩

namespace Sample

/-- A clock that stands still, without installed time zones. -/
def midnight : ReportContext where
  environment := ⟨fun _ => none, fun _ => none, fun _ => none⟩
  now := 0
  maxDays := 0

/-- A store that issued an advance of one hundred for cash. -/
def advanceIssued : ReportDb where
  advances := [{ id := 1, tenantId := 1, storeId := 1, voucherType := "ADVANCE",
                 issuedAmount := 100, issuedPaymentMethod := "CASH", issuedAt := 0, status :=
                 "ACTIVE" }]

def today : ReportRequest where
  tenantId := 1
  storeId := 1

end Sample

/-- The exported overview of a day on which an advance was issued reports none. -/
theorem overview_without_advances :
    ¬ ∀ context db source request, ExportAgrees context db source request := by
  intro always
  have exported :
      (buildReportDataset Sample.midnight Sample.advanceIssued .reportsOverview Sample.today).map
      (fun dataset => dataset.totals (.liabilityTender .liabilityIssuedAdvances)) = .ok 0 := by
      decide +kernel
  have reported :
      (reportEndpoint Sample.midnight Sample.advanceIssued .reportsOverview Sample.today).map
      (fun response => response.totals (.liabilityTender .liabilityIssuedAdvances)) = .ok 100 := by
      decide +kernel
  cases always Sample.midnight Sample.advanceIssued .reportsOverview Sample.today with
  | refused failure isRefused _ =>
    rw [isRefused] at exported
    exact nomatch exported
  | answered dataset response isDataset isResponse agree =>
    rw [isDataset] at exported
    rw [isResponse] at reported
    have nothing : dataset.totals (.liabilityTender .liabilityIssuedAdvances) = 0 :=
      Except.ok.inj exported
    have hundred : response.totals (.liabilityTender .liabilityIssuedAdvances) = 100 :=
      Except.ok.inj reported
    rw [agree.totals, hundred] at nothing
    exact absurd nothing (by decide)

end ArisCloud.Reports

import ArisCloud.Library.KeyedRows
import ArisCloud.Soundness.ReportDays

/-! # Daily rows under different windows

The row of a day adds up the sales, returns and costs that fall on the day, but only those the
window of the report has, and it takes the cost of a returned line off only when the window has the
sale of the line too. A row is the same for all ranges of dates around its day exactly when no
window leaves out anything the row counts. Where the clock turns to every midnight once, that is
when the returns of a day bring back goods that were sold on the same day.
-/

namespace ArisCloud.Reports

open LocalClock Tally Decimals

namespace ReportQuery

variable (query : ReportQuery) (db : ReportDb)

/-- The report over another range. -/
def during (range : ReportDateRange) : ReportQuery := { query with range }

/-- The store's finalized sales that the filters leave. -/
def isStoreSale (sale : ReportSale) : Bool :=
  sale.tenantId = query.tenantId && sale.storeId = query.storeId &&
    finalizedSaleStatuses.contains sale.status.toUpper && query.ofCashier sale &&
    query.paidBy db sale.id

/-- The store's return events. -/
def isStoreReturn (event : ReportReturnEvent) : Bool :=
  event.tenantId = query.tenantId && event.storeId = query.storeId &&
    reportableReturnActions.contains event.action

/-- The events among them whose refunds the filters leave. -/
def isStoreRefund (event : ReportReturnEvent) : Bool :=
  query.isStoreReturn event &&
    ((query.cashierId.isNone && query.methodFilter.isNone) ||
      db.sales.any fun sale => sale.id = event.saleId && sale.tenantId = query.tenantId &&
        sale.storeId = query.storeId && query.ofCashier sale) &&
    query.paidBy db event.saleId

/-- The line that an entry of a return event names. -/
def returnedLine (item : ReturnedItem) : Option ReportSaleLine :=
  (item.lineId.or item.saleLineId).bind fun lineId => db.saleLines.find? fun line =>
    line.id = lineId

/-- The cost that the entry brings back, where the sale of its line is in the report. -/
def takesBack (item : ReturnedItem) : ℚ :=
  match returnedLine db item with
  | none => 0
  | some line =>
    if item.qty ≤ 0 || query.lineCost db line ≤ 0 then 0
    else quantize (quantize (query.lineCost db line / max line.qty 1) * item.qty)

/-- The entry names a line of the sale. -/
def namesLineOf (sale : ReportSale) (item : ReturnedItem) : Bool :=
  (returnedLine db item).any (query.isCostedLine sale.id)

/-- The sale of the entry's line is in the report. -/
def isSold (item : ReturnedItem) : Bool :=
  (query.paidSales db).any fun sale => query.namesLineOf db sale item

end ReportQuery

/-! ## What the claimed rows are -/

/-- The ids are primary keys. -/
structure ReportKeys (db : ReportDb) : Prop where
  sales : (db.sales.map (·.id)).Nodup
  saleLines : (db.saleLines.map (·.id)).Nodup

/-- The range of two dates has the day between them. -/
def Around (zone : TimeZone) (day : ℤ) (range : ReportDateRange) : Prop :=
  ∃ first last, first ≤ day ∧ day ≤ last ∧ ResolvedFrom zone first last range

/-- The row of the day in the report over a range. -/
def rowOver (query : ReportQuery) (db : ReportDb) (range : ReportDateRange) (day : ℤ) : ReportRow :=
  dailyReportRow (dailySalesRefunds db (query.during range)) day

/-- The totals of the report over a range. -/
def totalsOver (query : ReportQuery) (db : ReportDb) (range : ReportDateRange) : Figure → ℚ :=
  buildReportTotals (buildDailyReportRows (dailySalesRefunds db (query.during range)) range)

/-- The row is the same for every range that has the day. -/
def SameRow (query : ReportQuery) (db : ReportDb) (day : ℤ) : Prop :=
  ∀ range other, Around query.zone day range → Around query.zone day other →
    rowOver query db range day = rowOver query db other day

/-- The figures of sales, refunds, costs, profit and orders. -/
def salesFigures : List Figure :=
  [.grossSales, .refundsTotal, .netSales, .cogsGross, .cogsReversedFromReturns, .netCogs,
    .netProfit, .ordersPaidCount]

/-- Rows do not depend on the range, and the totals of adjacent ranges add up. -/
structure WindowIndependent (query : ReportQuery) (db : ReportDb) : Prop where
  rows : ∀ day, SameRow query db day
  totals : ∀ first middle last whole early late, first ≤ middle → middle < last →
    ResolvedFrom query.zone first last whole → ResolvedFrom query.zone first middle early →
    ResolvedFrom query.zone (middle + 1) last late → ∀ figure ∈ salesFigures,
      totalsOver query db whole figure = totalsOver query db early figure +
      totalsOver query db late figure

/-! ## When they are -/

/-- No range around the day leaves out what its row counts: the sales of the day, refunds of the day
that come to something, and the sales whose costs the returns of the day bring back. -/
structure InEveryRange (query : ReportQuery) (db : ReportDb) (day : ℤ) : Prop where
  sales : ∀ sale instant, FinalizedAt query db sale instant → query.zone.localDate instant = day →
    ∀ range, Around query.zone day range → range.includes instant = true
  refunds : ∀ range, Around query.zone day range →
    sumWhere (fun event =>
    (query.isStoreRefund db event && query.onDay day (some event.createdAt)) &&
      !range.includes event.createdAt) (·.refundTotal) db.returnEvents = 0
  costs : ∀ event ∈ db.returnEvents, query.isStoreReturn event = true →
    query.zone.localDate event.createdAt = day → ∀ item ∈ event.returnedLines,
    0 < query.takesBack db item → ∀ sale instant, FinalizedAt query db sale instant →
    query.namesLineOf db sale item = true → ∀ range, Around query.zone day range →
    range.includes event.createdAt = true ∧ range.includes instant = true

/-- The returns of the day bring back costs of sales of the same day only. -/
def CostsOfTheDay (query : ReportQuery) (db : ReportDb) (day : ℤ) : Prop :=
  ∀ event ∈ db.returnEvents, query.isStoreReturn event = true →
    query.zone.localDate event.createdAt = day → ∀ item ∈ event.returnedLines,
    0 < query.takesBack db item → ∀ sale instant, FinalizedAt query db sale instant →
    query.namesLineOf db sale item = true →
      query.zone.localDate instant = day

/-! ## Amounts as sums over the tables -/

section Amounts

variable {query : ReportQuery} {db : ReportDb} {range : ReportDateRange} {day instant : ℤ}
    {sale : ReportSale}
  {item : ReturnedItem}

private theorem finalizedAt_iff : FinalizedAt query db sale instant ↔
    sale ∈ db.sales ∧ query.isStoreSale db sale = true ∧ sale.checkedOutAt = some instant := by
  constructor
  · rintro ⟨member, ⟨sameTenant, sameStore⟩, status, filters, checkedOut⟩
    refine ⟨member, ?_, checkedOut⟩
    rw [ReportQuery.isStoreSale, Bool.and_assoc, filters, status, sameTenant, sameStore]
    simp only [decide_true, Bool.and_self]
  · rintro ⟨member, isStoreSale, checkedOut⟩
    simp only [ReportQuery.isStoreSale, Bool.and_eq_true, decide_eq_true_eq] at isStoreSale
    obtain ⟨⟨⟨scope, status⟩, ofCashier⟩, paidBy⟩ := isStoreSale
    exact ⟨member, scope, status, Bool.and_eq_true _ _ |>.mpr ⟨ofCashier, paidBy⟩, checkedOut⟩

private theorem paidSales_during : (query.during range).paidSales db =
    db.sales.filter fun sale => query.isStoreSale db sale &&
    sale.checkedOutAt.any range.includes := by
  refine List.filter_congr fun sale _ => ?_
  simp only [ReportQuery.isFinalizedSale, ReportQuery.isStoreSale, ReportQuery.inWindow,
    ReportQuery.during, ReportQuery.ofCashier, ReportQuery.paidBy, ReportQuery.methodFilter]
  ac_rfl

private theorem mem_paidSales_during : sale ∈ (query.during range).paidSales db ↔
    ∃ instant, FinalizedAt query db sale instant ∧ range.includes instant = true := by
  rw [paidSales_during, List.mem_filter, Bool.and_eq_true, Option.any_eq_true]
  constructor
  · rintro ⟨member, isStoreSale, instant, checkedOut, inRange⟩
    exact ⟨instant, finalizedAt_iff.mpr ⟨member, isStoreSale, checkedOut⟩, inRange⟩
  · rintro ⟨instant, finalized, inRange⟩
    obtain ⟨member, isStoreSale, checkedOut⟩ := finalizedAt_iff.mp finalized
    exact ⟨member, isStoreSale, instant, checkedOut, inRange⟩

/-- The sales that the row of the day counts. -/
theorem daySales_during :
    ((query.during range).paidSales db).filter (fun sale => query.onDay day sale.checkedOutAt) =
    db.sales.filter fun sale => (query.isStoreSale db sale && query.onDay day sale.checkedOutAt) &&
      sale.checkedOutAt.any range.includes := by
  rw [paidSales_during, List.filter_filter]
  refine List.filter_congr fun sale _ => ?_
  ac_rfl

private theorem refundsByDate_during : (query.during range).refundsByDate db day =
    sumWhere (fun event =>
      (query.isStoreRefund db event && query.onDay day (some event.createdAt)) &&
      range.includes event.createdAt) (·.refundTotal) db.returnEvents := by
  rw [ReportQuery.refundsByDate, ReportQuery.refundEvents, sumWhere_filter]
  refine sumWhere_congr (fun event _ => ?_) fun _ _ _ => rfl
  simp only [ReportQuery.isReturnEvent, ReportQuery.isStoreRefund, ReportQuery.isStoreReturn,
    ReportQuery.during, ReportQuery.ofCashier, ReportQuery.paidBy, ReportQuery.methodFilter,
    ReportQuery.onDay]
  ac_rfl

private theorem takesBack_nonneg : 0 ≤ query.takesBack db item := by
  rw [ReportQuery.takesBack]
  split
  · exact le_rfl
  · split
    · exact le_rfl
    · next line _ positive =>
      simp only [Bool.or_eq_true, decide_eq_true_eq, not_or, not_le] at positive
      refine quantize_nonneg (mul_nonneg (quantize_nonneg (div_nonneg positive.2.le ?_)) ?_)
      · exact_mod_cast (zero_le_one.trans (le_max_right line.qty 1))
      · exact_mod_cast positive.1.le

private theorem soldLine_during (keys : ReportKeys db) :
    (item.lineId.or item.saleLineId).bind ((query.during range).soldLine db) =
      (ReportQuery.returnedLine db item).filter fun line =>
        ((query.during range).paidSales db).any fun sale => query.isCostedLine sale.id line := by
  rw [ReportQuery.returnedLine]
  cases item.lineId.or item.saleLineId with
  | none => rfl
  | some lineId => exact KeyedRows.find?_key_and keys.saleLines lineId

/-- An entry takes off its cost when the report has the sale of its line. -/
theorem reversedCost_during (keys : ReportKeys db) : (query.during range).reversedCost db item =
    if (query.during range).isSold db item then query.takesBack db item else 0 := by
  rw [ReportQuery.reversedCost, soldLine_during keys]
  cases found : ReportQuery.returnedLine db item with
  | none => simp [ReportQuery.takesBack, found]
  | some line =>
    have isSold : (query.during range).isSold db item =
        ((query.during range).paidSales db).any fun sale => query.isCostedLine sale.id line := by
      simp only [ReportQuery.isSold, ReportQuery.namesLineOf, found, Option.any_some]
      rfl
    rw [isSold, ReportQuery.takesBack, found, Option.filter_some]
    by_cases sold :
      (((query.during range).paidSales db).any fun sale => query.isCostedLine sale.id line) = true
    · rw [if_pos sold, if_pos sold]
      rfl
    · rw [if_neg sold, if_neg sold]

/-- What an entry of a return event takes off in a report over the range. -/
def takenOff (query : ReportQuery) (db : ReportDb) (range : ReportDateRange)
    (event : ReportReturnEvent) (item : ReturnedItem) : ℚ :=
  if range.includes event.createdAt &&
    (query.during range).isSold db item then query.takesBack db item else 0

private theorem cogsReversedByDate_during (keys : ReportKeys db) :
    (query.during range).cogsReversedByDate db day =
    sumWhere (fun event => query.isStoreReturn event && query.onDay day (some event.createdAt))
      (fun event => (event.returnedLines.map (takenOff query db range event)).sum)
      db.returnEvents := by
  have inRange : (query.during range).cogsReversedByDate db day =
      sumWhere (fun event =>
      (query.isStoreReturn event && query.onDay day (some event.createdAt)) &&
        range.includes event.createdAt)
        (fun event => (event.returnedLines.map ((query.during range).reversedCost db)).sum)
        db.returnEvents := by
    refine sumWhere_congr (fun event _ => ?_) fun _ _ _ => rfl
    simp only [ReportQuery.isReturnEvent, ReportQuery.isStoreReturn, ReportQuery.during,
      ReportQuery.onDay]
    ac_rfl
  rw [inRange, sumWhere_and]
  refine sumWhere_congr (fun _ _ => rfl) fun event _ _ => ?_
  cases included : range.includes event.createdAt with
  | false =>
    rw [if_neg Bool.false_ne_true, List.sum_eq_zero]
    intro cost member
    obtain ⟨item, _, rfl⟩ := List.mem_map.mp member
    simp only [takenOff, included, Bool.false_and, Bool.false_eq_true, if_false]
  | true =>
    rw [if_pos rfl]
    refine congrArg List.sum (List.map_congr_left fun item _ => ?_)
    simp only [takenOff, included, Bool.true_and, reversedCost_during keys]

end Amounts

/-! ## Wider ranges -/

section Ranges

variable {query : ReportQuery} {db : ReportDb} {zone : TimeZone} {range other : ReportDateRange}
    {first last day instant : ℤ}

/-- A window that is two days wider at both ends. -/
theorem exists_wider (rules : ZoneInfoRules zone) (around : Around zone day range) (instant : ℤ) :
    ∃ wider, Around zone day wider ∧
    (∀ instant, range.includes instant = true → wider.includes instant = true) ∧
      (∀ instant, zone.localDate instant = day → wider.includes instant = true) ∧
      wider.includes instant = true := by
  obtain ⟨first, last, after, before, resolved⟩ := around
  obtain ⟨ordered, rfl⟩ := resolvedFrom_iff.mp resolved
  let start := min first (zone.localDate instant) - 2
  let stop := max last (zone.localDate instant) + 2
  have startNear := resolve_near rules.resolvesFirst rules.lessThanADay (start * microsecondsPerDay)
  have stopNear := resolve_near rules.resolvesFirst rules.lessThanADay
    ((stop + 1) * microsecondsPerDay - 1)
  have firstNear := resolve_near rules.resolvesFirst rules.lessThanADay (first * microsecondsPerDay)
  have lastNear := resolve_near rules.resolvesFirst rules.lessThanADay
    ((last + 1) * microsecondsPerDay - 1)
  have near : ∀ other, start + 2 ≤ zone.localDate other → zone.localDate other ≤ stop - 2 →
      (dayWindow zone start stop).includes other = true := by
    intro other later earlier
    have shown := shows_near rules.lessThanADay other
    rw [le_localDate_iff] at later
    rw [localDate_le_iff] at earlier
    rw [dayWindow_includes]
    simp only [microsecondsPerDay] at *
    omega
  refine ⟨dayWindow zone start stop, ⟨start, stop, ?_, ?_, resolvedFrom_iff.mpr ⟨?_, rfl⟩⟩,
    ?_, ?_, ?_⟩
  · omega
  · omega
  · omega
  · intro other inRange
    rw [dayWindow_includes] at inRange ⊢
    simp only [microsecondsPerDay] at *
    omega
  · rintro other rfl
    exact near other (by omega) (by omega)
  · exact near instant (by omega) (by omega)

end Ranges

/-! ## From equal rows to complete windows -/

section Same

variable {query : ReportQuery} {db : ReportDb} {range other wider : ReportDateRange} {day : ℤ}

/-- Rows are the same when the five amounts of the day are. -/
theorem rowOver_eq
    (sales : (query.during range).salesByDate db day = (query.during other).salesByDate db day)
    (orders : (query.during range).ordersByDate db day = (query.during other).ordersByDate db day)
    (refunds : (query.during range).refundsByDate db day =
      (query.during other).refundsByDate db day)
    (gross : (query.during range).cogsGrossByDate db day =
      (query.during other).cogsGrossByDate db day)
    (reversed : (query.during range).cogsReversedByDate db day =
      (query.during other).cogsReversedByDate db day) :
    rowOver query db range day = rowOver query db other day := by
  simp only [rowOver, dailySalesRefunds, dailyReportRow, sales, orders, refunds, gross, reversed]

/-- A window in a wider one that counts as many sales has all sales of the day that the wider one
has. -/
private theorem includes_of_sameOrders (within : ∀ instant, range.includes instant = true →
      wider.includes instant = true)
    (same : (query.during range).ordersByDate db day = (query.during wider).ordersByDate db day)
    {sale : ReportSale} {instant : ℤ} (finalized : FinalizedAt query db sale instant)
    (onDay : query.zone.localDate instant = day) (inWider : wider.includes instant = true) :
    range.includes instant = true := by
  have sublist : ((query.during range).paidSales db).filter
      (fun sale => query.onDay day sale.checkedOutAt) |>.Sublist
      (((query.during wider).paidSales db).filter fun sale =>
      query.onDay day sale.checkedOutAt) := by
    rw [daySales_during, daySales_during]
    refine List.monotone_filter_right _ fun other both => ?_
    obtain ⟨counted, inRange⟩ := Bool.and_eq_true _ _ |>.mp both
    obtain ⟨at_, checkedOut, included⟩ := (Option.any_eq_true ..).mp inRange
    exact Bool.and_eq_true _ _ |>.mpr
      ⟨counted, (Option.any_eq_true ..).mpr ⟨at_, checkedOut, within at_ included⟩⟩
  rw [ReportQuery.ordersByDate, ReportQuery.ordersByDate, List.countP_eq_length_filter,
    List.countP_eq_length_filter] at same
  have counted : sale ∈ ((query.during wider).paidSales db).filter fun sale =>
      query.onDay day sale.checkedOutAt := by
    refine List.mem_filter.mpr ⟨mem_paidSales_during.mpr ⟨instant, finalized, inWider⟩, ?_⟩
    rw [finalized.checkedOut, ReportQuery.onDay, Option.any_some, decide_eq_true_eq]
    exact onDay
  rw [← sublist.eq_of_length same] at counted
  obtain ⟨at_, again, included⟩ := mem_paidSales_during.mp (List.mem_filter.mp counted).1
  cases finalized.checkedOut.symm.trans again.checkedOut
  exact included

/-- The refunds of the day are those in a window and those the window leaves out. -/
theorem refunds_split (query : ReportQuery) (db : ReportDb) (range : ReportDateRange) (day : ℤ) :
    sumWhere (fun event => query.isStoreRefund db event && query.onDay day (some event.createdAt))
        (·.refundTotal) db.returnEvents =
      (query.during range).refundsByDate db day +
        sumWhere (fun event =>
          (query.isStoreRefund db event && query.onDay day (some event.createdAt)) &&
        !range.includes event.createdAt) (·.refundTotal) db.returnEvents := by
  rw [refundsByDate_during]
  refine sumWhere_split (fun event _ => ?_) fun event _ => ?_
  · cases range.includes event.createdAt <;> simp
  · cases range.includes event.createdAt <;> simp

/-- A window that has the day leaves out no refunds of it. -/
theorem refunds_outside_eq_zero (covers : ∀ instant, query.zone.localDate instant = day →
      range.includes instant = true) :
    sumWhere (fun event =>
      (query.isStoreRefund db event && query.onDay day (some event.createdAt)) &&
      !range.includes event.createdAt) (·.refundTotal) db.returnEvents = 0 := by
  refine sumWhere_eq_zero fun event _ left => absurd left ?_
  simp only [ReportQuery.onDay, Option.any_some, Bool.and_eq_true, decide_eq_true_eq,
    Bool.not_eq_true', not_and, Bool.not_eq_false]
  exact fun both => covers _ both.2

theorem isSold_iff {item : ReturnedItem} : (query.during range).isSold db item = true ↔
    ∃ sale instant, FinalizedAt query db sale instant ∧ query.namesLineOf db sale item = true ∧
      range.includes instant = true := by
  rw [ReportQuery.isSold, List.any_eq_true]
  constructor
  · rintro ⟨sale, paid, names⟩
    obtain ⟨instant, finalized, included⟩ := mem_paidSales_during.mp paid
    exact ⟨sale, instant, finalized, names, included⟩
  · rintro ⟨sale, instant, finalized, names, included⟩
    exact ⟨sale, mem_paidSales_during.mpr ⟨instant, finalized, included⟩, names⟩

/-- A line is of one sale. -/
theorem eq_of_namesLineOf (keys : ReportKeys db) {sale another : ReportSale} {item : ReturnedItem}
    (member : sale ∈ db.sales) (alsoMember : another ∈ db.sales)
    (names : query.namesLineOf db sale item = true)
    (alsoNames : query.namesLineOf db another item = true) : sale = another := by
  obtain ⟨line, returned, ofSale⟩ := (Option.any_eq_true ..).mp names
  obtain ⟨line', again, ofAnother⟩ := (Option.any_eq_true ..).mp alsoNames
  cases returned.symm.trans again
  simp only [ReportQuery.isCostedLine, Bool.and_eq_true, decide_eq_true_eq] at ofSale ofAnother
  exact KeyedRows.eq_of_key_eq keys.sales member alsoMember (ofSale.2.symm.trans ofAnother.2)

/-- A wider window takes off at least as much. -/
theorem takenOff_le (within : ∀ instant, range.includes instant = true →
      wider.includes instant = true)
    (event : ReportReturnEvent) (item : ReturnedItem) :
    takenOff query db range event item ≤ takenOff query db wider event item := by
  rw [takenOff]
  split
  · next counted =>
    obtain ⟨included, sold⟩ := Bool.and_eq_true _ _ |>.mp counted
    obtain ⟨sale, instant, finalized, names, inRange⟩ := isSold_iff.mp sold
    have soldInWider : (query.during wider).isSold db item = true :=
      isSold_iff.mpr ⟨sale, instant, finalized, names, within _ inRange⟩
    rw [takenOff, within _ included, soldInWider]
    rfl
  · rw [takenOff]
    split
    · exact takesBack_nonneg
    · exact le_rfl

/-- A window in a wider one that takes off as much on the day takes off the same for every entry. -/
theorem takenOff_eq_of_same (keys : ReportKeys db)
    (within : ∀ instant, range.includes instant = true → wider.includes instant = true)
    (same : (query.during range).cogsReversedByDate db day =
      (query.during wider).cogsReversedByDate db day)
    {event : ReportReturnEvent} (member : event ∈ db.returnEvents)
    (isReturn : query.isStoreReturn event = true)
    (onDay : query.zone.localDate event.createdAt = day) {item : ReturnedItem}
    (listed : item ∈ event.returnedLines) :
    takenOff query db range event item = takenOff query db wider event item := by
  rw [cogsReversedByDate_during keys, cogsReversedByDate_during keys] at same
  have selected : event ∈ db.returnEvents.filter fun event =>
      query.isStoreReturn event && query.onDay day (some event.createdAt) := by
    refine List.mem_filter.mpr ⟨member, ?_⟩
    rw [isReturn, ReportQuery.onDay, Option.any_some, onDay]
    simp
  have sums :=
    eq_of_sum_eq (fun event _ => List.sum_le_sum fun item _ => takenOff_le within event item) same
      event selected
  exact eq_of_sum_eq (fun item _ => takenOff_le within event item) sums item listed

/-- Where the row is the same for every range, no range leaves out what it counts. -/
theorem inEveryRange_of_sameRow (rules : ZoneInfoRules query.zone) (keys : ReportKeys db)
    (same : SameRow query db day) :
    InEveryRange query db day where
  sales := by
    intro sale instant finalized onDay range around
    obtain ⟨wider, aroundToo, within, covers, _⟩ := exists_wider rules around instant
    have orders := congrFun (congrArg ReportRow.figure (same range wider around aroundToo))
      .ordersPaidCount
    exact includes_of_sameOrders within (Nat.cast_injective (R := ℚ) orders) finalized onDay
      (covers instant onDay)
  refunds := by
    intro range around
    obtain ⟨wider, aroundToo, _, covers, _⟩ := exists_wider rules around 0
    have refunds : (query.during range).refundsByDate db day =
        (query.during wider).refundsByDate db day :=
      congrFun (congrArg ReportRow.figure (same range wider around aroundToo)) .refundsTotal
    have parts := refunds_split query db range day
    rw [refunds_split query db wider, refunds_outside_eq_zero covers, refunds, add_zero] at parts
    exact (add_eq_left.mp parts.symm)
  costs := by
    intro event member isReturn onDay item listed positive sale instant finalized names range around
    obtain ⟨wider, aroundToo, within, covers, inWider⟩ := exists_wider rules around instant
    have reversed : (query.during range).cogsReversedByDate db day =
        (query.during wider).cogsReversedByDate db day :=
      congrFun (congrArg ReportRow.figure (same range wider around aroundToo))
        .cogsReversedFromReturns
    have sold : (query.during wider).isSold db item = true :=
      isSold_iff.mpr ⟨sale, instant, finalized, names, inWider⟩
    have taken := takenOff_eq_of_same keys within reversed member isReturn onDay listed
    rw [takenOff, takenOff, covers _ onDay, sold, Bool.and_self, if_pos rfl] at taken
    by_cases counted : (range.includes event.createdAt && (query.during range).isSold db item) =
      true
    · obtain ⟨included, soldHere⟩ := Bool.and_eq_true _ _ |>.mp counted
      obtain ⟨another, at_, alsoFinalized, alsoNames, inRange⟩ := isSold_iff.mp soldHere
      cases eq_of_namesLineOf keys finalized.member alsoFinalized.member names alsoNames
      cases finalized.checkedOut.symm.trans alsoFinalized.checkedOut
      exact ⟨included, inRange⟩
    · rw [if_neg counted] at taken
      exact absurd taken positive.ne

/-- Where no range leaves out what the row counts, the row is the same for every range. -/
theorem sameRow_of_inEveryRange (keys : ReportKeys db) (complete : InEveryRange query db day) :
    SameRow query db day := by
  intro range other around aroundToo
  have daySales : ((query.during range).paidSales db).filter
      (fun sale => query.onDay day sale.checkedOutAt) =
      ((query.during other).paidSales db).filter fun sale => query.onDay day sale.checkedOutAt := by
    rw [daySales_during, daySales_during]
    refine List.filter_congr fun sale member => ?_
    by_cases counted : (query.isStoreSale db sale && query.onDay day sale.checkedOutAt) = true
    · obtain ⟨isStoreSale, onDay⟩ := Bool.and_eq_true _ _ |>.mp counted
      obtain ⟨instant, checkedOut, onDay⟩ := (Option.any_eq_true ..).mp onDay
      have finalized := finalizedAt_iff.mpr ⟨member, isStoreSale, checkedOut⟩
      have covered := complete.sales sale instant finalized (of_decide_eq_true onDay)
      rw [checkedOut, Option.any_some, Option.any_some, covered range around,
        covered other aroundToo]
    · simp only [counted, Bool.false_and]
  refine rowOver_eq (congrArg (fun sales => (sales.map (ReportQuery.saleTotal db)).sum) daySales) ?_
    ?_ (congrArg (fun sales => (sales.map (query.cogsOfSale db)).sum) daySales) ?_
  · rw [ReportQuery.ordersByDate, ReportQuery.ordersByDate, List.countP_eq_length_filter,
      List.countP_eq_length_filter]
    exact congrArg List.length daySales
  · have parts := refunds_split query db range day
    rw [refunds_split query db other, complete.refunds range around,
      complete.refunds other aroundToo, add_zero, add_zero] at parts
    exact parts.symm
  · rw [cogsReversedByDate_during keys, cogsReversedByDate_during keys]
    refine sumWhere_congr (fun _ _ => rfl) fun event member selected => ?_
    obtain ⟨isReturn, onDay⟩ := Bool.and_eq_true _ _ |>.mp selected
    refine congrArg List.sum (List.map_congr_left fun item listed => ?_)
    rcases takesBack_nonneg.eq_or_lt with nothing | positive
    · rw [takenOff, takenOff, ← nothing, ite_self, ite_self]
    · have covered := complete.costs event member isReturn
        (of_decide_eq_true onDay) item listed positive
      have sold : (query.during range).isSold db item = (query.during other).isSold db item := by
        rw [Bool.eq_iff_iff, isSold_iff, isSold_iff]
        constructor
        · rintro ⟨sale, instant, finalized, names, _⟩
          exact ⟨sale, instant, finalized, names,
            (covered sale instant finalized names other aroundToo).2⟩
        · rintro ⟨sale, instant, finalized, names, _⟩
          exact ⟨sale, instant, finalized, names,
            (covered sale instant finalized names range around).2⟩
      by_cases counted : (query.during other).isSold db item = true
      · obtain ⟨sale, instant, finalized, names, _⟩ := isSold_iff.mp counted
        rw [takenOff, takenOff, sold, (covered sale instant finalized names range around).1,
          (covered sale instant finalized names other aroundToo).1]
      · simp only [takenOff, sold, counted, Bool.and_false, Bool.false_eq_true, if_false]

end Same

/-! ## Totals of adjacent ranges -/

section Totals

variable {query : ReportQuery} {db : ReportDb} {zone : TimeZone} {first middle last day : ℤ}
    {range : ReportDateRange}
  {figure : Figure}

private theorem iterDates_append (begins : first ≤ middle) (continues : middle < last) :
    iterDates first last = iterDates first middle ++ iterDates (middle + 1) last := by
  have lengths : (last - first + 1).toNat = (middle - first + 1).toNat +
    (last - (middle + 1) + 1).toNat := by omega
  rw [iterDates, lengths, List.range_add, List.map_append, List.map_map]
  refine congrArg (iterDates first middle ++ ·) (List.map_congr_left fun day _ => ?_)
  simp only [Function.comp_apply, Nat.cast_add]
  omega

/-- The totals of a range add up a figure of the rows of its days. -/
theorem totalsOver_eq (listed : figure ∈ salesFigures)
    (resolved : ResolvedFrom query.zone first last range) :
    totalsOver query db range figure = ((iterDates first last).map fun day =>
      (rowOver query db range day).figure figure).sum := by
  have dates : range.startDate = first ∧ range.endDate = last := by
    rw [(resolvedFrom_iff.mp resolved).2]
    exact dayWindow_dates
  have added : totalsOver query db range figure =
      sumOf (buildDailyReportRows (dailySalesRefunds db (query.during range)) range) figure := by
    simp only [salesFigures, List.mem_cons, List.not_mem_nil, or_false] at listed
    rcases listed with rfl | rfl | rfl | rfl | rfl | rfl | rfl | rfl <;> rfl
  rw [added, sumOf, buildDailyReportRows, List.map_map, dates.1, dates.2]
  rfl

/-- Rows that are the same for every range add up over adjacent ranges. -/
theorem totals_add (same : ∀ day, first ≤ day → day ≤ last → SameRow query db day)
    {whole early late : ReportDateRange} (begins : first ≤ middle) (continues : middle < last)
    (isWhole : ResolvedFrom query.zone first last whole)
    (isEarly : ResolvedFrom query.zone first middle early)
    (isLate : ResolvedFrom query.zone (middle + 1) last late) (listed : figure ∈ salesFigures) :
    totalsOver query db whole figure = totalsOver query db early figure +
    totalsOver query db late figure := by
  rw [totalsOver_eq listed isWhole, totalsOver_eq listed isEarly, totalsOver_eq listed isLate,
    iterDates_append begins continues, List.map_append, List.sum_append]
  congr 1
  · refine congrArg List.sum (List.map_congr_left fun day member => ?_)
    obtain ⟨after, before⟩ := mem_iterDates.mp member
    rw [same day after (by omega) whole early ⟨first, last, after, by omega, isWhole⟩
      ⟨first, middle, after, before, isEarly⟩]
  · refine congrArg List.sum (List.map_congr_left fun day member => ?_)
    obtain ⟨after, before⟩ := mem_iterDates.mp member
    rw [same day (by omega) before whole late ⟨first, last, by omega, before, isWhole⟩
      ⟨middle + 1, last, after, before, isLate⟩]

/-- Where every midnight comes once, ranges around a day have all of the day, and the range of the
day nothing else. -/
theorem inEveryRange_iff_costsOfTheDay (rules : ZoneInfoRules query.zone)
    (once : ∀ day, TurnsOnce query.zone.utcOffset (day * microsecondsPerDay)) :
    InEveryRange query db day ↔ CostsOfTheDay query db day := by
  have covers : ∀ range, Around query.zone day range → ∀ instant,
      query.zone.localDate instant = day → range.includes instant = true := by
    rintro range ⟨first, last, after, before, resolved⟩ instant rfl
    rw [(resolvedFrom_iff.mp resolved).2, includes_iff_of_midnights rules (once _) (once _)]
    exact ⟨after, before⟩
  constructor
  · intro complete event member isReturn onDay item listed positive sale instant finalized names
    have alone : Around query.zone day (dayWindow query.zone day day) :=
      ⟨day, day, le_rfl, le_rfl, resolvedFrom_iff.mpr ⟨le_rfl, rfl⟩⟩
    have inDay :=
      (complete.costs event member isReturn onDay item listed positive sale instant finalized names
        _ alone).2
    rw [includes_iff_of_midnights rules (once _) (once _)] at inDay
    omega
  · intro own
    refine ⟨fun sale instant _ onDay range around => covers range around instant onDay,
      fun range around => refunds_outside_eq_zero (covers range around), ?_⟩
    intro event member isReturn onDay item listed positive sale instant finalized names range around
    exact ⟨covers range around _ onDay, covers range around _
      (own event member isReturn onDay item listed positive sale instant finalized names)⟩

end Totals

/-- The rows of a report do not depend on its range, and adjacent ranges add up, exactly when no
range around a day leaves out what the row of the day counts. Each row by itself is the same for
every range exactly then, and where the clock turns to every midnight once it is when its returns
bring back costs of sales of the same day only. -/
theorem daily_rows_independent_iff (query : ReportQuery) {db : ReportDb}
    (rules : ZoneInfoRules query.zone) (keys : ReportKeys db) :
    (WindowIndependent query db ↔ ∀ day, InEveryRange query db day) ∧
      (∀ day, SameRow query db day ↔ InEveryRange query db day) ∧
      ((∀ day, TurnsOnce query.zone.utcOffset (day * microsecondsPerDay)) →
        ∀ day, InEveryRange query db day ↔ CostsOfTheDay query db day) := by
  have rows : ∀ day, SameRow query db day ↔ InEveryRange query db day := fun day =>
    ⟨inEveryRange_of_sameRow rules keys, sameRow_of_inEveryRange keys⟩
  refine ⟨⟨fun independent day => (rows day).mp (independent.rows day), fun complete => ?_⟩, rows,
      fun once day =>
    inEveryRange_iff_costsOfTheDay rules once⟩
  have same : ∀ day, SameRow query db day := fun day => (rows day).mpr (complete day)
  refine ⟨same, ?_⟩
  intro first middle last whole early late begins continues isWhole isEarly isLate figure listed
  exact totals_add (fun day _ _ => same day) begins continues isWhole isEarly isLate listed

namespace Sample

private theorem london_rules : ZoneInfoRules london := changingZone_rules (by decide)

private theorem london_midnights (day : ℤ) :
    TurnsOnce london.utcOffset (day * microsecondsPerDay) := by
  refine changing_turnsOnce ?_
  simp only [microsecondsPerDay, microsecondsPerHour]
  omega

/-- The report of a store in London, over some range. -/
def londonQuery : ReportQuery := ⟨1, 1, dayWindow london 1 2, london, none, none⟩

/-- A jacket that cost 60 is sold for 100 at noon of the first day and brought back at noon of the
given day. -/
def broughtBack (day : ℤ) : ReportDb where
  sales := [
    { id := 1, tenantId := 1, storeId := 1, status := "PAID", totalDue := 100,
      checkedOutAt := some (microsecondsPerDay + 12 * microsecondsPerHour) }]
  saleLines :=
    [{ id := 1, saleId := 1, tenantId := 1, qty := 1, lineTotal := 100,
       costPriceSnapshot := some 60 }]
  returnEvents := [
    { tenantId := 1, storeId := 1, saleId := 1, action := "REFUND_ITEMS", refundTotal := 100,
      createdAt := day * microsecondsPerDay + 12 * microsecondsPerHour, returnedLines :=
      [{ lineId := some 1, qty := 1 }] }]

private theorem broughtBack_keys (day : ℤ) : ReportKeys (broughtBack day) :=
  ⟨List.nodup_singleton _, List.nodup_singleton _⟩

end Sample

open Reports.Sample in
/-- A jacket brought back on the day of its sale leaves the rows of all ranges alike. -/
theorem daily_rows_independent_iff_same_day : WindowIndependent londonQuery (broughtBack 1) := by
  obtain ⟨independent, _, whenOnce⟩ := daily_rows_independent_iff londonQuery london_rules
    (broughtBack_keys 1)
  refine independent.mpr fun day => (whenOnce london_midnights day).mpr ?_
  intro event member _ onDay item _ _ sale instant finalized _
  cases List.mem_singleton.mp member
  cases List.mem_singleton.mp finalized.member
  cases finalized.checkedOut
  exact onDay

open Reports.Sample in
/-- Brought back on the next day, its cost is taken off the row of that day in the report of both
days, but not in the report of the day alone; and the totals of the two days do not add up to that
of both. -/
theorem reversed_cost_lost :
    (rowOver londonQuery (broughtBack 2) (dayWindow london 1 2) 2).figure .cogsReversedFromReturns =
    60 ∧
      (rowOver londonQuery (broughtBack 2) (dayWindow london 2 2) 2).figure
      .cogsReversedFromReturns = 0 ∧
      totalsOver londonQuery (broughtBack 2) (dayWindow london 1 2) .netProfit = 0 ∧
      totalsOver londonQuery (broughtBack 2) (dayWindow london 1 1) .netProfit +
        totalsOver londonQuery (broughtBack 2) (dayWindow london 2 2) .netProfit = -60 ∧
      ¬ WindowIndependent londonQuery (broughtBack 2) := by
  have both : (rowOver londonQuery (broughtBack 2) (dayWindow london 1 2) 2).figure
      .cogsReversedFromReturns = 60 := by
    decide +kernel
  have alone : (rowOver londonQuery (broughtBack 2) (dayWindow london 2 2) 2).figure
      .cogsReversedFromReturns = 0 := by
    decide +kernel
  refine ⟨both, alone, by decide +kernel, by decide +kernel, fun independent => ?_⟩
  have same := independent.rows 2 (dayWindow london 1 2) (dayWindow london 2 2)
    ⟨1, 2, by decide, le_rfl, resolvedFrom_iff.mpr ⟨by decide, rfl⟩⟩
    ⟨2, 2, le_rfl, le_rfl, resolvedFrom_iff.mpr ⟨le_rfl, rfl⟩⟩
  rw [same, alone] at both
  exact absurd both (by decide)

end ArisCloud.Reports

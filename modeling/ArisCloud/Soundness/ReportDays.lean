import ArisCloud.Library.LocalClocks
import ArisCloud.Model.Reports

/-! # The windows of report days

Two dates are resolved to the instants of their first midnight and of the last microsecond before
the midnight after them, while the rows of a report bucket every instant by its local date. The two
agree for the dates of a time zone exactly when its clock turns to every midnight once. A clock that
is put back from midnight shows an hour of the day again after the window of the day has ended.
-/

namespace ArisCloud.Reports

open LocalClock

/-! ## The zones and the dates -/

/-- What `ZoneInfo` keeps: offsets of less than a day, and local times without `fold` resolved to
their first occurrence or with the offset before a gap. -/
structure ZoneInfoRules (zone : TimeZone) : Prop where
  lessThanADay : ∀ instant, |zone.utcOffset instant| < microsecondsPerDay
  resolvesFirst : ResolvesFirst zone.utcOffset fun wall => zone.toUtc ⟨wall, false⟩

/-- The text is a date without a time. -/
def IsDateText (environment : Environment) (value : String) (day : ℤ) : Prop :=
  value ≠ "" ∧ ((replaceZulu value).contains 'T' || (replaceZulu value).contains ':') = false ∧
    environment.date (replaceZulu value) = some day

/-- The window of a range of dates. -/
def dayWindow (zone : TimeZone) (first last : ℤ) : ReportDateRange :=
  ⟨⟨first * microsecondsPerDay, false⟩, ⟨last * microsecondsPerDay + microsecondsPerDay - 1, false⟩,
    zone.toUtc ⟨first * microsecondsPerDay, false⟩,
    zone.toUtc ⟨last * microsecondsPerDay + microsecondsPerDay - 1, false⟩⟩

/-! ## What the claimed days are -/

/-- The sale is finalized in the store of the report, is not filtered out, and was checked out at
the instant. -/
structure FinalizedAt (query : ReportQuery) (db : ReportDb) (sale : ReportSale) (instant : ℤ) :
    Prop where
  member : sale ∈ db.sales
  scope : sale.tenantId = query.tenantId ∧ sale.storeId = query.storeId
  status : finalizedSaleStatuses.contains sale.status.toUpper = true
  filters : (query.ofCashier sale && query.paidBy db sale.id) = true
  checkedOut : sale.checkedOutAt = some instant

/-- The row of the day counts the sale. -/
def CountedOn (query : ReportQuery) (db : ReportDb) (sale : ReportSale) (day : ℤ) : Prop :=
  day ∈ iterDates query.range.startDate query.range.endDate ∧ sale ∈ query.paidSales db ∧
    query.onDay day sale.checkedOutAt = true

/-- The range has the instants of the dates, and its rows count every finalized sale on its local
date. -/
structure ExactDays (zone : TimeZone) (first last : ℤ) (range : ReportDateRange) : Prop where
  dates : range.startDate = first ∧ range.endDate = last
  instants : ∀ instant, range.includes instant = true ↔ first ≤ zone.localDate instant ∧
    zone.localDate instant ≤ last
  counted : ∀ query db sale instant, query.range = range → query.zone = zone →
    FinalizedAt query db sale instant → ∀ day, CountedOn query db sale day ↔
    day = zone.localDate instant ∧ first ≤ day ∧ day ≤ last

/-- All date-only bounds in the zone resolve to exact days, and adjacent ranges share and miss no
instant. -/
structure ReportDaysExact (zone : TimeZone) : Prop where
  windows : ∀ environment now fromValue toValue first last, IsDateText environment fromValue first →
    IsDateText environment toValue last → first ≤ last →
    ∃ range, resolveDateRange environment zone now (some fromValue) (some toValue) = .ok range ∧
      ExactDays zone first last range
  adjacent : ∀ environment now fromValue untilValue nextValue toValue first middle last range next,
    IsDateText environment fromValue first → IsDateText environment untilValue middle →
    IsDateText environment nextValue (middle + 1) → IsDateText environment toValue last →
    first ≤ middle → middle < last → resolveDateRange environment zone now (some fromValue)
    (some untilValue) = .ok range → resolveDateRange environment zone now (some nextValue)
    (some toValue) = .ok next → ∀ instant, first ≤ zone.localDate instant →
    zone.localDate instant ≤ last →
      (range.includes instant = true ↔ ¬ next.includes instant = true)

/-- A date is resolved to where what the clock shows from its midnight on begins. -/
def BeginsAt (zone : TimeZone) (first : ℤ) : Prop :=
  ∀ instant, zone.toUtc ⟨first * microsecondsPerDay, false⟩ ≤ instant ↔
    first ≤ zone.localDate instant

/-- Its last moment is resolved to where what the clock shows up to it ends. -/
def EndsAt (zone : TimeZone) (last : ℤ) : Prop :=
  ∀ instant, instant ≤ zone.toUtc ⟨(last + 1) * microsecondsPerDay - 1, false⟩ ↔
    zone.localDate instant ≤ last

/-! ## Resolving dates -/

section

variable {environment : Environment} {zone : TimeZone} {now first last day instant : ℤ}
    {value fromValue toValue : String}
  {default : LocalTime}

private theorem parse_date (isDate : IsDateText environment value day) :
    parseDatetimeOrDate environment zone default (some value) = .ok
    (⟨day * microsecondsPerDay, false⟩, true) := by
  obtain ⟨nonempty, noTime, read⟩ := isDate
  simp only [parseDatetimeOrDate, if_neg nonempty, noTime, Bool.false_eq_true, if_false, read]

private theorem midnight_date :
    (LocalTime.mk (day * microsecondsPerDay) false).midnight =
    ⟨day * microsecondsPerDay, false⟩ := by
  rw [LocalTime.midnight, LocalTime.date, Int.mul_ediv_cancel _ (by decide)]

/-- Dates in order resolve to their window. -/
theorem resolve_dates (isFrom : IsDateText environment fromValue first)
    (isTo : IsDateText environment toValue last) (ordered : first ≤ last) :
    resolveDateRange environment zone now (some fromValue) (some toValue) = .ok
    (dayWindow zone first last) := by
  simp only [resolveDateRange, parse_date isFrom, parse_date isTo]
  refine dateRange_eq_ok.mpr ⟨?_, ?_⟩
  · simp only [if_true, midnight_date]
    rw [microsecondsPerDay]
    omega
  · simp only [if_true, midnight_date]
    rfl

theorem dayWindow_dates : (dayWindow zone first last).startDate = first ∧
    (dayWindow zone first last).endDate = last := by
  constructor
  · exact Int.mul_ediv_cancel _ (by decide)
  · simp only [dayWindow, ReportDateRange.endDate, LocalTime.date, microsecondsPerDay]
    omega

theorem le_localDate_iff :
    first ≤ zone.localDate instant ↔ first * microsecondsPerDay ≤ shows zone.utcOffset instant :=
  Int.le_ediv_iff_mul_le (by decide)

theorem localDate_le_iff :
    zone.localDate instant ≤ last ↔ shows zone.utcOffset instant <
    (last + 1) * microsecondsPerDay := by
  rw [← Int.lt_add_one_iff]
  exact Int.ediv_lt_iff_lt_mul (by decide)

theorem dayWindow_includes : (dayWindow zone first last).includes instant = true ↔
    zone.toUtc ⟨first * microsecondsPerDay, false⟩ ≤ instant ∧
      instant ≤ zone.toUtc ⟨(last + 1) * microsecondsPerDay - 1, false⟩ := by
  have lastMoment : last * microsecondsPerDay + microsecondsPerDay - 1 =
      (last + 1) * microsecondsPerDay - 1 := by
    rw [add_mul, one_mul]
  simp only [ReportDateRange.includes, dayWindow, Bool.and_eq_true, decide_eq_true_eq, lastMoment]

/-! ## From the midnights to the instants -/

/-- The date of a midnight that comes once begins there. -/
theorem beginsAt_of_turnsOnce (rules : ZoneInfoRules zone)
    (start : TurnsOnce zone.utcOffset (first * microsecondsPerDay)) : BeginsAt zone first := by
  intro instant
  rw [le_localDate_iff]
  exact resolve_le_iff rules.resolvesFirst start instant

/-- And the date before it ends there. -/
theorem endsAt_of_turnsOnce (rules : ZoneInfoRules zone)
    (stop : TurnsOnce zone.utcOffset ((last + 1) * microsecondsPerDay)) : EndsAt zone last := by
  intro instant
  rw [localDate_le_iff]
  exact le_resolve_iff rules.resolvesFirst stop instant

private theorem includes_iff_of_bounds (begins : BeginsAt zone first) (ends : EndsAt zone last) :
    (dayWindow zone first last).includes instant = true ↔
      first ≤ zone.localDate instant ∧ zone.localDate instant ≤ last := by
  rw [dayWindow_includes]
  exact and_congr (begins instant) (ends instant)

/-- Between two midnights that come once the window has the instants of the dates. -/
theorem includes_iff_of_midnights (rules : ZoneInfoRules zone)
    (start : TurnsOnce zone.utcOffset (first * microsecondsPerDay))
    (stop : TurnsOnce zone.utcOffset ((last + 1) * microsecondsPerDay)) :
    (dayWindow zone first last).includes instant = true ↔
      first ≤ zone.localDate instant ∧ zone.localDate instant ≤ last :=
  includes_iff_of_bounds (beginsAt_of_turnsOnce rules start) (endsAt_of_turnsOnce rules stop)

/-- A window of two days or more that is exact is exact at both of its ends: an instant before it is
before the last day, and one after it is after the first. -/
theorem bounds_of_includes_iff (rules : ZoneInfoRules zone) (several : first < last)
    (exact_ : ∀ instant, (dayWindow zone first last).includes instant = true ↔
      first ≤ zone.localDate instant ∧ zone.localDate instant ≤ last) : BeginsAt zone first ∧
      EndsAt zone last := by
  have start := resolve_near rules.resolvesFirst rules.lessThanADay (first * microsecondsPerDay)
  have stop := resolve_near rules.resolvesFirst rules.lessThanADay
    ((last + 1) * microsecondsPerDay - 1)
  simp only [dayWindow_includes, le_localDate_iff, localDate_le_iff] at exact_
  simp only [BeginsAt, EndsAt, le_localDate_iff, localDate_le_iff]
  have apart : first * microsecondsPerDay + 2 * microsecondsPerDay ≤
      (last + 1) * microsecondsPerDay := by
    rw [microsecondsPerDay]
    omega
  generalize first * microsecondsPerDay = midnight at *
  generalize (last + 1) * microsecondsPerDay = midnightAfter at *
  constructor
  · intro instant
    have shown := shows_near rules.lessThanADay instant
    constructor
    · intro started
      by_cases ended : instant ≤ zone.toUtc ⟨midnightAfter - 1, false⟩
      · exact ((exact_ instant).mp ⟨started, ended⟩).1
      · omega
    · intro begun
      by_contra early
      have := (exact_ instant).mpr ⟨begun, by omega⟩
      omega
  · intro instant
    have shown := shows_near rules.lessThanADay instant
    constructor
    · intro before
      by_cases started : zone.toUtc ⟨midnight, false⟩ ≤ instant
      · exact ((exact_ instant).mp ⟨started, before⟩).2
      · omega
    · intro early
      by_contra after
      have := (exact_ instant).mpr ⟨by omega, early⟩
      omega

/-- The clock turns once to the midnight that ends a date. -/
theorem turnsOnce_of_endsAt (rules : ZoneInfoRules zone) (ends : EndsAt zone last) :
    TurnsOnce zone.utcOffset ((last + 1) * microsecondsPerDay) := by
  refine turnsOnce_of_ends rules.resolvesFirst rules.lessThanADay fun instant => ?_
  rw [← localDate_le_iff]
  exact ends instant

end

/-! ## What exact instants give the rows -/

section

variable {zone : TimeZone} {first last : ℤ} {range : ReportDateRange} {query : ReportQuery}
    {db : ReportDb}
  {sale : ReportSale} {instant day : ℤ}

/-- The report reads a finalized sale when its window has the checkout. -/
theorem FinalizedAt.mem_paidSales (finalized : FinalizedAt query db sale instant) :
    sale ∈ query.paidSales db ↔ query.range.includes instant = true := by
  obtain ⟨member, ⟨sameTenant, sameStore⟩, status, filters, checkedOut⟩ := finalized
  obtain ⟨ofCashier, paidBy⟩ := Bool.and_eq_true _ _ |>.mp filters
  simp only [ReportQuery.paidSales, List.mem_filter, member, ReportQuery.isFinalizedSale,
    sameTenant, sameStore, status, ofCashier, paidBy, checkedOut, ReportQuery.inWindow,
    Option.any_some, decide_true, Bool.and_true, Bool.true_and,
    true_and]

/-- With the instants of its dates a range counts every finalized sale on its local date. -/
theorem ExactDays.of_instants (dates : range.startDate = first ∧ range.endDate = last)
    (instants : ∀ instant, range.includes instant = true ↔
      first ≤ zone.localDate instant ∧ zone.localDate instant ≤ last) :
      ExactDays zone first last range := by
  refine ⟨dates, instants, fun query db sale instant sameRange sameZone finalized day => ?_⟩
  rw [CountedOn, finalized.mem_paidSales, finalized.checkedOut, ReportQuery.onDay, Option.any_some,
    sameRange, sameZone, decide_eq_true_eq, mem_iterDates, dates.1, dates.2, instants instant]
  constructor
  · rintro ⟨inDates, _, rfl⟩
    exact ⟨rfl, inDates⟩
  · rintro ⟨rfl, inDates⟩
    exact ⟨inDates, inDates, rfl⟩

end

variable {zone : TimeZone}

/-- Days that begin and end where they are resolved to are exact. -/
theorem exactDays_of_bounds {first last : ℤ} (begins : BeginsAt zone first)
    (ends : EndsAt zone last) :
    ExactDays zone first last (dayWindow zone first last) :=
  .of_instants dayWindow_dates fun _ => includes_iff_of_bounds begins ends

/-- A standard library that reads the given texts as dates. -/
def readingDates (texts : List (String × ℤ)) : Environment where
  date text := texts.lookup text
  datetime _ := none
  zoneInfo _ := none

/-- A text without the letters of a time is a date where it is read as one. -/
theorem IsDateText.of_plain {environment : Environment} {value : String} {day : ℤ}
    (nonempty : value ≠ "")
    (plain : ((replaceZulu value).toList.all fun letter => letter ≠ 'T' && letter ≠ ':') = true)
    (read : environment.date (replaceZulu value) = some day) :
    IsDateText environment value day := by
  refine ⟨nonempty, ?_, read⟩
  simp only [List.all_eq_true, Bool.and_eq_true, decide_eq_true_eq] at plain
  simp only [String.contains_char_eq, Bool.or_eq_false_iff, decide_eq_false_iff_not]
  exact ⟨fun member => (plain _ member).1 rfl, fun member => (plain _ member).2 rfl⟩

/-- Every two dates have texts somewhere. -/
theorem exists_texts (first last : ℤ) : ∃ environment fromValue toValue,
    IsDateText environment fromValue first ∧ IsDateText environment toValue last := by
  have firstText : replaceZulu "2024-01-01" = "2024-01-01" := by decide +kernel
  have lastText : replaceZulu "2024-01-02" = "2024-01-02" := by decide +kernel
  refine ⟨readingDates [("2024-01-01", first), ("2024-01-02", last)], "2024-01-01", "2024-01-02",
    .of_plain (by decide) (by decide +kernel) ?_, .of_plain (by decide) (by decide +kernel) ?_⟩
  · rw [firstText]
    rfl
  · rw [lastText]
    rfl

/-- The range is what two dates resolve to. -/
def ResolvedFrom (zone : TimeZone) (first last : ℤ) (range : ReportDateRange) : Prop :=
  ∃ environment now fromValue toValue, IsDateText environment fromValue first ∧
    IsDateText environment toValue last ∧ resolveDateRange environment zone now (some fromValue)
    (some toValue) = .ok range

/-- Dates resolve to their window, if they are in order. -/
theorem resolvedFrom_iff {first last : ℤ} {range : ReportDateRange} :
    ResolvedFrom zone first last range ↔ first ≤ last ∧ range = dayWindow zone first last := by
  constructor
  · rintro ⟨environment, now, fromValue, toValue, isFrom, isTo, resolved⟩
    have ordered := startDate_le_endDate resolved
    simp only [resolveDateRange, parse_date isFrom, parse_date isTo] at resolved
    obtain ⟨_, rfl⟩ := dateRange_eq_ok.mp resolved
    simp only [if_true, midnight_date] at ordered ⊢
    have inOrder : first ≤ last := by
      have dates : (dayWindow zone first last).startDate = first ∧ _ := dayWindow_dates
      rw [← dates.1]
      exact ordered.trans_eq dates.2
    exact ⟨inOrder, rfl⟩
  · rintro ⟨ordered, rfl⟩
    obtain ⟨environment, fromValue, toValue, isFrom, isTo⟩ := exists_texts first last
    exact ⟨environment, 0, fromValue, toValue, isFrom, isTo, resolve_dates isFrom isTo ordered⟩

namespace Sample

/-- A zone whose offset changes once. -/
def changingZone (at_ before after : ℤ) : TimeZone where
  utcOffset := changing at_ before after
  fold instant := at_ ≤ instant && instant < at_ + before - after
  localOffset time :=
    if time.wall < at_ + (if time.fold then min before after else max before after) then before
      else after

theorem changingZone_rules {at_ before after : ℤ}
    (small : |before| < microsecondsPerDay ∧ |after| < microsecondsPerDay) :
    ZoneInfoRules (changingZone at_ before after) := by
  refine ⟨fun instant => ?_, changing_resolves at_ before after⟩
  simp only [changingZone, changing]
  split
  · exact small.1
  · exact small.2

def microsecondsPerHour : ℤ := 3600000000

/-- London in the spring of 2024: at one o'clock of the night of 31 March the clock is put forward
to two. -/
def london : TimeZone :=
  changingZone (19813 * microsecondsPerDay + microsecondsPerHour) 0 microsecondsPerHour

/-- Santiago in the autumn of 2024: at midnight after 6 April the clock is put back to 23:00. -/
def santiago : TimeZone :=
  changingZone (19820 * microsecondsPerDay + 3 * microsecondsPerHour) (-3 * microsecondsPerHour)
    (-4 * microsecondsPerHour)

private theorem santiago_rules : ZoneInfoRules santiago := changingZone_rules (by decide)

def saturday : Environment := readingDates [("2024-04-06", 19819)]

private theorem saturday_text : IsDateText saturday "2024-04-06" 19819 :=
  .of_plain (by decide) (by decide +kernel) (by decide +kernel)

/-- A sale at half past eleven on Saturday evening, after the clock was put back. -/
def eveningSale : ReportSale :=
  { id := 1, tenantId := 1, storeId := 1, status := "PAID", totalDue := 10,
    checkedOutAt := some (19820 * microsecondsPerDay + 3 * microsecondsPerHour + 30 * 60000000) }

def saturdayQuery : ReportQuery := ⟨1, 1, dayWindow santiago 19819 19819, santiago, none, none⟩

end Sample

open Reports.Sample in
/-- In Santiago the Sunday begins and ends where it is resolved to, although its midnight does not
come once. -/
example : BeginsAt santiago 19820 ∧ EndsAt santiago 19820 := by
  refine ⟨fun instant => ?_, endsAt_of_turnsOnce santiago_rules (changing_turnsOnce ?_)⟩
  · rw [le_localDate_iff]
    simp only [shows, santiago, changingZone, changing, TimeZone.toUtc, microsecondsPerDay,
      microsecondsPerHour]
    split_ifs <;> omega
  · simp only [microsecondsPerDay, microsecondsPerHour]
    omega

end ArisCloud.Reports

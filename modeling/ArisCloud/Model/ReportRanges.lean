import Mathlib.Data.Int.Notation
import ArisCloud.Model.Records
import ArisCloud.Model.Scope

/-! # Ranges of reports

`services/reports.py` reads the bounds of a report as dates or times of a time zone and resolves
them to instants. Instants and local times are microseconds, dates the numbers of their days, all
integers. A time zone is its offsets: at every instant, and for every local time, where `fold` tells
the two occurrences of an ambiguous local time apart.
-/

namespace ArisCloud.Reports

def microsecondsPerDay : ℤ := 86400000000

/-- A `datetime` in some time zone. -/
structure LocalTime where
  wall : ℤ
  fold : Bool := false
  deriving DecidableEq, Repr

def LocalTime.date (time : LocalTime) : ℤ := time.wall / microsecondsPerDay

/-- `replace(hour=0, minute=0, second=0, microsecond=0)`. -/
def LocalTime.midnight (time : LocalTime) : LocalTime :=
  { time with wall := time.date * microsecondsPerDay }

/-- The offsets of a `ZoneInfo`. -/
structure TimeZone where
  utcOffset : ℤ → ℤ
  fold : ℤ → Bool
  localOffset : LocalTime → ℤ

namespace TimeZone

/-- `astimezone(tz)` of an instant. -/
def fromUtc (zone : TimeZone) (instant : ℤ) : LocalTime :=
  ⟨instant + zone.utcOffset instant, zone.fold instant⟩

/-- `astimezone(timezone.utc)` of a local time. -/
def toUtc (zone : TimeZone) (time : LocalTime) : ℤ := time.wall - zone.localOffset time

/-- The local date of an instant. -/
def localDate (zone : TimeZone) (instant : ℤ) : ℤ := (zone.fromUtc instant).date

def utc : TimeZone := ⟨fun _ => 0, fun _ => false, fun _ => 0⟩

end TimeZone

/-- What the standard library reads from text: `date.fromisoformat`, and `datetime.fromisoformat`
with the offset it names, if any; and the installed time zones. -/
structure Environment where
  date : String → Option ℤ
  datetime : String → Option (ℤ × Option ℤ)
  zoneInfo : String → Option TimeZone

def utcAliases : List String := ["UTC", "Z", "Etc/UTC"]

/-- `_normalize_timezone_name`. -/
def normalizeTimezoneName (timezoneName : Option String) : String :=
  let name := strip (match timezoneName with
    | none | some "" => "UTC"
    | some name => name)
  if utcAliases.contains name then "UTC" else name

def resolveTimezone (environment : Environment) (timezoneName : Option String) :
    Except AppError TimeZone :=
  let name := normalizeTimezoneName timezoneName
  match environment.zoneInfo name with
  | some zone => .ok zone
  | none => if name = "UTC" then .ok .utc else .error (.validation "invalid timezone")

/-- `value.replace("Z", "+00:00")`. -/
def replaceZulu (value : String) : String :=
  String.ofList (value.toList.flatMap fun letter => if letter = 'Z' then "+00:00".toList
    else [letter])

/-- `_parse_datetime_or_date`: the local time, and whether the text is a date. -/
def parseDatetimeOrDate (environment : Environment) (zone : TimeZone) (default : LocalTime) :
    Option String → Except AppError (LocalTime × Bool)
  | none => .ok (default, false)
  | some value =>
    if value = "" then .ok (default, false)
    else
      let normalized := replaceZulu value
      if normalized.contains 'T' || normalized.contains ':' then
        match environment.datetime normalized with
        | none => .error (.validation "invalid datetime")
        | some (wall, none) => .ok (⟨wall, false⟩, false)
        | some (wall, some offset) => .ok (zone.fromUtc (wall - offset), false)
      else
        match environment.date normalized with
        | none => .error (.validation "invalid date")
        | some day => .ok (⟨day * microsecondsPerDay, false⟩, true)

/-- `ReportDateRange`. -/
structure ReportDateRange where
  startLocal : LocalTime
  endLocal : LocalTime
  startUtc : ℤ
  endUtc : ℤ
  deriving DecidableEq, Repr

namespace ReportDateRange

def startDate (range : ReportDateRange) : ℤ := range.startLocal.date

def endDate (range : ReportDateRange) : ℤ := range.endLocal.date

/-- `start_utc <= instant <= end_utc`. -/
def includes (range : ReportDateRange) (instant : ℤ) : Bool :=
  range.startUtc ≤ instant && instant ≤ range.endUtc

end ReportDateRange

/-- The check and the conversion at the end of `resolve_date_range`. -/
def dateRange (zone : TimeZone) (startLocal endLocal : LocalTime) :
    Except AppError ReportDateRange :=
  if endLocal.wall < startLocal.wall then .error
    (.validation "to must be greater than or equal to from")
  else .ok ⟨startLocal, endLocal, zone.toUtc startLocal, zone.toUtc endLocal⟩

def resolveDateRange (environment : Environment) (zone : TimeZone) (now : ℤ)
    (fromValue toValue : Option String) :
    Except AppError ReportDateRange := do
  let nowLocal := zone.fromUtc now
  let (start, fromIsDate) ← parseDatetimeOrDate environment zone nowLocal.midnight fromValue
  let startLocal := if fromIsDate then start.midnight else start
  let (parsed, toIsDate) ← parseDatetimeOrDate environment zone nowLocal toValue
  let endLocal := if toIsDate then ⟨parsed.wall + microsecondsPerDay - 1, false⟩ else parsed
  dateRange zone startLocal endLocal

def validateDateRange (range : ReportDateRange) (maxDays : ℤ) : Except AppError Unit :=
  if maxDays ≤ 0 then .ok ()
  else if maxDays < range.endDate - range.startDate + 1 then .error
    (.validation "date range exceeds limit")
  else .ok ()

/-- `iter_dates`. -/
def iterDates (start stop : ℤ) : List ℤ := (List.range (stop - start + 1).toNat).map fun day : ℕ =>
    start + (day : ℤ)

theorem mem_iterDates {start stop day : ℤ} : day ∈ iterDates start stop ↔ start ≤ day ∧
    day ≤ stop := by
  simp only [iterDates, List.mem_map, List.mem_range]
  constructor
  · rintro ⟨index, bound, rfl⟩
    omega
  · rintro ⟨after, before⟩
    exact ⟨(day - start).toNat, by omega, by omega⟩

theorem iterDates_nodup {start stop : ℤ} : (iterDates start stop).Nodup := by
  refine List.Nodup.map (fun first next same => ?_) List.nodup_range
  omega

theorem dateRange_eq_ok {zone : TimeZone} {startLocal endLocal : LocalTime}
    {range : ReportDateRange} :
    dateRange zone startLocal endLocal = .ok range ↔
      startLocal.wall ≤ endLocal.wall ∧
      range = ⟨startLocal, endLocal, zone.toUtc startLocal, zone.toUtc endLocal⟩ := by
  rw [dateRange]
  split
  · next reversed => simp [Int.not_le.mpr reversed]
  · next ordered => simp [Int.not_lt.mp ordered, eq_comm]

/-- A resolved range does not end before it starts. -/
theorem startDate_le_endDate {environment : Environment} {zone : TimeZone} {now : ℤ}
    {fromValue toValue : Option String} {range : ReportDateRange}
    (resolved : resolveDateRange environment zone now fromValue toValue = .ok range) :
    range.startDate ≤ range.endDate := by
  obtain ⟨⟨start, fromIsDate⟩, _, resolved⟩ := Checked.bind_eq_ok.mp resolved
  obtain ⟨⟨parsed, toIsDate⟩, _, resolved⟩ := Checked.bind_eq_ok.mp resolved
  obtain ⟨ordered, rfl⟩ := dateRange_eq_ok.mp resolved
  exact Int.ediv_le_ediv (by decide) ordered

end ArisCloud.Reports

import Mathlib.Data.List.TakeWhile
import ArisCloud.Model.ExportFiles
import ArisCloud.Soundness.ReportExports

/-! # Export files read back

A CSV file tells the dataset it was rendered from: its header names the columns, its dates are the
days and its amounts the figures to the cent. The name of a file is a plain stem with the ending of
its format, and a name that is given with a plain stem keeps it.
-/

namespace ArisCloud.Reports

open Decimals Numerals

/-! ## A reader of export files -/

/-- The column that a header names. -/
def columnNamed (name : List Char) : Option Column := reportDailyFields.find? fun column =>
    column.name.toList = name

def readCell : Column → List Char → Option Cell
  | .businessDate, text =>
    (Calendar.readDate text).map fun date => .date (date.ordinal - epochOrdinal)
  | .figure .ordersPaidCount, text => (readNat text).map fun count => .number count
  | .figure _, text => (readAmount text).map .number

/-- A record under the columns, with a field for each of them. -/
def readRow : List Column → List (List Char) → Option (List Cell)
  | [], [] => some []
  | column :: columns, text :: texts => do
    let cell ← readCell column text
    let cells ← readRow columns texts
    return cell :: cells
  | _, _ => none

/-- The columns and the rows of a file. -/
def readExport (file : List Char) : Option (List Column × List (List Cell)) :=
  match Csv.read file with
  | [] => none
  | header :: records => do
    let columns ← header.mapM columnNamed
    let rows ← records.mapM (readRow columns)
    return (columns, rows)

/-- A figure to the cent. -/
def Cell.rounded : Cell → Cell
  | .date day => .date day
  | .number value => .number (quantize value)

/-- What a column can hold: a day of the calendar, a number of orders or an amount. -/
def Cell.Fits : Column → Cell → Prop
  | .businessDate, .date day => -epochOrdinal < day
  | .figure figure, .number value => figure = .ordersPaidCount → ∃ count : ℕ, value = count
  | _, _ => False

section

variable {column : Column} {columns : List Column} {cell : Cell} {row : List Cell}
    {rows : List (List Cell)} {value : ℚ}

/-! ## Cells -/

private theorem roundHalfEven_nonpos (negative : value < 0) : roundHalfEven value ≤ 0 := by
  have floor : ⌊value⌋ < 0 := Int.floor_lt.mpr (by simpa using negative)
  simp only [roundHalfEven]
  split_ifs <;> omega

/-- The text of an amount is that of its cents. -/
theorem readAmount_amountText :
    readAmount (amountText (value < 0) (roundHalfEven (value * 100)).natAbs) = some
    (quantize value) := by
  rw [readAmount_text, quantize]
  by_cases negative : value < 0
  · have nonpos : roundHalfEven (value * 100) ≤ 0 := roundHalfEven_nonpos (by linarith)
    have magnitude : ((roundHalfEven (value * 100)).natAbs : ℚ) = -roundHalfEven (value * 100) := by
      rw [← Int.cast_natCast, Int.ofNat_natAbs_of_nonpos nonpos, Int.cast_neg]
    simp only [negative, decide_true, if_true, magnitude]
    congr 1
    ring
  · have nonneg : 0 ≤ roundHalfEven (value * 100) := roundHalfEven_nonneg (by linarith)
    have magnitude : ((roundHalfEven (value * 100)).natAbs : ℚ) = roundHalfEven (value * 100) := by
      rw [← Int.cast_natCast, Int.natAbs_of_nonneg nonneg]
    simp only [negative, decide_false, Bool.false_eq_true, if_false, magnitude]

private theorem quantize_natCast (count : ℕ) : quantize count = count := by
  apply quantize_of_isCents
  exact ⟨count * 100, by push_cast; ring⟩

private theorem readCell_formatCell (fits : cell.Fits column) :
    readCell column (formatCell column cell) = some cell.rounded := by
  cases column with
  | businessDate =>
    cases cell with
    | date day =>
      have later : -epochOrdinal < day := fits
      have positive : 0 < (day + epochOrdinal).toNat := by omega
      have same : ((day + epochOrdinal).toNat : ℤ) - epochOrdinal = day := by omega
      rw [readCell, formatCell, Calendar.readDate_text, Option.map_some,
        Calendar.ordinal_ofOrdinal positive, same]
      rfl
    | number value => exact fits.elim
  | figure figure =>
    cases cell with
    | date day => exact fits.elim
    | number value =>
      by_cases orders : figure = .ordersPaidCount
      · subst orders
        obtain ⟨count, rfl⟩ := fits rfl
        have digits : ((count : ℚ).num.toNat) = count := by simp
        rw [formatCell, if_pos rfl, digits, readCell, readNat_toDigits, Cell.rounded,
          quantize_natCast]
        rfl
      · have amount : readCell (.figure figure) (formatCell (.figure figure) (.number value)) =
            (readAmount (amountText (value < 0) (roundHalfEven (value * 100)).natAbs)).map
            .number := by
          have other : ¬Column.figure figure = .figure .ordersPaidCount := by simpa using orders
          rw [formatCell, if_neg other, readCell]
          exact orders
        rw [amount, readAmount_amountText]
        rfl

/-! ## Rows and headers -/

private theorem readRow_formatCell
    (fit : List.Forall₂ (fun column cell => Cell.Fits column cell) columns row) :
    readRow columns (List.zipWith formatCell columns row) = some (row.map Cell.rounded) := by
  induction fit with
  | nil => rfl
  | cons fits _ ih =>
    rw [List.zipWith_cons_cons, readRow, readCell_formatCell fits, ih]
    rfl

private theorem columnNamed_name (column : Column) :
    columnNamed column.name.toList = some column := by
  cases column with
  | businessDate => decide +kernel
  | figure figure =>
    cases figure with
    | liabilityTender field => cases field <;> decide +kernel
    | _ => decide +kernel

private theorem mapM_columnNamed (columns : List Column) :
    (columns.map fun column => column.name.toList).mapM columnNamed = some columns := by
  induction columns with
  | nil => rfl
  | cons column rest ih =>
    rw [List.map_cons, List.mapM_cons, columnNamed_name, ih]
    rfl

private theorem mapM_readRow
    (fit : ∀ row ∈ rows, List.Forall₂ (fun column cell => Cell.Fits column cell) columns row) :
    (rows.map fun row => List.zipWith formatCell columns row).mapM (readRow columns) =
      some (rows.map (·.map Cell.rounded)) := by
  induction rows with
  | nil => rfl
  | cons row rest ih =>
    obtain ⟨first, later⟩ := List.forall_mem_cons.mp fit
    rw [List.map_cons, List.mapM_cons, readRow_formatCell first, ih later]
    rfl

/-- A file of rows that fit their columns is read back. -/
theorem readExport_renderCsv {dataset : ExportDataset}
    (fit : ∀ row ∈ dataset.rows,
      List.Forall₂ (fun column cell => Cell.Fits column cell) dataset.columns row) :
    readExport (renderCsv dataset) = some
    (dataset.columns, dataset.rows.map (·.map Cell.rounded)) := by
  simp only [readExport, renderCsv, Csv.read_write, mapM_columnNamed, Option.bind_eq_bind,
    Option.bind_some, mapM_readRow fit]
  rfl

/-! ## The rows of a dataset -/

/-- Cells that are taken from the same record. -/
theorem forall₂_cells (read : Column → Cell)
    (fits : ∀ column ∈ columns, (read column).Fits column) :
    List.Forall₂ (fun column cell => Cell.Fits column cell) columns (columns.map read) := by
  induction columns with
  | nil => exact .nil
  | cons column rest ih =>
    obtain ⟨first, later⟩ := List.forall_mem_cons.mp fits
    exact .cons first (ih later)

private theorem sumOf_orders_counted {dailyRows : List ReportRow}
    (counted : ∀ row ∈ dailyRows, ∃ count : ℕ, row.figure .ordersPaidCount = count) :
    ∃ count : ℕ, sumOf dailyRows .ordersPaidCount = count := by
  induction dailyRows with
  | nil => exact ⟨0, rfl⟩
  | cons row rest ih =>
    obtain ⟨⟨first, isFirst⟩, later⟩ := List.forall_mem_cons.mp counted
    obtain ⟨others, areOthers⟩ := ih later
    rw [sumOf] at areOthers
    refine ⟨first + others, ?_⟩
    rw [sumOf, List.map_cons, List.sum_cons, isFirst, areOthers]
    push_cast
    rfl

private theorem row_cell_fits {dailyRow : ReportRow}
    (counted : ∃ count : ℕ, dailyRow.figure .ordersPaidCount = count)
    (dated : -epochOrdinal < dailyRow.businessDate) (column : Column) :
    (dailyRow.cell column).Fits column := by
  cases column with
  | businessDate => exact dated
  | figure figure =>
    rintro rfl
    exact counted

private theorem datasetOf_fits {source : ExportSourceType} {dailyRows : List ReportRow}
    (counted : ∀ row ∈ dailyRows, ∃ count : ℕ, row.figure .ordersPaidCount = count)
    (dated : ∀ row ∈ (datasetOf source dailyRows).rows, ∀ day, .date day ∈ row →
      -epochOrdinal < day) :
    ∀ row ∈ (datasetOf source dailyRows).rows,
      List.Forall₂ (fun column cell => Cell.Fits column cell)
      (datasetOf source dailyRows).columns row := by
  intro row member
  cases source with
  | reportsOverview =>
    obtain rfl : row = totalsFigures.map fun figure =>
        .number (buildReportTotals dailyRows figure) := by
      simpa [datasetOf] using member
    have rewritten :
        (totalsFigures.map fun figure => Cell.number (buildReportTotals dailyRows figure)) =
        (totalsFigures.map Column.figure).map (totalsCell (buildReportTotals dailyRows)) := by
      rw [List.map_map]
      rfl
    rw [rewritten]
    apply forall₂_cells
    intro column isColumn
    obtain ⟨figure, _, rfl⟩ := List.mem_map.mp isColumn
    rintro rfl
    exact sumOf_orders_counted counted
  | reportsDaily =>
    obtain ⟨dailyRow, isRow, rfl⟩ := List.mem_map.mp member
    apply forall₂_cells
    intro column _
    have hasDate : Column.businessDate ∈ exportDailyColumns := by decide
    exact row_cell_fits (counted dailyRow isRow)
      (dated _ member _ (List.mem_map_of_mem (f := dailyRow.cell) hasDate)) column
  | reportsCalendar =>
    obtain ⟨dailyRow, isRow, rfl⟩ := List.mem_map.mp member
    apply forall₂_cells
    intro column _
    have hasDate : Column.businessDate ∈ exportCalendarColumns := by decide
    exact row_cell_fits (counted dailyRow isRow)
      (dated _ member _ (List.mem_map_of_mem (f := dailyRow.cell) hasDate)) column

/-- The rows of an exported dataset fit its columns. -/
theorem built_fits {context : ReportContext} {db : ReportDb} {source : ExportSourceType}
    {request : ReportRequest} {dataset : ExportDataset}
    (built : buildReportDataset context db source request = .ok dataset)
    (dated : ∀ row ∈ dataset.rows, ∀ day, .date day ∈ row → -epochOrdinal < day) :
    ∀ row ∈ dataset.rows, List.Forall₂
    (fun column cell => Cell.Fits column cell) dataset.columns row := by
  rw [buildReportDataset, Checked.bind_eq_ok] at built
  obtain ⟨query, _, assembled⟩ := built
  obtain rfl := Except.ok.inj assembled
  apply datasetOf_fits _ dated
  intro row member
  obtain ⟨day, _, rfl⟩ := List.mem_map.mp member
  exact ⟨query.ordersByDate db day, rfl⟩

end

/-- An exported file gives back the columns, the days and the figures to the cent. -/
theorem export_file_read_back {context : ReportContext} {db : ReportDb} {source : ExportSourceType}
    {request : ReportRequest} {dataset : ExportDataset}
    (exported : buildReportDataset context db source request = .ok dataset)
    (dated : ∀ row ∈ dataset.rows, ∀ day, .date day ∈ row → -epochOrdinal < day) :
    readExport (renderCsv dataset) = some
    (dataset.columns, dataset.rows.map (·.map Cell.rounded)) :=
  readExport_renderCsv (built_fits exported dated)

namespace Sample

/-- A jacket that cost 120 is sold for 100. -/
def soldAtLoss : ReportDb where
  sales := [{ id := 1, tenantId := 1, storeId := 1, status := "PAID", totalDue := 100,
              checkedOutAt := some 0 }]
  saleLines :=
    [{ id := 1, saleId := 1, tenantId := 1, qty := 1, lineTotal := 100,
       costPriceSnapshot := some 120 }]

private theorem lossCalendar_accepted :
    (buildReportDataset midnight soldAtLoss .reportsCalendar today).toOption.isSome = true := by
  decide +kernel

/-- The calendar of the day. -/
def lossCalendar : ExportDataset :=
  (buildReportDataset midnight soldAtLoss .reportsCalendar today).toOption.get lossCalendar_accepted

end Sample

open Reports.Sample in
/-- The file of a day with a loss tells its sales of 100, its profit of -20 and its one order. -/
theorem export_file_read_back_loss : readExport (renderCsv lossCalendar) =
    some (exportCalendarColumns, [[.date 0, .number 100, .number (-20), .number 1]]) := by
  have dated : ∀ row ∈ lossCalendar.rows, ∀ day, .date day ∈ row → -epochOrdinal < day := by
    have rows : lossCalendar.rows = [[.date 0, .number 100, .number (-20), .number 1]] := by
      decide +kernel
    intro row isRow day isDay
    rw [rows] at isRow
    cases List.mem_singleton.mp isRow
    obtain rfl : day = 0 := by simpa using isDay
    decide
  have accepted : buildReportDataset midnight soldAtLoss .reportsCalendar today =
      .ok lossCalendar :=
    Checked.eq_ok_get lossCalendar_accepted
  rw [export_file_read_back accepted dated]
  decide +kernel

/-! ## Names of files -/

/-- The part of a name before its ending: characters of names, with none at either end that would be
stripped. -/
structure IsStem (stem : List Char) : Prop where
  nonempty : stem ≠ []
  chars : ∀ c ∈ stem, isNameChar c = true
  first : ∀ c ∈ stem.head?, isTrimmed c = false
  last : ∀ c ∈ stem.getLast?, isTrimmed c = false

section

variable {name stem ending : List Char}

/-! ### What is stripped and replaced -/

private theorem head?_stripName {c : Char} (first : c ∈ (stripName name).head?) :
    isTrimmed c = false := by
  have within : stripName name <+: name.dropWhile isTrimmed := by
    rw [stripName, ← List.reverse_suffix, List.reverse_reverse]
    exact List.dropWhile_suffix isTrimmed
  obtain ⟨rest, whole⟩ := within
  cases stripped : stripName name with
  | nil => simp [stripped] at first
  | cons initial more =>
    obtain rfl : initial = c := by simpa [stripped] using first
    rw [stripped, List.cons_append] at whole
    have kept := List.head?_dropWhile_not isTrimmed name
    rw [← whole] at kept
    simpa using kept

private theorem getLast?_stripName {c : Char} (last : c ∈ (stripName name).getLast?) :
    isTrimmed c = false := by
  rw [stripName, List.getLast?_reverse] at last
  have kept := List.head?_dropWhile_not isTrimmed (name.dropWhile isTrimmed).reverse
  rw [Option.mem_def.mp last] at kept
  simpa using kept

private theorem mem_stripName {c : Char} (member : c ∈ stripName name) : c ∈ name := by
  rw [stripName, List.mem_reverse] at member
  have inner := List.mem_reverse.mp ((List.dropWhile_sublist isTrimmed).subset member)
  exact (List.dropWhile_sublist isTrimmed).subset inner

/-- A name whose ends are kept is not stripped. -/
theorem stripName_eq (first : ∀ c ∈ stem.head?, isTrimmed c = false)
    (last : ∀ c ∈ stem.getLast?, isTrimmed c = false) :
    stripName stem = stem := by
  have kept : ∀ text : List Char, (∀ c ∈ text.head?, isTrimmed c = false) →
      text.dropWhile isTrimmed = text := by
    intro text initial
    cases text with
    | nil => rfl
    | cons c rest =>
      have untrimmed : isTrimmed c = false := initial c rfl
      rw [List.dropWhile_cons, untrimmed]
      rfl
  have reversed : ∀ c ∈ stem.reverse.head?, isTrimmed c = false := by
    rw [List.head?_reverse]
    exact last
  rw [stripName, kept stem first, kept stem.reverse reversed, List.reverse_reverse]

private theorem isNameChar_replaceRuns (replacing : Bool) {c : Char}
    (member : c ∈ replaceRuns replacing name) :
    isNameChar c = true := by
  induction name generalizing replacing with
  | nil => simp [replaceRuns] at member
  | cons initial rest ih =>
    rw [replaceRuns] at member
    split at member
    · next plain =>
      rcases List.mem_cons.mp member with rfl | later
      · exact plain
      · exact ih false later
    · split at member
      · exact ih true member
      · rcases List.mem_cons.mp member with rfl | later
        · decide
        · exact ih true later

private theorem replaceRuns_eq (replacing : Bool) (chars : ∀ c ∈ stem, isNameChar c = true) :
    replaceRuns replacing stem = stem := by
  induction stem generalizing replacing with
  | nil => rfl
  | cons initial rest ih =>
    obtain ⟨plain, later⟩ := List.forall_mem_cons.mp chars
    rw [replaceRuns, if_pos plain, ih false later]

/-! ### Directories and endings -/

private theorem basename_eq (absent : ∀ c ∈ name, c ≠ '/') : basename name = name := by
  have kept : name.reverse.takeWhile (· ≠ '/') = name.reverse := by
    apply List.takeWhile_eq_self_iff.mpr
    intro c member
    exact decide_eq_true (absent c (List.mem_reverse.mp member))
  rw [basename, kept, List.reverse_reverse]

private theorem dropExtension_append (nonempty : ending ≠ []) (absent : ∀ c ∈ ending, c ≠ '.') :
    dropExtension (stem ++ '.' :: ending) = stem := by
  have kept : ∀ c ∈ ending.reverse, decide (c ≠ '.') = true := fun c member =>
    decide_eq_true (absent c (List.mem_reverse.mp member))
  have backwards : (stem ++ '.' :: ending).reverse = ending.reverse ++ '.' :: stem.reverse := by
    simp
  have taken : (stem ++ '.' :: ending).reverse.takeWhile (· ≠ '.') = ending.reverse := by
    rw [backwards, List.takeWhile_append_of_pos kept]
    simp
  have dropped : (stem ++ '.' :: ending).reverse.dropWhile (· ≠ '.') = '.' :: stem.reverse := by
    rw [backwards, List.dropWhile_append_of_pos kept]
    simp
  obtain ⟨c, rest, isCons⟩ := List.exists_cons_of_ne_nil (List.reverse_ne_nil_iff.mpr nonempty)
  simp only [dropExtension, taken, dropped, isCons, List.reverse_reverse]

/-! ### Cleaned names -/

private theorem isStem_cleanedName (remains : cleanedName name ≠ []) :
    IsStem (cleanedName name) where
  nonempty := remains
  chars _ member := isNameChar_replaceRuns false (mem_stripName member)
  first _ := head?_stripName
  last _ := getLast?_stripName

/-- The stem of a name without directories is found again before its ending. -/
theorem cleanedName_append (isStem : IsStem stem) (nonempty : ending ≠ [])
    (plain : ∀ c ∈ ending, c ≠ '.' ∧ c ≠ '/') :
    cleanedName (stem ++ '.' :: ending) = stem := by
  have noSlash : ∀ c ∈ stem ++ '.' :: ending, c ≠ '/' := by
    intro c member
    rcases List.mem_append.mp member with inStem | inEnding
    · rintro rfl
      exact absurd (isStem.chars _ inStem) (by decide)
    · rcases List.mem_cons.mp inEnding with rfl | later
      · decide
      · exact (plain c later).2
  rw [cleanedName, basename_eq noSlash, dropExtension_append nonempty fun c member =>
    (plain c member).1, replaceRuns_eq false isStem.chars, stripName_eq isStem.first isStem.last]

end

/-- Every stored name has a plain stem before the ending of its format, and a plain stem is kept,
whatever ending it is given with. -/
theorem stored_names_plain {fallback : List Char} (usable : IsStem fallback) (ending : List Char) :
    (∀ name, ∃ stem, IsStem stem ∧ sanitizeFilename name ending fallback = stem ++ '.' :: ending) ∧
      ∀ stem given, IsStem stem → given ≠ [] → (∀ c ∈ given, c ≠ '.' ∧ c ≠ '/') →
        sanitizeFilename (some (stem ++ '.' :: given)) ending fallback = stem ++ '.' :: ending := by
  constructor
  · intro name
    unfold sanitizeFilename
    split
    · exact ⟨fallback, usable, rfl⟩
    · exact ⟨fallback, usable, rfl⟩
    · next name _ =>
      by_cases empty : cleanedName name = []
      · exact ⟨fallback, usable, by simp only [empty, if_true]⟩
      · exact ⟨cleanedName name, isStem_cleanedName empty, by simp only [empty, if_false]⟩
  · intro stem given isStem nonempty plain
    have named : stem ++ '.' :: given ≠ [] := by simp
    rw [sanitizeFilename]
    · simp only [cleanedName_append isStem nonempty plain, if_neg isStem.nonempty]
    · exact named

/-- The conditions of a stem, as they are computed. -/
theorem isStem_of_all {stem : List Char} (nonempty : stem ≠ []) (chars : stem.all isNameChar = true)
    (first : stem.head?.all (!isTrimmed ·) = true)
    (last : stem.getLast?.all (!isTrimmed ·) = true) : IsStem stem where
  nonempty := nonempty
  chars := List.all_eq_true.mp chars
  first c isFirst := by
    rw [Option.mem_def.mp isFirst] at first
    simpa using first
  last c isLast := by
    rw [Option.mem_def.mp isLast] at last
    simpa using last

/-- A name with directories is stored without them, and a name with a plain stem keeps it. -/
theorem stored_names_plain_report :
    (∃ stem, IsStem stem ∧
      sanitizeFilename (some "../Q1 sales?.xlsx".toList) "ExportFormat.CSV".toList
      "export-1".toList = stem ++ '.' :: "ExportFormat.CSV".toList) ∧
    sanitizeFilename (some ("sales".toList ++ '.' :: "xlsx".toList)) "ExportFormat.CSV".toList
      "export-1".toList =
      "sales".toList ++ '.' :: "ExportFormat.CSV".toList := by
  have fallback : IsStem "export-1".toList := isStem_of_all (by decide) (by decide) (by decide)
    (by decide)
  have sales : IsStem "sales".toList := isStem_of_all (by decide) (by decide) (by decide)
    (by decide)
  have xlsx : ∀ c ∈ "xlsx".toList, c ≠ '.' ∧ c ≠ '/' := by simp
  obtain ⟨plain, kept⟩ := stored_names_plain fallback "ExportFormat.CSV".toList
  exact ⟨plain _, kept _ _ sales (by decide) xlsx⟩

end ArisCloud.Reports

import Mathlib.Data.Nat.Basic
import ArisCloud.Model.ExportFiles
import ArisCloud.Model.Scope

/-! # Export requests

`create_export` and `download_export` of `routers/exports.py` over the table of export records and
the directory of files. A request commits its record first, then writes the file and then commits
the record again, so other requests run in between, and the process may stop at any of these points.
What spreadsheets, documents and digests are is left to the libraries that make them.
-/

namespace ArisCloud.Reports

inductive ExportFormat where
  | csv | xlsx | pdf
  deriving DecidableEq, Repr

/-- The value of a format, as a record keeps it. -/
def ExportFormat.value : ExportFormat → List Char
  | .csv => "csv".toList
  | .xlsx => "xlsx".toList
  | .pdf => "pdf".toList

inductive ExportStatus where
  | created | ready | failed
  deriving DecidableEq, Repr

structure ExportFilters where
  storeId : Option ℕ := none
  fromValue : Option String := none
  toValue : Option String := none
  timezone : Option String := none
  cashier : Option ℕ := none
  channel : Option String := none
  paymentMethod : Option String := none

structure ExportCreateRequest where
  sourceType : ExportSourceType
  format : ExportFormat
  filters : ExportFilters
  fileName : Option (List Char) := none
  transactionId : Option String

/-- `build_path`: a file is named by the id and the format of its export. -/
abbrev ExportPath := ℕ × ExportFormat

structure ExportRecord where
  id : ℕ
  tenantId : ℕ
  storeId : ℕ
  sourceType : ExportSourceType
  format : ExportFormat
  /-- The filters with the store that was resolved, and the range that their dates stand for. -/
  filtersSnapshot : ExportFilters × ReportDateRange
  status : ExportStatus := .created
  rowCount : ℕ := 0
  checksumSha256 : Option String := none
  failureReasonCode : Option String := none
  fileSizeBytes : Option ℕ := none
  contentType : Option String := none
  fileName : Option (List Char) := none
  filePath : Option ExportPath := none
  generatedByUserId : ℕ
  generatedAt : Option ℤ := none

/-- The libraries that render and digest files, and what a format and an id read as in a name. -/
structure ExportLibraries where
  xlsx : ExportDataset → Option ByteArray
  pdf : ExportDataset → ExportSourceType → ExportFilters × ReportDateRange → ℤ → Option ByteArray
  sha256 : ByteArray → String
  formatText : ExportFormat → List Char
  idText : ℕ → List Char

/-- What a request has written before it commits its record again. -/
structure ExportOutput where
  rowCount : ℕ
  bytes : ByteArray
  generatedAt : ℤ

/-- The settings and the clock of the report, the time of its file and whether the directory takes
it. -/
structure Generation where
  report : ReportContext
  generatedAt : ℤ
  writes : Bool := true

structure RunningExport where
  request : ExportCreateRequest
  output : Option ExportOutput := none

/-- The tables that reports and scopes read, the export records, the files and the requests under
way. -/
structure ExportShop where
  reportDb : ReportDb
  db : Db
  records : ℕ → Option ExportRecord := fun _ => none
  files : ExportPath → Option ByteArray := fun _ => none
  running : ℕ → Option RunningExport := fun _ => none

/-! ## Creating -/

/-- The request for the dataset, which names the tenant of the store. -/
def reportRequest (record : ExportRecord) (filters : ExportFilters) : ReportRequest where
  tenantId := record.tenantId
  storeId := record.storeId
  fromValue := filters.fromValue
  toValue := filters.toValue
  timezone := filters.timezone
  cashier := filters.cashier
  paymentMethod := filters.paymentMethod

/-- The record that `create_export` commits first. -/
def createdRecord (db : Db) (context : RequestContext) (report : ReportContext) (id : ℕ)
    (request : ExportCreateRequest) :
    Except AppError ExportRecord := do
  requirePermission context "REPORTS_VIEW"
  requireTransactionId request.transactionId
  let storeId ← Checked.fetch (request.filters.storeId.or context.tokenData.storeId)
    ⟨.storeScopeRequired, ""⟩
  enforceStoreScope db context.tokenData storeId true
  let store ← Checked.fetch (db.stores.find? (·.id = storeId)) ⟨.storeScopeMismatch, ""⟩
  let zone ← resolveTimezone report.environment request.filters.timezone
  let range ← resolveDateRange report.environment zone report.now request.filters.fromValue
    request.filters.toValue
  return { id, tenantId := store.tenantId, storeId, sourceType := request.sourceType,
           format := request.format, filtersSnapshot :=
           ({ request.filters with storeId := some storeId }, range), generatedByUserId :=
           context.userId }

/-- `_render_export_bytes`. -/
def renderExportBytes (libraries : ExportLibraries) (record : ExportRecord) (generatedAt : ℤ)
    (dataset : ExportDataset) : Option ByteArray :=
  match record.format with
  | .csv => some (String.ofList (renderCsv dataset)).toUTF8
  | .xlsx => libraries.xlsx dataset
  | .pdf => libraries.pdf dataset record.sourceType record.filtersSnapshot generatedAt

def ExportFormat.contentType : ExportFormat → String
  | .csv => "text/csv"
  | .xlsx => "application/vnd.openxmlformats-officedocument.spreadsheetml.sheet"
  | .pdf => "application/pdf"

/-- The reason code in the details of an error. -/
def reasonCode (failure : AppError) : Option String :=
  if failure.message = "date range exceeds limit" then some "REPORT_DATE_RANGE_LIMIT_EXCEEDED"
  else if failure.message = "export rows exceed limit" then some "EXPORT_ROWS_LIMIT_EXCEEDED"
  else none

/-- The file of a record, or the reason why there is none. -/
def generateExport (libraries : ExportLibraries) (maxRows : ℤ) (reportDb : ReportDb)
    (generation : Generation) (record : ExportRecord) (request : ExportCreateRequest) :
    Except String ExportOutput :=
  match buildReportDataset generation.report reportDb request.sourceType
      (reportRequest record request.filters) with
  | .error failure => .error ((reasonCode failure).getD "EXPORT_FAILED")
  | .ok dataset =>
    if 0 < maxRows ∧ maxRows < dataset.rows.length then .error "EXPORT_ROWS_LIMIT_EXCEEDED"
    else match renderExportBytes libraries record generation.generatedAt dataset with
      | some bytes =>
        if generation.writes then .ok ⟨dataset.rows.length, bytes, generation.generatedAt⟩
          else .error "EXPORT_FAILED"
      | none => .error "EXPORT_FAILED"

def ExportRecord.markedFailed (record : ExportRecord) (reason : String) : ExportRecord :=
  { record with status := .failed, failureReasonCode := some reason }

def ExportRecord.markedReady (libraries : ExportLibraries) (record : ExportRecord)
    (request : ExportCreateRequest) (output : ExportOutput) : ExportRecord :=
  { record with
    status := .ready
    rowCount := output.rowCount
    checksumSha256 := some (libraries.sha256 output.bytes)
    fileSizeBytes := some output.bytes.size
    contentType := some record.format.contentType
    fileName := some (sanitizeFilename request.fileName (libraries.formatText record.format)
      ("export-".toList ++ libraries.idText record.id))
    filePath := some (record.id, record.format)
    generatedAt := some output.generatedAt }

/-! ## Interleaved steps -/

/-- What happens next: the tables of the reports change, or a request goes on to its next commit or
write, or stops. -/
inductive ExportStep where
  | change (reportDb : ReportDb) (db : Db)
  | create (context : RequestContext) (report : ReportContext) (id : ℕ)
      (request : ExportCreateRequest)
  | generate (generation : Generation) (id : ℕ)
  | finish (id : ℕ)
  | stop (id : ℕ)

namespace ExportShop

def setRecord (shop : ExportShop) (id : ℕ) (record : ExportRecord) : ExportShop :=
  { shop with records := Function.update shop.records id (some record) }

def setFile (shop : ExportShop) (path : ExportPath) (bytes : ByteArray) : ExportShop :=
  { shop with files := Function.update shop.files path (some bytes) }

def setRunning (shop : ExportShop) (id : ℕ) (running : Option RunningExport) : ExportShop :=
  { shop with running := Function.update shop.running id running }

end ExportShop

/-- The request of an id that is not under way. -/
def noRequest : AppError := ⟨.resourceNotFound, ""⟩

def exportStep (libraries : ExportLibraries) (maxRows : ℤ) (shop : ExportShop) : ExportStep →
    Except AppError ExportShop
  | .change reportDb db => .ok { shop with reportDb, db }
  | .create context report id request => do
    let record ← createdRecord shop.db context report id request
    -- The primary key of the records.
    Checked.ensure ((shop.records id).isNone ∧ (shop.running id).isNone) ⟨.integrityError, ""⟩
    return (shop.setRecord id record).setRunning id (some { request })
  | .generate generation id => do
    let running ← Checked.fetch (shop.running id) noRequest
    let record ← Checked.fetch (shop.records id) noRequest
    Checked.ensure running.output.isNone noRequest
    match generateExport libraries maxRows shop.reportDb generation record running.request with
    | .error reason => return (shop.setRecord id (record.markedFailed reason)).setRunning id none
    | .ok output =>
      return (shop.setFile (id, record.format) output.bytes).setRunning id
        (some { running with output := some output })
  | .finish id => do
    let running ← Checked.fetch (shop.running id) noRequest
    let record ← Checked.fetch (shop.records id) noRequest
    let output ← Checked.fetch running.output noRequest
    return (shop.setRecord id (record.markedReady libraries running.request output)).setRunning id
      none
  | .stop id => return shop.setRunning id none

/-! ## Downloading -/

structure ExportDownload where
  bytes : ByteArray
  mediaType : String
  filename : List Char

def exportNotFound : AppError := ⟨.resourceNotFound, "export not found"⟩

def downloadExport (libraries : ExportLibraries) (shop : ExportShop) (context : RequestContext)
    (id : ℕ) :
    Except AppError ExportDownload := do
  requirePermission context "REPORTS_VIEW"
  let record ← Checked.fetch ((shop.records id).filter fun record => some record.tenantId =
    context.tokenData.tenantId) exportNotFound
  enforceStoreScope shop.db context.tokenData record.storeId true
  match record.status, record.filePath, record.contentType with
  | .ready, some path, some mediaType => do
    let bytes ← Checked.fetch (shop.files path) exportNotFound
    return ⟨bytes, mediaType,
      record.fileName.getD ("export-".toList ++ libraries.idText record.id ++ '.' ::
      record.format.value)⟩
  | _, _, _ => throw (.conflict "export is not ready for download")

end ArisCloud.Reports

import ArisCloud.Library.Reachability
import ArisCloud.Model.ExportRecords
import ArisCloud.Soundness.ExportFiles

/-! # Exports over whole runs

Whatever runs between the commits of a request, a record is ready only with the file that its own
request generated from the tables at one moment, and neither the record nor the file changes
afterwards.
-/

namespace ArisCloud.Reports

open Requests

/-- A file read as UTF-8 text. -/
def readExportFile (bytes : ByteArray) : Option (List Column × List (List Cell)) :=
  (String.fromUTF8? bytes).bind fun text => readExport text.toList

section

variable {libraries : ExportLibraries} {maxRows : ℤ} {shop next start last : ExportShop}
  {history before later : List (ExportShop × ExportStep)} {id : ℕ} {request : ExportCreateRequest}
  {draft record : ExportRecord} {output : ExportOutput}

/-- The request created the record in a step of the history. -/
def Drafted (history : List (ExportShop × ExportStep)) (id : ℕ) (request : ExportCreateRequest)
    (draft : ExportRecord) : Prop :=
  ∃ source context report, (source, .create context report id request) ∈ history ∧
    createdRecord source.db context report id request = .ok draft

/-- The request generated the file in a step of the history. -/
def Generated (libraries : ExportLibraries) (maxRows : ℤ) (history : List (ExportShop × ExportStep))
    (request : ExportCreateRequest) (draft : ExportRecord) (output : ExportOutput) : Prop :=
  ∃ source generation, (source, .generate generation draft.id) ∈ history ∧
    generateExport libraries maxRows source.reportDb generation draft request = .ok output

/-- How far the request of a record has come. -/
inductive Stage (libraries : ExportLibraries) (maxRows : ℤ)
    (history : List (ExportShop × ExportStep)) (shop : ExportShop)
    (request : ExportCreateRequest) (draft : ExportRecord) : ExportRecord → Prop
  | created : Stage libraries maxRows history shop request draft draft
  | failed (reason : String) : Stage libraries maxRows history shop request draft
      (draft.markedFailed reason)
  | ready (output : ExportOutput)
      (generated : Generated libraries maxRows history request draft output)
      (stored : shop.files (draft.id, draft.format) = some output.bytes) :
      Stage libraries maxRows history shop request draft
      (draft.markedReady libraries request output)

/-- A request under way has a new record, and has stored the file that it generated. -/
structure UnderWay (libraries : ExportLibraries) (maxRows : ℤ)
    (history : List (ExportShop × ExportStep)) (shop : ExportShop)
    (id : ℕ) (running : RunningExport) (draft : ExportRecord) : Prop where
  record : shop.records id = some draft
  drafted : Drafted history id running.request draft
  generated : ∀ output ∈ running.output,
    Generated libraries maxRows history running.request draft output
  stored : ∀ output ∈ running.output, shop.files (draft.id, draft.format) = some output.bytes

/-! ## Facts of a history stay facts -/

theorem Drafted.mono (drafted : Drafted history id request draft) :
    Drafted (history ++ later) id request draft := by
  obtain ⟨source, context, report, member, created⟩ := drafted
  exact ⟨source, context, report, List.mem_append_left _ member, created⟩

theorem Generated.mono (generated : Generated libraries maxRows history request draft output) :
    Generated libraries maxRows (history ++ later) request draft output := by
  obtain ⟨source, generation, member, made⟩ := generated
  exact ⟨source, generation, List.mem_append_left _ member, made⟩

private theorem createdRecord_spec {db : Db} {context : RequestContext} {report : ReportContext}
    (created : createdRecord db context report id request = .ok draft) :
    draft.id = id ∧ draft.format = request.format ∧ draft.sourceType = request.sourceType ∧
    draft.status = .created := by
  simp only [createdRecord, Checked.bind_eq_ok, Checked.pure_eq_ok] at created
  obtain ⟨_, _, _, _, storeId, _, _, _, store, _, zone, _, range, _, rfl⟩ := created
  exact ⟨rfl, rfl, rfl, rfl⟩

private theorem Drafted.spec (drafted : Drafted history id request draft) :
    draft.id = id ∧ draft.format = request.format ∧ draft.sourceType = request.sourceType ∧
    draft.status = .created := by
  obtain ⟨_, _, _, _, created⟩ := drafted
  exact createdRecord_spec created

/-- The files that a record needs are still there. -/
theorem Stage.carry (stage : Stage libraries maxRows history shop request draft record)
    (kept : record.status = .ready → next.files (draft.id, draft.format) = shop.files
      (draft.id, draft.format)) :
    Stage libraries maxRows (history ++ later) next request draft record := by
  cases stage with
  | created => exact .created
  | failed reason => exact .failed reason
  | ready output generated stored => exact .ready output generated.mono ((kept rfl).trans stored)

private theorem UnderWay.carry {running : RunningExport}
    (underWay : UnderWay libraries maxRows history shop id running draft)
    (sameRecord : next.records id = shop.records id)
    (sameFile : next.files (draft.id, draft.format) = shop.files (draft.id, draft.format)) :
    UnderWay libraries maxRows (history ++ later) next id running draft where
  record := sameRecord.trans underWay.record
  drafted := underWay.drafted.mono
  generated output member := (underWay.generated output member).mono
  stored output member := sameFile.trans (underWay.stored output member)

/-! ## What a step does -/

/-- What a step changes: the tables of the reports, or what belongs to one export. -/
inductive ExportEffect (libraries : ExportLibraries) (maxRows : ℤ) (shop : ExportShop) :
    ExportStep → ExportShop → Prop
  | change (reportDb : ReportDb) (db : Db) :
      ExportEffect libraries maxRows shop (.change reportDb db) { shop with reportDb, db }
  | create (context : RequestContext) (report : ReportContext) (id : ℕ)
      (request : ExportCreateRequest) (draft : ExportRecord)
      (created : createdRecord shop.db context report id request = .ok draft)
      (newRecord : shop.records id = none) (newRequest : shop.running id = none) :
      ExportEffect libraries maxRows shop (.create context report id request)
        ((shop.setRecord id draft).setRunning id (some { request }))
  | fail (generation : Generation) (id : ℕ) (running : RunningExport) (record : ExportRecord)
      (reason : String) (isRunning : shop.running id = some running)
      (isRecord : shop.records id = some record) :
      ExportEffect libraries maxRows shop (.generate generation id)
        ((shop.setRecord id (record.markedFailed reason)).setRunning id none)
  | write (generation : Generation) (id : ℕ) (running : RunningExport) (record : ExportRecord)
      (output : ExportOutput) (isRunning : shop.running id = some running)
      (isRecord : shop.records id = some record)
      (made : generateExport libraries maxRows shop.reportDb generation record running.request =
      .ok output) :
      ExportEffect libraries maxRows shop (.generate generation id)
        ((shop.setFile (id, record.format) output.bytes).setRunning id
        (some { running with output := some output }))
  | finish (id : ℕ) (running : RunningExport) (record : ExportRecord) (output : ExportOutput)
      (isRunning : shop.running id = some running) (isRecord : shop.records id = some record)
      (isOutput : running.output = some output) :
      ExportEffect libraries maxRows shop (.finish id)
        ((shop.setRecord id (record.markedReady libraries running.request output)).setRunning
        id none)
  | stop (id : ℕ) : ExportEffect libraries maxRows shop (.stop id) (shop.setRunning id none)

private theorem exportStep_ok {step : ExportStep}
    (committed : exportStep libraries maxRows shop step = .ok next) :
    ExportEffect libraries maxRows shop step next := by
  cases step with
  | change reportDb db =>
    obtain rfl := Except.ok.inj committed
    exact .change reportDb db
  | create context report id request =>
    simp only [exportStep, Checked.bind_eq_ok, Checked.ensure_eq_ok, exists_const,
      Checked.pure_eq_ok, Option.isNone_iff_eq_none] at committed
    obtain ⟨draft, created, ⟨newRecord, newRequest⟩, rfl⟩ := committed
    exact .create context report id request draft created newRecord newRequest
  | generate generation id =>
    simp only [exportStep, Checked.bind_eq_ok, Checked.fetch_eq_ok, Checked.ensure_eq_ok,
      exists_const] at committed
    obtain ⟨running, isRunning, record, isRecord, _, committed⟩ := committed
    split at committed
    · next reason _ =>
      obtain rfl := Checked.pure_eq_ok.mp committed
      exact .fail generation id running record reason isRunning isRecord
    · next output made =>
      obtain rfl := Checked.pure_eq_ok.mp committed
      exact .write generation id running record output isRunning isRecord made
  | finish id =>
    simp only [exportStep, Checked.bind_eq_ok, Checked.fetch_eq_ok, Checked.pure_eq_ok] at committed
    obtain ⟨running, isRunning, record, isRecord, output, isOutput, rfl⟩ := committed
    exact .finish id running record output isRunning isRecord isOutput
  | stop id =>
    obtain rfl := Except.ok.inj committed
    exact .stop id

/-! ## Every step keeps the records traced -/

/-- The record of a request under way is new. -/
theorem UnderWay.created {running : RunningExport}
    (underWay : UnderWay libraries maxRows history shop id running draft) :
    draft.id = id ∧ draft.status = .created :=
  ⟨underWay.drafted.spec.1, underWay.drafted.spec.2.2.2⟩

/-- A step leaves an export alone. -/
structure SameExport (shop next : ExportShop) (id : ℕ) : Prop where
  records : next.records id = shop.records id
  running : next.running id = shop.running id
  files : ∀ format, next.files (id, format) = shop.files (id, format)

/-- An export is accounted for: its record, if there is one, and its request, if it is under way. -/
structure TracedAt (libraries : ExportLibraries) (maxRows : ℤ)
    (history : List (ExportShop × ExportStep)) (shop : ExportShop)
    (id : ℕ) : Prop where
  record : ∀ record, shop.records id = some record → ∃ request draft,
    Drafted history id request draft ∧ Stage libraries maxRows history shop request draft record
  running : ∀ running, shop.running id = some running → ∃ draft,
    UnderWay libraries maxRows history shop id running draft

private theorem TracedAt.carry (traced : TracedAt libraries maxRows history shop id)
    (same : SameExport shop next id) :
    TracedAt libraries maxRows (history ++ later) next id where
  record record isRecord := by
    obtain ⟨request, draft, drafted, stage⟩ :=
      traced.record record (same.records.symm.trans isRecord)
    refine ⟨request, draft, drafted.mono, stage.carry fun _ => ?_⟩
    rw [drafted.spec.1]
    exact same.files draft.format
  running running isRunning := by
    obtain ⟨draft, underWay⟩ := traced.running running (same.running.symm.trans isRunning)
    refine ⟨draft, underWay.carry same.records ?_⟩
    rw [underWay.created.1]
    exact same.files draft.format

/-- The export that a step is about. -/
def ExportStep.exportId : ExportStep → Option ℕ
  | .change _ _ => none
  | .create _ _ id _ | .generate _ id | .finish id | .stop id => some id

theorem ExportEffect.same {step : ExportStep}
    (effect : ExportEffect libraries maxRows shop step next) {other : ℕ}
    (elsewhere : step.exportId ≠ some other) : SameExport shop next other := by
  cases effect with
  | change reportDb db => exact ⟨rfl, rfl, fun _ => rfl⟩
  | create _ _ id =>
    have apart : other ≠ id := fun same => elsewhere (same ▸ rfl)
    exact ⟨Function.update_of_ne apart _ _, Function.update_of_ne apart _ _, fun _ => rfl⟩
  | fail _ id =>
    have apart : other ≠ id := fun same => elsewhere (same ▸ rfl)
    exact ⟨Function.update_of_ne apart _ _, Function.update_of_ne apart _ _, fun _ => rfl⟩
  | write _ id _ record =>
    have apart : other ≠ id := fun same => elsewhere (same ▸ rfl)
    refine ⟨rfl, Function.update_of_ne apart _ _, fun format => ?_⟩
    have paths : ((other, format) : ExportPath) ≠ (id, record.format) := fun same =>
      apart (congrArg Prod.fst same)
    exact Function.update_of_ne paths _ _
  | finish id =>
    have apart : other ≠ id := fun same => elsewhere (same ▸ rfl)
    exact ⟨Function.update_of_ne apart _ _, Function.update_of_ne apart _ _, fun _ => rfl⟩
  | stop id =>
    have apart : other ≠ id := fun same => elsewhere (same ▸ rfl)
    exact ⟨rfl, Function.update_of_ne apart _ _, fun _ => rfl⟩

/-- The request of a traced export has the record that its id names. -/
theorem TracedAt.underWay (traced : TracedAt libraries maxRows history shop id)
    {running : RunningExport} (isRunning : shop.running id = some running)
    (isRecord : shop.records id = some record) :
    UnderWay libraries maxRows history shop id running record := by
  obtain ⟨draft, underWay⟩ := traced.running running isRunning
  obtain rfl := Option.some.inj (underWay.record.symm.trans isRecord)
  exact underWay

/-- The export that a step is about stays accounted for. -/
theorem ExportEffect.traced {step : ExportStep}
    (effect : ExportEffect libraries maxRows shop step next)
    (traced : TracedAt libraries maxRows history shop id) (about : step.exportId = some id) :
    TracedAt libraries maxRows (history ++ [(shop, step)]) next id := by
  cases effect with
  | change => exact nomatch about
  | create context report _ request draft created =>
    obtain rfl := Option.some.inj about
    have drafted : Drafted (history ++ [(shop, .create context report _ request)]) _ request
        draft :=
      ⟨shop, context, report, List.mem_append_right _ (List.mem_singleton_self _), created⟩
    constructor
    · intro record isRecord
      obtain rfl : draft = record := by
        simpa [ExportShop.setRecord, ExportShop.setRunning] using isRecord
      exact ⟨request, draft, drafted, .created⟩
    · intro running isRunning
      obtain rfl : { request } = running := by
        simpa [ExportShop.setRecord, ExportShop.setRunning] using isRunning
      exact ⟨draft, by simp [ExportShop.setRecord, ExportShop.setRunning],
        drafted, by simp, by simp⟩
  | fail _ _ running record reason isRunning isRecord =>
    obtain rfl := Option.some.inj about
    have underWay := traced.underWay isRunning isRecord
    constructor
    · intro failed isFailed
      obtain rfl : record.markedFailed reason = failed := by
        simpa [ExportShop.setRecord, ExportShop.setRunning] using isFailed
      exact ⟨_, record, underWay.drafted.mono, .failed reason⟩
    · intro other isOther
      simp [ExportShop.setRunning] at isOther
  | write generation _ running record output isRunning isRecord made =>
    obtain rfl := Option.some.inj about
    have underWay := traced.underWay isRunning isRecord
    have sameId := underWay.created.1
    constructor
    · intro same isSame
      obtain rfl := Option.some.inj (underWay.record.symm.trans isSame)
      exact ⟨_, record, underWay.drafted.mono, .created⟩
    · intro other isOther
      obtain rfl : { running with output := some output } = other := by
        simpa [ExportShop.setRunning] using isOther
      refine ⟨record, underWay.record, underWay.drafted.mono, fun another member => ?_,
        fun another member => ?_⟩
      · obtain rfl := Option.some.inj member
        refine ⟨shop, generation, List.mem_append_right _ ?_, made⟩
        rw [sameId]
        exact List.mem_singleton_self _
      · obtain rfl := Option.some.inj member
        rw [sameId]
        exact Function.update_self ..
  | finish _ running record output isRunning isRecord isOutput =>
    obtain rfl := Option.some.inj about
    have underWay := traced.underWay isRunning isRecord
    constructor
    · intro ready isReady
      obtain rfl : record.markedReady libraries running.request output = ready := by
        simpa [ExportShop.setRecord, ExportShop.setRunning] using isReady
      exact ⟨_, record, underWay.drafted.mono,
        .ready output (underWay.generated output isOutput).mono (underWay.stored output isOutput)⟩
    · intro other isOther
      simp [ExportShop.setRunning] at isOther
  | stop =>
    obtain rfl := Option.some.inj about
    constructor
    · intro record isRecord
      obtain ⟨request, draft, drafted, stage⟩ := traced.record record isRecord
      exact ⟨request, draft, drafted.mono, stage.carry fun _ => rfl⟩
    · intro other isOther
      simp [ExportShop.setRunning] at isOther

/-- Every export comes from the requests of the history. -/
def Traced (libraries : ExportLibraries) (maxRows : ℤ) (history : List (ExportShop × ExportStep))
    (shop : ExportShop) : Prop :=
  ∀ id, TracedAt libraries maxRows history shop id

theorem Traced.commit {step : ExportStep} (traced : Traced libraries maxRows history shop)
    (committed : exportStep libraries maxRows shop step = .ok next) :
    Traced libraries maxRows (history ++ [(shop, step)]) next := by
  intro id
  have effect := exportStep_ok committed
  by_cases about : step.exportId = some id
  · exact effect.traced (traced id) about
  · exact (traced id).carry (effect.same about)

/-- A shop without exports. -/
structure NoExports (shop : ExportShop) : Prop where
  records : ∀ id, shop.records id = none
  running : ∀ id, shop.running id = none

private theorem traced_run (run : Run (exportStep libraries maxRows) start history last)
    (fresh : NoExports start) :
    Traced libraries maxRows history last := by
  apply run.traced
  · intro id
    constructor
    · intro record isRecord
      exact nomatch (fresh.records id).symm.trans isRecord
    · intro running isRunning
      exact nomatch (fresh.running id).symm.trans isRunning
  · intro before source step next traced committed
    exact traced.commit committed

/-! ## What is ready stays -/

theorem ExportEffect.kept {step : ExportStep}
    (effect : ExportEffect libraries maxRows shop step next)
    (traced : Traced libraries maxRows history shop) (isRecord : shop.records id = some record)
    (ready : record.status = .ready) :
    next.records id = some record ∧ ∀ format, next.files (id, format) = shop.files
    (id, format) := by
  by_cases about : step.exportId = some id
  · -- Only a request that is under way reaches its record, and the record of such a request is new.
    have notRunning : shop.running id = none := by
      rcases busy : shop.running id with _ | running
      · rfl
      · have created := ((traced id).underWay busy isRecord).created.2
        rw [ready] at created
        contradiction
    cases effect with
    | change => exact nomatch about
    | create _ _ _ _ _ _ newRecord =>
      obtain rfl := Option.some.inj about
      exact nomatch newRecord.symm.trans isRecord
    | fail _ _ running _ _ isRunning | write _ _ running _ _ isRunning
    | finish _ running _ _ isRunning =>
      obtain rfl := Option.some.inj about
      exact nomatch notRunning.symm.trans isRunning
    | stop => exact ⟨isRecord, fun _ => rfl⟩
  · have same := effect.same about
    exact ⟨same.records.trans isRecord, same.files⟩

private theorem kept_run (run : Run (exportStep libraries maxRows) shop later last)
    (traced : Traced libraries maxRows history shop) (isRecord : shop.records id = some record)
    (ready : record.status = .ready) :
    last.records id = some record ∧ ∀ format, last.files (id, format) = shop.files
    (id, format) := by
  induction run generalizing history with
  | finish => exact ⟨isRecord, fun _ => rfl⟩
  | commit committed _ ih =>
    obtain ⟨same, files⟩ := (exportStep_ok committed).kept traced isRecord ready
    obtain ⟨still, later⟩ := ih (traced.commit committed) same
    exact ⟨still, fun format => (later format).trans (files format)⟩

/-! ## Downloads -/

/-- What a download hands out is the ready record's file. -/
theorem downloadExport_ok {context : RequestContext} {download : ExportDownload}
    (downloaded : downloadExport libraries shop context id = .ok download) :
    ∃ record path mediaType bytes, shop.records id = some record ∧
    some record.tenantId = context.tokenData.tenantId ∧
      record.status = .ready ∧ record.filePath = some path ∧ record.contentType = some mediaType ∧
      shop.files path = some bytes ∧
      download = ⟨bytes, mediaType, record.fileName.getD ("export-".toList ++
        libraries.idText record.id ++ '.' :: record.format.value)⟩ := by
  simp only [downloadExport, Checked.bind_eq_ok, Checked.fetch_eq_ok, Option.filter_eq_some_iff,
    decide_eq_true_eq] at downloaded
  obtain ⟨_, _, record, ⟨isRecord, ofTenant⟩, _, _, downloaded⟩ := downloaded
  split at downloaded
  · next path mediaType ready isPath isType =>
    simp only [Checked.bind_eq_ok, Checked.fetch_eq_ok, Checked.pure_eq_ok] at downloaded
    obtain ⟨bytes, stored, rfl⟩ := downloaded
    exact ⟨record, path, mediaType, bytes, isRecord, ofTenant, ready, isPath, isType, stored, rfl⟩
  · exact absurd downloaded Checked.throw_ne_ok

/-- What is generated is the file of the report, with the number of its rows. -/
theorem generateExport_ok {reportDb : ReportDb} {generation : Generation}
    (made : generateExport libraries maxRows reportDb generation draft request = .ok output) :
    ∃ dataset, buildReportDataset generation.report reportDb request.sourceType
    (reportRequest draft request.filters) =
        .ok dataset ∧ renderExportBytes libraries draft generation.generatedAt dataset =
        some output.bytes ∧
      output.rowCount = dataset.rows.length := by
  rw [generateExport] at made
  split at made
  · contradiction
  · next dataset built =>
    split at made
    · contradiction
    · split at made
      · next bytes rendered =>
        split at made
        · obtain rfl := Except.ok.inj made
          exact ⟨dataset, built, rendered, rfl⟩
        · contradiction
      · contradiction

private theorem readExportFile_renderCsv {dataset : ExportDataset} :
    readExportFile (String.ofList (renderCsv dataset)).toUTF8 = readExport (renderCsv dataset) := by
  have valid : (String.ofList (renderCsv dataset)).toUTF8.IsValidUTF8 :=
    (String.ofList (renderCsv dataset)).isValidUTF8
  have decoded : String.fromUTF8 (String.ofList (renderCsv dataset)).toUTF8 valid = String.ofList
    (renderCsv dataset) := rfl
  rw [readExportFile, String.fromUTF8?, dif_pos valid, Option.bind_some, decoded,
    String.toList_ofList]

end

/-- A download hands out the report that its request asked for, of the tables at one moment of the
run. -/
structure IsReport (libraries : ExportLibraries) (history : List (ExportShop × ExportStep))
    (last : ExportShop) (tokenData : TokenData) (id : ℕ) (download : ExportDownload)
    (request : ExportCreateRequest) (draft : ExportRecord) (source : ExportShop)
    (generation : Generation) (dataset : ExportDataset) : Prop where
  drafted : Drafted history id request draft
  ofTenant : some draft.tenantId = tokenData.tenantId
  generated : (source, .generate generation id) ∈ history
  built : buildReportDataset generation.report source.reportDb request.sourceType
    (reportRequest draft request.filters) = .ok dataset
  rendered : renderExportBytes libraries draft generation.generatedAt dataset = some download.bytes
  recorded : ∃ record, last.records id = some record ∧ record.rowCount = dataset.rows.length ∧
    record.checksumSha256 = some (libraries.sha256 download.bytes) ∧
    record.fileSizeBytes = some download.bytes.size
  readable : request.format = .csv →
    (∀ row ∈ dataset.rows, ∀ day, .date day ∈ row → -epochOrdinal < day) →
    readExportFile download.bytes = some (dataset.columns, dataset.rows.map (·.map Cell.rounded))

namespace Sample

/-- The user of the store, who may read its reports. -/
def clerk : RequestContext where
  tokenData := { tenantId := some 1, storeId := some 1, role := some "USER" }
  permits := fun _ => true
  now := 0

/-- Libraries that render no spreadsheets and documents, and digest a file to its size. -/
def plainLibraries : ExportLibraries where
  xlsx := fun _ => none
  pdf := fun _ _ _ _ => none
  sha256 := fun bytes => toString bytes.size
  formatText := ExportFormat.value
  idText := fun id => (toString id).toList

/-- The store that sold at a loss. -/
def quietShop : ExportShop where
  reportDb := soldAtLoss
  db := { stores := [⟨1, 1⟩] }

private theorem quietShop_fresh : NoExports quietShop := ⟨fun _ => rfl, fun _ => rfl⟩

/-- A request for the calendar of the day. -/
def askCalendar (id : ℕ) : ExportStep :=
  .create clerk midnight id
    { sourceType := .reportsCalendar, format := .csv, filters := {}, transactionId := some "t1" }

/-- The calendar is asked for, the tables lose their sales before its file is made, and the record
is marked ready. -/
def calendarSteps : List ExportStep :=
  [askCalendar 1, .change { soldAtLoss with sales := [] } { stores := [⟨1, 1⟩] },
    .generate { report := midnight, generatedAt := 5 } 1, .finish 1]

private theorem calendar_commits :
    (recordRun (exportStep plainLibraries 0) quietShop calendarSteps).isSome = true := by
  decide +kernel

def exported : List (ExportShop × ExportStep) × ExportShop :=
  (recordRun (exportStep plainLibraries 0) quietShop calendarSteps).get calendar_commits

private theorem exported_downloads :
    (downloadExport plainLibraries exported.2 clerk 1).toOption.isSome = true := by
  decide +kernel

def downloaded : ExportDownload :=
  (downloadExport plainLibraries exported.2 clerk 1).toOption.get exported_downloads

end Sample

namespace Sample

/-- The tables change back, and the calendar is asked for again. -/
def againSteps : List ExportStep :=
  [.change soldAtLoss { stores := [⟨1, 1⟩] }, askCalendar 2,
    .generate { report := midnight, generatedAt := 9 } 2,
    .finish 2]

private theorem again_commits :
    (recordRun (exportStep plainLibraries 0) exported.2 againSteps).isSome = true := by
  decide +kernel

def exportedAgain : List (ExportShop × ExportStep) × ExportShop :=
  (recordRun (exportStep plainLibraries 0) exported.2 againSteps).get again_commits

end Sample

end ArisCloud.Reports

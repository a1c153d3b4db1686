import ArisCloud.Proofs.TransferAcceptance
import ArisCloud.Soundness.TransferRuns

/-! # Shortage reports

What may be reported missing of a line is what is outstanding and not reported yet. The resolution
of shortages leaves out what was found or lost since it was reported, the report does not: it
compares all units ever reported with what is outstanding. So a unit that was found, or lost and
taken off what is outstanding, still counts against the next report.
-/

namespace ArisCloud

open KeyedRows Requests Shipments

/-! ## What reports should do -/

/-- The report that some units of a line are missing. -/
def Officer.reports (officer : Officer) (transfer : Transfer) (line : TransferLine) (qty : ℤ) :
    TransferRequest :=
  officer.request transfer.id (.reportShortages [⟨line.id, qty⟩])

/-- The loss of some units of a line. -/
def Officer.loses (officer : Officer) (transfer : Transfer) (line : TransferLine) (qty : ℤ) :
    TransferRequest :=
  officer.request transfer.id (.resolveShortages .lostInRoute [⟨line.id, qty⟩])

def IsAccepted (db : Db) (request : TransferRequest) : Prop :=
  ∃ after, transferStep db request = .ok after

/-- What is outstanding of a line and not reported. -/
def reportable (db : Db) (transfer : Transfer) (line : TransferLine) : ℤ :=
  (shipmentLedger db transfer.id line.id).outstanding - (shipmentLedger db transfer.id
    line.id).missing

/-- Exactly the unreported units can be reported, and then all that is outstanding can be lost. -/
structure ReportsExact (db : Db) (officer : Officer) (transfer : Transfer) (line : TransferLine) :
    Prop where
  reports : ∀ qty, IsAccepted db (officer.reports transfer line qty) ↔ 1 ≤ qty ∧
    qty ≤ reportable db transfer line
  settles : 0 < (shipmentLedger db transfer.id line.id).outstanding → ∃ reported,
    (reported = db ∨ transferStep db (officer.reports transfer line (reportable db transfer line)) =
    .ok reported) ∧
      IsAccepted reported
      (officer.loses transfer line (shipmentLedger db transfer.id line.id).outstanding)

/-- The rows in transit that a loss on a line may take. -/
def lossRows (db : Db) (transfer : Transfer) (line : TransferLine) : ℕ :=
  db.stock.rows.countP (lostSelector transfer line)

/-! ## What is accepted -/

section Acceptance

variable {db : Db} {officer : Officer} {transfer : Transfer} {line : TransferLine} {qty : ℤ}

/-- A transfer on its way, one of its lines, and identifiers that lead to them. -/
structure Shipped (db : Db) (transfer : Transfer) (line : TransferLine) : Prop where
  member : transfer ∈ db.transfers
  enRoute : transfer.status.isEnRoute = true
  inLines : line ∈ getLines db transfer.id
  untagged : line.lineType = .sku
  distinct : (db.transfers.map (·.id)).Nodup
  lineIds : (db.transferLines.map (·.id)).Nodup

theorem Shipped.found (shipped : Shipped db transfer line) :
    findTransfer db transfer.tenantId transfer.id = .ok transfer :=
  findTransfer_of_mem shipped.distinct shipped.member

private theorem Shipped.foundLine (shipped : Shipped db transfer line) :
    findTransferLine (getLines db transfer.id) line.id = .ok line :=
  findTransferLine_of_mem shipped.lineIds shipped.inLines

theorem Officer.MayResolve.step (may : officer.MayResolve transfer)
    (shipped : Shipped db transfer line) {action : TransferAction} :
    transferStep db (officer.request transfer.id action) =
      transferAction db officer.context transfer action := may.toMayAct.step (by simp) shipped.found

/-- A report is accepted when all units of the line ever reported, with the new ones, are
outstanding. -/
theorem isAccepted_reports_iff (may : officer.MayResolve transfer)
    (shipped : Shipped db transfer line) :
    IsAccepted db (officer.reports transfer line qty) ↔
      1 ≤ qty ∧ 0 < (getMovementTotals db transfer.id).outstandingTotal ∧
        qty + (shipmentLedger db transfer.id line.id).reported ≤
          max (shipmentLedger db transfer.id line.id).outstanding 0 := by
  have untagged := shipped.untagged
  simp only [IsAccepted, Officer.reports, may.step shipped, transferAction, reportShortages,
    may.permitted, may.destination, reportShortageLine, List.foldlM_cons, List.foldlM_nil,
    Checked.bind_eq_ok, Checked.ensure_eq_ok, exists_const,
    Checked.pure_eq_ok, shipped.foundLine, shipped.enRoute, Except.ok.injEq]
  constructor
  · rintro ⟨_, _, _, _, _, total, _, ⟨_, ⟨_, rfl, positive, _, bound, _⟩, _⟩, _⟩
    exact ⟨positive, total, bound⟩
  · rintro ⟨positive, total, bound⟩
    exact ⟨_, trivial, trivial, trivial, by simp, total, _,
      ⟨_, ⟨line, rfl, positive, by simp [untagged], bound, rfl⟩, rfl⟩,
      rfl⟩

/-- The rows of a loss on untagged units: the oldest ones of the line in transit, when there are
enough. -/
theorem lostRows_sku {session : StockSession} {rows : List StockItem}
    (untagged : line.lineType = .sku) :
    lostRows session transfer line qty = .ok rows ↔
      qty ≤ (session.select (lostSelector transfer line) qty.toNat).length ∧
        session.select (lostSelector transfer line) qty.toNat = rows := by
  have selector : lostSelector transfer line = inTransitSkuFilters transfer.tenantId
      (fun storeId => storeId = some transfer.originStoreId || storeId = none)
      line.toStockSnapshot := by
    funext row
    simp only [lostSelector, untagged]
  simp only [lostRows, untagged, selector, Checked.bind_eq_ok, Checked.ensure_eq_ok, exists_const,
    Checked.pure_eq_ok]

private theorem le_length_select_iff {session : StockSession} {matching : StockItem → Bool} :
    qty ≤ (session.select matching qty.toNat).length ↔
    qty ≤ session.flushed.rows.countP matching := by
  rw [StockSession.select, List.length_map, length_oldest]
  omega

/-- A loss is accepted when it is reported and enough rows in transit are those of the line. -/
theorem isAccepted_loses_iff (may : officer.MayResolve transfer)
    (shipped : Shipped db transfer line) :
    IsAccepted db (officer.loses transfer line qty) ↔
      1 ≤ qty ∧ qty ≤ max (shipmentLedger db transfer.id line.id).missing 0 ∧
      qty ≤ lossRows db transfer line := by
  have untagged := shipped.untagged
  simp only [IsAccepted, Officer.loses, may.step shipped, transferAction, resolveShortages,
    may.permitted, may.destination, resolveShortageLine, List.foldlM_cons, List.foldlM_nil,
    Checked.bind_eq_ok, Checked.ensure_eq_ok, exists_const,
    Checked.pure_eq_ok, shipped.foundLine, shipped.enRoute, Except.ok.injEq]
  constructor
  · rintro ⟨_, _, _, _, _, _, _, ⟨_, ⟨_, rfl, positive, _, remaining, _, lost, _⟩, _⟩, _⟩
    exact ⟨positive, remaining, le_length_select_iff.mp ((lostRows_sku untagged).mp lost).1⟩
  · rintro ⟨positive, remaining, enough⟩
    let rows := StockSession.select { flushed := db.stock } (lostSelector transfer line) qty.toNat
    obtain ⟨table, committed⟩ :=
      (StockSession.delete { flushed := db.stock } (rows.map (·.id))).commit_of_deletions_only
      rfl rfl
    exact ⟨_, trivial, trivial, trivial, by simp, fun _ => may.manager, _,
      ⟨_, ⟨line, rfl, positive, by simp [untagged],
      remaining, _, (lostRows_sku untagged).mpr ⟨le_length_select_iff.mpr enough, rfl⟩, rfl⟩, rfl⟩,
      table, committed, rfl⟩

/-- A report that is within what is outstanding finds something outstanding on its transfer. -/
theorem isAccepted_reports_of_outstanding (invariant : LineInvariant db)
    (may : officer.MayResolve transfer) (shipped : Shipped db transfer line) :
    IsAccepted db (officer.reports transfer line qty) ↔
      1 ≤ qty ∧ qty + (shipmentLedger db transfer.id line.id).reported ≤
        max (shipmentLedger db transfer.id line.id).outstanding 0 := by
  rw [isAccepted_reports_iff may shipped]
  have reported := invariant.movedQty_nonneg transfer.id line.id .shortageReported
  constructor
  · rintro ⟨positive, _, bound⟩
    exact ⟨positive, bound⟩
  · rintro ⟨positive, bound⟩
    refine ⟨positive, ?_, bound⟩
    by_contra none
    have empty : (getMovementTotals db transfer.id).outstandingTotal = 0 :=
      le_antisymm (not_lt.mp none) (MovementTotals.outstandingTotal_nonneg _)
    have settled := (tracks_getMovementTotals db transfer.id).outstanding_nonpos empty line.id
    rw [← outstanding_shipmentLedger] at settled
    simp only [shipmentLedger] at settled bound
    omega

/-! ## A report and the loss after it -/

variable {reported : Db}

private theorem reports_ok (shipped : Shipped db transfer line)
    (success : transferStep db (officer.reports transfer line qty) = .ok reported) :
    ∃ movements, ReportStep db reported transfer [⟨line.id, qty⟩] movements := by
  have effect := transferStep_ok success
  rw [Officer.reports, Officer.request] at effect
  cases effect with
  | reported other target movements step =>
    obtain rfl := eq_of_key_eq shipped.distinct target.member shipped.member target.id
    exact ⟨movements, step⟩

/-- A report posts its units to the ledger of its line and moves nothing. -/
structure ReportPosted (db reported : Db) (transfer : Transfer) (line : TransferLine) (qty : ℤ) :
    Prop where
  shipped : Shipped reported transfer line
  lossRows : lossRows reported transfer line = lossRows db transfer line
  ledger : shipmentLedger reported transfer.id line.id =
    (shipmentLedger db transfer.id line.id).post qty .report

private theorem reportPosted_of_ok (shipped : Shipped db transfer line)
    (success : transferStep db (officer.reports transfer line qty) = .ok reported) :
    ReportPosted db reported transfer line qty := by
  obtain ⟨movements, step⟩ := reports_ok shipped success
  have appended : reported.transferMovements = db.transferMovements ++ movements := by
    rw [step.tables]
  have ledger := step.writes.shipmentLedger appended transfer.id line.id
  rw [if_pos rfl] at ledger
  constructor
  · rw [step.tables]
    exact ⟨shipped.member, shipped.enRoute, shipped.inLines, shipped.untagged, shipped.distinct,
      shipped.lineIds⟩
  · rw [step.tables]
    rfl
  · rw [ledger]
    simp [Tally.askedQty, TransferShortageLine.asked, MovementAction.entry, Tally.sumWhere]

/-- The reports of a line are exact, and its outstanding units can be lost, exactly when no shortage
of it was explained yet or none is due, and there are rows in transit for all that is
outstanding. -/
theorem reportsExact_iff (invariant : LineInvariant db) (may : officer.MayResolve transfer)
    (shipped : Shipped db transfer line) : ReportsExact db officer transfer line ↔
      ((shipmentLedger db transfer.id line.id).found = 0 ∧
        (shipmentLedger db transfer.id line.id).lost = 0 ∨
        (shipmentLedger db transfer.id line.id).outstanding ≤
        (shipmentLedger db transfer.id line.id).missing) ∧
      (shipmentLedger db transfer.id line.id).outstanding ≤ lossRows db transfer line := by
  have check : (∀ qty, IsAccepted db (officer.reports transfer line qty) ↔ 1 ≤ qty ∧
      qty ≤ reportable db transfer line) ↔ (shipmentLedger db transfer.id line.id).found = 0 ∧
      (shipmentLedger db transfer.id line.id).lost = 0 ∨
        (shipmentLedger db transfer.id line.id).outstanding ≤
        (shipmentLedger db transfer.id line.id).missing := by
    simp only [isAccepted_reports_of_outstanding invariant may shipped, reportable]
    exact Ledger.report_check_iff (invariant.movedQty_nonneg _ _ _)
      (invariant.movedQty_nonneg _ _ _) (invariant.movedQty_nonneg _ _ _)
  constructor
  · rintro ⟨reports, settles⟩
    refine ⟨check.mp reports, ?_⟩
    by_cases something : 0 < (shipmentLedger db transfer.id line.id).outstanding
    · obtain ⟨reported, rfl | posted, lost⟩ := settles something
      · exact ((isAccepted_loses_iff may shipped).mp lost).2.2
      · have posted := reportPosted_of_ok shipped posted
        exact posted.lossRows ▸ ((isAccepted_loses_iff may posted.shipped).mp lost).2.2
    · omega
  · rintro ⟨explained, enough⟩
    have reports := check.mpr explained
    refine ⟨reports, fun something => ?_⟩
    by_cases due : 1 ≤ reportable db transfer line
    · obtain ⟨reported, success⟩ := (reports _).mpr ⟨due, le_rfl⟩
      have posted := reportPosted_of_ok shipped success
      refine ⟨reported, .inr success, (isAccepted_loses_iff may posted.shipped).mpr
        ⟨something, ?_, ?_⟩⟩
      · rw [posted.ledger]
        simp only [reportable, Ledger.post, Ledger.missing] at due ⊢
        omega
      · rwa [posted.lossRows]
    · refine ⟨db, .inl rfl, (isAccepted_loses_iff may shipped).mpr ⟨something, ?_, enough⟩⟩
      simp only [reportable] at due
      omega

end Acceptance

/-- In every state a run of transfer requests reaches, the reports of a line of a transfer on its
way are exact, and all that is outstanding of it can be reported and lost, exactly when nothing of
it was found or lost before, or no report is due, and there are rows in transit for all that is
outstanding. -/
theorem shortage_reports_exact_iff (start db : Db) (noTransfers : start.transfers = [])
    (noLines : start.transferLines = []) (noMovements : start.transferMovements = [])
    (reached : Reachable transferStep (fun _ _ => True) start db) (officer : Officer)
    (transfer : Transfer) (line : TransferLine) (member : transfer ∈ db.transfers)
    (enRoute : transfer.status.isEnRoute = true) (inLines : line ∈ getLines db transfer.id)
    (untagged : line.lineType = .sku) (may : officer.MayResolve transfer) :
    ReportsExact db officer transfer line ↔
      ((shipmentLedger db transfer.id line.id).found = 0 ∧
        (shipmentLedger db transfer.id line.id).lost = 0 ∨
        (shipmentLedger db transfer.id line.id).outstanding ≤
        (shipmentLedger db transfer.id line.id).missing) ∧
      (shipmentLedger db transfer.id line.id).outstanding ≤ lossRows db transfer line := by
  have agrees : StatusInvariant db := reached.invariant (.initial noTransfers noMovements)
    fun _ _ _ invariant _ success => invariant.step success
  have invariant : LineInvariant db := reached.invariant ⟨by simp [noLines], by simp [noMovements]⟩
    fun _ _ _ invariant _ success => invariant.step success
  exact reportsExact_iff invariant may ⟨member, enRoute, inLines, untagged, agrees.distinct,
    invariant.lineIds⟩

namespace Sample

def officer : Officer := { context, transactionId := some "resolve" }

/-- The trip of two jackets after one of them arrived. -/
def jacketTrip : Transfer :=
  { id := 1, tenantId := 1, originStoreId := 10, destinationStoreId := 20,
    status := .partialReceived, createdAt := 100, dispatchedAt := some 100 }

def jacketLine : TransferLine :=
  { jacket with id := 1, transferId := 1, tenantId := 1, lineType := .sku, qty := 2,
                qtyPositive := by decide }

private theorem officer_mayResolve : officer.MayResolve jacketTrip where
  permitted := rfl
  signed := rfl
  tenant := rfl
  destination := Checked.ensure_eq_ok.mpr (.inl (by decide +kernel))
  manager := .inr (.inr rfl)

end Sample

theorem shortage_reports_exact_iff_partly_received :
    ReportsExact Sample.partlyReceived Sample.officer Sample.jacketTrip Sample.jacketLine ↔
      ((shipmentLedger Sample.partlyReceived 1 1).found = 0 ∧
        (shipmentLedger Sample.partlyReceived 1 1).lost = 0 ∨
        (shipmentLedger Sample.partlyReceived 1 1).outstanding ≤
        (shipmentLedger Sample.partlyReceived 1 1).missing) ∧
      (shipmentLedger Sample.partlyReceived 1 1).outstanding ≤
        lossRows Sample.partlyReceived Sample.jacketTrip Sample.jacketLine :=
  shortage_reports_exact_iff Sample.db Sample.partlyReceived rfl rfl rfl (reachable_of_runAllowed
    (Option.some_get _).symm) Sample.officer Sample.jacketTrip Sample.jacketLine
    (by decide +kernel) rfl (by decide +kernel) rfl
    Sample.officer_mayResolve

namespace Sample

/-- The jacket that did not arrive is reported, found and sent again. -/
def jacketFound : List TransferRequest :=
  [act 1 (.reportShortages [⟨1, 1⟩]), act 1 (.resolveShortages .foundAndResend [⟨1, 1⟩])]

private theorem jacketFound_commits :
    (runAllowed transferStep (fun _ _ => True) partlyReceived jacketFound).isSome = true := by
  decide +kernel

def foundAgain : Db :=
  (runAllowed transferStep (fun _ _ => True) partlyReceived jacketFound).get jacketFound_commits

private theorem jacket_shipped : Shipped foundAgain jacketTrip jacketLine :=
  ⟨by decide +kernel, rfl, by decide +kernel, rfl, by decide +kernel, by decide +kernel⟩

end Sample

/-- A jacket that was found cannot be reported missing again. -/
theorem found_jacket_cannot_be_reported :
    ¬ ∀ start db : Db, start.transfers = [] → start.transferLines = [] →
    start.transferMovements = [] →
      Reachable transferStep (fun _ _ => True) start db →
      ∀ (officer : Officer) (transfer : Transfer) (line : TransferLine),
        transfer ∈ db.transfers → transfer.status.isEnRoute = true →
        line ∈ getLines db transfer.id → line.lineType = .sku →
        officer.MayResolve transfer → ReportsExact db officer transfer line := by
  intro exact
  have reached : Reachable transferStep (fun _ _ => True) Sample.db Sample.foundAgain :=
    (reachable_of_runAllowed (Option.some_get _).symm).trans
      (reachable_of_runAllowed (Option.some_get _).symm)
  have due : reportable Sample.foundAgain Sample.jacketTrip Sample.jacketLine = 1 := by
    decide +kernel
  have reports :=
    (exact Sample.db Sample.foundAgain rfl rfl rfl reached Sample.officer Sample.jacketTrip
      Sample.jacketLine
    Sample.jacket_shipped.member rfl Sample.jacket_shipped.inLines
    rfl Sample.officer_mayResolve).reports 1
  have accepted := reports.mpr ⟨le_rfl, due.ge⟩
  have rejected : ¬ 1 + (shipmentLedger Sample.foundAgain 1 1).reported ≤
      max (shipmentLedger Sample.foundAgain 1 1).outstanding 0 := by decide +kernel
  exact rejected
    ((isAccepted_reports_iff Sample.officer_mayResolve Sample.jacket_shipped).mp accepted).2.2

end ArisCloud

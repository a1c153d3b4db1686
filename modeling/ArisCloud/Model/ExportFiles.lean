import ArisCloud.Library.Calendar
import ArisCloud.Library.Csv
import ArisCloud.Library.Decimals
import ArisCloud.Model.Exports

/-! # Export files

`_format_cell`, `render_csv` and `sanitize_filename` of `services/exports.py`. A file is the list of
its characters, and an amount the rational it stands for: the order counts are the only numbers of a
row that are not decimals.
-/

namespace ArisCloud.Reports

/-! ## Contents -/

def LiabilityTenderField.name : LiabilityTenderField → String
  | .liabilityIssuedAdvances => "liability_issued_advances"
  | .liabilityIssuedGiftCards => "liability_issued_gift_cards"
  | .liabilityRedeemedAdvances => "liability_redeemed_advances"
  | .liabilityRedeemedGiftCards => "liability_redeemed_gift_cards"
  | .liabilityRefundedAdvances => "liability_refunded_advances"
  | .liabilityRefundedGiftCards => "liability_refunded_gift_cards"
  | .tenderCashReceived => "tender_cash_received"
  | .tenderCardReceived => "tender_card_received"
  | .tenderTransferReceived => "tender_transfer_received"
  | .tenderTotalReceived => "tender_total_received"

/-- The key of a column in a row. -/
def Column.name : Column → String
  | .businessDate => "business_date"
  | .figure .grossSales => "gross_sales"
  | .figure .refundsTotal => "refunds_total"
  | .figure .netSales => "net_sales"
  | .figure .cogsGross => "cogs_gross"
  | .figure .cogsReversedFromReturns => "cogs_reversed_from_returns"
  | .figure .netCogs => "net_cogs"
  | .figure .netProfit => "net_profit"
  | .figure .ordersPaidCount => "orders_paid_count"
  | .figure .averageTicket => "average_ticket"
  | .figure (.liabilityTender field) => field.name

/-- The number of the first day of 1970 in the calendar. -/
def epochOrdinal : ℤ := 719163

/-- `_format_cell`, and the text that the writer makes of its result. -/
def formatCell (column : Column) : Cell → List Char
  | .date day => (Calendar.ofOrdinal (day + epochOrdinal).toNat).text
  | .number value =>
    if column = .figure .ordersPaidCount then Nat.toDigits 10 value.num.toNat
    else Numerals.amountText (value < 0) (Decimals.roundHalfEven (value * 100)).natAbs

def renderCsv (dataset : ExportDataset) : List Char :=
  let header := dataset.columns.map fun column => column.name.toList
  Csv.write (header :: dataset.rows.map fun row => List.zipWith formatCell dataset.columns row)

/-! ## Names -/

/-- `[A-Za-z0-9._-]`. -/
def isNameChar (c : Char) : Bool := c.isAlphanum || c = '.' || c = '_' || c = '-'

/-- The characters that are stripped from both ends of a name. -/
def isTrimmed (c : Char) : Bool := c = '.' || c = '_' || c = '-'

/-- `os.path.basename`: what follows the last slash. -/
def basename (name : List Char) : List Char := (name.reverse.takeWhile (· ≠ '/')).reverse

/-- `re.sub(r"\.[^.]+$", "", base)`: without the last point and what follows it, unless the name
ends there. -/
def dropExtension (base : List Char) : List Char :=
  let extension := base.reverse.takeWhile (· ≠ '.')
  match extension, base.reverse.dropWhile (· ≠ '.') with
  | _ :: _, _ :: rest => rest.reverse
  | _, _ => base

/-- `re.sub(r"[^A-Za-z0-9._-]+", "_", base)`, with whether the character before was replaced. -/
def replaceRuns (replacing : Bool) : List Char → List Char
  | [] => []
  | c :: rest =>
    if isNameChar c then c :: replaceRuns false rest
    else if replacing then replaceRuns true rest
    else '_' :: replaceRuns true rest

/-- `.strip("._-")`. -/
def stripName (name : List Char) : List Char :=
  ((name.dropWhile isTrimmed).reverse.dropWhile isTrimmed).reverse

/-- The part of a name before the point of the format. -/
def cleanedName (name : List Char) : List Char :=
  stripName (replaceRuns false (dropExtension (basename name)))

/-- `sanitize_filename`, with what its format reads as in the name. -/
def sanitizeFilename (name : Option (List Char)) (ending fallback : List Char) : List Char :=
  match name with
  | none | some [] => fallback ++ '.' :: ending
  | some name =>
    let cleaned := cleanedName name
    (if cleaned = [] then fallback else cleaned) ++ '.' :: ending

end ArisCloud.Reports

import ArisCloud.Soundness.Accounts
import ArisCloud.Soundness.AdvanceLookups
import ArisCloud.Soundness.AdvancePayments
import ArisCloud.Soundness.AdvanceRaces
import ArisCloud.Soundness.CashBalance
import ArisCloud.Soundness.CashRaces
import ArisCloud.Soundness.CatalogUpserts
import ArisCloud.Soundness.CheckoutRefunds
import ArisCloud.Soundness.CheckoutStock
import ArisCloud.Soundness.ContentWipes
import ArisCloud.Soundness.CutQuotes
import ArisCloud.Soundness.CutWindows
import ArisCloud.Soundness.DailyRows
import ArisCloud.Soundness.DayCloses
import ArisCloud.Soundness.DayRollups
import ArisCloud.Soundness.EpcAssignments
import ArisCloud.Soundness.EpcReleases
import ArisCloud.Soundness.ExportFiles
import ArisCloud.Soundness.ExportRuns
import ArisCloud.Soundness.IdempotentRequests
import ArisCloud.Soundness.InTransitStock
import ArisCloud.Soundness.IntegrityAlarms
import ArisCloud.Soundness.LinePrices
import ArisCloud.Soundness.ListTotals
import ArisCloud.Soundness.OperationalStates
import ArisCloud.Soundness.PaymentTotals
import ArisCloud.Soundness.PermissionChecks
import ArisCloud.Soundness.PreloadPaths
import ArisCloud.Soundness.RepeatedPricing
import ArisCloud.Soundness.ReportDays
import ArisCloud.Soundness.ReportExports
import ArisCloud.Soundness.ReportedTenders
import ArisCloud.Soundness.ReturnDrafts
import ArisCloud.Soundness.ReturnPaths
import ArisCloud.Soundness.ReturnStock
import ArisCloud.Soundness.RoleAssignments
import ArisCloud.Soundness.ShortageReports
import ArisCloud.Soundness.SoldUnits
import ArisCloud.Soundness.SuggestedPrices
import ArisCloud.Soundness.TenantAccounts
import ArisCloud.Soundness.TenantPurge
import ArisCloud.Soundness.TransferCancels
import ArisCloud.Soundness.TransferLedger
import ArisCloud.Soundness.TransferReceipts
import ArisCloud.Soundness.TransferScope
import ArisCloud.Soundness.TransferStatus
import ArisCloud.Soundness.WrittenPolicies

import ArisCloud.Model.PosRecords

/-! # The committed database

A request reads the committed tables and, when it commits, replaces them. New rows get identifiers
that no table mentions, as random identifiers do.
-/

namespace ArisCloud

/-- The committed tables. -/
structure Db where
  stores : List Store := []
  stock : StockTable := StockTable.empty
  epcAssignments : List EpcAssignment := []
  transfers : List Transfer := []
  transferLines : List TransferLine := []
  transferMovements : List TransferMovement := []
  sales : List PosSale := []
  saleLines : List PosSaleLine := []
  payments : List PosPayment := []
  returnEvents : List PosReturnEvent := []
  returnPolicies : List ReturnPolicySettings := []
  advances : List PosAdvance := []
  advanceEvents : List PosAdvanceEvent := []
  cashSessions : List PosCashSession := []
  cashMovements : List PosCashMovement := []
  cashCuts : List PosCashCut := []
  dayCloses : List PosCashDayClose := []
  preloadLines : List PreloadLine := []
deriving DecidableEq

/-- An identifier larger than all listed ones. -/
def freshId (used : List ℕ) : ℕ := used.foldr max 0 + 1

theorem lt_freshId {used : List ℕ} {id : ℕ} (member : id ∈ used) : id < freshId used := by
  induction used with
  | nil => simp at member
  | cons first rest ih =>
    simp only [freshId, List.foldr_cons] at ih ⊢
    rcases List.mem_cons.mp member with rfl | later
    · omega
    · have := ih later
      omega

end ArisCloud

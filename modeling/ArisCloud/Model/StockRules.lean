import ArisCloud.Model.Sales
import ArisCloud.Model.Transfers

/-! # How a stock row may be used

The stock listing tells for each row whether it can be sold or transferred, by its tag or by its
SKU. It computes this from the status and the tag, both normalised.
-/

namespace ArisCloud

inductive OperationalMode
  | epc
  | sku
  | none
deriving DecidableEq, Repr

structure StockOperationalState where
  availableForSale : Bool
  availableForTransfer : Bool
  saleMode : OperationalMode
  transferMode : OperationalMode
  isHistorical : Bool
deriving DecidableEq, Repr

/-- Upper case, as far as a comparison with `SOLD` can tell: outside of ASCII, only the long s
becomes one of its letters. -/
def upper (text : String) : String := text.map fun letter => if letter = 'ſ' then 'S'
    else letter.toUpper

def isHistoricalStatus (status : Option String) : Bool := upper (status.getD "") = "SOLD"

def computeOperationalState (item : StockItem) : StockOperationalState :=
  let epc := strip (item.epc.getD "")
  if isHistoricalStatus item.status then
    { availableForSale := false, availableForTransfer := false, saleMode := .none,
      transferMode := .none, isHistorical := true }
  else if epc ≠ "" then
    { availableForSale := true, availableForTransfer := true, saleMode := .epc, transferMode := .epc
      isHistorical := false }
  else
    { availableForSale := true, availableForTransfer := true, saleMode := .sku, transferMode := .sku
      isHistorical := false }

example : isHistoricalStatus (some "ſold") = true := by decide +kernel

end ArisCloud

import ArisCloud.Library.Reachability
import ArisCloud.Model.Returns
import ArisCloud.Model.StockIntake
import ArisCloud.Model.TransferActions

/-! # The whole system

One committed database and the requests of every router that changes it.
-/

namespace ArisCloud

inductive SystemRequest
  | sale (request : SaleRequest)
  | returns (request : ReturnRequest)
  | advance (request : AdvanceRequest)
  | cash (request : CashRequest)
  | transfer (request : TransferRequest)

def systemStep (db : Db) : SystemRequest → Except AppError Db
  | .sale request => saleStep db request
  | .returns request => returnStep db request
  | .advance request => advanceStep db request
  | .cash request => cashStep db request
  | .transfer request => transferStep db request

/-- The requests of every router, with those on the stock. -/
inductive ApiRequest
  | system (request : SystemRequest)
  | stock (request : StockRequest)

def apiStep (db : Db) : ApiRequest → Except AppError Db
  | .system request => systemStep db request
  | .stock request => stockStep db request

end ArisCloud

import ArisCloud.Model.System
import ArisCloud.Proofs.AdvanceSteps
import ArisCloud.Proofs.CashSteps
import ArisCloud.Proofs.ReturnSteps
import ArisCloud.Proofs.SaleLines
import ArisCloud.Proofs.StockSteps
import ArisCloud.Proofs.TransferSteps

/-! # Sales over runs of all requests

Only sale requests write sales and their lines. So sales and lines keep identifiers of their own in
runs of all requests, and no line for a tagged unit is left without its tag.
-/

namespace ArisCloud

open KeyedRows Requests

/-- Sales and lines are told apart by their identifiers, and the tag of a line is not empty. -/
structure SalesSound (db : Db) : Prop where
  saleIds : (db.sales.map (·.id)).Nodup
  lineIds : (db.saleLines.map (·.id)).Nodup
  named : ∀ line ∈ db.saleLines, line.epc ≠ some ""

/-- The tables of the sales are as they were. -/
structure SameSales (db after : Db) : Prop where
  sales : after.sales = db.sales
  lines : after.saleLines = db.saleLines

/-- A request of another router leaves the tables of the sales alone. -/
theorem apiStep_sales {db after : Db} {request : ApiRequest}
    (success : apiStep db request = .ok after) :
    SameSales db after ∨ ∃ saleRequest, request = .system (.sale saleRequest) ∧
    saleStep db saleRequest = .ok after := by
  cases request with
  | stock request => exact .inl (by rw [(stockStep_ok success).tables]; exact ⟨rfl, rfl⟩)
  | system request =>
    cases request with
    | sale request => exact .inr ⟨request, rfl, success⟩
    | returns request => exact .inl (by rw [(returnStep_ok success).tables]; exact ⟨rfl, rfl⟩)
    | advance request => exact .inl (by rw [(advanceStep_ok success).tables]; exact ⟨rfl, rfl⟩)
    | cash request => exact .inl (by rw [(cashStep_ok success).tables]; exact ⟨rfl, rfl⟩)
    | transfer request => exact .inl (by rw [(transferStep_ok success).tables]; exact ⟨rfl, rfl⟩)

namespace SalesSound

variable {db after : Db}

theorem initial (noSales : db.sales = []) (noLines : db.saleLines = []) : SalesSound db := by
  constructor
  · simp [noSales]
  · simp [noLines]
  · simp [noLines]

/-- A change of one sale keeps the identifiers. -/
theorem of_update (sound : SalesSound db) {saleId : ℕ} {change : PosSale → PosSale}
    (sales : after.sales = update (·.id) [saleId] change db.sales)
    (identity : ∀ row, (change row).id = row.id) (lineIds : (after.saleLines.map (·.id)).Nodup)
    (named : ∀ line ∈ after.saleLines, line.epc ≠ some "") :
    SalesSound after := by
  refine ⟨?_, lineIds, named⟩
  rw [sales, map_key_update identity]
  exact sound.saleIds

/-- Lines that are written for a sale have fresh identifiers and tags of rows. -/
theorem lines_written (sound : SalesSound db) {kept : List PosSaleLine}
    {saleId tenantId storeId : ℕ} {asked : List PosSaleLineCreate} {lines : List ResolvedSaleLine}
    (resolved : resolveSaleLines db tenantId storeId asked = .ok lines)
    (written : after.saleLines = kept ++ newSaleLines db saleId tenantId lines)
    (sub : kept.Sublist db.saleLines) :
    (after.saleLines.map (·.id)).Nodup ∧ ∀ line ∈ after.saleLines, line.epc ≠ some "" := by
  rw [written]
  refine ⟨nodup_ids_append_newSaleLines _ _ _ sound.lineIds sub, fun line member => ?_⟩
  rcases List.mem_append.mp member with old | new
  · exact sound.named line (sub.subset old)
  · exact newSaleLines_epc resolved line new

/-- A sale that is added has an identifier of its own. -/
theorem of_new (sound : SalesSound db) {sale : PosSale} (fresh : sale.id = db.freshSaleId)
    (sales : after.sales = db.sales ++ [sale])
    (lines : (after.saleLines.map (·.id)).Nodup ∧ ∀ line ∈ after.saleLines, line.epc ≠ some "") :
    SalesSound after := by
  refine ⟨?_, lines.1, lines.2⟩
  rw [sales, List.map_append, List.map_singleton, List.nodup_append]
  refine ⟨sound.saleIds, List.nodup_singleton _, fun id old new isNew => ?_⟩
  obtain ⟨other, member, rfl⟩ := List.mem_map.mp old
  rw [List.mem_singleton.mp isNew, fresh]
  exact (sale_id_lt_fresh member).ne

theorem same (sound : SalesSound db) (same : SameSales db after) : SalesSound after :=
  ⟨same.sales ▸ sound.saleIds, same.lines ▸ sound.lineIds, same.lines ▸ sound.named⟩

theorem sale (sound : SalesSound db) {request : SaleRequest}
    (success : saleStep db request = .ok after) :
    SalesSound after := by
  cases saleStep_ok success with
  | created sale lines step =>
    exact sound.of_new step.id (by rw [step.tables])
      (sound.lines_written step.resolved (congrArg Db.saleLines step.tables) (List.Sublist.refl _))
  | updated tenantId sale target lines step =>
    obtain ⟨lineIds, named⟩ := sound.lines_written step.resolved
      (congrArg Db.saleLines step.tables) List.filter_sublist
    exact sound.of_update (congrArg Db.sales step.tables) (by exact fun _ => rfl) lineIds named
  | canceled sale target step =>
    refine sound.of_update (congrArg Db.sales step.tables) (by exact fun _ => rfl) ?_ ?_
    · rw [step.tables]
      exact sound.lineIds
    · rw [step.tables]
      exact sound.named
  | refunded sale target items session step =>
    rw [step.tables]
    exact sound.same ⟨rfl, rfl⟩
  | exchanged sale target items lines exchangeSale delta batch session step =>
    exact sound.of_new step.id (by rw [step.tables])
      (sound.lines_written step.resolved (congrArg Db.saleLines step.tables) (List.Sublist.refl _))
  | checkedOut sale target totals advance batch step =>
    have ids : after.saleLines.map (·.id) = db.saleLines.map (·.id) := step.keeps (fun _ _ => rfl)
      fun _ _ => rfl
    have tags : after.saleLines.map (·.epc) = db.saleLines.map (·.epc) :=
      step.keeps (fun _ _ => rfl) fun _ _ => rfl
    refine sound.of_update (congrArg Db.sales step.tables) (by exact fun _ => rfl) ?_
      fun line member => ?_
    · rw [ids]
      exact sound.lineIds
    · have isTag : line.epc ∈ after.saleLines.map (·.epc) := List.mem_map_of_mem member
      rw [tags] at isTag
      obtain ⟨before, isLine, same⟩ := List.mem_map.mp isTag
      exact same ▸ sound.named before isLine

theorem step (sound : SalesSound db) {request : ApiRequest}
    (success : apiStep db request = .ok after) : SalesSound after := by
  rcases apiStep_sales success with same | ⟨saleRequest, _, success⟩
  · exact sound.same same
  · exact sound.sale success

/-- What a run of requests reaches from sound tables is sound. -/
theorem reached (sound : SalesSound db) {allowed : Db → ApiRequest → Prop}
    (run : Reachable apiStep allowed db after) :
    SalesSound after :=
  run.invariant sound fun _ _ _ sound _ success => sound.step success

end SalesSound

end ArisCloud

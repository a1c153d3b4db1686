import ArisCloud.Library.KeyedRows
import ArisCloud.Model.Records

/-! # The database session of one request

The session does not flush before a query: a query filters on the rows as they were last flushed,
but the objects it returns show the changes the request has made to them so far. Changes, deletions
and new rows reach the table together when the request commits, where the constraints are checked.
-/

namespace ArisCloud

open KeyedRows

/-- The flushed stock rows and what the request has done to them since. -/
structure StockSession where
  flushed : StockTable
  edits : List (Edit StockItem.id) := []
  deleted : List ℕ := []
  added : List StockItem := []

namespace StockSession

/-- The object of a flushed row, with the changes made by the request. -/
def current (session : StockSession) (row : StockItem) : StockItem := editRow session.edits row

/-- `SELECT … ORDER BY created_at LIMIT`: filters on flushed rows, returns current objects. -/
def select (session : StockSession) (matching : StockItem → Bool) (limit : ℕ) : List StockItem :=
  (oldest (·.createdAt) matching limit session.flushed.rows).map session.current

/-- The first row of a query that the constraints make unique. -/
def first (session : StockSession) (matching : StockItem → Bool) : Option StockItem :=
  (session.flushed.rows.find? matching).map session.current

/-- Change the objects with the listed identifiers; a change never assigns the identifier itself. -/
def assign (session : StockSession) (ids : List ℕ) (change : StockItem → StockItem)
    (stable : ∀ row, (change row).id = row.id := by exact fun _ => id rfl) : StockSession :=
  { session with edits := session.edits ++ [⟨ids, change, stable⟩] }

def delete (session : StockSession) (ids : List ℕ) : StockSession :=
  { session with deleted := session.deleted ++ ids }

def add (session : StockSession) (row : StockItem) : StockSession :=
  { session with added := session.added ++ [row] }

/-- The rows the table will hold after the commit. -/
def rowsAfter (session : StockSession) : List StockItem :=
  (session.flushed.rows.map session.current).filter
    (fun row => decide (row.id ∉ session.deleted)) ++ session.added

/-- Write the changes; a violated constraint fails the request. -/
def commit (session : StockSession) : Except AppError StockTable :=
  Checked.require (session.rowsAfter.map (·.id)).Nodup ⟨.integrityError, "stock_items_pkey"⟩
      fun distinctIds =>
    Checked.require (session.rowsAfter.filterMap (·.tag)).Nodup
      ⟨.integrityError, "uq_stock_items_tenant_epc"⟩
      fun distinctTags =>
        Checked.require (session.rowsAfter.map fun row => (row.tenantId, row.itemUid)).Nodup
          ⟨.integrityError, "uq_stock_items_tenant_item_uid"⟩
          fun distinctUids => .ok ⟨session.rowsAfter, distinctIds, distinctTags, distinctUids⟩

section Lemmas

variable {session : StockSession} {matching : StockItem → Bool} {limit : ℕ} {row : StockItem}

@[simp] theorem current_id : (session.current row).id = row.id := key_editRow

@[simp] theorem flushed_assign {ids : List ℕ} {change : StockItem → StockItem} {stable} :
    (session.assign ids change stable).flushed = session.flushed := rfl

@[simp] theorem deleted_assign {ids : List ℕ} {change : StockItem → StockItem} {stable} :
    (session.assign ids change stable).deleted = session.deleted := rfl

@[simp] theorem added_assign {ids : List ℕ} {change : StockItem → StockItem} {stable} :
    (session.assign ids change stable).added = session.added := rfl

theorem current_assign {ids : List ℕ} {change : StockItem → StockItem} {stable} :
    (session.assign ids change stable).current row =
      if row.id ∈ ids then change (session.current row) else session.current row := by
  rw [current, assign, editRow_append, ← current, editRow_cons, editRow_nil, current_id]

theorem map_id_select :
    (session.select matching limit).map
    (·.id) = (oldest (·.createdAt) matching limit session.flushed.rows).map (·.id) := by
  simp [select, Function.comp_def]

/-- A query that returns as many rows as its limit picks that many flushed rows. -/
theorem picks_select (matching : StockItem → Bool) (limit : ℕ)
    (enough : limit ≤ (session.select matching limit).length) :
    Picks StockItem.id session.flushed.rows matching limit
    ((session.select matching limit).map (·.id)) := by
  rw [map_id_select]
  exact picks_oldest session.flushed.distinctIds (by simpa [select] using enough)

theorem first_eq_some :
    session.first matching = some row ↔
      ∃ found, session.flushed.rows.find? matching = some found ∧ session.current found = row :=
  Option.map_eq_some_iff

/-- A commit writes exactly the pending rows. -/
theorem commit_eq_ok {table : StockTable} (committed : session.commit = .ok table) :
    table.rows = session.rowsAfter := by
  simp only [commit, Checked.require_eq_ok] at committed
  obtain ⟨_, _, _, result⟩ := committed
  obtain rfl := Except.ok.inj result
  rfl

/-- Without deletions and new rows, a commit writes the current version of every flushed row. -/
theorem rowsAfter_of_edits_only (kept : session.deleted = []) (fresh : session.added = []) :
    session.rowsAfter = session.flushed.rows.map session.current := by
  simp [rowsAfter, kept, fresh]

/-- Without changes and new rows, a commit writes the flushed rows that were not deleted. -/
theorem rowsAfter_of_deletions_only (untouched : session.edits = []) (fresh : session.added = []) :
    session.rowsAfter = session.flushed.rows.filter fun row => decide
    (row.id ∉ session.deleted) := by
  have same : session.flushed.rows.map session.current = session.flushed.rows := by
    conv_rhs => rw [← List.map_id session.flushed.rows]
    exact List.map_congr_left fun row _ => by rw [current, untouched]; rfl
  rw [rowsAfter, same, fresh, List.append_nil]

end Lemmas

end StockSession

end ArisCloud

import ArisCloud.Model.StockSession

/-! # Sessions that commit

A session that deletes rows, or changes them but for tags and numbers, leaves a table under its
constraints. So a request that does no more than that is not refused at its end.
-/

namespace ArisCloud

open KeyedRows

/-- The session has changed rows of a table and done nothing else. -/
structure StockSession.EditsOnly (session : StockSession) (table : StockTable) : Prop where
  flushed : session.flushed = table
  kept : session.deleted = []
  fresh : session.added = []

theorem StockSession.EditsOnly.initial (table : StockTable) :
    EditsOnly { flushed := table } table := ⟨rfl, rfl, rfl⟩

theorem StockSession.EditsOnly.rowsAfter {session : StockSession} {table : StockTable}
    (only : session.EditsOnly table) : session.rowsAfter = table.rows.map session.current := by
  rw [rowsAfter_of_edits_only only.kept only.fresh, only.flushed]

/-- Rows that are deleted leave a table under its constraints. -/
theorem StockSession.commit_of_deletions_only (session : StockSession)
    (untouched : session.edits = []) (fresh : session.added = []) :
    ∃ table, session.commit = .ok table := by
  have rows := StockSession.rowsAfter_of_deletions_only untouched fresh
  have part : session.rowsAfter.Sublist session.flushed.rows := rows ▸ List.filter_sublist
  simp only [StockSession.commit, Checked.require_eq_ok]
  exact ⟨_, session.flushed.distinctIds.sublist (part.map _), session.flushed.distinctTags.sublist
    (part.filterMap _), session.flushed.distinctUids.sublist (part.map _), rfl⟩

/-- The changes keep what the constraints compare. -/
def StockSession.KeepsIdentity (session : StockSession) : Prop :=
  ∀ edit ∈ session.edits, ∀ row, (edit.change row).tenantId = row.tenantId ∧
    (edit.change row).epc = row.epc ∧ (edit.change row).itemUid = row.itemUid

theorem StockSession.KeepsIdentity.current {session : StockSession} (keeps : session.KeepsIdentity)
    (row : StockItem) :
    (session.current row).tenantId = row.tenantId ∧ (session.current row).epc = row.epc ∧
      (session.current row).itemUid = row.itemUid := by
  refine editRow_keeps (fun now : StockItem => now.tenantId = row.tenantId ∧ now.epc = row.epc ∧
    now.itemUid = row.itemUid) ⟨rfl, rfl, rfl⟩ fun edit applied now ⟨tenant, tag, uid⟩ _ => ?_
  obtain ⟨sameTenant, sameTag, sameUid⟩ := keeps edit applied now
  exact ⟨sameTenant.trans tenant, sameTag.trans tag, sameUid.trans uid⟩

/-- Rows that change but for tags and numbers leave a table under its constraints. -/
theorem StockSession.commit_of_edits_only {session : StockSession} {table : StockTable}
    (only : session.EditsOnly table) (keeps : session.KeepsIdentity) :
    ∃ next, session.commit = .ok next := by
  have tags : (table.rows.map session.current).filterMap (·.tag) = table.rows.filterMap
      (·.tag) := by
    rw [List.filterMap_map]
    refine List.filterMap_congr fun row _ => ?_
    obtain ⟨tenant, tag, _⟩ := keeps.current row
    rw [Function.comp_apply, StockItem.tag, StockItem.tag, tag, tenant]
  have uids : (table.rows.map session.current).map (fun row => (row.tenantId, row.itemUid)) =
      table.rows.map fun row => (row.tenantId, row.itemUid) := by
    rw [List.map_map]
    refine List.map_congr_left fun row _ => ?_
    obtain ⟨tenant, _, uid⟩ := keeps.current row
    rw [Function.comp_apply, tenant, uid]
  simp only [StockSession.commit, Checked.require_eq_ok, only.rowsAfter]
  refine ⟨_, ?_, ?_, ?_, rfl⟩
  · simpa only [List.map_map, Function.comp_def, StockSession.current_id] using table.distinctIds
  · rw [tags]
    exact table.distinctTags
  · rw [uids]
    exact table.distinctUids

end ArisCloud

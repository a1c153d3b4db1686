import Mathlib.Data.List.Induction
import Mathlib.Data.List.Nodup
import Mathlib.Data.List.Count

/-! # Rows grouped by a key

Rows are collected in groups, one for each key, in the order in which the keys first occur. Rows
without a key are in no group. A group has all rows of its key, so looking for large groups finds
every key that too many rows share.
-/

namespace Grouping

variable {α κ : Type*} [DecidableEq κ] {key : α → Option κ} {rows : List α}
    {groups : List (κ × List α)}

/-- Put a row into the group of its key, or into a new one when no group has the key. -/
def insert (key : κ) (row : α) : List (κ × List α) → List (κ × List α)
  | [] => [(key, [row])]
  | (other, members) :: rest =>
    if other = key then (other, members ++ [row]) :: rest
      else (other, members) :: insert key row rest

/-- Put a row into the group of its key, when it has one. -/
def collect (key : α → Option κ) (groups : List (κ × List α)) (row : α) : List (κ × List α) :=
  match key row with
  | some k => insert k row groups
  | none => groups

def groupBy (key : α → Option κ) (rows : List α) : List (κ × List α) := rows.foldl (collect key) []

/-- The groups of some rows: one for each of their keys, with all rows that have the key. -/
structure Grouped (key : α → Option κ) (rows : List α) (groups : List (κ × List α)) : Prop where
  distinct : (groups.map (·.1)).Nodup
  members : ∀ group ∈ groups, group.2 = rows.filter (key · = some group.1)
  complete : ∀ row ∈ rows, ∀ k, key row = some k → k ∈ groups.map (·.1)

private theorem mem_keys_insert {k other : κ} {row : α} :
    other ∈ (insert k row groups).map (·.1) ↔ other = k ∨ other ∈ groups.map (·.1) := by
  induction groups with
  | nil => simp [insert]
  | cons group rest ih =>
    rw [insert]
    split
    · next same => simp [← same]
    · rw [List.map_cons, List.mem_cons, ih, List.map_cons, List.mem_cons]
      tauto

private theorem nodup_keys_insert {k : κ} {row : α} (distinct : (groups.map (·.1)).Nodup) :
    ((insert k row groups).map (·.1)).Nodup := by
  induction groups with
  | nil => simp [insert]
  | cons group rest ih =>
    obtain ⟨absent, tail⟩ := List.nodup_cons.mp distinct
    rw [insert]
    split
    · exact distinct
    · next apart =>
      refine List.nodup_cons.mpr ⟨?_, ih tail⟩
      rw [mem_keys_insert]
      rintro (same | present)
      · exact apart same
      · exact absent present

/-- A group after a row was put in: the group of its key has one row more, and the others are as
they were. -/
theorem mem_insert {k : κ} {row : α} (distinct : (groups.map (·.1)).Nodup) {group : κ × List α}
    (member : group ∈ insert k row groups) :
    (group ∈ groups ∧ group.1 ≠ k) ∨
    (∃ members, (k, members) ∈ groups ∧ group = (k, members ++ [row])) ∨
      (k ∉ groups.map (·.1) ∧ group = (k, [row])) := by
  induction groups with
  | nil =>
    obtain rfl := List.mem_singleton.mp member
    exact .inr (.inr ⟨List.not_mem_nil, rfl⟩)
  | cons first rest ih =>
    obtain ⟨other, members⟩ := first
    obtain ⟨absent, tail⟩ := List.nodup_cons.mp distinct
    rw [insert] at member
    split at member
    · next same =>
      subst same
      rcases List.mem_cons.mp member with rfl | later
      · exact .inr (.inl ⟨members, List.mem_cons_self, rfl⟩)
      · refine .inl ⟨List.mem_cons_of_mem _ later, ?_⟩
        rintro same
        exact absent (List.mem_map.mpr ⟨group, later, same⟩)
    · next apart =>
      rcases List.mem_cons.mp member with rfl | later
      · exact .inl ⟨List.mem_cons_self, apart⟩
      · rcases ih tail later with ⟨old, ne⟩ | ⟨grown, old, rfl⟩ | ⟨new, rfl⟩
        · exact .inl ⟨List.mem_cons_of_mem _ old, ne⟩
        · exact .inr (.inl ⟨grown, List.mem_cons_of_mem _ old, rfl⟩)
        · refine .inr (.inr ⟨?_, rfl⟩)
          rw [List.map_cons, List.mem_cons]
          rintro (same | present)
          · exact apart same.symm
          · exact new present

/-- Grouping one row more. -/
theorem Grouped.collect (grouped : Grouped key rows groups) (row : α) :
    Grouped key (rows ++ [row]) (collect key groups row) := by
  rw [Grouping.collect]
  cases own : key row with
  | none =>
    refine ⟨grouped.distinct, fun group member => ?_, fun other member k has => ?_⟩
    · rw [grouped.members group member, List.filter_append, List.filter_cons_of_neg (by simp [own]),
        List.filter_nil, List.append_nil]
    · rcases List.mem_append.mp member with old | new
      · exact grouped.complete other old k has
      · rw [List.mem_singleton.mp new, own] at has
        contradiction
  | some k =>
    refine ⟨nodup_keys_insert grouped.distinct, fun group member => ?_, fun other member k' has =>
      ?_⟩
    · rcases mem_insert grouped.distinct member with ⟨old, apart⟩ | ⟨members, old, rfl⟩ | ⟨new, rfl⟩
      · rw [grouped.members group old, List.filter_append, List.filter_cons_of_neg, List.filter_nil,
          List.append_nil]
        simpa [own] using Ne.symm apart
      · rw [List.filter_append, ← grouped.members _ old, List.filter_cons_of_pos (by simp [own]),
          List.filter_nil]
      · have none : rows.filter (key · = some k) = [] := by
          refine List.filter_eq_nil_iff.mpr fun other member has => ?_
          exact new (grouped.complete other member k (by simpa using has))
        rw [List.filter_append, none, List.filter_cons_of_pos (by simp [own]), List.filter_nil,
          List.nil_append]
    · rw [mem_keys_insert]
      rcases List.mem_append.mp member with old | new
      · exact .inr (grouped.complete other old k' has)
      · rw [List.mem_singleton.mp new, own] at has
        exact .inl (Option.some.inj has).symm

private theorem grouped_groupBy : Grouped key rows (groupBy key rows) := by
  induction rows using List.reverseRecOn with
  | nil => exact ⟨List.nodup_nil, by simp [groupBy], by simp⟩
  | append_singleton rest row ih =>
    rw [groupBy, List.foldl_append]
    exact ih.collect row

/-- When no two rows share a key, no group is large. -/
theorem length_group_le_one (apart : ∀ k, rows.countP (key · = some k) ≤ 1) {group : κ × List α}
    (member : group ∈ groupBy key rows) : group.2.length ≤ 1 := by
  rw [grouped_groupBy.members group member, ← List.countP_eq_length_filter]
  exact apart group.1

end Grouping

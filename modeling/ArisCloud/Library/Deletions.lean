import Mathlib.Data.List.Basic

/-! # Deletions in tables that reference each other

Rows reference rows of other tables by their keys. A statement deletes the matching rows of one
table, and fails when a row that is left references one of them. A list of statements succeeds when
each row that references a deleted one is deleted by an earlier statement, and what it leaves then
has no dangling references.
-/

namespace Deletions

variable {τ ρ : Type*} [DecidableEq τ]

/-- The tables of a database, the key of a row, and the rows that a row references. -/
structure Schema (τ ρ : Type*) where
  tables : List τ
  complete : ∀ table, table ∈ tables
  key : ρ → ℕ
  references : τ → ρ → List (τ × ℕ)

/-- The rows of each table. -/
abbrev Tables (τ ρ : Type*) := τ → List ρ

/-- A table and the rows of it to delete. -/
abbrev Deletion (τ ρ : Type*) := τ × (ρ → Bool)

variable (schema : Schema τ ρ)

/-- Some row references one of the given rows of a table. -/
def Referenced (db : Tables τ ρ) (table : τ) (rows : List ρ) : Prop :=
  ∃ other ∈ schema.tables, ∃ row ∈ db other, ∃ gone ∈ rows,
    (table, schema.key gone) ∈ schema.references other row

instance (db : Tables τ ρ) (table : τ) (rows : List ρ) :
    Decidable (Referenced schema db table rows) := by
  unfold Referenced
  infer_instance

/-- Every reference leads to a row. -/
def Consistent (db : Tables τ ρ) : Prop :=
  ∀ table, ∀ row ∈ db table, ∀ reference ∈ schema.references table row,
    ∃ found ∈ db reference.1, schema.key found = reference.2

/-- The tables without the matching rows of one of them. -/
def without (db : Tables τ ρ) (table : τ) (doomed : ρ → Bool) : Tables τ ρ :=
  fun other => (db other).filter fun row => !(table = other && doomed row)

/-- Delete the matching rows of a table and count them, unless a row that is left references one of
them. -/
def deleteWhere (db : Tables τ ρ) (table : τ) (doomed : ρ → Bool) : Option (Tables τ ρ × ℕ) :=
  if Referenced schema (without db table doomed) table ((db table).filter doomed) then none
  else some (without db table doomed, (db table).countP doomed)

/-- Run statements in their order. -/
def deleteAll (db : Tables τ ρ) : List (Deletion τ ρ) → Option (Tables τ ρ)
  | [] => some db
  | (table, doomed) :: rest =>
    (deleteWhere schema db table doomed).bind fun result => deleteAll result.1 rest

/-- No statement deletes the row. -/
def survives (statements : List (Deletion τ ρ)) (table : τ) (row : ρ) : Bool :=
  statements.all fun statement => !(statement.1 = table && statement.2 row)

section

variable {schema} {db final : Tables τ ρ} {statements : List (Deletion τ ρ)} {table : τ} {row : ρ}

theorem survives_iff : survives statements table row = true ↔
    ∀ statement ∈ statements, statement.1 = table → statement.2 row = false := by
  simp [survives, imp_iff_not_or]

theorem not_survives_iff : survives statements table row = false ↔ ∃ doomed,
    (table, doomed) ∈ statements ∧ doomed row = true := by
  rw [← Bool.not_eq_true, survives_iff]
  push Not
  constructor
  · rintro ⟨⟨_, doomed⟩, member, rfl, isDoomed⟩
    exact ⟨doomed, member, by simpa using isDoomed⟩
  · rintro ⟨doomed, member, isDoomed⟩
    exact ⟨(table, doomed), member, rfl, by simpa using isDoomed⟩

theorem without_of_ne {target : τ} {doomed : ρ → Bool} (other : target ≠ table) :
    without db target doomed table = db table :=
  List.filter_eq_self.mpr fun row _ => by simp [other]

theorem deleteWhere_eq_some {target : τ} {doomed : ρ → Bool} {result : Tables τ ρ × ℕ} :
    deleteWhere schema db target doomed = some result ↔
      ¬ Referenced schema (without db target doomed) target ((db target).filter doomed) ∧
        result = (without db target doomed, (db target).countP doomed) := by
  rw [deleteWhere]
  split
  · next referenced => simp [referenced]
  · next free => simp [free, eq_comm]

/-- What is left is what no statement deletes. -/
theorem deleteAll_eq (success : deleteAll schema db statements = some final) (table : τ) :
    final table = (db table).filter (survives statements table) := by
  induction statements generalizing db with
  | nil =>
    obtain rfl := Option.some.inj success
    exact (List.filter_eq_self.mpr fun _ _ => rfl).symm
  | cons statement rest ih =>
    obtain ⟨result, deleted, later⟩ := Option.bind_eq_some_iff.mp success
    obtain ⟨_, rfl⟩ := deleteWhere_eq_some.mp deleted
    rw [ih later]
    simp only [without, List.filter_filter]
    refine List.filter_congr fun row _ => ?_
    simp only [survives, List.all_cons, Bool.and_comm]

/-- No row that is left references a row that was deleted. -/
theorem deleteAll_unreferenced (success : deleteAll schema db statements = some final) {other : τ}
    {gone : ρ} (left : row ∈ final table) (present : gone ∈ db other)
    (deleted : survives statements other gone = false) :
    (other, schema.key gone) ∉ schema.references table row := by
  induction statements generalizing db with
  | nil => simp [survives] at deleted
  | cons statement rest ih =>
    obtain ⟨target, doomed⟩ := statement
    obtain ⟨result, step, later⟩ := Option.bind_eq_some_iff.mp success
    obtain ⟨free, rfl⟩ := deleteWhere_eq_some.mp step
    by_cases now : target = other ∧ doomed gone = true
    · obtain ⟨rfl, isDoomed⟩ := now
      intro references
      refine free ⟨table, schema.complete table, row, ?_, gone,
        List.mem_filter.mpr ⟨present, isDoomed⟩, references⟩
      rw [deleteAll_eq later] at left
      exact (List.mem_filter.mp left).1
    · refine ih later ?_ ?_
      · refine List.mem_filter.mpr ⟨present, ?_⟩
        simpa [imp_iff_not_or] using now
      · obtain ⟨reason, member, isDoomed⟩ := not_survives_iff.mp deleted
        rcases List.mem_cons.mp member with same | inRest
        · obtain ⟨rfl, rfl⟩ := Prod.mk.inj same
          exact absurd ⟨rfl, isDoomed⟩ now
        · exact not_survives_iff.mpr ⟨reason, inRest, isDoomed⟩

/-- Deletions that succeed leave no dangling references. -/
theorem deleteAll_consistent (consistent : Consistent schema db)
    (success : deleteAll schema db statements = some final) :
    Consistent schema final := by
  intro table row left reference isReference
  have present := (List.mem_filter.mp (deleteAll_eq success table ▸ left)).1
  obtain ⟨found, inTable, same⟩ := consistent table row present reference isReference
  refine ⟨found, ?_, same⟩
  rw [deleteAll_eq success, List.mem_filter]
  refine ⟨inTable, ?_⟩
  by_contra deleted
  refine deleteAll_unreferenced success left inTable (Bool.eq_false_iff.mpr deleted) ?_
  rw [same]
  exact isReference

/-- Statements succeed when what references a row that one of them deletes is deleted before. -/
theorem deleteAll_succeeds
    (ordered : ∀ before target doomed after, statements = before ++ (target, doomed) :: after →
      ∀ gone ∈ db target, doomed gone = true → ∀ other, ∀ row ∈ db other,
      (target, schema.key gone) ∈ schema.references other row → ∃ earlier,
      (other, earlier) ∈ before ∧ earlier row = true) :
    ∃ final, deleteAll schema db statements = some final := by
  induction statements generalizing db with
  | nil => exact ⟨db, rfl⟩
  | cons statement rest ih =>
    obtain ⟨target, doomed⟩ := statement
    have free : ¬ Referenced schema (without db target doomed) target
        ((db target).filter doomed) := by
      rintro ⟨other, _, row, left, gone, isGone, references⟩
      obtain ⟨present, isDoomed⟩ := List.mem_filter.mp isGone
      obtain ⟨_, none, _⟩ := ordered [] target doomed rest rfl gone present isDoomed other row
        (List.mem_filter.mp left).1 references
      exact absurd none List.not_mem_nil
    have step := deleteWhere_eq_some.mpr ⟨free, rfl⟩
    have later : ∃ final, deleteAll schema (without db target doomed) rest = some final := by
      apply ih
      intro before next reason after split gone present isDoomed other row isRow references
      obtain ⟨inTable, kept⟩ := List.mem_filter.mp isRow
      obtain ⟨earlier, member, isEarlier⟩ := ordered ((target, doomed) :: before) next reason after
        (congrArg ((target, doomed) :: ·) split) gone (List.mem_filter.mp present).1 isDoomed other
        row inTable references
      rcases List.mem_cons.mp member with same | inBefore
      · obtain ⟨rfl, rfl⟩ := Prod.mk.inj same
        simp [isEarlier] at kept
      · exact ⟨earlier, inBefore, isEarlier⟩
    obtain ⟨final, rest⟩ := later
    exact ⟨final, by rw [deleteAll, step]; exact rest⟩

/-- Statements in the order of a rank succeed when each row that references a deleted one is
deleted, and of a lower rank. -/
theorem deleteAll_succeeds_of_rank (rank : τ → ℕ)
    (sorted : statements.Pairwise fun first next => rank first.1 ≤ rank next.1)
    (covered : ∀ target doomed, (target, doomed) ∈ statements → ∀ gone ∈ db target,
      doomed gone = true →
      ∀ other, ∀ row ∈ db other, (target, schema.key gone) ∈ schema.references other row →
        rank other < rank target ∧ survives statements other row = false) :
    ∃ final, deleteAll schema db statements = some final := by
  apply deleteAll_succeeds
  rintro before target doomed after rfl gone present isDoomed other row isRow references
  obtain ⟨lower, deleted⟩ := covered target doomed (by simp) gone present isDoomed other row isRow
    references
  obtain ⟨earlier, member, isEarlier⟩ := not_survives_iff.mp deleted
  refine ⟨earlier, ?_, isEarlier⟩
  rcases List.mem_append.mp member with inBefore | later
  · exact inBefore
  · obtain ⟨_, rest, _⟩ := List.pairwise_append.mp sorted
    have above : rank target ≤ rank other := by
      rcases List.mem_cons.mp later with same | inAfter
      · obtain ⟨rfl, _⟩ := Prod.mk.inj same
        exact Nat.le_refl _
      · exact List.rel_of_pairwise_cons rest inAfter
    omega

/-- Where statements in the order of a rank succeed, a row that references a deleted one is not
deleted after it. -/
theorem deleteAll_rank_le (rank : τ → ℕ)
    (sorted : statements.Pairwise fun first next => rank first.1 < rank next.1)
    (success : deleteAll schema db statements = some final) {other : τ} {gone : ρ}
    (present : gone ∈ db other) (deleted : survives statements other gone = false)
    (isRow : row ∈ db table) (references : (other, schema.key gone) ∈ schema.references table row) :
    rank table ≤ rank other := by
  induction statements generalizing db with
  | nil => simp [survives] at deleted
  | cons statement rest ih =>
    obtain ⟨target, doomed⟩ := statement
    obtain ⟨before, sortedRest⟩ := List.pairwise_cons.mp sorted
    obtain ⟨result, step, later⟩ := Option.bind_eq_some_iff.mp success
    obtain ⟨free, rfl⟩ := deleteWhere_eq_some.mp step
    by_cases now : target = other ∧ doomed gone = true
    · obtain ⟨rfl, isDoomed⟩ := now
      by_contra above
      have apart : target ≠ table := fun same => above (same ▸ Nat.le_refl _)
      refine free ⟨table, schema.complete table, row, ?_, gone,
        List.mem_filter.mpr ⟨present, isDoomed⟩, references⟩
      rw [without_of_ne apart]
      exact isRow
    · have stays : gone ∈ without db target doomed other := by
        refine List.mem_filter.mpr ⟨present, ?_⟩
        simpa [imp_iff_not_or] using now
      have deletedLater : survives rest other gone = false := by
        obtain ⟨reason, member, isDoomed⟩ := not_survives_iff.mp deleted
        rcases List.mem_cons.mp member with same | inRest
        · obtain ⟨rfl, rfl⟩ := Prod.mk.inj same
          exact absurd ⟨rfl, isDoomed⟩ now
        · exact not_survives_iff.mpr ⟨reason, inRest, isDoomed⟩
      by_cases first : target = table
      · subst first
        obtain ⟨reason, member, _⟩ := not_survives_iff.mp deletedLater
        exact Nat.le_of_lt (before (other, reason) member)
      · apply ih sortedRest later stays deletedLater
        change row ∈ without db target doomed table
        rw [without_of_ne first]
        exact isRow

theorem deleteAll_append {more : List (Deletion τ ρ)} :
    deleteAll schema db (statements ++ more) = (deleteAll schema db statements).bind fun left =>
    deleteAll schema left more := by
  induction statements generalizing db with
  | nil => rfl
  | cons statement rest ih =>
    rw [List.cons_append, deleteAll, deleteAll]
    cases deleteWhere schema db statement.1 statement.2 with
    | none => rfl
    | some result => exact ih

end

end Deletions

import Mathlib.Data.List.MinMax
import ArisCloud.Library.KeyedRows

/-! # Which rows a bounded query reads

A query for the oldest matching rows reads in the order of a stamp, and rows of one stamp in the
order of the table. So it reads given rows, as many as its limit, exactly when each of them comes
before every other matching row.
-/

namespace KeyedRows

section Sorting

variable {α : Type*} {stamp : α → ℕ} {before : α → α → Prop}

/-- The order of a stamp, refined for rows of the same stamp. -/
def Refined (stamp : α → ℕ) (before : α → α → Prop) (row other : α) : Prop :=
  stamp row < stamp other ∨ stamp row = stamp other ∧ before row other

theorem Refined.le {row other : α} (refined : Refined stamp before row other) :
    stamp row ≤ stamp other := by
  rcases refined with less | ⟨same, _⟩
  · exact less.le
  · exact same.le

private theorem pairwise_orderedInsert {row : α} {sorted : List α}
    (ordered : sorted.Pairwise (Refined stamp before))
    (first : ∀ other ∈ sorted, before row other) :
    (sorted.orderedInsert (fun a b => stamp a ≤ stamp b) row).Pairwise (Refined stamp before) := by
  induction sorted with
  | nil => exact List.pairwise_singleton _ _
  | cons other rest ih =>
    obtain ⟨head, tail⟩ := List.pairwise_cons.mp ordered
    rw [List.orderedInsert_cons]
    split
    · next le =>
      refine List.pairwise_cons.mpr ⟨fun next member => ?_, ordered⟩
      have bound : stamp row ≤ stamp next := by
        rcases List.mem_cons.mp member with rfl | later
        · exact le
        · exact le.trans (head next later).le
      rcases bound.lt_or_eq with less | same
      · exact .inl less
      · exact .inr ⟨same, first next member⟩
    · next greater =>
      refine List.pairwise_cons.mpr ⟨fun next member => ?_, ih tail fun next later =>
        first next (List.mem_cons_of_mem _ later)⟩
      rcases (List.mem_orderedInsert _).mp member with rfl | later
      · exact .inl (not_le.mp greater)
      · exact head next later

/-- Sorting by a stamp keeps the order of rows of one stamp. -/
theorem pairwise_insertionSort {rows : List α} (ordered : rows.Pairwise before) :
    (rows.insertionSort fun a b => stamp a ≤ stamp b).Pairwise (Refined stamp before) := by
  induction rows with
  | nil => exact .nil
  | cons row rest ih =>
    obtain ⟨head, tail⟩ := List.pairwise_cons.mp ordered
    exact pairwise_orderedInsert (ih tail) fun other member =>
      head other ((List.mem_insertionSort _).mp member)

end Sorting

variable {α κ : Type*} {key : α → κ} {stamp : α → ℕ} {rows : List α} {matching : α → Bool}
    {limit : ℕ}
  {units : List κ}

/-- Among the items of one kind, one is the largest. -/
theorem exists_largest {ι τ : Type*} [DecidableEq τ] (kind : ι → τ) (size : ι → ℤ) {items : List ι}
    {item : ι} (member : item ∈ items) :
    ∃ largest ∈ items, kind largest = kind item ∧ ∀ other ∈ items, kind other = kind item →
    size other ≤ size largest := by
  have isAlike : item ∈ items.filter fun other => decide (kind other = kind item) :=
    List.mem_filter.mpr ⟨member, by simp⟩
  cases isMost : (items.filter fun other => decide (kind other = kind item)).argmax size with
  | none =>
    rw [List.argmax_eq_none.mp isMost] at isAlike
    contradiction
  | some largest =>
    obtain ⟨isItem, same⟩ := List.mem_filter.mp (List.argmax_mem isMost)
    exact ⟨largest, isItem, of_decide_eq_true same, fun other isOther alike =>
      List.le_of_mem_argmax (List.mem_filter.mpr ⟨isOther, decide_eq_true alike⟩) isMost⟩

/-- As many rows match as were picked among them. -/
theorem Picks.le_countP (picks : Picks key rows matching limit units) :
    limit ≤ rows.countP matching := by
  have sub : units ⊆ (rows.filter matching).map key := by
    intro k listed
    obtain ⟨row, member, same, holds⟩ := picks.found k listed
    exact List.mem_map.mpr ⟨row, List.mem_filter.mpr ⟨member, holds⟩, same⟩
  have bound := (List.subperm_of_subset picks.unrepeated sub).length_le
  rwa [picks.length, List.length_map, ← List.countP_eq_length_filter] at bound

/-- A query that reads only picked rows, as many as its limit, reads all of them. -/
theorem Picks.mem_oldest (picks : Picks key rows matching limit units)
    (distinct : (rows.map key).Nodup)
    (only : ∀ row ∈ oldest stamp matching limit rows, key row ∈ units) {unit : α}
    (member : unit ∈ rows) (listed : key unit ∈ units) :
    unit ∈ oldest stamp matching limit rows := by
  have sub : (oldest stamp matching limit rows).map key ⊆ units := by
    intro k isKey
    obtain ⟨row, selected, rfl⟩ := List.mem_map.mp isKey
    exact only row selected
  have length : ((oldest stamp matching limit rows).map key).length = units.length := by
    rw [List.length_map, length_oldest, picks.length, min_eq_left picks.le_countP]
  have perm := (List.subperm_of_subset (nodup_keys_oldest distinct) sub).perm_of_length_le length.ge
  obtain ⟨row, selected, same⟩ := List.mem_map.mp (perm.mem_iff.mpr listed)
  exact eq_of_key_eq distinct (mem_of_mem_oldest selected).1 member same ▸ selected

/-- A query that reads all picked rows, as many as its limit, reads nothing else. -/
theorem Picks.only_of_all (picks : Picks key rows matching limit units)
    (all : ∀ unit ∈ rows, key unit ∈ units → unit ∈ oldest stamp matching limit rows) :
    ∀ row ∈ oldest stamp matching limit rows, key row ∈ units := by
  have sub : units ⊆ (oldest stamp matching limit rows).map key := by
    intro k listed
    obtain ⟨unit, isUnit, rfl, _⟩ := picks.found k listed
    exact List.mem_map_of_mem (all unit isUnit listed)
  have length : ((oldest stamp matching limit rows).map key).length ≤ units.length := by
    rw [List.length_map, picks.length]
    exact length_oldest_le
  have perm := (List.subperm_of_subset picks.unrepeated sub).perm_of_length_le length
  exact fun row selected => perm.mem_iff.mpr (List.mem_map_of_mem selected)

variable [DecidableEq κ]

/-- A row comes before another in the order in which queries read the table. -/
def Precedes (key : α → κ) (stamp : α → ℕ) (rows : List α) (row other : α) : Prop :=
  Refined stamp (fun row other => (rows.map key).idxOf (key row) < (rows.map key).idxOf (key other))
    row other

instance (row other : α) : Decidable (Precedes key stamp rows row other) :=
  inferInstanceAs (Decidable (_ ∨ _))

private theorem Precedes.asymm {row other : α} (precedes : Precedes key stamp rows row other) :
    ¬ Precedes key stamp rows other row := by
  unfold Precedes Refined at *
  omega

/-- A sorted table is read in its order. -/
theorem pairwise_precedes (distinct : (rows.map key).Nodup) :
    ((rows.filter matching).insertionSort fun a b => stamp a ≤ stamp b).Pairwise
    (Precedes key stamp rows) := by
  refine pairwise_insertionSort
    (List.Pairwise.sublist List.filter_sublist (List.pairwise_iff_getElem.mpr ?_))
  intro i j inRows alsoInRows less
  have position {k : ℕ} (bound : k < rows.length) : (rows.map key).idxOf (key rows[k]) = k := by
    have same := distinct.idxOf_getElem k (by simpa using bound)
    rwa [List.getElem_map] at same
  rw [position inRows, position alsoInRows]
  exact less

/-- The row that a query reads first precedes every other matching row. -/
theorem precedes_of_head? (distinct : (rows.map key).Nodup) {row other : α}
    (first : (oldest stamp matching limit rows).head? = some row) (member : other ∈ rows)
    (holds : matching other = true) (apart : key other ≠ key row) :
    Precedes key stamp rows row other := by
  have sorted : ((rows.filter matching).insertionSort fun a b => stamp a ≤ stamp b).Pairwise
      (Precedes key stamp rows) :=
    pairwise_precedes distinct
  have isSorted : other ∈ (rows.filter matching).insertionSort fun a b => stamp a ≤ stamp b := by
    rw [List.mem_insertionSort]
    exact List.mem_filter.mpr ⟨member, holds⟩
  rw [oldest, List.head?_take] at first
  split at first
  · contradiction
  · obtain ⟨rest, order⟩ := List.head?_eq_some_iff.mp first
    rw [order] at sorted isSorted
    rcases List.mem_cons.mp isSorted with rfl | later
    · contradiction
    · exact (List.pairwise_cons.mp sorted).1 other later

/-- A matching row that precedes every other one is read by every query. -/
theorem mem_oldest_of_precedes (distinct : (rows.map key).Nodup) (positive : 1 ≤ limit) {row : α}
    (member : row ∈ rows) (holds : matching row = true)
    (first : ∀ other ∈ rows, matching other = true → key other ≠ key row →
      Precedes key stamp rows row other) :
    row ∈ oldest stamp matching limit rows := by
  have sorted : ((rows.filter matching).insertionSort fun a b => stamp a ≤ stamp b).Pairwise
      (Precedes key stamp rows) :=
    pairwise_precedes distinct
  have isSorted : row ∈ (rows.filter matching).insertionSort fun a b => stamp a ≤ stamp b := by
    rw [List.mem_insertionSort]
    exact List.mem_filter.mpr ⟨member, holds⟩
  have source : ∀ other ∈ (rows.filter matching).insertionSort fun a b => stamp a ≤ stamp b,
      other ∈ rows ∧ matching other = true := fun other isOther =>
    List.mem_filter.mp ((List.mem_insertionSort _).mp isOther)
  rw [oldest]
  cases order : (rows.filter matching).insertionSort fun a b => stamp a ≤ stamp b with
  | nil =>
    rw [order] at isSorted
    contradiction
  | cons head rest =>
    rw [order] at sorted isSorted source
    rw [List.take_cons positive]
    rcases List.mem_cons.mp isSorted with rfl | later
    · exact List.mem_cons_self ..
    · obtain ⟨isHead, headHolds⟩ := source head (List.mem_cons_self ..)
      have before := (List.pairwise_cons.mp sorted).1 row later
      by_cases same : key head = key row
      · rw [eq_of_key_eq distinct isHead member same]
        exact List.mem_cons_self ..
      · exact absurd before (first head isHead headHolds same).asymm

/-- A query reads the picked rows exactly when each of them precedes every other matching row. -/
theorem Picks.only_iff (picks : Picks key rows matching limit units)
    (distinct : (rows.map key).Nodup) :
    (∀ row ∈ oldest stamp matching limit rows, key row ∈ units) ↔ ∀ row ∈ rows,
    matching row = true → key row ∉ units →
      ∀ unit ∈ rows, key unit ∈ units → Precedes key stamp rows unit row := by
  have sorted : ((rows.filter matching).insertionSort fun a b => stamp a ≤ stamp b).Pairwise
      (Precedes key stamp rows) :=
    pairwise_precedes distinct
  obtain ⟨rest, order⟩ : ∃ rest, (rows.filter matching).insertionSort
      (fun a b => stamp a ≤ stamp b) = oldest stamp matching limit rows ++ rest :=
      ⟨_, (List.take_append_drop limit _).symm⟩
  have inOrder {row : α} (member : row ∈ rows) (holds : matching row = true) :
      row ∈ oldest stamp matching limit rows ++ rest := by
    rw [← order, List.mem_insertionSort]
    exact List.mem_filter.mpr ⟨member, holds⟩
  rw [order] at sorted
  have later := (List.pairwise_append.mp sorted).2.2
  constructor
  · intro only row member holds other unit isUnit listed
    have last := (List.mem_append.mp (inOrder member holds)).resolve_left fun read =>
      other (only row read)
    exact later unit (picks.mem_oldest distinct only isUnit listed) row last
  · intro precede
    by_contra also
    -- Then some row was read in place of a picked one, which comes later.
    obtain ⟨row, read, other⟩ : ∃ row ∈ oldest stamp matching limit rows, key row ∉ units := by
      simpa using also
    apply also
    refine picks.only_of_all fun unit isUnit listed => ?_
    have unitHolds := picks.holds distinct isUnit listed
    refine (List.mem_append.mp (inOrder isUnit unitHolds)).resolve_right fun last => ?_
    obtain ⟨isRow, holds⟩ := mem_of_mem_oldest read
    exact (later row read unit last).asymm (precede row isRow holds other unit isUnit listed)

end KeyedRows

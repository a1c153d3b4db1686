import Mathlib.Data.List.Dedup
import Mathlib.Data.List.Nodup
import Mathlib.Data.List.Sort
import Mathlib.Data.List.TakeWhile
import Mathlib.Algebra.BigOperators.Group.List.Basic
import Mathlib.Tactic.Ring

/-! # Rows with a primary key

A table is a list of rows with pairwise distinct keys. `update` rewrites the rows whose key is
listed and leaves the others alone; `oldest` reads at most a given number of the matching rows in
the order of a stamp. The counting lemmas say how many rows of a class an update gains or loses.
-/

namespace KeyedRows

variable {α κ : Type*} [DecidableEq κ] (key : α → κ)

/-- Rewrite the rows whose key is listed. -/
def update (keys : List κ) (change : α → α) (rows : List α) : List α :=
  rows.map fun row => if key row ∈ keys then change row else row

/-- At most `limit` of the matching rows, in the order of their stamps; ties keep the table's
order. -/
def oldest (stamp : α → ℕ) (matching : α → Bool) (limit : ℕ) (rows : List α) : List α :=
  ((rows.filter matching).insertionSort fun a b => stamp a ≤ stamp b).take limit

section Newest

variable {before : α → α → Prop} [DecidableRel before] {rows : List α}

private theorem orderedInsert_last {row : α} (last : ∀ other ∈ rows, ¬ before row other) :
    rows.orderedInsert before row = rows ++ [row] := by
  induction rows with
  | nil => rfl
  | cons first rest ih =>
    rw [List.orderedInsert_cons, if_neg (last first (List.mem_cons_self ..)),
      ih fun other member => last other (List.mem_cons_of_mem _ member), List.cons_append]

/-- Rows that stand in the opposite order are reversed by sorting them. -/
theorem insertionSort_eq_reverse (opposite : rows.Pairwise fun row later => ¬ before row later) :
    rows.insertionSort before = rows.reverse := by
  induction rows with
  | nil => rfl
  | cons row rest ih =>
    obtain ⟨head, tail⟩ := List.pairwise_cons.mp opposite
    rw [List.insertionSort_cons, ih tail, List.reverse_cons, orderedInsert_last]
    exact fun other member => head other (List.mem_reverse.mp member)

end Newest

section Update

variable {key} {keys : List κ} {change : α → α} {rows : List α}

theorem mem_update {row : α} :
    row ∈ update key keys change rows ↔
      ∃ before ∈ rows, (if key before ∈ keys then change before else before) = row := by
  simp [update]

/-- A row after an update was not touched by it, or is a changed one. -/
theorem mem_update_cases {row : α} (member : row ∈ update key keys change rows) :
    (row ∈ rows ∧ key row ∉ keys) ∨ ∃ before ∈ rows, key before ∈ keys ∧ row = change before := by
  obtain ⟨before, isBefore, same⟩ := mem_update.mp member
  by_cases touched : key before ∈ keys
  · rw [if_pos touched] at same
    exact .inr ⟨before, isBefore, touched, same.symm⟩
  · rw [if_neg touched] at same
    subst same
    exact .inl ⟨isBefore, touched⟩

@[simp] theorem length_update : (update key keys change rows).length = rows.length := by
  simp [update]

/-- A column that the change of the listed rows leaves alone. -/
theorem map_update_of_mem {β : Type*} {column : α → β}
    (stable : ∀ row ∈ rows, key row ∈ keys → column (change row) = column row) :
    (update key keys change rows).map column = rows.map column := by
  simp only [update, List.map_map]
  refine List.map_congr_left fun row member => ?_
  simp only [Function.comp_apply]
  split
  · next listed => exact stable row member listed
  · rfl

/-- A column that the change leaves alone. -/
theorem map_update {β : Type*} {column : α → β} (stable : ∀ row, column (change row) = column row) :
    (update key keys change rows).map column = rows.map column :=
  map_update_of_mem fun row _ _ => stable row

@[simp] theorem map_key_update (stable : ∀ row, key (change row) = key row) :
    (update key keys change rows).map key = rows.map key := map_update stable

theorem update_singleton (k : κ) :
    update key [k] change rows = rows.map fun row => if key row = k then change row else row := by
  simp [update]

/-- An update of rows outside of a selection does not show in it. -/
theorem filter_update_of_outside {selected : α → Bool}
    (outside : ∀ row ∈ rows, key row ∈ keys → selected row = false ∧
      selected (change row) = false) :
    (update key keys change rows).filter selected = rows.filter selected := by
  induction rows with
  | nil => rfl
  | cons row rest ih =>
    have later := ih fun other member => outside other (List.mem_cons_of_mem _ member)
    rw [update, List.map_cons]
    by_cases listed : key row ∈ keys
    · obtain ⟨unselected, still⟩ := outside row (List.mem_cons_self ..) listed
      rw [if_pos listed, List.filter_cons_of_neg (by simp [still]), List.filter_cons_of_neg
        (by simp [unselected])]
      exact later
    · rw [if_neg listed, List.filter_cons, List.filter_cons]
      rw [show rest.map _ = update key keys change rest from rfl, later]

/-- A column of a selection that an update of its rows leaves alone. -/
theorem map_filter_update {β : Type*} {selected : α → Bool} {column : α → β}
    (kept : ∀ row ∈ rows, key row ∈ keys →
      selected (change row) = selected row ∧
      (selected row = true → column (change row) = column row)) :
    ((update key keys change rows).filter selected).map column =
        (rows.filter selected).map column := by
  induction rows with
  | nil => rfl
  | cons row rest ih =>
    have later :
        ((rest.map fun row => if key row ∈ keys then change row else row).filter selected).map
        column = (rest.filter selected).map column := ih fun other member =>
        kept other (List.mem_cons_of_mem _ member)
    rw [update, List.map_cons]
    by_cases listed : key row ∈ keys
    · obtain ⟨same, unchanged⟩ := kept row (List.mem_cons_self ..) listed
      rw [if_pos listed, List.filter_cons, List.filter_cons, same]
      split
      · next chosen => rw [List.map_cons, List.map_cons, unchanged chosen, later]
      · exact later
    · rw [if_neg listed, List.filter_cons, List.filter_cons]
      split
      · rw [List.map_cons, List.map_cons, later]
      · exact later

/-- After changing one row of a table with distinct keys, every row is the changed one or an old one
with another key. -/
theorem mem_update_singleton (distinct : (rows.map key).Nodup) {row other : α} (member : row ∈ rows)
    (isAfter : other ∈ update key [key row] change rows) : other = change row ∨ other ∈ rows ∧
    key other ≠ key row := by
  obtain ⟨before, isBefore, rfl⟩ := mem_update.mp isAfter
  by_cases addressed : key before ∈ [key row]
  · rw [if_pos addressed, List.inj_on_of_nodup_map distinct isBefore member
      (List.mem_singleton.mp addressed)]
    exact .inl rfl
  · rw [if_neg addressed]
    exact .inr ⟨isBefore, fun same => addressed (List.mem_singleton.mpr same)⟩

/-- When no change makes a row match, an update makes no more rows match. -/
theorem countP_update_le {holds : α → Bool}
    (keeps : ∀ row, holds (change row) = true → holds row = true) :
    (update key keys change rows).countP holds ≤ rows.countP holds := by
  rw [update, List.countP_map]
  apply List.countP_mono_left
  intro row _ matching
  simp only [Function.comp_apply] at matching
  split at matching
  · exact keeps row matching
  · exact matching

/-- When no change makes a row match and one stops matching, fewer rows match. -/
theorem countP_map_lt {holds : α → Bool} {row : α}
    (keeps : ∀ other ∈ rows, holds (change other) = true → holds other = true)
    (member : row ∈ rows) (was : holds row = true) (gone : holds (change row) = false) :
    (rows.map change).countP holds < rows.countP holds := by
  obtain ⟨before, after, rfl⟩ := List.append_of_mem member
  have fewer (part : List α) (inside : ∀ other ∈ part, other ∈ before ++ row :: after) :
      (part.map change).countP holds ≤ part.countP holds := by
    rw [List.countP_map]
    exact List.countP_mono_left fun other isPart => keeps other (inside other isPart)
  have first := fewer before fun other isPart => List.mem_append_left _ isPart
  have second := fewer after fun other isPart =>
    List.mem_append_right _ (List.mem_cons_of_mem _ isPart)
  rw [List.map_append, List.map_cons, List.countP_append, List.countP_append,
    List.countP_cons_of_pos was, List.countP_cons_of_neg (by simp [gone])]
  omega

theorem update_eq_self (absent : ∀ row ∈ rows, key row ∉ keys) :
    update key keys change rows = rows := by
  simp only [update]
  exact (List.map_congr_left fun row member => if_neg (absent row member)).trans (List.map_id rows)

/-- The first row with a key is the first one before the change, changed when it is listed. -/
theorem find?_update (stable : ∀ row, key (change row) = key row) (k : κ) :
    (update key keys change rows).find? (fun row => key row = k) =
      (rows.find? fun row => key row = k).map fun row => if key row ∈ keys then change row
      else row := by
  rw [update, List.find?_map]
  congr 2
  funext row
  simp only [Function.comp_apply]
  split <;> simp only [stable]

/-- Two changes of the same rows are one. -/
theorem update_update {next : α → α} (stable : ∀ row, key (change row) = key row) :
    update key keys next (update key keys change rows) = update key keys
    (fun row => next (change row)) rows := by
  simp only [update, List.map_map]
  refine List.map_congr_left fun row _ => ?_
  by_cases listed : key row ∈ keys
  · simp only [Function.comp_apply, if_pos listed, stable]
  · simp only [Function.comp_apply, if_neg listed]

theorem update_append (more : List α) :
    update key keys change (rows ++ more) = update key keys change rows ++
    update key keys change more :=
  List.map_append

end Update

section Oldest

variable {stamp : α → ℕ} {matching : α → Bool} {limit : ℕ} {rows : List α}

private theorem oldest_subperm : (oldest stamp matching limit rows).Subperm
    (rows.filter matching) :=
  (List.take_sublist _ _).subperm.trans (List.perm_insertionSort _ _).subperm

theorem mem_of_mem_oldest {row : α} (member : row ∈ oldest stamp matching limit rows) :
    row ∈ rows ∧ matching row = true :=
  List.mem_filter.mp (oldest_subperm.subset member)

theorem length_oldest_le : (oldest stamp matching limit rows).length ≤ limit := by
  simp [oldest]

theorem length_oldest : (oldest stamp matching limit rows).length = min limit
    (rows.countP matching) := by
  simp [oldest, List.countP_eq_length_filter]

/-- What a query reads first does not depend on how much it reads. -/
theorem head?_oldest (positive : 1 ≤ limit) :
    (oldest stamp matching limit rows).head? = (oldest stamp matching 1 rows).head? := by
  simp only [oldest]
  cases (rows.filter matching).insertionSort fun a b => stamp a ≤ stamp b with
  | nil => simp
  | cons first rest =>
    rw [List.take_cons positive, List.take_cons one_pos, List.head?_cons, List.head?_cons]

/-- A query that reads more reads the same rows first. -/
theorem oldest_subset {more : ℕ} (le : limit ≤ more) :
    oldest stamp matching limit rows ⊆ oldest stamp matching more rows :=
  List.take_subset_take_left _ le

/-- Two queries that read some rows of the same order have one of them in common. -/
theorem exists_mem_oldest {other : ℕ} (positive : 0 < limit) (another : 0 < other)
    (nonempty : oldest stamp matching limit rows ≠ []) :
    ∃ row, row ∈ oldest stamp matching limit rows ∧ row ∈ oldest stamp matching other rows := by
  rw [oldest] at nonempty
  cases sorted : (rows.filter matching).insertionSort fun a b => stamp a ≤ stamp b with
  | nil => simp [sorted] at nonempty
  | cons first rest =>
    refine ⟨first, ?_, ?_⟩
    · rw [oldest, sorted, List.take_cons positive]
      exact List.mem_cons_self ..
    · rw [oldest, sorted, List.take_cons another]
      exact List.mem_cons_self ..

omit [DecidableEq κ] in
/-- Distinct keys stay distinct among the rows read. -/
theorem nodup_keys_oldest {key : α → κ} (distinct : (rows.map key).Nodup) :
    ((oldest stamp matching limit rows).map key).Nodup := by
  have filtered : ((rows.filter matching).map key).Nodup :=
    distinct.sublist (List.filter_sublist.map key)
  have perm := (List.perm_insertionSort (fun a b => stamp a ≤ stamp b) (rows.filter matching)).map
    key
  exact (perm.nodup_iff.mpr filtered).sublist ((List.take_sublist _ _).map key)

end Oldest

/-- The keys of a given number of different rows that match. -/
structure Picks (rows : List α) (matching : α → Bool) (count : ℕ) (keys : List κ) : Prop where
  unrepeated : keys.Nodup
  length : keys.length = count
  found : ∀ k ∈ keys, ∃ row ∈ rows, key row = k ∧ matching row = true

section Picks

variable {key} {rows : List α} {matching other : α → Bool} {count more : ℕ} {keys others : List κ}

omit [DecidableEq κ]

/-- Rows with distinct keys are determined by them. -/
theorem eq_of_key_eq (distinct : (rows.map key).Nodup) {row other : α} (member : row ∈ rows)
    (another : other ∈ rows) (same : key row = key other) : row = other :=
  List.inj_on_of_nodup_map distinct member another same

/-- A search that no other key satisfies finds the row. -/
theorem find?_eq_some_of_key (distinct : (rows.map key).Nodup) {row : α} (member : row ∈ rows)
    (holds : matching row = true)
    (only : ∀ other ∈ rows, matching other = true → key other = key row) :
    rows.find? matching = some row := by
  obtain ⟨found, isFound⟩ := Option.isSome_iff_exists.mp
    (List.find?_isSome.mpr ⟨row, member, holds⟩)
  have isRow := List.mem_of_find?_eq_some isFound
  rw [isFound, eq_of_key_eq distinct isRow member (only found isRow (List.find?_some isFound))]

/-- Among distinct keys a search for a key and more is the search for the key, if its row has
more. -/
theorem find?_key_and [DecidableEq κ] (distinct : (rows.map key).Nodup) (k : κ) :
    (rows.find? fun row => key row = k && matching row) = (rows.find? fun row => key row = k).filter
    matching := by
  cases found : rows.find? fun row => key row = k with
  | none =>
    rw [Option.filter_none, List.find?_eq_none]
    intro row member both
    exact List.find?_eq_none.mp found row member (Bool.and_eq_true _ _ |>.mp both).1
  | some row =>
    have member := List.mem_of_find?_eq_some found
    have named : key row = k := by simpa only [decide_eq_true_eq] using List.find?_some found
    by_cases holds : matching row = true
    · rw [Option.filter_some, if_pos holds]
      refine find?_eq_some_of_key distinct member (by simp [named, holds]) fun other another both =>
        ?_
      rw [named]
      exact of_decide_eq_true (Bool.and_eq_true _ _ |>.mp both).1
    · rw [Option.filter_some, if_neg holds, List.find?_eq_none]
      intro other another both
      obtain ⟨also, holdsOther⟩ := Bool.and_eq_true _ _ |>.mp both
      have same := eq_of_key_eq distinct another member ((of_decide_eq_true also).trans named.symm)
      exact holds (same ▸ holdsOther)

theorem Picks.holds (picks : Picks key rows matching count keys) (distinct : (rows.map key).Nodup)
    {row : α} (member : row ∈ rows) (listed : key row ∈ keys) : matching row = true := by
  obtain ⟨other, another, same, holds⟩ := picks.found _ listed
  rwa [← eq_of_key_eq distinct another member same]

theorem Picks.present (picks : Picks key rows matching count keys) :
    ∀ k ∈ keys, k ∈ rows.map key := by
  intro k member
  obtain ⟨row, inRows, same, _⟩ := picks.found k member
  exact List.mem_map.mpr ⟨row, inRows, same⟩

/-- Picks by selectors that no row satisfies together have no key in common. -/
theorem Picks.disjoint (picks : Picks key rows matching count keys)
    (another : Picks key rows other more others) (distinct : (rows.map key).Nodup)
    (apart : ∀ row ∈ rows, matching row = true → other row = false) :
    keys.Disjoint others := by
  intro k member shared
  obtain ⟨row, inRows, rfl, holds⟩ := picks.found k member
  have clash := another.holds distinct inRows shared
  rw [apart row inRows holds] at clash
  contradiction

theorem picks_oldest {stamp : α → ℕ} {limit : ℕ} (distinct : (rows.map key).Nodup)
    (enough : limit ≤ (oldest stamp matching limit rows).length) :
    Picks key rows matching limit ((oldest stamp matching limit rows).map key) where
  unrepeated := nodup_keys_oldest distinct
  length := by
    rw [List.length_map]
    exact le_antisymm length_oldest_le enough
  found := by
    intro k member
    obtain ⟨row, selected, same⟩ := List.mem_map.mp member
    obtain ⟨inRows, holds⟩ := mem_of_mem_oldest selected
    exact ⟨row, inRows, same, holds⟩

theorem picks_find? {row : α} (first : rows.find? matching = some row) : Picks key rows matching 1
    [key row] where
  unrepeated := List.nodup_singleton _
  length := rfl
  found := by
    intro k member
    rw [List.mem_singleton.mp member]
    exact ⟨row, List.mem_of_find?_eq_some first, rfl, List.find?_some first⟩

end Picks

section Counting

variable {key} {keys : List κ} {rows : List α}

omit [DecidableEq κ] in
/-- A class that no two rows share has at most one row. -/
theorem countP_le_one {holds : α → Bool}
    (apart : rows.Pairwise fun row other => ¬ (holds row = true ∧ holds other = true)) :
    rows.countP holds ≤ 1 := by
  induction rows with
  | nil => simp
  | cons row rest ih =>
    obtain ⟨first, tail⟩ := List.pairwise_cons.mp apart
    rw [List.countP_cons]
    split
    · next member =>
      have others : rest.countP holds = 0 := List.countP_eq_zero.mpr fun other inRest both =>
        first other inRest ⟨member, both⟩
      omega
    · exact ih tail

/-- Distinct keys that all occur select as many rows as there are keys. -/
theorem countP_key_mem (distinct : (rows.map key).Nodup) (unrepeated : keys.Nodup)
    (present : ∀ k ∈ keys, k ∈ rows.map key) :
    rows.countP (fun row => decide (key row ∈ keys)) = keys.length := by
  have perm : ((rows.filter fun row => decide (key row ∈ keys)).map key).Perm keys := by
    refine (List.perm_ext_iff_of_nodup (distinct.sublist (List.filter_sublist.map key))
      unrepeated).mpr ?_
    intro k
    simp only [List.mem_map, List.mem_filter, decide_eq_true_eq]
    constructor
    · rintro ⟨row, ⟨_, member⟩, rfl⟩
      exact member
    · intro member
      obtain ⟨row, inRows, rfl⟩ := List.mem_map.mp (present k member)
      exact ⟨row, ⟨inRows, member⟩, rfl⟩
  rw [List.countP_eq_length_filter, ← perm.length_eq, List.length_map]

/-- Keys that select as many rows as they are listed are not repeated. -/
theorem nodup_of_countP_key_mem (distinct : (rows.map key).Nodup)
    (present : ∀ k ∈ keys, k ∈ rows.map key)
    (count : rows.countP (fun row => decide (key row ∈ keys)) = keys.length) : keys.Nodup := by
  have once := countP_key_mem distinct keys.nodup_dedup fun k member =>
    present k (List.mem_dedup.mp member)
  simp only [List.mem_dedup] at once
  exact List.dedup_eq_self.mp (keys.dedup_sublist.eq_of_length (once.symm.trans count))

/-- Lists of keys select as many rows as they list together exactly when no two of them share a
key. -/
theorem countP_flatMap_eq_iff {ω : Type*} {outputs : List ω} {keysOf : ω → List κ}
    (distinct : (rows.map key).Nodup) (unrepeated : ∀ output ∈ outputs, (keysOf output).Nodup)
    (present : ∀ output ∈ outputs, ∀ k ∈ keysOf output, k ∈ rows.map key) :
    rows.countP (fun row => decide (key row ∈ outputs.flatMap keysOf)) =
    (outputs.flatMap keysOf).length ↔
      outputs.Pairwise fun output other => (keysOf output).Disjoint (keysOf other) := by
  have all : ∀ k ∈ outputs.flatMap keysOf, k ∈ rows.map key := by
    intro k listed
    obtain ⟨output, isOutput, listed⟩ := List.mem_flatMap.mp listed
    exact present output isOutput k listed
  constructor
  · exact fun count => (List.nodup_flatMap.mp (nodup_of_countP_key_mem distinct all count)).2
  · exact fun disjoint => countP_key_mem distinct
      (List.nodup_flatMap.mpr ⟨unrepeated, disjoint⟩) all

/-- Rewriting rows that all lie inside or all outside a class, before and after, shifts its count by
the number of rewritten rows once for every side that changes. -/
theorem countP_update {change : α → α} {holds : α → Bool} {before after : Bool}
    (distinct : (rows.map key).Nodup) (unrepeated : keys.Nodup)
    (present : ∀ k ∈ keys, k ∈ rows.map key)
    (was : ∀ row ∈ rows, key row ∈ keys → holds row = before)
    (becomes : ∀ row ∈ rows, key row ∈ keys → holds (change row) = after) :
    ((update key keys change rows).countP holds : ℤ) =
      rows.countP holds + (after.toNat - before.toNat) * keys.length := by
  rw [← countP_key_mem distinct unrepeated present, update, List.countP_map]
  clear distinct present unrepeated
  induction rows with
  | nil => simp
  | cons row rest ih =>
    have tail := ih (fun other member => was other (List.mem_cons_of_mem _ member))
      (fun other member => becomes other (List.mem_cons_of_mem _ member))
    simp only [List.countP_cons, Function.comp_apply] at tail ⊢
    push_cast
    rw [tail]
    by_cases member : key row ∈ keys
    · simp only [member, if_true, was row (List.mem_cons_self ..) member,
        becomes row (List.mem_cons_self ..) member, decide_true]
      cases before <;> cases after <;> (simp; try ring)
    · simp only [member, if_false, decide_false, Bool.false_eq_true]
      ring

end Counting

/-- A change to the rows with the listed keys, which leaves their keys alone. -/
structure Edit (key : α → κ) where
  keys : List κ
  change : α → α
  stable : ∀ row, key (change row) = key row

variable {key}

/-- What a sequence of changes makes of one row. -/
def editRow (edits : List (Edit key)) (row : α) : α :=
  edits.foldl (fun current edit => if key current ∈ edit.keys then edit.change current
    else current) row

section Edits

variable {edits : List (Edit key)} {rows : List α} {row : α}

@[simp] theorem editRow_nil : editRow ([] : List (Edit key)) row = row := rfl

theorem editRow_cons (edit : Edit key) :
    editRow (edit :: edits) row = editRow edits
    (if key row ∈ edit.keys then edit.change row else row) := rfl

theorem editRow_append (more : List (Edit key)) : editRow (edits ++ more) row = editRow more
    (editRow edits row) :=
  List.foldl_append

private theorem map_editRow_cons (edit : Edit key) :
    rows.map (editRow (edit :: edits)) = (update key edit.keys edit.change rows).map
    (editRow edits) := by
  simp [update, editRow_cons, Function.comp_def]

theorem key_editRow : key (editRow edits row) = key row := by
  induction edits generalizing row with
  | nil => rfl
  | cons edit rest ih =>
    rw [editRow_cons, ih]
    split
    · exact edit.stable row
    · rfl

@[simp] theorem map_key_editRow : (rows.map (editRow edits)).map key = rows.map key := by
  simp [Function.comp_def, key_editRow]

/-- A property kept by every change is kept by their sequence. -/
theorem editRow_keeps (holds : α → Prop) (initial : holds row)
    (keeps : ∀ edit ∈ edits, ∀ current, holds current → key current ∈ edit.keys →
      holds (edit.change current)) :
    holds (editRow edits row) := by
  induction edits generalizing row with
  | nil => exact initial
  | cons edit rest ih =>
    rw [editRow_cons]
    refine ih ?_ fun other member => keeps other (List.mem_cons_of_mem _ member)
    split
    · next listed => exact keeps edit (List.mem_cons_self ..) row initial listed
    · exact initial

/-- A property that every change of a row establishes holds of a row that some change addresses. -/
theorem editRow_establishes (holds : α → Prop)
    (makes : ∀ edit ∈ edits, key row ∈ edit.keys → ∀ current, holds (edit.change current))
    (addressed : ∃ edit ∈ edits, key row ∈ edit.keys) : holds (editRow edits row) := by
  induction edits generalizing row with
  | nil => simp at addressed
  | cons edit rest ih =>
    have later {other} (member : other ∈ rest) := makes other (List.mem_cons_of_mem _ member)
    rw [editRow_cons]
    by_cases listed : key row ∈ edit.keys
    · rw [if_pos listed]
      exact (editRow_keeps (fun now => holds now ∧ key now = key row)
        ⟨makes edit (List.mem_cons_self ..) listed row, edit.stable row⟩
        fun other member now ⟨_, same⟩ addressed =>
        ⟨later member (same ▸ addressed) now, (other.stable now).trans same⟩).1
    · rw [if_neg listed]
      refine ih (fun other member => later member) ?_
      obtain ⟨other, member, addressed⟩ := addressed
      rcases List.mem_cons.mp member with rfl | member
      · contradiction
      · exact ⟨other, member, addressed⟩

theorem editRow_of_untouched (untouched : ∀ edit ∈ edits, key row ∉ edit.keys) :
    editRow edits row = row := by
  induction edits with
  | nil => rfl
  | cons edit rest ih =>
    rw [editRow_cons, if_neg (untouched edit (List.mem_cons_self ..))]
    exact ih fun other member => untouched other (List.mem_cons_of_mem _ member)

/-- The last change of a row is made to what the others made of it. -/
theorem editRow_of_last {edit : Edit key} (listed : key row ∈ edit.keys) :
    editRow (edits ++ [edit]) row = edit.change (editRow edits row) := by
  have same : key (editRow edits row) = key row := key_editRow
  rw [editRow_append, editRow_cons, editRow_nil, if_pos (same ▸ listed)]

/-- Among disjoint changes, the one that addresses a row is all that happens to it. -/
theorem editRow_of_disjoint
    (disjoint : edits.Pairwise fun edit other => edit.keys.Disjoint other.keys) {edit : Edit key}
    (member : edit ∈ edits) (listed : key row ∈ edit.keys) :
    editRow edits row = edit.change row := by
  induction edits with
  | nil => contradiction
  | cons first rest ih =>
    obtain ⟨apart, tail⟩ := List.pairwise_cons.mp disjoint
    rw [editRow_cons]
    rcases List.mem_cons.mp member with rfl | later
    · rw [if_pos listed]
      refine editRow_of_untouched fun other isOther shared => apart other isOther listed ?_
      rwa [edit.stable] at shared
    · rw [if_neg fun shared => apart edit later shared listed]
      exact ih tail later

/-- Disjoint changes that keep the class of their rows uniform shift its count by the sum of their
shifts. -/
theorem countP_editRow {ω : Type*} (outputs : List ω) (edit : ω → Edit key) {holds : α → Bool}
    {before after : ω → Bool} (distinct : (rows.map key).Nodup)
    (unrepeated : ∀ output ∈ outputs, (edit output).keys.Nodup)
    (present : ∀ output ∈ outputs, ∀ k ∈ (edit output).keys, k ∈ rows.map key)
    (disjoint : outputs.Pairwise fun output later => (edit output).keys.Disjoint (edit later).keys)
    (was : ∀ output ∈ outputs, ∀ row ∈ rows, key row ∈ (edit output).keys →
      holds row = before output)
    (becomes : ∀ output ∈ outputs, ∀ row ∈ rows, key row ∈ (edit output).keys →
      holds ((edit output).change row) = after output) :
    ((rows.map (editRow (outputs.map edit))).countP holds : ℤ) = rows.countP holds +
      (outputs.map fun output =>
        ((after output).toNat - (before output).toNat : ℤ) * (edit output).keys.length).sum := by
  induction outputs generalizing rows with
  | nil => simp [show rows.map (editRow []) = rows from List.map_id' rows]
  | cons output rest ih =>
    have self := List.mem_cons_self (a := output) (l := rest)
    have later {other} (member : other ∈ rest) := List.mem_cons_of_mem output member
    obtain ⟨apart, tail⟩ := List.pairwise_cons.mp disjoint
    have keys : (update key (edit output).keys (edit output).change rows).map key = rows.map key :=
      map_key_update (edit output).stable
    -- A row of a later change is not touched by this one.
    have same : ∀ other ∈ rest, ∀ row ∈ update key (edit output).keys (edit output).change rows,
        key row ∈ (edit other).keys → row ∈ rows := by
      intro other member row updated listed
      obtain ⟨source, inRows, rfl⟩ := mem_update.mp updated
      by_cases touched : key source ∈ (edit output).keys
      · rw [if_pos touched, (edit output).stable] at listed
        exact absurd listed fun listed => apart other member touched listed
      · rw [if_neg touched]
        exact inRows
    rw [List.map_cons, map_editRow_cons, ih (by rw [keys]; exact distinct)
      (fun other member => unrepeated other (later member))
      (fun other member => by rw [keys]; exact present other (later member)) tail
      (fun other member row updated listed => was other (later member) row
      (same other member row updated listed) listed)
      (fun other member row updated listed => becomes other (later member) row
      (same other member row updated listed) listed),
      countP_update distinct (unrepeated output self) (present output self) (was output self)
      (becomes output self)]
    simp only [List.map_cons, List.sum_cons]
    ring

end Edits

section Removal

variable {rows : List α}

/-- Rows outside the listed keys. -/
theorem filter_not_mem_append (keys more : List κ) :
    rows.filter (fun row => decide (key row ∉ keys ++ more)) =
      (rows.filter fun row => decide (key row ∉ keys)).filter fun row => decide
      (key row ∉ more) := by
  rw [List.filter_filter]
  refine List.filter_congr fun row _ => ?_
  simp only [List.mem_append, not_or, Bool.decide_and, Bool.and_comm]

private theorem countP_remove {keys : List κ} {holds : α → Bool} {before : Bool}
    (distinct : (rows.map key).Nodup) (unrepeated : keys.Nodup)
    (present : ∀ k ∈ keys, k ∈ rows.map key)
    (was : ∀ row ∈ rows, key row ∈ keys → holds row = before) :
    ((rows.filter fun row => decide (key row ∉ keys)).countP holds : ℤ) =
      rows.countP holds - before.toNat * keys.length := by
  rw [← countP_key_mem distinct unrepeated present]
  clear distinct present unrepeated
  induction rows with
  | nil => simp
  | cons row rest ih =>
    have tail := ih fun other member => was other (List.mem_cons_of_mem _ member)
    by_cases member : key row ∈ keys
    · simp only [List.filter_cons, member, not_true_eq_false, decide_false, Bool.false_eq_true,
        if_false, tail, List.countP_cons, was row (List.mem_cons_self ..) member, decide_true,
        if_true]
      cases before <;> simp
    · simp only [List.filter_cons, member, not_false_eq_true, decide_true, if_true,
        List.countP_cons, decide_false, Bool.false_eq_true, if_false]
      push_cast
      rw [tail]
      ring

/-- Disjoint removals of rows of uniform classes shrink a class by the sum of their shares. -/
theorem countP_removeAll {ω : Type*} (outputs : List ω) (keys : ω → List κ) {holds : α → Bool}
    {before : ω → Bool} (distinct : (rows.map key).Nodup)
    (unrepeated : ∀ output ∈ outputs, (keys output).Nodup)
    (present : ∀ output ∈ outputs, ∀ k ∈ keys output, k ∈ rows.map key)
    (disjoint : outputs.Pairwise fun output later => (keys output).Disjoint (keys later))
    (was : ∀ output ∈ outputs, ∀ row ∈ rows, key row ∈ keys output → holds row = before output) :
    ((rows.filter fun row => decide (key row ∉ outputs.flatMap keys)).countP holds : ℤ) =
    rows.countP holds -
      (outputs.map fun output => ((before output).toNat : ℤ) * (keys output).length).sum := by
  induction outputs generalizing rows with
  | nil => simp
  | cons output rest ih =>
    have self := List.mem_cons_self (a := output) (l := rest)
    have later {other} (member : other ∈ rest) := List.mem_cons_of_mem output member
    obtain ⟨apart, tail⟩ := List.pairwise_cons.mp disjoint
    have sub : ((rows.filter fun row => decide (key row ∉ keys output)).map key).Sublist
        (rows.map key) :=
      List.filter_sublist.map key
    rw [List.flatMap_cons, filter_not_mem_append, ih (distinct.sublist sub)
      (fun other member => unrepeated other (later member)) ?_ tail
      (fun other member row kept => was other (later member) row (List.mem_filter.mp kept).1),
      countP_remove distinct (unrepeated output self) (present output self) (was output self)]
    · simp only [List.map_cons, List.sum_cons]
      ring
    · intro other member k listed
      obtain ⟨row, inRows, rfl⟩ := List.mem_map.mp (present other (later member) k listed)
      refine List.mem_map_of_mem (List.mem_filter.mpr ⟨inRows, ?_⟩)
      exact decide_eq_true fun removed => apart other member removed listed

end Removal

/-! ## Histories

Rows are appended and never moved, so the rows before one are those the table held when it was
appended. -/

section Histories

variable {rows more : List α} {k : κ}

/-- The rows before the one with the key. -/
def rowsBefore (key : α → κ) (k : κ) (rows : List α) : List α := rows.takeWhile fun row =>
    key row ≠ k

/-- The row with the key and the rows after it. -/
def rowsSince (key : α → κ) (k : κ) (rows : List α) : List α :=
  rows.dropWhile fun row => key row ≠ k

theorem rowsBefore_append_rowsSince : rowsBefore key k rows ++ rowsSince key k rows = rows :=
  List.takeWhile_append_dropWhile

theorem rowsBefore_subset : rowsBefore key k rows ⊆ rows := (List.takeWhile_prefix _).subset

theorem rowsBefore_append (present : k ∈ rows.map key) :
    rowsBefore key k (rows ++ more) = rowsBefore key k rows := by
  obtain ⟨row, member, rfl⟩ := List.mem_map.mp present
  rw [rowsBefore, List.takeWhile_append, if_neg, rowsBefore]
  intro all
  have whole : rows.takeWhile (fun other => key other ≠ key row) = rows :=
    (List.takeWhile_prefix _).eq_of_length all
  simpa using List.takeWhile_eq_self_iff.mp whole row member

theorem rowsBefore_last {row : α} (fresh : ∀ other ∈ rows, key other ≠ key row) :
    rowsBefore key (key row) (rows ++ [row]) = rows := by
  rw [rowsBefore,
    List.takeWhile_append_of_pos fun other member => by simpa using fresh other member]
  simp

theorem rowsBefore_update {keys : List κ} {change : α → α}
    (stable : ∀ row, key (change row) = key row) :
    rowsBefore key k (update key keys change rows) =
    update key keys change (rowsBefore key k rows) := by
  have same : ((fun row => decide (key row ≠ k)) ∘ fun row => if key row ∈ keys then change row
      else row) = fun row => decide (key row ≠ k) := by
    funext row
    rw [Function.comp_apply]
    split
    · rw [stable]
    · rfl
  rw [rowsBefore, update, List.takeWhile_map, same, ← rowsBefore, update]

end Histories

end KeyedRows

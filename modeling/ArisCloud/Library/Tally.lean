import Mathlib.Algebra.BigOperators.Group.List.Basic
import Mathlib.Algebra.BigOperators.Ring.List
import Mathlib.Algebra.Order.BigOperators.Group.List
import Mathlib.Algebra.Order.Ring.Int
import Mathlib.Algebra.Ring.Defs
import Mathlib.Data.List.Dedup
import Mathlib.Tactic.Abel

/-! # Amounts added up over the matching rows of a table

`sumWhere` is the grouped total of a query: the amounts of the rows a filter selects, added up.
Totals are additive in the table, so what a request appends to a history is what its total grows by.
-/

namespace Tally

variable {α M : Type*} [AddCommMonoid M]

/-- The amounts of the matching rows, added up. -/
def sumWhere (matching : α → Bool) (amount : α → M) (rows : List α) : M :=
  ((rows.filter matching).map amount).sum

variable {matching other : α → Bool} {amount : α → M} {rows : List α}

@[simp] theorem sumWhere_nil : sumWhere matching amount [] = 0 := rfl

@[simp] theorem sumWhere_cons (row : α) :
    sumWhere matching amount (row :: rows) =
      (if matching row then amount row else 0) + sumWhere matching amount rows := by
  cases holds : matching row <;> simp [sumWhere, holds]

@[simp] theorem sumWhere_append (more : List α) :
    sumWhere matching amount (rows ++ more) = sumWhere matching amount rows +
    sumWhere matching amount more := by
  simp [sumWhere]

theorem sumWhere_congr {others : α → M} (same : ∀ row ∈ rows, matching row = other row)
    (amounts : ∀ row ∈ rows, matching row = true → amount row = others row) :
    sumWhere matching amount rows = sumWhere other others rows := by
  induction rows with
  | nil => rfl
  | cons row rest ih =>
    rw [sumWhere_cons, sumWhere_cons, ih (fun r member => same r (List.mem_cons_of_mem _ member))
      (fun r member => amounts r (List.mem_cons_of_mem _ member)),
      ← same row (List.mem_cons_self ..)]
    by_cases holds : matching row = true
    · simp only [holds, amounts row (List.mem_cons_self ..) holds]
    · simp only [holds, if_false, Bool.false_eq_true]

theorem sumWhere_eq_zero (none : ∀ row ∈ rows, matching row = true → amount row = 0) :
    sumWhere matching amount rows = 0 := by
  refine List.sum_eq_zero fun value member => ?_
  obtain ⟨row, selected, rfl⟩ := List.mem_map.mp member
  exact none row (List.mem_filter.mp selected).1 (List.mem_filter.mp selected).2

/-- Rows that fall into one of two parts, and not into both. -/
theorem sumWhere_split {left right : α → Bool}
    (parts : ∀ row ∈ rows, matching row = (left row || right row))
    (apart : ∀ row ∈ rows, ¬ (left row = true ∧ right row = true)) :
    sumWhere matching amount rows = sumWhere left amount rows + sumWhere right amount rows := by
  induction rows with
  | nil => simp
  | cons row rest ih =>
    have later := ih (fun other member => parts other (List.mem_cons_of_mem _ member))
      fun other member => apart other (List.mem_cons_of_mem _ member)
    have here := apart row (List.mem_cons_self ..)
    rw [sumWhere_cons, sumWhere_cons, sumWhere_cons, parts row (List.mem_cons_self ..), later]
    cases inLeft : left row <;> cases inRight : right row
    · simp
    · simp [add_left_comm]
    · simp [add_assoc]
    · exact absurd ⟨inLeft, inRight⟩ here

theorem sumWhere_nonneg {M : Type*} [AddCommMonoid M] [PartialOrder M] [IsOrderedAddMonoid M]
    {amount : α → M} (nonneg : ∀ row ∈ rows, matching row = true → 0 ≤ amount row) :
    0 ≤ sumWhere matching amount rows := by
  refine List.sum_nonneg fun value member => ?_
  obtain ⟨row, selected, rfl⟩ := List.mem_map.mp member
  exact nonneg row (List.mem_filter.mp selected).1 (List.mem_filter.mp selected).2

/-- Terms that are at most others and have the same sum are equal to them. -/
theorem eq_of_sum_eq {M : Type*} [AddCommMonoid M] [PartialOrder M] [IsOrderedCancelAddMonoid M]
    {less more : α → M} (le : ∀ row ∈ rows, less row ≤ more row)
    (same : (rows.map less).sum = (rows.map more).sum) :
    ∀ row ∈ rows, less row = more row := by
  induction rows with
  | nil => exact nofun
  | cons row rest ih =>
    have below := fun other member => le other (List.mem_cons_of_mem _ member)
    have here := le row (List.mem_cons_self ..)
    have later : (rest.map less).sum ≤ (rest.map more).sum := List.sum_le_sum below
    rw [List.map_cons, List.map_cons, List.sum_cons, List.sum_cons] at same
    obtain ⟨first, others⟩ := (add_eq_add_iff_eq_and_eq here later).mp same
    rintro other (_ | ⟨_, member⟩)
    · exact first
    · exact ih below others other member

/-- A total as the sum of a share for every row, which is nothing for the rows that do not match. -/
theorem sum_map_share (counted : Bool) (matching : α → Bool) (amount : α → ℤ) (rows : List α) :
    (rows.map fun row => ((counted && matching row).toNat : ℤ) * amount row).sum =
      if counted then sumWhere matching amount rows else 0 := by
  induction rows with
  | nil => simp
  | cons row rest ih =>
    rw [List.map_cons, List.sum_cons, ih, sumWhere_cons]
    cases counted <;> cases matching row <;> simp

theorem sumWhere_map {β : Type*} (f : β → α) (items : List β) :
    sumWhere matching amount (items.map f) = sumWhere (fun item => matching (f item))
    (fun item => amount (f item)) items := by
  simp only [sumWhere, List.filter_map, List.map_map]
  rfl

theorem sumWhere_true : sumWhere (fun _ => true) amount rows = (rows.map amount).sum := by
  simp [sumWhere]

/-- When every row matches, nothing is left out. -/
theorem sumWhere_eq_sum (all : ∀ row ∈ rows, matching row = true) :
    sumWhere matching amount rows = (rows.map amount).sum := by
  rw [sumWhere, List.filter_eq_self.mpr all]

theorem sumWhere_intCast {R : Type*} [Ring R] (matching : α → Bool) (amount : α → ℤ)
    (rows : List α) :
    sumWhere matching (fun row => (amount row : R)) rows =
    ((sumWhere matching amount rows : ℤ) : R) := by
  induction rows with
  | nil => simp
  | cons row rest ih =>
    rw [sumWhere_cons, sumWhere_cons, ih, Int.cast_add]
    split <;> simp

theorem sumWhere_add {others : α → M} :
    sumWhere matching (fun row => amount row + others row) rows =
      sumWhere matching amount rows + sumWhere matching others rows := by
  induction rows with
  | nil => simp
  | cons row rest ih =>
    rw [sumWhere_cons, sumWhere_cons, sumWhere_cons, ih]
    split
    · exact add_add_add_comm ..
    · simp only [zero_add]

theorem sumWhere_mul_left {R : Type*} [NonUnitalNonAssocSemiring R] {amount : α → R} (factor : R) :
    sumWhere matching (fun row => factor * amount row) rows =
    factor * sumWhere matching amount rows := by
  induction rows with
  | nil => simp
  | cons row rest ih =>
    rw [sumWhere_cons, sumWhere_cons, ih, mul_add, mul_ite, mul_zero]

theorem sumWhere_filter {selected : α → Bool} :
    sumWhere matching amount (rows.filter selected) = sumWhere
    (fun row => selected row && matching row) amount rows := by
  simp only [sumWhere, List.filter_filter, Bool.and_comm]

theorem sumWhere_flatMap {β : Type*} (items : List β) (f : β → List α) :
    sumWhere matching amount
    (items.flatMap f) = (items.map fun item => sumWhere matching amount (f item)).sum := by
  induction items with
  | nil => rfl
  | cons item rest ih => rw [List.flatMap_cons, sumWhere_append, List.map_cons, List.sum_cons, ih]

/-- Rows that come from others, all of one amount. -/
theorem sumWhere_filterMap {β : Type*} {items : List β} {f : β → Option α} (value : M)
    (constant : ∀ item ∈ items, ∀ row, f item = some row → amount row = value) :
    sumWhere matching amount (items.filterMap f) = sumWhere (fun item => (f item).any matching)
    (fun _ => value) items := by
  induction items with
  | nil => rfl
  | cons item rest ih =>
    have later := ih fun other member => constant other (List.mem_cons_of_mem _ member)
    rw [sumWhere_cons, ← later, List.filterMap_cons]
    cases found : f item with
    | none => simp
    | some row =>
      rw [sumWhere_cons, constant item (List.mem_cons_self ..) row found]
      rfl

/-- A second condition on the rows as a condition on their amounts. -/
theorem sumWhere_and : sumWhere (fun row => matching row && other row) amount rows =
    sumWhere matching (fun row => if other row then amount row else 0) rows := by
  induction rows with
  | nil => rfl
  | cons row rest ih =>
    rw [sumWhere_cons, sumWhere_cons, ih]
    cases matching row <;> cases other row <;> rfl

section Keys

variable {κ : Type*} [DecidableEq κ] {key : α → κ}

/-- Among rows with distinct keys, a value given to one key is counted once. -/
theorem sumWhere_single (distinct : (rows.map key).Nodup) (k : κ) (value : M) :
    sumWhere matching (fun row => if k = key row then value else 0) rows =
      if rows.any (fun row => key row = k && matching row) then value else 0 := by
  induction rows with
  | nil => simp
  | cons row rest ih =>
    obtain ⟨fresh, tail⟩ := List.nodup_cons.mp distinct
    rw [sumWhere_cons, ih tail, List.any_cons]
    by_cases same : key row = k
    · have absent : rest.any (fun row => key row = k && matching row) = false := by
        refine List.any_eq_false.mpr fun other member both => fresh ?_
        simp only [Bool.and_eq_true, decide_eq_true_eq] at both
        rw [same, ← both.1]
        exact List.mem_map_of_mem member
      cases holds : matching row <;> simp [same, absent]
    · simp [same, Ne.symm same]

/-- Among rows with distinct keys, those with the key of a row are the row. -/
theorem sumWhere_of_key (distinct : (rows.map key).Nodup) {row : α} (member : row ∈ rows) :
    sumWhere (fun other => key other = key row) amount rows = amount row := by
  induction rows with
  | nil => contradiction
  | cons first rest ih =>
    obtain ⟨fresh, tail⟩ := List.nodup_cons.mp distinct
    rw [sumWhere_cons]
    rcases List.mem_cons.mp member with rfl | later
    · rw [if_pos (decide_eq_true rfl), sumWhere_eq_zero, add_zero]
      intro other another same
      exact absurd (of_decide_eq_true same ▸ List.mem_map_of_mem another) fresh
    · have apart : key first ≠ key row := fun same => fresh (same ▸ List.mem_map_of_mem later)
      rw [if_neg (by simpa using apart), zero_add]
      exact ih tail later

/-- Totals per row of the items that name the row, added up, are the total of the items that name
some row. -/
theorem sumWhere_sumWhere {β : Type*} (distinct : (rows.map key).Nodup) (name : β → κ)
    (value : β → M) (items : List β) :
    sumWhere matching (fun row => sumWhere (fun item => name item = key row) value items) rows =
      sumWhere (fun item => rows.any fun row => key row = name item && matching row) value
      items := by
  induction items with
  | nil => exact sumWhere_eq_zero fun _ _ _ => rfl
  | cons item rest ih =>
    simp only [sumWhere_cons, decide_eq_true_eq]
    rw [sumWhere_add, ih, sumWhere_single distinct]

/-- Changing one row of a table with distinct keys exchanges its share of a total. -/
theorem sumWhere_update {M : Type*} [AddCommGroup M] {before after : α → M} {change : α → α}
    {row : α} (distinct : (rows.map key).Nodup) (member : row ∈ rows)
    (same : ∀ other ∈ rows, key other ≠ key row → after other = before other) :
    sumWhere matching after (rows.map fun other => if key other = key row then change other
      else other) =
      sumWhere matching before rows - (if matching row then before row else 0) +
        (if matching (change row) then after (change row) else 0) := by
  induction rows with
  | nil => simp at member
  | cons first rest ih =>
    obtain ⟨fresh, tail⟩ := List.nodup_cons.mp distinct
    rw [List.map_cons, sumWhere_cons, sumWhere_cons]
    rcases List.mem_cons.mp member with rfl | later
    · have untouched : rest.map (fun other => if key other = key row then change other else other) =
          rest := by
        conv_rhs => rw [← List.map_id rest]
        refine List.map_congr_left fun other inRest => if_neg fun equal => fresh ?_
        rw [← equal]
        exact List.mem_map_of_mem inRest
      have others : sumWhere matching after rest = sumWhere matching before rest :=
        sumWhere_congr (fun _ _ => rfl) fun other inRest _ =>
          same other (List.mem_cons_of_mem _ inRest) fun equal =>
            fresh (equal ▸ List.mem_map_of_mem inRest)
      rw [untouched, others, if_pos rfl]
      abel
    · have apart : key first ≠ key row := fun equal => fresh (equal ▸ List.mem_map_of_mem later)
      rw [if_neg apart, ih tail later fun other inRest =>
        same other (List.mem_cons_of_mem _ inRest), same first (List.mem_cons_self ..) apart]
      abel

end Keys

/-! ## Quantities asked for by name -/

section Asked

variable {κ : Type*} [DecidableEq κ] {asked : List (κ × ℤ)} {name : κ}

/-- The quantity that a list of names and quantities asks for under one name. -/
def askedQty (asked : List (κ × ℤ)) (name : κ) : ℤ := sumWhere (fun item => item.1 = name)
    (·.2) asked

/-- Quantities of at least one add up to a nonnegative total. -/
theorem askedQty_nonneg (positive : ∀ item ∈ asked, 1 ≤ item.2) (name : κ) :
    0 ≤ askedQty asked name :=
  sumWhere_nonneg fun item member _ => by have := positive item member; omega

/-- A name is asked for at least the quantity of each of its items. -/
theorem le_askedQty (positive : ∀ item ∈ asked, 1 ≤ item.2) {item : κ × ℤ} (member : item ∈ asked) :
    item.2 ≤ askedQty asked item.1 := by
  refine List.single_le_sum (fun value isValue => ?_) _
    (List.mem_map_of_mem (List.mem_filter.mpr ⟨member, decide_eq_true rfl⟩))
  obtain ⟨other, selected, rfl⟩ := List.mem_map.mp isValue
  have := positive other (List.mem_filter.mp selected).1
  omega

/-- A name that does not occur is asked for nothing. -/
theorem askedQty_eq_zero (unnamed : ∀ item ∈ asked, item.1 ≠ name) : askedQty asked name = 0 :=
  sumWhere_eq_zero fun item member named => absurd (of_decide_eq_true named) (unnamed item member)

/-- A name that occurs once is asked for the quantity it occurs with. -/
theorem askedQty_of_once {item : κ × ℤ} (member : item ∈ asked)
    (once : asked.countP (·.1 = item.1) ≤ 1) :
    askedQty asked item.1 = item.2 := by
  induction asked with
  | nil => simp at member
  | cons first rest ih =>
    rw [askedQty, sumWhere_cons, ← askedQty]
    rw [List.countP_cons] at once
    rcases List.mem_cons.mp member with rfl | later
    · simp only [decide_true, if_true] at once
      have unnamed : rest.countP (fun other => decide (other.1 = item.1)) = 0 := by omega
      have others : askedQty rest item.1 = 0 := askedQty_eq_zero fun other inRest same =>
        List.countP_eq_zero.mp unnamed other inRest (decide_eq_true same)
      simp [others]
    · have named : 0 < rest.countP (fun other => decide (other.1 = item.1)) :=
        List.countP_pos_iff.mpr ⟨item, later, decide_eq_true rfl⟩
      have apart : first.1 ≠ item.1 := fun same => by
        rw [if_pos (decide_eq_true same)] at once
        omega
      simp [apart, ih later (by omega)]

theorem countP_le_one_of_nodup (distinct : (asked.map (·.1)).Nodup) (name : κ) :
    asked.countP (·.1 = name) ≤ 1 := by
  have counted : asked.countP (·.1 = name) = (asked.map (·.1)).count name := by
    rw [List.count, List.countP_map]
    rfl
  rw [counted]
  exact List.nodup_iff_count_le_one.mp distinct name

theorem askedQty_of_nodup (distinct : (asked.map (·.1)).Nodup) {item : κ × ℤ}
    (member : item ∈ asked) :
    askedQty asked item.1 = item.2 :=
  askedQty_of_once member (countP_le_one_of_nodup distinct item.1)

/-- A name is asked for no more than a bound that its items respect, unless it occurs more than
once. -/
theorem askedQty_le_of_once {bound : ℤ} (nonneg : 0 ≤ bound)
    (fits : ∀ item ∈ asked, item.1 = name → item.2 ≤ bound)
    (repeated : 1 < asked.countP (·.1 = name) → askedQty asked name ≤ bound) :
    askedQty asked name ≤ bound := by
  by_cases named : ∃ item ∈ asked, item.1 = name
  · obtain ⟨item, member, rfl⟩ := named
    by_cases once : asked.countP (·.1 = item.1) ≤ 1
    · rw [askedQty_of_once member once]
      exact fits item member rfl
    · exact repeated (by omega)
  · rw [askedQty_eq_zero fun item member same => named ⟨item, member, same⟩]
    exact nonneg

/-- Names that occur once are asked for no more than a bound that their items respect. -/
theorem askedQty_le (distinct : (asked.map (·.1)).Nodup) {bound : κ → ℤ}
    (nonneg : ∀ name, 0 ≤ bound name) (fits : ∀ item ∈ asked, item.2 ≤ bound item.1) (name : κ) :
    askedQty asked name ≤ bound name :=
  askedQty_le_of_once (nonneg name) (fun item member same => same ▸ fits item member)
      fun repeated =>
    absurd (countP_le_one_of_nodup distinct name) (by omega)

end Asked

end Tally

import Mathlib.Data.List.Nodup
import Mathlib.Data.List.Perm.Basic

/-! # Pages of a list

A page is a run of a list of a fixed size, counted from one. The pages of a list together are the
list. Rows that are sorted by distinct keys have one order only, so pages that are cut from separate
sorts still fit together.
-/

namespace Paging

variable {α κ : Type*} {rows : List α} {size : ℕ}

/-- The rows of a page: those from an offset on, up to a limit. -/
def page (rows : List α) (number size : ℕ) : List α := (rows.drop ((number - 1) * size)).take size

private theorem length_page (number : ℕ) : (page rows number size).length = min size
    (rows.length - (number - 1) * size) := by
  simp [page]

/-- A page has as many rows as the list only when it is the first and the list fits into it. -/
theorem length_page_eq_iff {number : ℕ} (counted : 1 ≤ number) (sized : 1 ≤ size) :
    (page rows number size).length = rows.length ↔ rows = [] ∨ number = 1 ∧ rows.length ≤ size := by
  rw [length_page, ← List.length_eq_zero_iff]
  constructor
  · intro same
    by_cases first : number = 1
    · subst first
      omega
    · have later : size ≤ (number - 1) * size := Nat.le_mul_of_pos_left size (by omega)
      omega
  · rintro (none | ⟨rfl, fits⟩)
    · omega
    · omega

/-- The first pages together are the first rows. -/
theorem flatMap_page_eq_take (count : ℕ) :
    (List.range count).flatMap (fun number => page rows (number + 1) size) = rows.take
    (count * size) := by
  induction count with
  | zero => simp
  | succ count ih =>
    rw [List.range_succ, List.flatMap_append, ih, List.flatMap_cons, List.flatMap_nil,
      List.append_nil, page, Nat.add_sub_cancel, Nat.succ_mul, List.take_add]

/-- Enough pages together are the list. -/
theorem flatMap_page {count : ℕ} (enough : rows.length ≤ count * size) :
    (List.range count).flatMap (fun number => page rows (number + 1) size) = rows := by
  rw [flatMap_page_eq_take, List.take_of_length_le enough]

/-- Rows with distinct keys have one order in which their keys are sorted. -/
theorem eq_of_sorted (le : κ → κ → Prop)
    (antisymm : ∀ first second, le first second → le second first → first = second)
    {key : α → κ} (distinct : (rows.map key).Nodup) {first second : List α}
    (permFirst : first.Perm rows) (permSecond : second.Perm rows)
    (sortedFirst : first.Pairwise fun row other => le (key row) (key other))
    (sortedSecond : second.Pairwise fun row other => le (key row) (key other)) :
    first = second := by
  apply List.Perm.eq_of_pairwise _ sortedFirst sortedSecond (permFirst.trans permSecond.symm)
  intro row other member another before after
  apply List.inj_on_of_nodup_map distinct (permFirst.subset member) (permSecond.subset another)
  exact antisymm _ _ before after

end Paging

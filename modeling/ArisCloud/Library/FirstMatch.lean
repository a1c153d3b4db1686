import Mathlib.Data.List.Basic

/-! # Queries that read the first matching row

A reader may see some rows of a table and not others. Two tables agree for the reader when they hold
the same visible rows in the same order. A query for the first matching row answers alike on both
unless a hidden row comes first in one of them.
-/

namespace FirstMatch

variable {α : Type*} {visible matching : α → Bool} {rows others : List α} {row : α}

/-- The tables hold the same rows for a reader. -/
def Agree (visible : α → Bool) (rows others : List α) : Prop :=
  rows.filter visible = others.filter visible

instance [DecidableEq α] : Decidable (Agree visible rows others) :=
  inferInstanceAs (Decidable (rows.filter visible = others.filter visible))

/-- The first matching row is one that the reader does not see. -/
def HiddenFirst (visible matching : α → Bool) (rows : List α) : Prop :=
  ∃ row, rows.find? matching = some row ∧ visible row = false

instance : Decidable (HiddenFirst visible matching rows) :=
  match found : rows.find? matching with
  | none => isFalse (by rintro ⟨_, first, _⟩; rw [found] at first; contradiction)
  | some row => decidable_of_iff (visible row = false)
      ⟨fun hidden => ⟨row, found, hidden⟩, by
        rintro ⟨_, first, hidden⟩
        rw [found] at first
        exact Option.some.inj first ▸ hidden⟩

/-- A first match that is not hidden is the first match among the visible rows. -/
theorem find?_filter_of_not_hidden (seen : ¬ HiddenFirst visible matching rows) :
    (rows.filter visible).find? matching = rows.find? matching := by
  induction rows with
  | nil => rfl
  | cons row rest ih =>
    by_cases answers : matching row = true
    · have shown : visible row = true := by
        by_contra hidden
        exact seen ⟨row, List.find?_cons_of_pos answers, Bool.eq_false_iff.mpr hidden⟩
      rw [List.filter_cons_of_pos shown, List.find?_cons_of_pos answers,
        List.find?_cons_of_pos answers]
    · have later : ¬ HiddenFirst visible matching rest := by
        rintro ⟨hidden, first, unseen⟩
        exact seen ⟨hidden, (List.find?_cons_of_neg answers).trans first, unseen⟩
      rw [List.find?_cons_of_neg answers, ← ih later]
      by_cases shown : visible row = true
      · rw [List.filter_cons_of_pos shown, List.find?_cons_of_neg answers]
      · rw [List.filter_cons_of_neg shown]

theorem find?_eq_of_agree (agree : Agree visible rows others)
    (seen : ¬ HiddenFirst visible matching rows)
    (seenOthers : ¬ HiddenFirst visible matching others) :
    rows.find? matching = others.find? matching := by
  rw [← find?_filter_of_not_hidden seen, ← find?_filter_of_not_hidden seenOthers, agree]

end FirstMatch

import Mathlib.Data.List.Chain

/-! # Running balances

Every change of an account records the balance before and after it. A history leads from one balance
to another when each change starts where the previous one ended.
-/

namespace RunningBalance

variable {M : Type*}

/-- A change of a balance. -/
structure Step (M : Type*) where
  before : M
  after : M

/-- The history leads from a first balance to a final one. -/
def Leads : M → List (Step M) → M → Prop
  | balance, [], final => balance = final
  | balance, step :: rest, final => step.before = balance ∧ Leads step.after rest final

variable {start middle final : M} {steps : List (Step M)}

/-- A change that starts at the final balance extends the history. -/
theorem Leads.append (leads : Leads start steps middle) (final : M) :
    Leads start (steps ++ [⟨middle, final⟩]) final := by
  induction steps generalizing start with
  | nil => exact ⟨leads.symm, rfl⟩
  | cons step rest ih => exact ⟨leads.1, ih leads.2⟩

/-- Each change starts where the previous one ended. -/
theorem Leads.isChain (leads : Leads start steps final) : steps.IsChain fun step next =>
    next.before = step.after := by
  induction steps generalizing start with
  | nil => exact .nil
  | cons step rest ih =>
    obtain ⟨_, tail⟩ := leads
    cases rest with
    | nil => exact .singleton step
    | cons next others => exact .cons_cons tail.1 (ih tail)

end RunningBalance

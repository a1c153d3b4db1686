import Mathlib.Algebra.Order.Ring.Int

/-! # The ledger of one shipment

What was sent out is later received or lost, and what is reported missing is later found or lost.
A posting is admissible when it does not take more than is outstanding or missing. Admissible
postings conserve the ledger: receipts and losses never exceed what was sent, nor findings and
losses what was reported.
-/

namespace Shipments

inductive Entry
  | send
  | receive
  | report
  | find
  | lose
deriving DecidableEq, Repr

/-- The quantities posted so far. -/
structure Ledger where
  sent : ℤ := 0
  received : ℤ := 0
  reported : ℤ := 0
  found : ℤ := 0
  lost : ℤ := 0
deriving DecidableEq, Repr

namespace Ledger

/-- What is on its way. -/
def outstanding (ledger : Ledger) : ℤ := ledger.sent - ledger.received - ledger.lost

/-- What is reported and unexplained. -/
def missing (ledger : Ledger) : ℤ := ledger.reported - ledger.found - ledger.lost

def post (ledger : Ledger) (quantity : ℤ) : Entry → Ledger
  | .send => { ledger with sent := ledger.sent + quantity }
  | .receive => { ledger with received := ledger.received + quantity }
  | .report => { ledger with reported := ledger.reported + quantity }
  | .find => { ledger with found := ledger.found + quantity }
  | .lose => { ledger with lost := ledger.lost + quantity }

/-- A posting that takes no more than there is. -/
def Admits (ledger : Ledger) (quantity : ℤ) : Entry → Prop
  | .send | .report => 0 ≤ quantity
  | .receive => quantity ≤ ledger.outstanding
  | .find => quantity ≤ ledger.missing
  | .lose => quantity ≤ ledger.outstanding ∧ quantity ≤ ledger.missing

instance (ledger : Ledger) (quantity : ℤ) (entry : Entry) :
    Decidable (ledger.Admits quantity entry) :=
  match entry with
  | .send | .report => inferInstanceAs (Decidable (0 ≤ quantity))
  | .receive => inferInstanceAs (Decidable (quantity ≤ ledger.outstanding))
  | .find => inferInstanceAs (Decidable (quantity ≤ ledger.missing))
  | .lose => inferInstanceAs (Decidable (quantity ≤ ledger.outstanding ∧ quantity ≤ ledger.missing))

/-- Nothing is received or lost that was not sent, nor found or lost that was not reported. -/
structure Conserved (ledger : Ledger) : Prop where
  settled : ledger.received + ledger.lost ≤ ledger.sent
  explained : ledger.found + ledger.lost ≤ ledger.reported

theorem conserved_empty : Conserved {} := ⟨le_rfl, le_rfl⟩

/-- A conserved ledger admits an empty posting. -/
theorem Conserved.admits_zero {ledger : Ledger} (conserved : ledger.Conserved) (entry : Entry) :
    ledger.Admits 0 entry := by
  obtain ⟨settled, explained⟩ := conserved
  cases entry <;> simp only [Admits, outstanding, missing] <;> omega

/-- Admissible postings conserve the ledger. -/
theorem Conserved.post {ledger : Ledger} {quantity : ℤ} {entry : Entry}
    (conserved : ledger.Conserved) (admits : ledger.Admits quantity entry) :
    (ledger.post quantity entry).Conserved := by
  obtain ⟨settled, explained⟩ := conserved
  cases entry <;> simp only [Admits, outstanding, missing] at admits <;>
    exact ⟨by simp only [Ledger.post]; omega, by simp only [Ledger.post]; omega⟩

/-- Comparing all reports with what is outstanding, explained ones included, admits the reports that
are due exactly when nothing has been explained yet, or when no report is due. -/
theorem report_check_iff {ledger : Ledger} (reported : 0 ≤ ledger.reported)
    (found : 0 ≤ ledger.found) (lost : 0 ≤ ledger.lost) :
    (∀ quantity, 1 ≤ quantity ∧ quantity + ledger.reported ≤ max ledger.outstanding 0 ↔
      1 ≤ quantity ∧ quantity ≤ ledger.outstanding - ledger.missing) ↔
    ledger.found = 0 ∧ ledger.lost = 0 ∨ ledger.outstanding ≤ ledger.missing := by
  simp only [missing]
  constructor
  · intro same
    by_contra wrong
    have due := (same (ledger.outstanding - (ledger.reported - ledger.found - ledger.lost))).mpr
      (by omega)
    omega
  · intro explained quantity
    rcases explained with ⟨noneFound, noneLost⟩ | covered
    · omega
    · omega

end Ledger

end Shipments

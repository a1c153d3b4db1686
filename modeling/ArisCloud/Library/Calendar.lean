import ArisCloud.Library.Numerals

/-! # Dates of the Gregorian calendar

Days are counted from the first of January of the year one, which is day one. The year of a day is
found in cycles of four hundred, one hundred, four and single years, and its month by an estimate
that is at most one month too late. A day has one date, and the text of the date tells the day.
-/

namespace Calendar

open Numerals

structure Date where
  year : ℕ
  month : ℕ
  day : ℕ
deriving DecidableEq, Repr

def isLeap (year : ℕ) : Bool := year % 4 = 0 && (year % 100 ≠ 0 || year % 400 = 0)

def daysBeforeYear (year : ℕ) : ℕ :=
  (year - 1) * 365 + (year - 1) / 4 - (year - 1) / 100 + (year - 1) / 400

/-- The days before the months of a common year. -/
def monthStarts : List ℕ := [0, 31, 59, 90, 120, 151, 181, 212, 243, 273, 304, 334]

def daysBeforeMonth (leap : Bool) (month : ℕ) : ℕ := monthStarts.getD (month - 1) 0 + if 2 < month ∧
    leap then 1 else 0

/-- The number of the day of a date. -/
def Date.ordinal (date : Date) : ℕ :=
  daysBeforeYear date.year + daysBeforeMonth (isLeap date.year) date.month + date.day

/-- The month and the day of the month, from the number of days of the year before. -/
def monthAndDay (leap : Bool) (days : ℕ) : ℕ × ℕ :=
  let estimate := (days + 50) / 32
  let month := if days < daysBeforeMonth leap estimate then estimate - 1 else estimate
  (month, days - daysBeforeMonth leap month + 1)

/-- The date of a day. -/
def ofOrdinal (ordinal : ℕ) : Date :=
  let days := ordinal - 1
  let centuries := days % 146097 / 36524
  let fours := days % 146097 % 36524 / 1461
  let singles := days % 146097 % 36524 % 1461 / 365
  let year := days / 146097 * 400 + centuries * 100 + fours * 4 + singles + 1
  if singles = 4 ∨ centuries = 4 then ⟨year - 1, 12, 31⟩
  else
    let leap := decide (singles = 3 ∧ (fours ≠ 24 ∨ centuries = 3))
    let (month, day) := monthAndDay leap (days % 146097 % 36524 % 1461 % 365)
    ⟨year, month, day⟩

private theorem monthAndDay_spec (leap : Bool) (days : ℕ) (bound : days < 365) :
    daysBeforeMonth leap (monthAndDay leap days).1 + (monthAndDay leap days).2 = days + 1 := by
  have all : ∀ leap : Bool, ∀ days < 365, daysBeforeMonth leap (monthAndDay leap days).1 +
      (monthAndDay leap days).2 = days + 1 := by decide +kernel
  exact all leap days bound

/-- Days before a year of the cycles. -/
theorem daysBeforeYear_cycles {cycles centuries fours singles : ℕ} (century : centuries < 4)
    (four : fours < 25) (single : singles < 4) :
    daysBeforeYear (cycles * 400 + centuries * 100 + fours * 4 + singles + 1) =
      cycles * 146097 + centuries * 36524 + fours * 1461 + singles * 365 := by
  unfold daysBeforeYear
  omega

private theorem isLeap_cycles {cycles centuries fours singles : ℕ} (century : centuries < 4)
    (four : fours < 25) (single : singles < 4) :
    isLeap (cycles * 400 + centuries * 100 + fours * 4 + singles + 1) =
      decide (singles = 3 ∧ (fours ≠ 24 ∨ centuries = 3)) := by
  rw [isLeap, Bool.eq_iff_iff]
  simp only [Bool.and_eq_true, Bool.or_eq_true, decide_eq_true_eq]
  omega

/-- The last day of the year, when the year before it is a leap year. -/
theorem ordinal_lastDay {year : ℕ} (leap : isLeap year = true) :
    (⟨year, 12, 31⟩ : Date).ordinal = daysBeforeYear year + 366 := by
  rw [Date.ordinal, leap]
  rfl

/-- The date of a day has the number of the day. -/
theorem ordinal_ofOrdinal {ordinal : ℕ} (positive : 0 < ordinal) :
    (ofOrdinal ordinal).ordinal = ordinal := by
  generalize isDays : ordinal - 1 = days
  have century : days % 146097 / 36524 ≤ 4 := by omega
  have four : days % 146097 % 36524 / 1461 < 25 := by omega
  have single : days % 146097 % 36524 % 1461 / 365 ≤ 4 := by omega
  simp only [ofOrdinal, isDays]
  split
  · next last =>
    rcases last with fourth | fourth
    · -- The last day of a leap year within a cycle of four years.
      have notLast : days % 146097 % 36524 / 1461 < 24 := by omega
      have notFourth : days % 146097 / 36524 < 4 := by omega
      have leap : isLeap
          (days / 146097 * 400 + days % 146097 / 36524 * 100 + days % 146097 % 36524 / 1461 * 4 +
          3 + 1) = true := by
        rw [isLeap_cycles notFourth four (by omega)]
        exact decide_eq_true ⟨rfl, .inl (by omega)⟩
      rw [fourth]
      change (⟨days / 146097 * 400 + days % 146097 / 36524 * 100 + days % 146097 % 36524 / 1461 *
          4 + 3 + 1, 12, 31⟩ :
        Date).ordinal = _
      rw [ordinal_lastDay leap, daysBeforeYear_cycles notFourth four (by omega)]
      omega
    · -- The last day of a cycle of four hundred years.
      have leap : isLeap (days / 146097 * 400 + 400) = true := by
        rw [isLeap]
        simp only [Bool.and_eq_true, Bool.or_eq_true, decide_eq_true_eq]
        omega
      have before : daysBeforeYear (days / 146097 * 400 + 400) = days - 365 := by
        unfold daysBeforeYear
        omega
      have zeros : days % 146097 % 36524 / 1461 = 0 ∧ days % 146097 % 36524 % 1461 / 365 = 0 := by
        omega
      rw [fourth, zeros.1, zeros.2, Nat.add_sub_cancel]
      rw [ordinal_lastDay leap, before]
      omega
  · next ordinary =>
    push Not at ordinary
    have notFourth : days % 146097 / 36524 < 4 := by omega
    have fewer : days % 146097 % 36524 % 1461 / 365 < 4 := by omega
    have ofMonth := monthAndDay_spec (decide (days % 146097 % 36524 % 1461 / 365 = 3 ∧
      (days % 146097 % 36524 / 1461 ≠ 24 ∨ days % 146097 / 36524 = 3)))
      (days % 146097 % 36524 % 1461 % 365) (by omega)
    simp only [Date.ordinal, daysBeforeYear_cycles notFourth four fewer,
      isLeap_cycles notFourth four fewer]
    omega

/-! ## Text -/

/-- A date with four digits for the year and two for the month and the day. -/
def Date.text (date : Date) : List Char :=
  padded 4 date.year ++ '-' :: (padded 2 date.month ++ '-' :: padded 2 date.day)

def readDate (text : List Char) : Option Date := do
  let (first, rest) ← splitOnce '-' text
  let (second, third) ← splitOnce '-' rest
  let year ← readNat first
  let month ← readNat second
  let day ← readNat third
  return ⟨year, month, day⟩

theorem readDate_text (date : Date) : readDate date.text = some date := by
  rw [readDate, Date.text, splitOnce_digits (fun _ => isDigit_padded) (by decide)]
  simp only [Option.bind_eq_bind, Option.bind_some]
  rw [splitOnce_digits (fun _ => isDigit_padded) (by decide)]
  simp only [Option.bind_some, readNat_padded]
  rfl

end Calendar

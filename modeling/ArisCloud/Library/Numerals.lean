import Mathlib.Data.Rat.Defs
import Mathlib.Tactic.Linarith

/-! # Numbers and their decimal digits

Natural numbers are written with their digits, or with zeros in front up to a width, and an amount
of hundredths with its sign, a point and two places. What is written is read back.
-/

namespace Numerals

variable {n width : ℕ} {text front rest : List Char} {separator : Char}

/-! ## Natural numbers -/

/-- The digits of a number, with zeros in front up to a width. -/
def padded (width n : ℕ) : List Char :=
  List.replicate (width - (Nat.toDigits 10 n).length) '0' ++ Nat.toDigits 10 n

/-- A number from its digits, of which there has to be one. -/
def readNat (text : List Char) : Option ℕ :=
  if text ≠ [] ∧ text.all Char.isDigit = true then some (Nat.ofDigitChars 10 text 0) else none

private theorem isDigit_toDigits {c : Char} (member : c ∈ Nat.toDigits 10 n) : c.isDigit = true :=
  Nat.isDigit_of_mem_toDigits (by omega) (by omega) member

theorem isDigit_padded {c : Char} (member : c ∈ padded width n) : c.isDigit = true := by
  rcases List.mem_append.mp member with zero | digit
  · rw [List.eq_of_mem_replicate zero]
    decide
  · exact isDigit_toDigits digit

theorem readNat_padded : readNat (padded width n) = some n := by
  have nonempty : padded width n ≠ [] := by
    intro empty
    exact Nat.toDigits_ne_nil (List.append_eq_nil_iff.mp empty).2
  rw [readNat, if_pos ⟨nonempty, List.all_eq_true.mpr fun _ member => isDigit_padded member⟩,
    padded, Nat.ofDigitChars_append, Nat.ofDigitChars_replicate_zero, Nat.mul_zero,
    Nat.ofDigitChars_ten_toDigits]

theorem readNat_toDigits : readNat (Nat.toDigits 10 n) = some n := by
  have unpadded : padded 0 n = Nat.toDigits 10 n := by simp [padded]
  rw [← unpadded]
  exact readNat_padded

private theorem length_padded (fits : n < 10 ^ width) (positive : 0 < width) :
    (padded width n).length = width := by
  have short : (Nat.toDigits 10 n).length ≤ width :=
    (Nat.length_toDigits_le_iff (by omega) positive).mpr fits
  rw [padded, List.length_append, List.length_replicate]
  omega

/-! ## Separators -/

/-- The parts of a text before and after the first separator. -/
def splitOnce (separator : Char) (text : List Char) : Option (List Char × List Char) :=
  match text.dropWhile (· ≠ separator) with
  | [] => none
  | _ :: rest => some (text.takeWhile (· ≠ separator), rest)

private theorem splitOnce_append (absent : ∀ c ∈ front, c ≠ separator) :
    splitOnce separator (front ++ separator :: rest) = some (front, rest) := by
  have keeps : ∀ c ∈ front, decide (c ≠ separator) = true := fun c member =>
    decide_eq_true (absent c member)
  rw [splitOnce, List.dropWhile_append_of_pos keeps, List.takeWhile_append_of_pos keeps]
  simp

private theorem ne_of_isDigit {c : Char} (digit : c.isDigit = true)
    (mark : separator.isDigit = false) : c ≠ separator := by
  rintro rfl
  rw [digit] at mark
  contradiction

theorem splitOnce_digits (digits : ∀ c ∈ front, c.isDigit = true)
    (mark : separator.isDigit = false) :
    splitOnce separator (front ++ separator :: rest) = some (front, rest) :=
  splitOnce_append fun c member => ne_of_isDigit (digits c member) mark

/-! ## Amounts -/

/-- Hundredths with a point before the last two places. -/
def hundredthsText (hundredths : ℕ) : List Char :=
  Nat.toDigits 10 (hundredths / 100) ++ '.' :: padded 2 (hundredths % 100)

def readHundredths (text : List Char) : Option ℕ := do
  let (whole, places) ← splitOnce '.' text
  let units ← readNat whole
  let hundredths ← readNat places
  if places.length = 2 then return units * 100 + hundredths else none

private theorem readHundredths_text (hundredths : ℕ) :
    readHundredths (hundredthsText hundredths) = some hundredths := by
  have places : (padded 2 (hundredths % 100)).length = 2 := length_padded (by omega) (by omega)
  have parts : hundredths / 100 * 100 + hundredths % 100 = hundredths := by omega
  rw [readHundredths, hundredthsText, splitOnce_digits (fun _ => isDigit_toDigits) (by decide)]
  simp only [Option.bind_eq_bind, Option.bind_some, readNat_toDigits, readNat_padded, places,
    if_true, parts]
  rfl

/-- An amount of hundredths with its sign; an amount below zero keeps its sign when it is rounded to
zero. -/
def amountText (negative : Bool) (hundredths : ℕ) : List Char :=
  if negative then '-' :: hundredthsText hundredths else hundredthsText hundredths

def readAmount : List Char → Option ℚ
  | '-' :: text => (readHundredths text).map fun hundredths : ℕ => -(hundredths / 100 : ℚ)
  | text => (readHundredths text).map fun hundredths : ℕ => (hundredths / 100 : ℚ)

theorem readAmount_text (negative : Bool) (hundredths : ℕ) :
    readAmount (amountText negative hundredths) =
    some (if negative then -(hundredths / 100 : ℚ) else hundredths / 100) := by
  cases negative with
  | true =>
    change (readHundredths (hundredthsText hundredths)).map _ = _
    rw [readHundredths_text]
    rfl
  | false =>
    have unsigned : ∀ rest, hundredthsText hundredths ≠ '-' :: rest := by
      intro rest same
      cases digits : Nat.toDigits 10 (hundredths / 100) with
      | nil => exact Nat.toDigits_ne_nil digits
      | cons c more =>
        have digit : c.isDigit = true := isDigit_toDigits (n := hundredths / 100)
          (digits ▸ List.mem_cons_self)
        rw [hundredthsText, digits] at same
        obtain ⟨rfl, _⟩ := List.cons.inj same
        contradiction
    have plain : readAmount (hundredthsText hundredths) =
        (readHundredths (hundredthsText hundredths)).map fun hundredths : ℕ =>
        (hundredths / 100 : ℚ) := by
      unfold readAmount
      split
      · next text same => exact absurd same (unsigned text)
      · rfl
    change readAmount (hundredthsText hundredths) = _
    rw [plain, readHundredths_text]
    rfl

end Numerals

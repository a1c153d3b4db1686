import Mathlib.Algebra.Order.Group.Unbundled.Int
import Mathlib.Data.Int.LeastGreatest

/-! # Clocks that are put forward and back

A local clock shows every instant with an offset that may change. Where the clock is put forward it
skips times, and where it is put back it shows times again. A time is resolved to the first instant
that shows it, or, when it is skipped, with the offset before the change. Resolving the two ends of
a period of local time finds the instants of the period exactly when the clock turns to each end
once.
-/

namespace LocalClock

variable {offset : ℤ → ℤ} {resolve : ℤ → ℤ} {bound time : ℤ}

/-- What the clock shows at an instant. -/
def shows (offset : ℤ → ℤ) (instant : ℤ) : ℤ := instant + offset instant

/-- The first instant at which the clock shows a time or has skipped it. -/
structure FirstReach (offset : ℤ → ℤ) (time instant : ℤ) : Prop where
  before : ∀ earlier < instant, shows offset earlier < time
  reached : time ≤ shows offset instant

/-- Times are resolved to the first instant that shows them, and skipped times with the offset
before the change. -/
def ResolvesFirst (offset resolve : ℤ → ℤ) : Prop :=
  ∀ time instant, FirstReach offset time instant →
    resolve time = if shows offset instant = time then instant else time - offset (instant - 1)

/-- The clock turns to a time once: one instant shows the moment before it, everything earlier is
shown before that, and everything later is shown from the time on. -/
def TurnsOnce (offset : ℤ → ℤ) (time : ℤ) : Prop :=
  ∃ instant, (∀ earlier < instant - 1, shows offset earlier < time - 1) ∧
    shows offset (instant - 1) = time - 1 ∧ ∀ later, instant ≤ later → time ≤ shows offset later

theorem shows_near (bounded : ∀ instant, |offset instant| < bound) (instant : ℤ) :
    instant - bound < shows offset instant ∧ shows offset instant < instant + bound := by
  have near := abs_lt.mp (bounded instant)
  rw [shows]
  omega

private theorem exists_firstReach (bounded : ∀ instant, |offset instant| < bound) (time : ℤ) :
    ∃ instant, FirstReach offset time instant := by
  have below : ∃ least, ∀ instant, time ≤ shows offset instant → least ≤ instant := by
    refine ⟨time - bound, fun instant reached => ?_⟩
    have near := shows_near bounded instant
    omega
  have above : ∃ instant, time ≤ shows offset instant := by
    refine ⟨time + bound, ?_⟩
    have near := shows_near bounded (time + bound)
    omega
  obtain ⟨instant, reached, least⟩ := Int.exists_least_of_bdd below above
  refine ⟨instant, fun earlier before => ?_, reached⟩
  by_contra passed
  have := least earlier (not_lt.mp passed)
  omega

/-- A time is resolved close to itself. -/
theorem resolve_near (resolves : ResolvesFirst offset resolve)
    (bounded : ∀ instant, |offset instant| < bound) (time : ℤ) :
    time - bound < resolve time ∧ resolve time < time + bound := by
  obtain ⟨instant, first⟩ := exists_firstReach bounded time
  rw [resolves time instant first]
  split
  · next shown =>
    have near := shows_near bounded instant
    omega
  · have near := abs_lt.mp (bounded (instant - 1))
    omega

/-- The time to which a clock turns once is resolved to where what is shown from it on begins. -/
theorem resolve_le_iff (resolves : ResolvesFirst offset resolve) (once : TurnsOnce offset time)
    (instant : ℤ) :
    resolve time ≤ instant ↔ time ≤ shows offset instant := by
  obtain ⟨turn, earlier, last, later⟩ := once
  have before : ∀ other < turn, shows offset other < time := by
    intro other isEarlier
    rcases lt_or_eq_of_le (show other ≤ turn - 1 by omega) with less | rfl
    · have := earlier other less
      omega
    · omega
  have resolved : resolve time = turn := by
    rw [resolves time turn ⟨before, later turn le_rfl⟩]
    split
    · rfl
    · rw [shows] at last
      omega
  rw [resolved]
  constructor
  · exact later instant
  · intro shown
    by_contra isEarlier
    have := before instant (not_le.mp isEarlier)
    omega

/-- The moment before it is resolved to where what is shown before it ends. -/
theorem le_resolve_iff (resolves : ResolvesFirst offset resolve) (once : TurnsOnce offset time)
    (instant : ℤ) :
    instant ≤ resolve (time - 1) ↔ shows offset instant < time := by
  obtain ⟨turn, earlier, last, later⟩ := once
  have resolved : resolve (time - 1) = turn - 1 := by
    rw [resolves (time - 1) (turn - 1) ⟨earlier, last.ge⟩, if_pos last]
  rw [resolved]
  constructor
  · intro isEarlier
    rcases lt_or_eq_of_le isEarlier with less | rfl
    · have := earlier instant less
      omega
    · omega
  · intro shown
    by_contra isLater
    have := later instant (by omega)
    omega

/-- Where what is shown before a time ends at the moment before it, the clock turns to the time
once. -/
theorem turnsOnce_of_ends (resolves : ResolvesFirst offset resolve)
    (bounded : ∀ instant, |offset instant| < bound)
    (ends : ∀ instant, instant ≤ resolve (time - 1) ↔ shows offset instant < time) :
    TurnsOnce offset time := by
  obtain ⟨first, before, reached⟩ := exists_firstReach bounded (time - 1)
  have resolved := resolves (time - 1) first ⟨before, reached⟩
  have last : shows offset (resolve (time - 1)) < time := (ends _).mp le_rfl
  have next : time ≤ shows offset (resolve (time - 1) + 1) := by
    by_contra shown
    have := (ends (resolve (time - 1) + 1)).mpr (not_le.mp shown)
    omega
  have notLater : first ≤ resolve (time - 1) + 1 := by
    by_contra later
    have := before (resolve (time - 1) + 1) (by omega)
    omega
  have shown : shows offset first = time - 1 := by
    by_contra skipped
    rw [if_neg skipped] at resolved
    rcases lt_or_eq_of_le notLater with earlier | same
    · have := (ends first).mp (by omega)
      omega
    · have := before (resolve (time - 1)) (by omega)
      have offsetBefore : offset (first - 1) = offset (resolve (time - 1)) := by
        rw [same]
        congr 1
        omega
      rw [offsetBefore] at resolved
      rw [shows] at this
      omega
  rw [if_pos shown] at resolved
  refine ⟨first + 1, fun earlier isEarlier => before earlier (by omega), ?_, fun later isLater =>
    ?_⟩
  · rw [add_sub_cancel_right]
    exact shown
  · by_contra early
    have := (ends later).mpr (not_le.mp early)
    omega

/-! ## Clocks that change once -/

section Change

/-- A clock whose offset changes at one instant. -/
def changing (at_ before after : ℤ) (instant : ℤ) : ℤ := if instant < at_ then before else after

/-- The first occurrence, by the later of the two local times of the change. -/
def resolveChanging (at_ before after : ℤ) (time : ℤ) : ℤ :=
  time - if time < at_ + max before after then before else after

theorem changing_resolves (at_ before after : ℤ) :
    ResolvesFirst (changing at_ before after) (resolveChanging at_ before after) := by
  rintro time instant ⟨earlier, reached⟩
  have previous := earlier (instant - 1) (by omega)
  have start := earlier (at_ - 1)
  simp only [shows, changing, resolveChanging] at previous reached start ⊢
  split_ifs at * <;> omega

/-- It turns once to a time that is away from the change. -/
theorem changing_turnsOnce {at_ before after : ℤ}
    (apart : time ≤ at_ + min before after ∨ at_ + max before after < time) :
    TurnsOnce (changing at_ before after) time := by
  rcases apart with earlier | later
  · refine ⟨time - before, fun instant isEarlier => ?_, ?_, fun instant isLater => ?_⟩
    · simp only [shows, changing]
      split_ifs <;> omega
    · rw [shows, changing, if_pos (by omega)]
      omega
    · simp only [shows, changing]
      split_ifs <;> omega
  · refine ⟨time - after, fun instant isEarlier => ?_, ?_, fun instant isLater => ?_⟩
    · simp only [shows, changing]
      split_ifs <;> omega
    · rw [shows, changing, if_neg (by omega)]
      omega
    · simp only [shows, changing]
      split_ifs <;> omega

end Change

end LocalClock

import Mathlib.Data.List.Chain
import Mathlib.Data.List.Count
import Mathlib.Order.Lattice
import Mathlib.Tactic.Tauto

/-! # Windows of time, one after another

A window has a start and a later stop, and both of them belong to it. In a sequence where no window
starts before an earlier one has stopped, a time inside a window is in no other, and two windows
meet in at most one time. So a time is in exactly one window when it is inside of one, or on the
edge of exactly one.
-/

namespace Windows

variable {α τ : Type*} [LinearOrder τ] {start stop : α → τ} {windows : List α} {at_ : τ}

/-- Every window starts where the one before it stops, and stops later. -/
structure Chained (start stop : α → τ) (windows : List α) : Prop where
  proper : ∀ window ∈ windows, start window < stop window
  meets : windows.IsChain fun window next => start next = stop window

/-- No window starts before an earlier one has stopped. -/
structure InOrder (start stop : α → τ) (windows : List α) : Prop where
  proper : ∀ window ∈ windows, start window < stop window
  apart : windows.Pairwise fun window next => stop window ≤ start next

theorem Chained.nil : Chained start stop [] := ⟨by simp, .nil⟩

theorem Chained.inOrder (chained : Chained start stop windows) : InOrder start stop windows := by
  obtain ⟨proper, meets⟩ := chained
  refine ⟨proper, ?_⟩
  induction windows with
  | nil => exact .nil
  | cons window rest ih =>
    have later := ih (fun other member => proper other (List.mem_cons_of_mem _ member)) meets.tail
    refine List.pairwise_cons.mpr ⟨?_, later⟩
    cases rest with
    | nil => simp
    | cons next others =>
      have first : start next = stop window := (List.isChain_cons_cons.mp meets).1
      rintro other member
      rcases List.mem_cons.mp member with rfl | beyond
      · exact first.ge
      · have ends : stop next ≤ start other := (List.pairwise_cons.mp later).1 other beyond
        have lasts := proper next (List.mem_cons_of_mem _ (List.mem_cons_self ..))
        exact first.ge.trans (lasts.le.trans ends)

/-- A window that starts where the last one stops extends the sequence. -/
theorem Chained.append (chained : Chained start stop windows) {window : α}
    (proper : start window < stop window)
    (meets : ∀ last ∈ windows.getLast?, start window = stop last) :
    Chained start stop (windows ++ [window]) := by
  constructor
  · rintro other member
    rcases List.mem_append.mp member with old | new
    · exact chained.proper other old
    · rw [List.mem_singleton.mp new]
      exact proper
  · refine List.isChain_append.mpr ⟨chained.meets, .singleton window,
      fun last isLast first isFirst => ?_⟩
    obtain rfl := Option.some.inj isFirst
    exact meets last isLast

theorem InOrder.sublist {fewer : List α} (inOrder : InOrder start stop windows)
    (sub : fewer.Sublist windows) :
    InOrder start stop fewer :=
  ⟨fun window member => inOrder.proper window (sub.subset member), inOrder.apart.sublist sub⟩

theorem inOrder_map {β : Type*} {f : β → α} {rows : List β} :
    InOrder start stop (rows.map f) ↔ InOrder (fun row => start (f row))
    (fun row => stop (f row)) rows := by
  constructor
  · rintro ⟨proper, apart⟩
    exact ⟨fun row member => proper (f row) (List.mem_map_of_mem member),
      List.pairwise_map.mp apart⟩
  · rintro ⟨proper, apart⟩
    refine ⟨fun window member => ?_, List.pairwise_map.mpr apart⟩
    obtain ⟨row, isRow, rfl⟩ := List.mem_map.mp member
    exact proper row isRow

/-- Of windows in order, at most one has a property that no two of them can have. -/
theorem countP_le_one {property : α → Bool} {apart : α → α → Prop}
    (pairwise : windows.Pairwise apart) (proper : ∀ window ∈ windows, start window < stop window)
    (exclusive : ∀ window next, apart window next → start window < stop window →
      start next < stop next →
      property window = true → property next = true → False) : windows.countP property ≤ 1 := by
  induction windows with
  | nil => simp
  | cons window rest ih =>
    obtain ⟨head, tail⟩ := List.pairwise_cons.mp pairwise
    have later := ih tail fun other member => proper other (List.mem_cons_of_mem _ member)
    rw [List.countP_cons]
    split
    · next holds =>
      have none : rest.countP property = 0 := by
        refine List.countP_eq_zero.mpr fun next member has => ?_
        exact exclusive window next (head next member) (proper window (List.mem_cons_self ..))
          (proper next (List.mem_cons_of_mem _ member)) holds has
      omega
    · omega

section Counting

variable (inOrder : InOrder start stop windows)

include inOrder

private theorem InOrder.inside_le_one :
    windows.countP (fun window => start window < at_ ∧ at_ < stop window) ≤ 1 := by
  refine countP_le_one inOrder.apart inOrder.proper fun window next apart _ _ first second => ?_
  simp only [decide_eq_true_eq] at first second
  exact absurd (second.1.trans first.2) (not_lt.mpr apart)

private theorem InOrder.starts_le_one : windows.countP (fun window => start window = at_) ≤ 1 := by
  refine countP_le_one inOrder.apart inOrder.proper fun window next apart lasts _ first second => ?_
  simp only [decide_eq_true_eq] at first second
  exact absurd (second.trans first.symm) (lasts.trans_le apart).ne'

private theorem InOrder.stops_le_one : windows.countP (fun window => stop window = at_) ≤ 1 := by
  refine countP_le_one inOrder.apart inOrder.proper fun window next apart _ lasts first second => ?_
  simp only [decide_eq_true_eq] at first second
  exact absurd (first.trans second.symm) (apart.trans_lt lasts).ne

/-- A time inside of a window is on no edge. -/
theorem InOrder.edges_of_inside {window : α} (member : window ∈ windows)
    (after : start window < at_) (before : at_ < stop window) :
    ∀ other ∈ windows, start other ≠ at_ ∧ stop other ≠ at_ := by
  rintro other isWindow
  have related : stop window ≤ start other ∨ stop other ≤ start window ∨ other = window := by
    obtain ⟨first, second, rfl⟩ := List.append_of_mem member
    have pieces := List.pairwise_append.mp inOrder.apart
    rcases List.mem_append.mp isWindow with earlier | later
    · exact .inr (.inl (pieces.2.2 other earlier window (List.mem_cons_self ..)))
    · rcases List.mem_cons.mp later with same | beyond
      · exact .inr (.inr same)
      · exact .inl ((List.pairwise_cons.mp pieces.2.1).1 other beyond)
  have lasts := inOrder.proper other isWindow
  rcases related with beyond | earlier | rfl
  · exact ⟨(before.trans_le beyond).ne', ((before.trans_le beyond).trans lasts).ne'⟩
  · exact ⟨(lasts.trans_le (earlier.trans after.le)).ne, (earlier.trans_lt after).ne⟩
  · exact ⟨after.ne, before.ne'⟩

/-- A time is in a window when it is inside of it or on one of its edges, and not on both. -/
theorem InOrder.countP_split :
    windows.countP (fun window => start window ≤ at_ ∧ at_ ≤ stop window) =
    windows.countP (fun window => start window < at_ ∧ at_ < stop window) +
      windows.countP (fun window => start window = at_) + windows.countP
      (fun window => stop window = at_) := by
  have proper := inOrder.proper
  clear inOrder
  induction windows with
  | nil => rfl
  | cons window rest ih =>
    have lasts := proper window (List.mem_cons_self ..)
    have later := ih fun other member => proper other (List.mem_cons_of_mem _ member)
    simp only [List.countP_cons, decide_eq_true_eq]
    rcases lt_trichotomy (start window) at_ with after | starts | before
    · rcases lt_trichotomy at_ (stop window) with inside | stops | beyond
      · simp only [after.le, inside.le, after, inside, after.ne, inside.ne', and_self, if_true,
          if_false]
        omega
      · subst stops
        simp only [after.le, after, after.ne, le_refl, lt_irrefl, and_self, and_false, if_true,
          if_false]
        omega
      · simp only [beyond.not_ge, beyond.not_gt, after.ne, beyond.ne, and_false, if_false]
        omega
    · subst starts
      simp only [lasts.le, lasts.ne', le_refl, lt_irrefl, and_self, false_and, if_true, if_false]
      omega
    · simp only [before.not_ge, before.not_gt, before.ne', (before.trans lasts).ne', false_and,
        if_false]
      omega

/-- A time is in exactly one window when it is inside of one, or on an edge of exactly one. -/
theorem InOrder.countP_eq_one_iff :
    windows.countP (fun window => start window ≤ at_ ∧ at_ ≤ stop window) = 1 ↔
    (∃ window ∈ windows, start window < at_ ∧ at_ < stop window) ∨
      ((∃ window ∈ windows, start window = at_) ↔ ¬ ∃ window ∈ windows, stop window = at_) := by
  rw [inOrder.countP_split]
  have insideBound : windows.countP (fun window => start window < at_ ∧ at_ < stop window) ≤ 1 :=
    inOrder.inside_le_one
  have startBound : windows.countP (fun window => start window = at_) ≤ 1 := inOrder.starts_le_one
  have stopBound : windows.countP (fun window => stop window = at_) ≤ 1 := inOrder.stops_le_one
  have starts : (∃ window ∈ windows, start window = at_) ↔
      0 < windows.countP (fun window => start window = at_) := by
    rw [List.countP_pos_iff]
    simp
  have stops : (∃ window ∈ windows, stop window = at_) ↔
      0 < windows.countP (fun window => stop window = at_) := by
    rw [List.countP_pos_iff]
    simp
  by_cases inside : ∃ window ∈ windows, start window < at_ ∧ at_ < stop window
  · obtain ⟨window, member, after, before⟩ := inside
    have edges := inOrder.edges_of_inside member after before
    have once : 0 < windows.countP (fun window => start window < at_ ∧ at_ < stop window) :=
      List.countP_pos_iff.mpr ⟨window, member, by simpa using ⟨after, before⟩⟩
    have noStart : windows.countP (fun window => start window = at_) = 0 :=
      List.countP_eq_zero.mpr fun other isWindow => by simpa using (edges other isWindow).1
    have noStop : windows.countP (fun window => stop window = at_) = 0 :=
      List.countP_eq_zero.mpr fun other isWindow => by simpa using (edges other isWindow).2
    exact iff_of_true (by omega) (.inl ⟨window, member, after, before⟩)
  · have outside : windows.countP (fun window => start window < at_ ∧ at_ < stop window) = 0 := by
      refine List.countP_eq_zero.mpr fun window member within => inside ⟨window, member, ?_⟩
      simpa using within
    rw [or_iff_right inside, starts, stops, outside]
    constructor
    · intro once
      omega
    · intro edge
      omega

end Counting

end Windows

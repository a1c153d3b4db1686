import Mathlib.Data.Finset.Union

/-! # Grants in layers

A base set of keys is overlaid by layers, each of which grants some keys and denies others. A denial
of any layer wins over every grant. The layers themselves are tables of entries under a key: writing
a layer replaces its entries as a whole and leaves those of other keys alone.
-/

namespace Overlays

variable {κ : Type*} [DecidableEq κ]

/-- What a layer grants and what it denies. -/
structure Overlay (κ : Type*) where
  allow : Finset κ := ∅
  deny : Finset κ := ∅
deriving DecidableEq

def granted (layers : List (Overlay κ)) : Finset κ :=
  layers.foldr (fun layer keys => layer.allow ∪ keys) ∅

def denied (layers : List (Overlay κ)) : Finset κ :=
  layers.foldr (fun layer keys => layer.deny ∪ keys) ∅

/-- The keys that are left when all layers are applied. -/
def effective (base : Finset κ) (layers : List (Overlay κ)) : Finset κ :=
  (base ∪ granted layers) \ denied layers

section Effective

variable {base other : Finset κ} {layers : List (Overlay κ)} {key : κ}

@[simp] theorem granted_nil : granted ([] : List (Overlay κ)) = ∅ := rfl

@[simp] theorem granted_cons (layer : Overlay κ) :
    granted (layer :: layers) = layer.allow ∪ granted layers := rfl

@[simp] theorem denied_nil : denied ([] : List (Overlay κ)) = ∅ := rfl

@[simp] theorem denied_cons (layer : Overlay κ) :
    denied (layer :: layers) = layer.deny ∪ denied layers := rfl

theorem mem_granted : key ∈ granted layers ↔ ∃ layer ∈ layers, key ∈ layer.allow := by
  induction layers with
  | nil => simp
  | cons layer rest ih => simp [ih]

theorem mem_effective : key ∈ effective base layers ↔ (key ∈ base ∨ key ∈ granted layers) ∧
    key ∉ denied layers := by
  rw [effective, Finset.mem_sdiff, Finset.mem_union]

/-- A base in place of none changes nothing exactly when the layers decide on all of its keys. -/
theorem effective_eq_empty_iff :
    effective base layers = effective ∅ layers ↔ ∀ key ∈ base, key ∈ granted layers ∨
    key ∈ denied layers := by
  constructor
  · intro same key inBase
    by_contra undecided
    push Not at undecided
    have member : key ∈ effective base layers := mem_effective.mpr ⟨.inl inBase, undecided.2⟩
    rw [same, mem_effective] at member
    rcases member.1 with none | isGranted
    · exact absurd none (Finset.notMem_empty key)
    · exact undecided.1 isGranted
  · intro decided
    ext key
    rw [mem_effective, mem_effective]
    constructor
    · rintro ⟨inBase | isGranted, free⟩
      · exact ⟨.inr ((decided key inBase).resolve_right free), free⟩
      · exact ⟨.inr isGranted, free⟩
    · rintro ⟨none | isGranted, free⟩
      · exact absurd none (Finset.notMem_empty key)
      · exact ⟨.inr isGranted, free⟩

end Effective

/-! ## Entries under a key -/

section Entries

variable {α τ : Type*} [DecidableEq τ] {key : α → τ}

/-- The entries of one layer. -/
def entriesOf (key : α → τ) (target : τ) (entries : List α) : List α := entries.filter fun entry =>
    key entry = target

/-- Replace the entries of one layer. -/
def replaceEntries (key : α → τ) (target : τ) (entries new : List α) : List α :=
  (entries.filter fun entry => key entry ≠ target) ++ new

theorem mem_replaceEntries {target : τ} {entries new : List α} {entry : α} :
    entry ∈ replaceEntries key target entries new ↔ (entry ∈ entries ∧ key entry ≠ target) ∨
    entry ∈ new := by
  simp [replaceEntries]

/-- The layer holds the new entries, and other layers hold what they held. -/
theorem entriesOf_replaceEntries {target : τ} {entries new : List α}
    (named : ∀ entry ∈ new, key entry = target) (other : τ) :
    entriesOf key other (replaceEntries key target entries new) =
      if other = target then new else entriesOf key other entries := by
  rw [replaceEntries, entriesOf, List.filter_append, List.filter_filter]
  split
  · next same =>
    subst same
    have before :
        entries.filter (fun entry => decide (key entry = other) && decide (key entry ≠ other)) =
        [] := by
      rw [List.filter_eq_nil_iff]
      intro entry _
      simp
    have after : new.filter (fun entry => decide (key entry = other)) = new := by
      rw [List.filter_eq_self]
      intro entry member
      exact decide_eq_true (named entry member)
    rw [before, after, List.nil_append]
  · next different =>
    have after : new.filter (fun entry => decide (key entry = other)) = [] := by
      rw [List.filter_eq_nil_iff]
      intro entry member
      rw [decide_eq_true_eq, named entry member]
      exact fun same => different same.symm
    rw [after, List.append_nil]
    refine List.filter_congr fun entry _ => ?_
    by_cases listed : key entry = other
    · simp [listed, different]
    · simp [listed]

end Entries

end Overlays

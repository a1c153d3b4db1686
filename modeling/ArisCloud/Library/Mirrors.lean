import Mathlib.Data.List.Perm.Basic
import ArisCloud.Library.KeyedRows

/-! # Facts that two tables record

A row states at most one fact, and the rows of another table state facts of the same kind. Two
tables mirror each other when they state the same facts equally often. The rules below say which new
rows, and which changes of one row on each side, keep them so.
-/

namespace Mirrors

open KeyedRows

variable {α β γ δ κ ι : Type*}

/-- The rows of both tables state the same facts. -/
def Mirrored (left : α → Option γ) (right : β → Option γ) (rows : List α) (others : List β) :
    Prop :=
  (rows.filterMap left).Perm (others.filterMap right)

section Facts

variable {fact : β → Option γ} {others : List β}

/-- Rows that keep what they state. -/
theorem filterMap_update_of_same [DecidableEq κ] {key : β → κ} {keys : List κ} {change : β → β}
    (same : ∀ other ∈ others, key other ∈ keys → fact (change other) = fact other) :
    (update key keys change others).filterMap fact = others.filterMap fact := by
  rw [update, List.filterMap_map]
  refine List.filterMap_congr fun other member => ?_
  simp only [Function.comp_apply]
  split
  · next listed => exact same other member listed
  · rfl

/-- Rows that state nothing may go. -/
theorem filterMap_filter_of_silent {keep : β → Bool}
    (silent : ∀ other ∈ others, keep other = false → fact other = none) :
    (others.filter keep).filterMap fact = others.filterMap fact := by
  rw [List.filterMap_filter]
  refine List.filterMap_congr fun other member => ?_
  split
  · rfl
  · next gone => exact (silent other member (Bool.eq_false_iff.mpr gone)).symm

/-- Apart from one row, the rows state the same facts before and after it changes. -/
theorem perm_update [DecidableEq κ] {key : β → κ} (fact : β → Option γ) (change : β → β)
    (distinct : (others.map key).Nodup) {other : β} (member : other ∈ others) :
    ∃ rest, (others.filterMap fact).Perm ((fact other).toList ++ rest) ∧
      ((update key [key other] change others).filterMap fact).Perm
      ((fact (change other)).toList ++ rest) := by
  induction others with
  | nil => contradiction
  | cons first tail ih =>
    obtain ⟨apart, distinct⟩ := List.nodup_cons.mp distinct
    have cons (row : β) (rows : List β) : (row :: rows).filterMap fact = (fact row).toList ++
        rows.filterMap fact := by
      cases stated : fact row <;> simp [stated]
    rcases List.mem_cons.mp member with rfl | later
    · have untouched : update key [key other] change tail = tail :=
        update_eq_self fun row inTail listed =>
        apart (List.mem_map.mpr ⟨row, inTail, List.mem_singleton.mp listed⟩)
      refine ⟨tail.filterMap fact, by rw [cons], ?_⟩
      rw [update, List.map_cons, if_pos (List.mem_singleton_self _), ← update, untouched, cons]
    · obtain ⟨rest, before, after⟩ := ih distinct later
      have other_ne : key first ∉ [key other] := fun listed =>
        apart (List.mem_map.mpr ⟨other, later, (List.mem_singleton.mp listed).symm⟩)
      have swap (head middle tail : List γ) : (head ++ (middle ++ tail)).Perm
          (middle ++ (head ++ tail)) := by
        rw [← List.append_assoc, ← List.append_assoc]
        exact List.perm_append_comm.append_right tail
      refine ⟨(fact first).toList ++ rest, ?_, ?_⟩
      · rw [cons]
        exact (before.append_left _).trans (swap _ _ _)
      · rw [update, List.map_cons, if_neg other_ne, ← update, cons]
        exact (after.append_left _).trans (swap _ _ _)

/-- Facts that each imply a tag of their row are as distinct as the tags. -/
theorem nodup_facts {tag : β → Option δ} {name : γ → δ} (distinct : (others.filterMap tag).Nodup)
    (named : ∀ other ∈ others, ∀ stated, fact other = some stated →
      tag other = some (name stated)) :
    ((others.filterMap fact).map name).Nodup := by
  refine distinct.sublist ?_
  clear distinct
  induction others with
  | nil => exact List.Sublist.refl _
  | cons other rest ih =>
    have tail := ih fun row member => named row (List.mem_cons_of_mem _ member)
    cases stated : fact other with
    | none =>
      rw [List.filterMap_cons_none stated, List.filterMap_cons]
      split
      · exact tail
      · exact tail.cons _
    | some found =>
      rw [List.filterMap_cons_some stated, List.filterMap_cons_some
        (named other (List.mem_cons_self ..) found stated)]
      exact tail.cons_cons _

/-- Facts that are stated once are stated by one row. -/
theorem eq_of_fact_eq (distinct : (others.filterMap fact).Nodup) {other another : β} {stated : γ}
    (member : other ∈ others) (isOther : another ∈ others) (found : fact other = some stated)
    (same : fact another = some stated) : other = another := by
  by_contra different
  have apart := List.pairwise_filterMap.mp distinct
  refine List.Pairwise.forall_of_forall_of_flip
    (R := fun a b : β => a ≠ b → fact a = some stated → fact b = some stated → False)
    (fun a _ distinct => absurd rfl distinct) ?_ ?_ member isOther different found same
  · exact apart.imp fun unequal _ left right => unequal stated left stated right rfl
  · exact apart.imp fun unequal _ left right => unequal stated right stated left rfl

end Facts

namespace Mirrored

variable {left : α → Option γ} {right : β → Option γ} {rows : List α} {others : List β}

theorem stated_iff (mirrored : Mirrored left right rows others) {fact : γ} :
    (∃ row ∈ rows, left row = some fact) ↔ ∃ other ∈ others, right other = some fact := by
  simpa only [List.mem_filterMap] using mirrored.mem_iff (a := fact)

/-- One new row on each side, both for the same fact. -/
theorem append (mirrored : Mirrored left right rows others) {row : α} {other : β}
    (same : left row = right other) :
    Mirrored left right (rows ++ [row]) (others ++ [other]) := by
  rw [Mirrored, List.filterMap_append, List.filterMap_append]
  refine List.Perm.append mirrored ?_
  cases stated : right other <;> simp [same, stated]

/-- New rows that state nothing. -/
theorem append_silent (mirrored : Mirrored left right rows others) {more : List β}
    (silent : ∀ other ∈ more, right other = none) : Mirrored left right rows (others ++ more) := by
  rw [Mirrored, List.filterMap_append, List.filterMap_eq_nil_iff.mpr silent, List.append_nil]
  exact mirrored

theorem update_silent [DecidableEq κ] (mirrored : Mirrored left right rows others) {key : β → κ}
    {keys : List κ} {change : β → β}
    (same : ∀ other ∈ others, key other ∈ keys → right (change other) = right other) :
    Mirrored left right rows (update key keys change others) := by
  rw [Mirrored, filterMap_update_of_same same]
  exact mirrored

theorem filter_silent (mirrored : Mirrored left right rows others) {keep : β → Bool}
    (silent : ∀ other ∈ others, keep other = false → right other = none) : Mirrored left right rows
    (others.filter keep) := by
  rw [Mirrored, filterMap_filter_of_silent silent]
  exact mirrored

/-- A row that stated nothing states the fact of a new row on the other side. -/
theorem gain [DecidableEq κ] (mirrored : Mirrored left right rows others) {key : β → κ}
    {change : β → β} {row : α} {other : β} (distinct : (others.map key).Nodup)
    (member : other ∈ others) (silent : right other = none)
    (same : left row = right (change other)) : Mirrored left right (rows ++ [row])
    (update key [key other] change others) := by
  obtain ⟨rest, before, after⟩ := perm_update right change distinct member
  rw [silent, Option.toList_none, List.nil_append] at before
  rw [Mirrored, List.filterMap_append]
  refine List.Perm.trans ?_ after.symm
  refine List.perm_append_comm.trans (List.Perm.append ?_ (mirrored.trans before))
  cases stated : right (change other) <;> simp [same, stated]

/-- The two rows that state a fact stop stating it together. -/
theorem lose [DecidableEq κ] [DecidableEq ι] (mirrored : Mirrored left right rows others)
    {key : β → κ} {id : α → ι} {change : β → β} {drop : α → α} {row : α} {other : β} {fact : γ}
    (distinctIds : (rows.map id).Nodup) (distinct : (others.map key).Nodup) (inRows : row ∈ rows)
    (inOthers : other ∈ others) (stated : left row = some fact) (same : right other = some fact)
    (dropped : left (drop row) = none) (silent : right (change other) = none) :
    Mirrored left right (update id [id row] drop rows) (update key [key other] change others) := by
  obtain ⟨kept, leftBefore, leftAfter⟩ := perm_update left drop distinctIds inRows
  obtain ⟨rest, rightBefore, rightAfter⟩ := perm_update right change distinct inOthers
  rw [stated, Option.toList_some] at leftBefore
  rw [same, Option.toList_some] at rightBefore
  rw [dropped] at leftAfter
  rw [silent] at rightAfter
  have whole := leftBefore.symm.trans (List.Perm.trans mirrored rightBefore)
  exact leftAfter.trans ((List.Perm.cons_inv whole).trans rightAfter.symm)

end Mirrored

end Mirrors

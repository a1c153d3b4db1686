import Mathlib.Data.List.Forall2

/-! # Computations that stop at a failed check

A request body is a sequence of checks and reads in `Except`; it either stops at the first failed
check or returns its result. The inversion lemmas below turn a successful run into the facts its
checks established, so that no later proof has to unfold the sequencing again.
-/

namespace Checked

universe u v

variable {ε : Type v} {α β : Type u}

/-- Stop with `failure` unless the condition holds. -/
def ensure (condition : Prop) [Decidable condition] (failure : ε) : Except ε Unit :=
  if condition then .ok () else .error failure

/-- Read an optional value, stopping with `failure` when it is absent. -/
def fetch (value : Option α) (failure : ε) : Except ε α :=
  match value with
  | some found => .ok found
  | none => .error failure

/-- The first item that matches, with the fact that it does. -/
def find {γ : Type} (items : List γ) (matching : γ → Bool) (failure : ε) :
    Except ε { item : γ // matching item = true } :=
  match found : items.find? matching with
  | some item => .ok ⟨item, List.find?_some found⟩
  | none => .error failure

@[simp] theorem ensure_eq_ok {condition : Prop} [Decidable condition] {failure : ε} {u : Unit} :
    ensure condition failure = .ok u ↔ condition := by
  unfold ensure
  split <;> simp_all

@[simp] theorem fetch_eq_ok {value : Option α} {failure : ε} {found : α} :
    fetch value failure = .ok found ↔ value = some found := by
  cases value <;> simp [fetch]

@[simp] theorem find_eq_ok {γ : Type} {items : List γ} {matching : γ → Bool} {failure : ε}
    {found : { item : γ // matching item = true }} :
    find items matching failure = .ok found ↔ items.find? matching = some found.val := by
  unfold find
  split
  · next item same => simp [same, Subtype.ext_iff]
  · next none => simp [none]

@[simp] theorem bind_eq_ok {first : Except ε α} {next : α → Except ε β} {result : β} :
    (first >>= next) = .ok result ↔ ∃ value, first = .ok value ∧ next value = .ok result := by
  cases first <;> simp [bind, Except.bind]

/-- A check whose success hands its proof to the rest of the computation. -/
def require {γ : Type} (condition : Prop) [Decidable condition] (failure : ε)
    (next : condition → Except ε γ) :
    Except ε γ :=
  if holds : condition then next holds else .error failure

@[simp] theorem require_eq_ok {γ : Type} {condition : Prop} [Decidable condition] {failure : ε}
    {next : condition → Except ε γ} {result : γ} :
    require condition failure next = .ok result ↔ ∃ holds, next holds = .ok result := by
  unfold require
  split <;> simp_all

@[simp] theorem pure_eq_ok {value result : α} :
    (pure value : Except ε α) = .ok result ↔ value = result := by
  simp [pure, Except.pure]

@[simp] theorem throw_ne_ok {failure : ε} {result : α} :
    ¬ (throw failure : Except ε α) = .ok result := by
  simp [throw, throwThe, MonadExceptOf.throw]

@[simp] theorem ite_throw_eq_ok {condition : Prop} [Decidable condition] {failure : ε}
    {other : Except ε α} {result : α} :
    (if condition then throw failure else other) = .ok result ↔ ¬ condition ∧
    other = .ok result := by
  split <;> simp_all

@[simp] theorem map_eq_ok {first : Except ε α} {f : α → β} {result : β} :
    f <$> first = .ok result ↔ ∃ value, first = .ok value ∧ f value = result := by
  cases first <;> simp [Functor.map, Except.map]

/-- A list of computations succeeds when each of them does. -/
theorem mapM_eq_ok {ι : Type*} {body : ι → Except ε α} {items : List ι} {results : List α} :
    items.mapM body = .ok results ↔ List.Forall₂
    (fun item result => body item = .ok result) items results := by
  induction items generalizing results with
  | nil => simp [pure, Except.pure, eq_comm]
  | cons item rest ih =>
    simp only [List.mapM_cons, bind_eq_ok, pure_eq_ok, ih, List.forall₂_cons_left_iff]
    constructor
    · rintro ⟨result, first, others, tail, rfl⟩
      exact ⟨result, others, first, tail, rfl⟩
    · rintro ⟨result, others, first, tail, rfl⟩
      exact ⟨result, first, others, tail, rfl⟩

theorem mapM_succeeds {ι : Type*} {body : ι → Except ε α} {items : List ι}
    (each : ∀ item ∈ items, ∃ result, body item = .ok result) :
    ∃ results, items.mapM body = .ok results := by
  induction items with
  | nil => exact ⟨[], rfl⟩
  | cons item rest ih =>
    obtain ⟨result, first⟩ := each item (List.mem_cons_self ..)
    obtain ⟨others, tail⟩ := ih fun other member => each other (List.mem_cons_of_mem _ member)
    exact ⟨result :: others, by simp [first, tail]⟩

theorem forM_eq_ok {ι : Type*} {check : ι → Except ε Unit} {items : List ι} :
    items.forM check = .ok () ↔ ∀ item ∈ items, check item = .ok () := by
  induction items with
  | nil => simp [pure, Except.pure]
  | cons item rest ih =>
    rw [List.forM, bind_eq_ok, List.forall_mem_cons, ← ih]
    constructor
    · rintro ⟨_, first, later⟩
      exact ⟨first, later⟩
    · rintro ⟨first, later⟩
      exact ⟨(), first, later⟩

/-- A property kept by every iteration is kept by a whole loop. -/
theorem foldlM_keeps {σ : Type u} {ι : Type*} {body : σ → ι → Except ε σ} (holds : σ → Prop)
    {items : List ι} {start final : σ} (run : items.foldlM body start = .ok final)
    (initial : holds start) (keeps : ∀ state item next, item ∈ items → holds state →
      body state item = .ok next → holds next) :
    holds final := by
  induction items generalizing start with
  | nil =>
    obtain rfl := pure_eq_ok.mp run
    exact initial
  | cons item rest ih =>
    rw [List.foldlM_cons, bind_eq_ok] at run
    obtain ⟨middle, step, tail⟩ := run
    exact ih tail (keeps start item middle (List.mem_cons_self ..) initial step)
      fun state other next member => keeps state other next (List.mem_cons_of_mem _ member)

/-- A loop whose every iteration succeeds in the states it can find succeeds. -/
theorem foldlM_succeeds {σ : Type u} {ι : Type*} {body : σ → ι → Except ε σ} (good : σ → Prop)
    {items : List ι} {start : σ} (initial : good start)
    (step : ∀ state, ∀ item ∈ items, good state → ∃ next, body state item = .ok next ∧ good next) :
    ∃ final, items.foldlM body start = .ok final ∧ good final := by
  induction items generalizing start with
  | nil => exact ⟨start, rfl, initial⟩
  | cons item rest ih =>
    obtain ⟨middle, first, kept⟩ := step start item (List.mem_cons_self ..) initial
    obtain ⟨final, tail, last⟩ := ih kept fun state other member =>
      step state other (List.mem_cons_of_mem _ member)
    exact ⟨final, by rw [List.foldlM_cons, bind_eq_ok]; exact ⟨middle, first, tail⟩, last⟩

/-- What every iteration establishes for its item, and the later ones keep, holds of all items at
the end. -/
theorem foldlM_all {σ : Type u} {ι : Type*} {body : σ → ι → Except ε σ} {items : List ι}
    {start final : σ} (good : σ → Prop) (fact : ι → σ → Prop)
    (run : items.foldlM body start = .ok final) (initial : good start)
    (step : ∀ state item next, item ∈ items → good state → body state item = .ok next →
      good next ∧ fact item next ∧ ∀ other, fact other state → fact other next) :
    good final ∧ (∀ item ∈ items, fact item final) ∧ ∀ other, fact other start →
        fact other final := by
  induction items generalizing start with
  | nil =>
    obtain rfl := pure_eq_ok.mp run
    exact ⟨initial, by simp, fun _ holds => holds⟩
  | cons item rest ih =>
    rw [List.foldlM_cons, bind_eq_ok] at run
    obtain ⟨middle, first, tail⟩ := run
    obtain ⟨kept, established, keeps⟩ :=
      step start item middle (List.mem_cons_self ..) initial first
    obtain ⟨last, others, stays⟩ := ih tail kept
      fun state other next member => step state other next (List.mem_cons_of_mem _ member)
    refine ⟨last, fun other member => ?_, fun other holds => stays other (keeps other holds)⟩
    rcases List.mem_cons.mp member with rfl | member
    · exact stays other established
    · exact others other member

/-- A loop that emits one output per item into a part of its state: the outputs relate to the items
in order, and the part ends as the start with all of them emitted. -/
theorem foldlM_collectBy {σ : Type u} {τ ι ω : Type*} {body : σ → ι → Except ε σ} {items : List ι}
    {start final : σ} (view : σ → τ) (emit : τ → ω → τ) (good : σ → Prop) (relates : ι → ω → Prop)
    (run : items.foldlM body start = .ok final) (initial : good start)
    (step : ∀ state item next, item ∈ items → good state → body state item = .ok next →
      ∃ output, relates item output ∧ view next = emit (view state) output ∧ good next) :
    ∃ outputs, List.Forall₂ relates items outputs ∧ view final = outputs.foldl emit (view start) ∧
        good final := by
  induction items generalizing start with
  | nil =>
    obtain rfl := pure_eq_ok.mp run
    exact ⟨[], .nil, rfl, initial⟩
  | cons item rest ih =>
    rw [List.foldlM_cons, bind_eq_ok] at run
    obtain ⟨middle, first, tail⟩ := run
    obtain ⟨output, related, emitted, kept⟩ :=
      step start item middle (List.mem_cons_self ..) initial first
    obtain ⟨outputs, others, final, last⟩ := ih tail kept
      fun state other next member => step state other next (List.mem_cons_of_mem _ member)
    exact ⟨output :: outputs, .cons related others, by rw [final, emitted]; rfl, last⟩

/-- A loop that only emits: the final state is the start with all outputs emitted. -/
theorem foldlM_collect {σ : Type u} {ι ω : Type*} {body : σ → ι → Except ε σ} {items : List ι}
    {start final : σ} (emit : σ → ω → σ) (good : σ → Prop) (relates : ι → ω → Prop)
    (run : items.foldlM body start = .ok final) (initial : good start)
    (step : ∀ state item next, item ∈ items → good state → body state item = .ok next →
      ∃ output, relates item output ∧ next = emit state output ∧ good next) :
    ∃ outputs, List.Forall₂ relates items outputs ∧ final = outputs.foldl emit start ∧ good final :=
  foldlM_collectBy id emit good relates run initial step

/-- Every output of such a loop belongs to an item. -/
theorem item_of_output {ι ω : Type*} {relates : ι → ω → Prop} {items : List ι} {outputs : List ω}
    (related : List.Forall₂ relates items outputs) {output : ω} (member : output ∈ outputs) :
    ∃ item ∈ items, relates item output := by
  induction related with
  | nil => simp at member
  | cons first _ ih =>
    rcases List.mem_cons.mp member with rfl | later
    · exact ⟨_, List.mem_cons_self .., first⟩
    · obtain ⟨item, inItems, holds⟩ := ih later
      exact ⟨item, List.mem_cons_of_mem _ inItems, holds⟩

/-- Items that occur relate to outputs that occur. -/
theorem occurring_outputs {ι ω : Type*} {relates : ι → ω → Prop} {items : List ι} {outputs : List ω}
    (related : List.Forall₂ relates items outputs) :
    List.Forall₂ (fun item output => item ∈ items ∧ output ∈ outputs ∧ relates item output) items
    outputs := by
  induction related with
  | nil => exact .nil
  | cons first _ ih =>
    refine .cons ⟨List.mem_cons_self .., List.mem_cons_self .., first⟩
      (ih.imp fun item output holds => ?_)
    exact ⟨List.mem_cons_of_mem _ holds.1, List.mem_cons_of_mem _ holds.2.1, holds.2.2⟩

/-- What items and outputs agree on, their lists agree on. -/
theorem map_eq_of_outputs {ι ω κ : Type*} {relates : ι → ω → Prop} {items : List ι}
    {outputs : List ω} {f : ι → κ} {g : ω → κ} (related : List.Forall₂ relates items outputs)
    (same : ∀ item output, relates item output → f item = g output) :
    items.map f = outputs.map g := by
  induction related with
  | nil => rfl
  | cons first _ ih => rw [List.map_cons, List.map_cons, same _ _ first, ih]

/-- Items and outputs in pairs. -/
theorem pairs_of_outputs {ι ω : Type*} {relates : ι → ω → Prop} {items : List ι} {outputs : List ω}
    (related : List.Forall₂ relates items outputs) :
    ∃ pairs : List (ι × ω), pairs.map (·.1) = items ∧ pairs.map (·.2) = outputs ∧
      ∀ pair ∈ pairs, relates pair.1 pair.2 := by
  induction related with
  | nil => exact ⟨[], rfl, rfl, by simp⟩
  | @cons item output _ _ holds _ ih =>
    obtain ⟨pairs, firsts, seconds, each⟩ := ih
    refine ⟨(item, output) :: pairs, by rw [List.map_cons, firsts], by rw [List.map_cons, seconds],
      ?_⟩
    intro pair member
    rcases List.mem_cons.mp member with rfl | later
    · exact holds
    · exact each pair later

/-- Outputs that are items of a second relation. -/
theorem outputs_trans {ι μ ω : Type*} {first : ι → μ → Prop} {second : μ → ω → Prop}
    {items : List ι} {middle : List μ} {outputs : List ω}
    (related : List.Forall₂ first items middle) (next : List.Forall₂ second middle outputs) :
    List.Forall₂ (fun item output => ∃ value, first item value ∧ second value output) items
    outputs := by
  induction related generalizing outputs with
  | nil =>
    obtain rfl := List.forall₂_nil_left_iff.mp next
    exact .nil
  | @cons item value rest values head _ ih =>
    obtain ⟨output, others, second, tail, rfl⟩ := List.forall₂_cons_left_iff.mp next
    exact .cons ⟨value, head, second⟩ (ih tail)

/-- The outputs of two lists of items, one after the other. -/
theorem outputs_of_append {ι ω : Type*} {relates : ι → ω → Prop} {items more : List ι}
    {outputs : List ω} (related : List.Forall₂ relates (items ++ more) outputs) :
    ∃ first second, outputs = first ++ second ∧ List.Forall₂ relates items first ∧
    List.Forall₂ relates more second :=
  ⟨_, _, (List.take_append_drop items.length outputs).symm,
    (List.forall₂_take_append _ _ _ related.flip).flip,
    (List.forall₂_drop_append _ _ _ related.flip).flip⟩

theorem output_of_singleton {ι ω : Type*} {relates : ι → ω → Prop} {item : ι} {outputs : List ω}
    (related : List.Forall₂ relates [item] outputs) : ∃ output, outputs = [output] ∧
    relates item output := by
  cases related with
  | cons first rest =>
    cases rest
    exact ⟨_, rfl, first⟩

/-- Every item of such a loop has an output. -/
theorem output_of_item {ι ω : Type*} {relates : ι → ω → Prop} {items : List ι} {outputs : List ω}
    (related : List.Forall₂ relates items outputs) {item : ι} (member : item ∈ items) :
    ∃ output ∈ outputs, relates item output := by
  obtain ⟨output, inOutputs, holds⟩ := item_of_output related.flip member
  exact ⟨output, inOutputs, holds⟩

/-- What holds of two outputs exactly when it holds of their items, holds throughout the outputs
when it holds throughout the items. -/
theorem pairwise_outputs_iff {ι ω : Type*} {relates : ι → ω → Prop} {items : List ι}
    {outputs : List ω} {apart : ω → ω → Prop} {different : ι → ι → Prop}
    (related : List.Forall₂ relates items outputs)
    (same : ∀ item output other another, relates item output → relates other another →
      (apart output another ↔ different item other)) : outputs.Pairwise apart ↔
      items.Pairwise different := by
  induction related with
  | nil => exact iff_of_true .nil .nil
  | @cons item output rest others first later ih =>
    rw [List.pairwise_cons, List.pairwise_cons, ih]
    refine and_congr_left fun _ =>
      ⟨fun apart other isItem => ?_, fun different another isOutput => ?_⟩
    · obtain ⟨another, isOutput, holds⟩ := output_of_item later isItem
      exact (same item output other another first holds).mp (apart another isOutput)
    · obtain ⟨other, isItem, holds⟩ := item_of_output later isOutput
      exact (same item output other another first holds).mpr (different other isItem)

/-- A computation that returns a result returns the result it is read for. -/
theorem eq_ok_get {computed : Except ε α} (success : computed.toOption.isSome = true) :
    computed = .ok (computed.toOption.get success) := by
  cases computed with
  | error failure => contradiction
  | ok result => rfl

end Checked

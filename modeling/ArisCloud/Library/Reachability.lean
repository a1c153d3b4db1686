import Mathlib.Order.Basic
import ArisCloud.Library.Checked

/-! # States committed by runs of requests

A request either commits a new state or fails and leaves the committed state alone. `Reachable`
collects the states committed by any finite run whose committing requests are all allowed where
they commit. An invariant of the start that every allowed commit keeps holds in all of them.
-/

namespace Requests

variable {σ ρ ε : Type*}

/-- States committed by a run from `start`, every commit of which is allowed in its source state. -/
inductive Reachable (step : σ → ρ → Except ε σ) (allowed : σ → ρ → Prop) (start : σ) : σ → Prop
  | start : Reachable step allowed start start
  | commit {state : σ} {request : ρ} {next : σ} (before : Reachable step allowed start state)
      (permitted : allowed state request) (committed : step state request = .ok next) :
      Reachable step allowed start next

variable {step : σ → ρ → Except ε σ} {allowed narrower : σ → ρ → Prop} {start state : σ}

/-- What the start satisfies and every allowed commit keeps, every reachable state satisfies. -/
theorem Reachable.invariant {holds : σ → Prop} (reached : Reachable step allowed start state)
    (initial : holds start)
    (keeps : ∀ source request next, holds source → allowed source request →
      step source request = .ok next → holds next) : holds state := by
  induction reached with
  | start => exact initial
  | commit _ permitted committed ih => exact keeps _ _ _ ih permitted committed

/-- A run that starts where another ends continues it. -/
theorem Reachable.trans {middle : σ} (first : Reachable step allowed start middle)
    (second : Reachable step allowed middle state) : Reachable step allowed start state := by
  induction second with
  | start => exact first
  | commit _ permitted committed ih => exact .commit ih permitted committed

theorem Reachable.mono (reached : Reachable step narrower start state)
    (implies : ∀ source request, narrower source request → allowed source request) :
    Reachable step allowed start state := by
  induction reached with
  | start => exact .start
  | commit _ permitted committed ih => exact .commit ih (implies _ _ permitted) committed

/-- Execute a list of requests, each of which has to be allowed and to commit. -/
def runAllowed (step : σ → ρ → Except ε σ) (allowed : σ → ρ → Prop)
    [∀ state request, Decidable (allowed state request)] :
    σ → List ρ → Option σ
  | state, [] => some state
  | state, request :: rest =>
    if allowed state request then
      match step state request with
      | .ok next => runAllowed step allowed next rest
      | .error _ => none
    else none

/-- Such an execution ends in a reachable state. -/
theorem reachable_of_runAllowed [∀ state request, Decidable (allowed state request)]
    {requests : List ρ} (run : runAllowed step allowed start requests = some state) :
    Reachable step allowed start state := by
  suffices extended : ∀ middle, Reachable step allowed start middle →
      runAllowed step allowed middle requests = some state → Reachable step allowed start state from
    extended start .start run
  clear run
  induction requests with
  | nil =>
    intro middle reached run
    exact Option.some.inj run ▸ reached
  | cons request rest ih =>
    intro middle reached run
    rw [runAllowed] at run
    split at run
    · next permitted =>
      split at run
      · next next committed => exact ih next (.commit reached permitted committed) run
      · contradiction
    · contradiction

/-- The requests of a run in the order in which they committed, each with the state it committed
in. -/
inductive Run (step : σ → ρ → Except ε σ) : σ → List (σ × ρ) → σ → Prop
  | finish (state : σ) : Run step state [] state
  | commit {state : σ} {request : ρ} {next last : σ} {history : List (σ × ρ)}
      (committed : step state request = .ok next) (rest : Run step next history last) :
      Run step state ((state, request) :: history) last

/-- When no commit lowers a measure, a run keeps it exactly when each of its commits does. -/
theorem Run.measure {M : Type*} [PartialOrder M] {holds : σ → Prop} {history : List (σ × ρ)}
    {last : σ} (run : Run step state history last) (measure : σ → M) (level : σ → ρ → Prop)
    (initial : holds state)
    (keeps : ∀ source request next, holds source → step source request = .ok next → holds next)
    (grows : ∀ source request next, holds source → step source request = .ok next →
      measure source ≤ measure next ∧ (measure next = measure source ↔ level source request)) :
    measure state ≤ measure last ∧
        (measure last = measure state ↔ ∀ entry ∈ history, level entry.1 entry.2) := by
  induction run with
  | finish => simp
  | @commit state request next last history committed rest ih =>
    obtain ⟨above, exact⟩ := grows state request next initial committed
    obtain ⟨laterAbove, laterExact⟩ := ih (keeps state request next initial committed)
    refine ⟨above.trans laterAbove, ?_⟩
    rw [List.forall_mem_cons, ← laterExact, ← exact]
    constructor
    · intro same
      have first : measure next = measure state := le_antisymm (same ▸ laterAbove) above
      exact ⟨first, same.trans first.symm⟩
    · rintro ⟨first, later⟩
      exact later.trans first

/-- What the start satisfies and every commit keeps, the end of a run satisfies. -/
theorem Run.invariant {holds : σ → Prop} {history : List (σ × ρ)} {last : σ}
    (run : Run step state history last) (initial : holds state)
    (keeps : ∀ source request next, holds source → step source request = .ok next → holds next) :
    holds last := by
  induction run with
  | finish => exact initial
  | commit committed _ ih => exact ih (keeps _ _ _ initial committed)

/-- What the start satisfies without a history, and every commit keeps with its request at the end
of the history, the end of a run satisfies with the history of the run. -/
theorem Run.traced {holds : List (σ × ρ) → σ → Prop} {history : List (σ × ρ)} {last : σ}
    (run : Run step state history last) (initial : holds [] state)
    (keeps : ∀ before source request next, holds before source → step source request = .ok next →
      holds (before ++ [(source, request)]) next) : holds history last := by
  suffices extended : ∀ before, holds before state → holds (before ++ history) last from extended
    [] initial
  clear initial
  induction run with
  | finish =>
    intro before here
    rw [List.append_nil]
    exact here
  | commit committed _ ih =>
    intro before here
    have continued := ih _ (keeps before _ _ _ here committed)
    rwa [List.append_assoc, List.singleton_append] at continued

/-- Every request of a run committed. -/
theorem Run.committed {history : List (σ × ρ)} {last : σ} (run : Run step state history last)
    {entry : σ × ρ} (member : entry ∈ history) : ∃ next, step entry.1 entry.2 = .ok next := by
  induction run with
  | finish => contradiction
  | commit committed _ ih =>
    rcases List.mem_cons.mp member with rfl | later
    · exact ⟨_, committed⟩
    · exact ih later

/-- The part of a run before one of its requests ends in the state in which that request
committed. -/
theorem Run.before {earlier later : List (σ × ρ)} {entry : σ × ρ} {last : σ}
    (run : Run step state (earlier ++ entry :: later) last) : Run step state earlier entry.1 := by
  induction earlier generalizing state with
  | nil =>
    cases run with
    | commit => exact .finish _
  | cons first rest ih =>
    cases run with
    | commit committed tail => exact .commit committed (ih tail)

/-- The part of a run from one of its requests on starts in the state in which that request
committed. -/
theorem Run.onward {earlier later : List (σ × ρ)} {entry : σ × ρ} {last : σ}
    (run : Run step state (earlier ++ entry :: later) last) :
    Run step entry.1 (entry :: later) last := by
  induction earlier generalizing state with
  | nil =>
    cases run with
    | commit committed rest => exact .commit committed rest
  | cons first rest ih =>
    cases run with
    | commit committed tail => exact ih tail

/-- A run whose requests are all allowed where they commit reaches its end. -/
theorem Run.reachable {history : List (σ × ρ)} {last : σ} (run : Run step state history last)
    (permitted : ∀ entry ∈ history, allowed entry.1 entry.2) :
    Reachable step allowed state last := by
  induction run with
  | finish => exact .start
  | commit committed _ ih =>
    have first := permitted _ (List.mem_cons_self ..)
    exact (Reachable.commit .start first committed).trans
      (ih fun entry member => permitted entry (List.mem_cons_of_mem _ member))

/-- Execute a list of requests, each of which has to commit, and record the states they find. -/
def recordRun (step : σ → ρ → Except ε σ) : σ → List ρ → Option (List (σ × ρ) × σ)
  | state, [] => some ([], state)
  | state, request :: rest =>
    match step state request with
    | .ok next =>
      (recordRun step next rest).map fun (history, last) => ((state, request) :: history, last)
    | .error _ => none

/-- Such an execution is a run. -/
theorem run_of_recordRun {requests : List ρ} {recorded : List (σ × ρ) × σ}
    (success : recordRun step state requests = some recorded) :
    Run step state recorded.1 recorded.2 := by
  induction requests generalizing state recorded with
  | nil =>
    obtain rfl := Option.some.inj success
    exact .finish state
  | cons request rest ih =>
    rw [recordRun] at success
    split at success
    · next next committed =>
      obtain ⟨later, found, rfl⟩ := Option.map_eq_some_iff.mp success
      exact .commit committed (ih found)
    · contradiction

/-- It records the requests of the list. -/
theorem requests_of_recordRun {requests : List ρ} {recorded : List (σ × ρ) × σ}
    (success : recordRun step state requests = some recorded) :
    recorded.1.map (·.2) = requests := by
  induction requests generalizing state recorded with
  | nil =>
    obtain rfl := Option.some.inj success
    rfl
  | cons request rest ih =>
    rw [recordRun] at success
    split at success
    · obtain ⟨later, found, rfl⟩ := Option.map_eq_some_iff.mp success
      exact congrArg (request :: ·) (ih found)
    · contradiction

end Requests

import ArisCloud.Library.Reachability
import Mathlib.Logic.Function.Basic

/-! # Interleaved transactions

A connection goes through phases. Each phase reads what is committed at that moment, and may lock
rows, or commits, which writes and releases the locks. A phase that needs a row locked by another
connection waits. Any number of connections take turns in any order, and each may be cut off.
-/

namespace Transactions

/-- What a phase does: a statement, a commit, which a constraint may refuse, or nothing any more. -/
inductive Instruction (σ κ π : Type)
  | stop
  | read (locks : σ → List κ) (next : σ → π)
  | commit (locks : σ → List κ) (write : σ → Option σ) (committed refused : π)

/-- The same instruction on one part of a larger state. -/
def Instruction.lift {σ τ κ π γ : Type} (part : σ → τ) (replace : σ → τ → σ) (phase : π → γ) :
    Instruction τ κ π → Instruction σ κ γ
  | .stop => .stop
  | .read locks next =>
    .read (fun state => locks (part state)) fun state => phase (next (part state))
  | .commit locks write committed refused =>
    .commit (fun state => locks (part state))
      (fun state => (write (part state)).map (replace state))
      (phase committed) (phase refused)

/-- How an instruction may end, for a connection in a phase: the committed state and the phase it
leads to. -/
inductive Instruction.Outcome {σ κ π : Type} (lost here : π) (state : σ) : Instruction σ κ π → σ →
    π → Prop
  | close : Outcome lost here state .stop state here
  | abort (instruction : Instruction σ κ π) : Outcome lost here state instruction state lost
  | read (locks : σ → List κ) (next : σ → π) : Outcome lost here state (.read locks next) state
      (next state)
  | commit (locks : σ → List κ) (write : σ → Option σ) (committed refused : π) (after : σ)
      (written : write state = some after) :
      Outcome lost here state (.commit locks write committed refused) after committed
  | refuse (locks : σ → List κ) (write : σ → Option σ) (committed refused : π)
      (unwritten : write state = none) :
      Outcome lost here state (.commit locks write committed refused) state refused

/-- The committed state, the connection that holds each lock, and the phase of every connection. -/
structure Config (σ κ π ι : Type) where
  committed : σ
  holder : κ → Option ι
  phase : ι → π

inductive Move
  | proceed
  | abort
deriving DecidableEq, Repr

inductive Blocked
  | waiting
  | ended
deriving DecidableEq, Repr

variable {σ κ π ι : Type}

/-! ## Locks -/

namespace Config

/-- No other connection holds one of these locks. -/
def Free (config : Config σ κ π ι) (connection : ι) (keys : List κ) : Prop :=
  ∀ key ∈ keys, config.holder key = none ∨ config.holder key = some connection

/-- A lock that another connection holds is not among those a move needs. -/
theorem Free.not_mem {config : Config σ κ π ι} {connection other : ι} {keys : List κ}
    (free : config.Free connection keys) (apart : other ≠ connection) {key : κ}
    (holds : config.holder key = some other) : key ∉ keys := by
  intro listed
  rcases free key listed with unheld | own
  · rw [holds] at unheld
    contradiction
  · exact apart (Option.some.inj (holds.symm.trans own))

end Config

variable [DecidableEq κ] [DecidableEq ι]

def acquire (holder : κ → Option ι) (connection : ι) (keys : List κ) (key : κ) : Option ι :=
  if key ∈ keys then some connection else holder key

def release (holder : κ → Option ι) (connection : ι) (key : κ) : Option ι :=
  if holder key = some connection then none else holder key

omit [DecidableEq ι] in
theorem acquire_of_mem {holder : κ → Option ι} {connection : ι} {keys : List κ} {key : κ}
    (listed : key ∈ keys) :
    acquire holder connection keys key = some connection := if_pos listed

omit [DecidableEq κ] in
private theorem release_of_ne {holder : κ → Option ι} {connection other : ι} {key : κ}
    (apart : other ≠ connection) (holds : holder key = some other) :
    release holder connection key = some other := by
  rw [release, if_neg, holds]
  rintro same
  exact apart (Option.some.inj (holds.symm.trans same))

/-! ## Moves -/

namespace Config

variable (code : ι → π → Instruction σ κ π) (lost : π)

instance (config : Config σ κ π ι) (connection : ι) (keys : List κ) :
    Decidable (config.Free connection keys) :=
  inferInstanceAs (Decidable (∀ key ∈ keys, _))

/-- The connection leaves its phase, having kept or released its locks. -/
def enter (config : Config σ κ π ι) (connection : ι) (holder : κ → Option ι) (phase : π) :
    Config σ κ π ι :=
  { config with holder, phase := Function.update config.phase connection phase }

/-- One move of one connection. A connection that has stopped closes, which releases its locks. -/
def step (config : Config σ κ π ι) (move : ι × Move) : Except Blocked (Config σ κ π ι) :=
  let released := release config.holder move.1
  match code move.1 (config.phase move.1), move.2 with
  | .stop, .proceed => .ok { config with holder := released }
  | .stop, .abort => .error .ended
  | .read _ _, .abort | .commit _ _ _ _, .abort => .ok (config.enter move.1 released lost)
  | .read locks next, .proceed =>
    if config.Free move.1 (locks config.committed) then
      .ok (config.enter move.1 (acquire config.holder move.1 (locks config.committed))
        (next config.committed))
    else .error .waiting
  | .commit locks write committed refused, .proceed =>
    if config.Free move.1 (locks config.committed) then
      match write config.committed with
      | some after => .ok { config.enter move.1 released committed with committed := after }
      | none => .ok (config.enter move.1 released refused)
    else .error .waiting

/-- What a move of a connection does to the committed state, to the locks and to its phase. -/
inductive Moved (config : Config σ κ π ι) (connection : ι) : σ → (κ → Option ι) → π → Prop
  | close (stopped : code connection (config.phase connection) = .stop) :
      Moved config connection config.committed (release config.holder connection)
      (config.phase connection)
  | abort (running : code connection (config.phase connection) ≠ .stop) :
      Moved config connection config.committed (release config.holder connection) lost
  | read (locks : σ → List κ) (next : σ → π)
      (reads : code connection (config.phase connection) = .read locks next)
      (free : config.Free connection (locks config.committed)) :
      Moved config connection config.committed
      (acquire config.holder connection (locks config.committed))
        (next config.committed)
  | commit (locks : σ → List κ) (write : σ → Option σ) (committed refused : π) (after : σ)
      (commits : code connection (config.phase connection) = .commit locks write committed refused)
      (free : config.Free connection (locks config.committed))
      (written : write config.committed = some after) :
      Moved config connection after (release config.holder connection) committed
  | refuse (locks : σ → List κ) (write : σ → Option σ) (committed refused : π)
      (commits : code connection (config.phase connection) = .commit locks write committed refused)
      (unwritten : write config.committed = none) :
      Moved config connection config.committed (release config.holder connection) refused

variable {code lost} {config next : Config σ κ π ι} {move : ι × Move}

theorem step_ok (success : config.step code lost move = .ok next) :
    config.Moved code lost move.1 next.committed next.holder (next.phase move.1) ∧
      ∀ other, other ≠ move.1 → next.phase other = config.phase other := by
  have others (phase : π) : ∀ other, other ≠ move.1 →
      Function.update config.phase move.1 phase other = config.phase other :=
    fun other apart => Function.update_of_ne apart ..
  unfold step at success
  split at success
  · next stopped _ =>
    obtain rfl := Except.ok.inj success
    exact ⟨.close stopped, fun _ _ => rfl⟩
  · contradiction
  · next reads _ =>
    obtain rfl := Except.ok.inj success
    refine ⟨?_, others _⟩
    simp only [enter, Function.update_self]
    exact .abort (by rw [reads]; nofun)
  · next commits _ =>
    obtain rfl := Except.ok.inj success
    refine ⟨?_, others _⟩
    simp only [enter, Function.update_self]
    exact .abort (by rw [commits]; nofun)
  · next locks next reads _ =>
    split at success
    · next free =>
      obtain rfl := Except.ok.inj success
      refine ⟨?_, others _⟩
      simp only [enter, Function.update_self]
      exact .read locks next reads free
    · contradiction
  · next locks write committed refused commits _ =>
    split at success
    · next free =>
      split at success
      · next after written =>
        obtain rfl := Except.ok.inj success
        refine ⟨?_, others _⟩
        simp only [enter, Function.update_self]
        exact .commit locks write committed refused after commits free written
      · next unwritten =>
        obtain rfl := Except.ok.inj success
        refine ⟨?_, others _⟩
        simp only [enter, Function.update_self]
        exact .refuse locks write committed refused commits unwritten
    · contradiction

theorem step_abort {connection : ι}
    (success : config.step code lost (connection, .abort) = .ok next) :
    next.committed = config.committed ∧ next.phase connection = lost := by
  unfold step at success
  split at success
  · contradiction
  · contradiction
  · obtain rfl := Except.ok.inj success
    exact ⟨rfl, Function.update_self ..⟩
  · obtain rfl := Except.ok.inj success
    exact ⟨rfl, Function.update_self ..⟩
  · contradiction
  · contradiction

theorem Moved.outcome {connection : ι} {after : σ} {holder : κ → Option ι} {phase : π}
    (moved : config.Moved code lost connection after holder phase) :
    (code connection (config.phase connection)).Outcome lost
    (config.phase connection) config.committed after phase := by
  cases moved with
  | close stopped =>
    rw [stopped]
    exact .close
  | abort => exact .abort _
  | read locks next reads free =>
    rw [reads]
    exact .read locks next
  | commit locks write committed refused after commits free written =>
    rw [commits]
    exact .commit locks write _ _ after written
  | refuse locks write committed refused commits unwritten =>
    rw [commits]
    exact .refuse locks write _ _ unwritten

/-- A move leaves the locks of the other connections alone. -/
theorem Moved.holder_of_ne {connection other : ι} {after : σ} {holder : κ → Option ι} {phase : π}
    (moved : config.Moved code lost connection after holder phase) (apart : other ≠ connection)
    {key : κ} (holds : config.holder key = some other) : holder key = some other := by
  cases moved with
  | close | abort | commit | refuse => exact release_of_ne apart holds
  | read locks next reads free => rw [acquire, if_neg (free.not_mem apart holds), holds]

/-- What holds of a row that another connection has locked stays so, when no commit breaks it
without needing the lock. -/
theorem Moved.keeps_locked {connection other : ι} {after : σ} {holder : κ → Option ι} {phase : π}
    {key : κ} (moved : config.Moved code lost connection after holder phase) (kept : σ → Prop)
    (guarded : ∀ locks write committed refused written,
      code connection (config.phase connection) = .commit locks write committed refused →
      write config.committed = some written → key ∉ locks config.committed → kept written)
    (before : kept config.committed) (apart : other ≠ connection)
        (holds : config.holder key = some other) : kept after := by
  cases moved with
  | close | abort | read | refuse => exact before
  | commit locks write committed refused _ commits free written =>
    exact guarded locks write _ refused _ commits written (free.not_mem apart holds)

/-- What holds of the committed state, and of every connection given the phase it is in. -/
structure Guarded (tables : σ → Prop) (backed : σ → (κ → Option ι) → ι → π → Prop)
    (config : Config σ κ π ι) : Prop where
  tables : tables config.committed
  phases : ∀ connection, backed config.committed config.holder connection (config.phase connection)

/-- A move keeps what holds when the connection that moves keeps it and the others are not
interfered with. -/
theorem Guarded.step {tables : σ → Prop} {backed : σ → (κ → Option ι) → ι → π → Prop}
    (guarded : config.Guarded tables backed) (success : config.step code lost move = .ok next)
    (aborts : backed config.committed next.holder move.1 lost)
    (own : move.2 = .proceed → ∀ after holder phase,
      config.Moved code lost move.1 after holder phase →
      tables after ∧ backed after holder move.1 phase)
    (stays : ∀ after holder phase other, config.Moved code lost move.1 after holder phase →
      move.2 = .proceed ∨ after = config.committed → other ≠ move.1 →
      backed config.committed config.holder other (config.phase other) → backed after holder other
      (config.phase other)) :
    next.Guarded tables backed := by
  obtain ⟨moved, others⟩ := step_ok success
  have here : (move.2 = .proceed ∨ next.committed = config.committed) ∧ tables next.committed ∧
      backed next.committed next.holder move.1 (next.phase move.1) := by
    obtain ⟨connection, turn⟩ := move
    cases turn with
    | abort =>
      obtain ⟨same, lost⟩ := step_abort success
      rw [same, lost]
      exact ⟨.inr rfl, guarded.tables, aborts⟩
    | proceed => exact ⟨.inl rfl, own rfl _ _ _ moved⟩
  refine ⟨here.2.1, fun connection => ?_⟩
  by_cases same : connection = move.1
  · rw [same]
    exact here.2.2
  · rw [others connection same]
    exact stays _ _ _ connection moved here.1 same (guarded.phases connection)

end Config

/-! ## A transaction alone -/

/-- The statements of a transaction that nothing interleaves with lead from a state and a phase to
others. -/
inductive Alone (code : π → Instruction σ κ π) : σ → π → σ → π → Prop
  | refl (state : σ) (phase : π) : Alone code state phase state phase
  | read {state last : σ} {phase final : π} {locks : σ → List κ} {next : σ → π}
      (reads : code phase = .read locks next) (rest : Alone code state (next state) last final) :
      Alone code state phase last final
  | commit {state written last : σ} {phase final committed refused : π} {locks : σ → List κ}
      {write : σ → Option σ} (commits : code phase = .commit locks write committed refused)
      (writes : write state = some written) (rest : Alone code written committed last final) :
      Alone code state phase last final

end Transactions

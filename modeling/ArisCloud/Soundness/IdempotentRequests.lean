import ArisCloud.Model.Idempotency

/-! # A request executes at most once

Whatever the order of lookups, creations and recordings, at most one request of a key executes its
body: the one whose record is in the table. Its record changes once, when the outcome is recorded,
and every replay is that outcome for the same payload.
-/

namespace ArisCloud

open KeyedRows Requests Transactions

variable {β κ π : Type}

/-! ## Records -/

/-- The record of a request that is still executing. -/
def Pending (store : RecordedTables β) (key : IdempotencyKey) (id : ℕ) (requestHash : String) :
    Prop :=
  ∃ record ∈ store.records, record.key = key ∧ record.id = id ∧ record.requestHash = requestHash ∧
    record.state = .inProgress

/-- The record of a request that executed and recorded a response. -/
def Recorded (store : RecordedTables β) (key : IdempotencyKey) (id : ℕ) (requestHash : String)
    (response : IdempotencyReplay) : Prop :=
  ∃ record ∈ store.records, record.key = key ∧ record.id = id ∧ record.requestHash = requestHash ∧
    record.state ≠ .inProgress ∧ record.statusCode = some response.statusCode ∧
    record.responseBody = some response.responseBody

/-- A key has one record at most. -/
def KeyUnique (store : RecordedTables β) (key : IdempotencyKey) : Prop :=
  ∀ record ∈ store.records, ∀ other ∈ store.records, record.key = key → other.key = key →
    record = other

/-- What a move of one request does to the records. -/
inductive RecordEffect (key : IdempotencyKey) (id : ℕ) (requestHash : String)
    (store after : RecordedTables β) : Prop
  | idle (same : after.records = store.records)
  | created (free : ∀ record ∈ store.records, record.key ≠ key)
      (records : after.records = store.records ++ [{ id := id, key, requestHash }])
  | recorded (result : BodyResult) (pending : Pending store key id requestHash)
      (written : recordResult id result store = some after)

variable {key : IdempotencyKey} {id other : ℕ} {requestHash otherHash : String}
    {store after : RecordedTables β}

/-- A record keeps its key and its identifier. -/
theorem RecordEffect.keeps_record (effect : RecordEffect key id requestHash store after)
    {record : IdempotencyRecord} (member : record ∈ store.records) : ∃ kept ∈ after.records,
    kept.key = record.key ∧ kept.id = record.id := by
  cases effect with
  | idle same => exact ⟨record, same ▸ member, rfl, rfl⟩
  | created free records => exact ⟨record, records ▸ List.mem_append_left _ member, rfl, rfl⟩
  | recorded result pending written =>
    obtain rfl := Option.some.inj written
    refine ⟨_, mem_update.mpr ⟨record, member, rfl⟩, ?_, ?_⟩ <;> split <;> rfl

private theorem RecordEffect.keyUnique (effect : RecordEffect key id requestHash store after)
    (unique : KeyUnique store key) :
    KeyUnique after key := by
  intro record isRecord another isAnother named otherNamed
  cases effect with
  | idle same =>
    rw [same] at isRecord isAnother
    exact unique record isRecord another isAnother named otherNamed
  | created free records =>
    rw [records, List.mem_append, List.mem_singleton] at isRecord isAnother
    rcases isRecord with old | rfl
    · exact absurd named (free record old)
    · rcases isAnother with old | rfl
      · exact absurd otherNamed (free another old)
      · rfl
  | recorded result pending written =>
    obtain rfl := Option.some.inj written
    obtain ⟨before, isBefore, rfl⟩ := mem_update.mp isRecord
    obtain ⟨earlier, isEarlier, rfl⟩ := mem_update.mp isAnother
    have keyOf (row : IdempotencyRecord) :
        (if row.id ∈ [id] then result.recordOn row else row).key = row.key := by
      split <;> rfl
    rw [keyOf] at named otherNamed
    rw [unique before isBefore earlier isEarlier named otherNamed]

/-- The record of another request that executes stays as it is. -/
theorem RecordEffect.pending (effect : RecordEffect key id requestHash store after)
    (unique : KeyUnique store key) (apart : other ≠ id)
    (pending : Pending store key other otherHash) : Pending after key other otherHash := by
  obtain ⟨record, member, named, own, rest⟩ := pending
  cases effect with
  | idle same => exact ⟨record, same ▸ member, named, own, rest⟩
  | created free records => exact absurd named (free record member)
  | recorded result pending written =>
    obtain ⟨another, isAnother, otherNamed, same, _⟩ := pending
    rw [unique record member another isAnother named otherNamed] at own
    exact absurd (own.symm.trans same) apart

/-- A recorded response stays as it is. -/
theorem RecordEffect.recorded_stays (effect : RecordEffect key id requestHash store after)
    (unique : KeyUnique store key) {response : IdempotencyReplay}
    (recorded : Recorded store key other otherHash response) :
    Recorded after key other otherHash response := by
  obtain ⟨record, member, named, own, hash, decided, rest⟩ := recorded
  cases effect with
  | idle same => exact ⟨record, same ▸ member, named, own, hash, decided, rest⟩
  | created free records => exact absurd named (free record member)
  | recorded result pending written =>
    obtain ⟨another, isAnother, otherNamed, _, _, inProgress⟩ := pending
    rw [← unique record member another isAnother named otherNamed] at inProgress
    exact absurd inProgress decided

/-- What a lookup answers: a replay repeats what was recorded for the same payload. -/
theorem handleExisting_replayed {existing : Option IdempotencyRecord} {response : IdempotencyReplay}
    (replayed : handleExisting existing requestHash = .replayed response) :
    ∃ record, existing = some record ∧ record.requestHash = requestHash ∧
    record.state ≠ .inProgress ∧
      record.statusCode = some response.statusCode ∧
      record.responseBody = some response.responseBody := by
  unfold handleExisting at replayed
  split at replayed
  · contradiction
  · next record =>
    split_ifs at replayed with different inProgress
    split at replayed
    · next responseBody statusCode body status =>
      obtain rfl := Answer.replayed.inj replayed
      exact ⟨record, rfl, not_not.mp different, inProgress, status, body⟩
    · contradiction

private theorem handleExisting_ne_executed (existing : Option IdempotencyRecord)
    (response : IdempotencyReplay) :
    handleExisting existing requestHash ≠ .executed response := by
  unfold handleExisting
  split
  · nofun
  · split_ifs
    · nofun
    · nofun
    · split <;> nofun

/-! ## Phases -/

/-- What the records have to say about the answer of a request. -/
def AnswerRecorded (store : RecordedTables β) (key : IdempotencyKey) (id : ℕ)
    (requestHash : String) : Answer → Prop
  | .executed response => Recorded store key id requestHash response
  | .replayed response => ∃ executor, Recorded store key executor requestHash response
  | .refused _ => True

/-- What the records have to say about a request in some phase. -/
def PhaseRecorded (store : RecordedTables β) (key : IdempotencyKey) (id : ℕ)
    (requestHash : String) : RequestPhase π → Prop
  | .arrived | .missed | .collided | .lost => True
  | .executing _ => Pending store key id requestHash
  | .answered answer => AnswerRecorded store key id requestHash answer

private theorem getByKey_eq_some {record : IdempotencyRecord}
    (found : getByKey store key = some record) :
    record ∈ store.records ∧ record.key = key :=
  ⟨List.mem_of_find?_eq_some found, by simpa using List.find?_some found⟩

/-- The records bear out an answer that is read from them. -/
theorem answerRecorded_handleExisting {existing : Option IdempotencyRecord}
    (found : getByKey store key = existing) :
    AnswerRecorded store key id requestHash (handleExisting existing requestHash) := by
  cases answer : handleExisting existing requestHash with
  | executed response => exact absurd answer (handleExisting_ne_executed _ response)
  | replayed response =>
    obtain ⟨record, rfl, hash, decided, status, body⟩ := handleExisting_replayed answer
    obtain ⟨member, named⟩ := getByKey_eq_some found
    exact ⟨record.id, record, member, named, rfl, hash, decided, status, body⟩
  | refused error => trivial

/-- What the records say about a request outlasts the moves of others. -/
theorem RecordEffect.phaseRecorded_stays (effect : RecordEffect key id requestHash store after)
    (unique : KeyUnique store key) (apart : other ≠ id) {phase : RequestPhase π}
    (recorded : PhaseRecorded store key other otherHash phase) :
    PhaseRecorded after key other otherHash phase := by
  cases phase with
  | arrived | missed | collided | lost => trivial
  | executing body => exact effect.pending unique apart recorded
  | answered answer =>
    cases answer with
    | executed response => exact effect.recorded_stays unique recorded
    | replayed response =>
      obtain ⟨executor, recorded⟩ := recorded
      exact ⟨executor, effect.recorded_stays unique recorded⟩
    | refused error => trivial

/-- A request that moves changes the records in a way that its next phase agrees with. -/
theorem recordEffect_of_outcome {bodies : BodyCode β κ π} {requests : ℕ → IdempotentRequest π}
    {phase next : RequestPhase π}
    (recorded : PhaseRecorded store key id (requests id).requestHash phase)
    (outcome : (requestCode key bodies requests id phase).Outcome .lost phase store after next) :
    RecordEffect key id (requests id).requestHash store after ∧
      PhaseRecorded after key id (requests id).requestHash next := by
  cases phase with
  | arrived =>
    cases outcome with
    | abort => exact ⟨.idle rfl, trivial⟩
    | read =>
      refine ⟨.idle rfl, ?_⟩
      cases found : getByKey store key with
      | none =>
        simp only [found]
        trivial
      | some existing =>
        simp only [found]
        exact answerRecorded_handleExisting found
  | missed =>
    cases outcome with
    | abort => exact ⟨.idle rfl, trivial⟩
    | commit _ _ _ _ _ written =>
      rw [createRecord] at written
      split at written
      · contradiction
      · next free =>
        obtain rfl := Option.some.inj written
        refine ⟨.created (fun record member named => free ⟨record, member, named⟩) rfl, ?_⟩
        exact ⟨_, List.mem_append_right _ (List.mem_singleton_self _), rfl, rfl, rfl, rfl⟩
    | refuse => exact ⟨.idle rfl, trivial⟩
  | collided =>
    cases outcome with
    | abort => exact ⟨.idle rfl, trivial⟩
    | read => exact ⟨.idle rfl, answerRecorded_handleExisting rfl⟩
  | executing body =>
    rw [requestCode] at outcome
    cases ended : bodies.result body with
    | some result =>
      rw [ended] at outcome
      cases outcome with
      | abort => exact ⟨.idle rfl, trivial⟩
      | commit _ _ _ _ _ written =>
        refine ⟨.recorded result recorded written, ?_⟩
        obtain rfl := Option.some.inj written
        obtain ⟨record, member, named, own, hash, _⟩ := recorded
        refine ⟨result.recordOn record,
          mem_update.mpr ⟨record, member, if_pos (by simpa using own)⟩, named, own, hash,
          ?_, rfl, rfl⟩
        simp only [BodyResult.recordOn]
        split <;> nofun
      | refuse _ _ _ _ unwritten => contradiction
    | none =>
      rw [ended] at outcome
      cases does : bodies.code body with
      | stop =>
        rw [does] at outcome
        cases outcome with
        | close => exact ⟨.idle rfl, recorded⟩
        | abort => exact ⟨.idle rfl, trivial⟩
      | read locks next =>
        rw [does] at outcome
        cases outcome with
        | read => exact ⟨.idle rfl, recorded⟩
        | abort => exact ⟨.idle rfl, trivial⟩
      | commit locks write committed refused =>
        rw [does] at outcome
        cases outcome with
        | commit _ _ _ _ _ written =>
          obtain ⟨tables, _, rfl⟩ := Option.map_eq_some_iff.mp written
          exact ⟨.idle rfl, recorded⟩
        | refuse => exact ⟨.idle rfl, recorded⟩
        | abort => exact ⟨.idle rfl, trivial⟩
  | answered answer =>
    cases outcome with
    | close => exact ⟨.idle rfl, recorded⟩
    | abort => exact ⟨.idle rfl, trivial⟩
  | lost =>
    cases outcome with
    | close | abort => exact ⟨.idle rfl, trivial⟩

/-! ## All requests of a key -/

variable {bodies : BodyCode β κ π} {requests : ℕ → IdempotentRequest π}
  {config next : Config (RecordedTables β) κ (RequestPhase π) ℕ}

/-- The key has one record at most, and the records bear out the phase of every request. -/
structure IdempotencyInvariant (key : IdempotencyKey) (requests : ℕ → IdempotentRequest π)
    (config : Config (RecordedTables β) κ (RequestPhase π) ℕ) : Prop where
  unique : KeyUnique config.committed key
  phases : ∀ id, PhaseRecorded config.committed key id (requests id).requestHash (config.phase id)

theorem IdempotencyInvariant.initial
    (unrecorded : ∀ record ∈ config.committed.records, record.key ≠ key)
    (arrived : ∀ id, config.phase id = .arrived) : IdempotencyInvariant key requests config where
  unique record isRecord _ _ named _ := absurd named (unrecorded record isRecord)
  phases id := by
    rw [arrived]
    trivial

/-- A move keeps the invariant and every record. -/
theorem IdempotencyInvariant.step [DecidableEq κ]
    (invariant : IdempotencyInvariant key requests config) {move : ℕ × Move}
    (success : config.step (requestCode key bodies requests) .lost move = .ok next) :
    IdempotencyInvariant key requests next ∧
      RecordEffect key move.1 (requests move.1).requestHash config.committed next.committed := by
  obtain ⟨moved, others⟩ := Config.step_ok success
  obtain ⟨effect, recorded⟩ := recordEffect_of_outcome (invariant.phases move.1) moved.outcome
  refine ⟨⟨effect.keyUnique invariant.unique, fun id => ?_⟩, effect⟩
  by_cases own : id = move.1
  · rw [own]
    exact recorded
  · rw [others id own]
    exact effect.phaseRecorded_stays invariant.unique own (invariant.phases id)

/-- The request executes its body, or has executed it and answered. -/
def Executes (config : Config (RecordedTables β) κ (RequestPhase π) ℕ) (id : ℕ) : Prop :=
  match config.phase id with
  | .executing _ | .answered (.executed _) => True
  | _ => False

/-- The records have one of this request. -/
def HasRecord (store : RecordedTables β) (key : IdempotencyKey) (id : ℕ) : Prop :=
  ∃ record ∈ store.records, record.key = key ∧ record.id = id

private theorem Executes.hasRecord (invariant : IdempotencyInvariant key requests config)
    (executes : Executes config id) :
    HasRecord config.committed key id := by
  have recorded := invariant.phases id
  unfold Executes at executes
  split at executes
  · next body now =>
    rw [now] at recorded
    obtain ⟨record, member, named, own, _⟩ := recorded
    exact ⟨record, member, named, own⟩
  · next response now =>
    rw [now] at recorded
    obtain ⟨record, member, named, own, _⟩ := recorded
    exact ⟨record, member, named, own⟩
  · contradiction

/-- However the requests of a key that has no record yet interleave, one of them at most executes
its body, the only record of the key is its own, its response is the recorded one, and every replay
repeats that response to a request with the payload hash of the record. -/
theorem idempotent_requests_execute_once [DecidableEq κ] (key : IdempotencyKey)
    (bodies : BodyCode β κ π) (requests : ℕ → IdempotentRequest π)
    (start config later : Config (RecordedTables β) κ (RequestPhase π) ℕ)
    (unrecorded : ∀ record ∈ start.committed.records, record.key ≠ key)
    (arrived : ∀ id, start.phase id = .arrived)
    (reached : Reachable (Config.step (requestCode key bodies requests) .lost)
      (fun _ _ => True) start config)
    (continued : Reachable (Config.step (requestCode key bodies requests) .lost)
      (fun _ _ => True) config later) :
    (∀ id, Executes config id → (∀ other, Executes later other → other = id) ∧
      ∀ record ∈ later.committed.records, record.key = key → record.id = id) ∧
    ∀ id answer, later.phase id = .answered answer →
      AnswerRecorded later.committed key id (requests id).requestHash answer := by
  have before : IdempotencyInvariant key requests config :=
    reached.invariant (.initial unrecorded arrived)
    fun _ _ _ invariant _ success => (invariant.step success).1
  have keeps : ∀ source move next, IdempotencyInvariant key requests source ∧
      (∀ id, Executes config id → HasRecord source.committed key id) → True →
      source.step (requestCode key bodies requests) .lost move = .ok next →
      IdempotencyInvariant key requests next ∧ ∀ id, Executes config id →
      HasRecord next.committed key id := by
    rintro source move next ⟨invariant, kept⟩ _ success
    obtain ⟨after, effect⟩ := invariant.step success
    refine ⟨after, fun id executes => ?_⟩
    obtain ⟨record, member, named, own⟩ := kept id executes
    obtain ⟨still, isRecord, sameKey, sameId⟩ := effect.keeps_record member
    exact ⟨still, isRecord, sameKey.trans named, sameId.trans own⟩
  obtain ⟨invariant, kept⟩ :=
    continued.invariant ⟨before, fun _ executes => executes.hasRecord before⟩ keeps
  constructor
  · intro id executes
    obtain ⟨record, member, named, own⟩ := kept id executes
    constructor
    · intro other otherExecutes
      obtain ⟨another, isAnother, otherNamed, otherOwn⟩ := otherExecutes.hasRecord invariant
      rw [← own, ← otherOwn, invariant.unique record member another isAnother named otherNamed]
    · intro another isAnother otherNamed
      rw [← own, invariant.unique another isAnother record member otherNamed named]
  · intro id answer answered
    have recorded := invariant.phases id
    rw [answered] at recorded
    exact recorded

namespace Sample

def paymentKey : IdempotencyKey := ⟨1, "/aris3/pos/sales/1/actions", "POST", "K1"⟩

/-- A body that locks the only table, adds one to it and answers with what it found. -/
inductive AddOne
  | lookup
  | write (found : ℕ)
  | answer (found : ℕ)

def addOne : BodyCode ℕ ℕ AddOne where
  code
    | .lookup => .read (fun _ => [0]) .write
    | .write found =>
      .commit (fun _ => [0]) (fun table => some (table + 1)) (.answer found) (.answer found)
    | .answer _ => .stop
  result
    | .lookup | .write _ => none
    | .answer found => some ⟨true, 200, toString found⟩

def addOneTwice (_ : ℕ) : IdempotentRequest AddOne := ⟨"H1", .lookup⟩

abbrev stepAddOne := Config.step (requestCode paymentKey addOne addOneTwice) RequestPhase.lost

def arrivedTogether : Config (RecordedTables ℕ) ℕ (RequestPhase AddOne) ℕ :=
  { committed := ⟨[], 0⟩, holder := fun _ => none, phase := fun _ => .arrived }

/-- Both requests miss the record, and the second creates it. -/
def race : List (ℕ × Move) := [(0, .proceed), (1, .proceed), (1, .proceed), (1, .proceed)]

/-- The first collides, and looks the record up once the second has answered. -/
def aftermath : List (ℕ × Move) := [(0, .proceed), (1, .proceed), (1, .proceed), (0, .proceed)]

private theorem race_moves : (runAllowed stepAddOne (fun _ _ => True) arrivedTogether race).isSome =
    true := by decide +kernel

def raced := (runAllowed stepAddOne (fun _ _ => True) arrivedTogether race).get race_moves

private theorem aftermath_moves : (runAllowed stepAddOne (fun _ _ => True) raced aftermath).isSome =
    true := by decide +kernel

def settledRace := (runAllowed stepAddOne (fun _ _ => True) raced aftermath).get aftermath_moves

end Sample

theorem idempotent_requests_execute_once_in_race :
    (∀ id, Executes Sample.raced id → (∀ other, Executes Sample.settledRace other → other = id) ∧
      ∀ record ∈ Sample.settledRace.committed.records, record.key = Sample.paymentKey →
      record.id = id) ∧
    ∀ id answer, Sample.settledRace.phase id = .answered answer →
      AnswerRecorded Sample.settledRace.committed Sample.paymentKey id
      (Sample.addOneTwice id).requestHash answer :=
  idempotent_requests_execute_once Sample.paymentKey Sample.addOne Sample.addOneTwice
    Sample.arrivedTogether Sample.raced Sample.settledRace (by simp [Sample.arrivedTogether])
    (fun _ => rfl) (reachable_of_runAllowed (Option.some_get _).symm)
    (reachable_of_runAllowed (Option.some_get _).symm)

end ArisCloud

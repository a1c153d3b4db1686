import ArisCloud.Library.KeyedRows
import ArisCloud.Library.Transactions
import ArisCloud.Model.Records

/-! # Idempotent requests

A mutation starts by looking its idempotency key up. The first request creates a record, which
commits at once, executes its body and records the response. Later ones are answered from the record
or refused. Two that miss the record both try to create it, and the unique key lets one of them
through.
-/

namespace ArisCloud

open Transactions

/-- The columns that identify a request and its repetitions. -/
structure IdempotencyKey where
  tenantId : ℕ
  endpoint : String
  method : String
  idempotencyKey : String
deriving DecidableEq, Repr

inductive IdempotencyState
  | inProgress
  | succeeded
  | failed
deriving DecidableEq, Repr

/-- A record; its response body is JSON text. -/
structure IdempotencyRecord where
  id : ℕ
  key : IdempotencyKey
  requestHash : String
  state : IdempotencyState := .inProgress
  statusCode : Option ℕ := none
  responseBody : Option String := none
deriving DecidableEq, Repr

structure IdempotencyReplay where
  statusCode : ℕ
  responseBody : String
deriving DecidableEq, Repr

/-- What a request answers: its own response, a recorded one, or an error. -/
inductive Answer
  | executed (response : IdempotencyReplay)
  | replayed (response : IdempotencyReplay)
  | refused (error : AppError)
deriving DecidableEq, Repr

/-- How a body ends: it returns a response, or the error handler makes one of what it raised. -/
structure BodyResult where
  success : Bool
  response : IdempotencyReplay
deriving DecidableEq, Repr

/-- The records, and the tables that bodies read and write. -/
structure RecordedTables (β : Type) where
  records : List IdempotencyRecord
  tables : β

/-- The statements and commits of the bodies, whose phases may end with a result. -/
structure BodyCode (β κ π : Type) where
  code : π → Instruction β κ π
  result : π → Option BodyResult

/-- A request: the hash of its payload and the phase its body starts with. -/
structure IdempotentRequest (π : Type) where
  requestHash : String
  body : π

inductive RequestPhase (π : Type)
  | arrived
  | missed
  | collided
  | executing (body : π)
  | answered (answer : Answer)
  | lost

variable {β κ π : Type}

def getByKey (store : RecordedTables β) (key : IdempotencyKey) : Option IdempotencyRecord :=
  store.records.find? (·.key = key)

/-- Insert a record, unless its key is taken. -/
def createRecord (record : IdempotencyRecord) (store : RecordedTables β) :
    Option (RecordedTables β) :=
  if ∃ other ∈ store.records, other.key = record.key then none
  else some { store with records := store.records ++ [record] }

/-- The columns that recording a success or a failure sets. -/
def BodyResult.recordOn (result : BodyResult) (record : IdempotencyRecord) : IdempotencyRecord :=
  { record with
    state := if result.success then .succeeded else .failed
    statusCode := some result.response.statusCode
    responseBody := some result.response.responseBody }

def recordResult (id : ℕ) (result : BodyResult) (store : RecordedTables β) :
    Option (RecordedTables β) :=
  some { store with records := KeyedRows.update (·.id) [id] result.recordOn store.records }

def handleExisting (existing : Option IdempotencyRecord) (requestHash : String) : Answer :=
  match existing with
  | none => .refused ⟨.idempotencyRequestInProgress, ""⟩
  | some record =>
    if record.requestHash ≠ requestHash then .refused
      ⟨.idempotencyKeyReusedWithDifferentPayload, ""⟩
    else if record.state = .inProgress then .refused ⟨.idempotencyRequestInProgress, ""⟩
    else match record.responseBody, record.statusCode with
      | some responseBody, some statusCode => .replayed ⟨statusCode, responseBody⟩
      | _, _ => .refused ⟨.idempotencyRequestInProgress, ""⟩

/-- A request looks its key up, creates its record, whose identifier is its own, executes its body
and records the result; a request that finds a record answers from it. -/
def requestCode (key : IdempotencyKey) (bodies : BodyCode β κ π)
    (requests : ℕ → IdempotentRequest π) (id : ℕ) :
    RequestPhase π → Instruction (RecordedTables β) κ (RequestPhase π)
  | .arrived => .read (fun _ => []) fun store =>
    match getByKey store key with
    | some existing => .answered (handleExisting (some existing) (requests id).requestHash)
    | none => .missed
  | .missed =>
    .commit (fun _ => []) (createRecord { id, key, requestHash := (requests id).requestHash })
      (.executing (requests id).body) .collided
  | .collided => .read (fun _ => []) fun store =>
    .answered (handleExisting (getByKey store key) (requests id).requestHash)
  | .executing body =>
    match bodies.result body with
    | some result =>
      .commit (fun _ => []) (recordResult id result) (.answered (.executed result.response)) .lost
    | none => (bodies.code body).lift RecordedTables.tables
      (fun store tables => { store with tables }) .executing
  | .answered _ | .lost => .stop

end ArisCloud

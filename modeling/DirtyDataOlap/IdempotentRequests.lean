import DirtyDataOlap.ControlStore

/-!
# Idempotency records

The `api_idempotency` table: a request with an idempotency key leaves a row under its scope and key,
and a repeated request is answered from that row.  A row is bound to the fingerprint of its request;
under another fingerprint every operation is refused.
-/
namespace DirtyDataOlap

inductive SubmissionStatus
  | accepted
  | rejected
  | unavailable
  | conflict
  | reviewRequired
  | blocked
  | deliveryUnknown
deriving DecidableEq

structure SubmissionResult where
  runId : String
  status : SubmissionStatus
  commandId : String
  submissionId : Option String := none
  detail : String
  acceptedBy : Option String := none
deriving DecidableEq

inductive IdempotencyState
  | reserved
  | completed
  | unknown
deriving DecidableEq

/-- The entries of a stored response that are read back. -/
structure ResponseBody where
  review : Option ReviewRecord := none
  submission : Option SubmissionResult := none
deriving DecidableEq

structure IdempotencyRecord where
  scope : String
  key : String
  requestFingerprint : String
  state : IdempotencyState := .completed
  responseStatus : Nat
  responseBody : ResponseBody := {}
  resourceId : Option String := none
deriving DecidableEq

/-- The primary key of `api_idempotency`. -/
def IdempotencyRecord.id (r : IdempotencyRecord) : String × String := (r.scope, r.key)

structure ControlDatabase where
  store : Store
  idempotency : Table IdempotencyRecord.id

namespace ControlDatabase

/-- One method of the store, as a transaction of the whole database. -/
abbrev Transaction (β : Type) := ControlDatabase → Except Exc (β × ControlDatabase)

/-- Run a transaction; a failed one is rolled back. -/
def Transaction.commit {β : Type} (t : Transaction β) (d : ControlDatabase) :
    Except Exc β × ControlDatabase :=
  match t d with
  | .ok (b, d') => (.ok b, d')
  | .error e => (.error e, d)

/-- A method that leaves the idempotency table alone. -/
def onStore {β : Type} (t : Txn β) : Transaction β := fun d => do
  let (b, store) ← t d.store
  .ok (b, { d with store })

def getIdempotency (d : ControlDatabase) (scope key : String) : Option IdempotencyRecord :=
  d.idempotency.find? (scope, key)

def assertIdempotencyMatch (existing requested : IdempotencyRecord) : Except Exc Unit :=
  ensure (existing.requestFingerprint = requested.requestFingerprint)
    (.artifactConflict "idempotency key is already bound to a different semantic request")

variable (record : IdempotencyRecord)

def insertIdempotency : Transaction IdempotencyRecord := fun d =>
  match d.idempotency.insert? record with
  | some idempotency => .ok (record, { d with idempotency })
  | none => .error .integrity

/-- `reserve_idempotency`: the stored record, and whether this call created it. -/
def reserveIdempotency : Transaction (IdempotencyRecord × Bool) :=
  fun d => do
    ensure (record.state = .reserved)
      (.value "idempotency reservation must use RESERVED state")
    match d.getIdempotency record.scope record.key with
    | some stored =>
      assertIdempotencyMatch stored record
      .ok ((stored, false), d)
    | none =>
      let (stored, d') ← insertIdempotency record d
      .ok ((stored, true), d')

/-- `_update_idempotency`: whatever the state of the row is, it becomes `state`. -/
def updateIdempotency (state : IdempotencyState) : Transaction IdempotencyRecord := fun d =>
  match d.getIdempotency record.scope record.key with
  | none => .error (.platform "idempotency record is not reserved")
  | some existing => do
    assertIdempotencyMatch existing record
    -- `or`: an empty identity counts as none
    let resourceId :=
      if record.resourceId.any (· ≠ "") then record.resourceId else existing.resourceId
    let idempotency := d.idempotency.update
      (fun r => r.scope = record.scope ∧ r.key = record.key)
      (fun r => { r with
        state
        responseStatus := record.responseStatus
        responseBody := record.responseBody
        resourceId })
      (fun _ => rfl)
    .ok ({ record with state, resourceId }, { d with idempotency })

def completeIdempotency : Transaction IdempotencyRecord :=
  updateIdempotency record .completed

def markIdempotencyUnknown : Transaction IdempotencyRecord :=
  updateIdempotency record .unknown

end ControlDatabase

end DirtyDataOlap

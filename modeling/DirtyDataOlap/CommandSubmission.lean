import DirtyDataOlap.IdempotentRequests
import DirtyDataOlap.RelyGuarantee

/-!
# Submitting a command

`BackendService._submission`: a request with an idempotency key reserves a record, hands a command
job over, then completes the record with the answer; whoever finds a record answers from it.  Each
of the three transactions may fail before or after it has committed (`Delivery`).  Any number of
callers run over one control database, in any interleaving, and may crash (`SubmissionWorld`).
Digests are arbitrary functions.
-/
namespace DirtyDataOlap

/-- Trusted caller context. -/
structure Principal where
  subject : String
  scopes : List String
  source : String := "TRUSTED_PRINCIPAL"
  projectIds : List String := []

/-- The exceptions a submission meets. -/
inductive SubmissionExc
  /-- `BackendError`, with its code, message and status. -/
  | backend (code message : String) (status : Nat)
  | platform (e : Exc)

/-- The implementations of `ExecutionSubmissionPort`. -/
inductive ExecutionPort
  /-- `DurableExecutionSubmission`. -/
  | durable
  /-- `LocalProductExecutionSubmission`. -/
  | localProduct
  /-- `UnavailableExecutionSubmission`. -/
  | unavailable

/-- What the backend service is composed of. -/
structure SubmissionService where
  stableId : StableKey → String
  /-- `idempotency_fingerprint` of an action and a run. -/
  fingerprint : ExecutionAction → String → String
  /-- The identity of the command of a scope, key and fingerprint. -/
  commandId : String → String → String → String
  execution : ExecutionPort

/-- The arguments of `_submission`. -/
structure SubmissionRequest where
  action : ExecutionAction
  runId : String
  principal : Principal
  idempotencyKey : String

/-- The value of the enumeration member. -/
def ExecutionAction.value : ExecutionAction → String
  | .submit => "submit"
  | .cancel => "cancel"
  | .resume => "resume"

/-- `[A-Za-z0-9][A-Za-z0-9_.:-]{0,127}`. -/
def safeShape (value : String) : Bool :=
  match value.toList with
  | [] => false
  | c :: rest => plain c && rest.length ≤ 127 && rest.all fun c => plain c || "_.:-".toList.contains c
where
  plain (c : Char) : Bool := ('A' ≤ c && c ≤ 'Z') || ('a' ≤ c && c ≤ 'z') || ('0' ≤ c && c ≤ '9')

/-- Two dots in a row. -/
def hasDoubleDot : List Char → Bool
  | '.' :: '.' :: _ => true
  | _ :: rest => hasDoubleDot rest
  | [] => false

namespace SubmissionRequest
variable (service : SubmissionService) (request : SubmissionRequest)

def scope : String :=
  "execution:" ++ request.action.value ++ ":" ++ request.runId ++ ":" ++ request.principal.subject

def requestFingerprint : String := service.fingerprint request.action request.runId

/-- **The identity of the command**: every call of the request derives the same. -/
def commandId : String :=
  service.commandId request.scope request.idempotencyKey (request.requestFingerprint service)

/-- The command of a request. -/
def command (createdAt : Instant) : ExecutionCommand where
  commandId := request.commandId service
  runId := request.runId
  action := request.action
  requestFingerprint := request.requestFingerprint service
  principalSource := request.principal.source
  createdAt := createdAt

/-- What a caller answers that cannot tell whether the command was delivered. -/
def unknown : SubmissionResult where
  runId := request.runId
  commandId := request.commandId service
  status := .deliveryUnknown
  detail := "command delivery outcome is unknown; Step28 must reconcile the stable command identity"

/-- The idempotency record that a request reserves. -/
def reservation : IdempotencyRecord where
  scope := request.scope
  key := request.idempotencyKey
  requestFingerprint := request.requestFingerprint service
  state := .reserved
  responseStatus := 503
  responseBody := { submission := some (request.unknown service) }
  resourceId := some (request.commandId service)

/-- The record that says that delivery is unknown. -/
def uncertain : IdempotencyRecord :=
  { request.reservation service with
    state := .unknown
    responseBody := { submission := some (request.unknown service) } }

/-- The record of an answer. -/
def completed (result : SubmissionResult) : IdempotencyRecord :=
  { request.reservation service with
    state := .completed
    responseStatus := match result.status with
      | .unavailable | .deliveryUnknown => 503
      | .blocked | .conflict | .reviewRequired => 409
      | .accepted | .rejected => 202
    responseBody := { submission := some result }
    resourceId := some (request.commandId service) }

/-- The answer to a submission of a run without a plan. -/
def notPrepared : SubmissionResult where
  runId := request.runId
  commandId := request.commandId service
  status := .blocked
  detail := "execution plan is not prepared; provide explicit run-specific conditional selection first"
  acceptedBy := some "execution-plan-service"

end SubmissionRequest

/-- The calls of a submission to the store and to the execution port. -/
inductive SubmitAct
  | run (runId : String)
  | reserve (record : IdempotencyRecord)
  | executionPlan (runId : String)
  | submitCommand (command : ExecutionCommand) (runId : String)
  | complete (record : IdempotencyRecord)
  | markUnknown (record : IdempotencyRecord)

/-- What a transaction answers. -/
abbrev SubmitAct.Reply : SubmitAct → Type
  | run _ => Option RunRecord
  | reserve _ => IdempotencyRecord × Bool
  | executionPlan _ => Option ExecutionPlan
  | submitCommand _ _ => SubmissionResult
  | complete _ => IdempotencyRecord
  | markUnknown _ => IdempotencyRecord

/-- A call is answered, or it raises before or after it has had its effect. -/
inductive Delivery
  | answered
  | failsBefore (e : Exc)
  | failsAfter (e : Exc)

structure SubmitInput where
  delivery : Delivery := .answered
  /-- The local runtime is shutting down. -/
  closed : Bool := false

/-- `submit_command` of `DurableExecutionSubmission`. -/
def durableSubmitCommand (stableId : StableKey → String) (command : ExecutionCommand)
    (runId : String) : ControlDatabase.Transaction SubmissionResult := fun d => do
  let ((job, _), d) ← ControlDatabase.onStore
    (Store.enqueueExecutionCommand stableId command runId) d
  .ok ({ runId, commandId := command.commandId, status := .accepted
         submissionId := some job.jobId
         detail := "durably accepted by the SQLite control store"
         acceptedBy := some "sqlite-control-store" }, d)

variable (service : SubmissionService)

/-- `submit_command` of the execution port; waking the local worker may raise afterwards. -/
def SubmissionService.submitCommand (closed : Bool) (command : ExecutionCommand) (runId : String) :
    ControlDatabase.Transaction SubmissionResult :=
  match service.execution with
  | .durable => durableSubmitCommand service.stableId command runId
  | .localProduct =>
    if closed then fun d => .ok
      ({ runId, commandId := command.commandId, status := .unavailable
         detail := "local execution runtime is shutting down"
         acceptedBy := some "local-runtime" }, d)
    else durableSubmitCommand service.stableId command runId
  | .unavailable => fun d => .ok
      ({ runId, commandId := command.commandId, status := .unavailable
         detail := "no execution backend is configured; Step28 owns durable execution" }, d)

/-- The transactions of a submission, on the control database. -/
def SubmitAct.transaction (closed : Bool) : (a : SubmitAct) → ControlDatabase.Transaction a.Reply
  | run runId => fun d => .ok (d.store.getRun runId, d)
  | reserve record => ControlDatabase.reserveIdempotency record
  | executionPlan runId => fun d => .ok (d.store.getExecutionPlan runId, d)
  | submitCommand command runId => service.submitCommand closed command runId
  | complete record => ControlDatabase.completeIdempotency record
  | markUnknown record => ControlDatabase.markIdempotencyUnknown record

/-- **Perform an action**, with what becomes of it. -/
def submitExec (a : SubmitAct) (ω : SubmitInput) (d : ControlDatabase) :
    Except SubmissionExc a.Reply × ControlDatabase :=
  match ω.delivery with
  | .answered =>
    match (a.transaction service ω.closed).commit d with
    | (.ok r, d') => (.ok r, d')
    | (.error e, d') => (.error (.platform e), d')
  | .failsBefore e => (.error (.platform e), d)
  | .failsAfter e => (.error (.platform e), ((a.transaction service ω.closed).commit d).2)

/-! ## The program of one call -/

abbrev SubmissionProg := Prog SubmitAct.Reply SubmissionExc

/-- Make a call. -/
def SubmitAct.perform (a : SubmitAct) : SubmissionProg a.Reply := .call a

/-- The caller must have the scope. -/
def requireScope (principal : Principal) (scope : String) : SubmissionProg Unit :=
  if safeShape principal.subject && principal.scopes.contains scope then pure ()
  else .raise (.backend "FORBIDDEN" "caller is not authorized for this operation" 403)

/-- The key must have a safe shape. -/
def safeKey (key : String) : SubmissionProg Unit :=
  if safeShape key && !hasDoubleDot key.toList then pure ()
  else .raise (.backend "INVALID_IDEMPOTENCY_KEY" "Idempotency-Key has an unsafe shape" 400)

/-- The caller may act on the run. -/
def isAuthorizedRun (principal : Principal) (run : RunRecord) : Bool :=
  if principal.source = "LOCAL_TEST_AUTH" then
    run.metadata.lookup "_owner_subject" = some principal.subject
  else principal.projectIds.contains run.projectId

/-- `_get_authorized_run`, for a mutation. -/
def getAuthorizedRun (runId : String) (principal : Principal) : SubmissionProg RunRecord := do
  let run ← SubmitAct.perform (.run runId)
  match run with
  | none => .raise (.backend "RUN_NOT_FOUND" "run was not found" 404)
  | some run =>
    if isAuthorizedRun principal run then pure run
    else .raise (.backend "FORBIDDEN" "run was not found" 403)

/-- The identities fit the fields of an `ExecutionCommand`. -/
def validateCommand (command : ExecutionCommand) (scope : String) : SubmissionProg Unit :=
  if command.commandId.length ≤ 256 && 1 ≤ command.commandId.length && command.runId.length ≤ 128 &&
      scope.length ≤ 256 && command.principalSource.length ≤ 128 &&
      1 ≤ command.principalSource.length then pure ()
  else .raise (.platform (.value "ExecutionCommand"))

variable (request : SubmissionRequest)

/-- Mark the record unknown; a failure to do so is ignored. -/
def markUncertain : SubmissionProg Unit :=
  Prog.tryCatch
    (do
      let _ ← SubmitAct.perform (.markUnknown (request.uncertain service))
      pure ())
    fun _ => pure ()

/-- The command is handed to the execution port. -/
def askPort (command : ExecutionCommand) (run : RunRecord) : SubmissionProg SubmissionResult := do
  let prepared ←
    if request.action = .submit then do
      let plan ← SubmitAct.perform (.executionPlan request.runId)
      pure plan.isSome
    else pure true
  if prepared then SubmitAct.perform (.submitCommand command run.runId)
  else pure (request.notPrepared service)

/-- Hand the command over; `none` if that raised and delivery is unknown. -/
def handOver (command : ExecutionCommand) (run : RunRecord) :
    SubmissionProg (Option SubmissionResult) :=
  Prog.tryCatch
    (do
      let result ← askPort service request command run
      pure (some { result with commandId := command.commandId }))
    fun
      | .backend code message status => .raise (.backend code message status)
      | .platform _ => do
        markUncertain service request
        pure none

/-- Complete the record; `false` if that raised. -/
def completeSubmission (result : SubmissionResult) : SubmissionProg Bool :=
  Prog.tryCatch
    (do
      let _ ← SubmitAct.perform (.complete (request.completed service result))
      pure true)
    fun _ => do
      markUncertain service request
      pure false

/-- The key is reserved; another request under it is a conflict. -/
def reserveKey : SubmissionProg (IdempotencyRecord × Bool) :=
  Prog.tryCatch (SubmitAct.perform (.reserve (request.reservation service)))
    fun
      | .platform (.artifactConflict _) => .raise (.backend "IDEMPOTENCY_KEY_REUSED"
          "Idempotency-Key is bound to a different semantic request" 409)
      | e => .raise e

/-- `_submission`, once the request is authorized: the answer, and whether it is a
replay. -/
def submit (command : ExecutionCommand) (run : RunRecord) :
    SubmissionProg (SubmissionResult × Bool) := do
  let (existing, reservedByCaller) ← reserveKey service request
  if !reservedByCaller then
    match existing.responseBody.submission with
    | some result => pure (result, true)
    | none => .raise (.platform .key)
  else
    match ← handOver service request command run with
    | none => pure (request.unknown service, false)
    | some result =>
      if ← completeSubmission service request result then pure (result, false)
      else pure (request.unknown service, false)

/-- **`_submission`.** -/
def SubmissionService.submission (createdAt : Instant) :
    SubmissionProg (SubmissionResult × Bool) := do
  requireScope request.principal "runs:write"
  safeKey request.idempotencyKey
  let run ← getAuthorizedRun request.runId request.principal
  let command := request.command service createdAt
  validateCommand command request.scope
  submit service request command run

end DirtyDataOlap

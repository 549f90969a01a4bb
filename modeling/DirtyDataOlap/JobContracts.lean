import Mathlib.Algebra.GroupWithZero.Nat
import Mathlib.Data.List.Basic
import DirtyDataOlap.Dictionaries

/-!
# The contracts of the job control plane

The enumerations and records of `domain/contracts/jobs.py`, `domain/contracts/platform.py` and the
review contracts, as far as the control store and the job worker use them.  A datetime is the
instant it denotes, in microseconds: every clock of the worker is UTC.  What a contract validates on
construction is a field.
-/
namespace DirtyDataOlap

/-- A datetime, as an instant in microseconds. -/
abbrev Instant := Int

/-- `now + timedelta(seconds=n)`. -/
def Instant.addSeconds (t : Instant) (n : Nat) : Instant := t + 1000000 * (n : Int)

/-- The states of a job. -/
inductive JobStatus
  | queued | running | retryWait | needsReview | blocked | failed | cancelled | succeeded
deriving DecidableEq

/-- A command of a client, or a stage of a plan. -/
inductive JobKind
  | command | stage
deriving DecidableEq

/-- What a failure means for what comes next. -/
inductive FailureClassification
  | retryableTransient | terminalFailure | blockedPrerequisite | needsReview | cancelled
  | unknownSideEffect
deriving DecidableEq

/-- What a handler can answer. -/
inductive StageResultStatus
  | succeeded | needsReview | blocked | failed | cancelled
deriving DecidableEq

/-- The durable contract used when a handler delivery outcome is unknown. -/
inductive ReplaySafety
  | replaySafe | reconciliationRequiredOnUnknown
deriving DecidableEq

/-- Durable delivery markers surrounding an external stage handler call. -/
inductive DeliveryPhase
  | notStarted | attemptCreated | handlerDeliveryStarted | resultRecorded | finalized
  | reconciliationRequired
deriving DecidableEq

/-- Durable lifecycle of a plan while runtime truth becomes available. -/
inductive ExecutionPlanPhase
  | bootstrap | sourceResolved | complete
deriving DecidableEq

/-- What a command asks for. -/
inductive ExecutionAction
  | submit | cancel | resume
deriving DecidableEq

/-- The states of a run. -/
inductive RunStatus
  | created | running | needsReview | blocked | failed | cancelled | succeeded
deriving DecidableEq

/-- The states of an attempt. -/
inductive StageStatus
  | pending | running | succeeded | needsReview | blocked | failed | cancelled | invalidated
  | skipped

/-- How far an artifact is published. -/
inductive ArtifactPublicationState
  | reserved | writing | published | failed | tombstoned
deriving DecidableEq

/-- What a verification found. -/
inductive ArtifactIntegrityState
  | verified | missing | hashMismatch | sizeMismatch | unreadable | externalUnavailable
  | notChecked
deriving DecidableEq

/-- Whether the store keeps the bytes itself. -/
inductive ArtifactStorageMode
  | managed | external
deriving DecidableEq

/-- What a gate decided. -/
inductive GateEvidenceStatus
  | pass | fail | pending
deriving DecidableEq

/-- Where a reviewer decides. -/
inductive ReviewCheckpoint
  | reviewEvidenceDecisions | reviewCanonicalIdentity | reviewAnalyticalPlan
  | reviewMaterializationPlan
deriving DecidableEq

/-- The value of the enumeration member, as it is stored. -/
def ReviewCheckpoint.value : ReviewCheckpoint → String
  | .reviewEvidenceDecisions => "REVIEW_EVIDENCE_DECISIONS"
  | .reviewCanonicalIdentity => "REVIEW_CANONICAL_IDENTITY"
  | .reviewAnalyticalPlan => "REVIEW_ANALYTICAL_PLAN"
  | .reviewMaterializationPlan => "REVIEW_MATERIALIZATION_PLAN"

/-- What a reviewer decided. -/
inductive ReviewDecisionStatus
  | accepted | rejected | deferred | skipped | invalidated
deriving DecidableEq

/-- The permission to skip a review. -/
structure ReviewSkipAuthorization where
  (policyId policyVersion : String)
  checkpoint : ReviewCheckpoint
  (scope applicabilityFingerprint reason : String)
deriving DecidableEq

/-- What a review decision is about, in full. -/
structure ReviewCompatibilityContext where
  reviewCheckpointId : ReviewCheckpoint
  (subjectStage subjectArtifactId subjectContentHash subjectSchemaVersion modelVersion : String)
  sourceSchemaFingerprints : List (String × String) := []
  policyVersion : String
  domainAssertionRefs : List String := []
  (subjectSemanticId applicabilityFingerprint : String)
  skipAuthorization : Option ReviewSkipAuthorization := none
deriving DecidableEq

/-- The single durable identity of a reviewable subject. -/
def reviewSubjectKey (context : ReviewCompatibilityContext) : String :=
  String.intercalate "|"
    [context.reviewCheckpointId.value, context.subjectArtifactId, context.subjectContentHash,
      context.subjectSemanticId, context.applicabilityFingerprint]

/-- A decision, with everything that it was made about. -/
structure ReviewDecision where
  reviewDecisionId : String
  reviewCheckpointId : ReviewCheckpoint
  (subjectStage subjectArtifactId subjectContentHash subjectSchemaVersion modelVersion : String)
  sourceSchemaFingerprints : List (String × String) := []
  policyVersion : String
  domainAssertionRefs : List String := []
  (subjectSemanticId applicabilityFingerprint : String)
  decision : ReviewDecisionStatus
  superseded : Bool := false
  invalidationReason : Option String := none
  skipAuthorization : Option ReviewSkipAuthorization := none
deriving DecidableEq

/-- Why the decision does not settle `context`; empty if it does. -/
def ReviewDecision.compatibilityErrors (d : ReviewDecision) (context : ReviewCompatibilityContext) :
    List String :=
  let mismatch (ok : Bool) (name : String) : List String := if ok then [] else [name]
  mismatch (d.reviewCheckpointId = context.reviewCheckpointId) "WRONG_REVIEW_CHECKPOINT" ++
    mismatch (d.subjectStage = context.subjectStage) "MISMATCH_SUBJECT_STAGE" ++
    mismatch (d.subjectArtifactId = context.subjectArtifactId) "MISMATCH_SUBJECT_ARTIFACT_ID" ++
    mismatch (d.subjectContentHash = context.subjectContentHash) "MISMATCH_SUBJECT_CONTENT_HASH" ++
    mismatch (d.subjectSchemaVersion = context.subjectSchemaVersion)
      "MISMATCH_SUBJECT_SCHEMA_VERSION" ++
    mismatch (d.modelVersion = context.modelVersion) "MISMATCH_MODEL_VERSION" ++
    mismatch (d.policyVersion = context.policyVersion) "MISMATCH_POLICY_VERSION" ++
    mismatch (d.subjectSemanticId = context.subjectSemanticId) "MISMATCH_SUBJECT_SEMANTIC_ID" ++
    mismatch (d.applicabilityFingerprint = context.applicabilityFingerprint)
      "MISMATCH_APPLICABILITY_FINGERPRINT" ++
    mismatch (sameDict d.sourceSchemaFingerprints context.sourceSchemaFingerprints)
      "MISMATCH_SOURCE_SCHEMA_FINGERPRINTS" ++
    mismatch (d.domainAssertionRefs = context.domainAssertionRefs)
      "MISMATCH_DOMAIN_ASSERTION_SCOPE" ++
    mismatch (d.decision = .accepted || d.decision = .skipped) "DECISION_NOT_SATISFYING_GUARD" ++
    mismatch (d.decision ≠ .skipped ||
      (context.skipAuthorization.isSome && d.skipAuthorization = context.skipAuthorization))
      "SKIP_POLICY_NOT_AUTHORIZED" ++
    mismatch (!(d.superseded || d.invalidationReason.getD "" ≠ ""))
      "DECISION_INVALIDATED_OR_SUPERSEDED"

/-- The current decision on a subject. -/
structure ReviewRecord where
  (runId subjectKey : String)
  decision : ReviewDecision
  revision : Nat
deriving DecidableEq

/-! ## Stage results, attempts, jobs and runs -/

/-- `validate_result` of `StageExecutionResult`. -/
def validateResult (status : StageResultStatus) (failureCode : Option String)
    (failureClassification : Option FailureClassification)
    (reviewContext : Option ReviewCompatibilityContext)
    (reviewContexts : List ReviewCompatibilityContext) : Bool :=
  (!(status = .needsReview && reviewContext.isNone && reviewContexts.isEmpty)) &&
    (match reviewContext with
      | some c => reviewContexts.isEmpty || reviewContexts.contains c
      | none => true) &&
    (!(status = .blocked || status = .failed) ||
      ((failureCode.getD "") ≠ "" && failureClassification.isSome)) &&
    (failureClassification ≠ some .needsReview || status = .needsReview)

/-- What a handler answers. -/
structure StageExecutionResult where
  status : StageResultStatus
  outputArtifactRefs : List String := []
  failureCode : Option String := none
  failureClassification : Option FailureClassification := none
  failureReason : Option String := none
  reviewContext : Option ReviewCompatibilityContext := none
  reviewContexts : List ReviewCompatibilityContext := []
  metadata : List (String × String) := []
  valid : validateResult status failureCode failureClassification reviewContext
    reviewContexts = true := by exact (rfl : true = true)
deriving DecidableEq

/-- The contexts of a review; an older field stands in for them. -/
def StageExecutionResult.contexts (r : StageExecutionResult) : List ReviewCompatibilityContext :=
  if r.reviewContexts.isEmpty then r.reviewContext.toList else r.reviewContexts

/-- How often a stage is tried again, and after how long. -/
structure RetryPolicy where
  maxRetries : Nat := 2
  baseDelaySeconds : Nat := 1
  maxDelaySeconds : Nat := 60

/-- Exponential backoff, capped. -/
def RetryPolicy.delayFor (p : RetryPolicy) (retryCount : Nat) : Nat :=
  min p.maxDelaySeconds (p.baseDelaySeconds * 2 ^ (retryCount - 1))

/-- A row of `runs`. -/
structure RunRecord where
  (runId projectId : String)
  createdAt : Instant
  status : RunStatus := .created
  configurationFingerprint : String
  gitContentCommit : Option String := none
  rootArtifactRefs : List String := []
  sourceSnapshotRefs : List String := []
  gateRefs : List String := []
  latestStageRefs : List (String × String) := []
  revision : Nat := 0
  metadata : List (String × String) := []
deriving DecidableEq

/-- A row of `stage_attempts`. -/
structure StageAttemptRecord where
  (attemptId runId stageId : String)
  attemptNumber : Nat
  status : StageStatus := .pending
  startedAt : Option Instant := none
  finishedAt : Option Instant := none
  inputArtifactRefs : List String := []
  outputArtifactRefs : List String := []
  failureCode : Option String := none
  failureReason : Option String := none
  policyConfigFingerprint : String
  resourceBudgetRef : Option String := none
  deliveryPhase : DeliveryPhase := .attemptCreated
  revision : Nat := 0

/-- A job: a command submitted by a client, or a stage of a run's plan. -/
structure JobRecord where
  (jobId runId : String)
  jobKind : JobKind
  commandId : Option String := none
  action : Option ExecutionAction := none
  stageId : Option String := none
  parentJobId : Option String := none
  planId : Option String := none
  attemptId : Option String := none
  status : JobStatus := .queued
  priority : Int := 0
  (createdAt availableAt : Instant)
  leaseOwner : Option String := none
  leaseGeneration : Nat := 0
  leaseExpiresAt : Option Instant := none
  heartbeatAt : Option Instant := none
  deliveryCount : Nat := 0
  retryCount : Nat := 0
  failureCode : Option String := none
  failureClassification : Option FailureClassification := none
  failureReason : Option String := none
  cancellationRequested : Bool := false
  cancellationRequestedAt : Option Instant := none
  resultRefs : List String := []
  reviewContext : Option ReviewCompatibilityContext := none
  reviewContexts : List ReviewCompatibilityContext := []
  deliveryPhase : DeliveryPhase := .notStarted
  replaySafety : ReplaySafety := .reconciliationRequiredOnUnknown
  sourceScope : Option String := none
  durableResult : Option StageExecutionResult := none
  metadata : List (String × String) := []
  revision : Nat := 0
deriving DecidableEq

/-- The contexts a job waits for: the explicit ones, or else the singular one. -/
def JobRecord.contexts (j : JobRecord) : List ReviewCompatibilityContext :=
  if j.reviewContexts.isEmpty then j.reviewContext.toList else j.reviewContexts

/-- The review columns of a job row: several explicit contexts are stored as a list, a single one is
read back as the singular context too. -/
def reviewColumns (context : Option ReviewCompatibilityContext)
    (contexts : List ReviewCompatibilityContext) :
    Option ReviewCompatibilityContext × List ReviewCompatibilityContext :=
  if contexts.isEmpty then (context, [])
  else (if contexts.length = 1 then contexts.head? else none, contexts)

/-- The registered metadata of an artifact, as far as the control plane compares
it. -/
structure ArtifactRef where
  (artifactId runId stageId attemptId artifactKind contentHash : String)
  byteSize : Nat := 0
  storageMode : ArtifactStorageMode := .managed
  storageKey : Option String := none
  externalLocator : Option String := none
  publicationState : ArtifactPublicationState
deriving DecidableEq

/-- A row of `gate_evidence`. -/
structure GateEvidence where
  (gateId runId : String)
  status : GateEvidenceStatus
  eligible : Bool
  (validationReportArtifactId validationReportRunId validationReportId : String)
  validationReportContentHash : String
  provenanceRefs : List String := []
deriving DecidableEq

/-- What the gate reads of a `ValidationReport`. -/
structure ValidationReport where
  (runId reportId : String)
  g6Status : GateEvidenceStatus
  g6Eligible : Bool
deriving DecidableEq

/-- What a client submits to the control store. -/
structure ExecutionCommand where
  (commandId runId : String)
  action : ExecutionAction
  (requestFingerprint principalSource : String)
  createdAt : Instant

/-- The exceptions the control plane raises or catches, with their texts. -/
inductive Exc
  /-- `PlatformError` itself, or a subclass that nobody tells apart from it. -/
  | platform (detail : String)
  /-- `ArtifactConflictError`. -/
  | artifactConflict (detail : String)
  /-- `ConcurrencyConflictError`. -/
  | concurrencyConflict (detail : String)
  /-- `ExecutionPlanSelectionError`, a `ValueError`. -/
  | selection (unresolvedStageIds : List String) (detail : String)
  /-- `ValueError`, a failed model validation included. -/
  | value (detail : String)
  | key
  | os
  /-- `sqlite3.IntegrityError`: a primary key, unique or foreign key constraint. -/
  | integrity
  /-- Any other exception, by the name of its type. -/
  | other (typeName : String)
deriving DecidableEq

/-- `isinstance(exc, PlatformError)`. -/
def Exc.isPlatform : Exc → Bool
  | .platform _ | .artifactConflict _ | .concurrencyConflict _ => true
  | _ => false

/-- `except (KeyError, OSError, PlatformError)`. -/
def Exc.isStorage : Exc → Bool
  | .key | .os => true
  | e => e.isPlatform

/-- `type(exc).__name__`. -/
def Exc.typeName : Exc → String
  | .platform _ => "PlatformError"
  | .artifactConflict _ => "ArtifactConflictError"
  | .concurrencyConflict _ => "ConcurrencyConflictError"
  | .selection _ _ => "ExecutionPlanSelectionError"
  | .value _ => "ValueError"
  | .key => "KeyError"
  | .os => "OSError"
  | .integrity => "IntegrityError"
  | .other t => t

/-- What crosses the boundary between the worker and a stage handler. -/
structure StageExecutionRequest where
  (requestId jobId runId stageId attemptId planId configurationFingerprint : String)
  policyConfigFingerprint : String
  inputArtifactRefs : List String
  (cancellationTokenId handlerKey : String)

end DirtyDataOlap

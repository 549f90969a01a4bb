import DirtyDataOlap.ExecutionPlans
import DirtyDataOlap.FallibleLists
import DirtyDataOlap.KeyedTable
import Mathlib.Data.List.Sort

/-!
# The control store

`SQLiteControlStore`, table by table and method by method.  Every method opens one transaction
(`BEGIN IMMEDIATE` … `COMMIT`), so it is a `Txn`: it fails, and nothing has happened, or it returns
a value and the next store.

A mutation of a claimed job is **fenced** (`leaseRow`): running, owned by the worker, at its lease
generation, not expired.  Audit events are not modelled; `stable_id` is an arbitrary function, and
where an identity collides the primary key refuses the row.
-/
namespace DirtyDataOlap

/-- What the control plane derives identities from. -/
inductive StableKey
  | job (commandId : String)
  | stageJob (runId planId stageId : String)
  | stageAttempt (jobId stageId : String) (attemptNumber : Nat)
  | stageRequest (jobId attemptId : String)
  | cancelToken (runId jobId : String) (generation : Nat)
  | executionPlan (runId : String)

/-- A row of `review_subject_contexts`. -/
structure ReviewSubjectContext where
  runId : String
  context : ReviewCompatibilityContext

/-- The primary key of `review_subject_contexts`. -/
def ReviewSubjectContext.key (r : ReviewSubjectContext) : String × ReviewCheckpoint × String :=
  (r.runId, r.context.reviewCheckpointId, r.context.subjectArtifactId)

/-- The tables of the control database. -/
structure Store where
  runs : Table RunRecord.runId
  plans : Table fun p : ExecutionPlan => p.planId
  jobs : Table JobRecord.jobId
  attempts : Table StageAttemptRecord.attemptId
  artifacts : Table ArtifactRef.artifactId
  reviewContexts : Table ReviewSubjectContext.key
  reviews : Table fun r : ReviewRecord => (r.runId, r.subjectKey)
  reviewHistory : Table fun h : String × ReviewRecord => h.1
  gateEvidence : Table fun g : GateEvidence => (g.gateId, g.runId)

/-- A freshly created database. -/
def Store.empty : Store where
  runs := .empty
  plans := .empty
  jobs := .empty
  attempts := .empty
  artifacts := .empty
  reviewContexts := .empty
  reviews := .empty
  reviewHistory := .empty
  gateEvidence := .empty

/-- One method of the store: a transaction. -/
abbrev Txn (β : Type) := Store → Except Exc (β × Store)

/-- Run a transaction; a failed one leaves the store as it was. -/
def Txn.commit {β : Type} (t : Txn β) (s : Store) : Except Exc β × Store :=
  match t s with
  | .ok (b, s') => (.ok b, s')
  | .error e => (.error e, s)

/-- `if not condition: raise`. -/
def ensure (condition : Bool) (e : Exc) : Except Exc Unit :=
  if condition then .ok () else .error e

@[simp] theorem ensure_ok {b : Bool} {e : Exc} {u : Unit} : ensure b e = .ok u ↔ b = true := by
  unfold ensure
  split
  · simp [*]
  · simp [*]

namespace Store

section

variable (s : Store)

section

variable (runId : String)

/-- `get_run`. -/
def getRun : Option RunRecord := s.runs.find? runId

/-- `get_execution_plan`: a run has at most one plan. -/
def getExecutionPlan : Option ExecutionPlan :=
  s.plans.rows.find? fun p => p.runId = runId

/-- `get_job`. -/
def getJob (jobId : String) : Option JobRecord := s.jobs.find? jobId

/-- `get_stage_job`: the job of a stage of the run. -/
def getStageJob (runId stageId : String) : Option JobRecord :=
  s.jobs.rows.find? fun j => j.runId = runId && j.stageId = some stageId

/-- `get_stage_attempt`. -/
def getStageAttempt (attemptId : String) : Option StageAttemptRecord :=
  s.attempts.find? attemptId

/-- `get_artifact`. -/
def getArtifact (artifactId : String) : Option ArtifactRef :=
  s.artifacts.find? artifactId

/-- `get_review_subject_context`. -/
def getReviewSubjectContext (checkpoint : ReviewCheckpoint) (artifactId : String) :
    Option ReviewCompatibilityContext :=
  (s.reviewContexts.find? (runId, checkpoint, artifactId)).map (·.context)

/-- `get_current_review`: the decision that holds for a subject now. -/
def getCurrentReview (runId subjectKey : String) : Option ReviewRecord :=
  s.reviews.find? (runId, subjectKey)

/-- `get_gate_evidence`. -/
def getGateEvidence (gateId runId : String) : Option GateEvidence :=
  s.gateEvidence.find? (gateId, runId)

/-- `ORDER BY created_at, job_id`. -/
def listOrder (a b : JobRecord) : Prop :=
  a.createdAt < b.createdAt ∨ (a.createdAt = b.createdAt ∧ a.jobId ≤ b.jobId)

instance : DecidableRel listOrder := fun a b => by unfold listOrder; infer_instance

/-- The first `limit` jobs of a run, oldest first. -/
def listJobs (limit : Nat) : List JobRecord :=
  ((s.jobs.rows.filter fun j => j.runId = runId).insertionSort listOrder).take limit

/-- `UPDATE jobs SET … WHERE job_id = ?`. -/
def updateJob (jobId : String) (f : JobRecord → JobRecord)
    (hf : ∀ r, (f r).jobId = r.jobId := by intro r; rfl) : Store :=
  { s with jobs := s.jobs.update (fun j => j.jobId = jobId) f hf }

/-- `UPDATE stage_attempts SET … WHERE attempt_id = ?`. -/
def updateAttempt (attemptId : String) (f : StageAttemptRecord → StageAttemptRecord)
    (hf : ∀ r, (f r).attemptId = r.attemptId := by intro r; rfl) : Store :=
  { s with attempts := s.attempts.update (fun a => a.attemptId = attemptId) f hf }

/-- `UPDATE runs SET … WHERE run_id = ?`. -/
def updateRunRow (f : RunRecord → RunRecord) (hf : ∀ r, (f r).runId = r.runId := by intro r; rfl) :
    Store :=
  { s with runs := s.runs.update (fun r => r.runId = runId) f hf }

end

/-- `INSERT INTO jobs`. -/
def insertJob (j : JobRecord) : Except Exc Store :=
  match s.jobs.insert? j with
  | some jobs => .ok { s with jobs }
  | none => .error .integrity

/-- `INSERT INTO stage_attempts`. -/
def insertAttempt (a : StageAttemptRecord) : Except Exc Store :=
  match s.attempts.insert? a with
  | some attempts => .ok { s with attempts }
  | none => .error .integrity

end

/-- `create_run`: creating the same run twice is no error. -/
def createRun (run : RunRecord) : Txn RunRecord := fun s =>
  match s.getRun run.runId with
  | some stored =>
    if { stored with revision := run.revision } = run then .ok (stored, s)
    else .error (.artifactConflict "run identity is already bound to different metadata")
  | none =>
    match s.runs.insert? run with
    | some runs => .ok (run, { s with runs })
    | none => .error .integrity

/-- `update_run`: compare-and-swap on the revision; all but identity and creation time is written.
-/
def updateRun (run : RunRecord) (expectedRevision : Nat) : Txn RunRecord := fun s =>
  match s.getRun run.runId with
  | some stored =>
    if stored.revision = expectedRevision then
      let next := fun r : RunRecord =>
        { run with runId := r.runId, createdAt := r.createdAt, revision := r.revision + 1 }
      .ok (next stored, s.updateRunRow run.runId next)
    else .error (.concurrencyConflict "run revision changed before compare-and-swap update")
  | none => .error (.concurrencyConflict "run revision changed before compare-and-swap update")

/-- `register_execution_plan`: a run keeps the plan that it has. -/
def registerExecutionPlan (plan : ExecutionPlan) : Txn ExecutionPlan := fun s =>
  match s.getRun plan.runId, s.getExecutionPlan plan.runId with
  | none, _ => .error (.platform "execution plan requires an existing run")
  | some _, some stored =>
    if stored = plan then .ok (stored, s)
    else .error (.artifactConflict "run already has a different execution plan")
  | some _, none =>
    match s.plans.insert? plan with
    | some plans => .ok (plan, { s with plans })
    | none => .error .integrity

theorem replaced_planId (plan p : ExecutionPlan) :
    (if p.planId = plan.planId then plan else p).planId = p.planId := by
  split <;> simp [*]

/-- `advance_execution_plan`: compare-and-swap on the content of the stored plan,
whose identity is kept. -/
def advanceExecutionPlan (plan : ExecutionPlan) (expectedContentHash : PlanData) :
    Txn ExecutionPlan := fun s =>
  match s.getExecutionPlan plan.runId with
  | none => .error (.platform "execution plan does not exist")
  | some stored =>
    if stored.planId = plan.planId ∧ stored.contentHash = expectedContentHash then
      -- the creation time is a column of its own, but the plan is read from `plan_json`
      .ok (plan,
        { s with
          plans := s.plans.update (fun p => p.planId = plan.planId)
            (fun p => if p.planId = plan.planId then plan else p)
            (replaced_planId plan) })
    else .error (.concurrencyConflict
      "phased execution plan advancement lost its compare-and-swap race")

variable (stableId : StableKey → String)

/-- `enqueue_execution_command`: a command that is known already is not queued again. -/
def enqueueExecutionCommand (command : ExecutionCommand) (runId : String) :
    Txn (JobRecord × Bool) := fun s => do
  ensure (s.getRun runId).isSome (.platform "execution command requires an existing run")
  match s.jobs.rows.find? fun j => j.commandId = some command.commandId with
  | some stored =>
    let fingerprint := stored.metadata.lookup "command_fingerprint"
    ensure (stored.runId = command.runId && stored.action = some command.action &&
        (fingerprint.isNone || fingerprint = some command.requestFingerprint))
      (.artifactConflict "command_id is already bound to a different command")
    .ok ((stored, true), s)
  | none =>
    ensure (s.getRun command.runId).isSome .integrity
    let job : JobRecord :=
      { jobId := stableId (.job command.commandId)
        runId := command.runId
        jobKind := .command
        commandId := some command.commandId
        action := some command.action
        createdAt := command.createdAt
        availableAt := command.createdAt
        metadata := [("principal_source", command.principalSource),
          ("command_fingerprint", command.requestFingerprint)] }
    let s' ← s.insertJob job
    .ok ((job, false), s')

/-- The row of a new stage job. -/
def stageJobRow (runId planId : String) (stage : StageSpec) (parentJobId : Option String)
    (now : Instant) : JobRecord where
  jobId := stableId (.stageJob runId planId stage.stageId)
  runId := runId
  jobKind := .stage
  stageId := some stage.stageId
  planId := some planId
  parentJobId := parentJobId
  createdAt := now
  availableAt := now
  deliveryPhase := .attemptCreated
  replaySafety := stage.replaySafety
  sourceScope := stage.sourceScope
  metadata := stage.metadata

/-- `enqueue_stage_job`: at most one job per stage of a run. -/
def enqueueStageJob (runId planId stageId : String) (parentJobId : Option String)
    (availableAt : Instant) : Txn JobRecord := fun s =>
  match s.plans.find? planId with
  | none => .error (.platform "stage job requires a registered run plan")
  | some plan =>
    if plan.runId = runId then
      match plan.stage stageId with
      | none => .error (.platform "stage job is not present in the authoritative execution plan")
      | some stage =>
        match s.getStageJob runId stageId with
        | some existing => .ok (existing, s)
        | none =>
          let job := stageJobRow stableId runId planId stage parentJobId availableAt
          (s.insertJob job).map fun s' => (job, s')
    else .error (.platform "stage job requires a registered run plan")

/-! ## Leases -/

/-- `QUEUED` or `RETRY_WAIT` and due, or `RUNNING` past its lease. -/
def claimable (now : Instant) (j : JobRecord) : Bool :=
  ((j.status = .queued || j.status = .retryWait) && j.availableAt ≤ now &&
      !j.cancellationRequested) ||
    (j.status = .running && j.leaseExpiresAt.any (· ≤ now))

/-- `RUNNING` within its lease. -/
def active (now : Instant) (j : JobRecord) : Bool :=
  j.status = .running && j.leaseExpiresAt.any (now < ·)

/-- The run and the source of the job have a slot left. -/
def admitted (s : Store) (now : Instant) (maxActivePerRun maxActivePerSource : Nat)
    (j : JobRecord) : Bool :=
  (s.jobs.rows.filter fun k => k.runId = j.runId && active now k).length < maxActivePerRun &&
    (j.sourceScope.isNone ||
      (s.jobs.rows.filter fun k => k.sourceScope = j.sourceScope && active now k).length <
        maxActivePerSource)

/-- `ORDER BY priority DESC, available_at, created_at, job_id`. -/
def claimOrder (a b : JobRecord) : Prop :=
  b.priority < a.priority ∨ (a.priority = b.priority ∧ (a.availableAt < b.availableAt ∨
    (a.availableAt = b.availableAt ∧ listOrder a b)))

instance : DecidableRel claimOrder := fun a b => by unfold claimOrder; infer_instance

/-- The row that `claim_next_job` selects. -/
def nextJob (s : Store) (now : Instant) (maxActivePerRun maxActivePerSource : Nat) :
    Option JobRecord :=
  ((s.jobs.rows.filter fun j => claimable now j &&
    s.admitted now maxActivePerRun maxActivePerSource j).insertionSort claimOrder).head?

/-- A claimed row: running, owned by the claimer, under a new generation. -/
def claimRow (workerId : String) (now : Instant) (leaseSeconds : Nat) (r : JobRecord) : JobRecord :=
  { r with
    status := .running
    leaseOwner := some workerId
    leaseGeneration := r.leaseGeneration + 1
    leaseExpiresAt := some (now.addSeconds leaseSeconds)
    heartbeatAt := some now
    deliveryCount := r.deliveryCount + 1
    revision := r.revision + 1 }

/-- `claim_next_job`: the next claimable job is leased, and its delivery counted. -/
def claimNextJob (workerId : String) (now : Instant) (leaseSeconds maxActivePerRun
    maxActivePerSource : Nat) : Txn (Option JobRecord) := fun s => do
  ensure (workerId ≠ "" && 1 ≤ leaseSeconds && 1 ≤ maxActivePerRun && 1 ≤ maxActivePerSource)
    (.value "worker_id and a positive lease are required")
  match s.nextJob now maxActivePerRun maxActivePerSource with
  | none => .ok (none, s)
  | some row =>
    .ok (some (claimRow workerId now leaseSeconds row),
      s.updateJob row.jobId (claimRow workerId now leaseSeconds))

/-- The row is running, owned by the worker, at this generation. -/
def holds (workerId : String) (leaseGeneration : Nat) (j : JobRecord) : Bool :=
  j.status = .running && j.leaseOwner = some workerId && j.leaseGeneration = leaseGeneration

/-- The job has a lease, and it has not run out. -/
def unexpired (now : Instant) (j : JobRecord) : Bool := j.leaseExpiresAt.any (now < ·)

variable (jobId workerId : String) (leaseGeneration : Nat)

/-- `heartbeat_job`: extend the lease. -/
def heartbeatJob (now : Instant) (leaseSeconds : Nat) : Txn JobRecord := fun s =>
  match s.getJob jobId with
  | some row =>
    if holds workerId leaseGeneration row && unexpired now row then
      let next := fun r : JobRecord =>
        { r with
          leaseExpiresAt := some (now.addSeconds leaseSeconds)
          heartbeatAt := some now
          revision := r.revision + 1 }
      .ok (next row, s.updateJob jobId next)
    else .error (.concurrencyConflict "heartbeat rejected by the current lease fence")
  | none => .error (.concurrencyConflict "heartbeat rejected by the current lease fence")

/-- `_lease_row`: the fence in front of every mutation of a claimed job. -/
def leaseRow (s : Store) (jobId workerId : String) (leaseGeneration : Nat) (now : Instant) :
    Except Exc JobRecord :=
  match s.getJob jobId with
  | none => .error (.platform "job was not found")
  | some row =>
    if holds workerId leaseGeneration row then
      if unexpired now row then .ok row
      else .error (.concurrencyConflict "job mutation rejected after lease expiry")
    else .error (.concurrencyConflict "job mutation rejected by the lease fence")

/-! ## Stage attempts -/

/-- The inputs of a new attempt: the roots of the run, or the results of the hard dependencies, in
order. -/
def inputArtifactRefs (s : Store) (runId : String) (stage : StageSpec) : List String :=
  (if stage.stageId = "SOURCE_DISCOVERY" then ((s.getRun runId).elim [] (·.rootArtifactRefs))
    else []) ++
  stage.dependencies.flatMap fun d => (s.getStageJob runId d).elim [] (·.resultRefs)

/-- `COALESCE(MAX(attempt_number), 0)`. -/
def lastAttemptNumber (s : Store) (runId stageId : String) : Nat :=
  ((s.attempts.rows.filter fun a => a.runId = runId && a.stageId = stageId).map
    (·.attemptNumber)).foldr max 0

/-- The row of a new attempt, with the next number. -/
def newAttempt (s : Store) (row : JobRecord) (stage : StageSpec) (now : Instant) :
    StageAttemptRecord where
  attemptId := stableId (.stageAttempt row.jobId stage.stageId
    (s.lastAttemptNumber row.runId stage.stageId + 1))
  runId := row.runId
  stageId := stage.stageId
  attemptNumber := s.lastAttemptNumber row.runId stage.stageId + 1
  status := .running
  startedAt := some now
  inputArtifactRefs := s.inputArtifactRefs row.runId stage
  policyConfigFingerprint := stage.policyConfigFingerprint

/-- `ensure_stage_attempt`: the attempt of a claimed stage job, created on first
delivery. -/
def ensureStageAttempt (now : Instant) : Txn StageAttemptRecord := fun s =>
  match s.getJob jobId with
  | none => .error (.platform "job was not found")
  | some row =>
    if row.jobKind = .stage ∧ holds workerId leaseGeneration row = true then
      if unexpired now row then
        match row.attemptId with
        | some attemptId =>
          match s.getStageAttempt attemptId with
          | some attempt => .ok (attempt, s)
          | none => .error (.platform "job references a missing stage attempt")
        | none =>
          match row.planId.bind s.plans.find? with
          | none => .error (.other "TypeError")
          | some plan =>
            match plan.stage (row.stageId.getD "None") with
            | none => .error (.platform "stage is not in the execution plan")
            | some stage =>
              let attempt := newAttempt stableId s row stage now
              (s.insertAttempt attempt).map fun s' => (attempt, s'.updateJob jobId fun r =>
                { r with attemptId := some attempt.attemptId, revision := r.revision + 1 })
      else .error (.concurrencyConflict "stage start rejected after lease expiry")
    else .error (.concurrencyConflict "stage start rejected by the current lease fence")

/-- `mark_handler_delivery_started`.  The phase the row is in is not looked at. -/
def markHandlerDeliveryStarted (now : Instant) : Txn JobRecord := fun s => do
  let row ← s.leaseRow jobId workerId leaseGeneration now
  match row.attemptId with
  | none => .error (.platform "handler delivery requires a fenced stage attempt")
  | some attemptId =>
    ensure (row.jobKind = .stage)
      (.platform "handler delivery requires a fenced stage attempt")
    ensure (s.getStageAttempt attemptId).isSome
      (.platform "job references a missing stage attempt")
    let next := fun r : JobRecord =>
      { r with deliveryPhase := .handlerDeliveryStarted, revision := r.revision + 1 }
    .ok (next row,
      (s.updateAttempt attemptId fun a =>
        { a with deliveryPhase := .handlerDeliveryStarted, revision := a.revision + 1 }).updateJob
        jobId next)

variable (attempt : StageAttemptRecord)

section

variable (result : StageExecutionResult)

/-- `record_stage_result`: compare-and-swap on the revision of the attempt. -/
def recordStageResult (now : Instant) : Txn JobRecord := fun s => do
  let row ← s.leaseRow jobId workerId leaseGeneration now
  ensure (row.jobKind = .stage && row.attemptId = some attempt.attemptId)
    (.concurrencyConflict "stage result does not match the fenced attempt")
  ensure ((s.getStageAttempt attempt.attemptId).any fun a => a.revision = attempt.revision)
    (.concurrencyConflict "stage result changed before durable recording")
  let next := fun r : JobRecord =>
    { r with
      deliveryPhase := .resultRecorded
      durableResult := some result
      revision := r.revision + 1 }
  .ok (next row,
    (s.updateAttempt attempt.attemptId fun a =>
      { a with deliveryPhase := .resultRecorded, revision := a.revision + 1 }).updateJob jobId next)

/-! ## Finalization -/

/-- The run or the job has been cancelled: what `finalize_stage_job` looks at. -/
def cancellationWins (s : Store) (row : JobRecord) : Bool :=
  row.cancellationRequested || (s.getRun row.runId).any fun r => r.status = .cancelled

/-- The outcomes that a cancellation in between turns into `CANCELLED`. -/
def overridable : JobStatus → Bool
  | .succeeded | .needsReview | .blocked | .retryWait => true
  | _ => false

/-- The attempt row that finalization writes: the caller's fields, under the
stored identity. -/
def finalizedAttempt (r : StageAttemptRecord) : StageAttemptRecord :=
  { r with
    status := attempt.status
    startedAt := attempt.startedAt
    finishedAt := attempt.finishedAt
    inputArtifactRefs := attempt.inputArtifactRefs
    outputArtifactRefs := attempt.outputArtifactRefs
    failureCode := attempt.failureCode
    failureReason := attempt.failureReason
    policyConfigFingerprint := attempt.policyConfigFingerprint
    resourceBudgetRef := attempt.resourceBudgetRef
    deliveryPhase := .finalized
    revision := r.revision + 1 }

/-- The row of a finalized stage job. -/
def finalizedJob (status : JobStatus) (cancelled : Bool) (attemptId : String)
    (availableAt : Instant) (retryCount : Nat) (r : JobRecord) : JobRecord :=
  { r with
    status := status
    attemptId := if status = .retryWait then none else some attemptId
    availableAt := availableAt
    leaseOwner := none
    leaseExpiresAt := none
    heartbeatAt := none
    retryCount := retryCount
    failureCode := if cancelled then some "CANCELLATION_REQUESTED" else result.failureCode
    failureClassification :=
      if cancelled then some .cancelled else result.failureClassification
    failureReason :=
      if cancelled then some "stage completion lost the cancellation race"
      else result.failureReason
    resultRefs := if status = .cancelled then [] else result.outputArtifactRefs
    reviewContext := (reviewColumns result.reviewContext result.reviewContexts).1
    reviewContexts := (reviewColumns result.reviewContext result.reviewContexts).2
    deliveryPhase := if status = .retryWait then .attemptCreated else .finalized
    durableResult := if status = .retryWait then none else some result
    revision := r.revision + 1 }

/-- `finalize_stage_job`: a cancellation overrides every outcome that would let the run go on. -/
def finalizeStageJob (status : JobStatus) (now : Instant) (retryCount : Nat)
    (availableAt : Option Instant) : Txn JobRecord := fun s => do
  let row ← s.leaseRow jobId workerId leaseGeneration now
  let cancelled := s.cancellationWins row && overridable status
  let status' := if cancelled then .cancelled else status
  let attempt' : StageAttemptRecord :=
    if cancelled then
      { attempt with status := .cancelled, finishedAt := some now, outputArtifactRefs := [] }
    else { attempt with finishedAt := some (attempt.finishedAt.getD now) }
  ensure (row.attemptId = some attempt.attemptId)
    (.concurrencyConflict "finalization attempt does not match the fenced job")
  ensure ((s.getStageAttempt attempt.attemptId).any fun a => a.revision = attempt.revision)
    (.concurrencyConflict "stage attempt finalization changed before its job")
  let next := finalizedJob result status' cancelled attempt.attemptId (availableAt.getD now)
    retryCount
  .ok (next row,
    (s.updateAttempt attempt.attemptId (finalizedAttempt attempt')).updateJob jobId next)

end

/-- `finalize_command_job`: fenced like every write of a delivery. -/
def finalizeCommandJob (status : JobStatus) (now : Instant) (detail : String)
    (failureCode : Option String) (failureClassification : Option FailureClassification) :
    Txn JobRecord := fun s => do
  ensure (detail.length ≤ 512 && !detail.toList.contains '\n' && !detail.toList.contains '\r')
    (.value "command result detail must be safe metadata")
  let row ← s.leaseRow jobId workerId leaseGeneration now
  let next := fun r : JobRecord =>
    { r with
      status := status
      leaseOwner := none
      leaseExpiresAt := none
      heartbeatAt := none
      failureCode := failureCode
      failureClassification := failureClassification
      failureReason := some detail
      deliveryPhase := .finalized
      revision := r.revision + 1 }
  .ok (next row, s.updateJob jobId next)

/-- Waiting rows are cancelled at once, running ones only flagged. -/
def cancelRow (now : Instant) (j : JobRecord) : JobRecord :=
  match j.status with
  | .queued | .retryWait | .needsReview | .blocked =>
    { j with
      status := .cancelled
      cancellationRequested := true
      cancellationRequestedAt := some now
      leaseOwner := none
      leaseExpiresAt := none
      heartbeatAt := none
      revision := j.revision + 1 }
  | .running =>
    { j with
      cancellationRequested := true
      cancellationRequestedAt := some now
      revision := j.revision + 1 }
  | .succeeded | .failed | .cancelled => j

theorem cancelRow_jobId (now : Instant) (j : JobRecord) : (cancelRow now j).jobId = j.jobId := by
  unfold cancelRow
  split <;> rfl

/-- `request_run_cancellation`: the run and all its jobs in one transaction. -/
def requestRunCancellation (runId : String) (now : Instant) : Txn RunRecord := fun s =>
  match s.getRun runId with
  | none => .error (.platform "run was not found")
  | some run =>
    let cancelled := fun r : RunRecord =>
      if r.status = .succeeded ∨ r.status = .cancelled then r
      else { r with status := .cancelled, revision := r.revision + 1 }
    .ok (cancelled run,
      { s.updateRunRow runId cancelled (fun r => by
          by_cases h : r.status = .succeeded ∨ r.status = .cancelled <;> simp [cancelled, h]) with
        jobs := s.jobs.update (fun j => j.runId = runId) (cancelRow now) (cancelRow_jobId now) })

/-- The row of a resumed job: queued for a new attempt. -/
def resumedRow (now : Instant) (j : JobRecord) : JobRecord :=
  { j with
    status := .queued
    attemptId := none
    availableAt := now
    leaseOwner := none
    leaseExpiresAt := none
    heartbeatAt := none
    cancellationRequested := false
    cancellationRequestedAt := none
    failureCode := none
    failureClassification := none
    failureReason := none
    deliveryPhase := .attemptCreated
    durableResult := none
    revision := j.revision + 1 }

/-- `resume_job`: a stopped job is queued again, whatever stopped it. -/
def resumeJob (jobId : String) (now : Instant) : Txn JobRecord := fun s =>
  match s.getJob jobId with
  | none => .error (.platform "job was not found")
  | some row =>
    if row.status = .needsReview ∨ row.status = .blocked ∨ row.status = .failed then
      .ok (resumedRow now row, s.updateJob jobId (resumedRow now))
    else .error (.platform "only review, blocked or failed jobs can be resumed")

/-! ## Artifacts, reviews and gate evidence -/

/-- `register_artifact`. -/
def registerArtifact (artifact : ArtifactRef) : Txn ArtifactRef := fun s => do
  ensure (s.getRun artifact.runId).isSome (.platform "artifact requires an existing run")
  match s.getArtifact artifact.artifactId with
  | some stored =>
    ensure ({ stored with publicationState := artifact.publicationState } = artifact)
      (.artifactConflict
        "artifact identity or immutable content conflicts with the existing row")
    ensure (!(stored.publicationState = .tombstoned && artifact.publicationState ≠ .tombstoned))
      (.artifactConflict "tombstoned artifact identity cannot be republished")
    .ok (stored, s)
  | none =>
    match s.artifacts.insert? artifact with
    | some artifacts => .ok (artifact, { s with artifacts })
    | none => .error .integrity

/-- `register_review_subject_context`: a subject keeps its context. -/
def registerReviewSubjectContext (runId : String) (context : ReviewCompatibilityContext) :
    Txn ReviewCompatibilityContext := fun s =>
  if (s.getArtifact context.subjectArtifactId).any fun a => a.runId = runId then
    match s.getReviewSubjectContext runId context.reviewCheckpointId context.subjectArtifactId with
    | some stored =>
      if stored = context then .ok (stored, s)
      else .error (.artifactConflict
        "review subject context is already bound to different authoritative semantics")
    | none =>
      match s.reviewContexts.insert? ⟨runId, context⟩ with
      | some reviewContexts => .ok (context, { s with reviewContexts })
      | none => .error .integrity
  else .error (.platform "review context must bind an existing artifact in the requested run")

/-- What a decision is about, in one text. -/
def decisionKey (d : ReviewDecision) : String :=
  String.intercalate "|"
    [d.reviewCheckpointId.value, d.subjectArtifactId, d.subjectContentHash, d.subjectSemanticId,
      d.applicabilityFingerprint]

/-- The primary key of `review_history`. -/
def reviewHistoryId (record : ReviewRecord) : String :=
  "review-" ++ record.decision.reviewDecisionId ++ "-" ++ toString record.revision

/-- `record_review`: compare-and-swap on the revision of the current review. -/
def recordReview (record : ReviewRecord) (expectedRevision : Nat) : Txn ReviewRecord := fun s => do
  ensure (record.revision = expectedRevision + 1) (.concurrencyConflict
    "review revision does not match the expected compare-and-swap revision")
  ensure (record.subjectKey = decisionKey record.decision) (.platform
    "review subject key must be derived from the complete authoritative context")
  ensure (s.getRun record.runId).isSome (.platform "review requires an existing run")
  let current := s.getCurrentReview record.runId record.subjectKey
  ensure (current.elim 0 (·.revision) = expectedRevision)
    (.concurrencyConflict "review revision changed before compare-and-swap update")
  -- `UNIQUE(run_id, subject_key, revision)`
  ensure (!s.reviewHistory.rows.any fun h => h.2.runId = record.runId &&
    h.2.subjectKey = record.subjectKey && h.2.revision = record.revision) .integrity
  match s.reviewHistory.insert? (reviewHistoryId record, record) with
  | none => .error .integrity
  | some reviewHistory =>
    match current with
    | some _ =>
      .ok (record,
        { s with
          reviewHistory
          reviews := s.reviews.update
            (fun r => r.runId = record.runId ∧ r.subjectKey = record.subjectKey)
            (fun r => { r with decision := record.decision, revision := record.revision })
            (fun _ => rfl) })
    | none =>
      match s.reviews.insert? record with
      | none => .error .integrity
      | some reviews => .ok (record, { s with reviewHistory, reviews })

/-- The provenance marker that the schema migration puts on unverified evidence. -/
def legacyMarker : String := "legacy:gate-evidence-unverified"

/-- `record_gate_evidence`: evidence is written once, unless what is stored came from the migration.
-/
def recordGateEvidence (evidence : GateEvidence) : Txn GateEvidence := fun s => do
  let artifact := s.getArtifact evidence.validationReportArtifactId
  ensure artifact.isSome (.platform "gate evidence requires a registered ValidationReport artifact")
  ensure (artifact.any fun a => a.artifactKind = "ValidationReport")
    (.platform "gate evidence requires artifact_kind=ValidationReport")
  ensure (artifact.any fun a => a.publicationState = .published)
    (.platform "gate evidence requires a published ValidationReport")
  ensure (artifact.any fun a => a.contentHash = evidence.validationReportContentHash)
    (.artifactConflict "gate evidence hash does not match its ValidationReport artifact")
  ensure (evidence.gateId = "G6_DATA_CORRECTNESS")
    (.platform "ValidationReport-backed gate evidence is scoped to G6_DATA_CORRECTNESS")
  match s.getGateEvidence evidence.gateId evidence.runId with
  | some stored =>
    if stored.provenanceRefs.contains legacyMarker then
      .ok (evidence,
        { s with
          gateEvidence := s.gateEvidence.update
            (fun g => g.gateId = evidence.gateId ∧ g.runId = evidence.runId)
            (fun g => { evidence with gateId := g.gateId, runId := g.runId }) (fun _ => rfl) })
    else do
      ensure (stored = evidence) (.artifactConflict
        "gate evidence identity is already bound to different evidence")
      .ok (stored, s)
  | none =>
    ensure (s.getRun evidence.runId).isSome .integrity
    match s.gateEvidence.insert? evidence with
    | some gateEvidence => .ok (evidence, { s with gateEvidence })
    | none => .error .integrity

end Store
end DirtyDataOlap

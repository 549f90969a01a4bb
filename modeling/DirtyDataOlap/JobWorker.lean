import DirtyDataOlap.WorkerActions

/-!
# The job worker

One iteration of `JobWorker`, method by method, with the `ExecutionPlanService.advance_after_stage`
that it calls.  A method is a program of atomic actions; what it raises is an `Exc`.  Telemetry and
the test-only fault injector are not modelled: a fault is a crash, between any two actions.
-/
namespace DirtyDataOlap

/-- The arguments of a `JobWorker`. -/
structure WorkerConfig where
  workerId : String := "worker-1"
  leaseSeconds : Nat := 30
  retryPolicy : RetryPolicy := {}
  maxActivePerRun : Nat := 1
  maxActivePerSource : Nat := 1
  /-- A `plan_advancer` is configured. -/
  planAdvancer : Bool := false
  /-- The keys of the `StageHandlerRegistry`; `none` for any other executor. -/
  handlers : Option (List String) := none

/-- What an iteration reports. -/
structure WorkerOutcome where
  jobId : String
  status : JobStatus
  detail : String

/-- What an iteration returns about the row it stored. -/
def WorkerOutcome.of (stored : JobRecord) (detail : String) : WorkerOutcome :=
  ⟨stored.jobId, stored.status, detail⟩

open Worker

/-- `ExecutionPlanService._advance`. -/
def advancePlan (current candidate : ExecutionPlan) : Worker ExecutionPlan :=
  if current.contentHash = candidate.contentHash then pure current
  else
    (write (.advanceExecutionPlan candidate current.contentHash)).tryCatch fun e =>
      match e with
      | .concurrencyConflict _ => do
        match ← read (.executionPlan current.runId) with
        | some latest => pure latest
        | none => .raise e
      | e => .raise e

/-- `current.model_copy(update={"pending_stage_ids": …, "revision": …})`; a stored
plan is validated when it is read back. -/
def stillPending (current : ExecutionPlan) (pending : List String) : Except Exc ExecutionPlan :=
  ExecutionPlan.validate
    { current.toPlanData with pendingStageIds := pending, revision := current.revision + 1 }

/-- The candidate of the next phase, compiled under the identity of the current
plan. -/
def nextPhase (graph : StageGraph) (current : ExecutionPlan) (runId : String)
    (intent : ExecutionPlanIntent) (selection : ExecutionPlanSelection)
    (phase : ExecutionPlanPhase) (pending : List String) (guarded : Bool) :
    Except Exc ExecutionPlan :=
  loadAuthoritativeExecutionPlan graph runId current.planId (some selection) phase.stageIds phase
    (some intent) pending (current.revision + 1) guarded current.createdAt

/-- `ExecutionPlanService.advance_after_stage`: advance only at the owner stage
that produced the required truth. -/
def planAdvancerAdvanceAfterStage (graph : StageGraph) (runId completedStageId : String) :
    Worker ExecutionPlan := do
  let current? ← read (.executionPlan runId)
  let run? ← read (.run runId)
  match current?, run? with
  | some current, some run =>
    let intent := current.planningIntent.getD {}
    if current.planningPhase = .bootstrap ∧ completedStageId = "SOURCE_DISCOVERY" then do
      match ← observe (.resolve run.runId intent false (some sourcePhaseStageIds)) with
      | none =>
        let candidate ← ofExcept (stillPending current ["SCHEMA_MATCHING", "ENTITY_RESOLUTION"])
        advancePlan current candidate
      | some selection =>
        let candidate ← ofExcept (nextPhase graph current run.runId intent selection
          .sourceResolved ["ENTITY_RESOLUTION"] false)
        advancePlan current candidate
    else if current.planningPhase = .sourceResolved ∧
        completedStageId = "CANONICAL_HYPOTHESES" then do
      match ← observe (.resolve run.runId intent true none) with
      | none =>
        let candidate ← ofExcept (stillPending current ["ENTITY_RESOLUTION"])
        advancePlan current candidate
      | some selection =>
        let candidate ← ofExcept (nextPhase graph current run.runId intent selection
          .complete [] true)
        advancePlan current candidate
    else pure current
  | _, _ => .raise (.platform "phased plan advancement requires a durable run plan")

/-- `_set_run_status`: a terminal run keeps its status, and so does a failed or blocked one that is
only said to be running. A conflict counts as success if the status is there already. -/
def setRunStatus (runId : String) (status : RunStatus) (allowTerminalReactivation : Bool) :
    Worker Unit := do
  match ← read (.run runId) with
  | none => pure ()
  | some run =>
    if (run.status = .cancelled ∨ run.status = .succeeded) ∧ status ≠ .cancelled then pure ()
    else if (run.status = .failed ∨ run.status = .blocked) ∧ status = .running ∧
        allowTerminalReactivation = false then pure ()
    else if run.status = status then pure ()
    else
      ((write (.updateRun { run with status := status } run.revision)).bind fun _ =>
        (pure () : Worker Unit)).tryCatch fun e =>
        match e with
        | .concurrencyConflict _ => do
          match ← read (.run runId) with
          | some latest => if latest.status = status then pure () else .raise e
          | none => .raise e
        | e => .raise e

/-- All hard dependencies have succeeded; the first that has not ends the search. -/
def hardSucceeded (runId : String) : List String → Worker Bool
  | [] => pure true
  | d :: rest => do
    match ← read (.stageJob runId d) with
    | some dependency => if dependency.status = .succeeded then hardSucceeded runId rest else pure false
    | none => pure false

/-- The same of the conditional dependencies that the plan selects. -/
def conditionalSucceeded (plan : ExecutionPlan) : List String → Worker Bool
  | [] => pure true
  | d :: rest => do
    let dependency ← read (.stageJob plan.runId d)
    if (plan.stage d).any (·.selected) && !(dependency.any fun j => j.status = .succeeded) then
      pure false
    else conditionalSucceeded plan rest

section

variable (plan : ExecutionPlan)

/-- `_dependencies_succeeded`. -/
def dependenciesSucceeded (stageId : String) : Worker Bool :=
  match plan.stage stageId with
  | none => pure false
  | some stage => do
    if ← hardSucceeded plan.runId stage.dependencies then
      conditionalSucceeded plan stage.conditionalDependencies
    else pure false

/-- The loop of `_schedule_ready`. -/
def scheduleStages (plan : ExecutionPlan) (parentJobId : Option String) :
    List StageSpec → Nat → Worker Nat
  | [], count => pure count
  | stage :: rest, count =>
    if stage.selected then do
      if ← dependenciesSucceeded plan stage.stageId then
        match ← read (.stageJob plan.runId stage.stageId) with
        | none =>
          let availableAt ← now
          let _ ← write (.enqueueStageJob plan.runId plan.planId stage.stageId parentJobId
            availableAt)
          scheduleStages plan parentJobId rest (count + 1)
        | some _ => scheduleStages plan parentJobId rest count
      else scheduleStages plan parentJobId rest count
    else scheduleStages plan parentJobId rest count

/-- `_schedule_ready`: enqueue every selected stage whose dependencies have
succeeded and that has no job yet; how many were enqueued. -/
def scheduleReady (parentJobId : Option String) : Worker Nat :=
  scheduleStages plan parentJobId plan.stages 0

/-! ## Completion -/

/-- The body of `_valid_g6_evidence` that looks at the artifact store. -/
def reportAgrees (evidence : GateEvidence) (artifact : ArtifactRef) : Worker Bool := do
  let stored ← observe (.stat artifact)
  if stored = artifact then do
    let integrity ← observe (.verify artifact)
    if integrity = .verified then do
      let report ← observe (.report artifact)
      pure (report.runId = evidence.validationReportRunId &&
        report.reportId = evidence.validationReportId && report.g6Status = evidence.status &&
        report.g6Eligible)
    else pure false
  else pure false

/-- `except (KeyError, OSError, PlatformError, ValueError)`. -/
def Exc.isStorageOrValue : Exc → Bool
  | .value _ | .selection _ _ => true
  | e => e.isStorage

/-- `_valid_g6_evidence`. -/
def validG6Evidence (runId : String) : Worker Bool := do
  match ← read (.gateEvidence "G6_DATA_CORRECTNESS" runId) with
  | none => pure false
  | some evidence =>
    if evidence.runId = runId ∧ evidence.status = .pass ∧ evidence.eligible = true then do
      match ← read (.artifact evidence.validationReportArtifactId) with
      | none => pure false
      | some artifact =>
        if artifact.runId = runId ∧ artifact.artifactKind = "ValidationReport" ∧
            artifact.publicationState = .published ∧
            artifact.contentHash = evidence.validationReportContentHash then
          (reportAgrees evidence artifact).tryCatch fun e =>
            if e.isStorageOrValue then pure false else .raise e
        else pure false
    else pure false

/-- The stages a run cannot succeed without. -/
def ExecutionPlan.requiredStages : List StageSpec :=
  plan.stages.filter fun s => s.required && s.selected

/-- `jobs.get(stage_id)` in the mapping from stage to job: the last one wins. -/
def jobOfStage (jobs : List JobRecord) (stageId : String) : Option JobRecord :=
  jobs.reverse.find? fun j => j.stageId = some stageId

/-- `_maybe_complete_run`: the run has succeeded once all required stages have, with gate evidence.
-/
def maybeCompleteRun : Worker Unit :=
  if plan.requiredStages.any (·.finalValidation) then do
    let jobs ← read (.jobs plan.runId)
    if plan.requiredStages.all fun stage =>
        (jobOfStage jobs stage.stageId).any fun j => j.status = .succeeded then do
      if ← validG6Evidence plan.runId then
        match ← read (.run plan.runId) with
        | none => pure ()
        | some run =>
          if run.status = .cancelled ∨ run.status = .failed then pure ()
          else do
            let _ ← write (.updateRun { run with status := .succeeded } run.revision)
            pure ()
      else setRunStatus plan.runId .blocked false
    else pure ()
  else pure ()

/-- The plan is waiting for a decision without which it cannot go on. -/
def ExecutionPlan.stalledAt (stageId : String) : Bool :=
  !plan.pendingStageIds.isEmpty &&
    (plan.planningPhase = .bootstrap ||
      (plan.planningPhase = .sourceResolved && stageId = "CANONICAL_HYPOTHESES"))

end

/-- The plan a succeeded stage goes on with. -/
def activePlan (env : Env) (cfg : WorkerConfig) (plan : ExecutionPlan) (runId stageId : String) :
    Worker ExecutionPlan :=
  if cfg.planAdvancer then planAdvancerAdvanceAfterStage env.graph runId stageId else pure plan

/-- `_advance_after_stage`: what a finalized stage means for its run. -/
def advanceAfterStage (env : Env) (cfg : WorkerConfig) (plan : ExecutionPlan) (stageId : String)
    (job : JobRecord) : Worker Unit :=
  match job.status with
  | .succeeded => do
    let active ← activePlan env cfg plan job.runId stageId
    if active.stalledAt stageId then setRunStatus job.runId .blocked false
    else do
      let _ ← scheduleReady active (some job.jobId)
      maybeCompleteRun active
  | .needsReview => setRunStatus job.runId .needsReview false
  | .blocked =>
    if (plan.stage stageId).any (·.required) then setRunStatus job.runId .blocked false
    else pure ()
  | .failed =>
    if (plan.stage stageId).any (·.required) then setRunStatus job.runId .failed false
    else pure ()
  | .cancelled => setRunStatus job.runId .cancelled false
  | _ => pure ()

variable (cfg : WorkerConfig)

/-- The lease under which an iteration writes. -/
def leaseOf (job : JobRecord) : Lease :=
  ⟨job.jobId, cfg.workerId, job.leaseGeneration⟩

/-- The review contexts of a result, one transaction each. -/
def registerContexts (runId : String) : List ReviewCompatibilityContext → Worker Unit
  | [] => pure ()
  | context :: rest => do
    let _ ← write (.registerReviewSubjectContext runId context)
    registerContexts runId rest

/-- The attempt as finalization reports it. -/
def closedAttempt (attempt : StageAttemptRecord) (result : StageExecutionResult)
    (status : StageStatus) (outputs : List String) (now : Instant) : StageAttemptRecord :=
  { attempt with
    status := status
    finishedAt := some now
    outputArtifactRefs := outputs
    failureCode := result.failureCode
    failureReason := result.failureReason }

/-- `_finalize`: the status of the job is read off the result, and a transient failure is retried.
-/
def finalize (job : JobRecord) (attempt : StageAttemptRecord) (result : StageExecutionResult)
    (now : Instant) : Worker JobRecord :=
  let finish (attemptStatus : StageStatus) (status : JobStatus) (outputs : List String) :=
    fenced (leaseOf cfg job) (.finalizeStage (closedAttempt attempt result attemptStatus outputs now)
      result status now 0 none)
  match result.status with
  | .succeeded => finish .succeeded .succeeded result.outputArtifactRefs
  | .needsReview =>
    if result.contexts.isEmpty then
      .raise (.platform "review result has no authoritative context")
    else do
      registerContexts job.runId result.contexts
      finish .needsReview .needsReview result.outputArtifactRefs
  | .blocked => finish .blocked .blocked []
  | .cancelled => finish .cancelled .cancelled []
  | .failed =>
    let attempt' := closedAttempt attempt result .failed [] now
    if result.failureClassification = some .retryableTransient ∧
        job.retryCount < cfg.retryPolicy.maxRetries then
      fenced (leaseOf cfg job) (.finalizeStage attempt' result .retryWait now (job.retryCount + 1)
        (some (now.addSeconds (cfg.retryPolicy.delayFor (job.retryCount + 1)))))
    else
      fenced (leaseOf cfg job) (.finalizeStage attempt' result .failed now job.retryCount (some now))

/-- `_finalize_after_record`, and the end of every other path that has a recorded
result. -/
def finalizeAfterRecord (env : Env) (cfg : WorkerConfig) (plan : ExecutionPlan) (stage : StageSpec)
    (job : JobRecord) (attempt : StageAttemptRecord) (result : StageExecutionResult)
    (detail : String) : Worker WorkerOutcome := do
  let t ← now
  let stored ← finalize cfg job attempt result t
  advanceAfterStage env cfg plan stage.stageId stored
  pure (.of stored detail)

/-- Record the result, re-read the attempt for its new revision, and finalize. -/
def recordAndFinalize (env : Env) (cfg : WorkerConfig) (plan : ExecutionPlan) (stage : StageSpec)
    (job : JobRecord) (attempt : StageAttemptRecord) (result : StageExecutionResult)
    (detail : String) : Worker WorkerOutcome := do
  let t ← now
  let _ ← fenced (leaseOf cfg job) (.recordResult attempt result t)
  let refreshed ← read (.stageAttempt attempt.attemptId)
  finalizeAfterRecord env cfg plan stage job
    (refreshed.getD
      { attempt with revision := attempt.revision + 1, deliveryPhase := .resultRecorded })
    result detail

/-- The registered results of the succeeded upstream stages. -/
def artifactsOf : List String → Worker (List ArtifactRef)
  | [] => pure []
  | artifactId :: rest => do
    let artifact ← read (.artifact artifactId)
    let others ← artifactsOf rest
    pure (artifact.toList ++ others)

/-- The results of the dependencies of a review stage, in order. -/
def upstreamArtifacts (runId : String) : List String → Worker (List ArtifactRef)
  | [] => pure []
  | d :: rest => do
    match ← read (.stageJob runId d) with
    | some dependency =>
      if dependency.status = .succeeded then do
        let here ← artifactsOf dependency.resultRefs
        let others ← upstreamArtifacts runId rest
        pure (here ++ others)
      else upstreamArtifacts runId rest
    | none => upstreamArtifacts runId rest

/-- Every context has a current decision that lets it pass. -/
def reviewsAccepted (runId : String) : List ReviewCompatibilityContext → Worker Bool
  | [] => pure true
  | context :: rest => do
    match ← read (.currentReview runId (reviewSubjectKey context)) with
    | none => pure false
    | some current =>
      if (current.decision.decision = .accepted ∨ current.decision.decision = .skipped) ∧
          current.decision.compatibilityErrors context = [] then
        reviewsAccepted runId rest
      else pure false

/-- A review stage that cannot decide. -/
def reviewBlocked (code reason : String) (h : code ≠ "") : StageExecutionResult where
  status := .blocked
  failureCode := some code
  failureClassification := some .blockedPrerequisite
  failureReason := some reason
  valid := by simp [validateResult, h]

/-- The result of a review stage that waits for these contexts: a single one is
stored on its own. -/
def reviewWaiting (context : ReviewCompatibilityContext)
    (rest : List ReviewCompatibilityContext) : StageExecutionResult :=
  if rest.isEmpty then
    { status := .needsReview
      reviewContext := some context
      valid := by simp [validateResult] }
  else
    { status := .needsReview
      reviewContexts := context :: rest
      valid := by simp [validateResult] }

/-- `_review_stage_result`. -/
def reviewStageResult (job : JobRecord) (stage : StageSpec) (checkpoint : ReviewCheckpoint) :
    Worker StageExecutionResult := do
  let upstream ← upstreamArtifacts job.runId (stage.dependencies ++ stage.conditionalDependencies)
  let derivation ← observe (.derive job.runId checkpoint upstream)
  -- a resumed legacy job may already carry a context
  let carried := job.reviewContext.toList.filter fun c => c.reviewCheckpointId = checkpoint
  match (if derivation.1.isEmpty then carried else derivation.1) with
  | [] =>
    pure (reviewBlocked "REVIEW_CONTEXT_UNAVAILABLE"
      (if derivation.2 = "" then
        "authoritative review context could not be derived from typed upstream artifacts"
      else derivation.2) (by decide))
  | context :: rest =>
    if (context :: rest).any fun c => c.reviewCheckpointId ≠ checkpoint then
      pure (reviewBlocked "REVIEW_CONTEXT_INVALID"
        "registered review context names a different checkpoint" (by decide))
    else do
      registerContexts job.runId (context :: rest)
      if ← reviewsAccepted job.runId (context :: rest) then pure { status := .succeeded }
      else pure (reviewWaiting context rest)

/-! ## Running a stage -/

/-- `_verify_outputs`: registered to this attempt, published and intact. -/
def verifyOutputs (job : JobRecord) (attempt : StageAttemptRecord) : List String → Worker Unit
  | [] => pure ()
  | artifactId :: rest => do
    match ← read (.artifact artifactId) with
    | none => .raise (.platform "stage output is not registered to this run, stage and attempt")
    | some artifact =>
      if artifact.runId = job.runId ∧ some artifact.stageId = job.stageId ∧
          artifact.attemptId = attempt.attemptId then
        if artifact.publicationState = .published then do
          let stored ← observe (.stat artifact)
          let integrity ← observe (.verify artifact)
          if stored = artifact ∧ integrity = .verified then verifyOutputs job attempt rest
          else .raise (.platform "stage output failed artifact integrity verification")
        else .raise (.platform "stage output is not published")
      else .raise (.platform "stage output is not registered to this run, stage and attempt")

/-- The probe of a handler: the run or the job is cancelled, or gone. -/
def isCancelled (runId jobId : String) : Worker Bool := do
  let run ← read (.run runId)
  let job ← read (.job jobId)
  pure (!(run.any fun r => r.status ≠ .cancelled) || !(job.any fun j => !j.cancellationRequested))

/-- Without a registry every handler is. -/
def WorkerConfig.handlerAvailable (handlerKey : String) : Bool :=
  cfg.handlers.elim true (·.contains handlerKey)

/-- A failed result whose outcome nobody knows. -/
def unknownOutcome (code reason : String) (metadata : List (String × String)) (h : code ≠ "") :
    StageExecutionResult where
  status := .failed
  failureCode := some code
  failureClassification := some .unknownSideEffect
  failureReason := some reason
  metadata := metadata
  valid := by simp [validateResult, h]

/-- The result of a stage that was cancelled. -/
def cancelledResult (reason : String) : StageExecutionResult where
  status := .cancelled
  failureCode := some "CANCELLATION_REQUESTED"
  failureClassification := some .cancelled
  failureReason := some reason
  valid := by simp [validateResult]

/-- What the handler's result becomes: the lease is extended, a cancellation
overrides it, and outputs must be registered and intact. -/
def handlerResult (job : JobRecord) (attempt : StageAttemptRecord) (handlerKey : String)
    (request : StageExecutionRequest) : Worker StageExecutionResult := do
  let result ← observe (.execute handlerKey request (cfg.handlerAvailable handlerKey))
  let after ← now
  let _ ← fenced (leaseOf cfg job) (.heartbeat after cfg.leaseSeconds)
  if ← isCancelled job.runId job.jobId then
    pure (cancelledResult "cooperative cancellation was observed by the stage boundary")
  else if result.status = .succeeded ∨ result.status = .needsReview then
    ((verifyOutputs job attempt result.outputArtifactRefs).bind fun _ => pure result).tryCatch
      fun e =>
        if e.isStorage then
          pure
            { status := .failed
              failureCode := some "ARTIFACT_INTEGRITY_FAILED"
              failureClassification := some .terminalFailure
              failureReason := some "stage output was not durably registered and verified" }
        else .raise e
  else pure result

/-- What a handler is given. -/
def stageRequest (env : Env) (plan : ExecutionPlan) (stage : StageSpec) (job : JobRecord)
    (attempt : StageAttemptRecord) (run : RunRecord) (generation : Nat) :
    StageExecutionRequest where
  requestId := env.stableId (.stageRequest job.jobId attempt.attemptId)
  jobId := job.jobId
  runId := job.runId
  stageId := stage.stageId
  attemptId := attempt.attemptId
  planId := plan.planId
  configurationFingerprint := run.configurationFingerprint
  policyConfigFingerprint := stage.policyConfigFingerprint
  inputArtifactRefs := attempt.inputArtifactRefs
  cancellationTokenId := env.stableId (.cancelToken job.runId job.jobId generation)
  handlerKey := stage.handlerKey

/-- The delivery of a stage to its handler.  An exception of the handler that is not a platform
error leaves the outcome unknown; a platform error ends the iteration. -/
def deliver (env : Env) (cfg : WorkerConfig) (plan : ExecutionPlan) (stage : StageSpec)
    (job : JobRecord) (attempt : StageAttemptRecord) (run : RunRecord) (claimedAt : Instant) :
    Worker WorkerOutcome := do
  setRunStatus job.runId .running false
  let refreshed ← fenced (leaseOf cfg job) (.heartbeat claimedAt cfg.leaseSeconds)
  let t ← now
  let _ ← fenced (leaseOf cfg job) (.markHandlerDeliveryStarted t)
  let marked ← read (.stageAttempt attempt.attemptId)
  let attempt' := marked.getD
    { attempt with revision := attempt.revision + 1, deliveryPhase := .handlerDeliveryStarted }
  let result ← (handlerResult cfg job attempt' stage.handlerKey
      (stageRequest env plan stage job attempt run refreshed.leaseGeneration)).tryCatch fun e =>
    if e.isPlatform then .raise e
    else pure (unknownOutcome "STAGE_OUTCOME_UNKNOWN"
      "stage execution outcome is unknown after worker delivery" [("error_type", e.typeName)]
      (by decide))
  recordAndFinalize env cfg plan stage job attempt' result
    ("stage " ++ stage.stageId ++ " finalized")

/-- The part of `_run_stage` for a stage that is in the plan: its early exits, in
order, and the delivery. -/
def runPlannedStage (env : Env) (cfg : WorkerConfig) (plan : ExecutionPlan) (stage : StageSpec)
    (job : JobRecord) (attempt : StageAttemptRecord) (claimedAt : Instant) :
    Worker WorkerOutcome := do
  if ← dependenciesSucceeded plan stage.stageId then
    match ← read (.run job.runId) with
    | none =>
      let stored ← finalize cfg job attempt
        (cancelledResult "run cancellation was observed before stage execution") claimedAt
      pure (.of stored "stage cancelled before execution")
    | some run =>
      if job.cancellationRequested = true ∨ run.status = .cancelled then do
        let stored ← finalize cfg job attempt
          (cancelledResult "run cancellation was observed before stage execution") claimedAt
        pure (.of stored "stage cancelled before execution")
      else
        match job.deliveryPhase with
        | .resultRecorded =>
          finalizeAfterRecord env cfg plan stage job attempt
            (job.durableResult.getD (unknownOutcome "RECONCILIATION_REQUIRED"
              "durable result marker has no durable result payload" [] (by decide)))
            ("stage " ++ stage.stageId ++ " finalized from durable result")
        | .reconciliationRequired =>
          finalizeAfterRecord env cfg plan stage job attempt
            (unknownOutcome "RECONCILIATION_REQUIRED"
              "durable handler outcome requires reconciliation" [] (by decide))
            "handler outcome requires reconciliation"
        | phase =>
          match stage.reviewCheckpoint with
          | some checkpoint => do
            let result ← reviewStageResult job stage checkpoint
            recordAndFinalize env cfg plan stage job attempt result
              ("review checkpoint " ++ stage.stageId ++ " finalized")
          | none =>
            if phase = .handlerDeliveryStarted ∧ job.replaySafety ≠ .replaySafe then
              recordAndFinalize env cfg plan stage job attempt
                (unknownOutcome "RECONCILIATION_REQUIRED"
                  "handler delivery began without a durable result; blind replay is forbidden" []
                  (by decide))
                "unknown handler outcome requires reconciliation"
            else deliver env cfg plan stage job attempt run claimedAt
  else do
    let stored ← finalize cfg job attempt
      (reviewBlocked "PREREQUISITE_NOT_SUCCEEDED"
        "one or more authoritative stage prerequisites are not succeeded" (by decide)) claimedAt
    setRunStatus job.runId .blocked false
    pure (.of stored "stage prerequisite blocked")

/-- `_run_stage`.  Everything after the re-reading of the job uses the generation found there. -/
def runStage (env : Env) (cfg : WorkerConfig) (claimed : JobRecord) (claimedAt : Instant) :
    Worker WorkerOutcome := do
  let plan ← read (.executionPlan claimed.runId)
  let attempt ← fenced (leaseOf cfg claimed) (.ensureAttempt claimedAt)
  match ← read (.job claimed.jobId) with
  | none => .raise (.platform "stage job disappeared after attempt creation")
  | some job =>
    match plan, plan.bind (·.stage (claimed.stageId.getD "")) with
    | some plan, some stage => runPlannedStage env cfg plan stage job attempt claimedAt
    | _, _ => do
      let stored ← finalize cfg job attempt
        (reviewBlocked "EXECUTION_PLAN_UNAVAILABLE" "stage plan is unavailable at worker start"
          (by decide)) claimedAt
      pure (.of stored "stage plan unavailable")

/-! ## Running a command -/

/-- Why the contexts of a waiting job do not yet allow it to be resumed. -/
def reviewBlocker (runId : String) : List ReviewCompatibilityContext → Worker (Option String)
  | [] => pure none
  | context :: rest => do
    match ← read (.reviewSubjectContext runId context.reviewCheckpointId
        context.subjectArtifactId) with
    | none => pure (some "authoritative review context is unavailable")
    | some authoritative =>
      match ← read (.artifact context.subjectArtifactId) with
      | none => pure (some "review subject artifact changed or is unavailable")
      | some subject =>
        if subject.runId = runId then do
          let intact ← ((observe (.verify subject)).bind fun integrity =>
            (observe (.stat subject)).bind fun stored =>
              (pure (decide (stored = subject ∧ integrity = .verified)) : Worker Bool)).tryCatch
            fun e => if e.isStorage then pure false else .raise e
          if intact then do
            match ← read (.currentReview runId (reviewSubjectKey authoritative)) with
            | none => pure (some "compatible accepted review is required before resume")
            | some current =>
              if current.decision.decision = .accepted ∨ current.decision.decision = .skipped then
                if current.decision.compatibilityErrors authoritative = [] then
                  reviewBlocker runId rest
                else pure (some "current review is stale or incompatible")
              else pure (some "compatible accepted review is required before resume")
          else pure (some "review subject artifact changed or is unavailable")
        else pure (some "review subject artifact changed or is unavailable")

/-- Why a listed job is not resumed; `none` if it is, `some none` if it is not a
candidate at all. -/
def resumeBlocker (runId : String) (plan : ExecutionPlan) (candidate : JobRecord) :
    Worker (Option (Option String)) :=
  if candidate.jobKind = .stage then
    match candidate.status with
    | .needsReview =>
      if candidate.contexts.isEmpty then pure (some (some "review context is unavailable"))
      else do
        let blocker ← reviewBlocker runId candidate.contexts
        pure (blocker.map some)
    | .blocked =>
      match plan.stage (candidate.stageId.getD "") with
      | none =>
        pure (some (some "blocked prerequisite or stage capability remains unavailable"))
      | some stage =>
        if cfg.handlerAvailable stage.handlerKey then do
          if ← dependenciesSucceeded plan stage.stageId then pure none
          else pure (some (some "stage prerequisites are not resolved"))
        else pure (some (some "blocked prerequisite or stage capability remains unavailable"))
    | .failed =>
      if candidate.failureClassification = some .unknownSideEffect then
        pure (some (some
          "unknown side effect outcome requires reconciliation; blind retry is forbidden"))
      else pure none
    | _ => pure (some none)
  else pure (some none)

/-- The loop of `_resume_command`: how many were resumed, and the last reason for which one was not.
-/
def resumeCandidates (cfg : WorkerConfig) (runId : String) (plan : ExecutionPlan)
    (claimedAt : Instant) : List JobRecord → Nat → String → Worker (Nat × String)
  | [], resumed, reason => pure (resumed, reason)
  | candidate :: rest, resumed, reason => do
    match ← resumeBlocker cfg runId plan candidate with
    | some blocked =>
      resumeCandidates cfg runId plan claimedAt rest resumed (blocked.getD reason)
    | none =>
      let _ ← write (.resumeJob candidate.jobId claimedAt)
      resumeCandidates cfg runId plan claimedAt rest (resumed + 1) reason

variable (job : JobRecord) (claimedAt : Instant)

/-- `_finalize_command_blocked`, for any blocked command. -/
def finalizeCommandBlocked (detail code outcome : String) : Worker WorkerOutcome := do
  let stored ← fenced (leaseOf cfg job) (.finalizeCommand .blocked claimedAt detail (some code)
    (some .blockedPrerequisite))
  pure (.of stored outcome)

/-- A command that was carried out. -/
def finalizeCommandSucceeded (detail outcome : String) : Worker WorkerOutcome := do
  let stored ← fenced (leaseOf cfg job) (.finalizeCommand .succeeded claimedAt detail none none)
  pure (.of stored outcome)

/-- `_resume_command`: every stage job that may go on is queued, then the run reactivated. -/
def resumeCommand : Worker WorkerOutcome := do
  let run? ← read (.run job.runId)
  let plan? ← read (.executionPlan job.runId)
  match run?, plan? with
  | some run, some plan =>
    if run.status = .cancelled ∨ run.status = .succeeded then
      finalizeCommandBlocked cfg job claimedAt "terminal runs cannot be resumed"
        "ILLEGAL_RESUME_TERMINAL_RUN" "terminal runs cannot be resumed"
    else do
      let jobs ← read (.jobs run.runId)
      let (resumed, reason) ← resumeCandidates cfg run.runId plan claimedAt jobs 0
        "no resumable stage is currently authorized"
      if resumed = 0 then
        finalizeCommandBlocked cfg job claimedAt reason "RESUME_NOT_AUTHORIZED" reason
      else do
        setRunStatus run.runId .running true
        finalizeCommandSucceeded cfg job claimedAt
          ("authorized " ++ toString resumed ++ " new stage attempt(s)") "resume authorized"
  | _, _ =>
    finalizeCommandBlocked cfg job claimedAt "resume requires an existing durable execution plan"
      "EXECUTION_PLAN_UNAVAILABLE" "resume requires an existing durable execution plan"

/-- The `SUBMIT` branch of `_run_command`. -/
def submitCommand : Worker WorkerOutcome := do
  match ← read (.executionPlan job.runId) with
  | none =>
    setRunStatus job.runId .blocked false
    finalizeCommandBlocked cfg job claimedAt "no durable execution plan is registered"
      "EXECUTION_PLAN_UNAVAILABLE" "execution plan unavailable"
  | some plan =>
    let scheduled ← scheduleReady plan (some job.jobId)
    if scheduled = 0 then do
      setRunStatus job.runId .blocked false
      finalizeCommandBlocked cfg job claimedAt "execution plan has no runnable root stage"
        "NO_RUNNABLE_ROOT_STAGE" "no runnable root stage"
    else
      finalizeCommandSucceeded cfg job claimedAt
        ("scheduled " ++ toString scheduled ++ " authoritative stage boundary jobs")
        "execution plan scheduled"

/-- `_run_command`. -/
def runCommand : Worker WorkerOutcome :=
  match job.action.getD .submit with
  | .cancel => do
    let _ ← write (.requestRunCancellation job.runId claimedAt)
    finalizeCommandSucceeded cfg job claimedAt "run cancellation was durably recorded"
      "cancellation recorded"
  | .resume => resumeCommand cfg job claimedAt
  | .submit => submitCommand cfg job claimedAt

/-- `run_once`, from the job it claimed. -/
def runClaimed (env : Env) (cfg : WorkerConfig) (job : JobRecord) (claimedAt : Instant) :
    Worker WorkerOutcome :=
  match job.jobKind with
  | .command => runCommand cfg job claimedAt
  | .stage => runStage env cfg job claimedAt

end DirtyDataOlap

import DirtyDataOlap.WorkerChecks
import DirtyDataOlap.ActionOrder

/-!
# How a worker writes the status of a run

In a worker iteration the status of a run is written right after the run was read, under the
revision that was read, by `_set_run_status` and `_maybe_complete_run` only.  `StatusRule`: a run
found `FAILED` is reactivated only by a resume command of its own, and never completed; but it may
be blocked, sent to review, or cancelled.
-/
namespace DirtyDataOlap

open Prog
open Worker

/-- **What may be written to a run found `FAILED`.** -/
def StatusRule (resumes : Option String) : Option (Answered Act.Reply Exc) → Act → Prop
  | prev, .write (.updateRun new revision) =>
    ∃ runId run, prev = some ⟨.read (.run runId), .ok (some run)⟩ ∧ run.revision = revision ∧
      new.runId = run.runId ∧
      (run.status = .failed → new.status = .needsReview ∨ new.status = .blocked ∨
        new.status = .cancelled ∨ (new.status = .running ∧ resumes = some runId))
  | _, _ => True

/-- A run is found under its own identity. -/
def LikelyReply : Answered Act.Reply Exc → Prop
  | ⟨.read (.run runId), r⟩ => ∀ run, r = .ok (some run) → run.runId = runId
  | _ => True

abbrev StatusOrderly {α : Type} (resumes : Option String) (p : Worker α) : Prop :=
  p.Orderly (StatusRule resumes) LikelyReply none

section Rules
variable {α β : Type} {resumes : Option String}

theorem statusRule_permissive : Prog.Permissive (StatusRule resumes) := by
  intro prev a h
  unfold StatusRule at h ⊢
  split
  · obtain ⟨_, _, hprev, _⟩ := h
    cases hprev
  · trivial

theorem StatusOrderly.bind {p : Worker α} {f : α → Worker β} (hp : StatusOrderly resumes p)
    (hf : ∀ a, StatusOrderly resumes (f a)) : StatusOrderly resumes (p.bind f) :=
  orderly_bind statusRule_permissive hp hf

theorem StatusOrderly.tryCatch {p : Worker α} {f : Exc → Worker α} (hp : StatusOrderly resumes p)
    (hf : ∀ e, StatusOrderly resumes (f e)) : StatusOrderly resumes (p.tryCatch f) :=
  orderly_tryCatch statusRule_permissive hp hf

theorem statusOrderly_read (q : Query) : StatusOrderly resumes (read q) :=
  orderly_call trivial

theorem statusOrderly_observe (o : Observation) : StatusOrderly resumes (observe o) :=
  orderly_call trivial

theorem statusOrderly_fenced (l : Lease) (op : FencedOp) : StatusOrderly resumes (fenced l op) :=
  orderly_call trivial

theorem statusOrderly_now : StatusOrderly resumes now := statusOrderly_observe _

theorem statusOrderly_checks {p : Worker α} {Q : α → Prop} (h : p.Only Act.Checks Q) :
    StatusOrderly resumes p := by
  induction p with
  | done r => trivial
  | act a k ih =>
    refine ⟨?_, fun r _ => (ih r (h.2 r)).after statusRule_permissive _⟩
    cases a with
    | write w => exact h.1.1.elim
    | _ => trivial

/-- A run that is read is the one that was asked for. -/
theorem StatusOrderly.readRun {runId : String} {f : Option RunRecord → Worker α}
    (hf : ∀ run, (∀ r, run = some r → r.runId = runId) → StatusOrderly resumes (f run)) :
    StatusOrderly resumes ((read (.run runId)).bind f) := by
  refine ⟨trivial, fun r hr => ?_⟩
  cases r with
  | error e => trivial
  | ok run =>
    refine Prog.Orderly.after statusRule_permissive (hf run ?_) _
    rintro _ rfl
    exact hr _ rfl

end Rules

/-! ## The writers -/

variable {resumes : Option String}

/-- **`_set_run_status` is orderly**; it reactivates a run only if it is allowed to. -/
theorem statusOrderly_setRunStatus (runId : String) {status : RunStatus} {allow : Bool}
    (hstatus : status ≠ .succeeded) (hcreated : status ≠ .created)
    (hallow : allow = true → resumes = some runId) :
    StatusOrderly resumes (setRunStatus runId status allow) := by
  refine ⟨trivial, fun r _ => ?_⟩
  cases r with
  | error e => trivial
  | ok run =>
    cases run with
    | none => trivial
    | some run =>
      change Prog.Orderly _ _ _ (if _ then _ else _)
      split
      · trivial
      split
      · trivial
      split
      · trivial
      rename_i hguard hsame
      refine orderly_tryCatch statusRule_permissive
        (orderly_bind statusRule_permissive (orderly_call ?_) fun _ => trivial) ?_
      · refine ⟨runId, run, rfl, rfl, rfl, fun hfailed => ?_⟩
        cases status with
        | needsReview => exact .inl rfl
        | blocked => exact .inr (.inl rfl)
        | cancelled => exact .inr (.inr (.inl rfl))
        | running =>
          refine .inr (.inr (.inr ⟨rfl, hallow ?_⟩))
          by_contra hno
          exact hguard ⟨.inl hfailed, rfl, by simpa using hno⟩
        | failed => exact absurd hfailed hsame
        | succeeded => exact absurd rfl hstatus
        | created => exact absurd rfl hcreated
      · intro e
        cases e
        case concurrencyConflict detail =>
          refine StatusOrderly.bind (statusOrderly_read _) fun latest => ?_
          cases latest with
          | none => trivial
          | some latest =>
            dsimp only
            split
            · trivial
            · trivial
        all_goals trivial

theorem statusOrderly_write {w : Write} (h : ∀ run revision, w ≠ .updateRun run revision) :
    StatusOrderly resumes (write w) := by
  refine orderly_call ?_
  cases w with
  | updateRun run revision => exact absurd rfl (h run revision)
  | advanceExecutionPlan => trivial
  | enqueueStageJob => trivial
  | requestRunCancellation => trivial
  | resumeJob => trivial
  | registerReviewSubjectContext => trivial

theorem statusOrderly_advancePlan (current candidate : ExecutionPlan) :
    StatusOrderly resumes (advancePlan current candidate) := by
  unfold advancePlan
  split
  · trivial
  refine (statusOrderly_write (by simp)).tryCatch fun e => ?_
  cases e
  case concurrencyConflict detail =>
    refine (statusOrderly_read _).bind fun latest => ?_
    cases latest <;> trivial
  all_goals trivial

theorem statusOrderly_ofExcept {α : Type} (r : Except Exc α) :
    StatusOrderly resumes (ofExcept r) := trivial

theorem statusOrderly_planAdvancer (graph : StageGraph) (runId stageId : String) :
    StatusOrderly resumes (planAdvancerAdvanceAfterStage graph runId stageId) := by
  have hadvance : ∀ (current : ExecutionPlan) (candidate : Except Exc ExecutionPlan),
      StatusOrderly resumes ((ofExcept candidate).bind fun c => advancePlan current c) :=
    fun current candidate => (statusOrderly_ofExcept candidate).bind fun c =>
      statusOrderly_advancePlan current c
  refine (statusOrderly_read _).bind fun current => (statusOrderly_read _).bind fun run => ?_
  split
  · split
    · refine (statusOrderly_observe _).bind fun selection => ?_
      cases selection with
      | none => exact hadvance _ _
      | some selection => exact hadvance _ _
    split
    · refine (statusOrderly_observe _).bind fun selection => ?_
      cases selection with
      | none => exact hadvance _ _
      | some selection => exact hadvance _ _
    · trivial
  · trivial

theorem statusOrderly_scheduleStages (plan : ExecutionPlan) (parentJobId : Option String)
    (stages : List StageSpec) (count : Nat) :
    StatusOrderly resumes (scheduleStages plan parentJobId stages count) := by
  induction stages generalizing count with
  | nil => trivial
  | cons stage rest ih =>
    unfold scheduleStages
    split
    swap
    · exact ih _
    refine (statusOrderly_checks (only_dependenciesSucceeded _)).bind fun ready => ?_
    split
    swap
    · exact ih _
    refine (statusOrderly_read _).bind fun existing => ?_
    cases existing with
    | some job => exact ih _
    | none =>
      exact statusOrderly_now.bind fun t =>
        (statusOrderly_write (by simp)).bind fun _ => ih _

theorem statusOrderly_scheduleReady (plan : ExecutionPlan) (parentJobId : Option String) :
    StatusOrderly resumes (scheduleReady plan parentJobId) :=
  statusOrderly_scheduleStages _ _ _ _

/-- **`_maybe_complete_run` is orderly**: it does not complete a run found `FAILED`. -/
theorem statusOrderly_maybeCompleteRun (plan : ExecutionPlan) :
    StatusOrderly resumes (maybeCompleteRun plan) := by
  unfold maybeCompleteRun
  split
  swap
  · trivial
  refine (statusOrderly_read _).bind fun jobs => ?_
  split
  swap
  · trivial
  refine (statusOrderly_checks only_validG6Evidence).bind fun valid => ?_
  split
  swap
  · exact statusOrderly_setRunStatus _ (by simp) (by simp) (by simp)
  refine ⟨trivial, fun r _ => ?_⟩
  cases r with
  | error e => trivial
  | ok run =>
    cases run with
    | none => trivial
    | some run =>
      change Prog.Orderly _ _ _ (if _ then _ else _)
      split
      · trivial
      rename_i hst
      refine orderly_bind statusRule_permissive (orderly_call ?_) fun _ => trivial
      exact ⟨_, run, rfl, rfl, rfl, fun hfailed => absurd (.inr hfailed) hst⟩

theorem statusOrderly_advanceAfterStage (env : Env) (cfg : WorkerConfig) (plan : ExecutionPlan)
    (stageId : String) (job : JobRecord) :
    StatusOrderly resumes (advanceAfterStage env cfg plan stageId job) := by
  have hset : ∀ {status : RunStatus}, status ≠ .succeeded → status ≠ .created →
      StatusOrderly resumes (setRunStatus job.runId status false) :=
    fun hs hc => statusOrderly_setRunStatus _ hs hc (by simp)
  have hactive : StatusOrderly resumes (activePlan env cfg plan job.runId stageId) := by
    unfold activePlan
    split
    · exact statusOrderly_planAdvancer _ _ _
    · trivial
  unfold advanceAfterStage
  split
  · refine hactive.bind fun active => ?_
    split
    · exact hset (by simp) (by simp)
    · exact (statusOrderly_scheduleReady _ _).bind fun _ => statusOrderly_maybeCompleteRun _
  · exact hset (by simp) (by simp)
  · split
    · exact hset (by simp) (by simp)
    · trivial
  · split
    · exact hset (by simp) (by simp)
    · trivial
  · exact hset (by simp) (by simp)
  · trivial

/-! ## Stages -/

theorem statusOrderly_registerContexts (runId : String) (cs : List ReviewCompatibilityContext) :
    StatusOrderly resumes (registerContexts runId cs) := by
  induction cs with
  | nil => trivial
  | cons c rest ih => exact (statusOrderly_write (by simp)).bind fun _ => ih

theorem statusOrderly_finalize (cfg : WorkerConfig) (job : JobRecord)
    (attempt : StageAttemptRecord) (result : StageExecutionResult) (now : Instant) :
    StatusOrderly resumes (finalize cfg job attempt result now) := by
  unfold finalize
  split
  · exact statusOrderly_fenced _ _
  · split
    · trivial
    · exact (statusOrderly_registerContexts _ _).bind fun _ => statusOrderly_fenced _ _
  · exact statusOrderly_fenced _ _
  · exact statusOrderly_fenced _ _
  · split
    · exact statusOrderly_fenced _ _
    · exact statusOrderly_fenced _ _

section
variable (env : Env) (cfg : WorkerConfig) (plan : ExecutionPlan) (stage : StageSpec)
  (job : JobRecord) (attempt : StageAttemptRecord) (result : StageExecutionResult) (detail : String)
include env cfg plan stage job attempt result detail

theorem statusOrderly_finalizeAfterRecord :
    StatusOrderly resumes (finalizeAfterRecord env cfg plan stage job attempt result detail) :=
  statusOrderly_now.bind fun _ => (statusOrderly_finalize _ _ _ _ _).bind fun _ =>
    (statusOrderly_advanceAfterStage _ _ _ _ _).bind fun _ => trivial

theorem statusOrderly_recordAndFinalize :
    StatusOrderly resumes (recordAndFinalize env cfg plan stage job attempt result detail) :=
  statusOrderly_now.bind fun _ => (statusOrderly_fenced _ _).bind fun _ =>
    (statusOrderly_read _).bind fun _ => statusOrderly_finalizeAfterRecord _ _ _ _ _ _ _ _

end

theorem statusOrderly_reviewStageResult (job : JobRecord) (stage : StageSpec)
    (checkpoint : ReviewCheckpoint) :
    StatusOrderly resumes (reviewStageResult job stage checkpoint) := by
  refine (statusOrderly_checks (only_upstreamArtifacts _)).bind fun upstream =>
    (statusOrderly_observe _).bind fun derivation => ?_
  dsimp only
  split
  · trivial
  · split
    · trivial
    · refine (statusOrderly_registerContexts _ _).bind fun _ =>
        (statusOrderly_checks (only_reviewsAccepted _)).bind fun accepted => ?_
      split <;> trivial

theorem statusOrderly_handlerResult (cfg : WorkerConfig) (job : JobRecord)
    (attempt : StageAttemptRecord) (handlerKey : String) (request : StageExecutionRequest) :
    StatusOrderly resumes (handlerResult cfg job attempt handlerKey request) := by
  refine (statusOrderly_observe _).bind fun result => statusOrderly_now.bind fun _ =>
    (statusOrderly_fenced _ _).bind fun _ => ?_
  refine ((statusOrderly_read _).bind fun _ => (statusOrderly_read _).bind fun _ =>
    trivial : StatusOrderly resumes (isCancelled job.runId job.jobId)).bind fun cancelled => ?_
  split
  · trivial
  split
  · have hverify : StatusOrderly resumes
        ((verifyOutputs job attempt result.outputArtifactRefs).bind fun _ => pure result) :=
      (statusOrderly_checks (only_verifyOutputs _ _ _)).bind fun _ => trivial
    refine hverify.tryCatch fun e => ?_
    split <;> trivial
  · trivial

section
variable (env : Env) (cfg : WorkerConfig) (plan : ExecutionPlan) (stage : StageSpec)
  (job : JobRecord) (attempt : StageAttemptRecord)
include env cfg plan stage job attempt

theorem statusOrderly_deliver (run : RunRecord) (claimedAt : Instant) :
    StatusOrderly resumes (deliver env cfg plan stage job attempt run claimedAt) := by
  refine (statusOrderly_setRunStatus _ (by simp) (by simp) (by simp)).bind fun _ =>
    (statusOrderly_fenced _ _).bind fun _ => statusOrderly_now.bind fun _ =>
    (statusOrderly_fenced _ _).bind fun _ => (statusOrderly_read _).bind fun _ => ?_
  refine StatusOrderly.bind ?_ fun _ => statusOrderly_recordAndFinalize _ _ _ _ _ _ _ _
  refine (statusOrderly_handlerResult _ _ _ _ _).tryCatch fun e => ?_
  split <;> trivial

theorem statusOrderly_runPlannedStage (claimedAt : Instant) :
    StatusOrderly resumes (runPlannedStage env cfg plan stage job attempt claimedAt) := by
  refine (statusOrderly_checks (only_dependenciesSucceeded _)).bind fun ready => ?_
  split
  swap
  · exact (statusOrderly_finalize _ _ _ _ _).bind fun _ =>
      (statusOrderly_setRunStatus _ (by simp) (by simp) (by simp)).bind fun _ => trivial
  refine (statusOrderly_read _).bind fun run => ?_
  cases run with
  | none => exact (statusOrderly_finalize _ _ _ _ _).bind fun _ => trivial
  | some run =>
    dsimp only
    split
    · exact (statusOrderly_finalize _ _ _ _ _).bind fun _ => trivial
    split
    · exact statusOrderly_finalizeAfterRecord _ _ _ _ _ _ _ _
    · exact statusOrderly_finalizeAfterRecord _ _ _ _ _ _ _ _
    · split
      · exact (statusOrderly_reviewStageResult _ _ _).bind fun _ =>
          statusOrderly_recordAndFinalize _ _ _ _ _ _ _ _
      · split
        · exact statusOrderly_recordAndFinalize _ _ _ _ _ _ _ _
        · exact statusOrderly_deliver _ _ _ _ _ _ _ _

end

theorem statusOrderly_runStage (env : Env) (cfg : WorkerConfig) (claimed : JobRecord)
    (claimedAt : Instant) : StatusOrderly resumes (runStage env cfg claimed claimedAt) := by
  refine (statusOrderly_read _).bind fun plan => (statusOrderly_fenced _ _).bind fun attempt =>
    (statusOrderly_read _).bind fun job => ?_
  cases job with
  | none => trivial
  | some job =>
    dsimp only
    split
    · exact statusOrderly_runPlannedStage _ _ _ _ _ _ _
    · exact (statusOrderly_finalize _ _ _ _ _).bind fun _ => trivial

section
variable (cfg : WorkerConfig)
include cfg

theorem statusOrderly_resumeCandidates (runId : String)
    (plan : ExecutionPlan) (claimedAt : Instant) (candidates : List JobRecord) (resumed : Nat)
    (reason : String) :
    StatusOrderly resumes (resumeCandidates cfg runId plan claimedAt candidates resumed reason) := by
  induction candidates generalizing resumed reason with
  | nil => trivial
  | cons candidate rest ih =>
    refine (statusOrderly_checks (only_resumeBlocker _)).bind fun blocked => ?_
    cases blocked with
    | some blocked => exact ih _ _
    | none => exact (statusOrderly_write (by simp)).bind fun _ => ih _ _

variable (job : JobRecord) (claimedAt : Instant)

theorem statusOrderly_finalizeCommandBlocked (detail code outcome : String) :
    StatusOrderly resumes (finalizeCommandBlocked cfg job claimedAt detail code outcome) :=
  (statusOrderly_fenced _ _).bind fun _ => trivial

theorem statusOrderly_finalizeCommandSucceeded (detail outcome : String) :
    StatusOrderly resumes (finalizeCommandSucceeded cfg job claimedAt detail outcome) :=
  (statusOrderly_fenced _ _).bind fun _ => trivial

/-- **A resume command reactivates its own run.** -/
theorem statusOrderly_resumeCommand (hresumes : resumes = some job.runId) :
    StatusOrderly resumes (resumeCommand cfg job claimedAt) := by
  refine StatusOrderly.readRun fun run hrun => (statusOrderly_read _).bind fun plan => ?_
  split
  swap
  · exact statusOrderly_finalizeCommandBlocked _ _ _ _ _ _
  rename_i run plan
  have hid : run.runId = job.runId := hrun run rfl
  split
  · exact statusOrderly_finalizeCommandBlocked _ _ _ _ _ _
  refine (statusOrderly_read _).bind fun jobs =>
    (statusOrderly_resumeCandidates _ _ _ _ _ _ _).bind fun reply => ?_
  obtain ⟨resumed, reason⟩ := reply
  dsimp only
  split
  · exact statusOrderly_finalizeCommandBlocked _ _ _ _ _ _
  · refine (statusOrderly_setRunStatus _ (by simp) (by simp) fun _ => ?_).bind fun _ =>
      statusOrderly_finalizeCommandSucceeded _ _ _ _ _
    rw [hresumes, hid]

theorem statusOrderly_submitCommand : StatusOrderly resumes (submitCommand cfg job claimedAt) := by
  refine (statusOrderly_read _).bind fun plan => ?_
  cases plan with
  | none =>
    exact (statusOrderly_setRunStatus _ (by simp) (by simp) (by simp)).bind fun _ =>
      statusOrderly_finalizeCommandBlocked _ _ _ _ _ _
  | some plan =>
    refine (statusOrderly_scheduleReady _ _).bind fun scheduled => ?_
    split
    · exact (statusOrderly_setRunStatus _ (by simp) (by simp) (by simp)).bind fun _ =>
        statusOrderly_finalizeCommandBlocked _ _ _ _ _ _
    · exact statusOrderly_finalizeCommandSucceeded _ _ _ _ _

end

/-- The run that an iteration serving the job may reactivate. -/
def JobRecord.resumedRun (job : JobRecord) : Option String :=
  if job.jobKind = .command ∧ job.action.getD .submit = .resume then some job.runId else none

/-- **Every iteration is orderly**: only that of a resume command reactivates, and
only the run of the command. -/
theorem statusOrderly_runClaimed (env : Env) (cfg : WorkerConfig) (job : JobRecord)
    (claimedAt : Instant) : StatusOrderly job.resumedRun (runClaimed env cfg job claimedAt) := by
  unfold runClaimed
  split
  · rename_i hkind
    unfold runCommand
    split
    · exact (statusOrderly_write (by simp)).bind fun _ =>
        statusOrderly_finalizeCommandSucceeded _ _ _ _ _
    · rename_i haction
      exact statusOrderly_resumeCommand _ _ _ (if_pos ⟨hkind, haction⟩)
    · exact statusOrderly_submitCommand _ _ _
  · exact statusOrderly_runStage _ _ _ _

end DirtyDataOlap

import DirtyDataOlap.ControlStore
import DirtyDataOlap.Resumption

/-!
# What a worker does, one action at a time

A worker iteration **reads** the control store (`Query`), **observes** something outside it
(`Observation`), **writes** the store under its lease (`FencedOp`), or without one (`Write`);
`claim` starts it.  Nothing is assumed about what is outside (`Input`).
-/
namespace DirtyDataOlap

open Store

/-- What the control plane is deployed with. -/
structure Env where
  /-- `stable_id`. -/
  stableId : StableKey → String
  /-- `docs/architecture/specs/stage_graph.yml`. -/
  graph : StageGraph

/-- The reads of the control store. -/
inductive Query
  | run (runId : String)
  | executionPlan (runId : String)
  | job (jobId : String)
  | stageJob (runId stageId : String)
  | jobs (runId : String)
  | stageAttempt (attemptId : String)
  | artifact (artifactId : String)
  | reviewSubjectContext (runId : String) (checkpoint : ReviewCheckpoint) (artifactId : String)
  | currentReview (runId subjectKey : String)
  | gateEvidence (gateId runId : String)

abbrev Query.Reply : Query → Type
  | run _ => Option RunRecord
  | executionPlan _ => Option ExecutionPlan
  | job _ => Option JobRecord
  | stageJob _ _ => Option JobRecord
  | jobs _ => List JobRecord
  | stageAttempt _ => Option StageAttemptRecord
  | artifact _ => Option ArtifactRef
  | reviewSubjectContext _ _ _ => Option ReviewCompatibilityContext
  | currentReview _ _ => Option ReviewRecord
  | gateEvidence _ _ => Option GateEvidence

/-- The answer of the store. -/
def Query.eval (s : Store) : (q : Query) → q.Reply
  | run runId => s.getRun runId
  | executionPlan runId => s.getExecutionPlan runId
  | job jobId => s.getJob jobId
  | stageJob runId stageId => s.getStageJob runId stageId
  | jobs runId => s.listJobs runId 10000
  | stageAttempt attemptId => s.getStageAttempt attemptId
  | artifact artifactId => s.getArtifact artifactId
  | reviewSubjectContext runId checkpoint artifactId =>
    s.getReviewSubjectContext runId checkpoint artifactId
  | currentReview runId subjectKey => s.getCurrentReview runId subjectKey
  | gateEvidence gateId runId => s.getGateEvidence gateId runId

/-- What a worker asks of the world outside the control store. -/
inductive Observation
  /-- `_safe_now(self.clock)`. -/
  | clock
  | stat (artifact : ArtifactRef)
  | verify (artifact : ArtifactRef)
  /-- Read the bytes of the artifact and decode them as a validation report. -/
  | report (artifact : ArtifactRef)
  /-- `ReviewSubjectDerivationPort.derive`. -/
  | derive (runId : String) (checkpoint : ReviewCheckpoint) (upstream : List ArtifactRef)
  /-- `ServerOwnedExecutionPlanSelectionResolver.resolve`. -/
  | resolve (runId : String) (intent : ExecutionPlanIntent) (requireHypothesis : Bool)
      (stageIds : Option (List String))
  /-- `_execute`: the stage handler is invoked; `available` unless a registry of
  handlers has none for the key. -/
  | execute (handlerKey : String) (request : StageExecutionRequest) (available : Bool)

abbrev Observation.Reply : Observation → Type
  | clock => Instant
  | stat _ => ArtifactRef
  | verify _ => ArtifactIntegrityState
  | report _ => ValidationReport
  | derive _ _ _ => List ReviewCompatibilityContext × String
  | resolve _ _ _ _ => Option ExecutionPlanSelection
  | execute _ _ _ => StageExecutionResult

/-- The answers of the world at one instant. -/
structure Input where
  clock : Instant := 0
  stat : Except Exc ArtifactRef := .error .key
  verify : Except Exc ArtifactIntegrityState := .ok .verified
  report : Except Exc ValidationReport := .error .key
  derivation : Except Exc (List ReviewCompatibilityContext × String) := .ok ([], "")
  resolution : Except Exc (Option ExecutionPlanSelection) := .ok none
  handler : Except Exc StageExecutionResult := .ok { status := .succeeded }

/-- What `MissingStageHandler` returns. -/
def missingStageHandler (stageId : String) : StageExecutionResult where
  status := .blocked
  failureCode := some "STAGE_HANDLER_UNAVAILABLE"
  failureClassification := some .blockedPrerequisite
  failureReason := some "no project-owned handler is registered for this stage"
  metadata := [("stage_id", stageId)]

def Observation.answer (ω : Input) : (o : Observation) → Except Exc o.Reply
  | clock => .ok ω.clock
  | stat _ => ω.stat
  | verify _ => ω.verify
  | report _ => ω.report
  | derive _ _ _ => ω.derivation
  | resolve _ _ _ _ => ω.resolution
  | execute _ request available =>
    if available then ω.handler else .ok (missingStageHandler request.stageId)

/-- What a worker presents to mutate a claimed job. -/
structure Lease where
  jobId : String
  workerId : String
  generation : Nat

/-- The mutations of a claimed job. -/
inductive FencedOp
  | heartbeat (now : Instant) (leaseSeconds : Nat)
  | ensureAttempt (now : Instant)
  | markHandlerDeliveryStarted (now : Instant)
  | recordResult (attempt : StageAttemptRecord) (result : StageExecutionResult) (now : Instant)
  | finalizeStage (attempt : StageAttemptRecord) (result : StageExecutionResult)
      (status : JobStatus) (now : Instant) (retryCount : Nat) (availableAt : Option Instant)
  | finalizeCommand (status : JobStatus) (now : Instant) (detail : String)
      (failureCode : Option String) (failureClassification : Option FailureClassification)

abbrev FencedOp.Reply : FencedOp → Type
  | ensureAttempt _ => StageAttemptRecord
  | heartbeat _ _ => JobRecord
  | markHandlerDeliveryStarted _ => JobRecord
  | recordResult _ _ _ => JobRecord
  | finalizeStage _ _ _ _ _ _ => JobRecord
  | finalizeCommand _ _ _ _ _ => JobRecord

/-- The method of the store behind a fenced mutation. -/
def FencedOp.txn (stableId : StableKey → String) (l : Lease) : (op : FencedOp) → Txn op.Reply
  | heartbeat now leaseSeconds => heartbeatJob l.jobId l.workerId l.generation now leaseSeconds
  | ensureAttempt now => ensureStageAttempt stableId l.jobId l.workerId l.generation now
  | markHandlerDeliveryStarted now =>
    Store.markHandlerDeliveryStarted l.jobId l.workerId l.generation now
  | recordResult attempt result now =>
    recordStageResult l.jobId l.workerId l.generation attempt result now
  | finalizeStage attempt result status now retryCount availableAt =>
    finalizeStageJob l.jobId l.workerId l.generation attempt result status now retryCount
      availableAt
  | finalizeCommand status now detail failureCode failureClassification =>
    finalizeCommandJob l.jobId l.workerId l.generation status now detail failureCode
      failureClassification

/-- The writes that present no lease. -/
inductive Write
  | updateRun (run : RunRecord) (expectedRevision : Nat)
  | advanceExecutionPlan (plan : ExecutionPlan) (expectedContentHash : PlanData)
  | enqueueStageJob (runId planId stageId : String) (parentJobId : Option String)
      (availableAt : Instant)
  | requestRunCancellation (runId : String) (now : Instant)
  | resumeJob (jobId : String) (now : Instant)
  | registerReviewSubjectContext (runId : String) (context : ReviewCompatibilityContext)

abbrev Write.Reply : Write → Type
  | updateRun _ _ => RunRecord
  | advanceExecutionPlan _ _ => ExecutionPlan
  | enqueueStageJob _ _ _ _ _ => JobRecord
  | requestRunCancellation _ _ => RunRecord
  | resumeJob _ _ => JobRecord
  | registerReviewSubjectContext _ _ => ReviewCompatibilityContext

/-- The method of the store behind an unfenced write. -/
def Write.txn (stableId : StableKey → String) : (w : Write) → Txn w.Reply
  | updateRun run expectedRevision => Store.updateRun run expectedRevision
  | advanceExecutionPlan plan expectedContentHash =>
    Store.advanceExecutionPlan plan expectedContentHash
  | enqueueStageJob runId planId stageId parentJobId availableAt =>
    Store.enqueueStageJob stableId runId planId stageId parentJobId availableAt
  | requestRunCancellation runId now => Store.requestRunCancellation runId now
  | resumeJob jobId now => Store.resumeJob jobId now
  | registerReviewSubjectContext runId context =>
    Store.registerReviewSubjectContext runId context

/-- Everything a worker does. -/
inductive Act
  | claim (workerId : String) (now : Instant) (leaseSeconds maxActivePerRun maxActivePerSource : Nat)
  | read (q : Query)
  | observe (o : Observation)
  | fenced (l : Lease) (op : FencedOp)
  | write (w : Write)

abbrev Act.Reply : Act → Type
  | claim _ _ _ _ _ => Option JobRecord
  | read q => q.Reply
  | observe o => o.Reply
  | fenced _ op => op.Reply
  | write w => w.Reply

/-- The request with which the action invokes a handler. -/
def Act.execution : Act → Option StageExecutionRequest
  | observe (.execute _ request _) => some request
  | _ => none

theorem Act.execution_eq_some {a : Act} {request : StageExecutionRequest} :
    a.execution = some request ↔
      ∃ handlerKey available, a = .observe (.execute handlerKey request available) := by
  unfold Act.execution
  split
  · constructor
    · rintro ⟨⟩
      exact ⟨_, _, rfl⟩
    · rintro ⟨_, _, heq⟩
      cases heq
      rfl
  · rename_i hne
    constructor
    · intro h
      cases h
    · rintro ⟨key, available, rfl⟩
      exact absurd rfl (hne key request available)

/-- **The meaning of the actions.** -/
def exec (env : Env) : (a : Act) → Input → Store → Except Exc a.Reply × Store
  | .claim workerId now leaseSeconds maxActivePerRun maxActivePerSource, _, s =>
    Txn.commit (claimNextJob workerId now leaseSeconds maxActivePerRun maxActivePerSource) s
  | .read q, _, s => (.ok (q.eval s), s)
  | .observe o, ω, s => (o.answer ω, s)
  | .fenced l op, _, s => (op.txn env.stableId l).commit s
  | .write w, _, s => (w.txn env.stableId).commit s

abbrev Worker := Prog Act.Reply Exc

namespace Worker

def read (q : Query) : Worker q.Reply := Prog.call (R := Act.Reply) (.read q)

def observe (o : Observation) : Worker o.Reply := Prog.call (R := Act.Reply) (.observe o)

def fenced (l : Lease) (op : FencedOp) : Worker op.Reply :=
  Prog.call (R := Act.Reply) (.fenced l op)

def write (w : Write) : Worker w.Reply := Prog.call (R := Act.Reply) (.write w)

/-- A computation that may raise. -/
def ofExcept {α : Type} (r : Except Exc α) : Worker α := .done r

/-- `_safe_now(self.clock)`. -/
def now : Worker Instant := observe .clock

end Worker
end DirtyDataOlap

import DirtyDataOlap.ClientOperations

/-!
# The contract of a worker iteration

What an iteration may assume of the others, and what it promises; the instance of `Contract` for the
worker system.

The **invariant** is the store invariant together with the history (`epoch` counts the advances of a
plan).  An iteration **relies** on the store evolving, and on nobody changing what its own lease
covers (`Store.Held`); it **assumes**, if `x` says so, that its worker has not claimed the job again
when it re-reads it (`Uncontested`); it **guarantees** `Sound` of every action, the facts that the
transaction does not check; and it **ends** with a job for every stage that it released (`Settled`),
as long as the worker uses the current plan (`y`).
-/
namespace DirtyDataOlap

open Store

/-- An action with its reply. -/
abbrev Record := Entry Act.Reply Exc Store

/-! ## What a lease covers -/

/-- The row was held under the lease, at the same point of delivery. -/
structure JobRecord.Held (l : Lease) (row row' : JobRecord) : Prop where
  holds : holds l.workerId l.generation row = true
  phase : row'.deliveryPhase = row.deliveryPhase
  attemptId : row'.attemptId = row.attemptId
  durableResult : row'.durableResult = row.durableResult

namespace Store

/-- If the lease holds the job in the later store, it held it all along. -/
def Held (l : Lease) (s s' : Store) : Prop :=
  ∀ row', s'.getJob l.jobId = some row' → holds l.workerId l.generation row' = true →
    ∃ row, s.getJob l.jobId = some row ∧ row.Held l row'

variable {l : Lease} {s s' s'' : Store}

theorem Held.refl (l : Lease) (s : Store) : s.Held l s :=
  fun row h hh => ⟨row, h, hh, rfl, rfl, rfl⟩

theorem Held.trans (h1 : Held l s s') (h2 : Held l s' s'') : Held l s s'' := by
  intro row'' hrow'' hholds
  obtain ⟨row', hrow', hh'⟩ := h2 row'' hrow'' hholds
  obtain ⟨row, hrow, hh⟩ := h1 row' hrow' hh'.holds
  exact ⟨row, hrow, hh.holds, hh'.phase.trans hh.phase, hh'.attemptId.trans hh.attemptId,
    hh'.durableResult.trans hh.durableResult⟩

theorem Held.of_jobs (h : s'.jobs = s.jobs) : Held l s s' := by
  intro row hrow hh
  refine ⟨row, ?_, hh, rfl, rfl, rfl⟩
  unfold getJob at hrow ⊢
  rw [← h]
  exact hrow

theorem Held.updateJob {jobId : String} {f : JobRecord → JobRecord}
    {hf : ∀ r, (f r).jobId = r.jobId} {row : JobRecord} (hrow : s.getJob jobId = some row)
    (h : l.jobId = jobId → holds l.workerId l.generation (f row) = true →
      row.Held l (f row)) : Held l s (s.updateJob jobId f hf) := by
  intro row' hrow' hh
  rw [getJob_updateJob] at hrow'
  by_cases hid : l.jobId = jobId
  · rw [if_pos hid, hid, hrow] at hrow'
    cases hrow'
    exact ⟨row, by rw [hid]; exact hrow, h hid hh⟩
  · rw [if_neg hid] at hrow'
    exact ⟨row', hrow', hh, rfl, rfl, rfl⟩

theorem Held.insertJob {j : JobRecord} (h : s.insertJob j = .ok s') (hq : j.status = .queued) :
    Held l s s' := by
  obtain ⟨jobs, hjobs, rfl⟩ := insertJob_ok h
  intro row' hrow' hh
  change jobs.find? l.jobId = some row' at hrow'
  rw [Table.find?_insert? hjobs] at hrow'
  cases hold : s.jobs.find? l.jobId with
  | some old =>
    rw [hold, Option.some_or] at hrow'
    cases hrow'
    exact ⟨row', hold, hh, rfl, rfl, rfl⟩
  | none =>
    rw [hold, Option.none_or] at hrow'
    split at hrow'
    · cases hrow'
      exact absurd (hq.symm.trans (holds_iff.mp hh).1) (by simp)
    · cases hrow'

theorem JobsKept.held (h : s.JobsKept s') : Held l s s' := by
  intro row' hrow' hh
  rcases h _ row' hrow' with hrow | ⟨_, hq, _⟩
  · exact ⟨row', hrow, hh, rfl, rfl, rfl⟩
  · exact absurd (hq.symm.trans (holds_iff.mp hh).1) (by simp)

end Store

/-- What an iteration with lease `l` presents: a lease on its job, for its worker, and
of no other generation that could be in force now or later. -/
structure Presents (x : Prop) (l : Lease) (s : Store) (lease : Lease) : Prop where
  jobId : lease.jobId = l.jobId
  workerId : lease.workerId = l.workerId
  own : x → ∀ s', s.Evolves s' → ∀ row, s'.getJob l.jobId = some row →
    holds l.workerId lease.generation row = true → lease.generation = l.generation

theorem Presents.refl (x : Prop) (l : Lease) (s : Store) : Presents x l s l :=
  ⟨rfl, rfl, fun _ _ _ _ _ _ => rfl⟩

theorem Presents.mono {x : Prop} {l lease : Lease} {s s' : Store} (h : s.Evolves s')
    (hp : Presents x l s lease) : Presents x l s' lease :=
  ⟨hp.jobId, hp.workerId, fun hx s'' hev => hp.own hx s'' (h.trans hev)⟩

/-- Where the presented lease is in force, it is the iteration's own. -/
theorem Presents.holds {x : Prop} {l lease : Lease} {s : Store} {row : JobRecord}
    (hp : Presents x l s lease) (hx : x) (hrow : s.getJob l.jobId = some row)
    (hh : holds lease.workerId lease.generation row = true) :
    holds l.workerId l.generation row = true := by
  rw [hp.workerId] at hh
  rw [← hp.own hx s (.refl s) row hrow hh]
  exact hh

namespace Store
variable {s s' : Store}

def Knows (graph : StageGraph) (s : Store) (p : ExecutionPlan) : Prop :=
  p.InPhase graph ∧ ∃ q, s.getExecutionPlan p.runId = some q ∧ p.Evolves q

/-- The hard and the selected conditional dependencies of the stage have
succeeded. -/
def Satisfied (s : Store) (p : ExecutionPlan) (st : StageSpec) : Prop :=
  (∀ d ∈ st.dependencies, s.StageSucceeded p.runId d) ∧
    ∀ d ∈ st.conditionalDependencies, (p.stage d).any (·.selected) = true →
      s.StageSucceeded p.runId d

/-- The stage of the stored plan is selected and its dependencies have succeeded. -/
def Ready (s : Store) (runId stageId : String) : Prop :=
  ∃ p st, s.getExecutionPlan runId = some p ∧ p.stage stageId = some st ∧ st.selected = true ∧
    s.Satisfied p st

theorem Knows.mono {graph : StageGraph} (h : s.Evolves s') {p : ExecutionPlan}
    (hk : s.Knows graph p) : s'.Knows graph p := by
  obtain ⟨hphase, q, hq, he⟩ := hk
  obtain ⟨q', hq', he'⟩ := h.getExecutionPlan hq
  exact ⟨hphase, q', hq', he.trans he'⟩

theorem Knows.of_stored {graph : StageGraph} (hi : s.Inv graph) {runId : String} {p : ExecutionPlan}
    (hp : s.getExecutionPlan runId = some p) : s.Knows graph p := by
  obtain ⟨hmem, hrun⟩ := getExecutionPlan_spec hp
  exact ⟨hi.phases p hmem, p, by rw [hrun]; exact hp, .refl p⟩

theorem Satisfied.mono (h : s.Evolves s') {p : ExecutionPlan} {st : StageSpec}
    (hs : s.Satisfied p st) : s'.Satisfied p st :=
  ⟨fun d hd => (hs.1 d hd).mono h, fun d hd hsel => (hs.2 d hd hsel).mono h⟩

end Store

/-- A stage without a dependency that counts. -/
def ExecutionPlan.Root (p : ExecutionPlan) (st : StageSpec) : Prop :=
  st.dependencies = [] ∧ ∀ d ∈ st.conditionalDependencies, (p.stage d).any (·.selected) = false

/-- The action is an advance that gave the plan of the run other stages. -/
def Record.changesPlan (runId : String) : Record → Bool
  | ⟨_, .write (.advanceExecutionPlan plan expected), .ok _, _⟩ =>
    plan.runId = runId && plan.stages ≠ expected.stages
  | _ => false

/-- How often the stages of the plan of the run have changed. -/
def epoch (runId : String) (trace : List Record) : Nat :=
  trace.countP (Record.changesPlan runId)

theorem epoch_le {runId : String} {t t' : List Record} (h : t <:+ t') :
    epoch runId t ≤ epoch runId t' := h.sublist.countP_le

/-- The reply tells the state: a read was answered from the state it was made in,
and a mutation of a delivery returned the row it left. -/
def Record.Faithful : Record → Prop
  | ⟨_, .read q, r, s⟩ => r = .ok (q.eval s)
  | ⟨_, .fenced lease (.markHandlerDeliveryStarted _), .ok row, s⟩ =>
    s.getJob lease.jobId = some row ∧ row.status = .running ∧
      row.deliveryPhase = .handlerDeliveryStarted
  | ⟨_, .fenced lease (.recordResult attempt result _), .ok row, s⟩ =>
    s.getJob lease.jobId = some row ∧ row.status = .running ∧
      row.deliveryPhase = .resultRecorded ∧ row.attemptId = some attempt.attemptId ∧
      row.durableResult = some result
  | ⟨_, .fenced lease (.finalizeStage _ _ _ _ _ _), .ok row, s⟩ =>
    s.getJob lease.jobId = some row
  | _ => True

/-- What the trace says about the state. -/
structure History (c : Scene) : Prop where
  evolves : ∀ e ∈ c.trace, e.after.Evolves c.state
  faithful : ∀ e ∈ c.trace, Record.Faithful e
  plans : ∀ runId e t, (e :: t) <:+ c.trace → epoch runId (e :: t) < epoch runId c.trace ∨
    ∀ p, e.after.getExecutionPlan runId = some p →
      ∃ q, c.state.getExecutionPlan runId = some q ∧ q.stages = p.stages

/-- The invariant of the worker system. -/
structure Coherent (graph : StageGraph) (c : Scene) : Prop where
  inv : c.state.Inv graph
  history : History c

/-- The action released the stage: it completed its dependencies, or brought it
into the plan with its dependencies completed. -/
def Record.Releases (runId stageId : String) : Record → Prop
  | ⟨_, .fenced _ (.finalizeStage _ _ _ _ _ _), .ok stored, after⟩ =>
    stored.status = .succeeded ∧ stored.runId = runId ∧ ∃ d p st, stored.stageId = some d ∧
      after.getExecutionPlan runId = some p ∧ p.stage stageId = some st ∧ st.selected = true ∧
      after.Satisfied p st ∧ d ∈ st.dependencies ++ st.conditionalDependencies
  | ⟨_, .write (.advanceExecutionPlan plan expected), .ok _, after⟩ =>
    plan.runId = runId ∧ plan.stages ≠ expected.stages ∧ after.Ready runId stageId
  | _ => False

section

variable (i : Nat)

/-- Every stage that an action of iteration `i` released has a job, unless the
plan has changed since. -/
def Settled (c : Scene) : Prop :=
  ∀ e t runId stageId, (e :: t) <:+ c.trace → e.tid = i → Record.Releases runId stageId e →
    epoch runId (e :: t) < epoch runId c.trace ∨ c.state.HasStageJob runId stageId

/-! ## What an iteration knows when it acts -/

/-- The action gave the iteration its attempt. -/
def Record.ensuresAttempt : Record → Bool
  | ⟨_, .fenced _ (.ensureAttempt _), .ok _, _⟩ => true
  | _ => false

/-- Iteration `i` is about to re-read its job: the last thing it did was to get its
attempt. -/
def Rereads (c : Scene) : Prop :=
  (c.trace.find? fun e => e.tid = i).any Record.ensuresAttempt = true

/-- If iteration `i` is about to re-read its job, its worker has not claimed the job
again. -/
def Uncontested (l : Lease) (c : Scene) : Prop :=
  Rereads i c → ∀ row, c.state.getJob l.jobId = some row →
    row.leaseOwner = some l.workerId → row.leaseGeneration = l.generation

/-- The handler is invoked: for a stage of a plan the iteration has read, whose
dependencies have succeeded, with the inputs of its attempt; the run was not
cancelled when the iteration looked, the delivery was marked, and it is the first. -/
structure SoundExecute (x : Prop) (i : Nat) (l : Lease) (c : Scene)
    (request : StageExecutionRequest) : Prop where
  job : request.jobId = l.jobId
  plan : ∃ plan stage, c.Did i (.read (.executionPlan request.runId)) (.ok (some plan)) ∧
    plan.runId = request.runId ∧ plan.stage request.stageId = some stage ∧
    c.state.Satisfied plan stage
  attempt : ∃ a, c.state.getStageAttempt request.attemptId = some a ∧ a.runId = request.runId ∧
    a.stageId = request.stageId ∧ a.inputArtifactRefs = request.inputArtifactRefs
  run : ∃ run, c.Did i (.read (.run request.runId)) (.ok (some run)) ∧ run.status ≠ .cancelled
  marked : ∃ lease t row, c.Did i (.fenced lease (.markHandlerDeliveryStarted t)) (.ok row) ∧
    lease.jobId = l.jobId ∧ (x → row.attemptId = some request.attemptId)
  once : ∀ key request' available,
    ∀ r, ¬ c.Did i (.observe (.execute key request' available)) r

/-- A result is recorded: its outputs count only if they are published, no other
result has been recorded, and only a handler may call a result unknown that has
not failed. -/
structure SoundRecord (x : Prop) (i : Nat) (l : Lease) (c : Scene)
    (attempt : StageAttemptRecord) (result : StageExecutionResult) : Prop where
  outputs : ∀ row, c.state.getJob l.jobId = some row → row.status = .running →
    row.attemptId = some attempt.attemptId → result.status = .succeeded →
    c.state.GoodOutputs row.runId row.stageId attempt.attemptId result.outputArtifactRefs
  first : x → ∀ row, c.state.getJob l.jobId = some row →
    holds l.workerId l.generation row = true → row.deliveryPhase ≠ .resultRecorded
  unknown : result.failureClassification = some .unknownSideEffect → result.status = .failed ∨
    ∃ key request available, c.Did i (.observe (.execute key request available)) (.ok result)

def FinalStatus (result : StageExecutionResult) (status : JobStatus) : Prop :=
  match result.status with
  | .succeeded => status = .succeeded
  | .needsReview => status = .needsReview
  | .blocked => status = .blocked
  | .cancelled => status = .cancelled
  | .failed => status = .failed ∨
    (status = .retryWait ∧ result.failureClassification = some .retryableTransient)

/-- A job is finalized: under the conditions of the invariant, and with the
recorded result if there is one, unless a cancellation or a missing prerequisite
was seen first. -/
structure SoundFinalize (x : Prop) (l : Lease) (c : Scene) (attempt : StageAttemptRecord)
    (result : StageExecutionResult) (status : JobStatus) : Prop where
  ok : ∀ row, c.state.getJob l.jobId = some row → row.status = .running →
    row.attemptId = some attempt.attemptId → c.state.FinalizeOk row attempt result status
  status : FinalStatus result status
  recorded : x → ∀ row, c.state.getJob l.jobId = some row →
    holds l.workerId l.generation row = true → row.deliveryPhase = .resultRecorded →
    row.durableResult = some result ∨ result.status = .cancelled ∨
      (result.status = .blocked ∧ result.failureCode = some "PREREQUISITE_NOT_SUCCEEDED")

/-- A command is finalized: a submission only once every root stage of the plan it
has read has a job. -/
structure SoundCommand (l : Lease) (c : Scene) (status : JobStatus) (failureCode : Option String) :
    Prop where
  kind : ∀ row, c.state.getJob l.jobId = some row → row.jobKind = .command
  status : status ≠ .running
  submitted : failureCode ≠ some "EXECUTION_PLAN_UNAVAILABLE" →
    ∀ row, c.state.getJob l.jobId = some row → row.action.getD .submit = .submit →
    ∃ plan, c.Did i (.read (.executionPlan row.runId)) (.ok (some plan)) ∧
      plan.runId = row.runId ∧ ∀ st ∈ plan.stages, st.selected = true → plan.Root st →
        c.state.HasStageJob row.runId st.stageId

/-- The mutations under a lease. -/
def SoundOp (x : Prop) (i : Nat) (l : Lease) (c : Scene) : FencedOp → Prop
  | .heartbeat _ _ | .ensureAttempt _ => True
  | .markHandlerDeliveryStarted _ => x → ∀ row, c.state.getJob l.jobId = some row →
    holds l.workerId l.generation row = true → row.deliveryPhase ≠ .resultRecorded ∧
      (row.deliveryPhase = .handlerDeliveryStarted → row.replaySafety = .replaySafe)
  | .recordResult attempt result _ => SoundRecord x i l c attempt result
  | .finalizeStage attempt result status _ _ _ => SoundFinalize x l c attempt result status
  | .finalizeCommand status _ _ failureCode _ => SoundCommand i l c status failureCode

/-- The gate evidence of the run passed, and agreed with a published report that
iteration `i` found intact. -/
structure GatePassed (c : Scene) (runId : String) (g : GateEvidence) (a : ArtifactRef) : Prop where
  evidence : c.state.getGateEvidence "G6_DATA_CORRECTNESS" runId = some g
  artifact : c.state.getArtifact g.validationReportArtifactId = some a
  passed : g.runId = runId ∧ g.status = .pass ∧ g.eligible = true
  published : a.runId = runId ∧ a.artifactKind = "ValidationReport" ∧
    a.publicationState = .published ∧ a.contentHash = g.validationReportContentHash
  stat : c.Did i (.observe (.stat a)) (.ok a)
  verified : c.Did i (.observe (.verify a)) (.ok .verified)
  report : ∃ report, c.Did i (.observe (.report a)) (.ok report) ∧
    report.runId = g.validationReportRunId ∧ report.reportId = g.validationReportId ∧
    report.g6Status = g.status ∧ report.g6Eligible = true

/-- The plan of the run is complete, has a final validation, and all its required
stages have succeeded. -/
def Store.PlanSucceeded (s : Store) (runId : String) : Prop :=
  ∃ p, s.getExecutionPlan runId = some p ∧ p.planningPhase = .complete ∧
    (∃ st ∈ p.stages, st.required = true ∧ st.selected = true ∧ st.finalValidation = true) ∧
    ∀ st ∈ p.stages, st.required = true → st.selected = true → s.StageSucceeded runId st.stageId

/-- Iteration `i` finalized a stage job of the run as `stored`, and that is
cancelled. -/
def FinalizedCancelled (c : Scene) (runId : String) (stored : JobRecord) : Prop :=
  stored.status = .cancelled ∧ stored.runId = runId ∧
    ∃ lease attempt result status now retries availableAt,
      c.Did i (.fenced lease (.finalizeStage attempt result status now retries availableAt))
        (.ok stored)

/-- Iteration `i` finalized a stage job of the run as cancelled, and afterwards
read the run at this revision. -/
def ReadCancelled (c : Scene) (runId : String) (revision : Nat) : Prop :=
  ∃ stored read s t, (⟨i, .read (.run runId), .ok (some read), s⟩ :: t) <:+ c.trace ∧
    FinalizedCancelled i ⟨s, t⟩ runId stored ∧ read.revision = revision

structure SoundUpdateRun (c : Scene) (run : RunRecord) (revision : Nat) : Prop where
  ok : c.state.UpdateRunOk run revision
  succeeded : run.status = .succeeded → c.state.PlanSucceeded run.runId ∧
    ∃ g a, GatePassed i c run.runId g a
  cancelled : run.status = .cancelled → ReadCancelled i c run.runId revision

/-- A job is resumed: it was listed as a stage whose outcome is known. -/
def SoundResume (c : Scene) (jobId : String) : Prop :=
  ∃ runId listed, c.Did i (.read (.jobs runId)) (.ok listed) ∧ ∃ candidate ∈ listed,
    candidate.jobId = jobId ∧ candidate.jobKind = .stage ∧
    (candidate.status = .needsReview ∨ candidate.status = .blocked ∨
      (candidate.status = .failed ∧ candidate.failureClassification ≠ some .unknownSideEffect))

end

/-- The writes without a lease. -/
def SoundWrite (graph : StageGraph) (i : Nat) (c : Scene) : Write → Prop
  | .updateRun run revision => SoundUpdateRun i c run revision
  | .advanceExecutionPlan plan expected => plan.InPhase graph ∧
    ∀ p, c.state.getExecutionPlan plan.runId = some p → p.contentHash = expected → p.Evolves plan
  | .enqueueStageJob runId planId stageId _ _ => (c.state.getRun runId).isSome ∧
    ∀ p st, c.state.getExecutionPlan runId = some p → p.planId = planId →
      p.stage stageId = some st → ∀ d ∈ st.dependencies, c.state.StageSucceeded runId d
  | .requestRunCancellation _ _ => True
  | .resumeJob jobId _ => SoundResume i c jobId
  | .registerReviewSubjectContext _ _ => True

/-- **What an iteration guarantees** of each of its actions. -/
def Sound (graph : StageGraph) (x : Prop) (i : Nat) (l : Lease) (c : Scene) : Act → Prop
  | .claim _ _ _ _ _ => False
  | .read _ => True
  | .observe (.execute _ request _) => SoundExecute x i l c request
  | .observe _ => True
  | .fenced lease op => Presents x l c.state lease ∧ SoundOp x i l c op
  | .write w => SoundWrite graph i c w

/-- The configuration has moved on: the store evolved, and what iteration `i`
itself did satisfies `A`. -/
structure Quiet (x : Prop) (A : Act → Prop) (i : Nat) (l : Lease) (c c' : Scene) : Prop where
  evolves : c.state.Evolves c'.state
  trace : ∃ new, c'.trace = new ++ c.trace ∧ ∀ e ∈ new, e.tid = i → A e.act
  held : x → Store.Held l c.state c'.state

def contract (graph : StageGraph) (x y : Prop) :
    Contract Act.Reply Exc Store Lease WorkerOutcome where
  inv := Coherent graph
  rely := Quiet x fun _ => False
  assume i l c := x → Uncontested i l c
  guar i l c a _ _ := Sound graph x i l c a
  post i _ r c := y → ∀ v, r = .ok v → Settled i c

end DirtyDataOlap

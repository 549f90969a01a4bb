import DirtyDataOlap.StoreEvolution

/-!
# What each transaction of the control store does

For every method of the store, what its success means: the conditions it checked,
the value it returned and the next store, stated once.  Nothing after this module
unfolds a method.
-/
namespace DirtyDataOlap

open Store

theorem Txn.commit_cases {β : Type} (t : Txn β) (s : Store) :
    (∃ b s', t s = .ok (b, s') ∧ t.commit s = (.ok b, s')) ∨
      (∃ e, t s = .error e ∧ t.commit s = (.error e, s)) := by
  unfold Txn.commit
  cases t s with
  | ok v => exact .inl ⟨v.1, v.2, rfl, rfl⟩
  | error e => exact .inr ⟨e, rfl, rfl⟩

namespace Store
variable {s s' : Store}

variable {now : Instant} {workerId : String} {generation : Nat} {jobId : String} {r : JobRecord}
  {runId : String} {stableId : StableKey → String} {attempt : StageAttemptRecord}
  {result : StageExecutionResult} {status : JobStatus} {availableAt : Option Instant}

theorem holds_iff {j : JobRecord} : holds workerId generation j = true ↔
      j.status = .running ∧ j.leaseOwner = some workerId ∧ j.leaseGeneration = generation := by
  simp [holds, and_assoc]

theorem nextJob_spec {maxRun maxSource : Nat} {row : JobRecord}
    (h : s.nextJob now maxRun maxSource = some row) : s.getJob row.jobId = some row ∧
      claimable now row = true ∧ s.admitted now maxRun maxSource row = true := by
  have hmem : row ∈ (s.jobs.rows.filter fun j => claimable now j &&
      s.admitted now maxRun maxSource j).insertionSort claimOrder :=
    List.mem_of_mem_head? h
  rw [List.mem_insertionSort, List.mem_filter, Bool.and_eq_true] at hmem
  exact ⟨mem_jobs_iff.mp hmem.1, hmem.2⟩

theorem claimNextJob_ok {leaseSeconds maxRun maxSource : Nat} {r : Option JobRecord}
    (h : claimNextJob workerId now leaseSeconds maxRun maxSource s = .ok (r, s')) :
    (r = none ∧ s' = s) ∨ ∃ row, s.getJob row.jobId = some row ∧ claimable now row = true ∧
      r = some (claimRow workerId now leaseSeconds row) ∧
      s' = s.updateJob row.jobId (claimRow workerId now leaseSeconds) := by
  obtain ⟨_, _, h⟩ := bind_eq_ok.mp h
  cases hn : s.nextJob now maxRun maxSource with
  | none =>
    rw [hn] at h
    cases h
    exact .inl ⟨rfl, rfl⟩
  | some row =>
    rw [hn] at h
    cases h
    obtain ⟨hrow, hclaim, _⟩ := nextJob_spec hn
    exact .inr ⟨row, hrow, hclaim, rfl, rfl⟩

def heartbeatRow (now : Instant) (leaseSeconds : Nat) (r : JobRecord) : JobRecord :=
  { r with
    leaseExpiresAt := some (now.addSeconds leaseSeconds)
    heartbeatAt := some now
    revision := r.revision + 1 }

theorem heartbeatJob_ok {leaseSeconds : Nat}
    (h : heartbeatJob jobId workerId generation now leaseSeconds s = .ok (r, s')) :
    ∃ row, s.getJob jobId = some row ∧ holds workerId generation row = true ∧
      r = heartbeatRow now leaseSeconds row ∧
      s' = s.updateJob jobId (heartbeatRow now leaseSeconds) := by
  unfold heartbeatJob at h
  split at h
  · rename_i row hrow
    split at h
    · rename_i hc
      cases h
      rw [Bool.and_eq_true] at hc
      exact ⟨row, hrow, hc.1, rfl, rfl⟩
    · cases h
  · cases h

theorem leaseRow_ok {row : JobRecord} (h : s.leaseRow jobId workerId generation now = .ok row) :
    s.getJob jobId = some row ∧ holds workerId generation row = true ∧
      unexpired now row = true := by
  unfold leaseRow at h
  split at h
  · cases h
  · rename_i row' hrow
    split at h
    · split at h
      · rename_i hh hu
        cases h
        exact ⟨hrow, hh, hu⟩
      · cases h
    · cases h

/-! ## Stage attempts -/

/-- `ensure_stage_attempt` returns the attempt of the row, or creates one. -/
theorem ensureStageAttempt_ok {a : StageAttemptRecord}
    (h : ensureStageAttempt stableId jobId workerId generation now s = .ok (a, s')) :
    ∃ row, s.getJob jobId = some row ∧ row.jobKind = .stage ∧ holds workerId generation row = true ∧
      ((row.attemptId = some a.attemptId ∧ s.getStageAttempt a.attemptId = some a ∧ s' = s) ∨
        (row.attemptId = none ∧ ∃ plan stage s1, row.planId.bind s.plans.find? = some plan ∧
          plan.stage (row.stageId.getD "None") = some stage ∧
          a = newAttempt stableId s row stage now ∧ s.insertAttempt a = .ok s1 ∧
          s' = s1.updateJob jobId fun r =>
            { r with attemptId := some a.attemptId, revision := r.revision + 1 })) := by
  unfold ensureStageAttempt at h
  split at h
  · cases h
  rename_i row hrow
  split at h
  swap
  · cases h
  rename_i hfence
  split at h
  swap
  · cases h
  refine ⟨row, hrow, hfence.1, hfence.2, ?_⟩
  split at h
  · rename_i attemptId hatt
    split at h
    · rename_i attempt hget
      cases h
      have hid := getStageAttempt_attemptId hget
      exact .inl ⟨by rw [hatt, hid], by rw [hid]; exact hget, rfl⟩
    · cases h
  · rename_i hatt
    split at h
    · cases h
    rename_i plan hplan
    split at h
    · cases h
    rename_i stage hstage
    cases hins : s.insertAttempt (newAttempt stableId s row stage now) with
    | error e => simp only [hins, Except.map] at h; cases h
    | ok s1 =>
      simp only [hins, Except.map] at h
      cases h
      exact .inr ⟨hatt, plan, stage, s1, hplan, hstage, rfl, hins, rfl⟩

theorem ensureStageAttempt_row {a : StageAttemptRecord}
    (h : ensureStageAttempt stableId jobId workerId generation now s = .ok (a, s')) :
    ∃ row, s'.getJob jobId = some row ∧ row.status = .running ∧
      row.attemptId = some a.attemptId ∧ s'.getStageAttempt a.attemptId = some a := by
  obtain ⟨row, hrow, _, hh, ⟨hatt, hget, rfl⟩ | ⟨_, _, _, s1, _, _, _, hins, rfl⟩⟩ :=
    ensureStageAttempt_ok h
  · exact ⟨row, hrow, (holds_iff.mp hh).1, hatt, hget⟩
  · obtain ⟨attempts, hattempts, rfl⟩ := insertAttempt_ok hins
    refine ⟨_, getJob_updateJob_self (s := { s with attempts }) hrow, (holds_iff.mp hh).1, rfl, ?_⟩
    change attempts.find? a.attemptId = some a
    rw [Table.find?_insert? hattempts, Table.insert?_fresh hattempts]
    simp

def markRow (r : JobRecord) : JobRecord :=
  { r with deliveryPhase := .handlerDeliveryStarted, revision := r.revision + 1 }

def markAttempt (a : StageAttemptRecord) : StageAttemptRecord :=
  { a with deliveryPhase := .handlerDeliveryStarted, revision := a.revision + 1 }

theorem markHandlerDeliveryStarted_ok
    (h : markHandlerDeliveryStarted jobId workerId generation now s = .ok (r, s')) :
    ∃ row attemptId, s.getJob jobId = some row ∧ holds workerId generation row = true ∧
      row.jobKind = .stage ∧ row.attemptId = some attemptId ∧
      (s.getStageAttempt attemptId).isSome ∧ r = markRow row ∧
      s' = (s.updateAttempt attemptId markAttempt).updateJob jobId markRow := by
  obtain ⟨row, hrow, h⟩ := bind_eq_ok.mp h
  obtain ⟨hget, hh, _⟩ := leaseRow_ok hrow
  split at h
  · cases h
  rename_i attemptId hatt
  obtain ⟨_, hkind, h⟩ := bind_eq_ok.mp h
  obtain ⟨_, hsome, h⟩ := bind_eq_ok.mp h
  cases h
  exact ⟨row, attemptId, hget, hh, by simpa using hkind, hatt, by simpa using hsome, rfl, rfl⟩

def recordRow (result : StageExecutionResult) (r : JobRecord) : JobRecord :=
  { r with
    deliveryPhase := .resultRecorded
    durableResult := some result
    revision := r.revision + 1 }

def recordAttempt (a : StageAttemptRecord) : StageAttemptRecord :=
  { a with deliveryPhase := .resultRecorded, revision := a.revision + 1 }

theorem recordStageResult_ok
    (h : recordStageResult jobId workerId generation attempt result now s = .ok (r, s')) :
    ∃ row a, s.getJob jobId = some row ∧ holds workerId generation row = true ∧
      row.jobKind = .stage ∧ row.attemptId = some attempt.attemptId ∧
      s.getStageAttempt attempt.attemptId = some a ∧ a.revision = attempt.revision ∧
      r = recordRow result row ∧
      s' = (s.updateAttempt attempt.attemptId recordAttempt).updateJob jobId
        (recordRow result) := by
  obtain ⟨row, hrow, h⟩ := bind_eq_ok.mp h
  obtain ⟨hget, hh, _⟩ := leaseRow_ok hrow
  obtain ⟨_, hmatch, h⟩ := bind_eq_ok.mp h
  obtain ⟨_, hrev, h⟩ := bind_eq_ok.mp h
  cases h
  rw [ensure_ok, Bool.and_eq_true] at hmatch
  rw [ensure_ok, Option.any_eq_true] at hrev
  obtain ⟨a, ha, hrev⟩ := hrev
  exact ⟨row, a, hget, hh, by simpa using hmatch.1, by simpa using hmatch.2, ha,
    by simpa using hrev, rfl, rfl⟩

theorem markHandlerDeliveryStarted_row
    (h : markHandlerDeliveryStarted jobId workerId generation now s = .ok (r, s')) :
    s'.getJob jobId = some r := by
  obtain ⟨row, attemptId, hrow, _, _, _, _, rfl, rfl⟩ := markHandlerDeliveryStarted_ok h
  exact getJob_updateJob_self (s := s.updateAttempt attemptId markAttempt) hrow

theorem recordStageResult_row
    (h : recordStageResult jobId workerId generation attempt result now s = .ok (r, s')) :
    s'.getJob jobId = some r := by
  obtain ⟨row, _, hrow, _, _, _, _, _, rfl, rfl⟩ := recordStageResult_ok h
  exact getJob_updateJob_self (s := s.updateAttempt attempt.attemptId recordAttempt) hrow

/-- The attempt a finalization writes, cancellation considered. -/
def closingAttempt (cancelled : Bool) (now : Instant) (attempt : StageAttemptRecord) :
    StageAttemptRecord :=
  if cancelled then
    { attempt with status := .cancelled, finishedAt := some now, outputArtifactRefs := [] }
  else { attempt with finishedAt := some (attempt.finishedAt.getD now) }

/-- A cancellation overrides the requested status. -/
def finalStatus (cancelled : Bool) (status : JobStatus) : JobStatus :=
  if cancelled then .cancelled else status

theorem finalizeStageJob_ok {retryCount : Nat}
    (h : finalizeStageJob jobId workerId generation attempt result status now retryCount
      availableAt s = .ok (r, s')) :
    ∃ row a cancelled next, s.getJob jobId = some row ∧ holds workerId generation row = true ∧
      row.attemptId = some attempt.attemptId ∧
      s.getStageAttempt attempt.attemptId = some a ∧ a.revision = attempt.revision ∧
      cancelled = (s.cancellationWins row && overridable status) ∧
      next = finalizedJob result (finalStatus cancelled status) cancelled attempt.attemptId
        (availableAt.getD now) retryCount ∧
      r = next row ∧ ∃ hn, s' = (s.updateAttempt attempt.attemptId
        (finalizedAttempt (closingAttempt cancelled now attempt))).updateJob jobId next hn := by
  obtain ⟨row, hrow, h⟩ := bind_eq_ok.mp h
  obtain ⟨hget, hh, _⟩ := leaseRow_ok hrow
  obtain ⟨_, hmatch, h⟩ := bind_eq_ok.mp h
  obtain ⟨_, hrev, h⟩ := bind_eq_ok.mp h
  cases h
  rw [ensure_ok, Option.any_eq_true] at hrev
  obtain ⟨a, ha, hrev⟩ := hrev
  exact ⟨row, a, _, _, hget, hh, by simpa using hmatch, ha, by simpa using hrev, rfl, rfl, rfl,
    fun _ => rfl, rfl⟩

theorem finalizeStageJob_row {retryCount : Nat}
    (h : finalizeStageJob jobId workerId generation attempt result status now retryCount
      availableAt s = .ok (r, s')) : s'.getJob jobId = some r := by
  obtain ⟨row, _, cancelled, next, hrow, _, _, _, _, _, _, rfl, hn, rfl⟩ := finalizeStageJob_ok h
  exact getJob_updateJob_self (s := s.updateAttempt attempt.attemptId
    (finalizedAttempt (closingAttempt cancelled now attempt))) hrow

def finalizeCommandRow (status : JobStatus) (detail : String) (failureCode : Option String)
    (failureClassification : Option FailureClassification) (r : JobRecord) : JobRecord :=
  { r with
    status := status
    leaseOwner := none
    leaseExpiresAt := none
    heartbeatAt := none
    failureCode := failureCode
    failureClassification := failureClassification
    failureReason := some detail
    deliveryPhase := .finalized
    revision := r.revision + 1 }

theorem finalizeCommandJob_ok {detail : String} {failureCode : Option String}
    {failureClassification : Option FailureClassification}
    (h : finalizeCommandJob jobId workerId generation status now detail failureCode
      failureClassification s = .ok (r, s')) :
    ∃ row, s.getJob jobId = some row ∧ holds workerId generation row = true ∧
      r = finalizeCommandRow status detail failureCode failureClassification row ∧
      s' = s.updateJob jobId
        (finalizeCommandRow status detail failureCode failureClassification) := by
  obtain ⟨_, _, h⟩ := bind_eq_ok.mp h
  obtain ⟨row, hrow, h⟩ := bind_eq_ok.mp h
  obtain ⟨hget, hh, _⟩ := leaseRow_ok hrow
  cases h
  exact ⟨row, hget, hh, rfl, rfl⟩

/-! ## Runs and plans -/

/-- The row that `update_run` writes. -/
def nextRun (run : RunRecord) (r : RunRecord) : RunRecord :=
  { run with runId := r.runId, createdAt := r.createdAt, revision := r.revision + 1 }

theorem updateRun_ok {run r : RunRecord} {revision : Nat}
    (h : updateRun run revision s = .ok (r, s')) :
    ∃ stored, s.getRun run.runId = some stored ∧ stored.revision = revision ∧
      r = nextRun run stored ∧ s' = s.updateRunRow run.runId (nextRun run) := by
  unfold updateRun at h
  split at h
  · rename_i stored hget
    split at h
    · rename_i hrev
      cases h
      exact ⟨stored, hget, hrev, rfl, rfl⟩
    · cases h
  · cases h

def cancelledRun (r : RunRecord) : RunRecord :=
  if r.status = .succeeded ∨ r.status = .cancelled then r
  else { r with status := .cancelled, revision := r.revision + 1 }

theorem cancelledRun_runId (r : RunRecord) : (cancelledRun r).runId = r.runId := by
  unfold cancelledRun
  split <;> rfl

theorem requestRunCancellation_ok {r : RunRecord}
    (h : requestRunCancellation runId now s = .ok (r, s')) :
    ∃ run, s.getRun runId = some run ∧ r = cancelledRun run ∧
      s' = { s.updateRunRow runId cancelledRun cancelledRun_runId with
        jobs := s.jobs.update (fun j => j.runId = runId) (cancelRow now) (cancelRow_jobId now) } := by
  unfold requestRunCancellation at h
  split at h
  · cases h
  · rename_i run hget
    cases h
    exact ⟨run, hget, rfl, rfl⟩

theorem getJob_requestRunCancellation {r : RunRecord}
    (h : requestRunCancellation runId now s = .ok (r, s')) (k : String) :
    s'.getJob k = (s.getJob k).map fun j => if j.runId = runId then cancelRow now j else j := by
  obtain ⟨_, _, _, rfl⟩ := requestRunCancellation_ok h
  change (s.jobs.update (fun j => j.runId = runId) (cancelRow now) (cancelRow_jobId now)).find? k = _
  rw [Table.find?_update]
  simp only [decide_eq_true_eq]
  rfl

/-- A row that runs after a cancellation ran before, and was only flagged. -/
theorem cancelRow_running {j : JobRecord} (h : (cancelRow now j).status = .running) :
    j.status = .running ∧ (cancelRow now j).leaseOwner = j.leaseOwner ∧
      (cancelRow now j).leaseGeneration = j.leaseGeneration ∧
      (cancelRow now j).deliveryPhase = j.deliveryPhase ∧
      (cancelRow now j).attemptId = j.attemptId ∧
      (cancelRow now j).durableResult = j.durableResult := by
  unfold cancelRow at h ⊢
  cases hs : j.status <;> simp_all

theorem resumeJob_ok (h : resumeJob jobId now s = .ok (r, s')) : ∃ row, s.getJob jobId = some row ∧
      (row.status = .needsReview ∨ row.status = .blocked ∨ row.status = .failed) ∧
      r = resumedRow now row ∧ s' = s.updateJob jobId (resumedRow now) := by
  unfold resumeJob at h
  split at h
  · cases h
  · rename_i row hget
    split at h
    · rename_i hst
      cases h
      exact ⟨row, hget, hst, rfl, rfl⟩
    · cases h

def replacePlan (s : Store) (plan : ExecutionPlan) : Store :=
  { s with
    plans := s.plans.update (fun p => p.planId = plan.planId)
      (fun p => if p.planId = plan.planId then plan else p)
      (replaced_planId plan) }

theorem advanceExecutionPlan_ok {plan r : ExecutionPlan} {expected : PlanData}
    (h : advanceExecutionPlan plan expected s = .ok (r, s')) :
    ∃ stored, s.getExecutionPlan plan.runId = some stored ∧ stored.planId = plan.planId ∧
      stored.contentHash = expected ∧ r = plan ∧ s' = s.replacePlan plan := by
  unfold advanceExecutionPlan at h
  split at h
  · cases h
  · rename_i stored hget
    split at h
    · rename_i hcas
      cases h
      exact ⟨stored, hget, hcas.1, hcas.2, rfl, rfl⟩
    · cases h

theorem enqueueStageJob_ok {planId stageId : String} {parentJobId : Option String}
    {availableAt : Instant}
    (h : enqueueStageJob stableId runId planId stageId parentJobId availableAt s = .ok (r, s')) :
    ∃ plan stage, s.plans.find? planId = some plan ∧ plan.runId = runId ∧
      plan.stage stageId = some stage ∧ ((s.getStageJob runId stageId = some r ∧ s' = s) ∨
        (s.getStageJob runId stageId = none ∧
          r = stageJobRow stableId runId planId stage parentJobId availableAt ∧
          s.insertJob r = .ok s')) := by
  unfold enqueueStageJob at h
  split at h
  · cases h
  rename_i plan hplan
  split at h
  swap
  · cases h
  rename_i hrun
  split at h
  · cases h
  rename_i stage hstage
  refine ⟨plan, stage, hplan, hrun, hstage, ?_⟩
  split at h
  · rename_i existing hex
    cases h
    exact .inl ⟨hex, rfl⟩
  · rename_i hnone
    cases hins : s.insertJob (stageJobRow stableId runId planId stage parentJobId availableAt) with
    | error e => simp only [hins, Except.map] at h; cases h
    | ok s1 =>
      simp only [hins, Except.map] at h
      cases h
      exact .inr ⟨hnone, rfl, hins⟩

theorem registerReviewSubjectContext_ok {context r : ReviewCompatibilityContext}
    (h : registerReviewSubjectContext runId context s = .ok (r, s')) :
    s' = s ∨ ∃ reviewContexts, s.reviewContexts.insert? ⟨runId, context⟩ = some reviewContexts ∧
      s' = { s with reviewContexts } := by
  unfold registerReviewSubjectContext at h
  split at h
  swap
  · cases h
  split at h
  · split at h
    · cases h; exact .inl rfl
    · cases h
  · split at h
    · rename_i reviewContexts hins
      cases h
      exact .inr ⟨reviewContexts, hins, rfl⟩
    · cases h

/-! ## What clients do -/

theorem createRun_ok {run r : RunRecord} (h : createRun run s = .ok (r, s')) :
    s' = s ∨ ∃ runs, s.runs.insert? run = some runs ∧ s' = { s with runs } := by
  unfold createRun at h
  split at h
  · split at h
    · cases h; exact .inl rfl
    · cases h
  · split at h
    · rename_i runs hins
      cases h
      exact .inr ⟨runs, hins, rfl⟩
    · cases h

theorem registerExecutionPlan_ok {plan r : ExecutionPlan}
    (h : registerExecutionPlan plan s = .ok (r, s')) :
    s' = s ∨ ∃ plans, s.getExecutionPlan plan.runId = none ∧ (s.getRun plan.runId).isSome ∧
      s.plans.insert? plan = some plans ∧ s' = { s with plans } := by
  unfold registerExecutionPlan at h
  split at h
  · cases h
  · split at h
    · cases h; exact .inl rfl
    · cases h
  · rename_i run hrun hnone
    split at h
    · rename_i plans hins
      cases h
      exact .inr ⟨plans, hnone, by simp [hrun], hins, rfl⟩
    · cases h

theorem enqueueExecutionCommand_ok {command : ExecutionCommand} {r : JobRecord × Bool}
    (h : enqueueExecutionCommand stableId command runId s = .ok (r, s')) :
    s' = s ∨ ((s.getRun command.runId).isSome ∧ ∃ j : JobRecord, j.runId = command.runId ∧
      j.jobKind = .command ∧ j.stageId = none ∧ j.attemptId = none ∧ j.status = .queued ∧
      j.deliveryPhase = .notStarted ∧ j.action = some command.action ∧ s.insertJob j = .ok s') := by
  obtain ⟨_, _, h⟩ := bind_eq_ok.mp h
  split at h
  · obtain ⟨_, _, h⟩ := bind_eq_ok.mp h
    cases h
    exact .inl rfl
  · obtain ⟨_, hrun, h⟩ := bind_eq_ok.mp h
    obtain ⟨s1, hins, h⟩ := bind_eq_ok.mp h
    cases h
    exact .inr ⟨by simpa using hrun, _, rfl, rfl, rfl, rfl, rfl, rfl, rfl, hins⟩

theorem registerArtifact_ok {artifact r : ArtifactRef}
    (h : registerArtifact artifact s = .ok (r, s')) :
    s' = s ∨ ∃ artifacts, s.artifacts.insert? artifact = some artifacts ∧
      s' = { s with artifacts } := by
  obtain ⟨_, _, h⟩ := bind_eq_ok.mp h
  split at h
  · obtain ⟨_, _, h⟩ := bind_eq_ok.mp h
    obtain ⟨_, _, h⟩ := bind_eq_ok.mp h
    cases h
    exact .inl rfl
  · split at h
    · rename_i artifacts hins
      cases h
      exact .inr ⟨artifacts, hins, rfl⟩
    · cases h

theorem recordReview_ok {record r : ReviewRecord} {revision : Nat}
    (h : recordReview record revision s = .ok (r, s')) :
    ∃ reviewHistory reviews, s' = { s with reviewHistory, reviews } := by
  obtain ⟨_, _, h⟩ := bind_eq_ok.mp h
  obtain ⟨_, _, h⟩ := bind_eq_ok.mp h
  obtain ⟨_, _, h⟩ := bind_eq_ok.mp h
  obtain ⟨_, _, h⟩ := bind_eq_ok.mp h
  obtain ⟨_, _, h⟩ := bind_eq_ok.mp h
  split at h
  · cases h
  split at h
  · cases h; exact ⟨_, _, rfl⟩
  · split at h
    · cases h
    · cases h; exact ⟨_, _, rfl⟩

theorem recordGateEvidence_ok {evidence r : GateEvidence}
    (h : recordGateEvidence evidence s = .ok (r, s')) :
    s' = s ∨ (∃ stored ∈ s.gateEvidence.rows, stored.provenanceRefs.contains legacyMarker = true) ∨
      ∃ gateEvidence, s.gateEvidence.insert? evidence = some gateEvidence ∧
        s' = { s with gateEvidence } := by
  obtain ⟨_, _, h⟩ := bind_eq_ok.mp h
  obtain ⟨_, _, h⟩ := bind_eq_ok.mp h
  obtain ⟨_, _, h⟩ := bind_eq_ok.mp h
  obtain ⟨_, _, h⟩ := bind_eq_ok.mp h
  obtain ⟨_, _, h⟩ := bind_eq_ok.mp h
  split at h
  · rename_i stored hget
    split at h
    · rename_i hlegacy
      exact .inr (.inl ⟨stored, Table.mem_of_find? hget, hlegacy⟩)
    · obtain ⟨_, _, h⟩ := bind_eq_ok.mp h
      cases h
      exact .inl rfl
  · obtain ⟨_, _, h⟩ := bind_eq_ok.mp h
    split at h
    · rename_i gateEvidence hins
      cases h
      exact .inr (.inr ⟨gateEvidence, hins, rfl⟩)
    · cases h

end Store

/-! ## Actions -/

/-- What an action does to the store: nothing, a claim, or the success of the method
behind it. -/
inductive Effect (env : Env) (s : Store) : (a : Act) → Except Exc a.Reply → Store → Prop
  | none {a : Act} {r : Except Exc a.Reply} : Effect env s a r s
  | claim {workerId : String} {now : Instant} {leaseSeconds maxRun maxSource : Nat}
      {row : JobRecord} (hrow : s.getJob row.jobId = some row)
      (hclaim : claimable now row = true) :
      Effect env s (.claim workerId now leaseSeconds maxRun maxSource)
        (.ok (some (claimRow workerId now leaseSeconds row)))
        (s.updateJob row.jobId (claimRow workerId now leaseSeconds))
  | fenced {lease : Lease} {op : FencedOp} {b : op.Reply} {s' : Store}
      (hok : op.txn env.stableId lease s = .ok (b, s')) :
      Effect env s (.fenced lease op) (.ok b) s'
  | write {w : Write} {b : w.Reply} {s' : Store} (hok : w.txn env.stableId s = .ok (b, s')) :
      Effect env s (.write w) (.ok b) s'

variable {s s' : Store}

/-- **What a mutation of a claimed job does**: only its row, held under the lease, and the attempts
change; the row keeps its generation, and keeps its owner or loses it. -/
theorem FencedOp.txn_ok {stableId : StableKey → String} {lease : Lease} {op : FencedOp}
    {r : op.Reply} (h : op.txn stableId lease s = .ok (r, s')) :
    ∃ row, s.getJob lease.jobId = some row ∧ holds lease.workerId lease.generation row = true ∧
      (s' = s ∨ ∃ attempts f hf, s' = { s with attempts }.updateJob lease.jobId f hf ∧
        ∀ j, (f j).leaseGeneration = j.leaseGeneration ∧
          ((f j).leaseOwner = j.leaseOwner ∨ (f j).leaseOwner = none)) := by
  cases op with
  | heartbeat now leaseSeconds =>
    obtain ⟨row, hrow, hh, _, rfl⟩ := heartbeatJob_ok h
    exact ⟨row, hrow, hh, .inr ⟨_, _, _, rfl, fun _ => ⟨rfl, .inl rfl⟩⟩⟩
  | ensureAttempt now =>
    obtain ⟨row, hrow, _, hh, ⟨_, _, rfl⟩ | ⟨_, _, _, _, _, _, _, hins, rfl⟩⟩ :=
      ensureStageAttempt_ok h
    · exact ⟨row, hrow, hh, .inl rfl⟩
    · obtain ⟨attempts, _, rfl⟩ := insertAttempt_ok hins
      exact ⟨row, hrow, hh, .inr ⟨attempts, _, _, rfl, fun _ => ⟨rfl, .inl rfl⟩⟩⟩
  | markHandlerDeliveryStarted now =>
    obtain ⟨row, _, hrow, hh, _, _, _, _, rfl⟩ := markHandlerDeliveryStarted_ok h
    exact ⟨row, hrow, hh, .inr ⟨_, _, _, rfl, fun _ => ⟨rfl, .inl rfl⟩⟩⟩
  | recordResult attempt result now =>
    obtain ⟨row, _, hrow, hh, _, _, _, _, _, rfl⟩ := recordStageResult_ok h
    exact ⟨row, hrow, hh, .inr ⟨_, _, _, rfl, fun _ => ⟨rfl, .inl rfl⟩⟩⟩
  | finalizeStage attempt result status now retryCount availableAt =>
    obtain ⟨row, _, _, _, hrow, hh, _, _, _, _, rfl, _, _, rfl⟩ := finalizeStageJob_ok h
    exact ⟨row, hrow, hh, .inr ⟨_, _, _, rfl, fun _ => ⟨rfl, .inr rfl⟩⟩⟩
  | finalizeCommand status now detail failureCode failureClassification =>
    obtain ⟨row, hrow, hh, _, rfl⟩ := finalizeCommandJob_ok h
    exact ⟨row, hrow, hh, .inr ⟨_, _, _, rfl, fun _ => ⟨rfl, .inr rfl⟩⟩⟩

/-- Which tables a write leaves alone. -/
structure Write.Leaves (w : Write) (s s' : Store) : Prop where
  attempts : s'.attempts = s.attempts
  plans : s'.plans = s.plans ∨ ∃ plan expected, w = .advanceExecutionPlan plan expected
  runs : s'.runs = s.runs ∨ (∃ run revision, w = .updateRun run revision) ∨
    ∃ runId now, w = .requestRunCancellation runId now
  jobs : s'.jobs = s.jobs ∨
    (∃ runId planId stageId parent now, w = .enqueueStageJob runId planId stageId parent now) ∨
    (∃ runId now, w = .requestRunCancellation runId now) ∨ ∃ jobId now, w = .resumeJob jobId now

theorem Write.leaves {stableId : StableKey → String} {w : Write} {r : w.Reply}
    (h : w.txn stableId s = .ok (r, s')) : w.Leaves s s' := by
  cases w with
  | updateRun run revision =>
    obtain ⟨_, _, _, _, rfl⟩ := updateRun_ok h
    exact ⟨rfl, .inl rfl, .inr (.inl ⟨_, _, rfl⟩), .inl rfl⟩
  | advanceExecutionPlan plan expected =>
    obtain ⟨_, _, _, _, _, rfl⟩ := advanceExecutionPlan_ok h
    exact ⟨rfl, .inr ⟨_, _, rfl⟩, .inl rfl, .inl rfl⟩
  | enqueueStageJob =>
    obtain ⟨_, _, _, _, _, ⟨_, rfl⟩ | ⟨_, _, hins⟩⟩ := enqueueStageJob_ok h
    · exact ⟨rfl, .inl rfl, .inl rfl, .inl rfl⟩
    · obtain ⟨_, _, rfl⟩ := insertJob_ok hins
      exact ⟨rfl, .inl rfl, .inl rfl, .inr (.inl ⟨_, _, _, _, _, rfl⟩)⟩
  | requestRunCancellation runId now =>
    obtain ⟨_, _, _, rfl⟩ := requestRunCancellation_ok h
    exact ⟨rfl, .inl rfl, .inr (.inr ⟨_, _, rfl⟩), .inr (.inr (.inl ⟨_, _, rfl⟩))⟩
  | resumeJob jobId now =>
    obtain ⟨_, _, _, _, rfl⟩ := resumeJob_ok h
    exact ⟨rfl, .inl rfl, .inl rfl, .inr (.inr (.inr ⟨_, _, rfl⟩))⟩
  | registerReviewSubjectContext =>
    rcases registerReviewSubjectContext_ok h with rfl | ⟨_, _, rfl⟩ <;>
      exact ⟨rfl, .inl rfl, .inl rfl, .inl rfl⟩

/-- **What an action does.** -/
theorem exec_effect {env : Env} {a : Act} {ω : Input} {r : Except Exc a.Reply}
    (h : exec env a ω s = (r, s')) : Effect env s a r s' := by
  cases a with
  | claim workerId now leaseSeconds maxRun maxSource =>
    change Txn.commit (claimNextJob workerId now leaseSeconds maxRun maxSource) s = _ at h
    rcases Txn.commit_cases (claimNextJob workerId now leaseSeconds maxRun maxSource) s with
      ⟨b, s1, hok, hc⟩ | ⟨e, _, hc⟩
    · cases hc.symm.trans h
      rcases claimNextJob_ok hok with ⟨_, rfl⟩ | ⟨row, hrow, hclaim, rfl, rfl⟩
      · exact .none
      · exact .claim hrow hclaim
    · cases hc.symm.trans h
      exact .none
  | read q => cases h; exact .none
  | observe o => cases h; exact .none
  | fenced lease op =>
    change (op.txn env.stableId lease).commit s = _ at h
    rcases Txn.commit_cases (op.txn env.stableId lease) s with ⟨b, s1, hok, hc⟩ | ⟨e, _, hc⟩
    · cases hc.symm.trans h
      exact .fenced hok
    · cases hc.symm.trans h
      exact .none
  | write w =>
    change (w.txn env.stableId).commit s = _ at h
    rcases Txn.commit_cases (w.txn env.stableId) s with ⟨b, s1, hok, hc⟩ | ⟨e, _, hc⟩
    · cases hc.symm.trans h
      exact .write hok
    · cases hc.symm.trans h
      exact .none

theorem Txn.commit_ok {β : Type} {t : Txn β} {b : β} (h : t.commit s = (.ok b, s')) :
    t s = .ok (b, s') := by
  rcases t.commit_cases s with ⟨b', s1, hok, hc⟩ | ⟨e, _, hc⟩
  · cases hc.symm.trans h
    exact hok
  · cases hc.symm.trans h

theorem exec_fenced_ok {env : Env} {lease : Lease} {op : FencedOp} {ω : Input} {b : op.Reply}
    (h : exec env (.fenced lease op) ω s = (.ok b, s')) :
    op.txn env.stableId lease s = .ok (b, s') := Txn.commit_ok h

end DirtyDataOlap

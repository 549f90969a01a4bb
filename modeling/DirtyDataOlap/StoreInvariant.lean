import DirtyDataOlap.StoreTransactions

/-!
# The invariant of the control store

What holds of the rows of every reachable store.  `JobOk` is about one job, `AttemptOk` about one
attempt; both only mention what is monotone, so that a transaction re-establishes them for the rows
it writes and for no others (`JobOk.mono`, `AttemptOk.mono`).  `sync` ties the tables together: an
attempt is not finalized exactly as long as a running job is at work on it.

Each lemma below is one transaction; the last section lists what a worker must know of an action for
the invariant to survive it.
-/
namespace DirtyDataOlap.Store

open List Store Table ExecutionPlan Nat

def ActiveAttempt (s : Store) (attemptId : String) : Prop :=
  ∃ j ∈ s.jobs.rows, j.status = .running ∧ j.attemptId = some attemptId

/-- What holds of a job row. -/
structure JobOk (s : Store) (j : JobRecord) : Prop where
  run : (s.getRun j.runId).isSome
  command : j.jobKind = .command → j.stageId = none ∧ j.attemptId = none
  stage : j.jobKind = .stage → ∃ stageId p st, j.stageId = some stageId ∧
    j.planId = some p.planId ∧ s.getExecutionPlan j.runId = some p ∧
    p.stage stageId = some st ∧ ∀ d ∈ st.dependencies, s.StageSucceeded j.runId d
  waiting : j.status = .queued ∨ j.status = .retryWait → j.attemptId = none ∧
    (j.jobKind = .stage → j.deliveryPhase = .attemptCreated)
  running : j.jobKind = .stage → j.status = .running → j.deliveryPhase = .attemptCreated ∨
    j.deliveryPhase = .handlerDeliveryStarted ∨ j.deliveryPhase = .resultRecorded
  attempt : ∀ {attemptId}, j.attemptId = some attemptId → ∃ a,
    s.getStageAttempt attemptId = some a ∧ a.runId = j.runId ∧ j.stageId = some a.stageId
  recorded : j.jobKind = .stage → j.status = .running → j.deliveryPhase = .resultRecorded →
    ∃ attemptId result, j.attemptId = some attemptId ∧ j.durableResult = some result ∧
      (result.status = .succeeded →
        s.GoodOutputs j.runId j.stageId attemptId result.outputArtifactRefs)
  succeeded : j.jobKind = .stage → j.status = .succeeded → ∃ attemptId a,
    j.attemptId = some attemptId ∧ s.getStageAttempt attemptId = some a ∧
      a.deliveryPhase = .finalized ∧ a.outputArtifactRefs = j.resultRefs ∧
      s.GoodOutputs j.runId j.stageId attemptId j.resultRefs

/-- What holds of an attempt row. -/
def AttemptOk (s : Store) (a : StageAttemptRecord) : Prop :=
  (s.getRun a.runId).isSome ∧ ∃ p st, s.getExecutionPlan a.runId = some p ∧
    p.stage a.stageId = some st ∧ (∀ d ∈ st.dependencies, s.StageSucceeded a.runId d) ∧
    a.inputArtifactRefs = s.inputArtifactRefs a.runId st

/-- What holds of a reachable store. -/
structure Inv (graph : StageGraph) (s : Store) : Prop where
  planRuns : ∀ p ∈ s.plans.rows, ∀ q ∈ s.plans.rows, p.runId = q.runId → p = q
  phases : ∀ p ∈ s.plans.rows, p.InPhase graph
  jobs : ∀ j ∈ s.jobs.rows, s.JobOk j
  stages : ∀ j ∈ s.jobs.rows, ∀ k ∈ s.jobs.rows, j.runId = k.runId → j.stageId = k.stageId →
    j.stageId ≠ none → j = k
  attempts : ∀ a ∈ s.attempts.rows, s.AttemptOk a
  sync : ∀ a ∈ s.attempts.rows, a.deliveryPhase ≠ .finalized ↔ s.ActiveAttempt a.attemptId
  evidence : ∀ g ∈ s.gateEvidence.rows, g.provenanceRefs.contains legacyMarker = false

variable {graph : StageGraph} {s s' : Store}

/-! ## Monotonicity -/

variable {jobId : String} {now : Instant} {row : JobRecord} {workerId : String} {r : JobRecord}
  {f : JobRecord → JobRecord} {hf : ∀ r, (f r).jobId = r.jobId} {attemptId : String}
  {generation : Nat} {a : StageAttemptRecord} {j : JobRecord} {runId : String}
  {g : StageAttemptRecord → StageAttemptRecord} {hg : ∀ a, (g a).attemptId = a.attemptId}
  {stableId : StableKey → String} {attempt : StageAttemptRecord} {result : StageExecutionResult}

theorem JobOk.mono (h : s.Evolves s') (hj : s.JobOk j) : s'.JobOk j where
  run := h.run_isSome hj.run
  command := hj.command
  stage hk := by
    obtain ⟨stageId, p, st, hid, hpid, hp, hst, hdeps⟩ := hj.stage hk
    obtain ⟨p', hp', he⟩ := h.getExecutionPlan hp
    obtain ⟨st', hst', hshape⟩ := he.stage hst
    refine ⟨stageId, p', st', hid, by rw [he.planId]; exact hpid, hp', hst', ?_⟩
    intro d hd
    rw [hshape.dependencies] at hd
    exact (hdeps d hd).mono h
  waiting := hj.waiting
  running := hj.running
  attempt ha := by
    obtain ⟨a, hget, hrun, hstage⟩ := hj.attempt ha
    obtain ⟨a', hget', he⟩ := h.getStageAttempt hget
    exact ⟨a', hget', he.runId.trans hrun, by rw [he.stageId]; exact hstage⟩
  recorded hk hst hph := by
    obtain ⟨attemptId, result, hatt, hres, hgood⟩ := hj.recorded hk hst hph
    exact ⟨attemptId, result, hatt, hres, fun hs => (hgood hs).mono h⟩
  succeeded hk hst := by
    obtain ⟨attemptId, a, hatt, hget, hfin, hout, hgood⟩ := hj.succeeded hk hst
    obtain ⟨a', hget', he⟩ := h.getStageAttempt hget
    obtain rfl := he.finalized hfin
    exact ⟨attemptId, a', hatt, hget', hfin, hout, hgood.mono h⟩

theorem AttemptOk.mono (h : s.Evolves s') {a' : StageAttemptRecord} (ha : s.AttemptOk a)
    (he : a.Evolves a') : s'.AttemptOk a' := by
  obtain ⟨hrun, p, st, hp, hst, hdeps, hin⟩ := ha
  obtain ⟨p', hp', hep⟩ := h.getExecutionPlan hp
  obtain ⟨st', hst', hshape⟩ := hep.stage hst
  have hids : st'.stageId = st.stageId :=
    (stage_stageId hst').trans (stage_stageId hst).symm
  rw [AttemptOk, he.runId, he.stageId, he.inputArtifactRefs]
  refine ⟨h.run_isSome hrun, p', st', hp', hst', ?_, ?_⟩
  · intro d hd
    rw [hshape.dependencies] at hd
    exact (hdeps d hd).mono h
  · rw [hin, ← h.inputArtifactRefs hrun hdeps]
    unfold inputArtifactRefs
    rw [hids, hshape.dependencies]

/-- **The invariant after a transaction**: only the rows that were written have to be looked at. -/
theorem Inv.rewrite (hi : s.Inv graph) (h : s.Evolves s') (hplans : s'.plans = s.plans)
    (hevidence : s'.gateEvidence = s.gateEvidence)
    (hjobs : ∀ j' ∈ s'.jobs.rows, ∃ j ∈ s.jobs.rows, j.Evolves j' ∧ (j' = j ∨ s'.JobOk j'))
    (hattempts : ∀ a' ∈ s'.attempts.rows, (∃ a ∈ s.attempts.rows, a.Evolves a') ∨ s'.AttemptOk a')
    (hsync : ∀ a ∈ s'.attempts.rows,
      a.deliveryPhase ≠ .finalized ↔ s'.ActiveAttempt a.attemptId) : s'.Inv graph where
  planRuns := by rw [hplans]; exact hi.planRuns
  phases := by rw [hplans]; exact hi.phases
  jobs j' hj' := by
    obtain ⟨j, hj, _, rfl | hok⟩ := hjobs j' hj'
    · exact (hi.jobs j' hj).mono h
    · exact hok
  stages j' hj' k' hk' hrun hstage hne := by
    obtain ⟨j, hj, hej, _⟩ := hjobs j' hj'
    obtain ⟨k, hk, hek, _⟩ := hjobs k' hk'
    have hjk : j = k := hi.stages j hj k hk (by rw [← hej.runId, ← hek.runId, hrun])
      (by rw [← hej.stageId, ← hek.stageId, hstage]) (by rw [← hej.stageId]; exact hne)
    have hid : j'.jobId = k'.jobId := by rw [hej.jobId, hek.jobId, hjk]
    have hj1 := mem_jobs_iff.mp hj'
    rw [hid, mem_jobs_iff.mp hk'] at hj1
    exact (Option.some.inj hj1).symm
  attempts a' ha' := by
    rcases hattempts a' ha' with ⟨a, ha, he⟩ | hok
    · exact (hi.attempts a ha).mono h he
    · exact hok
  sync := hsync
  evidence := by rw [hevidence]; exact hi.evidence

/-- A transaction that leaves jobs, attempts, plans and evidence alone. -/
theorem Inv.frame (hi : s.Inv graph) (h : s.Evolves s') (hplans : s'.plans = s.plans)
    (hjobs : s'.jobs = s.jobs) (hattempts : s'.attempts = s.attempts)
    (hevidence : s'.gateEvidence = s.gateEvidence) : s'.Inv graph := by
  refine hi.rewrite h hplans hevidence ?_ ?_ ?_
  · rw [hjobs]
    exact fun j hj => ⟨j, hj, .refl j, .inl rfl⟩
  · rw [hattempts]
    exact fun a ha => .inl ⟨a, ha, .refl a⟩
  · unfold ActiveAttempt
    rw [hjobs, hattempts]
    exact hi.sync

/-! ## Rewriting one job -/

theorem mem_updateJob {j' : JobRecord} : j' ∈ (s.updateJob jobId f hf).jobs.rows ↔
      ∃ j ∈ s.jobs.rows, j' = if j.jobId = jobId then f j else j := by
  simp only [updateJob, update, mem_map, decide_eq_true_eq]
  exact ⟨fun ⟨j, hj, he⟩ => ⟨j, hj, he.symm⟩, fun ⟨j, hj, he⟩ => ⟨j, hj, he.symm⟩⟩

theorem mem_updateAttempt {f : StageAttemptRecord → StageAttemptRecord}
    {hf : ∀ r, (f r).attemptId = r.attemptId} {a' : StageAttemptRecord} :
    a' ∈ (s.updateAttempt attemptId f hf).attempts.rows ↔
      ∃ a ∈ s.attempts.rows, a' = if a.attemptId = attemptId then f a else a := by
  simp only [updateAttempt, update, mem_map, decide_eq_true_eq]
  exact ⟨fun ⟨j, hj, he⟩ => ⟨j, hj, he.symm⟩, fun ⟨j, hj, he⟩ => ⟨j, hj, he.symm⟩⟩

theorem updateJob_rows (hrow : s.getJob jobId = some row) {j' : JobRecord}
    (hj' : j' ∈ (s.updateJob jobId f hf).jobs.rows) :
    j' = f row ∨ (j' ∈ s.jobs.rows ∧ j'.jobId ≠ jobId) := by
  obtain ⟨j, hj, rfl⟩ := mem_updateJob.mp hj'
  by_cases hid : j.jobId = jobId
  · rw [if_pos hid]
    have := mem_jobs_iff.mp hj
    rw [hid, hrow] at this
    exact .inl (by rw [Option.some.inj this])
  · rw [if_neg hid]
    exact .inr ⟨hj, hid⟩

theorem activeAttempt_updateJob (hrow : s.getJob jobId = some row)
    (hsame : ∀ T, ((f row).status = .running ∧ (f row).attemptId = some T) ↔
      (row.status = .running ∧ row.attemptId = some T)) (T : String) :
    (s.updateJob jobId f hf).ActiveAttempt T ↔ s.ActiveAttempt T := by
  constructor
  · rintro ⟨j', hj', hrun, hatt⟩
    rcases updateJob_rows hrow hj' with rfl | ⟨hj, _⟩
    · obtain ⟨h1, h2⟩ := (hsame T).mp ⟨hrun, hatt⟩
      exact ⟨row, getJob_mem hrow, h1, h2⟩
    · exact ⟨j', hj, hrun, hatt⟩
  · rintro ⟨j, hj, hrun, hatt⟩
    refine ⟨if j.jobId = jobId then f j else j, mem_updateJob.mpr ⟨j, hj, rfl⟩, ?_⟩
    by_cases hid : j.jobId = jobId
    · have hget := mem_jobs_iff.mp hj
      rw [hid, hrow] at hget
      cases hget
      rw [if_pos hid]
      exact (hsame T).mpr ⟨hrun, hatt⟩
    · rw [if_neg hid]
      exact ⟨hrun, hatt⟩

section
variable (hi : s.Inv graph)
include hi

/-- **One job is rewritten**, and the attempts are left alone. -/
theorem Inv.updateJob (hrow : s.getJob jobId = some row)
    (he : row.Evolves (f row)) (hok : s.JobOk (f row))
    (hsame : ∀ T, ((f row).status = .running ∧ (f row).attemptId = some T) ↔
      (row.status = .running ∧ row.attemptId = some T)) :
    s.Evolves (s.updateJob jobId f hf) ∧ (s.updateJob jobId f hf).Inv graph := by
  have hev : s.Evolves (s.updateJob jobId f hf) := Evolves.updateJob fun j hj => by
    rw [hrow] at hj
    cases hj
    exact he
  refine ⟨hev, hi.rewrite hev rfl rfl ?_ (fun a ha => .inl ⟨a, ha, .refl a⟩) ?_⟩
  · intro j' hj'
    rcases updateJob_rows hrow hj' with rfl | ⟨hj, _⟩
    · exact ⟨row, getJob_mem hrow, he, .inr (hok.mono hev)⟩
    · exact ⟨j', hj, .refl j', .inl rfl⟩
  · intro a ha
    rw [activeAttempt_updateJob hrow hsame]
    exact hi.sync a ha

/-- A job and its attempt are rewritten together, and the job goes on. -/
theorem Inv.updateBoth (hrow : s.getJob jobId = some row)
    (he : row.Evolves (f row)) (hea : ∀ a, s.getStageAttempt attemptId = some a → a.Evolves (g a))
    (hok : ∀ s1, s.Evolves s1 → (∀ a, s.getStageAttempt attemptId = some a →
      s1.getStageAttempt attemptId = some (g a)) → s1.JobOk (f row))
    (hsync : ∀ a ∈ (s.updateAttempt attemptId g hg).attempts.rows, a.deliveryPhase ≠ .finalized ↔
      ((s.updateAttempt attemptId g hg).updateJob jobId f hf).ActiveAttempt a.attemptId) :
    s.Evolves ((s.updateAttempt attemptId g hg).updateJob jobId f hf) ∧
      ((s.updateAttempt attemptId g hg).updateJob jobId f hf).Inv graph := by
  have hev1 : s.Evolves (s.updateAttempt attemptId g hg) := Evolves.updateAttempt hea
  have hev : s.Evolves ((s.updateAttempt attemptId g hg).updateJob jobId f hf) :=
    hev1.trans (Evolves.updateJob fun j hj => by
      have : s.getJob jobId = some j := hj
      rw [hrow] at this
      cases this
      exact he)
  refine ⟨hev, hi.rewrite hev rfl rfl ?_ ?_ hsync⟩
  · intro j' hj'
    rcases updateJob_rows (s := s.updateAttempt attemptId g hg) hrow hj' with rfl | ⟨hj, _⟩
    · refine ⟨row, getJob_mem hrow, he, .inr (hok _ hev fun a ha => ?_)⟩
      change (s.updateAttempt attemptId g hg).getStageAttempt attemptId = some (g a)
      rw [getStageAttempt_updateAttempt, if_pos rfl, ha]
      rfl
    · exact ⟨j', hj, .refl j', .inl rfl⟩
  · intro a' ha'
    change a' ∈ (s.updateAttempt attemptId g hg).attempts.rows at ha'
    obtain ⟨a, ha, rfl⟩ := mem_updateAttempt.mp ha'
    refine .inl ⟨a, ha, ?_⟩
    by_cases hid : a.attemptId = attemptId
    · rw [if_pos hid]
      exact hea a (by rw [← hid]; exact find?_of_mem ha)
    · rw [if_neg hid]
      exact .refl a

theorem Inv.not_finalized (hrow : row ∈ s.jobs.rows)
    (hrun : row.status = .running) (hatt : row.attemptId = some attemptId)
    (ha : s.getStageAttempt attemptId = some a) : a.deliveryPhase ≠ .finalized := by
  refine (hi.sync a (mem_of_find? ha)).mpr ⟨row, hrow, hrun, ?_⟩
  rw [getStageAttempt_attemptId ha]
  exact hatt

/-- **At most one job is at work on an attempt.** -/
theorem Inv.active_unique {k : JobRecord} (hj : j ∈ s.jobs.rows)
    (hk : k ∈ s.jobs.rows) (hja : j.attemptId = some attemptId) (hka : k.attemptId = some attemptId) :
    j = k := by
  obtain ⟨a, ha, hrun, hstage⟩ := (hi.jobs j hj).attempt hja
  obtain ⟨b, hb, hrun', hstage'⟩ := (hi.jobs k hk).attempt hka
  rw [ha] at hb
  cases hb
  exact hi.stages j hj k hk (hrun.symm.trans hrun') (hstage.trans hstage'.symm)
    (by rw [hstage]; simp)

/-- A non-finalized attempt is the one its job is at work on. -/
theorem Inv.current_attempt (ha : s.getStageAttempt attemptId = some a)
    (hfin : a.deliveryPhase ≠ .finalized) (hrow : row ∈ s.jobs.rows) (hrun : row.runId = a.runId)
    (hstage : row.stageId = some a.stageId) :
    row.status = .running ∧ row.attemptId = some attemptId := by
  obtain ⟨j, hj, hjrun, hjatt⟩ := (hi.sync a (mem_of_find? ha)).mp hfin
  rw [getStageAttempt_attemptId ha] at hjatt
  obtain ⟨b, hb, hbrun, hbstage⟩ := (hi.jobs j hj).attempt hjatt
  rw [ha] at hb
  cases hb
  obtain rfl : j = row := hi.stages j hj row hrow (by rw [hrun, hbrun]) (by rw [hstage, hbstage])
    (by rw [hbstage]; simp)
  exact ⟨hjrun, hjatt⟩

end

/-! ## The transactions on a claimed job -/

/-- Nothing is said of a row that did not change its identity and has not reached
the statuses that matter. -/
theorem JobOk.update {j j' : JobRecord} (hj : s.JobOk j) (he : j.Evolves j')
    (hatt : j'.attemptId = j.attemptId) (hwait : j'.status ≠ .queued ∧ j'.status ≠ .retryWait)
    (hsucc : j'.status ≠ .succeeded)
    (hrunning : j'.jobKind = .stage → j'.status = .running → j'.deliveryPhase = .attemptCreated ∨
      j'.deliveryPhase = .handlerDeliveryStarted ∨ j'.deliveryPhase = .resultRecorded)
    (hrecorded : j'.jobKind = .stage → j'.status = .running → j'.deliveryPhase = .resultRecorded →
      ∃ attemptId result, j'.attemptId = some attemptId ∧ j'.durableResult = some result ∧
        (result.status = .succeeded →
          s.GoodOutputs j'.runId j'.stageId attemptId result.outputArtifactRefs)) : s.JobOk j' where
  run := by rw [he.runId]; exact hj.run
  command := by rw [he.jobKind, he.stageId, hatt]; exact hj.command
  stage := by rw [he.jobKind, he.stageId, he.planId, he.runId]; exact hj.stage
  waiting h := absurd h (by simp [hwait])
  running := hrunning
  attempt := by rw [hatt, he.runId, he.stageId]; exact hj.attempt
  recorded := hrecorded
  succeeded _ h := absurd h hsucc

section
variable (hi : s.Inv graph)
include hi

theorem Inv.claimNextJob {leaseSeconds maxRun maxSource : Nat} {r : Option JobRecord}
    (h : claimNextJob workerId now leaseSeconds maxRun maxSource s = .ok (r, s')) :
    s.Evolves s' ∧ s'.Inv graph := by
  rcases claimNextJob_ok h with ⟨_, rfl⟩ | ⟨row, hrow, hclaim, _, rfl⟩
  · exact ⟨.refl _, hi⟩
  have hok := hi.jobs row (getJob_mem hrow)
  have hstatus : row.status = .queued ∨ row.status = .retryWait ∨ row.status = .running := by
    simp only [claimable, Bool.or_eq_true, Bool.and_eq_true, decide_eq_true_eq] at hclaim
    tauto
  have he : row.Evolves (claimRow workerId now leaseSeconds row) :=
    ⟨rfl, rfl, rfl, rfl, rfl, rfl, rfl, rfl, le_succ _,
      fun h => absurd h (succ_ne_self _), .inr (lt_succ_self _),
      fun hs => by simp [hs] at hstatus, fun hs => by simp [hs] at hstatus⟩
  refine hi.updateJob hrow he ?_ ?_
  · refine hok.update he rfl (by simp [claimRow]) (by simp [claimRow]) ?_ ?_
    · intro hk _
      rcases hstatus with hs | hs | hs
      · exact .inl ((hok.waiting (.inl hs)).2 hk)
      · exact .inl ((hok.waiting (.inr hs)).2 hk)
      · exact hok.running hk hs
    · intro hk _ hph
      rcases hstatus with hs | hs | hs
      · exact absurd (((hok.waiting (.inl hs)).2 hk).symm.trans hph) (by simp)
      · exact absurd (((hok.waiting (.inr hs)).2 hk).symm.trans hph) (by simp)
      · exact hok.recorded hk hs hph
  · intro T
    rcases hstatus with hs | hs | hs
    · simp [claimRow, (hok.waiting (.inl hs)).1, hs]
    · simp [claimRow, (hok.waiting (.inr hs)).1, hs]
    · simp [claimRow, hs]

theorem Inv.heartbeatJob {leaseSeconds : Nat}
    (h : heartbeatJob jobId workerId generation now leaseSeconds s = .ok (r, s')) :
    s.Evolves s' ∧ s'.Inv graph := by
  obtain ⟨row, hrow, hh, _, rfl⟩ := heartbeatJob_ok h
  obtain ⟨hrun, _, _⟩ := holds_iff.mp hh
  have hok := hi.jobs row (getJob_mem hrow)
  have he : row.Evolves (heartbeatRow now leaseSeconds row) :=
    ⟨rfl, rfl, rfl, rfl, rfl, rfl, rfl, rfl, le_rfl, fun _ => .inl rfl,
      .inr (lt_succ_self _), fun hs => by simp [hs] at hrun, fun hs => by simp [hs] at hrun⟩
  refine hi.updateJob hrow he ?_ (fun T => Iff.rfl)
  exact hok.update he rfl (by simp [heartbeatRow, hrun]) (by simp [heartbeatRow, hrun])
    hok.running hok.recorded

theorem Inv.finalizeCommandJob {status : JobStatus} {detail : String}
    {failureCode : Option String} {failureClassification : Option FailureClassification}
    (hkind : ∀ row, s.getJob jobId = some row → row.jobKind = .command)
    (h : finalizeCommandJob jobId workerId generation status now detail failureCode
      failureClassification s = .ok (r, s')) : s.Evolves s' ∧ s'.Inv graph := by
  obtain ⟨row, hrow, hh, _, rfl⟩ := finalizeCommandJob_ok h
  obtain ⟨hrun, _, _⟩ := holds_iff.mp hh
  have hok := hi.jobs row (getJob_mem hrow)
  have hcmd := hkind row hrow
  obtain ⟨hstage, hatt⟩ := hok.command hcmd
  have he : row.Evolves (finalizeCommandRow status detail failureCode failureClassification row) :=
    ⟨rfl, rfl, rfl, rfl, rfl, rfl, rfl, rfl, le_rfl, fun _ => .inr rfl,
      .inr (lt_succ_self _), fun hs => by simp [hs] at hrun, fun hs => by simp [hs] at hrun⟩
  have hnot : ∀ {j : JobRecord}, j.jobKind = row.jobKind → j.jobKind ≠ .stage := by
    intro j hj
    rw [hj, hcmd]
    simp
  refine hi.updateJob hrow he ?_ (fun T => by simp [finalizeCommandRow, hatt])
  exact
    { run := hok.run
      command := hok.command
      stage := fun hk => absurd hk (hnot rfl)
      waiting := fun _ => ⟨hatt, fun hk => absurd hk (hnot rfl)⟩
      running := fun hk => absurd hk (hnot rfl)
      attempt := hok.attempt
      recorded := fun hk => absurd hk (hnot rfl)
      succeeded := fun hk => absurd hk (hnot rfl) }

/-- **A new attempt has the results of the dependencies as its inputs.** -/
theorem Inv.ensureStageAttempt
    (h : Store.ensureStageAttempt stableId jobId workerId generation now s = .ok (a, s')) :
    s.Evolves s' ∧ s'.Inv graph := by
  obtain ⟨row, hrow, hkind, hh, ⟨_, _, rfl⟩ | ⟨hnone, plan, stage, s1, hplan, hstage, ha, hins, rfl⟩⟩ :=
    ensureStageAttempt_ok h
  · exact ⟨.refl _, hi⟩
  obtain ⟨hrun, _, _⟩ := holds_iff.mp hh
  have hok := hi.jobs row (getJob_mem hrow)
  obtain ⟨stageId, p, st, hsid, hpid, hp, hst, hdeps⟩ := hok.stage hkind
  -- the plan found by its identity is the plan of the run
  obtain ⟨hpmem, hprun⟩ := getExecutionPlan_spec hp
  have hpp : plan = p := by
    rw [hpid] at hplan
    have hfind : s.plans.find? p.planId = some p := find?_of_mem hpmem
    exact Option.some.inj ((hplan.symm.trans hfind))
  subst hpp
  have hss : stage = st := by
    rw [hsid, Option.getD_some, hst] at hstage
    exact (Option.some.inj hstage).symm
  subst hss
  have hstid : stage.stageId = stageId := stage_stageId hst
  obtain ⟨attempts, hattempts, rfl⟩ := insertAttempt_ok hins
  have hfresh := insert?_fresh hattempts
  have hev1 : s.Evolves { s with attempts } := Evolves.insertAttempt hins
  have hids : row.jobId = jobId := getJob_jobId hrow
  have haStage : a.stageId = stage.stageId := by rw [ha]; rfl
  have haRun : a.runId = row.runId := by rw [ha]; rfl
  have haPhase : a.deliveryPhase = .attemptCreated := by rw [ha]; rfl
  -- the job takes the attempt
  let f := fun r : JobRecord =>
    { r with attemptId := some a.attemptId, revision := r.revision + 1 }
  have he : row.Evolves (f row) :=
    ⟨rfl, rfl, rfl, rfl, rfl, rfl, rfl, rfl, le_rfl, fun _ => .inl rfl,
      .inr (lt_succ_self _), fun hs => by simp [hs] at hrun, fun hs => by simp [hs] at hrun⟩
  have hrow1 : Store.getJob { s with attempts } jobId = some row := hrow
  have hev : s.Evolves (Store.updateJob { s with attempts } jobId f) :=
    hev1.trans (Evolves.updateJob fun j hj => by
      rw [hrow1] at hj
      cases hj
      exact he)
  have haget : (Store.updateJob { s with attempts } jobId f).getStageAttempt a.attemptId =
      some a := by
    change attempts.find? a.attemptId = some a
    rw [find?_insert? hattempts, hfresh]
    simp
  refine ⟨hev, hi.rewrite hev rfl rfl ?_ ?_ ?_⟩
  · intro j' hj'
    rcases updateJob_rows hrow1 hj' with rfl | ⟨hj, _⟩
    swap
    · exact ⟨j', hj, .refl j', .inl rfl⟩
    refine ⟨row, getJob_mem hrow, he, .inr ?_⟩
    have hok' := hok.mono hev
    exact
      { run := hok'.run
        command := fun hk => by rw [hkind] at hk; cases hk
        stage := hok'.stage
        waiting := fun hw => by simp [hrun] at hw
        running := hok'.running
        attempt := by
          intro T hT
          cases hT
          exact ⟨a, haget, haRun, by rw [haStage, hstid]; exact hsid⟩
        recorded := fun hk hr hph => by
          obtain ⟨T, result, hT, _⟩ := hok.recorded hk hr hph
          rw [hnone] at hT
          cases hT
        succeeded := fun _ hs => by simp [hrun] at hs }
  · intro a' ha'
    change a' ∈ attempts.rows at ha'
    rw [insert?_rows hattempts, mem_append, mem_singleton] at ha'
    rcases ha' with ha' | rfl
    · exact .inl ⟨a', ha', .refl a'⟩
    refine .inr ⟨by rw [haRun]; exact hev.run_isSome hok.run, plan, stage, ?_, ?_, ?_, ?_⟩
    · rw [haRun]; exact hp
    · rw [haStage, hstid]; exact hst
    · intro d hd
      rw [haRun]
      exact (hdeps d hd).mono hev
    · rw [haRun, hev.inputArtifactRefs hok.run hdeps, ha]
      rfl
  · intro a' ha'
    change a' ∈ attempts.rows at ha'
    rw [insert?_rows hattempts, mem_append, mem_singleton] at ha'
    have hactive : ∀ T, (Store.updateJob { s with attempts } jobId f).ActiveAttempt T ↔
        (s.ActiveAttempt T ∨ T = a.attemptId) := by
      intro T
      constructor
      · rintro ⟨j', hj', hjrun, hjatt⟩
        rcases updateJob_rows hrow1 hj' with rfl | ⟨hj, _⟩
        · exact .inr (Option.some.inj hjatt).symm
        · exact .inl ⟨j', hj, hjrun, hjatt⟩
      · rintro (⟨j, hj, hjrun, hjatt⟩ | rfl)
        · refine ⟨j, mem_updateJob.mpr ⟨j, hj, ?_⟩, hjrun, hjatt⟩
          rw [if_neg]
          intro hid
          have hget := mem_jobs_iff.mp hj
          rw [hid, hrow] at hget
          cases hget
          rw [hnone] at hjatt
          cases hjatt
        · exact ⟨f row, mem_updateJob.mpr ⟨row, getJob_mem hrow, by rw [if_pos hids]⟩, hrun, rfl⟩
    rw [hactive]
    rcases ha' with ha' | rfl
    · have hne : a'.attemptId ≠ a.attemptId := by
        intro heq
        have := find?_of_mem ha'
        rw [heq, hfresh] at this
        cases this
      simp only [hne, or_false]
      exact hi.sync a' ha'
    · simp [haPhase]

/-- A delivery mark or a recorded result: the job goes on with its attempt. -/
theorem Inv.updateDelivery (hrow : s.getJob jobId = some row)
    (hatt : row.attemptId = some attemptId) (hrun : row.status = .running)
    (he : row.Evolves (f row)) (hfatt : (f row).attemptId = row.attemptId)
    (hfrun : (f row).status = .running)
    (hga : ∀ a : StageAttemptRecord, a.deliveryPhase ≠ .finalized → a.Evolves (g a) ∧
      (g a).deliveryPhase ≠ .finalized) (hok : s.JobOk (f row)) :
    s.Evolves ((s.updateAttempt attemptId g hg).updateJob jobId f hf) ∧
      ((s.updateAttempt attemptId g hg).updateJob jobId f hf).Inv graph := by
  have hrow1 : (s.updateAttempt attemptId g hg).getJob jobId = some row := hrow
  refine hi.updateBoth hrow he ?_ (fun s1 hev _ => hok.mono hev) ?_
  · intro a ha
    exact (hga a (hi.not_finalized (getJob_mem hrow) hrun hatt ha)).1
  · intro a' ha'
    rw [activeAttempt_updateJob hrow1 (fun T => by rw [hfatt, hfrun, hrun])]
    obtain ⟨a, ha, rfl⟩ := mem_updateAttempt.mp ha'
    by_cases hid : a.attemptId = attemptId
    · rw [if_pos hid, hg]
      have hact : s.ActiveAttempt a.attemptId := ⟨row, getJob_mem hrow, hrun, by rw [hid]; exact hatt⟩
      have hnf := (hi.sync a ha).mpr hact
      exact ⟨fun _ => hact, fun _ => (hga a hnf).2⟩
    · rw [if_neg hid]
      exact hi.sync a ha

theorem Inv.markHandlerDeliveryStarted
    (h : markHandlerDeliveryStarted jobId workerId generation now s = .ok (r, s')) :
    s.Evolves s' ∧ s'.Inv graph := by
  obtain ⟨row, attemptId, hrow, hh, _, hatt, _, _, rfl⟩ := markHandlerDeliveryStarted_ok h
  obtain ⟨hrun, _, _⟩ := holds_iff.mp hh
  have hok := hi.jobs row (getJob_mem hrow)
  have he : row.Evolves (markRow row) :=
    ⟨rfl, rfl, rfl, rfl, rfl, rfl, rfl, rfl, le_rfl, fun _ => .inl rfl,
      .inr (lt_succ_self _), fun hs => by simp [hs] at hrun, fun hs => by simp [hs] at hrun⟩
  refine hi.updateDelivery hrow hatt hrun he rfl hrun ?_ ?_
  · intro a ha
    exact ⟨⟨rfl, rfl, rfl, rfl, rfl, .inr (lt_succ_self _), fun hf => absurd hf ha⟩,
      by simp [markAttempt]⟩
  · exact hok.update he rfl (by simp [markRow, hrun]) (by simp [markRow, hrun])
      (fun _ _ => .inr (.inl rfl)) (fun _ _ hph => by simp [markRow] at hph)

/-- A recorded result that counts as success has its outputs published. -/
theorem Inv.recordStageResult (hgood : ∀ row, s.getJob jobId = some row → row.status = .running →
      row.attemptId = some attempt.attemptId → result.status = .succeeded →
      s.GoodOutputs row.runId row.stageId attempt.attemptId result.outputArtifactRefs)
    (h : recordStageResult jobId workerId generation attempt result now s = .ok (r, s')) :
    s.Evolves s' ∧ s'.Inv graph := by
  obtain ⟨row, a, hrow, hh, _, hatt, _, _, _, rfl⟩ := recordStageResult_ok h
  obtain ⟨hrun, _, _⟩ := holds_iff.mp hh
  have hok := hi.jobs row (getJob_mem hrow)
  have he : row.Evolves (recordRow result row) :=
    ⟨rfl, rfl, rfl, rfl, rfl, rfl, rfl, rfl, le_rfl, fun _ => .inl rfl,
      .inr (lt_succ_self _), fun hs => by simp [hs] at hrun, fun hs => by simp [hs] at hrun⟩
  refine hi.updateDelivery hrow hatt hrun he rfl hrun ?_ ?_
  · intro a ha
    exact ⟨⟨rfl, rfl, rfl, rfl, rfl, .inr (lt_succ_self _), fun hf => absurd hf ha⟩,
      by simp [recordAttempt]⟩
  · exact hok.update he rfl (by simp [recordRow, hrun]) (by simp [recordRow, hrun])
      (fun _ _ => .inr (.inr rfl))
      (fun _ _ _ => ⟨attempt.attemptId, result, hatt, rfl, hgood row hrow hrun hatt⟩)

end

variable (s row attempt result) in
/-- The attempt it reports has the stored inputs, the status is a final one, a success has good
outputs. -/
structure FinalizeOk (status : JobStatus) : Prop where
  inputs : ∀ a, s.getStageAttempt attempt.attemptId = some a →
    attempt.inputArtifactRefs = a.inputArtifactRefs
  final : status ≠ .running ∧ status ≠ .queued
  succeeded : status = .succeeded → attempt.outputArtifactRefs = result.outputArtifactRefs ∧
    s.GoodOutputs row.runId row.stageId attempt.attemptId result.outputArtifactRefs
  cancelled : status = .cancelled → attempt.outputArtifactRefs = []

theorem Inv.finalizeStageJob (hi : s.Inv graph) {status : JobStatus} {retryCount : Nat}
    {availableAt : Option Instant}
    (hfin : ∀ row, s.getJob jobId = some row → row.status = .running →
      row.attemptId = some attempt.attemptId → s.FinalizeOk row attempt result status)
    (h : finalizeStageJob jobId workerId generation attempt result status now retryCount
      availableAt s = .ok (r, s')) : s.Evolves s' ∧ s'.Inv graph := by
  obtain ⟨row, a, cancelled, next, hrow, hh, hatt, ha, _, hcan, hnext, _, hn, rfl⟩ :=
    finalizeStageJob_ok h
  obtain ⟨hrun, _, _⟩ := holds_iff.mp hh
  have hok := hi.jobs row (getJob_mem hrow)
  have hf := hfin row hrow hrun hatt
  have hkind : row.jobKind = .stage := by
    cases hk : row.jobKind with
    | stage => rfl
    | command => rw [(hok.command hk).2] at hatt; cases hatt
  have hns : (next row).status = finalStatus cancelled status := by rw [hnext]; rfl
  have hstatus : finalStatus cancelled status ≠ .running ∧ finalStatus cancelled status ≠ .queued := by
    unfold finalStatus
    split
    · simp
    · exact hf.final
  have he : row.Evolves (next row) := by
    rw [hnext]
    exact ⟨rfl, rfl, rfl, rfl, rfl, rfl, rfl, rfl, le_rfl, fun _ => .inr rfl,
      .inr (lt_succ_self _), fun hs => by simp [hs] at hrun, fun hs => by simp [hs] at hrun⟩
  have hnatt : finalStatus cancelled status ≠ .retryWait → (next row).attemptId = row.attemptId := by
    intro hne
    rw [hnext, hatt]
    simp [finalizedJob, hne]
  refine hi.updateBoth hrow he ?_ ?_ ?_
  · intro b hb
    have hnf := hi.not_finalized (getJob_mem hrow) hrun hatt hb
    have hin := hf.inputs b hb
    refine ⟨rfl, rfl, rfl, rfl, ?_, .inr (lt_succ_self _), fun hp => absurd hp hnf⟩
    rw [← hin]
    unfold finalizedAttempt closingAttempt
    split <;> rfl
  · intro s1 hev hget
    have hok' := hok.mono hev
    refine
      { run := by rw [he.runId]; exact hok'.run
        command := fun hk => by rw [he.jobKind, hkind] at hk; cases hk
        stage := by rw [he.jobKind, he.stageId, he.planId, he.runId]; exact hok'.stage
        waiting := fun hw => ?_
        running := fun _ hr => absurd (hns.symm.trans hr) hstatus.1
        attempt := fun hT => ?_
        recorded := fun _ hr => absurd (hns.symm.trans hr) hstatus.1
        succeeded := fun _ hs => ?_ }
    · rw [hns] at hw
      rcases hw with hw | hw
      · exact absurd hw hstatus.2
      · rw [hnext, hw]
        simp [finalizedJob]
    · by_cases hrw : finalStatus cancelled status = .retryWait
      · rw [hnext, hrw] at hT
        simp [finalizedJob] at hT
      · rw [hnatt hrw] at hT
        rw [he.runId, he.stageId]
        exact hok'.attempt hT
    · rw [hns] at hs
      have hcf : cancelled = false ∧ status = .succeeded := by
        unfold finalStatus at hs
        split at hs
        · cases hs
        · exact ⟨by simpa using ‹¬cancelled = true›, hs⟩
      obtain ⟨hc, hst⟩ := hcf
      obtain ⟨hout, hgood⟩ := hf.succeeded hst
      have hrefs : (next row).resultRefs = result.outputArtifactRefs := by
        rw [hnext, hs]
        simp [finalizedJob]
      refine ⟨attempt.attemptId, _, (hnatt (by rw [hs]; simp)).trans hatt, hget a ha, rfl, ?_, ?_⟩
      · rw [hrefs, ← hout, hc]
        rfl
      · rw [he.runId, he.stageId, hrefs]
        exact hgood.mono hev
  · intro a' ha'
    have hrow1 : getJob (s.updateAttempt attempt.attemptId
      (finalizedAttempt (closingAttempt cancelled now attempt))) jobId = some row := hrow
    obtain ⟨b, hb, rfl⟩ := mem_updateAttempt.mp ha'
    by_cases hid : b.attemptId = attempt.attemptId
    · rw [if_pos hid]
      refine ⟨fun hne => absurd rfl hne, ?_⟩
      rintro ⟨j', hj', hjrun, hjatt⟩
      rcases updateJob_rows hrow1 hj' with rfl | ⟨hj, hne⟩
      · exact absurd (hns.symm.trans hjrun) hstatus.1
      · have : j'.attemptId = some attempt.attemptId := by rw [hjatt]; exact congrArg some hid
        exact absurd (by rw [hi.active_unique hj (getJob_mem hrow) this hatt]; exact getJob_jobId hrow)
          hne
    · rw [if_neg hid, hi.sync b hb]
      constructor
      · rintro ⟨j, hj, hjrun, hjatt⟩
        refine ⟨j, mem_updateJob.mpr ⟨j, hj, ?_⟩, hjrun, hjatt⟩
        rw [if_neg]
        intro hjid
        have hget := mem_jobs_iff.mp hj
        rw [hjid, hrow] at hget
        cases hget
        rw [hatt] at hjatt
        exact hid (Option.some.inj hjatt).symm
      · rintro ⟨j', hj', hjrun, hjatt⟩
        rcases updateJob_rows hrow1 hj' with rfl | ⟨hj, _⟩
        · exact absurd (hns.symm.trans hjrun) hstatus.1
        · exact ⟨j', hj, hjrun, hjatt⟩

/-! ## The unfenced transactions -/

/-- It saw the row at that revision, wrote nothing but the status, and left terminal runs alone. -/
structure UpdateRunOk (s : Store) (run : RunRecord) (revision : Nat) : Prop where
  seen : ∀ r, s.getRun run.runId = some r → r.revision = revision →
    run = { r with status := run.status } ∧ r.status ≠ .cancelled ∧
      (r.status = .succeeded → run.status = .succeeded ∨ run.status = .cancelled)

theorem Inv.updateRun (hi : s.Inv graph) {run r : RunRecord} {revision : Nat}
    (hok : ∀ r, s.getRun run.runId = some r → r.revision = revision → r.Evolves (nextRun run r))
    (h : updateRun run revision s = .ok (r, s')) : s.Evolves s' ∧ s'.Inv graph := by
  obtain ⟨stored, hget, hrev, _, rfl⟩ := updateRun_ok h
  have hev : s.Evolves (s.updateRunRow run.runId (nextRun run)) := Evolves.updateRunRow fun r hr => by
    rw [hget] at hr
    cases hr
    exact hok _ hget hrev
  exact ⟨hev, hi.frame hev rfl rfl rfl rfl⟩

theorem UpdateRunOk.evolves {run : RunRecord} {revision : Nat} (h : s.UpdateRunOk run revision)
    {r : RunRecord} (hr : s.getRun run.runId = some r) (hrev : r.revision = revision) :
    r.Evolves (nextRun run r) := by
  obtain ⟨heq, hnc, hsucc⟩ := h.seen r hr hrev
  refine ⟨rfl, ?_, .inr (lt_succ_self _), fun hc => absurd hc hnc, hsucc⟩
  rw [heq]
  rfl

section
variable (hi : s.Inv graph)
include hi

theorem Inv.requestRunCancellation {r : RunRecord}
    (h : requestRunCancellation runId now s = .ok (r, s')) : s.Evolves s' ∧ s'.Inv graph := by
  obtain ⟨run, hget, _, rfl⟩ := requestRunCancellation_ok h
  have hrun : ∀ r : RunRecord, r.Evolves (cancelledRun r) := by
    intro r
    unfold cancelledRun
    split
    · exact .refl r
    · rename_i hne
      exact ⟨rfl, rfl, .inr (Nat.lt_succ_self _), fun _ => rfl, fun hs => absurd (.inl hs) hne⟩
  have hjob : ∀ j : JobRecord, j.Evolves (cancelRow now j) := by
    intro j
    unfold cancelRow
    split <;> rename_i hst
    case h_6 | h_7 | h_8 => exact .refl j
    all_goals exact ⟨rfl, rfl, rfl, rfl, rfl, rfl, rfl, rfl, le_rfl, fun _ => by simp,
        .inr (Nat.lt_succ_self _),
        fun hs => by simp [hs] at hst, fun hs => by simp [hs] at hst⟩
  have hact : ∀ (j : JobRecord) T, ((cancelRow now j).status = .running ∧
      (cancelRow now j).attemptId = some T) ↔ (j.status = .running ∧ j.attemptId = some T) := by
    intro j T
    unfold cancelRow
    split <;> rename_i hst <;> simp [hst]
  have hcancelOk : ∀ j, s.JobOk j → s.JobOk (cancelRow now j) := by
    intro j hj
    by_cases hend : j.status = .succeeded ∨ j.status = .failed ∨ j.status = .cancelled
    · have : cancelRow now j = j := by
        unfold cancelRow
        rcases hend with hs | hs | hs <;> rw [hs]
      rw [this]
      exact hj
    · have hstatus : (cancelRow now j).status = .cancelled ∨
          ((cancelRow now j).status = .running ∧ j.status = .running) := by
        unfold cancelRow
        split <;> rename_i hst <;> simp_all
      have hfields : (cancelRow now j).attemptId = j.attemptId ∧
          (cancelRow now j).deliveryPhase = j.deliveryPhase ∧
          (cancelRow now j).durableResult = j.durableResult := by
        unfold cancelRow
        split <;> exact ⟨rfl, rfl, rfl⟩
      obtain ⟨hatt, hphase, hresult⟩ := hfields
      have he := hjob j
      refine hj.update he hatt ?_ ?_ ?_ ?_
      · rcases hstatus with hc | ⟨hr, _⟩ <;> simp [*]
      · rcases hstatus with hc | ⟨hr, _⟩ <;> simp [*]
      · intro hk hr
        rcases hstatus with hc | ⟨_, hrun⟩
        · rw [hc] at hr
          cases hr
        · rw [hphase]
          exact hj.running (by rw [← he.jobKind]; exact hk) hrun
      · intro hk hr hph
        rcases hstatus with hc | ⟨_, hrun⟩
        · rw [hc] at hr
          cases hr
        · rw [hatt, hresult, he.runId, he.stageId]
          exact hj.recorded (by rw [← he.jobKind]; exact hk) hrun (by rw [← hphase]; exact hph)
  let s1 : Store :=
    { s.updateRunRow runId cancelledRun cancelledRun_runId with
      jobs := s.jobs.update (fun j => j.runId = runId) (cancelRow now) (cancelRow_jobId now) }
  have hrunRow : s.Evolves (s.updateRunRow runId cancelledRun cancelledRun_runId) :=
    Evolves.updateRunRow fun r _ => hrun r
  have hev : s.Evolves s1 :=
    { hrunRow with
      jobs := grows_update _ _ _ (cancelRow_jobId now) JobRecord.Evolves.refl
        fun j _ _ => hjob j }
  have hmem : ∀ j', j' ∈ s1.jobs.rows ↔
      ∃ j ∈ s.jobs.rows, j' = if j.runId = runId then cancelRow now j else j := by
    intro j'
    simp only [s1, update, mem_map, decide_eq_true_eq]
    exact exists_congr fun j => and_congr_right fun _ => eq_comm
  refine ⟨hev, hi.rewrite hev rfl rfl ?_ (fun a ha => .inl ⟨a, ha, .refl a⟩) ?_⟩
  · intro j' hj'
    obtain ⟨j, hj, rfl⟩ := (hmem j').mp hj'
    refine ⟨j, hj, ?_⟩
    by_cases hr : j.runId = runId
    · rw [if_pos hr]
      exact ⟨hjob j, .inr ((hcancelOk j (hi.jobs j hj)).mono hev)⟩
    · rw [if_neg hr]
      exact ⟨.refl j, .inl rfl⟩
  · intro a ha
    rw [hi.sync a ha]
    constructor
    · rintro ⟨j, hj, hstat, hatt⟩
      refine ⟨if j.runId = runId then cancelRow now j else j, (hmem _).mpr ⟨j, hj, rfl⟩, ?_⟩
      split
      · exact (hact j _).mpr ⟨hstat, hatt⟩
      · exact ⟨hstat, hatt⟩
    · rintro ⟨j', hj', hstat, hatt⟩
      obtain ⟨j, hj, rfl⟩ := (hmem j').mp hj'
      refine ⟨j, hj, ?_⟩
      split at hstat
      · rename_i hr
        rw [if_pos hr] at hatt
        exact (hact j _).mp ⟨hstat, hatt⟩
      · rename_i hr
        rw [if_neg hr] at hatt
        exact ⟨hstat, hatt⟩

theorem Inv.resumeJob (h : resumeJob jobId now s = .ok (r, s')) : s.Evolves s' ∧ s'.Inv graph := by
  obtain ⟨row, hrow, hst, _, rfl⟩ := resumeJob_ok h
  have hok := hi.jobs row (getJob_mem hrow)
  have he : row.Evolves (resumedRow now row) :=
    ⟨rfl, rfl, rfl, rfl, rfl, rfl, rfl, rfl, le_rfl, fun _ => .inr rfl,
      .inr (lt_succ_self _), fun hs => by simp [hs] at hst, fun hs => by simp [hs] at hst⟩
  refine hi.updateJob hrow he ?_ ?_
  · exact
      { run := hok.run
        command := fun hk => ⟨(hok.command hk).1, rfl⟩
        stage := hok.stage
        waiting := fun _ => ⟨rfl, fun _ => rfl⟩
        running := fun _ hr => by cases hr
        attempt := fun hT => by cases hT
        recorded := fun _ hr => by cases hr
        succeeded := fun _ hs => by cases hs }
  · intro T
    constructor
    · rintro ⟨hr, _⟩
      cases hr
    · rintro ⟨hr, _⟩
      simp [hr] at hst

theorem Inv.insertJob (h : s.insertJob j = .ok s') (hok : s.JobOk j) (hqueued : j.status = .queued)
    (hnew : ∀ stageId, j.stageId = some stageId → s.getStageJob j.runId stageId = none) :
    s.Evolves s' ∧ s'.Inv graph := by
  have hev := Evolves.insertJob h
  obtain ⟨jobs, hjobs, rfl⟩ := insertJob_ok h
  have hrows := insert?_rows hjobs
  have hmem : ∀ k, k ∈ jobs.rows ↔ k ∈ s.jobs.rows ∨ k = j := by
    intro k
    rw [hrows, mem_append, mem_singleton]
  have hne : ∀ k ∈ s.jobs.rows, k.runId = j.runId → k.stageId = j.stageId → k.stageId ≠ none →
      False := by
    intro k hk hr hs hns
    obtain ⟨stageId, hid⟩ := Option.ne_none_iff_exists'.mp hns
    have hnone := find?_eq_none.mp (hnew stageId (hs ▸ hid)) k hk
    simp [hr, hid] at hnone
  refine ⟨hev, ?_⟩
  exact
    { planRuns := hi.planRuns
      phases := hi.phases
      jobs := by
        intro k hk
        rcases (hmem k).mp hk with hk | rfl
        · exact (hi.jobs k hk).mono hev
        · exact hok.mono hev
      stages := by
        intro a ha b hb hr hs hns
        rcases (hmem a).mp ha with ha | rfl <;> rcases (hmem b).mp hb with hb | rfl
        · exact hi.stages a ha b hb hr hs hns
        · exact (hne a ha hr hs hns).elim
        · exact (hne b hb hr.symm hs.symm (by rw [← hs]; exact hns)).elim
        · rfl
      attempts := fun a ha => (hi.attempts a ha).mono hev (.refl a)
      sync := by
        intro a ha
        rw [hi.sync a ha]
        constructor
        · rintro ⟨k, hk, hrest⟩
          exact ⟨k, (hmem k).mpr (.inl hk), hrest⟩
        · rintro ⟨k, hk, hstat, hatt⟩
          rcases (hmem k).mp hk with hk | rfl
          · exact ⟨k, hk, hstat, hatt⟩
          · rw [hqueued] at hstat
            cases hstat
      evidence := hi.evidence }

/-- **A stage is enqueued only once its hard dependencies have succeeded.** -/
theorem Inv.enqueueStageJob {planId stageId : String}
    {parentJobId : Option String} {availableAt : Instant}
    (hready : ∀ p st, s.getExecutionPlan runId = some p → p.planId = planId →
      p.stage stageId = some st → ∀ d ∈ st.dependencies, s.StageSucceeded runId d)
    (hrun : (s.getRun runId).isSome)
    (h : enqueueStageJob stableId runId planId stageId parentJobId availableAt s =
      .ok (r, s')) : s.Evolves s' ∧ s'.Inv graph := by
  obtain ⟨plan, stage, hplan, hprun, hstage, ⟨_, rfl⟩ | ⟨hnone, rfl, hins⟩⟩ := enqueueStageJob_ok h
  · exact ⟨.refl _, hi⟩
  have hpid : plan.planId = planId := by simpa using find?_some hplan
  have hget : s.getExecutionPlan runId = some plan := by
    have hmem := mem_of_find? hplan
    cases hfind : s.getExecutionPlan runId with
    | none =>
      have := find?_eq_none.mp hfind plan hmem
      simp [hprun] at this
    | some q =>
      obtain ⟨hq, hqrun⟩ := getExecutionPlan_spec hfind
      rw [hi.planRuns q hq plan hmem (hqrun.trans hprun.symm)]
  have hsid : stage.stageId = stageId := stage_stageId hstage
  refine hi.insertJob hins ?_ rfl ?_
  · exact
      { run := hrun
        command := fun hk => by cases hk
        stage := fun _ => ⟨stageId, plan, stage, congrArg some hsid, congrArg some hpid.symm, hget,
          hstage, hready plan stage hget hpid hstage⟩
        waiting := fun _ => ⟨rfl, fun _ => rfl⟩
        running := fun _ hr => by cases hr
        attempt := fun hT => by cases hT
        recorded := fun _ hr => by cases hr
        succeeded := fun _ hs => by cases hs }
  · intro sid hs
    cases hs
    rw [hsid]
    exact hnone

/-- It saw the stored plan, and the candidate is what that plan may become. -/
theorem Inv.advanceExecutionPlan {plan r : ExecutionPlan} {expected : PlanData}
    (hphase : plan.InPhase graph)
    (hok : ∀ p, s.getExecutionPlan plan.runId = some p → p.contentHash = expected →
      p.Evolves plan) (h : advanceExecutionPlan plan expected s = .ok (r, s')) :
    s.Evolves s' ∧ s'.Inv graph := by
  obtain ⟨stored, hget, hid, hhash, _, rfl⟩ := advanceExecutionPlan_ok h
  obtain ⟨hmem, hrun⟩ := getExecutionPlan_spec hget
  have hsev := hok stored hget hhash
  have honly : ∀ p ∈ s.plans.rows, p.planId = plan.planId → p = stored := by
    intro p hp hpid
    have h1 : s.plans.find? p.planId = some p := find?_of_mem hp
    have h2 : s.plans.find? stored.planId = some stored := find?_of_mem hmem
    rw [hpid, ← hid, h2] at h1
    exact (Option.some.inj h1).symm
  have hev : s.Evolves (s.replacePlan plan) :=
    { Evolves.refl s with
      plans := grows_update _ _ _ (fun p => by by_cases h : p.planId = plan.planId <;> simp [h])
        ExecutionPlan.Evolves.refl fun p hp hpid => by
        have hpid' : p.planId = plan.planId := by simpa using hpid
        rw [if_pos hpid', honly p hp hpid']
        exact hsev }
  have hpmem : ∀ q, q ∈ (s.replacePlan plan).plans.rows →
      q = plan ∨ (q ∈ s.plans.rows ∧ q.planId ≠ plan.planId) := by
    intro q hq
    simp only [replacePlan, update, mem_map, decide_eq_true_eq] at hq
    obtain ⟨p, hp, rfl⟩ := hq
    by_cases hpid : p.planId = plan.planId
    · simp [hpid]
    · simp [hpid, hp]
  refine ⟨hev, ?_⟩
  exact
    { planRuns := by
        intro p hp q hq hpq
        have hother : ∀ q ∈ s.plans.rows, q.planId ≠ plan.planId → plan.runId = q.runId → False := by
          intro q hq hne hr
          have := hi.planRuns stored hmem q hq (hrun.trans hr)
          exact hne (by rw [← this]; exact hid)
        rcases hpmem p hp with hpe | ⟨hp, hpne⟩ <;> rcases hpmem q hq with hqe | ⟨hq, hqne⟩
        · rw [hpe, hqe]
        · exact (hother q hq hqne (hpe ▸ hpq)).elim
        · exact (hother p hp hpne (hqe ▸ hpq).symm).elim
        · exact hi.planRuns p hp q hq hpq
      phases := by
        intro p hp
        rcases hpmem p hp with rfl | ⟨hp, _⟩
        · exact hphase
        · exact hi.phases p hp
      jobs := fun j hj => (hi.jobs j hj).mono hev
      stages := hi.stages
      attempts := fun a ha => (hi.attempts a ha).mono hev (.refl a)
      sync := hi.sync
      evidence := hi.evidence }

theorem Inv.registerReviewSubjectContext {context r : ReviewCompatibilityContext}
    (h : registerReviewSubjectContext runId context s = .ok (r, s')) :
    s.Evolves s' ∧ s'.Inv graph := by
  rcases registerReviewSubjectContext_ok h with rfl | ⟨reviewContexts, hins, rfl⟩
  · exact ⟨.refl _, hi⟩
  have hev : s.Evolves { s with reviewContexts } :=
    { Evolves.refl s with reviewContexts := grows_insert? (fun _ => rfl) hins }
  exact ⟨hev, hi.frame hev rfl rfl rfl rfl⟩

end

end DirtyDataOlap.Store

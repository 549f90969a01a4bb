import DirtyDataOlap.FailedRuns
import DirtyDataOlap.HandlerDelivery

/-!
# Unknown outcomes

A handler whose outcome is unknown must not be invoked again.  `_resume_command` looks at the
classification in the jobs it has listed, and `resume_job` re-checks the status only, so a command that
stalls in between queues a job whose outcome became unknown meanwhile; and a delivery that finds a
recorded result still ends as `PREREQUISITE_NOT_SUCCEEDED` if it sees a dependency that has not
succeeded.  Where neither happens (`Careful`), **an unknown outcome stays, and no delivery is started
after it**.
-/
namespace DirtyDataOlap

open List Record World Store

variable {env : Env} {x y : Prop} {w : World} {m : Move} {jobId : String}

/-- The outcome is unknown: recorded so for the job at work, or stored so with the job at rest. -/
def JobRecord.OutcomeUnknown (row : JobRecord) : Prop :=
  (row.status = .running ∧ row.deliveryPhase = .resultRecorded ∧
      ∃ result ∈ row.durableResult, result.failureClassification = some .unknownSideEffect) ∨
    (row.status ∉ [.queued, .retryWait, .running] ∧
      row.failureClassification = some .unknownSideEffect)

/-- Neither the job nor its recorded result is `BLOCKED` or `NEEDS_REVIEW`: those may be resumed. -/
def JobRecord.NotWaiting (row : JobRecord) : Prop :=
  row.status ∉ [.blocked, .needsReview] ∧
    ∀ result ∈ row.durableResult, result.status ∉ [.blocked, .needsReview]

instance (row : JobRecord) : Decidable row.OutcomeUnknown := inferInstanceAs (Decidable (_ ∨ _))

instance (row : JobRecord) : Decidable row.NotWaiting := inferInstanceAs (Decidable (_ ∧ _))

/-- No iteration re-reads a job that its worker has claimed again, queues a job that has changed since
the iteration listed it, or finalizes one with a recorded result as `PREREQUISITE_NOT_SUCCEEDED`. -/
structure Careful (w : World) (m : Move) : Prop where
  uncontested : NotContested w m
  asListed : ∀ i ω l jobId now k, m = .step i ω →
    w.threads[i]? = some ⟨l, some (.act (.write (.resumeJob jobId now)) k)⟩ →
    ∀ runId listed, w.config.Did i (.read (.jobs runId)) (.ok listed) → ∀ j ∈ listed,
      j.jobId = jobId → w.config.state.getJob jobId = some j
  recorded : ∀ i ω l lease attempt result status now retries availableAt k, m = .step i ω →
    w.threads[i]? = some ⟨l, some (.act
      (.fenced lease (.finalizeStage attempt result status now retries availableAt)) k)⟩ →
    result.status = .blocked → result.failureCode = some "PREREQUISITE_NOT_SUCCEEDED" →
    ∀ row, w.config.state.getJob l.jobId = some row → row.deliveryPhase ≠ .resultRecorded

/-- What an unknown outcome becomes: it is finalized as failed, unless the handler or a cancellation
said otherwise. -/
def JobRecord.Decided (row : JobRecord) : Prop :=
  (row.status = .running ∧ row.deliveryPhase = .resultRecorded ∧
      ∃ result, row.durableResult = some result ∧
        result.failureClassification = some .unknownSideEffect ∧
        result.status ∉ [.blocked, .needsReview]) ∨
    (row.status = .failed ∧ row.failureClassification = some .unknownSideEffect) ∨
    row.status = .succeeded ∨ row.status = .cancelled

theorem JobRecord.OutcomeUnknown.decided {row : JobRecord} (h : row.OutcomeUnknown)
    (hw : row.NotWaiting) : row.Decided := by
  rcases h with ⟨hrun, hphase, result, hresult, hunknown⟩ | ⟨hrest, hunknown⟩
  · exact .inl ⟨hrun, hphase, result, hresult, hunknown, hw.2 result hresult⟩
  · have hwait := hw.1
    cases hst : row.status <;> simp_all [Decided]

/-- **An unknown outcome stays**: one sound action. -/
theorem JobRecord.Decided.act {i : Nat} {l : Lease} {a : Act}
    {k : Except Exc a.Reply → Prog Act.Reply Exc WorkerOutcome} {ω : Input} {row row' : JobRecord}
    (hth : w.threads[i]? = some ⟨l, some (.act a k)⟩)
    (hsound : Sound env.graph True i l w.config a) (hcare : Careful w (.step i ω))
    (hrow : w.config.state.getJob jobId = some row) (hstage : row.jobKind = .stage)
    (hchange : JobChange w.config.state a row row') (h : row.Decided) : row'.Decided := by
  -- a job whose lease is in force has its result recorded
  have recorded : ∀ {lease : Lease}, holds lease.workerId lease.generation row = true →
      row.deliveryPhase = .resultRecorded ∧ ∃ result, row.durableResult = some result ∧
        result.failureClassification = some .unknownSideEffect ∧
        result.status ∉ [.blocked, .needsReview] := by
    intro lease hh
    have hrun := (holds_iff.mp hh).1
    rcases h with ⟨_, h⟩ | ⟨hst, _⟩ | hst | hst
    · exact h
    all_goals rw [hrun] at hst; cases hst
  cases hchange with
  | same => exact h
  | claim hclaim => exact hsound.elim
  | heartbeat hid hh => exact h
  | ensureAttempt hid hh hnone hfresh => exact h
  | mark hid hh hkind hatt =>
    have hl := hsound.1.row hid hrow
    exact absurd (recorded hh).1 (hsound.2 trivial row hl (hsound.1.holds trivial hl hh)).1
  | record hid hh hkind hatt =>
    have hl := hsound.1.row hid hrow
    exact absurd (recorded hh).1 (hsound.2.first trivial row hl (hsound.1.holds trivial hl hh))
  | @finalize lease now _ attempt result status retryCount availableAt cancelled hid hh hatt hcan =>
    have hl := hsound.1.row hid hrow
    obtain ⟨hphase, known, hknown, hunknown, hwait⟩ := recorded hh
    have hstatus : FinalStatus result status := hsound.2.status
    unfold Decided finalizedJob finalStatus
    by_cases hc : cancelled = true
    · exact .inr (.inr (.inr (if_pos hc)))
    rcases hsound.2.recorded trivial row hl (hsound.1.holds trivial hl hh) hphase with
      heq | hcancel | ⟨hblocked, hcode⟩
    · cases hknown.symm.trans heq
      cases hres : result.status <;> simp_all [FinalStatus]
    · simp_all [FinalStatus]
    · exact absurd hphase (hcare.recorded i ω l lease attempt result status now retryCount availableAt
        k rfl hth hblocked hcode row hl)
  | finalizeCommand hid hh =>
    cases (hsound.2.kind row (hsound.1.row hid hrow)).symm.trans hstage
  | cancel =>
    unfold cancelRow
    split
    any_goals exact .inr (.inr (.inr rfl))
    all_goals exact h
  | @resume now row hst =>
    -- what is queued again is as it was listed
    obtain ⟨runId, listed, hlist, candidate, hmem, hid, _, hcandidate⟩ := hsound
    have hsame := hcare.asListed i ω l row.jobId now k rfl hth runId listed hlist candidate hmem hid
    rw [getJob_jobId hrow, hrow] at hsame
    cases hsame
    rcases h with ⟨hrun, _⟩ | ⟨hfailed, hunknown⟩ | hsucc | hcan
    all_goals simp_all

/-- What holds from when the outcome of the job has become unknown, with this trace. -/
structure Reconciling (env : Env) (jobId : String) (before : List Record) (w : World) : Prop where
  deliveries : Deliveries env w
  decided : ∃ row, w.config.state.getJob jobId = some row ∧ row.jobKind = .stage ∧ row.Decided
  marks : ∀ e ∈ w.config.trace, ∀ r, marked e = some r → r.jobId = jobId → e ∈ before

/-- **Every careful move leaves an unknown outcome alone**, and starts no delivery of the job. -/
theorem Reconciling.move {before : List Record} (h : Reconciling env jobId before w)
    (hm : Careful w m) : Reconciling env jobId before (w.move env m) := by
  have hd := h.deliveries.move hm.uncontested
  have hk := h.deliveries.kept
  obtain ⟨row, hrow, hstage, hdecided⟩ := h.decided
  obtain ⟨row', hrow', he⟩ := (hk.move_evolves m).getJob hrow
  have hdecided' : row'.Decided := by
    have hch := hk.change m
    generalize hc : (w.move env m).config = c at hch hrow'
    cases hch with
    | idle =>
      cases hrow.symm.trans hrow'
      exact hdecided
    | act hth hexec hsound =>
      rcases exec_getJob hexec hrow' with ⟨row1, hrow1, hchange⟩ | ⟨hnone, _⟩
      · cases hrow.symm.trans hrow1
        exact hdecided.act hth hsound hm hrow hstage hchange
      · cases hnone.symm.trans hrow
    | claim hclaim =>
      obtain ⟨row1, hrow1, hclaimable, _, rfl, _⟩ := hclaim.spec
      rcases getJob_updateJob_cases hrow' with hrow' | ⟨row2, hid, hrow2, rfl⟩
      · cases hrow.symm.trans hrow'
        exact hdecided
      · cases hrow.symm.trans hrow2
        rw [hid, hrow1] at hrow
        cases hrow
        rcases hdecided with ⟨_, hrecorded⟩ | ⟨hst, _⟩ | hst | hst
        · exact .inl ⟨rfl, hrecorded⟩
        all_goals simp [claimable, hst] at hclaimable
    | client hstep =>
      rcases hstep.jobs jobId row' hrow' with hold | ⟨hnone, _⟩
      · cases hrow.symm.trans hold
        exact hdecided
      · cases hnone.symm.trans hrow
  refine ⟨hd, ⟨row', hrow', he.jobKind.trans hstage, hdecided'⟩, fun e hmem r hmark hid => ?_⟩
  have hch := hk.change m
  have hfaithful := hd.kept.coherent.history.faithful
  generalize hc : (w.move env m).config = c at hch hrow' hmem hfaithful
  -- the entry of a mark would leave the job in an earlier phase
  have added : ∀ {i a r' s}, c = w.config.log i a r' s → e ∈ before := by
    rintro i a r' s rfl
    rcases mem_cons.mp hmem with rfl | hmem
    · obtain ⟨lease, now, _, hget⟩ := marked_eq_some hmark
      obtain ⟨hget, hrun, hphase⟩ := hget (hfaithful _ (mem_cons_self ..))
      rw [← getJob_jobId hget, hid] at hget
      cases hget.symm.trans hrow'
      rcases hdecided' with ⟨_, hrecorded, _⟩ | ⟨hst, _⟩ | hst | hst
      · cases hphase.symm.trans hrecorded
      all_goals cases hrun.symm.trans hst
    · exact h.marks e hmem r hmark hid
  cases hch with
  | idle => exact h.marks e hmem r hmark hid
  | act hth hexec hsound => exact added rfl
  | claim hclaim => exact added rfl
  | client hstep => exact h.marks e hmem r hmark hid

/-- The job is at rest or at work for good: it is not queued again, and its handler is invoked only for
deliveries that had been started before. -/
def NotReplayed (env : Env) (jobId : String) (moves later : List Move) : Prop :=
  (∀ row, (run env initial (moves ++ later)).config.state.getJob jobId = some row →
    row.status ≠ .queued ∧ row.status ≠ .retryWait) ∧
  ∀ e ∈ (run env initial (moves ++ later)).config.trace, ∀ request, e.act.execution = some request →
    request.jobId = jobId → ∃ m ∈ (run env initial moves).config.trace, ∃ r, marked m = some r ∧
      r.jobId = jobId ∧ r.attemptId = some request.attemptId

/-- **No blind replay**: where every move is careful, a stage job whose outcome is unknown, and that was
not answered as `BLOCKED` or `NEEDS_REVIEW`, is never queued or delivered again. -/
theorem unknown_outcome_not_replayed (moves later : List Move)
    (hcareful : ∀ ms1 m ms2, moves ++ later = ms1 ++ m :: ms2 → Careful (run env initial ms1) m)
    {row : JobRecord} (hrow : (run env initial moves).config.state.getJob jobId = some row)
    (hstage : row.jobKind = .stage) (hunknown : row.OutcomeUnknown) (hwait : row.NotWaiting) :
    NotReplayed env jobId moves later := by
  have hd : Deliveries env (run env initial moves) := deliveries_run moves fun ms1 m ms2 heq =>
    (hcareful ms1 m (ms2 ++ later) (by rw [heq, append_assoc, cons_append])).uncontested
  have h : Reconciling env jobId (run env initial moves).config.trace
      (run env initial (moves ++ later)) := by
    rw [run_append]
    refine run_induction (fun w m h hm => Reconciling.move h hm) _
      ⟨hd, ⟨row, hrow, hstage, hunknown.decided hwait⟩, fun e he _ _ _ => he⟩ later ?_
    intro ms1 m ms2 heq
    rw [← run_append]
    exact hcareful (moves ++ ms1) m ms2 (by rw [heq, append_assoc])
  refine ⟨fun row' hrow' => ?_, fun e he request hreq hjob => ?_⟩
  · obtain ⟨row1, hrow1, _, hdecided⟩ := h.decided
    cases hrow'.symm.trans hrow1
    rcases hdecided with ⟨hst, _⟩ | ⟨hst, _⟩ | hst | hst <;> simp [hst]
  · obtain ⟨t1, t2, ht⟩ := append_of_mem he
    obtain ⟨⟨m, hmem, _, r, hmark, hmjob, hmatt⟩, _⟩ := h.deliveries.invocation e t2 ⟨t1, ht.symm⟩ request hreq
    have hm : m ∈ (run env initial (moves ++ later)).config.trace := by
      rw [ht]
      exact mem_append_right _ (mem_cons_of_mem _ hmem)
    rw [hjob] at hmjob
    exact ⟨m, h.marks m hm r hmark hmjob, r, hmark, hmjob, hmatt⟩

/-! ## A resume that stalls -/

/-- A check that the move is careful, for schedules in which nothing is queued again or blocked. -/
def careful (w : World) : Move → Bool
  | .step i ω => notContested w (.step i ω) && (w.threads[i]?).all fun t =>
    match t.next with
    | some (.write (.resumeJob _ _)) => false
    | some (.fenced _ (.finalizeStage _ result _ _ _ _)) => result.status ≠ .blocked
    | _ => true
  | _ => true

theorem careful_spec (h : careful w m = true) : Careful w m := by
  cases m with
  | step i ω =>
    obtain ⟨hcontested, hnext⟩ := Bool.and_eq_true_iff.mp h
    refine ⟨notContested_spec hcontested, ?_, ?_⟩
    · rintro _ _ l jobId now k ⟨⟩ hth
      simp [hth, Thread.next] at hnext
    · rintro _ _ l lease attempt result status now retries availableAt k ⟨⟩ hth hblocked
      simp [hth, Thread.next, hblocked] at hnext
  | _ => exact ⟨trivial, by rintro _ _ _ _ _ _ ⟨⟩, by rintro _ _ _ _ _ _ _ _ _ _ _ ⟨⟩⟩

/-- A job is claimed, and its iteration performs its next `n` actions. -/
def served (i n : Nat) (now : Instant) : List Move := .runOnce {} now :: steps i n { clock := now }

def resumption (i n : Nat) (now : Instant) : List Move :=
  .client (.submitCommand (sampleCommand "resume" .resume now)) :: served i n now

theorem unknown_outcome_not_replayed_abandoned :
    NotReplayed deployment "stage-job-run-1-PROFILING" abandoned (resumption 3 9 40000000) := by
  have hrow : (((run deployment initial abandoned).config.state.getJob
      "stage-job-run-1-PROFILING").any fun row => row.jobKind = .stage ∧ row.OutcomeUnknown ∧
        row.NotWaiting) = true := by decide +kernel
  have hcheck : checks deployment careful initial (abandoned ++ resumption 3 9 40000000) = true := by
    decide +kernel
  obtain ⟨row, hrow, h⟩ := (Option.any_eq_true ..).mp hrow
  obtain ⟨hstage, hunknown, hwait⟩ := of_decide_eq_true h
  exact unknown_outcome_not_replayed abandoned (resumption 3 9 40000000) (fun ms1 m ms2 heq =>
    careful_spec (checks_spec hcheck ms1 m ms2 heq)) hrow hstage hunknown hwait

/-- The stage fails, and a resume stalls once it has listed it; its lease expires, and the worker that
claims the command again queues the job.  The next attempt is marked and lost, its outcome unknown. -/
def overtaken : List Move :=
  submission samplePlan ++ served 0 5 0 ++ .runOnce {} 0 :: steps 1 30 failing ++
    resumption 2 3 1 ++ served 3 9 31000000 ++ served 4 11 31000000 ++
    .crash 4 :: served 5 14 62000000

/-- The stalled resume queues the job, and its handler is invoked for another attempt. -/
theorem unknown_outcome_replayed :
    (((run deployment initial overtaken).config.state.getJob "stage-job-run-1-PROFILING").any
      fun row => row.replaySafety ≠ .replaySafe ∧ row.OutcomeUnknown) = true ∧
    ((run deployment initial (overtaken ++ steps 2 1 {})).config.state.getJob
      "stage-job-run-1-PROFILING").map (·.status) = some .queued ∧
    (run deployment initial (overtaken ++ steps 2 1 {} ++ served 6 11 62000000)).config.trace.countP
      (invokes "stage-job-run-1-PROFILING" "attempt-stage-job-run-1-PROFILING-3") = 1 := by
  decide +kernel

end DirtyDataOlap

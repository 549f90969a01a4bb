import DirtyDataOlap.VerifiedWorlds

/-!
# What one move changes

The inversion lemmas behind every invariant of the system.  `Change`: a move did nothing, one action
of a verified iteration, a claim, or a client operation.  `exec_getRun` and `exec_getJob`: how a
single action can have changed the row of a run or of a job (`JobChange`).  No proof after this
module looks into `exec`.
-/
namespace DirtyDataOlap

open Store

variable {env : Env} {x y : Prop}

/-- What a move does to the store and the trace. -/
inductive Change (env : Env) (x : Prop) (w : World) : Move → Scene → Prop
  | idle {m : Move} : Change env x w m w.config
  | act {i : Nat} {ω : Input} {l : Lease} {a : Act}
      {k : Except Exc a.Reply → Prog Act.Reply Exc WorkerOutcome} {r : Except Exc a.Reply}
      {s : Store} (hth : w.threads[i]? = some ⟨l, some (.act a k)⟩)
      (hexec : exec env a ω w.config.state = (r, s)) (hsound : Sound env.graph x i l w.config a) :
      Change env x w (.step i ω) (w.config.log i a r s)
  | claim {cfg : WorkerConfig} {now : Instant} {job : JobRecord} {s : Store}
      (hclaim : Claims w cfg now job s) :
      Change env x w (.runOnce cfg now)
        (w.config.log w.threads.length (claimAct cfg now) (.ok (some job)) s)
  | client {op : ClientOp} (hstep : Store.ClientStep env.graph w.config.state
      (op.apply env w.config.state)) :
      Change env x w (.client op) { w.config with state := op.apply env w.config.state }

variable {w : World} {s s' : Store} {jobId : String} {row' : JobRecord}

/-- **What a move of a verified world does.** -/
theorem World.Kept.change (h : World.Kept env x y w) (m : Move) :
    Change env x w m (w.move env m).config := by
  cases m with
  | runOnce cfg now =>
    change Change env x w _ (w.runOnce env cfg now).config
    rcases w.runOnce_cases env cfg now with heq | ⟨job, s, hcl, heq⟩
    · rw [heq]
      exact .idle
    · rw [heq]
      exact .claim hcl
  | step i ω =>
    change Change env x w _ (w.advance (exec env) i ω).config
    rcases w.advance_cases (exec env) i ω with heq | ⟨l, a, k, r, s, hth, hexec, heq⟩
    · rw [heq]
      exact .idle
    · rw [heq]
      exact .act hth hexec (h.verified.guar (contract_compatible env x y) hth hexec)
  | crash i =>
    change Change env x w _ (w.kill i).config
    rcases w.kill_cases i with heq | ⟨t, _, heq⟩
    · rw [heq]
      exact .idle
    · rw [heq]
      exact .idle
  | client op => exact .client (op.apply_step h.coherent.inv)

theorem World.Kept.move_evolves (h : World.Kept env x y w) (m : Move) :
    w.config.state.Evolves (w.move env m).config.state := by
  have hch := h.change m
  generalize (w.move env m).config = c at hch
  cases hch with
  | idle => exact .refl _
  | act hth hexec hsound => exact (hsound.step h.coherent.inv hexec).1
  | claim hclaim =>
    obtain ⟨_, _, _, _, _, hok⟩ := hclaim.spec
    exact (h.coherent.inv.claimNextJob hok).1
  | client hstep => exact hstep.evolves

theorem World.Reachable.move (h : Reachable env w) (m : Move) : Reachable env (w.move env m) := by
  obtain ⟨moves, rfl⟩ := h
  exact ⟨moves ++ [m], by rw [run_append, run_cons, run_nil]⟩

theorem World.Reachable.run (h : Reachable env w) (later : List Move) :
    Reachable env (World.run env w later) := by
  obtain ⟨moves, rfl⟩ := h
  exact ⟨moves ++ later, (run_append ..).symm⟩

/-- The store evolves along every schedule. -/
theorem World.Reachable.run_evolves (h : Reachable env w) (later : List Move) :
    w.config.state.Evolves (World.run env w later).config.state := by
  induction later generalizing w with
  | nil => exact .refl _
  | cons m later ih => exact (h.kept.move_evolves m).trans (ih (h.move m))

/-- What a schedule adds to the trace leaves states into which the store has
evolved. -/
theorem World.Reachable.run_trace (h : Reachable env w) (later : List Move) :
    ∃ new, (World.run env w later).config.trace = new ++ w.config.trace ∧
      ∀ e ∈ new, w.config.state.Evolves e.after := by
  induction later generalizing w with
  | nil => exact ⟨[], rfl, fun e he => by cases he⟩
  | cons m later ih =>
    obtain ⟨new, htrace, hnew⟩ := ih (h.move m)
    have hev := h.kept.move_evolves m
    rw [run_cons]
    have hch := h.kept.change m
    generalize (w.move env m).config = c at hch htrace hnew hev
    have hnew' : ∀ e ∈ new, w.config.state.Evolves e.after := fun e he => hev.trans (hnew e he)
    have hadd : ∀ {i a r}, c = w.config.log i a r c.state →
        ∃ new, (World.run env (w.move env m) later).config.trace = new ++ w.config.trace ∧
          ∀ e ∈ new, w.config.state.Evolves e.after := by
      intro i a r hc
      refine ⟨new ++ [⟨i, a, r, c.state⟩], ?_, ?_⟩
      · rw [htrace, hc, List.append_assoc]
        rfl
      · intro e he
        rcases List.mem_append.mp he with he | he
        · exact hnew' e he
        · rw [List.mem_singleton.mp he]
          exact hev
    cases hch with
    | idle => exact ⟨new, htrace, hnew'⟩
    | act hth hexec hsound => exact hadd rfl
    | claim hclaim => exact hadd rfl
    | client hstep => exact ⟨new, htrace, hnew'⟩

/-- **Induction over the trace**: what every sound action establishes of its entry holds of every
entry. -/
theorem World.Reachable.entries (h : Reachable env w) {P : Record → List Record → Prop}
    (hact : ∀ {c : Scene} {i l a ω r s}, Coherent env.graph c → Sound env.graph False i l c a →
      exec env a ω c.state = (r, s) → P ⟨i, a, r, s⟩ c.trace)
    (hclaim : ∀ i cfg now job s t, P ⟨i, claimAct cfg now, .ok (some job), s⟩ t) :
    ∀ e t, (e :: t) <:+ w.config.trace → P e t := by
  obtain ⟨moves, rfl⟩ := h
  have hstep : ∀ w m, (Reachable env w ∧ ∀ e t, (e :: t) <:+ w.config.trace → P e t) → True →
      Reachable env (w.move env m) ∧ ∀ e t, (e :: t) <:+ (w.move env m).config.trace → P e t := by
    rintro w m ⟨h, hall⟩ _
    refine ⟨h.move m, ?_⟩
    have hch := h.kept.change m
    generalize (w.move env m).config = c at hch
    intro e t hsuf
    cases hch with
    | idle => exact hall e t hsuf
    | act hth hexec hsound =>
      rcases suffix_cons_cases hsuf with ⟨rfl, rfl⟩ | hsuf
      · exact hact h.kept.coherent hsound hexec
      · exact hall e t hsuf
    | claim hcl =>
      rcases suffix_cons_cases hsuf with ⟨rfl, rfl⟩ | hsuf
      · exact hclaim ..
      · exact hall e t hsuf
    | client hstep => exact hall e t hsuf
  refine (run_induction hstep initial ⟨⟨[], rfl⟩, ?_⟩ moves fun _ _ _ _ => trivial).2
  intro e t hsuf
  simp [initial] at hsuf

/-- How an action can have changed the row of a run. -/
inductive RunChange (runId : String) : Act → RunRecord → RunRecord → Prop
  | same {a : Act} {run : RunRecord} : RunChange runId a run run
  | update {new run : RunRecord} {revision : Nat} (hid : new.runId = runId)
      (hrev : run.revision = revision) :
      RunChange runId (.write (.updateRun new revision)) run (nextRun new run)
  | cancel {now : Instant} {run : RunRecord} :
      RunChange runId (.write (.requestRunCancellation runId now)) run (cancelledRun run)

theorem Store.getRun_of_runs (h : s'.runs = s.runs) (runId : String) :
    s'.getRun runId = s.getRun runId := by
  unfold getRun
  rw [h]

/-- **What an action can have done to a run.** -/
theorem exec_getRun {a : Act} {ω : Input} {r : Except Exc a.Reply} (h : exec env a ω s = (r, s'))
    {runId : String} {run' : RunRecord} (hrun' : s'.getRun runId = some run') :
    ∃ run, s.getRun runId = some run ∧ RunChange runId a run run' := by
  have same : s'.runs = s.runs → ∃ run, s.getRun runId = some run ∧ RunChange runId a run run' :=
    fun hs => ⟨run', by rw [← getRun_of_runs hs]; exact hrun', .same⟩
  cases exec_effect h with
  | none => exact same rfl
  | claim hrow hclaim => exact same rfl
  | fenced hok => exact same (FencedOp.runs_plans hok).1
  | write hok =>
    rcases (Write.leaves hok).runs with heq | ⟨new, revision, rfl⟩ | ⟨id, now, rfl⟩
    · exact same heq
    · obtain ⟨stored, hget, hrev, _, rfl⟩ := updateRun_ok hok
      have hlook : ∀ k, (s.updateRunRow new.runId (nextRun new)).getRun k =
          if k = new.runId then (s.getRun k).map (nextRun new) else s.getRun k :=
        fun k => getRun_updateRunRow k
      rw [hlook] at hrun'
      by_cases hid : runId = new.runId
      · rw [if_pos hid, hid, hget] at hrun'
        cases hrun'
        exact ⟨stored, by rw [hid]; exact hget, .update hid.symm hrev⟩
      · rw [if_neg hid] at hrun'
        exact ⟨run', hrun', .same⟩
    · obtain ⟨run, hget, _, rfl⟩ := requestRunCancellation_ok hok
      change (s.updateRunRow id cancelledRun cancelledRun_runId).getRun runId = _
        at hrun'
      rw [getRun_updateRunRow] at hrun'
      by_cases hid : runId = id
      · subst hid
        rw [if_pos rfl, hget] at hrun'
        cases hrun'
        exact ⟨run, hget, .cancel⟩
      · rw [if_neg hid] at hrun'
        exact ⟨run', hrun', .same⟩

/-! ## Actions and the rows of jobs -/

/-- How an action can have changed the row of a job. -/
inductive JobChange (s : Store) : Act → JobRecord → JobRecord → Prop
  | same {a : Act} {row : JobRecord} : JobChange s a row row
  | claim {workerId : String} {now : Instant} {leaseSeconds maxRun maxSource : Nat}
      {row : JobRecord} (hclaim : claimable now row = true) :
      JobChange s (.claim workerId now leaseSeconds maxRun maxSource) row
        (claimRow workerId now leaseSeconds row)
  | heartbeat {lease : Lease} {now : Instant} {leaseSeconds : Nat} {row : JobRecord}
      (hid : row.jobId = lease.jobId)
      (hh : holds lease.workerId lease.generation row = true) :
      JobChange s (.fenced lease (.heartbeat now leaseSeconds)) row
        (heartbeatRow now leaseSeconds row)
  | ensureAttempt {lease : Lease} {now : Instant} {row : JobRecord} {attemptId : String}
      (hid : row.jobId = lease.jobId)
      (hh : holds lease.workerId lease.generation row = true)
      (hnone : row.attemptId = none) (hfresh : s.getStageAttempt attemptId = none) :
      JobChange s (.fenced lease (.ensureAttempt now)) row
        { row with attemptId := some attemptId, revision := row.revision + 1 }
  | mark {lease : Lease} {now : Instant} {row : JobRecord} {attemptId : String}
      (hid : row.jobId = lease.jobId)
      (hh : holds lease.workerId lease.generation row = true)
      (hkind : row.jobKind = .stage) (hatt : row.attemptId = some attemptId) :
      JobChange s (.fenced lease (.markHandlerDeliveryStarted now)) row (markRow row)
  | record {lease : Lease} {now : Instant} {row : JobRecord} {attempt : StageAttemptRecord}
      {result : StageExecutionResult} (hid : row.jobId = lease.jobId)
      (hh : holds lease.workerId lease.generation row = true)
      (hkind : row.jobKind = .stage) (hatt : row.attemptId = some attempt.attemptId) :
      JobChange s (.fenced lease (.recordResult attempt result now)) row
        (recordRow result row)
  | finalize {lease : Lease} {now : Instant} {row : JobRecord} {attempt : StageAttemptRecord}
      {result : StageExecutionResult} {status : JobStatus} {retryCount : Nat}
      {availableAt : Option Instant} {cancelled : Bool} (hid : row.jobId = lease.jobId)
      (hh : holds lease.workerId lease.generation row = true)
      (hatt : row.attemptId = some attempt.attemptId)
      (hcancelled : cancelled = (s.cancellationWins row && overridable status)) :
      JobChange s (.fenced lease (.finalizeStage attempt result status now retryCount availableAt))
        row (finalizedJob result (finalStatus cancelled status) cancelled
          attempt.attemptId (availableAt.getD now) retryCount row)
  | finalizeCommand {lease : Lease} {now : Instant} {row : JobRecord} {status : JobStatus}
      {detail : String} {failureCode : Option String}
      {failureClassification : Option FailureClassification} (hid : row.jobId = lease.jobId)
      (hh : holds lease.workerId lease.generation row = true) :
      JobChange s (.fenced lease
        (.finalizeCommand status now detail failureCode failureClassification)) row
        (finalizeCommandRow status detail failureCode failureClassification row)
  | cancel {now : Instant} {row : JobRecord} :
      JobChange s (.write (.requestRunCancellation row.runId now)) row (cancelRow now row)
  | resume {now : Instant} {row : JobRecord}
      (hst : row.status = .needsReview ∨ row.status = .blocked ∨ row.status = .failed) :
      JobChange s (.write (.resumeJob row.jobId now)) row (resumedRow now row)

theorem Store.getJob_of_jobs (h : s'.jobs = s.jobs) (jobId : String) :
    s'.getJob jobId = s.getJob jobId := by
  unfold getJob
  rw [h]

/-- One row was rewritten: the row that is there now is that one, or was there
before. -/
theorem Store.getJob_updateJob_cases {k : String} {f : JobRecord → JobRecord}
    {hf : ∀ r, (f r).jobId = r.jobId} (h : (s.updateJob jobId f hf).getJob k = some row') :
    s.getJob k = some row' ∨ ∃ row, k = jobId ∧ s.getJob k = some row ∧ row' = f row := by
  rw [getJob_updateJob] at h
  by_cases hk : k = jobId
  · rw [if_pos hk] at h
    obtain ⟨row, hrow, rfl⟩ := Option.map_eq_some_iff.mp h
    exact .inr ⟨row, hk, hrow, rfl⟩
  · rw [if_neg hk] at h
    exact .inl h

theorem FencedOp.getJob {lease : Lease} {op : FencedOp} {r : op.Reply}
    (h : op.txn env.stableId lease s = .ok (r, s')) (hrow' : s'.getJob jobId = some row') :
    ∃ row, s.getJob jobId = some row ∧ JobChange s (.fenced lease op) row row' := by
  -- every mutation rewrites the one row that its lease covers
  have rewritten : ∀ {s1 : Store} {f : JobRecord → JobRecord} {hf} {row0 : JobRecord},
      s' = s1.updateJob lease.jobId f hf → s1.jobs = s.jobs → s.getJob lease.jobId = some row0 →
      JobChange s (.fenced lease op) row0 (f row0) →
      ∃ row, s.getJob jobId = some row ∧ JobChange s (.fenced lease op) row row' := by
    intro s1 f hf row0 hs' hjobs hrow0 hch
    rw [hs'] at hrow'
    rcases getJob_updateJob_cases hrow' with hrow' | ⟨row, hid, hrow, rfl⟩
    · exact ⟨row', by rw [← getJob_of_jobs hjobs]; exact hrow', .same⟩
    · rw [getJob_of_jobs hjobs, hid, hrow0] at hrow
      cases hrow
      exact ⟨row0, by rw [hid]; exact hrow0, hch⟩
  cases op with
  | heartbeat now leaseSeconds =>
    obtain ⟨row, hrow, hh, _, hs'⟩ := heartbeatJob_ok h
    exact rewritten hs' rfl hrow (.heartbeat (getJob_jobId hrow) hh)
  | ensureAttempt now =>
    obtain ⟨row, hrow, _, hh, ⟨_, _, rfl⟩ | ⟨hnone, _, _, s1, _, _, _, hins, hs'⟩⟩ :=
      ensureStageAttempt_ok h
    · exact ⟨row', hrow', .same⟩
    · obtain ⟨attempts, hattempts, rfl⟩ := insertAttempt_ok hins
      exact rewritten hs' rfl hrow
        (.ensureAttempt (getJob_jobId hrow) hh hnone (Table.insert?_fresh hattempts))
  | markHandlerDeliveryStarted now =>
    obtain ⟨row, _, hrow, hh, hkind, hatt, _, _, hs'⟩ := markHandlerDeliveryStarted_ok h
    exact rewritten hs' rfl hrow (.mark (getJob_jobId hrow) hh hkind hatt)
  | recordResult attempt result now =>
    obtain ⟨row, _, hrow, hh, hkind, hatt, _, _, _, hs'⟩ := recordStageResult_ok h
    exact rewritten hs' rfl hrow (.record (getJob_jobId hrow) hh hkind hatt)
  | finalizeStage attempt result status now retryCount availableAt =>
    obtain ⟨row, _, cancelled, next, hrow, hh, hatt, _, _, hc, rfl, _, _, hs'⟩ :=
      finalizeStageJob_ok h
    exact rewritten hs' rfl hrow (.finalize (getJob_jobId hrow) hh hatt hc)
  | finalizeCommand status now detail failureCode failureClassification =>
    obtain ⟨row, hrow, hh, _, hs'⟩ := finalizeCommandJob_ok h
    exact rewritten hs' rfl hrow (.finalizeCommand (getJob_jobId hrow) hh)

def Enqueued (env : Env) (a : Act) (row : JobRecord) : Prop :=
  ∃ runId planId stageId parentJobId now stage,
    a = .write (.enqueueStageJob runId planId stageId parentJobId now) ∧
      row = stageJobRow env.stableId runId planId stage parentJobId now

/-- **What an action can have done to a job.** -/
theorem exec_getJob {a : Act} {ω : Input} {r : Except Exc a.Reply} (h : exec env a ω s = (r, s'))
    (hrow' : s'.getJob jobId = some row') :
    (∃ row, s.getJob jobId = some row ∧ JobChange s a row row') ∨
      (s.getJob jobId = none ∧ Enqueued env a row') := by
  have same : s'.jobs = s.jobs → ∃ row, s.getJob jobId = some row ∧ JobChange s a row row' :=
    fun hs => ⟨row', by rw [← getJob_of_jobs hs]; exact hrow', .same⟩
  cases exec_effect h with
  | none => exact .inl (same rfl)
  | claim hrow hclaim =>
    rcases getJob_updateJob_cases hrow' with hrow' | ⟨row, hid, hrow1, rfl⟩
    · exact .inl ⟨row', hrow', .same⟩
    · rw [hid, hrow] at hrow1
      cases hrow1
      exact .inl ⟨_, by rw [hid]; exact hrow, .claim hclaim⟩
  | fenced hok => exact .inl (FencedOp.getJob hok hrow')
  | write hok =>
    rcases (Write.leaves hok).jobs with
      heq | ⟨runId, planId, stageId, parentJobId, availableAt, rfl⟩ | ⟨runId, now, rfl⟩ | ⟨id, now, rfl⟩
    · exact .inl (same heq)
    · obtain ⟨_, stage, _, _, _, ⟨_, rfl⟩ | ⟨_, hb, hins⟩⟩ := enqueueStageJob_ok hok
      · exact .inl (same rfl)
      · obtain ⟨jobs, hjobs, rfl⟩ := insertJob_ok hins
        change jobs.find? jobId = some row' at hrow'
        rw [Table.find?_insert? hjobs] at hrow'
        cases hold : s.jobs.find? jobId with
        | some old =>
          rw [hold, Option.some_or] at hrow'
          cases hrow'
          exact .inl ⟨row', hold, .same⟩
        | none =>
          rw [hold, Option.none_or] at hrow'
          split at hrow'
          · cases hrow'
            exact .inr ⟨hold, runId, planId, stageId, parentJobId, availableAt, stage, rfl, hb⟩
          · cases hrow'
    · rw [getJob_requestRunCancellation hok] at hrow'
      obtain ⟨row, hrow, rfl⟩ := Option.map_eq_some_iff.mp hrow'
      by_cases hrun : row.runId = runId
      · rw [if_pos hrun, ← hrun]
        exact .inl ⟨row, hrow, .cancel⟩
      · rw [if_neg hrun]
        exact .inl ⟨row, hrow, .same⟩
    · obtain ⟨row, hrow, hst, _, rfl⟩ := resumeJob_ok hok
      rcases getJob_updateJob_cases hrow' with hrow' | ⟨row1, hid, hrow1, rfl⟩
      · exact .inl ⟨row', hrow', .same⟩
      · rw [hid, hrow] at hrow1
        cases hrow1
        obtain rfl := getJob_jobId hrow
        exact .inl ⟨row, by rw [hid]; exact hrow, .resume hst⟩

end DirtyDataOlap

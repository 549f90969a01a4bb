import DirtyDataOlap.ResumeChecks
import DirtyDataOlap.Deployment

/-!
# Resumption after a crash

`_resume_command` queues every stage job that may go on, then reactivates the run and finalizes the
command; after a crash it is delivered again.  **The jobs end up as they would have without the
crash, but the command does not know that it has resumed any**: if none is left, it ends as
`RESUME_NOT_AUTHORIZED`, and the run stays as it was.
-/
namespace DirtyDataOlap

open Worker List Store Prog JobRecord

/-! ## The command, whole and crashed -/

/-- Only the run has changed: it is running. -/
structure Reactivated (runId : String) (s s' : Store) : Prop where
  jobs : s'.jobs = s.jobs
  plans : s'.plans = s.plans
  reviewContexts : s'.reviewContexts = s.reviewContexts
  artifacts : s'.artifacts = s.artifacts
  reviews : s'.reviews = s.reviews
  run : (s'.getRun runId).map (·.status) = some .running

/-- Only the command has changed: it has this status. -/
structure CommandFinalized (jobId : String) (status : JobStatus) (s s' : Store) : Prop where
  runs : s'.runs = s.runs
  others : ∀ k, k ≠ jobId → s'.getJob k = s.getJob k
  own : (s'.getJob jobId).map (·.status) = some status

/-- The command is leased to this worker, as it was read. -/
structure ClaimedCommand (cfg : WorkerConfig) (now : Instant) (job : JobRecord) (s : Store) :
    Prop where
  row : s.getJob job.jobId = some job
  held : holds cfg.workerId job.leaseGeneration job = true
  unexpired : unexpired now job = true
  kind : job.jobKind = .command

section Command
variable {env : Env} {world : Act → Input} {cfg : WorkerConfig} {runId : String}
variable {s s' : Store} {now : Instant} {job : JobRecord}

theorem reactivation_txn {run : RunRecord} (hrun : s.getRun runId = some run) :
    ∃ run' s1, (Write.updateRun { run with status := .running } run.revision).txn env.stableId s =
      .ok (run', s1) ∧ Reactivated runId s s1 := by
  obtain rfl : run.runId = runId := getRun_runId hrun
  refine ⟨{ run with status := .running, revision := run.revision + 1 },
    s.updateRunRow run.runId fun r =>
      { run with
        status := .running
        runId := r.runId
        createdAt := r.createdAt
        revision := r.revision + 1 }, ?_, rfl, rfl, rfl, rfl, rfl, ?_⟩
  · change updateRun _ _ s = _
    unfold updateRun
    rw [hrun]
    exact if_pos rfl
  · rw [getRun_updateRunRow, if_pos rfl, hrun]
    rfl

theorem run_setRunning {run : RunRecord} (hrun : s.getRun runId = some run)
    (hstatus : ¬ (run.status = .cancelled ∨ run.status = .succeeded)) :
    ∃ s1, (setRunStatus runId .running true).run (steady env world) () s = (.ok (), s1) ∧
      Reactivated runId s s1 ∧
      ∀ s', (setRunStatus runId .running true).Stops (steady env world) s s' → s' = s ∨ s' = s1 := by
  have hnot : ¬ ((run.status = .cancelled ∨ run.status = .succeeded) ∧
      RunStatus.running ≠ .cancelled) := fun h => hstatus h.1
  have hallowed : ¬ ((run.status = .failed ∨ run.status = .blocked) ∧
      True ∧ true = false) := fun h => by cases h.2.2
  by_cases hrunning : run.status = .running
  · refine ⟨s, ?_, ⟨rfl, rfl, rfl, rfl, rfl, ?_⟩, fun s' h => ?_⟩
    · unfold setRunStatus
      rw [bind_def, run_steady_read]
      simp only [Query.eval, hrun]
      rw [if_neg hnot, if_neg hallowed, if_pos hrunning]
      rfl
    · rw [hrun]
      exact congrArg some hrunning
    · unfold setRunStatus at h
      rw [bind_def, stops_steady_read] at h
      simp only [Query.eval, hrun] at h
      rw [if_neg hnot, if_neg hallowed, if_pos hrunning] at h
      rcases h with rfl | h
      · exact .inl rfl
      · exact .inl h
  · obtain ⟨run', s1, htxn, hreactivated⟩ := @reactivation_txn env runId s run hrun
    refine ⟨s1, ?_, hreactivated, fun s' h => ?_⟩
    · unfold setRunStatus
      rw [bind_def, run_steady_read]
      simp only [Query.eval, hrun]
      rw [if_neg hnot, if_neg hallowed, if_neg hrunning, run_tryCatch, run_steady_write htxn]
      rfl
    · unfold setRunStatus at h
      rw [bind_def, stops_steady_read] at h
      simp only [Query.eval, hrun] at h
      rw [if_neg hnot, if_neg hallowed, if_neg hrunning] at h
      rcases h with rfl | h
      · exact .inl rfl
      · rw [stops_tryCatch, stops_steady_write htxn] at h
        rcases h with (rfl | h) | ⟨e, s2, hraised, -⟩
        · exact .inl rfl
        · exact .inr h
        · rw [runs_iff_run, run_steady_write htxn] at hraised
          cases hraised

theorem finalization_txn (hclaimed : ClaimedCommand cfg now job s) {detail : String}
    (hsafe : SafeDetail detail) (status : JobStatus) (code : Option String)
    (classification : Option FailureClassification) :
    ∃ row s1, (FencedOp.finalizeCommand status now detail code classification).txn env.stableId
      (leaseOf cfg job) s = .ok (row, s1) ∧ CommandFinalized job.jobId status s s1 := by
  have hlease : s.leaseRow job.jobId cfg.workerId job.leaseGeneration now = .ok job := by
    unfold leaseRow
    rw [hclaimed.row]
    dsimp only
    rw [if_pos hclaimed.held, if_pos hclaimed.unexpired]
  refine ⟨{ job with
      status := status
      leaseOwner := none
      leaseExpiresAt := none
      heartbeatAt := none
      failureCode := code
      failureClassification := classification
      failureReason := some detail
      deliveryPhase := .finalized
      revision := job.revision + 1 },
    s.updateJob job.jobId fun r =>
      { r with
        status := status
        leaseOwner := none
        leaseExpiresAt := none
        heartbeatAt := none
        failureCode := code
        failureClassification := classification
        failureReason := some detail
        deliveryPhase := .finalized
        revision := r.revision + 1 }, ?_, rfl, fun k hk => ?_, ?_⟩
  · exact bind_eq_ok.mpr ⟨(), ensure_ok.mpr hsafe, bind_eq_ok.mpr ⟨job, hlease, rfl⟩⟩
  · rw [getJob_updateJob, if_neg hk]
  · rw [getJob_updateJob_self hclaimed.row]
    rfl

theorem run_finalizeCommand (hclaimed : ClaimedCommand cfg now job s) {detail : String}
    (hsafe : SafeDetail detail) (status : JobStatus) (code : Option String)
    (classification : Option FailureClassification) (outcome : String) : ∃ r s1, (do
        let stored ← fenced (leaseOf cfg job)
          (.finalizeCommand status now detail code classification)
        pure (.of stored outcome) : Worker WorkerOutcome).run (steady env world) () s = (r, s1) ∧
      CommandFinalized job.jobId status s s1 ∧ ∀ s', (do
        let stored ← fenced (leaseOf cfg job)
          (.finalizeCommand status now detail code classification)
        pure (.of stored outcome) : Worker WorkerOutcome).Stops (steady env world) s s' →
          s' = s ∨ s' = s1 := by
  obtain ⟨row, s1, htxn, hfinal⟩ :=
    @finalization_txn env cfg s now job hclaimed detail hsafe status code classification
  have hexec : ∀ ω, steady env world (.fenced (leaseOf cfg job)
      (.finalizeCommand status now detail code classification)) ω s = (.ok row, s1) := by
    intro ω
    change Txn.commit _ s = _
    unfold Txn.commit
    rw [htxn]
  refine ⟨.ok (.of row outcome), s1, ?_, hfinal, fun s' h => ?_⟩
  · change run _ _ ((done (steady env world (.fenced (leaseOf cfg job)
      (.finalizeCommand status now detail code classification)) () s).1).bind _)
      (steady env world (.fenced (leaseOf cfg job)
        (.finalizeCommand status now detail code classification)) () s).2 = _
    rw [hexec]
    rfl
  · rcases h with rfl | ⟨ω, h⟩
    · exact .inl rfl
    · rw [hexec] at h
      exact .inr h

end Command

/-- The jobs that a resumption of the run looks at: none if the run is at its end, or has no plan. -/
def Store.resumeListed (s : Store) (runId : String) : List JobRecord :=
  match s.getRun runId, s.getExecutionPlan runId with
  | some run, some _ =>
    if run.status = .cancelled ∨ run.status = .succeeded then [] else s.listJobs runId 10000
  | _, _ => []

/-- How it judges them. -/
def Store.resumeVerdict (s : Store) (env : Env) (world : Act → Input) (cfg : WorkerConfig)
    (runId : String) (candidate : JobRecord) : Except Exc (Option (Option String)) :=
  match s.getExecutionPlan runId with
  | some plan => resumeCheck env world cfg runId plan s candidate
  | none => .ok (some none)

/-- The stage jobs that would be resumed. -/
def Store.resumable (s : Store) (env : Env) (world : Act → Input) (cfg : WorkerConfig)
    (runId : String) : List String :=
  (authorizedJobs (s.resumeVerdict env world cfg runId) (s.resumeListed runId)).map jobId

/-- Some check raises. -/
def Store.ResumeRaises (s : Store) (env : Env) (world : Act → Input) (cfg : WorkerConfig)
    (runId : String) : Prop :=
  ChecksRaise (s.resumeVerdict env world cfg runId) (s.resumeListed runId)

/-- What a whole delivery of a resumption leaves. -/
structure ResumeOutcome (jobId runId : String) (ids : List String) (command : JobStatus)
    (reactivated : Prop) (s s' : Store) : Prop where
  jobs : ∀ k, k ≠ jobId → (s'.getJob k).map (·.status) =
    if k ∈ ids then some .queued else (s.getJob k).map (·.status)
  command : (s'.getJob jobId).map (·.status) = some command
  active : reactivated → (s'.getRun runId).map (·.status) = some .running
  idle : ¬ reactivated → (s'.getRun runId).map (·.status) = (s.getRun runId).map (·.status)

section Delivery
variable {env : Env} {world : Act → Input} {cfg : WorkerConfig} {runId : String}
variable {s s' : Store} {now : Instant} {job : JobRecord}

theorem ScanState.listJobs (limit : Nat) : ScanState s [] (s.listJobs runId limit) := by
  refine ⟨fun c hc => ?_, ?_, fun _ _ => not_mem_nil, fun _ _ h => absurd h not_mem_nil⟩
  · exact Table.find?_of_mem (mem_listJobs hc).1
  · have hfilter : ((s.jobs.rows.filter fun j => decide (j.runId = runId)).map
        jobId).Nodup := s.jobs.nodup.sublist (filter_sublist.map _)
    have hsorted := (((perm_insertionSort listOrder _).map jobId).nodup_iff).mpr
      hfilter
    exact hsorted.sublist ((take_sublist _ _).map _)

theorem getJob_of_resumeListed {c : JobRecord} (h : c ∈ s.resumeListed runId) :
    s.getJob c.jobId = some c := by
  unfold resumeListed at h
  split at h
  · split at h
    · cases h
    · exact Table.find?_of_mem (mem_listJobs h).1
  · cases h

theorem mem_resumable {k : String} (h : k ∈ s.resumable env world cfg runId) :
    ∃ c, s.getJob k = some c ∧ c.jobKind = .stage ∧ c.status ≠ .succeeded ∧
      s.resumeVerdict env world cfg runId c = .ok none := by
  obtain ⟨c, hc, rfl⟩ := mem_map.mp h
  have hverdict := check_of_authorized hc
  refine ⟨c, getJob_of_resumeListed (authorizedJobs_sublist.subset hc), ?_, ?_, hverdict⟩
  · unfold resumeVerdict at hverdict
    split at hverdict
    · exact (resumeCheck_ok_none hverdict).1
    · cases hverdict
  · unfold resumeVerdict at hverdict
    split at hverdict
    · intro hsucceeded
      have hstatus := (resumeCheck_ok_none hverdict).2
      rw [hsucceeded] at hstatus
      rcases hstatus with h | h | h <;> cases h
    · cases hverdict

theorem length_resumable_le : (s.resumable env world cfg runId).length ≤ 10000 := by
  have hlisted : (s.resumeListed runId).length ≤ 10000 := by
    unfold resumeListed
    split
    · split
      · exact Nat.zero_le _
      · exact length_take_le ..
    · exact Nat.zero_le _
  unfold resumable
  rw [length_map]
  exact authorizedJobs_sublist.length_le.trans hlisted

variable (h : ClaimedCommand cfg now job s)

include h in
theorem ClaimedCommand.running : job.status = .running := by
  have hheld := h.held
  unfold holds at hheld
  rw [Bool.and_eq_true, Bool.and_eq_true, decide_eq_true_eq] at hheld
  exact hheld.1.1

include h in
theorem ClaimedCommand.resumeJobs {ids : List String}
    (hids : ids ⊆ s.resumable env world cfg runId) {t : Instant} :
    ClaimedCommand cfg now job (s.resumeJobs t ids) := by
  refine ⟨?_, h.held, h.unexpired, h.kind⟩
  have hnot : job.jobId ∉ ids := by
    intro hmem
    obtain ⟨c, hget, hkind, -, -⟩ := mem_resumable (hids hmem)
    rw [h.row] at hget
    cases hget
    rw [h.kind] at hkind
    cases hkind
  rw [getJob_resumeJobs, h.row, Option.map_some, if_neg hnot]

include h in
theorem ClaimedCommand.reactivated (hr : Reactivated runId s s') : ClaimedCommand cfg now job s' :=
  ⟨by unfold getJob; rw [hr.jobs]; exact h.row, h.held, h.unexpired, h.kind⟩

theorem status_resumeJobs {ids : List String} (hids : ids ⊆ s.resumable env world cfg runId)
    {t : Instant} (k : String) : ((s.resumeJobs t ids).getJob k).map (·.status) =
      if k ∈ ids then some .queued else (s.getJob k).map (·.status) := by
  rw [getJob_resumeJobs]
  by_cases hmem : k ∈ ids
  · obtain ⟨c, hget, -⟩ := mem_resumable (hids hmem)
    rw [hget, if_pos hmem]
    simp [hmem, resumedRow]
  · simp [hmem]

theorem safeDetail_authorized {n : Nat} (h : n ≤ 10000) :
    SafeDetail ("authorized " ++ toString n ++ " new stage attempt(s)") := by
  have hchars : ∀ c ∈ Nat.toDigits 10 n, c ≠ '\n' ∧ c ≠ '\r' := by
    intro c hc
    have hdigit := Nat.isDigit_of_mem_toDigits (by decide) (by decide) hc
    constructor
    · rintro rfl
      exact absurd hdigit (by decide)
    · rintro rfl
      exact absurd hdigit (by decide)
  have hlength : (Nat.toDigits 10 n).length ≤ 5 :=
    (Nat.length_toDigits_le_iff (by decide) (by decide)).mpr (by omega)
  have hlist : (toString n).toList = Nat.toDigits 10 n := Nat.toList_repr
  have hwords : ("authorized ".toList ++ " new stage attempt(s)".toList).all
      (fun c => c ≠ '\n' && c ≠ '\r') = true := by decide +kernel
  have hfixed : ∀ c ∈ "authorized ".toList ++ " new stage attempt(s)".toList,
      c ≠ '\n' ∧ c ≠ '\r' := by simpa only [all_eq_true, Bool.and_eq_true,
        decide_eq_true_eq] using hwords
  have hall : ∀ c ∈ ("authorized " ++ toString n ++ " new stage attempt(s)").toList,
      c ≠ '\n' ∧ c ≠ '\r' := by
    intro c hc
    rw [String.toList_append, String.toList_append, hlist] at hc
    rcases mem_append.mp hc with hc | hc
    · rcases mem_append.mp hc with hc | hc
      · exact hfixed c (mem_append_left _ hc)
      · exact hchars c hc
    · exact hfixed c (mem_append_right _ hc)
  have hshort : ("authorized " ++ toString n ++ " new stage attempt(s)").length ≤ 512 := by
    have hinit : "authorized ".length = 11 := by decide
    have hsuffix : " new stage attempt(s)".length = 21 := by decide
    have hdigits : (toString n).length = (Nat.toDigits 10 n).length := by
      rw [← String.length_toList, hlist]
    rw [String.length_append, String.length_append, hinit, hsuffix, hdigits]
    omega
  unfold SafeDetail
  rw [Bool.and_eq_true, Bool.and_eq_true, decide_eq_true_eq, Bool.not_eq_true',
    Bool.not_eq_true', contains_eq_mem, contains_eq_mem, decide_eq_false_iff_not,
    decide_eq_false_iff_not]
  exact ⟨⟨hshort, fun h => (hall _ h).1 rfl⟩, fun h => (hall _ h).2 rfl⟩

theorem CommandFinalized.resumeOutcome {s1 : Store} {status : JobStatus} {p : Prop} (hp : ¬ p)
    (h : CommandFinalized job.jobId status s s1) : ResumeOutcome job.jobId job.runId [] status p s s1 := by
  refine ⟨fun k hk => ?_, h.own, fun hactive => absurd hactive hp, fun _ => ?_⟩
  · rw [h.others k hk, if_neg not_mem_nil]
  · unfold getRun
    rw [h.runs]

theorem resumeListed_eq {run : RunRecord} {plan : ExecutionPlan} (hrun : s.getRun runId = some run)
    (hplan : s.getExecutionPlan runId = some plan)
    (hstatus : ¬ (run.status = .cancelled ∨ run.status = .succeeded)) :
    s.resumeListed runId = s.listJobs runId 10000 ∧
      s.resumeVerdict env world cfg runId = resumeCheck env world cfg runId plan s := by
  unfold resumeListed
  rw [hrun, hplan]
  refine ⟨if_neg hstatus, ?_⟩
  funext c
  unfold resumeVerdict
  rw [hplan]

variable (cfg job) in
/-- The end of `_resume_command`, after the loop. -/
def resumeEnd (now : Instant) (runId : String) (result : Nat × String) : Worker WorkerOutcome :=
  if result.1 = 0 then
    finalizeCommandBlocked cfg job now result.2 "RESUME_NOT_AUTHORIZED" result.2
  else do
    setRunStatus runId .running true
    finalizeCommandSucceeded cfg job now
      ("authorized " ++ toString result.1 ++ " new stage attempt(s)") "resume authorized"

include h in
/-- The end of a delivery that has resumed `n` jobs, whole and crashed. -/
theorem run_resumeEnd {run : RunRecord} (hrun : s.getRun runId = some run)
    (hstatus : ¬ (run.status = .cancelled ∨ run.status = .succeeded)) {n : Nat} {reason : String}
    (hn : n ≤ 10000) (hreason : SafeDetail reason) :
    ∃ r s1 s2, (resumeEnd cfg job now runId (n, reason)).run (steady env world) () s = (r, s2) ∧
      CommandFinalized job.jobId (if n = 0 then .blocked else .succeeded) s1 s2 ∧
      (n = 0 → s1 = s) ∧ (n ≠ 0 → Reactivated runId s s1) ∧
      ∀ s', (resumeEnd cfg job now runId (n, reason)).Stops (steady env world) s s' →
        s' = s ∨ s' = s1 ∨ s' = s2 := by
  unfold resumeEnd
  by_cases hzero : n = 0
  · obtain ⟨r, s1, hdone, hfinal, hstops⟩ := @run_finalizeCommand env world cfg s now job h reason
      hreason .blocked (some "RESUME_NOT_AUTHORIZED") (some .blockedPrerequisite) reason
    rw [if_pos hzero, if_pos hzero]
    refine ⟨r, s, s1, hdone, hfinal, fun _ => rfl, fun hne => absurd hzero hne, fun s' hs' => ?_⟩
    rcases hstops s' hs' with h | h
    · exact .inl h
    · exact .inr (.inr h)
  · obtain ⟨s1, hset, hreactivated, hsetStops⟩ := @run_setRunning env world runId s run hrun hstatus
    obtain ⟨r, s2, hdone, hfinal, hstops⟩ := @run_finalizeCommand env world cfg s1 now job
      (h.reactivated hreactivated) _ (safeDetail_authorized hn) .succeeded none none
      "resume authorized"
    rw [if_neg hzero, if_neg hzero]
    refine ⟨r, s1, s2, ?_, hfinal, fun h => absurd h hzero, fun _ => hreactivated, fun s' hs' => ?_⟩
    · rw [bind_def, run_bind, hset]
      exact hdone
    · rw [bind_def, stops_bind] at hs'
      rcases hs' with hs' | ⟨_, s3, hs3, hs'⟩
      · rcases hsetStops s' hs' with h | h
        · exact .inl h
        · exact .inr (.inl h)
      · rw [runs_iff_run, hset] at hs3
        cases hs3
        exact .inr (hstops s' hs')

theorem resumeOutcome_end {n : Nat} {s1 s2 : Store}
    (hn : n = (s.resumable env world cfg job.runId).length)
    (hfinal : CommandFinalized job.jobId (if n = 0 then .blocked else .succeeded) s1 s2)
    (hzero : n = 0 → s1 = s.resumeJobs now (s.resumable env world cfg job.runId)) (hactive : n ≠ 0 →
      Reactivated job.runId (s.resumeJobs now (s.resumable env world cfg job.runId)) s1) :
    ResumeOutcome job.jobId job.runId (s.resumable env world cfg job.runId)
      (if s.resumable env world cfg job.runId = [] then .blocked else .succeeded)
      (s.resumable env world cfg job.runId ≠ []) s s2 := by
  have hnil : n = 0 ↔ s.resumable env world cfg job.runId = [] := by
    rw [hn, length_eq_zero_iff]
  have hjobs : s1.jobs = (s.resumeJobs now (s.resumable env world cfg job.runId)).jobs := by
    by_cases h : n = 0
    · rw [hzero h]
    · exact (hactive h).jobs
  have hruns : s2.getRun job.runId = s1.getRun job.runId := by
    unfold getRun
    rw [hfinal.runs]
  simp only [← hnil]
  refine ⟨fun k hk => ?_, hfinal.own, fun hne => ?_, fun hne => ?_⟩
  · rw [hfinal.others k hk, ← status_resumeJobs (List.Subset.refl _) k]
    unfold getJob
    rw [hjobs]
  · rw [hruns]
    exact (hactive (fun h => hne (hnil.mp h))).run
  · rw [hruns, hzero (hnil.mpr (not_not.mp hne))]
    rfl

variable (env world s) in
/-- In this state the first program does what the second one does. -/
structure Follows {α : Type} (p q : Worker α) : Prop where
  run : p.run (steady env world) () s = q.run (steady env world) () s
  stops : ∀ s', p.Stops (steady env world) s s' → q.Stops (steady env world) s s'

theorem follows_read {α : Type} {q : Query} {f : q.Reply → Worker α} {p : Worker α}
    (h : Follows env world s (f (q.eval s)) p) :
    Follows env world s ((Worker.read q).bind f) p := by
  refine ⟨h.run, fun s' hs' => ?_⟩
  rcases stops_steady_read.mp hs' with rfl | hs'
  · exact stops_refl _ _
  · exact h.stops s' hs'

/-- The command either ends at once, or goes through the listed jobs. -/
theorem resumeCommand_follows (cfg : WorkerConfig) (now : Instant) (job : JobRecord) :
    (s.resumeListed job.runId = [] ∧ ∃ detail code, SafeDetail detail ∧
      Follows env world s (resumeCommand cfg job now)
        (finalizeCommandBlocked cfg job now detail code detail)) ∨
    ∃ run plan, s.getRun job.runId = some run ∧ s.getExecutionPlan job.runId = some plan ∧
      ¬ (run.status = .cancelled ∨ run.status = .succeeded) ∧
      Follows env world s (resumeCommand cfg job now)
        ((resumeCandidates cfg job.runId plan now (s.listJobs job.runId 10000) 0
          "no resumable stage is currently authorized").bind (resumeEnd cfg job now job.runId)) := by
  have hmissing : SafeDetail "resume requires an existing durable execution plan" := by
    decide +kernel
  cases hrun : s.getRun job.runId with
  | none =>
    refine .inl ⟨by unfold resumeListed; rw [hrun], _, "EXECUTION_PLAN_UNAVAILABLE", hmissing,
      follows_read (follows_read ?_)⟩
    simp only [Query.eval, hrun]
    exact ⟨rfl, fun _ h => h⟩
  | some run =>
    cases hplan : s.getExecutionPlan job.runId with
    | none =>
      refine .inl ⟨by unfold resumeListed; rw [hrun, hplan], _, "EXECUTION_PLAN_UNAVAILABLE",
        hmissing, follows_read (follows_read ?_)⟩
      simp only [Query.eval, hrun, hplan]
      exact ⟨rfl, fun _ h => h⟩
    | some plan =>
      by_cases hstatus : run.status = .cancelled ∨ run.status = .succeeded
      · refine .inl ⟨?_, "terminal runs cannot be resumed", "ILLEGAL_RESUME_TERMINAL_RUN",
          by decide +kernel, follows_read (follows_read ?_)⟩
        · unfold resumeListed
          rw [hrun, hplan]
          exact if_pos hstatus
        · simp only [Query.eval, hrun, hplan]
          rw [if_pos hstatus]
          exact ⟨rfl, fun _ h => h⟩
      · refine .inr ⟨run, plan, rfl, rfl, hstatus, follows_read (follows_read ?_)⟩
        simp only [Query.eval, hrun, hplan]
        rw [if_neg hstatus, getRun_runId hrun]
        exact follows_read ⟨rfl, fun _ h => h⟩

theorem run_resumeLoop {run : RunRecord} {plan : ExecutionPlan}
    (hrun : s.getRun job.runId = some run) (hplan : s.getExecutionPlan job.runId = some plan)
    (hstatus : ¬ (run.status = .cancelled ∨ run.status = .succeeded)) :
    ∃ r, (resumeCandidates cfg job.runId plan now (s.listJobs job.runId 10000) 0
        "no resumable stage is currently authorized").run (steady env world) () s =
          (r, s.resumeJobs now (s.resumable env world cfg job.runId)) ∧
      ((∃ e, r = .error e) ↔ s.ResumeRaises env world cfg job.runId) ∧
      (∀ v, r = .ok v → v.1 = (s.resumable env world cfg job.runId).length ∧ SafeDetail v.2) ∧
      ∀ s1, (resumeCandidates cfg job.runId plan now (s.listJobs job.runId 10000) 0
        "no resumable stage is currently authorized").Stops (steady env world) s s1 →
        ∃ ids, ids <+: s.resumable env world cfg job.runId ∧ s1 = s.resumeJobs now ids := by
  obtain ⟨hlisted, hverdict⟩ := @resumeListed_eq env world cfg job.runId s run plan hrun hplan hstatus
  have hscan : ScanState s [] (s.listJobs job.runId 10000) := ScanState.listJobs 10000
  have hresumable : s.resumable env world cfg job.runId = (authorizedJobs
      (resumeCheck env world cfg job.runId plan s) (s.listJobs job.runId 10000)).map
        jobId := by
    unfold resumable
    rw [hlisted, hverdict]
  have hraises : s.ResumeRaises env world cfg job.runId ↔ ChecksRaise
      (resumeCheck env world cfg job.runId plan s) (s.listJobs job.runId 10000) := by
    unfold Store.ResumeRaises
    rw [hlisted, hverdict]
  obtain ⟨r, hloop, hraise, hvalue⟩ := @run_resumeCandidates env world cfg job.runId plan s now
    [] (s.listJobs job.runId 10000) 0 "no resumable stage is currently authorized" hscan
    (by decide +kernel)
  have hcrash := @stops_resumeCandidates env world cfg job.runId plan s now [] (s.listJobs job.runId
    10000) 0 "no resumable stage is currently authorized"
  rw [resumeJobs_nil] at hloop hcrash
  rw [nil_append] at hloop
  rw [hraises, hresumable]
  refine ⟨r, hloop, hraise, fun v hv => ?_, fun s1 hstops => hcrash hscan hstops⟩
  obtain ⟨hn, hsafe⟩ := hvalue v hv
  rw [Nat.zero_add] at hn
  exact ⟨by rw [hn, length_map], hsafe⟩

include h in
/-- **A whole delivery.** -/
theorem run_resumeCommand :
    ∃ r s', (resumeCommand cfg job now).run (steady env world) () s = (r, s') ∧
      (s.ResumeRaises env world cfg job.runId →
        ResumeOutcome job.jobId job.runId (s.resumable env world cfg job.runId) .running False s s') ∧
      (¬ s.ResumeRaises env world cfg job.runId →
        ResumeOutcome job.jobId job.runId (s.resumable env world cfg job.runId)
          (if s.resumable env world cfg job.runId = [] then .blocked else .succeeded)
          (s.resumable env world cfg job.runId ≠ []) s s') := by
  rcases resumeCommand_follows cfg now job with
    ⟨hnone, detail, code, hsafe, hfollows⟩ | ⟨run, plan, hrun, hplan, hstatus, hfollows⟩
  · have hnil : s.resumable env world cfg job.runId = [] := by
      unfold resumable
      rw [hnone]
      rfl
    have hquiet : ¬ s.ResumeRaises env world cfg job.runId := by
      rintro ⟨c, hc, -⟩
      rw [hnone] at hc
      cases hc
    obtain ⟨r, s1, hdone, hfinal, -⟩ := @run_finalizeCommand env world cfg s now job h detail hsafe
      .blocked (some code) (some .blockedPrerequisite) detail
    refine ⟨r, s1, hfollows.run.trans hdone, fun hraises => absurd hraises hquiet, fun _ => ?_⟩
    rw [hnil]
    exact hfinal.resumeOutcome (by simp)
  · obtain ⟨r, hloop, hraise, hvalue, -⟩ := @run_resumeLoop env world cfg s now job run plan hrun
      hplan hstatus
    have hclaimed : ClaimedCommand cfg now job
        (s.resumeJobs now (s.resumable env world cfg job.runId)) :=
      h.resumeJobs (List.Subset.refl _)
    rw [hfollows.run, run_bind, hloop]
    cases r with
    | error e =>
      have hraises := hraise.mp ⟨e, rfl⟩
      refine ⟨_, _, rfl, fun _ => ?_, fun hnot => absurd hraises hnot⟩
      refine ⟨fun k _ => status_resumeJobs (List.Subset.refl _) k, ?_, nofun, fun _ => rfl⟩
      rw [hclaimed.row]
      exact congrArg some hclaimed.running
    | ok result =>
      obtain ⟨n, reason⟩ := result
      have hnot : ¬ s.ResumeRaises env world cfg job.runId := by
        intro hraises
        obtain ⟨e, he⟩ := hraise.mpr hraises
        cases he
      obtain ⟨hn, hreason⟩ := hvalue (n, reason) rfl
      dsimp only at hn
      obtain ⟨r, s1, s2, hend, hfinal, hzero, hactive, -⟩ := @run_resumeEnd env world cfg
        job.runId _ now job hclaimed run hrun hstatus n reason (hn ▸ length_resumable_le) hreason
      exact ⟨r, s2, hend, fun hraises => absurd hraises hnot,
        fun _ => resumeOutcome_end hn hfinal hzero hactive⟩

include h in
/-- **A crashed delivery**: some of the jobs are resumed, or all and the run is reactivated, or the
command was finalized. -/
theorem stops_resumeCommand {s1 : Store}
    (hstops : (resumeCommand cfg job now).Stops (steady env world) s s1) :
    (∃ ids, ids <+: s.resumable env world cfg job.runId ∧
      (s1 = s.resumeJobs now ids ∨ ids = s.resumable env world cfg job.runId ∧ ids ≠ [] ∧
        ¬ s.ResumeRaises env world cfg job.runId ∧
        Reactivated job.runId (s.resumeJobs now ids) s1)) ∨
    ∃ t, CommandFinalized job.jobId .blocked t s1 ∨ CommandFinalized job.jobId .succeeded t s1 := by
  rcases resumeCommand_follows cfg now job with
    ⟨-, detail, code, hsafe, hfollows⟩ | ⟨run, plan, hrun, hplan, hstatus, hfollows⟩
  · obtain ⟨_, s2, -, hfinal, hends⟩ := @run_finalizeCommand env world cfg s now job h detail hsafe
      .blocked (some code) (some .blockedPrerequisite) detail
    rcases hends s1 (hfollows.stops s1 hstops) with rfl | rfl
    · exact .inl ⟨[], nil_prefix .., .inl resumeJobs_nil.symm⟩
    · exact .inr ⟨s, .inl hfinal⟩
  · obtain ⟨r, hloop, hraise, hvalue, hcrash⟩ := @run_resumeLoop env world cfg s now job run plan hrun
      hplan hstatus
    rcases stops_bind.mp (hfollows.stops s1 hstops) with hstops | ⟨⟨n, reason⟩, s2, hmid, hstops⟩
    · obtain ⟨ids, hinit, hs1⟩ := hcrash s1 hstops
      exact .inl ⟨ids, hinit, .inl hs1⟩
    rw [runs_iff_run, hloop] at hmid
    cases hmid
    have hnot : ¬ s.ResumeRaises env world cfg job.runId := by
      intro hraises
      obtain ⟨e, he⟩ := hraise.mpr hraises
      cases he
    obtain ⟨hn, hreason⟩ := hvalue (n, reason) rfl
    dsimp only at hn
    obtain ⟨r, s3, s2, -, hfinal, hzero, hactive, hends⟩ := @run_resumeEnd env world cfg
      job.runId _ now job (h.resumeJobs (List.Subset.refl _)) run hrun hstatus n reason
      (hn ▸ length_resumable_le) hreason
    rcases hends s1 hstops with hs1 | rfl | rfl
    · exact .inl ⟨_, prefix_rfl, .inl hs1⟩
    · refine .inl ⟨_, prefix_rfl, ?_⟩
      by_cases hnone : n = 0
      · exact .inl (hzero hnone)
      · refine .inr ⟨rfl, fun hnil => hnone ?_, hnot, hactive hnone⟩
        rw [hn, hnil]
        rfl
    · by_cases hnone : n = 0
      · rw [if_pos hnone] at hfinal
        exact .inr ⟨_, .inl hfinal⟩
      · rw [if_neg hnone] at hfinal
        exact .inr ⟨_, .inr hfinal⟩

end Delivery

/-! ## Redelivery -/

/-- `claim_next_job` as a worker calls it. -/
def WorkerConfig.claim (cfg : WorkerConfig) (now : Instant) : Txn (Option JobRecord) :=
  claimNextJob cfg.workerId now cfg.leaseSeconds cfg.maxActivePerRun cfg.maxActivePerSource

/-- **The run and all jobs have the same statuses.** -/
structure SameOutcome (runId : String) (s s' : Store) : Prop where
  run : (s.getRun runId).map (·.status) = (s'.getRun runId).map (·.status)
  jobs : ∀ k, (s.getJob k).map (·.status) = (s'.getJob k).map (·.status)

section Redelivery
variable {env : Env} {world : Act → Input} {cfg : WorkerConfig}
variable {s s' s1 : Store} {now now' : Instant} {job job' : JobRecord} {ids : List String}

theorem claimedCommand_of_claim (h : cfg.claim now s = .ok (some job, s'))
    (hkind : job.jobKind = .command) : ClaimedCommand cfg now job s' := by
  have hlease : 1 ≤ cfg.leaseSeconds := by
    obtain ⟨_, hvalid, -⟩ := bind_eq_ok.mp h
    rw [ensure_ok] at hvalid
    simp only [Bool.and_eq_true, decide_eq_true_eq] at hvalid
    exact hvalid.1.1.2
  rcases claimNextJob_ok h with ⟨hnone, -⟩ | ⟨row, hrow, -, hjob, rfl⟩
  · cases hnone
  · cases hjob
    refine ⟨getJob_updateJob_self hrow, ?_, ?_, hkind⟩
    · rw [holds_iff]
      exact ⟨rfl, rfl, rfl⟩
    · unfold unexpired claimRow Instant.addSeconds
      rw [Option.any_some, decide_eq_true_eq]
      exact Int.lt_add_of_pos_right _ (by omega)

theorem listJobs_map {next : JobRecord → JobRecord} {runId : String} {limit : Nat}
    (hrows : s'.jobs.rows = s.jobs.rows.map next)
    (hid : ∀ r, (next r).jobId = r.jobId) (hrun : ∀ r, (next r).runId = r.runId)
    (hcreated : ∀ r, (next r).createdAt = r.createdAt) :
    s'.listJobs runId limit = (s.listJobs runId limit).map next := by
  have hfilter : s'.jobs.rows.filter (fun j => decide (j.runId = runId)) =
      (s.jobs.rows.filter fun j => decide (j.runId = runId)).map next := by
    rw [hrows, filter_map]
    congr 2
    funext r
    simp [hrun]
  have horder : ∀ a b, listOrder a b ↔ listOrder (next a) (next b) := by
    intro a b
    unfold listOrder
    rw [hid, hid, hcreated, hcreated]
  unfold listJobs
  rw [hfilter, map_take]
  exact congrArg (List.take limit) (map_insertionSort listOrder listOrder next _
    fun a _ b _ => horder a b).symm

/-- What the crash and the next claim have made of a row. -/
def redelivered (cfg : WorkerConfig) (worker : String) (now now' : Instant) (jobId : String)
    (ids : List String) (r : JobRecord) : JobRecord :=
  if r.jobId = jobId then claimRow worker now' cfg.leaseSeconds r
  else if r.jobId ∈ ids then resumedRow now r
  else r

theorem redelivered_keeps {worker : String} {jobId : String} (r : JobRecord) :
    (redelivered cfg worker now now' jobId ids r).jobId = r.jobId ∧
      (redelivered cfg worker now now' jobId ids r).runId = r.runId ∧
      (redelivered cfg worker now now' jobId ids r).stageId = r.stageId ∧
      (redelivered cfg worker now now' jobId ids r).createdAt = r.createdAt := by
  unfold redelivered
  split
  · exact ⟨rfl, rfl, rfl, rfl⟩
  · split <;> exact ⟨rfl, rfl, rfl, rfl⟩

variable (env world cfg) in
/-- **From the first delivery to the second**: `ids` were resumed, possibly the run reactivated, and
the command is claimed again. -/
structure Redelivered (worker : String) (now now' : Instant) (job : JobRecord) (ids : List String)
    (s s' : Store) : Prop where
  command : s.getJob job.jobId = some job
  kind : job.jobKind = .command
  running : job.status = .running
  part : ids <+: s.resumable env world cfg job.runId
  rows : s'.jobs.rows = s.jobs.rows.map (redelivered cfg worker now now' job.jobId ids)
  plans : s'.plans = s.plans
  reviewContexts : s'.reviewContexts = s.reviewContexts
  artifacts : s'.artifacts = s.artifacts
  reviews : s'.reviews = s.reviews
  run : s'.getRun job.runId = s.getRun job.runId ∨
    (s'.getRun job.runId).map (·.status) = some .running ∧
      ids = s.resumable env world cfg job.runId ∧ ids ≠ [] ∧
      ¬ s.ResumeRaises env world cfg job.runId

namespace Redelivered
variable {worker : String} (h : Redelivered env world cfg worker now now' job ids s s')
include h

theorem not_resumed : job.jobId ∉ ids := by
  intro hmem
  obtain ⟨c, hget, hkind, -, -⟩ := mem_resumable (h.part.subset hmem)
  rw [h.command] at hget
  cases hget
  rw [h.kind] at hkind
  cases hkind

theorem sameEvidence : SameEvidence s s' := by
  refine ⟨h.reviewContexts, h.artifacts, h.reviews, fun runId stageId => ?_⟩
  have hget : s'.getStageJob runId stageId = (s.getStageJob runId stageId).map
      (redelivered cfg worker now now' job.jobId ids) := by
    unfold getStageJob
    rw [h.rows, find?_map]
    congr 2
    funext r
    simp only [Function.comp_apply, redelivered_keeps]
  unfold succeeded
  rw [hget]
  cases hrow : s.getStageJob runId stageId with
  | none => rfl
  | some r =>
    have hmem : s.getJob r.jobId = some r := Table.find?_of_mem (mem_of_find?_eq_some hrow)
    simp only [Option.map_some, Option.any_some]
    unfold redelivered
    split
    · rename_i hid
      rw [hid, h.command] at hmem
      cases hmem
      rw [h.running]
      rfl
    · split
      · rename_i hin
        obtain ⟨c, hget, -, hnot, -⟩ := mem_resumable (h.part.subset hin)
        rw [hmem] at hget
        cases hget
        simp [resumedRow, hnot]
      · rfl

theorem getExecutionPlan : s'.getExecutionPlan job.runId = s.getExecutionPlan job.runId := by
  unfold Store.getExecutionPlan
  rw [h.plans]

theorem resumeListed : s'.resumeListed job.runId =
    (s.resumeListed job.runId).map (redelivered cfg worker now now' job.jobId ids) := by
  have hlist : s'.listJobs job.runId 10000 = (s.listJobs job.runId 10000).map
      (redelivered cfg worker now now' job.jobId ids) :=
    listJobs_map h.rows (fun r => (redelivered_keeps r).1) (fun r => (redelivered_keeps r).2.1)
      fun r => (redelivered_keeps r).2.2.2
  unfold Store.resumeListed
  rw [h.getExecutionPlan]
  rcases h.run with hrun | ⟨hrun, hall, hne, -⟩
  · rw [hrun]
    split
    · split
      · rfl
      · exact hlist
    · rfl
  · -- something was resumed, so the run was not at its end
    have hlisted : s.resumeListed job.runId ≠ [] := by
      intro hnil
      refine hne ?_
      rw [hall]
      unfold resumable
      rw [hnil]
      rfl
    obtain ⟨run', hrun', hstatus'⟩ := Option.map_eq_some_iff.mp hrun
    unfold Store.resumeListed at hlisted
    split at hlisted
    · rename_i run plan hget hplan
      split at hlisted
      · exact absurd rfl hlisted
      · rename_i hstatus
        rw [hplan, hrun']
        dsimp only
        rw [if_neg hstatus, if_neg (by rw [hstatus']; decide)]
        exact hlist
    · exact absurd rfl hlisted

/-- A job that was resumed is no candidate any more, and the others are judged as before. -/
theorem resumeVerdict {c : JobRecord} (hc : c ∈ s.resumeListed job.runId) :
    s'.resumeVerdict env world cfg job.runId (redelivered cfg worker now now' job.jobId ids c) =
      if c.jobId ∈ ids then .ok (some none) else s.resumeVerdict env world cfg job.runId c := by
  have hrow := getJob_of_resumeListed hc
  unfold Store.resumeVerdict
  rw [h.getExecutionPlan]
  cases s.getExecutionPlan job.runId with
  | none => simp
  | some plan =>
    dsimp only
    by_cases hid : c.jobId = job.jobId
    · rw [hid, h.command] at hrow
      cases hrow
      rw [if_neg h.not_resumed, resumeCheck_command h.kind]
      refine resumeCheck_command ?_
      unfold redelivered
      rw [if_pos rfl]
      exact h.kind
    · unfold redelivered
      rw [if_neg hid]
      by_cases hin : c.jobId ∈ ids
      · rw [if_pos hin, if_pos hin]
        exact resumeCheck_queued rfl
      · rw [if_neg hin, if_neg hin]
        exact resumeCheck_congr h.sameEvidence c

/-- **The second delivery resumes what the first one left.** -/
theorem resumable : ids ++ s'.resumable env world cfg job.runId =
    s.resumable env world cfg job.runId := by
  unfold Store.resumable
  rw [h.resumeListed]
  refine authorizedJobs_map ?_ (fun c => (redelivered_keeps c).1) h.part
    fun c hc => h.resumeVerdict hc
  unfold Store.resumeListed
  split
  · split
    · exact nodup_nil
    · exact (ScanState.listJobs 10000).nodup
  · exact nodup_nil

theorem resumeRaises : s'.ResumeRaises env world cfg job.runId ↔
    s.ResumeRaises env world cfg job.runId := by
  unfold Store.ResumeRaises
  rw [h.resumeListed]
  refine checksRaise_map (fun c hc hin => ?_) fun c hc => h.resumeVerdict hc
  obtain ⟨c', hget, -, -, hverdict⟩ := mem_resumable (h.part.subset hin)
  rw [getJob_of_resumeListed hc] at hget
  cases hget
  exact hverdict

theorem statuses (k : String) : (s'.getJob k).map (·.status) =
    if k ∈ ids then some .queued else (s.getJob k).map (·.status) := by
  have hget : s'.getJob k = (s.getJob k).map (redelivered cfg worker now now' job.jobId ids) := by
    unfold getJob Table.find?
    rw [h.rows, find?_map]
    congr 2
    funext r
    simp only [Function.comp_apply, redelivered_keeps]
  rw [hget]
  by_cases hin : k ∈ ids
  · obtain ⟨c, hrow, -⟩ := mem_resumable (h.part.subset hin)
    have hid : c.jobId = k := getJob_jobId hrow
    have hne : c.jobId ≠ job.jobId := by
      rw [hid]
      exact fun heq => h.not_resumed (heq ▸ hin)
    rw [hrow, if_pos hin, Option.map_some, Option.map_some]
    unfold redelivered
    rw [if_neg hne, if_pos (hid ▸ hin)]
    rfl
  · rw [if_neg hin]
    cases hrow : s.getJob k with
    | none => rfl
    | some c =>
      have hid : c.jobId = k := getJob_jobId hrow
      rw [Option.map_some, Option.map_some]
      unfold redelivered
      by_cases hne : c.jobId = job.jobId
      · rw [← hid, hne, h.command] at hrow
        cases hrow
        rw [if_pos rfl, Option.map_some, h.running]
        rfl
      · rw [if_neg hne, if_neg (hid ▸ hin)]
        rfl

end Redelivered

theorem redelivered_of_crash (h : ClaimedCommand cfg now job s)
    (hcrash : (resumeCommand cfg job now).Stops (steady env world) s s1) {worker : String}
    (hclaim : { cfg with workerId := worker }.claim now' s1 = .ok (some job', s'))
    (hid : job'.jobId = job.jobId) :
    job' = claimRow worker now' cfg.leaseSeconds job ∧
      ∃ ids, Redelivered env world cfg worker now now' job ids s s' := by
  rcases claimNextJob_ok hclaim with ⟨hnone, -⟩ | ⟨row, hrow, hclaimable, hjob, rfl⟩
  · cases hnone
  cases hjob
  obtain hid : row.jobId = job.jobId := hid
  have hfinalized : ∀ t status, status ≠ .queued → status ≠ .retryWait → status ≠ .running →
      ¬ CommandFinalized job.jobId status t s1 := by
    intro t status hqueued hretry hrunning hfinal
    have hown := hfinal.own
    rw [← hid, hrow, Option.map_some] at hown
    cases hown
    unfold claimable at hclaimable
    simp [hqueued, hretry, hrunning] at hclaimable
  rcases stops_resumeCommand h hcrash with ⟨ids, hinit, hcases⟩ | ⟨t, hfinal | hfinal⟩
  · have hnot : job.jobId ∉ ids := by
      intro hmem
      obtain ⟨c, hget, hkind, -⟩ := mem_resumable (hinit.subset hmem)
      rw [h.row] at hget
      cases hget
      rw [h.kind] at hkind
      cases hkind
    have hrows : ∀ t : Store, t.jobs = (s.resumeJobs now ids).jobs →
        (t.updateJob row.jobId (claimRow worker now' cfg.leaseSeconds)).jobs.rows =
          s.jobs.rows.map (redelivered cfg worker now now' job.jobId ids) := by
      intro t hjobs
      unfold updateJob Table.update
      dsimp only
      rw [hjobs]
      unfold resumeJobs Table.update
      rw [map_map]
      refine map_congr_left fun r _ => ?_
      unfold redelivered
      rw [Function.comp_apply, hid]
      by_cases hjob : r.jobId = job.jobId
      · simp [hjob, hnot]
      · by_cases hin : r.jobId ∈ ids
        · simp [hjob, hin, resumedRow]
        · simp [hjob, hin]
    have hown : ∀ t : Store, t.jobs = (s.resumeJobs now ids).jobs → t.getJob row.jobId = some row →
        claimRow worker now' cfg.leaseSeconds row =
          claimRow worker now' cfg.leaseSeconds job := by
      intro t hjobs hget
      have hjob : t.getJob job.jobId = some job := by
        unfold getJob
        rw [hjobs]
        exact (h.resumeJobs hinit.subset).row
      rw [hid, hjob] at hget
      rw [Option.some.inj hget]
    rcases hcases with rfl | ⟨hall, hne, hquiet, hactive⟩
    · refine ⟨hown _ rfl hrow, ids, ?_⟩
      exact ⟨h.row, h.kind, h.running, hinit, hrows _ rfl, rfl, rfl, rfl, rfl, .inl rfl⟩
    · refine ⟨hown _ hactive.jobs hrow, ids, ?_⟩
      exact ⟨h.row, h.kind, h.running, hinit, hrows _ hactive.jobs, hactive.plans,
        hactive.reviewContexts, hactive.artifacts, hactive.reviews,
        .inr ⟨hactive.run, hall, hne, hquiet⟩⟩
  · exact absurd hfinal (hfinalized t _ (by decide) (by decide) (by decide))
  · exact absurd hfinal (hfinalized t _ (by decide) (by decide) (by decide))

theorem runClaimed_resume (hkind : job.jobKind = .command) (haction : job.action = some .resume) :
    runClaimed env cfg job now = resumeCommand cfg job now := by
  unfold runClaimed runCommand
  rw [hkind, haction]
  rfl

theorem sameOutcome_iff {worker : String} {s2 s3 : Store}
    (h : Redelivered env world cfg worker now now' job ids s s')
    (hfirst : (s.ResumeRaises env world cfg job.runId →
        ResumeOutcome job.jobId job.runId (s.resumable env world cfg job.runId) .running False s s2) ∧
      (¬ s.ResumeRaises env world cfg job.runId →
        ResumeOutcome job.jobId job.runId (s.resumable env world cfg job.runId)
          (if s.resumable env world cfg job.runId = [] then .blocked else .succeeded)
          (s.resumable env world cfg job.runId ≠ []) s s2))
    (hsecond : (s'.ResumeRaises env world cfg job.runId →
        ResumeOutcome job.jobId job.runId (s'.resumable env world cfg job.runId) .running False s' s3) ∧
      (¬ s'.ResumeRaises env world cfg job.runId →
        ResumeOutcome job.jobId job.runId (s'.resumable env world cfg job.runId)
          (if s'.resumable env world cfg job.runId = [] then .blocked else .succeeded)
          (s'.resumable env world cfg job.runId ≠ []) s' s3)) : SameOutcome job.runId s2 s3 ↔
      s.resumable env world cfg job.runId = [] ∨ s'.resumable env world cfg job.runId ≠ [] ∨
        s.ResumeRaises env world cfg job.runId := by
  have hsplit := h.resumable
  rw [h.resumeRaises] at hsecond
  -- the stage jobs end up the same in any case
  have hjobs : ∀ {command command' : JobStatus} {p p' : Prop},
      ResumeOutcome job.jobId job.runId (s.resumable env world cfg job.runId) command p s s2 →
      ResumeOutcome job.jobId job.runId (s'.resumable env world cfg job.runId) command' p' s' s3 →
      ∀ k, k ≠ job.jobId → (s2.getJob k).map (·.status) = (s3.getJob k).map (·.status) := by
    intro command command' p p' h2 h3 k hk
    rw [h2.jobs k hk, h3.jobs k hk, h.statuses, ← hsplit]
    by_cases hin : k ∈ ids
    · simp [hin]
    · simp [hin]
  have hsame : ∀ {command command' : JobStatus} {p p' : Prop},
      ResumeOutcome job.jobId job.runId (s.resumable env world cfg job.runId) command p s s2 →
      ResumeOutcome job.jobId job.runId (s'.resumable env world cfg job.runId) command' p' s' s3 →
      command = command' →
      (s2.getRun job.runId).map (·.status) = (s3.getRun job.runId).map (·.status) →
      SameOutcome job.runId s2 s3 := by
    intro command command' p p' h2 h3 hcommand hrun
    refine ⟨hrun, fun k => ?_⟩
    by_cases hk : k = job.jobId
    · rw [hk, h2.command, h3.command, hcommand]
    · exact hjobs h2 h3 k hk
  by_cases hraises : s.ResumeRaises env world cfg job.runId
  · have h2 := hfirst.1 hraises
    have h3 := hsecond.1 hraises
    refine ⟨fun _ => .inr (.inr hraises), fun _ => hsame h2 h3 rfl ?_⟩
    rw [h2.idle id, h3.idle id]
    rcases h.run with hrun | ⟨-, -, -, hquiet⟩
    · rw [hrun]
    · exact absurd hraises hquiet
  · have h2 := hfirst.2 hraises
    have h3 := hsecond.2 hraises
    constructor
    · intro hout
      by_cases hnil : s.resumable env world cfg job.runId = []
      · exact .inl hnil
      · refine .inr (.inl fun hleft => ?_)
        have hcommand := hout.jobs job.jobId
        rw [h2.command, h3.command, if_neg hnil, if_pos hleft] at hcommand
        cases hcommand
    · rintro (hnil | hleft | hraised)
      · have hids : ids = [] ∧ s'.resumable env world cfg job.runId = [] := by
          rw [hnil] at hsplit
          exact append_eq_nil_iff.mp hsplit
        refine hsame h2 h3 (by rw [if_pos hnil, if_pos hids.2]) ?_
        rw [h2.idle (by simp [hnil]), h3.idle (by simp [hids.2])]
        rcases h.run with hrun | ⟨-, -, hne, -⟩
        · rw [hrun]
        · exact absurd hids.1 hne
      · have hne : s.resumable env world cfg job.runId ≠ [] := by
          rw [← hsplit]
          exact fun hnil => hleft (append_eq_nil_iff.mp hnil).2
        refine hsame h2 h3 (by rw [if_neg hne, if_neg hleft]) ?_
        rw [h2.active hne, h3.active hleft]
      · exact absurd hraised hraises

/-- **A resumption survives a crash exactly if something is left to resume**, or nothing was to be
resumed in the first place, or a check raises. -/
theorem resume_redelivery_iff {s0 : Store} {worker : String}
    (hclaim : cfg.claim now s0 = .ok (some job, s)) (hkind : job.jobKind = .command)
    (haction : job.action = some .resume)
    (hcrash : (runClaimed env cfg job now).Stops (steady env world) s s1)
    (hreclaim : { cfg with workerId := worker }.claim now' s1 = .ok (some job', s'))
    (hid : job'.jobId = job.jobId) :
    SameOutcome job.runId ((runClaimed env cfg job now).run (steady env world) () s).2
        ((runClaimed env { cfg with workerId := worker } job' now').run (steady env world) () s').2 ↔
      (∀ c ∈ s.resumeListed job.runId, s.resumeVerdict env world cfg job.runId c ≠ .ok none) ∨
      (∃ c ∈ s'.resumeListed job.runId, s'.resumeVerdict env world cfg job.runId c = .ok none) ∨
      ∃ c ∈ s.resumeListed job.runId, ∃ e, s.resumeVerdict env world cfg job.runId c = .error e := by
  have hheld := claimedCommand_of_claim hclaim hkind
  rw [runClaimed_resume hkind haction] at hcrash ⊢
  obtain ⟨rfl, ids, h⟩ := redelivered_of_crash hheld hcrash hreclaim hid
  have hheld' := claimedCommand_of_claim hreclaim hkind
  have hresume : runClaimed env { cfg with workerId := worker }
      (claimRow worker now' cfg.leaseSeconds job) now' =
        resumeCommand { cfg with workerId := worker }
          (claimRow worker now' cfg.leaseSeconds job) now' := runClaimed_resume hkind haction
  rw [hresume]
  obtain ⟨_, s2, hrun2, hfirst⟩ := @run_resumeCommand env world cfg s now job hheld
  obtain ⟨_, s3, hrun3, hsecond⟩ := @run_resumeCommand env world _ s' now' _ hheld'
  rw [hrun2, hrun3, sameOutcome_iff h hfirst hsecond]
  by_cases hraises : s.ResumeRaises env world cfg job.runId
  · exact ⟨fun _ => .inr (.inr hraises), fun _ => .inr (.inr hraises)⟩
  · have hnil := authorizedJobs_eq_nil hraises
    have hnil' := authorizedJobs_eq_nil (fun hraises' => hraises (h.resumeRaises.mp hraises'))
    unfold resumable
    rw [map_eq_nil_iff, hnil, ne_eq, map_eq_nil_iff, hnil']
    simp only [not_forall, not_not, exists_prop, ne_eq]
    rfl

end Redelivery

/-! ## A failed run that is resumed -/

def failedProfiling : JobRecord where
  jobId := "job-1"
  runId := "run-1"
  jobKind := .stage
  stageId := some "PROFILING"
  status := .failed
  failureCode := some "PROFILING_FAILED"
  failureClassification := some .terminalFailure
  createdAt := 0
  availableAt := 0

def resumeProfiling : JobRecord where
  jobId := "job-2"
  runId := "run-1"
  jobKind := .command
  commandId := some "resume"
  action := some .resume
  createdAt := 1
  availableAt := 1

def failedRunStore : Store :=
  { empty with
    runs := ⟨[{ sampleRun with status := .failed }], by decide⟩
    plans := ⟨[samplePlan], by decide⟩
    jobs := ⟨[failedProfiling, resumeProfiling], by decide⟩ }

def resumeClaimed : Store :=
  failedRunStore.updateJob "job-2" (claimRow "worker-1" 10 30)

/-- The command as it is claimed. -/
def resumeDelivery : JobRecord := claimRow "worker-1" 10 30 resumeProfiling

theorem failedRunStore_claim :
    ({} : WorkerConfig).claim 10 failedRunStore = .ok (some resumeDelivery, resumeClaimed) := rfl

/-- A world with nothing to tell. -/
def idleWorld : Act → Input := fun _ => {}

/-- The store after the first `n` actions of the delivery. -/
def resumeCrash (n : Nat) : Store :=
  (runClaimed deployment {} resumeDelivery 10).stopAfter (steady deployment idleWorld) () n
    resumeClaimed

/-- The command is claimed once more, half a minute later. -/
def resumeReclaimed (s : Store) : Store :=
  s.updateJob "job-2" (claimRow "worker-2" 30000010 30)

def resumeRedelivery : JobRecord := claimRow "worker-2" 30000010 30 resumeDelivery

/-- A crash before the first write does no harm. -/
theorem resume_redelivery_iff_early : SameOutcome "run-1"
      ((runClaimed deployment {} resumeDelivery 10).run (steady deployment idleWorld) ()
        resumeClaimed).2
      ((runClaimed deployment { workerId := "worker-2" } resumeRedelivery 30000010).run
        (steady deployment idleWorld) () (resumeReclaimed (resumeCrash 3))).2 := by
  have hcrash : (runClaimed deployment {} resumeDelivery 10).Stops (steady deployment idleWorld)
      resumeClaimed (resumeCrash 3) := stops_stopAfter () 3 _ _
  refine (@resume_redelivery_iff deployment idleWorld {} resumeClaimed
    (resumeReclaimed (resumeCrash 3)) (resumeCrash 3) 10 30000010 resumeDelivery resumeRedelivery
    failedRunStore "worker-2" failedRunStore_claim rfl rfl hcrash rfl rfl).mpr (.inr (.inl ?_))
  exact ⟨failedProfiling, by decide, rfl⟩

/-- The store that the second delivery leaves, if the first one crashed after `n` actions. -/
def resumeRecovered (n : Nat) : Store :=
  ((runClaimed deployment { workerId := "worker-2" } resumeRedelivery 30000010).run
    (steady deployment idleWorld) () (resumeReclaimed (resumeCrash n))).2

/-- **A crash between the resumption and the reactivation loses the run**: it stays failed. -/
theorem resumed_run_stays_failed :
    ({} : WorkerConfig).claim 10 failedRunStore = .ok (some resumeDelivery, resumeClaimed) ∧
      (runClaimed deployment {} resumeDelivery 10).Stops (steady deployment idleWorld) resumeClaimed
        (resumeCrash 4) ∧
      ({ workerId := "worker-2" } : WorkerConfig).claim 30000010 (resumeCrash 4) =
        .ok (some resumeRedelivery, resumeReclaimed (resumeCrash 4)) ∧ ¬ SameOutcome "run-1"
        ((runClaimed deployment {} resumeDelivery 10).run (steady deployment idleWorld) ()
          resumeClaimed).2 (resumeRecovered 4) ∧
      ((resumeRecovered 4).getRun "run-1").map (·.status) = some .failed ∧
      ((resumeRecovered 4).getJob "job-1").map (·.status) = some .queued ∧
      ((resumeRecovered 4).getJob "job-2").map (fun j => (j.status, j.failureCode)) =
        some (.blocked, some "RESUME_NOT_AUTHORIZED") := by
  refine ⟨rfl, stops_stopAfter () 4 _ _, rfl, fun h => ?_, rfl, rfl, rfl⟩
  have hrun : some RunStatus.running = some .failed := h.run
  cases hrun

end DirtyDataOlap

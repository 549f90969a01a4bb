import DirtyDataOlap.PlanScheduling

/-!
# Which jobs a resumption resumes

The loop of `_resume_command` resumes the listed jobs without a blocker, one transaction each.
**What its checks look at no resumption changes**: it resumes the jobs that are authorized in the
state it starts from, in order, and a crashed loop has resumed the first of them
(`authorizedJobs_map`).  The world outside the store is `steady`.
-/
namespace DirtyDataOlap

open Worker List Store Prog JobRecord

/-! ## The checks of a resumption -/

/-- The actions in a world that answers every question always in the same way. -/
def steady (env : Env) (world : Act → Input) (a : Act) (_ : Unit) (s : Store) :
    Except Exc a.Reply × Store := exec env a (world a) s

section Checks
variable {env : Env} {world : Act → Input} {cfg : WorkerConfig} {runId : String}
variable {plan : ExecutionPlan} {s s' : Store}

theorem steady_runs {α : Type} {p : Worker α} {r : Except Exc α}
    (h : p.Runs (steady env world) s r s') : p.Runs (exec env) s r s' := by
  induction p generalizing s with
  | done v => exact h
  | act a k ih =>
    obtain ⟨_, h⟩ := h
    exact ⟨world a, ih _ h⟩

theorem Act.Looks.steady {a : Act} (h : a.Looks) (ω : Unit) (s : Store) :
    (steady env world a ω s).2 = s := by
  cases a with
  | read q => rfl
  | observe o => rfl
  | _ => cases h

/-- What the checks look at is the same. -/
structure SameEvidence (s s' : Store) : Prop where
  reviewContexts : s'.reviewContexts = s.reviewContexts
  artifacts : s'.artifacts = s.artifacts
  reviews : s'.reviews = s.reviews
  succeeded : ∀ runId stageId, s'.succeeded runId stageId = s.succeeded runId stageId

theorem run_steady_read {α : Type} {q : Query} {f : q.Reply → Worker α} :
    ((read q).bind f).run (steady env world) () s =
      (f (q.eval s)).run (steady env world) () s := rfl

theorem run_integrity (subject : ArtifactRef) : ∃ r, ∀ s,
    (((observe (.verify subject)).bind fun integrity => (observe (.stat subject)).bind fun stored =>
        (pure (decide (stored = subject ∧ integrity = .verified)) : Worker Bool)).tryCatch
      fun e => if e.isStorage then pure false else .raise e).run (steady env world) () s =
        (r, s) := by
  have hraise : ∀ e : Exc, ∃ r, ∀ s, (if e.isStorage then pure false else .raise e :
      Worker Bool).run (steady env world) () s = (r, s) := by
    intro e
    split
    · exact ⟨_, fun _ => rfl⟩
    · exact ⟨_, fun _ => rfl⟩
  simp only [Prog.run_tryCatch]
  cases hverify : (world (.observe (.verify subject))).verify with
  | error e =>
    obtain ⟨r, hr⟩ := hraise e
    refine ⟨r, fun s => ?_⟩
    rw [← hr s]
    simp only [observe, Prog.call, Prog.bind, Prog.run, steady, exec, Observation.answer, hverify]
  | ok integrity =>
    cases hstat : (world (.observe (.stat subject))).stat with
    | error e =>
      obtain ⟨r, hr⟩ := hraise e
      refine ⟨r, fun s => ?_⟩
      rw [← hr s]
      simp only [observe, Prog.call, Prog.bind, Prog.run, steady, exec, Observation.answer,
        hverify, hstat]
    | ok stored =>
      refine ⟨.ok (decide (stored = subject ∧ integrity = .verified)), fun s => ?_⟩
      simp only [observe, Prog.call, Prog.bind, Prog.run, steady, exec, Observation.answer,
        hverify, hstat, Prog.pure_def]

theorem run_reviewBlocker_congr (h : SameEvidence s s')
    (contexts : List ReviewCompatibilityContext) :
    ((reviewBlocker runId contexts).run (steady env world) () s').1 =
      ((reviewBlocker runId contexts).run (steady env world) () s).1 := by
  induction contexts with
  | nil => rfl
  | cons context rest ih =>
    have hcontext : s'.getReviewSubjectContext runId context.reviewCheckpointId
        context.subjectArtifactId = s.getReviewSubjectContext runId context.reviewCheckpointId
        context.subjectArtifactId := by
      unfold getReviewSubjectContext
      rw [h.reviewContexts]
    have hartifact : s'.getArtifact context.subjectArtifactId =
        s.getArtifact context.subjectArtifactId := by
      unfold getArtifact
      rw [h.artifacts]
    unfold reviewBlocker
    rw [bind_def, run_steady_read, run_steady_read]
    simp only [Query.eval, hcontext]
    cases s.getReviewSubjectContext runId context.reviewCheckpointId context.subjectArtifactId with
    | none => rfl
    | some authoritative =>
      dsimp only
      rw [bind_def, run_steady_read, run_steady_read]
      simp only [Query.eval, hartifact]
      cases s.getArtifact context.subjectArtifactId with
      | none => rfl
      | some subject =>
        dsimp only
        split
        swap
        · rfl
        obtain ⟨r, hr⟩ := @run_integrity env world subject
        rw [bind_def, run_bind, run_bind, hr, hr]
        cases r with
        | error e => rfl
        | ok intact =>
          dsimp only
          split
          swap
          · rfl
          have hcurrent : s'.getCurrentReview runId (reviewSubjectKey authoritative) =
              s.getCurrentReview runId (reviewSubjectKey authoritative) := by
            unfold getCurrentReview
            rw [h.reviews]
          rw [bind_def, run_steady_read, run_steady_read]
          simp only [Query.eval, hcurrent]
          cases s.getCurrentReview runId (reviewSubjectKey authoritative) with
          | none => rfl
          | some current =>
            dsimp only
            split
            swap
            · rfl
            split
            · exact ih
            · rfl

theorem run_dependenciesSucceeded {stageId : String} {stage : StageSpec}
    (hstage : plan.stage stageId = some stage) :
    (dependenciesSucceeded plan stageId).run (steady env world) () s =
      (.ok (s.ready plan stage), s) := by
  have hrun : (dependenciesSucceeded plan stageId).Runs (steady env world) s _ _ :=
    runs_run () _ s
  have h := (runs_dependenciesSucceeded hstage).mp (steady_runs hrun)
  exact Prod.ext h.1 h.2

/-- **The checks see only the reviews, the artifacts and the succeeded stages.** -/
theorem run_resumeBlocker_congr (h : SameEvidence s s') (candidate : JobRecord) :
    ((resumeBlocker cfg runId plan candidate).run (steady env world) () s').1 =
      ((resumeBlocker cfg runId plan candidate).run (steady env world) () s).1 := by
  unfold resumeBlocker
  split
  swap
  · rfl
  split
  · split
    · rfl
    · have hblocker := @run_reviewBlocker_congr env world runId s s' h candidate.contexts
      rw [bind_def, run_bind, run_bind]
      cases hrun : (reviewBlocker runId candidate.contexts).run (steady env world) () s with
      | mk r t =>
        cases hrun' : (reviewBlocker runId candidate.contexts).run (steady env world) () s' with
        | mk r' t' =>
          rw [hrun, hrun'] at hblocker
          obtain rfl : r' = r := hblocker
          cases r' <;> rfl
  · split
    · rfl
    · rename_i stage hstage
      split
      swap
      · rfl
      have hready : s'.ready plan stage = s.ready plan stage := by
        unfold ready
        simp only [h.succeeded]
      have hself : plan.stage stage.stageId = some stage := by
        rw [ExecutionPlan.stage_stageId hstage]
        exact hstage
      rw [bind_def, run_bind, run_bind, run_dependenciesSucceeded hself,
        run_dependenciesSucceeded hself, hready]
      dsimp only
      split
      · rfl
      · rfl
  · split
    · rfl
    · rfl
  · rfl

variable (env world cfg runId plan s) in
/-- The outcome of the check of a listed job. -/
def resumeCheck (candidate : JobRecord) : Except Exc (Option (Option String)) :=
  ((resumeBlocker cfg runId plan candidate).run (steady env world) () s).1

variable {candidate : JobRecord}

/-- What may be resumed is a stage that waits, is blocked or has failed. -/
theorem resumeCheck_ok_none (h : resumeCheck env world cfg runId plan s candidate = .ok none) :
    candidate.jobKind = .stage ∧ (candidate.status = .needsReview ∨ candidate.status = .blocked ∨
      candidate.status = .failed) := by
  unfold resumeCheck resumeBlocker at h
  by_cases hkind : candidate.jobKind = .stage
  · refine ⟨hkind, ?_⟩
    rw [if_pos hkind] at h
    cases hstatus : candidate.status with
    | needsReview => exact .inl rfl
    | blocked => exact .inr (.inl rfl)
    | failed => exact .inr (.inr rfl)
    | _ =>
      rw [hstatus] at h
      cases h
  · rw [if_neg hkind] at h
    cases h

theorem resumeCheck_queued (h : candidate.status = .queued) :
    resumeCheck env world cfg runId plan s candidate = .ok (some none) := by
  unfold resumeCheck resumeBlocker
  rw [h]
  split <;> rfl

theorem resumeCheck_command (h : candidate.jobKind = .command) :
    resumeCheck env world cfg runId plan s candidate = .ok (some none) := by
  unfold resumeCheck resumeBlocker
  rw [if_neg (by rw [h]; decide)]
  rfl

theorem resumeCheck_congr (h : SameEvidence s s') (candidate : JobRecord) :
    resumeCheck env world cfg runId plan s' candidate =
      resumeCheck env world cfg runId plan s candidate := run_resumeBlocker_congr h candidate

theorem run_resumeBlocker (h : SameEvidence s s') (candidate : JobRecord) :
    (resumeBlocker cfg runId plan candidate).run (steady env world) () s' =
      (resumeCheck env world cfg runId plan s candidate, s') := by
  refine Prod.ext (run_resumeBlocker_congr h candidate) ?_
  have hrun : (resumeBlocker cfg runId plan candidate).Runs (steady env world) s' _ _ :=
    runs_run () _ s'
  exact (only_resumeBlocker candidate).stops (fun _ h => h.1.steady) hrun.stops

end Checks

/-! ## Scanning the listed jobs -/

section Scan
variable {ε : Type}

/-- The jobs that the loop resumes: those without a blocker, before a check raises. -/
def authorizedJobs (check : JobRecord → Except ε (Option (Option String))) :
    List JobRecord → List JobRecord
  | [] => []
  | c :: rest =>
    match check c with
    | .error _ => []
    | .ok none => c :: authorizedJobs check rest
    | .ok (some _) => authorizedJobs check rest

def ChecksRaise (check : JobRecord → Except ε (Option (Option String))) (jobs : List JobRecord) :
    Prop := ∃ c ∈ jobs, ∃ e, check c = .error e

variable {check check' : JobRecord → Except ε (Option (Option String))} {jobs : List JobRecord}

theorem authorizedJobs_sublist : (authorizedJobs check jobs).Sublist jobs := by
  induction jobs with
  | nil => exact .slnil
  | cons c rest ih =>
    unfold authorizedJobs
    split
    · exact nil_sublist _
    · exact ih.cons_cons c
    · exact ih.cons c

theorem check_of_authorized {c : JobRecord} (h : c ∈ authorizedJobs check jobs) :
    check c = .ok none := by
  induction jobs with
  | nil => cases h
  | cons d rest ih =>
    unfold authorizedJobs at h
    split at h
    · cases h
    · rename_i hd
      rcases mem_cons.mp h with rfl | h
      · exact hd
      · exact ih h
    · exact ih h

theorem authorizedJobs_eq_nil (h : ¬ ChecksRaise check jobs) :
    authorizedJobs check jobs = [] ↔ ∀ c ∈ jobs, check c ≠ .ok none := by
  constructor
  · intro hnil c hc hok
    induction jobs with
    | nil => cases hc
    | cons d rest ih =>
      have hrest : ¬ ChecksRaise check rest := by
        rintro ⟨x, hx, e, he⟩
        exact h ⟨x, mem_cons_of_mem _ hx, e, he⟩
      unfold authorizedJobs at hnil
      split at hnil
      · rename_i e he
        exact h ⟨d, mem_cons_self, e, he⟩
      · cases hnil
      · rename_i hd
        rcases mem_cons.mp hc with rfl | hc
        · rw [hok] at hd
          cases hd
        · exact ih hrest hnil hc
  · intro hall
    rw [eq_nil_iff_forall_not_mem]
    intro c hc
    exact hall c (authorizedJobs_sublist.subset hc) (check_of_authorized hc)

variable {next : JobRecord → JobRecord}

/-- **A second scan finds what the first one left**: if the first got through `ids`, the second
resumes the others. -/
theorem authorizedJobs_map {ids : List String} (hnodup : (jobs.map jobId).Nodup)
    (hid : ∀ c, (next c).jobId = c.jobId) (hinit : ids <+: (authorizedJobs check jobs).map jobId)
    (hcheck : ∀ c ∈ jobs, check' (next c) = if c.jobId ∈ ids then .ok (some none) else check c) :
    ids ++ (authorizedJobs check' (jobs.map next)).map jobId =
      (authorizedJobs check jobs).map jobId := by
  induction jobs generalizing ids with
  | nil =>
    obtain rfl : ids = [] := by simpa [authorizedJobs] using hinit
    rfl
  | cons c rest ih =>
    obtain ⟨hfresh, hrest⟩ := nodup_cons.mp hnodup
    have hhead := hcheck c mem_cons_self
    have htail : ∀ c ∈ rest, check' (next c) =
        if c.jobId ∈ ids then .ok (some none) else check c :=
      fun c hc => hcheck c (mem_cons_of_mem _ hc)
    -- what was resumed of the rest is not the head
    have houtside : ids <+: (authorizedJobs check rest).map jobId → c.jobId ∉ ids := by
      intro hpre hmem
      exact hfresh ((authorizedJobs_sublist.map _).subset (hpre.subset hmem))
    unfold authorizedJobs at hinit ⊢
    rw [map_cons]
    dsimp only
    cases hc : check c with
    | error e =>
      rw [hc] at hinit
      obtain rfl : ids = [] := by simpa using hinit
      rw [if_neg not_mem_nil, hc] at hhead
      rw [hhead]
      rfl
    | ok o =>
      cases o with
      | some reason =>
        rw [hc] at hinit
        have hout := houtside hinit
        rw [if_neg hout, hc] at hhead
        rw [hhead]
        exact ih hrest hinit htail
      | none =>
        rw [hc] at hinit
        cases ids with
        | nil =>
          rw [if_neg not_mem_nil, hc] at hhead
          rw [hhead]
          rw [map_cons, map_cons, hid]
          exact congrArg (c.jobId :: ·) (ih hrest ( nil_prefix ..) htail)
        | cons id ids =>
          rw [map_cons, cons_prefix_cons] at hinit
          obtain ⟨rfl, hinit⟩ := hinit
          rw [if_pos mem_cons_self] at hhead
          rw [hhead]
          rw [map_cons, cons_append]
          refine congrArg (c.jobId :: ·) (ih hrest hinit fun d hd => ?_)
          have hne : d.jobId ≠ c.jobId := by
            intro heq
            exact hfresh (heq ▸ mem_map_of_mem hd)
          rw [htail d hd]
          simp only [mem_cons, hne, false_or]

theorem checksRaise_map {ids : List String} (hinit : ∀ c ∈ jobs, c.jobId ∈ ids → check c = .ok none)
    (hcheck : ∀ c ∈ jobs, check' (next c) = if c.jobId ∈ ids then .ok (some none) else check c) :
    ChecksRaise check' (jobs.map next) ↔ ChecksRaise check jobs := by
  unfold ChecksRaise
  simp only [mem_map, exists_exists_and_eq_and]
  refine exists_congr fun c => and_congr_right fun hc => ?_
  rw [hcheck c hc]
  split
  · rename_i hmem
    rw [hinit c hc hmem]
    simp
  · rfl

end Scan

/-! ## The loop over the listed jobs -/

theorem Store.resumedRow_jobId (now : Instant) (r : JobRecord) :
    (resumedRow now r).jobId = r.jobId := rfl

def Store.resumeJobs (s : Store) (now : Instant) (ids : List String) : Store :=
  { s with
    jobs := s.jobs.update (fun j => decide (j.jobId ∈ ids)) (resumedRow now)
      (resumedRow_jobId now) }

section Loop
variable {env : Env} {world : Act → Input} {cfg : WorkerConfig} {runId : String}
variable {plan : ExecutionPlan} {s s' : Store} {now : Instant} {ids : List String}

theorem Store.getJob_resumeJobs (k : String) : (s.resumeJobs now ids).getJob k =
      (s.getJob k).map fun r => if k ∈ ids then resumedRow now r else r := by
  unfold getJob resumeJobs
  rw [Table.find?_update]
  cases hk : s.jobs.find? k with
  | none => rfl
  | some r =>
    have hid : r.jobId = k := Table.find?_key hk
    simp [hid]

theorem Store.resumeJobs_nil : s.resumeJobs now [] = s := by
  have hrows : s.jobs.rows.map (fun r => if decide (r.jobId ∈ []) = true then resumedRow now r
      else r) = s.jobs.rows := by
    simp
  unfold resumeJobs Table.update
  obtain ⟨runs, plans, ⟨rows, hn⟩, attempts, artifacts, contexts, reviews, history, gates⟩ := s
  simp only [mk.injEq, Table.mk.injEq, true_and, and_true]
  exact hrows

theorem Store.updateJob_resumeJobs {id : String} (h : id ∉ ids) :
    (s.resumeJobs now ids).updateJob id (resumedRow now) = s.resumeJobs now (ids ++ [id]) := by
  unfold updateJob resumeJobs Table.update
  simp only [mk.injEq, Table.mk.injEq, true_and, and_true, map_map]
  refine map_congr_left fun r _ => ?_
  simp only [Function.comp_apply, mem_append, mem_singleton]
  by_cases hin : r.jobId ∈ ids
  · have hne : r.jobId ≠ id := fun heq => h (heq ▸ hin)
    simp [hin, hne, resumedRow]
  · simp [hin]

/-- Jobs that are resumed had not succeeded. -/
theorem SameEvidence.resumeJobs (h : ∀ r ∈ s.jobs.rows, r.jobId ∈ ids → r.status ≠ .succeeded) :
    SameEvidence s (s.resumeJobs now ids) := by
  refine ⟨rfl, rfl, rfl, fun runId stageId => ?_⟩
  have hget : (s.resumeJobs now ids).getStageJob runId stageId =
      (s.getStageJob runId stageId).map fun r =>
        if r.jobId ∈ ids then resumedRow now r else r := by
    have hfind : ∀ r : JobRecord, (fun j : JobRecord => decide (j.runId = runId) &&
          decide (j.stageId = some stageId)) (if r.jobId ∈ ids then resumedRow now r else r) =
        (decide (r.runId = runId) && decide (r.stageId = some stageId)) := by
      intro r
      split <;> rfl
    unfold Store.getStageJob Store.resumeJobs Table.update
    simp only [find?_map, decide_eq_true_eq]
    congr 2
    funext r
    exact hfind r
  unfold Store.succeeded
  rw [hget]
  cases hrow : s.getStageJob runId stageId with
  | none => rfl
  | some r =>
    have hmem : r ∈ s.jobs.rows := mem_of_find?_eq_some hrow
    simp only [Option.map_some, Option.any_some]
    split
    · rename_i hin
      have hnot := h r hmem hin
      simp [resumedRow, hnot]
    · rfl

variable {α : Type}

theorem run_steady_write {w : Write} {f : w.Reply → Worker α} {v : w.Reply} {s1 : Store}
    (h : w.txn env.stableId s = .ok (v, s1)) : ((write w).bind f).run (steady env world) () s =
      (f v).run (steady env world) () s1 := by
  change run (steady env world) () ((done ((w.txn env.stableId).commit s).1).bind f)
    ((w.txn env.stableId).commit s).2 = _
  unfold Txn.commit
  rw [h]
  rfl

theorem stops_steady_write {w : Write} {f : w.Reply → Worker α} {v : w.Reply} {s1 : Store}
    (h : w.txn env.stableId s = .ok (v, s1)) : ((write w).bind f).Stops (steady env world) s s' ↔
      s' = s ∨ (f v).Stops (steady env world) s1 s' := by
  change (s' = s ∨ ∃ _ : Unit, Prog.Stops (steady env world)
    ((done ((w.txn env.stableId).commit s).1).bind f) ((w.txn env.stableId).commit s).2 s') ↔ _
  unfold Txn.commit
  rw [h]
  simp

theorem stops_steady_read {q : Query} {f : q.Reply → Worker α} :
    ((read q).bind f).Stops (steady env world) s s' ↔
      s' = s ∨ (f (q.eval s)).Stops (steady env world) s s' := by
  change (s' = s ∨ ∃ _ : Unit, (f (q.eval s)).Stops (steady env world) s s') ↔ _
  simp

theorem resumeJob_txn {c : JobRecord} (hrow : s.getJob c.jobId = some c) (hfresh : c.jobId ∉ ids)
    (hstatus : c.status = .needsReview ∨ c.status = .blocked ∨ c.status = .failed) :
    (Write.resumeJob c.jobId now).txn env.stableId (s.resumeJobs now ids) =
      .ok (resumedRow now c, s.resumeJobs now (ids ++ [c.jobId])) := by
  change resumeJob c.jobId now (s.resumeJobs now ids) = _
  have hget : (s.resumeJobs now ids).getJob c.jobId = some c := by
    rw [getJob_resumeJobs, hrow, Option.map_some, if_neg hfresh]
  unfold resumeJob
  rw [hget]
  dsimp only
  rw [if_pos hstatus]
  exact congrArg (fun t => Except.ok (resumedRow now c, t)) (updateJob_resumeJobs hfresh)

/-- The jobs are rows of the store, not yet resumed, and nothing that was resumed had succeeded. -/
structure ScanState (s : Store) (ids : List String) (jobs : List JobRecord) : Prop where
  rows : ∀ c ∈ jobs, s.getJob c.jobId = some c
  nodup : (jobs.map jobId).Nodup
  fresh : ∀ c ∈ jobs, c.jobId ∉ ids
  waiting : ∀ r ∈ s.jobs.rows, r.jobId ∈ ids → r.status ≠ .succeeded

theorem ScanState.tail {c : JobRecord} {rest : List JobRecord}
    (h : ScanState s ids (c :: rest)) : ScanState s ids rest :=
  ⟨fun d hd => h.rows d (mem_cons_of_mem _ hd), (nodup_cons.mp h.nodup).2,
    fun d hd => h.fresh d (mem_cons_of_mem _ hd), h.waiting⟩

theorem ScanState.resumed {c : JobRecord} {rest : List JobRecord} (h : ScanState s ids (c :: rest))
    (hstatus : c.status = .needsReview ∨ c.status = .blocked ∨ c.status = .failed) :
    ScanState s (ids ++ [c.jobId]) rest := by
  refine ⟨h.tail.rows, h.tail.nodup, fun d hd hmem => ?_, fun r hr hmem => ?_⟩
  · rcases mem_append.mp hmem with hmem | hmem
    · exact h.tail.fresh d hd hmem
    · have heq : d.jobId = c.jobId := mem_singleton.mp hmem
      exact (nodup_cons.mp h.nodup).1 (heq ▸ mem_map_of_mem hd)
  · rcases mem_append.mp hmem with hmem | hmem
    · exact h.waiting r hr hmem
    · have hrow := h.rows c mem_cons_self
      rw [← mem_singleton.mp hmem] at hrow
      have hself : s.getJob r.jobId = some r := Table.find?_of_mem hr
      obtain rfl : r = c := Option.some.inj (hself.symm.trans hrow)
      intro hsucceeded
      rw [hsucceeded] at hstatus
      rcases hstatus with h | h | h <;> cases h

/-- **The loop, whole**: it resumes the authorized jobs, and raises if a check does. -/
theorem run_resumeCandidates {jobs : List JobRecord} {n : Nat} {reason : String}
    (h : ScanState s ids jobs) (hreason : SafeDetail reason) :
    ∃ r, (resumeCandidates cfg runId plan now jobs n reason).run (steady env world) ()
        (s.resumeJobs now ids) = (r, s.resumeJobs now (ids ++ (authorizedJobs
          (resumeCheck env world cfg runId plan s) jobs).map jobId)) ∧
      ((∃ e, r = .error e) ↔ ChecksRaise (resumeCheck env world cfg runId plan s) jobs) ∧
      ∀ v, r = .ok v → v.1 = n + (authorizedJobs (resumeCheck env world cfg runId plan s)
        jobs).length ∧ SafeDetail v.2 := by
  induction jobs generalizing ids n reason with
  | nil =>
    refine ⟨.ok (n, reason), ?_, ?_, ?_⟩
    · simp [authorizedJobs, resumeCandidates, run]
    · simp [ChecksRaise]
    · rintro _ ⟨⟩
      exact ⟨rfl, hreason⟩
  | cons c rest ih =>
    have hevidence := @SameEvidence.resumeJobs s now ids h.waiting
    unfold resumeCandidates
    rw [bind_def, run_bind, run_resumeBlocker hevidence]
    have hraise : ChecksRaise (resumeCheck env world cfg runId plan s) (c :: rest) ↔
        (∃ e, resumeCheck env world cfg runId plan s c = .error e) ∨
          ChecksRaise (resumeCheck env world cfg runId plan s) rest := by
      unfold ChecksRaise
      simp
    rw [hraise]
    unfold authorizedJobs
    cases hc : resumeCheck env world cfg runId plan s c with
    | error e => exact ⟨.error e, by simp, by simp, nofun⟩
    | ok o =>
      simp only [reduceCtorEq, exists_false, false_or]
      cases o with
      | some blocked =>
        refine ih h.tail ?_
        cases blocked with
        | none => exact hreason
        | some text =>
          have hrun := runs_iff_run.mpr
            (@run_resumeBlocker env world cfg runId plan s _ hevidence c)
          rw [hc] at hrun
          exact ((only_resumeBlocker c).value hrun).1 _ rfl text rfl
      | none =>
        have hstatus := (resumeCheck_ok_none hc).2
        rw [bind_def, run_steady_write (resumeJob_txn (h.rows c mem_cons_self)
          (h.fresh c mem_cons_self) hstatus)]
        obtain ⟨r, hrun, hiff, hvalue⟩ := ih (n := n + 1) (h.resumed hstatus) hreason
        refine ⟨r, ?_, hiff, fun v hv => ?_⟩
        · rw [hrun, append_assoc]
          rfl
        · obtain ⟨hn, hsafe⟩ := hvalue v hv
          refine ⟨?_, hsafe⟩
          rw [hn, length_cons]
          omega

/-- **The loop, crashed**: it has resumed the first ones of the authorized jobs. -/
theorem stops_resumeCandidates {jobs : List JobRecord} {n : Nat} {reason : String} {s1 : Store}
    (h : ScanState s ids jobs)
    (hstops : (resumeCandidates cfg runId plan now jobs n reason).Stops (steady env world)
      (s.resumeJobs now ids) s1) :
    ∃ ids', ids' <+: (authorizedJobs (resumeCheck env world cfg runId plan s) jobs).map
        jobId ∧ s1 = s.resumeJobs now (ids ++ ids') := by
  induction jobs generalizing ids n reason with
  | nil => exact ⟨[], nil_prefix .., by rw [append_nil]; exact hstops⟩
  | cons c rest ih =>
    have hevidence := @SameEvidence.resumeJobs s now ids h.waiting
    unfold resumeCandidates at hstops
    rw [bind_def] at hstops
    rcases stops_bind.mp hstops with hcheck | ⟨o, s2, hrun, hrest⟩
    · refine ⟨[], nil_prefix .., ?_⟩
      rw [append_nil]
      exact (only_resumeBlocker c).stops (fun _ h => h.1.steady) hcheck
    · rw [runs_iff_run, run_resumeBlocker hevidence] at hrun
      obtain ⟨hc, rfl⟩ := Prod.mk.inj hrun
      unfold authorizedJobs
      rw [hc]
      cases o with
      | some blocked => exact ih h.tail hrest
      | none =>
        have hstatus := (resumeCheck_ok_none hc).2
        dsimp only at hrest
        rw [bind_def, stops_steady_write (resumeJob_txn (h.rows c mem_cons_self)
          (h.fresh c mem_cons_self) hstatus)] at hrest
        rcases hrest with rfl | hrest
        · exact ⟨[], nil_prefix .., by rw [append_nil]⟩
        · obtain ⟨ids', hinit, rfl⟩ := ih (h.resumed hstatus) hrest
          refine ⟨c.jobId :: ids', ?_, ?_⟩
          · rw [map_cons]
            exact cons_prefix_cons.mpr ⟨rfl, hinit⟩
          · rw [append_assoc]
            rfl

end Loop

end DirtyDataOlap

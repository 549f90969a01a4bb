import DirtyDataOlap.RunCompletion
import DirtyDataOlap.StatusWrites

/-!
# Failed runs

A run becomes `FAILED` when a required stage has failed, while other branches may still be at work.
`_set_run_status` and `_maybe_complete_run` look at the status right before they write, under the
revision they read (`StatusWrites`), and keep it.  **The guard knows no other status**: an iteration
whose stage needs review or is blocked overwrites `FAILED` (`Overrides`).
-/
namespace DirtyDataOlap

open World

variable {env : Env} {x y : Prop} {w : World}

/-- The rules by which an iteration writes the status of runs: those of the job it
serves. -/
def AdmitsRule (s : Store) (l : Lease) (ok : Option (Answered Act.Reply Exc) → Act → Prop) : Prop :=
  ∃ row, s.getJob l.jobId = some row ∧ ok = StatusRule row.resumedRun

theorem JobRecord.Evolves.resumedRun {a b : JobRecord} (h : a.Evolves b) :
    b.resumedRun = a.resumedRun := by
  unfold JobRecord.resumedRun
  rw [h.jobKind, h.action, h.runId]

theorem AdmitsRule.mono {s s' : Store} (h : s.Evolves s') {l : Lease}
    {ok : Option (Answered Act.Reply Exc) → Act → Prop} (ha : AdmitsRule s l ok) :
    AdmitsRule s' l ok := by
  obtain ⟨row, hrow, rfl⟩ := ha
  obtain ⟨row', hrow', he⟩ := h.getJob hrow
  exact ⟨row', hrow', by rw [he.resumedRun]⟩

/-- Every iteration writes the status of runs by its rules. -/
abbrev World.StatusOrderly (w : World) : Prop := Pool.Orderly AdmitsRule LikelyReply w

theorem exec_likely (a : Act) (ω : Input) (s : Store) (r : Except Exc a.Reply) (s' : Store)
    (h : exec env a ω s = (r, s')) : LikelyReply ⟨a, r⟩ := by
  match a with
  | .read (.run runId) =>
    rintro run rfl
    have hget : s.getRun runId = some run := Except.ok.inj (congrArg Prod.fst h)
    exact Store.getRun_runId hget
  | .read (.executionPlan _) | .read (.job _) | .read (.stageJob _ _) | .read (.jobs _)
  | .read (.stageAttempt _) | .read (.artifact _) | .read (.reviewSubjectContext _ _ _)
  | .read (.currentReview _ _) | .read (.gateEvidence _ _) => trivial
  | .claim _ _ _ _ _ | .observe _ | .fenced _ _ | .write _ => trivial

theorem World.StatusOrderly.move (h : World.Kept env x y w) (ho : w.StatusOrderly) (m : Move) :
    (w.move env m).StatusOrderly := by
  have hev := h.move_evolves m
  cases m with
  | runOnce cfg now =>
    change (w.runOnce env cfg now).StatusOrderly
    change w.config.state.Evolves (w.runOnce env cfg now).config.state at hev
    rcases w.runOnce_cases env cfg now with heq | ⟨job, s, hclaim, heq⟩
    · rwa [heq]
    rw [heq] at hev ⊢
    refine Pool.Orderly.join ho (fun l ok ha => ha.mono hev) ⟨StatusRule job.resumedRun, ?_, ?_⟩
    · obtain ⟨row, hrow, _, rfl, rfl, _⟩ := hclaim.spec
      exact ⟨_, Store.getJob_updateJob_self hrow, rfl⟩
    · exact Prog.Orderly.after statusRule_permissive (statusOrderly_runClaimed env cfg job now) _
  | step i ω =>
    exact Pool.Orderly.advance ho (fun _ a _ r s _ he => exec_likely a ω _ r s he)
      fun l ok ha => ha.mono hev
  | crash i => exact Pool.Orderly.kill ho i
  | client op => exact Pool.Orderly.outside ho fun l ok ha => ha.mono hev

/-! ## What becomes of a failed run -/

/-- The move writes `NEEDS_REVIEW` or `BLOCKED` over the `FAILED` of the run: its iteration's stage needs
review or is blocked, its plan is still pending, or its submission found nothing to schedule. -/
def Overrides (runId : String) (w : World) : Move → Prop
  | .step i _ => ∃ (l : Lease) (new : RunRecord) (revision : Nat) (run : RunRecord)
      (k : Except Exc RunRecord → Prog Act.Reply Exc WorkerOutcome),
    w.threads[i]? = some ⟨l, some (.act (.write (.updateRun new revision)) k)⟩ ∧
    new.runId = runId ∧ (new.status = .needsReview ∨ new.status = .blocked) ∧
    w.config.state.getRun runId = some run ∧ run.status = .failed ∧ run.revision = revision
  | _ => False

/-- The move is one of an iteration that serves a resume command of the run. -/
def Resumes (runId : String) (w : World) : Move → Prop
  | .step i _ => ∃ t row, w.threads[i]? = some t ∧
    w.config.state.getJob t.label.jobId = some row ∧ row.resumedRun = some runId
  | _ => False

/-- **What was read right before a write is what is overwritten.** -/
theorem World.StatusOrderly.written (h : World.Kept env x y w) (ho : w.StatusOrderly) {i : Nat}
    {l : Lease} {new : RunRecord} {revision : Nat}
    {k : Except Exc RunRecord → Prog Act.Reply Exc WorkerOutcome}
    (hth : w.threads[i]? = some ⟨l, some (.act (.write (.updateRun new revision)) k)⟩)
    {run : RunRecord} (hrun : w.config.state.getRun new.runId = some run)
    (hrev : run.revision = revision) (hfailed : run.status = .failed) :
    new.status = .needsReview ∨ new.status = .blocked ∨ new.status = .cancelled ∨
      ∃ row, w.config.state.getJob l.jobId = some row ∧ row.resumedRun = some new.runId := by
  obtain ⟨_, ⟨row, hrow, rfl⟩, runId, read, hlast, hrevision, hid, hstatus⟩ := ho.next hth
  obtain ⟨s, hmem⟩ := Config.last_mem hlast
  have hread : s.getRun runId = some read :=
    (Except.ok.inj (h.coherent.history.faithful _ hmem)).symm
  have hrunId : new.runId = runId := hid.trans (Store.getRun_runId hread)
  rw [hrunId] at hrun
  obtain rfl : run = read :=
    (h.coherent.history.evolves _ hmem).run_eq hread hrun (hrev.trans hrevision.symm)
  rcases hstatus hfailed with hst | hst | hst | ⟨_, hres⟩
  · exact .inl hst
  · exact .inr (.inl hst)
  · exact .inr (.inr (.inl hst))
  · exact .inr (.inr (.inr ⟨row, hrow, by rw [hres, hrunId]⟩))

/-- **One move leaves a failed run failed**, or cancels it. -/
theorem World.StatusOrderly.failed (h : World.Kept env x y w) (ho : w.StatusOrderly) {m : Move}
    {runId : String} (hover : ¬ Overrides runId w m) (hres : ¬ Resumes runId w m)
    {run : RunRecord} (hrun : w.config.state.getRun runId = some run) (hst : run.status = .failed) :
    ∃ run', (w.move env m).config.state.getRun runId = some run' ∧
      (run'.status = .failed ∨ run'.status = .cancelled) := by
  obtain ⟨run', hrun', -⟩ := (h.move_evolves m).getRun hrun
  refine ⟨run', hrun', ?_⟩
  have hch := h.change m
  generalize (w.move env m).config = c at hch hrun'
  cases hch with
  | idle =>
    rw [hrun] at hrun'
    cases hrun'
    exact .inl hst
  | @act i ω l a k r s hth hexec hsound =>
    obtain ⟨run0, hrun0, hchange⟩ := exec_getRun hexec hrun'
    rw [hrun] at hrun0
    cases hrun0
    cases hchange with
    | same => exact .inl hst
    | @update new _ revision hid hrev =>
      rw [← hid] at hrun
      rcases ho.written h hth hrun hrev hst with hnew | hnew | hnew | ⟨row, hrow, hresume⟩
      · exact absurd ⟨l, new, revision, run, k, hth, hid, .inl hnew, hid ▸ hrun, hst, hrev⟩ hover
      · exact absurd ⟨l, new, revision, run, k, hth, hid, .inr hnew, hid ▸ hrun, hst, hrev⟩ hover
      · exact .inr hnew
      · exact absurd ⟨_, row, hth, hrow, hid ▸ hresume⟩ hres
    | cancel =>
      unfold Store.cancelledRun
      split
      · exact .inl hst
      · exact .inr rfl
  | claim hclaim =>
    rw [Config.log, Store.getRun_of_runs hclaim.runs, hrun] at hrun'
    cases hrun'
    exact .inl hst
  | client hstep =>
    obtain ⟨run1, hrun1, hstatus⟩ := hstep.runs hrun
    rw [hrun'] at hrun1
    cases hrun1
    exact .inl (hstatus.trans hst)

theorem statusOrderly_initial : initial.StatusOrderly := by
  intro i t q ht
  cases ht

theorem World.Reachable.statusOrderly (h : Reachable env w) : w.StatusOrderly := by
  obtain ⟨moves, rfl⟩ := h
  have hstep : ∀ w m, Kept env False False w ∧ w.StatusOrderly → True →
      Kept env False False (w.move env m) ∧ (w.move env m).StatusOrderly := by
    rintro w m ⟨hk, ho⟩ _
    exact ⟨hk.move False.elim False.elim False.elim, ho.move hk m⟩
  exact (run_induction hstep initial ⟨kept_initial, statusOrderly_initial⟩ moves
    fun _ _ _ _ => trivial).2

/-- **A failed run stays failed** until it is resumed or cancelled, where no iteration writes
`NEEDS_REVIEW` or `BLOCKED` over it. -/
theorem failed_run_stays_failed (moves later : List Move) {runId : String} {run : RunRecord}
    (hrun : (World.run env initial moves).config.state.getRun runId = some run)
    (hst : run.status = .failed) (hresume : ∀ ms1 m ms2, later = ms1 ++ m :: ms2 →
      ¬ Resumes runId (World.run env initial (moves ++ ms1)) m)
    (hok : ∀ ms1 m ms2, later = ms1 ++ m :: ms2 →
      ¬ Overrides runId (World.run env initial (moves ++ ms1)) m) :
    ∃ run', (World.run env initial (moves ++ later)).config.state.getRun runId = some run' ∧
      (run'.status = .failed ∨ run'.status = .cancelled) := by
  have hstep : ∀ (w : World) (m : Move), (World.Reachable env w ∧ ∃ run',
        w.config.state.getRun runId = some run' ∧
          (run'.status = .failed ∨ run'.status = .cancelled)) →
      (¬ Resumes runId w m ∧ ¬ Overrides runId w m) →
      World.Reachable env (w.move env m) ∧ ∃ run',
        (w.move env m).config.state.getRun runId = some run' ∧
          (run'.status = .failed ∨ run'.status = .cancelled) := by
    rintro w m ⟨hreach, run', hrun', hst'⟩ ⟨hres, hover⟩
    refine ⟨hreach.move m, ?_⟩
    rcases hst' with hst' | hst'
    · exact hreach.statusOrderly.failed hreach.kept hover hres hrun' hst'
    · obtain ⟨run'', hrun'', he⟩ := (hreach.kept.move_evolves m).getRun hrun'
      exact ⟨run'', hrun'', .inr (he.cancelled hst')⟩
  rw [run_append]
  refine (run_induction hstep _ ⟨⟨moves, rfl⟩, run, hrun, .inl hst⟩ later ?_).2
  intro ms1 m ms2 heq
  rw [← run_append]
  exact ⟨hresume ms1 m ms2 heq, hok ms1 m ms2 heq⟩

/-! ## Two branches -/

def notResuming (runId : String) (w : World) : Move → Bool
  | .step i _ => (w.threads[i]?).all fun t =>
    (w.config.state.getJob t.label.jobId).all fun row => row.resumedRun ≠ some runId
  | _ => true

theorem notResuming_spec {runId : String} {m : Move} (h : notResuming runId w m = true) :
    ¬ Resumes runId w m := by
  cases m with
  | step i ω =>
    rintro ⟨t, row, ht, hrow, hres⟩
    unfold notResuming at h
    simp only [ht, Option.all_some, hrow, decide_eq_true_eq] at h
    exact h hres
  | runOnce cfg now => exact id
  | crash i => exact id
  | client op => exact id

/-- A check that the move writes neither `NEEDS_REVIEW` nor `BLOCKED`. -/
def notOverriding (w : World) : Move → Bool
  | .step i _ => (w.threads[i]?).all fun t =>
    match t.next with
    | some (.write (.updateRun new _)) => new.status ≠ .needsReview && new.status ≠ .blocked
    | _ => true
  | _ => true

theorem notOverriding_spec {runId : String} {m : Move} (h : notOverriding w m = true) :
    ¬ Overrides runId w m := by
  cases m with
  | step i ω =>
    rintro ⟨l, new, revision, run, k, hth, _, hst, _⟩
    unfold notOverriding at h
    simp only [hth, Option.all_some, Thread.next, Bool.and_eq_true, decide_eq_true_eq] at h
    rcases hst with hst | hst
    · exact h.1 hst
    · exact h.2 hst
  | runOnce cfg now => exact id
  | crash i => exact id
  | client op => exact id

/-- A plan of two stages that do not wait for each other. -/
def branchingPlan : ExecutionPlan where
  toPlanData := samplePlanData
    [sampleStage "DEPENDENCY_DISCOVERY" [], sampleStage "PROFILING" []]
  valid := by decide

def failing : Input where
  handler := .ok
    { status := .failed
      failureCode := some "PROFILE_INVALID"
      failureClassification := some .terminalFailure }

def blocking : Input where
  handler := .ok
    { status := .blocked
      failureCode := some "INPUT_MISSING"
      failureClassification := some .blockedPrerequisite }

/-- Both stages are enqueued, and the first of them fails. -/
def firstFails : List Move :=
  submission branchingPlan ++ [.runOnce {} 0] ++ steps 0 10 {} ++ [.runOnce {} 0] ++
    steps 1 30 failing

/-- The other stage is served, by a handler that answers like this. -/
def secondServed (ω : Input) : List Move := .runOnce {} 0 :: steps 2 30 ω

theorem failed_run_stays_failed_second_succeeds :
    ∃ run', (World.run deployment World.initial (firstFails ++ secondServed {})).config.state.getRun
      "run-1" = some run' ∧ (run'.status = .failed ∨ run'.status = .cancelled) := by
  have hst : ((World.run deployment World.initial firstFails).config.state.getRun "run-1").map
      (·.status) = some .failed := by decide +kernel
  have hresume : World.checks deployment (notResuming "run-1")
      (World.run deployment World.initial firstFails) (secondServed {}) = true := by decide +kernel
  have hover : World.checks deployment notOverriding
      (World.run deployment World.initial firstFails) (secondServed {}) = true := by decide +kernel
  obtain ⟨run, hrun, hst⟩ := Option.map_eq_some_iff.mp hst
  refine failed_run_stays_failed firstFails (secondServed {}) hrun hst ?_ ?_
  · intro ms1 m ms2 heq
    rw [World.run_append]
    exact notResuming_spec (World.checks_spec hresume ms1 m ms2 heq)
  · intro ms1 m ms2 heq
    rw [World.run_append]
    exact notOverriding_spec (World.checks_spec hover ms1 m ms2 heq)

/-- The run has failed, nobody resumes it, and the other stage blocks it. -/
theorem failed_run_blocked :
    ((run deployment initial firstFails).config.state.getRun "run-1").map (·.status) =
      some .failed ∧ (∀ ms1 m ms2, secondServed blocking = ms1 ++ m :: ms2 →
      ¬ Resumes "run-1" (run deployment initial (firstFails ++ ms1)) m) ∧
    ((run deployment initial (firstFails ++ secondServed blocking)).config.state.getRun
      "run-1").map (·.status) = some .blocked := by
  refine ⟨by decide +kernel, ?_, by decide +kernel⟩
  have hresume : checks deployment (notResuming "run-1")
      (run deployment initial firstFails) (secondServed blocking) = true := by
    decide +kernel
  intro ms1 m ms2 heq
  rw [run_append]
  exact notResuming_spec (checks_spec hresume ms1 m ms2 heq)

end DirtyDataOlap

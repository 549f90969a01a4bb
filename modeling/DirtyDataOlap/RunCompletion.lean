import DirtyDataOlap.Deployment
import DirtyDataOlap.SystemHistory

/-!
# Completed runs

Completion is decided from five reads in five transactions; it is right at the moment of the write
because everything read is monotone (`PlanSucceeded.mono`).  A cancelled run stays cancelled.  A
succeeded run is left alone by everything except `_set_run_status(CANCELLED)`: an iteration whose
job came out cancelled, of a stage that the plan does not require, cancels it (`FindsSucceeded`).
-/
namespace DirtyDataOlap

open List World Store

variable {env : Env} {x y : Prop} {w : World}

variable {runId : String} {m : Move} {c : Scene}

theorem Store.PlanSucceeded.mono {s s' : Store} (h : s.Evolves s') (hp : s.PlanSucceeded runId) :
    s'.PlanSucceeded runId := by
  obtain ⟨p, hget, hcomplete, hfinal, hall⟩ := hp
  obtain ⟨p', hget', he⟩ := h.getExecutionPlan hget
  obtain rfl := he.complete hcomplete
  exact ⟨p', hget', hcomplete, hfinal, fun st hst hreq hsel => (hall st hst hreq hsel).mono h⟩

/-- Every succeeded run has a plan whose required stages have succeeded. -/
def Store.Justified (s : Store) : Prop :=
  ∀ runId run, s.getRun runId = some run → run.status = .succeeded → s.PlanSucceeded runId

theorem Claims.runs {cfg : WorkerConfig} {now : Instant} {job : JobRecord} {s : Store}
    (h : Claims w cfg now job s) : s.runs = w.config.state.runs := by
  obtain ⟨_, _, _, _, rfl, _⟩ := h.spec
  rfl

/-- **How a run comes to be `SUCCEEDED`**: it was, or the last required stage has
succeeded and the gate has passed. -/
theorem Change.succeeded (hch : Change env x w m c) {run' : RunRecord}
    (hrun' : c.state.getRun runId = some run') (hst : run'.status = .succeeded) :
    (∃ run, w.config.state.getRun runId = some run ∧ run.status = .succeeded) ∨
      (w.config.state.PlanSucceeded runId ∧ ∃ i g a, GatePassed i w.config runId g a) := by
  cases hch with
  | idle => exact .inl ⟨run', hrun', hst⟩
  | @act i ω l a k r s hth hexec hsound =>
    obtain ⟨run, hrun, hchange⟩ := exec_getRun hexec hrun'
    cases hchange with
    | same => exact .inl ⟨run', hrun, hst⟩
    | update hid hrev =>
      obtain ⟨hplan, g, artifact, hgate⟩ := hsound.succeeded hst
      rw [hid] at hplan hgate
      exact .inr ⟨hplan, i, g, artifact, hgate⟩
    | cancel =>
      refine .inl ⟨run, hrun, ?_⟩
      unfold cancelledRun at hst
      split at hst
      · exact hst
      · cases hst
  | claim hclaim =>
    rw [← getRun_of_runs hclaim.runs]
    exact .inl ⟨run', hrun', hst⟩
  | client hstep =>
    cases hold : w.config.state.getRun runId with
    | some run =>
      obtain ⟨run1, hrun1, hstatus⟩ := hstep.runs hold
      rw [hrun'] at hrun1
      cases hrun1
      exact .inl ⟨run, rfl, hstatus.symm.trans hst⟩
    | none =>
      have hcreated := hstep.newRuns hrun' hold
      rw [hcreated] at hst
      cases hst

theorem Store.Justified.move (h : World.Kept env x y w) (hj : w.config.state.Justified) (m : Move) :
    (w.move env m).config.state.Justified := by
  intro runId run' hrun' hst
  have hev := h.move_evolves m
  rcases (h.change m).succeeded hrun' hst with ⟨run, hrun, hst⟩ | ⟨hplan, _⟩
  · exact (hj runId run hrun hst).mono hev
  · exact hplan.mono hev

theorem justified_initial : initial.config.state.Justified := by
  intro runId run hrun
  cases hrun

theorem World.Reachable.justified (h : Reachable env w) : w.config.state.Justified := by
  obtain ⟨moves, rfl⟩ := h
  have hstep : ∀ w m, Kept env False False w ∧ w.config.state.Justified → True →
      Kept env False False (w.move env m) ∧ (w.move env m).config.state.Justified := by
    intro w m ⟨hk, hj⟩ _
    exact ⟨hk.move False.elim False.elim False.elim, hj.move hk m⟩
  exact (run_induction hstep initial ⟨kept_initial, justified_initial⟩ moves
    fun _ _ _ _ => trivial).2

/-- **Success is justified**: all required stages of the plan have succeeded, and when the run
became `SUCCEEDED`, the gate evidence passed and agreed with a published, intact report of the run.
Clients record no evidence under the marker of the schema migration (`ClientOp.recordGateEvidence`),
and retention is no move of the system. -/
theorem success_justified (h : World.Reachable env w) (runId : String) :
    (∀ run, w.config.state.getRun runId = some run → run.status = .succeeded →
      w.config.state.PlanSucceeded runId) ∧
    ∀ m run', (w.move env m).config.state.getRun runId = some run' → run'.status = .succeeded →
      (∀ run, w.config.state.getRun runId = some run → run.status ≠ .succeeded) →
      ∃ i g a, GatePassed i w.config runId g a := by
  refine ⟨h.justified runId, fun m run' hrun' hst hnew => ?_⟩
  rcases (h.kept.change m).succeeded hrun' hst with ⟨run, hrun, hst⟩ | ⟨_, hgate⟩
  · exact absurd hst (hnew run hrun)
  · exact hgate

def completionPlan : ExecutionPlan where
  toPlanData := samplePlanData
    [{ sampleStage "VALIDATION_RECONCILIATION" [] with finalValidation := true },
      { stageId := "OPTIONAL_SEMANTIC_EVIDENCE"
        required := false
        dependencies := ["VALIDATION_RECONCILIATION"]
        handlerKey := "OPTIONAL_SEMANTIC_EVIDENCE" }]
  valid := by decide

def sampleReport : ArtifactRef where
  artifactId := "report-1"
  runId := "run-1"
  stageId := "VALIDATION_RECONCILIATION"
  attemptId := "attempt-1"
  artifactKind := "ValidationReport"
  contentHash := "hash-1"
  publicationState := .published

/-- The evidence that the report passed. -/
def sampleEvidence : GateEvidence where
  gateId := "G6_DATA_CORRECTNESS"
  runId := "run-1"
  status := .pass
  eligible := true
  validationReportArtifactId := "report-1"
  validationReportRunId := "run-1"
  validationReportId := "validation-1"
  validationReportContentHash := "hash-1"

/-- The handler ends with this status, and the stored report is intact. -/
def passing (status : StageResultStatus) (h : validateResult status none none none [] = true) :
    Input where
  stat := .ok sampleReport
  report := .ok ⟨"run-1", "validation-1", .pass, true⟩
  handler := .ok { status := status, valid := h }

def validating : List Move :=
  submission completionPlan ++ [.client (.registerArtifact sampleReport),
    .client (.recordGateEvidence sampleEvidence), .runOnce {} 0] ++ steps 0 8 {} ++ [.runOnce {} 0]

def validated : List Move := validating ++ steps 1 33 (passing .succeeded (by decide))

theorem success_justified_validated :
    (run deployment initial validated).config.state.PlanSucceeded "run-1" ∧
      ∃ i g a, GatePassed i (run deployment initial
        (validating ++ steps 1 32 (passing .succeeded (by decide)))).config "run-1" g a := by
  constructor
  · have hst : ((run deployment initial validated).config.state.getRun "run-1").map
        (·.status) = some .succeeded := by decide +kernel
    obtain ⟨run, hrun, hst⟩ := Option.map_eq_some_iff.mp hst
    exact (success_justified ⟨validated, rfl⟩ "run-1").1 run hrun hst
  · have hst : ((run deployment initial validated).config.state.getRun "run-1").map
        (·.status) = some .succeeded := by decide +kernel
    have hbefore : ((run deployment initial (validating ++ steps 1 32
        (passing .succeeded (by decide)))).config.state.getRun "run-1").all
        (fun run => run.status ≠ .succeeded) = true := by decide +kernel
    obtain ⟨run, hrun, hst⟩ := Option.map_eq_some_iff.mp hst
    refine (success_justified ⟨_, rfl⟩ "run-1").2 (.step 1 (passing .succeeded (by decide))) run ?_
      hst fun run hrun => by simpa [hrun] using hbefore
    have hsplit : validated = (validating ++ steps 1 32 (passing .succeeded (by decide))) ++
        [.step 1 (passing .succeeded (by decide))] := by
      rw [validated, append_assoc]
      rfl
    rw [hsplit, run_append, run_cons, run_nil] at hrun
    exact hrun

/-! ## Terminal runs -/

/-- An iteration reads a run that is succeeded, after it has finalized as cancelled a job of a stage
that the plan does not require. -/
def FindsSucceeded (w : World) : Move → Prop
  | .step i _ => ∃ l runId k stored run,
    w.threads[i]? = some ⟨l, some (.act (.read (.run runId)) k)⟩ ∧
    FinalizedCancelled i w.config runId stored ∧
    w.config.state.getRun runId = some run ∧ run.status = .succeeded ∧
    ∀ p stageId st, w.config.state.getExecutionPlan runId = some p →
      stored.stageId = some stageId → p.stage stageId = some st → st.required = false
  | _ => False

/-- Nobody whose job came out cancelled has since found its run succeeded. -/
def NotFound (c : Scene) : Prop :=
  ∀ i runId read s t stored, (⟨i, .read (.run runId), .ok (some read), s⟩ :: t) <:+ c.trace →
    FinalizedCancelled i ⟨s, t⟩ runId stored → read.status ≠ .succeeded

theorem FinalizedCancelled.row {i : Nat} {stored : JobRecord}
    (h : FinalizedCancelled i c runId stored) (hc : Coherent env.graph c) :
    stored ∈ c.state.jobs.rows := by
  obtain ⟨hst, _, lease, attempt, result, status, now, retries, availableAt, s, hmem⟩ := h
  have hrow : s.getJob lease.jobId = some stored := hc.history.faithful _ hmem
  obtain ⟨row, hget, he⟩ := (hc.history.evolves _ hmem).getJob hrow
  obtain rfl := he.cancelled hst
  exact getJob_mem hget

/-- **A required stage of a succeeded run was not cancelled.** -/
theorem FinalizedCancelled.not_required {i : Nat} {stored : JobRecord}
    (h : FinalizedCancelled i c runId stored) (hc : Coherent env.graph c) {run : RunRecord}
    (hj : c.state.Justified) (hrun : c.state.getRun runId = some run)
    (hst : run.status = .succeeded) {p : ExecutionPlan} {stageId : String} {st : StageSpec}
    (hp : c.state.getExecutionPlan runId = some p) (hid : stored.stageId = some stageId)
    (hstage : p.stage stageId = some st) : st.required = false := by
  by_contra hreq
  have hreq : st.required = true := by simpa using hreq
  obtain ⟨p', hp', _, _, hall⟩ := hj runId run hrun hst
  rw [hp] at hp'
  cases hp'
  obtain ⟨j, hget, hsucc⟩ := hall st (ExecutionPlan.stage_mem hstage) hreq (st.required_selected hreq)
  rw [ExecutionPlan.stage_stageId hstage] at hget
  obtain ⟨hmem, hjrun, hjid⟩ := getStageJob_spec hget
  have heq : j = stored := hc.inv.stages j hmem stored (h.row hc) (hjrun.trans h.2.1.symm)
    (hjid.trans hid.symm) (by rw [hjid]; simp)
  rw [heq, h.1] at hsucc
  cases hsucc

theorem NotFound.move (h : World.Kept env x y w) (hj : w.config.state.Justified)
    (hn : NotFound w.config) (hok : ¬ FindsSucceeded w m) : NotFound (w.move env m).config := by
  have hch := h.change m
  generalize (w.move env m).config = c at hch
  cases hch with
  | idle => exact hn
  | @act i ω l a k r s hth hexec hsound =>
    intro i' runId read s' t stored hsuf hfin
    rcases suffix_cons_cases hsuf with ⟨heq, rfl⟩ | hsuf
    · cases heq
      obtain rfl : w.config.state = s := congrArg Prod.snd hexec
      have hrun : w.config.state.getRun runId = some read := Except.ok.inj (congrArg Prod.fst hexec)
      intro hst
      exact hok ⟨l, runId, k, stored, read, hth, hfin, hrun, hst, fun p stageId st hp hid hstage =>
        hfin.not_required h.coherent hj hrun hst hp hid hstage⟩
    · exact hn i' runId read s' t stored hsuf hfin
  | claim hclaim =>
    intro i' runId read s' t stored hsuf hfin
    rcases suffix_cons_cases hsuf with ⟨heq, rfl⟩ | hsuf
    · cases congrArg Entry.act heq
    · exact hn i' runId read s' t stored hsuf hfin
  | client hstep => exact hn

/-- **A succeeded run stays succeeded** through every move that does not find it so
on behalf of a cancelled job. -/
theorem NotFound.succeeded (h : World.Kept env x y w) (hn : NotFound w.config) (m : Move)
    {run : RunRecord} (hrun : w.config.state.getRun runId = some run)
    (hst : run.status = .succeeded) :
    ∃ run', (w.move env m).config.state.getRun runId = some run' ∧ run'.status = .succeeded := by
  obtain ⟨run', hrun', he⟩ := (h.move_evolves m).getRun hrun
  refine ⟨run', hrun', ?_⟩
  have hch := h.change m
  generalize (w.move env m).config = c at hch hrun'
  cases hch with
  | idle =>
    rw [hrun] at hrun'
    cases hrun'
    exact hst
  | @act i ω l a k r s hth hexec hsound =>
    obtain ⟨run0, hrun0, hchange⟩ := exec_getRun hexec hrun'
    rw [hrun] at hrun0
    cases hrun0
    cases hchange with
    | same => exact hst
    | @update new _ revision hid hrev =>
      rcases he.succeeded hst with hs | hcan
      · exact hs
      -- whoever writes `CANCELLED` has read the run at this revision
      obtain ⟨stored, read, s', t, hsuf, hfin, hread⟩ := hsound.cancelled hcan
      have hmem := hsuf.subset (mem_cons_self ..)
      have hget : some read = s'.getRun new.runId :=
        Except.ok.inj (h.coherent.history.faithful _ hmem)
      rw [hid] at hget
      have heq := (h.coherent.history.evolves _ hmem).run_eq hget.symm hrun (hrev.trans hread.symm)
      exact absurd (heq ▸ hst) (hn i new.runId read s' t stored hsuf hfin)
    | cancel =>
      unfold cancelledRun
      rw [if_pos (.inl hst)]
      exact hst
  | claim hclaim =>
    rw [Config.log, getRun_of_runs hclaim.runs, hrun] at hrun'
    cases hrun'
    exact hst
  | client hstep =>
    obtain ⟨run1, hrun1, hstatus⟩ := hstep.runs hrun
    rw [hrun'] at hrun1
    cases hrun1
    exact hstatus.trans hst

/-- What is kept by every move that does not go wrong. -/
structure Absorbing (env : Env) (w : World) : Prop where
  kept : World.Kept env False False w
  justified : w.config.state.Justified
  notFound : NotFound w.config

theorem absorbing_initial : Absorbing env initial where
  kept := kept_initial
  justified := justified_initial
  notFound i runId read s t stored hsuf := by simp [initial] at hsuf

theorem Absorbing.move (h : Absorbing env w) (hok : ¬ FindsSucceeded w m) :
    Absorbing env (w.move env m) where
  kept := h.kept.move False.elim False.elim False.elim
  justified := h.justified.move h.kept m
  notFound := h.notFound.move h.kept h.justified hok

/-- **Terminal runs are absorbing**, unless an iteration that finalized as cancelled a job of a
stage the plan does not require then finds its run succeeded. -/
theorem terminal_runs_absorbing (moves later : List Move)
    (hok : ∀ ms1 m ms2, moves ++ later = ms1 ++ m :: ms2 →
      ¬ FindsSucceeded (World.run env initial ms1) m) {runId : String} {run : RunRecord}
    (hrun : (World.run env initial moves).config.state.getRun runId = some run) :
    ∃ run', (World.run env initial (moves ++ later)).config.state.getRun runId = some run' ∧
      (run.status = .succeeded → run'.status = .succeeded) ∧
      (run.status = .cancelled → run'.status = .cancelled) := by
  have habs : Absorbing env (World.run env initial moves) := by
    refine run_induction (fun w m h hok => h.move hok) _ absorbing_initial moves ?_
    intro ms1 m ms2 heq
    exact hok ms1 m (ms2 ++ later) (by rw [heq, append_assoc, cons_append])
  have hstep : ∀ (w : World) (m : Move), (Absorbing env w ∧ ∃ run',
        w.config.state.getRun runId = some run' ∧ (run.status = .succeeded → run'.status = .succeeded) ∧
        (run.status = .cancelled → run'.status = .cancelled)) → ¬ FindsSucceeded w m →
      Absorbing env (w.move env m) ∧ ∃ run', (w.move env m).config.state.getRun runId = some run' ∧
        (run.status = .succeeded → run'.status = .succeeded) ∧
        (run.status = .cancelled → run'.status = .cancelled) := by
    rintro w m ⟨h, run', hrun', hsucc, hcan⟩ hm
    refine ⟨h.move hm, ?_⟩
    obtain ⟨run'', hrun'', he⟩ := (h.kept.move_evolves m).getRun hrun'
    refine ⟨run'', hrun'', fun hst => ?_, fun hst => he.cancelled (hcan hst)⟩
    obtain ⟨run1, hrun1, hst1⟩ := h.notFound.succeeded h.kept m hrun' (hsucc hst)
    rw [hrun''] at hrun1
    cases hrun1
    exact hst1
  rw [run_append]
  refine (run_induction hstep _ ⟨habs, run, hrun, id, id⟩ later ?_).2
  intro ms1 m ms2 heq
  rw [← run_append]
  exact hok (moves ++ ms1) m ms2 (by rw [heq, append_assoc])

/-- The run has succeeded, and the stage behind it ends with this status. -/
def afterValidated (status : StageResultStatus) (h : validateResult status none none none [] = true) :
    List Move :=
  .runOnce {} 0 :: steps 2 27 (passing status h)

/-- A succeeded run is cancelled. -/
theorem succeeded_run_cancelled :
    (((run deployment initial validated).config.state.getRun "run-1").map (·.status) =
      some .succeeded) ∧
    (((run deployment initial (validated ++ afterValidated .cancelled (by decide))).config.state.getRun
      "run-1").map (·.status) = some .cancelled) := by
  decide +kernel

def Record.cancelsJob : Record → Bool
  | ⟨_, .fenced _ (.finalizeStage _ _ _ _ _ _), .ok stored, _⟩ => stored.status = .cancelled
  | _ => false

theorem not_findsSucceeded (h : ∀ e ∈ w.config.trace, Record.cancelsJob e = false) (m : Move) :
    ¬ FindsSucceeded w m := by
  cases m with
  | step i ω =>
    rintro ⟨l, runId, k, stored, run, _, ⟨hst, _, lease, attempt, result, status, now, retries,
      availableAt, s, hmem⟩, _⟩
    have := h _ hmem
    simp [Record.cancelsJob, hst] at this
  | runOnce cfg now => exact id
  | crash i => exact id
  | client op => exact id

theorem terminal_runs_absorbing_validated :
    ∃ run', (World.run deployment initial (validated ++ afterValidated .succeeded
      (by decide))).config.state.getRun "run-1" = some run' ∧ run'.status = .succeeded := by
  have hst : ((World.run deployment initial validated).config.state.getRun "run-1").map
      (·.status) = some .succeeded := by decide +kernel
  obtain ⟨run, hrun, hst⟩ := Option.map_eq_some_iff.mp hst
  have hclean : (World.run deployment initial (validated ++ afterValidated .succeeded
      (by decide))).config.trace.all (fun e => !Record.cancelsJob e) = true := by decide +kernel
  obtain ⟨run', hrun', hsucc, _⟩ := terminal_runs_absorbing validated
    (afterValidated .succeeded (by decide)) (fun ms1 m ms2 heq => by
      refine not_findsSucceeded (fun e he => ?_) m
      have hmem := (run_trace_suffix deployment (World.run deployment initial ms1)
        (m :: ms2)).subset he
      rw [← run_append, ← heq] at hmem
      simpa using all_eq_true.mp hclean e hmem) hrun
  exact ⟨run', hrun', hsucc hst⟩

end DirtyDataOlap

import DirtyDataOlap.Deployment
import DirtyDataOlap.SystemHistory

/-!
# Stage ordering and provenance

The inputs of an attempt are captured when it is created, the dependencies are checked afterwards,
and the outputs may be finalized by another worker.  It fits together because a stage job is
enqueued only after its hard dependencies have succeeded, and **a succeeded job never changes**.
-/
namespace DirtyDataOlap

variable {env : Env} {x y : Prop} {w : World}

/-- The inputs of a stage: the roots of the run for the first one, then the results of
its hard dependencies, in order. -/
def Store.stageInputs (s : Store) (run : RunRecord) (stage : StageSpec) : List String :=
  (if stage.stageId = "SOURCE_DISCOVERY" then run.rootArtifactRefs else []) ++
    stage.dependencies.flatMap fun d => ((s.getStageJob run.runId d).map (·.resultRefs)).getD []

theorem Store.inputArtifactRefs_eq {s : Store} {runId : String} {run : RunRecord}
    (hrun : s.getRun runId = some run) (stage : StageSpec) :
    s.inputArtifactRefs runId stage = s.stageInputs run stage := by
  have hid := Store.getRun_runId hrun
  have hflat : ∀ d, (s.getStageJob runId d).elim [] (·.resultRefs) =
      ((s.getStageJob run.runId d).map (·.resultRefs)).getD [] := by
    intro d
    rw [hid]
    cases s.getStageJob runId d <;> rfl
  unfold Store.inputArtifactRefs Store.stageInputs
  rw [hrun, List.flatMap_congr fun d _ => hflat d]
  rfl

/-- **The inputs of an attempt are the results of the dependencies** of its stage, in
every plan that was ever stored for the run. -/
theorem Store.Inv.attempt_inputs {graph : StageGraph} {s : Store} (hi : s.Inv graph)
    {a : StageAttemptRecord} {attemptId : String} (ha : s.getStageAttempt attemptId = some a)
    {plan q : ExecutionPlan} {stage : StageSpec} (hq : s.getExecutionPlan a.runId = some q)
    (he : plan.Evolves q) (hstage : plan.stage a.stageId = some stage) :
    ∃ run, s.getRun a.runId = some run ∧ a.inputArtifactRefs = s.stageInputs run stage := by
  obtain ⟨hsome, p, st, hp, hst, _, hin⟩ := hi.attempts a (Table.mem_of_find? ha)
  obtain ⟨run, hget⟩ := Option.isSome_iff_exists.mp hsome
  rw [hp] at hq
  cases hq
  obtain ⟨st', hst', hshape⟩ := he.stage hstage
  rw [hst] at hst'
  cases hst'
  have hids : st.stageId = stage.stageId :=
    (ExecutionPlan.stage_stageId hst).trans (ExecutionPlan.stage_stageId hstage).symm
  refine ⟨run, hget, ?_⟩
  rw [hin, Store.inputArtifactRefs_eq hget]
  unfold Store.stageInputs
  rw [hids, hshape.dependencies]

/-- What a handler is invoked with: a stage whose dependencies have succeeded for good, and an
attempt whose inputs are their results. -/
structure Provenance (env : Env) (w : World) (i : Nat) (request : StageExecutionRequest)
    (plan : ExecutionPlan) (stage : StageSpec) (run : RunRecord) (a : StageAttemptRecord) :
    Prop where
  plan_read : w.config.Did i (.read (.executionPlan request.runId)) (.ok (some plan))
  plan_stage : plan.stage request.stageId = some stage
  dependencies : ∀ d ∈ stage.dependencies, ∀ later,
    (World.run env w later).config.state.StageSucceeded request.runId d
  conditional : ∀ d ∈ stage.conditionalDependencies, (plan.stage d).any (·.selected) = true →
    ∀ later, (World.run env w later).config.state.StageSucceeded request.runId d
  run_stored : w.config.state.getRun request.runId = some run
  attempt_stored : w.config.state.getStageAttempt request.attemptId = some a
  inputs : a.inputArtifactRefs = w.config.state.stageInputs run stage
  handed_over : request.inputArtifactRefs = a.inputArtifactRefs

/-- **Stage ordering and provenance.**  Every handler that is about to be invoked has its
dependencies and inputs; and the results of every succeeded stage job are the published outputs of
its attempt.  The snapshots of a run change by what handlers add; binding its sources anew is a
client's act that is no move of the system. -/
theorem stage_provenance (h : World.Reachable env w) : (∀ i l key request available k,
      w.threads[i]? = some ⟨l, some (.act (.observe (.execute key request available)) k)⟩ →
      ∃ plan stage run a, Provenance env w i request plan stage run a) ∧
    ∀ job ∈ w.config.state.jobs.rows, job.jobKind = .stage → job.status = .succeeded →
      ∃ attemptId a, job.attemptId = some attemptId ∧
        w.config.state.getStageAttempt attemptId = some a ∧ job.resultRefs = a.outputArtifactRefs ∧
        w.config.state.GoodOutputs job.runId job.stageId attemptId job.resultRefs := by
  have hc := h.kept.coherent
  constructor
  · intro i l key request available k hth
    have hs : SoundExecute False i l w.config request :=
      h.kept.verified.guar (contract_compatible env False False) hth
        (rfl : exec env (.observe (.execute key request available)) {} w.config.state = _)
    obtain ⟨plan, stage, ⟨s, hread⟩, hrun, hstage, hsat⟩ := hs.plan
    obtain ⟨a, ha, harun, hastage, hain⟩ := hs.attempt
    -- the plan that was read has become the one that is stored
    have hget : some plan = s.getExecutionPlan request.runId :=
      Except.ok.inj (hc.history.faithful _ hread)
    obtain ⟨q, hq, he⟩ := (hc.history.evolves _ hread).getExecutionPlan hget.symm
    rw [← harun] at hq
    rw [← hastage] at hstage
    obtain ⟨run, hrunStored, hinputs⟩ := hc.inv.attempt_inputs ha hq he hstage
    rw [harun] at hrunStored
    rw [hastage] at hstage
    refine ⟨plan, stage, run, a, ⟨⟨s, hread⟩, hstage, ?_, ?_, hrunStored, ha, hinputs, hain.symm⟩⟩
    · intro d hd later
      rw [← hrun]
      exact (hsat.1 d hd).mono (h.run_evolves later)
    · intro d hd hsel later
      rw [← hrun]
      exact (hsat.2 d hd hsel).mono (h.run_evolves later)
  · intro job hjob hkind hst
    obtain ⟨attemptId, a, hatt, ha, _, hout, hgood⟩ := (hc.inv.jobs job hjob).succeeded hkind hst
    exact ⟨attemptId, a, hatt, ha, hout.symm, hgood⟩

/-- Two stages, the second behind the first. -/
def chainPlan : ExecutionPlan where
  toPlanData := samplePlanData
    [sampleStage "SOURCE_DISCOVERY" [], sampleStage "PROFILING" ["SOURCE_DISCOVERY"]]
  valid := by decide

/-- What the first stage publishes. -/
def sampleCatalog : ArtifactRef where
  artifactId := "catalog-1"
  runId := "run-1"
  stageId := "SOURCE_DISCOVERY"
  attemptId := "attempt-stage-job-run-1-SOURCE_DISCOVERY-1"
  artifactKind := "SourceCatalog"
  contentHash := "hash-1"
  publicationState := .published

/-- The handler returns the published catalog. -/
def cataloguing : Input where
  stat := .ok sampleCatalog
  handler := .ok { status := .succeeded, outputArtifactRefs := ["catalog-1"] }

/-- The first stage succeeds, and the handler of the second is about to start. -/
def chained : List Move :=
  submission chainPlan ++ [.runOnce {} 0] ++ steps 0 8 {} ++
    [.client (.registerArtifact sampleCatalog), .runOnce {} 0] ++ steps 1 40 cataloguing ++
    [.runOnce {} 0] ++ steps 2 10 {}

theorem stage_provenance_chained :
    (∃ request plan stage run a, request.inputArtifactRefs = ["catalog-1"] ∧
      Provenance deployment (World.run deployment World.initial chained) 2 request plan stage run a) ∧
    ∃ job ∈ (World.run deployment World.initial chained).config.state.jobs.rows,
      job.resultRefs = ["catalog-1"] ∧ ∃ attemptId a, job.attemptId = some attemptId ∧
        (World.run deployment World.initial chained).config.state.getStageAttempt attemptId = some a ∧
        job.resultRefs = a.outputArtifactRefs ∧
        (World.run deployment World.initial chained).config.state.GoodOutputs job.runId job.stageId
          attemptId job.resultRefs := by
  have hpending : (((World.run deployment World.initial chained).threads[2]?.bind (·.next)).bind
      (·.execution)).map (·.inputArtifactRefs) = some ["catalog-1"] := by decide +kernel
  have hjobs : (World.run deployment World.initial chained).config.state.jobs.rows.any (fun job =>
      job.jobKind = .stage && job.status = .succeeded && job.resultRefs = ["catalog-1"]) = true := by
    decide +kernel
  constructor
  · obtain ⟨request, hrequest, hinputs⟩ := Option.map_eq_some_iff.mp hpending
    obtain ⟨a, hnext, hexecution⟩ := Option.bind_eq_some_iff.mp hrequest
    obtain ⟨key, available, rfl⟩ := Act.execution_eq_some.mp hexecution
    obtain ⟨⟨l, prog⟩, hth, hnext⟩ := Option.bind_eq_some_iff.mp hnext
    obtain ⟨k, hk⟩ := Thread.next_eq_some.mp hnext
    cases hk
    obtain ⟨plan, stage, run, attempt, hp⟩ :=
      (stage_provenance ⟨chained, rfl⟩).1 2 l key request available k hth
    exact ⟨request, plan, stage, run, attempt, hinputs, hp⟩
  · obtain ⟨job, hmem, hjob⟩ := List.any_eq_true.mp hjobs
    simp only [Bool.and_eq_true, decide_eq_true_eq] at hjob
    exact ⟨job, hmem, hjob.2,
      (stage_provenance ⟨chained, rfl⟩).2 job hmem hjob.1.1 hjob.1.2⟩

end DirtyDataOlap

import DirtyDataOlap.StoreInvariant
import DirtyDataOlap.WorkerSystem

/-!
# What clients do keeps the invariant

The writes of clients and stage handlers are few and add rows only, apart from
the snapshot references a handler adds to its run.  None of them touches a job
that exists: a client's only job is a queued command (`JobsKept`).
-/
namespace DirtyDataOlap

open ClientOp List Option Store Table
namespace Store
variable {graph : StageGraph} {s s' : Store}

/-- Existing jobs are left alone, and new ones are waiting. -/
def JobsKept (s s' : Store) : Prop :=
  ∀ k row, s'.getJob k = some row →
    s.getJob k = some row ∨ (s.getJob k = none ∧ row.status = .queued ∧ row.jobKind = .command)

theorem JobsKept.of_eq (h : s'.jobs = s.jobs) : s.JobsKept s' := by
  intro k row hk
  unfold getJob at hk ⊢
  rw [h] at hk
  exact .inl hk

theorem JobsKept.insertJob {j : JobRecord} (h : s.insertJob j = .ok s') (hq : j.status = .queued)
    (hkind : j.jobKind = .command) : s.JobsKept s' := by
  obtain ⟨jobs, hjobs, rfl⟩ := insertJob_ok h
  intro k row hk
  change jobs.find? k = some row at hk
  rw [Table.find?_insert? hjobs] at hk
  cases hold : s.jobs.find? k with
  | some old =>
    rw [hold, some_or] at hk
    exact .inl (hold.trans hk)
  | none =>
    rw [hold, none_or] at hk
    split at hk
    · cases hk
      exact .inr ⟨hold, hq, hkind⟩
    · cases hk

theorem Inv.empty : empty.Inv graph where
  planRuns p hp := by cases hp
  phases p hp := by cases hp
  jobs j hj := by cases hj
  stages j hj := by cases hj
  attempts a ha := by cases ha
  sync a ha := by cases ha
  evidence g hg := by cases hg

/-- What a client operation guarantees. -/
structure ClientStep (graph : StageGraph) (s s' : Store) : Prop where
  evolves : s.Evolves s'
  inv : s'.Inv graph
  jobs : s.JobsKept s'
  attempts : s'.attempts = s.attempts
  /-- A plan that was stored is still the plan. -/
  plans : ∀ {runId p}, s.getExecutionPlan runId = some p → s'.getExecutionPlan runId = some p
  runs : ∀ {runId r}, s.getRun runId = some r →
    ∃ r', s'.getRun runId = some r' ∧ r'.status = r.status
  newRuns : ∀ {runId r'}, s'.getRun runId = some r' → s.getRun runId = none → r'.status = .created

section
variable (hi : s.Inv graph)
include hi

theorem ClientStep.refl : ClientStep graph s s :=
  ⟨.refl s, hi, .of_eq rfl, rfl, id, fun h => ⟨_, h, rfl⟩, fun h h' => by rw [h] at h'; cases h'⟩

theorem ClientStep.frame (h : s.Evolves s') (hruns : s'.runs = s.runs)
    (hplans : s'.plans = s.plans) (hjobs : s'.jobs = s.jobs) (hattempts : s'.attempts = s.attempts)
    (hevidence : s'.gateEvidence = s.gateEvidence) : ClientStep graph s s' where
  evolves := h
  inv := hi.frame h hplans hjobs hattempts hevidence
  jobs := .of_eq hjobs
  attempts := hattempts
  plans hp := by unfold getExecutionPlan at hp ⊢; rw [hplans]; exact hp
  runs hr := ⟨_, by unfold getRun at hr ⊢; rw [hruns]; exact hr, rfl⟩
  newRuns hr hn := by
    unfold getRun at hr hn
    rw [hruns, hn] at hr
    cases hr

theorem ClientStep.createRun {run r : RunRecord} (hc : run.status = .created)
    (h : Store.createRun run s = .ok (r, s')) : ClientStep graph s s' := by
  rcases createRun_ok h with rfl | ⟨runs, hins, rfl⟩
  · exact .refl hi
  have hev : s.Evolves { s with runs } :=
    { Evolves.refl s with runs := Table.grows_insert? RunRecord.Evolves.refl hins }
  have hget : ∀ k, getRun { s with runs } k =
      (s.getRun k).or (if run.runId = k then some run else none) :=
    fun k => find?_insert? hins k
  refine ⟨hev, hi.frame hev rfl rfl rfl rfl, .of_eq rfl, rfl, id, fun hr => ⟨_, ?_, rfl⟩, ?_⟩
  · rw [hget, hr, some_or]
  · intro runId r' hr hn
    rw [hget, hn, none_or] at hr
    split at hr
    · cases hr
      exact hc
    · cases hr

theorem ClientStep.registerExecutionPlan {plan r : ExecutionPlan}
    (hphase : plan.InPhase graph) (h : registerExecutionPlan plan s = .ok (r, s')) :
    ClientStep graph s s' := by
  rcases registerExecutionPlan_ok h with rfl | ⟨plans, hnone, _, hins, rfl⟩
  · exact .refl hi
  have hev : s.Evolves { s with plans } :=
    { Evolves.refl s with plans := grows_insert? ExecutionPlan.Evolves.refl hins }
  have hmem : ∀ p, p ∈ plans.rows ↔ p ∈ s.plans.rows ∨ p = plan := by
    intro p
    rw [insert?_rows hins, mem_append, mem_singleton]
  have hne : ∀ p ∈ s.plans.rows, p.runId ≠ plan.runId := by
    intro p hp
    simpa using find?_eq_none.mp hnone p hp
  have hinv : Store.Inv graph { s with plans } :=
    { planRuns := by
        intro p hp q hq hpq
        rcases (hmem p).mp hp with hp | hpe <;> rcases (hmem q).mp hq with hq | hqe
        · exact hi.planRuns p hp q hq hpq
        · exact (hne p hp (by rw [hpq, hqe])).elim
        · exact (hne q hq (by rw [← hpq, hpe])).elim
        · rw [hpe, hqe]
      phases := by
        intro p hp
        rcases (hmem p).mp hp with hp | rfl
        · exact hi.phases p hp
        · exact hphase
      jobs := fun j hj => (hi.jobs j hj).mono hev
      stages := hi.stages
      attempts := fun a ha => (hi.attempts a ha).mono hev (.refl a)
      sync := hi.sync
      evidence := hi.evidence }
  refine ⟨hev, hinv, .of_eq rfl, rfl, ?_, fun hr => ⟨_, hr, rfl⟩, fun hr hn => by
    change s.getRun _ = _ at hr
    rw [hr] at hn
    cases hn⟩
  intro runId p hp
  change plans.rows.find? _ = some p
  rw [insert?_rows hins, find?_append]
  change (s.getExecutionPlan runId).or _ = some p
  rw [hp, some_or]

theorem ClientStep.enqueueExecutionCommand {stableId : StableKey → String}
    {command : ExecutionCommand} {runId : String} {r : JobRecord × Bool}
    (h : enqueueExecutionCommand stableId command runId s = .ok (r, s')) :
    ClientStep graph s s' := by
  rcases enqueueExecutionCommand_ok h with
    rfl | ⟨hrun, j, hjrun, hkind, hstage, hatt, hqueued, _, _, hins⟩
  · exact .refl hi
  have hnot : j.jobKind ≠ .stage := by rw [hkind]; simp
  have hok : s.JobOk j :=
    { run := by rw [hjrun]; exact hrun
      command := fun _ => ⟨hstage, hatt⟩
      stage := fun hk => absurd hk hnot
      waiting := fun _ => ⟨hatt, fun hk => absurd hk hnot⟩
      running := fun hk => absurd hk hnot
      attempt := fun hT => by rw [hatt] at hT; cases hT
      recorded := fun hk => absurd hk hnot
      succeeded := fun hk => absurd hk hnot }
  obtain ⟨hev, hinv⟩ := hi.insertJob hins hok hqueued fun stageId hs => by
    rw [hstage] at hs
    cases hs
  have hkept := JobsKept.insertJob hins hqueued hkind
  obtain ⟨jobs, hjobs, rfl⟩ := insertJob_ok hins
  exact ⟨hev, hinv, hkept, rfl, id, fun hr => ⟨_, hr, rfl⟩, fun hr hn => by
    change s.getRun _ = _ at hr
    rw [hr] at hn
    cases hn⟩

theorem ClientStep.registerArtifact {artifact r : ArtifactRef}
    (h : Store.registerArtifact artifact s = .ok (r, s')) : ClientStep graph s s' := by
  rcases registerArtifact_ok h with rfl | ⟨artifacts, hins, rfl⟩
  · exact .refl hi
  exact .frame hi { Evolves.refl s with artifacts := grows_insert? (fun _ => rfl) hins }
    rfl rfl rfl rfl rfl

theorem ClientStep.recordReview {record r : ReviewRecord} {revision : Nat}
    (h : Store.recordReview record revision s = .ok (r, s')) : ClientStep graph s s' := by
  obtain ⟨reviewHistory, reviews, rfl⟩ := recordReview_ok h
  have hev := Evolves.refl s
  exact .frame hi ⟨hev.runs, hev.plans, hev.jobs, hev.attempts, hev.artifacts, hev.reviewContexts,
    hev.gateEvidence⟩ rfl rfl rfl rfl rfl

theorem ClientStep.recordGateEvidence {evidence r : GateEvidence}
    (hlegacy : evidence.provenanceRefs.contains legacyMarker = false)
    (h : recordGateEvidence evidence s = .ok (r, s')) : ClientStep graph s s' := by
  rcases recordGateEvidence_ok h with rfl | ⟨stored, hmem, hmark⟩ | ⟨gateEvidence, hins, rfl⟩
  · exact .refl hi
  · rw [hi.evidence stored hmem] at hmark
    cases hmark
  have hev : s.Evolves { s with gateEvidence } :=
    { Evolves.refl s with gateEvidence := grows_insert? (fun _ => rfl) hins }
  refine ⟨hev, ?_, .of_eq rfl, rfl, id, fun hr => ⟨_, hr, rfl⟩, fun hr hn => by
    change s.getRun _ = _ at hr
    rw [hr] at hn
    cases hn⟩
  exact
    { planRuns := hi.planRuns
      phases := hi.phases
      jobs := fun j hj => (hi.jobs j hj).mono hev
      stages := hi.stages
      attempts := fun a ha => (hi.attempts a ha).mono hev (.refl a)
      sync := hi.sync
      evidence := by
        intro g hg
        change g ∈ gateEvidence.rows at hg
        rw [insert?_rows hins, mem_append, mem_singleton] at hg
        rcases hg with hg | rfl
        · exact hi.evidence g hg
        · exact hlegacy }

/-- A handler adds snapshot references: the status of the run stays. -/
theorem ClientStep.bindSnapshots {run r : RunRecord} {refs : List String}
    (hrun : s.getRun run.runId = some run)
    (h : updateRun { run with sourceSnapshotRefs := run.sourceSnapshotRefs ++ refs }
      run.revision s = .ok (r, s')) : ClientStep graph s s' := by
  let run' : RunRecord := { run with sourceSnapshotRefs := run.sourceSnapshotRefs ++ refs }
  have hstep : run.Evolves (nextRun run' run) :=
    ⟨rfl, rfl, .inr (Nat.lt_succ_self _), id, .inl⟩
  have hok : ∀ r, s.getRun run'.runId = some r → r.revision = run.revision →
      r.Evolves (nextRun run' r) := by
    intro r hr _
    rw [hrun] at hr
    cases hr
    exact hstep
  obtain ⟨hev, hinv⟩ := hi.updateRun hok h
  obtain ⟨stored, hget, _, _, rfl⟩ := updateRun_ok h
  have hlook : ∀ k, (s.updateRunRow run'.runId (nextRun run')).getRun k =
      if k = run'.runId then (s.getRun k).map (nextRun run') else s.getRun k :=
    fun k => getRun_updateRunRow k
  refine ⟨hev, hinv, .of_eq rfl, rfl, id, ?_, ?_⟩
  · intro k r hr
    rw [hlook]
    by_cases hk : k = run.runId
    · rw [if_pos hk, hr]
      rw [hk, hrun] at hr
      cases hr
      exact ⟨_, rfl, rfl⟩
    · rw [if_neg hk]
      exact ⟨r, hr, rfl⟩
  · intro k r' hr hn
    rw [hlook, hn] at hr
    split at hr <;> cases hr

end

end Store

theorem preparedPlan_inPhase {env : Env} {runId : String} {intent : ExecutionPlanIntent}
    {full source : Option ExecutionPlanSelection} {createdAt : Instant} {p : ExecutionPlan}
    (h : preparedPlan env runId intent full source createdAt = .ok p) : p.InPhase env.graph := by
  have hload : ∀ {selection phase pending guarded},
      loadAuthoritativeExecutionPlan env.graph runId (env.stableId (.executionPlan runId)) selection
        (ExecutionPlanPhase.stageIds phase) phase (some intent) pending 0 guarded createdAt = .ok p →
      p.InPhase env.graph := by
    intro selection phase pending guarded hp
    obtain ⟨_, _, hphase, _, _, _, _, hstages⟩ := load_ok hp
    exact .inr (by rw [hphase]; exact hstages)
  unfold preparedPlan at h
  split at h
  · exact hload h
  · exact hload h
  · exact hload h

/-- **What a client does keeps the invariant**, and leaves jobs and stored plans
alone. -/
theorem ClientOp.apply_step {env : Env} {s : Store} (hi : s.Inv env.graph) (op : ClientOp) :
    Store.ClientStep env.graph s (op.apply env s) := by
  have hcommit : ∀ {β : Type} (t : Txn β), (∀ b s', t s = .ok (b, s') →
      Store.ClientStep env.graph s s') → Store.ClientStep env.graph s (t.commit s).2 := by
    intro β t ht
    rcases t.commit_cases s with ⟨b, s', hok, hc⟩ | ⟨e, _, hc⟩
    · rw [hc]; exact ht b s' hok
    · rw [hc]; exact .refl hi
  cases op with
  | createRun run =>
    simp only [apply]
    split
    · rename_i hc
      exact hcommit _ fun _ _ h => .createRun hi hc h
    · exact .refl hi
  | prepare runId intent full source createdAt =>
    simp only [apply]
    split
    · rename_i plan hplan
      exact hcommit _ fun _ _ h => .registerExecutionPlan hi (preparedPlan_inPhase hplan) h
    · exact .refl hi
  | registerPlan plan =>
    simp only [apply]
    split
    · rename_i hc
      exact hcommit _ fun _ _ h => .registerExecutionPlan hi (.inl hc.1) h
    · exact .refl hi
  | submitCommand command => exact hcommit _ fun _ _ h => .enqueueExecutionCommand hi h
  | registerArtifact artifact => exact hcommit _ fun _ _ h => .registerArtifact hi h
  | recordGateEvidence evidence unmarked =>
    exact hcommit _ fun _ _ h => .recordGateEvidence hi unmarked h
  | recordReview record expectedRevision => exact hcommit _ fun _ _ h => .recordReview hi h
  | bindSnapshots runId refs =>
    simp only [apply]
    split
    · rename_i run hrun
      have hid := Store.getRun_runId hrun
      exact hcommit _ fun _ _ h => .bindSnapshots hi (by rw [hid]; exact hrun) h
    · exact .refl hi

end DirtyDataOlap

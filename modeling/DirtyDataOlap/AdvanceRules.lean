import DirtyDataOlap.SchedulingRules

/-!
# Advancing after a stage

What `_advance_after_stage` does under the contract: fetch the current plan, advance it where the
stage owned a planning decision, schedule what is ready.  Does every released stage get a job?
`Current` says that the plan in use is not older than the release; a stalled plan schedules nothing
(`StageGraph.Layered`).
-/
namespace DirtyDataOlap

open List ExecutionPlan Store

variable {env : Env} {x y : Prop} {i : Nat} {l : Lease} {c c' : Scene}

/-- Discovery depends on nothing, and nothing of the source phase on the stage that ends it. -/
def StageGraph.Layered (graph : StageGraph) : Prop :=
  ∀ raw ∈ graph.stages,
    (raw.stageId ∈ bootstrapStageIds → raw.dependencies = [] ∧ raw.conditionalDependencies = []) ∧
    (raw.stageId ∈ sourcePhaseStageIds → "CANONICAL_HYPOTHESES" ∉ raw.dependencies ∧
      "CANONICAL_HYPOTHESES" ∉ raw.conditionalDependencies)

instance (graph : StageGraph) : Decidable graph.Layered := by
  unfold StageGraph.Layered
  infer_instance

/-! ## Releases -/

variable {runId : String} {p : ExecutionPlan} {completed stageId : String}
  {candidate : ExecutionPlan} {e : Record} {P : Record → List Record → String → String → Prop}
  {s : Store} {graph : StageGraph}

theorem Record.Releases.plan (h : Record.Releases runId stageId e) :
    ∃ p st, e.after.getExecutionPlan runId = some p ∧
      p.stage stageId = some st ∧ st.selected = true ∧ e.after.Satisfied p st := by
  unfold Record.Releases at h
  split at h
  · obtain ⟨_, _, _, p, st, _, hp, hst, hsel, hsat, _⟩ := h
    exact ⟨p, st, hp, hst, hsel, hsat⟩
  · obtain ⟨_, _, p, st, hp, hst, hsel, hsat⟩ := h
    exact ⟨p, st, hp, hst, hsel, hsat⟩
  · exact h.elim

theorem Record.Releases.not_calm (h : Record.Releases runId stageId e) : e.act.calm = false := by
  unfold Record.Releases at h
  split at h
  · rfl
  · rfl
  · exact h.elim

variable (i c P) in
/-- The releases of iteration `i` satisfy `P`. -/
def Releasing : Prop :=
  ∀ e t runId stageId, (e :: t) <:+ c.trace → e.tid = i → Record.Releases runId stageId e →
    P e t runId stageId

/-- **Other iterations, and calm actions, release nothing for iteration `i`.** -/
theorem Calm.released (h : Calm env.graph x i l c c') {t : List Record}
    (hsuf : (e :: t) <:+ c'.trace) (hi : e.tid = i) (hrel : Record.Releases runId stageId e) :
    (e :: t) <:+ c.trace := by
  obtain ⟨new, ht, hcalm⟩ := h.trace
  rw [ht] at hsuf
  clear ht
  induction new with
  | nil => exact hsuf
  | cons b new ih =>
    rcases suffix_cons_cases hsuf with ⟨rfl, _⟩ | hsuf
    · have := hcalm e (mem_cons_self ..) hi
      rw [hrel.not_calm] at this
      cases this
    · exact ih hsuf fun e he => hcalm e (mem_cons_of_mem _ he)

theorem Releasing.calm (h : Calm env.graph x i l c c') (hr : Releasing i c P) : Releasing i c' P :=
  fun e t runId stageId hsuf hi hrel =>
    hr e t runId stageId (h.released hsuf hi hrel) hi hrel

theorem Releasing.log {a : Act} {r : Except Exc a.Reply} (hr : Releasing i c P)
    (h : ∀ run stageId, Record.Releases run stageId ⟨i, a, r, s⟩ →
      P ⟨i, a, r, s⟩ c.trace run stageId) : Releasing i (c.log i a r s) P := by
  intro e t run stageId hsuf hi hrel
  rcases suffix_cons_cases hsuf with ⟨rfl, rfl⟩ | hsuf
  · exact h run stageId hrel
  · exact hr e t run stageId hsuf hi hrel

theorem Releasing.imp {P' : Record → List Record → String → String → Prop} (hr : Releasing i c P)
    (h : ∀ e t runId stageId, (e :: t) <:+ c.trace →
      Record.Releases runId stageId e → P e t runId stageId → P' e t runId stageId) :
    Releasing i c P' :=
  fun e t runId stageId hsuf hi hrel => h e t runId stageId hsuf hrel (hr e t runId stageId hsuf hi hrel)

/-- The plan had these stages at the release, or has changed since. -/
def Current (runId : String) (stages : List StageSpec) (trace : List Record) (e : Record)
    (t : List Record) (run : String) (_stageId : String) : Prop :=
  run = runId ∧ (epoch runId (e :: t) < epoch runId trace ∨
    ∃ p, e.after.getExecutionPlan runId = some p ∧ p.stages = stages)

/-- The stage depends on `d`. -/
def DependsOn (d : String) (e : Record) (_t : List Record) (run stageId : String) : Prop :=
  ∃ p st, e.after.getExecutionPlan run = some p ∧ p.stage stageId = some st ∧
    d ∈ st.dependencies ++ st.conditionalDependencies

/-- The releases concern this run. -/
def OfRun (runId : String) (_e : Record) (_t : List Record) (run _stageId : String) : Prop :=
  run = runId

theorem Releasing.current (hr : Releasing i c (OfRun runId)) (hc : History c)
    (hp : c.state.getExecutionPlan runId = some p) :
    Releasing i c (Current runId p.stages c.trace) := by
  refine hr.imp fun e t run stageId hsuf hrel hrun => ⟨hrun, ?_⟩
  cases hrun
  rcases hc.plans runId e t hsuf with hlt | hst
  · exact .inl hlt
  obtain ⟨q, _, hq, _⟩ := hrel.plan
  obtain ⟨p', hp', hstages⟩ := hst q hq
  rw [hp] at hp'
  cases hp'
  exact .inr ⟨q, hq, hstages.symm⟩

theorem Releasing.current_calm {stages : List StageSpec} (h : Calm env.graph x i l c c')
    (hr : Releasing i c (Current runId stages c.trace)) :
    Releasing i c' (Current runId stages c'.trace) := by
  refine (hr.calm h).imp fun e t run stageId _ _ ⟨hrun, hcur⟩ => ⟨hrun, ?_⟩
  have hle : epoch runId c.trace ≤ epoch runId c'.trace := epoch_le h.suffix
  rcases hcur with hlt | hcur
  · exact .inl (by omega)
  · exact .inr hcur

theorem Settled.of_none (h : ∀ e ∈ c.trace, e.tid = i → ∀ runId stageId,
    ¬ Record.Releases runId stageId e) : Settled i c :=
  fun e _ runId stageId hsuf hi hrel => absurd hrel (h e (hsuf.subset (mem_cons_self ..)) hi
    runId stageId)

theorem stage_congr {q : ExecutionPlan} (h : p.stages = q.stages) (d : String) :
    p.stage d = q.stage d := by
  unfold stage PlanData.stage
  rw [h]

/-- **Scheduling the current plan settles every release.** -/
theorem Releasing.settled {plan : ExecutionPlan} (h : Calm env.graph x i l c c')
    (hr : Releasing i c (Current plan.runId plan.stages c.trace)) (hc : History c)
    (hjobs : ∀ st ∈ plan.stages, st.selected = true → c.state.Satisfied plan st →
      c'.state.HasStageJob plan.runId st.stageId) : Settled i c' := by
  intro e t run stageId hsuf hi hrel
  have hold := h.released hsuf hi hrel
  obtain ⟨hrun, hcur⟩ := hr.current_calm h e t run stageId hsuf hi hrel
  subst hrun
  rcases hcur with hlt | ⟨p, hp, hstages⟩
  · exact .inl hlt
  obtain ⟨p', st, hp', hst, hsel, hsat⟩ := hrel.plan
  rw [hp] at hp'
  cases hp'
  obtain ⟨_, hprun⟩ := getExecutionPlan_spec hp
  have hev := hc.evolves e (hold.subset (mem_cons_self ..))
  rw [← stage_stageId hst]
  refine .inr (hjobs st (by rw [← hstages]; exact stage_mem hst) hsel ?_)
  refine ⟨fun d hd => hprun ▸ (hsat.1 d hd).mono hev, fun d hd hsel => ?_⟩
  rw [← stage_congr hstages] at hsel
  exact hprun ▸ (hsat.2 d hd hsel).mono hev

/-- **A stalled plan has nothing to schedule** behind the completed stage. -/
theorem Releasing.settled_of_stalled {plan : ExecutionPlan} (hgraph : env.graph.Layered)
    (hphase : plan.InPhase env.graph) (hstalled : plan.stalledAt completed = true)
    (hr : Releasing i c (Current plan.runId plan.stages c.trace))
    (hd : Releasing i c (DependsOn completed)) : Settled i c := by
  intro e t run stageId hsuf hi hrel
  obtain ⟨hrun, hcur⟩ := hr e t run stageId hsuf hi hrel
  subst hrun
  rcases hcur with hlt | ⟨p, hp, hstages⟩
  · exact .inl hlt
  obtain ⟨p', st, hp', hst, hdep⟩ := hd e t _ stageId hsuf hi hrel
  rw [hp] at hp'
  cases hp'
  have hmem : st ∈ plan.stages := by
    rw [← hstages]
    exact stage_mem hst
  simp only [stalledAt, Bool.and_eq_true, Bool.or_eq_true, decide_eq_true_eq]
    at hstalled
  obtain ⟨_, hstalled⟩ := hstalled
  -- the stage comes from the graph, restricted to the phase
  have hraw : ∃ raw ∈ env.graph.restrict plan.planningPhase.stageIds, StageSpec.From raw st := by
    rcases hphase with hcomplete | hcompiled
    · rw [hcomplete] at hstalled
      simp at hstalled
    · exact exists_raw hcompiled hmem
  obtain ⟨raw, hraw, hfrom⟩ := hraw
  obtain ⟨hraw, hin⟩ := mem_filter.mp hraw
  obtain ⟨hboot, hsource⟩ := hgraph raw hraw
  rw [hfrom.dependencies, hfrom.conditionalDependencies, mem_append, mem_dedup] at hdep
  rcases hstalled with hb | ⟨hs, rfl⟩
  · rw [hb] at hin
    have hid : raw.stageId ∈ bootstrapStageIds := by
      simpa [ExecutionPlanPhase.stageIds] using hin
    obtain ⟨h1, h2⟩ := hboot hid
    rw [h1, h2] at hdep
    simp at hdep
  · rw [hs] at hin
    have hid : raw.stageId ∈ sourcePhaseStageIds := by
      simpa [ExecutionPlanPhase.stageIds] using hin
    obtain ⟨h1, h2⟩ := hsource hid
    exact absurd hdep (by simp [h1, h2])

/-! ## Advancing the plan -/

/-- An unchanged content means an unchanged plan, since the revision is part of it. -/
theorem ExecutionPlan.Evolves.eq_of_contentHash {q : ExecutionPlan} (h : p.Evolves q)
    (hhash : q.contentHash = p.contentHash) : q = p := by
  rcases h.revision with heq | hlt
  · exact heq
  · have hrev : q.toPlanData.contentHash.revision = p.toPlanData.contentHash.revision :=
      congrArg PlanData.revision hhash
    change q.revision = p.revision at hrev
    omega

/-- What the worker has to know of a candidate. -/
structure Candidate (graph : StageGraph) (current candidate : ExecutionPlan) : Prop where
  inPhase : candidate.InPhase graph
  evolves : current.Evolves candidate

theorem stillPending_candidate {current : ExecutionPlan} {pending : List String}
    (hc : current.InPhase graph) (hne : current.planningPhase ≠ .complete)
    (h : stillPending current pending = .ok candidate) :
    Candidate graph current candidate ∧ candidate.stages = current.stages := by
  have hd := validate_ok h
  have hstages : candidate.stages = current.stages := by rw [hd]
  have hphase : candidate.planningPhase = current.planningPhase := by rw [hd]
  refine ⟨⟨?_, by rw [hd], by rw [hd], fun h => absurd h hne, .inr ?_, fun {stageId s} hs => ?_⟩,
    hstages⟩
  · rcases hc with hc | hc
    · exact absurd hc hne
    · exact .inr (by rw [hphase, hstages]; exact hc)
  · rw [hd]
    exact Nat.lt_succ_self _
  · exact ⟨s, by rw [stage_congr hstages]; exact hs, .refl s⟩

theorem nextPhase_candidate {current : ExecutionPlan} {intent : ExecutionPlanIntent}
    {selection : ExecutionPlanSelection} {phase : ExecutionPlanPhase} {pending : List String}
    {guarded : Bool} (hc : current.InPhase graph) (hne : current.planningPhase ≠ .complete)
    (hrun : current.runId = runId)
    (hsub : ∀ j, current.planningPhase.stageIds.elim true (·.contains j) = true →
      phase.stageIds.elim true (·.contains j) = true)
    (h : nextPhase graph current runId intent selection phase pending guarded = .ok candidate) :
    Candidate graph current candidate ∧ candidate.planningPhase = phase ∧
      candidate.pendingStageIds = pending := by
  obtain ⟨hr, hp, hphase, _, hpending, hrev, _, hstages⟩ := load_ok h
  refine ⟨⟨.inr (by rw [hphase]; exact hstages), hr.trans hrun.symm, hp, fun h => absurd h hne,
    .inr (by rw [hrev]; exact Nat.lt_succ_self _), fun {stageId s} hs => ?_⟩, hphase, hpending⟩
  rcases hc with hc | hc
  · exact absurd hc hne
  · exact stage_of_larger_phase hc hstages hsub hs

/-- What is known once the plan has been advanced or found current. -/
structure Advanced (graph : StageGraph) (i : Nat) (c c' : Scene) (runId completed : String)
    (plan : ExecutionPlan) : Prop where
  coherent : Coherent graph c'
  evolves : c.state.Evolves c'.state
  knows : c'.state.Knows graph plan
  sameRun : plan.runId = runId
  current : Releasing i c' (Current runId plan.stages c'.trace)
  stalled : plan.stalledAt completed = true → Releasing i c' (DependsOn completed)

section
variable (h : Calm env.graph x i l c c') (hr : Releasing i c (OfRun runId))
  (hd : Releasing i c (DependsOn completed))
include h hr hd

theorem Advanced.of_stored {plan : ExecutionPlan}
    (hp : c'.state.getExecutionPlan runId = some plan) :
    Advanced env.graph i c c' runId completed plan where
  coherent := h.coherent
  evolves := h.evolves
  knows := .of_stored h.coherent.inv hp
  sameRun := (getExecutionPlan_spec hp).2
  current := (hr.calm h).current h.coherent.history hp
  stalled _ := hd.calm h

theorem Advanced.of_advance {plan : ExecutionPlan} {r : ExecutionPlan} (hp : c'.state.getExecutionPlan runId = some plan)
    (hcand : Candidate env.graph plan candidate)
    (hstalled : candidate.stages = plan.stages ∨ candidate.stalledAt completed = false)
    (htx : advanceExecutionPlan candidate plan.contentHash c'.state = .ok (r, s))
    (hev : c'.state.Evolves s) (hlog : Coherent env.graph (c'.log i
      (.write (.advanceExecutionPlan candidate plan.contentHash)) (.ok r) s)) :
    Advanced env.graph i c (c'.log i
      (.write (.advanceExecutionPlan candidate plan.contentHash)) (.ok r) s) runId completed
      candidate := by
  have hprun := (getExecutionPlan_spec hp).2
  have hrun : candidate.runId = runId := hcand.evolves.runId.trans hprun
  have hnew := (getExecutionPlan_advance htx candidate.runId).trans (if_pos rfl)
  let e1 : Record := ⟨i, .write (.advanceExecutionPlan candidate plan.contentHash), .ok r, s⟩
  refine ⟨hlog, h.evolves.trans hev, .of_stored hlog.inv hnew, hrun, ?_, fun hst => ?_⟩
  · intro e t run stageId hsuf hi hrel
    rcases suffix_cons_cases hsuf with ⟨rfl, rfl⟩ | hsuf
    · refine ⟨hrel.1.symm.trans hrun, .inr ⟨candidate, ?_, rfl⟩⟩
      rw [← hrun]
      exact hnew
    obtain ⟨hrun', hcur⟩ := (hr.calm h).current h.coherent.history hp e t run stageId hsuf hi hrel
    refine ⟨hrun', ?_⟩
    change epoch runId (e :: t) < epoch runId (e1 :: c'.trace) ∨ _
    rw [epoch_cons (t := c'.trace)]
    rcases hcur with hlt | ⟨q, hq, hqs⟩
    · exact .inl (by omega)
    by_cases hsame : candidate.stages = plan.stages
    · exact .inr ⟨q, hq, hqs.trans hsame.symm⟩
    · have hch : Record.changesPlan runId e1 = true := by
        simp only [e1, Record.changesPlan, Bool.and_eq_true, decide_eq_true_eq]
        exact ⟨hrun, hsame⟩
      have hle : epoch runId (e :: t) ≤ epoch runId _ := epoch_le hsuf
      rw [if_pos hch]
      exact .inl (by omega)
  · intro e t run stageId hsuf hi hrel
    rcases suffix_cons_cases hsuf with ⟨rfl, rfl⟩ | hsuf
    · rcases hstalled with hsame | hnot
      · exact absurd hsame hrel.2.1
      · rw [hst] at hnot
        cases hnot
    · exact (hd.calm h) e t run stageId hsuf hi hrel

end

theorem keeps_advancePlan {current : ExecutionPlan} {c0 : Scene} (h0 : Calm env.graph x i l c0 c)
    (hr : Releasing i c0 (OfRun runId)) (hd : Releasing i c0 (DependsOn completed)) {c1 : Scene}
    (h01 : Calm env.graph x i l c0 c1) (h1 : Calm env.graph x i l c1 c)
    (hp : c1.state.getExecutionPlan runId = some current)
    (hcand : Candidate env.graph current candidate)
    (hstalled : candidate.stages = current.stages ∨ candidate.stalledAt completed = false) :
    Keeps env x y i l (advancePlan current candidate) (fun r c' => ∀ plan, r = .ok plan →
      Advanced env.graph i c0 c' runId completed plan) c := by
  have hprun := (getExecutionPlan_spec hp).2
  have hrun : candidate.runId = runId := hcand.evolves.runId.trans hprun
  unfold advancePlan
  split
  · -- nothing to change: the plan as it was read
    intro plan hplan
    cases hplan
    have hadv := Advanced.of_stored h01 hr hd hp
    exact
      { coherent := h1.coherent
        evolves := hadv.evolves.trans h1.evolves
        knows := hadv.knows.mono h1.evolves
        sameRun := hadv.sameRun
        current := hadv.current.current_calm h1
        stalled := fun hst => (hadv.stalled hst).calm h1 }
  · refine keeps_tryCatch (P := fun r c' => (∀ plan, r = .ok plan →
        Advanced env.graph i c0 c' runId completed plan) ∧
        (∀ e, r = .error e → ∃ c2, Calm env.graph x i l c c2 ∧ Coherent env.graph c' ∧
          c' = c2.log i (.write (.advanceExecutionPlan candidate current.contentHash)) (.error e)
            c2.state)) ?_ (fun _ _ h => h.1) ?_
    · intro c2 hrely hi2 ω r s he
      have h2 := Calm.of_rely hrely hi2
      -- the stored plan, if its content is the one read, is the one read
      have hfound : ∀ p, c2.state.getExecutionPlan candidate.runId = some p →
          p.contentHash = current.contentHash → p = current := by
        intro p hp2 hhash
        rw [hrun] at hp2
        obtain ⟨q, hq, hev⟩ := (h1.trans h2).evolves.getExecutionPlan hp
        rw [hp2] at hq
        cases hq
        exact hev.eq_of_contentHash hhash
      have hsound : SoundWrite env.graph i c2
          (.advanceExecutionPlan candidate current.contentHash) := by
        refine ⟨hcand.inPhase, fun p hp2 hhash => ?_⟩
        rw [hfound p hp2 hhash]
        exact hcand.evolves
      refine ⟨hsound, fun _ hlog => ?_⟩
      rcases Txn.commit_cases (Write.txn env.stableId
        (.advanceExecutionPlan candidate current.contentHash)) c2.state with
        ⟨v, s', htx, hcm⟩ | ⟨e, _, hcm⟩
      · cases hcm.symm.trans he
        refine ⟨fun plan hplan => ?_, fun e he => (by cases he)⟩
        cases hplan
        have hev := (SoundWrite.step hi2.inv hsound htx).1
        obtain ⟨stored, hget, _, hhash, hr', _⟩ := advanceExecutionPlan_ok htx
        have hcur := hfound stored hget hhash
        rw [hcur, hrun] at hget
        rw [hr'] at hlog ⊢
        exact Advanced.of_advance (h0.trans h2) hr hd hget hcand hstalled (hr' ▸ htx) hev hlog
      · cases hcm.symm.trans he
        refine ⟨fun plan hplan => (by cases hplan), fun e' he' => ?_⟩
        cases he'
        exact ⟨c2, h2, hlog, rfl⟩
    · rintro e c' ⟨-, herr⟩
      obtain ⟨c2, h2, hcoh, rfl⟩ := herr e rfl
      clear herr
      cases e
      case concurrencyConflict detail =>
        -- the race was lost: the plan of the winner is current
        have hnone : ∀ {P}, Releasing i c0 P → Releasing i (c2.log i
            (.write (.advanceExecutionPlan candidate current.contentHash))
            (.error (.concurrencyConflict detail)) c2.state) P :=
          fun hP => (hP.calm (h0.trans h2)).log fun _ _ hrel => hrel.elim
        refine keeps_read fun c3 v h3 hv _ => ?_
        change c3.state.getExecutionPlan current.runId = v at hv
        rw [hprun] at hv
        cases v with
        | none => exact fun plan hplan => by cases hplan
        | some latest =>
          intro plan hplan
          cases hplan
          have hadv := Advanced.of_stored h3 (hnone hr) (hnone hd) hv
          exact { hadv with evolves := ((h0.trans h2).evolves.trans (.refl _)).trans hadv.evolves }
      all_goals
        intro plan hplan
        cases hplan

/-- **What `advance_after_stage` of the planning service returns** is current. -/
theorem keeps_planAdvancer (runId completed : String) (hr : Releasing i c (OfRun runId))
    (hd : Releasing i c (DependsOn completed)) :
    Keeps env x y i l (planAdvancerAdvanceAfterStage env.graph runId completed) (fun r c' =>
      ∀ plan, r = .ok plan → Advanced env.graph i c c' runId completed plan) c := by
  refine keeps_read fun c1 current? h1 hcur _ => ?_
  change c1.state.getExecutionPlan runId = current? at hcur
  refine keeps_read fun c2 run? h2 hrun _ => ?_
  change c2.state.getRun runId = run? at hrun
  have h12 := h1.trans h2
  have herror : ∀ (e : Exc) (c' : Scene) plan, (Except.error e : Except Exc ExecutionPlan) = .ok plan →
      Advanced env.graph i c c' runId completed plan := fun e c' plan h => by cases h
  cases current? with
  | none => exact herror _ _
  | some current =>
  cases run? with
  | none => exact herror _ _
  | some run =>
    dsimp only
    have hid : run.runId = runId := getRun_runId hrun
    have hadv := Advanced.of_stored h1 hr hd hcur
    split
    · rename_i hboot
      have hne : current.planningPhase ≠ .complete := by rw [hboot.1]; simp
      refine keeps_observe rfl (fun c3 v h3 _ => ?_) fun c3 e _ => herror e c3
      change Option ExecutionPlanSelection at v
      cases v with
      | none =>
        cases hcand : stillPending current ["SCHEMA_MATCHING", "ENTITY_RESOLUTION"] with
        | error e => exact herror e c3
        | ok candidate =>
          obtain ⟨hok, hst⟩ := stillPending_candidate hadv.knows.1 hne hcand
          exact keeps_advancePlan (h12.trans h3) hr hd h1 (h2.trans h3) hcur hok (.inl hst)
      | some selection =>
        dsimp only
        cases hcand : nextPhase env.graph current run.runId (current.planningIntent.getD {}) selection
            .sourceResolved ["ENTITY_RESOLUTION"] false with
        | error e => exact herror e c3
        | ok candidate =>
          obtain ⟨hok, hphase, _⟩ := nextPhase_candidate hadv.knows.1 hne
            (hadv.sameRun.trans hid.symm) (fun j hj => by
              rw [hboot.1] at hj
              simp only [ExecutionPlanPhase.stageIds, bootstrapStageIds, Option.elim_some,
                contains_cons, contains_nil, Bool.or_false, beq_iff_eq] at hj
              rw [hj]
              decide) hcand
          refine keeps_advancePlan (h12.trans h3) hr hd h1 (h2.trans h3) hcur hok (.inr ?_)
          simp [stalledAt, hphase, hboot.2]
    split
    · rename_i hsource
      have hne : current.planningPhase ≠ .complete := by rw [hsource.1]; simp
      refine keeps_observe rfl (fun c3 v h3 _ => ?_) fun c3 e _ => herror e c3
      change Option ExecutionPlanSelection at v
      cases v with
      | none =>
        cases hcand : stillPending current ["ENTITY_RESOLUTION"] with
        | error e => exact herror e c3
        | ok candidate =>
          obtain ⟨hok, hst⟩ := stillPending_candidate hadv.knows.1 hne hcand
          exact keeps_advancePlan (h12.trans h3) hr hd h1 (h2.trans h3) hcur hok (.inl hst)
      | some selection =>
        dsimp only
        cases hcand : nextPhase env.graph current run.runId (current.planningIntent.getD {}) selection
            .complete [] true with
        | error e => exact herror e c3
        | ok candidate =>
          obtain ⟨hok, _, hpending⟩ := nextPhase_candidate hadv.knows.1 hne
            (hadv.sameRun.trans hid.symm) (fun _ _ => rfl) hcand
          refine keeps_advancePlan (h12.trans h3) hr hd h1 (h2.trans h3) hcur hok (.inr ?_)
          simp [stalledAt, hpending]
    · intro plan hplan
      cases hplan
      exact
        { coherent := h2.coherent
          evolves := h12.evolves
          knows := hadv.knows.mono h2.evolves
          sameRun := hadv.sameRun
          current := hadv.current.current_calm h2
          stalled := fun hst => (hadv.stalled hst).calm h2 }

theorem Store.Knows.stored (hk : s.Knows graph p) (h : p.planningPhase = .complete) :
    s.getExecutionPlan p.runId = some p := by
  obtain ⟨_, q, hq, he⟩ := hk
  rw [hq, he.complete h]

/-- What is known of the plan the worker goes on with; current only if the worker advances plans, or
it is complete. -/
theorem keeps_activePlan {cfg : WorkerConfig} {plan : ExecutionPlan} (hc : Coherent env.graph c)
    (hk : c.state.Knows env.graph plan) (hrun : plan.runId = runId)
    (hr : Releasing i c (OfRun runId)) (hd : Releasing i c (DependsOn completed))
    (hy : y → cfg.planAdvancer = true ∨ plan.planningPhase = .complete) :
    Keeps env x y i l (activePlan env cfg plan runId completed) (fun r c' => ∀ active,
      r = .ok active → Coherent env.graph c' ∧ c.state.Evolves c'.state ∧
        c'.state.Knows env.graph active ∧ active.runId = runId ∧
        (y → Advanced env.graph i c c' runId completed active)) c := by
  unfold activePlan
  split
  · refine Contract.wp_mono (keeps_planAdvancer runId completed hr hd) fun r c' h active hact => ?_
    have hadv := h active hact
    exact ⟨hadv.coherent, hadv.evolves, hadv.knows, hadv.sameRun, fun _ => hadv⟩
  · rename_i hno
    intro active hact
    cases hact
    refine ⟨hc, .refl _, hk, hrun, fun hy' => ?_⟩
    have hcomplete := (hy hy').resolve_left hno
    refine Advanced.of_stored (.refl (x := x) (l := l) hc) hr hd ?_
    rw [← hrun]
    exact hk.stored hcomplete

/-- Once iteration `i` has finalized its job, its releases are those of this finalization. -/
structure Finalized (graph : StageGraph) (i : Nat) (c : Scene) (stored : JobRecord)
    (stageId : String) : Prop where
  coherent : Coherent graph c
  run : (c.state.getRun stored.runId).isSome
  ofRun : Releasing i c (OfRun stored.runId)
  dependsOn : Releasing i c (DependsOn stageId)
  succeeded : Releasing i c fun _ _ _ _ => stored.status = .succeeded
  cancelled : stored.status = .cancelled → FinalizedCancelled i c stored.runId stored

/-- What an iteration ends with, if it is to end with something. -/
abbrev Ends {α : Type} (y : Prop) (i : Nat) (r : Except Exc α) (c : Scene) : Prop :=
  y → ∀ v, r = .ok v → Settled i c

/-- **`_advance_after_stage` settles what the finalization released.** -/
theorem keeps_advanceAfterStage {cfg : WorkerConfig} {plan : ExecutionPlan} {stored : JobRecord}
    (hf : Finalized env.graph i c stored stageId) (hk : c.state.Knows env.graph plan)
    (hrun : plan.runId = stored.runId) (hgraph : y → env.graph.Layered)
    (hy : y → cfg.planAdvancer = true ∨ plan.planningPhase = .complete) :
    Keeps env x y i l (advanceAfterStage env cfg plan stageId stored) (Ends y i) c := by
  -- every other outcome releases nothing
  have hquiet : ∀ (c' : Scene) (r : Except Exc Unit), stored.status ≠ .succeeded →
      Calm env.graph x i l c c' → Ends y i r c' := by
    intro c' r hne h _ v _
    refine Settled.of_none fun e he hi runId sid hrel => hne ?_
    obtain ⟨t, ht⟩ := append_of_mem he
    obtain ⟨t', ht⟩ := ht
    exact (hf.succeeded.calm h) e t' runId sid ⟨t, ht.symm⟩ hi hrel
  have hset : ∀ status, stored.status ≠ .succeeded → status ≠ .succeeded →
      (status = .cancelled → stored.status = .cancelled) →
      Keeps env x y i l (setRunStatus stored.runId status false) (Ends y i) c := by
    intro status hne hns hcan
    exact Contract.wp_mono (keeps_setRunStatus stored.runId status false hns
      fun h => ⟨stored, hf.cancelled (hcan h)⟩) fun r c' h => hquiet c' r hne h
  unfold advanceAfterStage
  cases hst : stored.status with
  | succeeded =>
    refine keeps_bind (keeps_activePlan hf.coherent hk hrun hf.ofRun hf.dependsOn hy) ?_
      fun e c1 _ _ v hv => by cases hv
    intro active c1 hact
    obtain ⟨hc1, hev1, hk1, hrun1, hadv⟩ := hact active rfl
    have hrunSome : (c1.state.getRun active.runId).isSome := by
      rw [hrun1]
      exact hev1.run_isSome hf.run
    split
    · rename_i hstalled
      refine Contract.wp_mono (keeps_setRunStatus stored.runId .blocked false (by simp) (by simp))
        fun r c2 h2 hy' v hv => ?_
      have ha := hadv hy'
      refine Releasing.settled_of_stalled (hgraph hy') hk1.1 hstalled ?_
        ((ha.stalled hstalled).calm h2)
      rw [hrun1]
      exact ha.current.current_calm h2
    · refine keeps_bind (keeps_scheduleReady active (some stored.jobId) hc1 hk1 hrunSome) ?_
        fun e c2 _ _ v hv => by cases hv
      rintro n c2 ⟨h2, hjobs⟩
      refine Contract.wp_mono (keeps_maybeCompleteRun active h2.coherent (hk1.mono h2.evolves))
        fun r c3 h3 hy' v hv => ?_
      have ha := hadv hy'
      have hcurrent : Releasing i c1 (Current active.runId active.stages c1.trace) := by
        rw [hrun1]
        exact ha.current
      exact hcurrent.settled (h2.trans h3) hc1.history
        fun st hst hsel hsat => (hjobs n rfl st hst hsel hsat).mono h3.evolves
  | needsReview => exact hset _ (by rw [hst]; simp) (by simp) (by simp)
  | blocked =>
    dsimp only
    split
    · exact hset _ (by rw [hst]; simp) (by simp) (by simp)
    · exact hquiet c _ (by rw [hst]; simp) (.refl hf.coherent)
  | failed =>
    dsimp only
    split
    · exact hset _ (by rw [hst]; simp) (by simp) (by simp)
    · exact hquiet c _ (by rw [hst]; simp) (.refl hf.coherent)
  | cancelled => exact hset _ (by rw [hst]; simp) (by simp) (fun _ => hst)
  | queued => exact hquiet c _ (by rw [hst]; simp) (.refl hf.coherent)
  | running => exact hquiet c _ (by rw [hst]; simp) (.refl hf.coherent)
  | retryWait => exact hquiet c _ (by rw [hst]; simp) (.refl hf.coherent)

end DirtyDataOlap

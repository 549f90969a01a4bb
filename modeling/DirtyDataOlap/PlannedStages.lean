import DirtyDataOlap.PlanAdvancement

/-!
# The stages of a planned plan

The place of a stage in the graph is copied from the graph; whether it is selected is decided by the
planning context, by the intent of the caller, or by the graph (`StageSpec.Planned`).
`SCHEMA_MATCHING` is decided anew in every phase, within a `scope`: the answers that the contexts of
a run may give.  A candidate is one revision further and never in an earlier phase
(`ExecutionPlan.Succeeds`).
-/
namespace DirtyDataOlap

open List

/-! ## The stages of a planned plan -/

/-- How the intent of the caller, or else the graph, decides a conditional stage. -/
def RawStage.decidedBy (raw : RawStage) (intent : ExecutionPlanIntent) : Bool :=
  if raw.stageId = "OPTIONAL_SEMANTIC_EVIDENCE" then intent.optionalSemanticEvidenceEnabled
  else if raw.stageId = "LEARNED_EVIDENCE" then intent.learnedEvidenceEnabled
  else raw.required

/-- **What a stage of a planned plan is**, when the planning contexts answer whether schemas
must be matched within `scope`. -/
structure StageSpec.Planned (scope : Bool → Prop) (intent : ExecutionPlanIntent) (raw : RawStage)
    (s : StageSpec) : Prop extends StageSpec.From raw s where
  optionalDependencies : s.optionalDependencies = raw.optionalDependencies
  requiredReviewCheckpoint : s.requiredReviewCheckpoint = raw.requiredReviewCheckpoint
  unconditional : raw.conditional = false → s.selected = true
  schemaMatching : raw.conditional = true → raw.stageId = "SCHEMA_MATCHING" → scope s.selected
  decided : raw.conditional = true → raw.stageId ≠ "SCHEMA_MATCHING" →
    raw.stageId ≠ "ENTITY_RESOLUTION" → s.selected = raw.decidedBy intent

variable {intent : ExecutionPlanIntent} {raw : RawStage} {context : ExecutionPlanningContext}
  {raws : List RawStage} {graph : StageGraph} {stageIds : Option (List String)}
  {digests : SelectionDigests} {decisions : List StageSelectionDecision}
  {phase : ExecutionPlanPhase} {intent? : Option ExecutionPlanIntent}

theorem decisionFor_schemaMatching (h : raw.stageId = "SCHEMA_MATCHING") :
    (decisionFor raw context intent).1 = context.crossSourceMappingRequired := by
  unfold decisionFor
  rw [if_pos h]
  cases context.crossSourceMappingRequired <;> rfl

theorem decisionFor_decided (hs : raw.stageId ≠ "SCHEMA_MATCHING")
    (he : raw.stageId ≠ "ENTITY_RESOLUTION") :
    (decisionFor raw context intent).1 = raw.decidedBy intent := by
  unfold decisionFor RawStage.decidedBy
  rw [if_neg hs, if_neg he]
  split
  · rfl
  split
  · rfl
  cases raw.required <;> rfl

theorem selectionDecisions_forall₂ {run : RunRecord} {fingerprint : String}
    (h : selectionDecisions digests run context intent fingerprint raws = .ok decisions) :
    Forall₂ (fun (raw : RawStage) (d : StageSelectionDecision) =>
      d.stageId = raw.stageId ∧ d.selected = (decisionFor raw context intent).1) raws decisions := by
  induction raws generalizing decisions with
  | nil => cases h; exact .nil
  | cons raw rest ih =>
    unfold selectionDecisions at h
    dsimp only at h
    split at h
    · cases h
    cases hrest : selectionDecisions digests run context intent fingerprint rest with
    | error e => rw [hrest] at h; cases h
    | ok tl =>
      rw [hrest] at h
      cases h
      exact .cons ⟨rfl, rfl⟩ (ih hrest)

theorem decision_of_forall₂ {decide' : RawStage → Bool}
    (h : Forall₂ (fun (raw : RawStage) (d : StageSelectionDecision) =>
      d.stageId = raw.stageId ∧ d.selected = decide' raw) raws decisions)
    (hn : (decisions.map (·.stageId)).Nodup) (hraw : raw ∈ raws) :
    ∃ d, decisions.find? (·.stageId = raw.stageId) = some d ∧ d.selected = decide' raw := by
  induction h with
  | nil => cases hraw
  | @cons raw0 d0 raws decisions hd _ ih =>
    rw [map_cons, nodup_cons] at hn
    rcases mem_cons.mp hraw with rfl | hraw
    · exact ⟨d0, List.find?_cons_of_pos (by simpa using hd.1), hd.2⟩
    obtain ⟨d, hfind, hsel⟩ := ih hn.2 hraw
    refine ⟨d, ?_, hsel⟩
    have hid : d.stageId = raw.stageId := by simpa using find?_some hfind
    have hne : d0.stageId ≠ raw.stageId := by
      intro heq
      exact hn.1 (mem_map.mpr ⟨d, mem_of_find?_eq_some hfind, hid.trans heq.symm⟩)
    rw [List.find?_cons_of_neg (by simpa using hne)]
    exact hfind

/-- The selection decides every conditional stage of its part of the graph. -/
theorem compileSelection_decides {run : RunRecord} {resolution : SelectionResolution}
    {selection : ExecutionPlanSelection}
    (h : compileSelection digests graph run intent stageIds context = .ok resolution)
    (hs : resolution.selection = some selection) (hraw : raw ∈ graph.restrict stageIds)
    (hc : raw.conditional = true) : ∃ d, selection.decisionFor raw.stageId = some d ∧
      d.selected = (decisionFor raw context intent).1 := by
  unfold compileSelection at h
  split at h
  · cases h; cases hs
  dsimp only at h
  split at h
  · cases h
  rename_i decisions hdec
  split at h
  · cases h
    cases hs
    exact decision_of_forall₂ (selectionDecisions_forall₂ hdec) (by assumption)
      (mem_filter.mpr ⟨hraw, hc⟩)
  · cases h

theorem compileStages_toSpec {decisionOf : String → Option StageSelectionDecision}
    {stages : List StageSpec} (h : compileStages decisionOf raws = .ok stages) :
    Forall₂ (fun raw s => ∃ hr, s = RawStage.toSpec raw (decisionOf raw.stageId) hr)
      raws stages := by
  induction raws generalizing stages with
  | nil => cases h; exact .nil
  | cons raw rest ih =>
    unfold compileStages at h
    split at h
    · rename_i hr
      cases hrest : compileStages decisionOf rest with
      | error e => rw [hrest] at h; cases h
      | ok tl =>
        rw [hrest] at h
        cases h
        exact .cons ⟨hr, rfl⟩ (ih hrest)
    · cases h

def StageSelectionDecision.Within (scope : Bool → Prop) (intent : ExecutionPlanIntent)
    (raw : RawStage) (d : StageSelectionDecision) : Prop :=
  (raw.stageId = "SCHEMA_MATCHING" → scope d.selected) ∧
    (raw.stageId ≠ "SCHEMA_MATCHING" → raw.stageId ≠ "ENTITY_RESOLUTION" →
      d.selected = raw.decidedBy intent)

theorem RawStage.toSpec_planned {scope : Bool → Prop} {decision : Option StageSelectionDecision}
    (hdec : raw.conditional = true → ∃ d, decision = some d ∧ d.Within scope intent raw)
    (hr : raw.required = true → (!raw.conditional || (decision.elim false (·.selected))) = true) :
    StageSpec.Planned scope intent raw (raw.toSpec decision hr) where
  toFrom := ⟨rfl, rfl, rfl, rfl, rfl, rfl, rfl, rfl, rfl⟩
  optionalDependencies := rfl
  requiredReviewCheckpoint := rfl
  unconditional hc := by simp [toSpec, hc]
  schemaMatching hc hid := by
    obtain ⟨d, rfl, hd⟩ := hdec hc
    simpa [toSpec, hc] using hd.1 hid
  decided hc hs he := by
    obtain ⟨d, rfl, hd⟩ := hdec hc
    simpa [toSpec, hc] using hd.2 hs he

/-- **What the loader makes of the decisions.** -/
theorem load_planned {runId planId : String} {selection : Option ExecutionPlanSelection}
    {pending : List String} {revision : Nat} {guarded : Bool} {createdAt : Instant}
    {p : ExecutionPlan}
    (h : loadAuthoritativeExecutionPlan graph runId planId selection stageIds phase intent? pending
      revision guarded createdAt = .ok p) {scope : Bool → Prop}
    (hdec : ∀ raw ∈ graph.restrict stageIds, raw.conditional = true →
      ∃ d, selection.bind (·.decisionFor raw.stageId) = some d ∧ d.Within scope intent raw) :
    Forall₂ (StageSpec.Planned scope intent) (graph.restrict stageIds) p.stages := by
  unfold loadAuthoritativeExecutionPlan at h
  split at h
  · cases h
  · cases h
  · cases h
  rename_i hstages
  rw [ExecutionPlan.validate_ok h]
  obtain ⟨hlen, hzip⟩ := List.forall₂_iff_zip.mp (compileStages_toSpec hstages)
  refine List.forall₂_iff_zip.mpr ⟨hlen, fun {raw s} hmem => ?_⟩
  obtain ⟨hr, rfl⟩ := hzip hmem
  exact raw.toSpec_planned (hdec raw (of_mem_zip hmem).1) hr

theorem load_unconditional {runId planId : String} {pending : List String} {revision : Nat}
    {guarded : Bool} {createdAt : Instant} {p : ExecutionPlan}
    (h : loadAuthoritativeExecutionPlan graph runId planId none stageIds phase intent? pending
      revision guarded createdAt = .ok p) :
    ∀ raw ∈ graph.restrict stageIds, raw.conditional = false := by
  intro raw hraw
  by_contra hc
  unfold loadAuthoritativeExecutionPlan at h
  split at h
  · cases h
  · cases h
  · cases h
  rename_i hnone _
  unfold loaderRefusal at hnone
  dsimp only at hnone
  split at hnone
  · cases hnone
  rw [if_pos] at hnone
  · cases hnone
  · have hmem : raw.stageId ∈ ((graph.restrict stageIds).filter (·.conditional)).map (·.stageId) :=
      mem_map.mpr ⟨raw, mem_filter.mpr ⟨hraw, by simpa using hc⟩, rfl⟩
    simpa using ne_nil_of_mem hmem

/-! ## Planned plans -/

/-- **A plan of the planning service**: the stages of its phase, decided within `scope` and by
the intent it carries. -/
def ExecutionPlan.Planned (graph : StageGraph) (scope : Bool → Prop) (p : ExecutionPlan) : Prop :=
  ∃ intent, p.planningIntent = some intent ∧
    Forall₂ (StageSpec.Planned scope intent) (graph.restrict p.planningPhase.stageIds) p.stages

/-- The place of a phase in their order. -/
def ExecutionPlanPhase.rank : ExecutionPlanPhase → Nat
  | .bootstrap => 0
  | .sourceResolved => 1
  | .complete => 2

/-- **How one version of a plan follows another.** -/
structure ExecutionPlan.Succeeds (p q : ExecutionPlan) : Prop where
  runId : q.runId = p.runId
  planId : q.planId = p.planId
  incomplete : p.planningPhase ≠ .complete
  phase : p.planningPhase.rank ≤ q.planningPhase.rank
  revision : p.revision < q.revision
  intent : p.planningIntent.isSome → q.planningIntent = p.planningIntent

def AnswersWithin (scope : Bool → Prop) (outcome : Option ExecutionPlanningContext × List String) :
    Prop :=
  ∀ context, outcome.1 = some context → scope context.crossSourceMappingRequired

section Candidates
variable {service : PlanService} {run : RunRecord} {current candidate : ExecutionPlan}
variable {outcome : Option ExecutionPlanningContext × List String} {scope : Bool → Prop}

variable {intent : ExecutionPlanIntent} {env : Env} {runId : String}
  {full source : Option ExecutionPlanSelection} {createdAt : Instant} {p : ExecutionPlan}
  {resolution : SelectionResolution} {selection : ExecutionPlanSelection}

theorem selection_within {stageIds : Option (List String)}
    (h : service.selection run intent stageIds outcome = .ok resolution)
    (hs : resolution.selection = some selection) (ho : AnswersWithin scope outcome) {raw : RawStage}
    (hraw : raw ∈ service.env.graph.restrict stageIds) (hc : raw.conditional = true) :
    ∃ d, (some selection).bind (·.decisionFor raw.stageId) = some d ∧ d.Within scope intent raw := by
  unfold PlanService.selection resolveSelection at h
  split at h
  · cases h; cases hs
  rename_i context _
  obtain ⟨d, hd, hsel⟩ := compileSelection_decides h hs hraw hc
  refine ⟨d, hd, fun hid => ?_, fun hsm her => ?_⟩
  · rw [hsel, decisionFor_schemaMatching hid]
    exact ho context rfl
  · rw [hsel, decisionFor_decided hsm her]

theorem stillPending_succeeds {graph : StageGraph} {pending : List String}
    (hne : current.planningPhase ≠ .complete) (h : stillPending current pending = .ok candidate) :
    current.Succeeds candidate ∧ (current.Planned graph scope → candidate.Planned graph scope) := by
  have hd := ExecutionPlan.validate_ok h
  constructor
  · exact ⟨by rw [hd], by rw [hd], hne, by rw [hd], by rw [hd]; exact Nat.lt_succ_self _,
      fun _ => by rw [hd]⟩
  · rintro ⟨intent, hintent, hstages⟩
    exact ⟨intent, by rw [hd]; exact hintent, by rw [hd]; exact hstages⟩

theorem nextPhase_succeeds {phase : ExecutionPlanPhase} {pending : List String} {guarded : Bool}
    (hne : current.planningPhase ≠ .complete) (hrun : current.runId = run.runId)
    (hrank : current.planningPhase.rank ≤ phase.rank)
    (hres : service.selection run (current.planningIntent.getD {}) phase.stageIds outcome =
      .ok resolution) (hs : resolution.selection = some selection)
    (ho : AnswersWithin scope outcome)
    (h : nextPhase service.env.graph current run.runId (current.planningIntent.getD {}) selection
      phase pending guarded = .ok candidate) :
    current.Succeeds candidate ∧ candidate.Planned service.env.graph scope := by
  obtain ⟨hr, hp, hphase, hintent, _, hrev, _, _⟩ := load_ok h
  constructor
  · refine ⟨hr.trans hrun.symm, hp, hne, by rw [hphase]; exact hrank,
      by rw [hrev]; exact Nat.lt_succ_self _, fun hsome => ?_⟩
    obtain ⟨intent, hi⟩ := Option.isSome_iff_exists.mp hsome
    rw [hintent, hi]
    rfl
  · refine ⟨_, hintent, ?_⟩
    rw [hphase]
    exact load_planned h fun raw hraw hc => selection_within hres hs ho hraw hc

/-- **The candidate of the source phase follows the plan it was built on.** -/
theorem sourceCandidate_succeeds (hphase : current.planningPhase = .bootstrap)
    (hrun : current.runId = run.runId) (ho : AnswersWithin scope outcome)
    (h : service.sourceCandidate run current outcome = .ok candidate) :
    current.Succeeds candidate ∧ (current.Planned service.env.graph scope →
      candidate.Planned service.env.graph scope) := by
  have hne : current.planningPhase ≠ .complete := by rw [hphase]; decide
  obtain ⟨resolution, hres, h⟩ := bind_eq_ok.mp h
  cases hs : resolution.selection with
  | none =>
    rw [hs] at h
    exact stillPending_succeeds hne h
  | some selection =>
    rw [hs] at h
    obtain ⟨hsucc, hplanned⟩ :=
      nextPhase_succeeds hne hrun (by rw [hphase]; decide) hres hs ho h
    exact ⟨hsucc, fun _ => hplanned⟩

/-- **The candidate of the complete phase follows the plan it was built on.** -/
theorem completeCandidate_succeeds (hphase : current.planningPhase = .sourceResolved)
    (hrun : current.runId = run.runId) (ho : AnswersWithin scope outcome)
    (h : service.completeCandidate run current outcome = .ok candidate) :
    current.Succeeds candidate ∧ (current.Planned service.env.graph scope →
      candidate.Planned service.env.graph scope) := by
  have hne : current.planningPhase ≠ .complete := by rw [hphase]; decide
  obtain ⟨resolution, hres, h⟩ := bind_eq_ok.mp h
  cases hs : resolution.selection with
  | none =>
    rw [hs] at h
    exact stillPending_succeeds hne h
  | some selection =>
    rw [hs] at h
    obtain ⟨hsucc, hplanned⟩ :=
      nextPhase_succeeds hne hrun (by rw [hphase]; decide) hres hs ho h
    exact ⟨hsucc, fun _ => hplanned⟩

variable (graph scope intent) in
def SelectionWithin (phase : ExecutionPlanPhase) (selection : Option ExecutionPlanSelection) :
    Prop :=
  selection.isSome → ∀ raw ∈ graph.restrict phase.stageIds, raw.conditional = true →
    ∃ d, selection.bind (·.decisionFor raw.stageId) = some d ∧ d.Within scope intent raw

variable (h : preparedPlan env runId intent full source createdAt = .ok p)

include h in
theorem preparedPlan_cases :
    ∃ selection phase pending guarded,
      loadAuthoritativeExecutionPlan env.graph runId (env.stableId (.executionPlan runId)) selection
        (ExecutionPlanPhase.stageIds phase) phase (some intent) pending 0 guarded createdAt = .ok p ∧
      (selection = none ∨ (selection = full ∧ phase = .complete) ∨
        (selection = source ∧ phase = .sourceResolved)) := by
  unfold preparedPlan at h
  split at h
  · exact ⟨_, _, _, _, h, .inr (.inl ⟨rfl, rfl⟩)⟩
  · exact ⟨_, _, _, _, h, .inr (.inr ⟨rfl, rfl⟩)⟩
  · exact ⟨_, _, _, _, h, .inl rfl⟩

include h in
theorem preparedPlan_runId :
    p.runId = runId := by
  obtain ⟨_, _, _, _, hload, _⟩ := preparedPlan_cases h
  exact (load_ok hload).1

/-- **The plan that is prepared for a run is planned.** -/
theorem preparedPlan_planned (hfull : SelectionWithin env.graph scope intent .complete full)
    (hsource : SelectionWithin env.graph scope intent .sourceResolved source)
    (h : preparedPlan env runId intent full source createdAt = .ok p) :
    p.Planned env.graph scope := by
  obtain ⟨selection, phase, pending, guarded, hload, hcases⟩ := preparedPlan_cases h
  obtain ⟨_, _, hphase, hintent, _⟩ := load_ok hload
  refine ⟨intent, hintent, ?_⟩
  rw [hphase]
  refine load_planned hload fun raw hraw hc => ?_
  cases selection with
  | none =>
    rw [load_unconditional hload raw hraw] at hc
    cases hc
  | some sel =>
    rcases hcases with hnone | ⟨rfl, rfl⟩ | ⟨rfl, rfl⟩
    · cases hnone
    · exact hfull rfl raw hraw hc
    · exact hsource rfl raw hraw hc

end Candidates

end DirtyDataOlap

import DirtyDataOlap.JobContracts
import Mathlib.Data.List.Dedup

/-!
# Execution plans

A run executes a plan: the stages of the architecture graph that apply to it.
`PlanData.validateGraph` is the validator of `ExecutionPlan`, as the list of its conditions with
their messages; an `ExecutionPlan` is a plan that passed.

What a stage depends on, whether it is required and whether it is the final validation come from the
graph alone.  Hence two plans compiled from one graph agree on everything else about a stage they
share (`StageSpec.SameShape`).
-/
namespace DirtyDataOlap

open List

/-! ## Plans -/

/-- Run-specific policy evidence for one conditional stage. -/
structure StageSelectionDecision where
  stageId : String
  selected : Bool
  policyRef : String
  evidenceRef : Option String := none
  (reason scope scopeFingerprint : String)
deriving DecidableEq

/-- Explicit selection evidence bound to one run and its planning scope. -/
structure ExecutionPlanSelection where
  (runId policyRef scope scopeFingerprint : String)
  decisions : List StageSelectionDecision := []
  unique : (decisions.map (·.stageId)).Nodup := by decide
deriving DecidableEq

def ExecutionPlanSelection.decisionFor (s : ExecutionPlanSelection) (stageId : String) :
    Option StageSelectionDecision :=
  s.decisions.find? fun d => d.stageId = stageId

/-- Bounded caller intent; it contains no selection authority. -/
structure ExecutionPlanIntent where
  crossSourceMappingRequested : Option Bool := none
  entityResolutionRequested : Option Bool := none
  optionalSemanticEvidenceEnabled : Bool := false
  learnedEvidenceEnabled : Bool := false
deriving DecidableEq

/-- One run-scoped projection of the authoritative architecture graph. -/
structure StageSpec where
  stageId : String
  required : Bool := true
  conditional : Bool := false
  selected : Bool := true
  selectionReason : String := "selected by the authoritative execution plan"
  dependencies : List String := []
  optionalDependencies : List String := []
  conditionalDependencies : List String := []
  handlerKey : String
  reviewCheckpoint : Option ReviewCheckpoint := none
  requiredReviewCheckpoint : Option ReviewCheckpoint := none
  replaySafety : ReplaySafety := .reconciliationRequiredOnUnknown
  sourceScope : Option String := none
  finalValidation : Bool := false
  policyConfigFingerprint : String := "step28-policy-v1"
  metadata : List (String × String) := []
  /-- Required stages cannot be omitted from an execution plan. -/
  required_selected : required = true → selected = true := by exact fun _ => rfl
deriving DecidableEq

/-- The fields of an execution plan. -/
structure PlanData where
  (planId runId : String)
  graphSource : String := "docs/architecture/specs/stage_graph.yml"
  graphVersion : String := "v1_runtime_stage_dag"
  stages : List StageSpec
  selection : Option ExecutionPlanSelection := none
  successGuardRequired : Bool := false
  planningPhase : ExecutionPlanPhase := .complete
  planningIntent : Option ExecutionPlanIntent := none
  pendingStageIds : List String := []
  revision : Nat := 0
  createdAt : Instant
deriving DecidableEq

namespace PlanData

variable (p : PlanData)

def stage (stageId : String) : Option StageSpec :=
  p.stages.find? fun s => s.stageId = stageId

/-- The conditions on the selection evidence. -/
def selectionChecks (s : ExecutionPlanSelection) : List (Bool × String) :=
  let conditionalIds := (p.stages.filter (·.conditional)).map (·.stageId)
  let decided := s.decisions.map (·.stageId)
  [(decide (s.runId = p.runId), "execution plan selection is bound to a different run"),
    (decided.all (conditionalIds.contains ·) && conditionalIds.all (decided.contains ·),
      "execution plan selection must resolve every conditional stage exactly once"),
    (s.decisions.all fun d =>
        d.policyRef = s.policyRef && d.scope = s.scope && d.scopeFingerprint = s.scopeFingerprint,
      "stage selection decisions must use the enclosing policy and scope")] ++
    (p.stages.filter (·.conditional)).map fun stage =>
      ((match s.decisionFor stage.stageId with
        | some d => d.selected == stage.selected && d.reason = stage.selectionReason
        | none => false),
        "stage selection does not match its authoritative selection evidence")

/-- The conditions on one stage of the plan. -/
def stageChecks (stage : StageSpec) : List (Bool × String) :=
  let known := p.stages.map (·.stageId)
  [(!(stage.dependencies.contains stage.stageId) && stage.dependencies.all (known.contains ·),
    "execution plan contains an invalid dependency")] ++
  (if stage.selected then
    stage.dependencies.map (fun d =>
      ((match p.stage d with | some dep => dep.selected | none => false),
        "selected stages cannot depend on an unselected hard dependency")) ++
    (match stage.requiredReviewCheckpoint with
      | none => []
      | some checkpoint =>
        [((match p.stages.find? fun c => c.reviewCheckpoint = some checkpoint with
            | some guard => guard.selected
            | none => false),
          "selected stages require a selected review checkpoint guard")])
  else []) ++
  stage.conditionalDependencies.map fun d =>
    (known.contains d, "conditional dependencies must be represented in the execution plan")

/-- One round of the acyclicity loop: what is still pending once all whose dependencies are resolved
are; `fuel` rounds. -/
def acyclicLoop : Nat → List (String × List String) → List String → Bool
  | _, [], _ => true
  | 0, _, _ => false
  | fuel + 1, pending, resolved =>
    let ready := pending.filter fun x => x.2.all (resolved.contains ·)
    if ready.isEmpty then false
    else acyclicLoop fuel (pending.filter fun x => !(x.2.all (resolved.contains ·)))
      (ready.map (·.1) ++ resolved)

/-- The graph of all known dependencies has no cycle. -/
def acyclic : Bool :=
  let known := p.stages.map (·.stageId)
  acyclicLoop p.stages.length
    (p.stages.map fun s => (s.stageId,
      (s.dependencies ++ s.optionalDependencies ++ s.conditionalDependencies).filter
        (known.contains ·))) []

/-- Everything `validate_graph` checks, in its order. -/
def checks : List (Bool × String) :=
  [(!p.stages.isEmpty, "stages must not be empty"),
    (decide (p.stages.map (·.stageId)).Nodup, "execution plan stage identities must be unique"),
    (decide p.pendingStageIds.Nodup,
      "pending plan stage identities must be unique safe identities"),
    (!(p.planningPhase = .complete && !p.pendingStageIds.isEmpty),
      "complete execution plans cannot retain pending stage decisions"),
    (!(p.stages.any (·.conditional) && p.selection.isNone),
      "conditional execution stages require explicit run-specific selection evidence")] ++
  (match p.selection with | none => [] | some s => p.selectionChecks s) ++
  p.stages.flatMap p.stageChecks ++
  [(p.acyclic, "execution plan must be acyclic"),
    (decide ((p.stages.filter (·.finalValidation)).length ≤ 1),
      "execution plan may have at most one final validation stage"),
    (!p.successGuardRequired || p.stages.any fun s => s.finalValidation && s.required && s.selected,
      "successful execution plans require a selected final validation stage")]

/-- `validate_graph`: the message of the first condition that fails. -/
def validateGraph : Option String := (p.checks.find? fun c => !c.1).map (·.2)

/-- The projection that `content_hash` digests; its digest is taken to be collision free. -/
def contentHash : PlanData := { p with createdAt := 0 }

theorem check_of_valid {p : PlanData} (h : p.validateGraph = none) {c : Bool × String}
    (hc : c ∈ p.checks) : c.1 = true := by
  have hnone : (p.checks.find? fun c => !c.1) = none := by
    simpa [validateGraph] using h
  simpa using find?_eq_none.mp hnone c hc

end PlanData

/-- A durable run plan compiled from the stage graph. -/
structure ExecutionPlan extends PlanData where
  valid : toPlanData.validateGraph = none
deriving DecidableEq

namespace ExecutionPlan

/-- Model validation of a candidate plan. -/
def validate (p : PlanData) : Except Exc ExecutionPlan :=
  if h : p.validateGraph = none then .ok ⟨p, h⟩
  else .error (.value (p.validateGraph.getD ""))

def stage (p : ExecutionPlan) (stageId : String) : Option StageSpec := p.toPlanData.stage stageId

variable {p : ExecutionPlan}

theorem validate_ok {d : PlanData} (h : validate d = .ok p) : p.toPlanData = d := by
  unfold validate at h
  split at h
  · cases h; rfl
  · cases h

theorem stageIds_nodup (p : ExecutionPlan) : (p.stages.map (·.stageId)).Nodup := by
  have h := PlanData.check_of_valid p.valid
    (c := (decide (p.stages.map (·.stageId)).Nodup, "execution plan stage identities must be unique"))
    (by simp [PlanData.checks])
  simpa using h

theorem stage_stageId {stageId : String} {s : StageSpec} (h : p.stage stageId = some s) :
    s.stageId = stageId := by
  simpa using find?_some h

theorem stage_mem {stageId : String} {s : StageSpec} (h : p.stage stageId = some s) :
    s ∈ p.stages :=
  mem_of_find?_eq_some h

end ExecutionPlan

/-! ## Compiling a plan from the stage graph -/

/-- One entry of `stages` in `docs/architecture/specs/stage_graph.yml`, as far as
the loader reads it. -/
structure RawStage where
  stageId : String
  required : Bool := true
  conditional : Bool := false
  dependencies : List String := []
  optionalDependencies : List String := []
  conditionalDependencies : List String := []
  reviewCheckpointId : Option ReviewCheckpoint := none
  requiredReviewCheckpoint : Option ReviewCheckpoint := none
  sourceScope : Option String := none

structure StageGraph where
  scope : String := "v1_runtime_stage_dag"
  stages : List RawStage

/-- The stage of a plan for one entry of the graph; a conditional one is selected as its decision
says. -/
def RawStage.toSpec (raw : RawStage) (decision : Option StageSelectionDecision)
    (h : raw.required = true → (!raw.conditional || (decision.elim false (·.selected))) = true) :
    StageSpec where
  stageId := raw.stageId
  required := raw.required
  conditional := raw.conditional
  selected := !raw.conditional || (decision.elim false (·.selected))
  selectionReason :=
    if raw.conditional then decision.elim "" (·.reason) else "unconditional stage selected"
  dependencies := raw.dependencies
  optionalDependencies := raw.optionalDependencies
  conditionalDependencies := raw.conditionalDependencies.dedup
  handlerKey := raw.stageId
  reviewCheckpoint := raw.reviewCheckpointId
  requiredReviewCheckpoint := raw.requiredReviewCheckpoint
  finalValidation := raw.stageId = "VALIDATION_RECONCILIATION"
  sourceScope := raw.sourceScope
  metadata := ("graph_source", "stage_graph.yml") ::
    match decision with
    | none => []
    | some d =>
      [("selection_policy_ref", d.policyRef), ("selection_scope", d.scope),
        ("selection_scope_fingerprint", d.scopeFingerprint)] ++
      (match d.evidenceRef with
        | some ref => if ref = "" then [] else [("selection_evidence_ref", ref)]
        | none => [])
  required_selected := h

def compileStages (decisionOf : String → Option StageSelectionDecision) :
    List RawStage → Except Exc (List StageSpec)
  | [] => .ok []
  | raw :: rest =>
    if h : raw.required = true →
        (!raw.conditional || ((decisionOf raw.stageId).elim false (·.selected))) = true then
      (compileStages decisionOf rest).map (raw.toSpec (decisionOf raw.stageId) h :: ·)
    else .error (.value "required stages cannot be omitted from an execution plan")

def StageGraph.restrict (graph : StageGraph) (stageIds : Option (List String)) : List RawStage :=
  graph.stages.filter fun raw => stageIds.elim true (·.contains raw.stageId)

/-- Why the loader refuses: an unknown stage, or not exactly the conditional stages are decided. -/
def loaderRefusal (graph : StageGraph) (runId : String) (selection : Option ExecutionPlanSelection)
    (stageIds : Option (List String)) : Option Exc :=
  let allStageIds := graph.stages.map (·.stageId)
  let requestedUnknown := (stageIds.getD []).filter fun i => !allStageIds.contains i
  let graphStages := graph.restrict stageIds
  let conditionalIds := (graphStages.filter (·.conditional)).map (·.stageId)
  let decided := (selection.elim [] (·.decisions)).map (·.stageId)
  let unknown := decided.filter fun i => !conditionalIds.contains i
  let missing :=
    if selection.isSome then conditionalIds.filter fun i => !decided.contains i else []
  let requiredUnselected := (graphStages.filter fun raw => raw.conditional && raw.required &&
    (selection.bind (·.decisionFor raw.stageId)).any fun d => !d.selected).map (·.stageId)
  if !requestedUnknown.isEmpty then
    some (.selection requestedUnknown "execution plan requested an unknown graph stage")
  else if !conditionalIds.isEmpty && selection.isNone then
    some (.selection conditionalIds "conditional stage selection is unresolved")
  else if selection.any fun s => s.runId ≠ runId then
    some (.selection conditionalIds "execution selection is bound to a different run")
  else if !(unknown.isEmpty && missing.isEmpty && requiredUnselected.isEmpty) then
    some (.selection (unknown ++ missing ++ requiredUnselected)
      (if requiredUnselected.isEmpty then
        "execution selection must resolve every conditional stage exactly once"
      else "required conditional stages cannot be excluded by the execution selection"))
  else none

/-- `load_authoritative_execution_plan`: project the architecture graph into a
run-scoped durable plan. -/
def loadAuthoritativeExecutionPlan (graph : StageGraph) (runId planId : String)
    (selection : Option ExecutionPlanSelection) (stageIds : Option (List String))
    (planningPhase : ExecutionPlanPhase) (planningIntent : Option ExecutionPlanIntent)
    (pendingStageIds : List String) (revision : Nat) (successGuardRequired : Bool)
    (createdAt : Instant) : Except Exc ExecutionPlan :=
  match loaderRefusal graph runId selection stageIds,
      compileStages (fun i => selection.bind (·.decisionFor i)) (graph.restrict stageIds) with
  | some e, _ => .error e
  | none, .error e => .error e
  | none, .ok [] => .error (.platform "authoritative stage graph contains no stages")
  | none, .ok stages =>
    ExecutionPlan.validate
      { planId, runId, graphVersion := graph.scope, stages, selection, successGuardRequired,
        planningPhase, planningIntent, pendingStageIds, revision, createdAt }

/-- Two specifications of one stage that differ at most in what the run selected. -/
structure StageSpec.SameShape (s t : StageSpec) : Prop where
  required : t.required = s.required
  dependencies : t.dependencies = s.dependencies
  conditionalDependencies : t.conditionalDependencies = s.conditionalDependencies
  reviewCheckpoint : t.reviewCheckpoint = s.reviewCheckpoint
  replaySafety : t.replaySafety = s.replaySafety
  finalValidation : t.finalValidation = s.finalValidation
  handlerKey : t.handlerKey = s.handlerKey
  policyConfigFingerprint : t.policyConfigFingerprint = s.policyConfigFingerprint

theorem StageSpec.SameShape.refl (s : StageSpec) : s.SameShape s :=
  ⟨rfl, rfl, rfl, rfl, rfl, rfl, rfl, rfl⟩

variable {s : StageSpec} {graph : StageGraph} {p : ExecutionPlan}
  {selection : Option ExecutionPlanSelection}

theorem StageSpec.SameShape.trans {t u : StageSpec} (h1 : s.SameShape t) (h2 : t.SameShape u) :
    s.SameShape u :=
  ⟨h2.required.trans h1.required, h2.dependencies.trans h1.dependencies,
    h2.conditionalDependencies.trans h1.conditionalDependencies,
    h2.reviewCheckpoint.trans h1.reviewCheckpoint, h2.replaySafety.trans h1.replaySafety,
    h2.finalValidation.trans h1.finalValidation, h2.handlerKey.trans h1.handlerKey,
    h2.policyConfigFingerprint.trans h1.policyConfigFingerprint⟩

/-- What a stage of a compiled plan takes from its entry in the graph. -/
structure StageSpec.From (raw : RawStage) (s : StageSpec) : Prop where
  stageId : s.stageId = raw.stageId
  required : s.required = raw.required
  dependencies : s.dependencies = raw.dependencies
  conditionalDependencies : s.conditionalDependencies = raw.conditionalDependencies.dedup
  reviewCheckpoint : s.reviewCheckpoint = raw.reviewCheckpointId
  replaySafety : s.replaySafety = .reconciliationRequiredOnUnknown
  finalValidation : s.finalValidation = decide (raw.stageId = "VALIDATION_RECONCILIATION")
  handlerKey : s.handlerKey = raw.stageId
  policyConfigFingerprint : s.policyConfigFingerprint = "step28-policy-v1"

theorem StageSpec.From.sameShape {raw : RawStage} {t : StageSpec} (hs : StageSpec.From raw s)
    (ht : StageSpec.From raw t) : s.SameShape t :=
  ⟨ht.required.trans hs.required.symm, ht.dependencies.trans hs.dependencies.symm,
    ht.conditionalDependencies.trans hs.conditionalDependencies.symm,
    ht.reviewCheckpoint.trans hs.reviewCheckpoint.symm,
    ht.replaySafety.trans hs.replaySafety.symm, ht.finalValidation.trans hs.finalValidation.symm,
    ht.handlerKey.trans hs.handlerKey.symm,
    ht.policyConfigFingerprint.trans hs.policyConfigFingerprint.symm⟩

theorem compileStages_forall₂ {decisionOf : String → Option StageSelectionDecision}
    {raws : List RawStage} {stages : List StageSpec}
    (h : compileStages decisionOf raws = .ok stages) : Forall₂ StageSpec.From raws stages := by
  induction raws generalizing stages with
  | nil => cases h; exact .nil
  | cons raw rest ih =>
    unfold compileStages at h
    split at h
    · cases hrest : compileStages decisionOf rest with
      | error e => rw [hrest] at h; cases h
      | ok tl =>
        rw [hrest] at h
        cases h
        exact .cons ⟨rfl, rfl, rfl, rfl, rfl, rfl, rfl, rfl, rfl⟩ (ih hrest)
    · cases h

theorem requested_known {runId : String} {stageIds : Option (List String)}
    (h : loaderRefusal graph runId selection stageIds = none) :
    ∀ i ∈ stageIds.getD [], i ∈ graph.stages.map (·.stageId) := by
  intro i hi
  by_contra hne
  unfold loaderRefusal at h
  rw [if_pos (by simpa using ⟨i, hi, by simpa using hne⟩)] at h
  cases h

/-- **What the loader returns**: a plan with the data it was given, whose stages
are those of the restricted graph. -/
theorem load_ok {runId planId : String} {stageIds : Option (List String)}
    {phase : ExecutionPlanPhase} {intent : Option ExecutionPlanIntent} {pending : List String}
    {revision : Nat} {guarded : Bool} {createdAt : Instant}
    (h : loadAuthoritativeExecutionPlan graph runId planId selection stageIds phase intent pending
      revision guarded createdAt = .ok p) :
    p.runId = runId ∧ p.planId = planId ∧ p.planningPhase = phase ∧ p.planningIntent = intent ∧
      p.pendingStageIds = pending ∧ p.revision = revision ∧
      (∀ i ∈ stageIds.getD [], i ∈ graph.stages.map (·.stageId)) ∧
      Forall₂ StageSpec.From (graph.restrict stageIds) p.stages := by
  unfold loadAuthoritativeExecutionPlan at h
  split at h
  · cases h
  · cases h
  · cases h
  · rename_i hnone hstages
    have hp := ExecutionPlan.validate_ok h
    rw [hp]
    exact ⟨rfl, rfl, rfl, rfl, rfl, rfl, requested_known hnone, compileStages_forall₂ hstages⟩

/-! ## The phases of a plan -/

def bootstrapStageIds : List String := ["SOURCE_DISCOVERY"]

def sourcePhaseStageIds : List String :=
  ["SOURCE_DISCOVERY", "SOURCE_SNAPSHOT_STAGE", "PROFILING", "DEPENDENCY_DISCOVERY",
    "SCHEMA_MATCHING", "QUALITY_ANALYSIS", "OPTIONAL_SEMANTIC_EVIDENCE", "LEARNED_EVIDENCE",
    "EVIDENCE_FUSION", "REVIEW_EVIDENCE_DECISIONS", "CANONICAL_HYPOTHESES"]

/-- The stages the planning service compiles in each phase; `none` is all of them. -/
def ExecutionPlanPhase.stageIds : ExecutionPlanPhase → Option (List String)
  | .bootstrap => some bootstrapStageIds
  | .sourceResolved => some sourcePhaseStageIds
  | .complete => none

def ExecutionPlan.InPhase (graph : StageGraph) (p : ExecutionPlan) : Prop :=
  p.planningPhase = .complete ∨
    Forall₂ StageSpec.From (graph.restrict p.planningPhase.stageIds) p.stages

/-- **How a stored plan may change**: a complete one not at all; else its revision grows, and no
stage is dropped or changes its shape. -/
structure ExecutionPlan.Evolves (p q : ExecutionPlan) : Prop where
  runId : q.runId = p.runId
  planId : q.planId = p.planId
  complete : p.planningPhase = .complete → q = p
  revision : q = p ∨ p.revision < q.revision
  stage : ∀ {stageId s}, p.stage stageId = some s →
    ∃ t, q.stage stageId = some t ∧ s.SameShape t

theorem ExecutionPlan.Evolves.refl (p : ExecutionPlan) : p.Evolves p :=
  ⟨rfl, rfl, fun _ => rfl, .inl rfl, fun {_ s} h => ⟨s, h, .refl s⟩⟩

theorem ExecutionPlan.Evolves.trans {q r : ExecutionPlan} (h1 : p.Evolves q) (h2 : q.Evolves r) :
    p.Evolves r where
  runId := h2.runId.trans h1.runId
  planId := h2.planId.trans h1.planId
  complete hp := by
    obtain rfl := h1.complete hp
    exact h2.complete hp
  revision := by
    rcases h1.revision with rfl | hlt
    · exact h2.revision
    rcases h2.revision with rfl | hlt'
    · exact .inr hlt
    · exact .inr (Nat.lt_trans hlt hlt')
  stage h := by
    obtain ⟨t, ht, hst⟩ := h1.stage h
    obtain ⟨u, hu, htu⟩ := h2.stage ht
    exact ⟨u, hu, hst.trans htu⟩

theorem find?_compiled {raws : List RawStage} {stages : List StageSpec}
    (h : Forall₂ StageSpec.From raws stages) (stageId : String) :
    (∃ raw s, raws.find? (·.stageId = stageId) = some raw ∧
      stages.find? (·.stageId = stageId) = some s ∧ StageSpec.From raw s) ∨
    (raws.find? (·.stageId = stageId) = none ∧ stages.find? (·.stageId = stageId) = none) := by
  induction h with
  | nil => exact .inr ⟨rfl, rfl⟩
  | @cons raw s raws stages hrs _ ih =>
    by_cases hid : raw.stageId = stageId
    · refine .inl ⟨raw, s, ?_, ?_, hrs⟩
      · exact find?_cons_of_pos (by simpa using hid)
      · exact find?_cons_of_pos (by simpa [hrs.stageId] using hid)
    · rw [find?_cons_of_neg (by simpa using hid),
        find?_cons_of_neg (by simpa [hrs.stageId] using hid)]
      exact ih

theorem StageGraph.find?_restrict (graph : StageGraph) (stageIds : Option (List String))
    (stageId : String) : (graph.restrict stageIds).find? (·.stageId = stageId) =
      if stageIds.elim true (·.contains stageId) then graph.stages.find? (·.stageId = stageId)
      else none := by
  unfold StageGraph.restrict
  induction graph.stages with
  | nil => simp
  | cons raw rest ih =>
    by_cases hid : raw.stageId = stageId
    · by_cases hin : stageIds.elim true (·.contains stageId) = true
      · rw [filter_cons_of_pos (by rw [hid]; exact hin), if_pos hin,
          find?_cons_of_pos (by simpa using hid), find?_cons_of_pos (by simpa using hid)]
      · rw [filter_cons_of_neg (by rw [hid]; exact hin), ih, if_neg hin, if_neg hin]
    · by_cases hraw : stageIds.elim true (·.contains raw.stageId) = true
      · rw [filter_cons_of_pos (by exact hraw), find?_cons_of_neg (by simpa using hid), ih,
          find?_cons_of_neg (by simpa using hid)]
      · rw [filter_cons_of_neg (by exact hraw), ih, find?_cons_of_neg (by simpa using hid)]

/-- **Plans of two phases agree on the stages they share**, and the later phase
has all the stages of the earlier one. -/
theorem stage_of_larger_phase {q : ExecutionPlan} {ids ids' : Option (List String)}
    (hp : Forall₂ StageSpec.From (graph.restrict ids) p.stages)
    (hq : Forall₂ StageSpec.From (graph.restrict ids') q.stages)
    (hsub : ∀ i, ids.elim true (·.contains i) = true → ids'.elim true (·.contains i) = true)
    {stageId : String} (h : p.stage stageId = some s) :
    ∃ t, q.stage stageId = some t ∧ s.SameShape t := by
  have hfind := graph.find?_restrict ids stageId
  have hfind' := graph.find?_restrict ids' stageId
  rcases find?_compiled hp stageId with ⟨raw, s', hraw, hs', hfrom⟩ | ⟨_, hnone⟩
  · obtain rfl : s' = s := Option.some.inj (hs'.symm.trans h)
    have hin : ids.elim true (·.contains stageId) = true := by
      by_contra hnot
      rw [hraw, if_neg hnot] at hfind
      cases hfind
    rw [hraw, if_pos hin] at hfind
    rw [if_pos (hsub stageId hin), ← hfind] at hfind'
    rcases find?_compiled hq stageId with ⟨raw', t, hraw', ht, hfrom'⟩ | ⟨hnone', _⟩
    · obtain rfl : raw' = raw := Option.some.inj (hraw'.symm.trans hfind')
      exact ⟨t, ht, hfrom.sameShape hfrom'⟩
    · rw [hfind'] at hnone'
      cases hnone'
  · cases hnone.symm.trans h

end DirtyDataOlap

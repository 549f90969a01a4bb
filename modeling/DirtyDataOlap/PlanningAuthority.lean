import DirtyDataOlap.ControlStore
import DirtyDataOlap.SortedCollections
import Mathlib.Data.String.Basic

/-!
# The planning authority

Which conditional stages a run executes is decided from artifacts that the run itself has
registered.  `TrustedExecutionPlanningState.resolve` scans them: one counts if the stage that owns
it has `SUCCEEDED` with the attempt that produced it; one that cannot be tied to the winning
attempt, or cannot be read, leaves its part of the truth unresolved.

What the scan reads of one artifact is a `PlanningReading`, and `resolveReadings` is what it
concludes, whenever each was made.  Digests are arbitrary functions, except that of the
requirements.
-/
namespace DirtyDataOlap

/-! ## Planning inputs -/

inductive EntityResolutionRequirement
  | erRequired | erNotRequired
deriving DecidableEq

/-- What planning reads of a `CanonicalModelHypothesis`. -/
structure CanonicalModelHypothesis where
  artifactId : String
  runId : String
  sourceIds : List String
  entityResolutionRequirements : List (String × EntityResolutionRequirement)
  families_unique : (entityResolutionRequirements.map Prod.fst).Nodup := by decide

/-- `TrustedExecutionPlanningState._KINDS`. -/
inductive PlanningKind
  | sourceCatalog | sourceSnapshotResult | canonicalModelHypothesis
deriving DecidableEq

namespace PlanningKind

def ofName : String → Option PlanningKind
  | "SourceCatalog" => some sourceCatalog
  | "SourceSnapshotResult" => some sourceSnapshotResult
  | "CanonicalModelHypothesis" => some canonicalModelHypothesis
  | _ => none

/-- The stage that owns the artifacts of the kind. -/
def expectedStage : PlanningKind → String
  | sourceCatalog => "SOURCE_DISCOVERY"
  | sourceSnapshotResult => "SOURCE_SNAPSHOT_STAGE"
  | canonicalModelHypothesis => "CANONICAL_HYPOTHESES"

/-- What stays unresolved without such an artifact. -/
def scope : PlanningKind → String
  | sourceCatalog | sourceSnapshotResult => "SOURCE_SCOPE"
  | canonicalModelHypothesis => "ENTITY_RESOLUTION"

end PlanningKind

/-- A decoded planning input: of a catalog or a snapshot the identity of its source. -/
inductive PlanningPayload
  | source (sourceId : String)
  | hypothesis (h : CanonicalModelHypothesis)

/-- The artifact store, with the contracts its bytes are decoded by
(`json.loads(read(ref).decode("utf-8"))` and `model_validate`). -/
structure PlanningArtifacts where
  stat : ArtifactRef → Except Exc ArtifactRef
  verify : ArtifactRef → Except Exc ArtifactIntegrityState
  /-- `source_id` of a `SourceCatalog`. -/
  sourceCatalog : ArtifactRef → Except Exc String
  /-- `snapshot.source_id` of a `SourceSnapshotResult`. -/
  sourceSnapshotResult : ArtifactRef → Except Exc String
  canonicalModelHypothesis : ArtifactRef → Except Exc CanonicalModelHypothesis

/-- What the scan reads of one listed artifact: whether its stage owns it, and its
content. -/
structure PlanningReading where
  ref : ArtifactRef
  owned : Bool
  content : Except Exc PlanningPayload

/-- `list_artifacts(run_id=…, limit=…)`. -/
def Store.listArtifacts (s : Store) (runId : String) (limit : Nat) : List ArtifactRef :=
  (sortedBy (·.artifactId) (s.artifacts.rows.filter (·.runId = runId))).take limit

def ownedBySucceededStage (s : Store) (ref : ArtifactRef) (runId : String) : Bool :=
  match s.getStageJob runId ref.stageId with
  | none => false
  | some job =>
    job.status = .succeeded && job.attemptId = some ref.attemptId &&
      job.resultRefs.contains ref.artifactId

/-- `_read`: the content of the exact registered, published and verified artifact. -/
def readPlanningInput (s : Store) (files : PlanningArtifacts) (supplied : ArtifactRef)
    (runId : String) : Except Exc PlanningPayload :=
  match s.getArtifact supplied.artifactId with
  | none => .error (.platform "planning input is not the exact registered published artifact")
  | some registered => do
    ensure (registered = supplied && registered.runId = runId &&
        registered.publicationState = .published)
      (.platform "planning input is not the exact registered published artifact")
    let stat ← files.stat registered
    ensure (stat = registered)
      (.platform "planning input failed artifact integrity verification")
    let state ← files.verify registered
    ensure (state = .verified)
      (.platform "planning input failed artifact integrity verification")
    match PlanningKind.ofName registered.artifactKind with
    | some .sourceCatalog => return .source (← files.sourceCatalog registered)
    | some .sourceSnapshotResult => return .source (← files.sourceSnapshotResult registered)
    | some .canonicalModelHypothesis =>
      return .hypothesis (← files.canonicalModelHypothesis registered)
    | none => .error .key

/-- What the scan reads of the artifacts of a run in one state of the stores. -/
def planningReadings (s : Store) (files : PlanningArtifacts) (runId : String) :
    List PlanningReading :=
  (s.listArtifacts runId 10000).map fun ref =>
    { ref
      owned := ownedBySucceededStage s ref runId
      content := readPlanningInput s files ref runId }

/-! ## `TrustedExecutionPlanningState.resolve` -/

/-- Trusted planning facts decoded from registered project artifacts. -/
structure ExecutionPlanningContext where
  runId : String
  sourceIds : List String
  sourceArtifactIds : List String
  hypothesisArtifactIds : List String
  entityResolutionRequirements : List (String × EntityResolutionRequirement)

def ExecutionPlanningContext.crossSourceMappingRequired (c : ExecutionPlanningContext) : Bool :=
  1 < c.sourceIds.length

/-- `except (KeyError, OSError, PlatformError, ValueError, …)`. -/
def Exc.isUnreadable : Exc → Bool
  | .value _ | .selection _ _ => true
  | e => e.isStorage

/-- What the scan has found so far.  `sourceIds` and `unresolved` are sets. -/
structure PlanningFindings where
  sourceIds : List String := []
  sourceArtifacts : List String := []
  hypotheses : List CanonicalModelHypothesis := []
  unresolved : List String := []

/-- `unresolved.add(…)`. -/
def PlanningFindings.leave (f : PlanningFindings) (scope : String) : PlanningFindings :=
  { f with unresolved := f.unresolved ++ [scope] }

/-- How `resolve` is called. -/
structure ResolveOptions where
  requireHypothesis : Bool := true
  requireRuntimeOwnership : Bool := true

variable (o : ResolveOptions)

/-- The kind under which the scan looks at an artifact; other artifacts are skipped. -/
def ResolveOptions.relevant (ref : ArtifactRef) : Option PlanningKind :=
  match PlanningKind.ofName ref.artifactKind with
  | none => none
  | some kind =>
    if ref.stageId ≠ kind.expectedStage then none
    else if kind = .canonicalModelHypothesis ∧ o.requireHypothesis = false then none
    else some kind

def PlanningFindings.scan (runId : String) (f : PlanningFindings) (r : PlanningReading) :
    Except Exc PlanningFindings :=
  match o.relevant r.ref with
  | none => .ok f
  | some kind =>
    if o.requireRuntimeOwnership && !r.owned then .ok (f.leave kind.scope)
    else
      match r.content with
      | .error e => if e.isUnreadable then .ok (f.leave kind.scope) else .error e
      | .ok (.source sourceId) =>
        .ok { f with
          sourceIds := f.sourceIds ++ [sourceId]
          sourceArtifacts := f.sourceArtifacts ++ [r.ref.artifactId] }
      | .ok (.hypothesis h) =>
        if h.artifactId ≠ r.ref.artifactId ∨ h.runId ≠ runId then .ok (f.leave "ENTITY_RESOLUTION")
        else .ok { f with hypotheses := f.hypotheses ++ [h] }

/-- The dictionary a digest of the requirements identifies. -/
def CanonicalModelHypothesis.requirements (h : CanonicalModelHypothesis) :
    List (String × EntityResolutionRequirement) :=
  sortedBy Prod.fst h.entityResolutionRequirements

/-- What is missing once all artifacts are scanned. -/
def PlanningFindings.missing (f : PlanningFindings) : List String :=
  f.unresolved ++ (if f.sourceIds.isEmpty then ["SOURCE_SCOPE"] else []) ++
    (if o.requireHypothesis && f.hypotheses.isEmpty then ["ENTITY_RESOLUTION"] else [])

/-- The hypotheses are about these sources, and require the same. -/
def PlanningFindings.agree (f : PlanningFindings) : Bool :=
  f.hypotheses.all (fun h => sortedSet h.sourceIds = sortedSet f.sourceIds) &&
    (f.hypotheses.map (·.requirements)).dedup.length = 1

/-- What `resolve` returns once all artifacts are scanned. -/
def PlanningFindings.conclude (runId : String) (f : PlanningFindings) :
    Option ExecutionPlanningContext × List String :=
  if !(f.missing o).isEmpty then (none, sortedSet (f.missing o))
  else if o.requireHypothesis && !f.agree then (none, ["ENTITY_RESOLUTION"])
  else
    (some {
      runId := runId
      sourceIds := sortedSet f.sourceIds
      sourceArtifactIds := sortedSet f.sourceArtifacts
      hypothesisArtifactIds := sorted (f.hypotheses.map (·.artifactId))
      -- `dict(next(iter(requirement_sets.values())))`: the last one written
      entityResolutionRequirements :=
        if o.requireHypothesis then
          (f.hypotheses.getLast?.map (·.entityResolutionRequirements)).getD []
        else [] }, [])

/-- `resolve`, on what it reads of the artifacts. -/
def resolveReadings (runId : String) (readings : List PlanningReading) :
    Except Exc (Option ExecutionPlanningContext × List String) :=
  (readings.foldlM (PlanningFindings.scan o runId) {}).map (·.conclude o runId)

/-- **`TrustedExecutionPlanningState.resolve`**: the planning facts of a run, or what is
unresolved about them. -/
def Store.resolvePlanning (s : Store) (files : PlanningArtifacts) (o : ResolveOptions)
    (run : RunRecord) : Except Exc (Option ExecutionPlanningContext × List String) :=
  resolveReadings o run.runId (planningReadings s files run.runId)

/-! ## The selection -/

/-- `POLICY_REF`. -/
def planningPolicyRef : String := "execution-plan-authority-v2"

structure SelectionDigests where
  scopeFingerprint : RunRecord → ExecutionPlanningContext → List String → String
  evidenceRef : String → String → Bool → String → ExecutionPlanningContext → String

def ExecutionPlanningContext.requiredFamilies (c : ExecutionPlanningContext) : List String :=
  sorted ((c.entityResolutionRequirements.filter (·.2 = .erRequired)).map Prod.fst)

def decisionFor (raw : RawStage) (context : ExecutionPlanningContext)
    (intent : ExecutionPlanIntent) : Bool × String :=
  if raw.stageId = "SCHEMA_MATCHING" then
    if context.crossSourceMappingRequired then
      (true, "server authority: trusted multi-source scope requires SCHEMA_MATCHING")
    else (false,
      "server authority: trusted single-source scope permits explicit SCHEMA_MATCHING exclusion")
  else if raw.stageId = "ENTITY_RESOLUTION" then
    if !context.requiredFamilies.isEmpty then
      (true, "server authority: ER_REQUIRED families require ENTITY_RESOLUTION (" ++
        ",".intercalate context.requiredFamilies ++ ")")
    else
      let selected := intent.entityResolutionRequested.getD false
      (selected, "server authority: all trusted families are ER_NOT_REQUIRED; bounded intent " ++
        (if selected then "enabled" else "excluded") ++ " ENTITY_RESOLUTION")
  else if raw.stageId = "OPTIONAL_SEMANTIC_EVIDENCE" then
    (intent.optionalSemanticEvidenceEnabled,
      "server authority: bounded optional semantic-evidence intent " ++
        (if intent.optionalSemanticEvidenceEnabled then "enabled" else "excluded"))
  else if raw.stageId = "LEARNED_EVIDENCE" then
    (intent.learnedEvidenceEnabled, "server authority: bounded learned-evidence intent " ++
      (if intent.learnedEvidenceEnabled then "enabled" else "excluded"))
  else if raw.required then
    (true, "server authority: architecture-required conditional stage is selected")
  else (false, "server authority: optional conditional stage is excluded by policy")

structure SelectionResolution where
  selection : Option ExecutionPlanSelection := none
  unresolvedStageIds : List String := []
  detail : String := ""

/-- The decisions on the conditional stages.  A reason has at most 512 characters. -/
def selectionDecisions (digests : SelectionDigests) (run : RunRecord)
    (context : ExecutionPlanningContext) (intent : ExecutionPlanIntent) (fingerprint : String) :
    List RawStage → Except Exc (List StageSelectionDecision)
  | [] => .ok []
  | raw :: rest =>
    let (selected, reason) := decisionFor raw context intent
    if 512 < reason.length then .error (.value "String should have at most 512 characters")
    else
      (selectionDecisions digests run context intent fingerprint rest).map
        ({ stageId := raw.stageId
           selected
           policyRef := planningPolicyRef
           evidenceRef := some
             (digests.evidenceRef run.runId raw.stageId selected fingerprint context)
           reason
           scope := "trusted-run-planning:" ++ run.runId
           scopeFingerprint := fingerprint } :: ·)

/-- The selection of a run whose planning facts are known.  Each conditional stage of the
requested part of the graph gets a decision, so the selection is never incomplete. -/
def compileSelection (digests : SelectionDigests) (graph : StageGraph) (run : RunRecord)
    (intent : ExecutionPlanIntent) (stageIds : Option (List String))
    (context : ExecutionPlanningContext) : Except Exc SelectionResolution :=
  if !((stageIds.getD []).all fun i => (graph.stages.map (·.stageId)).contains i) then
    .ok { unresolvedStageIds := ["PLAN_GRAPH"]
          detail := "authoritative graph selection requested an unknown stage" }
  else
    let stages := graph.restrict stageIds
    let fingerprint := digests.scopeFingerprint run context (stages.map (·.stageId))
    match selectionDecisions digests run context intent fingerprint
        (stages.filter (·.conditional)) with
    | .error e => .error e
    | .ok decisions =>
      if unique : (decisions.map (·.stageId)).Nodup then
        .ok { selection := some {
                runId := run.runId
                policyRef := planningPolicyRef
                scope := "trusted-run-planning:" ++ run.runId
                scopeFingerprint := fingerprint
                decisions
                unique }
              detail := "selection was compiled from trusted run artifacts and bounded intent" }
      else .error (.value "execution plan selection decisions must be unique by stage")

/-- **`ServerOwnedExecutionPlanSelectionResolver.resolve`**, from the outcome of the
planning state: it decides only what the run's own artifacts tell. -/
def resolveSelection (digests : SelectionDigests) (graph : StageGraph) (run : RunRecord)
    (intent : ExecutionPlanIntent) (stageIds : Option (List String)) :
    Option ExecutionPlanningContext × List String → Except Exc SelectionResolution
  | (none, unresolved) => .ok
    { unresolvedStageIds := unresolved
      detail := "trusted planning inputs are unavailable; selection authority will not guess" }
  | (some context, _) => compileSelection digests graph run intent stageIds context

end DirtyDataOlap

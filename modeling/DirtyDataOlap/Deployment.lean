import DirtyDataOlap.AdvanceRules

/-!
# The deployed control plane

The stage graph of `docs/architecture/specs/stage_graph.yml`, as the loader reads
it, and an identity function for `stable_id` that keeps apart what a digest keeps
apart.  `deployment` is the control plane that concrete schedules run on.
-/
namespace DirtyDataOlap

/-- `docs/architecture/specs/stage_graph.yml`. -/
def runtimeStageGraph : StageGraph where
  stages :=
    [{ stageId := "SOURCE_DISCOVERY" },
      { stageId := "SOURCE_SNAPSHOT_STAGE", dependencies := ["SOURCE_DISCOVERY"] },
      { stageId := "PROFILING", dependencies := ["SOURCE_SNAPSHOT_STAGE"] },
      { stageId := "DEPENDENCY_DISCOVERY"
        dependencies := ["SOURCE_SNAPSHOT_STAGE"]
        optionalDependencies := ["PROFILING"] },
      { stageId := "SCHEMA_MATCHING"
        required := false
        conditional := true
        dependencies := ["SOURCE_SNAPSHOT_STAGE", "PROFILING"]
        optionalDependencies := ["DEPENDENCY_DISCOVERY"] },
      { stageId := "QUALITY_ANALYSIS", dependencies := ["SOURCE_SNAPSHOT_STAGE", "PROFILING"] },
      { stageId := "OPTIONAL_SEMANTIC_EVIDENCE"
        required := false
        conditional := true
        dependencies := ["SOURCE_SNAPSHOT_STAGE", "PROFILING"] },
      { stageId := "LEARNED_EVIDENCE"
        required := false
        conditional := true
        dependencies := ["SOURCE_SNAPSHOT_STAGE", "PROFILING", "DEPENDENCY_DISCOVERY"]
        optionalDependencies := ["SCHEMA_MATCHING", "QUALITY_ANALYSIS"] },
      { stageId := "EVIDENCE_FUSION"
        dependencies := ["PROFILING", "DEPENDENCY_DISCOVERY", "QUALITY_ANALYSIS"]
        optionalDependencies :=
          ["SCHEMA_MATCHING", "OPTIONAL_SEMANTIC_EVIDENCE", "LEARNED_EVIDENCE"]
        conditionalDependencies := ["SCHEMA_MATCHING"] },
      { stageId := "REVIEW_EVIDENCE_DECISIONS"
        conditional := true
        dependencies := ["EVIDENCE_FUSION"]
        reviewCheckpointId := some .reviewEvidenceDecisions },
      { stageId := "CANONICAL_HYPOTHESES"
        dependencies := ["EVIDENCE_FUSION", "REVIEW_EVIDENCE_DECISIONS"]
        requiredReviewCheckpoint := some .reviewEvidenceDecisions },
      { stageId := "ENTITY_RESOLUTION"
        required := false
        conditional := true
        dependencies := ["CANONICAL_HYPOTHESES"] },
      { stageId := "CANONICAL_IDENTITY_PREPARATION"
        conditional := true
        dependencies := ["CANONICAL_HYPOTHESES"]
        optionalDependencies := ["ENTITY_RESOLUTION"]
        conditionalDependencies := ["ENTITY_RESOLUTION", "ENTITY_RESOLUTION"] },
      { stageId := "REVIEW_CANONICAL_IDENTITY"
        conditional := true
        dependencies := ["CANONICAL_IDENTITY_PREPARATION"]
        conditionalDependencies :=
          ["CANONICAL_IDENTITY_PREPARATION", "CANONICAL_IDENTITY_PREPARATION"]
        reviewCheckpointId := some .reviewCanonicalIdentity },
      { stageId := "CANONICAL_FINALIZATION"
        dependencies :=
          ["CANONICAL_HYPOTHESES", "CANONICAL_IDENTITY_PREPARATION", "REVIEW_CANONICAL_IDENTITY"]
        optionalDependencies := ["ENTITY_RESOLUTION"]
        conditionalDependencies := ["ENTITY_RESOLUTION", "ENTITY_RESOLUTION"]
        requiredReviewCheckpoint := some .reviewCanonicalIdentity },
      { stageId := "ANALYTICAL_PLANNING", dependencies := ["CANONICAL_FINALIZATION"] },
      { stageId := "REVIEW_ANALYTICAL_PLAN"
        conditional := true
        dependencies := ["ANALYTICAL_PLANNING"]
        reviewCheckpointId := some .reviewAnalyticalPlan },
      { stageId := "COMPILATION"
        dependencies := ["ANALYTICAL_PLANNING", "REVIEW_ANALYTICAL_PLAN"]
        requiredReviewCheckpoint := some .reviewAnalyticalPlan },
      { stageId := "REVIEW_MATERIALIZATION_PLAN"
        conditional := true
        dependencies := ["COMPILATION"]
        reviewCheckpointId := some .reviewMaterializationPlan },
      { stageId := "MATERIALIZATION"
        dependencies := ["COMPILATION", "REVIEW_MATERIALIZATION_PLAN"]
        requiredReviewCheckpoint := some .reviewMaterializationPlan },
      { stageId := "SEMANTIC_MODELING", dependencies := ["ANALYTICAL_PLANNING", "MATERIALIZATION"] },
      { stageId := "VALIDATION_RECONCILIATION"
        dependencies := ["MATERIALIZATION", "SEMANTIC_MODELING", "ANALYTICAL_PLANNING",
          "CANONICAL_FINALIZATION"] }]

/-- An identity for every key. -/
def spelledId : StableKey → String
  | .job commandId => "job-" ++ commandId
  | .stageJob runId _ stageId => "stage-job-" ++ runId ++ "-" ++ stageId
  | .stageAttempt jobId _ attemptNumber => "attempt-" ++ jobId ++ "-" ++ toString attemptNumber
  | .stageRequest jobId attemptId => "request-" ++ jobId ++ "-" ++ attemptId
  | .cancelToken runId jobId generation =>
    "cancel-" ++ runId ++ "-" ++ jobId ++ "-" ++ toString generation
  | .executionPlan runId => "execution-plan-" ++ runId

/-- The control plane as it is deployed. -/
def deployment : Env := ⟨spelledId, runtimeStageGraph⟩

def sampleRun : RunRecord where
  runId := "run-1"
  projectId := "project-1"
  createdAt := 0
  configurationFingerprint := "configuration-1"

def samplePlanData (stages : List StageSpec) : PlanData where
  planId := "plan-1"
  runId := "run-1"
  stages := stages
  createdAt := 0

def sampleStage (stageId : String) (dependencies : List String) : StageSpec where
  stageId := stageId
  dependencies := dependencies
  handlerKey := stageId

def samplePlan : ExecutionPlan where
  toPlanData := samplePlanData [sampleStage "PROFILING" []]
  valid := by decide

def sampleCommand (commandId : String) (action : ExecutionAction) (createdAt : Instant) :
    ExecutionCommand where
  commandId := commandId
  runId := "run-1"
  action := action
  requestFingerprint := "fingerprint-1"
  principalSource := "operator"
  createdAt := createdAt

def submission (plan : ExecutionPlan) : List Move :=
  [.client (.createRun sampleRun), .client (.registerPlan plan),
    .client (.submitCommand (sampleCommand "submit" .submit 0))]

/-- Iteration `i` performs its next `n` actions. -/
def steps (i n : Nat) (ω : Input) : List Move := List.replicate n (.step i ω)

end DirtyDataOlap

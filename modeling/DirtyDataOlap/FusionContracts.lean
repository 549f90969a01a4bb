import DirtyDataOlap.CanonicalContracts
import DirtyDataOlap.Decimals

/-!
# The contracts of evidence fusion

The records of `domain/contracts/evidence_fusion.py`, and what fusion reads of the producers'
results, over numbers of any type with the arithmetic that the code uses.  An optional text that the
code only tests for truth is empty when it is absent.
-/
namespace DirtyDataOlap.Fusion

open Canonical (DecisionState)

/-- What fusion uses of `float`. -/
class ScoreArithmetic (R : Type) extends
    Zero R, One R, NatCast R, Add R, Sub R, Mul R, Div R, Neg R, LE R where
  decEq : DecidableEq R
  decLe : DecidableLE R
  /-- `round(x, 12)`. -/
  round12 : R → R

attribute [reducible, instance] ScoreArithmetic.decEq ScoreArithmetic.decLe

/-- `round(x, 12)` on rationals. -/
def roundRational (x : ℚ) : ℚ :=
  let scaled := x * 10 ^ 12
  let rounded := (Dec.roundHalfEven scaled.num.natAbs scaled.den : ℚ) / 10 ^ 12
  if scaled.num < 0 then -rounded else rounded

/-- The arithmetic read as exact rationals. -/
instance : ScoreArithmetic ℚ where
  decEq := inferInstance
  decLe := inferInstance
  round12 := roundRational

/-- What a decision is about. -/
inductive FusionSubjectKind
  | relationship | mapping
deriving DecidableEq

/-- Who produced a piece of evidence. -/
inductive EvidenceFamily
  | profile | quality | dependency | schemaMatching | declaredConstraint | domainAssertion
  | appliedMl | semanticAi | candidateContainer
deriving DecidableEq

/-- The value of the family in a record. -/
def EvidenceFamily.value : EvidenceFamily → String
  | .profile => "PROFILE"
  | .quality => "QUALITY"
  | .dependency => "DEPENDENCY"
  | .schemaMatching => "SCHEMA_MATCHING"
  | .declaredConstraint => "DECLARED_CONSTRAINT"
  | .domainAssertion => "DOMAIN_ASSERTION"
  | .appliedMl => "APPLIED_ML"
  | .semanticAi => "SEMANTIC_AI"
  | .candidateContainer => "CANDIDATE_CONTAINER"

theorem EvidenceFamily.value_injective : Function.Injective EvidenceFamily.value := by
  intro a b h
  cases a <;> cases b <;> first | rfl | (exfalso; revert h; decide)

/-- What kind of statement a piece of evidence is. -/
inductive EvidenceRole
  | directObservation | declaredMetadata | humanOrDomainAssertion | derivedInterpretation
  | hypothesisContainer
deriving DecidableEq

/-- Whether a metric was observed, and if not, why. -/
inductive EvidencePresenceState
  | observed | notObserved | notConfigured | skipped | unavailable | failed | privacyBlocked
  | incomplete
deriving DecidableEq

/-- Which way a piece of evidence points. -/
inductive EvidenceDirection
  | supports | contradicts | context
deriving DecidableEq

/-- How much of the data an observation covers. -/
inductive EvidenceReliabilityState
  | full | bounded | sampled | nullReduced | temporallyUnaligned | incomplete | unknown
deriving DecidableEq

/-- Whether the evidence belongs to a snapshot. -/
inductive FusionSnapshotBinding
  | observation | notApplicableSchemaMetadata
deriving DecidableEq

/-- How a producer ended. -/
inductive ProducerResultState
  | complete | incomplete | failed | skipped | unavailable | privacyBlocked | notConfigured
deriving DecidableEq

/-- Whether the weights of a policy were ever evaluated. -/
inductive FusionPolicyStatus
  | uncalibrated | evaluatedReviewOnly | calibratedAutomationAllowed
deriving DecidableEq

/-- The band of a score. -/
inductive ConfidenceBand
  | high | medium | low | conflicted | insufficient

/-- How two pieces of evidence can disagree. -/
inductive ConflictType
  | semanticStructuralConflict | declaredDataConflict | typeSemanticConflict
  | sampleFullscanConflict | multipleTargetAmbiguity
deriving DecidableEq

/-- Why a fusion is not complete. -/
inductive FusionFailureKind
  | inputIncomplete | requiredProducerFailed | evidenceIdCollision | subjectBindingError
  | snapshotScopeMismatch | staleEvidence | policyInvalid | unsupportedScoreSemantics
  | boundedInputDiscarded
deriving DecidableEq

/-- The completeness of a result. -/
inductive EvidenceFusionCompleteness
  | completeReviewReady | incompleteRequiredEvidence | failed
deriving DecidableEq

/-- How a metric is brought into `[-1, 1]`. -/
structure FusionNormalizationRule where
  ruleId : String
  metricNames : List String
  (method version : String)

/-- One weighted dimension of the score. -/
structure FusionScoringDimension (R : Type) where
  dimensionId : String
  metricNames : List String
  weight : R
  (normalizationRuleId dependencyGroup : String)
  required : Bool := false

/-- The range of scores of one band. -/
structure FusionBandPolicy (R : Type) where
  band : ConfidenceBand
  minimum : Option R := none
  maximum : Option R := none

/-- When evidence of one kind counts as a conflict. -/
structure FusionConflictRule (R : Type) where
  ruleId : String
  conflictType : ConflictType
  threshold : Option R := none
  semantics : String
  eligibleMetricNames : List String := []
  eligibleFamilies : List EvidenceFamily := []

/-- What may happen without a reviewer. -/
structure FusionAutomationPolicy where
  enabled : Bool := false
  autoAccept : Bool := false
  autoReject : Bool := false
  requiresG5 : Bool := true

/-- A fusion policy, whole. -/
structure FusionPolicyReference (R : Type) where
  (policyId version : String)
  status : FusionPolicyStatus
  scoreSemantics : String := "UNCALIBRATED_DECISION_SCORE"
  automationEnabled : Bool := false
  autoAcceptEnabled : Bool := false
  autoRejectEnabled : Bool := false
  requiresG5ForAutomation : Bool := true
  automation : FusionAutomationPolicy := {}
  contentHash : String
  subjectKind : Option FusionSubjectKind := none
  normalizationRules : List FusionNormalizationRule := []
  scoringDimensions : List (FusionScoringDimension R) := []
  bandPolicy : List (FusionBandPolicy R) := []
  conflictRules : List (FusionConflictRule R) := []
  requiredProducerFamilies : List EvidenceFamily := []
  crossSourceMappingRequiresSchemaMatching : Bool := true

/-- `{item.rule_id: item for item in self.normalization_rules}.get(rule_id)`. -/
def FusionPolicyReference.rule {R : Type} (policy : FusionPolicyReference R) (ruleId : String) :
    Option FusionNormalizationRule :=
  getItem (policy.normalizationRules.map fun r => (r.ruleId, r)) ruleId

/-- `enforce_g5_boundary`: what the contract of a policy accepts. -/
def FusionPolicyReference.accepted {R : Type} (policy : FusionPolicyReference R) : Bool :=
  policy.status = .uncalibrated &&
  !(policy.automationEnabled || policy.autoAcceptEnabled || policy.autoRejectEnabled ||
    policy.automation.enabled || policy.automation.autoAccept || policy.automation.autoReject) &&
  ["UNCALIBRATED_DECISION_SCORE", "UNCALIBRATED_RANKING_SCORE"].contains policy.scoreSemantics &&
  decide (policy.scoringDimensions.map (·.dimensionId)).Nodup &&
  policy.scoringDimensions.all fun dimension =>
    match policy.rule dimension.normalizationRuleId with
    | none => false
    | some rule => dimension.metricNames.all rule.metricNames.contains

/-- How one producer ended, and on which snapshots. -/
structure ProducerEvidenceStatus where
  producerId : String
  family : EvidenceFamily
  state : ProducerResultState
  resultId : String
  detail : String := ""
  inputFingerprint : Option String := none
  sourceIds : List String := []
  snapshotBySource : List (String × String) := []
deriving DecidableEq

/-- A result that a request expects. -/
structure ExpectedProducerResult where
  family : EvidenceFamily
  (producerId resultId : String)
  sourceIds : List String := []
  snapshotBySource : List (String × String) := []

/-- One piece of evidence as a producer gives it. -/
structure FusionEvidenceItem (R : Type) where
  (evidenceId subjectId producerId : String)
  family : EvidenceFamily
  role : EvidenceRole := .directObservation
  metricName : String
  metricValue : Option R := none
  metricSemantics : String
  direction : EvidenceDirection := .supports
  presence : EvidencePresenceState := .observed
  scopeId : String
  observationScope : EvidenceReliabilityState := .unknown
  sourceIds : List String := []
  snapshotIds : List String := []
  snapshotBySource : List (String × String) := []
  snapshotBinding : FusionSnapshotBinding := .observation
  derivedFromRefs : List String := []
  correlationGroup : String
  dependencyGroup : Option String := none
  scoreDimensionId : Option String := none
  scoreBearing : Bool := true
  qualitativeText : Option String := none
deriving DecidableEq

/-- One piece of evidence as the score reads it. -/
structure NormalizedEvidenceSignal (R : Type) where
  (signalId subjectId evidenceId producerId : String)
  family : EvidenceFamily
  role : EvidenceRole
  rawMetricName : String
  rawMetricValue : Option R
  (rawMetricSemantics normalizationMethod : String)
  normalizedValue : Option R
  direction : EvidenceDirection
  presence : EvidencePresenceState
  reliability : EvidenceReliabilityState
  scopeId : String
  (sourceIds snapshotIds : List String)
  snapshotBySource : List (String × String)
  snapshotBinding : FusionSnapshotBinding
  derivedFromRefs : List String
  correlationGroup : String
  (dependencyGroup scoreDimensionId : Option String)
  scoreBearing : Bool

/-- A reason why the fusion is incomplete or failed. -/
structure FusionFailure where
  failureId : String
  kind : FusionFailureKind
  detail : String
  subjectId : Option String := none
  evidenceRefs : List String := []

/-- Evidence on both sides of one question. -/
structure Conflict where
  conflictId : String
  conflictType : ConflictType
  subjectId : String
  (supportingEvidenceRefs contradictingEvidenceRefs : List String)
  (explanation policyRule scopeId : String)

/-! ## What the producers supply -/

/-- A relationship candidate.  `otherFields` is the rest of its dump. -/
structure RelationshipCandidate where
  candidateId : String
  sourceId : String := ""
  snapshotId : String := ""
  fromTable : String
  fromColumns : List String
  toTable : String
  toColumns : List String
  proposedCardinality : Option String := none
  otherFields : String := ""

/-- A mapping candidate.  `otherFields` is the rest of its dump. -/
structure MappingCandidate where
  (candidateId sourceId sourceColumnId targetSourceId targetColumnId : String)
  snapshotId : String := ""
  sourceSnapshotId : String := ""
  targetSnapshotId : String := ""
  sourceTableId : String := ""
  targetTableId : String := ""
  otherFields : String := ""

/-- The observation scope of a result.  `snapshotIds` is absent where it is not a dictionary. -/
structure ResultScope where
  sourceIds : Option (List String) := none
  snapshotIds : Option (List (String × String)) := none
  sourceId : String := ""
  snapshotId : String := ""

/-- The attributes of a producer result that its status is read from. -/
structure ResultHeader where
  /-- The name of `status`, or of `completeness`. -/
  state : String
  requestId : String := ""
  profileRequestId : String := ""
  qualityRunId : String := ""
  sourceId : String := ""
  snapshotId : String := ""
  observationScope : Option ResultScope := none
  requestSourceId : String := ""
  requestSnapshotId : String := ""
  contentDigest : String

/-- A table or a column profile.  `summary` is its dumped summary. -/
structure ObservedProfile where
  (profileId sourceId snapshotId tableId : String)
  columnId : Option String := none
  (complete observed fullMode : Bool)
  summary : String

/-- The profiles of tables and columns. -/
structure ProfileResult where
  header : ResultHeader
  tables : List ObservedProfile := []
  columns : List ObservedProfile := []

/-- A quality issue.  `summary` is its dumped summary. -/
structure QualityIssue (R : Type) where
  (issueId issueType sourceId snapshotId tableId : String)
  columnIds : List String
  affectedRatio : Option R
  (measurementSemantics status : String)
  fullyObserved : Bool
  (evidenceRefs declaredConstraintRefs domainAssertionRefs repairProposalRefs : List String)
  summary : String

/-- A repair that the quality analysis proposes. -/
structure RepairProposal where
  (proposalId tableId : String)
  columnIds : List String

/-- One evaluated quality rule. -/
structure RuleEvaluation where
  (applicability measurementSemantics : String)

/-- The summary of one quality dimension. -/
structure DimensionSummary where
  (status measurementSemantics : String)

/-- A quality analysis, as far as fusion reads it. -/
structure QualityResult (R : Type) where
  header : ResultHeader
  (qualityRunId sourceId snapshotId : String)
  issues : List (QualityIssue R) := []
  repairProposals : List RepairProposal := []
  ruleEvaluations : List RuleEvaluation := []
  dimensionSummaries : List DimensionSummary := []

/-- A measured inclusion dependency. -/
structure InclusionDependency (R : Type) where
  (evidenceId sourceId snapshotId leftTableId : String)
  leftColumns : List String
  rightTableId : String
  rightColumns : List String
  completeByTable : Bool
  (coverageRatio violationRatio targetUniquenessRatio : R)
  (typeCompatible lowCardinalityRisk : Bool)

/-- A relationship candidate with the provider's own measurements. -/
structure MeasuredCandidate (R : Type) extends RelationshipCandidate where
  evidenceRefs : List String
  (sourceOrphanRatio targetUniquenessRatio : R)
  typeCompatible : Bool

/-- A dependency discovery, as far as fusion reads it. -/
structure DependencyResult (R : Type) where
  header : ResultHeader
  inclusionDependencies : List (InclusionDependency R) := []
  relationshipCandidates : List (MeasuredCandidate R) := []
  completeByTable : Bool := true

/-- The score of one matcher for a pair of columns. -/
structure MatcherScore where
  (scoreId matcherId matcherName : String)
  rank : Nat
  (sourceColumnId targetColumnId : String)
  reducedScope : Bool

/-- A structural signal of the matcher. -/
structure SchemaSignal (R : Type) where
  (signalId family : String)
  value : Option R
  semantics : String
  evidenceRefs : List String

/-- A mapping candidate with the scores and signals behind it. -/
structure MatchedCandidate extends MappingCandidate where
  (scoreRefs signalRefs : List String)
  snapshotIds : List (String × String)
  reducedScope : Bool

/-- A schema matching, as far as fusion reads it. -/
structure SchemaMatchResult (R : Type) where
  header : ResultHeader
  candidates : List MatchedCandidate := []
  scores : List MatcherScore := []
  signals : List (SchemaSignal R) := []

/-- The score that a trained ranker gave a candidate. -/
structure LearnedRankingEvidence (R : Type) where
  (evidenceId candidateId modelId : String)
  rankingScore : R
  inputEvidenceRefs : List String := []

/-- The answers of the ranker. -/
structure AppliedMLResult (R : Type) where
  header : ResultHeader
  learnedEvidence : List (LearnedRankingEvidence R) := []

/-- What a language model says about a subject. -/
inductive SemanticHypothesisKind
  | supportsHypothesis | contradictsHypothesis | ambiguous | insufficientContext

/-- One statement of a language model. -/
structure SemanticHypothesis where
  hypothesisId : String
  kind : SemanticHypothesisKind
  statement : String

/-- The statements of a language model about some subjects. -/
structure LLMEvidence where
  evidenceId : String
  subjectRefs : List String
  hypotheses : List SemanticHypothesis
  inputFingerprint : String
  allowedProviderEvidenceRefs : List String := []

/-- Whether semantic support was available. -/
inductive SemanticSupportState
  | candidateOnly | skipped | unavailable | privacyBlocked | failed

/-- The answer of the semantic support. -/
structure SemanticEvidenceResult where
  requestId : String
  state : SemanticSupportState
  evidence : Option LLMEvidence := none
  failureDetail : Option String := none

/-- `SemanticEvidenceResult | LLMEvidence`. -/
inductive SemanticInput
  | result (result : SemanticEvidenceResult)
  | evidence (evidence : LLMEvidence)

/-- A key that a source declares. -/
structure DeclaredConstraintInput where
  (constraintId constraintType sourceId : String)
  snapshotId : Option String := none
  fromTable : String
  fromColumns : List String
  toTable : String
  toColumns : List String
  scopeId : String
  snapshotBinding : FusionSnapshotBinding := .notApplicableSchemaMetadata

/-- `DeclaredConstraint` of a source catalog; `contentDigest` is the digest of its dump. -/
structure CatalogConstraint where
  (constraintType sourceId tableId : String)
  columns : List String
  (referencedTableId referencedTableName : Option String)
  referencedColumns : List String
  contentDigest : String

/-- A declared constraint, typed or as the catalog has it. -/
inductive DeclaredInput
  | typed (constraint : DeclaredConstraintInput)
  | catalog (constraint : CatalogConstraint)

/-- A statement of a person about a subject. -/
structure DomainAssertion where
  (assertionId subjectId statement : String)
  sourceIds : List String := []
  snapshotIds : List String := []
  scopeId : String

/-- An upstream subject and the subject it is here. -/
structure FusionSubjectBinding where
  (upstreamSubjectRef candidateId fusionSubjectId : String)

/-! ## Request, inputs and result -/

/-- What is to be fused, and within which bounds. -/
structure EvidenceFusionRequest (R : Type) where
  (requestId executionContextId : String)
  crossSourceMappingScope : Bool := false
  relationshipCandidateIds : List String := []
  mappingCandidateIds : List String := []
  subjectKind : Option FusionSubjectKind := none
  fusionContractVersion : String := "step17-fusion-v2"
  policy : FusionPolicyReference R
  expectedProducerResultIds : List (String × String) := []
  expectedProducerResults : List ExpectedProducerResult := []
  maxRelationshipCandidates : Nat := 2000
  maxMappingCandidates : Nat := 2000
  maxEvidencePerSubject : Nat := 128
  maxConflictsPerSubject : Nat := 32
  maxTotalDecisions : Nat := 4000

/-- `one_subject_kind`, and the contract of the policy. -/
def EvidenceFusionRequest.accepted {R : Type} (request : EvidenceFusionRequest R) : Bool :=
  let inferred := if request.mappingCandidateIds = [] then FusionSubjectKind.relationship else .mapping
  let named := request.relationshipCandidateIds ++ request.mappingCandidateIds
  (request.relationshipCandidateIds = [] || request.mappingCandidateIds = []) &&
  (request.subjectKind.all (· = inferred) || named = []) &&
  !(request.crossSourceMappingScope && request.relationshipCandidateIds ≠ []) &&
  request.policy.accepted

/-- What `fuse` is given: each list is the supplied one and the keyword argument's. -/
structure EvidenceFusionInputs (R : Type) where
  producerStatuses : List ProducerEvidenceStatus := []
  evidenceItems : List (FusionEvidenceItem R) := []
  relationshipCandidates : List RelationshipCandidate := []
  mappingCandidates : List MappingCandidate := []
  declaredConstraints : List DeclaredInput := []
  catalogConstraints : List DeclaredInput := []
  domainAssertions : List DomainAssertion := []
  profileResults : List ProfileResult := []
  qualityResults : List (QualityResult R) := []
  dependencyResults : List (DependencyResult R) := []
  schemaMatchResults : List (SchemaMatchResult R) := []
  appliedMlResults : List (AppliedMLResult R) := []
  semanticResults : List SemanticInput := []
  subjectBindings : List FusionSubjectBinding := []

/-- The score of a subject with all that went into it. -/
structure FusionScore (R : Type) where
  value : Option R
  scoreSemantics : String
  (eligibleWeight observedWeight evidenceCoverage : R)
  sufficient : Bool
  contributions : List (String × R)

/-- What the decisions of both kinds hold. -/
structure FusionDecision (R : Type) where
  (decisionId candidateId subjectId : String)
  score : FusionScore R
  confidenceBand : ConfidenceBand
  decisionState : DecisionState
  policy : FusionPolicyReference R
  (supportingSignalRefs contradictingSignalRefs missingEvidenceRefs : List String)
  (unavailableEvidenceRefs conflictRefs : List String)
  inputEvidenceFingerprint : String

/-- A decision on a foreign key. -/
structure RelationshipDecision (R : Type) extends FusionDecision R where
  fromTable : String
  fromColumns : List String
  toTable : String
  toColumns : List String
  proposedCardinality : String

/-- A decision on two columns that may mean the same. -/
structure SemanticMappingDecision (R : Type) extends FusionDecision R where
  (sourceId sourceColumnId targetSourceId targetColumnId : String)

/-- All the evidence behind one decision. -/
structure EvidenceBundle (R : Type) where
  (bundleId subjectId : String)
  subjectKind : FusionSubjectKind
  hypothesis : String
  signals : List (NormalizedEvidenceSignal R)
  (missingEvidenceRefs unavailableEvidenceRefs : List String)

/-- The result of `fuse`. -/
structure EvidenceFusionResult (R : Type) where
  request : EvidenceFusionRequest R
  relationships : List (RelationshipDecision R)
  mappings : List (SemanticMappingDecision R)
  conflicts : List Conflict
  bundles : List (EvidenceBundle R)
  signals : List (NormalizedEvidenceSignal R)
  forwardedRepairProposalRefs : List String
  failures : List FusionFailure
  completeness : EvidenceFusionCompleteness
  policy : FusionPolicyReference R

/-- The decisions of both kinds. -/
def EvidenceFusionResult.decisions {R : Type} (result : EvidenceFusionResult R) :
    List (FusionDecision R) :=
  result.relationships.map (·.toFusionDecision) ++ result.mappings.map (·.toFusionDecision)

/-- A candidate of either kind. -/
inductive FusionCandidate
  | relationship (candidate : RelationshipCandidate)
  | mapping (candidate : MappingCandidate)

/-- The material inputs of a decision besides its signals and policy. -/
structure DecisionContext where
  candidate : FusionCandidate
  competitors : List String
  statuses : List ProducerEvidenceStatus
  missing : List String
  fusionContractVersion : String

/-- What `stable_digest` is applied to. -/
inductive Digested (R : Type)
  | text (value : String)
  | texts (values : List String)
  | observation (subject : String) (snapshots : List (String × String))
  | status (status : ProducerEvidenceStatus)
  | statusKey (family resultId : String) (snapshots : List (String × String))
  | expected (expected : ExpectedProducerResult)
  | expectedId (family resultId : String)
  | signal (evidenceId subject metric : String)
  | conflict (subject : String) (type : ConflictType) (refs : List String)
  | bundle (subject : String) (signalIds missing unavailable : List String)
  | decisionInput (subject : String) (signals : List (NormalizedEvidenceSignal R))
      (policy : FusionPolicyReference R) (context : DecisionContext)
  | decision (subject input policyId version contentHash : String)

/-- `stable_digest`, a parameter of the model. -/
abbrev FusionDigest (R : Type) := Digested R → String

/-- `digest[:n]`. -/
def shortDigest {R : Type} (digest : FusionDigest R) (n : Nat) (value : Digested R) : String :=
  String.ofList ((digest value).toList.take n)

/-- `text.lower()`. -/
def lower (text : String) : String := text.map Char.toLower

end DirtyDataOlap.Fusion

import Mathlib.Data.Prod.Lex
import DirtyDataOlap.FusionContracts

/-!
# From producer results to evidence items

How fusion reads its inputs: the status of each producer result, the candidates' subjects, and the
evidence items.
-/
namespace DirtyDataOlap.Fusion

open Prod String

/-- What `fuse` raises: an error of contract validation. -/
inductive FusionExc
  | validation (contract : String)

/-- A contract of pydantic that holds or raises. -/
def require (condition : Bool) (contract : String) : Except FusionExc Unit :=
  if condition then .ok () else .error (.validation contract)

@[simp] theorem require_eq_ok {b : Bool} {contract : String} {u : Unit} :
    require b contract = .ok u ↔ b = true := by
  unfold require
  split <;> simp_all

variable {R : Type}

section

variable (item : FusionEvidenceItem R)

/-- The texts of an item that may not be blank. -/
def FusionEvidenceItem.texts : List String :=
  [item.evidenceId, item.subjectId, item.producerId, item.metricName, item.metricSemantics,
    item.scopeId, item.correlationGroup]

/-- The contract of a `FusionEvidenceItem`. -/
def FusionEvidenceItem.wellFormed : Bool := item.texts.all (· ≠ "")

/-- The contract of an item. -/
def checkItem : Except FusionExc (FusionEvidenceItem R) := do
  require item.wellFormed "FusionEvidenceItem"
  pure item

end

/-- Build some items. -/
def checkItems (items : List (FusionEvidenceItem R)) :
    Except FusionExc (List (FusionEvidenceItem R)) :=
  items.mapM checkItem

/-- The contract of a producer status. -/
def checkStatus (status : ProducerEvidenceStatus) : Except FusionExc ProducerEvidenceStatus := do
  require (status.producerId ≠ "" && status.resultId ≠ "") "ProducerEvidenceStatus"
  pure status

/-- `_relationship_subject`: the endpoints, glued together. -/
def RelationshipCandidate.subject (item : RelationshipCandidate) : String :=
  "rel:" ++ item.fromTable ++ ":" ++ intercalate "," item.fromColumns ++ "->" ++
    item.toTable ++ ":" ++ intercalate "," item.toColumns

/-- `_mapping_subject`: the endpoints in a fixed order. -/
def MappingCandidate.subject (item : MappingCandidate) : String :=
  let left := toLex (item.sourceId, item.sourceColumnId)
  let right := toLex (item.targetSourceId, item.targetColumnId)
  "map:" ++ intercalate "<->"
    ((sorted [left, right]).map fun part => (ofLex part).1 ++ ":" ++ (ofLex part).2)

/-- The snapshot on the source side; an older field stands in for it. -/
def MappingCandidate.sourceSnapshot (item : MappingCandidate) : String :=
  if item.sourceSnapshotId ≠ "" then item.sourceSnapshotId else item.snapshotId

variable (relationships : List RelationshipCandidate) (mappings : List MappingCandidate)

/-- The subject of every candidate, by candidate id. -/
def candidateSubjects : List (String × String) :=
  dictOf (relationships.map (fun item => (item.candidateId, item.subject)) ++
    mappings.map fun item => (item.candidateId, item.subject))

/-- One end of a candidate. -/
structure Endpoint where
  sourceId : String
  snapshotId : String
  tableId : String
  columnIds : List String

/-- The endpoints of every subject. -/
def candidateTopologies : List (String × List Endpoint) :=
  dictOf (relationships.map (fun item => (item.subject,
      [⟨item.sourceId, item.snapshotId, item.fromTable, item.fromColumns⟩,
        ⟨item.sourceId, item.snapshotId, item.toTable, item.toColumns⟩])) ++
    mappings.map fun item => (item.subject,
      [⟨item.sourceId, item.sourceSnapshot, item.sourceTableId, [item.sourceColumnId]⟩,
        ⟨item.targetSourceId, item.targetSnapshotId, item.targetTableId, [item.targetColumnId]⟩]))

/-- A candidate is itself context, without a score. -/
def relationshipContainer (item : RelationshipCandidate) : FusionEvidenceItem R where
  evidenceId := "candidate:" ++ item.candidateId
  subjectId := item.subject
  producerId := "dependency"
  family := .candidateContainer
  role := .hypothesisContainer
  metricName := "relationship_candidate"
  metricSemantics := "candidate wrapper; never independently scored"
  direction := .context
  scopeId := if item.snapshotId ≠ "" then item.snapshotId else "candidate"
  observationScope := .bounded
  sourceIds := if item.sourceId ≠ "" then [item.sourceId] else []
  snapshotIds := if item.snapshotId ≠ "" then [item.snapshotId] else []
  snapshotBySource :=
    if item.sourceId ≠ "" && item.snapshotId ≠ "" then [(item.sourceId, item.snapshotId)] else []
  correlationGroup := "candidate:" ++ item.candidateId
  scoreBearing := false

/-- The snapshots of a mapping, by source. -/
def MappingCandidate.snapshotMap (item : MappingCandidate) : List (String × String) :=
  dictOf ((if item.sourceSnapshot ≠ "" then [(item.sourceId, item.sourceSnapshot)] else []) ++
    if item.targetSnapshotId ≠ "" then [(item.targetSourceId, item.targetSnapshotId)] else [])

/-- The same for a mapping candidate. -/
def mappingContainer (item : MappingCandidate) : FusionEvidenceItem R where
  evidenceId := "candidate:" ++ item.candidateId
  subjectId := item.subject
  producerId := "schema-matching"
  family := .candidateContainer
  role := .hypothesisContainer
  metricName := "mapping_candidate"
  metricSemantics := "candidate wrapper; never independently scored"
  direction := .context
  scopeId := "candidate:" ++ item.candidateId
  observationScope := .bounded
  sourceIds := [item.sourceId, item.targetSourceId]
  snapshotIds := item.snapshotMap.map snd
  snapshotBySource := item.snapshotMap
  correlationGroup := "candidate:" ++ item.candidateId
  scoreBearing := false

/-- The containers of all candidates. -/
def candidateItems : Except FusionExc (List (FusionEvidenceItem R)) :=
  checkItems (relationships.map relationshipContainer ++ mappings.map mappingContainer)

/-- How the state names of the producers are read. -/
def producerState (name : String) : ProducerResultState :=
  if name = "COMPLETE" || name = "EXECUTED_EXPERIMENTAL" then .complete
  else if name = "INCOMPLETE" || name = "INSUFFICIENT_DATA" then .incomplete
  else if name = "FAILED" then .failed
  else if name = "SKIPPED" || name = "SKIPPED_NOT_CONFIGURED" then .skipped
  else if name = "NOT_CONFIGURED" then .notConfigured
  else if name = "UNAVAILABLE" then .unavailable
  else if name = "PRIVACY_BLOCKED" then .privacyBlocked
  else .incomplete

/-- `a or b` on texts. -/
def orText (a b : String) : String := if a ≠ "" then a else b

/-- The sources and the snapshots that a result reports by its own and its scope's attributes. -/
def ResultHeader.observed (header : ResultHeader) : List String × List (String × String) :=
  let sourceIds := if header.sourceId ≠ "" then [header.sourceId] else []
  match header.observationScope with
  | none => (sourceIds, [])
  | some scope =>
    match scope.snapshotIds with
    | some snapshots => (scope.sourceIds.getD sourceIds, snapshots)
    | none =>
      if scope.sourceId ≠ "" && scope.snapshotId ≠ "" then
        ([scope.sourceId], [(scope.sourceId, scope.snapshotId)])
      else (scope.sourceIds.getD sourceIds, [])

/-- `_status`. -/
def resultStatus (producerId : String) (family : EvidenceFamily) (header : ResultHeader) :
    ProducerEvidenceStatus :=
  let (sourceIds, snapshots) := header.observed
  let snapshots := if snapshots = [] && header.snapshotId ≠ "" then
    [(sourceIds.headD producerId, header.snapshotId)] else snapshots
  let fromRequest := sourceIds = [] && header.requestSourceId ≠ ""
  { producerId := producerId
    family := family
    state := producerState header.state
    resultId := orText header.requestId (orText header.profileRequestId
      (orText header.qualityRunId (producerId ++ "-result")))
    detail := "project-owned producer result"
    sourceIds := if fromRequest then [header.requestSourceId] else sourceIds
    snapshotBySource := if fromRequest && header.requestSnapshotId ≠ "" then
      [(header.requestSourceId, header.requestSnapshotId)] else snapshots
    inputFingerprint := some header.contentDigest }

/-- `_semantic_status`, and the status of direct semantic evidence. -/
def semanticStatus : SemanticInput → ProducerEvidenceStatus
  | .result result =>
    { producerId := "semantic-ai"
      family := .semanticAi
      state := match result.state with
        | .candidateOnly => .complete
        | .skipped => .skipped
        | .unavailable => .unavailable
        | .privacyBlocked => .privacyBlocked
        | .failed => .failed
      resultId := result.requestId
      detail := result.failureDetail.getD "semantic evidence state" }
  | .evidence evidence =>
    { producerId := "semantic-ai"
      family := .semanticAi
      state := .complete
      resultId := evidence.evidenceId
      detail := "direct semantic evidence" }

variable (inputs : EvidenceFusionInputs R)

/-- The statuses of all producers but the auxiliary ones, in the order they are read. -/
def primaryStatuses : List ProducerEvidenceStatus :=
  inputs.profileResults.map (fun r => resultStatus "profiling" .profile r.header) ++
    inputs.qualityResults.map (fun r => resultStatus "quality" .quality r.header) ++
    inputs.dependencyResults.map (fun r => resultStatus "dependency" .dependency r.header) ++
    inputs.schemaMatchResults.map fun r => resultStatus "schema-matching" .schemaMatching r.header

/-- The statuses of the ranker and of the semantic support. -/
def auxiliaryStatuses : List ProducerEvidenceStatus :=
  inputs.appliedMlResults.map (fun r => resultStatus "applied-ml" .appliedMl r.header) ++
    inputs.semanticResults.map semanticStatus

/-- All statuses: the supplied ones, and one for each result. -/
def gatherStatuses : Except FusionExc (List ProducerEvidenceStatus) := do
  let built ← (primaryStatuses inputs ++ auxiliaryStatuses inputs).mapM checkStatus
  pure (inputs.producerStatuses ++ built)

section
variable [ScoreArithmetic R]

/-- The four measurements of one inclusion, under the id `evidenceId`. -/
def inclusionItems (base : FusionEvidenceItem R) (evidenceId : String)
    (coverage orphan uniqueness : R) (typeCompatible : Bool)
    (semantics : String × String × String × String) : List (FusionEvidenceItem R) :=
  [{ base with
      evidenceId := evidenceId ++ ":coverage", metricName := "inclusion_coverage"
      metricValue := some coverage, metricSemantics := semantics.1, direction := .supports
      scoreDimensionId := some "inclusion", dependencyGroup := some "inclusion" },
    { base with
      evidenceId := evidenceId ++ ":orphan", metricName := "orphan_ratio"
      metricValue := some orphan, metricSemantics := semantics.2.1, direction := .contradicts
      scoreDimensionId := some "inclusion", dependencyGroup := some "inclusion" },
    { base with
      evidenceId := evidenceId ++ ":uniqueness", metricName := "target_uniqueness"
      metricValue := some uniqueness, metricSemantics := semantics.2.2.1, direction := .supports
      scoreDimensionId := some "target_uniqueness", dependencyGroup := some "target_uniqueness" },
    { base with
      evidenceId := evidenceId ++ ":type", metricName := "type_compatibility"
      metricValue := some (if typeCompatible then 1 else 0), metricSemantics := semantics.2.2.2
      direction := if typeCompatible then .supports else .contradicts
      scoreDimensionId := some "type_compatibility"
      dependencyGroup := some "type_compatibility" }]

/-- The measurements of one dependency, and the warning about tiny domains. -/
def InclusionDependency.items (evidence : InclusionDependency R) : List (FusionEvidenceItem R) :=
  let base : FusionEvidenceItem R :=
    { evidenceId := evidence.evidenceId
      subjectId := "rel:" ++ evidence.leftTableId ++ ":" ++
        intercalate "," evidence.leftColumns ++ "->" ++ evidence.rightTableId ++ ":" ++
        intercalate "," evidence.rightColumns
      producerId := "dependency"
      family := .dependency
      metricName := "low_cardinality_risk"
      metricSemantics := "provider flagged a tiny domain trap"
      direction := .contradicts
      scopeId := evidence.sourceId ++ ":" ++ evidence.snapshotId
      observationScope := if evidence.completeByTable then .full else .bounded
      sourceIds := [evidence.sourceId]
      snapshotIds := [evidence.snapshotId]
      snapshotBySource := [(evidence.sourceId, evidence.snapshotId)]
      correlationGroup := evidence.evidenceId }
  inclusionItems base evidence.evidenceId evidence.coverageRatio evidence.violationRatio
    evidence.targetUniquenessRatio evidence.typeCompatible
    ("matched distinct non-null left values divided by eligible left values",
      "left values without a target match divided by eligible left values",
      "unique target values divided by observed target values",
      "project-owned type compatibility boolean") ++
  if evidence.lowCardinalityRisk then
    [{ base with
        evidenceId := evidence.evidenceId ++ ":low-cardinality", observationScope := .full
        scoreBearing := false }]
  else []

/-- The items of a candidate that no inclusion dependency of its result stands behind. -/
def MeasuredCandidate.items (completeByTable : Bool) (candidate : MeasuredCandidate R) :
    List (FusionEvidenceItem R) :=
  let base : FusionEvidenceItem R :=
    { evidenceId := candidate.candidateId
      subjectId := candidate.subject
      producerId := "dependency"
      family := .dependency
      metricName := "inclusion_coverage"
      metricSemantics := "provider candidate inclusion support"
      scopeId := candidate.sourceId ++ ":" ++ candidate.snapshotId
      observationScope := if completeByTable then .full else .bounded
      sourceIds := [candidate.sourceId]
      snapshotIds := [candidate.snapshotId]
      snapshotBySource := [(candidate.sourceId, candidate.snapshotId)]
      correlationGroup := candidate.candidateId
      derivedFromRefs := candidate.evidenceRefs }
  inclusionItems base candidate.candidateId (1 - candidate.sourceOrphanRatio)
    candidate.sourceOrphanRatio candidate.targetUniquenessRatio candidate.typeCompatible
    ("provider candidate inclusion support", "provider candidate orphan ratio",
      "provider candidate target uniqueness", "provider candidate type compatibility")

/-- `_dependency_items`. -/
def dependencyItems (result : DependencyResult R) : List (FusionEvidenceItem R) :=
  let inclusionRefs := result.inclusionDependencies.map (·.evidenceId)
  result.inclusionDependencies.flatMap (·.items) ++
    (result.relationshipCandidates.filter fun candidate =>
      !candidate.evidenceRefs.any inclusionRefs.contains).flatMap (·.items result.completeByTable)

variable (digest : FusionDigest R)

/-- The family of a matcher, read off its name. -/
def matcherFamilyKey (matcherId matcherName : String) : String :=
  let value := lower (matcherName ++ " " ++ matcherId)
  if "coma".toList <:+: value.toList then "coma"
  else if "cupid".toList <:+: value.toList then "cupid"
  else "other-" ++ shortDigest digest 12 (.text value)

variable (policy : FusionPolicyReference R)

/-- The score of one matcher, as evidence. -/
def matcherItem (candidate : MatchedCandidate) (score : MatcherScore) : FusionEvidenceItem R :=
  let key := matcherFamilyKey digest score.matcherId score.matcherName
  let dimensionId := "matcher:" ++ key ++ ":rank"
  let scoreBearing := (policy.scoringDimensions.map (·.dimensionId)).contains dimensionId
  { evidenceId := score.scoreId
    subjectId := candidate.subject
    producerId := "schema-matching:" ++ key
    family := .schemaMatching
    metricName := "matcher_rank:" ++ key
    metricValue := some (score.rank : R)
    metricSemantics := score.matcherName ++ " matcher rank; native score is not averaged"
    direction := .supports
    scoreDimensionId := if scoreBearing then some dimensionId else none
    dependencyGroup := some ("matcher:" ++ key)
    scoreBearing := scoreBearing
    qualitativeText := if scoreBearing then none else
      some "matcher family is visible but not configured as a numeric policy dimension"
    scopeId := score.sourceColumnId ++ ":" ++ score.targetColumnId
    observationScope := if score.reducedScope then .sampled else .full
    sourceIds := candidate.snapshotIds.map fst
    snapshotIds := candidate.snapshotIds.map snd
    snapshotBySource := candidate.snapshotIds
    correlationGroup := score.scoreId }

/-- A structural signal of the matcher, as evidence. -/
def schemaSignalItem (candidate : MatchedCandidate) (signal : SchemaSignal R) :
    FusionEvidenceItem R :=
  let isStructural := signal.family = "SCHEMA_STRUCTURAL" && signal.value.isSome
  let declared := (policy.scoringDimensions.map (·.dimensionId)).contains "type_compatibility"
  { evidenceId := signal.signalId ++ ":candidate:" ++ candidate.candidateId
    subjectId := candidate.subject
    producerId := "schema-matching:signal"
    family := .schemaMatching
    metricName := if isStructural then "type_compatibility" else "schema_signal:" ++ lower signal.family
    metricValue := signal.value
    metricSemantics := signal.semantics
    direction := if isStructural then
      (if signal.value.any fun v => (1 : R) / (1 + 1) ≤ v then .supports else .contradicts)
      else .context
    scoreDimensionId := if isStructural && declared then some "type_compatibility" else none
    dependencyGroup := some
      (if isStructural then "type_compatibility" else "schema_signal:" ++ lower signal.family)
    scoreBearing := isStructural && declared
    derivedFromRefs := signal.evidenceRefs
    qualitativeText := if isStructural then none else some signal.semantics
    scopeId := candidate.subject
    observationScope := if candidate.reducedScope then .sampled else .full
    sourceIds := candidate.snapshotIds.map fst
    snapshotIds := candidate.snapshotIds.map snd
    snapshotBySource := candidate.snapshotIds
    correlationGroup := "schema-candidate:" ++ candidate.candidateId }

/-- `_schema_items`. -/
def schemaItems (result : SchemaMatchResult R) : List (FusionEvidenceItem R) :=
  result.candidates.flatMap fun candidate =>
    (sorted candidate.scoreRefs).filterMap (fun ref =>
      (getItem (result.scores.map fun s => (s.scoreId, s)) ref).map
        (matcherItem digest policy candidate)) ++
    (sorted candidate.signalRefs).filterMap fun ref =>
      (getItem (result.signals.map fun s => (s.signalId, s)) ref).map
        (schemaSignalItem policy candidate)

/-- `_declared_items`. -/
def declaredItem : DeclaredInput → Option (FusionEvidenceItem R)
  | .typed item =>
    if upper item.constraintType ≠ "FOREIGN_KEY" then none
    else
      let snapshots := match item.snapshotBinding, item.snapshotId with
        | .observation, some snapshotId =>
          if snapshotId ≠ "" then [(item.sourceId, snapshotId)] else []
        | _, _ => []
      some
        { evidenceId := item.constraintId
          subjectId := "rel:" ++ item.fromTable ++ ":" ++ intercalate "," item.fromColumns ++
            "->" ++ item.toTable ++ ":" ++ intercalate "," item.toColumns
          producerId := "declared-metadata"
          family := .declaredConstraint
          role := .declaredMetadata
          metricName := "declared_foreign_key"
          metricValue := some 1
          metricSemantics := "declared foreign-key metadata; not snapshot observation"
          scopeId := item.scopeId
          observationScope := .full
          sourceIds := [item.sourceId]
          snapshotIds := snapshots.map snd
          snapshotBySource := snapshots
          snapshotBinding := item.snapshotBinding
          scoreDimensionId := some "declared_constraint"
          dependencyGroup := some "declared_constraint"
          correlationGroup := item.constraintId }
  | .catalog item =>
    if upper item.constraintType ≠ "FOREIGN_KEY" then none
    else
      let key := "declared:" ++ shortDigest digest 24 (.text item.contentDigest)
      some
        { evidenceId := key
          subjectId := "rel:" ++ item.tableId ++ ":" ++ intercalate "," item.columns ++ "->" ++
            orText (item.referencedTableId.getD "") (item.referencedTableName.getD "None") ++ ":" ++
            intercalate "," item.referencedColumns
          producerId := "declared-metadata"
          family := .declaredConstraint
          role := .declaredMetadata
          metricName := "declared_foreign_key"
          metricValue := some 1
          metricSemantics := "declared catalog foreign-key metadata; not snapshot observation"
          scopeId := "catalog:" ++ item.sourceId
          observationScope := .full
          sourceIds := [item.sourceId]
          snapshotBinding := .notApplicableSchemaMetadata
          scoreDimensionId := some "declared_constraint"
          dependencyGroup := some "declared_constraint"
          correlationGroup := key }

end

/-- `_assertion_items`. -/
def assertionItem (item : DomainAssertion) : FusionEvidenceItem R where
  evidenceId := item.assertionId
  subjectId := item.subjectId
  producerId := "domain-assertion"
  family := .domainAssertion
  role := .humanOrDomainAssertion
  metricName := "domain_assertion"
  metricSemantics := "explicit qualitative domain assertion"
  direction := .context
  scopeId := item.scopeId
  observationScope := .full
  sourceIds := item.sourceIds
  snapshotIds := item.snapshotIds
  snapshotBySource := dictOf (item.sourceIds.zip item.snapshotIds)
  correlationGroup := item.assertionId
  scoreBearing := false
  qualitativeText := some item.statement

/-! ## Profiles and quality -/

/-- The profile is one of this endpoint. -/
def endpointMatches (profile : ObservedProfile) (endpoint : Endpoint) : Bool :=
  endpoint.tableId ≠ "" && profile.sourceId = endpoint.sourceId &&
    profile.snapshotId = endpoint.snapshotId && profile.tableId = endpoint.tableId &&
    profile.columnId.all endpoint.columnIds.contains

/-- The snapshots of the endpoints, by source. -/
def endpointSnapshots (endpoints : List Endpoint) : List (String × String) :=
  dictOf ((endpoints.filter fun e => e.sourceId ≠ "" && e.snapshotId ≠ "").map fun e =>
    (e.sourceId, e.snapshotId))

variable (digest : FusionDigest R)

/-- The item that says that nothing was observed. -/
def notObservedMarker (producer subject : String) (family : EvidenceFamily)
    (endpoints : List Endpoint) (text : String) : FusionEvidenceItem R :=
  let snapshots := endpointSnapshots endpoints
  { evidenceId := producer ++ ":not-observed:" ++
      shortDigest digest 16 (.observation subject snapshots)
    subjectId := subject
    producerId := producer
    family := family
    metricName := producer ++ "_observation"
    metricSemantics := "selected subject was not observed by this producer result"
    direction := .context
    presence := .notObserved
    scopeId := subject
    sourceIds := snapshots.map fst
    snapshotIds := snapshots.map snd
    snapshotBySource := snapshots
    correlationGroup := producer ++ ":" ++ subject
    scoreBearing := false
    qualitativeText := some text }

/-- One profile, as evidence on a subject. -/
def profileItem (subject : String) (profile : ObservedProfile) : FusionEvidenceItem R where
  evidenceId := "profile:" ++ profile.profileId ++ ":" ++ shortDigest digest 12 (.text subject)
  subjectId := subject
  producerId := "profiling"
  family := .profile
  metricName := if profile.columnId.isSome then "column_profile" else "table_profile"
  metricSemantics := "bounded profile context; no independent numeric vote"
  direction := .context
  presence := if profile.complete && profile.observed then .observed else .incomplete
  scopeId := profile.profileId
  observationScope := if profile.fullMode then .full else .sampled
  sourceIds := [profile.sourceId]
  snapshotIds := [profile.snapshotId]
  snapshotBySource := [(profile.sourceId, profile.snapshotId)]
  correlationGroup := profile.profileId
  scoreBearing := false
  qualitativeText := some profile.summary

variable (topologies : List (String × List Endpoint))

/-- `_profile_items`: every profile, at every subject it is about. -/
def profileItems (result : ProfileResult) : List (FusionEvidenceItem R) :=
  let profiles := result.tables ++ result.columns
  profiles.flatMap (fun profile =>
    (topologies.filter fun topology => topology.2.any (endpointMatches profile)).map fun topology =>
      profileItem digest topology.1 profile) ++
  (topologies.filter fun topology =>
    !profiles.any fun profile => topology.2.any (endpointMatches profile)).map fun topology =>
      notObservedMarker digest "profile" topology.1 .profile topology.2
        "profile result has no exact selected endpoint observation"

/-- The issue is one of this endpoint. -/
def qualityMatches (issue : QualityIssue R) (endpoint : Endpoint) : Bool :=
  endpoint.tableId ≠ "" && issue.sourceId = endpoint.sourceId &&
    issue.snapshotId = endpoint.snapshotId && issue.tableId = endpoint.tableId &&
    issue.columnIds.all endpoint.columnIds.contains

/-- A quality issue, as evidence on a subject. -/
def qualityIssueItem (subject : String) (issue : QualityIssue R) : FusionEvidenceItem R where
  evidenceId := "quality:" ++ issue.issueId ++ ":" ++ shortDigest digest 12 (.text subject)
  subjectId := subject
  producerId := "quality"
  family := .quality
  metricName := "quality_issue:" ++ issue.issueType
  metricValue := issue.affectedRatio
  metricSemantics := issue.measurementSemantics
  direction :=
    if issue.status = "OPEN" || issue.status = "INCONCLUSIVE" then .contradicts else .context
  scopeId := issue.issueId
  observationScope := if issue.fullyObserved then .full else .bounded
  sourceIds := [issue.sourceId]
  snapshotIds := [issue.snapshotId]
  snapshotBySource := [(issue.sourceId, issue.snapshotId)]
  correlationGroup := issue.issueId
  scoreBearing := false
  derivedFromRefs := [issue.issueId] ++ (issue.evidenceRefs ++ issue.declaredConstraintRefs ++
    issue.domainAssertionRefs) ++ issue.repairProposalRefs
  qualitativeText := some issue.summary

variable (result : QualityResult R)

/-- The least that the rules say of the coverage. -/
def coverageState : String :=
  let applicability := result.ruleEvaluations.map (·.applicability)
  let statuses := result.dimensionSummaries.map (·.status)
  let semantics := result.ruleEvaluations.map (·.measurementSemantics) ++
    result.dimensionSummaries.map (·.measurementSemantics)
  if applicability.contains "INCONCLUSIVE" || statuses.contains "INCONCLUSIVE" ||
      semantics.contains "INCONCLUSIVE" then "INCONCLUSIVE"
  else if applicability.contains "INSUFFICIENT_EVIDENCE" then "INSUFFICIENT_EVIDENCE"
  else if applicability.contains "NOT_APPLICABLE" then "NOT_APPLICABLE"
  else if applicability.contains "APPLICABLE" || statuses.contains "MEASURED" then "EVALUATED_CLEAN"
  else "NOT_EVALUATED"

/-- `json.dumps` of some names. -/
def jsonNames (names : List String) : String :=
  "[" ++ intercalate ", " (names.map fun name => "\"" ++ name ++ "\"") ++ "]"

/-- The detail of `_quality_coverage_item`, with sorted keys.  The run id is written as it is. -/
def coverageDetail : String :=
  "\x7b\"applicability\": " ++
    jsonNames (sortedSet (result.ruleEvaluations.map (·.applicability))) ++
    ", \"coverage_state\": \"" ++ coverageState result ++
    "\", \"dimension_summaries\": " ++ toString result.dimensionSummaries.length ++
    ", \"measurement_semantics\": " ++
    jsonNames (sortedSet (result.ruleEvaluations.map (·.measurementSemantics) ++
      result.dimensionSummaries.map (·.measurementSemantics))) ++
    ", \"quality_run_id\": \"" ++ result.qualityRunId ++
    "\", \"rule_evaluations\": " ++ toString result.ruleEvaluations.length ++ "\x7d"

/-- How far quality was measured at a subject. -/
def qualityCoverageItem (subject : String) (endpoints : List Endpoint) : FusionEvidenceItem R :=
  let snapshots := endpointSnapshots endpoints
  { evidenceId := "quality:coverage:" ++ result.qualityRunId ++ ":" ++
      shortDigest digest 12 (.text subject)
    subjectId := subject
    producerId := "quality"
    family := .quality
    metricName := "quality_coverage:" ++ lower (coverageState result)
    metricSemantics := "quality coverage state is explicit and is not inferred from issue absence"
    direction := .context
    scopeId := result.qualityRunId
    observationScope := if result.dimensionSummaries.any fun s =>
      "EXACT_ON_FULL".toList <+: s.measurementSemantics.toList then .full else .bounded
    sourceIds := snapshots.map fst
    snapshotIds := snapshots.map snd
    snapshotBySource := snapshots
    correlationGroup := result.qualityRunId
    scoreBearing := false
    qualitativeText := some (coverageDetail result) }

/-- The items of `_quality_items`. -/
def qualityItems : List (FusionEvidenceItem R) :=
  result.issues.flatMap (fun issue =>
    (topologies.filter fun topology => topology.2.any (qualityMatches issue)).map fun topology =>
      qualityIssueItem digest topology.1 issue) ++
  topologies.filterMap fun topology =>
    let endpoints := topology.2.filter fun endpoint =>
      endpoint.sourceId = result.sourceId && endpoint.snapshotId = result.snapshotId
    if endpoints = [] then none else some (qualityCoverageItem digest result topology.1 endpoints)

/-- The repair references of `_quality_items`. -/
def repairRefs : List String :=
  (result.issues.filter fun issue =>
    topologies.any fun topology => topology.2.any (qualityMatches issue)).flatMap
      (·.repairProposalRefs) ++
  (result.repairProposals.filter fun proposal => topologies.any fun topology =>
    topology.2.any fun endpoint => result.sourceId = endpoint.sourceId &&
      result.snapshotId = endpoint.snapshotId && endpoint.tableId = proposal.tableId &&
      proposal.columnIds.all endpoint.columnIds.contains).map (·.proposalId)

/-! ## Learned rankings and semantic hypotheses -/

/-- The score of the ranker, as evidence. -/
def learnedItem (subject : String) (item : LearnedRankingEvidence R) : FusionEvidenceItem R where
  evidenceId := item.evidenceId
  subjectId := subject
  producerId := "applied-ml"
  family := .appliedMl
  role := .derivedInterpretation
  metricName := "learned_ranking_score"
  metricValue := some item.rankingScore
  metricSemantics := "uncalibrated learned ranking; auxiliary only"
  direction := .context
  scopeId := item.modelId
  observationScope := .bounded
  derivedFromRefs := item.inputEvidenceRefs
  correlationGroup := item.modelId
  scoreBearing := false
  qualitativeText := some "derived ML evidence; not independently scored"

variable (subjects : List (String × String))

/-- `_ml_items`, with its failures. -/
def mlItems (result : AppliedMLResult R) :
    Except FusionExc (List (FusionEvidenceItem R) × List FusionFailure) := do
  let items ← checkItems (result.learnedEvidence.filterMap fun item =>
    (getItem subjects item.candidateId).map fun subject => learnedItem subject item)
  let unbound := result.learnedEvidence.filter fun item => (getItem subjects item.candidateId).isNone
  pure (items, unbound.map fun item =>
    { failureId := "fusion-ml-binding-" ++ shortDigest digest 20 (.text item.candidateId)
      kind := .subjectBindingError
      detail := "learned evidence candidate_id is not in selected candidates"
      evidenceRefs := [item.evidenceId] })

/-- A hypothesis of a language model, as an item about a subject. -/
def hypothesisItem (evidence : LLMEvidence) (subject : String) (hypothesis : SemanticHypothesis) :
    FusionEvidenceItem R where
  evidenceId := hypothesis.hypothesisId
  subjectId := subject
  producerId := "semantic-ai"
  family := .semanticAi
  role := .derivedInterpretation
  metricName := "semantic_hypothesis"
  metricSemantics := "qualitative provider hypothesis; no numeric conversion"
  direction := match hypothesis.kind with
    | .supportsHypothesis => .supports
    | .contradictsHypothesis => .contradicts
    | _ => .context
  scopeId := evidence.inputFingerprint
  observationScope := .bounded
  derivedFromRefs := evidence.allowedProviderEvidenceRefs
  correlationGroup := evidence.evidenceId
  scoreBearing := false
  qualitativeText := some hypothesis.statement

variable (bindings : List FusionSubjectBinding)

/-- The subject that one reference of semantic evidence is bound to, or why it is not. -/
def bindUpstream (upstream : String) : Except String String :=
  match bindings.find? fun binding => binding.upstreamSubjectRef = upstream with
  | some binding =>
    if getItem subjects binding.candidateId = some binding.fusionSubjectId then
      .ok binding.fusionSubjectId
    else .error "semantic subject binding is unknown or inconsistent"
  | none =>
    match getItem subjects upstream with
    | some subject => .ok subject
    | none =>
      if (subjects.map snd).contains upstream then .ok upstream
      else .error "semantic evidence requires a known subject binding"

/-- The one subject that semantic evidence is bound to, or the failure. -/
def bindEvidence (evidence : LLMEvidence) : Except FusionFailure String :=
  let failure (key detail : String) : FusionFailure :=
    { failureId := "fusion-semantic-binding-" ++ key, kind := .subjectBindingError
      detail := detail, evidenceRefs := [evidence.evidenceId] }
  let bind (upstream : String) : Except FusionFailure String :=
    (bindUpstream subjects bindings upstream).mapError
      (failure (shortDigest digest 20 (.text upstream)))
  do
    let found ← evidence.subjectRefs.mapM bind
    match sortedSet found with
    | [] => .error (failure "empty" "semantic evidence has no bindable subject")
    | [subject] => .ok subject
    | many => .error (failure ("multi" ++ shortDigest digest 20 (.texts many))
        "semantic evidence references multiple independently bound subjects")

/-- The statements of a semantic answer, if it has any. -/
def SemanticInput.llmEvidence : SemanticInput → Option LLMEvidence
  | .result answer => answer.evidence
  | .evidence direct => some direct

/-- `_semantic_result_items`, with its failures. -/
def semanticResultItems (result : SemanticInput) :
    Except FusionExc (List (FusionEvidenceItem R) × List FusionFailure) :=
  match result.llmEvidence with
  | none => .ok ([], [])
  | some evidence =>
    match bindEvidence digest subjects bindings evidence with
    | .error failure => .ok ([], [failure])
    | .ok subject => do
      let items ← checkItems (evidence.hypotheses.map (hypothesisItem evidence subject))
      pure (items, [])

end DirtyDataOlap.Fusion

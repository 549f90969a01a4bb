import DirtyDataOlap.PythonValues

/-!
# The contracts of source-to-OLAP validation

The contracts of `domain/contracts/validation.py`, with what the validator reads of the canonical,
semantic and materialization artifacts.  What a contract validates is a field, a mapping is the list
of its items, and content hashes are fields of what they identify.
-/
namespace DirtyDataOlap.Validation

open Analytical

/-- The outcome of a check. -/
inductive ValidationStatus
  | pass | fail | reviewRequired | notApplicable | notEvaluated
deriving DecidableEq

/-- Whether a failed check blocks the gate. -/
inductive ValidationSeverity
  | g6Blocking | warning | informational
deriving DecidableEq

/-- The stage that a check is about. -/
inductive ValidationScope
  | sourceSnapshot | sourceAccounting | canonicalization | relationships | analyticalPlan
  | materialization | dimensions | fact | grain | referentialIntegrity | aggregate | dates | lineage
  | semanticProjection | crossStage

/-- The outcome of a gate. -/
inductive GateStatus
  | pass | fail | pending
deriving DecidableEq

/-- Between which layers records are accounted for. -/
inductive AccountingBoundary
  | sourceToCanonical | canonicalToAnalytical
deriving DecidableEq

/-- What became of a record. -/
inductive RecordDisposition
  | emittedDirect | consolidated | aggregated | filteredExplicit | quarantined | unresolved
deriving DecidableEq

/-- The record is part of some output. -/
def RecordDisposition.contributing : RecordDisposition → Bool
  | .emittedDirect | .consolidated | .aggregated => true
  | _ => false

/-- The value of the boundary in a record. -/
def AccountingBoundary.text : AccountingBoundary → String
  | .sourceToCanonical => "SOURCE_TO_CANONICAL"
  | .canonicalToAnalytical => "CANONICAL_TO_ANALYTICAL"

/-- `boundary.casefold().replace("_", " ")`. -/
def AccountingBoundary.label : AccountingBoundary → String
  | .sourceToCanonical => "source to canonical"
  | .canonicalToAnalytical => "canonical to analytical"

/-! ## The independent truth -/

/-- A source record with the entity it belongs to. -/
structure SourceTruthRecord where
  (recordRef sourceId snapshotId tableId subjectType : String)
  canonicalEntityId : Option String
  terminalDisposition : RecordDisposition

/-- An entity with its records. -/
structure SourceTruthEntity where
  (entityType canonicalEntityId : String)
  sourceRecordRefs : List String

/-- A record that refers to an entity. -/
structure SourceTruthRelationship where
  (relationshipRef fromRecordRef toCanonicalEntityId : String)

/-- A fact that the target must have. -/
structure SourceTruthFact where
  factRef : String
  factId : Option String
  sourceRecordRefs : List String
  canonicalEventId : String
  grainValues : List (String × Value)
  dimensionEntityIds : List (String × String)
  measureValues : List (String × Value)
  dateValue : Option String
  mappingsAreGiven : grainValues ≠ [] ∧ dimensionEntityIds ≠ [] ∧ measureValues ≠ [] := by simp
  keysAreUnique : (grainValues.map Prod.fst).Nodup ∧ (dimensionEntityIds.map Prod.fst).Nodup ∧
    (measureValues.map Prod.fst).Nodup := by decide +kernel

/-- `fact_id or fact_ref`. -/
def SourceTruthFact.scopeId (fact : SourceTruthFact) : String :=
  match fact.factId with
  | some factId => if factId = "" then fact.factRef else factId
  | none => fact.factRef

/-- What must become of one record. -/
structure SourceTruthAccountingExpectation where
  boundary : AccountingBoundary
  inputRecordRef : String
  expectedDisposition : RecordDisposition
  (expectedOutputOrGroupRef reasonContains : Option String)
  outputMatchesDisposition :
    (expectedDisposition.contributing = true → expectedOutputOrGroupRef.getD "" ≠ "") ∧
    (expectedDisposition.contributing = false → expectedOutputOrGroupRef = none) := by
    decide +kernel

/-- An aggregate that the target must give. -/
structure SourceTruthAggregateExpectation where
  (aggregateId factId measureField operation : String)
  groupBy : List String
  expected : Value
  expectedByKey : List (String × Value)
  operationIsKnown : operation = "SUM" ∨ operation = "MAX" := by decide +kernel
  hasExpectedValues : expected ≠ .none ∨ expectedByKey ≠ [] := by simp

/-- Records that are known to be one entity. -/
structure SourceTruthDuplicateGroup where
  controlId : String
  sourceRecordRefs : List String
  canonicalEntityId : String
  expectedCanonicalEntityCount : Nat
  groupIsProper : 2 ≤ sourceRecordRefs.length := by decide +kernel

/-- What is known of the sources, independently of the pipeline. -/
structure SourceTruthManifest where
  (truthId contentHash sourceSnapshotFingerprint sourceSnapshotId : String)
  sourceSchemaFingerprints : List (String × String)
  records : List SourceTruthRecord
  entities : List SourceTruthEntity
  relationships : List SourceTruthRelationship
  facts : List SourceTruthFact
  accountingExpectations : List SourceTruthAccountingExpectation
  aggregateExpectations : List SourceTruthAggregateExpectation
  expectedAggregates : List (String × Value)
  duplicateGroups : List SourceTruthDuplicateGroup
  partsAreGiven : sourceSchemaFingerprints ≠ [] ∧ records ≠ [] := by simp
  refsAreUnique : (records.map SourceTruthRecord.recordRef).Nodup ∧
    (entities.map SourceTruthEntity.canonicalEntityId).Nodup := by decide +kernel
  recordsAreKnown :
    (∀ group ∈ duplicateGroups,
      group.sourceRecordRefs ⊆ records.map SourceTruthRecord.recordRef) ∧
    (∀ relationship ∈ relationships,
      relationship.fromRecordRef ∈ records.map SourceTruthRecord.recordRef) ∧
    (∀ fact ∈ facts, fact.sourceRecordRefs ⊆ records.map SourceTruthRecord.recordRef) := by
    decide +kernel
  expectationsAreClosed :
    (accountingExpectations.map fun item => (item.boundary, item.inputRecordRef)).Nodup ∧
    (∀ item ∈ accountingExpectations,
      (item.boundary = .sourceToCanonical →
        item.inputRecordRef ∈ records.map SourceTruthRecord.recordRef) ∧
      (item.boundary = .canonicalToAnalytical →
        item.inputRecordRef ∈ entities.map SourceTruthEntity.canonicalEntityId ++
          facts.map SourceTruthFact.canonicalEventId)) := by
    decide +kernel
  aggregatesAreClosed :
    (aggregateExpectations.map SourceTruthAggregateExpectation.aggregateId).Nodup ∧
    (∀ item ∈ aggregateExpectations, item.factId ∈ facts.map SourceTruthFact.scopeId) := by
    decide +kernel

/-- The references of all records. -/
def SourceTruthManifest.recordRefs (truth : SourceTruthManifest) : List String :=
  truth.records.map SourceTruthRecord.recordRef

/-- What became of a record, and why. -/
structure RecordAccountingEntry where
  inputRecordRef : String
  disposition : RecordDisposition
  outputOrGroupRef : Option String
  reason : String
  contributorReferenceIsExplicit :
    (disposition.contributing = true → outputOrGroupRef.getD "" ≠ "") ∧
    (disposition.contributing = false → outputOrGroupRef = none) := by decide +kernel

/-- The records at one boundary, each with exactly one entry. -/
structure RecordAccountingScope where
  scopeId : String
  boundary : AccountingBoundary
  inputRecordRefs : List String
  entries : List RecordAccountingEntry
  accountingReconciles : inputRecordRefs.Nodup ∧
    (entries.map RecordAccountingEntry.inputRecordRef).Perm inputRecordRefs ∧
    inputRecordRefs ≠ [] := by decide +kernel

/-- The accounting of a run. -/
structure RecordAccountingArtifact where
  (accountingId contentHash runId : String)
  scopes : List RecordAccountingScope
  scopeIdsAreUnique : scopes ≠ [] ∧ (scopes.map RecordAccountingScope.scopeId).Nodup := by
    exact ⟨by simp, by decide +kernel⟩

/-- Things, or what happened to them. -/
inductive CanonicalEntityKind
  | identity | event
deriving DecidableEq

/-- A type of canonical entities. -/
structure CanonicalEntityType where
  (canonicalEntityTypeId semanticId : String)
  kind : CanonicalEntityKind

/-- A canonical entity with its records. -/
structure CanonicalEntityInstance where
  (canonicalEntityId canonicalEntityTypeId : String)
  sourceRecordRefs : List String

/-- A source record and the entity it became. -/
structure SourceRecordCanonicalMap where
  (recordRef sourceId snapshotId tableId canonicalEntityId canonicalEntityTypeId : String)
  terminalDisposition : RecordDisposition

/-- The canonical model, as validation reads it. -/
structure CanonicalModel where
  (modelId contentHash : String)
  entityTypes : List CanonicalEntityType
  instances : List CanonicalEntityInstance
  sourceRecordMaps : List SourceRecordCanonicalMap
  relationshipIds : List String
  typesAreGiven : entityTypes ≠ [] := by simp

/-- A measure of the semantic model. -/
structure SemanticMeasure where
  (semanticMeasureId physicalFieldRef : String)
  aggregationClass : AggregationClass

/-- The semantic model, with the artifacts it was built from. -/
structure SemanticModel where
  (semanticModelId contentHash analyticalPlanId analyticalPlanContentHash compiledPlanId : String)
  (compiledPlanContentHash materializationArtifactId materializationArtifactContentHash : String)
  targetRelativePath : String
  targetFileSha256 : Option String
  measures : List SemanticMeasure

/-- The outcome of a semantic validation. -/
inductive SemanticValidationStatus
  | pass | fail | reviewRequired
deriving DecidableEq

/-- The value of the status in a record. -/
def SemanticValidationStatus.text : SemanticValidationStatus → String
  | .pass => "PASS"
  | .fail => "FAIL"
  | .reviewRequired => "REVIEW_REQUIRED"

/-- A semantic validation, as the gate reads it. -/
structure SemanticValidationResult where
  (validationId contentHash semanticModelId semanticModelContentHash : String)
  status : SemanticValidationStatus

/-- How a materialization ended. -/
inductive MaterializationStatus
  | succeeded | failed | nonConsumable
deriving DecidableEq

/-- A materialized target, usable exactly if it succeeded. -/
structure MaterializationArtifact where
  (artifactId contentHash targetRelativePath targetConfigFingerprint : String)
  targetFileSha256 : Option String
  status : MaterializationStatus
  usable : Bool
  statusMatchesUsability : status = .succeeded ↔ usable = true := by decide +kernel

/-- A row of a target table: the items of its mapping. -/
abbrev Row := List (String × Value)

/-- `row.get(column)`. -/
def Row.get (row : Row) (column : String) : Value := (getItem row column).getD .none

/-- `column in row`. -/
def Row.has (row : Row) (column : String) : Bool := (getItem row column).isSome

/-- A table of the target with its rows. -/
structure TargetTableSnapshot where
  tableName : String
  columns : List String
  rows : List Row
  tableNameIsSafe : isIdentifier tableName = true := by decide +kernel
  rowColumnsMatch : columns.Nodup ∧ columns ≠ [] ∧
    ∀ row ∈ rows, (row.map Prod.fst).Perm columns := by decide +kernel

/-- The tables of the target that were read. -/
structure TargetSnapshot where
  availableTableNames : List String
  tables : List TargetTableSnapshot
  tablesAreUnique : tables ≠ [] ∧ (tables.map TargetTableSnapshot.tableName).Nodup ∧
    tables.map TargetTableSnapshot.tableName ⊆ availableTableNames := by
    exact ⟨by simp, by decide +kernel⟩

/-- `table_map.get(table_name)`. -/
def TargetSnapshot.table (target : TargetSnapshot) (tableName : String) :
    Option TargetTableSnapshot :=
  getItem (target.tables.map fun table => (table.tableName, table)) tableName

/-- The ids and hashes of everything a report is about. -/
structure ValidationArtifactBindings where
  (sourceSnapshotId sourceSnapshotHash sourceTruthId sourceTruthContentHash : String)
  (canonicalModelId canonicalModelContentHash recordAccountingId : String)
  (recordAccountingContentHash analyticalPlanId analyticalPlanContentHash : String)
  (analyticalSpecPackageHash analyticalDatasetId analyticalDatasetContentHash : String)
  (analyticalInputBindingId analyticalInputBindingContentHash : String)
  analyticalInputSourceSnapshotFingerprints : List (String × String)
  (compiledPlanId compiledPlanContentHash materializationArtifactId : String)
  (materializationArtifactContentHash targetRelativePath targetConfigFingerprint : String)
  (targetFileSha256 semanticModelId semanticModelContentHash semanticValidationId : String)
  (semanticValidationContentHash validationPolicyId validationPolicyVersion : String)
  benchmarkTruthHash : Option String

/-- Which checks are required. -/
structure ValidationPolicy where
  (policyId policyVersion contentHash : String)
  requiredCheckIds : List String
  monetaryStatus : ValidationStatus
  monetaryReason : String
  policyIsDeterministic : requiredCheckIds.Nodup ∧ requiredCheckIds ≠ [] := by decide +kernel
  reasonIsGiven : monetaryReason ≠ "" := by decide +kernel

/-! ## The report -/

/-- A difference that a check has found. -/
structure ValidationDiscrepancy where
  (discrepancyId checkId : String)
  severity : ValidationSeverity
  boundary : ValidationScope
  summary : String
  (expected observed : Value)
  affectedRefs : List String
  likelyStage : String
  evidenceRefs : List String

/-- A check with its outcome. -/
structure ValidationCheck where
  (checkId name : String)
  status : ValidationStatus
  severity : ValidationSeverity
  scope : ValidationScope
  required : Bool
  details : String
  (expected observed : Value)
  (evidenceRefs discrepancyIds : List String)

/-- The statuses that leave a gate open. -/
def ValidationStatus.isPending : ValidationStatus → Bool
  | .reviewRequired | .notEvaluated => true
  | _ => false

/-- The status of a report: the worst one counts. -/
def overallStatus (statuses : List ValidationStatus) : ValidationStatus :=
  if statuses.any (· = .fail) then .fail
  else if statuses.any ValidationStatus.isPending then .reviewRequired
  else .pass

/-- The status of the gate, from the required blocking checks. -/
def gateStatus (statuses : List ValidationStatus) : GateStatus :=
  if statuses.any (· = .fail) then .fail
  else if statuses.any ValidationStatus.isPending then .pending
  else .pass

/-- The report of a validation, before its contract is checked. -/
structure ValidationReport where
  (reportId runId : String)
  bindings : ValidationArtifactBindings
  policy : ValidationPolicy
  checks : List ValidationCheck
  discrepancies : List ValidationDiscrepancy
  overallStatus : ValidationStatus
  g6Status : GateStatus
  g6Eligible : Bool

/-- The checks that the policy requires. -/
def ValidationReport.required (report : ValidationReport) : List ValidationCheck :=
  report.checks.filter fun check => check.required && check.checkId ∈ report.policy.requiredCheckIds

/-- The statuses on which the gate depends. -/
def ValidationReport.blocking (report : ValidationReport) : List ValidationStatus :=
  (report.required.filter fun check => check.severity = .g6Blocking).map ValidationCheck.status

/-- `raise ValueError(message)` unless the condition holds. -/
def requireValid (condition : Prop) [Decidable condition] (message : String) : Except Raised Unit :=
  if condition then .ok () else .error (.valueError message)

/-- `ValidationReport.report_status_is_derived`. -/
def ValidationReport.statusIsDerived (report : ValidationReport) : Except Raised Unit := do
  let checkIds := report.checks.map ValidationCheck.checkId
  requireValid checkIds.Nodup "validation check IDs must be unique"
  requireValid (report.discrepancies.map ValidationDiscrepancy.discrepancyId).Nodup
    "validation discrepancy IDs must be unique"
  requireValid (∀ item ∈ report.discrepancies, item.checkId ∈ checkIds)
    "discrepancy references an unknown check"
  requireValid (∀ checkId ∈ report.policy.requiredCheckIds,
      checkId ∈ report.required.map ValidationCheck.checkId)
    "all policy-required checks must be present and required"
  requireValid (report.g6Status = gateStatus report.blocking ∧
      report.overallStatus = Validation.overallStatus report.blocking)
    "validation status does not match required check statuses"
  requireValid (report.g6Eligible = decide (gateStatus report.blocking = .pass))
    "G6 eligibility must be derived from required blocking checks"

/-- A check once more, as a metric. -/
structure ReconciliationMetric where
  (metricId name : String)
  status : ValidationStatus
  (expected observed : Value)
  evidenceRefs : List String

/-- The reconciliation that goes with a report. -/
structure ReconciliationResult where
  (resultId runId validationReportId : String)
  bindings : ValidationArtifactBindings
  metrics : List ReconciliationMetric
  status : ValidationStatus
  noBlockingDiscrepancy : Bool

/-- The validator of the result's status. -/
def ReconciliationResult.statusMatchesMetrics (result : ReconciliationResult) :
    Except Raised Unit :=
  let statuses := result.metrics.map ReconciliationMetric.status
  requireValid (result.status = overallStatus statuses ∧
      result.noBlockingDiscrepancy = !statuses.any (· = .fail))
    "reconciliation status does not match metrics"

end DirtyDataOlap.Validation

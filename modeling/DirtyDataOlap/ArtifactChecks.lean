import Mathlib.Data.Prod.Lex
import DirtyDataOlap.ValidationContracts

/-!
# The checks of the artifacts before the target

The part of `ValidationService.validate` that compares the source truth with the canonical model,
the accounting and the analytical input, without the target. A check is computed as a `CheckEntry`,
the arguments of `add_check`.
-/
namespace DirtyDataOlap.Validation

open Analytical

/-- Everything that a validation reads, the target apart. -/
structure ValidationInputs where
  sourceTruth : SourceTruthManifest
  canonicalModel : CanonicalModel
  accounting : RecordAccountingArtifact
  analyticalDataset : AnalyticalInputDataset
  analyticalInputBinding : AnalyticalInputBinding
  plan : AnalyticalPlan
  compiledPlan : CompiledPlan
  materialization : MaterializationArtifact
  semanticModel : SemanticModel
  semanticValidation : SemanticValidationResult
  policy : ValidationPolicy
  bindings : ValidationArtifactBindings

/-- The arguments of `add_check`, with its defaults. -/
structure CheckEntry where
  checkId : String
  name : String
  status : ValidationStatus
  scope : ValidationScope
  details : String
  expected : Value := .none
  observed : Value := .none
  severity : ValidationSeverity := .g6Blocking
  required : Bool := true
  affectedRefs : List String := []
  likelyStage : String := "VALIDATION_RECONCILIATION"

/-- A list of texts as a value. -/
def Value.texts (items : List String) : Value := .list (items.map .str)

/-- A number of things as a value. -/
def Value.count (n : Nat) : Value := .int n

/-- A text where there is one, or `None`. -/
def Value.optional (text : Option String) : Value := (text.map Value.str).getD .none

/-- `errors or text`. -/
def Value.orText (errors : List String) (text : String) : Value :=
  if errors = [] then .str text else .texts errors

/-- An error where the condition holds. -/
def errorIf (condition : Prop) [Decidable condition] (error : String) : List String :=
  if condition then [error] else []

/-- A check without errors passes. -/
def statusOf (errors : List String) : ValidationStatus := if errors = [] then .pass else .fail

/-- The text of a check without errors, or the one of a check with errors. -/
def detailsOf (errors : List String) (passed failed : String) : String :=
  if errors = [] then passed else failed

/-! ## Bindings -/

section

variable (inputs : ValidationInputs)

/-- What the bindings of a report must say, field by field. -/
def expectedBinding : List (String × Value) :=
  let truth := inputs.sourceTruth
  let binding := inputs.analyticalInputBinding
  [("source_snapshot_id", .str truth.sourceSnapshotId),
    ("source_snapshot_hash", .str truth.sourceSnapshotFingerprint),
    ("source_truth_id", .str truth.truthId),
    ("source_truth_content_hash", .str truth.contentHash),
    ("canonical_model_id", .str inputs.canonicalModel.modelId),
    ("canonical_model_content_hash", .str inputs.canonicalModel.contentHash),
    ("record_accounting_id", .str inputs.accounting.accountingId),
    ("record_accounting_content_hash", .str inputs.accounting.contentHash),
    ("analytical_plan_id", .str inputs.plan.planId),
    ("analytical_plan_content_hash", .str inputs.plan.contentHash),
    ("analytical_spec_package_hash", .str inputs.plan.analyticalSpecPackageHash),
    ("analytical_dataset_id", .str inputs.analyticalDataset.datasetId),
    ("analytical_dataset_content_hash", .str inputs.analyticalDataset.contentHash),
    ("analytical_input_binding_id", .str binding.bindingId),
    ("analytical_input_binding_content_hash", .str binding.contentHash),
    ("analytical_input_source_snapshot_fingerprints",
      .dict ((sortedBy Prod.fst binding.sourceSnapshotFingerprints).map fun item =>
        (item.1, .str item.2))),
    ("compiled_plan_id", .str inputs.compiledPlan.compiledPlanId),
    ("compiled_plan_content_hash", .str inputs.compiledPlan.contentHash),
    ("materialization_artifact_id", .str inputs.materialization.artifactId),
    ("materialization_artifact_content_hash", .str inputs.materialization.contentHash),
    ("target_relative_path", .str inputs.materialization.targetRelativePath),
    ("target_config_fingerprint", .str inputs.materialization.targetConfigFingerprint),
    ("target_file_sha256", .optional inputs.materialization.targetFileSha256),
    ("semantic_model_id", .str inputs.semanticModel.semanticModelId),
    ("semantic_model_content_hash", .str inputs.semanticModel.contentHash),
    ("semantic_validation_id", .str inputs.semanticValidation.validationId),
    ("semantic_validation_content_hash", .str inputs.semanticValidation.contentHash),
    ("validation_policy_id", .str inputs.policy.policyId),
    ("validation_policy_version", .str inputs.policy.policyVersion),
    ("benchmark_truth_hash", .str truth.contentHash)]

/-- `bindings.model_dump(mode="python")`. -/
def ValidationArtifactBindings.modelDump (b : ValidationArtifactBindings) : List (String × Value) :=
  [("source_snapshot_id", .str b.sourceSnapshotId),
    ("source_snapshot_hash", .str b.sourceSnapshotHash),
    ("source_truth_id", .str b.sourceTruthId),
    ("source_truth_content_hash", .str b.sourceTruthContentHash),
    ("canonical_model_id", .str b.canonicalModelId),
    ("canonical_model_content_hash", .str b.canonicalModelContentHash),
    ("record_accounting_id", .str b.recordAccountingId),
    ("record_accounting_content_hash", .str b.recordAccountingContentHash),
    ("analytical_plan_id", .str b.analyticalPlanId),
    ("analytical_plan_content_hash", .str b.analyticalPlanContentHash),
    ("analytical_spec_package_hash", .str b.analyticalSpecPackageHash),
    ("analytical_dataset_id", .str b.analyticalDatasetId),
    ("analytical_dataset_content_hash", .str b.analyticalDatasetContentHash),
    ("analytical_input_binding_id", .str b.analyticalInputBindingId),
    ("analytical_input_binding_content_hash", .str b.analyticalInputBindingContentHash),
    ("analytical_input_source_snapshot_fingerprints",
      .dict (b.analyticalInputSourceSnapshotFingerprints.map fun item => (item.1, .str item.2))),
    ("compiled_plan_id", .str b.compiledPlanId),
    ("compiled_plan_content_hash", .str b.compiledPlanContentHash),
    ("materialization_artifact_id", .str b.materializationArtifactId),
    ("materialization_artifact_content_hash", .str b.materializationArtifactContentHash),
    ("target_relative_path", .str b.targetRelativePath),
    ("target_config_fingerprint", .str b.targetConfigFingerprint),
    ("target_file_sha256", .str b.targetFileSha256),
    ("semantic_model_id", .str b.semanticModelId),
    ("semantic_model_content_hash", .str b.semanticModelContentHash),
    ("semantic_validation_id", .str b.semanticValidationId),
    ("semantic_validation_content_hash", .str b.semanticValidationContentHash),
    ("validation_policy_id", .str b.validationPolicyId),
    ("validation_policy_version", .str b.validationPolicyVersion),
    ("benchmark_truth_hash", .optional b.benchmarkTruthHash)]

variable (py : Interpreter)

/-- One field of the bindings that says something else. -/
def bindingError (item : String × Value) : List String :=
  let observed := (getItem inputs.bindings.modelDump item.1).getD .none
  errorIf (observed.key ≠ item.2.key)
    (item.1 ++ ": expected " ++ item.2.repr py ++ ", observed " ++ observed.repr py)

/-- The stale references between the artifacts themselves. -/
def staleBindings : List String :=
  let canonical := inputs.canonicalModel
  let dataset := inputs.analyticalDataset
  let binding := inputs.analyticalInputBinding
  let plan := inputs.plan
  let compiled := inputs.compiledPlan
  let materialization := inputs.materialization
  let semantic := inputs.semanticModel
  let validation := inputs.semanticValidation
  errorIf (materialization.status ≠ .succeeded ∨ materialization.usable = false)
      "materialization: target artifact is not consumable" ++
    errorIf (compiled.planId ≠ plan.planId ∨ compiled.planContentHash ≠ plan.contentHash)
      "compiled_plan: analytical plan binding is stale" ++
    errorIf (dataset.canonicalModelId ≠ canonical.modelId ∨
        dataset.canonicalModelContentHash ≠ canonical.contentHash)
      "analytical_dataset: canonical model binding is stale" ++
    errorIf (binding.canonicalModelId ≠ canonical.modelId ∨
        binding.canonicalModelContentHash ≠ canonical.contentHash)
      "analytical_input_binding: canonical model binding is stale" ++
    errorIf (binding.datasetId ≠ some dataset.datasetId ∨
        binding.datasetContentHash ≠ some dataset.contentHash)
      "analytical_input_binding: dataset binding is stale" ++
    errorIf (plan.inputBindingId ≠ binding.bindingId ∨
        plan.inputBindingContentHash ≠ binding.contentHash)
      "analytical_plan: input binding is stale" ++
    errorIf (semantic.analyticalPlanId ≠ plan.planId ∨
        semantic.analyticalPlanContentHash ≠ plan.contentHash)
      "semantic_model: analytical plan binding is stale" ++
    errorIf (semantic.compiledPlanId ≠ compiled.compiledPlanId ∨
        semantic.compiledPlanContentHash ≠ compiled.contentHash)
      "semantic_model: compiled plan binding is stale" ++
    errorIf (semantic.materializationArtifactId ≠ materialization.artifactId ∨
        semantic.materializationArtifactContentHash ≠ materialization.contentHash)
      "semantic_model: materialization binding is stale" ++
    errorIf (semantic.targetRelativePath ≠ materialization.targetRelativePath ∨
        semantic.targetFileSha256 ≠ materialization.targetFileSha256)
      "semantic_model: target binding is stale" ++
    errorIf (validation.semanticModelId ≠ semantic.semanticModelId ∨
        validation.semanticModelContentHash ≠ semantic.contentHash)
      "semantic_validation: semantic model binding is stale"

/-- The check that the bindings are those of the artifacts at hand. -/
def artifactBinding : CheckEntry :=
  let errors := (expectedBinding inputs).flatMap (bindingError inputs py) ++ staleBindings inputs
  { checkId := "artifact_binding"
    name := "exact artifact binding"
    status := statusOf errors
    scope := .crossStage
    details := detailsOf errors
      "all source, canonical, accounting, analytical, materialization, semantic, target and policy references are exact"
      (String.intercalate "; " errors)
    expected := .str "exact bound IDs and content hashes"
    observed := .orText errors "exact" }

/-- The check that the truth is about the snapshot at hand. -/
def sourceSnapshotUniverse : CheckEntry :=
  let truth := inputs.sourceTruth
  let snapshots := sortedSet (truth.records.map SourceTruthRecord.snapshotId)
  { checkId := "source_snapshot_universe"
    name := "source snapshot universe and hash"
    status := if snapshots = [truth.sourceSnapshotId] ∧ truth.sourceSchemaFingerprints ≠ []
      then .pass else .fail
    scope := .sourceSnapshot
    details := "independent source truth declares one pinned snapshot and a complete source schema fingerprint map"
    expected := .dict [("snapshot_id", .str truth.sourceSnapshotId),
      ("record_count", .count truth.records.length)]
    observed := .dict [("snapshot_ids", .texts snapshots),
      ("record_count", .count truth.records.length),
      ("snapshot_hash", .str truth.sourceSnapshotFingerprint)] }

/-- The accounting at one boundary. -/
def accountingScope (boundary : AccountingBoundary) : Option RecordAccountingScope :=
  inputs.accounting.scopes.find? fun scope => scope.boundary = boundary

/-- What the truth says about that boundary. -/
def expectedAccounting (boundary : AccountingBoundary) : List SourceTruthAccountingExpectation :=
  inputs.sourceTruth.accountingExpectations.filter fun item => item.boundary = boundary

/-- What is wrong with the account of one record. -/
def accountingErrors (expectedItems : List SourceTruthAccountingExpectation)
    (entries : List RecordAccountingEntry) (ref : String) : List String :=
  match getItem (expectedItems.map fun item => (item.inputRecordRef, item)) ref,
      getItem (entries.map fun item => (item.inputRecordRef, item)) ref with
  | some expected, some actual =>
    errorIf (actual.disposition ≠ expected.expectedDisposition) (ref ++ ":disposition") ++
      errorIf (actual.outputOrGroupRef ≠ expected.expectedOutputOrGroupRef) (ref ++ ":output") ++
      errorIf (∃ text ∈ expected.reasonContains, text ≠ "" ∧
          ¬ (py.casefold text).toList <:+: (py.casefold actual.reason).toList)
        (ref ++ ":reason")
  | _, _ => [ref ++ ":missing"]

/-- The check of the accounting at one boundary. -/
def compareAccounting (checkId : String) (boundary : AccountingBoundary)
    (expectedInputRefs : List String) (scope : ValidationScope) (likelyStage : String) :
    CheckEntry :=
  let expectedItems := expectedAccounting inputs boundary
  match accountingScope inputs boundary, expectedItems with
  | some actual, _ :: _ =>
    let expectedRefs := expectedItems.map SourceTruthAccountingExpectation.inputRecordRef
    let actualRefs := actual.entries.map RecordAccountingEntry.inputRecordRef
    let errors :=
      errorIf (AnalyticalCompilerService.sameSet actual.inputRecordRefs expectedInputRefs = false ∨
          AnalyticalCompilerService.sameSet actualRefs expectedInputRefs = false)
        "input_universe" ++
      errorIf (AnalyticalCompilerService.sameSet expectedRefs expectedInputRefs = false)
        "expected_input_universe" ++
      (sortedSet (expectedInputRefs ++ expectedRefs ++ actualRefs)).flatMap
        (accountingErrors py expectedItems actual.entries)
    { checkId := checkId
      name := boundary.label
      status := statusOf errors
      scope := scope
      details := detailsOf errors
        "actual runtime accounting matches the independent stage-scoped expectation with exact denominators"
        "runtime accounting differs from the independent stage-scoped expectation"
      expected := .dict [("records", .count expectedInputRefs.length),
        ("boundary", .str boundary.text)]
      observed := .dict [("records", .count actual.entries.length), ("errors", .texts errors)]
      affectedRefs := errors
      likelyStage := likelyStage }
  | _, _ =>
    { checkId := checkId
      name := boundary.label
      status := .notEvaluated
      scope := scope
      details := boundary.text ++ " accounting or its independent expectation is absent"
      likelyStage := likelyStage }

/-! ## The canonical model -/

/-- `type_by_semantic.get(subject_type) or type_by_semantic.get(subject_type.replace("_", ""))`. -/
def typeOfSubject (subjectType : String) : Option String :=
  let bySemantic := inputs.canonicalModel.entityTypes.map fun item =>
    (item.semanticId, item.canonicalEntityTypeId)
  (getItem bySemantic subjectType).or
    (getItem bySemantic (String.ofList (subjectType.toList.filter (· ≠ '_'))))

/-- `canonical_types.get(canonical_entity_type_id)`. -/
def canonicalType (typeId : String) : Option CanonicalEntityType :=
  getItem (inputs.canonicalModel.entityTypes.map fun item => (item.canonicalEntityTypeId, item))
    typeId

/-- `actual_maps.get(record_ref, [])`. -/
def actualMaps (recordRef : String) : List SourceRecordCanonicalMap :=
  inputs.canonicalModel.sourceRecordMaps.filter fun item => item.recordRef = recordRef

/-- `actual_instances.get(canonical_entity_id)`. -/
def actualInstance (entityId : String) : Option CanonicalEntityInstance :=
  getItem (inputs.canonicalModel.instances.map fun item => (item.canonicalEntityId, item)) entityId

/-- What is wrong with the canonical map of one record. -/
def membershipErrors (record : SourceTruthRecord) : List String :=
  let ref := record.recordRef
  match actualMaps inputs ref with
  | [actual] =>
    errorIf (record.sourceId ≠ actual.sourceId) (ref ++ ":source_id") ++
      errorIf (record.snapshotId ≠ actual.snapshotId) (ref ++ ":snapshot_id") ++
      errorIf (record.tableId ≠ actual.tableId) (ref ++ ":table_id") ++
      errorIf (record.canonicalEntityId ≠ some actual.canonicalEntityId)
        (ref ++ ":canonical_entity_id") ++
      errorIf (typeOfSubject inputs record.subjectType ≠ some actual.canonicalEntityTypeId)
        (ref ++ ":canonical_entity_type_id") ++
      errorIf (record.terminalDisposition ≠ actual.terminalDisposition)
        (ref ++ ":terminal_disposition")
  | entries => [ref ++ ":map_count=" ++ toString entries.length]

/-- Passed, failed, or not evaluated for want of anything to look at. -/
def statusOn (passed : Prop) [Decidable passed] (present : Prop) [Decidable present] :
    ValidationStatus :=
  if passed then .pass else if present then .fail else .notEvaluated

/-- The check that every record is mapped, and mapped as expected. -/
def canonicalMembership : CheckEntry :=
  let truth := inputs.sourceTruth
  let mapRefs := (inputs.canonicalModel.sourceRecordMaps.map
    SourceRecordCanonicalMap.recordRef).dedup
  let extra := sorted (mapRefs.filter fun ref => ref ∉ truth.recordRefs)
  let errors := truth.records.flatMap (membershipErrors inputs) ++
    extra.map fun ref => ref ++ ":unexpected"
  { checkId := "canonical_membership"
    name := "exact source-to-canonical membership and provenance"
    status := statusOn (errors = [] ∧ mapRefs.length = truth.recordRefs.length)
      (inputs.canonicalModel.sourceRecordMaps ≠ [])
    scope := .canonicalization
    details := detailsOf errors
      "every source record maps exactly to the independently expected canonical entity, type, snapshot, table and disposition"
      "canonical membership or source provenance differs from independent truth"
    expected := .dict [("source_records", .count truth.recordRefs.length),
      ("maps", .count truth.recordRefs.length)]
    observed := .dict [("source_records", .count mapRefs.length), ("errors", .texts errors)]
    affectedRefs := errors
    likelyStage := "CANONICAL_FINALIZATION" }

/-- A membership group: its entity type and entity, in the order of tuples. -/
abbrev GroupKey := String ×ₗ String

/-- Entities are counted by type and id. -/
def groupKey (entityType entityId : String) : GroupKey := toLex (entityType, entityId)

/-- `str(key)`. -/
def GroupKey.text (key : GroupKey) : String :=
  Value.repr py (.tuple [.str (ofLex key).1, .str (ofLex key).2])

/-- The entities of the truth with their records. -/
def expectedGroups : List (GroupKey × List String) :=
  inputs.sourceTruth.entities.map fun item =>
    (groupKey item.entityType item.canonicalEntityId, item.sourceRecordRefs)

/-- The entities of the model with their records. -/
def actualGroups : List (GroupKey × List String) :=
  inputs.canonicalModel.instances.filterMap fun item =>
    (canonicalType inputs item.canonicalEntityTypeId).map fun type =>
      (groupKey type.semanticId item.canonicalEntityId, item.sourceRecordRefs)

/-- `expected_groups.get(key) != actual_groups.get(key)`. -/
def groupDiffers (key : GroupKey) : Bool :=
  match getItem (expectedGroups inputs) key, getItem (actualGroups inputs) key with
  | some expected, some actual => !AnalyticalCompilerService.sameSet expected actual
  | none, none => false
  | _, _ => true

/-- Groups as a value, in the order of a dictionary. -/
def groupsValue (groups : List (GroupKey × List String)) : Value :=
  .dict ((dictOf groups).map fun group => (group.1.text py, .texts (sortedSet group.2)))

/-- How often each of the sorted `labels` occurs in `items`. -/
def countsValue (labels items : List String) : Value :=
  .dict ((sortedSet labels).map fun label => (label, .count (items.count label)))

/-- The type of every instance; an unknown one is a `KeyError`. -/
def instanceTypes : Except Raised (List CanonicalEntityType) :=
  inputs.canonicalModel.instances.mapM fun item =>
    AnalyticalCompilerService.lookupKey item.canonicalEntityTypeId
      (canonicalType inputs item.canonicalEntityTypeId)

/-- The check that the entities are the expected ones. -/
def canonicalEntityCounts (types : List CanonicalEntityType) : CheckEntry :=
  let expected := expectedGroups inputs
  let actual := actualGroups inputs
  let errors := ((sortedSet (expected.map Prod.fst ++ actual.map Prod.fst)).filter
    (groupDiffers inputs)).map fun key => key.text py ++ ":membership"
  let entityTypes := inputs.sourceTruth.entities.map SourceTruthEntity.entityType
  { checkId := "canonical_entity_counts"
    name := "canonical entity counts and membership groups"
    -- Without errors both dictionaries have the same keys.
    status := statusOn (errors = []) (inputs.canonicalModel.instances ≠ [])
    scope := .canonicalization
    details := detailsOf errors
      "expected canonical entity IDs, type counts and source membership groups match actual finalized instances"
      "canonical entity count, type or membership group differs from independent truth"
    expected := .dict [("counts_by_type", countsValue entityTypes entityTypes),
      ("groups", groupsValue py expected)]
    observed := .dict [
      ("counts_by_type", countsValue
        (inputs.canonicalModel.entityTypes.map CanonicalEntityType.semanticId)
        (types.map CanonicalEntityType.semanticId)),
      ("groups", groupsValue py actual), ("errors", .texts errors)]
    affectedRefs := errors
    likelyStage := "CANONICAL_FINALIZATION" }

/-- What is wrong with one group of known duplicates. -/
def duplicateErrors (group : SourceTruthDuplicateGroup) : List String :=
  let refs := group.sourceRecordRefs
  let represented := (actualInstance inputs group.canonicalEntityId).any fun actual =>
    AnalyticalCompilerService.sameSet actual.sourceRecordRefs refs &&
      actual.sourceRecordRefs.length = refs.length
  let dispositions := refs.flatMap fun ref =>
    (actualMaps inputs ref).map SourceRecordCanonicalMap.terminalDisposition
  errorIf (represented = false) (group.controlId ++ ":group") ++
    errorIf (dispositions ≠ List.replicate refs.length .consolidated)
      (group.controlId ++ ":disposition")

/-- The check that known duplicates became one entity. -/
def dedupExplainability : CheckEntry :=
  let groups := inputs.sourceTruth.duplicateGroups
  let instances := inputs.canonicalModel.instances
  let errors := groups.flatMap (duplicateErrors inputs)
  { checkId := "dedup_explainability"
    name := "legitimate deduplication explainability"
    status := statusOn (errors = [] ∧ ∀ group ∈ groups, ∃ item ∈ instances,
        AnalyticalCompilerService.sameSet item.sourceRecordRefs group.sourceRecordRefs = true)
      (instances ≠ [])
    scope := .canonicalization
    details := detailsOf errors
      "each independently declared consolidation is represented by actual finalized membership maps and one canonical instance"
      "deduplication group, output identity or terminal disposition differs from independent truth"
    expected := .dict (groups.map fun group =>
      (group.controlId, .dict [("source_records", .count group.sourceRecordRefs.length),
        ("canonical_entity_count", .count group.expectedCanonicalEntityCount)]))
    observed := .dict [("errors", .texts errors), ("canonical_instances", .count instances.length)]
    affectedRefs := errors
    likelyStage := "CANONICAL_IDENTITY_PREPARATION" }

/-- The records that are about events. -/
def expectedEventRecords : List SourceTruthRecord :=
  inputs.sourceTruth.records.filter fun record =>
    record.subjectType ∈ ["order", "order_line", "orderline", "reading"]

/-- What is wrong with the event of one record. -/
def eventErrors (record : SourceTruthRecord) : List String :=
  let kind := (record.canonicalEntityId.bind (actualInstance inputs)).bind fun item =>
    (canonicalType inputs item.canonicalEntityTypeId).map CanonicalEntityType.kind
  match (actualMaps inputs record.recordRef).head? with
  | some actual =>
    if kind ≠ some .event then [record.recordRef ++ ":event_identity"]
    else errorIf (record.canonicalEntityId ≠ some actual.canonicalEntityId ∨
        typeOfSubject inputs record.subjectType ≠ some actual.canonicalEntityTypeId)
      (record.recordRef ++ ":event_assignment")
  | none => [record.recordRef ++ ":event_identity"]

/-- The check of events and of the declared relationships. -/
def canonicalEventRelationships (types : List CanonicalEntityType) : CheckEntry :=
  let events := expectedEventRecords inputs
  let declared := inputs.canonicalModel.relationshipIds
  let expected := inputs.sourceTruth.relationships.map SourceTruthRelationship.relationshipRef
  let errors := events.flatMap (eventErrors inputs) ++
    sortedSet (expected.filter fun ref => ref ∉ declared)
  { checkId := "canonical_event_relationships"
    name := "canonical event identities and declared relationships"
    status := statusOn (errors = [] ∧ events ≠ []) (inputs.canonicalModel.instances ≠ [])
    scope := .relationships
    details := detailsOf errors
      "source event records have actual canonical event instances/maps and all required relationship types are declared"
      "canonical event identity or relationship declaration differs from independent truth"
    expected := .dict [("events", .count events.length),
      ("relationship_types", .texts (sortedSet expected))]
    observed := .dict [("events", .count (types.countP fun type => type.kind = .event)),
      ("relationship_types", .texts (sortedSet declared)), ("errors", .texts errors)]
    affectedRefs := errors
    likelyStage := "CANONICAL_FINALIZATION" }

/-- The check that the dataset is the one that was bound. -/
def analyticalInputBindingEntry : CheckEntry :=
  let dataset := inputs.analyticalDataset
  let binding := inputs.analyticalInputBinding
  let canonical := inputs.canonicalModel
  let errors :=
    errorIf (some dataset.datasetId ≠ binding.datasetId ∨
        some dataset.contentHash ≠ binding.datasetContentHash) "dataset_content" ++
    errorIf (dataset.canonicalModelId ≠ canonical.modelId ∨
        dataset.canonicalModelContentHash ≠ canonical.contentHash) "canonical_model" ++
    errorIf (sameDict dataset.sourceSchemaFingerprints binding.sourceSchemaFingerprints = false)
      "source_schema_fingerprints" ++
    errorIf (sameDict dataset.sourceSnapshotFingerprints binding.sourceSnapshotFingerprints = false)
      "source_snapshot_fingerprints"
  { checkId := "analytical_input_binding"
    name := "exact analytical input dataset binding"
    status := statusOf errors
    scope := .analyticalPlan
    details := detailsOf errors
      "the pre-materialization analytical dataset is exact, canonical-bound and snapshot-bound"
      "analytical input dataset or its canonical/snapshot binding is stale"
    expected := .dict [("dataset_id", .str dataset.datasetId),
      ("dataset_content_hash", .str dataset.contentHash),
      ("canonical_model_id", .str canonical.modelId)]
    observed := .dict [("dataset_id", .optional binding.datasetId),
      ("dataset_content_hash", .optional binding.datasetContentHash), ("errors", .texts errors)]
    affectedRefs := errors
    likelyStage := "ANALYTICAL_PLANNING" }

/-- Whether no row of the record holds the target of a relationship. -/
def allocationMissing (relationship : SourceTruthRelationship) : Bool :=
  let rows := (inputs.analyticalDataset.tables.flatMap AnalyticalInputTable.rows).filter fun row =>
    relationship.fromRecordRef ∈ row.sourceRecordRefs
  let target := relationship.toCanonicalEntityId
  rows.isEmpty || (rows.all fun row =>
    decide (.str target ∉ row.values.map AnalyticalCell.value ∧ target ≠ row.canonicalReference))

/-- The check that every expected relationship was allocated. -/
def relationshipAllocation : CheckEntry :=
  let relationships := inputs.sourceTruth.relationships
  let errors := (relationships.filter (allocationMissing inputs)).map fun relationship =>
    relationship.relationshipRef ++ ":" ++ relationship.fromRecordRef
  { checkId := "relationship_allocation"
    name := "canonical-to-analytical relationship allocation"
    status := statusOf errors
    scope := .relationships
    details := detailsOf errors
      "source-backed relationship targets survive into the exact pre-materialization analytical dataset"
      "a source-backed relationship target is absent from the analytical input dataset"
    expected := .count relationships.length
    observed := .dict [("checked", .count relationships.length), ("errors", .texts errors)]
    affectedRefs := errors
    likelyStage := "ANALYTICAL_PLANNING" }

/-- The checks before the target, in order. -/
def artifactEntries : Except Raised (List CheckEntry) := do
  let types ← instanceTypes inputs
  return [artifactBinding inputs py,
    sourceSnapshotUniverse inputs,
    compareAccounting inputs py "source_record_accounting" .sourceToCanonical
      inputs.sourceTruth.recordRefs .sourceAccounting "CANONICAL_FINALIZATION",
    canonicalMembership inputs,
    canonicalEntityCounts inputs py types,
    dedupExplainability inputs,
    canonicalEventRelationships inputs types,
    compareAccounting inputs py "canonical_to_analytical_accounting" .canonicalToAnalytical
      (inputs.sourceTruth.entities.map SourceTruthEntity.canonicalEntityId) .analyticalPlan
      "ANALYTICAL_PLANNING",
    analyticalInputBindingEntry inputs,
    relationshipAllocation inputs]

end

end DirtyDataOlap.Validation

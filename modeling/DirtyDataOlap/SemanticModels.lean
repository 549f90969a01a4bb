import DirtyDataOlap.SemanticLayer

/-!
# Construction of a semantic model

`build_model`: the reviewed specifications of an analytical plan become the objects of a semantic
model, each built by its contract.  A description is checked where it is copied from a
specification.
-/
namespace DirtyDataOlap.Semantic

open Analytical

/-- `_text`: a text that is not blank and holds no NUL. -/
def isText (text : String) : Bool :=
  Numeral.strip text.toList ≠ [] && !text.toList.contains (Char.ofNat 0)

/-- An object of a contract, or a validation error. -/
def validated {α : Type} (contract : String) (accepts : Prop) [Decidable accepts]
    (object : accepts → α) : Except Raised α :=
  if h : accepts then .ok (object h) else .error (.validation contract)

/-- `set(a) == set(b)`. -/
def sameSet (a b : List String) : Prop := a ⊆ b ∧ b ⊆ a

instance (a b : List String) : Decidable (sameSet a b) :=
  inferInstanceAs (Decidable ((∀ x ∈ a, x ∈ b) ∧ ∀ x ∈ b, x ∈ a))

namespace ModelInputs

variable (i : ModelInputs)

/-- The dimensions by id. -/
def dimensionItems : List (String × DimensionSpec) := i.dimensions.map fun d => (d.dimensionId, d)

/-- The facts by id. -/
def factItems : List (String × FactSpec) := i.facts.map fun f => (f.factId, f)

/-- The grains by id. -/
def grainItems : List (String × GrainSpec) := i.grains.map fun g => (g.grainId, g)

/-- The canonical entity types by id. -/
def entityItems : List (String × CanonicalEntityType) :=
  match i.canonicalModel with
  | some canonical => canonical.entityTypes.map fun e => (e.canonicalEntityTypeId, e)
  | none => []

/-- The foreign keys of all facts. -/
def foreignKeys : List (FactSpec × FactForeignKeySpec) :=
  i.facts.flatMap fun fact => fact.dimensionForeignKeys.map fun foreignKey => (fact, foreignKey)

/-- The name of a dimension: that of its canonical entity, or its own id made readable. -/
def businessName (dimension : DimensionSpec) : String :=
  match getItem i.entityItems dimension.canonicalEntityTypeId with
  | some canonical => canonical.businessName
  | none => display dimension.dimensionId

end ModelInputs

namespace SemanticLayerService

variable (service : SemanticLayerService)

/-- The content hashes of the specs. -/
def specHashes (dimensions : List DimensionSpec) (facts : List FactSpec) (grains : List GrainSpec)
    (measures : List MeasureSpec) : SpecHashes where
  dimension := dimensions.map fun d => (d.dimensionId, service.dimensionContentHash d)
  fact := facts.map fun f => (f.factId, service.factContentHash f)
  grain := grains.map fun g => (g.grainId, service.grainContentHash g)
  measure := measures.map fun m => (m.measureId, service.measureContentHash m)

/-- `if hashes and dict(hashes) != expected: raise SemanticLayerError(...)`. -/
def checkPlanHashes (hashes expected : List (String × String)) (family : String) :
    Except Raised Unit :=
  raiseIf (hashes ≠ [] ∧ sameDict hashes expected = false)
    ("ANALYTICAL_PLAN_SPEC_HASH_MISMATCH: " ++ family ++ " package")

variable (i : ModelInputs)

/-- The review of the plan is accepted and still fits. -/
def checkReview : Except Raised Unit :=
  match i.analyticalReview with
  | some review => do
    raiseIf (review.accepted = false) "REVIEW_REQUIRED: analytical-plan review is not accepted"
    raiseIf (review.compatibilityErrors ≠ [])
      ("STALE_ANALYTICAL_REVIEW: " ++ String.intercalate "," review.compatibilityErrors)
  | none => raiseIf (i.compiledPlan.reviewState ≠ .accepted)
      "REVIEW_REQUIRED: accepted analytical review is required"

/-- The bindings of the materialization and of the canonical model. -/
def checkBindings : Except Raised Unit := do
  raiseIf (i.materialization.status ≠ .succeeded ∨ i.materialization.usable = false)
    "NON_CONSUMABLE_TARGET: materialization must be SUCCEEDED and usable"
  raiseIf (i.materialization.planId ≠ i.plan.planId ∨
      i.materialization.planContentHash ≠ i.plan.contentHash)
    "STALE_TARGET: materialization does not bind the exact analytical plan"
  raiseIf (i.materialization.compiledPlanId ≠ i.compiledPlan.compiledPlanId ∨
      i.materialization.compiledPlanContentHash ≠ i.compiledPlan.contentHash)
    "STALE_TARGET: materialization does not bind the exact compiled plan"
  raiseIf (i.materialization.generatedSqlHash ≠ i.compiledPlan.generatedSqlHash)
    "STALE_TARGET: materialization SQL hash differs from compiled plan"
  raiseIf (i.materialization.targetConfigFingerprint ≠ i.compiledPlan.targetConfigFingerprint)
    "STALE_TARGET: target configuration differs from compiled plan"
  raiseIf (i.canonicalModel.any fun canonical => canonical.modelId ≠ i.plan.canonicalModelId ||
      canonical.contentHash ≠ i.plan.canonicalModelContentHash)
    "STALE_CANONICAL_MODEL: canonical model binding differs from plan"

/-- `_validate_upstream`: every artifact binds the one before it. -/
def validateUpstream : Except Raised Unit := do
  raiseIf (i.compiledPlan.planId ≠ i.plan.planId ∨ i.compiledPlan.planContentHash ≠ i.plan.contentHash)
    "STALE_ANALYTICAL_PLAN: compiled plan does not bind the exact analytical plan"
  raiseIf (i.compiledPlan.analyticalSpecPackageHash ≠ i.plan.analyticalSpecPackageHash)
    "STALE_ANALYTICAL_SPEC_PACKAGE: compiled package differs from plan"
  let expected := service.specHashes i.dimensions i.facts i.grains i.measures
  let actual := service.specHashes i.compiledPlan.dimensionSpecs i.compiledPlan.factSpecs
    i.compiledPlan.grainSpecs i.compiledPlan.measureSpecs
  raiseIf (¬ (sameDict expected.dimension actual.dimension = true ∧
      sameDict expected.fact actual.fact = true ∧ sameDict expected.grain actual.grain = true ∧
      sameDict expected.measure actual.measure = true))
    "STALE_ANALYTICAL_SPEC_PACKAGE: child spec content differs from compiled plan"
  checkPlanHashes i.plan.specContentHashes.dimension expected.dimension "dimension"
  checkPlanHashes i.plan.specContentHashes.fact expected.fact "fact"
  checkPlanHashes i.plan.specContentHashes.grain expected.grain "grain"
  checkPlanHashes i.plan.specContentHashes.measure expected.measure "measure"
  checkReview i
  checkBindings i

/-- The id of an attribute in the semantic model. -/
def attributeId (dimensionId attributeId : String) : String := slug (dimensionId ++ "_" ++ attributeId)

/-- Attributes that only record lineage are not shown. -/
def exposureState (name : String) : SemanticExposureState :=
  if service.casefold name ∈ ["source_record_refs", "lineage_refs"] then .implementationOnly
  else .exposed

section

variable (dimension : DimensionSpec)

/-- One attribute of a dimension. -/
def semanticAttribute (spec : DimensionAttributeSpec) : Except Raised SemanticAttribute :=
  validated "SemanticAttribute"
    (isIdentifier (attributeId dimension.dimensionId spec.attributeId) = true ∧
      isIdentifier dimension.dimensionId = true ∧ isText spec.logicalType = true)
    fun h => {
      semanticAttributeId := attributeId dimension.dimensionId spec.attributeId
      name := display spec.attributeId
      dimensionId := dimension.dimensionId
      physicalColumnRef := spec.columnName
      logicalType := spec.logicalType
      nullable := spec.nullable
      exposureState := service.exposureState spec.attributeId
      identifiersAreSafe := ⟨h.1, h.2.1, spec.columnIsSafe⟩ }

/-- One dimension with its attributes. -/
def semanticDimension : Except Raised SemanticDimension := do
  let attributes ← dimension.attributes.mapM (service.semanticAttribute dimension)
  validated "SemanticDimension"
    (isIdentifier dimension.dimensionId = true ∧
      (isText (i.businessName dimension) = true ∧ isText dimension.eligibilityReason = true ∧
        isText dimension.canonicalEntityTypeId = true) ∧
      ((attributes.map SemanticAttribute.name).map service.casefold).Nodup ∧
      (attributes ≠ [] ∧ (∀ a ∈ attributes, a.dimensionId = dimension.dimensionId) ∧
        (attributes.map SemanticAttribute.semanticAttributeId).Nodup))
    fun h => {
      semanticDimensionId := dimension.dimensionId
      businessName := i.businessName dimension
      physicalTableRef := dimension.tableName
      role := dimension.role
      attributes := attributes
      identifiersAreSafe := ⟨h.1, dimension.tableIsSafe⟩
      attributesBelongToDimension := h.2.2.2 }

/-- The levels of a calendar, the widest first. -/
def calendarLevels : List String := ["year", "quarter", "month", "day"]

/-- A date dimension with all the levels. -/
def hasCalendar : Bool :=
  dimension.role = .date &&
    calendarLevels.all (· ∈ dimension.attributes.map DimensionAttributeSpec.attributeId)

/-- The id of a calendar. -/
def hierarchyId : String := slug (dimension.dimensionId ++ "_calendar")

/-- One level of a calendar. -/
def hierarchyLevel (level : String) : Except Raised HierarchyLevel :=
  validated "HierarchyLevel"
    (isIdentifier (slug (hierarchyId dimension ++ "_" ++ level)) = true ∧
      isIdentifier (attributeId dimension.dimensionId level) = true)
    fun h => ⟨slug (hierarchyId dimension ++ "_" ++ level), attributeId dimension.dimensionId level, h⟩

/-- The calendar of a date dimension. -/
def semanticHierarchy : Except Raised DimensionHierarchy := do
  let levels ← calendarLevels.mapM (hierarchyLevel dimension)
  validated "DimensionHierarchy"
    ((isIdentifier (hierarchyId dimension) = true ∧ isIdentifier dimension.dimensionId = true) ∧
      (levels.map HierarchyLevel.semanticAttributeId).Nodup)
    fun h => ⟨hierarchyId dimension, dimension.dimensionId, levels, h.1, h.2⟩

/-! ## Relationships and time roles -/

/-- The scope and the cardinality of the relationship behind a foreign key. -/
def relationshipScope (i : ModelInputs) (fact : FactSpec) (foreignKey : FactForeignKeySpec)
    (dimension : DimensionSpec) : Except Raised (SemanticRelationshipScope × String) := do
  raiseIf (foreignKey.relationshipRef ∉ fact.relationshipRefs)
    "UNKNOWN_RELATIONSHIP: FK relationship is not declared by FactSpec"
  if dimension.role = .date then
    raiseIf (foreignKey.relationshipScope ≠ .analyticalTimeRole)
      "UNCLASSIFIED_TIME_RELATIONSHIP: date FK lacks ANALYTICAL_TIME_ROLE scope"
    raiseIf (foreignKey.inputReferenceColumn.all (· ∉ fact.dateRoleColumns))
      "UNCLASSIFIED_TIME_RELATIONSHIP: date FK is not a declared fact time role"
    return (.analyticalTimeRole, "FACT_TO_DATE_ROLE")
  else
    raiseIf (foreignKey.relationshipScope ≠ .canonicalAccepted)
      "UNCLASSIFIED_RELATIONSHIP: non-date FK must use canonical scope"
    raiseIf (foreignKey.relationshipRef ∉ i.plan.acceptedRelationshipRefs)
      "UNACCEPTED_RELATIONSHIP: FK is outside the reviewed relationship scope"
    match i.canonicalModel with
    | none => throw (.layer "REVIEW_REQUIRED: canonical relationship evidence is unavailable")
    | some model =>
      match model.relationships.find? (·.relationshipId = foreignKey.relationshipRef) with
      | none => throw (.layer "UNKNOWN_RELATIONSHIP: canonical relationship does not exist")
      | some canonical =>
        raiseIf (canonical.toEntityTypeId ≠ dimension.canonicalEntityTypeId ∨
            (canonical.fromEntityTypeId ∉ fact.canonicalEventRefs ∧
              canonical.fromEntityTypeId ≠ fact.canonicalEventTypeId))
          "RELATIONSHIP_ENDPOINT_MISMATCH: canonical relationship cannot bind this fact FK"
        return (.canonicalAccepted, canonical.cardinality)

/-- The id of a join. -/
def relationshipId (fact : FactSpec) (foreignKey : FactForeignKeySpec) (dimension : DimensionSpec)
    (scope : SemanticRelationshipScope) : String :=
  service.relationshipDigest ⟨fact.factId, dimension.dimensionId, foreignKey.factColumn, scope,
    foreignKey.relationshipRef⟩

/-- The join from a fact to a dimension. -/
def relationship (fact : FactSpec) (foreignKey : FactForeignKeySpec) (dimension : DimensionSpec) :
    Except Raised SemanticRelationship := do
  let (scope, cardinality) ← relationshipScope i fact foreignKey dimension
  validated "SemanticRelationship"
    ((isIdentifier (service.relationshipId fact foreignKey dimension scope) = true ∧
      isIdentifier fact.factId = true ∧ isIdentifier dimension.dimensionId = true) ∧
      isText cardinality = true ∧ isText foreignKey.relationshipRef = true)
    fun h => {
      relationshipId := service.relationshipId fact foreignKey dimension scope
      sourceSemanticObjectId := fact.factId
      targetSemanticObjectId := dimension.dimensionId
      relationshipScope := scope
      cardinality := cardinality
      physicalFactId := fact.factId
      physicalFactTable := fact.tableName
      physicalFactColumn := foreignKey.factColumn
      physicalDimensionId := dimension.dimensionId
      physicalDimensionTable := dimension.tableName
      physicalDimensionKeyColumn := foreignKey.dimensionKeyColumn
      upstreamRelationshipRef := foreignKey.relationshipRef
      identifiersAreSafe := ⟨h.1.1, h.1.2.1, h.1.2.2, h.1.2.1, fact.tableIsSafe,
        foreignKey.columnsAreSafe.1, h.1.2.2, dimension.tableIsSafe, foreignKey.columnsAreSafe.2.1⟩ }

/-- The first attribute of type `DATE`. -/
def dateAttribute : Option DimensionAttributeSpec :=
  dimension.attributes.find? fun a => upper a.logicalType = "DATE"

end

/-- The id of a time role. -/
def timeRoleId (fact : FactSpec) (sourceColumn : String) : String :=
  slug (fact.factId ++ "_" ++ sourceColumn ++ "_time_role")

/-- What a time role is said to mean. -/
def timeSemantics (sourceColumn : String) (grain : GrainSpec) : String :=
  display sourceColumn ++ " role at reviewed " ++ grain.humanReadableGrain ++ "."

/-- The time role of a foreign key to a date dimension. -/
def timeRole (fact : FactSpec) (foreignKey : FactForeignKeySpec) (dimension : DimensionSpec) :
    Except Raised TimeRole :=
  match foreignKey.inputReferenceColumn, dateAttribute dimension with
  | none, _ => .error (.layer "time role requires an explicit physical date binding")
  | some _, none => .error (.layer "time role requires a reviewed DATE dimension attribute")
  | some sourceColumn, some dated => do
    let grain ← lookup i.grainItems fact.grainSpecId
    validated "TimeRole"
      ((isIdentifier (timeRoleId fact sourceColumn) = true ∧ isIdentifier fact.factId = true ∧
        isIdentifier foreignKey.relationshipRef = true ∧ isIdentifier sourceColumn = true ∧
        isIdentifier dimension.dimensionId = true ∧
        isIdentifier (attributeId dimension.dimensionId dated.attributeId) = true ∧
        isIdentifier fact.grainSpecId = true) ∧ isText (timeSemantics sourceColumn grain) = true)
      fun h => ⟨timeRoleId fact sourceColumn, fact.factId, foreignKey.relationshipRef, sourceColumn,
        dimension.dimensionId, attributeId dimension.dimensionId dated.attributeId,
        fact.grainSpecId, h.1⟩

/-- One round of the loop over the foreign keys: a relationship, and for a date dimension a time
role. -/
def foreignKeyObjects (item : FactSpec × FactForeignKeySpec) :
    Except Raised (SemanticRelationship × Option TimeRole) := do
  let (fact, foreignKey) := item
  match getItem i.dimensionItems foreignKey.dimensionId with
  | none => throw (.layer "semantic FK references an unplanned dimension")
  | some dimension =>
    let joined ← service.relationship i fact foreignKey dimension
    if dimension.role = .date then
      let role ← timeRole i fact foreignKey dimension
      return (joined, some role)
    else return (joined, none)

/-! ## Measures and metrics -/

/-- The id of the metric of a measure. -/
def metricId (measure : MeasureSpec) : String :=
  service.metricDigest measure.measureId (service.measureContentHash measure)
    i.plan.analyticalSpecPackageHash

/-- Why the metric of a measure is not available. -/
def failureReason (measure : MeasureSpec) (operations : List String) : Option String :=
  if measure.aggregationClass = .nonAdditive then
    some "UNSUPPORTED_AGGREGATION: NON_ADDITIVE measure has no executable aggregate"
  else if operations = [] then
    some "REVIEW_REQUIRED: reviewed aggregation rule does not declare a supported operation"
  else none

/-- Whether the metric of a measure is available. -/
def isAvailable (measure : MeasureSpec) (operations : List String) : Bool :=
  operations.head?.any (· ∈ aggregateSql) && measure.aggregationClass ≠ .nonAdditive

/-- One measure, with the operations it allows. -/
def semanticMeasure (fact : FactSpec) (roles : List String) (measure : MeasureSpec) :
    Except Raised SemanticMeasure :=
  let operations := service.inheritedOperations measure
  validated "SemanticMeasure"
    ((isIdentifier (slug ("semantic_" ++ measure.measureId)) = true ∧
        isIdentifier fact.factId = true ∧ isIdentifier measure.measureId = true ∧
        isIdentifier fact.grainSpecId = true) ∧
      (isText measure.aggregationRule = true ∧ isText measure.unitSemantics = true ∧
        isText measure.currencySemantics = true) ∧
      ((∀ o ∈ operations, isOperationName o = true) ∧ operations.Nodup) ∧
      (measure.aggregationClass = .nonAdditive → "SUM" ∉ operations) ∧ operations ≠ [])
    fun h => {
      semanticMeasureId := slug ("semantic_" ++ measure.measureId)
      factId := fact.factId
      measureSpecId := measure.measureId
      physicalFactTableRef := fact.tableName
      physicalFieldRef := measure.fieldName
      grainId := fact.grainSpecId
      aggregationClass := measure.aggregationClass
      allowedAggregationOperations := operations
      compatibleDimensionIds := fact.dimensionForeignKeys.map FactForeignKeySpec.dimensionId
      compatibleTimeRoleIds := roles
      availability := .available
      failureReason := none
      identifiersAreSafe := ⟨h.1.1, h.1.2.1, h.1.2.2.1, fact.tableIsSafe, measure.fieldIsSafe,
        h.1.2.2.2⟩
      operationsAreSafe := h.2.2.1
      aggregationIsNotLoosened := ⟨h.2.2.2.1, fun _ => h.2.2.2.2, fun hne => absurd rfl hne⟩ }

/-- The metric of a measure; it is available if some operation is. -/
def metricSpec (fact : FactSpec) (roles : List String) (measure : MeasureSpec) :
    Except Raised MetricSpec :=
  let operations := service.inheritedOperations measure
  let available := isAvailable measure operations
  let allowed := if available then operations.take 1 else []
  let dimensionIds := fact.dimensionForeignKeys.map FactForeignKeySpec.dimensionId
  validated "MetricSpec"
    ((isIdentifier (service.metricId i measure) = true ∧
        isIdentifier (slug measure.semanticName) = true) ∧
      (∀ r ∈ [fact.factId] ++ [fact.grainSpecId] ++ [measure.measureId] ++ dimensionIds ++ roles,
        isIdentifier r = true) ∧
      ((∀ o ∈ allowed, isOperationName o = true) ∧ allowed.Nodup) ∧
      (available = true → allowed ≠ []) ∧
      (available = false → (failureReason measure operations).any (· ≠ "") = true) ∧
      (measure.aggregationClass = .nonAdditive → "SUM" ∉ allowed))
    fun h => {
      metricId := service.metricId i measure
      semanticName := slug measure.semanticName
      displayName := display measure.semanticName
      metricKind := .baseAggregate
      factIds := [fact.factId]
      grainIds := [fact.grainSpecId]
      measureIds := [measure.measureId]
      expression := .aggregateMeasure measure.measureId (operations.headD "AT_GRAIN")
      aggregationClass := some measure.aggregationClass
      allowedAggregationOperations := allowed
      compatibleDimensionIds := dimensionIds
      compatibleTimeRoleIds := roles
      availability := if available then .available else .unavailable
      failureReason := failureReason measure operations
      identifiersAreSafe := h.1
      referenceIdsAreSafe := ⟨List.cons_ne_nil _ _, List.cons_ne_nil _ _, List.cons_ne_nil _ _, h.2.1⟩
      operationsAreSafe := h.2.2.1
      expressionIsConsistent := by
        refine ⟨fun _ => ⟨measure.measureId, List.mem_singleton_self _, rfl⟩,
          nofun, fun havailable => h.2.2.2.1 ?_, fun hne => h.2.2.2.2.1 ?_,
          fun hclass => h.2.2.2.2.2 (Option.some.inj hclass)⟩
        · by_contra hfalse
          rw [if_neg hfalse] at havailable
          cases havailable
        · by_contra htrue
          exact hne (if_pos (Bool.eq_true_of_not_eq_false htrue)) }

/-- One round of the loop over the measures: a measure and its metric. -/
def measureObjects (timeRoles : List TimeRole) (measure : MeasureSpec) :
    Except Raised (SemanticMeasure × MetricSpec) :=
  match getItem i.factItems measure.factId with
  | none => .error (.layer "semantic measure references an unknown fact/grain")
  | some fact => do
    raiseIf (getItem i.grainItems fact.grainSpecId).isNone
      "semantic measure references an unknown fact/grain"
    let roles := (timeRoles.filter (·.factId = fact.factId)).map TimeRole.timeRoleId
    let projected ← service.semanticMeasure fact roles measure
    let metric ← service.metricSpec i fact roles measure
    return (projected, metric)

/-- What the loop over the derived metrics reads of a metric it knows: its facts and its grains. -/
abbrev MetricGrain := String × (List String × List String)

/-- One round of the loop over the derived metrics, with the metrics known so far. -/
def checkDerivedMetric (metricIds measureIds : List String) (known : List MetricGrain)
    (derived : MetricSpec) : Except Raised (List MetricGrain) := do
  raiseIf (derived.availability = .available)
    "DERIVED_METRIC_NOT_EXECUTABLE_V1: derived metrics cannot be executable in V1"
  raiseIf (derived.metricKind ≠ .derived)
    "DERIVED_METRIC_REQUIRED: supplied derived metric is not marked DERIVED"
  raiseIf (derived.expression.metricRefs.any (· ∉ metricIds))
    "UNKNOWN_DERIVED_METRIC: ratio references an undeclared metric"
  raiseIf (derived.measureIds.any (· ∉ measureIds))
    "UNKNOWN_DERIVED_MEASURE: derived metric lineage references an undeclared measure"
  raiseIf (derived.expression.metricRefs.any fun r =>
      (getItem known r).any (· ≠ (derived.factIds, derived.grainIds)))
    "INCOMPATIBLE_GRAIN: derived metric references a different fact or grain"
  return known ++ [(derived.metricId, (derived.factIds, derived.grainIds))]

/-- The ids and hashes that the model is bound to. -/
def upstreamTexts : List String :=
  [i.plan.planId, i.plan.contentHash, i.plan.analyticalSpecPackageHash, i.plan.canonicalModelId,
    i.plan.canonicalModelContentHash, i.compiledPlan.compiledPlanId, i.compiledPlan.contentHash,
    i.materialization.artifactId, i.materialization.contentHash,
    i.materialization.targetConfigFingerprint]

/-- The parts of a semantic model. -/
structure ModelObjects where
  dimensions : List SemanticDimension
  measures : List SemanticMeasure
  metrics : List MetricSpec
  hierarchies : List DimensionHierarchy
  timeRoles : List TimeRole
  relationships : List SemanticRelationship

/-- The contract of the model: its objects have names of their own and refer to one another. -/
def semanticModel (objects : ModelObjects) : Except Raised SemanticModel :=
  validated "SemanticModel"
    ((∀ t ∈ upstreamTexts i, isText t = true) ∧
      ((objects.dimensions.map SemanticDimension.businessName ++
        objects.metrics.map MetricSpec.displayName).map service.casefold).Nodup ∧
      ReferencesAreClosed objects.dimensions objects.measures objects.metrics objects.hierarchies
        objects.timeRoles objects.relationships)
    fun h => {
      semanticModelId := service.modelDigest i
      contentHash := service.modelContentHash i
      analyticalPlanId := i.plan.planId
      analyticalPlanContentHash := i.plan.contentHash
      analyticalSpecPackageHash := i.plan.analyticalSpecPackageHash
      compiledPlanId := i.compiledPlan.compiledPlanId
      compiledPlanContentHash := i.compiledPlan.contentHash
      materializationArtifactId := i.materialization.artifactId
      materializationArtifactContentHash := i.materialization.contentHash
      targetConfigFingerprint := i.materialization.targetConfigFingerprint
      targetRelativePath := i.materialization.targetRelativePath
      dimensions := objects.dimensions
      measures := objects.measures
      metrics := objects.metrics
      hierarchies := objects.hierarchies
      timeRoles := objects.timeRoles
      relationships := objects.relationships
      closed := h.2.2 }

/-- The checks of the inputs against the plan. -/
def checkFamilies : Except Raised Unit := do
  raiseIf (i.dimensions = [] ∨ i.facts = [] ∨ i.grains = [] ∨ i.measures = [])
    "semantic model requires non-empty Step20 specification families"
  service.validateUpstream i
  raiseIf (¬ (sameSet (i.dimensions.map DimensionSpec.dimensionId) i.plan.materializedDimensionIds ∧
      sameSet (i.facts.map FactSpec.factId) i.plan.materializedFactIds))
    "semantic model specification IDs do not match the reviewed analytical plan"
  raiseIf (¬ (sameSet (i.grains.map GrainSpec.grainId) i.plan.grainSpecIds ∧
      sameSet (i.measures.map MeasureSpec.measureId) i.plan.measureSpecIds))
    "semantic model grain/measure IDs do not match the reviewed analytical plan"

/-- `build`: the whole model, or the first error. -/
def buildModel : Except Raised SemanticModel := do
  service.checkFamilies i
  let dimensions ← i.dimensions.mapM (service.semanticDimension i)
  let hierarchies ← (i.dimensions.filter hasCalendar).mapM semanticHierarchy
  let joins ← i.foreignKeys.mapM (service.foreignKeyObjects i)
  let timeRoles := joins.filterMap Prod.snd
  let measures ← i.measures.mapM (service.measureObjects i timeRoles)
  let metrics := measures.map Prod.snd
  let metricIds := metrics.map MetricSpec.metricId ++ i.derivedMetrics.map MetricSpec.metricId
  let measureIds := measures.map fun m => m.1.measureSpecId
  let _ ← i.derivedMetrics.foldlM (checkDerivedMetric metricIds measureIds)
    (metrics.map fun m => (m.metricId, (m.factIds, m.grainIds)))
  service.semanticModel i ⟨dimensions, measures.map Prod.fst, metrics ++ i.derivedMetrics,
    hierarchies, timeRoles, joins.map Prod.fst⟩

end SemanticLayerService

end DirtyDataOlap.Semantic

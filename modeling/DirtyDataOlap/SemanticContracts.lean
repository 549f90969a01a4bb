import DirtyDataOlap.AnalyticalCompiler

/-!
# The contracts of the semantic layer

The semantic model and the query contracts of `domain/contracts/semantic.py`.  A contract carries
what its validators check as fields, so that validating a value again returns it.  Names,
descriptions, lineage and provenance are left out.
-/
namespace DirtyDataOlap.Semantic

open Analytical

/-- The exceptions that leave the semantic layer: `SemanticLayerError`, its subclass
`SemanticStaleError`, a failed contract and a failed lookup. -/
inductive Raised
  | layer (message : String)
  | stale (message : String)
  | validation (message : String)
  | keyError (key : String)
deriving DecidableEq

/-- `if condition: raise SemanticLayerError(message)`. -/
def raiseIf (condition : Prop) [Decidable condition] (message : String) : Except Raised Unit :=
  if condition then .error (.layer message) else .ok ()

theorem raiseIf_eq_ok {condition : Prop} [Decidable condition] {message : String} {u : Unit} :
    raiseIf condition message = .ok u ↔ ¬ condition := by
  unfold raiseIf
  split_ifs with h <;> simp [h]

/-- `items[key]`. -/
def lookup {α : Type} (items : List (String × α)) (key : String) : Except Raised α :=
  match getItem items key with
  | some value => .ok value
  | none => .error (.keyError key)

/-- `[A-Z][A-Z0-9_]{0,31}`. -/
def isOperationName (text : String) : Bool :=
  match text.toList with
  | [] => false
  | c :: cs => c.isUpper && cs.all (fun c => c.isUpper || c.isDigit || c = '_') && cs.length ≤ 31

/-- Whether a metric can be used. -/
inductive SemanticAvailability
  | available | reviewRequired | unavailable
deriving DecidableEq

/-- Whether an attribute is shown. -/
inductive SemanticExposureState
  | exposed | implementationOnly
deriving DecidableEq

/-- Whether a join follows a relationship or a date. -/
inductive SemanticRelationshipScope
  | canonicalAccepted | analyticalTimeRole
deriving DecidableEq

/-- A measure, or made of other metrics. -/
inductive SemanticMetricKind
  | baseAggregate | derived
deriving DecidableEq

/-- What a ratio is where its denominator is zero. -/
inductive ZeroDenominatorBehavior
  | null | undefined | error

/-- How a filter compares. -/
inductive SemanticFilterOperator
  | equals | isIn | dateRange
deriving DecidableEq

/-- How a materialization ended. -/
inductive MaterializationStatus
  | succeeded | failed | nonConsumable
deriving DecidableEq

/-! ## Objects of a semantic model -/

/-- An attribute of a dimension. -/
structure SemanticAttribute where
  (semanticAttributeId name dimensionId physicalColumnRef logicalType : String)
  nullable : Bool
  exposureState : SemanticExposureState
  identifiersAreSafe : isIdentifier semanticAttributeId = true ∧ isIdentifier dimensionId = true ∧
    isIdentifier physicalColumnRef = true

/-- A dimension with its attributes. -/
structure SemanticDimension where
  (semanticDimensionId businessName physicalTableRef : String)
  role : DimensionRole
  attributes : List SemanticAttribute
  identifiersAreSafe : isIdentifier semanticDimensionId = true ∧ isIdentifier physicalTableRef = true
  attributesBelongToDimension : attributes ≠ [] ∧
    (∀ a ∈ attributes, a.dimensionId = semanticDimensionId) ∧
    (attributes.map SemanticAttribute.semanticAttributeId).Nodup

/-- A level of a hierarchy. -/
structure HierarchyLevel where
  (levelId semanticAttributeId : String)
  identifiersAreSafe : isIdentifier levelId = true ∧ isIdentifier semanticAttributeId = true

/-- The levels of a dimension, no attribute twice. -/
structure DimensionHierarchy where
  (hierarchyId dimensionId : String)
  levels : List HierarchyLevel
  identifiersAreSafe : isIdentifier hierarchyId = true ∧ isIdentifier dimensionId = true
  levelsAreDistinct : (levels.map HierarchyLevel.semanticAttributeId).Nodup

/-- A date column of a fact, with the dimension it joins. -/
structure TimeRole where
  (timeRoleId factId relationshipRef physicalDateColumn dateDimensionId : String)
  (dateDimensionAttributeId grainId : String)
  identifiersAreSafe : isIdentifier timeRoleId = true ∧ isIdentifier factId = true ∧
    isIdentifier relationshipRef = true ∧ isIdentifier physicalDateColumn = true ∧
    isIdentifier dateDimensionId = true ∧ isIdentifier dateDimensionAttributeId = true ∧
    isIdentifier grainId = true

/-- A measure of a fact. -/
structure SemanticMeasure where
  (semanticMeasureId factId measureSpecId physicalFactTableRef physicalFieldRef grainId : String)
  aggregationClass : AggregationClass
  (allowedAggregationOperations compatibleDimensionIds compatibleTimeRoleIds : List String)
  availability : SemanticAvailability
  failureReason : Option String
  identifiersAreSafe : isIdentifier semanticMeasureId = true ∧ isIdentifier factId = true ∧
    isIdentifier measureSpecId = true ∧ isIdentifier physicalFactTableRef = true ∧
    isIdentifier physicalFieldRef = true ∧ isIdentifier grainId = true
  operationsAreSafe : (∀ o ∈ allowedAggregationOperations, isOperationName o = true) ∧
    allowedAggregationOperations.Nodup
  aggregationIsNotLoosened : (aggregationClass = .nonAdditive → "SUM" ∉ allowedAggregationOperations) ∧
    (availability = .available → allowedAggregationOperations ≠ []) ∧
    (availability ≠ .available → failureReason.any (· ≠ "") = true)

/-- A validated `MetricExpression`: the aggregate of a measure or the ratio of two metrics. -/
inductive MetricExpression
  | aggregateMeasure (measureId aggregation : String)
  | ratio (numeratorMetricId denominatorMetricId : String)
      (zeroDenominatorBehavior : ZeroDenominatorBehavior) (resultUnitSemantics : String)

/-- The measure of an aggregate. -/
def MetricExpression.measureId : MetricExpression → Option String
  | .aggregateMeasure measureId _ => some measureId
  | .ratio .. => none

/-- The metrics of a ratio. -/
def MetricExpression.metricRefs : MetricExpression → List String
  | .aggregateMeasure .. => []
  | .ratio numeratorMetricId denominatorMetricId .. => [numeratorMetricId, denominatorMetricId]

/-- A metric: what it computes, and what it may be grouped by. -/
structure MetricSpec where
  (metricId semanticName displayName : String)
  metricKind : SemanticMetricKind
  (factIds grainIds measureIds : List String)
  expression : MetricExpression
  aggregationClass : Option AggregationClass
  (allowedAggregationOperations compatibleDimensionIds compatibleTimeRoleIds : List String)
  availability : SemanticAvailability
  failureReason : Option String
  identifiersAreSafe : isIdentifier metricId = true ∧ isIdentifier semanticName = true
  referenceIdsAreSafe : factIds ≠ [] ∧ grainIds ≠ [] ∧ measureIds ≠ [] ∧
    ∀ r ∈ factIds ++ grainIds ++ measureIds ++ compatibleDimensionIds ++ compatibleTimeRoleIds,
      isIdentifier r = true
  operationsAreSafe : (∀ o ∈ allowedAggregationOperations, isOperationName o = true) ∧
    allowedAggregationOperations.Nodup
  expressionIsConsistent :
    (metricKind = .baseAggregate → ∃ m ∈ measureIds, expression.measureId = some m) ∧
    (metricKind = .derived → availability ≠ .available) ∧
    (availability = .available → allowedAggregationOperations ≠ []) ∧
    (availability ≠ .available → failureReason.any (· ≠ "") = true) ∧
    (aggregationClass = some .nonAdditive → "SUM" ∉ allowedAggregationOperations)

/-- A join from a fact to a dimension. -/
structure SemanticRelationship where
  (relationshipId sourceSemanticObjectId targetSemanticObjectId : String)
  relationshipScope : SemanticRelationshipScope
  (cardinality physicalFactId physicalFactTable physicalFactColumn physicalDimensionId : String)
  (physicalDimensionTable physicalDimensionKeyColumn upstreamRelationshipRef : String)
  identifiersAreSafe : isIdentifier relationshipId = true ∧
    isIdentifier sourceSemanticObjectId = true ∧ isIdentifier targetSemanticObjectId = true ∧
    isIdentifier physicalFactId = true ∧ isIdentifier physicalFactTable = true ∧
    isIdentifier physicalFactColumn = true ∧ isIdentifier physicalDimensionId = true ∧
    isIdentifier physicalDimensionTable = true ∧ isIdentifier physicalDimensionKeyColumn = true

/-- `semantic_references_are_closed`, apart from the names of the objects. -/
structure ReferencesAreClosed (dimensions : List SemanticDimension) (measures : List SemanticMeasure)
    (metrics : List MetricSpec) (hierarchies : List DimensionHierarchy) (timeRoles : List TimeRole)
    (relationships : List SemanticRelationship) : Prop where
  nonempty : dimensions ≠ [] ∧ measures ≠ []
  dimensionIds : (dimensions.map SemanticDimension.semanticDimensionId).Nodup
  measureIds : (measures.map SemanticMeasure.measureSpecId).Nodup
  metricIds : (metrics.map MetricSpec.metricId).Nodup
  attributeIds : ((dimensions.flatMap SemanticDimension.attributes).map
    SemanticAttribute.semanticAttributeId).Nodup
  hierarchies : ∀ h ∈ hierarchies, ∃ d ∈ dimensions, d.semanticDimensionId = h.dimensionId ∧
    ∀ level ∈ h.levels, level.semanticAttributeId ∈ d.attributes.map
      SemanticAttribute.semanticAttributeId
  timeRoles : ∀ r ∈ timeRoles, r.factId ∈ measures.map SemanticMeasure.factId ∧
    ∃ d ∈ dimensions, d.semanticDimensionId = r.dateDimensionId ∧ d.role = .date ∧
      r.dateDimensionAttributeId ∈ d.attributes.map SemanticAttribute.semanticAttributeId
  metrics : ∀ m ∈ metrics, (∀ f ∈ m.factIds, f ∈ measures.map SemanticMeasure.factId) ∧
    (∀ i ∈ m.measureIds, i ∈ measures.map SemanticMeasure.measureSpecId) ∧
    (∀ i ∈ m.expression.measureId, i ∈ m.measureIds) ∧
    ∀ i ∈ m.expression.metricRefs, i ∈ metrics.map MetricSpec.metricId
  relationships : ∀ r ∈ relationships,
    r.sourceSemanticObjectId ∈ measures.map SemanticMeasure.factId ∧
      r.targetSemanticObjectId ∈ dimensions.map SemanticDimension.semanticDimensionId

/-- The whole model. -/
structure SemanticModel where
  (semanticModelId contentHash analyticalPlanId analyticalPlanContentHash : String)
  (analyticalSpecPackageHash compiledPlanId compiledPlanContentHash : String)
  (materializationArtifactId materializationArtifactContentHash targetConfigFingerprint : String)
  targetRelativePath : String
  dimensions : List SemanticDimension
  measures : List SemanticMeasure
  metrics : List MetricSpec
  hierarchies : List DimensionHierarchy
  timeRoles : List TimeRole
  relationships : List SemanticRelationship
  closed : ReferencesAreClosed dimensions measures metrics hierarchies timeRoles relationships

instance (dimensions : List SemanticDimension) (measures : List SemanticMeasure)
    (metrics : List MetricSpec) (hierarchies : List DimensionHierarchy) (timeRoles : List TimeRole)
    (relationships : List SemanticRelationship) :
    Decidable (ReferencesAreClosed dimensions measures metrics hierarchies timeRoles relationships) :=
  decidable_of_iff
    ((dimensions ≠ [] ∧ measures ≠ []) ∧
      (dimensions.map SemanticDimension.semanticDimensionId).Nodup ∧
      (measures.map SemanticMeasure.measureSpecId).Nodup ∧
      (metrics.map MetricSpec.metricId).Nodup ∧
      ((dimensions.flatMap SemanticDimension.attributes).map
        SemanticAttribute.semanticAttributeId).Nodup ∧
      (∀ h ∈ hierarchies, ∃ d ∈ dimensions, d.semanticDimensionId = h.dimensionId ∧
        ∀ level ∈ h.levels, level.semanticAttributeId ∈ d.attributes.map
          SemanticAttribute.semanticAttributeId) ∧
      (∀ r ∈ timeRoles, r.factId ∈ measures.map SemanticMeasure.factId ∧
        ∃ d ∈ dimensions, d.semanticDimensionId = r.dateDimensionId ∧ d.role = .date ∧
          r.dateDimensionAttributeId ∈ d.attributes.map SemanticAttribute.semanticAttributeId) ∧
      (∀ m ∈ metrics, (∀ f ∈ m.factIds, f ∈ measures.map SemanticMeasure.factId) ∧
        (∀ i ∈ m.measureIds, i ∈ measures.map SemanticMeasure.measureSpecId) ∧
        (∀ i ∈ m.expression.measureId, i ∈ m.measureIds) ∧
        ∀ i ∈ m.expression.metricRefs, i ∈ metrics.map MetricSpec.metricId) ∧
      ∀ r ∈ relationships, r.sourceSemanticObjectId ∈ measures.map SemanticMeasure.factId ∧
        r.targetSemanticObjectId ∈ dimensions.map SemanticDimension.semanticDimensionId)
    ⟨fun ⟨h1, h2, h3, h4, h5, h6, h7, h8, h9⟩ => ⟨h1, h2, h3, h4, h5, h6, h7, h8, h9⟩,
      fun ⟨h1, h2, h3, h4, h5, h6, h7, h8, h9⟩ => ⟨h1, h2, h3, h4, h5, h6, h7, h8, h9⟩⟩

/-- The values that a filter may have. -/
inductive SemanticValue
  | none
  | bool (b : Bool)
  | int (n : Int)
  | float (x : PyFloat)
  | decimal (d : Numeral)
  | str (text : String)
  | date (d : Date)
  | datetime (t : DateTime)
deriving DecidableEq

/-- A filter on an attribute, of a bounded shape. -/
structure SemanticFilter where
  attributeId : String
  operator : SemanticFilterOperator
  values : List SemanticValue
  attributeIdIsSafe : isIdentifier attributeId = true := by decide +kernel
  shapeIsBounded : values ≠ [] ∧ (operator = .equals → values.length = 1) ∧
    (operator = .dateRange → values.length = 2) := by decide +kernel

/-- One field of the order. -/
structure SemanticQuerySort where
  fieldId : String
  descending : Bool
  fieldIdIsSafe : isIdentifier fieldId = true := by decide +kernel

/-- A filter without its values. -/
structure SemanticQueryFilterShape where
  attributeId : String
  operator : SemanticFilterOperator
  valueCount : Nat
  logicalType : String
  nullValue : Bool
  attributeIdIsSafe : isIdentifier attributeId = true
  valueCountIsBounded : 1 ≤ valueCount ∧ valueCount ≤ 100
  shapeIsBounded : (operator = .equals → valueCount = 1) ∧ (operator = .dateRange → valueCount = 2) ∧
    (nullValue = true → operator = .equals)

/-- What is asked. -/
structure SemanticQueryRequest where
  requestId : String
  (metricIds dimensionIds groupByAttributeIds : List String)
  timeRoleId : Option String
  aggregationOverrides : List (String × String)
  filters : List SemanticFilter
  sort : List SemanticQuerySort
  limit : Nat
  identifiersAreSafe : isIdentifier requestId = true ∧ timeRoleId.all isIdentifier = true := by
    decide +kernel
  queryIdsAreSafe : ∀ i ∈ metricIds ++ dimensionIds ++ groupByAttributeIds,
    isIdentifier i = true := by decide +kernel
  queryIdsAreUnique : metricIds ≠ [] ∧ metricIds.Nodup ∧ dimensionIds.Nodup ∧
    groupByAttributeIds.Nodup := by decide +kernel
  overridesAreSafe : ∀ o ∈ aggregationOverrides, isIdentifier o.1 = true ∧
    isOperationName o.2 = true := by decide +kernel
  limitIsBounded : 0 < limit ∧ limit ≤ 10000 := by decide +kernel

/-- How it will be answered. -/
structure SemanticQueryPlan where
  (queryPlanId requestId semanticModelId semanticModelContentHash : String)
  (metricIds dimensionIds factIds grainIds joinPathRelationshipIds : List String)
  groupByAttributeIds : List String
  timeRoleId : Option String
  (aggregationOperations physicalBindings : List (String × String))
  filterShapes : List SemanticQueryFilterShape
  sortSpecs : List SemanticQuerySort
  (limit parameterCount : Nat)
  parameterLogicalTypes : List String
  (sqlTemplate queryHash : String)

/-- `text.startswith("SELECT ")` in upper case, and no semicolon. -/
def isReadOnly (sqlTemplate : String) : Bool :=
  let statement := Numeral.strip sqlTemplate.toList
  "SELECT ".toList.isPrefixOf (upper (String.ofList statement)).toList && !statement.contains ';'

/-- The validators of `SemanticQueryPlan`. -/
def SemanticQueryPlan.isValid (plan : SemanticQueryPlan) : Bool :=
  plan.metricIds ≠ [] && plan.factIds ≠ [] && plan.grainIds ≠ [] && 0 < plan.limit &&
    plan.limit ≤ 10000 && plan.parameterCount = plan.parameterLogicalTypes.length &&
    isReadOnly plan.sqlTemplate

/-- A plan with its parameters. -/
structure SemanticQueryCompilation where
  queryPlan : SemanticQueryPlan
  parameters : List SemanticValue

end DirtyDataOlap.Semantic

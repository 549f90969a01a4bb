import DirtyDataOlap.SemanticLayer

/-!
# Query compilation of the semantic layer

`compile_query`: a request is resolved against a semantic model into the statement of its query
plan, whose text is the SQL template.  Filters are read twice: where the dimensions are selected,
and where the conditions are written.
-/
namespace DirtyDataOlap.Semantic

open Analytical Sql

/-- The upstream artifacts that a caller may pass to have a model checked against them. -/
structure CurrentArtifacts where
  analyticalPlan : Option AnalyticalPlan
  compiledPlan : Option CompiledPlan
  materialization : Option MaterializationArtifact

/-- `if condition: raise SemanticStaleError(message)`. -/
def staleIf (condition : Prop) [Decidable condition] (message : String) : Except Raised Unit :=
  if condition then .error (.stale message) else .ok ()

variable (model : SemanticModel)

/-- The artifacts that the model was built from are still the current ones. -/
def assertCurrent (current : CurrentArtifacts) : Except Raised Unit := do
  staleIf (current.analyticalPlan.any fun plan => plan.planId ≠ model.analyticalPlanId ||
      plan.contentHash ≠ model.analyticalPlanContentHash ||
      plan.analyticalSpecPackageHash ≠ model.analyticalSpecPackageHash)
    "STALE_ANALYTICAL_PLAN: semantic model must be regenerated"
  staleIf (current.compiledPlan.any fun plan => plan.compiledPlanId ≠ model.compiledPlanId ||
      plan.contentHash ≠ model.compiledPlanContentHash ||
      plan.analyticalSpecPackageHash ≠ model.analyticalSpecPackageHash)
    "STALE_COMPILED_PLAN: semantic model must be regenerated"
  staleIf (current.materialization.any fun artifact =>
      artifact.artifactId ≠ model.materializationArtifactId ||
      artifact.contentHash ≠ model.materializationArtifactContentHash ||
      artifact.targetRelativePath ≠ model.targetRelativePath ||
      artifact.targetConfigFingerprint ≠ model.targetConfigFingerprint ||
      artifact.status ≠ .succeeded || !artifact.usable)
    "STALE_TARGET: semantic model must be regenerated for the current materialization"

/-- `_value_matches_type`, for a value that is not null. -/
def valueMatchesType (value : SemanticValue) (logicalType : String) : Bool :=
  let logical := upper logicalType
  if logical = "STRING" ∨ logical = "STRING_LIST" then
    match value with
    | .str _ => true
    | _ => false
  else if logical = "INTEGER" ∨ logical = "BIGINT" then
    match value with
    | .int _ => true
    | _ => false
  else if logical = "DECIMAL" ∨ logical = "FLOAT" then
    match value with
    | .int _ | .float _ | .decimal _ => true
    | _ => false
  else if logical = "BOOLEAN" then
    match value with
    | .bool _ => true
    | _ => false
  else if logical = "DATE" then
    match value with
    | .date _ | .datetime _ => true
    | _ => false
  else if logical = "DATETIME" ∨ logical = "TIMESTAMP" then
    match value with
    | .datetime _ => true
    | _ => false
  else false

/-- The type under which a filter value is compared. -/
def normalized : SemanticValue → String
  | .datetime _ => "DATETIME"
  | .date _ => "DATE"
  | .bool _ => "BOOLEAN"
  | .int _ => "INTEGER"
  | .decimal _ | .float _ => "DECIMAL"
  | .str _ => "STRING"
  | .none => "NULL"

/-- A value in `model_dump(mode="json")`: what JSON has no type for is a text. -/
def SemanticLayerService.jsonMode (service : SemanticLayerService) : SemanticValue → SemanticValue
  | .decimal d => .str d.str
  | .date d => .str d.isoformat
  | .datetime t => .str (service.datetimeText t)
  | value => value

variable (request : SemanticQueryRequest)

/-- The metrics of the request, all declared and available. -/
def selectedMetrics : Except Raised (List MetricSpec) := do
  raiseIf (request.metricIds.any (getItem model.metricItems · |>.isNone))
    "UNKNOWN_METRIC: semantic query may select only declared metrics"
  let metrics ← request.metricIds.mapM (lookup model.metricItems)
  raiseIf (metrics.any (·.metricKind = .derived))
    "DERIVED_METRIC_NOT_EXECUTABLE_V1: derived metrics have no V1 executable compiler"
  match metrics.find? (·.availability ≠ .available) with
  | some unavailable =>
    -- a metric that is not available has a reason by its contract
    throw (.layer (unavailable.failureReason.getD "UNAVAILABLE_METRIC"))
  | none => return metrics

section

variable (metrics : List MetricSpec)

/-- The one fact and grain of all metrics. -/
def selectedFact : Except Raised (String × String) :=
  match (metrics.flatMap MetricSpec.factIds).dedup, (metrics.flatMap MetricSpec.grainIds).dedup with
  | [factId], [grainId] => .ok (factId, grainId)
  | _, _ => .error (.layer
      "INCOMPATIBLE_GRAIN: cross-fact or cross-grain metric combinations are disabled in V1")

/-- `if dimension_id not in selected_dimension_ids: selected_dimension_ids.append(dimension_id)`. -/
def addDimension (selected : List String) (dimensionId : String) : List String :=
  if dimensionId ∈ selected then selected else selected ++ [dimensionId]

/-- The dimensions of the grouping attributes, in order. -/
def groupDimensions : Except Raised (List String) :=
  request.groupByAttributeIds.foldlM (fun selected attributeId =>
    match getItem model.attributeItems attributeId with
    | none => .error (.layer "UNKNOWN_ATTRIBUTE: semantic query may select only declared attributes")
    | some groupBy => .ok (addDimension selected groupBy.dimensionId)) request.dimensionIds

/-- The selected dimensions are declared, and every metric can be sliced by them. -/
def checkDimensions (selected : List String) : Except Raised Unit := do
  raiseIf (selected.any (getItem model.dimensionItems · |>.isNone))
    "UNKNOWN_DIMENSION: semantic query may select only declared dimensions"
  raiseIf (metrics.any fun metric => selected.any (· ∉ metric.compatibleDimensionIds))
    "INCOMPATIBLE_DIMENSION: selected dimension cannot safely slice the metric"

/-- The time role of the request, if it fits the fact. -/
def selectedTimeRole (factId : String) : Except Raised (Option TimeRole) := do
  let timeRole ← match request.timeRoleId with
    | none => .ok none
    | some timeRoleId =>
      let message := "INCOMPATIBLE_TIME_ROLE: time role is not compatible with selected metrics"
      match model.timeRoles.find? (·.timeRoleId = timeRoleId) with
      | none => .error (.layer message)
      | some timeRole =>
        if timeRole.factId ≠ factId ∨ metrics.any (timeRoleId ∉ ·.compatibleTimeRoleIds) then
          .error (.layer message)
        else .ok (some timeRole)
  raiseIf (metrics.any (·.aggregationClass = some .semiAdditive) ∧ timeRole.isNone)
    "SEMI_ADDITIVE_TIME_SCOPE_REQUIRED: semi-additive metrics require an explicit time role"
  return timeRole

abbrev FilterAttribute := SemanticFilter × SemanticAttribute

/-- The values of a filter have the type of its attribute. -/
def checkFilterValues (filter : SemanticFilter) (filtered : SemanticAttribute) :
    Except Raised Unit := do
  raiseIf (filter.values.any fun value =>
      value ≠ .none && !valueMatchesType value filtered.logicalType)
    ("FILTER_TYPE_MISMATCH: " ++ filtered.semanticAttributeId)
  raiseIf (filter.operator = .dateRange ∧ .none ∈ filter.values)
    "FILTER_TYPE_MISMATCH: date ranges cannot contain null"

/-- One round of the loop over the filters. -/
def selectFilter (selected : List String) (filter : SemanticFilter) :
    Except Raised (List String × FilterAttribute) := do
  match getItem model.attributeItems filter.attributeId with
  | none => throw (.layer "UNKNOWN_FILTER_ATTRIBUTE: filter must use a declared semantic attribute")
  | some filtered =>
    raiseIf (filtered.exposureState ≠ .exposed)
      "IMPLEMENTATION_ONLY_ATTRIBUTE: implementation lineage fields are not queryable"
    raiseIf (metrics.any (filtered.dimensionId ∉ ·.compatibleDimensionIds))
      "INCOMPATIBLE_DIMENSION: filter dimension cannot safely reach the metric"
    checkFilterValues filter filtered
    return (addDimension selected filtered.dimensionId, (filter, filtered))

/-- The loop over the filters. -/
def selectFilters (model : SemanticModel) (metrics : List MetricSpec) :
    List SemanticFilter → (selected : List String) → Except Raised (List String × List FilterAttribute)
  | [], selected => .ok (selected, [])
  | filter :: filters, selected => do
    let (selected, first) ← selectFilter model metrics selected filter
    let (selected, rest) ← selectFilters model metrics filters selected
    return (selected, first :: rest)

/-- The relationship by which a dimension is joined. -/
def selectRelationship (factId : String) (timeRole : Option TimeRole) (dimensionId : String) :
    Except Raised SemanticRelationship :=
  let candidates : List SemanticRelationship := model.relationships.filter fun r =>
    r.sourceSemanticObjectId = factId && r.targetSemanticObjectId = dimensionId
  let candidates : List SemanticRelationship := match timeRole with
    | some role =>
      if dimensionId = role.dateDimensionId then
        candidates.filter fun r => r.upstreamRelationshipRef = role.relationshipRef
      else candidates
    | none => candidates
  match candidates with
  | [relationship] => do
    raiseIf (relationship.relationshipScope = .canonicalAccepted ∧
        relationship.cardinality ≠ "MANY_TO_ONE")
      "UNSAFE_FANOUT: only reviewed many-to-one dimension joins are supported"
    return relationship
  | _ => .error (.layer
      "AMBIGUOUS_RELATIONSHIP: explicit time role is required for multiple physical roles")

/-- The grouping attributes, all exposed. -/
def namedGroups : Except Raised (List SemanticAttribute) :=
  request.groupByAttributeIds.mapM fun attributeId => do
    let groupBy ← lookup model.attributeItems attributeId
    raiseIf (groupBy.exposureState ≠ .exposed)
      "IMPLEMENTATION_ONLY_ATTRIBUTE: cannot group by lineage-only fields"
    return groupBy

/-- A semi-additive metric is grouped or filtered within its time role. -/
def checkTimeScope (timeRole : Option TimeRole) (groups filtered : List SemanticAttribute) :
    Except Raised Unit :=
  let withinTimeRole := (groups ++ filtered).any fun a =>
    timeRole.any fun role => a.dimensionId = role.dateDimensionId
  raiseIf (metrics.any (·.aggregationClass = some .semiAdditive) ∧ withinTimeRole = false)
    "SEMI_ADDITIVE_TIME_SCOPE_REQUIRED: query must group or filter within the reviewed time role"

end

/-- The attribute that stands for a selected dimension where no grouping is named. -/
def defaultGroup (dimensionId : String) : Except Raised SemanticAttribute := do
  let dimension ← lookup model.dimensionItems dimensionId
  match dimension.attributes.find? (·.exposureState = .exposed) with
  | some candidate => return candidate
  | none => throw (.layer
      "NO_EXPOSED_ATTRIBUTE: selected dimension has no business-readable attribute")

/-- The grouping attributes; a dimension without any gets its default. -/
def groupAttributes (selected : List String) (named : List SemanticAttribute) :
    Except Raised (List SemanticAttribute) := do
  let groups ← if selected ≠ [] ∧ named = [] then selected.mapM (defaultGroup model) else .ok named
  raiseIf (¬ (groups.map SemanticAttribute.semanticAttributeId).Nodup) "DUPLICATE_GROUP_ATTRIBUTE"
  return groups

/-! ## The parts of the statement -/

section

variable (aliases : List (String × String))

/-- The column of an attribute under the alias of its dimension. -/
def columnRef (a : SemanticAttribute) : ColumnRef :=
  ⟨(getItem aliases a.dimensionId).getD "", a.physicalColumnRef⟩

/-- What a grouping attribute contributes: its column of the statement and its physical binding. -/
def groupPart (groupBy : SemanticAttribute) : Except Raised (GroupColumn × (String × String)) := do
  let dimension ← lookup model.dimensionItems groupBy.dimensionId
  return (⟨columnRef aliases groupBy, groupBy.semanticAttributeId⟩,
    (groupBy.semanticAttributeId, dimension.physicalTableRef ++ "." ++ groupBy.physicalColumnRef))

/-- What a metric contributes: its aggregate, the table it reads and its physical binding. -/
structure MetricColumn where
  aggregate : Aggregate
  factTable : String
  binding : String × String

/-- One round of the loop over the metrics. A selected metric is available and so has an operation. -/
def metricPart (metric : MetricSpec) : Except Raised MetricColumn := do
  let operation := (getItem request.aggregationOverrides metric.metricId).getD
    (metric.allowedAggregationOperations.headD "")
  raiseIf (operation ∉ metric.allowedAggregationOperations ∨ operation ∉ aggregateSql)
    ("UNSUPPORTED_AGGREGATION: " ++ metric.displayName ++ " cannot execute " ++ operation)
  let measure ← lookup model.measureItems (metric.expression.measureId.getD "")
  return ⟨⟨operation, ⟨"f", measure.physicalFieldRef⟩, metric.metricId⟩, measure.physicalFactTableRef,
    (metric.metricId, measure.physicalFactTableRef ++ "." ++ measure.physicalFieldRef)⟩

/-- One `LEFT JOIN`. -/
def joinPart (relationship : SemanticRelationship) : LeftJoin where
  table := relationship.physicalDimensionTable
  left := ⟨"f", relationship.physicalFactColumn⟩
  right := ⟨(getItem aliases relationship.targetSemanticObjectId).getD "",
    relationship.physicalDimensionKeyColumn⟩

/-- What a filter contributes to the `WHERE` clause, with the values and types of its parameters. -/
structure WherePart where
  condition : Condition
  parameters : List SemanticValue
  parameterTypes : List String

/-- One condition with its parameters. -/
def wherePart (item : FilterAttribute) : Except Raised WherePart :=
  let (filter, filtered) := item
  let column := columnRef aliases filtered
  match filter.operator with
  | .equals =>
    if filter.values.head? = some .none then
      if filtered.nullable then .ok ⟨.isNull column, [], []⟩
      else .error (.layer "NULL_FILTER_ON_NON_NULLABLE_ATTRIBUTE")
    else .ok ⟨.equals column, filter.values, filter.values.map fun _ => filtered.logicalType⟩
  | .isIn => .ok ⟨.isIn column filter.values.length, filter.values,
      filter.values.map fun _ => filtered.logicalType⟩
  | .dateRange => .ok ⟨.between column, filter.values, filter.values.map fun _ => filtered.logicalType⟩

end

/-- One field of the order. -/
def sortPart (fields : List String) (sort : SemanticQuerySort) : Except Raised SortKey := do
  raiseIf (sort.fieldId ∉ fields) "UNKNOWN_SORT_FIELD: sort must use a selected semantic field"
  return ⟨sort.fieldId, sort.descending⟩

/-- A filter without its values, if its contract accepts it. -/
def filterShape (item : FilterAttribute) : Except Raised SemanticQueryFilterShape :=
  let nullValue := decide (item.1.operator = .equals) && decide (item.1.values.head? = some .none)
  if h : item.1.values.length ≤ 100 then
    .ok { attributeId := item.1.attributeId
          operator := item.1.operator
          valueCount := item.1.values.length
          logicalType := item.2.logicalType
          nullValue := nullValue
          attributeIdIsSafe := item.1.attributeIdIsSafe
          valueCountIsBounded := ⟨List.length_pos_iff.2 item.1.shapeIsBounded.1, h⟩
          shapeIsBounded := ⟨item.1.shapeIsBounded.2.1, item.1.shapeIsBounded.2.2, fun hnull => by
            rw [Bool.and_eq_true, decide_eq_true_eq] at hnull
            exact hnull.1⟩ }
  else .error (.validation "SemanticQueryFilterShape.value_count")

namespace SemanticLayerService

variable (service : SemanticLayerService)

variable (model : SemanticModel) (request : SemanticQueryRequest)

/-- What the hash of a query is taken over. -/
def queryPayload (sql : String) (parameterTypes : List String) : QueryPayload where
  model := model.contentHash
  requestId := request.requestId
  metricIds := request.metricIds
  dimensionIds := request.dimensionIds
  groupByAttributeIds := request.groupByAttributeIds
  timeRoleId := request.timeRoleId
  aggregationOverrides := request.aggregationOverrides
  filters := request.filters.map fun filter =>
    ⟨filter.attributeId, filter.operator,
      filter.values.map fun value => normalized (service.jsonMode value)⟩
  sort := request.sort.map fun sort => (sort.fieldId, sort.descending)
  limit := request.limit
  sql := sql
  parameterTypes := parameterTypes

/-- What the first half of the compilation selects. -/
structure Selection where
  metrics : List MetricSpec
  factId : String
  grainId : String
  dimensionIds : List String
  relationships : List SemanticRelationship
  groups : List SemanticAttribute
  filters : List FilterAttribute

/-- The first half of `compile_query`. -/
def select : Except Raised Selection := do
  let metrics ← selectedMetrics model request
  let (factId, grainId) ← selectedFact metrics
  let selected ← groupDimensions model request
  checkDimensions model metrics selected
  let timeRole ← selectedTimeRole model request metrics factId
  let (selected, filters) ← selectFilters model metrics request.filters selected
  let relationships ← selected.mapM (selectRelationship model factId timeRole)
  let named ← namedGroups model request
  checkTimeScope metrics timeRole named (filters.map Prod.snd)
  let groups ← groupAttributes model selected named
  return ⟨metrics, factId, grainId, selected, relationships, groups, filters⟩

/-- A statement with the bindings of its columns and parameters. -/
structure Statement where
  statement : SelectStatement
  bindings : List (String × String)
  operations : List (String × String)
  whereParts : List WherePart

/-- The part of `compile_query` that writes the SQL. -/
def writeStatement (selection : Selection) : Except Raised Statement := do
  let aliases := aliasesOf selection.dimensionIds
  let groups ← selection.groups.mapM (groupPart model aliases)
  let metrics ← selection.metrics.mapM (metricPart model request)
  let whereParts ← selection.filters.mapM (wherePart aliases)
  let fields := selection.groups.map SemanticAttribute.semanticAttributeId ++
    selection.metrics.map MetricSpec.metricId
  let sort ← request.sort.mapM (sortPart fields)
  return {
    statement := {
      groups := groups.map Prod.fst
      aggregates := metrics.map MetricColumn.aggregate
      table := (metrics.head?.map MetricColumn.factTable).getD ""
      scope := "f"
      joins := selection.relationships.map (joinPart aliases)
      conditions := whereParts.map WherePart.condition
      order := sort
      limit := request.limit }
    bindings := groups.map Prod.snd ++ metrics.map MetricColumn.binding
    operations := metrics.map fun part => (part.aggregate.name, part.aggregate.operation)
    whereParts := whereParts }

/-- The plan of a query, with its id and hash. -/
def queryPlan (selection : Selection) (written : Statement) : Except Raised SemanticQueryPlan := do
  let parameterTypes := written.whereParts.flatMap WherePart.parameterTypes
  let payload := service.queryPayload model request written.statement.text parameterTypes
  let shapes ← selection.filters.mapM filterShape
  let plan : SemanticQueryPlan := {
    queryPlanId := service.queryPlanId payload
    requestId := request.requestId
    semanticModelId := model.semanticModelId
    semanticModelContentHash := model.contentHash
    metricIds := request.metricIds
    dimensionIds := selection.dimensionIds
    factIds := [selection.factId]
    grainIds := [selection.grainId]
    joinPathRelationshipIds := selection.relationships.map SemanticRelationship.relationshipId
    groupByAttributeIds := selection.groups.map SemanticAttribute.semanticAttributeId
    timeRoleId := request.timeRoleId
    aggregationOperations := written.operations
    physicalBindings := written.bindings
    filterShapes := shapes
    sortSpecs := request.sort
    limit := request.limit
    parameterCount := (written.whereParts.flatMap WherePart.parameters).length
    parameterLogicalTypes := parameterTypes
    sqlTemplate := written.statement.text
    queryHash := service.queryHash payload }
  if plan.isValid then return plan else throw (.validation "SemanticQueryPlan")

/-- The plan is written again by the trusted renderer. -/
def checkRendered (plan : SemanticQueryPlan) : Except Raised Unit :=
  match renderSemanticQuerySql model plan with
  | .error (.rejected message) => .error (.layer ("INTERNAL_SEMANTIC_RENDER_REJECTED: " ++ message))
  | .error (.keyError key) => .error (.keyError key)
  | .ok trusted => raiseIf (trusted ≠ plan.sqlTemplate)
      "INTERNAL_SEMANTIC_RENDER_MISMATCH: compiler output is not structurally renderable"

/-- `compile_query`: a statement with placeholders, and the parameters for them. -/
def compileQuery (current : CurrentArtifacts) (request : SemanticQueryRequest) :
    Except Raised SemanticQueryCompilation := do
  assertCurrent model current
  let selection ← select model request
  let written ← writeStatement model request selection
  let plan ← service.queryPlan model request selection written
  checkRendered model plan
  return ⟨plan, written.whereParts.flatMap WherePart.parameters⟩

end SemanticLayerService

end DirtyDataOlap.Semantic

import DirtyDataOlap.SemanticContracts
import DirtyDataOlap.SelectStatements

/-!
# The trusted renderer

`render_semantic_query_sql` of `domain/semantic_query_renderer.py`: the SQL text that a semantic model
and a structured query plan stand for, with every check the renderer makes on the way. Validating a
model and a plan again returns them, as far as they were valid.
-/
namespace DirtyDataOlap.Semantic

open Analytical Sql

/-- The exceptions that leave the renderer. -/
inductive RenderRaised
  | rejected (message : String)
  | keyError (key : String)

/-- `{d: f"d{index}" for index, d in enumerate(dimension_ids)}`. -/
def aliasesOf (dimensionIds : List String) : List (String × String) :=
  dimensionIds.zipIdx.map fun item => (item.1, "d" ++ toString item.2)

/-- The lines of a query: its clauses joined, those without parts left out. -/
def assembleSql (selectParts : List String) (factTable : String) (joinParts whereParts groupParts
    sortParts : List String) (limit : Nat) : String :=
  String.intercalate "\n" (
    ["SELECT " ++ String.intercalate ", " selectParts, "FROM " ++ factTable ++ " AS f"] ++ joinParts ++
      clause "WHERE " " AND " whereParts ++ clause "GROUP BY " ", " groupParts ++
      clause "ORDER BY " ", " sortParts ++ ["LIMIT " ++ toString limit])

namespace SemanticModel

variable (model : SemanticModel)

def attributes : List SemanticAttribute := model.dimensions.flatMap SemanticDimension.attributes

def metricItems : List (String × MetricSpec) := model.metrics.map fun m => (m.metricId, m)

def dimensionItems : List (String × SemanticDimension) :=
  model.dimensions.map fun d => (d.semanticDimensionId, d)

def attributeItems : List (String × SemanticAttribute) :=
  model.attributes.map fun a => (a.semanticAttributeId, a)

def relationshipItems : List (String × SemanticRelationship) :=
  model.relationships.map fun r => (r.relationshipId, r)

def measureItems : List (String × SemanticMeasure) := model.measures.map fun m => (m.measureSpecId, m)

end SemanticModel

namespace Renderer

def reject (condition : Prop) [Decidable condition] (message : String) : Except RenderRaised Unit :=
  if condition then .error (.rejected message) else .ok ()

/-- A lookup whose failure is reported as `message`. -/
def lookupOr {α : Type} (message : String) (items : List (String × α)) (key : String) :
    Except RenderRaised α :=
  match getItem items key with
  | some value => .ok value
  | none => .error (.rejected message)

/-- `items[key]`. -/
def lookup {α : Type} (items : List (String × α)) (key : String) : Except RenderRaised α :=
  match getItem items key with
  | some value => .ok value
  | none => .error (.keyError key)

/-- A quoted identifier, or a refusal. -/
def quoted (identifier : String) : Except RenderRaised String := do
  reject (identifier = "" ∨ '"' ∈ identifier.toList ∨ Char.ofNat 0 ∈ identifier.toList)
    "unsafe physical identifier in semantic query structure"
  return "\"" ++ identifier ++ "\""

def aggregateSql : List String := ["SUM", "MAX", "MIN", "AVG", "COUNT"]

variable (model : SemanticModel) (plan : SemanticQueryPlan)

/-- The checks of a plan against itself and the model it is bound to. -/
def checkStructure : Except RenderRaised Unit := do
  reject (plan.isValid = false) "INVALID_SEMANTIC_QUERY_STRUCTURE"
  reject (plan.semanticModelId ≠ model.semanticModelId ∨
      plan.semanticModelContentHash ≠ model.contentHash)
    "STALE_SEMANTIC_MODEL: query plan is not bound to this model"
  reject (¬ plan.metricIds.Nodup) "DUPLICATE_METRIC: metric IDs must be unique"
  reject (¬ plan.dimensionIds.Nodup) "DUPLICATE_DIMENSION: dimension IDs must be unique"
  reject (¬ plan.groupByAttributeIds.Nodup)
    "DUPLICATE_GROUP_ATTRIBUTE: group attributes must be unique"
  reject (¬ plan.joinPathRelationshipIds.Nodup) "DUPLICATE_RELATIONSHIP: join paths must be unique"

def selectMetrics : Except RenderRaised (List MetricSpec) := do
  let selectedMetrics ← plan.metricIds.mapM
    (lookupOr "UNKNOWN_METRIC: query references an undeclared metric" model.metricItems)
  reject (selectedMetrics.any (·.metricKind = .derived))
    "DERIVED_METRIC_NOT_EXECUTABLE_V1: derived metrics are not executable"
  match selectedMetrics.find? (·.availability ≠ .available) with
  | some unavailable => throw (.rejected (unavailable.failureReason.getD "UNAVAILABLE_METRIC"))
  | none => return selectedMetrics

def selectFact (selectedMetrics : List MetricSpec) : Except RenderRaised (String × String) :=
  match plan.factIds, plan.grainIds with
  | [factId], [grainId] => do
    reject (selectedMetrics.any fun metric =>
        metric.factIds ≠ [factId] || metric.grainIds ≠ [grainId])
      "INCOMPATIBLE_GRAIN: metric bindings do not match the query plan"
    return (factId, grainId)
  | _, _ => .error (.rejected "INCOMPATIBLE_GRAIN: query must bind one fact and grain")

def selectGroups : Except RenderRaised (List SemanticAttribute) := do
  let _ ← plan.dimensionIds.mapM
    (lookupOr "UNKNOWN_DIMENSION: query references an undeclared dimension" model.dimensionItems)
  let groupAttributes ← plan.groupByAttributeIds.mapM
    (lookupOr "UNKNOWN_ATTRIBUTE: query references an undeclared attribute" model.attributeItems)
  reject (groupAttributes.any (·.exposureState ≠ .exposed))
    "IMPLEMENTATION_ONLY_ATTRIBUTE: query cannot expose implementation fields"
  reject (groupAttributes.any fun a => a.dimensionId ∉ plan.dimensionIds)
    "ATTRIBUTE_DIMENSION_MISMATCH: group attribute is outside the query dimensions"
  return groupAttributes

/-- The joins of a plan. A relationship has one of the two allowed scopes by its type. -/
def selectJoins (factId : String) : Except RenderRaised (List SemanticRelationship) := do
  let joinPath ← plan.joinPathRelationshipIds.mapM
    (lookupOr "UNKNOWN_RELATIONSHIP: query references an undeclared join path"
      model.relationshipItems)
  reject (joinPath.map SemanticRelationship.targetSemanticObjectId ≠ plan.dimensionIds)
    "UNDECLARED_JOIN_PATH: join path does not exactly cover selected dimensions"
  reject (joinPath.any (·.sourceSemanticObjectId ≠ factId))
    "UNDECLARED_JOIN_PATH: join path does not originate at the selected fact"
  return joinPath

/-- The time role of a plan fits its fact and its joins. -/
def checkTimeRole (factId : String) (joinPath : List SemanticRelationship) :
    Except RenderRaised Unit :=
  match plan.timeRoleId with
  | none => .ok ()
  | some timeRoleId =>
    match model.timeRoles.find? (·.timeRoleId = timeRoleId) with
    | none => .error (.rejected
        "INCOMPATIBLE_TIME_ROLE: query time role is not bound to the selected fact")
    | some timeRole => do
      reject (timeRole.factId ≠ factId)
        "INCOMPATIBLE_TIME_ROLE: query time role is not bound to the selected fact"
      reject (timeRole.dateDimensionId ∈ plan.dimensionIds ∧
          (joinPath.filter fun r => r.targetSemanticObjectId = timeRole.dateDimensionId &&
            r.upstreamRelationshipRef = timeRole.relationshipRef).length ≠ 1)
        "INCOMPATIBLE_TIME_ROLE: query join does not use the declared time role"

/-- What a selected field contributes: its part of the select list, its part of the grouping and its
physical binding. -/
structure GroupPart where
  select : String
  group : String
  binding : String × String

variable (aliases : List (String × String))

def renderGroup (groupBy : SemanticAttribute) : Except RenderRaised GroupPart := do
  let scope ← lookup aliases groupBy.dimensionId
  let column ← quoted groupBy.physicalColumnRef
  let name ← quoted groupBy.semanticAttributeId
  let dimension ← lookup model.dimensionItems groupBy.dimensionId
  let expression := scope ++ "." ++ column
  return ⟨expression ++ " AS " ++ name, expression, (groupBy.semanticAttributeId,
    dimension.physicalTableRef ++ "." ++ groupBy.physicalColumnRef)⟩

structure MetricPart where
  select : String
  binding : String × String

/-- One round of the loop over the metrics, with the fact table met so far. -/
def renderMetric (factId grainId : String) (factTable : Option String) (metric : MetricSpec) :
    Except RenderRaised (MetricPart × String) := do
  let measureId := metric.expression.measureId.getD ""
  reject (measureId = "")
    "DERIVED_METRIC_NOT_EXECUTABLE_V1: executable metrics require an aggregate measure"
  let measure ← lookupOr "UNKNOWN_MEASURE: metric references an undeclared semantic measure"
    model.measureItems measureId
  reject (measure.factId ≠ factId ∨ measure.grainId ≠ grainId)
    "INCOMPATIBLE_GRAIN: measure binding does not match the query plan"
  let operation ← lookupOr "UNSUPPORTED_AGGREGATION: query operation is not reviewed for the metric"
    plan.aggregationOperations metric.metricId
  reject (operation ∉ metric.allowedAggregationOperations ∨ operation ∉ aggregateSql)
    "UNSUPPORTED_AGGREGATION: query operation is not reviewed for the metric"
  reject (factTable.any (· ≠ measure.physicalFactTableRef))
    "INCOMPATIBLE_FACT: selected metrics use different physical facts"
  let field ← quoted measure.physicalFieldRef
  let name ← quoted metric.metricId
  return (⟨operation ++ "(f." ++ field ++ ") AS " ++ name,
    (metric.metricId, measure.physicalFactTableRef ++ "." ++ measure.physicalFieldRef)⟩,
    measure.physicalFactTableRef)

/-- The loop over the metrics. -/
def renderMetrics (model : SemanticModel) (plan : SemanticQueryPlan) (factId grainId : String) :
    List MetricSpec → Option String → Except RenderRaised (List MetricPart × Option String)
  | [], factTable => .ok ([], factTable)
  | metric :: metrics, factTable => do
    let (part, table) ← renderMetric model plan factId grainId factTable metric
    let (parts, table) ← renderMetrics model plan factId grainId metrics (some table)
    return (part :: parts, table)

/-- A join must be one that the model declares, of this fact. -/
def checkJoin (factId factTable : String) (relationship : SemanticRelationship) :
    Except RenderRaised Unit := do
  let dimension ← lookup model.dimensionItems relationship.targetSemanticObjectId
  reject (relationship.physicalFactId ≠ factId ∨ relationship.physicalFactTable ≠ factTable)
    "PHYSICAL_BINDING_MISMATCH: relationship fact binding differs from the selected fact"
  reject (relationship.physicalDimensionId ≠ dimension.semanticDimensionId ∨
      relationship.physicalDimensionTable ≠ dimension.physicalTableRef)
    "PHYSICAL_BINDING_MISMATCH: relationship dimension binding differs from the selected dimension"

def renderJoin (relationship : SemanticRelationship) : Except RenderRaised String := do
  let scope ← lookup aliases relationship.targetSemanticObjectId
  let table ← quoted relationship.physicalDimensionTable
  let column ← quoted relationship.physicalFactColumn
  let key ← quoted relationship.physicalDimensionKeyColumn
  return "LEFT JOIN " ++ table ++ " AS " ++ scope ++ " ON f." ++ column ++ " = " ++ scope ++ "." ++ key

/-- A condition and the types of its parameters. -/
def renderFilter (shape : SemanticQueryFilterShape) :
    Except RenderRaised (String × List String) := do
  let filtered ← lookupOr "UNKNOWN_FILTER_ATTRIBUTE: filter shape references an undeclared attribute"
    model.attributeItems shape.attributeId
  reject (filtered.exposureState ≠ .exposed)
    "IMPLEMENTATION_ONLY_ATTRIBUTE: filter cannot use implementation fields"
  reject (filtered.dimensionId ∉ plan.dimensionIds)
    "FILTER_DIMENSION_MISMATCH: filter dimension is outside the query path"
  reject (filtered.logicalType ≠ shape.logicalType)
    "FILTER_TYPE_MISMATCH: filter shape type differs from the semantic attribute"
  let scope ← lookup aliases filtered.dimensionId
  let column ← quoted filtered.physicalColumnRef
  let expression := scope ++ "." ++ column
  match shape.operator with
  | .equals =>
    if shape.nullValue then return (expression ++ " IS NULL", [])
    else return (expression ++ " = ?", [shape.logicalType])
  | .isIn =>
    return (expression ++ " IN (" ++ String.intercalate ", " (List.replicate shape.valueCount "?") ++
      ")", List.replicate shape.valueCount shape.logicalType)
  | .dateRange =>
    return (expression ++ " >= ? AND " ++ expression ++ " <= ?",
      [shape.logicalType, shape.logicalType])

def renderSort (sort : SemanticQuerySort) : Except RenderRaised String := do
  reject (sort.fieldId ∉ plan.groupByAttributeIds ++ plan.metricIds)
    "UNKNOWN_SORT_FIELD: sort must use a selected semantic field"
  let field ← quoted sort.fieldId
  return field ++ if sort.descending then " DESC" else " ASC"

/-- `set(a) == set(b)`. -/
def sameIds (a b : List String) : Bool := a.all (· ∈ b) && b.all (· ∈ a)

end Renderer

open Renderer

/-- **`render_semantic_query_sql`**: the statement of a plan, checked once more against the model.
-/
def renderSemanticQuerySql (model : SemanticModel) (plan : SemanticQueryPlan) :
    Except RenderRaised String := do
  checkStructure model plan
  let selectedMetrics ← selectMetrics model plan
  let (factId, grainId) ← selectFact plan selectedMetrics
  let groupAttributes ← selectGroups model plan
  let joinPath ← selectJoins model plan factId
  checkTimeRole model plan factId joinPath
  let aliases := aliasesOf plan.dimensionIds
  let groupParts ← groupAttributes.mapM (renderGroup model aliases)
  let (metricParts, factTable) ← renderMetrics model plan factId grainId selectedMetrics none
  match factTable with
  | none => throw (.rejected
      "INCOMPLETE_AGGREGATION: every selected metric needs one reviewed operation")
  | some factTable =>
    reject (sameIds (plan.aggregationOperations.map Prod.fst) plan.metricIds = false)
      "INCOMPLETE_AGGREGATION: every selected metric needs one reviewed operation"
    reject (sameDict plan.physicalBindings
        (groupParts.map GroupPart.binding ++ metricParts.map MetricPart.binding) = false)
      "PHYSICAL_BINDING_MISMATCH: plan bindings do not match the semantic model"
    joinPath.forM (checkJoin model factId factTable)
    let table ← quoted factTable
    let joinParts ← joinPath.mapM (renderJoin aliases)
    let conditions ← plan.filterShapes.mapM (renderFilter model plan aliases)
    reject (conditions.flatMap Prod.snd ≠ plan.parameterLogicalTypes ∨
        plan.parameterCount ≠ (conditions.flatMap Prod.snd).length)
      "PARAMETER_SHAPE_MISMATCH: parameter metadata does not match filter structure"
    let sortParts ← plan.sortSpecs.mapM (renderSort plan)
    return assembleSql (groupParts.map GroupPart.select ++ metricParts.map MetricPart.select) table
      joinParts (conditions.map Prod.fst) (groupParts.map GroupPart.group) sortParts plan.limit

end DirtyDataOlap.Semantic

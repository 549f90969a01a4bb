import DirtyDataOlap.PythonValues
import DirtyDataOlap.CompilerRules

/-!
# The analytical planner

`AnalyticalPlannerService.build_plan`: a planning request against the finalized model and the input
dataset.  Keys are members of a `set`, hence compared by `Value.key`: a NaN stands for its own
object.
-/
namespace DirtyDataOlap.Analytical

/-- The exceptions that leave the planner. -/
inductive PlanningRaised
  | planning (message : String)
  | keyError (key : String)

/-- What planning reads of a `CanonicalModel`. -/
structure FinalizedModel where
  modelId : String
  contentHash : String
  entityTypeIds : List String
  relationshipIds : List String

structure AnalyticalPlanningRequest where
  dimensions : List DimensionSpec
  facts : List FactSpec
  grains : List GrainSpec
  measures : List MeasureSpec
  acceptedRelationshipRefs : List String
  reviewState : AnalyticalReviewState
  partsAreGiven : facts ≠ [] ∧ grains ≠ [] ∧ measures ≠ [] := by decide +kernel

/-- The cell as a value of any type. -/
def AnalyticalValue.toValue (object : Nat) : AnalyticalValue → Validation.Value
  | .none => .none
  | .bool b => .bool b
  | .int n => .int n
  | .float x => .float x object
  | .decimal d => .decimal d object
  | .str text => .str text
  | .date d => .date d
  | .datetime t => .datetime t
  | .strings texts => .tuple (texts.map .str)

/-- `if condition: raise AnalyticalPlanningError(message)`. -/
def refuseIf (condition : Prop) [Decidable condition] (message : String) :
    Except PlanningRaised Unit :=
  if condition then .error (.planning message) else .ok ()

/-- `dataset.table(table_id)`. -/
def plannedTable (dataset : AnalyticalInputDataset) (tableId : String) :
    Except PlanningRaised AnalyticalInputTable :=
  match dataset.table tableId with
  | .ok table => .ok table
  | .error _ => .error (.keyError tableId)

/-- `nanObject` tells apart the NaN objects in the cells of a table, by row and column. -/
structure AnalyticalPlannerService where
  compiler : AnalyticalCompilerService
  planId : (request : AnalyticalPlanningRequest) → (binding dataset : String) → String
  planContentHash : String → String
  specPackageHash : SpecHashes → String
  nanObject : (row column : Nat) → Nat

namespace AnalyticalPlannerService

variable (planner : AnalyticalPlannerService)

def setKey (row : Nat) (values : List AnalyticalValue) : List (List Validation.Token) :=
  values.mapIdx fun column value => (value.toValue (planner.nanObject row column)).key

/-- One round of the loop over the rows: the key of a row without a null. -/
def rowKey (grain : GrainSpec) (item : AnalyticalInputRow × Nat) :
    Except PlanningRaised (Option (List (List Validation.Token))) := do
  let values ← grain.keyColumns.mapM fun column =>
    match item.1.valueFor column with
    | .ok value => .ok value
    | .error _ => .error (.planning ("fact grain column is missing: " ++ column))
  if .none ∈ values then
    if grain.nullPolicy = .rejectNulls then
      throw (.planning "fact grain contains a null key")
    else return none
  else return some (planner.setKey item.2 values)

def validateGrain (rows : List AnalyticalInputRow) (grain : GrainSpec) :
    Except PlanningRaised GrainSpec := do
  refuseIf (rows = []) "fact grain cannot be validated on an empty input"
  let keys ← rows.zipIdx.mapM (planner.rowKey grain)
  let keys := keys.reduceOption
  let duplicates := keys.length - keys.dedup.length
  refuseIf (duplicates ≠ 0) ("duplicate fact grain keys: " ++ toString duplicates)
  return { grain with validated := true }

/-! ## Checks of a request -/

variable (dataset : AnalyticalInputDataset)

def validateDimensionColumns (dimension : DimensionSpec) : Except PlanningRaised Unit :=
  if dimension.role = .date then .ok ()
  else match dimension.inputTableId with
    | none => .error (.planning ("dimension input table is missing: " ++ dimension.dimensionId))
    | some tableId => do
      let table ← plannedTable dataset tableId
      let columns := table.columns.map (·.columnName)
      dimension.attributes.forM fun field =>
        let sourceColumn := field.inputColumnName.getD field.columnName
        refuseIf (sourceColumn ∉ columns) ("dimension input column is missing: " ++
          dimension.dimensionId ++ "." ++ sourceColumn)
      refuseIf (¬ ∀ column ∈ dimension.alternateKeyColumns,
          column ∈ dimension.attributes.map (·.columnName))
        ("dimension alternate key is not represented by attributes: " ++ dimension.dimensionId)

variable (request : AnalyticalPlanningRequest)

def validateFactColumns (fact : FactSpec) : Except PlanningRaised Unit := do
  let table ← plannedTable dataset fact.inputTableId
  let columns := table.columns.map (·.columnName)
  match request.grains.find? (·.grainId = fact.grainSpecId) with
  | none => throw (.planning ("fact grain specification is missing: " ++ fact.factId))
  | some grain =>
    grain.keyColumns.forM fun column =>
      refuseIf (column ∉ columns) ("fact grain column is missing: " ++ fact.factId ++ "." ++ column)
  (fact.degenerateDimensionColumns ++ fact.dateRoleColumns).forM fun column =>
    refuseIf (column ∉ columns) ("fact input column is missing: " ++ fact.factId ++ "." ++ column)
  fact.dimensionForeignKeys.forM fun foreignKey => do
    let sourceColumn := foreignKey.inputReferenceColumn.getD foreignKey.factColumn
    refuseIf (sourceColumn ∉ columns)
      ("fact reference column is missing: " ++ fact.factId ++ "." ++ sourceColumn)
    refuseIf (foreignKey.dimensionId ∉ request.dimensions.map (·.dimensionId))
      ("fact references an unplanned dimension: " ++ foreignKey.dimensionId)
  request.measures.forM fun measure =>
    refuseIf (measure.measureId ∈ fact.measureIds ∧ measure.fieldName ∉ columns)
      ("measure input column is missing: " ++ fact.factId ++ "." ++ measure.fieldName)

def validateInputColumns : Except PlanningRaised Unit := do
  request.dimensions.forM (validateDimensionColumns dataset)
  request.facts.forM (validateFactColumns dataset request)

/-- `",".join(sorted(a - b))`, with the text before it. -/
def refuseMissing (message : String) (a b : List String) : Except PlanningRaised Unit :=
  let missing := a.filter (· ∉ b)
  refuseIf (missing ≠ []) (message ++ String.intercalate "," (sortedSet missing))

def scopedRefs (scope : FactRelationshipScope) (fact : FactSpec) : List String :=
  (fact.dimensionForeignKeys.filter (·.relationshipScope = scope)).map (·.relationshipRef)

def validateFactRefs (requested : List String) (fact : FactSpec) : Except PlanningRaised Unit := do
  let foreignKeyRefs := fact.dimensionForeignKeys.map (·.relationshipRef)
  refuseMissing "fact FK relationship is not declared: " foreignKeyRefs fact.relationshipRefs
  refuseMissing "fact relationship is not classified: " fact.relationshipRefs foreignKeyRefs
  refuseMissing "fact relationship is not accepted: " (scopedRefs .canonicalAccepted fact) requested
  let both := (scopedRefs .analyticalTimeRole fact).filter (· ∈ requested)
  refuseIf (both ≠ []) ("analytical relationship cannot be accepted as canonical: " ++
    String.intercalate "," (sortedSet both))

variable (model : FinalizedModel)

def validateCanonicalRefs (request : AnalyticalPlanningRequest) : Except PlanningRaised Unit := do
  request.dimensions.forM fun dimension =>
    refuseIf (dimension.role ≠ .date ∧ dimension.canonicalEntityTypeId ∉ model.entityTypeIds)
      ("dimension canonical entity type is not finalized: " ++ dimension.canonicalEntityTypeId)
  request.facts.forM fun fact =>
    refuseIf (fact.canonicalEventTypeId ∉ model.entityTypeIds)
      ("fact canonical event type is not finalized: " ++ fact.canonicalEventTypeId)
  refuseMissing "accepted canonical relationships missing: " request.acceptedRelationshipRefs
    model.relationshipIds
  request.facts.forM (validateFactRefs request.acceptedRelationshipRefs)

variable (binding : AnalyticalInputBinding)

/-- A binding names the dataset with its content hash, or the fixture that it is made from. -/
def identifyDataset (dataset : AnalyticalInputDataset) : Except PlanningRaised Unit :=
  match binding.datasetId with
  | some datasetId =>
    refuseIf (datasetId ≠ dataset.datasetId ∨ binding.datasetContentHash ≠ some dataset.contentHash)
      "analytical dataset does not match its input binding"
  | none =>
    refuseIf (binding.fixtureId ≠ some dataset.datasetId)
      "legacy input binding does not identify the analytical dataset"

/-- The checks of the binding and of the dataset. -/
def validateInputs (dataset : AnalyticalInputDataset) (request : AnalyticalPlanningRequest) :
    Except PlanningRaised Unit := do
  refuseIf (binding.canonicalModelId ≠ model.modelId ∨
      binding.canonicalModelContentHash ≠ model.contentHash)
    "analytical input binding is not bound to the exact canonical model"
  identifyDataset binding dataset
  refuseIf (dataset.canonicalModelId ≠ model.modelId ∨
      dataset.canonicalModelContentHash ≠ model.contentHash)
    "analytical dataset is not bound to the exact canonical model"
  refuseIf (request.reviewState ≠ .reviewRequired)
    "analytical planning requires a separate review decision"
  refuseIf (¬ (request.grains.map (·.grainId)).Nodup) "grain IDs must be unique"
  refuseIf (¬ (request.dimensions.map (·.dimensionId)).Nodup) "dimension IDs must be unique"
  refuseIf (¬ (request.facts.map (·.factId)).Nodup) "fact IDs must be unique"
  refuseIf (¬ (request.measures.map (·.measureId)).Nodup) "measure IDs must be unique"

def factGrain (fact : FactSpec) : Except PlanningRaised GrainSpec :=
  match request.grains.find? (·.grainId = fact.grainSpecId) with
  | none => .error (.planning ("fact grain specification is missing: " ++ fact.factId))
  | some grain => do
    let table ← plannedTable dataset fact.inputTableId
    planner.validateGrain table.rows grain

def validateFactMeasures (fact : FactSpec) : Except PlanningRaised Unit :=
  let supplied := (request.measures.filter (·.factId = fact.factId)).map (·.measureId)
  refuseIf (¬ ((∀ id ∈ supplied, id ∈ fact.measureIds) ∧ ∀ id ∈ fact.measureIds, id ∈ supplied))
    ("fact measures do not match the reviewed request: " ++ fact.factId)

/-- `tuple(...) or (default,)`. -/
def orElse (items : List String) (default : String) : List String :=
  if items = [] then [default] else items

open AnalyticalCompilerService in
def buildPlan (dataset : AnalyticalInputDataset) (request : AnalyticalPlanningRequest) :
    Except PlanningRaised (AnalyticalPlan × SpecPackage) := do
  validateInputs model binding dataset request
  validateCanonicalRefs model request
  validateInputColumns dataset request
  let grains ← request.facts.mapM (planner.factGrain dataset request)
  request.facts.forM (validateFactMeasures request)
  let specs : SpecPackage := ⟨request.dimensions, request.facts, grains, request.measures⟩
  let hashes := planner.compiler.actualHashes specs
  let planId := planner.planId request binding.contentHash dataset.contentHash
  return ({
    planId := planId
    contentHash := planner.planContentHash planId
    analyticalSpecPackageHash := planner.specPackageHash hashes
    canonicalModelId := model.modelId
    canonicalModelContentHash := model.contentHash
    inputBindingId := binding.bindingId
    inputBindingContentHash := binding.contentHash
    acceptedRelationshipRefs := orElse (sorted request.acceptedRelationshipRefs)
      "analytical:no-relationship"
    materializedDimensionIds := orElse (request.dimensions.map (·.dimensionId))
      "analytical:no-dimension"
    materializedFactIds := request.facts.map (·.factId)
    grainSpecIds := grains.map (·.grainId)
    measureSpecIds := request.measures.map (·.measureId)
    specContentHashes := hashes
    reviewState := .reviewRequired
    unresolvedItems := [] }, specs)

end AnalyticalPlannerService

end DirtyDataOlap.Analytical

import Mathlib.Data.String.Basic
import DirtyDataOlap.Numerals

/-!
# The contracts of the analytical layer

The specifications, inputs and plans of `domain/contracts/analytical.py`, with what the compiler and
the validator read of them.  Content hashes are fields of what they identify; a mapping is the list
of its items.
-/
namespace DirtyDataOlap.Analytical

/-- The exceptions that leave the compiler and the validator. -/
inductive Raised
  | compilation (message : String)
  | keyError (key : String)
  | unboundLocal (name : String)
  | overflow (message : String)
  | typeError (message : String)
  | valueError (message : String)
  | attributeError (message : String)
  | invalidOperation
  | validation (fields : List String)
deriving DecidableEq

/-- `^[a-z][a-z0-9_]{0,62}$`. -/
def isIdentifier (text : String) : Bool :=
  match text.toList with
  | [] => false
  | c :: cs => c.isLower && cs.all (fun c => c.isLower || c.isDigit || c = '_') &&
      cs.length ≤ 62

/-- Whether a plan was accepted. -/
inductive AnalyticalReviewState
  | reviewRequired | accepted | deferred
deriving DecidableEq

/-- Dates, or a dimension of entities. -/
inductive DimensionRole
  | conformed | rolePlaying | date
deriving DecidableEq

/-- What becomes of a reference that leads nowhere. -/
inductive UnknownMemberPolicy
  | quarantineFact | nullableFk | explicitUnknownMember
deriving DecidableEq

/-- What becomes of a row without a grain key. -/
inductive GrainNullPolicy
  | rejectNulls | quarantineNulls
deriving DecidableEq

/-- Along what a measure may be added. -/
inductive AggregationClass
  | additive | semiAdditive | nonAdditive
deriving DecidableEq

/-- Whether a foreign key follows a relationship or a date. -/
inductive FactRelationshipScope
  | canonicalAccepted | analyticalTimeRole
deriving DecidableEq

/-- The surrogate key of a dimension. -/
structure WarehouseKeySpec where
  (keyName namespace_ : String)
  keyNameIsSafe : isIdentifier keyName = true := by decide +kernel

/-- The policy, with a key exactly if it is the explicit member. -/
structure UnknownMemberPolicySpec where
  policy : UnknownMemberPolicy
  unknownMemberKey : Option Int
  explicitMemberHasKey : policy = .explicitUnknownMember ↔ unknownMemberKey.isSome := by
    decide +kernel

/-- An attribute of a dimension. -/
structure DimensionAttributeSpec where
  (attributeId columnName logicalType : String)
  (inputColumnName derivation : Option String)
  nullable : Bool
  columnIsSafe : isIdentifier columnName = true := by decide +kernel

/-- A dimension. -/
structure DimensionSpec where
  (dimensionId tableName : String)
  inputTableId : Option String
  (canonicalReferenceColumn canonicalEntityTypeId : String)
  role : DimensionRole
  eligibilityReason : String
  surrogateKey : WarehouseKeySpec
  alternateKeyColumns : List String
  attributes : List DimensionAttributeSpec
  unknownMemberPolicy : UnknownMemberPolicySpec
  (dateRangeStart dateRangeEnd : Option Date)
  tableIsSafe : isIdentifier tableName = true := by decide +kernel
  inputRefsAreSafe : inputTableId.all isIdentifier = true ∧
    isIdentifier canonicalReferenceColumn = true := by decide +kernel
  keysAreDistinct : alternateKeyColumns.Nodup ∧ surrogateKey.keyName ∉ alternateKeyColumns := by
    decide +kernel
  inputIsGiven : role ≠ .date → inputTableId.isSome := by decide +kernel
  rangeIsOrdered : dateRangeStart.isSome = dateRangeEnd.isSome ∧
    ∀ a ∈ dateRangeStart, ∀ b ∈ dateRangeEnd, a ≤ b := by decide +kernel

/-- A foreign key of a fact. -/
structure FactForeignKeySpec where
  relationshipRef : String
  relationshipScope : FactRelationshipScope
  (dimensionId factColumn dimensionKeyColumn : String)
  inputReferenceColumn : Option String
  required : Bool
  columnsAreSafe : isIdentifier factColumn = true ∧ isIdentifier dimensionKeyColumn = true ∧
    inputReferenceColumn.all isIdentifier = true := by decide +kernel
deriving DecidableEq

/-- What one row of a fact stands for. -/
structure GrainSpec where
  (grainId factId humanReadableGrain : String)
  keyColumns : List String
  nullPolicy : GrainNullPolicy
  validated : Bool
  keyColumnsAreUnique : keyColumns.Nodup ∧ keyColumns ≠ [] := by decide +kernel
  keyColumnsAreSafe : ∀ c ∈ keyColumns, isIdentifier c = true := by decide +kernel
deriving DecidableEq

/-- A measure of a fact. -/
structure MeasureSpec where
  (measureId factId fieldName semanticName : String)
  aggregationClass : AggregationClass
  (aggregationRule unitSemantics currencySemantics logicalType : String)
  nullable : Bool
  fieldIsSafe : isIdentifier fieldName = true := by decide +kernel

theorem safe_of_nil : ∀ c ∈ ([] : List String), isIdentifier c = true := by simp

/-- A fact. -/
structure FactSpec where
  (factId tableName inputTableId canonicalEventTypeId : String)
  canonicalEventRefs : List String
  grainSpecId : String
  dimensionForeignKeys : List FactForeignKeySpec
  (degenerateDimensionColumns measureIds dateRoleColumns relationshipRefs : List String)
  tableIsSafe : isIdentifier tableName = true := by decide +kernel
  childrenAreGiven : dimensionForeignKeys ≠ [] ∧ measureIds ≠ [] := by decide +kernel
  degenerateColumnsAreUnique : degenerateDimensionColumns.Nodup := by exact List.nodup_nil
  degenerateColumnsAreSafe : ∀ c ∈ degenerateDimensionColumns, isIdentifier c = true := by
    exact safe_of_nil
deriving DecidableEq

/-- A value of an analytical input cell or of a generated row. -/
inductive AnalyticalValue
  | none
  | bool (b : Bool)
  | int (n : Int)
  | float (x : PyFloat)
  | decimal (d : Numeral)
  | str (text : String)
  | date (d : Date)
  | datetime (t : DateTime)
  | strings (texts : List String)
deriving DecidableEq

/-- A column of an input table. -/
structure AnalyticalColumnBinding where
  (columnName logicalType : String)

/-- A cell of an input row. -/
structure AnalyticalCell where
  columnName : String
  value : AnalyticalValue

/-- An input row, with no column twice. -/
structure AnalyticalInputRow where
  (rowRef canonicalReference : String)
  values : List AnalyticalCell
  (sourceRecordRefs lineageRefs : List String)
  columnsAreUnique : (values.map AnalyticalCell.columnName).Nodup := by decide +kernel

/-- `value_for`: the cell of a column, or a `KeyError` naming it. -/
def AnalyticalInputRow.valueFor (row : AnalyticalInputRow) (columnName : String) :
    Except Raised AnalyticalValue :=
  match row.values.find? fun cell => cell.columnName = columnName with
  | some cell => .ok cell.value
  | none => .error (.keyError columnName)

/-- An input table in batches. -/
structure AnalyticalInputTable where
  tableId : String
  columns : List AnalyticalColumnBinding
  batches : List (List AnalyticalInputRow)
  columnsAreUnique : (columns.map AnalyticalColumnBinding.columnName).Nodup := by decide +kernel

/-- The rows of all batches. -/
def AnalyticalInputTable.rows (table : AnalyticalInputTable) : List AnalyticalInputRow :=
  table.batches.flatten

/-- The input of a compilation. -/
structure AnalyticalInputDataset where
  (datasetId contentHash canonicalModelId canonicalModelContentHash : String)
  tables : List AnalyticalInputTable
  (sourceSchemaFingerprints sourceSnapshotFingerprints : List (String × String))
  tablesAreUnique : (tables.map AnalyticalInputTable.tableId).Nodup := by decide +kernel

/-- `table`: the table with an id, or a `KeyError` naming it. -/
def AnalyticalInputDataset.table (dataset : AnalyticalInputDataset) (tableId : String) :
    Except Raised AnalyticalInputTable :=
  match dataset.tables.find? fun table => table.tableId = tableId with
  | some table => .ok table
  | none => .error (.keyError tableId)

/-- Which dataset was reviewed. -/
structure AnalyticalInputBinding where
  (bindingId contentHash canonicalModelId canonicalModelContentHash : String)
  (fixtureId datasetId datasetContentHash : Option String)
  (sourceSchemaFingerprints sourceSnapshotFingerprints : List (String × String))

/-- The content hashes of the specifications of a plan, each by its id. -/
structure SpecHashes where
  (dimension fact grain measure : List (String × String))

/-- The reviewed plan. -/
structure AnalyticalPlan where
  (planId contentHash analyticalSpecPackageHash canonicalModelId canonicalModelContentHash : String)
  (inputBindingId inputBindingContentHash : String)
  (acceptedRelationshipRefs materializedDimensionIds materializedFactIds grainSpecIds : List String)
  measureSpecIds : List String
  specContentHashes : SpecHashes
  reviewState : AnalyticalReviewState
  unresolvedItems : List String

end DirtyDataOlap.Analytical

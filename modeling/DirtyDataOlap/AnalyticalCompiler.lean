import DirtyDataOlap.AnalyticalContracts
import DirtyDataOlap.SortedCollections
import DirtyDataOlap.FallibleLists
import DirtyDataOlap.Dictionaries

/-!
# The analytical compiler

`AnalyticalCompilerService.compile`, the generated SQL kept as the statements it is made of.

Dictionaries keep the last value written, so that a table name shared by two dimensions keeps the
rows of the last one; and the local variable `lookup` of `_generate_sql` survives from one foreign
key, row and fact to the next: it is part of the state of the load.
-/
namespace DirtyDataOlap.Analytical

open Prod

/-- A number in hexadecimal, with zeros in front. -/
def hexDigits (width n : Nat) : String :=
  let digits := String.ofList (Nat.toDigits 16 n)
  String.ofList (List.replicate (width - digits.length) '0') ++ digits

section

variable (isPrintable : Char → Bool)

/-- One character of `repr(text)` between the given quotes. -/
def reprChar (quote : String) (c : Char) : String :=
  let text := String.singleton c
  if text = quote ∨ c = '\\' then "\\" ++ text
  else if c = '\n' then "\\n"
  else if c = '\r' then "\\r"
  else if c = '\t' then "\\t"
  else if isPrintable c then text
  else if c.toNat < 0x100 then "\\x" ++ hexDigits 2 c.toNat
  else if c.toNat < 0x10000 then "\\u" ++ hexDigits 4 c.toNat
  else "\\U" ++ hexDigits 8 c.toNat

/-- `repr(text)`. -/
def reprStr (text : String) : String :=
  let quote := if Char.ofNat 39 ∈ text.toList ∧ Char.ofNat 34 ∉ text.toList then "\"" else "'"
  quote ++ String.join (text.toList.map (reprChar isPrintable quote)) ++ quote

/-- `str(value)`. -/
def AnalyticalValue.pyStr : AnalyticalValue → String
  | .none => "None"
  | .bool b => if b then "True" else "False"
  | .int n => toString n
  | .float x => x.str
  | .decimal d => d.str
  | .str text => text
  | .date d => d.isoformat
  | .datetime t => t.isoformat " "
  | .strings [] => "()"
  | .strings [text] => "(" ++ reprStr isPrintable text ++ ",)"
  | .strings texts => "(" ++ String.intercalate ", " (texts.map (reprStr isPrintable)) ++ ")"

end

/-- One column of a `CREATE TABLE`: its name and the rest of its definition. -/
structure ColumnDef where
  (name definition : String)

/-- A `CREATE TABLE`. -/
structure TableDef where
  tableName : String
  columns : List ColumnDef
  primaryKey : List String

/-- A fact row that is left out, and why. -/
structure QuarantineRecord where
  (factId factTableName rowRef : String)
  sourceRecordRefs : List String
  reason : String
  (missingDimensionId missingReference : Option String)
  policy : UnknownMemberPolicy
  provenanceRefs : List String
deriving DecidableEq

/-- The rows inserted into the table of a dimension. -/
structure DimensionLoad where
  dimension : DimensionSpec
  rows : List (List AnalyticalValue)

/-- The rows inserted into the table of a fact. -/
structure FactLoad where
  fact : FactSpec
  rows : List (List AnalyticalValue)

/-- The statements of a compilation, and the rows it leaves out. -/
structure GeneratedSQL where
  createSchema : List TableDef
  (loadDate loadDimensions : List DimensionLoad)
  loadFacts : List FactLoad
  quarantineRecords : List QuarantineRecord

/-- The compiled plan, with the hashes that bind it. -/
structure CompiledPlan where
  (compiledPlanId contentHash planId planContentHash analyticalSpecPackageHash : String)
  (generatedSqlHash targetConfigFingerprint : String)
  reviewState : AnalyticalReviewState
  tableNames : List String
  dimensionSpecs : List DimensionSpec
  factSpecs : List FactSpec
  grainSpecs : List GrainSpec
  measureSpecs : List MeasureSpec

/-- `digestPrefix` is the number written by the first sixteen hexadecimal digits of a digest. -/
structure AnalyticalCompilerService where
  digestPrefix : (namespace_ canonicalReference : String) → Fin (2 ^ 64)
  isPrintable : Char → Bool
  dimensionContentHash : DimensionSpec → String
  factContentHash : FactSpec → String
  grainContentHash : GrainSpec → String
  measureContentHash : MeasureSpec → String
  (compiledPlanId compiledPlanContentHash : AnalyticalPlan → GeneratedSQL → String)
  sqlHash : GeneratedSQL → String

/-- `if condition: raise AnalyticalCompilationError(message)`. -/
def raiseIf (condition : Prop) [Decidable condition] (message : String) : Except Raised Unit :=
  if condition then .error (.compilation message) else .ok ()

/-! ## Values and types -/

/-- `_LOGICAL_TYPES`. -/
def logicalTypes : List (String × String) :=
  [("STRING", "VARCHAR"), ("STRING_LIST", "VARCHAR"), ("INTEGER", "INTEGER"), ("BIGINT", "BIGINT"),
    ("DECIMAL", "DECIMAL(38, 9)"), ("FLOAT", "DOUBLE"), ("BOOLEAN", "BOOLEAN"), ("DATE", "DATE"),
    ("DATETIME", "TIMESTAMP"), ("TIMESTAMP", "TIMESTAMP")]

/-- `_sql_type`. -/
def sqlType (logicalType : String) : Except Raised String :=
  match logicalTypes.lookup (upper logicalType) with
  | some sql => .ok sql
  | none => .error (.compilation ("unsupported logical type: " ++ logicalType))

/-- The value of an attribute of the unknown member. -/
def unknownValue (logicalType : String) : Except Raised AnalyticalValue :=
  let kind := upper logicalType
  if kind = "STRING" ∨ kind = "STRING_LIST" then .ok (.str "UNKNOWN")
  else if kind = "DATE" ∨ kind = "DATETIME" ∨ kind = "TIMESTAMP" then
    .ok (((Date.ofYmd 1970 1 1).map .date).getD .none)
  else if kind = "BOOLEAN" then .ok (.bool false)
  else if kind = "INTEGER" ∨ kind = "BIGINT" then .ok (.int 0)
  else if kind = "DECIMAL" ∨ kind = "FLOAT" then .ok (.int 0)
  else .error (.compilation ("unsupported logical type: " ++ logicalType))

/-- `_coerce_date`. -/
def coerceDate : AnalyticalValue → Except Raised (Option Date)
  | .none => .ok none
  | .datetime t => .ok (some t.date)
  | .date d => .ok (some d)
  | .str text =>
    match Date.fromisoformat text with
    | some d => .ok (some d)
    | none => .error (.compilation "date role contains an invalid Gregorian date")
  | _ => .error (.compilation "date role contains an unsupported value")

/-- The days from `current` to `last`; the loop computes one day more than it keeps. -/
def dateRangeFrom (last : Date) : (fuel : Nat) → (current : Date) → Except Raised (List Date)
  | 0, _ => .ok []
  | fuel + 1, current =>
    if current ≤ last then
      match current.tomorrow with
      | none => .error (.overflow "date value out of range")
      | some next => do
        let rest ← dateRangeFrom last fuel next
        return current :: rest
    else .ok []

/-- `_date_range`: the days from one to the other, both included. -/
def dateRange (start : Date) (last : Option Date) : Except Raised (List Date) :=
  match last with
  | none => .error (.compilation "date range endpoint is missing")
  | some last => dateRangeFrom last (last.ordinal + 2 - start.ordinal) start

/-- `_date_derivation`. -/
def dateDerivation (derivation : String) (current : Date) : Except Raised AnalyticalValue :=
  let kind := upper derivation
  if kind = "FULL_DATE" then .ok (.date current)
  else if kind = "YEAR" then .ok (.int current.year)
  else if kind = "QUARTER" then .ok (.int ((current.month - 1) / 3 + 1 : Nat))
  else if kind = "MONTH" then .ok (.int current.month)
  else if kind = "DAY" then .ok (.int current.day)
  else if kind = "WEEKDAY" then .ok (.int current.isoweekday)
  else .error (.compilation ("unsupported reviewed date derivation: " ++ derivation))

/-- `_assert_value_compatible`, for a value that is not null. -/
def compatible (kind : String) : AnalyticalValue → Bool
  | .none => true
  | .bool _ => kind = "BOOLEAN"
  | .int _ => kind = "INTEGER" || kind = "BIGINT" || kind = "DECIMAL" || kind = "FLOAT"
  | .float _ | .decimal _ => kind = "DECIMAL" || kind = "FLOAT"
  | .str _ => kind = "STRING" || kind = "DATE" || kind = "DATETIME" || kind = "TIMESTAMP"
  | .date _ | .datetime _ => kind = "DATE" || kind = "DATETIME" || kind = "TIMESTAMP"
  | .strings _ => kind = "STRING_LIST"

/-- `_coerce_value_for_logical_type`: a decimal that went through JSON is a text. -/
def coerceValueForLogicalType (value : AnalyticalValue) (logicalType fieldName : String) :
    Except Raised AnalyticalValue :=
  match value with
  | .str text =>
    if upper logicalType ≠ "DECIMAL" then .ok value
    else
      match Numeral.ofText text with
      | some d => .ok (.decimal d)
      | none => .error (.compilation
          ("measure value is incompatible with " ++ fieldName ++ ":" ++ logicalType))
  | value => .ok value

/-- The value of a measure in a row, brought to its type and checked. -/
def measureValue (row : AnalyticalInputRow) (measure : MeasureSpec) :
    Except Raised AnalyticalValue := do
  let value ← row.valueFor measure.fieldName
  let value ← coerceValueForLogicalType value measure.logicalType measure.fieldName
  raiseIf (compatible (upper measure.logicalType) value = false)
    ("measure value is incompatible with " ++ measure.fieldName ++ ":" ++ measure.logicalType)
  return value

namespace AnalyticalCompilerService

variable (compiler : AnalyticalCompilerService)

/-- `deterministic_warehouse_key`: 63 bits of the digest, with zero moved to one. -/
def deterministicWarehouseKey (namespace_ canonicalReference : String) : Int :=
  let value : Nat := (compiler.digestPrefix namespace_ canonicalReference).val % 2 ^ 63
  if value = 0 then 1 else value

/-! ## Dimension rows -/

/-- The reference under which a row is a member of a dimension. -/
def rowReference (row : AnalyticalInputRow) (dimension : DimensionSpec) : Except Raised String :=
  if dimension.canonicalReferenceColumn = "canonical_entity_id" ∨
      dimension.canonicalReferenceColumn = "canonical_reference" then .ok row.canonicalReference
  else
    match row.valueFor dimension.canonicalReferenceColumn with
    | .error _ => .error (.compilation
        ("dimension canonical reference column is missing: " ++ dimension.canonicalReferenceColumn))
    | .ok value =>
      if value = .none ∨ value.pyStr compiler.isPrintable = "" then
        .error (.compilation ("dimension canonical reference is null: " ++ dimension.dimensionId))
      else .ok (value.pyStr compiler.isPrintable)

/-- The attributes of a dimension row, and `lineage` unless an attribute takes its column. -/
def attributeValues (read : DimensionAttributeSpec → Except Raised AnalyticalValue)
    (lineage : List String) :
    List DimensionAttributeSpec → (targetNames : List String) → Except Raised (List AnalyticalValue)
  | [], targetNames =>
    .ok (if "source_record_refs" ∈ targetNames then [] else [.strings lineage])
  | field :: attributes, targetNames =>
    if field.columnName ∈ targetNames then
      .error (.compilation ("duplicate dimension target column: " ++ field.columnName))
    else do
      let value ← read field
      let values ← attributeValues read lineage attributes (targetNames ++ [field.columnName])
      return value :: values

section

variable (dimension : DimensionSpec)

/-- The value of an attribute in a row. -/
def attributeValue (row : AnalyticalInputRow) (field : DimensionAttributeSpec) :
    Except Raised AnalyticalValue :=
  let sourceColumn := field.inputColumnName.getD field.columnName
  match row.valueFor sourceColumn with
  | .error _ => .error (.compilation ("dimension input column is missing: " ++ sourceColumn))
  | .ok value =>
    if value = .none ∧ field.nullable = false then
      .error (.compilation ("non-null dimension attribute is null: " ++ dimension.dimensionId ++
        "." ++ field.columnName))
    else .ok value

/-- The references of a dimension with their surrogate keys, in the order they were written. -/
abbrev RefKeys := List (String × Int)

/-- The rows of a dimension so far, and the keys given out. -/
structure DimensionRows where
  refKeys : RefKeys
  output : List (List AnalyticalValue)

/-- One round of the loop over the rows of a dimension. -/
def addMember (rows : DimensionRows) (row : AnalyticalInputRow) : Except Raised DimensionRows := do
  let reference ← compiler.rowReference row dimension
  raiseIf (reference ∈ rows.refKeys.map fst)
    ("duplicate dimension canonical reference: " ++ dimension.dimensionId)
  let warehouseKey := compiler.deterministicWarehouseKey dimension.surrogateKey.namespace_ reference
  raiseIf (warehouseKey ∈ rows.refKeys.map snd)
    ("WAREHOUSE_KEY_COLLISION:" ++ dimension.dimensionId)
  let values ← attributeValues (attributeValue dimension row) row.sourceRecordRefs
    dimension.attributes ["canonical_entity_id"]
  return { refKeys := rows.refKeys ++ [(reference, warehouseKey)]
           output := rows.output ++ [.int warehouseKey :: .str reference :: values] }

/-- The reference of the unknown member. -/
def unknownReference (dimensionId : String) : String := "__UNKNOWN__:" ++ dimensionId

/-- The mark in the lineage of a row that the unknown member stands in. -/
def unknownPolicyRef (dimensionId : String) : String :=
  "policy:explicit-unknown-member:" ++ dimensionId

/-- The unknown member, where the policy asks for one. -/
def addUnknownMember (rows : DimensionRows) : Except Raised DimensionRows :=
  if dimension.unknownMemberPolicy.policy = .explicitUnknownMember then
    match dimension.unknownMemberPolicy.unknownMemberKey with
    | none => .error (.compilation
        ("unknown member key collides for dimension: " ++ dimension.dimensionId))
    | some unknownKey =>
      if unknownKey ∈ rows.refKeys.map snd then
        .error (.compilation
          ("unknown member key collides for dimension: " ++ dimension.dimensionId))
      else do
        let unknownRef := unknownReference dimension.dimensionId
        let values ← attributeValues (fun field => unknownValue field.logicalType)
          [unknownPolicyRef dimension.dimensionId] dimension.attributes ["canonical_entity_id"]
        return { refKeys := setItem rows.refKeys unknownRef unknownKey
                 output := rows.output ++ [.int unknownKey :: .str unknownRef :: values] }
  else .ok rows

end

/-- A dimension with its rows and the keys of its references. -/
structure MaterializedDimension where
  dimension : DimensionSpec
  rows : DimensionRows

/-- The input table of a dimension. -/
def inputTable (dataset : AnalyticalInputDataset) (dimension : DimensionSpec) :
    Except Raised AnalyticalInputTable :=
  match dimension.inputTableId with
  | some inputTableId => dataset.table inputTableId
  | none => .error (.compilation ("dimension input table is missing: " ++ dimension.dimensionId))

/-- The rows of a dimension, in the order of their references. -/
def materializeDimension (dataset : AnalyticalInputDataset) (dimension : DimensionSpec) :
    Except Raised MaterializedDimension := do
  let table ← inputTable dataset dimension
  let rows ← (sortedBy AnalyticalInputRow.canonicalReference table.rows).foldlM
    (compiler.addMember dimension) ⟨[], []⟩
  let rows ← addUnknownMember dimension rows
  return ⟨dimension, rows⟩

/-- The rows of all dimensions but the date ones. -/
def dimensionRows (dimensions : List DimensionSpec) (dataset : AnalyticalInputDataset) :
    Except Raised (List MaterializedDimension) :=
  (dimensions.filter fun dimension => dimension.role ≠ .date).mapM
    (compiler.materializeDimension dataset)

/-- `rows_by_table.get(table_name, [])`. -/
def rowsByTable (materialized : List MaterializedDimension) (tableName : String) :
    List (List AnalyticalValue) :=
  ((getItem (materialized.map fun m => (m.dimension.tableName, m.rows.output)) tableName).getD [])

/-- `keys_by_dimension.get(dimension_id, {})`. -/
def keysByDimension (materialized : List MaterializedDimension) (dimensionId : String) : RefKeys :=
  ((getItem (materialized.map fun m => (m.dimension.dimensionId, m.rows.refKeys)) dimensionId).getD
    [])

/-! ## Table definitions -/

/-- The columns that a loop adds to a table definition, each of which must be new. -/
def addColumns {α : Type} (duplicate : String) (name : α → String)
    (definition : α → Except Raised String) :
    List α → (targetNames : List String) → Except Raised (List ColumnDef × List String)
  | [], targetNames => .ok ([], targetNames)
  | x :: xs, targetNames =>
    if name x ∈ targetNames then .error (.compilation (duplicate ++ name x))
    else do
      let text ← definition x
      let (columns, names) ← addColumns duplicate name definition xs (targetNames ++ [name x])
      return (⟨name x, text⟩ :: columns, names)

/-- The column of source references, unless the spec names one itself. -/
def lineageColumn (targetNames : List String) : List ColumnDef :=
  if "source_record_refs" ∈ targetNames then [] else [⟨"source_record_refs", "VARCHAR NOT NULL"⟩]

/-- A name in quotes. -/
def quoted (name : String) : String := "\"" ++ name ++ "\""

/-- The table of a dimension. -/
def dimensionTable (dimension : DimensionSpec) : Except Raised TableDef := do
  let keyName := dimension.surrogateKey.keyName
  let (attributes, targetNames) ← addColumns "duplicate dimension target column: "
    DimensionAttributeSpec.columnName
    (fun field => do
      let sql ← sqlType field.logicalType
      return sql ++ (if field.nullable then "" else " NOT NULL"))
    dimension.attributes ["canonical_entity_id", keyName]
  return { tableName := dimension.tableName
           columns := ⟨keyName, "BIGINT PRIMARY KEY"⟩ ::
             ⟨"canonical_entity_id", "VARCHAR NOT NULL UNIQUE"⟩ ::
             attributes ++ lineageColumn targetNames
           primaryKey := [] }

/-- `dictionary[key]`. -/
def lookupKey {β : Type} (key : String) (item : Option β) : Except Raised β :=
  match item with
  | some value => .ok value
  | none => .error (.keyError key)

/-- `input_types[column]`. -/
def inputType (table : AnalyticalInputTable) (column : String) : Except Raised String :=
  lookupKey column
    (getItem (table.columns.map fun c => (c.columnName, c.logicalType)) column)

/-- `dimension_map[dimension_id]`. -/
def dimensionById (dimensions : List DimensionSpec) (dimensionId : String) :
    Except Raised DimensionSpec :=
  lookupKey dimensionId (getItem (dimensions.map fun d => (d.dimensionId, d)) dimensionId)

/-- What the loops over the rows of a fact read. -/
structure FactContext where
  fact : FactSpec
  grain : GrainSpec
  measures : List MeasureSpec
  dimensions : List DimensionSpec
  materialized : List MaterializedDimension
  targetNames : List String

/-- The degenerate columns that are not part of the grain. -/
def degenerateColumns (fact : FactSpec) (grain : GrainSpec) : List String :=
  fact.degenerateDimensionColumns.filter fun column => column ∉ grain.keyColumns

/-- The columns of a fact table before the lineage column, and their names. -/
def factColumns (fact : FactSpec) (grain : GrainSpec) (measures : List MeasureSpec)
    (dimensions : List DimensionSpec) (table : AnalyticalInputTable) :
    Except Raised (List ColumnDef × List String) := do
  let inputColumn (column : String) : Except Raised String := do
    let sql ← sqlType (← inputType table column)
    return sql ++ " NOT NULL"
  let keys ← grain.keyColumns.mapM fun column => do return (⟨column, ← inputColumn column⟩ : ColumnDef)
  let targetNames := grain.keyColumns ++ ["canonical_event_id"]
  let duplicate := "duplicate fact target column: "
  let (foreignKeys, targetNames) ← addColumns duplicate FactForeignKeySpec.factColumn
    (fun foreignKey => do
      let dimension ← dimensionById dimensions foreignKey.dimensionId
      return "BIGINT" ++ (if foreignKey.required then "" else " NULL") ++ " REFERENCES " ++
        quoted dimension.tableName ++ " (" ++ quoted dimension.surrogateKey.keyName ++ ")")
    fact.dimensionForeignKeys targetNames
  let (degenerate, targetNames) ← addColumns duplicate id inputColumn (degenerateColumns fact grain)
    targetNames
  let (measured, targetNames) ← addColumns duplicate MeasureSpec.fieldName
    (fun measure => do
      let sql ← sqlType measure.logicalType
      return sql ++ (if measure.nullable then " NULL" else ""))
    measures targetNames
  return (keys ++ [⟨"canonical_event_id", "VARCHAR NOT NULL"⟩] ++ foreignKeys ++ degenerate ++
    measured, targetNames)

/-! ## Fact rows -/

/-- What the loops over fact rows leave behind besides the rows. -/
structure LoadScope where
  dateValues : List (String × Date)
  lookup : Option RefKeys

/-- What a foreign key becomes: a key, or the row is quarantined. -/
inductive Resolution
  | key (value : Option Int) (policyRefs : List String)
  | quarantined (record : QuarantineRecord)

/-- The record of a row whose reference leads nowhere. -/
def missingReference (fact : FactSpec) (row : AnalyticalInputRow) (dimension : DimensionSpec)
    (reference : Option String) : QuarantineRecord where
  factId := fact.factId
  factTableName := fact.tableName
  rowRef := row.rowRef
  sourceRecordRefs := row.sourceRecordRefs
  reason := "MISSING_DIMENSION_REFERENCE"
  missingDimensionId := some dimension.dimensionId
  missingReference := reference
  policy := .quarantineFact
  provenanceRefs := row.lineageRefs

/-- What the unknown-member policy makes of a missing key. -/
def missingKey (ctx : FactContext) (row : AnalyticalInputRow) (foreignKey : FactForeignKeySpec)
    (dimension : DimensionSpec) (reference : Option String) (lookup : Option RefKeys) :
    Except Raised Resolution :=
  match dimension.unknownMemberPolicy.policy with
  | .quarantineFact => .ok (.quarantined (missingReference ctx.fact row dimension reference))
  | .nullableFk =>
    if foreignKey.required then
      .error (.compilation "required relationship cannot use NULLABLE_FK")
    else .ok (.key none [])
  | .explicitUnknownMember =>
    match lookup with
    | none => .error (.unboundLocal "lookup")
    | some lookup =>
      match getItem lookup (unknownReference dimension.dimensionId) with
      | none => .error (.compilation "explicit unknown member is not materialized")
      | some unknown => .ok (.key (some unknown) [unknownPolicyRef dimension.dimensionId])

/-- The value of a foreign key in a row. -/
def referenceValue (row : AnalyticalInputRow) (foreignKey : FactForeignKeySpec) :
    Except Raised AnalyticalValue :=
  let sourceColumn := foreignKey.inputReferenceColumn.getD foreignKey.factColumn
  match row.valueFor sourceColumn with
  | .ok value => .ok value
  | .error _ => .error (.compilation ("fact reference column is missing: " ++ sourceColumn))

/-- The reference by which a value names a member of a dimension that is not a date dimension. -/
def memberReference (value : AnalyticalValue) : Option String :=
  if value = .none then none else some (value.pyStr compiler.isPrintable)

/-- One round of the loop over the foreign keys. A date dimension does not assign `lookup`. -/
def resolveForeignKey (ctx : FactContext) (row : AnalyticalInputRow)
    (foreignKey : FactForeignKeySpec) (scope : LoadScope) :
    Except Raised (LoadScope × Resolution) := do
  let value ← referenceValue row foreignKey
  let dimension ← dimensionById ctx.dimensions foreignKey.dimensionId
  if dimension.role = .date then
    let current ← coerceDate value
    let scope := { scope with
      dateValues := scope.dateValues ++ (current.map fun d => (dimension.dimensionId, d)).toList }
    match current with
    | some d => return (scope, .key (some (compiler.deterministicWarehouseKey
        dimension.surrogateKey.namespace_ d.isoformat)) [])
    | none => return (scope, ← missingKey ctx row foreignKey dimension none scope.lookup)
  else
    let reference := compiler.memberReference value
    let lookup := keysByDimension ctx.materialized foreignKey.dimensionId
    let scope := { scope with lookup := some lookup }
    match reference.bind (getItem lookup) with
    | some warehouseKey => return (scope, .key (some warehouseKey) [])
    | none => return (scope, ← missingKey ctx row foreignKey dimension reference scope.lookup)

/-- All foreign keys of a row, or the record that leaves it out. -/
inductive RowResolution
  | resolved (keys : List (Option Int)) (policyRefs : List String)
  | quarantined (record : QuarantineRecord)

/-- The loop over the foreign keys of a row, left at the first one that quarantines it. -/
def resolveForeignKeys (ctx : FactContext) (row : AnalyticalInputRow) :
    List FactForeignKeySpec → LoadScope → Except Raised (LoadScope × RowResolution)
  | [], scope => .ok (scope, .resolved [] [])
  | foreignKey :: foreignKeys, scope => do
    let (scope, resolution) ← compiler.resolveForeignKey ctx row foreignKey scope
    match resolution with
    | .quarantined record => return (scope, .quarantined record)
    | .key value refs =>
      let (scope, rest) ← resolveForeignKeys ctx row foreignKeys scope
      match rest with
      | .quarantined record => return (scope, .quarantined record)
      | .resolved keys policyRefs => return (scope, .resolved (value :: keys) (refs ++ policyRefs))

/-- What becomes of a fact row. -/
inductive RowOutcome
  | loaded (values : List AnalyticalValue)
  | quarantined (record : QuarantineRecord)
  | dropped

/-- The record of a row without a grain key. -/
def nullGrainKey (fact : FactSpec) (row : AnalyticalInputRow) : QuarantineRecord where
  factId := fact.factId
  factTableName := fact.tableName
  rowRef := row.rowRef
  sourceRecordRefs := row.sourceRecordRefs
  reason := "NULL_GRAIN_KEY"
  missingDimensionId := none
  missingReference := none
  policy := .quarantineFact
  provenanceRefs := row.lineageRefs

/-- The grain key of a row. -/
def grainValues (grain : GrainSpec) (row : AnalyticalInputRow) :
    Except Raised (List AnalyticalValue) :=
  grain.keyColumns.mapM fun column =>
    match row.valueFor column with
    | .ok value => .ok value
    | .error _ => .error (.compilation ("fact grain column is missing: " ++ column))

/-- A key as a cell. -/
def keyValue : Option Int → AnalyticalValue
  | some k => .int k
  | none => .none

/-- One round of the loop over the rows; a row is appended only where no other column is named
`source_record_refs`. -/
def compileRow (ctx : FactContext) (scope : LoadScope) (row : AnalyticalInputRow) :
    Except Raised (LoadScope × RowOutcome) := do
  let key ← grainValues ctx.grain row
  if .none ∈ key then
    if ctx.grain.nullPolicy = .rejectNulls then
      throw (.compilation "fact grain contains a null key")
    else return (scope, .quarantined (nullGrainKey ctx.fact row))
  else
    let (scope, resolution) ← compiler.resolveForeignKeys ctx row ctx.fact.dimensionForeignKeys scope
    match resolution with
    | .quarantined record => return (scope, .quarantined record)
    | .resolved keys policyRefs =>
      let degenerate ← (degenerateColumns ctx.fact ctx.grain).mapM row.valueFor
      let measures ← ctx.measures.mapM (measureValue row)
      let values := key ++ [.str row.canonicalReference] ++ keys.map keyValue ++ degenerate ++ measures
      if "source_record_refs" ∈ ctx.targetNames then return (scope, .dropped)
      else return (scope, .loaded (values ++ [.strings (row.sourceRecordRefs ++ policyRefs)]))

/-- The loop over the rows of a fact. -/
def compileRows (ctx : FactContext) :
    List AnalyticalInputRow → LoadScope → Except Raised (LoadScope × List RowOutcome)
  | [], scope => .ok (scope, [])
  | row :: rows, scope => do
    let (scope, outcome) ← compiler.compileRow ctx scope row
    let (scope, outcomes) ← compileRows ctx rows scope
    return (scope, outcome :: outcomes)

/-- The row, if it is loaded. -/
def RowOutcome.loadedRow : RowOutcome → Option (List AnalyticalValue)
  | .loaded values => some values
  | _ => none

/-- The record, if the row is quarantined. -/
def RowOutcome.record : RowOutcome → Option QuarantineRecord
  | .quarantined record => some record
  | _ => none

/-- A fact with its table and what became of its rows. -/
structure CompiledFact where
  context : FactContext
  table : TableDef
  outcomes : List RowOutcome

/-- `grain_map[grain_id]`. -/
def grainById (grains : List GrainSpec) (grainId : String) : Except Raised GrainSpec :=
  lookupKey grainId (getItem (grains.map fun g => (g.grainId, g)) grainId)

/-- `measure_map[measure_id]`. -/
def measureById (measures : List MeasureSpec) (measureId : String) : Except Raised MeasureSpec :=
  lookupKey measureId (getItem (measures.map fun m => (m.measureId, m)) measureId)

/-- One round of the loop over the facts. -/
def compileFact (dimensions : List DimensionSpec) (grains : List GrainSpec)
    (measures : List MeasureSpec) (dataset : AnalyticalInputDataset)
    (materialized : List MaterializedDimension) (fact : FactSpec) (scope : LoadScope) :
    Except Raised (LoadScope × CompiledFact) := do
  let table ← dataset.table fact.inputTableId
  let grain ← grainById grains fact.grainSpecId
  let factMeasures ← fact.measureIds.mapM (measureById measures)
  let (columns, targetNames) ← factColumns fact grain factMeasures dimensions table
  let ctx : FactContext := ⟨fact, grain, factMeasures, dimensions, materialized, targetNames⟩
  let (scope, outcomes) ← compiler.compileRows ctx (sortedBy AnalyticalInputRow.rowRef table.rows)
    scope
  return (scope, ⟨ctx, ⟨fact.tableName, columns ++ lineageColumn targetNames, grain.keyColumns⟩,
    outcomes⟩)

/-- The loop over the facts. -/
def compileFacts (dimensions : List DimensionSpec) (grains : List GrainSpec)
    (measures : List MeasureSpec) (dataset : AnalyticalInputDataset)
    (materialized : List MaterializedDimension) :
    List FactSpec → LoadScope → Except Raised (LoadScope × List CompiledFact)
  | [], scope => .ok (scope, [])
  | fact :: facts, scope => do
    let (scope, compiled) ← compiler.compileFact dimensions grains measures dataset materialized fact
      scope
    let (scope, rest) ← compileFacts dimensions grains measures dataset materialized facts scope
    return (scope, compiled :: rest)

/-- The row of one day. -/
def dateRow (dimension : DimensionSpec) (current : Date) :
    Except Raised (List AnalyticalValue) := do
  let attributes ← dimension.attributes.mapM fun field =>
    match field.derivation with
    | none => .error (.compilation
        ("date attribute lacks a reviewed derivation: " ++ field.columnName))
    | some derivation => dateDerivation derivation current
  let lineage := if "source_record_refs" ∈ dimension.attributes.map (·.columnName) then []
    else [.strings ["date-range:" ++ dimension.dimensionId]]
  return .int (compiler.deterministicWarehouseKey dimension.surrogateKey.namespace_
    current.isoformat) :: .date current :: attributes ++ lineage

/-- The days of a date dimension. -/
def reviewedRange (dimension : DimensionSpec) : Except Raised (List Date) :=
  match dimension.dateRangeStart with
  | none => .ok []
  | some start => dateRange start dimension.dateRangeEnd

/-- The days of a date dimension: those met in fact rows and those of its range. -/
def dimensionDates (dateValues : List (String × Date)) (dimension : DimensionSpec) :
    Except Raised (List Date) := do
  let met := dateValues.filterMap fun item =>
    if item.1 = dimension.dimensionId then some item.2 else none
  let range ← reviewedRange dimension
  return sortedSet (met ++ range)

/-- One round of the loop over the date dimensions. -/
def loadDates (dateValues : List (String × Date)) (dimension : DimensionSpec) :
    Except Raised DimensionLoad := do
  let dates ← dimensionDates dateValues dimension
  raiseIf (dates = []) ("date dimension has no reviewed/input date range: " ++ dimension.dimensionId)
  let rows ← dates.mapM (compiler.dateRow dimension)
  return ⟨dimension, rows⟩

/-- The scripts without a statement: a line break, where the contract asks for a character other
than white space. -/
def blankScripts (sql : GeneratedSQL) : List String :=
  [("create_schema_sql", sql.createSchema.length),
    ("load_date_sql", (sql.loadDate.flatMap DimensionLoad.rows).length),
    ("load_dimensions_sql", (sql.loadDimensions.flatMap DimensionLoad.rows).length),
    ("load_facts_sql", (sql.loadFacts.flatMap FactLoad.rows).length)].filterMap fun script =>
      if script.2 = 0 then some script.1 else none

/-- The contract of `GeneratedSQL`. -/
def checkGenerated (sql : GeneratedSQL) : Except Raised GeneratedSQL :=
  if blankScripts sql = [] then .ok sql else .error (.validation (blankScripts sql))

/-- `_generate_sql`. -/
def generateSql (dimensions : List DimensionSpec) (facts : List FactSpec) (grains : List GrainSpec)
    (measures : List MeasureSpec) (dataset : AnalyticalInputDataset) :
    Except Raised GeneratedSQL := do
  let materialized ← compiler.dimensionRows dimensions dataset
  let byTable := sortedBy DimensionSpec.tableName dimensions
  let dimensionTables ← byTable.mapM dimensionTable
  let (scope, compiled) ← compiler.compileFacts dimensions grains measures dataset materialized
    (sortedBy FactSpec.tableName facts) ⟨[], none⟩
  let loadDate ← (sortedBy DimensionSpec.tableName
    (dimensions.filter fun dimension => dimension.role = .date)).mapM
      (compiler.loadDates scope.dateValues)
  checkGenerated {
    createSchema := dimensionTables ++ compiled.map CompiledFact.table
    loadDate := loadDate
    loadDimensions := (byTable.filter fun dimension => dimension.role ≠ .date).map fun dimension =>
      ⟨dimension, rowsByTable materialized dimension.tableName⟩
    loadFacts := compiled.map fun c => ⟨c.context.fact, c.outcomes.filterMap RowOutcome.loadedRow⟩
    quarantineRecords := compiled.flatMap fun c => c.outcomes.filterMap RowOutcome.record }

/-! ## Plan and review checks -/

/-- The specifications a plan is compiled from. -/
structure SpecPackage where
  dimensions : List DimensionSpec
  facts : List FactSpec
  grains : List GrainSpec
  measures : List MeasureSpec

/-- The content hashes of the specs as they are. -/
def actualHashes (specs : SpecPackage) : SpecHashes where
  dimension := specs.dimensions.map fun d => (d.dimensionId, compiler.dimensionContentHash d)
  fact := specs.facts.map fun f => (f.factId, compiler.factContentHash f)
  grain := specs.grains.map fun g => (g.grainId, compiler.grainContentHash g)
  measure := specs.measures.map fun m => (m.measureId, compiler.measureContentHash m)

/-- The part of the stale-package message about one kind of specification. -/
def stalePart (label : String) (expected actual : List (String × String)) : Option String :=
  if expected = [] ∨ sameDict expected actual = false then
    some (label ++ ":" ++ String.intercalate "," (sortedSet ((expected ++ actual).map fst)))
  else none

/-- The specs that differ from those that were reviewed. -/
def staleParts (expected actual : SpecHashes) : List String :=
  (stalePart "dimension" expected.dimension actual.dimension).toList ++
    (stalePart "fact" expected.fact actual.fact).toList ++
    (stalePart "grain" expected.grain actual.grain).toList ++
    (stalePart "measure" expected.measure actual.measure).toList

/-- Two lists with the same elements. -/
def sameSet (a b : List String) : Bool := a.all (· ∈ b) && b.all (· ∈ a)

/-- What a fact spec needs of the other specs. -/
def checkFact (specs : SpecPackage) (fact : FactSpec) : Except Raised Unit := do
  let grain := getItem (specs.grains.map fun g => (g.grainId, g)) fact.grainSpecId
  raiseIf (grain.all fun g => g.factId ≠ fact.factId || !g.validated)
    "fact implementation requires the exact validated GrainSpec"
  raiseIf (fact.measureIds.any fun measureId =>
      (getItem (specs.measures.map fun m => (m.measureId, m)) measureId).all
        (·.factId ≠ fact.factId))
    "fact measure references are incomplete"
  fact.dimensionForeignKeys.forM fun foreignKey =>
    match getItem (specs.dimensions.map fun d => (d.dimensionId, d)) foreignKey.dimensionId with
    | none => .error (.compilation "fact references an unplanned dimension")
    | some dimension =>
      raiseIf (foreignKey.required = false ∧ dimension.unknownMemberPolicy.policy ≠ .nullableFk)
        "nullable FK requires the reviewed NULLABLE_FK policy"

/-- The inputs of `compile` besides the specifications. -/
structure CompileRequest where
  plan : AnalyticalPlan
  binding : AnalyticalInputBinding
  dataset : AnalyticalInputDataset
  targetConfigFingerprint : String
  reviewErrors : List String

variable (request : CompileRequest)

/-- `_validate_plan_and_review`. -/
def validatePlanAndReview (specs : SpecPackage) : Except Raised Unit := do
  let plan := request.plan
  let actual := compiler.actualHashes specs
  raiseIf (plan.reviewState ≠ .reviewRequired)
    "compiler accepts only a review-required plan with a separate compatible review"
  raiseIf (request.reviewErrors ≠ []) ("REVIEW_ANALYTICAL_PLAN_INCOMPATIBLE:" ++
    String.intercalate "," request.reviewErrors)
  raiseIf (plan.unresolvedItems ≠ [])
    ("UNRESOLVED_ANALYTICAL_PLAN:" ++ String.intercalate "," plan.unresolvedItems)
  raiseIf (request.binding.bindingId ≠ plan.inputBindingId ∨
    request.binding.contentHash ≠ plan.inputBindingContentHash) "input binding is stale"
  raiseIf (request.dataset.canonicalModelId ≠ plan.canonicalModelId ∨
      request.dataset.canonicalModelContentHash ≠ plan.canonicalModelContentHash)
    "input dataset is not bound to the planned canonical model"
  let stale := staleParts plan.specContentHashes actual
  raiseIf (stale ≠ [])
    ("REVIEW_ANALYTICAL_PLAN_SPEC_PACKAGE_STALE:" ++ String.intercalate ";" stale)
  raiseIf (¬ (sameSet (actual.fact.map fst) plan.materializedFactIds ∧
      sameSet (actual.dimension.map fst) plan.materializedDimensionIds ∧
      sameSet (actual.grain.map fst) plan.grainSpecIds ∧
      sameSet (actual.measure.map fst) plan.measureSpecIds))
    "analytical specifications do not match the reviewed plan IDs"
  raiseIf (¬ ((actual.dimension.map fst).Nodup ∧ (actual.fact.map fst).Nodup))
    "analytical table IDs must be unique"
  raiseIf (¬ ((actual.grain.map fst).Nodup ∧ (actual.measure.map fst).Nodup))
    "analytical child IDs must be unique"
  specs.facts.forM (checkFact specs)

/-- The dataset is the one that the request is bound to. -/
def validateDatasetBinding : Except Raised Unit := do
  match request.binding.datasetId with
  | some datasetId =>
    raiseIf (datasetId ≠ request.dataset.datasetId ∨
      request.binding.datasetContentHash ≠ some request.dataset.contentHash)
      "input dataset is stale"
  | none =>
    raiseIf (request.binding.fixtureId ≠ some request.dataset.datasetId)
      "input dataset does not match the binding"
  raiseIf (request.dataset.canonicalModelId ≠ request.binding.canonicalModelId ∨
      request.dataset.canonicalModelContentHash ≠ request.binding.canonicalModelContentHash)
    "input dataset is not bound to the planned canonical model"

/-- `compile`: the plan and its statements. -/
def compile (specs : SpecPackage) : Except Raised (CompiledPlan × GeneratedSQL) := do
  compiler.validatePlanAndReview request specs
  validateDatasetBinding request
  let sql ← compiler.generateSql specs.dimensions specs.facts specs.grains specs.measures
    request.dataset
  return ({
    compiledPlanId := compiler.compiledPlanId request.plan sql
    contentHash := compiler.compiledPlanContentHash request.plan sql
    planId := request.plan.planId
    planContentHash := request.plan.contentHash
    analyticalSpecPackageHash := request.plan.analyticalSpecPackageHash
    generatedSqlHash := compiler.sqlHash sql
    targetConfigFingerprint := request.targetConfigFingerprint
    reviewState := .reviewRequired
    tableNames := sortedSet
      (specs.dimensions.map (·.tableName) ++ specs.facts.map (·.tableName))
    dimensionSpecs := specs.dimensions
    factSpecs := specs.facts
    grainSpecs := specs.grains
    measureSpecs := specs.measures }, sql)

end AnalyticalCompilerService

end DirtyDataOlap.Analytical

import DirtyDataOlap.Base64
import DirtyDataOlap.DependencyContracts

/-!
# Cells and metrics of a dependency

What the provider is given of a table, and the metrics that the project computes itself.  The two
sides have their own idea of equal cells: a cell is written as its type and its text, while a metric
compares values as a dictionary does.
-/
namespace DirtyDataOlap.Dependencies

open Validation (Value Interpreter Token)

/-- What leaves the processing of a returned dependency. -/
inductive Raised
  | indexError
  | unhashable
  | validation (contract : String)

/-- An object of a contract, or a validation error. -/
def validated {α : Type} (contract : String) (accepts : Prop) [Decidable accepts]
    (object : accepts → α) : Except Raised α :=
  if h : accepts then .ok (object h) else .error (.validation contract)

/-- `xs[i]`: a negative index counts from the end. -/
def itemAt {α : Type} (xs : List α) (i : Int) : Except Raised α :=
  match (if 0 ≤ i then xs[i.toNat]? else if -i ≤ xs.length then xs[(xs.length + i).toNat]? else none) with
  | some x => .ok x
  | none => .error .indexError

/-- The rounding of exact numbers to floats. -/
structure Rounding where
  round : ℚ → ℚ
  monotone : Monotone round
  zero : round 0 = 0
  one : round 1 = 1

/-- `count / total if total else fallback`. -/
def Rounding.ratio (r : Rounding) (count total : Nat) (fallback : ℚ) : ℚ :=
  if total = 0 then fallback else r.round (count / total)

/-- `type(value).__name__`. -/
def typeName : Value → String
  | .none => "NoneType"
  | .bool _ => "bool"
  | .int _ => "int"
  | .float _ _ => "float"
  | .decimal _ _ => "Decimal"
  | .str _ => "str"
  | .bytes _ => "bytes"
  | .date _ => "date"
  | .datetime _ => "datetime"
  | .list _ => "list"
  | .tuple _ => "tuple"
  | .dict _ => "dict"

/-- Whether a cell is a physical null. -/
def isNull : Value → Bool
  | .none => true
  | _ => false

/-- What a cell is written as, before it is armoured. -/
def cellBody (py : Interpreter) (value : Value) (nullPolicy : NullPolicy) (rowIndex : Nat)
    (columnId : String) : String :=
  if isNull value then
    if nullPolicy = .nullsEqual ∨ nullPolicy = .literalNullIsValue then "N|equal"
    else "N|break|" ++ toString rowIndex ++ "|" ++ columnId
  else "V|" ++ typeName value ++ "|" ++ value.pyStr py

/-- `_encode_cell`. -/
def encodeCell (py : Interpreter) (value : Value) (nullPolicy : NullPolicy) (rowIndex : Nat)
    (columnId : String) : String :=
  "DDO1_" ++ Base64.encodeText (cellBody py value nullPolicy rowIndex columnId)

/-- The row counts under the null policy. -/
def rowEligible (row : StagedDependencyRow) (names : List String) (policy : NullPolicy) : Bool :=
  policy ≠ .excludePhysicalNull || names.all fun name => !isNull (row.get name)

/-- The file that the provider reads for a table. -/
structure EngineInput where
  tableId : String
  header : List String
  rows : List (List String)
deriving DecidableEq

/-- `_write_engine_input`. -/
def engineInput (py : Interpreter) (tableId : String) (columns : List ColumnDescriptor)
    (rows : List StagedDependencyRow) (policy : NullPolicy) : EngineInput where
  tableId := tableId
  header := columns.map ColumnDescriptor.physicalName
  rows := (rows.zipIdx.filter fun item =>
      rowEligible item.1 (columns.map ColumnDescriptor.physicalName) policy).map fun item =>
    columns.map fun c => encodeCell py (item.1.get c.physicalName) policy item.2 c.columnId

/-! ## Metrics -/

variable (columns : List ColumnDescriptor)

def columnNamed (name : String) : String :=
  ((getItem (columns.reverse.map fun c => (c.physicalName, c.columnId)) name)).getD ""

/-- A cell as the project's own measurement sees it. -/
def metricValue (value : Value) (policy : NullPolicy) (index : Nat) (columnId : String) : Value :=
  if isNull value ∧ policy = .nullsBreakDependency then
    .tuple [.str "physical-null-row-unique", .int index, .str columnId]
  else value

/-- The cells of a row under some names. -/
def metricTuple (names : List String) (policy : NullPolicy) (item : StagedDependencyRow × Nat) :
    List Value :=
  names.map fun name => metricValue (item.1.get name) policy item.2 (columnNamed columns name)

/-- What a dictionary or a set keeps a tuple under. -/
def tupleKey (values : List Value) : Except Raised (List (List Token)) :=
  if values.all Value.hashable then .ok (values.map Value.key) else .error .unhashable

/-- What `_discover_keys` measures. -/
structure KeyMetrics where
  (rows eligible distinct : Nat)

/-- The measurement of a unique combination. -/
def keyMetrics (rows : List StagedDependencyRow) (columns : List ColumnDescriptor)
    (names : List String) (policy : NullPolicy) : Except Raised KeyMetrics := do
  let eligible := rows.filter (rowEligible · (columns.map ColumnDescriptor.physicalName) policy)
  let keys ← eligible.mapM fun row => tupleKey (names.map row.get)
  return ⟨rows.length, eligible.length, keys.eraseDups.length⟩

/-- An eligible row: its determinant, its dependent and its reference. -/
structure FdEntry where
  (determinant dependent : List (List Token))
  ref : String

structure FdMetrics where
  (support error : ℚ)
  violations : Nat
  refs : List String

def dependentsOf (entries : List FdEntry) (determinant : List (List Token)) : List (List (List Token)) :=
  ((entries.filter (·.determinant = determinant)).map FdEntry.dependent).eraseDups

/-- The determinants, in the order they are met in. -/
def determinantsOf (entries : List FdEntry) : List (List (List Token)) :=
  (entries.map FdEntry.determinant).eraseDups

def fdEntry (determinant dependent : List String) (policy : NullPolicy)
    (item : StagedDependencyRow × Nat) : Except Raised FdEntry := do
  let lhs ← tupleKey (metricTuple columns determinant policy item)
  let rhs ← tupleKey (metricTuple columns dependent policy item)
  return ⟨lhs, rhs, item.1.recordRef⟩

/-- The measurement of a functional dependency. -/
def fdMetrics (r : Rounding) (rows : List StagedDependencyRow) (columns : List ColumnDescriptor)
    (determinant dependent : List String) (policy : NullPolicy) : Except Raised FdMetrics := do
  let eligible := rows.zipIdx.filter fun item =>
    rowEligible item.1 (columns.map ColumnDescriptor.physicalName) policy
  let entries ← eligible.mapM (fdEntry columns determinant dependent policy)
  let violations := ((determinantsOf entries).map fun d => (dependentsOf entries d).length - 1).sum
  let error := r.ratio violations entries.length 0
  return {
    support := r.round (1 - error)
    error := error
    violations := violations
    refs := (determinantsOf entries).flatMap fun d =>
      if 1 < (dependentsOf entries d).length
      then (entries.filter (·.determinant = d)).map FdEntry.ref else [] }

/-- A row of one side of an inclusion: its key and its reference. -/
abbrev IndEntry := List (List Token) × String

/-- The rows of one side of an inclusion without a null in its columns, where nulls are excluded. -/
def indEntries (rows : List StagedDependencyRow) (columns : List ColumnDescriptor)
    (names : List String) (policy : NullPolicy) : Except Raised (List IndEntry) :=
  (rows.zipIdx.filter fun item => rowEligible item.1 names policy).mapM fun item => do
    let key ← tupleKey (metricTuple columns names policy item)
    return (key, item.1.recordRef)

structure IndMetrics where
  (coverage violationRatio : ℚ)
  (orphanCount leftDistinct rightDistinct rightRows : Nat)
  targetUniqueness : ℚ
  refs : List String

/-- The measurement of an inclusion dependency. -/
def indMetrics (r : Rounding) (leftRows rightRows : List StagedDependencyRow)
    (leftColumns rightColumns : List ColumnDescriptor) (leftNames rightNames : List String)
    (policy : NullPolicy) : Except Raised IndMetrics := do
  let right ← indEntries rightRows rightColumns rightNames policy
  let left ← indEntries leftRows leftColumns leftNames policy
  let rightValues := (right.map Prod.fst).eraseDups
  let leftValues := (left.map Prod.fst).eraseDups
  let orphans := left.filter (·.1 ∉ rightValues)
  return {
    coverage := r.ratio (leftValues.filter (· ∈ rightValues)).length leftValues.length 1
    violationRatio := r.ratio orphans.length left.length 0
    orphanCount := orphans.length
    leftDistinct := leftValues.length
    rightDistinct := rightValues.length
    rightRows := right.length
    targetUniqueness := r.ratio rightValues.length right.length 0
    refs := orphans.map Prod.snd }

/-- `_types_compatible`, of the types of two lists of columns. -/
def typesCompatible (left right : List ColumnDescriptor) : Bool :=
  (left.zip right).all fun pair =>
    let (l, r) := (pair.1.normalizedPhysicalType, pair.2.normalizedPhysicalType)
    l = r || (l, r) ∈ [("integer", "numeric"), ("numeric", "integer"), ("string", "unknown"),
      ("unknown", "string")]

/-- `ge=0`, of a float. -/
def notNegative : PyFloat → Bool
  | .finite _ exact => 0 ≤ exact
  | .infinity negative => !negative
  | .nan => true

/-- What the engine itself measured of an approximate dependency. -/
def nativeMetric (kind : DependencyKind) (value : Option PyFloat) (threshold : ℚ) :
    Except Raised (Option DependencyMetricObservation) :=
  if kind ≠ .afd ∧ kind ≠ .approximateInd then .ok none
  else
    match value with
    | none => .ok (some ⟨"provider_native_error_unavailable", none, threshold, kind,
        "Provider API did not expose a native error metric; no value was invented."⟩)
    | some x => validated "DependencyMetricObservation" (notNegative x = true) fun _ =>
        some ⟨"provider_native_error", some x, threshold, kind,
          "Native provider error metric returned by the Desbordante result object."⟩

end DirtyDataOlap.Dependencies

import DirtyDataOlap.ArtifactChecks

/-!
# The checks of the target

The two passes of `ValidationService.validate` over a target snapshot.  The first compares the table
of the **first** fact with **all** expected facts (`singleFactEntries`); the second goes over every
fact and replaces eight of these checks (`multiFactReplacements`).  What may raise is in `Except`.
-/
namespace DirtyDataOlap.Validation

open Analytical

/-- The arguments of `replace_check`. -/
structure Replacement where
  checkId : String
  status : ValidationStatus
  details : String
  (expected observed : Value)
  affectedRefs : List String
  likelyStage : String

/-! ## What both passes read -/

section

variable (inputs : ValidationInputs) (target : TargetSnapshot)

/-- `tuple(_normal(row.get(column)) for column in grain.key_columns)`. -/
def grainKey (grain : GrainSpec) (row : Row) : Value :=
  .tuple (grain.keyColumns.map fun column => (row.get column).normal)

/-- The grain keys of some rows; without a grain there are none. -/
def grainKeys (grain : Option GrainSpec) (rows : List Row) : List Value :=
  match grain with
  | some grain => rows.map (grainKey grain)
  | none => []

/-- The last row with the grain key of a given one, as a dictionary keeps it. -/
def rowByGrain (grain : Option GrainSpec) (rows : List Row) (row : Row) : Option Row :=
  match grain with
  | some grain => getItem (rows.map fun row => ((grainKey grain row).key, row)) (grainKey grain row).key
  | none => none

/-- `{item.dimension_id: item for item in compiled.dimension_specs}`. -/
def dimensionItems : List (String × DimensionSpec) :=
  inputs.compiledPlan.dimensionSpecs.map fun spec => (spec.dimensionId, spec)

/-- The canonical references, in normal form, and the surrogate keys of the rows of a dimension that
have both columns. -/
def members (spec : DimensionSpec) (table : TargetTableSnapshot) : List (Value × Value) :=
  (table.rows.filter fun row =>
    row.has spec.canonicalReferenceColumn && row.has spec.surrogateKey.keyName).map fun row =>
      ((row.get spec.canonicalReferenceColumn).normal, row.get spec.surrogateKey.keyName)

/-- The members of a dimension in the target, by what they are compared with. -/
def dimensionMembers (dimensionId : String) : List (Value × Value) :=
  match getItem (dimensionItems inputs) dimensionId with
  | some spec => ((target.table spec.tableName).map (members spec)).getD []
  | none => []

/-- `dimension_maps.get(dimension_id, {})`. -/
def dimensionMap (dimensionId : String) : List (List Token × Value) :=
  (dimensionMembers inputs target dimensionId).map fun member => (member.1.key, member.2)

/-- `dimension_reverse_maps.get(dimension_id, {})`. -/
def dimensionReverseMap (py : Interpreter) (dimensionId : String) : List (List Token × String) :=
  (dimensionMembers inputs target dimensionId).map fun member =>
    (member.2.normal.key, member.1.pyStr py)

/-- The first foreign key of a fact to a dimension. -/
def foreignKeyOf (fact : FactSpec) (dimensionId : String) : Option FactForeignKeySpec :=
  fact.dimensionForeignKeys.find? fun item => item.dimensionId = dimensionId

variable (py : Interpreter)

/-- An error unless the values are equal by `_equal`. -/
def unlessEqual (expected observed : Value) (error : String) : Except Raised (List String) := do
  if ← expected.equal py observed then return [] else return [error]

/-- The expected entity of a fact row must be bound, and its surrogate must be the one stored. -/
def entityErrors (label unbound : String) (fact : FactSpec) (row : Row) (item : String × String) :
    Except Raised (List String) :=
  match foreignKeyOf fact item.1,
      getItem (dimensionMap inputs target item.1) (Value.str item.2).key with
  | some foreignKey, some surrogate =>
    unlessEqual py surrogate (row.get foreignKey.factColumn) (label ++ ":" ++ item.1)
  | _, _ => .ok [label ++ ":" ++ item.1 ++ unbound]

/-- The comparison of the event, the measures and the dimensions of one row. -/
def allocationErrors (label unbound : String) (fact : FactSpec) (expected : SourceTruthFact)
    (row : Row) : Except Raised (List String) := do
  let event ← unlessEqual py (.str expected.canonicalEventId) (row.get "canonical_event_id")
    (label ++ ":canonical_event_id")
  let measures ← expected.measureValues.mapM fun item =>
    unlessEqual py item.2 (row.get item.1) (label ++ ":" ++ item.1)
  let entities ← expected.dimensionEntityIds.mapM (entityErrors inputs target py label unbound fact row)
  return event ++ measures.flatten ++ entities.flatten

/-- The expected source records are among those of the row. -/
def lineageErrors (label : String) (expected : SourceTruthFact) (row : Row) : List String :=
  errorIf (¬ expected.sourceRecordRefs ⊆ (row.get "source_record_refs").asRefs py)
    (label ++ ":lineage")

/-- The first row whose column equals a value. -/
def findRow (column : String) (value : Value) : List Row → Except Raised (Option Row)
  | [] => .ok none
  | row :: rows => do
    if ← (row.get column).pyEq value then return some row else findRow column value rows

/-- The texts of the `full_date` of the rows of a date dimension. -/
def observedDates (spec : DimensionSpec) : List String :=
  ((target.table spec.tableName).map TargetTableSnapshot.rows).getD [] |>.map fun row =>
    (row.get "full_date").pyStr py

/-- `str(row.get("canonical_event_id", default))`. -/
def eventText (row : Row) (default : Value) : String :=
  ((getItem row "canonical_event_id").getD default).pyStr py

/-- The numbers of a column, without its nulls; `none` where there are none or one is no number. -/
def measureNumbers (rows : List Row) (column : String) : Option (List Numeral) :=
  let values := (rows.map fun row => row.get column).filter fun value => value.key ≠ [.none]
  if values = [] then none else values.mapM (Value.numeric py)

/-- The sum or the maximum of a column. -/
def aggregateValue (rows : List Row) (column operation : String) : Except Raised (Option Numeral) :=
  match measureNumbers py rows column with
  | some (first :: rest) => do
    if operation = "SUM" then return some (← Numeral.decSum (first :: rest))
    else return some (← Numeral.decMax first rest)
  | _ => .ok none

/-- One aggregate over some rows against its expected value. -/
def aggregateError (rows : List Row) (column operation label : String) (expected : Value) :
    Except Raised (List String) := do
  match ← aggregateValue py rows column operation with
  | none => return [label]
  | some observed => unlessEqual py expected (.decimal observed 0) label

/-! ## The provisional checks of the first fact -/

/-- The first grain spec of a fact. -/
def firstGrain (fact : FactSpec) : Option GrainSpec :=
  inputs.compiledPlan.grainSpecs.find? fun grain => grain.grainId = fact.grainSpecId

/-- The check `fact_count` of the first pass. -/
def provisionalCount (table : TargetTableSnapshot) : Except Raised CheckEntry := do
  let expected := Value.count inputs.sourceTruth.facts.length
  let observed := Value.count table.rows.length
  let same ← expected.equal py observed
  return { checkId := "fact_count"
           name := "fact row count"
           status := if same then .pass else .fail
           scope := .fact
           details := "materialized fact count equals independently expected fact count"
           expected := expected
           observed := observed }

section

variable (fact : FactSpec)

/-- The check of the grain of the first fact. -/
def provisionalGrain (table : TargetTableSnapshot) : Except Raised CheckEntry := do
  let facts := inputs.sourceTruth.facts
  let grain := firstGrain inputs fact
  let expectedKeys := grainKeys grain (facts.map SourceTruthFact.grainValues)
  let observedKeys := grainKeys grain table.rows
  Value.requireHashable expectedKeys
  Value.requireHashable observedKeys
  let expected := Value.distinct expectedKeys
  let observed := Value.distinct observedKeys
  let missing ← Value.sortedValues
    (expected.filter fun value => value.key ∉ observedKeys.map Value.key)
  let extra ← Value.sortedValues
    (observed.filter fun value => value.key ∉ expectedKeys.map Value.key)
  let expectedSorted ← Value.sortedValues expected
  let observedSorted ← Value.sortedValues observed
  -- `expected_grain[key]`, the reference of the last fact with the key.
  let factRefs := (expectedKeys.map Value.key).zip (facts.map SourceTruthFact.factRef)
  return { checkId := "fact_grain"
           name := "fact grain values"
           status := if missing = [] ∧ extra = [] ∧ observed.length = table.rows.length
             then .pass else .fail
           scope := .grain
           details := "every independently expected fact grain key is present exactly once"
           expected := .list expectedSorted
           observed := .list observedSorted
           affectedRefs := missing.filterMap fun value => getItem factRefs value.key }

/-- The check of duplicate grain keys. -/
def provisionalDuplicates (table : TargetTableSnapshot) : CheckEntry :=
  let duplicates := table.rows.length -
    (Value.distinct (grainKeys (firstGrain inputs fact) table.rows)).length
  { checkId := "fact_duplicates"
    name := "fact duplicate grain"
    status := if duplicates = 0 then .pass else .fail
    scope := .grain
    details := "fact grain has no duplicate keys"
    expected := .count 0
    observed := .count duplicates }

/-- The first foreign key to a date dimension, with that dimension. -/
def dateForeignKey : Option (FactForeignKeySpec × DimensionSpec) :=
  fact.dimensionForeignKeys.findSome? fun item =>
    match getItem (dimensionItems inputs) item.dimensionId with
    | some spec => if spec.role = .date then some (item, spec) else none
    | none => none

/-- The comparison of the date of one row. -/
def dateAllocationErrors (expected : SourceTruthFact) (row : Row) : Except Raised (List String) :=
  match dateForeignKey inputs fact, expected.dateValue with
  | some (foreignKey, spec), some date => do
    if date = "" then return []
    let rows := ((target.table spec.tableName).map TargetTableSnapshot.rows).getD []
    let dateRow ← findRow foreignKey.dimensionKeyColumn (row.get foreignKey.factColumn) rows
    return errorIf (dateRow.all fun row => (row.get "full_date").pyStr py ≠ date)
      (expected.factRef ++ ":date")
  | _, _ => .ok []

/-- The errors of one expected fact in the first pass; a missing row is none. -/
def provisionalValueErrors (table : TargetTableSnapshot) (expected : SourceTruthFact) :
    Except Raised (List String) :=
  match rowByGrain (firstGrain inputs fact) table.rows expected.grainValues with
  | none => .ok []
  | some row => do
    let values ← allocationErrors inputs target py expected.factRef ":unbound_expected_entity" fact
      expected row
    let dates ← dateAllocationErrors inputs target py fact expected row
    return values ++ dates ++ lineageErrors py expected.factRef expected row

/-- The check of the fact values of the first pass. -/
def provisionalValues (table : TargetTableSnapshot) : Except Raised CheckEntry := do
  (dictOf (dimensionItems inputs)).forM fun item =>
    Value.requireHashable ((dimensionMembers inputs target item.1).map Prod.fst)
  let errors ← inputs.sourceTruth.facts.mapM (provisionalValueErrors inputs target py fact table)
  let errors := errors.flatten
  return { checkId := "fact_business_values"
           name := "fact business values and dimension allocation"
           status := statusOf errors
           scope := .fact
           details := detailsOf errors
             "fact event IDs, measures, foreign-key allocations, dates and row lineage match independent truth"
             "fact values or dimension allocation differ from independent truth"
           expected := .str "exact fact values and allocations"
           observed := .orText errors "exact"
           affectedRefs := errors }

/-- The orphans of one foreign key, whose values are compared as they are. -/
def provisionalOrphans (table : TargetTableSnapshot) (foreignKey : FactForeignKeySpec) :
    Except Raised (List String) :=
  match (getItem (dimensionItems inputs) foreignKey.dimensionId).bind fun spec =>
      target.table spec.tableName with
  | none => .ok []
  | some dimension => do
    let validKeys := dimension.rows.map fun row => row.get foreignKey.dimensionKeyColumn
    Value.requireHashable validKeys
    Value.requireHashable (table.rows.map fun row => row.get foreignKey.factColumn)
    return (table.rows.filter fun row =>
      (row.get foreignKey.factColumn).key ∉ validKeys.map Value.key).map fun row =>
        eventText py row ((getItem row "source_record_refs").getD (.str "unknown"))

/-- The check of orphans of the first pass. -/
def provisionalForeignKeys (table : TargetTableSnapshot) : Except Raised CheckEntry := do
  let orphans ← fact.dimensionForeignKeys.mapM (provisionalOrphans inputs target py table)
  let orphans := orphans.flatten
  return { checkId := "foreign_key_integrity"
           name := "foreign-key and orphan policy"
           status := statusOf orphans
           scope := .referentialIntegrity
           details := detailsOf orphans
             "all required fact foreign keys resolve under the reviewed orphan policy"
             "orphan or unresolved required fact foreign keys were observed"
           expected := .count 0
           observed := .count orphans.length
           affectedRefs := sortedSet orphans }

end

/-- The key columns of a dimension that hold a value twice. -/
def keyErrors (item : String × DimensionSpec) : Except Raised (List String) :=
  match target.table item.2.tableName with
  | none => .ok [item.1 ++ ":missing_table"]
  | some table => do
    let columns := item.2.surrogateKey.keyName :: item.2.canonicalReferenceColumn ::
      item.2.alternateKeyColumns
    columns.forM fun column =>
      Value.requireHashable (table.rows.map fun row => (row.get column).normal)
    return (columns.filter fun column =>
      table.rows.length ≠
        (Value.distinct (table.rows.map fun row => (row.get column).normal)).length).map fun column =>
          item.1 ++ ":" ++ column

/-- The check of surrogate, canonical and alternate keys of the dimensions. -/
def keyUniqueness : Except Raised CheckEntry := do
  let errors ← (dictOf (dimensionItems inputs)).mapM (keyErrors target)
  let errors := errors.flatten
  return { checkId := "key_uniqueness"
           name := "warehouse and alternate-key uniqueness"
           status := statusOf errors
           scope := .dimensions
           details := "dimension surrogate, canonical and alternate keys are unique"
           expected := .str "unique"
           observed := .orText errors "unique" }

/-- The check `date_coverage` of the first pass. -/
def provisionalDates : CheckEntry :=
  let expected := sortedSet (inputs.sourceTruth.facts.filterMap SourceTruthFact.dateValue)
  let errors := (inputs.compiledPlan.dimensionSpecs.filter fun spec => spec.role = .date).flatMap
    fun spec => expected.filter fun date => date ∉ observedDates target py spec
  { checkId := "date_coverage"
    name := "date coverage and role"
    status := statusOf errors
    scope := .dates
    details := "all source-truth fact dates are represented by the reviewed date dimension"
    expected := .texts expected
    observed := .orText errors "covered" }

/-- `truth.expected_aggregates.get("aggregates")`. -/
def declaredAggregates : Value :=
  (getItem inputs.sourceTruth.expectedAggregates "aggregates").getD .none

/-- The items of `truth.expected_aggregates.get("aggregates", [])`. -/
def looseAggregates : Except Raised (List Value) :=
  match getItem inputs.sourceTruth.expectedAggregates "aggregates" with
  | some value => value.iterate
  | none => .ok []

/-- What a row contributes to a group key in the first pass. -/
def provisionalGroupPart (fact : FactSpec) (row : Row) (dimensionId : String) :
    Except Raised String :=
  match foreignKeyOf fact dimensionId, getItem (dimensionItems inputs) dimensionId with
  | some foreignKey, some spec =>
    match target.table spec.tableName with
    | none => .error (.keyError spec.tableName)
    | some dimension => do
      match ← findRow foreignKey.dimensionKeyColumn (row.get foreignKey.factColumn) dimension.rows with
      | some dimensionRow =>
        return (dimensionRow.get spec.canonicalReferenceColumn).normal.pyStr py
      | none => return "<orphan>"
  | _, _ => .ok "<missing-dimension>"

/-- The rows with their group keys; without grouping they are all in one group. -/
def groupRows (part : Row → String → Except Raised String) (groupBy : List String)
    (rows : List Row) : Except Raised (List (String × Row)) :=
  if groupBy = [] then .ok (rows.map fun row => ("__global__", row))
  else rows.mapM fun row => do
    let parts ← groupBy.mapM (part row)
    return (String.intercalate "|" parts, row)

/-- The rows of one group. -/
def rowsOfGroup (grouped : List (String × Row)) (key : String) : List Row :=
  (grouped.filter fun item => item.1 = key).map Prod.snd

/-- The failures of one loosely typed aggregate; `none` where it is pending. -/
def looseAggregateFailures (fact : FactSpec) (table : TargetTableSnapshot) (aggregate : Value) :
    Except Raised (Option (List String)) := do
  let items ← aggregate.mapping
  let column := ((getItem items "measure_field").getD (.str "")).pyStr py
  let operation := ((getItem items "operation").getD (.str "")).pyStr py
  let expectedMap := (getItem items "expected_by_key").getD
    (.dict [("__global__", (getItem items "expected").getD .none)])
  let groupBy ← ((getItem items "group_by").getD (.list [])).iterate
  let groupBy := groupBy.map (Value.pyStr py)
  if column = "" ∨ (operation ≠ "SUM" ∧ operation ≠ "MAX") then return none
  let grouped ← groupRows (provisionalGroupPart inputs target py fact) groupBy table.rows
  let label := ((getItem items "aggregate_id").getD (.str "aggregate")).pyStr py
  let failures ← (← expectedMap.mapping).mapM fun item =>
    aggregateError py (rowsOfGroup grouped item.1) column operation (label ++ ":" ++ item.1) item.2
  return some failures.flatten

/-- The checks of quantities and aggregates of the first pass. -/
def provisionalQuantities (fact : FactSpec) (table : TargetTableSnapshot) :
    Except Raised (List CheckEntry) := do
  let outcomes ← (← looseAggregates inputs).mapM (looseAggregateFailures inputs target py fact table)
  let pending := outcomes.any Option.isNone
  let failures := outcomes.flatMap fun outcome => outcome.getD []
  let declared := (declaredAggregates inputs).truthy
  let slices := failures.filter fun item => ¬ ":__global__".toList <:+: item.toList
  return [
    { checkId := "quantity_global"
      name := "global measure reconciliation"
      status := if pending ∧ declared = false then .notEvaluated else statusOf failures
      scope := .aggregate
      details := detailsOf failures "independent business-fact aggregates equal target values"
        "one or more independent aggregates disagree with the target"
      expected := .str "all declared aggregates"
      observed := .orText failures "all match"
      affectedRefs := failures },
    { checkId := "quantity_slices"
      name := "sliced measure reconciliation"
      status := if slices ≠ [] then .fail else if declared then .pass else .notEvaluated
      scope := .aggregate
      details := "product/location/date slices are compared independently from the global total"
      expected := .str "all declared slices"
      observed := .orText slices "all match"
      affectedRefs := slices }]

/-- The source records that are expected to reach the target. -/
def expectedContributing : List String :=
  let contributing := ((accountingScope inputs .canonicalToAnalytical).map fun scope =>
    (scope.entries.filter fun entry => entry.disposition.contributing).map
      RecordAccountingEntry.inputRecordRef).getD []
  (inputs.sourceTruth.records.filter fun record =>
    (getItem (inputs.canonicalModel.sourceRecordMaps.map fun item => (item.recordRef, item))
      record.recordRef).any fun item => item.canonicalEntityId ∈ contributing).map
        SourceTruthRecord.recordRef

/-- The source records that the target names, synthetic references apart. -/
def targetRefs : List String :=
  ((target.tables.flatMap TargetTableSnapshot.rows).flatMap fun row =>
    (row.get "source_record_refs").asRefs py).filter fun ref =>
      !("policy:".isPrefixOf ref || "date-range:".isPrefixOf ref || "synthetic:".isPrefixOf ref)

/-- The two checks of lineage, from the sources and back to them. -/
def lineageEntries : List CheckEntry :=
  let expected := sortedSet (expectedContributing inputs)
  let observed := sortedSet (targetRefs target py)
  let missing := expected.filter fun ref => ref ∉ observed
  let unexpected := observed.filter fun ref => ref ∉ inputs.sourceTruth.recordRefs
  [{ checkId := "lineage_source_to_target"
     name := "source-to-target lineage"
     status := statusOf missing
     scope := .lineage
     details := detailsOf missing
       "every independently contributing source record is retained in downstream lineage"
       "contributing source records are missing from target lineage"
     expected := .texts expected
     observed := .texts observed
     affectedRefs := missing },
   { checkId := "lineage_target_to_source"
     name := "target-to-source lineage"
     status := statusOf unexpected
     scope := .lineage
     details := detailsOf unexpected
       "every target lineage reference resolves to the independent source universe"
       "target contains lineage references outside the independent source universe"
     expected := .str "subset of source truth"
     observed := .orText unexpected "subset"
     affectedRefs := unexpected }]

/-- `add_target_unavailable`. -/
def targetUnavailable (error : Option String) (checkId name : String) (scope : ValidationScope) :
    CheckEntry where
  checkId := checkId
  name := name
  status := .notEvaluated
  scope := scope
  details := "target snapshot was unavailable: " ++ error.getD "unknown adapter error"

/-- The checks of a target that could not be read. -/
def unavailableEntries (error : String) : List CheckEntry :=
  [targetUnavailable error "target_table_set" "target table set" .materialization,
    targetUnavailable error "fact_count" "fact row count" .fact,
    targetUnavailable error "fact_grain" "fact grain values" .grain,
    targetUnavailable error "fact_duplicates" "fact duplicate grain" .grain,
    targetUnavailable error "fact_business_values" "fact business values and dimension allocation"
      .fact,
    targetUnavailable error "foreign_key_integrity" "foreign-key and orphan policy"
      .referentialIntegrity,
    targetUnavailable error "key_uniqueness" "warehouse and alternate-key uniqueness" .dimensions,
    targetUnavailable error "date_coverage" "date coverage and role" .dates,
    targetUnavailable error "quantity_global" "global measure reconciliation" .aggregate,
    targetUnavailable error "quantity_slices" "sliced measure reconciliation" .aggregate,
    targetUnavailable error "lineage_source_to_target" "source-to-target lineage" .lineage,
    targetUnavailable error "lineage_target_to_source" "target-to-source lineage" .lineage]

/-- The target has the planned tables and no others. -/
def targetTableSet : CheckEntry :=
  let allowed := inputs.compiledPlan.tableNames
  let observed := target.availableTableNames
  { checkId := "target_table_set"
    name := "target table set"
    status := if AnalyticalCompilerService.sameSet observed allowed then .pass else .fail
    scope := .materialization
    details := if AnalyticalCompilerService.sameSet observed allowed
      then "target contains exactly the reviewed table set"
      else "target table set differs from compiled plan"
    expected := .texts (sortedSet allowed)
    observed := .texts (sorted observed) }

/-- The first fact spec, if its table is in the target. -/
def firstFact : Option (FactSpec × TargetTableSnapshot) :=
  inputs.compiledPlan.factSpecs.head?.bind fun fact =>
    (target.table fact.tableName).map fun table => (fact, table)

/-- The checks of the first pass over the first fact. -/
def factEntries (fact : FactSpec) (table : TargetTableSnapshot) :
    Except Raised (List CheckEntry) := do
  let count ← provisionalCount inputs py table
  let grain ← provisionalGrain inputs fact table
  let values ← provisionalValues inputs target py fact table
  let foreignKeys ← provisionalForeignKeys inputs target py fact table
  let uniqueness ← keyUniqueness inputs target
  let quantities ← provisionalQuantities inputs target py fact table
  return [count, grain, provisionalDuplicates inputs fact table, values, foreignKeys, uniqueness,
    provisionalDates inputs target py] ++ quantities ++ lineageEntries inputs target py

/-- The first pass over a target. -/
def singleFactEntries : Except Raised (List CheckEntry) :=
  match firstFact inputs target with
  | none => .ok [targetTableSet inputs target,
      targetUnavailable none "fact_count" "fact row count" .fact]
  | some (fact, table) => do
    return targetTableSet inputs target :: (← factEntries inputs target py fact table)

/-! ## The replacements of the second pass -/

section

variable (fact : FactSpec)

/-- The facts of the manifest that are expected in the table of a fact: those in its scope, or all of
them in a plan with one fact and none in its scope. -/
def expectedFacts : List SourceTruthFact :=
  let selected := inputs.sourceTruth.facts.filter fun item => item.scopeId = fact.factId
  if selected = [] ∧ inputs.compiledPlan.factSpecs.length = 1 then inputs.sourceTruth.facts
  else selected

/-- What the source truth lacks for a fact of a plan with several. -/
def contractErrors : List String :=
  errorIf (1 < inputs.compiledPlan.factSpecs.length ∧
      ∃ item ∈ inputs.sourceTruth.facts, item.factId = none)
    (fact.factId ++ ":fact_id_required_for_multi_fact_truth") ++
  errorIf (expectedFacts inputs fact = []) (fact.factId ++ ":missing_expected_fact_scope")

/-- `all_grain_specs.get(fact_spec.grain_spec_id)`. -/
def grainOf : Option GrainSpec :=
  getItem (inputs.compiledPlan.grainSpecs.map fun grain => (grain.grainId, grain)) fact.grainSpecId

/-- The target rows of a fact. -/
def factRows : List Row :=
  ((target.table fact.tableName).map TargetTableSnapshot.rows).getD []

/-- `row_count`, or `-1` for a missing table. -/
def observedCount : Int :=
  ((target.table fact.tableName).map fun table => (table.rows.length : Int)).getD (-1)

/-- The number of rows against the expected facts. -/
def factCountErrors : List String :=
  errorIf (observedCount target fact ≠ (expectedFacts inputs fact).length) fact.factId

/-- The grain keys that the expected facts have. -/
def expectedGrainKeys : List Value :=
  grainKeys (grainOf inputs fact) ((expectedFacts inputs fact).map SourceTruthFact.grainValues)

/-- The grain keys in the target. -/
def observedGrainKeys : List Value :=
  grainKeys (grainOf inputs fact) (factRows target fact)

/-- The grain keys are the expected ones, and none is there twice. -/
def factGrainErrors : List String :=
  let expected := (expectedGrainKeys inputs fact).map Value.key
  let observed := (observedGrainKeys inputs target fact).map Value.key
  errorIf (¬ expected ⊆ observed ∨ ¬ observed ⊆ expected ∨
      observed.dedup.length ≠ (factRows target fact).length) fact.factId

/-- How many rows repeat a grain key. -/
def factDuplicateErrors : List String :=
  let duplicates := match grainOf inputs fact with
    | some _ => (factRows target fact).length -
        ((observedGrainKeys inputs target fact).map Value.key).dedup.length
    | none => 0
  errorIf (duplicates ≠ 0) (fact.factId ++ ":" ++ toString duplicates)

/-- The errors of one expected fact in the second pass; here a missing row is one. -/
def factValueErrors (expected : SourceTruthFact) : Except Raised (List String) :=
  let label := fact.factId ++ ":" ++ expected.factRef
  match rowByGrain (grainOf inputs fact) (factRows target fact) expected.grainValues with
  | none => .ok [label ++ ":missing_row"]
  | some row => do
    let values ← allocationErrors inputs target py label ":unbound" fact expected row
    return values ++ lineageErrors py label expected row

/-- The rows whose foreign key is no key of the dimension. -/
def orphanErrors (foreignKey : FactForeignKeySpec) : List String :=
  let validKeys := (dimensionReverseMap inputs target py foreignKey.dimensionId).map Prod.fst
  ((factRows target fact).filter fun row =>
    (row.get foreignKey.factColumn).normal.key ∉ validKeys).map fun row =>
      fact.factId ++ ":" ++ eventText py row (.str "unknown") ++ ":" ++ foreignKey.dimensionId

/-- The grain keys are put in sets, so they must be hashable. -/
def requireGrainHashes : Except Raised Unit := do
  Value.requireHashable (expectedGrainKeys inputs fact)
  Value.requireHashable (observedGrainKeys inputs target fact)

/-- The same of the foreign keys. -/
def requireForeignKeyHashes : Except Raised Unit :=
  fact.dimensionForeignKeys.forM fun foreignKey =>
    Value.requireHashable ((factRows target fact).map fun row =>
      (row.get foreignKey.factColumn).normal)

/-- The errors of all expected facts of a spec. -/
def factBusinessErrors : Except Raised (List String) := do
  requireGrainHashes inputs target fact
  let errors ← (expectedFacts inputs fact).mapM (factValueErrors inputs target py fact)
  requireForeignKeyHashes target fact
  return errors.flatten

end

/-- The dates of the expected facts of all specs. -/
def expectedDates : List String :=
  sortedSet (inputs.compiledPlan.factSpecs.flatMap fun fact =>
    (expectedFacts inputs fact).filterMap SourceTruthFact.dateValue)

/-- The expected dates that a date dimension does not have. -/
def dateErrors : List String :=
  ((dictOf (dimensionItems inputs)).filter fun item => item.2.role = .date).flatMap fun item =>
    (expectedDates inputs).filter fun date => date ∉ observedDates target py item.2

/-- An aggregate expectation of the second pass. -/
structure AggregateScope where
  (aggregateId factId measureField operation : String)
  groupBy : List String
  (expected expectedByKey : Value)

/-- An expected aggregate as the second pass reads it. -/
def SourceTruthAggregateExpectation.scope (item : SourceTruthAggregateExpectation) :
    AggregateScope where
  aggregateId := item.aggregateId
  factId := item.factId
  measureField := item.measureField
  operation := item.operation
  groupBy := item.groupBy
  expected := item.expected
  expectedByKey := .dict item.expectedByKey

/-- A `LegacyAggregate` of the only fact. -/
def legacyAggregate (fact : FactSpec) (aggregate : Value) : Except Raised AggregateScope := do
  let items ← aggregate.mapping
  let groupBy ← ((getItem items "group_by").getD (.list [])).iterate
  return {
    aggregateId := ((getItem items "aggregate_id").getD (.str "aggregate")).pyStr py
    factId := fact.factId
    measureField := ((getItem items "measure_field").getD (.str "")).pyStr py
    operation := ((getItem items "operation").getD (.str "")).pyStr py
    groupBy := groupBy.map (Value.pyStr py)
    expected := (getItem items "expected").getD .none
    expectedByKey := (getItem items "expected_by_key").getD (.dict []) }

/-- `aggregate_expectations`: the typed ones, or the loosely typed ones of the only fact. -/
def aggregateScopes : Except Raised (List AggregateScope) :=
  match inputs.sourceTruth.aggregateExpectations, inputs.compiledPlan.factSpecs with
  | [], [fact] => do (← looseAggregates inputs).mapM (legacyAggregate py fact)
  | expectations, _ => .ok (expectations.map SourceTruthAggregateExpectation.scope)

/-- What a row contributes to a group key in the second pass. -/
def groupPart (fact : FactSpec) (row : Row) (dimensionId : String) : Except Raised String :=
  match foreignKeyOf fact dimensionId with
  | none => .ok "<missing-dimension>"
  | some foreignKey => do
    let key := (row.get foreignKey.factColumn).normal
    Value.requireHashable [key]
    return (getItem (dimensionReverseMap inputs target py dimensionId) key.key).getD "<orphan>"

/-- The expected values by group; without any, one for the whole table. -/
def AggregateScope.expectedValues (aggregate : AggregateScope) :
    Except Raised (List (String × Value)) :=
  if aggregate.expectedByKey.truthy then aggregate.expectedByKey.toDict py
  else .ok [("__global__", aggregate.expected)]

/-- The groups of an aggregate that differ from what is expected. -/
def aggregateFailures (aggregate : AggregateScope) : Except Raised (List String) :=
  match inputs.compiledPlan.factSpecs.find? fun fact => fact.factId = aggregate.factId with
  | none => .ok [aggregate.aggregateId ++ ":unknown_fact"]
  | some fact => do
    let grouped ← groupRows (groupPart inputs target py fact) aggregate.groupBy
      (factRows target fact)
    let failures ← (← aggregate.expectedValues py).mapM fun item =>
      aggregateError py (rowsOfGroup grouped item.1) aggregate.measureField aggregate.operation
        (aggregate.aggregateId ++ ":" ++ item.1) item.2
    return failures.flatten

/-- `failure.split(":", 1)[0]`. -/
def beforeColon (text : String) : String := String.ofList (text.toList.takeWhile (· ≠ ':'))

/-- The checks of the facts that the second pass puts in place of the first's. -/
def factReplacements (businessErrors : List String) : List Replacement :=
  let specs := inputs.compiledPlan.factSpecs
  let countErrors := specs.flatMap (factCountErrors inputs target)
  let grainErrors := specs.flatMap (factGrainErrors inputs target)
  let duplicateErrors := specs.flatMap (factDuplicateErrors inputs target)
  let businessErrors := specs.flatMap (contractErrors inputs) ++ businessErrors
  let orphans := specs.flatMap fun fact =>
    fact.dimensionForeignKeys.flatMap (orphanErrors inputs target py fact)
  [{ checkId := "fact_count"
     status := statusOf countErrors
     details := detailsOf countErrors
       "every materialized FactSpec has the independently expected row count"
       "one or more materialized facts has an unexpected row count"
     expected := .dict (dictOf (specs.map fun fact =>
       (fact.factId, .count (expectedFacts inputs fact).length)))
     observed := .dict (dictOf (specs.map fun fact =>
       (fact.factId, .int (observedCount target fact))))
     affectedRefs := countErrors
     likelyStage := "MATERIALIZATION" },
   { checkId := "fact_grain"
     status := statusOf grainErrors
     details := detailsOf grainErrors
       "every materialized fact has the exact independently expected grain keys"
       "one or more materialized facts has missing or extra grain keys"
     expected := .str "exact grain per fact"
     observed := .dict [("fact_ids", .texts (specs.map FactSpec.factId)),
       ("errors", .texts grainErrors)]
     affectedRefs := grainErrors
     likelyStage := "MATERIALIZATION" },
   { checkId := "fact_duplicates"
     status := statusOf duplicateErrors
     details := detailsOf duplicateErrors
       "every materialized fact has zero duplicate grain keys"
       "one or more materialized facts has duplicate grain keys"
     expected := .count 0
     observed := if duplicateErrors = [] then .count 0 else .texts duplicateErrors
     affectedRefs := duplicateErrors
     likelyStage := "MATERIALIZATION" },
   { checkId := "fact_business_values"
     status := statusOf businessErrors
     details := detailsOf businessErrors
       "all fact rows preserve independent event IDs, measures, dimension allocations and source lineage"
       "one or more fact rows differs from independent fact-scoped truth"
     expected := .str "exact values for every fact"
     observed := .orText businessErrors "exact"
     affectedRefs := businessErrors
     likelyStage := "MATERIALIZATION" },
   { checkId := "foreign_key_integrity"
     status := statusOf orphans
     details := detailsOf orphans
       "all required foreign keys resolve for every materialized fact"
       "required orphan foreign keys were observed in a materialized fact"
     expected := .count 0
     observed := if orphans = [] then .count 0 else .texts orphans
     affectedRefs := orphans
     likelyStage := "MATERIALIZATION" }]

/-- The check `date_coverage` of the second pass. -/
def dateReplacement : Replacement :=
  let errors := dateErrors inputs target py
  { checkId := "date_coverage"
    status := statusOf errors
    details := detailsOf errors
      "all fact date roles are covered by the reviewed date dimension"
      "one or more fact date roles is absent from the date dimension"
    expected := .texts (expectedDates inputs)
    observed := .orText (sortedSet errors) "covered"
    affectedRefs := sortedSet errors
    likelyStage := "ANALYTICAL_PLANNING" }

/-- The replacements of the aggregate checks. -/
def quantityReplacements (scopes : List AggregateScope) (failures : List String) :
    List Replacement :=
  let slices := scopes.filter fun item => item.groupBy ≠ []
  let sliceFailures := failures.filter fun failure =>
    beforeColon failure ∈ slices.map AggregateScope.aggregateId
  [{ checkId := "quantity_global"
     status := statusOf failures
     details := detailsOf failures
       "all typed independent aggregate expectations match their fact-scoped target values"
       "one or more fact-scoped aggregate expectations disagrees with the target"
     expected := .str "all typed aggregates"
     observed := .orText failures "all match"
     affectedRefs := failures
     likelyStage := "MATERIALIZATION" },
   { checkId := "quantity_slices"
     status := if sliceFailures ≠ [] then .fail
       else if slices.isEmpty then .notEvaluated else .pass
     details := if sliceFailures ≠ [] then
         "one or more declared aggregate slices disagrees with independent truth"
       else if slices.isEmpty then "no independently declared aggregate slice exists"
       else "all declared fact-scoped aggregate slices match independently expected values"
     expected := .str "all typed slices"
     observed := .orText sliceFailures (if slices.isEmpty then "not declared" else "all match")
     affectedRefs := sliceFailures
     likelyStage := "MATERIALIZATION" }]

/-- The members of the dimensions are put in dictionaries. -/
def requireDimensionHashes : Except Raised Unit :=
  (dictOf (dimensionItems inputs)).forM fun item => do
    Value.requireHashable ((dimensionMembers inputs target item.1).map Prod.fst)
    Value.requireHashable ((dimensionMembers inputs target item.1).map fun member => member.2.normal)

/-- The second pass over a target. -/
def multiFactReplacements : Except Raised (List Replacement) := do
  requireDimensionHashes inputs target
  let businessErrors ← inputs.compiledPlan.factSpecs.mapM (factBusinessErrors inputs target py)
  let scopes ← aggregateScopes inputs py
  let failures ← scopes.mapM (aggregateFailures inputs target py)
  return factReplacements inputs target py businessErrors.flatten ++
    dateReplacement inputs target py :: quantityReplacements scopes failures.flatten

end

end DirtyDataOlap.Validation

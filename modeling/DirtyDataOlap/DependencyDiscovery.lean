import DirtyDataOlap.SearchRounds
import DirtyDataOlap.DependencyMetrics

/-!
# Dependency discovery

`DesbordanteDependencyAdapter.discover`: the staged rows are written for the provider, which is
asked for unique column combinations, functional dependencies and inclusion dependencies.  The
reader, the engine, the clock and the file system are parameters; the provider's answers are kept
beside the result.
-/
namespace DirtyDataOlap.Dependencies

open Validation (Interpreter)
open SearchRounds (Answer Log handle round search)

/-- A unique column combination, by the indices of its columns. -/
structure ProviderUCC where
  indices : List Int
deriving DecidableEq

/-- A functional dependency, by indices. -/
structure ProviderFD where
  lhsIndices : List Int
  rhsIndex : Int
  nativeMetricValue : Option PyFloat
deriving DecidableEq

/-- An inclusion dependency, by indices. -/
structure ProviderIND where
  leftTableIndex : Int
  leftColumnIndices : List Int
  rightTableIndex : Int
  rightColumnIndices : List Int
  nativeMetricValue : Option PyFloat
deriving DecidableEq

/-- A provider, which may answer differently each time it is called. -/
structure DependencyEngine where
  name : String
  version : String
  runtimeIdentity : String
  discoverUcc : (calls : Nat) → EngineInput → (maxArity : Nat) → Answer ProviderUCC
  discoverFd : (calls : Nat) → EngineInput → (approximate : Bool) → (maxError : ℚ) →
    (maxLhs : Nat) → Answer ProviderFD
  discoverInd : (calls : Nat) → List EngineInput → (approximate : Bool) → (maxError : ℚ) →
    (maxArity : Nat) → Answer ProviderIND

/-- A call of the engine, with what it answered. -/
inductive ProviderCall
  | ucc (input : EngineInput) (maxArity : Nat) (answer : Answer ProviderUCC)
  | fd (input : EngineInput) (approximate : Bool) (maxError : ℚ) (maxLhs : Nat)
    (answer : Answer ProviderFD)
  | ind (inputs : List EngineInput) (approximate : Bool) (maxError : ℚ) (maxArity : Nat)
    (answer : Answer ProviderIND)
deriving DecidableEq

/-- The calls so far, and their failures. -/
abbrev ProviderLog := Log ProviderCall DependencyFailure

/-- What an identifier is a digest of. -/
inductive IdSource
  | ucc (tableId : String) (columnIds : List String)
  | key (tableId : String) (columnIds : List String)
  | fd (tableId : String) (determinant dependent : List String) (approximate : Bool)
  | fdViolation (tableId : String) (determinant dependent : List String)
  | ind (leftTableId : String) (leftIds : List String) (rightTableId : String)
    (rightIds : List String) (approximate : Bool)
  | indViolation (evidenceId : String)
  | relationship (evidenceId : String)
  | failure (stage : String) (tableId : Option String) (approximate : Option Bool)

/-- The prefix of an identifier. -/
def IdSource.kind : IdSource → String
  | .ucc _ _ => "ucc"
  | .key _ _ => "key"
  | .fd _ _ _ _ => "fd"
  | .fdViolation _ _ _ | .indViolation _ => "violation"
  | .ind _ _ _ _ _ => "ind"
  | .relationship _ => "rel"
  | .failure _ _ _ => "dep_failure"

/-- What reading the staged rows can raise. -/
inductive ReaderRaised
  | integrity (detail : String)
  | other

/-- The exceptions that leave `discover`. -/
inductive DiscoverRaised
  | reader
  | validation
  | tempRoot

/-- The adapter with what it is given: an engine, digests, a reader and a publisher. -/
structure DesbordanteDependencyAdapter where
  engine : Option DependencyEngine
  interpreter : Interpreter
  rounding : Rounding
  digest : IdSource → String
  configHash : DependencyRequest → String
  iterTable : SourceSnapshotResult → SourceCatalog → TableDescriptor → (physicalColumns : List String) →
    Except ReaderRaised (List StagedDependencyRow)
  /-- `verify_dependency_authorization`, of the privacy policy where there is one. -/
  verifyAuthorization : Option (DependencyAuthorization → (sourceId snapshotId : String) →
    (tableIds artifactIds : List String) → Bool)
  /-- Whether the directory of a request can be made anew. -/
  makesTempRoot : DependencyRequest → Bool
  writesInput : EngineInput → Bool
  runtimeExceeded : DependencyRequest → Bool
  /-- The artifacts that a result is published as under a root, if it can be. -/
  publish : DependencyResult → (artifactRoot : String) → Option (List String)

/-- What the three searches share. -/
structure Discovery where
  request : DependencyRequest
  tables : List TableDescriptor
  columnsOf : String → List ColumnDescriptor
  rowsOf : String → List StagedDependencyRow
  scope : DependencyObservationScope

/-! ## Tables and columns -/

/-- A dictionary by the ids of some tables. -/
def byTable {α : Type} (tables : List TableDescriptor) (f : String → α) : List (String × α) :=
  (tables.map TableDescriptor.tableId).eraseDups.map fun tableId => (tableId, f tableId)

section

variable (request : DependencyRequest) (catalog : SourceCatalog)

/-- The tables of the catalog that are selected. -/
def requestedTables : List TableDescriptor :=
  catalog.tables.filter (·.tableId ∈ request.selectedTableIds)

/-- The requested tables, up to the bound. -/
def selectedTables : List TableDescriptor :=
  (requestedTables request catalog).take request.searchPolicy.maxTables

/-- The columns of a table. -/
def allColumns (tableId : String) : List ColumnDescriptor :=
  catalog.columns.filter (·.tableId = tableId)

/-- The columns of a table, up to the bound. -/
def selectedColumns (tableId : String) : List ColumnDescriptor :=
  (allColumns catalog tableId).take request.searchPolicy.maxColumnsPerTable

end

/-- The columns at the indices that the engine names. -/
def columnsAt (columns : List ColumnDescriptor) (indices : List Int) :
    Except Raised (List ColumnDescriptor) :=
  indices.mapM (itemAt columns)

/-- `any(i >= len(columns) for i in indices)`. -/
def exceeds (columns : List ColumnDescriptor) (indices : List Int) : Bool :=
  indices.any (columns.length ≤ ·)

/-- The text of a null policy. -/
def nullSemantics : NullPolicy → String
  | .excludePhysicalNull =>
    "physical null rows excluded from provider relation and project denominators"
  | .nullsEqual => "physical null encoded as one tagged provider value and counted as equal"
  | .nullsBreakDependency =>
    "physical null encoded as row-unique tagged provider value and breaks dependency"
  | .literalNullIsValue =>
    "physical null encoded as one tagged value; literal source strings remain distinct"

namespace DesbordanteDependencyAdapter

variable (adapter : DesbordanteDependencyAdapter)

/-- `_id`: the prefix and a digest. -/
def dependencyId (source : IdSource) : String := source.kind ++ "_" ++ adapter.digest source

section

variable (request : DependencyRequest)

/-- `capability`: whether there is an engine. -/
def capability : DependencyCapability :=
  match adapter.engine with
  | none => ⟨.unavailable, "desbordante", none, request.requestedKinds,
      "No importable Desbordante binding or provisioned local Docker image is available"⟩
  | some engine => ⟨.available, engine.name, some engine.version, request.requestedKinds,
      "real provider boundary available (" ++ engine.runtimeIdentity ++ ")"⟩

/-- Where a piece of evidence comes from. -/
def provenance (engine : DependencyEngine) (request : DependencyRequest) (algorithm : String)
    (tableIds : List String) : DependencyProvenance where
  sourceId := request.sourceId
  snapshotId := request.snapshotId
  tableIds := tableIds
  engine := engine.name
  engineVersion := engine.version
  algorithm := algorithm
  algorithmConfigHash := adapter.configHash request
  nullSemantics := nullSemantics request.nullPolicy
  providerRuntime := engine.runtimeIdentity

/-- `_failure`. -/
def failure (request : DependencyRequest) (stage : String) (kind : DependencyFailureKind)
    (detail : String) (h : isGiven detail = true) : DependencyFailure where
  failureId := adapter.dependencyId (.failure stage none none)
  requestId := request.requestId
  kind := kind
  detail := detail
  tableId := none
  retryable := false
  detailIsGiven := h

/-- The time is up. -/
def budgetFailure (stage : String) : DependencyFailure :=
  adapter.failure request stage .budgetExceeded
    "dependency search exceeded its configured wall-clock budget" (by decide +kernel)

/-- The engine failed in one round. -/
def roundFailure (stage : String) (tableId : Option String) (approximate : Option Bool)
    (detail : String) (h : isGiven detail = true) : DependencyFailure where
  failureId := adapter.dependencyId (.failure stage tableId approximate)
  requestId := request.requestId
  kind := .engineFailed
  detail := detail
  tableId := tableId
  retryable := false
  detailIsGiven := h

end

section

variable (engine : DependencyEngine) (d : Discovery)

/-- A unique combination, proposed as a key. -/
def keyCandidate (item : UniqueColumnCombinationEvidence) : KeyCandidate where
  candidateId := adapter.dependencyId (.key item.tableId item.columnIds)
  sourceId := item.sourceId
  snapshotId := item.snapshotId
  tableId := item.tableId
  columns := item.columnIds
  uccEvidenceId := item.evidenceId
  uniquenessRatio := item.uniquenessRatio
  physicalMissingRatio := item.physicalMissingRatio
  duplicateCount := item.duplicateCount
  observationScope := item.observationScope
  state := .observed
  evidenceRefs := [item.evidenceId]
  provenance := item.provenance
  isMeasured := item.isMeasured

/-- One item of an answer about unique column combinations. -/
def uccItem (tableId : String) (item : ProviderUCC) :
    Except Raised (Option UniqueColumnCombinationEvidence) := do
  let columns := d.columnsOf tableId
  if item.indices = [] ∨ d.request.searchPolicy.maxUccArity < item.indices.length ∨
      exceeds columns item.indices = true then return none
  let chosen ← columnsAt columns item.indices
  let ids := chosen.map ColumnDescriptor.columnId
  let metrics ← keyMetrics (d.rowsOf tableId) columns (chosen.map ColumnDescriptor.physicalName)
    d.request.nullPolicy
  let uniqueness := adapter.rounding.ratio metrics.distinct metrics.eligible 0
  let missing := adapter.rounding.ratio (metrics.rows - metrics.eligible) metrics.rows 0
  let evidence ← validated "UniqueColumnCombinationEvidence"
    (ids ≠ [] ∧ IsRatio uniqueness ∧ IsRatio missing) fun h => {
      evidenceId := adapter.dependencyId (.ucc tableId ids)
      sourceId := d.request.sourceId
      snapshotId := d.request.snapshotId
      tableId := tableId
      columnIds := ids
      uniquenessRatio := uniqueness
      physicalMissingRatio := missing
      duplicateCount := metrics.eligible - metrics.distinct
      observationScope := d.scope
      state := .observed
      provenance := adapter.provenance engine d.request "UCC.Default" [tableId]
      isMeasured := h }
  return some evidence

/-- The file that the provider is given for a table. -/
def inputOf (tableId : String) : EngineInput :=
  engineInput adapter.interpreter tableId (d.columnsOf tableId) (d.rowsOf tableId) d.request.nullPolicy

/-- The unique combinations of one table. -/
def uccRound (table : TableDescriptor) (log : ProviderLog) :
    Except ProviderLog (List UniqueColumnCombinationEvidence × ProviderLog) :=
  let input := adapter.inputOf d table.tableId
  let answer := engine.discoverUcc log.calls.length input d.request.searchPolicy.maxUccArity
  round (.ucc input d.request.searchPolicy.maxUccArity answer)
    (adapter.roundFailure d.request "ucc" (some table.tableId) none
      "UCC discovery failed for the selected table" (by decide +kernel))
    answer (adapter.uccItem engine d table.tableId) log

/-- The unique combinations of all tables, if they are requested. -/
def discoverKeys (log : ProviderLog) :
    Except ProviderLog (List UniqueColumnCombinationEvidence × ProviderLog) :=
  if .ucc ∈ d.request.requestedKinds then search (adapter.uccRound engine d) d.tables log
  else .ok ([], log)

/-- One item of an answer about functional dependencies. -/
def fdItem (approximate : Bool) (tableId : String) (item : ProviderFD) :
    Except Raised (Option FunctionalDependencyEvidence) := do
  let columns := d.columnsOf tableId
  let kind := if approximate then DependencyKind.afd else .fd
  if item.lhsIndices = [] ∨ d.request.searchPolicy.maxFdLhsArity < item.lhsIndices.length ∨
      exceeds columns (item.lhsIndices ++ [item.rhsIndex]) = true then return none
  let lhs ← columnsAt columns item.lhsIndices
  let rhs ← itemAt columns item.rhsIndex
  let determinant := lhs.map ColumnDescriptor.columnId
  let metrics ← fdMetrics adapter.rounding (d.rowsOf tableId) columns
    (lhs.map ColumnDescriptor.physicalName) [rhs.physicalName] d.request.nullPolicy
  let observation ← nativeMetric kind item.nativeMetricValue d.request.searchPolicy.maxErrorRatio
  let violation : DependencyViolation := {
    violationId := adapter.dependencyId (.fdViolation tableId determinant [rhs.columnId])
    kind := kind
    recordRefs := metrics.refs.take 20
    count := metrics.violations
    detailCode := "FD_DETERMINANT_HAS_MULTIPLE_DEPENDENT_VALUES" }
  let evidence ← validated "FunctionalDependencyEvidence"
    (determinant ≠ [] ∧ [rhs.columnId] ≠ [] ∧ IsRatio metrics.support ∧ IsRatio metrics.error)
    fun h => {
      evidenceId := adapter.dependencyId (.fd tableId determinant [rhs.columnId] approximate)
      sourceId := d.request.sourceId
      snapshotId := d.request.snapshotId
      tableId := tableId
      determinant := determinant
      dependent := [rhs.columnId]
      approximate := approximate
      supportRatio := metrics.support
      errorRatio := metrics.error
      violationCount := metrics.violations
      violations := if metrics.violations = 0 then [] else [violation]
      metricObservations := observation.toList
      nullPolicy := d.request.nullPolicy
      observationScope := d.scope
      state := .observed
      provenance := adapter.provenance engine d.request
        (if approximate then "AFD.Tane" else "FD.HyFD") [tableId]
      isMeasured := h }
  return some evidence

/-- The functional dependencies of one table, exact or approximate. -/
def fdRound (item : Bool × TableDescriptor) (log : ProviderLog) :
    Except ProviderLog (List FunctionalDependencyEvidence × ProviderLog) :=
  let (approximate, table) := item
  let policy := d.request.searchPolicy
  let input := adapter.inputOf d table.tableId
  let answer := engine.discoverFd log.calls.length input approximate policy.maxErrorRatio
    policy.maxFdLhsArity
  round (.fd input approximate policy.maxErrorRatio policy.maxFdLhsArity answer)
    (adapter.roundFailure d.request "fd" (some table.tableId) (some approximate)
      "functional dependency discovery failed for the selected table" (by decide +kernel))
    answer (adapter.fdItem engine d approximate table.tableId) log

/-- Exact, approximate, or both, as requested. -/
def requestedModes (request : DependencyRequest) (exact approximate : DependencyKind) : List Bool :=
  [false, true].filter fun mode => (if mode then approximate else exact) ∈ request.requestedKinds

/-- The functional dependencies of all tables, mode by mode. -/
def discoverFds (log : ProviderLog) :
    Except ProviderLog (List FunctionalDependencyEvidence × ProviderLog) :=
  search (adapter.fdRound engine d)
    ((requestedModes d.request .fd .afd).flatMap fun mode => d.tables.map (mode, ·)) log

/-! ## Inclusion dependencies -/

/-- The relationship candidate of an inclusion dependency, where it has one. -/
def relationshipCandidate (item : InclusionDependencyEvidence) : Option RelationshipCandidate :=
  if item.lowCardinalityRisk = false ∧ item.typeCompatible = true ∧ 1 ≤ item.targetUniquenessRatio then
    some {
      candidateId := adapter.dependencyId (.relationship item.evidenceId)
      sourceId := item.sourceId
      snapshotId := item.snapshotId
      fromTable := item.leftTableId
      fromColumns := item.leftColumns
      toTable := item.rightTableId
      toColumns := item.rightColumns
      sourceOrphanRatio := item.violationRatio
      targetUniquenessRatio := item.targetUniquenessRatio
      typeCompatible := item.typeCompatible
      lowCardinalityRisk := item.lowCardinalityRisk
      evidenceRefs := [item.evidenceId]
      widthsMatch := item.widthsMatch
      isMeasured := ⟨item.isMeasured.2.1, item.isMeasured.2.2⟩
      evidenceIsGiven := List.cons_ne_nil _ _ }
  else none

/-- Whether the target of an inclusion has few values. -/
def lowCardinality (metrics : IndMetrics) : Bool :=
  metrics.rightDistinct ≤ d.request.searchPolicy.lowCardinalityDistinctLimit ||
    (0 < metrics.rightRows && adapter.rounding.round (metrics.rightDistinct / metrics.rightRows) ≤
      d.request.searchPolicy.lowCardinalityDistinctRatio)

variable (approximate : Bool)

/-- The evidence of an inclusion between the columns of two tables. -/
def indEvidence (left right : String) (lhs rhs : List ColumnDescriptor) (metrics : IndMetrics)
    (observation : Option DependencyMetricObservation) :
    Except Raised InclusionDependencyEvidence :=
  let leftIds := lhs.map ColumnDescriptor.columnId
  let rightIds := rhs.map ColumnDescriptor.columnId
  let evidenceId := adapter.dependencyId (.ind left leftIds right rightIds approximate)
  let violation : DependencyViolation := {
    violationId := adapter.dependencyId (.indViolation evidenceId)
    kind := if approximate then .approximateInd else .ind
    recordRefs := metrics.refs.take 20
    count := metrics.orphanCount
    detailCode := "IND_LEFT_VALUE_NOT_IN_RIGHT_DOMAIN" }
  validated "InclusionDependencyEvidence"
    ((leftIds ≠ [] ∧ rightIds ≠ [] ∧ leftIds.length = rightIds.length) ∧
      IsRatio metrics.coverage ∧ IsRatio metrics.violationRatio ∧ IsRatio metrics.targetUniqueness)
    fun h => {
      evidenceId := evidenceId
      sourceId := d.request.sourceId
      snapshotId := d.request.snapshotId
      leftTableId := left
      leftColumns := leftIds
      rightTableId := right
      rightColumns := rightIds
      approximate := approximate
      coverageRatio := metrics.coverage
      violationRatio := metrics.violationRatio
      leftDistinctCount := metrics.leftDistinct
      rightDistinctCount := metrics.rightDistinct
      orphanCount := metrics.orphanCount
      targetUniquenessRatio := metrics.targetUniqueness
      typeCompatible := typesCompatible lhs rhs
      lowCardinalityRisk := adapter.lowCardinality d metrics
      violations := if metrics.orphanCount = 0 then [] else [violation]
      metricObservations := observation.toList
      nullPolicy := d.request.nullPolicy
      observationScope := d.scope
      state := .observed
      provenance := adapter.provenance engine d.request
        (if approximate then "AIND.Mind" else "IND.Spider") [left, right]
      widthsMatch := h.1
      isMeasured := h.2 }

/-- One item of an answer about inclusion dependencies. -/
def indItem (item : ProviderIND) : Except Raised (Option InclusionDependencyEvidence) := do
  let left ← itemAt d.tables item.leftTableIndex
  let right ← itemAt d.tables item.rightTableIndex
  if left.tableId = right.tableId then return none
  let leftColumns := d.columnsOf left.tableId
  let rightColumns := d.columnsOf right.tableId
  if item.leftColumnIndices.length ≠ item.rightColumnIndices.length ∨ item.leftColumnIndices = [] ∨
      d.request.searchPolicy.maxIndArity < item.leftColumnIndices.length then return none
  if exceeds leftColumns item.leftColumnIndices = true ∨
      exceeds rightColumns item.rightColumnIndices = true then return none
  let lhs ← columnsAt leftColumns item.leftColumnIndices
  let rhs ← columnsAt rightColumns item.rightColumnIndices
  let metrics ← indMetrics adapter.rounding (d.rowsOf left.tableId) (d.rowsOf right.tableId) leftColumns
    rightColumns (lhs.map ColumnDescriptor.physicalName) (rhs.map ColumnDescriptor.physicalName)
    d.request.nullPolicy
  let observation ← nativeMetric (if approximate then .approximateInd else .ind)
    item.nativeMetricValue d.request.searchPolicy.maxErrorRatio
  let evidence ← adapter.indEvidence engine d approximate left.tableId right.tableId lhs rhs metrics
    observation
  return some evidence

/-- The files that the provider is given for the tables. -/
def inputsOf : List EngineInput :=
  (byTable d.tables (adapter.inputOf d)).map Prod.snd

/-- The inclusion dependencies between all tables, in one mode. -/
def indRound (log : ProviderLog) :
    Except ProviderLog (List InclusionDependencyEvidence × ProviderLog) :=
  let policy := d.request.searchPolicy
  let inputs := adapter.inputsOf d
  let answer := engine.discoverInd log.calls.length inputs approximate policy.maxErrorRatio
    policy.maxIndArity
  round (.ind inputs approximate policy.maxErrorRatio policy.maxIndArity answer)
    (adapter.roundFailure d.request "ind" none (some approximate)
      "inclusion dependency discovery failed for the selected table set" (by decide +kernel))
    answer (adapter.indItem engine d approximate) log

/-- The inclusion dependencies in all modes. -/
def discoverInds (log : ProviderLog) :
    Except ProviderLog (List InclusionDependencyEvidence × ProviderLog) :=
  search (adapter.indRound engine d) (requestedModes d.request .ind .approximateInd) log

end

/-! ## Scope and search statistics -/

/-- The last observation of a table, and whether it is complete. -/
def fullyObserved (snapshot : SourceSnapshotResult) (tableId : String) : Bool :=
  (getItem (snapshot.tableObservations.reverse.map fun o => (o.tableId, o.status)) tableId).any
    (· = .fullyObserved)

section

variable (request : DependencyRequest)

/-- `_scope`: what of the snapshot is observed. -/
def scope (snapshot : SourceSnapshotResult) (tables : List TableDescriptor) :
    DependencyObservationScope :=
  let ids := tables.map TableDescriptor.tableId
  let batches := snapshot.batches.filter (·.tableId ∈ ids)
  let rows := byTable tables fun tableId =>
    ((batches.filter (·.tableId = tableId)).map BatchReference.rowCount).sum
  { sourceId := request.sourceId
    snapshotId := request.snapshotId
    tableIds := ids
    mode := snapshot.observationMode
    rowsByTable := rows
    completeByTable := byTable tables (fullyObserved snapshot)
    inputBatchIds := batches.map BatchReference.batchId
    inputBatchHashes := batches.map BatchReference.contentHash
    inputRecordReferenceCount := (snapshot.recordTableIds.filter (· ∈ ids)).length
    stagedRowsByTable := rows
    providerRowsByTable := byTable tables fun _ => 0
    nullExcludedRowsByTable := byTable tables fun _ => 0
    providerScopeSemantics := "provider_not_started" }

/-- The scope with the rows that the engine gets to see. -/
def providerScope (scope : DependencyObservationScope) (tables : List TableDescriptor)
    (columnsOf : String → List ColumnDescriptor) (rowsOf : String → List StagedDependencyRow)
    (policy : NullPolicy) : DependencyObservationScope :=
  let eligible := fun tableId => ((rowsOf tableId).filter
    (rowEligible · ((columnsOf tableId).map ColumnDescriptor.physicalName) policy)).length
  { scope with
    providerRowsByTable := byTable tables eligible
    nullExcludedRowsByTable := byTable tables fun tableId =>
      (rowsOf tableId).length - eligible tableId
    providerScopeSemantics :=
      if policy = .excludePhysicalNull then "complete_case_filter_over_projected_columns"
      else "all_projected_rows_encoded_with_declared_null_semantics" }

/-- How many pairs of columns of different tables there are. -/
def columnPairs (tables : List TableDescriptor) (columnsOf : String → List ColumnDescriptor) : Nat :=
  (tables.map fun l => ((tables.filter (·.tableId ≠ l.tableId)).map fun r =>
    (columnsOf l.tableId).length * (columnsOf r.tableId).length).sum).sum

/-- The determinants of at most some width over some columns, for each dependent. -/
def determinantCount (columns maxLhs : Nat) : Nat :=
  columns * ((List.range (min maxLhs (columns - 1))).map fun w => (columns - 1).choose (w + 1)).sum

/-- What the bounds leave out of the search. -/
def searchStats (catalog : SourceCatalog) : DependencySearchStats :=
  let requested := requestedTables request catalog
  let selected := selectedTables request catalog
  let columnsOf := selectedColumns request catalog
  let full := columnPairs requested (allColumns catalog)
  let candidate := columnPairs selected columnsOf
  let excluded := (requested.map fun t => (allColumns catalog t.tableId).length -
    if t.tableId ∈ selected.map TableDescriptor.tableId then (columnsOf t.tableId).length else 0).sum
  let tablesExcluded := requested.length - selected.length
  let budget := candidate - request.searchPolicy.maxColumnPairs
  let reasons := ([("max_columns_per_table", excluded), ("max_tables", tablesExcluded),
    ("max_column_pairs", budget)].filter fun reason => reason.2 ≠ 0).map Prod.fst
  { inputTables := requested.length
    inputColumns := (requested.map fun t => (allColumns catalog t.tableId).length).sum
    columnsExcludedByBound := excluded
    tablesExcludedByBound := tablesExcluded
    candidateColumnPairs := candidate
    candidatePairsBeforePruning := full
    prunedByScope := full - candidate
    prunedByBudget := budget
    prunedColumnPairs := full - candidate + budget
    evaluatedPairs := 0
    searchedDeterminants := ((byTable selected fun tableId =>
      determinantCount (columnsOf tableId).length request.searchPolicy.maxFdLhsArity).map Prod.snd).sum
    uccSearchArity := request.searchPolicy.maxUccArity
    fdSearchArity := request.searchPolicy.maxFdLhsArity
    indSearchArity := request.searchPolicy.maxIndArity
    providerCalls := 0
    outputTruncation := false
    runtimeTimeout := false
    completeness := if reasons = [] then .complete else .incomplete
    emittedCandidates := 0
    truncated := reasons ≠ []
    truncationReasons := reasons }

/-- The statistics of a request that fails before its search is planned. -/
def noSearch (tables : List TableDescriptor) : DependencySearchStats where
  inputTables := tables.length
  inputColumns := 0
  columnsExcludedByBound := 0
  tablesExcludedByBound := 0
  candidateColumnPairs := 0
  candidatePairsBeforePruning := 0
  prunedByScope := 0
  prunedByBudget := 0
  prunedColumnPairs := 0
  evaluatedPairs := 0
  searchedDeterminants := 0
  uccSearchArity := 0
  fdSearchArity := 0
  indSearchArity := 0
  providerCalls := 0
  outputTruncation := false
  runtimeTimeout := false
  completeness := .incomplete
  emittedCandidates := 0
  truncated := false
  truncationReasons := []

/-! ## Discovery -/

/-- A result without any evidence. -/
def failedResult (scope : DependencyObservationScope) (failures : List DependencyFailure)
    (capability : DependencyCapability) (stats : DependencySearchStats) : DependencyResult where
  request := request
  observationScope := scope
  uccEvidence := []
  keyCandidates := []
  functionalDependencies := []
  inclusionDependencies := []
  relationshipCandidates := []
  failures := failures
  capabilities := [capability]
  searchStats := stats
  status := .failed
  artifacts := []

/-- `_validate_entry`, whose errors are texts. -/
def validateEntry (catalog : SourceCatalog) (snapshot : SourceSnapshotResult)
    (authorization : Option DependencyAuthorization) : Except String Unit := do
  let artifactIds := (snapshot.batches.filter (·.tableId ∈ request.selectedTableIds)).map
    BatchReference.batchId
  if request.sourceId ≠ catalog.sourceId ∨ request.snapshotId ≠ snapshot.snapshotId then
    throw "dependency request is not bound to supplied source snapshot"
  if ∃ tableId ∈ request.selectedTableIds, tableId ∉ catalog.tables.map TableDescriptor.tableId then
    throw "dependency request selects an unknown table"
  match authorization, adapter.verifyAuthorization with
  | some issued, some verify =>
    if ¬ verify issued request.sourceId request.snapshotId request.selectedTableIds artifactIds then
      throw ("dependency execution requires a policy-issued authorization bound to this source " ++
        "snapshot and table scope")
    if issued.purpose ≠ request.privacyPurpose ∨ issued.networkAllowed ∨
        issued.externalProcessingAllowed then
      throw "dependency authorization does not match local-only request"
  | _, _ =>
    throw ("dependency execution requires a policy-issued authorization bound to this source " ++
      "snapshot and table scope")

/-- The failure of a request that is refused. -/
def entryFailure (detail : String) (h : isGiven detail = true) : DependencyFailure :=
  adapter.failure request "entry"
    (if "authorization".toList <:+: detail.toList then .privacyBlocked else .inputInvalid) detail h

/-- The staged rows of the selected tables. -/
def loadRows (catalog : SourceCatalog) (snapshot : SourceSnapshotResult) :
    Except ReaderRaised (List (String × List StagedDependencyRow)) := do
  let rows ← (selectedTables request catalog).mapM fun table => do
    let rows ← adapter.iterTable snapshot catalog table
      ((selectedColumns request catalog table.tableId).map ColumnDescriptor.physicalName)
    return (table.tableId, rows)
  return dictOf rows

/-- What the three searches find, in the order in which they are emitted. -/
structure Findings where
  uccs : List UniqueColumnCombinationEvidence
  fds : List FunctionalDependencyEvidence
  inds : List InclusionDependencyEvidence

/-- The key candidates of the findings. -/
def Findings.keys (found : Findings) : List KeyCandidate := found.uccs.map adapter.keyCandidate

/-- The relationship candidates of the findings. -/
def Findings.relationships (found : Findings) : List RelationshipCandidate :=
  found.inds.filterMap adapter.relationshipCandidate

/-- The three searches, one after the other. -/
def searchAll (engine : DependencyEngine) (d : Discovery) (log : ProviderLog) :
    Except ProviderLog (Findings × ProviderLog) := do
  let (uccs, log) ← adapter.discoverKeys engine d log
  let (fds, log) ← adapter.discoverFds engine d log
  let (inds, log) ← adapter.discoverInds engine d log
  return (⟨uccs, fds, inds⟩, log)

/-- The number of items before they are cut. -/
def Findings.emitted (found : Findings) : Nat :=
  found.uccs.length + (found.keys adapter).length + found.fds.length + found.inds.length +
    (found.relationships adapter).length

/-- The failures of a search, with that of its run time. -/
def finalFailures (failures : List DependencyFailure) : List DependencyFailure :=
  if adapter.runtimeExceeded request = true ∧ failures.all (·.kind ≠ .budgetExceeded) = true
  then failures ++ [adapter.budgetFailure request "runtime-budget"] else failures

/-- Why findings may be missing. -/
def truncationReasons (request : DependencyRequest) (stats : DependencySearchStats)
    (found : Findings) : List String :=
  stats.truncationReasons ++
    (if request.searchPolicy.maxOutputCandidates < found.emitted adapter
      then ["max_output_candidates"] else []) ++
    (if adapter.runtimeExceeded request then ["max_runtime_seconds"] else [])

/-- Some findings may be missing. -/
def isTruncated (stats : DependencySearchStats) (found : Findings) : Bool :=
  stats.truncated || decide (adapter.truncationReasons request stats found ≠ [])

end

/-- Whether the search can be relied on to be complete. -/
def completeness (d : Discovery) (stats : DependencySearchStats) (found : Findings) (log : ProviderLog) :
    SearchCompleteness :=
  if adapter.isTruncated d.request stats found = true ∨
      adapter.finalFailures d.request log.failures ≠ [] ∨
      ¬ d.scope.completeByTable.all Prod.snd = true then .incomplete else .complete

/-- The result of a search that has come to its end, cut to the output bound. -/
def searchResult (d : Discovery) (capability : DependencyCapability) (stats : DependencySearchStats)
    (found : Findings) (log : ProviderLog) : DependencyResult :=
  let bound := d.request.searchPolicy.maxOutputCandidates
  let cappedUccs := found.uccs.take bound
  let afterUccs := bound - cappedUccs.length
  let cappedKeys := (found.keys adapter).take afterUccs
  let afterKeys := afterUccs - cappedKeys.length
  let cappedFds := found.fds.take afterKeys
  let afterFds := afterKeys - cappedFds.length
  let cappedInds := found.inds.take afterFds
  let afterInds := afterFds - cappedInds.length
  { request := d.request
    observationScope := d.scope
    uccEvidence := cappedUccs
    keyCandidates := cappedKeys
    functionalDependencies := cappedFds
    inclusionDependencies := cappedInds
    relationshipCandidates := (found.relationships adapter).take afterInds
    failures := adapter.finalFailures d.request log.failures
    capabilities := [capability]
    searchStats := { stats with
      providerCalls := log.calls.length
      evaluatedPairs := if requestedModes d.request .ind .approximateInd = [] then 0
        else columnPairs d.tables d.columnsOf
      truncated := adapter.isTruncated d.request stats found
      outputTruncation := decide (bound < found.emitted adapter)
      runtimeTimeout := adapter.runtimeExceeded d.request
      truncationReasons := (adapter.truncationReasons d.request stats found).eraseDups
      emittedCandidates := min (found.emitted adapter) bound
      completeness := adapter.completeness d stats found log }
    status := if adapter.completeness d stats found log = .complete then .complete else .incomplete
    artifacts := [] }

variable (request : DependencyRequest)

/-- The result of an exception during the search. -/
def engineFailedResult (scope : DependencyObservationScope) (stats : DependencySearchStats)
    (log : ProviderLog) : DependencyResult × List ProviderCall :=
  let failure := adapter.failure request "engine" .engineFailed
    "dependency engine failed before a complete project-owned result was available" (by decide +kernel)
  (failedResult request scope (log.failures ++ [failure]) (adapter.capability request)
    { stats with providerCalls := log.calls.length, completeness := .incomplete }, log.calls)

/-- The result of a search that ran out of time. -/
def timeoutResult (scope : DependencyObservationScope) (stats : DependencySearchStats)
    (log : ProviderLog) : DependencyResult × List ProviderCall :=
  (failedResult request scope (log.failures ++ [adapter.budgetFailure request "runtime-timeout"])
    (adapter.capability request)
    { stats with
      providerCalls := log.calls.length
      runtimeTimeout := true
      truncated := true
      completeness := .incomplete
      truncationReasons := (stats.truncationReasons ++ ["max_runtime_seconds"]).eraseDups }, log.calls)

/-- The search of a request that is within its bounds, for what was observed of its tables. -/
def runSearch (engine : DependencyEngine) (d : Discovery) (observed : DependencyObservationScope)
    (stats : DependencySearchStats) (failures : List DependencyFailure) (artifactRoot : Option String) :
    DependencyResult × List ProviderCall :=
  if ¬ (d.tables.all fun t => adapter.writesInput (adapter.inputOf d t.tableId)) = true then
    adapter.engineFailedResult d.request observed stats ⟨[], failures⟩
  else
    match adapter.searchAll engine d ⟨[], failures⟩ with
    | .error log => adapter.timeoutResult d.request d.scope stats log
    | .ok (found, log) =>
      let result := adapter.searchResult d (adapter.capability d.request) stats found log
      match artifactRoot with
      | none => (result, log.calls)
      | some root =>
        match adapter.publish result root with
        | none => adapter.engineFailedResult d.request d.scope result.searchStats
            ⟨log.calls, result.failures⟩
        | some artifacts => ({ result with artifacts := artifacts }, log.calls)

/-- The failure for tables or columns that the bounds leave out. -/
def boundFailures (stats : DependencySearchStats) : List DependencyFailure :=
  if stats.tablesExcludedByBound ≠ 0 ∨ stats.columnsExcludedByBound ≠ 0 then
    [adapter.failure request "search-scope-bound" .budgetExceeded
      "configured search bound excluded input scope; result is incomplete" (by decide +kernel)]
  else []

/-- The search of a request, over the rows of its tables. -/
def discovery (catalog : SourceCatalog) (snapshot : SourceSnapshotResult)
    (rows : List (String × List StagedDependencyRow)) : Discovery :=
  let selected := selectedTables request catalog
  let columnsOf := selectedColumns request catalog
  let rowsOf := fun tableId => (getItem rows tableId).getD []
  { request := request
    tables := selected
    columnsOf := columnsOf
    rowsOf := rowsOf
    scope := providerScope (scope request snapshot selected) selected columnsOf rowsOf
      request.nullPolicy }

/-- The part of `discover` after its rows are loaded. -/
def discoverRows (catalog : SourceCatalog) (snapshot : SourceSnapshotResult)
    (artifactRoot : Option String) (rows : List (String × List StagedDependencyRow)) :
    Except DiscoverRaised (DependencyResult × List ProviderCall) :=
  let capability := adapter.capability request
  let observed := scope request snapshot (selectedTables request catalog)
  let stats := searchStats request catalog
  let failures := adapter.boundFailures request stats
  if request.searchPolicy.maxColumnPairs < stats.candidatePairsBeforePruning then
    let failure := adapter.failure request "column-pair-budget" .budgetExceeded
      "column-pair budget exceeded; IND search was not started" (by decide +kernel)
    .ok (failedResult request observed (failures ++ [failure]) capability
      { stats with
        prunedByBudget := stats.candidatePairsBeforePruning - request.searchPolicy.maxColumnPairs
        prunedColumnPairs := stats.prunedByBudget + stats.prunedByScope
        completeness := .incomplete }, [])
  else
    match adapter.engine with
    | none =>
      let failure := { adapter.failure request "capability" .capabilityUnavailable
        "No importable Desbordante binding or provisioned local Docker image is available"
        (by decide +kernel) with retryable := true }
      .ok (failedResult request observed (failures ++ [failure]) capability stats, [])
    | some engine =>
      if ¬ adapter.makesTempRoot request = true then .error .tempRoot
      else .ok (adapter.runSearch engine (discovery request catalog snapshot rows) observed stats
        failures artifactRoot)

/-- `discover`, with the calls of the provider. -/
def discover (catalog : SourceCatalog) (snapshot : SourceSnapshotResult)
    (artifactRoot : Option String) (authorization : Option DependencyAuthorization) :
    Except DiscoverRaised (DependencyResult × List ProviderCall) :=
  let capability := adapter.capability request
  let selected := selectedTables request catalog
  match adapter.validateEntry request catalog snapshot authorization with
  | .error detail =>
    if h : isGiven detail = true then
      .ok (failedResult request (scope request snapshot [])
        [adapter.entryFailure request detail h] capability (noSearch []), [])
    else .error .validation
  | .ok () =>
    match adapter.loadRows request catalog snapshot with
    | .error .other => .error .reader
    | .error (.integrity detail) =>
      if h : isGiven detail = true then
        .ok (failedResult request (scope request snapshot selected)
          [adapter.failure request detail .stagedInputIntegrityFailed detail h] capability
          (noSearch selected), [])
      else .error .validation
    | .ok rows => adapter.discoverRows request catalog snapshot artifactRoot rows

end DesbordanteDependencyAdapter

end DirtyDataOlap.Dependencies

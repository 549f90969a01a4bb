import DirtyDataOlap.PythonValues

/-!
# The contracts of dependency discovery

The records of `domain/contracts/dependency.py` and what discovery reads of catalogs and snapshots. A
ratio is the number that a float holds. Evidence carries the bounds that its contract checks. A mapping
is the list of its items.
-/
namespace DirtyDataOlap.Dependencies

/-- The kinds of dependencies. -/
inductive DependencyKind
  | ucc | fd | afd | ind | approximateInd
deriving DecidableEq

/-- How good a piece of evidence is. -/
inductive DependencyEvidenceState
  | observed | truncated | rejected

/-- How the stage ended. -/
inductive DependencyStageStatus
  | complete | incomplete | failed
deriving DecidableEq

/-- Whether there is an engine. -/
inductive DependencyCapabilityStatus
  | available | unavailable | incompatible | notRequested

/-- Why a search failed. -/
inductive DependencyFailureKind
  | inputInvalid | stagedInputIntegrityFailed | privacyBlocked | capabilityUnavailable | engineFailed
  | budgetExceeded | artifactFailed | unsupportedAlgorithm
deriving DecidableEq

/-- What a physical null means in a search. -/
inductive NullPolicy
  | excludePhysicalNull | nullsEqual | nullsBreakDependency | literalNullIsValue
deriving DecidableEq

/-- How much of a table was observed. -/
inductive TableObservationStatus
  | notObserved | partiallyObserved | fullyObserved
deriving DecidableEq

/-- Whole tables, or a bounded part. -/
inductive ObservationMode
  | full | bounded

/-- Whether a search may have missed something. -/
inductive SearchCompleteness
  | complete | incomplete
deriving DecidableEq

/-- A bound that its contract keeps between one and a limit. -/
def Bounded (limit bound : Nat) : Prop := 1 ≤ bound ∧ bound ≤ limit

instance (limit bound : Nat) : Decidable (Bounded limit bound) :=
  inferInstanceAs (Decidable (_ ∧ _))

/-- A number between zero and one. -/
def IsRatio (x : ℚ) : Prop := 0 ≤ x ∧ x ≤ 1

instance (x : ℚ) : Decidable (IsRatio x) := inferInstanceAs (Decidable (_ ∧ _))

/-- The bounds of a search. -/
structure DependencySearchPolicy where
  (maxTables maxColumnsPerTable maxUccArity maxFdLhsArity maxIndArity maxColumnPairs : Nat)
  (maxOutputCandidates maxRuntimeSeconds : Nat)
  maxErrorRatio : ℚ
  lowCardinalityDistinctLimit : Nat
  lowCardinalityDistinctRatio : ℚ
  boundsAreValid : Bounded 10000 maxTables ∧ Bounded 10000 maxColumnsPerTable ∧
    Bounded 8 maxUccArity ∧ Bounded 8 maxFdLhsArity ∧ Bounded 8 maxIndArity ∧
    Bounded 1000000 maxColumnPairs ∧ Bounded 100000 maxOutputCandidates ∧
    Bounded 86400 maxRuntimeSeconds ∧ 1 ≤ lowCardinalityDistinctLimit := by decide +kernel
  ratiosAreValid : IsRatio maxErrorRatio ∧ IsRatio lowCardinalityDistinctRatio := by decide +kernel

/-- What is to be searched, and how. -/
structure DependencyRequest where
  (requestId sourceId snapshotId : String)
  selectedTableIds : List String
  requestedKinds : List DependencyKind
  searchPolicy : DependencySearchPolicy
  nullPolicy : NullPolicy
  privacyPurpose : String
  tablesAreSelected : selectedTableIds ≠ [] := by simp

/-- The permission to search some tables. -/
structure DependencyAuthorization where
  (authorizationId purpose policyId policyVersion sourceId snapshotId : String)
  (tableIds artifactIds : List String)
  (networkAllowed externalProcessingAllowed : Bool)

/-- A table of the catalog. -/
structure TableDescriptor where
  (tableId physicalName : String)

/-- A column of the catalog. -/
structure ColumnDescriptor where
  (columnId tableId physicalName normalizedPhysicalType : String)

/-- The tables and columns of a source. -/
structure SourceCatalog where
  sourceId : String
  tables : List TableDescriptor
  columns : List ColumnDescriptor

/-- A staged batch. -/
structure BatchReference where
  (batchId tableId : String)
  rowCount : Nat
  contentHash : String

/-- How much of one table a snapshot has. -/
structure TableSnapshotObservation where
  tableId : String
  status : TableObservationStatus

/-- A snapshot, as the search reads it. -/
structure SourceSnapshotResult where
  snapshotId : String
  observationMode : ObservationMode
  batches : List BatchReference
  /-- The table of each record reference. -/
  recordTableIds : List String
  tableObservations : List TableSnapshotObservation

/-- `StagedDependencyRow`, whose values are the items of a dictionary. -/
structure StagedDependencyRow where
  recordRef : String
  values : List (String × Validation.Value)

/-- `row.get(name)`. -/
def StagedDependencyRow.get (row : StagedDependencyRow) (name : String) : Validation.Value :=
  (getItem row.values name).getD .none

/-! ## Evidence -/

/-- Which rows a piece of evidence is about. -/
structure DependencyObservationScope where
  (sourceId snapshotId : String)
  tableIds : List String
  mode : ObservationMode
  rowsByTable : List (String × Nat)
  completeByTable : List (String × Bool)
  (inputBatchIds inputBatchHashes : List String)
  inputRecordReferenceCount : Nat
  (stagedRowsByTable providerRowsByTable nullExcludedRowsByTable : List (String × Nat))
  providerScopeSemantics : String

/-- Where a piece of evidence comes from. -/
structure DependencyProvenance where
  (sourceId snapshotId : String)
  tableIds : List String
  (engine engineVersion algorithm algorithmConfigHash nullSemantics providerRuntime : String)

/-- Records that break a dependency. -/
structure DependencyViolation where
  violationId : String
  kind : DependencyKind
  recordRefs : List String
  count : Nat
  detailCode : String

/-- What the engine itself measured. -/
structure DependencyMetricObservation where
  metricName : String
  metricValue : Option PyFloat
  threshold : ℚ
  providerAlgorithm : DependencyKind
  definition : String

/-- Columns that identify a row, as measured. -/
structure UniqueColumnCombinationEvidence where
  (evidenceId sourceId snapshotId tableId : String)
  columnIds : List String
  (uniquenessRatio physicalMissingRatio : ℚ)
  duplicateCount : Nat
  observationScope : DependencyObservationScope
  state : DependencyEvidenceState
  provenance : DependencyProvenance
  isMeasured : columnIds ≠ [] ∧ IsRatio uniquenessRatio ∧ IsRatio physicalMissingRatio

/-- A unique combination, proposed as a key. -/
structure KeyCandidate where
  (candidateId sourceId snapshotId tableId : String)
  columns : List String
  uccEvidenceId : String
  (uniquenessRatio physicalMissingRatio : ℚ)
  duplicateCount : Nat
  observationScope : DependencyObservationScope
  state : DependencyEvidenceState
  evidenceRefs : List String
  provenance : DependencyProvenance
  isMeasured : columns ≠ [] ∧ IsRatio uniquenessRatio ∧ IsRatio physicalMissingRatio

/-- Columns that determine others, as measured. -/
structure FunctionalDependencyEvidence where
  (evidenceId sourceId snapshotId tableId : String)
  (determinant dependent : List String)
  approximate : Bool
  (supportRatio errorRatio : ℚ)
  violationCount : Nat
  violations : List DependencyViolation
  metricObservations : List DependencyMetricObservation
  nullPolicy : NullPolicy
  observationScope : DependencyObservationScope
  state : DependencyEvidenceState
  provenance : DependencyProvenance
  isMeasured : determinant ≠ [] ∧ dependent ≠ [] ∧ IsRatio supportRatio ∧ IsRatio errorRatio

/-- Columns whose values occur in others, as measured. -/
structure InclusionDependencyEvidence where
  (evidenceId sourceId snapshotId leftTableId : String)
  leftColumns : List String
  rightTableId : String
  rightColumns : List String
  approximate : Bool
  (coverageRatio violationRatio : ℚ)
  (leftDistinctCount rightDistinctCount orphanCount : Nat)
  targetUniquenessRatio : ℚ
  (typeCompatible lowCardinalityRisk : Bool)
  violations : List DependencyViolation
  metricObservations : List DependencyMetricObservation
  nullPolicy : NullPolicy
  observationScope : DependencyObservationScope
  state : DependencyEvidenceState
  provenance : DependencyProvenance
  widthsMatch : leftColumns ≠ [] ∧ rightColumns ≠ [] ∧ leftColumns.length = rightColumns.length
  isMeasured : IsRatio coverageRatio ∧ IsRatio violationRatio ∧ IsRatio targetUniquenessRatio

/-- An inclusion, proposed as a foreign key. -/
structure RelationshipCandidate where
  (candidateId sourceId snapshotId fromTable : String)
  fromColumns : List String
  toTable : String
  toColumns : List String
  (sourceOrphanRatio targetUniquenessRatio : ℚ)
  (typeCompatible lowCardinalityRisk : Bool)
  evidenceRefs : List String
  widthsMatch : fromColumns ≠ [] ∧ toColumns ≠ [] ∧ fromColumns.length = toColumns.length
  isMeasured : IsRatio sourceOrphanRatio ∧ IsRatio targetUniquenessRatio
  evidenceIsGiven : evidenceRefs ≠ []

/-- A text with something besides white space in it. -/
def isGiven (text : String) : Bool := Numeral.strip text.toList ≠ []

/-- A failure of a search. -/
structure DependencyFailure where
  (failureId requestId : String)
  kind : DependencyFailureKind
  detail : String
  tableId : Option String
  retryable : Bool
  detailIsGiven : isGiven detail = true := by decide +kernel

/-- What the adapter can do. -/
structure DependencyCapability where
  status : DependencyCapabilityStatus
  engine : String
  engineVersion : Option String
  requestedKinds : List DependencyKind
  detail : String

/-- How much was searched and left out. -/
structure DependencySearchStats where
  (inputTables inputColumns columnsExcludedByBound tablesExcludedByBound candidateColumnPairs : Nat)
  (candidatePairsBeforePruning prunedByScope prunedByBudget prunedColumnPairs evaluatedPairs : Nat)
  (searchedDeterminants uccSearchArity fdSearchArity indSearchArity providerCalls : Nat)
  (outputTruncation runtimeTimeout : Bool)
  completeness : SearchCompleteness
  emittedCandidates : Nat
  truncated : Bool
  truncationReasons : List String

/-- The result of a search. -/
structure DependencyResult where
  request : DependencyRequest
  observationScope : DependencyObservationScope
  uccEvidence : List UniqueColumnCombinationEvidence
  keyCandidates : List KeyCandidate
  functionalDependencies : List FunctionalDependencyEvidence
  inclusionDependencies : List InclusionDependencyEvidence
  relationshipCandidates : List RelationshipCandidate
  failures : List DependencyFailure
  capabilities : List DependencyCapability
  searchStats : DependencySearchStats
  status : DependencyStageStatus
  /-- The artifacts that a result has been published as. -/
  artifacts : List String

/-- How many findings a result has. -/
def DependencyResult.emitted (result : DependencyResult) : Nat :=
  result.uccEvidence.length + result.keyCandidates.length + result.functionalDependencies.length +
    result.inclusionDependencies.length + result.relationshipCandidates.length

end DirtyDataOlap.Dependencies

import Mathlib.Data.String.Basic
import Mathlib.Data.Prod.Lex
import DirtyDataOlap.Decimals
import DirtyDataOlap.SortedCollections

/-!
# The contracts of partitioned execution

The records of `domain/contracts/distributed.py`.  What a contract validates is a field; texts are
as the contracts store them (stripped), and a mapping is the list of its items in the order of their
keys.  The values that `stable_digest` hashes are the constructors of `Content`.
-/
namespace DirtyDataOlap.Scale

/-- Where an execution runs. -/
inductive ScaleExecutionMode
  | localReference | partitionedLocal | externalDistributed
deriving DecidableEq

/-- What happens where partitions are not supported. -/
inductive ScaleFallbackPolicy
  | fallbackToLocal | rejectUnsupported
deriving DecidableEq

/-- How far a stage can be split. -/
inductive StageScaleSupport
  | partitionSafe | shuffleRequired | globalReduction | globalCandidateGeneration | globalBarrier
  | localOnly | externalEngineBound | notEvaluated
deriving DecidableEq

/-- The value of the enumeration member. -/
def StageScaleSupport.value : StageScaleSupport → String
  | partitionSafe => "PARTITION_SAFE"
  | shuffleRequired => "SHUFFLE_REQUIRED"
  | globalReduction => "GLOBAL_REDUCTION"
  | globalCandidateGeneration => "GLOBAL_CANDIDATE_GENERATION"
  | globalBarrier => "GLOBAL_BARRIER"
  | localOnly => "LOCAL_ONLY"
  | externalEngineBound => "EXTERNAL_ENGINE_BOUND"
  | notEvaluated => "NOT_EVALUATED"

/-- How rows are routed to partitions. -/
inductive PartitionStrategy
  | singleNode | hash | range | blockKey | existingStagedPart
deriving DecidableEq

/-- How a partition ended. -/
inductive PartitionResultStatus
  | succeeded | failed | rejected
deriving DecidableEq

/-- The value of the enumeration member. -/
def PartitionResultStatus.value : PartitionResultStatus → String
  | succeeded => "SUCCEEDED"
  | failed => "FAILED"
  | rejected => "REJECTED"

/-- How an execution ended. -/
inductive ScaleExecutionStatus
  | succeeded | incomplete | failed | rejected | needsReview
deriving DecidableEq

/-- How even the partitions are. -/
inductive SkewStatus
  | balanced | skewed | empty
deriving DecidableEq

/-- What is done about it. -/
inductive SkewAction
  | allow | reviewRequired | reject
deriving DecidableEq

/-- The scope of a dataset, as `_scope_key` lists it. -/
structure Scope where
  (runId sourceId snapshotId tableId datasetId datasetVersion inputId stageId : String)
  schemaFingerprint : String
deriving DecidableEq

/-- What an input is, without its rows. -/
structure ScaleInputDescriptor where
  scope : Scope
  contentHash : String
  rowCount : Nat
  estimatedBytes : Option Nat
  (artifactRefs provenanceRefs : List String)

/-- A profile value; a float is the text JSON writes for it. -/
inductive ProfileValue
  | text (value : String) | whole (value : Int) | real (repr : String) | null
deriving DecidableEq

/-- One input record, after `blocking_shape` has collected its blocking keys. -/
structure ScaleInputRow where
  (rowRef tableId schemaFingerprint partitionKey : String)
  (groupKey blockKey : Option String)
  blockingKeys : List String
  measure : Option Dec
  profileValues : List (String × ProfileValue)
  canonicalEntityId : Option String
  sourceRecordRefs : List String
  (factGrainKey warehouseKey dependencyLhs dependencyRhs : Option String)
deriving DecidableEq

namespace ScaleInputRow

end ScaleInputRow

/-- The rows of one input, closed against its descriptor. -/
structure ScaleInputDataset where
  descriptor : ScaleInputDescriptor
  rows : List ScaleInputRow
  rowCount : rows.length = descriptor.rowCount
  uniqueRefs : (rows.map (·.rowRef)).Nodup
  scope : ∀ row ∈ rows, row.tableId = descriptor.scope.tableId ∧
    row.schemaFingerprint = descriptor.scope.schemaFingerprint
  partitionKey : ∀ row ∈ rows, row.partitionKey ≠ ""

/-- What an execution may use. -/
structure ResourceBudget where
  maxWorkerSlots : Nat
  memoryBudgetMb : Option Nat := none
  diskBudgetBytes : Option Nat := none
  temporarySpaceBudgetBytes : Option Nat := none
  maxStagedBytes : Option Nat := none
  maxArtifactBytes : Option Nat := none
  timeoutSeconds : Option ℚ := none
deriving DecidableEq

/-- When and how an input is partitioned. -/
structure ScalePolicy where
  policyVersion : String
  localRowThreshold : Nat := 10000
  localByteThreshold : Option Nat := some 25000000
  maxPartitionRows : Option Nat := none
  maxPartitionBytes : Option Nat := none
  maxPartitions : Nat := 128
  maxWorkerSlots : Nat := 1
  resourceBudget : ResourceBudget := ⟨1, none, none, none, none, none, none⟩
  requestedMode : ScaleExecutionMode := .partitionedLocal
  fallbackPolicy : ScaleFallbackPolicy := .fallbackToLocal
  stageSupport : List (String × StageScaleSupport) := []
  partitionStrategy : Option PartitionStrategy := none
  rangeBoundaries : List String := []
  deterministicSeed : Int := 0
  sampleRatio : ℚ := 1
  sampleLimit : Option Nat := none
  skewRatioThreshold : ℚ := 2
  skewAction : SkewAction := .reviewRequired
  maxJoinPairs : Nat := 100000
  bounds : 1 ≤ maxPartitions ∧ 1 ≤ maxWorkerSlots ∧ 0 < sampleRatio ∧ sampleRatio ≤ 1 ∧
    1 ≤ maxJoinPairs := by decide
  budgetShape : maxWorkerSlots ≤ resourceBudget.maxWorkerSlots ∧
    requestedMode ≠ .externalDistributed := by decide

namespace ScalePolicy

/-- The policy with another number of worker slots, in itself and in its budget. -/
def withSlots (policy : ScalePolicy) (slots : Nat) (h : 1 ≤ slots) : ScalePolicy :=
  { policy with
    maxWorkerSlots := slots
    resourceBudget := { policy.resourceBudget with maxWorkerSlots := slots }
    bounds := ⟨policy.bounds.1, h, policy.bounds.2.2⟩
    budgetShape := ⟨le_rfl, policy.budgetShape.2⟩ }

end ScalePolicy

/-- What `assess` decides, as far as the planner reads it. -/
structure ScaleDecision where
  selectedMode : ScaleExecutionMode
  requestedParallelism : Int
deriving DecidableEq

/-- One partition with the rows it is to get. -/
structure PartitionDescriptor where
  (partitionId partitionPlanId partitionPlanHash : String)
  logicalPartitionIndex : Nat
  strategy : PartitionStrategy
  routingKey : String
  (rangeStart rangeEnd : Option String)
  scope : Scope
  inputContentHash : String
  deterministicSeed : Int
  expectedRowCount : Nat
  expectedRowDigest : String
  expectedResource : ResourceBudget
  provenanceRefs : List String
deriving DecidableEq

/-- The sizes of the partitions, assessed. -/
structure SkewAssessment where
  (recordCounts byteCounts : List Nat)
  (minimum maximum : Nat)
  maxMeanRatio : ℚ
  emptyPartitionCount : Nat
  status : SkewStatus
  action : SkewAction

/-- The profile of some rows. -/
@[ext]
structure ScaleProfileStats where
  (rowCount nonNullCount nullCount : Nat)
  (minimum maximum : Option Dec)
  exactSum : Dec
deriving DecidableEq

/-- What a partition gives, all lists sorted. -/
structure ScalePartitionOutput where
  (recordRefs sourceRecordRefs canonicalEntityIds factGrainKeys warehouseKeys : List String)
  profile : ScaleProfileStats
  exactMeasureSum : Dec
  dependencyPairs : List (String ×ₗ String)
  (candidatePairs sampledRecordRefs : List String)
  (uniqueInputRecords routedRecordInstances replicationCount logicalShuffleRecords : Nat)
  logicalShuffleBytes : Nat
deriving DecidableEq

namespace ScalePartitionOutput

/-- The JSON the output is hashed by: every collection sorted. -/
def semanticContent (output : ScalePartitionOutput) : ScalePartitionOutput :=
  { output with
    recordRefs := sorted output.recordRefs
    sourceRecordRefs := sorted output.sourceRecordRefs
    canonicalEntityIds := sorted output.canonicalEntityIds
    factGrainKeys := sorted output.factGrainKeys
    warehouseKeys := sorted output.warehouseKeys
    dependencyPairs := sorted output.dependencyPairs
    candidatePairs := sorted output.candidatePairs
    sampledRecordRefs := sorted output.sampledRecordRefs }

end ScalePartitionOutput

/-- The result of one partition worker of a service without an artifact store. -/
structure PartitionResult where
  (resultId partitionId partitionPlanId partitionPlanHash operationId operationVersion : String)
  status : PartitionResultStatus
  (inputId inputContentHash schemaFingerprint : String)
  output : Option ScalePartitionOutput := none
  recordCount : Nat := 0
  byteCount : Option Nat := none
  candidatePairCount : Nat := 0
  shuffleRecords : Nat := 0
  shuffleBytes : Option Nat := none
  peakMemoryMb : Option Nat := none
  failureCode : Option String := none
  failureReason : Option String := none
  attemptSemanticIdentity : String
  provenanceRefs : List String

/-- One entry of the partitions of a plan's semantic content. -/
structure PartitionContent where
  partitionId : String
  logicalPartitionIndex : Nat
  strategy : PartitionStrategy
  routingKey : String
  (rangeStart rangeEnd : Option String)
  expectedRowCount : Nat
  expectedRowDigest : String
deriving DecidableEq

/-- What a plan is a digest of. -/
structure PlanContent where
  operationVersion : String
  scope : Scope
  inputContentHash : String
  inputArtifactRefs : List String
  strategy : PartitionStrategy
  partitionKeySpecification : String
  partitionCount : Nat
  deterministicSeed : Int
  (resourceBudgetFingerprint policyVersion : String)
  expectedPartitionIds : List String
  partitions : List PartitionContent
  expectedMergeStrategy : String
deriving DecidableEq

/-- A plan with its partitions. -/
structure PartitionPlan where
  (partitionPlanId partitionPlanHash operationVersion : String)
  scope : Scope
  inputContentHash : String
  inputArtifactRefs : List String
  strategy : PartitionStrategy
  partitionKeySpecification : String
  partitionCount : Nat
  deterministicSeed : Int
  (resourceBudgetFingerprint policyVersion : String)
  partitions : List PartitionDescriptor
  expectedPartitionIds : List String
  expectedMergeStrategy : String
  skew : SkewAssessment
  provenanceRefs : List String
  count : 1 ≤ partitionCount
  closure : partitions.map (·.partitionId) = expectedPartitionIds ∧
    expectedPartitionIds.length = partitionCount ∧ expectedPartitionIds.Nodup ∧
    ∀ p ∈ partitions, p.partitionPlanId = partitionPlanId ∧
      p.inputContentHash = inputContentHash ∧
      p.scope.schemaFingerprint = scope.schemaFingerprint

namespace PartitionPlan

/-- `operation_id`, the stage of the input. -/
def operationId (plan : PartitionPlan) : String := plan.scope.stageId

theorem nodup_ids (plan : PartitionPlan) : (plan.partitions.map (·.partitionId)).Nodup := by
  rw [plan.closure.1]
  exact plan.closure.2.2.1

end PartitionPlan

/-- What was merged, by hash. -/
structure PartitionMergeManifest where
  (mergeManifestId partitionPlanId partitionPlanHash : String)
  expectedPartitionIds : List String
  resultHashes : List (String × String)
  (mergeReductionVersion mergeOrdering : String)
  semanticOutputHash : Option String := none
  missingPartitions : List String := []
  duplicatePartitions : List String := []
  unexpectedPartitions : List String := []
  conflictingResults : List String := []
  aggregateRecordCount : Nat
  status : ScaleExecutionStatus
  failureReason : Option String := none
  provenanceRefs : List String := []

/-- The output of all partitions together. -/
@[ext]
structure ScaleMergedOutput where
  (inputId inputContentHash : String)
  (recordRefs sourceRecordRefs canonicalEntityIds factGrainKeys warehouseKeys : List String)
  profile : ScaleProfileStats
  exactMeasureSum : Dec
  dependencyPairs : List (String ×ₗ String)
  dependencyValid : Option Bool
  (candidatePairs sampledRecordRefs : List String)
  (inputRecordCount emittedRecordCount : Nat)
  filteredRecordCount : Nat := 0
  quarantinedRecordCount : Nat := 0
  unresolvedRecordCount : Nat := 0
  (uniqueInputRecords routedRecordInstances replicationCount logicalShuffleRecords : Nat)
  logicalShuffleBytes : Nat
deriving DecidableEq

namespace ScaleMergedOutput

/-- The JSON the merged output is hashed by: every collection sorted. -/
def semanticContent (output : ScaleMergedOutput) : ScaleMergedOutput :=
  { output with
    recordRefs := sorted output.recordRefs
    sourceRecordRefs := sorted output.sourceRecordRefs
    canonicalEntityIds := sorted output.canonicalEntityIds
    factGrainKeys := sorted output.factGrainKeys
    warehouseKeys := sorted output.warehouseKeys
    dependencyPairs := sorted output.dependencyPairs
    candidatePairs := sorted output.candidatePairs
    sampledRecordRefs := sorted output.sampledRecordRefs }

end ScaleMergedOutput

/-- The result of an execution, with all its parts. -/
structure ScaleExecutionResult where
  (executionId runId operationId : String)
  mode : ScaleExecutionMode
  (inputId inputContentHash partitionPlanId partitionPlanHash : String)
  status : ScaleExecutionStatus
  partitionResults : List PartitionResult := []
  mergeManifest : PartitionMergeManifest
  mergedOutput : Option ScaleMergedOutput := none
  observedWorkerSlots : Nat
  peakMemoryMb : Option Nat := none
  failureCode : Option String := none
  failureReason : Option String := none
  provenanceRefs : List String := []

/-- The JSON values that are digested, by the place that digests them. -/
inductive Content
  | sample (rowRef : String) (seed : Int) (policyVersion : String)
  | record (row : ScaleInputRow)
  | recordDigests (digests : List String)
  | budget (budget : ResourceBudget)
  | partition (scope : Scope) (strategy : PartitionStrategy) (index : Nat) (routingKey : String)
      (seed : Int) (policyVersion : String)
  | partitionPlan (scope : Scope) (inputContentHash : String) (strategy : PartitionStrategy)
      (count : Nat) (seed : Int) (policyVersion : String) (budgetFingerprint : String)
      (rangeBoundaries : List String)
  | planContent (content : PlanContent)
  | partitionResultKey (planId partitionId operationId operationVersion inputContentHash
      policyVersion : String) (seed : Int)
  | partitionAttempt (planId partitionId input : String)
  | candidatePair (runId sourceId snapshotId tableId left right : String)
  | partitionOutput (content : ScalePartitionOutput)
  | partitionResult (partitionId planId planHash operationId operationVersion : String)
      (status : PartitionResultStatus) (inputId inputContentHash schemaFingerprint : String)
      (output : Option ScalePartitionOutput) (recordCount candidatePairCount shuffleRecords : Nat)
      (shuffleBytes : Option Nat) (failureCode : Option String)
  | mergedOutput (content : ScaleMergedOutput)
  | incompleteManifest (planId : String) (results : List (String × String))
      (status : ScaleExecutionStatus) (reason : Option String)
  | mergeManifest (planId : String) (results : List (String × String)) (output : String)
  | skewExecution (planId : String)
  | failedExecution (planId : String) (results : List String)
  | mergedExecution (planId output : String)
deriving DecidableEq

/-- The errors with their texts; `overflow` is the exception of the decimal context, `contract` a
rejected contract. -/
inductive Failure
  | authorization (text : String)
  | scale (text : String)
  | fanout (text : String)
  | merge (text : String)
  | overflow
  | contract (text : String)
deriving DecidableEq

namespace Failure

/-- `str(exc)`. -/
def text : Failure → String
  | authorization text | scale text | fanout text | merge text | contract text => text
  | overflow => "[<class 'decimal.Overflow'>]"

end Failure

/-- The digests, the encoded size of a row, the float quotient of the largest and the mean partition
size, and case mappings. -/
structure ScaleService where
  digest : Content → String
  sha256 : String → String
  rowBytes : ScaleInputRow → Nat
  maxMeanRatio : List Nat → ℚ
  (lower upper : String → String)

namespace ScaleService

variable (service : ScaleService)

/-- `stable_id`: 32 digits of the digest. -/
def stableId (kind : String) (content : Content) : String :=
  kind ++ "_" ++ String.ofList ((service.digest content).toList.take 32)

/-- The digest of a row. -/
def recordDigest (row : ScaleInputRow) : String :=
  service.digest (.record row)

/-- `semantic_hash` of a partition output. -/
def outputHash (output : ScalePartitionOutput) : String :=
  service.digest (.partitionOutput output.semanticContent)

/-- `semantic_hash` of a merged output. -/
def mergedHash (output : ScaleMergedOutput) : String :=
  service.digest (.mergedOutput output.semanticContent)

/-- What a result says, whoever computed it and when. -/
def semanticResultHash (result : PartitionResult) : String :=
  service.digest <| .partitionResult result.partitionId result.partitionPlanId
    result.partitionPlanHash result.operationId result.operationVersion result.status
    result.inputId result.inputContentHash result.schemaFingerprint
    (result.output.map (·.semanticContent)) result.recordCount result.candidatePairCount
    result.shuffleRecords result.shuffleBytes result.failureCode

end ScaleService

/-- The value of a lower-case hexadecimal digit. -/
def hexDigit (c : Char) : Nat := if c.isDigit then c.toNat - '0'.toNat else c.toNat - 'a'.toNat + 10

/-- `int(digest[:16], 16)`. -/
def hexPrefix (digest : String) : Nat :=
  (digest.toList.take 16).foldl (fun n c => 16 * n + hexDigit c) 0

end DirtyDataOlap.Scale

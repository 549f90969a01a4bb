import DirtyDataOlap.PartitionPlanner

/-!
# Partition workers

What one worker computes over the rows of its partition: the hash-ordered sample, the candidate
pairs of its blocks, the reduced output, and the result of `_run_partition`, in which every
failure of the data work is caught and reported.
-/
namespace DirtyDataOlap.Scale

/-- `itertools.combinations(xs, 2)`. -/
def combinations {α : Type} : List α → List (α × α)
  | [] => []
  | x :: xs => xs.map (x, ·) ++ combinations xs

namespace ScaleService

variable (service : ScaleService)

def sampleDigest (policy : ScalePolicy) (ref : String) : String :=
  service.digest (.sample ref policy.deterministicSeed policy.policyVersion)

section

variable (rows : List ScaleInputRow)

/-- The references `_sample_candidates` selects. -/
def selectedRefs (policy : ScalePolicy) : List String :=
  if 1 ≤ policy.sampleRatio then rows.map (·.rowRef)
  else
    let limit := (policy.sampleRatio * 2 ^ 64).floor
    (rows.map (·.rowRef)).filter fun ref =>
      (hexPrefix (service.sampleDigest policy ref) : Int) < limit

def sampleCandidates (policy : ScalePolicy) : List String :=
  sortedBy (service.sampleDigest policy) (service.selectedRefs rows policy)

/-- The first `sample_limit` of the sampled references. -/
def limitSample (policy : ScalePolicy) (selected : List String) : List String :=
  match policy.sampleLimit with
  | none => selected
  | some limit => selected.take limit

def sampleRecordRefs (dataset : ScaleInputDataset) (policy : ScalePolicy) : List String :=
  limitSample policy (service.sampleCandidates dataset.rows policy)

variable (descriptor : ScaleInputDescriptor)

def pairIdFor (left right : String) : Except Failure String :=
  if left = right then .error (.contract "comparison pair requires two distinct records")
  else
    let scope := descriptor.scope
    .ok (service.stableId "candidate-pair" (.candidatePair scope.runId scope.sourceId
      scope.snapshotId scope.tableId (min left right) (max left right)))

def blockMembers (key : String) : List String :=
  sortedSet ((rows.filter fun row => key ∈ row.blockingKeys).map (·.rowRef))

/-- The pairs of one block, rejected when there are too many. -/
def blockPairs (rows : List ScaleInputRow) (maxPairs : Nat) (key : String) :
    Except Failure (List String) :=
  let members := blockMembers rows key
  if maxPairs < members.length * (members.length - 1) / 2 then
    .error (.fanout ("candidate fanout for blocking key exceeds " ++ toString maxPairs))
  else (combinations members).mapM fun pair => service.pairIdFor descriptor pair.1 pair.2

def candidatePairs (rows : List ScaleInputRow) (maxPairs : Nat) : Except Failure (List String) := do
  let keys := sortedSet (rows.flatMap (·.blockingKeys))
  let pairs ← keys.mapM (service.blockPairs descriptor rows maxPairs)
  let unique := sortedSet pairs.flatten
  if maxPairs < unique.length then
    .error (.fanout ("candidate set exceeds " ++ toString maxPairs))
  else .ok unique

def measuresOf : List Dec := rows.filterMap (·.measure)

/-- `sum(measures, Decimal("0"))` in the context of the thread. -/
def sumMeasures (measures : List Dec) : Except Failure Dec :=
  match Dec.sum defaultContext measures with
  | some total => .ok total
  | none => .error .overflow

/-- The dependency pair of a row that has both sides. -/
def dependencyOf (row : ScaleInputRow) : Option (String ×ₗ String) := do
  let lhs ← row.dependencyLhs
  let rhs ← row.dependencyRhs
  return toLex (lhs, rhs)

/-- How many times a row is routed: once for each blocking key under `BLOCK_KEY`. -/
def routedInstances (strategy : PartitionStrategy) (row : ScaleInputRow) : Nat :=
  if strategy = .blockKey then max 1 row.blockingKeys.length else 1

/-- The output for rows with the measure sum and the candidate pairs given. -/
def partitionOutput (policy : ScalePolicy) (strategy : PartitionStrategy) (exactSum : Dec)
    (candidatePairs : List String) : ScalePartitionOutput :=
  let measures := measuresOf rows
  let routed := (rows.map (routedInstances strategy)).sum
  { recordRefs := sorted (rows.map (·.rowRef))
    sourceRecordRefs := sortedSet (rows.flatMap (·.sourceRecordRefs))
    canonicalEntityIds := sortedSet (rows.filterMap (·.canonicalEntityId))
    factGrainKeys := sorted (rows.filterMap (·.factGrainKey))
    warehouseKeys := sorted (rows.filterMap (·.warehouseKey))
    profile :=
      { rowCount := rows.length
        nonNullCount := measures.length
        nullCount := rows.length - measures.length
        minimum := Dec.minimum measures
        maximum := Dec.maximum measures
        exactSum := exactSum }
    exactMeasureSum := exactSum
    dependencyPairs := sortedSet (rows.filterMap dependencyOf)
    candidatePairs := candidatePairs
    sampledRecordRefs := service.sampleCandidates rows policy
    uniqueInputRecords := rows.length
    routedRecordInstances := routed
    replicationCount := routed - rows.length
    logicalShuffleRecords := routed
    logicalShuffleBytes :=
      (rows.map fun row => service.rowBytes row * routedInstances strategy row).sum }

/-- The candidate pairs of an output: only `BLOCK_KEY` generates them. -/
def pairsFor (policy : ScalePolicy) (strategy : PartitionStrategy) : Except Failure (List String) :=
  if strategy = .blockKey then service.candidatePairs descriptor rows policy.maxJoinPairs else .ok []

def outputForRows (policy : ScalePolicy) (strategy : PartitionStrategy) :
    Except Failure ScalePartitionOutput := do
  let exactSum ← sumMeasures (measuresOf rows)
  let candidatePairs ← service.pairsFor rows descriptor policy strategy
  return service.partitionOutput rows policy strategy exactSum candidatePairs

end

def workerRows (dataset : ScaleInputDataset) (plan : PartitionPlan) (policy : ScalePolicy)
    (partition : PartitionDescriptor) : Except Failure (List ScaleInputRow) :=
  match plan.strategy with
  | .singleNode => .ok (dataset.rows.filter fun _ => partition.logicalPartitionIndex = 0)
  | .range => .ok (dataset.rows.filter fun row =>
      min (rangeIndex policy.rangeBoundaries row) (plan.partitionCount - 1)
        = partition.logicalPartitionIndex)
  | strategy => dataset.rows.filterM fun row => do
      let key ← routeKey row strategy
      return service.bucket key plan.deterministicSeed plan.partitionCount
        = partition.logicalPartitionIndex

/-- The identity of a partition's result. -/
def resultIdFor (plan : PartitionPlan) (policy : ScalePolicy) (partition : PartitionDescriptor) :
    String :=
  service.stableId "partition-result" (.partitionResultKey plan.partitionPlanId
    partition.partitionId plan.operationId plan.operationVersion plan.inputContentHash
    policy.policyVersion plan.deterministicSeed)

def attemptIdentity (plan : PartitionPlan) (partition : PartitionDescriptor) (input : String) :
    String :=
  service.stableId "partition-attempt"
    (.partitionAttempt plan.partitionPlanId partition.partitionId input)

/-- A result without output, for the input and schema it names. -/
def failedResult (dataset : ScaleInputDataset) (plan : PartitionPlan) (policy : ScalePolicy)
    (partition : PartitionDescriptor) (status : PartitionResultStatus)
    (inputContentHash schemaFingerprint code reason : String) : PartitionResult where
  resultId := service.resultIdFor plan policy partition
  partitionId := partition.partitionId
  partitionPlanId := plan.partitionPlanId
  partitionPlanHash := plan.partitionPlanHash
  operationId := plan.operationId
  operationVersion := plan.operationVersion
  status := status
  inputId := plan.scope.inputId
  inputContentHash := inputContentHash
  schemaFingerprint := schemaFingerprint
  failureCode := some code
  failureReason := some reason
  attemptSemanticIdentity := service.attemptIdentity plan partition inputContentHash
  provenanceRefs := dataset.descriptor.provenanceRefs

/-- The result of a partition whose rows were reduced. -/
def succeededResult (dataset : ScaleInputDataset) (plan : PartitionPlan) (policy : ScalePolicy)
    (partition : PartitionDescriptor) (rows : List ScaleInputRow) (output : ScalePartitionOutput) :
    PartitionResult where
  resultId := service.resultIdFor plan policy partition
  partitionId := partition.partitionId
  partitionPlanId := plan.partitionPlanId
  partitionPlanHash := plan.partitionPlanHash
  operationId := plan.operationId
  operationVersion := plan.operationVersion
  status := .succeeded
  inputId := plan.scope.inputId
  inputContentHash := plan.inputContentHash
  schemaFingerprint := plan.scope.schemaFingerprint
  output := some output
  recordCount := rows.length
  byteCount := some (service.bytesOf rows)
  candidatePairCount := output.candidatePairs.length
  shuffleRecords := output.logicalShuffleRecords
  shuffleBytes := some output.logicalShuffleBytes
  peakMemoryMb := some (max 1 ((service.bytesOf rows + 1048575) / 1048576))
  attemptSemanticIdentity := service.attemptIdentity plan partition plan.inputContentHash
  provenanceRefs := dataset.descriptor.provenanceRefs

/-- The body of `_run_partition` inside its `try`. -/
def tryPartition (dataset : ScaleInputDataset) (plan : PartitionPlan) (policy : ScalePolicy)
    (partition : PartitionDescriptor) (shouldFail : Bool) : Except Failure PartitionResult := do
  let rows ← service.workerRows dataset plan policy partition
  if service.rowsDigest rows ≠ partition.expectedRowDigest ∨
      rows.length ≠ partition.expectedRowCount ∨
      dataset.descriptor.contentHash ≠ plan.inputContentHash then
    return service.failedResult dataset plan policy partition .failed
      dataset.descriptor.contentHash dataset.descriptor.scope.schemaFingerprint "STALE_INPUT"
      "current dataset does not match the immutable partition plan"
  if shouldFail then throw (.scale "FAILURE_INJECTED")
  let output ← service.outputForRows rows dataset.descriptor policy plan.strategy
  return service.succeededResult dataset plan policy partition rows output

/-- `_run_partition` of a service without an artifact store: a fan-out is rejected, every other
exception is reported as a failure named by its own text. -/
def runPartition (dataset : ScaleInputDataset) (plan : PartitionPlan) (policy : ScalePolicy)
    (partition : PartitionDescriptor) (shouldFail : Bool) : PartitionResult :=
  match service.tryPartition dataset plan policy partition shouldFail with
  | .ok result => result
  | .error (.fanout text) =>
    service.failedResult dataset plan policy partition .rejected plan.inputContentHash
      plan.scope.schemaFingerprint "LARGE_JOIN_FANOUT" text
  | .error failure =>
    service.failedResult dataset plan policy partition .failed dataset.descriptor.contentHash
      dataset.descriptor.scope.schemaFingerprint
      (if failure.text = "" then "PARTITION_FAILED" else failure.text)
      (if failure.text = "" then "partition worker failed" else failure.text)

end ScaleService

end DirtyDataOlap.Scale

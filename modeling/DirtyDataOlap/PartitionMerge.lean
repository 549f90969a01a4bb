import DirtyDataOlap.PartitionWorker

/-!
# The merge barrier and the execution

`_merge_outputs`, `_validate_result`, `merge`, `reference_reduce` and `execute`.  The thread pool
enters as a `Completion`: the order in which the results of the partitions are collected.
-/
namespace DirtyDataOlap.Scale

namespace ScaleService

variable (service : ScaleService)

/-- `dependency_valid`: no left side with two right sides, where there are pairs at all. -/
def dependencyValid (pairs : List (String ×ₗ String)) : Option Bool :=
  if pairs = [] then none
  else some (pairs.all fun p => pairs.all fun q => (ofLex p).1 ≠ (ofLex q).1 ∨ p = q)

def mergedOutput (descriptor : ScaleInputDescriptor) (policy : ScalePolicy)
    (outputs : List ScalePartitionOutput) (exactSum : Dec) : ScaleMergedOutput :=
  let allRefs := sortedSet (outputs.flatMap (·.recordRefs))
  let dependencyPairs := sortedSet (outputs.flatMap (·.dependencyPairs))
  let sampleCandidates := sortedBy (service.sampleDigest policy)
    (outputs.flatMap (·.sampledRecordRefs)).dedup
  { inputId := descriptor.scope.inputId
    inputContentHash := descriptor.contentHash
    recordRefs := allRefs
    sourceRecordRefs := sortedSet (outputs.flatMap (·.sourceRecordRefs))
    canonicalEntityIds := sortedSet (outputs.flatMap (·.canonicalEntityIds))
    factGrainKeys := sortedSet (outputs.flatMap (·.factGrainKeys))
    warehouseKeys := sortedSet (outputs.flatMap (·.warehouseKeys))
    profile :=
      { rowCount := (outputs.map (·.profile.rowCount)).sum
        nonNullCount := (outputs.map (·.profile.nonNullCount)).sum
        nullCount := (outputs.map (·.profile.nullCount)).sum
        minimum := Dec.minimum (outputs.filterMap (·.profile.minimum))
        maximum := Dec.maximum (outputs.filterMap (·.profile.maximum))
        exactSum := exactSum }
    exactMeasureSum := exactSum
    dependencyPairs := dependencyPairs
    dependencyValid := dependencyValid dependencyPairs
    candidatePairs := sortedSet (outputs.flatMap (·.candidatePairs))
    sampledRecordRefs := limitSample policy sampleCandidates
    inputRecordCount := descriptor.rowCount
    emittedRecordCount := allRefs.length
    uniqueInputRecords := (outputs.map (·.uniqueInputRecords)).sum
    routedRecordInstances := (outputs.map (·.routedRecordInstances)).sum
    replicationCount := (outputs.map (·.replicationCount)).sum
    logicalShuffleRecords := (outputs.map (·.logicalShuffleRecords)).sum
    logicalShuffleBytes := (outputs.map (·.logicalShuffleBytes)).sum }

def mergeOutputs (descriptor : ScaleInputDescriptor) (policy : ScalePolicy)
    (outputs : List ScalePartitionOutput) : Except Failure ScaleMergedOutput := do
  let factGrain := sortedSet (outputs.flatMap (·.factGrainKeys))
  let warehouse := sortedSet (outputs.flatMap (·.warehouseKeys))
  if factGrain.length ≠ (outputs.map (·.factGrainKeys.length)).sum then
    throw (.merge "duplicate fact grain key across partition outputs")
  if warehouse.length ≠ (outputs.map (·.warehouseKeys.length)).sum then
    throw (.merge "duplicate warehouse key across partition outputs")
  let exactSum ← sumMeasures (outputs.map (·.exactMeasureSum))
  return service.mergedOutput descriptor policy outputs exactSum

variable (dataset : ScaleInputDataset)

def referenceReduce (policy : ScalePolicy) : Except Failure ScaleMergedOutput := do
  let output ← service.outputForRows dataset.rows dataset.descriptor policy .blockKey
  service.mergeOutputs dataset.descriptor policy [output]

variable (plan : PartitionPlan)

/-- The rows the merge barrier recomputes for a partition. -/
def validatorRows (policy : ScalePolicy) (partition : PartitionDescriptor) :
    Except Failure (List ScaleInputRow) :=
  if plan.strategy ∉ [PartitionStrategy.singleNode, .range] then
    dataset.rows.filterM fun row => do
      let key ← routeKey row plan.strategy
      return service.bucket key plan.deterministicSeed plan.partitionCount
        = partition.logicalPartitionIndex
  else if plan.strategy = .singleNode then
    .ok (dataset.rows.filter fun _ => partition.logicalPartitionIndex = 0)
  else
    .ok (dataset.rows.filter fun row =>
      min (rangeIndex policy.rangeBoundaries row) (plan.partitionCount - 1)
        = partition.logicalPartitionIndex)

def validateResult (policy : ScalePolicy) (partition : PartitionDescriptor)
    (result : PartitionResult) : Except Failure Unit := do
  if result.status ≠ .succeeded then
    throw (.merge ("partition " ++ partition.partitionId ++ " is " ++ result.status.value))
  if result.failureCode ≠ none ∨ result.failureReason ≠ none then
    throw (.merge ("successful partition " ++ partition.partitionId ++ " carries failure metadata"))
  if result.partitionId ≠ partition.partitionId ∨ result.partitionPlanId ≠ plan.partitionPlanId ∨
      result.partitionPlanHash ≠ plan.partitionPlanHash then
    throw (.merge "partition result is bound to a different plan or partition")
  if result.inputId ≠ plan.scope.inputId ∨ result.inputContentHash ≠ plan.inputContentHash ∨
      result.schemaFingerprint ≠ plan.scope.schemaFingerprint then
    throw (.merge "partition result has stale input or schema scope")
  match result.output with
  | none => throw (.merge "successful partition result has no semantic output")
  | some output => do
    let rows ← service.validatorRows dataset plan policy partition
    let expected ← service.outputForRows rows dataset.descriptor policy plan.strategy
    if service.outputHash output ≠ service.outputHash expected then
      throw (.merge ("partition " ++ partition.partitionId ++ " semantic output hash mismatch"))

/-- `str(list)` of plain texts. -/
def listText (texts : List String) : String :=
  "[" ++ String.intercalate ", " (texts.map fun text => "'" ++ text ++ "'") ++ "]"

variable (results : List PartitionResult)

/-- The results with the identity `pid`, in the order they were collected. -/
def grouped (pid : String) : List PartitionResult :=
  results.filter fun result => result.partitionId = pid

/-- The first result of a partition, unless its results differ. -/
def selectResult (pid : String) : Except Failure PartitionResult :=
  let values := grouped results pid
  if 1 < (values.map service.semanticResultHash).dedup.length then
    .error (.merge ("CONFLICTING_RESULT for " ++ pid))
  else match values with
    | [] => .error (.contract "no result")
    | result :: _ => .ok result

/-- `next(item for item in selected if item.partition_id == pid)`. -/
def resultFor (selected : List PartitionResult) (pid : String) : Except Failure PartitionResult :=
  match selected.find? fun result => result.partitionId = pid with
  | some result => .ok result
  | none => .error (.contract "StopIteration")

/-- The end of `merge`, over validated results: the reduction, its accounting, the coverage of
candidate pairs across partitions, and the manifest. -/
def mergeSelected (policy : ScalePolicy) (selected : List PartitionResult) :
    Except Failure (ScaleMergedOutput × PartitionMergeManifest) := do
  let merged ← service.mergeOutputs dataset.descriptor policy (selected.filterMap (·.output))
  if merged.emittedRecordCount ≠ dataset.descriptor.rowCount ∨
      sortedSet merged.recordRefs ≠ sortedSet (dataset.rows.map (·.rowRef)) then
    throw (.merge "record accounting does not close")
  if plan.strategy = .blockKey then
    let expectedPairs ← service.candidatePairs dataset.descriptor dataset.rows policy.maxJoinPairs
    if sortedSet merged.candidatePairs ≠ sortedSet expectedPairs then
      throw (.merge "cross-partition candidate coverage is incomplete")
  let resultHashes := selected.map fun result =>
    (result.partitionId, service.semanticResultHash result)
  return (merged,
    { mergeManifestId := service.stableId "merge-manifest"
        (.mergeManifest plan.partitionPlanId resultHashes (service.mergedHash merged))
      partitionPlanId := plan.partitionPlanId
      partitionPlanHash := plan.partitionPlanHash
      expectedPartitionIds := plan.expectedPartitionIds
      resultHashes := resultHashes
      mergeReductionVersion := mergeVersion
      mergeOrdering := "partition_id_ascending"
      semanticOutputHash := some (service.mergedHash merged)
      aggregateRecordCount := merged.emittedRecordCount
      status := .succeeded
      provenanceRefs := dataset.descriptor.provenanceRefs })

/-- `merge`: a complete barrier over the results, each validated against its own partition. -/
def merge (dataset : ScaleInputDataset) (plan : PartitionPlan) (policy : ScalePolicy)
    (results : List PartitionResult) :
    Except Failure (ScaleMergedOutput × PartitionMergeManifest) := do
  let ids := results.map (·.partitionId)
  let missing := sortedSet (plan.expectedPartitionIds.filter (· ∉ ids))
  let unexpected := sortedSet (ids.filter (· ∉ plan.expectedPartitionIds))
  if missing ≠ [] ∨ unexpected ≠ [] then
    throw (.merge ("INCOMPLETE barrier: missing=" ++ listText missing ++ ", unexpected="
      ++ listText unexpected))
  let selected ← (sorted plan.expectedPartitionIds).mapM (service.selectResult results)
  plan.partitions.forM fun partition => do
    let result ← resultFor selected partition.partitionId
    service.validateResult dataset plan policy partition result
  service.mergeSelected dataset plan policy selected

def incompleteManifest (plan : PartitionPlan) (results : List PartitionResult)
    (status : ScaleExecutionStatus) (reason : Option String) : PartitionMergeManifest :=
  let ids := sortedSet (results.map (·.partitionId))
  let resultMap := (ids.filter fun pid => (grouped results pid).length = 1).filterMap fun pid =>
    (grouped results pid).head?.map fun result => (pid, service.semanticResultHash result)
  { mergeManifestId := service.stableId "merge-manifest"
      (.incompleteManifest plan.partitionPlanId resultMap status reason)
    partitionPlanId := plan.partitionPlanId
    partitionPlanHash := plan.partitionPlanHash
    expectedPartitionIds := plan.expectedPartitionIds
    resultHashes := resultMap
    mergeReductionVersion := mergeVersion
    mergeOrdering := "partition_id_ascending"
    missingPartitions := sortedSet (plan.expectedPartitionIds.filter (· ∉ ids))
    duplicatePartitions := ids.filter fun pid => 1 < (grouped results pid).length
    unexpectedPartitions := ids.filter (· ∉ plan.expectedPartitionIds)
    conflictingResults := ids.filter fun pid =>
      1 < ((grouped results pid).map service.semanticResultHash).dedup.length
    aggregateRecordCount :=
      ((results.filter fun result => result.status = .succeeded).map (·.recordCount)).sum
    status := status
    failureReason := reason }

/-- `max((item.peak_memory_mb or 0 for item in results), default=0)`. -/
def peakMemory : Nat :=
  (results.map fun result => result.peakMemoryMb.getD 0).foldl max 0

/-- The fields every result of an execution copies from its plan and its partition results. -/
def executionResult (observed : Nat) (executionId : String) (status : ScaleExecutionStatus)
    (manifest : PartitionMergeManifest) : ScaleExecutionResult where
  executionId := executionId
  runId := plan.scope.runId
  operationId := plan.operationId
  mode := .partitionedLocal
  inputId := plan.scope.inputId
  inputContentHash := plan.inputContentHash
  partitionPlanId := plan.partitionPlanId
  partitionPlanHash := plan.partitionPlanHash
  status := status
  partitionResults := sortedBy (·.partitionId) results
  mergeManifest := manifest
  observedWorkerSlots := observed
  peakMemoryMb := some (peakMemory results)

/-- The execution identity of results that were not merged. -/
def failedExecutionId : String :=
  service.stableId "scale-execution"
    (.failedExecution plan.partitionPlanId (sorted (results.map service.semanticResultHash)))

/-- `execute` after the loop, on the results in the order they were collected. -/
def finishExecution (policy : ScalePolicy) (observed : Nat) (results : List PartitionResult) :
    Except Failure ScaleExecutionResult :=
  match results.filter fun result => result.status ≠ .succeeded with
  | first :: _ =>
    let code := first.failureCode
    let reason := orText code "PARTITION_FAILED"
    .ok { executionResult plan results observed (service.failedExecutionId plan results) .incomplete
        (service.incompleteManifest plan results .incomplete (some reason)) with
      failureCode := code
      failureReason := first.failureReason }
  | [] =>
    match service.merge dataset plan policy results with
    | .ok (merged, manifest) =>
      .ok { executionResult plan results observed (service.stableId "scale-execution"
          (.mergedExecution plan.partitionPlanId (service.mergedHash merged))) .succeeded
          manifest with
        mergedOutput := some merged
        provenanceRefs := dataset.descriptor.provenanceRefs }
    | .error (.merge text) =>
      .ok { executionResult plan results observed (service.failedExecutionId plan results) .failed
          (service.incompleteManifest plan results .failed (some text)) with
        failureCode := some "MERGE_FAILED"
        failureReason := some text }
    | .error failure => .error failure

/-- `execute`, for the order in which the results of the partitions were collected and the largest
number of workers that were active at once. -/
def execute (policy : ScalePolicy) (failurePartitionIds : List String)
    (order : List PartitionDescriptor) (observed : Nat) : Except Failure ScaleExecutionResult :=
  if dataset.descriptor.contentHash ≠ plan.inputContentHash then
    .error (.authorization "STALE_INPUT: dataset hash differs from partition plan")
  else if plan.scope.runId ≠ dataset.descriptor.scope.runId ∨
      plan.scope.schemaFingerprint ≠ dataset.descriptor.scope.schemaFingerprint then
    .error (.authorization "partition plan scope does not match the dataset")
  else if plan.skew.status = .skewed ∧ plan.skew.action = .reject then
    .ok { executionResult plan [] 0 (service.stableId "scale-execution"
        (.skewExecution plan.partitionPlanId)) .needsReview
        (service.incompleteManifest plan [] .needsReview (some "SKEW_REVIEW_REQUIRED")) with
      peakMemoryMb := none
      failureCode := some "SKEW_REVIEW_REQUIRED"
      failureReason := some "configured skew policy rejected execution" }
  else
    service.finishExecution dataset plan policy observed <| order.map fun partition =>
      service.runPartition dataset plan policy partition
        (partition.partitionId ∈ failurePartitionIds)

end ScaleService

/-- `slots`, the size of the thread pool. -/
def workerSlots (policy : ScalePolicy) (plan : PartitionPlan) : Nat :=
  min (min policy.maxWorkerSlots policy.resourceBudget.maxWorkerSlots)
    (max 1 plan.partitions.length)

/-- The orders in which the loop can collect the partitions in flight and those still waiting.
Each round waits for some non-empty part of the pending futures, collects it by partition identity
and submits as many of the waiting partitions. -/
inductive Collects : List PartitionDescriptor → List PartitionDescriptor →
    List PartitionDescriptor → Prop
  | done (waiting : List PartitionDescriptor) : Collects [] waiting []
  | round {pending waiting finished left later : List PartitionDescriptor} :
      finished ≠ [] → (finished ++ left).Perm pending →
      finished.Pairwise (fun a b => a.partitionId ≤ b.partitionId) →
      Collects (left ++ waiting.take finished.length) (waiting.drop finished.length) later →
      Collects pending waiting (finished ++ later)

/-- `order` is an order in which an execution of the plan can collect its partitions. -/
def Completion (policy : ScalePolicy) (plan : PartitionPlan) (order : List PartitionDescriptor) :
    Prop :=
  let queue := sortedBy (·.partitionId) plan.partitions
  Collects (queue.take (workerSlots policy plan)) (queue.drop (workerSlots policy plan)) order

/-- The outcomes of `execute`: one for each order of completion. -/
def Executes (service : ScaleService) (dataset : ScaleInputDataset) (plan : PartitionPlan)
    (policy : ScalePolicy) (failurePartitionIds : List String)
    (outcome : Except Failure ScaleExecutionResult) : Prop :=
  ∃ order observed, Completion policy plan order ∧
    service.execute dataset plan policy failurePartitionIds order observed = outcome

end DirtyDataOlap.Scale

import DirtyDataOlap.PartitionContracts

/-!
# Planning partitions

`ScaleService.assess` and `ScaleService.plan` of `application/distributed.py`: the mode and the
strategy of an execution, the routing of its rows to partitions, and the immutable plan that
records what each partition is expected to hold.
-/
namespace DirtyDataOlap.Scale

/-- `a or b` of an optional text and a text. -/
def orText (a : Option String) (b : String) : String :=
  match a with
  | some text => if text = "" then b else text
  | none => b

/-- `a or b` of an optional count and a count. -/
def orInt (a : Option Int) (b : Int) : Int :=
  match a with
  | some n => if n = 0 then b else n
  | none => b

/-- `_route_key`: what a row is routed by. -/
def routeKey (row : ScaleInputRow) : PartitionStrategy → Except Failure String
  | .blockKey => .ok (orText row.blockKey (orText row.groupKey row.partitionKey))
  | .existingStagedPart =>
    .error (.scale "EXISTING_STAGED_PART is a storage strategy and has no generic row router")
  | _ => .ok (orText (some row.partitionKey) (orText row.factGrainKey row.rowRef))

/-- How many boundaries a row lies at or beyond. -/
def rangeIndex (boundaries : List String) (row : ScaleInputRow) : Nat :=
  (boundaries.filter fun boundary => boundary ≤ row.partitionKey).length

namespace ScaleService

variable (service : ScaleService)

def supportFor (dataset : ScaleInputDataset) (policy : ScalePolicy) : StageScaleSupport :=
  let stage := dataset.descriptor.scope.stageId
  ((policy.stageSupport.lookup stage <|> policy.stageSupport.lookup (service.lower stage)) <|>
    policy.stageSupport.lookup (service.upper stage)).getD .notEvaluated

/-- `assess`: whether the input is to be partitioned. -/
def assess (dataset : ScaleInputDataset) (policy : ScalePolicy) (requestedParallelism : Option Int) :
    Except Failure ScaleDecision :=
  if policy.requestedMode = .externalDistributed then
    .error (.authorization "EXTERNAL_DISTRIBUTED is not an available Step24 V1 execution mode")
  else
    let support := service.supportFor dataset policy
    let belowRows := dataset.descriptor.rowCount ≤ policy.localRowThreshold
    let belowBytes := policy.localByteThreshold.all fun limit =>
      dataset.descriptor.estimatedBytes.all fun bytes => bytes ≤ limit
    let safeToPartition := support ∈ [.partitionSafe, .shuffleRequired, .globalReduction,
      .globalCandidateGeneration]
    let requested := max 1 (orInt requestedParallelism policy.maxWorkerSlots)
    if belowRows ∧ belowBytes then .ok ⟨.localReference, requested⟩
    else if safeToPartition then .ok ⟨.partitionedLocal, requested⟩
    else if policy.fallbackPolicy = .fallbackToLocal then .ok ⟨.localReference, requested⟩
    else .error (.authorization ("stage support=" ++ support.value
      ++ " cannot satisfy the configured scale policy"))

/-- The bucket of a key, by its digest. -/
def bucket (key : String) (seed : Int) (count : Nat) : Nat :=
  hexPrefix (service.sha256 (toString seed ++ ":" ++ key)) % count

/-- The strategy of a plan; a local execution has a single partition. -/
def strategyFor (dataset : ScaleInputDataset) (policy : ScalePolicy) (decision : ScaleDecision) :
    Except Failure PartitionStrategy :=
  if decision.selectedMode = .localReference then .ok .singleNode
  else
    match policy.partitionStrategy with
    | some .existingStagedPart =>
      .error (.scale "EXISTING_STAGED_PART requires an existing typed staging manifest")
    | some strategy => .ok strategy
    | none =>
      if service.supportFor dataset policy = .globalCandidateGeneration then .ok .blockKey
      else .ok .hash

/-- The budget, whatever the number of workers. -/
def partitionBudgetFingerprint (budget : ResourceBudget) : String :=
  service.digest (.budget { budget with maxWorkerSlots := 1 })

/-- The bucket `_partition_assignments` appends a row to. -/
def assignedBucket (strategy : PartitionStrategy) (count : Nat) (policy : ScalePolicy)
    (row : ScaleInputRow) : Except Failure Nat :=
  match strategy with
  | .singleNode => .ok 0
  | .range => .ok (min (rangeIndex policy.rangeBoundaries row) (count - 1))
  | strategy => do
    let key ← routeKey row strategy
    return service.bucket key policy.deterministicSeed count

/-- `_partition_assignments`: the rows of each bucket, in the order of the dataset. -/
def partitionAssignments (dataset : ScaleInputDataset) (strategy : PartitionStrategy) (count : Nat)
    (policy : ScalePolicy) : Except Failure (List (List ScaleInputRow)) :=
  dataset.rows.foldlM (fun assignments row => do
    let index ← service.assignedBucket strategy count policy row
    return assignments.modify index (· ++ [row])) (List.replicate count [])

def bytesOf (rows : List ScaleInputRow) : Nat := (rows.map service.rowBytes).sum

/-- `_skew`: how even the assignments are. -/
def skew (assignments : List (List ScaleInputRow)) (policy : ScalePolicy) : SkewAssessment :=
  let counts := assignments.map (·.length)
  let maximum := counts.foldl max 0
  let ratio := service.maxMeanRatio counts
  let status : SkewStatus :=
    if maximum = 0 then .empty else if policy.skewRatioThreshold < ratio then .skewed else .balanced
  { recordCounts := counts
    byteCounts := assignments.map service.bytesOf
    minimum := (counts.min?).getD 0
    maximum := maximum
    maxMeanRatio := ratio
    emptyPartitionCount := counts.count 0
    status := status
    action := if status = .skewed then policy.skewAction else .allow }

/-- A partition must fit into the bounds. -/
def checkBudget (policy : ScalePolicy) (index : Nat) (rows : List ScaleInputRow) :
    Except Failure Unit :=
  if policy.maxPartitionRows.any fun limit => limit < rows.length then
    .error (.scale ("RESOURCE_BUDGET_EXCEEDED: partition " ++ toString index ++ " has "
      ++ toString rows.length ++ " rows"))
  else if policy.maxPartitionBytes.any fun limit => limit < service.bytesOf rows then
    .error (.scale ("RESOURCE_BUDGET_EXCEEDED: partition " ++ toString index
      ++ " exceeds configured byte envelope"))
  else .ok ()

/-- The number of partitions `plan` cuts the input into. -/
def countFor (strategy : PartitionStrategy) (policy : ScalePolicy) (decision : ScaleDecision)
    (partitionCount : Option Int) : Nat :=
  if strategy = .singleNode then 1
  else (max 1 (min (orInt partitionCount (max 1 decision.requestedParallelism))
    policy.maxPartitions)).toNat

def operationVersion : String := "step24-scale-v1"

def mergeVersion : String := "step24-deterministic-reduction-v1"

/-- `expected_row_digest` of the rows of a partition. -/
def rowsDigest (rows : List ScaleInputRow) : String :=
  service.digest (.recordDigests (sorted (rows.map service.recordDigest)))

/-- What a partition is called in its descriptor. -/
def routingKey (index : Nat) : String := "bucket:" ++ toString index

section

variable (descriptor : ScaleInputDescriptor)

/-- `partition_id_for` of the partition at `index`. -/
def partitionIdFor (policy : ScalePolicy) (strategy : PartitionStrategy) (index : Nat) : String :=
  service.stableId "partition" (.partition descriptor.scope strategy index (routingKey index)
    policy.deterministicSeed policy.policyVersion)

/-- The semantic content of the partition at `index`. -/
def partitionContent (policy : ScalePolicy) (strategy : PartitionStrategy) (index : Nat)
    (rows : List ScaleInputRow) : PartitionContent where
  partitionId := service.partitionIdFor descriptor policy strategy index
  logicalPartitionIndex := index
  strategy := strategy
  routingKey := routingKey index
  rangeStart := if strategy = .range ∧ 0 < index then policy.rangeBoundaries[index - 1]? else none
  rangeEnd := if strategy = .range then policy.rangeBoundaries[index]? else none
  expectedRowCount := rows.length
  expectedRowDigest := service.rowsDigest rows

def partitionPlanIdFor (policy : ScalePolicy) (strategy : PartitionStrategy) (count : Nat) :
    String :=
  service.stableId "partition-plan" (.partitionPlan descriptor.scope descriptor.contentHash strategy
    count policy.deterministicSeed policy.policyVersion
    (service.partitionBudgetFingerprint policy.resourceBudget) policy.rangeBoundaries)

def partitionKeySpecification : PartitionStrategy → String
  | .range => "explicit-range-boundaries"
  | .blockKey => "blocking-key"
  | _ => "stable-sha256-routing-key"

def expectedMergeStrategy (strategy : PartitionStrategy) : String :=
  if strategy = .singleNode then "single-node" else "sorted-partition-id-exact-reduction"

/-- `plan_semantic_content`. -/
def planContent (policy : ScalePolicy) (strategy : PartitionStrategy) (count : Nat)
    (contents : List PartitionContent) : PlanContent where
  operationVersion := operationVersion
  scope := descriptor.scope
  inputContentHash := descriptor.contentHash
  inputArtifactRefs := sorted descriptor.artifactRefs
  strategy := strategy
  partitionKeySpecification := partitionKeySpecification strategy
  partitionCount := count
  deterministicSeed := policy.deterministicSeed
  resourceBudgetFingerprint := service.partitionBudgetFingerprint policy.resourceBudget
  policyVersion := policy.policyVersion
  expectedPartitionIds := sorted (contents.map (·.partitionId))
  partitions := sortedBy (·.partitionId) contents
  expectedMergeStrategy := expectedMergeStrategy strategy

def partitionDescriptor (policy : ScalePolicy) (planId planHash : String)
    (content : PartitionContent) : PartitionDescriptor where
  partitionId := content.partitionId
  partitionPlanId := planId
  partitionPlanHash := planHash
  logicalPartitionIndex := content.logicalPartitionIndex
  strategy := content.strategy
  routingKey := content.routingKey
  rangeStart := content.rangeStart
  rangeEnd := content.rangeEnd
  scope := descriptor.scope
  inputContentHash := descriptor.contentHash
  deterministicSeed := policy.deterministicSeed
  expectedRowCount := content.expectedRowCount
  expectedRowDigest := content.expectedRowDigest
  expectedResource := policy.resourceBudget
  provenanceRefs := descriptor.provenanceRefs

/-- The content of every partition, by index. -/
def partitionContents (policy : ScalePolicy) (strategy : PartitionStrategy)
    (assignments : List (List ScaleInputRow)) : List PartitionContent :=
  assignments.mapIdx fun index rows => service.partitionContent descriptor policy strategy index rows

end

/-- The plan for assigned rows, rejected by its contract when two partitions share an identity. -/
def buildPlan (dataset : ScaleInputDataset) (policy : ScalePolicy) (strategy : PartitionStrategy)
    (count : Nat) (assignments : List (List ScaleInputRow)) : Except Failure PartitionPlan :=
  let descriptor := dataset.descriptor
  let contents := service.partitionContents descriptor policy strategy assignments
  let planId := service.partitionPlanIdFor descriptor policy strategy count
  let planHash := service.digest (.planContent
    (service.planContent descriptor policy strategy count contents))
  if h : 1 ≤ count ∧ (contents.map (·.partitionId)).length = count ∧
      (contents.map (·.partitionId)).Nodup then
    .ok
      { partitionPlanId := planId
        partitionPlanHash := planHash
        operationVersion := operationVersion
        scope := descriptor.scope
        inputContentHash := descriptor.contentHash
        inputArtifactRefs := descriptor.artifactRefs
        strategy := strategy
        partitionKeySpecification := partitionKeySpecification strategy
        partitionCount := count
        deterministicSeed := policy.deterministicSeed
        resourceBudgetFingerprint := service.partitionBudgetFingerprint policy.resourceBudget
        policyVersion := policy.policyVersion
        partitions := contents.map (partitionDescriptor descriptor policy planId planHash)
        expectedPartitionIds := contents.map (·.partitionId)
        expectedMergeStrategy := expectedMergeStrategy strategy
        skew := service.skew assignments policy
        provenanceRefs := descriptor.provenanceRefs
        count := h.1
        closure := ⟨by simp [partitionDescriptor], h.2.1, h.2.2, by
          simp only [List.mem_map]
          rintro _ ⟨content, _, rfl⟩
          exact ⟨rfl, rfl, rfl⟩⟩ }
  else .error (.contract "partition plan expected partition closure is invalid")

/-- `plan`: the partitions of a dataset under a policy. -/
def plan (dataset : ScaleInputDataset) (policy : ScalePolicy) (partitionCount : Option Int)
    (requestedParallelism : Option Int) : Except Failure PartitionPlan := do
  let decision ← service.assess dataset policy requestedParallelism
  let strategy ← service.strategyFor dataset policy decision
  let count := countFor strategy policy decision partitionCount
  let assignments ← service.partitionAssignments dataset strategy count policy
  (assignments.mapIdx fun index rows => service.checkBudget policy index rows).forM id
  service.buildPlan dataset policy strategy count assignments

end ScaleService

end DirtyDataOlap.Scale

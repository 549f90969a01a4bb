import DirtyDataOlap.PartitionExecution

/-!
# Partitioned execution against the reference reduction

A successful partitioned execution and `reference_reduce` summarize the same rows, so they agree on
everything a summary determines.  Candidate pairs are not part of it: only `BLOCK_KEY` generates
them, and its barrier compares them with those of the whole dataset.
-/
namespace DirtyDataOlap.Scale

open List Option

namespace ScaleService

variable (service : ScaleService) {dataset : ScaleInputDataset} {plan : PartitionPlan}
  {policy : ScalePolicy}

/-- The merged output agrees with the reference on everything but candidate pairs and sums. -/
structure SameReduction (merged reference : ScaleMergedOutput) : Prop where
  recordRefs : merged.recordRefs = reference.recordRefs
  sourceRecordRefs : merged.sourceRecordRefs = reference.sourceRecordRefs
  canonicalEntityIds : merged.canonicalEntityIds = reference.canonicalEntityIds
  factGrainKeys : merged.factGrainKeys = reference.factGrainKeys
  warehouseKeys : merged.warehouseKeys = reference.warehouseKeys
  rowCount : merged.profile.rowCount = reference.profile.rowCount
  nullCount : merged.profile.nullCount = reference.profile.nullCount
  nonNullCount : merged.profile.nonNullCount = reference.profile.nonNullCount
  minimum : merged.profile.minimum.map Dec.value = reference.profile.minimum.map Dec.value
  maximum : merged.profile.maximum.map Dec.value = reference.profile.maximum.map Dec.value
  dependencyPairs : merged.dependencyPairs = reference.dependencyPairs
  dependencyValid : merged.dependencyValid = reference.dependencyValid
  sampledRecordRefs : merged.sampledRecordRefs = reference.sampledRecordRefs

variable {failures : List String} {groups : List (List ScaleInputRow)}
  {outputs : List ScalePartitionOutput} {reference : ScaleMergedOutput}

theorem sameReduction_of_summarizes {rows : List ScaleInputRow} {merged : ScaleMergedOutput}
    (hm : service.Summarizes policy rows merged) (hr : service.Summarizes policy rows reference)
    (hrefs : (rows.map (·.rowRef)).Nodup) (hsep : service.Separates policy rows) :
    SameReduction merged reference where
  recordRefs := hm.recordRefs.trans hr.recordRefs.symm
  sourceRecordRefs := hm.sourceRecordRefs.trans hr.sourceRecordRefs.symm
  canonicalEntityIds := hm.canonicalEntityIds.trans hr.canonicalEntityIds.symm
  factGrainKeys := hm.factGrainKeys.trans hr.factGrainKeys.symm
  warehouseKeys := hm.warehouseKeys.trans hr.warehouseKeys.symm
  rowCount := hm.rowCount.trans hr.rowCount.symm
  nullCount := hm.nullCount.trans hr.nullCount.symm
  nonNullCount := hm.nonNullCount.trans hr.nonNullCount.symm
  minimum := hm.minimum.map_eq hr.minimum
  maximum := hm.maximum.map_eq hr.maximum
  dependencyPairs := hm.dependencyPairs.trans hr.dependencyPairs.symm
  dependencyValid := by
    rw [hm.dependencyValid, hr.dependencyValid, hm.dependencyPairs, hr.dependencyPairs]
  sampledRecordRefs := by
    rw [hm.sampled_eq service hrefs hsep, hr.sampled_eq service hrefs hsep]

theorem referenceReduce_summarizes (h : service.referenceReduce dataset policy = .ok reference) :
    service.Summarizes policy dataset.rows reference := by
  obtain ⟨outputs, exactSum, hreduces, _, rfl⟩ := service.referenceReduce_spec h
  have hsum := hreduces.summarizes service exactSum
  rwa [flatten_singleton] at hsum

theorem succeeded_summarizes {result : ScaleExecutionResult}
    (hplan : service.Planned dataset policy plan)
    (h : Executes service dataset plan policy failures (.ok result))
    (hstatus : result.status = .succeeded) : ∃ merged, result.mergedOutput = some merged ∧
      service.Summarizes policy dataset.rows merged := by
  obtain ⟨groups, outputs, exactSum, hall, _, hmerged, _⟩ := service.succeeded_spec h hstatus
  exact ⟨_, hmerged, (hall.reduces.summarizes service exactSum).perm service
    (hall.flatten_perm service hplan)⟩

/-! ## When every partition succeeds -/

variable (dataset plan policy) in
def RoutedTo (row : ScaleInputRow) (partition : PartitionDescriptor) : Prop :=
  ∀ other ∈ plan.partitions,
    (service.assignedBucket plan.strategy plan.partitionCount policy row =
      .ok other.logicalPartitionIndex ↔ other = partition) ∧
    ((∃ rows, service.workerRows dataset plan policy other = .ok rows ∧ row ∈ rows) ↔
      other = partition) ∧
    ((∃ rows, service.validatorRows dataset plan policy other = .ok rows ∧ row ∈ rows) ↔
      other = partition)

theorem exists_routedTo (hplan : service.Planned dataset policy plan) {row : ScaleInputRow}
    (hrow : row ∈ dataset.rows) :
    ∃ partition ∈ plan.partitions, service.RoutedTo dataset plan policy row partition := by
  have hlt := @routeOf_lt service plan.strategy policy.rangeBoundaries plan.deterministicSeed
    plan.partitionCount plan.count row
  have hindex := hplan.indices ▸ mem_range.2 hlt
  obtain ⟨partition, hp, hpi⟩ := mem_map.1 hindex
  have hnodup : (plan.partitions.map (·.logicalPartitionIndex)).Nodup := by
    rw [hplan.indices]
    exact nodup_range
  have hunique : ∀ other ∈ plan.partitions, (service.routeOf plan.strategy policy.rangeBoundaries
      plan.deterministicSeed plan.partitionCount row = other.logicalPartitionIndex ↔
      other = partition) := by
    intro other ho
    constructor
    · intro h
      exact inj_on_of_nodup_map hnodup ho hp (h.symm.trans hpi.symm)
    · rintro rfl
      exact hpi.symm
  have hworker : ∀ other, (∃ rows, service.workerRows dataset plan policy other = .ok rows ∧
      row ∈ rows) ↔ service.routeOf plan.strategy policy.rangeBoundaries plan.deterministicSeed
        plan.partitionCount row = other.logicalPartitionIndex := by
    intro other
    rw [service.workerRows_eq hplan.strategy]
    simp [hrow]
  refine ⟨partition, hp, fun other ho => ⟨?_, ?_, ?_⟩⟩
  · rw [service.assignedBucket_eq hplan.strategy, ← hplan.seed, Except.ok.injEq, hunique other ho]
  · rw [hworker, hunique other ho]
  · rw [service.validatorRows_eq, hworker, hunique other ho]

section

variable (dataset : ScaleInputDataset) (plan : PartitionPlan) (policy : ScalePolicy)

/-- No sum of measures overflows: neither that of a partition nor that of the partition sums. -/
def SumsFit : Prop :=
  ∃ sums total, Forall₂ (fun p exactSum => ∀ rows,
    service.workerRows dataset plan policy p = .ok rows →
      sumMeasures (measuresOf rows) = .ok exactSum) (queue plan) sums ∧
    sumMeasures sums = .ok total

/-- Records that share a blocking key are routed to one partition. -/
def KeysTogether : Prop :=
  ∀ a ∈ dataset.rows, ∀ b ∈ dataset.rows, SharesKey a b →
    service.assignedBucket plan.strategy plan.partitionCount policy a =
      service.assignedBucket plan.strategy plan.partitionCount policy b

/-- An execution without injected failures, skew rejection, fan-out or repeated keys. -/
structure Undisturbed (failures : List String) : Prop where
  notInjected : ∀ p ∈ plan.partitions, p.partitionId ∉ failures
  notSkewed : ¬ (plan.skew.status = .skewed ∧ plan.skew.action = .reject)
  noFanout : plan.strategy = .blockKey → ∃ pairs,
    service.candidatePairs dataset.descriptor dataset.rows policy.maxJoinPairs = .ok pairs
  factKeys : (dataset.rows.filterMap (·.factGrainKey)).Nodup
  warehouseKeys : (dataset.rows.filterMap (·.warehouseKey)).Nodup

end

theorem exists_of_forall₂ {α β : Type} {R : α → β → Prop} {xs : List α} {ys : List β}
    (h : Forall₂ R xs ys) {x : α} (hx : x ∈ xs) : ∃ y ∈ ys, R x y := by
  induction h with
  | nil => simp at hx
  | cons hxy _ ih =>
    rcases mem_cons.1 hx with rfl | hx
    · exact ⟨_, by simp, hxy⟩
    · obtain ⟨y, hy, hR⟩ := ih hx
      exact ⟨y, by simp [hy], hR⟩

theorem pairsFor_ok {part : List ScaleInputRow} {strategy : PartitionStrategy}
    (hpairs : strategy = .blockKey → ∃ pairs,
      service.candidatePairs dataset.descriptor dataset.rows policy.maxJoinPairs = .ok pairs)
    (hsub : ∀ row ∈ part, row ∈ dataset.rows) :
    ∃ pairs, service.pairsFor part dataset.descriptor policy strategy = .ok pairs := by
  by_cases hs : strategy = .blockKey
  · obtain ⟨pairs, hall⟩ := hpairs hs
    obtain ⟨part, hpart, _⟩ := service.candidatePairs_of_subset hall hsub
    exact ⟨part, by rw [pairsFor, if_pos hs, hpart]⟩
  · exact ⟨[], by rw [pairsFor, if_neg hs]⟩

theorem succeeded_of_undisturbed (hplan : service.Planned dataset policy plan)
    (h : service.Undisturbed dataset plan policy failures)
    (hsums : service.SumsFit dataset plan policy) : ∀ p ∈ plan.partitions,
      (service.resultOf dataset plan policy failures p).status = .succeeded := by
  intro p hp
  obtain ⟨rows, hrows, hdigest, hcount⟩ := hplan.rows p hp
  have hsub : ∀ row ∈ rows, row ∈ dataset.rows := by
    rw [service.workerRows_eq hplan.strategy] at hrows
    rw [← Except.ok.inj hrows]
    intro row hrow
    exact (mem_filter.1 hrow).1
  obtain ⟨pairs, hpairs⟩ := service.pairsFor_ok h.noFanout hsub
  obtain ⟨sums, _, hforall, _⟩ := hsums
  obtain ⟨exactSum, _, hsum⟩ := exists_of_forall₂ hforall (mem_queue.2 hp)
  have hout := (service.outputForRows_eq_ok).2 ⟨exactSum, pairs, hsum rows hrows, hpairs, rfl⟩
  have hreduced : service.Reduced dataset plan policy failures p rows _ :=
    ⟨hrows, hdigest.symm, hcount.symm, hplan.inputContentHash.symm, h.notInjected p hp, hout⟩
  rw [service.resultOf_eq hreduced]
  rfl

theorem AllReduced.sums_eq {sums : List Dec}
    (h : service.AllReduced dataset plan policy failures groups outputs)
    (hsums : Forall₂ (fun p exactSum => ∀ rows,
      service.workerRows dataset plan policy p = .ok rows →
        sumMeasures (measuresOf rows) = .ok exactSum) (queue plan) sums) :
    outputs.map (·.exactMeasureSum) = sums := by
  have hrows := h.rows
  have hreduces := h.reduces
  clear h
  generalize queue plan = parts at hsums hrows
  induction hsums generalizing groups outputs with
  | nil =>
    cases hrows
    cases hreduces
    rfl
  | cons hsum _ ih =>
    cases hrows with
    | cons hhead htail =>
      cases hreduces with
      | cons hout hrest =>
        obtain ⟨exactSum, pairs, hexact, _, rfl⟩ := (service.outputForRows_eq_ok).1 hout
        rw [map_cons, ih hrest htail]
        congr 1
        exact Except.ok.inj (hexact.symm.trans (hsum _ hhead))

theorem Reduces.mem_candidatePairs {descriptor : ScaleInputDescriptor}
    (h : service.Reduces descriptor policy .blockKey groups outputs) {id : String} :
    id ∈ outputs.flatMap (·.candidatePairs) ↔ ∃ rows ∈ groups, ∃ a ∈ rows, ∃ b ∈ rows,
      a.rowRef ≠ b.rowRef ∧ SharesKey a b ∧ id = service.pairId descriptor a.rowRef b.rowRef := by
  induction h with
  | nil => simp
  | cons hhead _ ih =>
    obtain ⟨exactSum, pairs, _, hpairs, rfl⟩ := (service.outputForRows_eq_ok).1 hhead
    rw [pairsFor, if_pos rfl] at hpairs
    simp only [flatMap_cons, mem_append, exists_mem_cons_iff, ih]
    exact or_congr_left (service.mem_candidatePairs hpairs)

section
variable (hplan : service.Planned dataset policy plan)
  (h : service.Undisturbed dataset plan policy failures)
include hplan h

/-- A plan under which every sum fits and every block is in one partition closes at the barrier. -/
theorem closes_of_undisturbed
    (htogether : plan.strategy = .blockKey → service.KeysTogether dataset plan policy)
    (hall : service.AllReduced dataset plan policy failures groups outputs) (exactSum : Dec) :
    service.Closes dataset plan policy
      (service.mergedOutput dataset.descriptor policy outputs exactSum) := by
  have hsummary := (hall.reduces.summarizes service exactSum).perm service
    (hall.flatten_perm service hplan)
  refine ⟨?_, ?_, ?_⟩
  · rw [hsummary.emitted, length_sortedSet.2 dataset.uniqueRefs, length_map, dataset.rowCount]
  · rw [hsummary.recordRefs]
    exact sortedSet_eq fun _ => mem_sortedSet
  · intro hblock
    obtain ⟨pairs, hpairs⟩ := h.noFanout hblock
    have hreduces := hblock ▸ hall.reduces
    refine ⟨pairs, hpairs, sortedSet_eq fun id => ?_⟩
    change id ∈ sortedSet (outputs.flatMap (·.candidatePairs)) ↔ id ∈ pairs
    rw [mem_sortedSet, hreduces.mem_candidatePairs service, service.mem_candidatePairs hpairs]
    constructor
    · rintro ⟨rows, hrows, a, ha, b, hb, hrest⟩
      have hin : ∀ row ∈ rows, row ∈ dataset.rows := fun row hrow =>
        (hall.flatten_perm service hplan).mem_iff.1 (mem_flatten.2 ⟨rows, hrows, hrow⟩)
      exact ⟨a, hin a ha, b, hin b hb, hrest⟩
    · rintro ⟨a, ha, b, hb, hne, hshare, rfl⟩
      -- Both records are routed to the partition of the first.
      obtain ⟨p, hp, hrouted⟩ := service.exists_routedTo hplan ha
      obtain ⟨q, hq, hroutedq⟩ := service.exists_routedTo hplan hb
      have hsame : p = q := by
        apply (hroutedq p hp).1.1
        rw [← htogether hblock a ha b hb hshare]
        exact (hrouted p hp).1.2 rfl
      obtain ⟨rows, hgroup, hrows⟩ := exists_of_forall₂ hall.rows (mem_queue.2 hp)
      obtain ⟨rows', hrows', ha'⟩ := (hrouted p hp).2.1.2 rfl
      obtain ⟨rows'', hrows'', hb'⟩ := (hroutedq p hp).2.1.2 hsame
      rw [hrows] at hrows' hrows''
      cases hrows'
      cases hrows''
      exact ⟨rows, hgroup, a, ha', b, hb', hne, hshare, rfl⟩

theorem AllReduced.mergeOutputs_ok
    (hall : service.AllReduced dataset plan policy failures groups outputs) {exactSum : Dec}
    (hsum : sumMeasures (outputs.map (·.exactMeasureSum)) = .ok exactSum) :
    service.mergeOutputs dataset.descriptor policy outputs =
      .ok (service.mergedOutput dataset.descriptor policy outputs exactSum) := by
  have hperm := hall.flatten_perm service hplan
  -- Sorting within the groups does not change which keys they hold together.
  have hkeys : ∀ (f : ScalePartitionOutput → List String) (key : ScaleInputRow → Option String),
      (∀ rows s pairs, f (service.partitionOutput rows policy plan.strategy s pairs) =
        sorted (rows.filterMap key)) →
      (outputs.flatMap f).Perm (dataset.rows.filterMap key) := by
    intro f key hf
    rw [hall.reduces.flatMap_eq service f _ hf]
    have hsort : (groups.flatMap fun rows => sorted (rows.filterMap key)).Perm
        (groups.flatMap fun rows => rows.filterMap key) :=
      List.Perm.flatMap_left _ fun rows _ => sorted_perm _
    rw [← filterMap_flatten_eq] at hsort
    exact hsort.trans (hperm.filterMap _)
  refine (service.mergeOutputs_eq_ok).2 ⟨?_, ?_, exactSum, hsum, rfl⟩
  · exact (hkeys (·.factGrainKeys) (·.factGrainKey) fun _ _ _ => rfl).nodup_iff.2 h.factKeys
  · exact (hkeys (·.warehouseKeys) (·.warehouseKey) fun _ _ _ => rfl).nodup_iff.2 h.warehouseKeys

theorem executes_succeeded (hsums : service.SumsFit dataset plan policy)
    (htogether : plan.strategy = .blockKey → service.KeysTogether dataset plan policy)
    {outcome : Except Failure ScaleExecutionResult}
    (hexec : Executes service dataset plan policy failures outcome) :
    ∃ result, outcome = .ok result ∧ result.status = .succeeded := by
  obtain ⟨order, observed, hcompletion, rfl⟩ := hexec
  have horder := hcompletion.perm
  have hok := service.succeeded_of_undisturbed hplan h hsums
  obtain ⟨groups, outputs, hall⟩ := service.allReduced_of_succeeded hok
  obtain ⟨sums, total, hforall, htotal⟩ := hsums
  rw [← hall.sums_eq service hforall] at htotal
  have hmerge := hall.mergeOutputs_ok service hplan h htotal
  have hcloses := service.closes_of_undisturbed hplan h htogether hall total
  rw [← hall.selected] at hmerge
  obtain ⟨manifest, hselected⟩ := service.mergeSelected_ok hmerge (hall.selected ▸ hcloses)
  have hadmitted : Admitted dataset plan :=
    ⟨hplan.inputContentHash.symm, by rw [hplan.scope], by rw [hplan.scope], h.notSkewed⟩
  rw [service.execute_eq hadmitted]
  unfold finishExecution
  rw [(service.filter_failed_eq_nil horder).2 hok, service.merge_eq horder hok, hselected]
  exact ⟨_, rfl, rfl⟩

end

end ScaleService

/-! ## Equivalence with the reference -/

open ScaleService in
/-- **Partitioned execution of a plan is equivalent to the reference**: one routing; success
wherever nothing disturbs it, no sum overflows and, under `BLOCK_KEY`, no block is cut; and, on
success, the reduction of the reference. -/
structure EqualsReference (service : ScaleService) (dataset : ScaleInputDataset)
    (policy : ScalePolicy) (plan : PartitionPlan) : Prop where
  routed : ∀ row ∈ dataset.rows, ∃ partition ∈ plan.partitions,
    service.RoutedTo dataset plan policy row partition
  runs : ∀ failures, ∃ outcome, Executes service dataset plan policy failures outcome
  succeeds : ∀ failures, service.Undisturbed dataset plan policy failures →
    service.SumsFit dataset plan policy →
    (plan.strategy = .blockKey → service.KeysTogether dataset plan policy) →
    ∀ outcome, Executes service dataset plan policy failures outcome →
      ∃ result, outcome = .ok result ∧ result.status = .succeeded
  reduces : ∀ failures result reference,
    Executes service dataset plan policy failures (.ok result) → result.status = .succeeded →
    service.referenceReduce dataset policy = .ok reference →
    ∃ merged, result.mergedOutput = some merged ∧ SameReduction merged reference ∧
      merged.sampledRecordRefs = service.sampleRecordRefs dataset policy

/-- **Partitioned execution equals the reference** for every plan. -/
theorem partitioned_equals_reference {service : ScaleService} {dataset : ScaleInputDataset}
    {policy : ScalePolicy} {partitionCount requestedParallelism : Option Int} {plan : PartitionPlan}
    (hplan : service.plan dataset policy partitionCount requestedParallelism = .ok plan)
    (hsep : service.Separates policy dataset.rows) :
    EqualsReference service dataset policy plan := by
  have hplanned := service.planned_of_plan hplan
  refine ⟨fun row hrow => service.exists_routedTo hplanned hrow, ?_, ?_, ?_⟩
  · intro failures
    exact ⟨_, _, 1, Completion.in_order policy plan, rfl⟩
  · intro failures hundisturbed hsums htogether outcome hexec
    exact service.executes_succeeded hplanned hundisturbed hsums htogether hexec
  · intro failures result reference hexec hstatus href
    obtain ⟨merged, hmerged, hsummary⟩ := service.succeeded_summarizes hplanned hexec hstatus
    have hreference := service.referenceReduce_summarizes href
    exact ⟨merged, hmerged,
      service.sameReduction_of_summarizes hsummary hreference dataset.uniqueRefs hsep,
      hsummary.sampled_eq service dataset.uniqueRefs hsep⟩

/-- What the demonstration service digests, told apart by the fields that differ. -/
def demoDigest : Content → String
  | .sample rowRef seed _ =>
    if seed = 1 then
      if rowRef = "row-1" then "6ca75b4afc4f00a750dc507f0211f5d2dbd1f3ab35d1a178893f55055f043a59"
      else "b5b9d9c4d5ac5b0f02b85e8037e05416edb167a9f92b179885898c030d9abb51"
    else
      if rowRef = "row-1" then "7e0ddce5652893689dedf9be08df7714d1c15ad2472b121d7118c54415b45e55"
      else "4cf065bebbd7e90a0c1106ce19ab2e0fb52b3cb7ebf4422475abafff2f237d11"
  | .record row => row.rowRef
  | .recordDigests digests => String.intercalate "," digests
  | .partition _ _ index _ _ _ => toString index
  | .candidatePair _ _ _ _ left right => left ++ "," ++ right
  | .mergedOutput content => String.intercalate "," content.sampledRecordRefs
  | _ => "0"

/-- A service with SHA-256 tabulated at the routing keys of the demonstration rows. -/
def demoService : ScaleService where
  digest := demoDigest
  sha256 text := ([
    ("0:customer-1", "de56dafa7903ac88509b0ff03d5a6419a35fe6903517201f3177e70c46b76b0d"),
    ("0:customer-2", "79a07bef1e526457847605a6d1aed5465346c56450929b303b624ee7b07b340b"),
    ("1:customer-1", "5c7f8cc13df9eb66a3bf733a6d3d1d6d732309987e942452ca4d3f42746c4e09"),
    ("1:customer-2", "c01317ac34d7afce12c9ad8b07433ddf1fe1a5b6043c39c1cbb9d40d12f4ba63")].lookup
      text).getD ""
  rowBytes _ := 300
  maxMeanRatio _ := 1
  lower := id
  upper := id

/-- An order line of a customer, blocked by the customer and by a telephone number. -/
def demoRow (ref customer : String) (measure : Dec) : ScaleInputRow where
  rowRef := ref
  tableId := "orders"
  schemaFingerprint := "schema-orders-v1"
  partitionKey := customer
  groupKey := none
  blockKey := some customer
  blockingKeys := ["phone-7", customer]
  measure := some measure
  profileValues := []
  canonicalEntityId := some customer
  sourceRecordRefs := [ref]
  factGrainKey := some ref
  warehouseKey := some ref
  dependencyLhs := none
  dependencyRhs := none

/-- Two customers with one telephone number. -/
def demoDataset : ScaleInputDataset where
  descriptor :=
    { scope := ⟨"run", "retail", "snapshot", "orders", "lines", "v1", "input", "profiling",
        "schema-orders-v1"⟩
      contentHash := "0"
      rowCount := 2
      estimatedBytes := none
      artifactRefs := []
      provenanceRefs := [] }
  rows := [demoRow "row-1" "customer-1" ⟨false, 15, -1⟩, demoRow "row-2" "customer-2" ⟨false, 250, -2⟩]
  rowCount := by decide +kernel
  uniqueRefs := by decide +kernel
  scope := by decide +kernel
  partitionKey := by decide +kernel

/-- Three orders of two customers with one telephone number, and measures whose partial sums need 29 digits. -/
def threeRowDataset : ScaleInputDataset where
  descriptor := { demoDataset.descriptor with rowCount := 3 }
  rows := [demoRow "row-1" "customer-1" ⟨false, 1, 28⟩, demoRow "row-2" "customer-2" ⟨false, 1, 0⟩,
    demoRow "row-3" "customer-2" ⟨true, 1, 28⟩]
  rowCount := by decide +kernel
  uniqueRefs := by decide +kernel
  scope := by decide +kernel
  partitionKey := by decide +kernel

/-- Partitioned execution under the given strategy, with two workers. -/
def demoPolicy (strategy : PartitionStrategy) : ScalePolicy where
  policyVersion := "v1"
  localRowThreshold := 0
  maxWorkerSlots := 2
  resourceBudget := { maxWorkerSlots := 2 }
  stageSupport := [("profiling", .partitionSafe)]
  partitionStrategy := some strategy

/-- Evaluates a check of the plan that the demonstration service makes for `count` partitions. -/
def demoPlanned (dataset : ScaleInputDataset) (policy : ScalePolicy) (count : Int)
    (check : PartitionPlan → Bool) : Bool :=
  match demoService.plan dataset policy (some count) none with
  | .ok plan => check plan
  | .error _ => false

variable {dataset : ScaleInputDataset}

theorem demoPlanned_spec {policy : ScalePolicy} {count : Int} {check : PartitionPlan → Bool}
    (h : demoPlanned dataset policy count check = true) :
    ∃ plan, demoService.plan dataset policy (some count) none = .ok plan ∧ check plan = true := by
  unfold demoPlanned at h
  split at h
  · exact ⟨_, by assumption, h⟩
  · simp at h

/-- Evaluates a check of the execution that collects the partitions in order. -/
def demoExecuted (dataset : ScaleInputDataset) (policy : ScalePolicy) (plan : PartitionPlan)
    (check : ScaleExecutionResult → Bool) : Bool :=
  match demoService.execute dataset plan policy [] (ScaleService.queue plan) 1 with
  | .ok result => check result
  | .error _ => false

theorem demoExecuted_spec {policy : ScalePolicy} {plan : PartitionPlan}
    {check : ScaleExecutionResult → Bool} (h : demoExecuted dataset policy plan check = true) :
    ∃ result, Executes demoService dataset plan policy [] (.ok result) ∧ check result = true := by
  unfold demoExecuted at h
  split at h
  · exact ⟨_, ⟨_, 1, Completion.in_order _ plan, by assumption⟩, h⟩
  · simp at h

theorem demo_separates (strategy : PartitionStrategy) :
    demoService.Separates (demoPolicy strategy) demoDataset.rows := by
  cases strategy <;> unfold ScaleService.Separates <;> decide +kernel

theorem partitioned_equals_reference_hash : ∃ plan,
    demoService.plan demoDataset (demoPolicy .hash) (some 2) none = .ok plan ∧
    EqualsReference demoService demoDataset (demoPolicy .hash) plan := by
  obtain ⟨plan, hplan, _⟩ := demoPlanned_spec
    (show demoPlanned demoDataset (demoPolicy .hash) 2 (fun _ => true) = true by decide +kernel)
  exact ⟨plan, hplan, partitioned_equals_reference hplan (demo_separates .hash)⟩

open ScaleService in
/-- Under `BLOCK_KEY` the two customers are routed apart, and the barrier finds the pair of their
common telephone number missing: the undisturbed execution ends `FAILED`. -/
theorem straddling_block_fails : ¬ ∀ (service : ScaleService) (dataset : ScaleInputDataset)
    (policy : ScalePolicy) (partitionCount requestedParallelism : Option Int)
    (plan : PartitionPlan) (failures : List String) (outcome : Except Failure ScaleExecutionResult),
    service.plan dataset policy partitionCount requestedParallelism = .ok plan →
    service.Separates policy dataset.rows → service.Undisturbed dataset plan policy failures →
    Executes service dataset plan policy failures outcome →
    ∃ result, outcome = .ok result ∧ result.status = .succeeded := by
  intro h
  obtain ⟨plan, hplan, hcheck⟩ := demoPlanned_spec (show demoPlanned demoDataset
    (demoPolicy .blockKey) 2 (fun plan => !(plan.skew.status = .skewed && plan.skew.action = .reject)
      && demoExecuted demoDataset (demoPolicy .blockKey) plan fun result =>
        result.status = .failed) = true by decide +kernel)
  simp only [Bool.and_eq_true, Bool.not_eq_true', Bool.and_eq_false_iff, decide_eq_false_iff_not]
    at hcheck
  obtain ⟨hskew, hstatus⟩ := hcheck
  have hpairs : (demoService.candidatePairs demoDataset.descriptor demoDataset.rows 100000).isOk =
      true := by decide +kernel
  have hundisturbed : demoService.Undisturbed demoDataset plan (demoPolicy .blockKey) [] := by
    refine ⟨by simp, ?_, ?_, by decide +kernel, by decide +kernel⟩
    · rintro ⟨h1, h2⟩
      rcases hskew with hs | hs
      · exact hs h1
      · exact hs h2
    · intro _
      change ∃ pairs, demoService.candidatePairs demoDataset.descriptor demoDataset.rows 100000 = _
      cases hp : demoService.candidatePairs demoDataset.descriptor demoDataset.rows 100000 with
      | error failure => simp [hp, Except.isOk, Except.toBool] at hpairs
      | ok pairs => exact ⟨pairs, rfl⟩
  obtain ⟨failed, hexec, hfailed⟩ := demoExecuted_spec hstatus
  obtain ⟨result, hresult, hsucceeded⟩ := h _ _ _ _ _ plan [] _ hplan (demo_separates .blockKey)
    hundisturbed hexec
  cases hresult
  rw [hsucceeded] at hfailed
  exact absurd hfailed (by decide)

/-! ## Completeness of candidate pairs -/

namespace ScaleService

variable {service : ScaleService} {dataset : ScaleInputDataset} {plan : PartitionPlan}
  {policy : ScalePolicy}

variable (service dataset) in
/-- `id` names a pair of distinct records of the dataset that share a blocking key. -/
def NamesPair (id : String) : Prop :=
  ∃ a ∈ dataset.rows, ∃ b ∈ dataset.rows, a.rowRef ≠ b.rowRef ∧ SharesKey a b ∧
    id = service.pairId dataset.descriptor a.rowRef b.rowRef

variable (service dataset) in
/-- Every pair of distinct records that share a blocking key is produced exactly once, and
nothing else is. -/
structure PairsOnce (pairs : List String) : Prop where
  once : ∀ a ∈ dataset.rows, ∀ b ∈ dataset.rows, a.rowRef ≠ b.rowRef → SharesKey a b →
    pairs.count (service.pairId dataset.descriptor a.rowRef b.rowRef) = 1
  only : ∀ id ∈ pairs, service.NamesPair dataset id

theorem pairsOnce_of_mem {pairs : List String} (hnodup : pairs.Nodup)
    (hmem : ∀ id, id ∈ pairs ↔ service.NamesPair dataset id) : service.PairsOnce dataset pairs where
  once a ha b hb hne hshare :=
    count_eq_one_of_mem hnodup ((hmem _).2 ⟨a, ha, b, hb, hne, hshare, rfl⟩)
  only id hid := (hmem id).1 hid

theorem mem_reference_pairs {reference : ScaleMergedOutput}
    (h : service.referenceReduce dataset policy = .ok reference) :
    (∃ xs, reference.candidatePairs = sortedSet xs) ∧
      ∀ id, id ∈ reference.candidatePairs ↔ service.NamesPair dataset id := by
  obtain ⟨outputs, exactSum, hreduces, _, rfl⟩ := service.referenceReduce_spec h
  refine ⟨⟨_, rfl⟩, fun id => ?_⟩
  change id ∈ sortedSet (outputs.flatMap (·.candidatePairs)) ↔ _
  rw [mem_sortedSet, hreduces.mem_candidatePairs service]
  simp [NamesPair]

theorem Reduces.no_pairs {descriptor : ScaleInputDescriptor} {strategy : PartitionStrategy}
    {groups : List (List ScaleInputRow)} {outputs : List ScalePartitionOutput}
    (h : service.Reduces descriptor policy strategy groups outputs) (hs : strategy ≠ .blockKey) :
    outputs.flatMap (·.candidatePairs) = [] := by
  induction h with
  | nil => rfl
  | cons hhead _ ih =>
    obtain ⟨exactSum, pairs, _, hpairs, rfl⟩ := (service.outputForRows_eq_ok).1 hhead
    rw [pairsFor, if_neg hs] at hpairs
    cases hpairs
    rw [flatMap_cons, ih]
    rfl

end ScaleService

open ScaleService in
/-- **Candidate pairs are complete exactly under `BLOCK_KEY`**, or where there are none. -/
theorem candidate_pairs_complete {service : ScaleService} {dataset : ScaleInputDataset}
    {policy : ScalePolicy} {plan : PartitionPlan} {failures : List String}
    {result : ScaleExecutionResult} {reference : ScaleMergedOutput}
    (hexec : Executes service dataset plan policy failures (.ok result))
    (hstatus : result.status = .succeeded)
    (href : service.referenceReduce dataset policy = .ok reference) :
    (∃ merged, result.mergedOutput = some merged ∧
      merged.candidatePairs = reference.candidatePairs ∧
      service.PairsOnce dataset merged.candidatePairs) ↔ plan.strategy = .blockKey ∨
      ∀ a ∈ dataset.rows, ∀ b ∈ dataset.rows, SharesKey a b → a.rowRef = b.rowRef := by
  obtain ⟨groups, outputs, exactSum, hall, _, hmerged, hcloses⟩ := service.succeeded_spec hexec hstatus
  obtain ⟨⟨ys, hys⟩, hreference⟩ := mem_reference_pairs href
  constructor
  · rintro ⟨merged, hsome, _, honce⟩
    rw [hmerged, some.injEq] at hsome
    subst hsome
    by_contra hneither
    simp only [not_or, not_forall] at hneither
    obtain ⟨hs, a, ha, b, hb, hshare, hne⟩ := hneither
    have hcount := honce.once a ha b hb hne hshare
    change (sortedSet (outputs.flatMap (·.candidatePairs))).count _ = 1 at hcount
    rw [hall.reduces.no_pairs hs] at hcount
    simp [sortedSet, sorted] at hcount
  · intro hcomplete
    have hmem : ∀ id, id ∈ sortedSet (outputs.flatMap (·.candidatePairs)) ↔
        service.NamesPair dataset id := by
      intro id
      by_cases hs : plan.strategy = .blockKey
      · obtain ⟨pairs, hpairs, hsame⟩ := hcloses.covered hs
        have hiff : id ∈ sortedSet (sortedSet (outputs.flatMap (·.candidatePairs))) ↔
            id ∈ sortedSet pairs := iff_of_eq (congrArg (id ∈ ·) hsame)
        rw [mem_sortedSet, mem_sortedSet, mem_sortedSet] at hiff
        rw [mem_sortedSet]
        exact hiff.trans (service.mem_candidatePairs hpairs)
      · have hshare := hcomplete.resolve_left hs
        rw [mem_sortedSet, hall.reduces.no_pairs hs]
        refine ⟨fun h => absurd h (by simp), ?_⟩
        rintro ⟨a, ha, b, hb, hne, hkey, _⟩
        exact absurd (hshare a ha b hb hkey) hne
    refine ⟨_, hmerged, ?_, pairsOnce_of_mem (nodup_sortedSet _) hmem⟩
    change sortedSet (outputs.flatMap (·.candidatePairs)) = reference.candidatePairs
    rw [hys] at hreference ⊢
    refine sortedSet_eq fun id => ?_
    have hleft := hmem id
    have hright := hreference id
    rw [mem_sortedSet] at hleft hright
    exact hleft.trans hright.symm

def demoReference (strategy : PartitionStrategy) : Option ScaleMergedOutput :=
  (demoService.referenceReduce demoDataset (demoPolicy strategy)).toOption

theorem demoReference_spec {strategy : PartitionStrategy} {reference : ScaleMergedOutput}
    (h : demoReference strategy = some reference) :
    demoService.referenceReduce demoDataset (demoPolicy strategy) = .ok reference := by
  unfold demoReference at h
  cases href : demoService.referenceReduce demoDataset (demoPolicy strategy) with
  | error failure => simp [href, Except.toOption] at h
  | ok output => simpa [href, Except.toOption] using h

open ScaleService in
theorem candidate_pairs_complete_blocked : ∃ plan result reference,
    Executes demoService demoDataset plan (demoPolicy .blockKey) [] (.ok result) ∧
    demoService.referenceReduce demoDataset (demoPolicy .blockKey) = .ok reference ∧
    plan.strategy = .blockKey ∧ ∃ merged, result.mergedOutput = some merged ∧
      merged.candidatePairs = reference.candidatePairs ∧
      demoService.PairsOnce demoDataset merged.candidatePairs := by
  obtain ⟨plan, _, hcheck⟩ := demoPlanned_spec (show demoPlanned demoDataset
    (demoPolicy .blockKey) 1 (fun plan => plan.strategy = .blockKey &&
      demoExecuted demoDataset (demoPolicy .blockKey) plan fun result =>
        result.status = .succeeded) = true by decide +kernel)
  simp only [Bool.and_eq_true, decide_eq_true_eq] at hcheck
  obtain ⟨result, hexec, hstatus⟩ := demoExecuted_spec hcheck.2
  obtain ⟨reference, href⟩ := isSome_iff_exists.1
    (show (demoReference .blockKey).isSome = true by decide +kernel)
  exact ⟨plan, result, reference, hexec, demoReference_spec href, hcheck.1,
    (candidate_pairs_complete hexec (of_decide_eq_true hstatus) (demoReference_spec href)).2
      (.inl hcheck.1)⟩

open ScaleService in
/-- Under `HASH` the two customers with one telephone number are no candidate pair. -/
theorem candidate_pairs_dropped : ¬ ∀ (service : ScaleService) (dataset : ScaleInputDataset)
    (policy : ScalePolicy) (partitionCount requestedParallelism : Option Int)
    (plan : PartitionPlan) (failures : List String) (result : ScaleExecutionResult)
    (reference : ScaleMergedOutput),
    service.plan dataset policy partitionCount requestedParallelism = .ok plan →
    Executes service dataset plan policy failures (.ok result) → result.status = .succeeded →
    service.referenceReduce dataset policy = .ok reference →
    ∃ merged, result.mergedOutput = some merged ∧ merged.candidatePairs = reference.candidatePairs ∧
      service.PairsOnce dataset merged.candidatePairs := by
  intro h
  obtain ⟨plan, hplan, hcheck⟩ := demoPlanned_spec (show demoPlanned demoDataset
    (demoPolicy .hash) 2 (fun plan => demoExecuted demoDataset (demoPolicy .hash) plan fun result =>
      result.status = .succeeded && result.mergedOutput.map (·.candidatePairs) ≠
        (demoReference .hash).map (·.candidatePairs)) = true by decide +kernel)
  obtain ⟨result, hexec, hdiffer⟩ := demoExecuted_spec hcheck
  obtain ⟨reference, href⟩ := isSome_iff_exists.1
    (show (demoReference .hash).isSome = true by decide +kernel)
  simp only [Bool.and_eq_true, decide_eq_true_eq, href] at hdiffer
  obtain ⟨merged, hmerged, hsame, _⟩ := h _ _ _ _ _ plan [] result reference hplan hexec hdiffer.1
    (demoReference_spec href)
  exact hdiffer.2 (by rw [hmerged, map_some, map_some, hsame])

end DirtyDataOlap.Scale

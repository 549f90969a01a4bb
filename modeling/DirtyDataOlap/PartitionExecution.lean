import DirtyDataOlap.CandidatePairs

/-!
# Executions of a plan

A partition result depends on its partition alone, and the merge barrier selects the results by
partition identity: what an execution returns is a function of them, but for the failure it reports.
-/
namespace DirtyDataOlap.Scale.ScaleService

open List Except

variable (service : ScaleService) {dataset : ScaleInputDataset} {plan : PartitionPlan}
  {policy : ScalePolicy}

/-! ## Results of single partitions -/

variable (dataset plan policy) in
/-- The result of a partition under a set of injected failures. -/
def resultOf (failures : List String) (partition : PartitionDescriptor) : PartitionResult :=
  service.runPartition dataset plan policy partition (partition.partitionId ∈ failures)

variable (dataset plan policy) in
/-- The partition's worker reduced its rows to `output`. -/
structure Reduced (failures : List String) (partition : PartitionDescriptor)
    (rows : List ScaleInputRow) (output : ScalePartitionOutput) : Prop where
  selects : service.workerRows dataset plan policy partition = .ok rows
  digest : service.rowsDigest rows = partition.expectedRowDigest
  count : rows.length = partition.expectedRowCount
  input : dataset.descriptor.contentHash = plan.inputContentHash
  notInjected : partition.partitionId ∉ failures
  reduces : service.outputForRows rows dataset.descriptor policy plan.strategy = .ok output

variable {failures : List String} {partition : PartitionDescriptor} {rows : List ScaleInputRow}
  {output : ScalePartitionOutput} {order : List PartitionDescriptor}
  {groups : List (List ScaleInputRow)} {selected : List PartitionResult}
  {merged : ScaleMergedOutput}

variable (h : service.Reduced dataset plan policy failures partition rows output)

include h in
theorem tryPartition_eq :
    service.tryPartition dataset plan policy partition (partition.partitionId ∈ failures) =
      .ok (service.succeededResult dataset plan policy partition rows output) := by
  simp [tryPartition, h.selects, h.digest, h.count, h.input, h.notInjected, h.reduces, bind,
    Except.bind, pure, Except.pure]

include h in
theorem resultOf_eq :
    service.resultOf dataset plan policy failures partition =
      service.succeededResult dataset plan policy partition rows output := by
  rw [resultOf, runPartition, service.tryPartition_eq h]

/-- **Inversion.** A partition succeeds only by reducing the rows its plan recorded. -/
theorem reduced_of_succeeded
    (h : (service.resultOf dataset plan policy failures partition).status = .succeeded) :
    ∃ rows output, service.Reduced dataset plan policy failures partition rows output := by
  unfold resultOf runPartition at h
  split at h
  · rename_i result htry
    simp only [tryPartition, bind_eq_ok] at htry
    obtain ⟨rows, hrows, htry⟩ := htry
    split at htry
    · simp only [pure, Except.pure, Except.ok.injEq] at htry
      subst htry
      simp [failedResult] at h
    · rename_i hfresh
      simp only [not_or, not_not] at hfresh
      split at htry
      · simp [throw, throwThe, MonadExceptOf.throw, bind, Except.bind] at htry
      · rename_i hinjected
        simp only [bind, Except.bind, pure, Except.pure] at htry
        cases hout : service.outputForRows rows dataset.descriptor policy plan.strategy with
        | error failure => simp [hout] at htry
        | ok output =>
          exact ⟨rows, output, hrows, hfresh.1, hfresh.2.1, hfresh.2.2, by simpa using hinjected,
            hout⟩
  · simp [failedResult] at h
  · simp [failedResult] at h

variable (failures partition) in
theorem resultOf_partitionId :
    (service.resultOf dataset plan policy failures partition).partitionId =
      partition.partitionId := by
  by_cases h : (service.resultOf dataset plan policy failures partition).status = .succeeded
  · obtain ⟨rows, output, hr⟩ := service.reduced_of_succeeded h
    rw [service.resultOf_eq hr]
    rfl
  · unfold resultOf runPartition at h ⊢
    split
    · rename_i result htry
      simp only [htry] at h
      simp only [tryPartition, bind_eq_ok] at htry
      obtain ⟨rows, hrows, htry⟩ := htry
      split at htry
      · simp only [pure, Except.pure, Except.ok.injEq] at htry
        subst htry
        rfl
      · split at htry
        · simp [throw, throwThe, MonadExceptOf.throw, bind, Except.bind] at htry
        · simp only [bind, Except.bind, pure, Except.pure] at htry
          split at htry
          · simp at htry
          · simp only [Except.ok.injEq] at htry
            subst htry
            rfl
    · rfl
    · rfl

include h in
theorem validateResult_ok :
    service.validateResult dataset plan policy partition
      (service.resultOf dataset plan policy failures partition) = .ok () := by
  rw [service.resultOf_eq h]
  simp [validateResult, succeededResult, validatorRows_eq, h.selects, h.reduces, bind, Except.bind,
    pure, Except.pure]

/-! ## The barrier -/

/-- The partitions of a plan in the order of their identities. -/
def queue (plan : PartitionPlan) : List PartitionDescriptor :=
  sortedBy (·.partitionId) plan.partitions

theorem mem_queue : partition ∈ queue plan ↔ partition ∈ plan.partitions := mem_sortedBy

theorem eq_of_partitionId {p q : PartitionDescriptor} (hp : p ∈ plan.partitions)
    (hq : q ∈ plan.partitions) (h : p.partitionId = q.partitionId) : p = q :=
  inj_on_of_nodup_map plan.nodup_ids hp hq h

theorem grouped_eq (horder : order.Perm plan.partitions) (hp : partition ∈ plan.partitions) :
    grouped (order.map (service.resultOf dataset plan policy failures)) partition.partitionId =
      [service.resultOf dataset plan policy failures partition] := by
  have hfilter : order.filter (fun p => p.partitionId = partition.partitionId) = [partition] := by
    have hperm : (order.filter fun p => p.partitionId = partition.partitionId).Perm
        (plan.partitions.filter fun p => p.partitionId = partition.partitionId) := horder.filter _
    have hone : (plan.partitions.filter fun p => p.partitionId = partition.partitionId) =
        plan.partitions.filter fun p => p = partition := by
      apply filter_congr
      intro p hp'
      simp only [decide_eq_decide]
      exact ⟨fun h => eq_of_partitionId hp' hp h, fun h => by rw [h]⟩
    have hnodup : plan.partitions.Nodup := List.Nodup.of_map _ plan.nodup_ids
    have hsingle : (plan.partitions.filter fun p => p = partition) = [partition] := by
      have := filter_eq (l := plan.partitions) partition
      rw [this, count_eq_one_of_mem hnodup hp]
      rfl
    rw [hone, hsingle] at hperm
    exact perm_singleton.1 hperm
  rw [grouped, filter_map, Function.comp_def]
  simp only [resultOf_partitionId]
  rw [hfilter]
  rfl

theorem resultOf_ids (order : List PartitionDescriptor) :
    (order.map (service.resultOf dataset plan policy failures)).map (·.partitionId) =
      order.map (·.partitionId) := by
  rw [map_map]
  exact map_congr_left fun p _ => service.resultOf_partitionId failures p

/-- **The barrier does not see the order of completion.** -/
theorem merge_eq (horder : order.Perm plan.partitions) (hok : ∀ p ∈ plan.partitions,
      (service.resultOf dataset plan policy failures p).status = .succeeded) :
    service.merge dataset plan policy (order.map (service.resultOf dataset plan policy failures)) =
      service.mergeSelected dataset plan policy
        ((queue plan).map (service.resultOf dataset plan policy failures)) := by
  have hmem : ∀ id, id ∈ order.map (·.partitionId) ↔ id ∈ plan.expectedPartitionIds := by
    intro id
    rw [← plan.closure.1]
    exact (horder.map _).mem_iff
  have hmissing : plan.expectedPartitionIds.filter (· ∉ order.map (·.partitionId)) = [] := by
    rw [filter_eq_nil_iff]
    intro id hid
    simpa using (hmem id).2 hid
  have hunexpected : (order.map (·.partitionId)).filter (· ∉ plan.expectedPartitionIds) = [] := by
    rw [filter_eq_nil_iff]
    intro id hid
    simpa using (hmem id).1 hid
  have hselected : (sorted plan.expectedPartitionIds).mapM (service.selectResult
      (order.map (service.resultOf dataset plan policy failures))) =
      .ok ((queue plan).map (service.resultOf dataset plan policy failures)) := by
    rw [← plan.closure.1, sorted_map_key, ← queue, mapM_eq_ok, forall₂_map_left_iff,
      forall₂_map_right_iff, forall₂_same]
    intro p hp
    simp only [selectResult, service.grouped_eq horder (mem_queue.1 hp)]
    simp
  have hvalid : (plan.partitions.forM fun partition => do
      let result ← resultFor ((queue plan).map (service.resultOf dataset plan policy failures))
        partition.partitionId
      service.validateResult dataset plan policy partition result) = ok () := by
    rw [forM_eq_ok]
    intro p hp
    have hfind : ((queue plan).map (service.resultOf dataset plan policy failures)).find?
        (fun result => result.partitionId = p.partitionId) =
        some (service.resultOf dataset plan policy failures p) := by
      rw [← head?_filter]
      change (grouped _ _).head? = _
      rw [queue, service.grouped_eq (sortedBy_perm _ _) hp]
      rfl
    obtain ⟨rows, output, hr⟩ := service.reduced_of_succeeded (hok p hp)
    simp only [resultFor, hfind, bind, Except.bind]
    exact service.validateResult_ok hr
  simp only [merge, service.resultOf_ids, hmissing, hunexpected, hselected]
  simp only [bind, Except.bind] at hvalid ⊢
  rw [hvalid]
  simp [sortedSet, sorted]

variable (dataset plan policy failures groups) in
/-- The rows and the output of every partition, in the order of their identities. -/
structure AllReduced (outputs : List ScalePartitionOutput) : Prop where
  rows : Forall₂ (fun p rows => service.workerRows dataset plan policy p = .ok rows)
    (queue plan) groups
  reduces : service.Reduces dataset.descriptor policy plan.strategy groups outputs
  selected : ((queue plan).map (service.resultOf dataset plan policy failures)).filterMap
    (·.output) = outputs

theorem allReduced_of_succeeded (hok : ∀ p ∈ plan.partitions,
      (service.resultOf dataset plan policy failures p).status = .succeeded) :
    ∃ groups outputs, service.AllReduced dataset plan policy failures groups outputs := by
  have hall : ∀ parts : List PartitionDescriptor, (∀ p ∈ parts, p ∈ plan.partitions) →
      ∃ groups outputs,
        Forall₂ (fun p rows => service.workerRows dataset plan policy p = .ok rows)
          parts groups ∧
        service.Reduces dataset.descriptor policy plan.strategy groups outputs ∧
        (parts.map (service.resultOf dataset plan policy failures)).filterMap (·.output) =
          outputs := by
    intro parts hparts
    induction parts with
    | nil => exact ⟨[], [], .nil, .nil, rfl⟩
    | cons p parts ih =>
      obtain ⟨groups, outputs, hrows, hreduces, hselected⟩ := ih fun q hq => hparts q (by simp [hq])
      obtain ⟨rows, output, hr⟩ := service.reduced_of_succeeded (hok p (hparts p (by simp)))
      refine ⟨rows :: groups, output :: outputs, .cons hr.selects hrows, .cons hr.reduces hreduces, ?_⟩
      rw [map_cons, service.resultOf_eq hr, filterMap_cons, hselected]
      rfl
  obtain ⟨groups, outputs, h⟩ := hall (queue plan) fun p hp => mem_queue.1 hp
  exact ⟨groups, outputs, h.1, h.2.1, h.2.2⟩

theorem flatten_perm_of_rows (hstrategy : plan.strategy ≠ .existingStagedPart)
    (hnumbered : plan.partitions.map (·.logicalPartitionIndex) = range plan.partitionCount)
    (h : Forall₂ (fun p rows => service.workerRows dataset plan policy p = .ok rows)
      (queue plan) groups) : groups.flatten.Perm dataset.rows := by
  have hgroups : groups = fibres (service.routeOf plan.strategy policy.rangeBoundaries
      plan.deterministicSeed plan.partitionCount) ((queue plan).map (·.logicalPartitionIndex))
      dataset.rows := by
    rw [fibres, map_map]
    have := map_eq_of_forall₂ h (fun p : PartitionDescriptor => dataset.rows.filter fun row =>
      service.routeOf plan.strategy policy.rangeBoundaries plan.deterministicSeed
        plan.partitionCount row = p.logicalPartitionIndex) id ?_
    · simpa [Function.comp_def] using this
    · intro p rows hp
      rw [service.workerRows_eq hstrategy] at hp
      exact (ok.inj hp).symm
  have hindices : ((queue plan).map (·.logicalPartitionIndex)).Perm
      (range plan.partitionCount) := by
    rw [← hnumbered]
    exact (sortedBy_perm _ _).map _
  rw [hgroups]
  apply fibres_flatten_perm
  · exact hindices.nodup_iff.2 nodup_range
  · intro row _
    rw [hindices.mem_iff, mem_range]
    exact service.routeOf_lt plan.count row

theorem AllReduced.flatten_perm {outputs : List ScalePartitionOutput}
    (h : service.AllReduced dataset plan policy failures groups outputs)
    (hplan : service.Planned dataset policy plan) : groups.flatten.Perm dataset.rows :=
  service.flatten_perm_of_rows hplan.strategy hplan.indices h.rows

/-! ## Merging and the outcome -/

variable (dataset plan policy merged) in
/-- What the barrier checks of a merged output. -/
structure Closes : Prop where
  emitted : merged.emittedRecordCount = dataset.descriptor.rowCount
  refs : sortedSet merged.recordRefs = sortedSet (dataset.rows.map (·.rowRef))
  covered : plan.strategy = .blockKey → ∃ pairs,
    service.candidatePairs dataset.descriptor dataset.rows policy.maxJoinPairs = .ok pairs ∧
    sortedSet merged.candidatePairs = sortedSet pairs

theorem mergeSelected_ok
    (hmerge : service.mergeOutputs dataset.descriptor policy (selected.filterMap (·.output)) =
      .ok merged) (hcloses : service.Closes dataset plan policy merged) :
    ∃ manifest, service.mergeSelected dataset plan policy selected = .ok (merged, manifest) := by
  have hpass : ¬ (merged.emittedRecordCount ≠ dataset.descriptor.rowCount ∨
      sortedSet merged.recordRefs ≠ sortedSet (dataset.rows.map (·.rowRef))) := by
    simp [hcloses.emitted, hcloses.refs]
  simp only [mergeSelected, hmerge, bind, Except.bind, if_neg hpass]
  by_cases hblock : plan.strategy = .blockKey
  · obtain ⟨pairs, hpairs, hsame⟩ := hcloses.covered hblock
    simp [hblock, hpairs, hsame, pure, Except.pure]
  · simp [hblock, pure, Except.pure]

theorem mergeSelected_spec {manifest : PartitionMergeManifest}
    (h : service.mergeSelected dataset plan policy selected = .ok (merged, manifest)) :
    service.mergeOutputs dataset.descriptor policy (selected.filterMap (·.output)) = .ok merged ∧
      service.Closes dataset plan policy merged := by
  simp only [mergeSelected, bind_eq_ok] at h
  obtain ⟨merged', hmerge, h⟩ := h
  split at h
  · simp [throw, throwThe, MonadExceptOf.throw, bind, Except.bind] at h
  rename_i hpass
  simp only [not_or, not_not] at hpass
  by_cases hblock : plan.strategy = .blockKey
  · simp only [hblock, if_true, bind_eq_ok] at h
    obtain ⟨pairs, hpairs, h⟩ := h
    split at h
    · simp [throw, throwThe, MonadExceptOf.throw, bind, Except.bind] at h
    rename_i hsame
    simp only [pure, Except.pure, Except.ok.injEq, Prod.mk.injEq] at h
    obtain ⟨rfl, _⟩ := h
    exact ⟨hmerge, hpass.1, hpass.2, fun _ => ⟨pairs, hpairs, not_not.1 hsame⟩⟩
  · simp only [hblock, if_false, pure, Except.pure, Except.ok.injEq, Prod.mk.injEq] at h
    obtain ⟨rfl, _⟩ := h
    exact ⟨hmerge, hpass.1, hpass.2, fun hb => absurd hb hblock⟩

variable (dataset plan) in
structure Admitted : Prop where
  input : dataset.descriptor.contentHash = plan.inputContentHash
  runId : plan.scope.runId = dataset.descriptor.scope.runId
  schema : plan.scope.schemaFingerprint = dataset.descriptor.scope.schemaFingerprint
  skew : ¬ (plan.skew.status = .skewed ∧ plan.skew.action = .reject)

theorem execute_eq (h : Admitted dataset plan) (order : List PartitionDescriptor) (observed : Nat) :
    service.execute dataset plan policy failures order observed =
      service.finishExecution dataset plan policy observed
        (order.map (service.resultOf dataset plan policy failures)) := by
  simp only [execute, h.input, h.runId, h.schema, h.skew, ne_eq, not_true_eq_false, or_self, if_false]
  rfl

theorem filter_failed_eq_nil (horder : order.Perm plan.partitions) :
    ((order.map (service.resultOf dataset plan policy failures)).filter fun result =>
      result.status ≠ .succeeded) = [] ↔ ∀ p ∈ plan.partitions,
        (service.resultOf dataset plan policy failures p).status = .succeeded := by
  simp only [filter_eq_nil_iff, mem_map, forall_exists_index, and_imp,
    forall_apply_eq_imp_iff₂, decide_not, Bool.not_eq_true', decide_eq_false_iff_not, not_not]
  exact ⟨fun h p hp => h p (horder.mem_iff.2 hp), fun h p hp => h p (horder.mem_iff.1 hp)⟩

/-- **A successful execution** has reduced every partition and merged the outputs. -/
theorem succeeded_spec {result : ScaleExecutionResult}
    (h : Executes service dataset plan policy failures (.ok result))
    (hstatus : result.status = .succeeded) :
    ∃ groups outputs exactSum, service.AllReduced dataset plan policy failures groups outputs ∧
      sumMeasures (outputs.map (·.exactMeasureSum)) = .ok exactSum ∧
      result.mergedOutput = some (service.mergedOutput dataset.descriptor policy outputs exactSum) ∧
      service.Closes dataset plan policy
        (service.mergedOutput dataset.descriptor policy outputs exactSum) := by
  obtain ⟨order, observed, hcompletion, hexec⟩ := h
  have horder := hcompletion.perm
  unfold execute at hexec
  split at hexec
  · simp at hexec
  split at hexec
  · simp at hexec
  split at hexec
  · simp only [ok.injEq] at hexec
    subst hexec
    simp [executionResult] at hstatus
  change service.finishExecution dataset plan policy observed
    (order.map (service.resultOf dataset plan policy failures)) = _ at hexec
  unfold finishExecution at hexec
  split at hexec
  · simp only [ok.injEq] at hexec
    subst hexec
    simp [executionResult] at hstatus
  rename_i hnone
  have hok := (service.filter_failed_eq_nil horder).1 hnone
  obtain ⟨groups, outputs, hall⟩ := service.allReduced_of_succeeded hok
  rw [service.merge_eq horder hok] at hexec
  split at hexec
  · rename_i merged manifest hmerge
    simp only [ok.injEq] at hexec
    subst hexec
    obtain ⟨hout, hcloses⟩ := service.mergeSelected_spec hmerge
    rw [hall.selected] at hout
    obtain ⟨_, _, exactSum, hsum, rfl⟩ := (service.mergeOutputs_eq_ok).1 hout
    exact ⟨groups, outputs, exactSum, hall, hsum, rfl, hcloses⟩
  · simp only [ok.injEq] at hexec
    subst hexec
    simp [executionResult] at hstatus
  · simp at hexec

theorem referenceReduce_spec {reference : ScaleMergedOutput}
    (h : service.referenceReduce dataset policy = .ok reference) : ∃ outputs exactSum,
      service.Reduces dataset.descriptor policy .blockKey [dataset.rows] outputs ∧
      sumMeasures (outputs.map (·.exactMeasureSum)) = .ok exactSum ∧
      reference = service.mergedOutput dataset.descriptor policy outputs exactSum := by
  obtain ⟨output, hout, hmerge⟩ := bind_eq_ok.1 h
  obtain ⟨_, _, exactSum, hsum, rfl⟩ := (service.mergeOutputs_eq_ok).1 hmerge
  exact ⟨[output], exactSum, .cons hout .nil, hsum, rfl⟩

end DirtyDataOlap.Scale.ScaleService

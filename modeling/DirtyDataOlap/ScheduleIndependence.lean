import DirtyDataOlap.PartitionEquivalence

/-!
# Independence of the schedule

Everything `execute` returns is computed from its partition results as a set, with two exceptions
that the schedule shows through: the failure it reports is that of the first result collected, and
an exception of the merge barrier other than `PartitionMergeError` escapes from it.
-/
namespace DirtyDataOlap.Scale

open List

namespace ScaleService

variable {service : ScaleService} {dataset : ScaleInputDataset} {plan : PartitionPlan}
  {policy : ScalePolicy} {failures : List String}

section Unordered

variable {results results' : List PartitionResult} (hp : results.Perm results')
  (hids : (results.map (·.partitionId)).Nodup)

include hp hids

theorem grouped_perm (pid : String) : grouped results pid = grouped results' pid := by
  have hperm : (grouped results pid).Perm (grouped results' pid) := hp.filter _
  have hcount : (grouped results pid).length = (results.map (·.partitionId)).count pid := by
    rw [grouped, ← countP_eq_length_filter, List.count, countP_map]
    rfl
  have hlen := nodup_iff_count_le_one.1 hids pid
  rw [← hcount] at hlen
  rcases hg : grouped results pid with _ | ⟨result, _ | ⟨_, _⟩⟩
  · rw [hg] at hperm
    exact hperm.nil_eq
  · rw [hg] at hperm
    exact singleton_perm.1 hperm
  · rw [hg] at hlen
    simp at hlen

theorem incompleteManifest_perm (plan : PartitionPlan) (status : ScaleExecutionStatus)
    (reason : Option String) : service.incompleteManifest plan results status reason =
      service.incompleteManifest plan results' status reason := by
  have hset : sortedSet (results.map (·.partitionId)) = sortedSet (results'.map (·.partitionId)) :=
    sortedSet_eq_of_perm (hp.map _)
  have hgroup : grouped results = grouped results' := funext (grouped_perm hp hids)
  have hcount : ((results.filter fun result => result.status = .succeeded).map (·.recordCount)).sum =
      ((results'.filter fun result => result.status = .succeeded).map (·.recordCount)).sum :=
    ((hp.filter _).map _).sum_eq
  simp only [incompleteManifest, hset, hgroup, hcount]

omit hids in
theorem failedExecutionId_perm (plan : PartitionPlan) :
    service.failedExecutionId plan results = service.failedExecutionId plan results' := by
  rw [failedExecutionId, failedExecutionId, sorted_eq_of_perm (hp.map _)]

theorem executionResult_perm (plan : PartitionPlan) (observed : Nat) (executionId : String)
    (status : ScaleExecutionStatus) (manifest : PartitionMergeManifest) :
    executionResult plan results observed executionId status manifest =
      executionResult plan results' observed executionId status manifest := by
  have hsort : sortedBy (·.partitionId) results = sortedBy (·.partitionId) results' :=
    sortedBy_eq_of_perm hp fun a ha b hb h => inj_on_of_nodup_map hids ha hb h
  have hpeak : peakMemory results = peakMemory results' := by
    exact (hp.map _).foldl_eq' (fun x _ y _ z => by omega) 0
  simp only [executionResult, hsort, hpeak]

end Unordered

/-! ## Exceptions of the barrier -/

variable (service dataset plan policy) in
/-- The sum of the partition sums overflows, or the pairs of the whole dataset exceed the bound of
the policy. -/
def BarrierRaises (outputs : List ScalePartitionOutput) : Prop :=
  (outputs.flatMap (·.factGrainKeys)).Nodup ∧ (outputs.flatMap (·.warehouseKeys)).Nodup ∧
  (sumMeasures (outputs.map (·.exactMeasureSum)) = .error .overflow ∨
    (∃ total, sumMeasures (outputs.map (·.exactMeasureSum)) = .ok total) ∧
    (sortedSet (outputs.flatMap (·.recordRefs))).length = dataset.descriptor.rowCount ∧
    sortedSet (outputs.flatMap (·.recordRefs)) = sortedSet (dataset.rows.map (·.rowRef)) ∧
    plan.strategy = .blockKey ∧
    ∀ pairs, service.candidatePairs dataset.descriptor dataset.rows policy.maxJoinPairs ≠ .ok pairs)

theorem sumMeasures_error {measures : List Dec} {failure : Failure}
    (h : sumMeasures measures = .error failure) : failure = .overflow := by
  unfold sumMeasures at h
  split at h
  · simp at h
  · exact (Except.error.inj h).symm

variable {descriptor : ScaleInputDescriptor} {outputs : List ScalePartitionOutput}
  {order : List PartitionDescriptor}

/-- The reduction of the outputs raises `PartitionMergeError` for repeated keys, and otherwise only
the overflow of the decimal context. -/
theorem mergeOutputs_error {failure : Failure}
    (h : service.mergeOutputs descriptor policy outputs = .error failure) :
    (∃ text, failure = .merge text) ∨ failure = .overflow ∧
      (outputs.flatMap (·.factGrainKeys)).Nodup ∧ (outputs.flatMap (·.warehouseKeys)).Nodup ∧
      sumMeasures (outputs.map (·.exactMeasureSum)) = .error .overflow := by
  simp only [mergeOutputs, length_sum_eq, ne_eq, length_sortedSet] at h
  split at h
  · simp only [throw, throwThe, MonadExceptOf.throw, bind, Except.bind, Except.error.injEq] at h
    exact .inl ⟨_, h.symm⟩
  rename_i hfact
  split at h
  · simp only [throw, throwThe, MonadExceptOf.throw, bind, Except.bind, Except.error.injEq] at h
    exact .inl ⟨_, h.symm⟩
  rename_i hware
  cases hsum : sumMeasures (outputs.map (·.exactMeasureSum)) with
  | error failure' =>
    simp only [hsum, bind, Except.bind, Except.error.injEq] at h
    have hover := sumMeasures_error hsum
    exact .inr ⟨h ▸ hover, not_not.1 hfact, not_not.1 hware, by rw [hover]⟩
  | ok total => simp [hsum, bind, Except.bind, pure, Except.pure] at h

theorem mergeOutputs_overflow (hfact : (outputs.flatMap (·.factGrainKeys)).Nodup)
    (hware : (outputs.flatMap (·.warehouseKeys)).Nodup)
    (hsum : sumMeasures (outputs.map (·.exactMeasureSum)) = .error .overflow) :
    service.mergeOutputs descriptor policy outputs = .error .overflow := by
  cases h : service.mergeOutputs descriptor policy outputs with
  | ok merged =>
    obtain ⟨_, _, total, htotal, _⟩ := (service.mergeOutputs_eq_ok).1 h
    rw [hsum] at htotal
    simp at htotal
  | error failure =>
    simp only [mergeOutputs, length_sum_eq, ne_eq, length_sortedSet, hfact, hware, hsum,
      not_true_eq_false, if_false, bind, Except.bind] at h
    exact h.symm

/-- **What escapes from the barrier**: an exception exactly where the outputs make it raise one. -/
theorem mergeSelected_escapes {selected : List PartitionResult}
    {outputs : List ScalePartitionOutput} (hout : selected.filterMap (·.output) = outputs) :
    (∃ failure, service.mergeSelected dataset plan policy selected = .error failure ∧
      ∀ text, failure ≠ .merge text) ↔ BarrierRaises service dataset plan policy outputs := by
  unfold mergeSelected
  rw [hout]
  constructor
  · rintro ⟨failure, h, hescapes⟩
    cases hmerge : service.mergeOutputs dataset.descriptor policy outputs with
    | error failure' =>
      rw [hmerge] at h
      simp only [bind, Except.bind, Except.error.injEq] at h
      rcases mergeOutputs_error hmerge with ⟨text, htext⟩ | ⟨_, hfact, hware, hsum⟩
      · exact absurd (h ▸ htext) (hescapes text)
      · exact ⟨hfact, hware, .inl hsum⟩
    | ok merged =>
      obtain ⟨hfact, hware, total, hsum, rfl⟩ := (service.mergeOutputs_eq_ok).1 hmerge
      simp only [hmerge, bind, Except.bind] at h
      split at h
      · simp only [throw, throwThe, MonadExceptOf.throw, Except.error.injEq] at h
        exact absurd h.symm (hescapes _)
      rename_i hclosed
      simp only [not_or, not_not] at hclosed
      by_cases hblock : plan.strategy = .blockKey
      swap
      · simp [hblock, pure, Except.pure] at h
      simp only [hblock, if_true] at h
      cases hpairs : service.candidatePairs dataset.descriptor dataset.rows policy.maxJoinPairs with
      | error failure' =>
        exact ⟨hfact, hware, .inr ⟨⟨total, hsum⟩, hclosed.1,
          (sortedSet_eq fun _ => mem_sortedSet.symm).trans hclosed.2, hblock, by simp [hpairs]⟩⟩
      | ok pairs =>
        simp only [hpairs] at h
        split at h
        · simp only [throw, throwThe, MonadExceptOf.throw, Except.error.injEq] at h
          exact absurd h.symm (hescapes _)
        · simp [pure, Except.pure] at h
  · rintro ⟨hfact, hware, hover | ⟨⟨total, hsum⟩, hcount, hrefs, hblock, hpairs⟩⟩
    · rw [mergeOutputs_overflow hfact hware hover]
      exact ⟨.overflow, rfl, by simp⟩
    · have hmerge := (@mergeOutputs_eq_ok service dataset.descriptor policy outputs _).2
        ⟨hfact, hware, total, hsum, rfl⟩
      cases hp : service.candidatePairs dataset.descriptor dataset.rows policy.maxJoinPairs with
      | ok pairs => exact absurd hp (hpairs pairs)
      | error failure =>
        have hpass : ¬ ((service.mergedOutput dataset.descriptor policy outputs
            total).emittedRecordCount ≠ dataset.descriptor.rowCount ∨
            sortedSet (service.mergedOutput dataset.descriptor policy outputs total).recordRefs ≠
              sortedSet (dataset.rows.map (·.rowRef))) := by
          rw [not_or, not_not, not_not]
          exact ⟨hcount, (sortedSet_eq fun _ => mem_sortedSet).trans hrefs⟩
        refine ⟨failure, ?_, ?_⟩
        · simp only [hmerge, bind, Except.bind, if_neg hpass, hblock, if_true]
        · obtain ⟨text, rfl⟩ := service.candidatePairs_error hp
          simp

/-! ## Outcomes under any schedule -/

variable (service dataset plan policy failures) in
def OneFailure : Prop :=
  ∀ p ∈ plan.partitions, ∀ q ∈ plan.partitions,
    (service.resultOf dataset plan policy failures p).status ≠ .succeeded →
    (service.resultOf dataset plan policy failures q).status ≠ .succeeded →
    (service.resultOf dataset plan policy failures p).failureCode =
      (service.resultOf dataset plan policy failures q).failureCode ∧
    (service.resultOf dataset plan policy failures p).failureReason =
      (service.resultOf dataset plan policy failures q).failureReason

variable (service dataset plan policy failures) in
/-- If no partition fails, the barrier over the partition outputs raises nothing that escapes. -/
def BarrierCaught : Prop :=
  (∀ p ∈ plan.partitions,
    (service.resultOf dataset plan policy failures p).status = .succeeded) →
  ¬ BarrierRaises service dataset plan policy
    (((queue plan).map (service.resultOf dataset plan policy failures)).filterMap (·.output))

theorem nodup_result_ids {order : List PartitionDescriptor} (horder : order.Perm plan.partitions) :
    ((order.map (service.resultOf dataset plan policy failures)).map (·.partitionId)).Nodup := by
  rw [service.resultOf_ids]
  exact (horder.map _).nodup_iff.2 plan.nodup_ids

/-- The first failing result of a completion is that of a failing partition. -/
theorem first_failed (horder : order.Perm plan.partitions) {first : PartitionResult}
    {rest : List PartitionResult}
    (h : ((order.map (service.resultOf dataset plan policy failures)).filter fun result =>
      result.status ≠ .succeeded) = first :: rest) :
    ∃ p ∈ plan.partitions, service.resultOf dataset plan policy failures p = first ∧
      first.status ≠ .succeeded := by
  have hmem : first ∈ (order.map (service.resultOf dataset plan policy failures)).filter fun result =>
      result.status ≠ .succeeded := by
    rw [h]
    simp
  obtain ⟨hin, hstatus⟩ := mem_filter.1 hmem
  obtain ⟨p, hp, rfl⟩ := mem_map.1 hin
  exact ⟨p, horder.mem_iff.1 hp, rfl, of_decide_eq_true hstatus⟩

/-- With one failure to report and a barrier that lets nothing escape, every completion returns the
same result. -/
theorem finishExecution_eq {order' : List PartitionDescriptor} (horder : order.Perm plan.partitions)
    (horder' : order'.Perm plan.partitions) (hone : OneFailure service dataset plan policy failures)
    (hcaught : BarrierCaught service dataset plan policy failures) (observed observed' : Nat) :
    ∃ result, service.finishExecution dataset plan policy observed
        (order.map (service.resultOf dataset plan policy failures)) = .ok result ∧
      service.finishExecution dataset plan policy observed'
        (order'.map (service.resultOf dataset plan policy failures)) =
          .ok { result with observedWorkerSlots := observed' } := by
  have hperm : (order.map (service.resultOf dataset plan policy failures)).Perm
      (order'.map (service.resultOf dataset plan policy failures)) :=
    (horder.trans horder'.symm).map _
  have hids := @nodup_result_ids service dataset plan policy failures order horder
  unfold finishExecution
  cases hfailed : (order.map (service.resultOf dataset plan policy failures)).filter fun result =>
      result.status ≠ .succeeded with
  | nil =>
    have hok := (service.filter_failed_eq_nil horder).1 hfailed
    rw [(service.filter_failed_eq_nil horder').2 hok]
    simp only [service.merge_eq horder hok, service.merge_eq horder' hok]
    cases hmerge : service.mergeSelected dataset plan policy
        ((queue plan).map (service.resultOf dataset plan policy failures)) with
    | ok output =>
      refine ⟨_, rfl, ?_⟩
      simp only [executionResult_perm hperm hids]
      rfl
    | error failure =>
      have hmergeError : ∃ text, failure = .merge text := by
        by_contra hnone
        refine hcaught hok ((mergeSelected_escapes rfl).1 ⟨failure, hmerge, ?_⟩)
        intro text htext
        exact hnone ⟨text, htext⟩
      obtain ⟨text, rfl⟩ := hmergeError
      refine ⟨_, rfl, ?_⟩
      simp only [executionResult_perm hperm hids, failedExecutionId_perm hperm,
        incompleteManifest_perm hperm hids]
      rfl
  | cons first rest =>
    cases hfailed' : (order'.map (service.resultOf dataset plan policy failures)).filter fun result =>
        result.status ≠ .succeeded with
    | nil =>
      have hok := (service.filter_failed_eq_nil horder').1 hfailed'
      rw [(service.filter_failed_eq_nil horder).2 hok] at hfailed
      simp at hfailed
    | cons first' rest' =>
      obtain ⟨p, hp, rfl, hpstatus⟩ := first_failed horder hfailed
      obtain ⟨q, hq, rfl, hqstatus⟩ := first_failed horder' hfailed'
      obtain ⟨hcode, hreason⟩ := hone p hp q hq hpstatus hqstatus
      refine ⟨_, rfl, ?_⟩
      simp only [executionResult_perm hperm hids, failedExecutionId_perm hperm,
        incompleteManifest_perm hperm hids, hcode, hreason]
      rfl

end ScaleService

/-- `execute` returns, and always the same result but for the number of workers it observed. -/
def ScheduleFree (service : ScaleService) (dataset : ScaleInputDataset) (plan : PartitionPlan)
    (policy : ScalePolicy) (failures : List String) : Prop :=
  (∀ slots h outcome, Executes service dataset plan (policy.withSlots slots h) failures outcome →
    ∃ result, outcome = .ok result) ∧
  ∀ slots h slots' h' result result',
    Executes service dataset plan (policy.withSlots slots h) failures (.ok result) →
    Executes service dataset plan (policy.withSlots slots' h') failures (.ok result') →
    { result with observedWorkerSlots := 0 } = { result' with observedWorkerSlots := 0 }

/-- The data work does not read the number of worker slots. -/
theorem execute_withSlots (service : ScaleService) (dataset : ScaleInputDataset)
    (plan : PartitionPlan) (policy : ScalePolicy) (failures : List String) (slots : Nat)
    (h : 1 ≤ slots) (order : List PartitionDescriptor) (observed : Nat) :
    service.execute dataset plan (policy.withSlots slots h) failures order observed =
      service.execute dataset plan policy failures order observed := rfl

/-- With a slot for every partition, any partition can be the first to complete. -/
theorem exists_completion_first {policy : ScalePolicy} {plan : PartitionPlan}
    {first : PartitionDescriptor} (h : first ∈ plan.partitions) :
    ∃ slots, ∃ hslots : 1 ≤ slots, ∃ later,
      Completion (policy.withSlots slots hslots) plan (first :: later) := by
  have hpos : 1 ≤ plan.partitions.length := length_pos_of_mem h
  have hlen : (sortedBy (·.partitionId) plan.partitions).length = plan.partitions.length :=
    (sortedBy_perm _ _).length_eq
  have hslots : workerSlots (policy.withSlots plan.partitions.length hpos) plan =
      plan.partitions.length := by
    simp only [workerSlots, ScalePolicy.withSlots]
    omega
  obtain ⟨later, hlater⟩ := Collects.exists_first [] (mem_sortedBy.2 h :
    first ∈ sortedBy (·.partitionId) plan.partitions)
  refine ⟨plan.partitions.length, hpos, later, ?_⟩
  simp only [Completion]
  rw [hslots, take_of_length_le hlen.le, drop_of_length_le hlen.le]
  exact hlater

open ScaleService in
/-- **The schedule does not show exactly when** the execution is rejected for its skew, or all
failing partitions report the same failure and nothing but merge errors comes from the barrier. -/
theorem schedule_free_iff {service : ScaleService} {dataset : ScaleInputDataset}
    {plan : PartitionPlan} {policy : ScalePolicy} {failures : List String}
    (hinput : dataset.descriptor.contentHash = plan.inputContentHash)
    (hrun : plan.scope.runId = dataset.descriptor.scope.runId)
    (hschema : plan.scope.schemaFingerprint = dataset.descriptor.scope.schemaFingerprint) :
    ScheduleFree service dataset plan policy failures ↔
      (plan.skew.status = .skewed ∧ plan.skew.action = .reject) ∨
      (OneFailure service dataset plan policy failures ∧
        BarrierCaught service dataset plan policy failures) := by
  by_cases hskew : plan.skew.status = .skewed ∧ plan.skew.action = .reject
  · refine iff_of_true ⟨?_, ?_⟩ (.inl hskew)
    · rintro slots h outcome ⟨order, observed, _, rfl⟩
      exact ⟨_, by simp only [execute, hinput, hrun, hschema, hskew, ne_eq, not_true_eq_false,
        or_self, if_false, and_self, if_true]; rfl⟩
    · rintro slots h slots' h' result result' ⟨order, observed, _, hexec⟩ ⟨order', observed', _, hexec'⟩
      simp only [execute, hinput, hrun, hschema, hskew, ne_eq, not_true_eq_false, or_self, if_false,
        and_self, if_true, Except.ok.injEq] at hexec hexec'
      rw [← hexec, ← hexec']
  have hadmitted : Admitted dataset plan := ⟨hinput, hrun, hschema, hskew⟩
  have hexecute : ∀ slots h order observed,
      service.execute dataset plan (policy.withSlots slots h) failures order observed =
        service.finishExecution dataset plan policy observed
          (order.map (service.resultOf dataset plan policy failures)) := by
    intro slots h order observed
    rw [execute_withSlots, service.execute_eq hadmitted]
  constructor
  · rintro ⟨hreturns, hsame⟩
    refine .inr ⟨?_, ?_⟩
    · intro p hp q hq hpfail hqfail
      -- Let each of the two partitions complete first.
      have hreport : ∀ r ∈ plan.partitions,
          (service.resultOf dataset plan policy failures r).status ≠ .succeeded →
          ∃ slots h result,
            Executes service dataset plan (policy.withSlots slots h) failures (.ok result) ∧
            result.failureCode = (service.resultOf dataset plan policy failures r).failureCode ∧
            result.failureReason = (service.resultOf dataset plan policy failures r).failureReason := by
        intro r hr hfail
        obtain ⟨slots, h, later, hcompletion⟩ := @exists_completion_first policy plan r hr
        obtain ⟨result, hresult⟩ := hreturns slots h _ ⟨r :: later, 1, hcompletion, rfl⟩
        refine ⟨slots, h, result, ⟨r :: later, 1, hcompletion, hresult⟩, ?_⟩
        rw [hexecute, map_cons] at hresult
        simp only [finishExecution, filter_cons, hfail, ne_eq, not_false_eq_true, decide_true,
          if_true, Except.ok.injEq] at hresult
        exact ⟨by rw [← hresult], by rw [← hresult]⟩
      obtain ⟨_, _, result, hexec, hcode, hreason⟩ := hreport p hp hpfail
      obtain ⟨_, _, result', hexec', hcode', hreason'⟩ := hreport q hq hqfail
      have heq := hsame _ _ _ _ _ _ hexec hexec'
      have heqCode := congrArg ScaleExecutionResult.failureCode heq
      have heqReason := congrArg ScaleExecutionResult.failureReason heq
      exact ⟨hcode.symm.trans (heqCode.trans hcode'), hreason.symm.trans (heqReason.trans hreason')⟩
    · intro hok hraises
      obtain ⟨failure, hmerge, hescapes⟩ := (@mergeSelected_escapes service dataset plan policy
        ((queue plan).map (service.resultOf dataset plan policy failures)) _ rfl).2 hraises
      have hcompletion := Completion.in_order (policy.withSlots 1 le_rfl) plan
      obtain ⟨result, hresult⟩ := hreturns 1 le_rfl _ ⟨_, 1, hcompletion, rfl⟩
      rw [hexecute] at hresult
      unfold finishExecution at hresult
      rw [(service.filter_failed_eq_nil (sortedBy_perm _ _)).2 hok] at hresult
      simp only [service.merge_eq (sortedBy_perm _ _) hok, hmerge] at hresult
      cases failure with
      | merge text => exact hescapes text rfl
      | _ => simp at hresult
  · rintro (h | ⟨hone, hcaught⟩)
    · exact absurd h hskew
    refine ⟨?_, ?_⟩
    · rintro slots h outcome ⟨order, observed, hcompletion, rfl⟩
      obtain ⟨result, hresult, _⟩ := finishExecution_eq hcompletion.perm hcompletion.perm hone hcaught
        observed observed
      exact ⟨result, by rw [hexecute, hresult]⟩
    · rintro slots h slots' h' result result' ⟨order, observed, hcompletion, hexec⟩
        ⟨order', observed', hcompletion', hexec'⟩
      obtain ⟨common, hcommon, hcommon'⟩ := finishExecution_eq hcompletion.perm hcompletion'.perm hone
        hcaught observed observed'
      rw [hexecute, hcommon] at hexec
      rw [hexecute, hcommon'] at hexec'
      cases hexec
      cases hexec'
      rfl

open ScaleService in
theorem schedule_free_demo : ∃ plan,
    demoService.plan demoDataset (demoPolicy .hash) (some 2) none = .ok plan ∧
    ScheduleFree demoService demoDataset plan (demoPolicy .hash) [] := by
  obtain ⟨plan, hplan, hcheck⟩ := demoPlanned_spec (show demoPlanned demoDataset (demoPolicy .hash) 2
    (fun plan => plan.strategy = .hash && plan.partitions.all (fun p =>
      (demoService.resultOf demoDataset plan (demoPolicy .hash) [] p).status = .succeeded) &&
      (sumMeasures ((((queue plan).map (demoService.resultOf demoDataset plan (demoPolicy .hash)
        [])).filterMap (·.output)).map (·.exactMeasureSum))).isOk) = true by decide +kernel)
  simp only [Bool.and_eq_true, decide_eq_true_eq, all_eq_true] at hcheck
  obtain ⟨⟨hstrategy, hok⟩, hsum⟩ := hcheck
  have hplanned := demoService.planned_of_plan hplan
  refine ⟨plan, hplan, (schedule_free_iff hplanned.inputContentHash.symm (by rw [hplanned.scope])
    (by rw [hplanned.scope])).2 (.inr ⟨?_, ?_⟩)⟩
  · intro p hp _ _ hfail _
    exact absurd (hok p hp) hfail
  · rintro _ ⟨_, _, hover | ⟨_, _, _, hblock, _⟩⟩
    · rw [hover] at hsum
      simp [Except.isOk, Except.toBool] at hsum
    · rw [hstrategy] at hblock
      cases hblock

def boundedPolicy : ScalePolicy :=
  { demoPolicy .blockKey with maxJoinPairs := 1, bounds := by decide +kernel }

open ScaleService in
/-- Each of two partitions is within the bound of one pair, but the three orders together are not.
-/
theorem barrier_fanout_escapes : ¬ ∀ (service : ScaleService) (dataset : ScaleInputDataset)
    (plan : PartitionPlan) (policy : ScalePolicy) (failures : List String),
    dataset.descriptor.contentHash = plan.inputContentHash →
    plan.scope.runId = dataset.descriptor.scope.runId →
    plan.scope.schemaFingerprint = dataset.descriptor.scope.schemaFingerprint →
    ScheduleFree service dataset plan policy failures := by
  intro h
  obtain ⟨plan, hplan, hcheck⟩ := demoPlanned_spec (show demoPlanned threeRowDataset boundedPolicy 2
    (fun plan => !(demoService.execute threeRowDataset plan boundedPolicy [] (queue plan) 1).isOk) =
      true by decide +kernel)
  have hplanned := demoService.planned_of_plan hplan
  obtain ⟨hreturns, _⟩ := h demoService threeRowDataset plan boundedPolicy []
    hplanned.inputContentHash.symm (by rw [hplanned.scope]) (by rw [hplanned.scope])
  obtain ⟨result, hresult⟩ := hreturns 1 le_rfl _ ⟨queue plan, 1, Completion.in_order _ plan, rfl⟩
  rw [execute_withSlots] at hresult
  simp [hresult, Except.isOk, Except.toBool] at hcheck

end DirtyDataOlap.Scale

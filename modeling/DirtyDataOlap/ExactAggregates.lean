import DirtyDataOlap.PartitionEquivalence

/-!
# Exact aggregates

The arithmetic context of the threads rounds to 28 digits.  Where the measures fit it the merged sum
is the exact one; with one representative of the extreme measures, the semantic content of the
merged output is a function of the multiset of rows.
-/
namespace DirtyDataOlap.Scale

open List Dec

namespace ScaleService

variable {service : ScaleService} {dataset : ScaleInputDataset} {plan : PartitionPlan}
  {policy : ScalePolicy}

variable {rows : List ScaleInputRow} {strategy : PartitionStrategy}
  {groups : List (List ScaleInputRow)} {measures : List Dec} {descriptor : ScaleInputDescriptor}
  {outputs : List ScalePartitionOutput} {rows' : List ScaleInputRow} {merged : ScaleMergedOutput}
  {policy' : ScalePolicy}

theorem sumMeasures_exact (h : Dec.Fits defaultContext measures) :
    sumMeasures measures = .ok (exactSum measures) := by
  rw [sumMeasures, sum_eq_exactSum h]

variable (h : service.Reduces descriptor policy strategy groups outputs)

include h in
theorem Reduces.exactSums (hfits : ∀ rows ∈ groups, Dec.Fits defaultContext (measuresOf rows)) :
    outputs.map (·.exactMeasureSum) = groups.map fun rows => exactSum (measuresOf rows) := by
  induction h with
  | nil => rfl
  | cons hhead _ ih =>
    obtain ⟨exactSum, pairs, hsum, _, rfl⟩ := (service.outputForRows_eq_ok).1 hhead
    rw [sumMeasures_exact (hfits _ (by simp))] at hsum
    rw [map_cons, map_cons, ih fun rows hrows => hfits rows (by simp [hrows]),
      ← Except.ok.inj hsum]
    rfl

theorem measuresOf_sublist (h : rows ∈ groups) :
    (measuresOf rows).Sublist (measuresOf groups.flatten) :=
  (sublist_flatten_of_mem h).filterMap _

/-- **The merged sum is exact** wherever the measures fit the context. -/
theorem merged_exactSum {exactSum : Dec}
    (h : service.Reduces dataset.descriptor policy strategy groups outputs)
    (hperm : groups.flatten.Perm dataset.rows)
    (hfits : Dec.Fits defaultContext (measuresOf dataset.rows))
    (hsum : sumMeasures (outputs.map (·.exactMeasureSum)) = .ok exactSum) :
    exactSum = Dec.exactSum (measuresOf dataset.rows) := by
  have hmeasures : (measuresOf groups.flatten).Perm (measuresOf dataset.rows) := hperm.filterMap _
  have hall : Dec.Fits defaultContext (measuresOf groups.flatten) := hfits.perm hmeasures.symm
  have hflat : (groups.map measuresOf).flatten = measuresOf groups.flatten := by
    rw [measuresOf_flatten, flatMap_def]
  have hgroups : outputs.map (·.exactMeasureSum) = (groups.map measuresOf).map Dec.exactSum := by
    rw [h.exactSums fun rows hrows => hall.of_sublist (measuresOf_sublist hrows), map_map]
    rfl
  rw [hgroups, sumMeasures_exact (Dec.Fits.groups (hflat ▸ hall)), Dec.exactSum_flatten, hflat] at hsum
  rw [← Except.ok.inj hsum, Dec.exactSum_perm hmeasures]

/-! ## The content of a merged output -/

/-- The least measures of the rows are one decimal, and so are the greatest. -/
def OneExtreme (measures : List Dec) : Prop :=
  ∀ a ∈ measures, ∀ b ∈ measures, a.value = b.value →
    (∀ c ∈ measures, a.value ≤ c.value) ∨ (∀ c ∈ measures, c.value ≤ a.value) → a = b

theorem OneExtreme.minimum_eq (h : OneExtreme measures) {o p : Option Dec}
    (ho : Dec.IsLeastOf value measures o) (hp : Dec.IsLeastOf value measures p) : o = p := by
  have hmap := ho.map_eq hp
  match o, p with
  | none, none => rfl
  | none, some y => simp at hmap
  | some x, none => simp at hmap
  | some x, some y =>
    rw [Option.map_some, Option.map_some, Option.some.injEq] at hmap
    rw [h x ho.1 y hp.1 hmap (.inl ho.2)]

theorem OneExtreme.maximum_eq (h : OneExtreme measures) {o p : Option Dec}
    (ho : Dec.IsLeastOf dualValue measures o) (hp : Dec.IsLeastOf dualValue measures p) :
    o = p := by
  have hmap := ho.map_eq hp
  match o, p with
  | none, none => rfl
  | none, some y => simp at hmap
  | some x, none => simp at hmap
  | some x, some y =>
    rw [Option.map_some, Option.map_some, Option.some.injEq] at hmap
    rw [h x ho.1 y hp.1 hmap (.inr ho.2)]

variable (service rows merged) in
structure RoutedOnce : Prop where
  pairs : merged.candidatePairs = []
  unique : merged.uniqueInputRecords = rows.length
  routed : merged.routedRecordInstances = rows.length
  replication : merged.replicationCount = 0
  shuffled : merged.logicalShuffleRecords = rows.length
  bytes : merged.logicalShuffleBytes = service.bytesOf rows

theorem routed_sum (hs : strategy ≠ .blockKey) (rows : List ScaleInputRow) :
    (rows.map (routedInstances strategy)).sum = rows.length := by
  have hone : routedInstances strategy = fun _ => 1 := by
    funext row
    rw [routedInstances, if_neg hs]
  rw [hone]
  simp

include h in
theorem Reduces.routedOnce
    (hs : strategy ≠ .blockKey) (exactSum : Dec) : RoutedOnce service groups.flatten
      (service.mergedOutput descriptor policy outputs exactSum) := by
  refine ⟨?_, ?_, ?_, ?_, ?_, ?_⟩
  · change sortedSet (outputs.flatMap (·.candidatePairs)) = []
    rw [h.no_pairs hs]
    rfl
  · change (outputs.map (·.uniqueInputRecords)).sum = _
    rw [h.map_eq service (·.uniqueInputRecords) List.length fun _ _ _ => rfl, length_flatten]
  · change (outputs.map (·.routedRecordInstances)).sum = _
    rw [h.map_eq service (·.routedRecordInstances) List.length fun rows _ _ => routed_sum hs rows,
      length_flatten]
  · change (outputs.map (·.replicationCount)).sum = 0
    rw [h.map_eq service (·.replicationCount) (fun _ => 0) fun rows _ _ => by
      change (rows.map (routedInstances strategy)).sum - rows.length = 0
      rw [routed_sum hs]
      omega]
    simp
  · change (outputs.map (·.logicalShuffleRecords)).sum = _
    rw [h.map_eq service (·.logicalShuffleRecords) List.length fun rows _ _ => routed_sum hs rows,
      length_flatten]
  · change (outputs.map (·.logicalShuffleBytes)).sum = _
    rw [h.map_eq service (·.logicalShuffleBytes) service.bytesOf fun rows _ _ => by
      change (rows.map fun row => service.rowBytes row * routedInstances strategy row).sum = _
      simp [bytesOf, routedInstances, hs]]
    exact (sum_flatten_eq _ _).symm

theorem RoutedOnce.perm (h : RoutedOnce service rows merged) (hp : rows.Perm rows') :
    RoutedOnce service rows' merged where
  pairs := h.pairs
  unique := h.unique.trans hp.length_eq
  routed := h.routed.trans hp.length_eq
  replication := h.replication
  shuffled := h.shuffled.trans hp.length_eq
  bytes := h.bytes.trans (hp.map _).sum_eq

variable (service descriptor) in
structure Determined (policy : ScalePolicy) (rows : List ScaleInputRow) (merged : ScaleMergedOutput) :
    Prop where
  summary : service.Summarizes policy rows merged
  routed : RoutedOnce service rows merged
  exactSum : merged.profile.exactSum = exactSum (measuresOf rows)
  source : merged.inputId = descriptor.scope.inputId ∧
    merged.inputContentHash = descriptor.contentHash ∧
    merged.inputRecordCount = descriptor.rowCount ∧ merged.filteredRecordCount = 0 ∧
    merged.quarantinedRecordCount = 0 ∧ merged.unresolvedRecordCount = 0

theorem succeeded_determined {failures : List String} {result : ScaleExecutionResult}
    (hplan : service.Planned dataset policy plan)
    (hexec : Executes service dataset plan policy failures (.ok result))
    (hstatus : result.status = .succeeded) (hs : plan.strategy ≠ .blockKey)
    (hfits : Dec.Fits defaultContext (measuresOf dataset.rows)) :
    ∃ merged, result.mergedOutput = some merged ∧
      Determined service dataset.descriptor policy dataset.rows merged := by
  obtain ⟨groups, outputs, exactSum, hall, hsum, hmerged, _⟩ := service.succeeded_spec hexec hstatus
  have hperm := hall.flatten_perm service hplan
  exact ⟨_, hmerged, (hall.reduces.summarizes service exactSum).perm service hperm,
    (hall.reduces.routedOnce hs exactSum).perm hperm, merged_exactSum hall.reduces hperm hfits hsum,
    rfl, rfl, rfl, rfl, rfl, rfl⟩

/-- The policy samples every one of `count` records. -/
def SamplesAll (policy : ScalePolicy) (count : Nat) : Prop :=
  1 ≤ policy.sampleRatio ∧ ∀ limit, policy.sampleLimit = some limit → count ≤ limit

theorem Summarizes.sampled_all (h : service.Summarizes policy rows merged)
    (hrefs : (rows.map (·.rowRef)).Nodup) (hall : SamplesAll policy rows.length) :
    sorted merged.sampledRecordRefs = sorted (rows.map (·.rowRef)) := by
  obtain ⟨candidates, hnodup, hmem, hsampled⟩ := h.sampled
  have hperm : candidates.Perm (rows.map (·.rowRef)) := by
    rw [selectedRefs, if_pos hall.1] at hmem
    exact (perm_ext_iff_of_nodup hnodup hrefs).2 hmem
  have hsort := sortedBy_perm (service.sampleDigest policy) candidates
  have hlimit : limitSample policy (sortedBy (service.sampleDigest policy) candidates) =
      sortedBy (service.sampleDigest policy) candidates := by
    unfold limitSample
    split
    · rfl
    · rename_i limit hl
      apply take_of_length_le
      rw [hsort.length_eq, hperm.length_eq, length_map]
      exact hall.2 limit hl
  rw [hsampled, hlimit]
  exact sorted_eq_of_perm (hsort.trans hperm)

theorem mergedHash_eq {a b : ScaleMergedOutput} (h : a.semanticContent = b.semanticContent) :
    service.mergedHash a = service.mergedHash b := by
  rw [mergedHash, mergedHash, h]

/-- Determined outputs that sample the same records have the same semantic content. -/
theorem Determined.content_eq {policy : ScalePolicy} {merged' : ScaleMergedOutput}
    (h : Determined service descriptor policy rows merged)
    (h' : Determined service descriptor policy' rows' merged') (hp : rows.Perm rows')
    (hextreme : OneExtreme (measuresOf rows))
    (hsampled : sorted merged.sampledRecordRefs = sorted merged'.sampledRecordRefs) :
    merged.semanticContent = merged'.semanticContent := by
  have hmeasures : (measuresOf rows).Perm (measuresOf rows') := hp.filterMap _
  obtain ⟨hsum, hrouted, hexact, hsource⟩ := h
  obtain ⟨hsum', hrouted', hexact', hsource'⟩ := h'
  have hprofile : merged.profile = merged'.profile := by
    apply ScaleProfileStats.ext
    · rw [hsum.rowCount, hsum'.rowCount, hp.length_eq]
    · rw [hsum.nonNullCount, hsum'.nonNullCount, hmeasures.length_eq]
    · rw [hsum.nullCount, hsum'.nullCount, hp.length_eq, hmeasures.length_eq]
    · exact hextreme.minimum_eq hsum.minimum (hsum'.minimum.perm hmeasures.symm)
    · exact hextreme.maximum_eq hsum.maximum (hsum'.maximum.perm hmeasures.symm)
    · rw [hexact, hexact', exactSum_perm hmeasures]
  -- Both summaries are of the same rows, so every collection of one is that of the other.
  have hsame := hsum.perm service hp
  have hdeps : merged.dependencyPairs = merged'.dependencyPairs :=
    hsame.dependencyPairs.trans hsum'.dependencyPairs.symm
  have hbytes : service.bytesOf rows = service.bytesOf rows' := (hp.map _).sum_eq
  apply ScaleMergedOutput.ext
  · exact hsource.1.trans hsource'.1.symm
  · exact hsource.2.1.trans hsource'.2.1.symm
  · exact congrArg sorted (hsame.recordRefs.trans hsum'.recordRefs.symm)
  · exact congrArg sorted (hsame.sourceRecordRefs.trans hsum'.sourceRecordRefs.symm)
  · exact congrArg sorted (hsame.canonicalEntityIds.trans hsum'.canonicalEntityIds.symm)
  · exact congrArg sorted (hsame.factGrainKeys.trans hsum'.factGrainKeys.symm)
  · exact congrArg sorted (hsame.warehouseKeys.trans hsum'.warehouseKeys.symm)
  · exact hprofile
  · exact hsum.exactSum.trans ((congrArg _ hprofile).trans hsum'.exactSum.symm)
  · exact congrArg sorted hdeps
  · exact hsum.dependencyValid.trans ((congrArg _ hdeps).trans hsum'.dependencyValid.symm)
  · exact congrArg sorted (hrouted.pairs.trans hrouted'.pairs.symm)
  · exact hsampled
  · exact hsource.2.2.1.trans hsource'.2.2.1.symm
  · exact hsame.emitted.trans hsum'.emitted.symm
  · exact hsource.2.2.2.1.trans hsource'.2.2.2.1.symm
  · exact hsource.2.2.2.2.1.trans hsource'.2.2.2.2.1.symm
  · exact hsource.2.2.2.2.2.trans hsource'.2.2.2.2.2.symm
  · exact hrouted.unique.trans (hp.length_eq.trans hrouted'.unique.symm)
  · exact hrouted.routed.trans (hp.length_eq.trans hrouted'.routed.symm)
  · exact hrouted.replication.trans hrouted'.replication.symm
  · exact hrouted.shuffled.trans (hp.length_eq.trans hrouted'.shuffled.symm)
  · exact hrouted.bytes.trans (hbytes.trans hrouted'.bytes.symm)

structure SameSampling (policy policy' : ScalePolicy) : Prop where
  version : policy'.policyVersion = policy.policyVersion
  ratio : policy'.sampleRatio = policy.sampleRatio
  limit : policy'.sampleLimit = policy.sampleLimit

theorem SamplesAll.of_sameSampling {count : Nat} (h : SamplesAll policy count)
    (hsame : SameSampling policy policy') : SamplesAll policy' count := by
  refine ⟨by rw [hsame.ratio]; exact h.1, fun limit hl => h.2 limit ?_⟩
  rw [← hsame.limit, hl]

theorem sample_eq (hsame : SameSampling policy policy')
    (hseed : policy'.deterministicSeed = policy.deterministicSeed) (hp : rows.Perm rows')
    (hsep : service.Separates policy rows) :
    limitSample policy (service.sampleCandidates rows policy) =
      limitSample policy' (service.sampleCandidates rows' policy') ∧
    service.Separates policy' rows' := by
  have hdigest : service.sampleDigest policy' = service.sampleDigest policy := by
    funext ref
    rw [sampleDigest, sampleDigest, hseed, hsame.version]
  have hselected : service.selectedRefs rows' policy' = service.selectedRefs rows' policy := by
    rw [selectedRefs, selectedRefs, hsame.ratio, hdigest]
  have hperm : (service.selectedRefs rows policy).Perm (service.selectedRefs rows' policy) := by
    rw [selectedRefs_eq, selectedRefs_eq]
    exact (hp.map _).filter _
  have hin : ∀ ref ∈ service.selectedRefs rows policy, ∃ row ∈ rows, row.rowRef = ref := by
    intro ref href
    rw [selectedRefs_eq, mem_filter, mem_map] at href
    exact href.1
  refine ⟨?_, ?_⟩
  · rw [sampleCandidates, sampleCandidates, hdigest, hselected, sortedBy_eq_of_perm hperm, limitSample,
      limitSample, hsame.limit]
    intro a ha b hb hab
    obtain ⟨ra, hra, rfl⟩ := hin a ha
    obtain ⟨rb, hrb, rfl⟩ := hin b hb
    exact hsep ra hra rb hrb hab
  · intro a ha b hb hab
    rw [hdigest] at hab
    exact hsep a (hp.mem_iff.2 ha) b (hp.mem_iff.2 hb) hab

end ScaleService

def SucceedsWith (service : ScaleService) (dataset : ScaleInputDataset) (policy : ScalePolicy)
    (strategy : PartitionStrategy) (merged : ScaleMergedOutput) : Prop :=
  ∃ partitionCount requestedParallelism plan failures result,
    service.plan dataset policy partitionCount requestedParallelism = .ok plan ∧
    plan.strategy = strategy ∧ Executes service dataset plan policy failures (.ok result) ∧
    result.status = .succeeded ∧ result.mergedOutput = some merged

variable {dataset : ScaleInputDataset} {policy : ScalePolicy} {strategy : PartitionStrategy}
  {merged : ScaleMergedOutput}

open ScaleService in
theorem SucceedsWith.exactSum {service : ScaleService}
    (h : SucceedsWith service dataset policy strategy merged)
    (hfits : Dec.Fits defaultContext (measuresOf dataset.rows)) :
    merged.profile.exactSum = Dec.exactSum (measuresOf dataset.rows) ∧
      merged.exactMeasureSum = Dec.exactSum (measuresOf dataset.rows) := by
  obtain ⟨_, _, plan, failures, result, hplan, rfl, hexec, hstatus, hsome⟩ := h
  obtain ⟨groups, outputs, exactSum, hall, hsum, hmerged, _⟩ := service.succeeded_spec hexec hstatus
  rw [hmerged, Option.some.injEq] at hsome
  subst hsome
  have hperm := hall.flatten_perm service (service.planned_of_plan hplan)
  have hexact := merged_exactSum hall.reduces hperm hfits hsum
  exact ⟨hexact, hexact⟩

open ScaleService in
theorem SucceedsWith.determined {service : ScaleService}
    (h : SucceedsWith service dataset policy strategy merged) (hs : strategy ≠ .blockKey)
    (hfits : Dec.Fits defaultContext (measuresOf dataset.rows)) :
    Determined service dataset.descriptor policy dataset.rows merged := by
  obtain ⟨_, _, plan, failures, result, hplan, rfl, hexec, hstatus, hsome⟩ := h
  obtain ⟨merged', hmerged, hdetermined⟩ :=
    succeeded_determined (service.planned_of_plan hplan) hexec hstatus hs hfits
  rw [hmerged, Option.some.injEq] at hsome
  exact hsome ▸ hdetermined

open ScaleService in
/-- **Aggregates are exact and independent of the partitioning** where the measures fit the context:
the content hash is that of every other successful execution over the same rows in any order, under
any partitioning, from the same seed if the policy samples. -/
theorem exact_aggregates {service : ScaleService} {dataset : ScaleInputDataset}
    {policy : ScalePolicy} {strategy : PartitionStrategy} {merged : ScaleMergedOutput}
    (h : SucceedsWith service dataset policy strategy merged)
    (hfits : Dec.Fits defaultContext (measuresOf dataset.rows)) :
    merged.profile.exactSum.value = ((measuresOf dataset.rows).map value).sum ∧
    merged.exactMeasureSum.value = ((measuresOf dataset.rows).map value).sum ∧
    ∀ (dataset' : ScaleInputDataset) (policy' : ScalePolicy) (strategy' : PartitionStrategy)
      (merged' : ScaleMergedOutput), SucceedsWith service dataset' policy' strategy' merged' →
      strategy ≠ .blockKey → strategy' ≠ .blockKey → dataset'.descriptor = dataset.descriptor →
      dataset.rows.Perm dataset'.rows → OneExtreme (measuresOf dataset.rows) →
      SameSampling policy policy' → (SamplesAll policy dataset.rows.length ∨
        policy'.deterministicSeed = policy.deterministicSeed ∧
          service.Separates policy dataset.rows) →
      service.mergedHash merged' = service.mergedHash merged := by
  obtain ⟨hprofile, hmeasure⟩ := h.exactSum hfits
  refine ⟨by rw [hprofile, exactSum_value], by rw [hmeasure, exactSum_value], ?_⟩
  intro dataset' policy' strategy' merged' h' hs hs' hdescriptor hperm hextreme hsampling hseed
  have hmeasures : (measuresOf dataset.rows).Perm (measuresOf dataset'.rows) := hperm.filterMap _
  have hdetermined := h.determined hs hfits
  have hdetermined' := h'.determined hs' (hfits.perm hmeasures)
  rw [hdescriptor] at hdetermined'
  have hsampled : sorted merged.sampledRecordRefs = sorted merged'.sampledRecordRefs := by
    rcases hseed with hall | ⟨hseed, hsep⟩
    · have hall' : SamplesAll policy' dataset'.rows.length :=
        hperm.length_eq ▸ hall.of_sameSampling hsampling
      rw [hdetermined.summary.sampled_all dataset.uniqueRefs hall,
        hdetermined'.summary.sampled_all dataset'.uniqueRefs hall', sorted_eq_of_perm (hperm.map _)]
    · obtain ⟨hsample, hsep'⟩ := sample_eq hsampling hseed hperm hsep
      rw [hdetermined.summary.sampled_eq service dataset.uniqueRefs hsep,
        hdetermined'.summary.sampled_eq service dataset'.uniqueRefs hsep', hsample]
  exact mergedHash_eq (hdetermined.content_eq hdetermined' hperm hextreme hsampled).symm

variable (dataset policy) in
def demoMerged (count : Int) (strategy : PartitionStrategy) (check : ScaleMergedOutput → Bool) :
    Bool :=
  demoPlanned dataset policy count fun plan => plan.strategy = strategy &&
    demoExecuted dataset policy plan fun result =>
      result.status = .succeeded && result.mergedOutput.any check

theorem demoMerged_spec {count : Int} {check : ScaleMergedOutput → Bool}
    (h : demoMerged dataset policy count strategy check = true) :
    ∃ merged, SucceedsWith demoService dataset policy strategy merged ∧ check merged = true := by
  obtain ⟨plan, hplan, hcheck⟩ := demoPlanned_spec h
  simp only [Bool.and_eq_true, decide_eq_true_eq] at hcheck
  obtain ⟨result, hexec, hresult⟩ := demoExecuted_spec hcheck.2
  simp only [Bool.and_eq_true, decide_eq_true_eq] at hresult
  obtain ⟨merged, hmerged, hm⟩ := (Option.any_eq_true _ _).1 hresult.2
  exact ⟨merged, ⟨some count, none, plan, [], result, hplan, hcheck.1, hexec, hresult.1, hmerged⟩, hm⟩

open ScaleService in
theorem exact_aggregates_demo : ∃ merged,
    SucceedsWith demoService demoDataset (demoPolicy .hash) .hash merged ∧
    merged.exactMeasureSum.value = ((measuresOf demoDataset.rows).map value).sum ∧
    ∀ policy' strategy' merged', SucceedsWith demoService demoDataset policy' strategy' merged' →
      strategy' ≠ .blockKey → SameSampling (demoPolicy .hash) policy' →
      demoService.mergedHash merged' = demoService.mergedHash merged := by
  obtain ⟨merged, hmerged, _⟩ := demoMerged_spec (show demoMerged demoDataset (demoPolicy .hash) 2
    .hash (fun _ => true) = true by decide +kernel)
  have hfits : Dec.Fits defaultContext (measuresOf demoDataset.rows) :=
    ⟨-2, by decide +kernel, by decide +kernel, by decide +kernel⟩
  obtain ⟨_, hsum, hhash⟩ := exact_aggregates hmerged hfits
  refine ⟨merged, hmerged, hsum, fun policy' strategy' merged' h' hs' hsampling => ?_⟩
  have hextreme : OneExtreme (measuresOf demoDataset.rows) := by
    unfold OneExtreme
    decide +kernel
  exact hhash demoDataset policy' strategy' merged' h' (by decide) hs' rfl (List.Perm.refl _)
    hextreme hsampling (.inl ⟨by decide +kernel, fun limit hl => by cases hl⟩)

def samplingPolicy (seed : Int) : ScalePolicy :=
  { demoPolicy .hash with sampleLimit := some 1, deterministicSeed := seed }

open ScaleService in
/-- The sum of `1E28`, `1` and `-1E28` is reported as zero, and a sample of one record depends on
the seed. -/
theorem aggregates_round_and_sample :
    (¬ ∀ (service : ScaleService) (dataset : ScaleInputDataset) (policy : ScalePolicy)
      (strategy : PartitionStrategy) (merged : ScaleMergedOutput),
      SucceedsWith service dataset policy strategy merged →
      merged.exactMeasureSum.value = ((measuresOf dataset.rows).map value).sum) ∧
    ¬ ∀ (service : ScaleService) (dataset : ScaleInputDataset) (policy : ScalePolicy) (seed : Int)
      (merged merged' : ScaleMergedOutput), SucceedsWith service dataset policy .hash merged →
      SucceedsWith service dataset { policy with deterministicSeed := seed } .hash merged' →
      service.mergedHash merged = service.mergedHash merged' := by
  constructor
  · intro h
    obtain ⟨merged, hmerged, hcheck⟩ := demoMerged_spec (show demoMerged threeRowDataset
      (demoPolicy .singleNode) 1 .singleNode (fun merged => merged.exactMeasureSum.value ≠
        ((measuresOf threeRowDataset.rows).map value).sum) = true by decide +kernel)
    exact of_decide_eq_true hcheck (h _ _ _ _ _ hmerged)
  · intro h
    obtain ⟨merged, hmerged, hfirst⟩ := demoMerged_spec (show demoMerged demoDataset
      (samplingPolicy 0) 2 .hash (fun merged => demoService.mergedHash merged = "row-2") = true by
        decide +kernel)
    obtain ⟨merged', hmerged', hsecond⟩ := demoMerged_spec (show demoMerged demoDataset
      (samplingPolicy 1) 2 .hash (fun merged => demoService.mergedHash merged = "row-1") = true by
        decide +kernel)
    have hsame := h demoService demoDataset (samplingPolicy 0) 1 merged merged' hmerged hmerged'
    rw [of_decide_eq_true hfirst, of_decide_eq_true hsecond] at hsame
    exact absurd hsame (by decide)

end DirtyDataOlap.Scale

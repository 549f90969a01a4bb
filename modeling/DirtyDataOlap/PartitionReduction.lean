import DirtyDataOlap.PartitionRouting

/-!
# Reduction over groups of rows

What the merge makes of the outputs of any groups of rows is a summary of all the rows
(`Summarizes`).  Neither the groups nor the order of the rows appear in it: the partitions of a plan
and the single group of `reference_reduce` have the same merged output wherever a summary determines
it.
-/
namespace DirtyDataOlap.Scale.ScaleService

open List

variable (service : ScaleService) {descriptor : ScaleInputDescriptor} {policy : ScalePolicy}
  {strategy : PartitionStrategy}

variable {β α : Type} {rows : List ScaleInputRow} {groups : List (List ScaleInputRow)}
  {outputs : List ScalePartitionOutput} {merged : ScaleMergedOutput}

theorem outputForRows_eq_ok {output : ScalePartitionOutput} :
    service.outputForRows rows descriptor policy strategy = .ok output ↔
      ∃ exactSum pairs, sumMeasures (measuresOf rows) = .ok exactSum ∧
        service.pairsFor rows descriptor policy strategy = .ok pairs ∧
        output = service.partitionOutput rows policy strategy exactSum pairs := by
  simp only [outputForRows, bind_eq_ok, pure, Except.pure, Except.ok.injEq]
  constructor
  · rintro ⟨exactSum, hsum, pairs, hpairs, rfl⟩
    exact ⟨exactSum, pairs, hsum, hpairs, rfl⟩
  · rintro ⟨exactSum, pairs, hsum, hpairs, rfl⟩
    exact ⟨exactSum, hsum, pairs, hpairs, rfl⟩

theorem length_sum_eq (xs : List α) (f : α → List β) :
    (xs.map fun x => (f x).length).sum = (xs.flatMap f).length := by
  rw [length_flatMap]

theorem mergeOutputs_eq_ok {outputs : List ScalePartitionOutput} {merged : ScaleMergedOutput} :
    service.mergeOutputs descriptor policy outputs = .ok merged ↔
      (outputs.flatMap (·.factGrainKeys)).Nodup ∧ (outputs.flatMap (·.warehouseKeys)).Nodup ∧
      ∃ exactSum, sumMeasures (outputs.map (·.exactMeasureSum)) = .ok exactSum ∧
        merged = service.mergedOutput descriptor policy outputs exactSum := by
  simp only [mergeOutputs, length_sum_eq, ne_eq, length_sortedSet]
  by_cases hfact : (outputs.flatMap (·.factGrainKeys)).Nodup
  · by_cases hware : (outputs.flatMap (·.warehouseKeys)).Nodup
    · cases hsum : sumMeasures (outputs.map (·.exactMeasureSum)) with
      | error failure => simp [hfact, hware, bind, Except.bind]
      | ok exactSum => simp [hfact, hware, bind, Except.bind, pure, Except.pure, eq_comm]
    · simp [hfact, hware, bind, Except.bind, throw, throwThe, MonadExceptOf.throw]
  · simp [hfact, bind, Except.bind, throw, throwThe, MonadExceptOf.throw]

variable (descriptor policy strategy groups outputs) in
def Reduces : Prop :=
  Forall₂ (fun rows output =>
    service.outputForRows rows descriptor policy strategy = .ok output) groups outputs

variable (h : service.Reduces descriptor policy strategy groups outputs)

include h in
theorem Reduces.map_eq
    (f : ScalePartitionOutput → β) (g : List ScaleInputRow → β) (hfg : ∀ rows exactSum pairs,
      f (service.partitionOutput rows policy strategy exactSum pairs) = g rows) :
    outputs.map f = groups.map g := by
  refine map_eq_of_forall₂ h g f ?_
  intro rows output hrows
  obtain ⟨exactSum, pairs, _, _, rfl⟩ := (service.outputForRows_eq_ok).1 hrows
  exact hfg rows exactSum pairs

include h in
theorem Reduces.flatMap_eq (f : ScalePartitionOutput → List β) (g : List ScaleInputRow → List β)
    (hfg : ∀ rows exactSum pairs,
      f (service.partitionOutput rows policy strategy exactSum pairs) = g rows) :
    outputs.flatMap f = groups.flatMap g := by
  rw [flatMap_def, flatMap_def, h.map_eq service f g hfg]

/-! ## Summaries -/

/-- The members that the parts contribute are those of the whole. -/
theorem sortedSet_flatMap [LinearOrder β] {f g : List α → List β}
    (hfg : ∀ rows x, x ∈ f rows ↔ x ∈ g rows)
    (hg : ∀ groups : List (List α), g groups.flatten = groups.flatMap g) (groups : List (List α)) :
    sortedSet (groups.flatMap f) = sortedSet (g groups.flatten) := by
  apply sortedSet_eq
  intro x
  rw [hg]
  simp only [mem_flatMap]
  exact exists_congr fun rows => and_congr_right fun _ => hfg rows x

theorem map_flatten_eq (f : α → β) (groups : List (List α)) :
    groups.flatten.map f = groups.flatMap fun rows => rows.map f := by
  rw [map_flatten, flatMap_def]

theorem flatMap_flatten_eq (f : α → List β) (groups : List (List α)) :
    groups.flatten.flatMap f = groups.flatMap fun rows => rows.flatMap f := by
  induction groups with
  | nil => rfl
  | cons rows groups ih => simp [ih]

theorem filterMap_flatten_eq (f : α → Option β) (groups : List (List α)) :
    groups.flatten.filterMap f = groups.flatMap fun rows => rows.filterMap f := by
  induction groups with
  | nil => rfl
  | cons rows groups ih => simp [ih]

theorem sum_flatten_eq (f : α → Nat) (groups : List (List α)) :
    (groups.flatten.map f).sum = (groups.map fun rows => (rows.map f).sum).sum := by
  induction groups with
  | nil => rfl
  | cons rows groups ih =>
    rw [flatten_cons, map_append, sum_append, ih, map_cons, sum_cons]

variable (policy rows merged) in
/-- What a merged output says of the rows, whatever groups they were reduced in. -/
structure Summarizes : Prop where
  recordRefs : merged.recordRefs = sortedSet (rows.map (·.rowRef))
  emitted : merged.emittedRecordCount = (sortedSet (rows.map (·.rowRef))).length
  sourceRecordRefs : merged.sourceRecordRefs = sortedSet (rows.flatMap (·.sourceRecordRefs))
  canonicalEntityIds : merged.canonicalEntityIds = sortedSet (rows.filterMap (·.canonicalEntityId))
  factGrainKeys : merged.factGrainKeys = sortedSet (rows.filterMap (·.factGrainKey))
  warehouseKeys : merged.warehouseKeys = sortedSet (rows.filterMap (·.warehouseKey))
  rowCount : merged.profile.rowCount = rows.length
  nonNullCount : merged.profile.nonNullCount = (measuresOf rows).length
  nullCount : merged.profile.nullCount = rows.length - (measuresOf rows).length
  minimum : Dec.IsLeastOf Dec.value (measuresOf rows) merged.profile.minimum
  maximum : Dec.IsLeastOf Dec.dualValue (measuresOf rows) merged.profile.maximum
  exactSum : merged.exactMeasureSum = merged.profile.exactSum
  dependencyPairs : merged.dependencyPairs = sortedSet (rows.filterMap dependencyOf)
  dependencyValid : merged.dependencyValid = ScaleService.dependencyValid merged.dependencyPairs
  sampled : ∃ candidates : List String, candidates.Nodup ∧
    (∀ ref, ref ∈ candidates ↔ ref ∈ service.selectedRefs rows policy) ∧
    merged.sampledRecordRefs =
      limitSample policy (sortedBy (service.sampleDigest policy) candidates)

section

variable (groups : List (List ScaleInputRow))

theorem measuresOf_flatten : measuresOf groups.flatten = groups.flatMap measuresOf :=
  filterMap_flatten_eq _ groups

theorem selectedRefs_eq (rows : List ScaleInputRow) (policy : ScalePolicy) :
    service.selectedRefs rows policy = (rows.map (·.rowRef)).filter fun ref =>
      1 ≤ policy.sampleRatio ∨
        (hexPrefix (service.sampleDigest policy ref) : Int) < (policy.sampleRatio * 2 ^ 64).floor := by
  unfold selectedRefs
  split <;> rename_i h
  · simp [h]
  · simp [h]

theorem mem_selectedRefs_flatten (ref : String) : ref ∈ service.selectedRefs groups.flatten policy ↔
      ∃ rows ∈ groups, ref ∈ service.selectedRefs rows policy := by
  simp only [selectedRefs_eq, map_flatten_eq, mem_filter, mem_flatMap]
  constructor
  · rintro ⟨⟨rows, hrows, hmem⟩, hkeep⟩
    exact ⟨rows, hrows, hmem, hkeep⟩
  · rintro ⟨rows, hrows, hmem, hkeep⟩
    exact ⟨⟨rows, hrows, hmem⟩, hkeep⟩

theorem length_measuresOf_le (rows : List ScaleInputRow) : (measuresOf rows).length ≤ rows.length :=
  length_filterMap_le _ _

theorem nullCount_groups : (groups.map fun rows => rows.length - (measuresOf rows).length).sum =
      groups.flatten.length - (measuresOf groups.flatten).length := by
  induction groups with
  | nil => rfl
  | cons rows groups ih =>
    have h1 := length_measuresOf_le rows
    have h2 := length_measuresOf_le groups.flatten
    have happ : (measuresOf (rows ++ groups.flatten)).length =
        (measuresOf rows).length + (measuresOf groups.flatten).length := by
      simp [measuresOf]
    rw [map_cons, sum_cons, ih, flatten_cons, length_append, happ]
    omega

end

theorem filterMap_eq_of_map {γ : Type} {xs : List α} {ys : List β} {f : α → Option γ}
    {g : β → Option γ} (h : xs.map f = ys.map g) : xs.filterMap f = ys.filterMap g := by
  have hid : ∀ {δ : Type} (zs : List δ) (k : δ → Option γ), zs.filterMap k =
      (zs.map k).filterMap id := by
    intro δ zs k
    rw [filterMap_map]
    rfl
  rw [hid xs f, hid ys g, h]

include h in
/-- **The merge summarizes.** The merged output of the outputs of any groups is a summary of the
rows of the groups. -/
theorem Reduces.summarizes (exactSum : Dec) : service.Summarizes policy groups.flatten
      (service.mergedOutput descriptor policy outputs exactSum) := by
  have hrefs : sortedSet (outputs.flatMap (·.recordRefs)) =
      sortedSet (groups.flatten.map (·.rowRef)) := by
    rw [h.flatMap_eq service (·.recordRefs) (fun rows => sorted (rows.map (·.rowRef)))
      fun _ _ _ => rfl]
    exact sortedSet_flatMap (by simp) (map_flatten_eq _) groups
  have hdeps : sortedSet (outputs.flatMap (·.dependencyPairs)) =
      sortedSet (groups.flatten.filterMap dependencyOf) := by
    rw [h.flatMap_eq service (·.dependencyPairs) (fun rows => sortedSet (rows.filterMap dependencyOf))
      fun _ _ _ => rfl]
    exact sortedSet_flatMap (by simp) (filterMap_flatten_eq _) groups
  have hmin : outputs.filterMap (·.profile.minimum) =
      (groups.map measuresOf).filterMap fun ds => ds.argmin Dec.value := by
    rw [filterMap_map]
    exact filterMap_eq_of_map (h.map_eq service (·.profile.minimum) _ fun _ _ _ => rfl)
  have hmax : outputs.filterMap (·.profile.maximum) =
      (groups.map measuresOf).filterMap fun ds => ds.argmin Dec.dualValue := by
    rw [filterMap_map]
    exact filterMap_eq_of_map (h.map_eq service (·.profile.maximum) _ fun _ _ _ => rfl)
  have hflat : (groups.map measuresOf).flatten = measuresOf groups.flatten := by
    rw [measuresOf_flatten, flatMap_def]
  refine
    { recordRefs := hrefs
      emitted := congrArg List.length hrefs
      sourceRecordRefs := ?_
      canonicalEntityIds := ?_
      factGrainKeys := ?_
      warehouseKeys := ?_
      rowCount := ?_
      nonNullCount := ?_
      nullCount := ?_
      minimum := ?_
      maximum := ?_
      exactSum := rfl
      dependencyPairs := hdeps
      dependencyValid := rfl
      sampled := ?_ }
  · change sortedSet (outputs.flatMap (·.sourceRecordRefs)) = _
    rw [h.flatMap_eq service (·.sourceRecordRefs)
      (fun rows => sortedSet (rows.flatMap (·.sourceRecordRefs))) fun _ _ _ => rfl]
    exact sortedSet_flatMap (by simp) (flatMap_flatten_eq _) groups
  · change sortedSet (outputs.flatMap (·.canonicalEntityIds)) = _
    rw [h.flatMap_eq service (·.canonicalEntityIds)
      (fun rows => sortedSet (rows.filterMap (·.canonicalEntityId))) fun _ _ _ => rfl]
    exact sortedSet_flatMap (by simp) (filterMap_flatten_eq _) groups
  · change sortedSet (outputs.flatMap (·.factGrainKeys)) = _
    rw [h.flatMap_eq service (·.factGrainKeys)
      (fun rows => sorted (rows.filterMap (·.factGrainKey))) fun _ _ _ => rfl]
    exact sortedSet_flatMap (by simp) (filterMap_flatten_eq _) groups
  · change sortedSet (outputs.flatMap (·.warehouseKeys)) = _
    rw [h.flatMap_eq service (·.warehouseKeys)
      (fun rows => sorted (rows.filterMap (·.warehouseKey))) fun _ _ _ => rfl]
    exact sortedSet_flatMap (by simp) (filterMap_flatten_eq _) groups
  · change (outputs.map (·.profile.rowCount)).sum = _
    rw [h.map_eq service (·.profile.rowCount) List.length fun _ _ _ => rfl, length_flatten]
  · change (outputs.map (·.profile.nonNullCount)).sum = _
    rw [h.map_eq service (·.profile.nonNullCount) (fun rows => (measuresOf rows).length)
      fun _ _ _ => rfl, measuresOf_flatten, length_flatMap]
  · change (outputs.map (·.profile.nullCount)).sum = _
    rw [h.map_eq service (·.profile.nullCount)
      (fun rows => rows.length - (measuresOf rows).length) fun _ _ _ => rfl, nullCount_groups]
  · rw [← hflat]
    change Dec.IsLeastOf _ _ (Dec.minimum (outputs.filterMap (·.profile.minimum)))
    rw [hmin]
    exact Dec.isLeastOf_groups _
  · rw [← hflat]
    change Dec.IsLeastOf _ _ (Dec.maximum (outputs.filterMap (·.profile.maximum)))
    rw [hmax, Dec.maximum_eq_argmin]
    exact Dec.isLeastOf_groups _
  · refine ⟨(outputs.flatMap (·.sampledRecordRefs)).dedup, nodup_dedup _, ?_, rfl⟩
    intro ref
    rw [mem_dedup, h.flatMap_eq service (·.sampledRecordRefs)
      (fun rows => service.sampleCandidates rows policy) fun _ _ _ => rfl,
      mem_selectedRefs_flatten]
    simp [sampleCandidates]

theorem Summarizes.perm {rows' : List ScaleInputRow} (h : service.Summarizes policy rows merged)
    (hp : rows.Perm rows') : service.Summarizes policy rows' merged := by
  have hmeasures : (measuresOf rows).Perm (measuresOf rows') := hp.filterMap _
  obtain ⟨candidates, hnodup, hmem, hsampled⟩ := h.sampled
  have hselected : (service.selectedRefs rows policy).Perm (service.selectedRefs rows' policy) := by
    rw [selectedRefs_eq, selectedRefs_eq]
    exact (hp.map _).filter _
  exact
    { recordRefs := h.recordRefs.trans (sortedSet_eq_of_perm (hp.map _))
      emitted := h.emitted.trans (congrArg List.length (sortedSet_eq_of_perm (hp.map _)))
      sourceRecordRefs := h.sourceRecordRefs.trans (sortedSet_eq_of_perm (hp.flatMap_right _))
      canonicalEntityIds := h.canonicalEntityIds.trans (sortedSet_eq_of_perm (hp.filterMap _))
      factGrainKeys := h.factGrainKeys.trans (sortedSet_eq_of_perm (hp.filterMap _))
      warehouseKeys := h.warehouseKeys.trans (sortedSet_eq_of_perm (hp.filterMap _))
      rowCount := h.rowCount.trans hp.length_eq
      nonNullCount := h.nonNullCount.trans hmeasures.length_eq
      nullCount := by rw [h.nullCount, hp.length_eq, hmeasures.length_eq]
      minimum := h.minimum.perm hmeasures
      maximum := h.maximum.perm hmeasures
      exactSum := h.exactSum
      dependencyPairs := h.dependencyPairs.trans (sortedSet_eq_of_perm (hp.filterMap _))
      dependencyValid := h.dependencyValid
      sampled := ⟨candidates, hnodup, fun ref => (hmem ref).trans hselected.mem_iff, hsampled⟩ }

variable (policy rows) in
/-- The digest tells the record references of the dataset apart. -/
def Separates : Prop :=
  ∀ a ∈ rows, ∀ b ∈ rows, service.sampleDigest policy a.rowRef = service.sampleDigest policy b.rowRef →
    a.rowRef = b.rowRef

theorem Summarizes.sampled_eq (h : service.Summarizes policy rows merged)
    (hrefs : (rows.map (·.rowRef)).Nodup) (hsep : service.Separates policy rows) :
    merged.sampledRecordRefs = limitSample policy (service.sampleCandidates rows policy) := by
  obtain ⟨candidates, hnodup, hmem, hsampled⟩ := h.sampled
  have hselected : (service.selectedRefs rows policy).Nodup := by
    rw [selectedRefs_eq]
    exact hrefs.filter _
  have hperm : candidates.Perm (service.selectedRefs rows policy) :=
    (perm_ext_iff_of_nodup hnodup hselected).2 hmem
  have hin : ∀ ref ∈ candidates, ∃ row ∈ rows, row.rowRef = ref := by
    intro ref href
    have := (hmem ref).1 href
    rw [selectedRefs_eq, mem_filter, mem_map] at this
    exact this.1
  rw [hsampled, sampleCandidates, sortedBy_eq_of_perm hperm]
  intro a ha b hb hab
  obtain ⟨ra, hra, rfl⟩ := hin a ha
  obtain ⟨rb, hrb, rfl⟩ := hin b hb
  exact hsep ra hra rb hrb hab

end DirtyDataOlap.Scale.ScaleService

import DirtyDataOlap.PartitionMerge
import DirtyDataOlap.FallibleLists

/-!
# Routing and scheduling of partitions

The routing rule is written three times, in the planner, in the worker and in the merge barrier.
All three are one function of the row, `routeOf`: the partitions of a plan are its fibres, and every
order of completion runs each of them exactly once.
-/
namespace DirtyDataOlap.Scale

open List

/-! ## Orders of completion -/

variable {pending order : List PartitionDescriptor}

theorem Collects.perm {waiting : List PartitionDescriptor} (h : Collects pending waiting order)
    (hw : pending = [] → waiting = []) : order.Perm (pending ++ waiting) := by
  induction h with
  | done waiting => simp [hw rfl]
  | @round pending waiting finished left later hne hperm _ _ ih =>
    have hlen : 0 < finished.length := length_pos_iff.2 hne
    have hnext : left ++ waiting.take finished.length = [] →
        waiting.drop finished.length = [] := by
      intro h
      have htake := (append_eq_nil_iff.1 h).2
      rcases take_eq_nil_iff.1 htake with h0 | h0
      · omega
      · simp [h0]
    have hrest := ih hnext
    rw [append_assoc, take_append_drop] at hrest
    calc finished ++ later
        |>.Perm (finished ++ (left ++ waiting)) := hrest.append_left finished
      _ |>.Perm ((finished ++ left) ++ waiting) := by rw [append_assoc]
      _ |>.Perm (pending ++ waiting) := hperm.append_right waiting

/-- Whatever is in flight, the futures can complete one at a time. -/
theorem Collects.exists_order (pending waiting : List PartitionDescriptor) :
    ∃ order, Collects pending waiting order := by
  induction hn : pending.length + waiting.length using Nat.strong_induction_on
    generalizing pending waiting with
  | _ n ih =>
    match pending with
    | [] => exact ⟨[], .done waiting⟩
    | first :: rest =>
      have hlen : (rest ++ waiting.take 1).length + (waiting.drop 1).length < n := by
        simp only [length_append, length_take, length_drop, length_cons] at hn ⊢
        omega
      obtain ⟨later, hlater⟩ := ih _ hlen _ _ rfl
      have hround := @Collects.round (first :: rest) waiting [first] rest later (by simp)
        (List.Perm.refl _) (by simp) hlater
      exact ⟨_, hround⟩

theorem Collects.exists_first {first : PartitionDescriptor} (waiting : List PartitionDescriptor)
    (h : first ∈ pending) : ∃ later, Collects pending waiting (first :: later) := by
  obtain ⟨before, after, rfl⟩ := append_of_mem h
  obtain ⟨later, hlater⟩ := Collects.exists_order ((before ++ after) ++ waiting.take 1)
    (waiting.drop 1)
  have hperm : (first :: (before ++ after)).Perm (before ++ first :: after) :=
    perm_middle.symm
  exact ⟨later, @Collects.round _ waiting [first] (before ++ after) later (by simp) hperm (by simp)
    hlater⟩

theorem Collects.in_order (queue : List PartitionDescriptor) {slots : Nat} (h : 1 ≤ slots) :
    Collects (queue.take slots) (queue.drop slots) queue := by
  induction queue with
  | nil => simpa using Collects.done []
  | cons first rest ih =>
    obtain ⟨k, rfl⟩ : ∃ k, slots = k + 1 := ⟨slots - 1, by omega⟩
    have hnext : Collects (rest.take k ++ (rest.drop k).take 1) ((rest.drop k).drop 1) rest := by
      rw [← take_add, drop_drop]
      exact ih
    exact @Collects.round _ (rest.drop k) [first] (rest.take k) rest (by simp)
      (List.Perm.refl _) (by simp) hnext

theorem workerSlots_pos (policy : ScalePolicy) (plan : PartitionPlan) :
    1 ≤ workerSlots policy plan := by
  have h1 := policy.bounds.2.1
  have h2 := policy.budgetShape.1
  unfold workerSlots
  omega

/-- **Every partition is collected exactly once**, whatever the order of completion. -/
theorem Completion.perm {policy : ScalePolicy} {plan : PartitionPlan}
    (h : Completion policy plan order) : order.Perm plan.partitions := by
  have hpos := workerSlots_pos policy plan
  have hw : (sortedBy (·.partitionId) plan.partitions).take (workerSlots policy plan) = [] →
      (sortedBy (·.partitionId) plan.partitions).drop (workerSlots policy plan) = [] := by
    intro htake
    rcases take_eq_nil_iff.1 htake with h0 | h0
    · omega
    · simp [h0]
  have hperm := Collects.perm h hw
  rw [take_append_drop] at hperm
  exact hperm.trans (sortedBy_perm _ _)

theorem Completion.in_order (policy : ScalePolicy) (plan : PartitionPlan) :
    Completion policy plan (sortedBy (·.partitionId) plan.partitions) :=
  Collects.in_order _ (workerSlots_pos policy plan)

/-! ## One routing rule -/

namespace ScaleService

variable (service : ScaleService)

/-- The partition a row belongs to. -/
def routeOf (strategy : PartitionStrategy) (boundaries : List String) (seed : Int) (count : Nat)
    (row : ScaleInputRow) : Nat :=
  match strategy with
  | .singleNode | .existingStagedPart => 0
  | .range => min (rangeIndex boundaries row) (count - 1)
  | .blockKey =>
    service.bucket (orText row.blockKey (orText row.groupKey row.partitionKey)) seed count
  | .hash =>
    service.bucket (orText (some row.partitionKey) (orText row.factGrainKey row.rowRef)) seed count

theorem routeOf_lt {strategy : PartitionStrategy} {boundaries : List String} {seed : Int}
    {count : Nat} (hc : 1 ≤ count) (row : ScaleInputRow) :
    service.routeOf strategy boundaries seed count row < count := by
  cases strategy with
  | singleNode | existingStagedPart => exact hc
  | range =>
    simp only [routeOf]
    omega
  | blockKey | hash => exact Nat.mod_lt _ hc

variable {dataset : ScaleInputDataset} {policy : ScalePolicy} {plan : PartitionPlan}
  {strategy : PartitionStrategy} {partitionCount requestedParallelism : Option Int}

theorem assignedBucket_eq (hs : strategy ≠ .existingStagedPart) (count : Nat) (policy : ScalePolicy)
    (row : ScaleInputRow) : service.assignedBucket strategy count policy row =
      .ok (service.routeOf strategy policy.rangeBoundaries policy.deterministicSeed count row) := by
  cases strategy <;> first | rfl | exact absurd rfl hs

theorem workerRows_eq (hs : plan.strategy ≠ .existingStagedPart) (partition : PartitionDescriptor) :
    service.workerRows dataset plan policy partition = .ok (dataset.rows.filter fun row =>
      service.routeOf plan.strategy policy.rangeBoundaries plan.deterministicSeed
        plan.partitionCount row = partition.logicalPartitionIndex) := by
  unfold workerRows
  cases hstrategy : plan.strategy with
  | singleNode => simp [routeOf, eq_comm]
  | range => rfl
  | blockKey | hash =>
    apply filterM_ok
    intro row _
    rfl
  | existingStagedPart => exact absurd hstrategy hs

theorem validatorRows_eq (partition : PartitionDescriptor) :
    service.validatorRows dataset plan policy partition =
      service.workerRows dataset plan policy partition := by
  unfold validatorRows workerRows
  cases plan.strategy <;> simp

theorem partitionAssignments_eq {count : Nat} (hs : strategy ≠ .existingStagedPart) :
    service.partitionAssignments dataset strategy count policy =
      .ok (fibres (service.routeOf strategy policy.rangeBoundaries policy.deterministicSeed count)
        (List.range count) dataset.rows) := by
  let route := service.routeOf strategy policy.rangeBoundaries policy.deterministicSeed count
  have hstep : ∀ (rows done : List ScaleInputRow),
      rows.foldlM (fun assignments row => do
        let index ← service.assignedBucket strategy count policy row
        return assignments.modify index (· ++ [row])) (fibres route (List.range count) done) =
      Except.ok (ε := Failure) (fibres route (List.range count) (done ++ rows)) := by
    intro rows
    induction rows with
    | nil =>
      intro done
      rw [append_nil]
      rfl
    | cons row rows ih =>
      intro done
      have hmodify : (fibres route (List.range count) done).modify (route row) (· ++ [row]) =
          fibres route (List.range count) (done ++ [row]) := by
        apply ext_getElem?
        intro i
        simp only [fibres, List.getElem?_modify, getElem?_map, filter_append]
        by_cases hi : i < count
        · rw [List.getElem?_range hi]
          by_cases hr : route row = i
          · simp [hr]
          · simp [hr]
        · simp [List.getElem?_eq_none_iff.2 (by simpa using hi : (List.range count).length ≤ i)]
      rw [foldlM_cons, service.assignedBucket_eq hs]
      simp only [bind, Except.bind, pure, Except.pure] at ih ⊢
      rw [hmodify, ih, append_assoc]
      rfl
  have hnil : replicate count ([] : List ScaleInputRow) =
      fibres route (List.range count) [] := by
    simp [fibres, map_const']
  unfold partitionAssignments
  rw [hnil, hstep]
  rfl

variable (dataset policy plan) in
/-- A plan made for the dataset under the policy: its partitions are numbered in order and each
records the rows routed to it. -/
structure Planned : Prop where
  strategy : plan.strategy ≠ .existingStagedPart
  scope : plan.scope = dataset.descriptor.scope
  inputContentHash : plan.inputContentHash = dataset.descriptor.contentHash
  seed : plan.deterministicSeed = policy.deterministicSeed
  indices : plan.partitions.map (·.logicalPartitionIndex) = List.range plan.partitionCount
  rows : ∀ partition ∈ plan.partitions, ∃ rows, service.workerRows dataset plan policy partition =
    .ok rows ∧ partition.expectedRowDigest = service.rowsDigest rows ∧
    partition.expectedRowCount = rows.length

theorem countFor_pos (strategy : PartitionStrategy) (policy : ScalePolicy) (decision : ScaleDecision)
    (partitionCount : Option Int) : 1 ≤ countFor strategy policy decision partitionCount := by
  unfold countFor
  split <;> omega

theorem strategyFor_ne {decision : ScaleDecision}
    (h : service.strategyFor dataset policy decision = .ok strategy) :
    strategy ≠ .existingStagedPart := by
  rintro rfl
  unfold strategyFor at h
  split at h
  · simp at h
  · split at h
    · simp at h
    · rename_i hne heq
      simp only [Except.ok.injEq] at h
      exact hne h
    · split at h <;> simp at h

section
variable (h : service.plan dataset policy partitionCount requestedParallelism = .ok plan)
include h

/-- `plan` assesses the input, chooses a strategy, and builds the plan of the routed rows. -/
theorem plan_spec : ∃ strategy count, strategy ≠ .existingStagedPart ∧ 1 ≤ count ∧
      service.buildPlan dataset policy strategy count
        (fibres (service.routeOf strategy policy.rangeBoundaries policy.deterministicSeed count)
          (List.range count) dataset.rows) = .ok plan := by
  simp only [ScaleService.plan, bind, Except.bind] at h
  split at h
  · simp at h
  rename_i decision _
  split at h
  · simp at h
  rename_i strategy hstrategy
  have hs := service.strategyFor_ne hstrategy
  have hc := countFor_pos strategy policy decision partitionCount
  rw [service.partitionAssignments_eq hs] at h
  simp only at h
  split at h
  · simp at h
  · exact ⟨strategy, _, hs, hc, h⟩

theorem planned_of_plan : service.Planned dataset policy plan := by
  obtain ⟨strategy, count, hs, hc, hbuild⟩ := service.plan_spec h
  simp only [buildPlan] at hbuild
  split at hbuild
  · simp only [Except.ok.injEq] at hbuild
    subst hbuild
    refine ⟨hs, rfl, rfl, rfl, ?_, ?_⟩
    · apply ext_getElem
      · simp [partitionContents, fibres]
      · intro i h1 h2
        simp [partitionContents, partitionContent, partitionDescriptor]
    · intro partition hp
      simp only [partitionContents, mem_map, mem_mapIdx] at hp
      obtain ⟨_, ⟨i, hi, rfl⟩, rfl⟩ := hp
      refine ⟨_, service.workerRows_eq hs _, ?_, ?_⟩ <;>
        simp [partitionDescriptor, partitionContent, fibres]
  · simp at hbuild

end

end ScaleService

end DirtyDataOlap.Scale

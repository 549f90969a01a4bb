import DirtyDataOlap.PartitionEquivalence
import DirtyDataOlap.RangeCuts

/-!
# Range descriptors

A plan by range routes a row by the number of boundaries at or below its key, held to the last
partition.  Nothing puts the boundaries in order or bounds their number, and so a descriptor can
exclude a row that its partition holds.
-/
namespace DirtyDataOlap.Scale

open Cuts (position Between)

structure PartitionDescriptor.Covers (partition : PartitionDescriptor) (key : String) : Prop where
  start : ∀ boundary ∈ partition.rangeStart, boundary ≤ key
  stop : ∀ boundary ∈ partition.rangeEnd, key < boundary

/-- The boundaries place the key where it is routed: in the piece of its position when the position is
the number of a partition, and in the last partition's piece when it is not. -/
def Places (boundaries : List String) (count : Nat) (key : String) : Prop :=
  if position boundaries key < count then Between boundaries (position boundaries key) key
  else Between boundaries (count - 1) key

variable {count : Nat} {boundaries : List String}

theorem places_iff (hc : 1 ≤ count) (boundaries : List String) (key : String) :
    Places boundaries count key ↔
      Between boundaries (min (position boundaries key) (count - 1)) key := by
  unfold Places
  by_cases hlt : position boundaries key < count
  · rw [if_pos hlt, show min (position boundaries key) (count - 1) = position boundaries key by omega]
  · rw [if_neg hlt, show min (position boundaries key) (count - 1) = count - 1 by omega]

theorem places_of_length (h : boundaries.length < count) (key : String) :
    Places boundaries count key ↔ Between boundaries (position boundaries key) key := by
  have hle := Cuts.position_le_length boundaries key
  unfold Places
  rw [if_pos (by omega)]

theorem forall_places_iff (hc : 1 ≤ count) : (∀ key, Places boundaries count key) ↔
      boundaries.length < count ∧ ∀ boundary ∈ boundaries, Places boundaries count boundary := by
  simp only [places_iff hc]
  rw [Cuts.forall_between_iff hc, and_congr_right_iff]
  intro hlength
  apply forall₂_congr
  intro boundary _
  rw [← places_iff hc, places_of_length hlength]

theorem places_iff_of_sorted (hc : 1 ≤ count) (hs : boundaries.Pairwise (· ≤ ·)) (key : String) :
    Places boundaries count key ↔ ∀ boundary ∈ boundaries[count - 1]?, key < boundary := by
  rw [places_iff hc, Cuts.between_min_iff hs hc, Cuts.position_lt_iff hs hc]

namespace ScaleService

variable {service : ScaleService} {dataset : ScaleInputDataset} {policy : ScalePolicy}
  {plan : PartitionPlan} {partitionCount requestedParallelism : Option Int}

variable (service dataset policy plan) in
def Truthful : Prop :=
  ∀ partition ∈ plan.partitions, ∀ row ∈ dataset.rows,
    service.assignedBucket plan.strategy plan.partitionCount policy row =
      .ok partition.logicalPartitionIndex → partition.Covers row.partitionKey

theorem plan_assessed (h : service.plan dataset policy partitionCount requestedParallelism = .ok plan)
    {decision : ScaleDecision} {strategy : PartitionStrategy}
    (hassess : service.assess dataset policy requestedParallelism = .ok decision)
    (hstrategy : service.strategyFor dataset policy decision = .ok strategy) :
    plan.strategy = strategy ∧
      plan.partitionCount = countFor strategy policy decision partitionCount := by
  rw [ScaleService.plan, hassess] at h
  simp only [bind, Except.bind, hstrategy,
    service.partitionAssignments_eq (service.strategyFor_ne hstrategy)] at h
  split at h
  · simp at h
  · unfold buildPlan at h
    simp only at h
    split at h
    · simp only [Except.ok.injEq] at h
      subst h
      exact ⟨rfl, rfl⟩
    · simp at h

variable {partition : PartitionDescriptor}

section
variable (h : service.plan dataset policy partitionCount requestedParallelism = .ok plan)
include h

theorem range_of_plan (hp : partition ∈ plan.partitions) :
    partition.rangeStart = (if plan.strategy = .range ∧ 0 < partition.logicalPartitionIndex then
      policy.rangeBoundaries[partition.logicalPartitionIndex - 1]? else none) ∧
    partition.rangeEnd = (if plan.strategy = .range then
      policy.rangeBoundaries[partition.logicalPartitionIndex]? else none) := by
  obtain ⟨strategy, count, hs, hc, hbuild⟩ := service.plan_spec h
  unfold buildPlan at hbuild
  simp only at hbuild
  split at hbuild
  · simp only [Except.ok.injEq] at hbuild
    subst hbuild
    simp only [partitionContents, List.mem_map, List.mem_mapIdx] at hp
    obtain ⟨_, ⟨i, hi, rfl⟩, rfl⟩ := hp
    exact ⟨rfl, rfl⟩
  · simp at hbuild

theorem covers_iff (hp : partition ∈ plan.partitions) (key : String) :
    partition.Covers key ↔ (plan.strategy = .range →
      Between policy.rangeBoundaries partition.logicalPartitionIndex key) := by
  obtain ⟨hstart, hend⟩ := range_of_plan h hp
  by_cases hrange : plan.strategy = .range
  · rw [if_pos hrange] at hend
    constructor
    · intro hcovers _
      refine ⟨fun hpos boundary hb => hcovers.start boundary ?_, fun boundary hb =>
        hcovers.stop boundary ?_⟩
      · rwa [hstart, if_pos ⟨hrange, hpos⟩]
      · rwa [hend]
    · intro hbetween
      refine ⟨fun boundary hb => ?_, fun boundary hb => ?_⟩
      · rw [hstart] at hb
        by_cases hpos : 0 < partition.logicalPartitionIndex
        · rw [if_pos ⟨hrange, hpos⟩] at hb
          exact (hbetween hrange).below hpos boundary hb
        · rw [if_neg fun hboth => hpos hboth.2] at hb
          cases hb
      · rw [hend] at hb
        exact (hbetween hrange).above boundary hb
  · rw [if_neg fun hboth => hrange hboth.1] at hstart
    rw [if_neg hrange] at hend
    constructor
    · intro _ hcontra
      exact absurd hcontra hrange
    · intro _
      refine ⟨fun boundary hb => ?_, fun boundary hb => ?_⟩
      · rw [hstart] at hb
        cases hb
      · rw [hend] at hb
        cases hb

/-- A plan is truthful when the boundaries place every key. -/
theorem truthful_iff : service.Truthful dataset policy plan ↔ (plan.strategy = .range →
      ∀ row ∈ dataset.rows, Places policy.rangeBoundaries plan.partitionCount row.partitionKey) := by
  have hplan := service.planned_of_plan h
  constructor
  · intro htrue hrange row hrow
    obtain ⟨partition, hp, hrouted⟩ := service.exists_routedTo hplan hrow
    have hassigned := (hrouted partition hp).1.2 rfl
    have hbetween := (covers_iff h hp _).1 (htrue partition hp row hrow hassigned) hrange
    rw [hrange] at hassigned
    rw [places_iff plan.count, show position policy.rangeBoundaries row.partitionKey =
      rangeIndex policy.rangeBoundaries row from rfl, Except.ok.inj hassigned]
    exact hbetween
  · intro hplaces partition hp row hrow hassigned
    rw [covers_iff h hp]
    intro hrange
    have hplace := hplaces hrange row hrow
    rw [hrange] at hassigned
    rw [places_iff plan.count, show position policy.rangeBoundaries row.partitionKey =
      rangeIndex policy.rangeBoundaries row from rfl, Except.ok.inj hassigned] at hplace
    exact hplace

end

end ScaleService

/-- **Range descriptors are true of the rows exactly when the boundaries place their keys.** With the
boundaries in order this says that no key reaches the boundary that ends the last partition; and it
is so of every key exactly when there are fewer boundaries than partitions and the boundaries place
one another, which distinct boundaries do only in order. -/
theorem range_descriptors_truthful_iff {service : ScaleService} {dataset : ScaleInputDataset}
    {policy : ScalePolicy} {partitionCount requestedParallelism : Option Int} {plan : PartitionPlan}
    {decision : ScaleDecision} {strategy : PartitionStrategy} {count : Nat}
    (hassess : service.assess dataset policy requestedParallelism = .ok decision)
    (hstrategy : service.strategyFor dataset policy decision = .ok strategy)
    (hcount : ScaleService.countFor strategy policy decision partitionCount = count)
    (hplan : service.plan dataset policy partitionCount requestedParallelism = .ok plan) :
    (service.Truthful dataset policy plan ↔ (strategy = .range →
      ∀ row ∈ dataset.rows, Places policy.rangeBoundaries count row.partitionKey)) ∧
    (policy.rangeBoundaries.Pairwise (· ≤ ·) →
      (service.Truthful dataset policy plan ↔ (strategy = .range →
        ∀ row ∈ dataset.rows, ∀ boundary ∈ policy.rangeBoundaries[count - 1]?,
          row.partitionKey < boundary))) ∧
    ((∀ key, Places policy.rangeBoundaries count key) ↔ policy.rangeBoundaries.length < count ∧
      ∀ boundary ∈ policy.rangeBoundaries, Places policy.rangeBoundaries count boundary) ∧
    (policy.rangeBoundaries.Nodup → ((∀ key, Places policy.rangeBoundaries count key) ↔
      policy.rangeBoundaries.length < count ∧ policy.rangeBoundaries.Pairwise (· < ·))) := by
  obtain ⟨hs, hc⟩ := ScaleService.plan_assessed hplan hassess hstrategy
  rw [hcount] at hc
  have hpos : 1 ≤ count := hc ▸ plan.count
  have htruthful := ScaleService.truthful_iff hplan
  rw [hs, hc] at htruthful
  refine ⟨htruthful, fun hsorted => ?_, forall_places_iff hpos, fun hnodup => ?_⟩
  · rw [htruthful]
    apply forall_congr'
    intro _
    apply forall₂_congr
    intro row _
    exact places_iff_of_sorted hpos hsorted row.partitionKey
  · rw [forall_places_iff hpos, and_congr_right_iff]
    intro hlength
    rw [← Cuts.forall_cuts_iff hnodup]
    apply forall₂_congr
    intro boundary _
    rw [places_of_length hlength]

theorem range_descriptors_truthful_iff_two : ∃ decision plan,
    demoService.assess demoDataset { demoPolicy .range with rangeBoundaries := ["customer-2"] } none =
      .ok decision ∧
    demoService.plan demoDataset { demoPolicy .range with rangeBoundaries := ["customer-2"] } (some 2)
      none = .ok plan ∧
    demoService.Truthful demoDataset { demoPolicy .range with rangeBoundaries := ["customer-2"] }
      plan := by
  obtain ⟨plan, hplan, _⟩ := demoPlanned_spec (show demoPlanned demoDataset
    { demoPolicy .range with rangeBoundaries := ["customer-2"] } 2 (fun _ => true) = true by
      decide +kernel)
  have hassess : demoService.assess demoDataset
      { demoPolicy .range with rangeBoundaries := ["customer-2"] } none = .ok ⟨.partitionedLocal, 2⟩ := by
    decide +kernel
  have hstrategy : demoService.strategyFor demoDataset
      { demoPolicy .range with rangeBoundaries := ["customer-2"] } ⟨.partitionedLocal, 2⟩ =
        .ok .range := by
    decide +kernel
  have hcount : ScaleService.countFor .range
      { demoPolicy .range with rangeBoundaries := ["customer-2"] } ⟨.partitionedLocal, 2⟩ (some 2) =
        2 := by
    decide +kernel
  refine ⟨_, plan, hassess, hplan, ?_⟩
  refine ((range_descriptors_truthful_iff hassess hstrategy hcount hplan).2.1 (by decide +kernel)).2 ?_
  intro _ row _ boundary hb
  cases hb

/-- A row whose key is the boundary that ends the only partition is held to it. -/
theorem clamped_range_descriptor : ¬ ∀ (service : ScaleService) (dataset : ScaleInputDataset)
    (policy : ScalePolicy) (partitionCount requestedParallelism : Option Int) (plan : PartitionPlan),
    policy.partitionStrategy = some .range →
    service.plan dataset policy partitionCount requestedParallelism = .ok plan →
    service.Truthful dataset policy plan := by
  intro h
  obtain ⟨plan, hplan, hcheck⟩ := demoPlanned_spec (show demoPlanned demoDataset
    { demoPolicy .range with rangeBoundaries := ["customer-1"] } 1 (fun plan =>
      plan.strategy = .range && plan.partitionCount = 1 && plan.partitions.any fun partition =>
        partition.logicalPartitionIndex = 0 && partition.rangeEnd = some "customer-1") = true by
      decide +kernel)
  simp only [Bool.and_eq_true, decide_eq_true_eq, List.any_eq_true] at hcheck
  obtain ⟨⟨hstrategy, hcount⟩, partition, hp, hindex, hend⟩ := hcheck
  have hcovers := h _ _ _ _ _ plan rfl hplan partition hp (demoRow "row-1" "customer-1" ⟨false, 15, -1⟩)
    List.mem_cons_self (by rw [hstrategy, hcount, hindex]; rfl)
  exact absurd (hcovers.stop "customer-1" hend) (lt_irrefl _)

end DirtyDataOlap.Scale

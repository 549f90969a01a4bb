import DirtyDataOlap.PartitionEquivalence

/-!
# The merge barrier

The barrier is given results of any inputs, in any order and any of them more than once.  It returns
exactly when they are gathered (every partition is there, and no other, and every result is what the
barrier recomputes) and their outputs join; what it returns is a function of the set of the results.
-/
namespace DirtyDataOlap.Scale

open List

def PartitionResult.content (result : PartitionResult) : Content :=
  .partitionResult result.partitionId result.partitionPlanId result.partitionPlanHash
    result.operationId result.operationVersion result.status result.inputId result.inputContentHash
    result.schemaFingerprint (result.output.map (·.semanticContent)) result.recordCount
    result.candidatePairCount result.shuffleRecords result.shuffleBytes result.failureCode

namespace ScaleService

variable {service : ScaleService} {dataset : ScaleInputDataset} {plan : PartitionPlan}
  {policy : ScalePolicy} {results : List PartitionResult}

variable (service plan) in
/-- A worker made the result under the plan, over some input and for some partition. -/
def Produced (result : PartitionResult) : Prop :=
  ∃ dataset policy partition shouldFail,
    service.runPartition dataset plan policy partition shouldFail = result

variable (service dataset plan policy) in
/-- The output the barrier compares the result of a partition with. -/
def recomputed (partition : PartitionDescriptor) : Except Failure ScalePartitionOutput := do
  let rows ← service.validatorRows dataset plan policy partition
  service.outputForRows rows dataset.descriptor policy plan.strategy

variable (service dataset plan policy results) in
structure TellsApart : Prop where
  contents : ∀ a ∈ results, ∀ b ∈ results,
    service.semanticResultHash a = service.semanticResultHash b → a.content = b.content
  outputs : ∀ result ∈ results, ∀ output ∈ result.output, ∀ partition ∈ plan.partitions,
    ∀ expected, service.recomputed dataset plan policy partition = .ok expected →
      service.outputHash output = service.outputHash expected →
      output.semanticContent = expected.semanticContent

variable {result : PartitionResult} {pid : String} {selected : List PartitionResult}
  {outputs : List ScalePartitionOutput}

theorem Produced.of_succeeded (h : service.Produced plan result) (hs : result.status = .succeeded) :
    result.partitionPlanId = plan.partitionPlanId ∧
    result.partitionPlanHash = plan.partitionPlanHash ∧ result.inputId = plan.scope.inputId ∧
    result.inputContentHash = plan.inputContentHash ∧
    result.schemaFingerprint = plan.scope.schemaFingerprint ∧
    result.failureCode = none ∧ result.failureReason = none ∧
    ∃ output, result.output = some output := by
  obtain ⟨dataset, policy, partition, shouldFail, rfl⟩ := h
  obtain ⟨failures, hfailures⟩ : ∃ failures : List String,
      shouldFail = decide (partition.partitionId ∈ failures) := by
    cases shouldFail with
    | true => exact ⟨[partition.partitionId], by simp⟩
    | false => exact ⟨[], by simp⟩
  rw [hfailures] at hs ⊢
  obtain ⟨rows, output, hr⟩ := service.reduced_of_succeeded hs
  rw [show service.runPartition dataset plan policy partition _ = _ from service.resultOf_eq hr]
  exact ⟨rfl, rfl, rfl, rfl, rfl, rfl, rfl, output, rfl⟩

/-- A result passes the validation of its partition when it succeeded with the recomputed output. -/
theorem validateResult_eq_ok (h : service.Produced plan result) {partition : PartitionDescriptor}
    (hid : result.partitionId = partition.partitionId) :
    service.validateResult dataset plan policy partition result = .ok () ↔
      result.status = .succeeded ∧ ∃ output expected, result.output = some output ∧
        service.recomputed dataset plan policy partition = .ok expected ∧
        service.outputHash output = service.outputHash expected := by
  by_cases hs : result.status = .succeeded
  · obtain ⟨h1, h2, h3, h4, h5, h6, h7, output, hout⟩ := h.of_succeeded hs
    have hrest : service.validateResult dataset plan policy partition result = (do
        let expected ← service.recomputed dataset plan policy partition
        if service.outputHash output ≠ service.outputHash expected then
          throw (.merge ("partition " ++ partition.partitionId ++ " semantic output hash mismatch"))) := by
      simp only [validateResult, recomputed, hs, h1, h2, h3, h4, h5, h6, h7, hid, hout, ne_eq,
        not_true_eq_false, or_self, if_false, bind_assoc]
    rw [hrest, bind_eq_ok]
    constructor
    · rintro ⟨expected, hexpected, hcheck⟩
      by_cases hsame : service.outputHash output = service.outputHash expected
      · exact ⟨hs, output, expected, hout, hexpected, hsame⟩
      · rw [if_pos hsame] at hcheck
        cases hcheck
    · rintro ⟨_, output', expected, hout', hexpected, hsame⟩
      cases hout.symm.trans hout'
      exact ⟨expected, hexpected, by rw [if_neg (not_not.2 hsame)]; rfl⟩
  · constructor
    · intro hvalid
      unfold validateResult at hvalid
      rw [if_pos hs] at hvalid
      cases hvalid
    · rintro ⟨hs', -⟩
      exact absurd hs' hs

/-! ## Selection -/

variable (results pid) in
def firstFor : Option PartitionResult :=
  results.find? fun result => result.partitionId = pid

theorem firstFor_spec (h : firstFor results pid = some result) :
    result ∈ results ∧ result.partitionId = pid :=
  ⟨mem_of_find?_eq_some h, by simpa using find?_some h⟩

theorem exists_firstFor (hr : result ∈ results) (hid : result.partitionId = pid) :
    ∃ first, firstFor results pid = some first := by
  rw [← Option.isSome_iff_exists, firstFor, find?_isSome]
  exact ⟨result, hr, by simpa using hid⟩

theorem length_dedup_le_one {α : Type} [DecidableEq α] {xs : List α} :
    xs.dedup.length ≤ 1 ↔ ∀ a ∈ xs, ∀ b ∈ xs, a = b := by
  constructor
  · intro h a ha b hb
    rw [← mem_dedup] at ha hb
    match hd : xs.dedup with
    | [] =>
      rw [hd] at ha
      cases ha
    | [c] =>
      rw [hd, mem_singleton] at ha hb
      rw [ha, hb]
    | _ :: _ :: _ =>
      rw [hd] at h
      simp at h
  · intro h
    have hnodup := xs.nodup_dedup
    match hd : xs.dedup with
    | [] => simp
    | [c] => simp
    | a :: b :: rest =>
      rw [hd] at hnodup
      have ha : a ∈ xs := mem_dedup.1 (by rw [hd]; simp)
      have hb : b ∈ xs := mem_dedup.1 (by rw [hd]; simp)
      rw [h a ha b hb] at hnodup
      simp at hnodup

theorem selectResult_eq_ok :
    service.selectResult results pid = .ok result ↔ firstFor results pid = some result ∧
      ∀ a ∈ results, ∀ b ∈ results, a.partitionId = pid → b.partitionId = pid →
        service.semanticResultHash a = service.semanticResultHash b := by
  have hfirst : (grouped results pid).head? = firstFor results pid := head?_filter
  have hagree : ((grouped results pid).map service.semanticResultHash).dedup.length ≤ 1 ↔
      ∀ a ∈ results, ∀ b ∈ results, a.partitionId = pid → b.partitionId = pid →
        service.semanticResultHash a = service.semanticResultHash b := by
    rw [length_dedup_le_one]
    simp only [grouped, mem_map, mem_filter, decide_eq_true_eq]
    constructor
    · intro h a ha b hb hai hbi
      exact h _ ⟨a, ⟨ha, hai⟩, rfl⟩ _ ⟨b, ⟨hb, hbi⟩, rfl⟩
    · rintro h _ ⟨a, ⟨ha, hai⟩, rfl⟩ _ ⟨b, ⟨hb, hbi⟩, rfl⟩
      exact h a ha b hb hai hbi
  rw [← hagree, ← hfirst]
  unfold selectResult
  by_cases hmany : 1 < ((grouped results pid).map service.semanticResultHash).dedup.length
  · simp only [if_pos hmany, reduceCtorEq, false_iff, not_and]
    omega
  · have hle := not_lt.1 hmany
    simp only [if_neg hmany, hle, and_true]
    cases grouped results pid <;> simp

theorem resultFor_selected {parts : List PartitionDescriptor}
    (h : Forall₂ (fun p result => PartitionResult.partitionId result = p.partitionId) parts selected)
    (hnodup : (parts.map (·.partitionId)).Nodup) :
    Forall₂ (fun p result => resultFor selected p.partitionId = .ok result) parts selected := by
  induction h with
  | nil => exact .nil
  | @cons p result parts selected hid htail ih =>
    rw [map_cons, nodup_cons] at hnodup
    have hhead : resultFor (result :: selected) p.partitionId = .ok result := by
      rw [resultFor, find?_cons_of_pos (by simpa using hid)]
    refine .cons hhead ?_
    have hrest := forall₂_iff_zip.1 (ih hnodup.2)
    refine forall₂_iff_zip.2 ⟨hrest.1, fun {q other} hzip => ?_⟩
    have hne : result.partitionId ≠ q.partitionId := by
      intro heq
      exact hnodup.1 (mem_map.2 ⟨q, (of_mem_zip hzip).1, heq.symm.trans hid⟩)
    rw [resultFor, find?_cons_of_neg (by simpa using hne)]
    exact hrest.2 hzip

theorem exists_mem_zip {α β : Type} {xs : List α} {ys : List β} (hlen : xs.length = ys.length)
    {x : α} (hx : x ∈ xs) : ∃ y, (x, y) ∈ xs.zip ys := by
  rw [← map_fst_zip hlen.le] at hx
  obtain ⟨⟨_, y⟩, hzip, rfl⟩ := mem_map.1 hx
  exact ⟨y, hzip⟩

/-- **What the barrier does**: it selects a result for each partition, validates each selected
result, and merges them. -/
theorem merge_eq_ok {outcome : ScaleMergedOutput × PartitionMergeManifest} :
    service.merge dataset plan policy results = .ok outcome ↔
      ((∀ pid ∈ plan.expectedPartitionIds, ∃ result ∈ results, result.partitionId = pid) ∧
      ∀ result ∈ results, result.partitionId ∈ plan.expectedPartitionIds) ∧ ∃ selected,
        Forall₂ (fun p result => service.selectResult results p.partitionId = .ok result)
          (queue plan) selected ∧
        Forall₂ (fun p result => service.validateResult dataset plan policy p result = .ok ())
          (queue plan) selected ∧
        service.mergeSelected dataset plan policy selected = .ok outcome := by
  have hselect : ∀ selected, (sorted plan.expectedPartitionIds).mapM (service.selectResult results) =
      .ok selected ↔ Forall₂ (fun p result =>
        service.selectResult results p.partitionId = .ok result) (queue plan) selected := by
    intro selected
    rw [← plan.closure.1, sorted_map_key, ← queue, mapM_eq_ok, forall₂_map_left_iff]
  have hvalid : ∀ selected, Forall₂ (fun p result =>
        service.selectResult results p.partitionId = .ok result) (queue plan) selected →
      ((plan.partitions.forM fun partition => do
        let result ← resultFor selected partition.partitionId
        service.validateResult dataset plan policy partition result) = Except.ok () ↔
      Forall₂ (fun p result => service.validateResult dataset plan policy p result = .ok ())
          (queue plan) selected) := by
    intro selected hselected
    have hids := hselected.imp fun p result hp => (firstFor_spec (selectResult_eq_ok.1 hp).1).2
    have hnodup : ((queue plan).map (·.partitionId)).Nodup :=
      ((sortedBy_perm _ _).map _).nodup_iff.2 plan.nodup_ids
    have hfound := resultFor_selected hids hnodup
    rw [forM_eq_ok]
    constructor
    · intro h
      refine forall₂_iff_zip.2 ⟨hselected.length_eq, fun {p result} hzip => ?_⟩
      have hp := h p (mem_queue.1 (of_mem_zip hzip).1)
      rw [(forall₂_iff_zip.1 hfound).2 hzip] at hp
      exact hp
    · intro h p hp
      obtain ⟨result, hzip⟩ := exists_mem_zip hselected.length_eq (mem_queue.2 hp)
      rw [(forall₂_iff_zip.1 hfound).2 hzip]
      exact (forall₂_iff_zip.1 h).2 hzip
  have hclosed : ¬ (sortedSet (plan.expectedPartitionIds.filter (· ∉ results.map (·.partitionId))) ≠ [] ∨
      sortedSet ((results.map (·.partitionId)).filter (· ∉ plan.expectedPartitionIds)) ≠ []) ↔
      (∀ pid ∈ plan.expectedPartitionIds, ∃ result ∈ results, result.partitionId = pid) ∧
      ∀ result ∈ results, result.partitionId ∈ plan.expectedPartitionIds := by
    rw [not_or, not_not, not_not, sortedSet_eq_nil, sortedSet_eq_nil, filter_eq_nil_iff,
      filter_eq_nil_iff]
    simp only [decide_eq_true_eq, not_not, mem_map, forall_exists_index, and_imp,
      forall_apply_eq_imp_iff₂]
  unfold merge
  by_cases hopen : sortedSet (plan.expectedPartitionIds.filter (· ∉ results.map (·.partitionId))) ≠ [] ∨
      sortedSet ((results.map (·.partitionId)).filter (· ∉ plan.expectedPartitionIds)) ≠ []
  · rw [if_pos hopen, ← hclosed]
    constructor
    · intro h
      cases h
    · rintro ⟨h, -⟩
      exact absurd hopen h
  · rw [if_neg hopen, ← hclosed]
    simp only [bind_eq_ok]
    constructor
    · rintro ⟨selected, hs, _, hv, hm⟩
      have hs' := (hselect selected).1 hs
      exact ⟨hopen, selected, hs', (hvalid selected hs').1 hv, hm⟩
    · rintro ⟨-, selected, hs, hv, hm⟩
      exact ⟨selected, (hselect selected).2 hs, (), (hvalid selected hs).2 hv, hm⟩

/-! ## Gathered results -/

variable (service dataset plan policy results outputs) in
/-- The results are those of the plan: every partition has one, no other has any, those of a
partition have one hash, all succeeded, and `outputs` are what the barrier recomputes. -/
structure Gathered : Prop where
  expected : ∀ pid ∈ plan.expectedPartitionIds, ∃ result ∈ results, result.partitionId = pid
  known : ∀ result ∈ results, result.partitionId ∈ plan.expectedPartitionIds
  agree : ∀ a ∈ results, ∀ b ∈ results, a.partitionId = b.partitionId →
    service.semanticResultHash a = service.semanticResultHash b
  succeeded : ∀ result ∈ results, result.status = .succeeded
  recomputes : Forall₂ (fun p output => service.recomputed dataset plan policy p = .ok output)
    (queue plan) outputs
  reproduced : ∀ p ∈ plan.partitions, ∀ expected, service.recomputed dataset plan policy p = .ok expected →
    ∀ result ∈ results, result.partitionId = p.partitionId →
      ∃ output, result.output = some output ∧ service.outputHash output = service.outputHash expected

variable (service dataset plan policy outputs) in
/-- The outputs join: no key occurs in them twice, their sums add up, and under `BLOCK_KEY` they
hold all the pairs of the dataset. -/
structure Joins : Prop where
  factKeys : (outputs.flatMap (·.factGrainKeys)).Nodup
  warehouseKeys : (outputs.flatMap (·.warehouseKeys)).Nodup
  sums : ∃ total, sumMeasures (outputs.map (·.exactMeasureSum)) = .ok total
  covered : plan.strategy = .blockKey → ∃ pairs,
    service.candidatePairs dataset.descriptor dataset.rows policy.maxJoinPairs = .ok pairs ∧
    ∀ id, id ∈ pairs ↔ ∃ output ∈ outputs, id ∈ output.candidatePairs

theorem Gathered.congr {results' : List PartitionResult}
    (h : Gathered service dataset plan policy results outputs)
    (hsame : ∀ result, result ∈ results' ↔ result ∈ results) :
    Gathered service dataset plan policy results' outputs where
  expected pid hpid := by
    obtain ⟨result, hr, hid⟩ := h.expected pid hpid
    exact ⟨result, (hsame result).2 hr, hid⟩
  known result hr := h.known result ((hsame result).1 hr)
  agree a ha b hb := h.agree a ((hsame a).1 ha) b ((hsame b).1 hb)
  succeeded result hr := h.succeeded result ((hsame result).1 hr)
  recomputes := h.recomputes
  reproduced p hp expected he result hr := h.reproduced p hp expected he result ((hsame result).1 hr)

theorem exists_gathered (hproduced : ∀ result ∈ results, service.Produced plan result)
    (hapart : TellsApart service dataset plan policy results)
    (hexpected : ∀ pid ∈ plan.expectedPartitionIds, ∃ result ∈ results, result.partitionId = pid)
    (hknown : ∀ result ∈ results, result.partitionId ∈ plan.expectedPartitionIds)
    (hselected : Forall₂ (fun p result => service.selectResult results p.partitionId = .ok result)
      (queue plan) selected) (hvalid : Forall₂ (fun p result =>
      service.validateResult dataset plan policy p result = .ok ()) (queue plan) selected) :
    ∃ outputs, Gathered service dataset plan policy results outputs := by
  -- the first result of each partition was validated, and the others have its hash
  have hfirst : ∀ p ∈ plan.partitions, ∃ first ∈ results, first.partitionId = p.partitionId ∧
      service.validateResult dataset plan policy p first = .ok () ∧
      ∀ result ∈ results, result.partitionId = p.partitionId →
        service.semanticResultHash result = service.semanticResultHash first := by
    intro p hp
    obtain ⟨first, hzip⟩ := exists_mem_zip hselected.length_eq (mem_queue.2 hp)
    obtain ⟨hf, hagree⟩ := selectResult_eq_ok.1 ((forall₂_iff_zip.1 hselected).2 hzip)
    obtain ⟨hmem, hid⟩ := firstFor_spec hf
    exact ⟨first, hmem, hid, (forall₂_iff_zip.1 hvalid).2 hzip, fun result hr hrid =>
      hagree result hr first hmem hrid hid⟩
  have hcontent : ∀ p ∈ plan.partitions, ∃ output expected,
      service.recomputed dataset plan policy p = .ok expected ∧
      service.outputHash output = service.outputHash expected ∧
      ∀ result ∈ results, result.partitionId = p.partitionId → result.status = .succeeded ∧
        result.output.map (·.semanticContent) = some output.semanticContent := by
    intro p hp
    obtain ⟨first, hmem, hid, hcheck, hagree⟩ := hfirst p hp
    obtain ⟨hs, output, expected, hout, hexp, hhash⟩ :=
      (validateResult_eq_ok (hproduced first hmem) hid).1 hcheck
    refine ⟨output, expected, hexp, hhash, fun result hr hrid => ?_⟩
    have hsame := hapart.contents result hr first hmem (hagree result hr hrid)
    simp only [PartitionResult.content, Content.partitionResult.injEq, hs, hout] at hsame
    exact ⟨hsame.2.2.2.2.2.1, hsame.2.2.2.2.2.2.2.2.2.1⟩
  obtain ⟨outputs, houtputs⟩ := exists_mapM_eq_ok.2 fun p (hp : p ∈ queue plan) => by
    obtain ⟨_, expected, hexp, -⟩ := hcontent p (mem_queue.1 hp)
    exact ⟨expected, hexp⟩
  refine ⟨outputs, hexpected, hknown, ?_, ?_, mapM_eq_ok.1 houtputs, ?_⟩
  · intro a ha b hb hab
    have hpid := hknown b hb
    rw [← plan.closure.1, mem_map] at hpid
    obtain ⟨p, hp, hpb⟩ := hpid
    obtain ⟨first, _, _, _, hagree⟩ := hfirst p hp
    exact (hagree a ha (hab.trans hpb.symm)).trans (hagree b hb hpb.symm).symm
  · intro result hr
    have hpid := hknown result hr
    rw [← plan.closure.1, mem_map] at hpid
    obtain ⟨p, hp, hpr⟩ := hpid
    obtain ⟨_, _, _, _, hall⟩ := hcontent p hp
    exact (hall result hr hpr.symm).1
  · intro p hp expected hexp result hr hrid
    obtain ⟨output, expected', hexp', hhash, hall⟩ := hcontent p hp
    cases hexp.symm.trans hexp'
    obtain ⟨output', hout', hsame⟩ := Option.map_eq_some_iff.1 (hall result hr hrid).2
    refine ⟨output', hout', Eq.trans ?_ hhash⟩
    exact congrArg (fun content => service.digest (.partitionOutput content)) hsame

theorem Gathered.exists_selected (h : Gathered service dataset plan policy results outputs)
    (hproduced : ∀ result ∈ results, service.Produced plan result) : ∃ selected,
      Forall₂ (fun p result => service.selectResult results p.partitionId = .ok result)
        (queue plan) selected ∧
      Forall₂ (fun p result => service.validateResult dataset plan policy p result = .ok ())
        (queue plan) selected := by
  obtain ⟨selected, hselected⟩ := exists_mapM_eq_ok.2 fun p (hp : p ∈ queue plan) => by
    have hpid : p.partitionId ∈ plan.expectedPartitionIds := by
      rw [← plan.closure.1]
      exact mem_map_of_mem (mem_queue.1 hp)
    obtain ⟨result, hr, hid⟩ := h.expected _ hpid
    obtain ⟨first, hfirst⟩ := exists_firstFor hr hid
    have hselect : service.selectResult results p.partitionId = .ok first :=
      selectResult_eq_ok.2 ⟨hfirst, fun a ha b hb hai hbi => h.agree a ha b hb (hai.trans hbi.symm)⟩
    exact ⟨first, hselect⟩
  have hselected := mapM_eq_ok.1 hselected
  refine ⟨selected, hselected, forall₂_iff_zip.2 ⟨hselected.length_eq, fun {p result} hzip => ?_⟩⟩
  have hp := mem_queue.1 (of_mem_zip hzip).1
  obtain ⟨hmem, hid⟩ := firstFor_spec
    (selectResult_eq_ok.1 ((forall₂_iff_zip.1 hselected).2 hzip)).1
  obtain ⟨expected, -, hexp⟩ := exists_right_of_forall₂ h.recomputes (mem_queue.2 hp)
  obtain ⟨output, hout, hhash⟩ := h.reproduced p hp expected hexp result hmem hid
  exact (validateResult_eq_ok (hproduced result hmem) hid).2
    ⟨h.succeeded result hmem, output, expected, hout, hexp, hhash⟩

/-! ## Outputs of the same content -/

theorem alike_of_selected (h : Gathered service dataset plan policy results outputs)
    (hapart : TellsApart service dataset plan policy results)
    (hselected : Forall₂ (fun p result => service.selectResult results p.partitionId = .ok result)
      (queue plan) selected) :
    Forall₂ (fun output expected => output.semanticContent = expected.semanticContent)
      (selected.filterMap (·.output)) outputs := by
  have hpairs := (forall₂_of_common hselected h.recomputes).imp (S := fun result expected =>
    ∃ output, PartitionResult.output result = some output ∧
      output.semanticContent = ScalePartitionOutput.semanticContent expected) ?_
  · clear hselected h
    induction hpairs with
    | nil => exact .nil
    | cons hhead _ ih =>
      obtain ⟨output, hout, hsame⟩ := hhead
      rw [filterMap_cons_some hout]
      exact .cons hsame ih
  · rintro result expected ⟨p, hp, hselect, hexp⟩
    obtain ⟨hmem, hid⟩ := firstFor_spec (selectResult_eq_ok.1 hselect).1
    obtain ⟨output, hout, hhash⟩ := h.reproduced p (mem_queue.1 hp) expected hexp result hmem hid
    exact ⟨output, hout, hapart.outputs result hmem output hout p (mem_queue.1 hp) expected hexp hhash⟩

section Alike

variable {outputs outputs' : List ScalePartitionOutput}
  (h : Forall₂ (fun a b : ScalePartitionOutput => a.semanticContent = b.semanticContent) outputs
    outputs')

include h

/-- The collections of alike outputs hold the same, as often. -/
theorem flatMap_perm_of_alike {α : Type} [LinearOrder α] (f : ScalePartitionOutput → List α)
    (hf : ∀ output, f output.semanticContent = sorted (f output)) :
    (outputs.flatMap f).Perm (outputs'.flatMap f) := by
  refine flatMap_perm_of_forall₂ h f f fun a b hab => ?_
  have hsorted : sorted (f a) = sorted (f b) := by rw [← hf, ← hf, hab]
  exact (sorted_perm _).symm.trans (hsorted ▸ sorted_perm _)

theorem map_eq_of_alike {α : Type} (f : ScalePartitionOutput → α)
    (hf : ∀ output : ScalePartitionOutput, f output.semanticContent = f output) :
    outputs.map f = outputs'.map f := by
  refine (map_eq_of_forall₂ h f f fun a b hab => ?_).symm
  rw [← hf, ← hab, hf]

section
variable (descriptor : ScaleInputDescriptor)
  (hsample : ∀ a ∈ outputs.flatMap (·.sampledRecordRefs), ∀ b ∈ outputs.flatMap (·.sampledRecordRefs), service.sampleDigest policy a = service.sampleDigest policy b → a = b)
include descriptor hsample

theorem mergedOutput_alike (exactSum : Dec) :
    service.mergedOutput descriptor policy outputs exactSum =
      service.mergedOutput descriptor policy outputs' exactSum := by
  have hset : ∀ {α : Type} [LinearOrder α] (f : ScalePartitionOutput → List α),
      (∀ output, f output.semanticContent = sorted (f output)) →
      sortedSet (outputs.flatMap f) = sortedSet (outputs'.flatMap f) :=
    fun f hf => sortedSet_eq_of_perm (flatMap_perm_of_alike h f hf)
  have hsampled : sortedBy (service.sampleDigest policy) (outputs.flatMap (·.sampledRecordRefs)).dedup =
      sortedBy (service.sampleDigest policy) (outputs'.flatMap (·.sampledRecordRefs)).dedup :=
    sortedBy_eq_of_perm (flatMap_perm_of_alike h (·.sampledRecordRefs) fun _ => rfl).dedup
      fun a ha b hb => hsample a (mem_dedup.1 ha) b (mem_dedup.1 hb)
  have hminimum := filterMap_eq_of_map (map_eq_of_alike h (·.profile.minimum) fun _ => rfl)
  have hmaximum := filterMap_eq_of_map (map_eq_of_alike h (·.profile.maximum) fun _ => rfl)
  simp only [mergedOutput, hset (·.recordRefs) fun _ => rfl, hset (·.sourceRecordRefs) fun _ => rfl,
    hset (·.canonicalEntityIds) fun _ => rfl, hset (·.factGrainKeys) fun _ => rfl,
    hset (·.warehouseKeys) fun _ => rfl, hset (·.dependencyPairs) fun _ => rfl,
    hset (·.candidatePairs) fun _ => rfl, hsampled, hminimum, hmaximum,
    map_eq_of_alike h (·.profile.rowCount) fun _ => rfl,
    map_eq_of_alike h (·.profile.nonNullCount) fun _ => rfl,
    map_eq_of_alike h (·.profile.nullCount) fun _ => rfl,
    map_eq_of_alike h (·.uniqueInputRecords) fun _ => rfl,
    map_eq_of_alike h (·.routedRecordInstances) fun _ => rfl,
    map_eq_of_alike h (·.replicationCount) fun _ => rfl,
    map_eq_of_alike h (·.logicalShuffleRecords) fun _ => rfl,
    map_eq_of_alike h (·.logicalShuffleBytes) fun _ => rfl]

theorem mergeOutputs_alike :
    service.mergeOutputs descriptor policy outputs = service.mergeOutputs descriptor policy outputs' := by
  have hfact := flatMap_perm_of_alike h (·.factGrainKeys) fun _ => rfl
  have hware := flatMap_perm_of_alike h (·.warehouseKeys) fun _ => rfl
  simp only [mergeOutputs, length_sum_eq, sortedSet_eq_of_perm hfact, sortedSet_eq_of_perm hware,
    hfact.length_eq, hware.length_eq, map_eq_of_alike h (·.exactMeasureSum) fun _ => rfl,
    mergedOutput_alike h descriptor hsample]

end

end Alike

/-! ## Joining the outputs -/

theorem exists_groups {outputs : List ScalePartitionOutput} {parts : List PartitionDescriptor}
    (h : Forall₂ (fun p output => service.recomputed dataset plan policy p = .ok output) parts
      outputs) :
    ∃ groups, Forall₂ (fun p rows => service.workerRows dataset plan policy p = .ok rows) parts
      groups ∧ service.Reduces dataset.descriptor policy plan.strategy groups outputs := by
  induction h with
  | nil => exact ⟨[], .nil, .nil⟩
  | @cons p output parts outputs hhead _ ih =>
    obtain ⟨rows, hrows, houtput⟩ := bind_eq_ok.1 hhead
    obtain ⟨groups, hgroups, hreduces⟩ := ih
    rw [validatorRows_eq] at hrows
    exact ⟨rows :: groups, .cons hrows hgroups, .cons houtput hreduces⟩

section Joined

variable {outputs : List ScalePartitionOutput} (hstrategy : plan.strategy ≠ .existingStagedPart)
  (hnumbered : plan.partitions.map (·.logicalPartitionIndex) = range plan.partitionCount)
  (h : Gathered service dataset plan policy results outputs)

include hstrategy hnumbered h

theorem Gathered.summarizes (exactSum : Dec) : service.Summarizes policy dataset.rows
    (service.mergedOutput dataset.descriptor policy outputs exactSum) := by
  obtain ⟨groups, hgroups, hreduces⟩ := exists_groups h.recomputes
  exact (hreduces.summarizes service exactSum).perm service
    (service.flatten_perm_of_rows hstrategy hnumbered hgroups)

theorem Gathered.sampled_ref {ref : String} (href : ref ∈ outputs.flatMap (·.sampledRecordRefs)) :
    ∃ row ∈ dataset.rows, row.rowRef = ref := by
  obtain ⟨groups, hgroups, hreduces⟩ := exists_groups h.recomputes
  have hperm := service.flatten_perm_of_rows hstrategy hnumbered hgroups
  rw [hreduces.flatMap_eq service (·.sampledRecordRefs)
    (fun rows => service.sampleCandidates rows policy) fun _ _ _ => rfl] at href
  obtain ⟨rows, hrows, hmem⟩ := mem_flatMap.1 href
  rw [sampleCandidates, mem_sortedBy, selectedRefs_eq, mem_filter, mem_map] at hmem
  obtain ⟨⟨row, hrow, rfl⟩, -⟩ := hmem
  exact ⟨row, hperm.mem_iff.1 (mem_flatten.2 ⟨rows, hrows, hrow⟩), rfl⟩

variable (hapart : TellsApart service dataset plan policy results)
  (hseparates : service.Separates policy dataset.rows) {selected : List PartitionResult}
  (hselected : Forall₂ (fun p result => service.selectResult results p.partitionId = .ok result)
    (queue plan) selected)

include hapart hseparates hselected

/-- The barrier merges the results as it would the recomputed outputs. -/
theorem Gathered.mergeOutputs_eq :
    service.mergeOutputs dataset.descriptor policy (selected.filterMap (·.output)) =
      service.mergeOutputs dataset.descriptor policy outputs := by
  have halike := alike_of_selected h hapart hselected
  refine mergeOutputs_alike halike dataset.descriptor fun a ha b hb hab => ?_
  have hperm := flatMap_perm_of_alike halike (·.sampledRecordRefs) fun _ => rfl
  obtain ⟨row, hrow, rfl⟩ := h.sampled_ref hstrategy hnumbered (hperm.mem_iff.1 ha)
  obtain ⟨other, hother, rfl⟩ := h.sampled_ref hstrategy hnumbered (hperm.mem_iff.1 hb)
  exact hseparates row hrow other hother hab

theorem Gathered.mergeSelected_iff :
    (∃ outcome, service.mergeSelected dataset plan policy selected = .ok outcome) ↔
      Joins service dataset plan policy outputs := by
  have hsame := h.mergeOutputs_eq hstrategy hnumbered hapart hseparates hselected
  constructor
  · rintro ⟨⟨merged, manifest⟩, hmerge⟩
    obtain ⟨hout, hcloses⟩ := service.mergeSelected_spec hmerge
    rw [hsame] at hout
    obtain ⟨hfact, hware, total, htotal, rfl⟩ := service.mergeOutputs_eq_ok.1 hout
    refine ⟨hfact, hware, ⟨total, htotal⟩, fun hblock => ?_⟩
    obtain ⟨pairs, hpairs, hcovered⟩ := hcloses.covered hblock
    refine ⟨pairs, hpairs, fun id => ?_⟩
    have hmem : id ∈ sortedSet pairs ↔ id ∈ pairs := mem_sortedSet
    rw [← mem_flatMap, ← hmem, ← hcovered, mem_sortedSet]
    exact mem_sortedSet
  · intro hjoins
    obtain ⟨total, htotal⟩ := hjoins.sums
    have hout : service.mergeOutputs dataset.descriptor policy outputs =
        .ok (service.mergedOutput dataset.descriptor policy outputs total) :=
      service.mergeOutputs_eq_ok.2 ⟨hjoins.factKeys, hjoins.warehouseKeys, total, htotal, rfl⟩
    have hsummary := h.summarizes hstrategy hnumbered total
    have hcloses : service.Closes dataset plan policy
        (service.mergedOutput dataset.descriptor policy outputs total) := by
      refine ⟨?_, ?_, fun hblock => ?_⟩
      · rw [hsummary.emitted, length_sortedSet.2 dataset.uniqueRefs, length_map,
          dataset.rowCount]
      · rw [hsummary.recordRefs]
        exact sortedSet_eq fun _ => mem_sortedSet
      · obtain ⟨pairs, hpairs, hcovered⟩ := hjoins.covered hblock
        refine ⟨pairs, hpairs, sortedSet_eq fun id => ?_⟩
        rw [hcovered, ← mem_flatMap]
        exact mem_sortedSet
    obtain ⟨manifest, hmerge⟩ := service.mergeSelected_ok (hsame.trans hout) hcloses
    exact ⟨_, hmerge⟩

end Joined

theorem TellsApart.congr {results' : List PartitionResult}
    (h : TellsApart service dataset plan policy results)
    (hsame : ∀ result, result ∈ results' ↔ result ∈ results) :
    TellsApart service dataset plan policy results' where
  contents a ha b hb := h.contents a ((hsame a).1 ha) b ((hsame b).1 hb)
  outputs result hr := h.outputs result ((hsame result).1 hr)

theorem mergeSelected_congr {selected selected' : List PartitionResult}
    (hout : service.mergeOutputs dataset.descriptor policy (selected.filterMap (·.output)) =
      service.mergeOutputs dataset.descriptor policy (selected'.filterMap (·.output)))
    (hhash : selected.map (fun result => (result.partitionId, service.semanticResultHash result)) =
      selected'.map fun result => (result.partitionId, service.semanticResultHash result)) :
    service.mergeSelected dataset plan policy selected =
      service.mergeSelected dataset plan policy selected' := by
  simp only [mergeSelected, hout, hhash]

theorem gathered_of_succeeded {failures : List String} (hok : ∀ p ∈ plan.partitions,
      (service.resultOf dataset plan policy failures p).status = .succeeded) :
    ∃ outputs, Gathered service dataset plan policy
      (plan.partitions.map (service.resultOf dataset plan policy failures)) outputs := by
  have hreduced : ∀ p ∈ plan.partitions, ∃ output,
      service.recomputed dataset plan policy p = .ok output ∧
      (service.resultOf dataset plan policy failures p).output = some output := by
    intro p hp
    obtain ⟨rows, output, hr⟩ := service.reduced_of_succeeded (hok p hp)
    refine ⟨output, ?_, by rw [service.resultOf_eq hr]; rfl⟩
    rw [recomputed, validatorRows_eq, hr.selects]
    exact hr.reduces
  obtain ⟨outputs, houtputs⟩ := exists_mapM_eq_ok.2 fun p (hp : p ∈ queue plan) => by
    obtain ⟨output, houtput, -⟩ := hreduced p (mem_queue.1 hp)
    exact ⟨output, houtput⟩
  refine ⟨outputs, ?_, ?_, ?_, ?_, mapM_eq_ok.1 houtputs, ?_⟩
  · intro pid hpid
    rw [← plan.closure.1] at hpid
    obtain ⟨p, hp, rfl⟩ := mem_map.1 hpid
    exact ⟨_, mem_map_of_mem hp, service.resultOf_partitionId failures p⟩
  · intro result hr
    obtain ⟨p, hp, rfl⟩ := mem_map.1 hr
    rw [service.resultOf_partitionId, ← plan.closure.1]
    exact mem_map_of_mem hp
  · intro a ha b hb hab
    obtain ⟨p, hp, rfl⟩ := mem_map.1 ha
    obtain ⟨q, hq, rfl⟩ := mem_map.1 hb
    rw [service.resultOf_partitionId, service.resultOf_partitionId] at hab
    rw [eq_of_partitionId hp hq hab]
  · intro result hr
    obtain ⟨p, hp, rfl⟩ := mem_map.1 hr
    exact hok p hp
  · intro p hp expected hexp result hr hid
    obtain ⟨q, hq, rfl⟩ := mem_map.1 hr
    rw [service.resultOf_partitionId] at hid
    obtain rfl := eq_of_partitionId hq hp hid
    obtain ⟨output, houtput, hout⟩ := hreduced q hq
    obtain rfl := Except.ok.inj (houtput.symm.trans hexp)
    exact ⟨output, hout, rfl⟩

instance decidableForallOk {ε α : Type} (x : Except ε α) (P : α → Prop) [DecidablePred P] :
    Decidable (∀ a, x = .ok a → P a) :=
  match x with
  | .ok a => decidable_of_iff (P a) (by simp)
  | .error _ => isTrue (by simp)

variable (service dataset plan policy results) in
instance : Decidable (TellsApart service dataset plan policy results) :=
  decidable_of_iff
    ((∀ a ∈ results, ∀ b ∈ results,
      service.semanticResultHash a = service.semanticResultHash b → a.content = b.content) ∧
    ∀ result ∈ results, ∀ output ∈ result.output, ∀ partition ∈ plan.partitions,
      ∀ expected, service.recomputed dataset plan policy partition = .ok expected →
        service.outputHash output = service.outputHash expected →
        output.semanticContent = expected.semanticContent)
    ⟨fun h => ⟨h.1, h.2⟩, fun h => ⟨h.1, h.2⟩⟩

end ScaleService

open ScaleService in
/-- **The merge barrier** returns exactly when the results are gathered and their outputs join, and
the same for the same set of results. -/
theorem merge_barrier {service : ScaleService} {planned dataset : ScaleInputDataset}
    {planPolicy policy : ScalePolicy} {partitionCount requestedParallelism : Option Int}
    {plan : PartitionPlan} {results : List PartitionResult}
    (hplan : service.plan planned planPolicy partitionCount requestedParallelism = .ok plan)
    (hproduced : ∀ result ∈ results, service.Produced plan result)
    (hapart : TellsApart service dataset plan policy results)
    (hseparates : service.Separates policy dataset.rows) :
    ((∃ outcome, service.merge dataset plan policy results = .ok outcome) ↔
      ∃ outputs, Gathered service dataset plan policy results outputs ∧
        Joins service dataset plan policy outputs) ∧
    ∀ outcome, service.merge dataset plan policy results = .ok outcome →
      ∀ results', (∀ result, result ∈ results' ↔ result ∈ results) →
        service.merge dataset plan policy results' = .ok outcome := by
  have hplanned := service.planned_of_plan hplan
  refine ⟨⟨?_, ?_⟩, ?_⟩
  · rintro ⟨outcome, hmerge⟩
    obtain ⟨⟨hexpected, hknown⟩, selected, hselected, hvalid, hlast⟩ := merge_eq_ok.1 hmerge
    obtain ⟨outputs, hgathered⟩ := exists_gathered hproduced hapart hexpected hknown hselected hvalid
    exact ⟨outputs, hgathered, (hgathered.mergeSelected_iff hplanned.strategy hplanned.indices hapart
      hseparates hselected).1 ⟨outcome, hlast⟩⟩
  · rintro ⟨outputs, hgathered, hjoins⟩
    obtain ⟨selected, hselected, hvalid⟩ := hgathered.exists_selected hproduced
    obtain ⟨outcome, hlast⟩ := (hgathered.mergeSelected_iff hplanned.strategy hplanned.indices hapart
      hseparates hselected).2 hjoins
    exact ⟨outcome, merge_eq_ok.2 ⟨⟨hgathered.expected, hgathered.known⟩, selected, hselected, hvalid,
      hlast⟩⟩
  · intro outcome hmerge results' hsame
    obtain ⟨⟨hexpected, hknown⟩, selected, hselected, hvalid, hlast⟩ := merge_eq_ok.1 hmerge
    obtain ⟨outputs, hgathered⟩ := exists_gathered hproduced hapart hexpected hknown hselected hvalid
    have hgathered' := hgathered.congr hsame
    have hapart' := hapart.congr hsame
    obtain ⟨selected', hselected', hvalid'⟩ :=
      hgathered'.exists_selected fun result hr => hproduced result ((hsame result).1 hr)
    refine merge_eq_ok.2 ⟨⟨hgathered'.expected, hgathered'.known⟩, selected', hselected', hvalid', ?_⟩
    rw [← hlast]
    apply mergeSelected_congr
    · rw [hgathered.mergeOutputs_eq hplanned.strategy hplanned.indices hapart hseparates hselected,
        hgathered'.mergeOutputs_eq hplanned.strategy hplanned.indices hapart' hseparates hselected']
    · refine map_eq_of_forall₂ (forall₂_of_common hselected hselected') _ _ ?_
      rintro first first' ⟨p, _, hfirst, hfirst'⟩
      obtain ⟨hmem, hid⟩ := firstFor_spec (selectResult_eq_ok.1 hfirst).1
      obtain ⟨hmem', hid'⟩ := firstFor_spec (selectResult_eq_ok.1 hfirst').1
      have hsameId : first'.partitionId = first.partitionId := hid'.trans hid.symm
      rw [hsameId, hgathered.agree first' ((hsame first').1 hmem') first hmem hsameId]

/-- The demonstration service with the digests of outputs and of results told apart. -/
def barrierService : ScaleService where
  digest
    | .partitionOutput output => String.intercalate "," output.recordRefs
    | .partitionResult pid _ _ _ _ _ _ _ _ _ _ _ _ _ _ => pid
    | content => demoDigest content
  sha256 := demoService.sha256
  rowBytes := demoService.rowBytes
  maxMeanRatio := demoService.maxMeanRatio
  lower := id
  upper := id

open ScaleService in
/-- Of two partitions, the second is run twice, and the merge succeeds. -/
def mergesRepeated (plan : PartitionPlan) : Bool :=
  match plan.partitions with
  | [p, q] =>
    let first := barrierService.runPartition demoDataset plan (demoPolicy .hash) p false
    let second := barrierService.runPartition demoDataset plan (demoPolicy .hash) q false
    decide (TellsApart barrierService demoDataset plan (demoPolicy .hash) [second, first, second]) &&
      (barrierService.merge demoDataset plan (demoPolicy .hash) [second, first, second]).isOk
  | _ => false

open ScaleService in
/-- Two partitions, the second of them run twice: the order and the repetition do not show. -/
theorem merge_barrier_repeated : ∃ plan first second outcome,
    barrierService.plan demoDataset (demoPolicy .hash) (some 2) none = .ok plan ∧
    barrierService.merge demoDataset plan (demoPolicy .hash) [second, first, second] = .ok outcome ∧
    barrierService.merge demoDataset plan (demoPolicy .hash) [first, second] = .ok outcome := by
  obtain ⟨plan, hplan, hcheck⟩ := exists_ok_of_map (b := true) (f := mergesRepeated)
    (show (barrierService.plan demoDataset (demoPolicy .hash) (some 2) none).toOption.map _ = some true
      by decide +kernel)
  unfold mergesRepeated at hcheck
  split at hcheck
  · rename_i p q _
    simp only [Bool.and_eq_true, decide_eq_true_eq] at hcheck
    obtain ⟨outcome, hmerge⟩ := exists_ok_of_isOk hcheck.2
    refine ⟨plan, _, _, outcome, hplan, hmerge, ?_⟩
    have hseparates : barrierService.Separates (demoPolicy .hash) demoDataset.rows := by
      unfold ScaleService.Separates
      decide +kernel
    refine (merge_barrier hplan ?_ hcheck.1 hseparates).2 outcome hmerge _ ?_
    · intro result hr
      simp only [mem_cons, not_mem_nil, or_false] at hr
      rcases hr with rfl | rfl | rfl
      · exact ⟨_, _, _, _, rfl⟩
      · exact ⟨_, _, _, _, rfl⟩
      · exact ⟨_, _, _, _, rfl⟩
    · intro result
      simp only [mem_cons, not_mem_nil, or_false]
      constructor
      · rintro (h | h)
        · exact .inr (.inl h)
        · exact .inl h
      · rintro (h | h | h)
        · exact .inr h
        · exact .inl h
        · exact .inr h
  · cases hcheck

/-- Two lines of one grain key, of one customer. -/
def repeatedKeyDataset : ScaleInputDataset where
  descriptor := demoDataset.descriptor
  rows := [demoRow "row-1" "customer-1" ⟨false, 15, -1⟩,
    { demoRow "row-2" "customer-1" ⟨false, 250, -2⟩ with factGrainKey := some "row-1" }]
  rowCount := by decide +kernel
  uniqueRefs := by decide +kernel
  scope := by decide +kernel
  partitionKey := by decide +kernel

open ScaleService in
/-- A grain key that occurs twice in one output keeps the barrier shut, though no key is in two. -/
theorem repeated_key_in_one_output : ¬ ∀ (service : ScaleService) (planned dataset : ScaleInputDataset)
    (planPolicy policy : ScalePolicy) (partitionCount requestedParallelism : Option Int)
    (plan : PartitionPlan) (results : List PartitionResult) (outputs : List ScalePartitionOutput),
    service.plan planned planPolicy partitionCount requestedParallelism = .ok plan →
    (∀ result ∈ results, service.Produced plan result) →
    TellsApart service dataset plan policy results → service.Separates policy dataset.rows →
    Gathered service dataset plan policy results outputs →
    (outputs.map (·.factGrainKeys)).Pairwise List.Disjoint →
    (outputs.map (·.warehouseKeys)).Pairwise List.Disjoint → plan.strategy ≠ .blockKey →
    ∃ outcome, service.merge dataset plan policy results = .ok outcome := by
  intro h
  obtain ⟨plan, hplan, hcheck⟩ := demoPlanned_spec (show demoPlanned repeatedKeyDataset
    (demoPolicy .hash) 1 (fun plan =>
      let results := plan.partitions.map
        (demoService.resultOf repeatedKeyDataset plan (demoPolicy .hash) [])
      plan.partitions.length = 1 && plan.strategy = .hash &&
        (results.all fun result => result.status = .succeeded) &&
        decide (TellsApart demoService repeatedKeyDataset plan (demoPolicy .hash) results) &&
        !(demoService.merge repeatedKeyDataset plan (demoPolicy .hash) results).isOk) = true by
      decide +kernel)
  simp only [Bool.and_eq_true, decide_eq_true_eq, Bool.not_eq_true', all_eq_true] at hcheck
  obtain ⟨⟨⟨⟨hone, hstrategy⟩, hok⟩, hapart⟩, hmerge⟩ := hcheck
  obtain ⟨outputs, hgathered⟩ := demoService.gathered_of_succeeded fun p hp =>
    hok _ (mem_map_of_mem hp)
  have hlength : outputs.length = 1 := by
    rw [← hgathered.recomputes.length_eq, queue, (sortedBy_perm _ _).length_eq, hone]
  obtain ⟨output, rfl⟩ := length_eq_one_iff.1 hlength
  have hseparates : demoService.Separates (demoPolicy .hash) repeatedKeyDataset.rows := by
    unfold ScaleService.Separates
    decide +kernel
  obtain ⟨outcome, hreturns⟩ := h _ _ _ _ _ _ _ plan _ _ hplan
    (fun result hr => by
      obtain ⟨p, _, rfl⟩ := mem_map.1 hr
      exact ⟨_, _, _, _, rfl⟩)
    hapart hseparates hgathered (pairwise_singleton _ _) (pairwise_singleton _ _)
    (by rw [hstrategy]; decide)
  rw [hreturns] at hmerge
  cases hmerge

end DirtyDataOlap.Scale

import DirtyDataOlap.RequiredResolution

/-!
# Canonicalization partitions the records

`build` checks that the memberships of a proposal have disjoint, nonempty record sets; `finalize`
makes one instance of each, and one map of each record.  **So every record is in exactly one
instance and has exactly one map, and both name the same entity** (`canonicalization_partitions`).
-/
namespace DirtyDataOlap.Canonical

open List

theorem filter_eq_singleton {α : Type} {p : α → Bool} {xs : List α} {x : α}
    (h : xs.Pairwise fun a b => ¬ (p a = true ∧ p b = true)) (hx : x ∈ xs) (hp : p x = true) :
    xs.filter p = [x] := by
  induction xs with
  | nil => cases hx
  | cons a xs ih =>
    obtain ⟨hhead, htail⟩ := pairwise_cons.1 h
    rcases mem_cons.1 hx with rfl | hx
    · have hrest : xs.filter p = [] :=
        filter_eq_nil_iff.2 fun b hb hpb => hhead b hb ⟨hp, hpb⟩
      rw [filter_cons_of_pos hp, hrest]
    · have ha : ¬ p a = true := fun hpa => hhead x hx ⟨hpa, hp⟩
      rw [filter_cons_of_neg ha]
      exact ih htail hx

section
variable {digests : CanonicalDigests} {reviewDigests : ReviewDigests}

theorem recordsApart_symm {a b : CanonicalIdentityMembership} (h : RecordsApart a b) :
    RecordsApart b a :=
  fun ref hb ha => h ref ha hb

/-- **The memberships of a built proposal are apart.** -/
theorem proposal_apart {i : ProposalInput} {proposal : CanonicalIdentityProposal}
    (h : buildProposal digests i = .ok proposal) : proposal.memberships.Pairwise RecordsApart := by
  obtain ⟨hashes, bounds, hproposed⟩ := buildProposal_eq_ok.1 h
  have hsame : Forall₂ (fun membership bound : CanonicalIdentityMembership =>
      bound.sourceRecordRefs = membership.sourceRecordRefs) i.memberships
      (bounds.map (·.membership)) := by
    rw [forall₂_map_right_iff]
    refine hproposed.binds.imp ?_
    rintro membership bound ⟨entityType, _, hbound⟩
    exact (bindMembership_keeps hbound).1
  have hbounds : (bounds.map (·.membership)).Pairwise RecordsApart := by
    refine pairwise_of_forall₂ hsame hproposed.apart fun a b c d hac hbd hab ref href href' => ?_
    rw [hac] at href
    rw [hbd] at href'
    exact hab ref href href'
  rw [hproposed.proposal]
  exact (sortedBy_perm _ _).symm.pairwise hbounds fun hab => recordsApart_symm hab

/-- The id of the entity of some records: they are taken as a set. -/
def groupEntityId (digests : CanonicalDigests) (entityTypeId : String) (refs : List String)
    (modelVersion : String) : String :=
  digests.canonicalEntityId entityTypeId (sortedSet refs) modelVersion

theorem groupEntityId_congr {entityTypeId modelVersion : String} {refs refs' : List String}
    (h : ∀ ref, ref ∈ refs ↔ ref ∈ refs') : groupEntityId digests entityTypeId refs modelVersion =
      groupEntityId digests entityTypeId refs' modelVersion := by
  rw [groupEntityId, groupEntityId, sortedSet_eq h]

/-- What `finalize` makes of one membership. -/
structure Instantiates (digests : CanonicalDigests) (j : FinalizationInput)
    (membership : CanonicalIdentityMembership)
    (final : CanonicalEntityInstance × List SourceRecordCanonicalMap) : Prop where
  typeId : final.1.canonicalEntityTypeId = membership.canonicalEntityTypeId
  version : final.1.canonicalModelVersion = j.hypothesis.modelVersion
  records : final.1.sourceRecordRefs = sortedSet membership.sourceRecordRefs
  entityId : final.1.canonicalEntityId = groupEntityId digests membership.canonicalEntityTypeId
    membership.sourceRecordRefs j.hypothesis.modelVersion
  mapped : final.2.map (·.recordRef) = sortedSet membership.sourceRecordRefs
  named : ∀ map ∈ final.2, map.canonicalEntityId = final.1.canonicalEntityId ∧
    map.canonicalEntityTypeId = final.1.canonicalEntityTypeId

variable {membership : CanonicalIdentityMembership}

theorem recordMap_eq_ok {j : FinalizationInput} {entityType : CanonicalEntityType}
    {entityId recordRef : String} {refs : List String} {map : SourceRecordCanonicalMap}
    (h : recordMap j entityType membership entityId refs recordRef = .ok map) :
    map.recordRef = recordRef ∧ map.canonicalEntityId = entityId ∧
      map.canonicalEntityTypeId = entityType.canonicalEntityTypeId := by
  simp only [recordMap, bind_eq_ok, demand_eq_ok, pure, Except.pure, Except.ok.injEq] at h
  obtain ⟨_, _, _, _, _, _, rfl⟩ := h
  exact ⟨rfl, rfl, rfl⟩

theorem finalizeMembership_instantiates {j : FinalizationInput}
    {final : CanonicalEntityInstance × List SourceRecordCanonicalMap}
    (h : finalizeMembership digests j membership = .ok final) :
    Instantiates digests j membership final := by
  simp only [finalizeMembership, bind_eq_ok, demand_eq_ok, mapM_eq_ok, pure, Except.pure,
    Except.ok.injEq] at h
  obtain ⟨entityType, htype, familyResult, _, maps, hmaps, rfl⟩ := h
  have hid := typeId_of_typesById htype
  refine ⟨hid, rfl, rfl, ?_, ?_, ?_⟩
  · rw [groupEntityId, hid]
  · have hrefs := map_eq_of_forall₂ hmaps id (·.recordRef) fun _ _ hmap => (recordMap_eq_ok hmap).1
    rwa [map_id] at hrefs
  · intro map hmap
    obtain ⟨recordRef, _, hrecord⟩ := exists_left_of_forall₂ hmaps hmap
    exact (recordMap_eq_ok hrecord).2

/-! ## The partition -/

/-- A model has partitioned the records of a proposal. -/
structure Partitioned (proposal : CanonicalIdentityProposal) (model : CanonicalModel) : Prop where
  /-- Every record is in exactly one instance and has exactly one map, of the same entity. -/
  once : ∀ membership ∈ proposal.memberships, ∀ ref ∈ membership.sourceRecordRefs,
    ∃ instance_ map,
      model.instances.filter (fun other => ref ∈ other.sourceRecordRefs) = [instance_] ∧
      model.sourceRecordMaps.filter (fun other => other.recordRef = ref) = [map] ∧
      map.canonicalEntityId = instance_.canonicalEntityId ∧
      map.canonicalEntityTypeId = instance_.canonicalEntityTypeId ∧
      instance_.canonicalEntityTypeId = membership.canonicalEntityTypeId ∧
      ∀ other, other ∈ instance_.sourceRecordRefs ↔ other ∈ membership.sourceRecordRefs
  /-- Nothing else is in the instances and the maps. -/
  instances_of : ∀ instance_ ∈ model.instances, ∀ ref ∈ instance_.sourceRecordRefs,
    ∃ membership ∈ proposal.memberships, ref ∈ membership.sourceRecordRefs
  maps_of : ∀ map ∈ model.sourceRecordMaps,
    ∃ membership ∈ proposal.memberships, map.recordRef ∈ membership.sourceRecordRefs
  distinct : (model.instances.map (·.canonicalEntityId)).Nodup

section
variable {j : FinalizationInput}
  {finals : List (CanonicalEntityInstance × List SourceRecordCanonicalMap)}
  {model : CanonicalModel}

theorem Finalized.instantiates (h : Finalized digests reviewDigests j finals model) :
    Forall₂ (Instantiates digests j) j.identityProposal.memberships finals :=
  h.each.imp fun _ _ hfinal => finalizeMembership_instantiates hfinal

variable {memberships : List CanonicalIdentityMembership}

section
variable (h : Forall₂ (Instantiates digests j) memberships finals)
  (hapart : memberships.Pairwise RecordsApart)
include h hapart

theorem finals_apart :
    finals.Pairwise fun a b => ∀ ref ∈ a.1.sourceRecordRefs, ref ∉ b.1.sourceRecordRefs := by
  refine pairwise_of_forall₂ h hapart fun a b c d hac hbd hab ref href href' => ?_
  rw [hac.records, mem_sortedSet] at href
  rw [hbd.records, mem_sortedSet] at href'
  exact hab ref href href'

theorem maps_nodup : ((finals.flatMap Prod.snd).map (·.recordRef)).Nodup := by
  rw [map_flatMap, nodup_flatMap]
  constructor
  · intro final hfinal
    obtain ⟨membership, _, hinst⟩ := exists_left_of_forall₂ h hfinal
    rw [hinst.mapped]
    exact nodup_sortedSet _
  · refine (finals_apart h hapart).imp_of_mem fun {a b} ha hb hdisjoint => ?_
    obtain ⟨_, _, hinsta⟩ := exists_left_of_forall₂ h ha
    obtain ⟨_, _, hinstb⟩ := exists_left_of_forall₂ h hb
    show List.Disjoint (a.2.map _) (b.2.map _)
    rw [hinsta.mapped, hinstb.mapped, ← hinsta.records, ← hinstb.records]
    exact hdisjoint

end

/-- The ids of the memberships tell their groups apart. -/
def SeparatesGroups (digests : CanonicalDigests) (j : FinalizationInput) : Prop :=
  ∀ a ∈ j.identityProposal.memberships, ∀ b ∈ j.identityProposal.memberships,
    groupEntityId digests a.canonicalEntityTypeId a.sourceRecordRefs j.hypothesis.modelVersion =
      groupEntityId digests b.canonicalEntityTypeId b.sourceRecordRefs j.hypothesis.modelVersion →
    sortedSet a.sourceRecordRefs = sortedSet b.sourceRecordRefs

section
variable (h : Finalized digests reviewDigests j finals model)
  (hapart : j.identityProposal.memberships.Pairwise RecordsApart)
  (hseparates : SeparatesGroups digests j)
include h hapart hseparates

theorem entityIds_nodup : ((finals.map Prod.fst).map (·.canonicalEntityId)).Nodup := by
  rw [map_map]
  refine List.Pairwise.map _ (fun _ _ hne => hne)
    ((finals_apart h.instantiates hapart).imp_of_mem fun {a b} ha hb hdisjoint he => ?_)
  obtain ⟨first, hfirst, hinsta⟩ := exists_left_of_forall₂ h.instantiates ha
  obtain ⟨second, hsecond, hinstb⟩ := exists_left_of_forall₂ h.instantiates hb
  have hids : groupEntityId digests first.canonicalEntityTypeId first.sourceRecordRefs
      j.hypothesis.modelVersion = groupEntityId digests second.canonicalEntityTypeId
      second.sourceRecordRefs j.hypothesis.modelVersion := by
    rw [← hinsta.entityId, ← hinstb.entityId]
    exact he
  have hsame := hseparates first hfirst second hsecond hids
  obtain ⟨ref, href⟩ := exists_mem_of_ne_nil _ first.records_nonempty
  rw [← mem_sortedSet, ← hinsta.records] at href
  refine hdisjoint ref href ?_
  rw [hinstb.records, ← hsame, ← hinsta.records]
  exact href

/-- **A finalized model partitions the records**, if the memberships are apart. -/
theorem Finalized.partitioned : Partitioned j.identityProposal model := by
  have hall := h.instantiates
  have hinstances : model.instances = finals.map Prod.fst := by rw [h.model]; rfl
  have hmaps : model.sourceRecordMaps = sortedBy (·.recordRef) (finals.flatMap Prod.snd) := by
    rw [h.model]
    rfl
  refine ⟨?_, ?_, ?_, ?_⟩
  · intro membership hmembership ref href
    obtain ⟨final, hfinal, hinst⟩ := exists_right_of_forall₂ hall hmembership
    have hin : ref ∈ final.1.sourceRecordRefs := by
      rw [hinst.records, mem_sortedSet]
      exact href
    obtain ⟨map, hmap, rfl⟩ : ∃ map ∈ final.2, map.recordRef = ref := by
      rw [hinst.records, ← hinst.mapped] at hin
      exact mem_map.1 hin
    refine ⟨final.1, map, ?_, ?_, (hinst.named map hmap).1, (hinst.named map hmap).2, hinst.typeId, ?_⟩
    · rw [hinstances]
      refine filter_eq_singleton ?_ (mem_map.2 ⟨final, hfinal, rfl⟩) (decide_eq_true hin)
      refine List.Pairwise.map _ (fun _ _ hne => hne) ((finals_apart hall hapart).imp ?_)
      intro a b hdisjoint hboth
      simp only [decide_eq_true_eq] at hboth
      exact hdisjoint _ hboth.1 hboth.2
    · rw [hmaps, filter_sortedBy]
      refine filter_eq_singleton ?_ (mem_flatMap.2 ⟨final, hfinal, hmap⟩) (decide_eq_true rfl)
      have hnodup := pairwise_map.1 (maps_nodup hall hapart)
      refine hnodup.imp ?_
      intro a b hne hboth
      simp only [decide_eq_true_eq] at hboth
      exact hne (hboth.1.trans hboth.2.symm)
    · intro other
      rw [hinst.records, mem_sortedSet]
  · intro instance_ hinstance ref href
    rw [hinstances] at hinstance
    obtain ⟨final, hfinal, rfl⟩ := mem_map.1 hinstance
    obtain ⟨membership, hmembership, hinst⟩ := exists_left_of_forall₂ hall hfinal
    rw [hinst.records, mem_sortedSet] at href
    exact ⟨membership, hmembership, href⟩
  · intro map hmap
    rw [hmaps, mem_sortedBy] at hmap
    obtain ⟨final, hfinal, hmap⟩ := mem_flatMap.1 hmap
    obtain ⟨membership, hmembership, hinst⟩ := exists_left_of_forall₂ hall hfinal
    have hin : map.recordRef ∈ final.2.map (·.recordRef) := mem_map.2 ⟨map, hmap, rfl⟩
    rw [hinst.mapped, mem_sortedSet] at hin
    exact ⟨membership, hmembership, hin⟩
  · rw [hinstances]
    exact entityIds_nodup h hapart hseparates

end

end

/-- **Canonicalization partitions the records**, and the id of an instance depends on its entity
type, its set of records and the model version alone. -/
theorem canonicalization_partitions (digests : CanonicalDigests) (reviewDigests : ReviewDigests)
    (i : ProposalInput) (j : FinalizationInput) (model : CanonicalModel)
    (hbuild : buildProposal digests i = .ok j.identityProposal)
    (hfinalize : finalize digests reviewDigests j = .ok model)
    (hseparates : SeparatesGroups digests j) : Partitioned j.identityProposal model ∧
      ∀ j' model', finalize digests reviewDigests j' = .ok model' →
        ∀ a ∈ model.instances, ∀ b ∈ model'.instances,
          a.canonicalEntityTypeId = b.canonicalEntityTypeId →
          (∀ ref, ref ∈ a.sourceRecordRefs ↔ ref ∈ b.sourceRecordRefs) →
          a.canonicalModelVersion = b.canonicalModelVersion →
          a.canonicalEntityId = b.canonicalEntityId := by
  obtain ⟨finals, h⟩ := finalize_eq_ok hfinalize
  refine ⟨h.partitioned (proposal_apart hbuild) hseparates, ?_⟩
  intro j' model' hfinalize' a ha b hb htype hrefs hversion
  obtain ⟨finals', h'⟩ := finalize_eq_ok hfinalize'
  have hid : ∀ {j : FinalizationInput} {model : CanonicalModel} {finals},
      Finalized digests reviewDigests j finals model → ∀ a ∈ model.instances,
        a.canonicalEntityId = groupEntityId digests a.canonicalEntityTypeId a.sourceRecordRefs
          a.canonicalModelVersion := by
    intro j model finals h a ha
    rw [h.model] at ha
    obtain ⟨final, hfinal, rfl⟩ := mem_map.1 ha
    obtain ⟨membership, _, hinst⟩ := exists_left_of_forall₂ h.instantiates hfinal
    rw [hinst.entityId, hinst.typeId, hinst.version]
    refine groupEntityId_congr fun ref => ?_
    rw [hinst.records, mem_sortedSet]
  rw [hid h a ha, hid h' b hb, htype, hversion]
  exact groupEntityId_congr hrefs

end

theorem canonicalization_partitions_customers : ∃ model, finalize plainDigests plainReviewDigests
        (customerFinalization (customerProposal customers) []) = .ok model ∧
      Partitioned (customerProposal customers) model := by
  obtain ⟨model, hfinalize⟩ := exists_ok_of_isOk (x := finalize plainDigests plainReviewDigests
    (customerFinalization (customerProposal customers) [])) (by decide +kernel)
  exact ⟨model, hfinalize, (canonicalization_partitions plainDigests plainReviewDigests
    (customerProposalInput customers) (customerFinalization (customerProposal customers) []) model
    (by decide +kernel) hfinalize (by unfold SeparatesGroups; decide +kernel)).1⟩

end DirtyDataOlap.Canonical

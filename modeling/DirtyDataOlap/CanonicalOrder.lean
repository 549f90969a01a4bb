import DirtyDataOlap.CanonicalPartition
import Mathlib.Data.List.Pairwise
import Mathlib.Data.List.Perm.Basic

/-!
# The order of the inputs of canonicalization

The hypothesis is sorted throughout: **its order of inputs never shows**.  The memberships of a
proposal are sorted by a group id that may repeat, and survivorship decisions and conflicts are
listed as they came; the ids are independent of the order exactly when these came in the same order
(`canonical_ids_order_independent_iff`).
-/
namespace DirtyDataOlap.Canonical

open List

theorem getItem_eq_of_perm {β : Type} {xs ys : List (String × β)} (h : xs.Perm ys)
    (hn : (xs.map Prod.fst).Nodup) (key : String) : getItem xs key = getItem ys key := by
  have hn' : (ys.map Prod.fst).Nodup := (h.map Prod.fst).nodup_iff.1 hn
  ext value
  rw [getItem_eq_some_iff hn, getItem_eq_some_iff hn', h.mem_iff]

theorem mapM_perm {ε α β : Type} {f : α → Except ε β} {xs ys : List α} {zs : List β}
    (h : xs.Perm ys) (hxs : xs.mapM f = .ok zs) : ∃ ws, ys.mapM f = .ok ws ∧ ws.Perm zs := by
  obtain ⟨ws, hws, hperm⟩ := perm_comp_forall₂ h.symm (mapM_eq_ok.1 hxs)
  exact ⟨ws, mapM_eq_ok.2 hws, hperm⟩

/-- No two of the values share a digest. -/
def Separated {α : Type} (digest : α → String) (xs : List α) : Prop :=
  ∀ a ∈ xs, ∀ b ∈ xs, digest a = digest b → a = b

theorem Separated.perm {α : Type} {digest : α → String} {xs ys : List α} (h : xs.Perm ys)
    (hs : Separated digest xs) : Separated digest ys :=
  fun a ha b hb => hs a (h.mem_iff.2 ha) b (h.mem_iff.2 hb)

/-! ## The hypothesis -/

/-- The same inputs in another order. -/
structure HypothesisInput.Reorders (i i' : HypothesisInput) : Prop where
  runId : i.runId = i'.runId
  executionContextId : i.executionContextId = i'.executionContextId
  modelVersion : i.modelVersion = i'.modelVersion
  evidenceReviews : i.evidenceReviews.Perm i'.evidenceReviews
  relationshipDecisions : i.relationshipDecisions.Perm i'.relationshipDecisions
  semanticMappingDecisions : i.semanticMappingDecisions.Perm i'.semanticMappingDecisions
  evidenceDomainAssertionRefs : ∀ key,
    ((getItem i.evidenceDomainAssertionRefs key).getD []).Perm
      ((getItem i'.evidenceDomainAssertionRefs key).getD [])
  entityTypes : i.entityTypes.Perm i'.entityTypes
  sourceIds : i.sourceIds.Perm i'.sourceIds
  domainAssertionRefs : i.domainAssertionRefs.Perm i'.domainAssertionRefs
  entityResolutionRequirements : i.entityResolutionRequirements = i'.entityResolutionRequirements
  attributes : i.attributes.Perm i'.attributes
  relationships : i.relationships.Perm i'.relationships
  sourceAttributeMappings : i.sourceAttributeMappings.Perm i'.sourceAttributeMappings
  identityFieldHypotheses : i.identityFieldHypotheses.Perm i'.identityFieldHypotheses
  entityResolutionSpecs : i.entityResolutionSpecs.Perm i'.entityResolutionSpecs
  snapshotFingerprints : i.snapshotFingerprints = i'.snapshotFingerprints
  sourceSchemaFingerprints : i.sourceSchemaFingerprints = i'.sourceSchemaFingerprints
  normalizationRefs : i.normalizationRefs.Perm i'.normalizationRefs
  sourceAuthorityPolicyRefs : i.sourceAuthorityPolicyRefs.Perm i'.sourceAuthorityPolicyRefs
  evidenceRefs : i.evidenceRefs.Perm i'.evidenceRefs
  provenanceRefs : i.provenanceRefs.Perm i'.provenanceRefs
  unresolvedAmbiguities : i.unresolvedAmbiguities.Perm i'.unresolvedAmbiguities
  unresolvedSemanticConflicts : i.unresolvedSemanticConflicts.Perm i'.unresolvedSemanticConflicts

/-- The content digests tell apart what is sorted by them. -/
structure HypothesisInput.Told (digests : CanonicalDigests) (i : HypothesisInput) : Prop where
  entityTypes : Separated digests.typeDigest i.entityTypes
  attributes : Separated digests.attributeDigest i.attributes
  relationships : Separated digests.relationshipDigest i.relationships
  mappings : Separated digests.mappingDigest i.sourceAttributeMappings
  identityFields : Separated digests.identityFieldDigest i.identityFieldHypotheses
  specs : Separated (·.fingerprint) i.entityResolutionSpecs

namespace HypothesisInput.Reorders
variable {i i' : HypothesisInput} {digests : CanonicalDigests} {reviewDigests : ReviewDigests}

section
variable (h : i.Reorders i')
include h

theorem symm : i'.Reorders i :=
  ⟨h.runId.symm, h.executionContextId.symm, h.modelVersion.symm, h.evidenceReviews.symm,
    h.relationshipDecisions.symm, h.semanticMappingDecisions.symm,
    fun key => (h.evidenceDomainAssertionRefs key).symm, h.entityTypes.symm, h.sourceIds.symm,
    h.domainAssertionRefs.symm, h.entityResolutionRequirements.symm, h.attributes.symm,
    h.relationships.symm, h.sourceAttributeMappings.symm, h.identityFieldHypotheses.symm,
    h.entityResolutionSpecs.symm, h.snapshotFingerprints.symm, h.sourceSchemaFingerprints.symm,
    h.normalizationRefs.symm, h.sourceAuthorityPolicyRefs.symm, h.evidenceRefs.symm,
    h.provenanceRefs.symm, h.unresolvedAmbiguities.symm, h.unresolvedSemanticConflicts.symm⟩

theorem told (ht : i.Told digests) : i'.Told digests :=
  ⟨ht.entityTypes.perm h.entityTypes, ht.attributes.perm h.attributes,
    ht.relationships.perm h.relationships, ht.mappings.perm h.sourceAttributeMappings,
    ht.identityFields.perm h.identityFieldHypotheses, ht.specs.perm h.entityResolutionSpecs⟩

theorem decisionsById : i.decisionsById.Perm i'.decisionsById :=
  (h.relationshipDecisions.append h.semanticMappingDecisions).map _

theorem reviewsById : i.reviewsById.Perm i'.reviewsById :=
  h.evidenceReviews.map _

theorem missingFamilies : i.missingFamilies = i'.missingFamilies := by
  unfold HypothesisInput.missingFamilies
  rw [h.entityResolutionRequirements]
  refine filter_congr fun family _ => ?_
  rw [h.entityResolutionSpecs.any_eq]

theorem bindReview (hd : (i.decisionsById.map Prod.fst).Nodup)
    (hr : (i.reviewsById.map Prod.fst).Nodup) (relationship : Bool) (label upstreamRef : String)
    (reviewRef : Option String) :
    bindReview reviewDigests i relationship label upstreamRef reviewRef =
      bindReview reviewDigests i' relationship label upstreamRef reviewRef := by
  have hcontext : ∀ (key artifactId : String) (d : EvidenceDecision),
      evidenceContext reviewDigests ((getItem i.evidenceDomainAssertionRefs key).getD []) artifactId d =
        evidenceContext reviewDigests ((getItem i'.evidenceDomainAssertionRefs key).getD [])
          artifactId d := by
    intro key artifactId d
    simp only [evidenceContext, sorted_eq_of_perm (h.evidenceDomainAssertionRefs key)]
  simp only [Canonical.bindReview, getItem_eq_of_perm h.decisionsById hd,
    getItem_eq_of_perm h.reviewsById hr, hcontext]

theorem payload (ht : i.Told digests) {bound bound' : List String} (hbound : bound.Perm bound') :
    hypothesisPayload digests i bound = hypothesisPayload digests i' bound' := by
  have hdecisions : (i.relationships.map (·.upstreamDecisionRef) ++
      i.sourceAttributeMappings.map (·.upstreamDecisionRef) ++
      i.relationshipDecisions.map (·.decisionId) ++
      i.semanticMappingDecisions.map (·.decisionId)).Perm
      (i'.relationships.map (·.upstreamDecisionRef) ++
      i'.sourceAttributeMappings.map (·.upstreamDecisionRef) ++
      i'.relationshipDecisions.map (·.decisionId) ++
      i'.semanticMappingDecisions.map (·.decisionId)) :=
    (((h.relationships.map _).append (h.sourceAttributeMappings.map _)).append
      (h.relationshipDecisions.map _)).append (h.semanticMappingDecisions.map _)
  have hreviews : (if bound = [] then i.evidenceReviews.map (·.reviewDecisionId) else bound).Perm
      (if bound' = [] then i'.evidenceReviews.map (·.reviewDecisionId) else bound') := by
    by_cases hb : bound = []
    · subst hb
      rw [nil_perm.1 hbound, if_pos rfl, if_pos rfl]
      exact h.evidenceReviews.map _
    · have hb' : bound' ≠ [] := by
        rintro rfl
        exact hb (perm_nil.1 hbound)
      rw [if_neg hb, if_neg hb']
      exact hbound
  simp only [hypothesisPayload, h.runId, h.executionContextId, h.modelVersion,
    h.entityResolutionRequirements, h.snapshotFingerprints, h.sourceSchemaFingerprints,
    sortedSet_eq_of_perm hdecisions, sortedSet_eq_of_perm hreviews,
    sortedSet_eq_of_perm h.sourceIds, sortedSet_eq_of_perm h.domainAssertionRefs,
    sortedBy_eq_of_perm h.entityTypes ht.entityTypes,
    sortedBy_eq_of_perm h.attributes ht.attributes,
    sortedBy_eq_of_perm h.relationships ht.relationships,
    sortedBy_eq_of_perm h.sourceAttributeMappings ht.mappings,
    sortedBy_eq_of_perm h.identityFieldHypotheses ht.identityFields,
    sortedBy_eq_of_perm h.entityResolutionSpecs ht.specs,
    sortedSet_eq_of_perm h.normalizationRefs, sortedSet_eq_of_perm h.sourceAuthorityPolicyRefs,
    sortedSet_eq_of_perm h.evidenceRefs, sortedSet_eq_of_perm h.provenanceRefs,
    sortedSet_eq_of_perm h.unresolvedAmbiguities,
    sortedSet_eq_of_perm h.unresolvedSemanticConflicts]

/-- **Where one order of the inputs gives a hypothesis, every order gives this hypothesis.** -/
theorem build (ht : i.Told digests) {hypothesis : CanonicalModelHypothesis}
    (hbuild : buildHypothesis digests reviewDigests i = .ok hypothesis) :
    buildHypothesis digests reviewDigests i' = .ok hypothesis := by
  simp only [buildHypothesis, bind_eq_ok, require_eq_ok, decide_eq_true_eq, if_error_eq_ok] at hbuild ⊢
  obtain ⟨_, hnonempty, _, hreviews, _, hrelationships, _, hmappings, _, hdecisions, _, hunique,
    boundRelationships, hboundRelationships, boundMappings, hboundMappings, _, hmissing, _, hrefs,
    hvalid, rfl⟩ := hbuild
  have hbind : ∀ relationship label upstreamRef reviewRef,
      Canonical.bindReview reviewDigests i relationship label upstreamRef reviewRef =
        Canonical.bindReview reviewDigests i' relationship label upstreamRef reviewRef :=
    h.bindReview hdecisions hunique
  simp only [hbind] at hboundRelationships hboundMappings
  obtain ⟨boundRelationships', hboundRelationships', hperm⟩ :=
    mapM_perm h.relationships hboundRelationships
  obtain ⟨boundMappings', hboundMappings', hperm'⟩ :=
    mapM_perm h.sourceAttributeMappings hboundMappings
  have hpayload := h.payload ht ((hperm.symm).append hperm'.symm)
  rw [hpayload] at hrefs hvalid
  rw [hpayload]
  refine ⟨(), ?_, (), ?_, (), ?_, (), ?_, (), ?_, (), ?_, boundRelationships', hboundRelationships',
    boundMappings', hboundMappings', (), ?_, (), hrefs, hvalid, rfl⟩
  · rwa [← h.evidenceReviews.isEmpty_eq]
  · rw [forM_eq_ok] at hreviews ⊢
    exact fun review hreview => hreviews review (h.evidenceReviews.mem_iff.2 hreview)
  · rwa [← h.relationshipDecisions.all_eq]
  · rwa [← h.semanticMappingDecisions.all_eq]
  · exact (h.decisionsById.map Prod.fst).nodup_iff.1 hdecisions
  · exact (h.reviewsById.map Prod.fst).nodup_iff.1 hunique
  · rwa [← h.missingFamilies]

end

end HypothesisInput.Reorders

variable {hypothesis : CanonicalModelHypothesis}
  {erResults : List (String × EntityResolutionResult)}
  {memberships : List CanonicalIdentityMembership} {digests : CanonicalDigests}
  {bounds : List BoundMembership}

/-- The same hypothesis, or none, whatever the order of the inputs. -/
theorem buildHypothesis_reordered {reviewDigests : ReviewDigests} {i i' : HypothesisInput}
    (h : i.Reorders i') (ht : i.Told digests) :
    (buildHypothesis digests reviewDigests i').toOption =
      (buildHypothesis digests reviewDigests i).toOption := by
  cases hi : buildHypothesis digests reviewDigests i with
  | ok hypothesis => rw [h.build ht hi]
  | error e =>
    cases hi' : buildHypothesis digests reviewDigests i' with
    | ok hypothesis =>
      rw [h.symm.build (h.told ht) hi'] at hi
      cases hi
    | error e' => rfl

/-! ## The proposal -/

/-- The same inputs, with the memberships and the results in another order. -/
structure ProposalInput.Reorders (i i' : ProposalInput) : Prop where
  hypothesis : i.hypothesis = i'.hypothesis
  memberships : i.memberships.Perm i'.memberships
  erResults : i.erResults.Perm i'.erResults
  /-- The results are a mapping. -/
  families : (i.erResults.map Prod.fst).Nodup
  sourceSchemaFingerprints : i.sourceSchemaFingerprints = i'.sourceSchemaFingerprints
  policyRefs : i.policyRefs.Perm i'.policyRefs
  provenanceRefs : i.provenanceRefs.Perm i'.provenanceRefs

def SameGroupOrder (a b : List CanonicalIdentityMembership) : Prop :=
  ∀ group, a.filter (fun m => m.membershipGroupId = group) =
    b.filter fun m => m.membershipGroupId = group

variable (hypothesis erResults) in
/-- What `build` makes of one membership; for another than a bound one it does not matter. -/
def boundOf (membership : CanonicalIdentityMembership) : BoundMembership :=
  match getItem hypothesis.typesById membership.canonicalEntityTypeId with
  | some entityType =>
    ((bindMembership hypothesis erResults entityType membership).toOption).getD
      { membership := membership }
  | none => { membership := membership }

theorem BindsTo.eq_boundOf {membership : CanonicalIdentityMembership} {bound : BoundMembership}
    (h : BindsTo hypothesis erResults membership bound) :
    bound = boundOf hypothesis erResults membership := by
  obtain ⟨entityType, htype, hbound⟩ := h
  rw [boundOf, htype]
  simp [hbound, Except.toOption]

variable (hypothesis erResults) in
theorem boundOf_keeps (membership : CanonicalIdentityMembership) :
    (boundOf hypothesis erResults membership).membership.sourceRecordRefs =
        membership.sourceRecordRefs ∧
      (boundOf hypothesis erResults membership).membership.membershipGroupId =
        membership.membershipGroupId := by
  unfold boundOf
  split
  · rename_i entityType _
    cases hbound : bindMembership hypothesis erResults entityType membership with
    | ok bound => exact ⟨(bindMembership_keeps hbound).1, (bindMembership_keeps hbound).2.2⟩
    | error e => exact ⟨rfl, rfl⟩
  · exact ⟨rfl, rfl⟩

theorem bounds_eq_map (h : Forall₂ (BindsTo hypothesis erResults) memberships bounds) :
    bounds = memberships.map (boundOf hypothesis erResults) := by
  have hmap := map_eq_of_forall₂ h (boundOf hypothesis erResults) id fun _ _ hb => hb.eq_boundOf
  rwa [map_id] at hmap

instance : Std.Symm RecordsApart := ⟨fun _ _ => recordsApart_symm⟩

theorem eq_of_records (hapart : memberships.Pairwise RecordsApart)
    {a b : CanonicalIdentityMembership} (ha : a ∈ memberships) (hb : b ∈ memberships)
    (h : a.sourceRecordRefs = b.sourceRecordRefs) : a = b := by
  by_contra hne
  obtain ⟨ref, href⟩ := exists_mem_of_ne_nil _ a.records_nonempty
  exact hapart.forall ha hb hne ref href (h ▸ href)

/-- **What sorting by group id forgets.** -/
theorem sorted_memberships_eq_iff {memberships' : List CanonicalIdentityMembership}
    (hperm : memberships.Perm memberships') (hapart : memberships.Pairwise RecordsApart) :
    sortedBy (·.membershipGroupId)
        ((memberships.map (boundOf hypothesis erResults)).map (·.membership)) =
      sortedBy (·.membershipGroupId)
        ((memberships'.map (boundOf hypothesis erResults)).map (·.membership)) ↔
    SameGroupOrder memberships memberships' := by
  have hfilter : ∀ (ms : List CanonicalIdentityMembership) (group : String),
      ((ms.map (boundOf hypothesis erResults)).map (·.membership)).filter
          (fun m => m.membershipGroupId = group) =
        (ms.filter fun m => m.membershipGroupId = group).map
          fun m => (boundOf hypothesis erResults m).membership := by
    intro ms group
    rw [map_map, filter_map]
    refine congrArg (List.map _) (filter_congr fun m _ => ?_)
    rw [Function.comp_apply, Function.comp_apply, (boundOf_keeps hypothesis erResults m).2]
  rw [sortedBy_eq_iff]
  refine forall_congr' fun group => ?_
  rw [hfilter, hfilter]
  refine ⟨fun h => ?_, fun h => by rw [h]⟩
  refine eq_of_map_eq (fun a ha b hb hab => ?_) h
  refine eq_of_records hapart (mem_filter.1 ha).1 (hperm.mem_iff.2 (mem_filter.1 hb).1) ?_
  rw [← (boundOf_keeps hypothesis erResults a).1, hab, (boundOf_keeps hypothesis erResults b).1]

/-- The payload that `build` hashes, where it gets that far. -/
def ProposalInput.payload (digests : CanonicalDigests) (i : ProposalInput) :
    Except CanonicalExc ProposalPayload := do
  let hashes ← (requiredFamilies i.hypothesis.entityResolutionRequirements).mapM
    (requiredResult i.hypothesis i.erResults)
  let bounds ← bindMemberships i.hypothesis i.erResults [] i.memberships
  pure (proposalPayload digests i hashes bounds)

/-- The two payloads do not share a digest, unless they are the same. -/
def CollisionFree {α : Type} (digest : α → String) (x y : Except CanonicalExc α) : Prop :=
  ∀ a b, x = .ok a → y = .ok b → digest a = digest b → a = b

theorem Proposed.payload {i : ProposalInput} {hashes : List (String × String)}
    {proposal : CanonicalIdentityProposal} (h : Proposed digests i hashes bounds proposal) :
    i.payload digests = .ok (proposalPayload digests i hashes bounds) := by
  have hbounds : bindMemberships i.hypothesis i.erResults [] i.memberships = .ok bounds :=
    bindMemberships_eq_ok.2 ⟨h.binds, h.apart, fun _ _ _ _ => not_mem_nil⟩
  rw [ProposalInput.payload, h.results, hbounds]
  rfl

namespace ProposalInput.Reorders
variable {digests : CanonicalDigests} {i i' : ProposalInput}

theorem payload_eq (h : i.Reorders i') (hashes : List (String × String))
    {bounds bounds' : List BoundMembership} (hperm : bounds'.Perm bounds) :
    proposalPayload digests i' hashes bounds' =
      { proposalPayload digests i hashes bounds with
        memberships := sortedBy (·.membershipGroupId) (bounds'.map (·.membership)) } := by
  have htypes : ((i.hypothesis.typesOf (bounds'.map (·.membership))).map (·.semanticId)).Perm
      ((i.hypothesis.typesOf (bounds.map (·.membership))).map (·.semanticId)) :=
    ((hperm.map _).filterMap _).map _
  have hprovenance : (i'.provenanceRefs ++ i.hypothesis.provenanceRefs).Perm
      (i.provenanceRefs ++ i.hypothesis.provenanceRefs) := h.provenanceRefs.symm.append_right _
  simp only [proposalPayload, ← h.hypothesis, ← h.sourceSchemaFingerprints,
    sorted_eq_of_perm htypes, sortedSet_eq_of_perm (hperm.flatMap_right _),
    sortedSet_eq_of_perm h.policyRefs.symm, sortedSet_eq_of_perm hprovenance]

/-- **Another order gives a proposal as well, and the same one exactly when the memberships of each
group come in the same order.** -/
theorem build (h : i.Reorders i') {proposal : CanonicalIdentityProposal}
    (hbuild : buildProposal digests i = .ok proposal)
    (hfree : CollisionFree digests.proposalId (i.payload digests) (i'.payload digests)) :
    ∃ proposal', buildProposal digests i' = .ok proposal' ∧
      ((proposal'.proposalId = proposal.proposalId ∧
          digests.proposalHash proposal' = digests.proposalHash proposal) ↔
        SameGroupOrder i.memberships i'.memberships) := by
  obtain ⟨hashes, bounds, hp⟩ := buildProposal_eq_ok.1 hbuild
  have hlookup : ∀ family, getItem i.erResults family = getItem i'.erResults family :=
    getItem_eq_of_perm h.erResults h.families
  have hresult : requiredResult i'.hypothesis i'.erResults =
      requiredResult i.hypothesis i.erResults := by
    funext family
    simp only [requiredResult, ← hlookup, ← h.hypothesis]
  have hbinds : BindsTo i'.hypothesis i'.erResults = BindsTo i.hypothesis i.erResults := by
    funext membership bound
    simp only [BindsTo, bindMembership, ← hlookup, ← h.hypothesis]
  obtain ⟨bounds', hbounds', hperm⟩ := perm_comp_forall₂ h.memberships.symm hp.binds
  have hpayload : proposalPayload digests i' hashes bounds' = _ := h.payload_eq hashes hperm
  have hp' : Proposed digests i' hashes bounds'
      (proposalOf digests i' (proposalPayload digests i' hashes bounds')) := by
    refine ⟨?_, ?_, ?_, ?_, ?_, ?_, ?_, ?_, rfl⟩
    · rw [hresult, ← h.hypothesis]
      exact hp.results
    · rw [hbinds]
      exact hbounds'
    · exact h.memberships.pairwise hp.apart fun hab => recordsApart_symm hab
    · intro hnil
      rw [hnil] at hperm
      exact hp.nonempty (nil_perm.1 hperm)
    · rw [← h.hypothesis]
      intro family hfamily
      exact (((hperm.map _).filterMap _).mem_iff).2 (hp.covered family hfamily)
    · rw [hpayload]
      exact hp.policies
    · rw [hpayload]
      exact hp.provenance
    · rw [← h.hypothesis]
      exact hp.domain
  refine ⟨_, buildProposal_eq_ok.2 ⟨hashes, bounds', hp'⟩, ?_⟩
  have hsorted : sortedBy (·.membershipGroupId) (bounds.map (·.membership)) =
      sortedBy (·.membershipGroupId) (bounds'.map (·.membership)) ↔
        SameGroupOrder i.memberships i'.memberships := by
    rw [bounds_eq_map hp.binds, bounds_eq_map hbounds']
    exact sorted_memberships_eq_iff h.memberships hp.apart
  rw [← hsorted]
  constructor
  · rintro ⟨hid, _⟩
    rw [hp.proposal] at hid
    have hsame := hfree _ _ hp.payload hp'.payload hid.symm
    exact congrArg ProposalPayload.memberships hsame
  · intro hsame
    have hequal : proposalPayload digests i' hashes bounds' =
        proposalPayload digests i hashes bounds := by
      rw [hpayload, ← hsame]
      rfl
    have hproposal : proposalOf digests i' (proposalPayload digests i' hashes bounds') = proposal := by
      rw [hp.proposal, hequal]
      simp only [proposalOf, h.hypothesis]
    rw [hproposal]
    exact ⟨rfl, rfl⟩

end ProposalInput.Reorders

/-- The payload that `finalize` hashes, where it gets that far. -/
def FinalizationInput.payload (digests : CanonicalDigests) (j : FinalizationInput) :
    Except CanonicalExc ModelPayload := do
  let finals ← j.identityProposal.memberships.mapM (finalizeMembership digests j)
  pure (modelPayload digests j finals)

/-- **Another order of the decisions and of the conflicts gives a model as well, and the same one
exactly when they come in the same order.** -/
theorem finalize_reordered {digests : CanonicalDigests} {reviewDigests : ReviewDigests}
    {j : FinalizationInput} {survivorship : List CanonicalSurvivorshipDecision}
    {conflicts : List CanonicalConflict} {model : CanonicalModel}
    (hfinalize : finalize digests reviewDigests j = .ok model)
    (hfree : CollisionFree digests.modelId (j.payload digests) (FinalizationInput.payload digests
        { j with survivorshipDecisions := survivorship, conflicts := conflicts })) :
    ∃ model', finalize digests reviewDigests
        { j with survivorshipDecisions := survivorship, conflicts := conflicts } = .ok model' ∧
      ((model'.modelId = model.modelId ∧ digests.modelHash model' = digests.modelHash model) ↔
        survivorship = j.survivorshipDecisions ∧ conflicts = j.conflicts) := by
  simp only [finalize, bind_eq_ok, require_eq_ok, if_error_eq_ok] at hfinalize ⊢
  obtain ⟨_, hchecked, finals, hfinals, _, hcovered, hvalid, rfl⟩ := hfinalize
  -- the loop and the checks read neither list
  have hfinals' : j.identityProposal.memberships.mapM (finalizeMembership digests
      { j with survivorshipDecisions := survivorship, conflicts := conflicts }) = .ok finals := hfinals
  refine ⟨_, ⟨(), hchecked, finals, hfinals', (), hcovered, hvalid, rfl⟩, ?_⟩
  constructor
  · rintro ⟨hid, _⟩
    have hsame := hfree _ _ (by rw [FinalizationInput.payload, hfinals]; rfl)
      (by rw [FinalizationInput.payload, hfinals']; rfl) hid.symm
    exact ⟨(congrArg ModelPayload.survivorship hsame).symm,
      (congrArg ModelPayload.conflicts hsame).symm⟩
  · rintro ⟨rfl, rfl⟩
    exact ⟨rfl, rfl⟩

/-- **The ids and the hashes are independent of the order of the inputs exactly when memberships of
one group id, survivorship decisions and conflicts come in the same order.** -/
theorem canonical_ids_order_independent_iff (digests : CanonicalDigests)
    (reviewDigests : ReviewDigests) (i i' : HypothesisInput) (hi : i.Reorders i')
    (htold : i.Told digests) (p p' : ProposalInput) (hp : p.Reorders p')
    (hproposalId : CollisionFree digests.proposalId (p.payload digests) (p'.payload digests))
    (proposal : CanonicalIdentityProposal) (hbuild : buildProposal digests p = .ok proposal)
    (j j' : FinalizationInput)
    (hj : j' = { j with survivorshipDecisions := j'.survivorshipDecisions, conflicts := j'.conflicts })
    (hmodelId : CollisionFree digests.modelId (j.payload digests) (j'.payload digests))
    (model : CanonicalModel) (hfinalize : finalize digests reviewDigests j = .ok model) :
    ((buildHypothesis digests reviewDigests i').toOption =
          (buildHypothesis digests reviewDigests i).toOption ∧
      (∃ proposal', buildProposal digests p' = .ok proposal' ∧
        proposal'.proposalId = proposal.proposalId ∧
        digests.proposalHash proposal' = digests.proposalHash proposal) ∧
      ∃ model', finalize digests reviewDigests j' = .ok model' ∧
        model'.modelId = model.modelId ∧ digests.modelHash model' = digests.modelHash model) ↔
    SameGroupOrder p.memberships p'.memberships ∧
      j'.survivorshipDecisions = j.survivorshipDecisions ∧ j'.conflicts = j.conflicts := by
  obtain ⟨proposal', hbuild', hproposal⟩ := hp.build hbuild hproposalId
  rw [hj] at hmodelId
  obtain ⟨model', hfinalize', hmodel⟩ := finalize_reordered hfinalize hmodelId
  rw [← hj] at hfinalize'
  rw [← hproposal, ← hmodel]
  constructor
  · rintro ⟨_, ⟨other, hother, hids⟩, otherModel, hotherModel, hmodelIds⟩
    rw [hbuild'] at hother
    cases hother
    rw [hfinalize'] at hotherModel
    cases hotherModel
    exact ⟨hids, hmodelIds⟩
  · rintro ⟨hids, hmodelIds⟩
    exact ⟨buildHypothesis_reordered hi htold, ⟨proposal', hbuild', hids⟩, model', hfinalize',
      hmodelIds⟩

/-! ## Two orders of the same inputs -/

def orderType : CanonicalEntityType where
  canonicalEntityTypeId := "type-order"
  semanticId := "order"
  businessName := "Order"
  kind := .event
  identityStrategy := "source-local"
  reviewState := "ACCEPTED"
  provenanceRefs := ["run-1"]

def evidenceReview : ReviewDecision where
  reviewDecisionId := "review-0"
  reviewCheckpointId := .reviewEvidenceDecisions
  subjectStage := "EVIDENCE_FUSION"
  subjectArtifactId := "decision-1"
  subjectContentHash := "hash"
  subjectSchemaVersion := "1.0"
  modelVersion := "1"
  policyVersion := "policy:1"
  subjectSemanticId := "subject-1"
  applicabilityFingerprint := "fingerprint"
  decision := .accepted

def modelHypothesisInput (entityTypes : List CanonicalEntityType) : HypothesisInput where
  runId := "run-1"
  executionContextId := "context-1"
  modelVersion := "1"
  evidenceReviews := [evidenceReview]
  entityTypes := entityTypes
  sourceIds := ["crm"]
  domainAssertionRefs := ["domain-1"]
  entityResolutionRequirements := [("customer", .erRequired)]
  entityResolutionSpecs := [customerSpec]
  evidenceRefs := ["evidence-1"]
  provenanceRefs := ["run-1"]

def emailConflict (conflictId : String) : CanonicalConflict where
  conflictId := conflictId
  conflictType := .differingSourceValues
  subjectEntityTypeId := "type-customer"
  alternativeValueRefs := ["value-1", "value-2"]
  policyRef := "policy-1"
  resolutionState := "REVIEW_REQUIRED"
  rationale := "consensus is not established"
  provenanceRefs := ["run-1"]

/-- Entity types and memberships of two groups in another order. -/
theorem canonical_ids_order_independent_groups : ((buildHypothesis plainDigests plainReviewDigests
            (modelHypothesisInput [orderType, customerType])).toOption =
          (buildHypothesis plainDigests plainReviewDigests
            (modelHypothesisInput [customerType, orderType])).toOption ∧
      (∃ proposal', buildProposal plainDigests (customerProposalInput customers.reverse) =
          .ok proposal' ∧ proposal'.proposalId = (customerProposal customers).proposalId ∧
        plainDigests.proposalHash proposal' =
          plainDigests.proposalHash (customerProposal customers)) ∧
      ∃ model', finalize plainDigests plainReviewDigests
          (customerFinalization (customerProposal customers) [emailConflict "conflict-1"]) =
            .ok model' ∧ model'.modelId = "cmodel:conflict-1" ∧
        plainDigests.modelHash model' = "hash:cmodel:conflict-1") ↔
    SameGroupOrder customers customers.reverse ∧ ([] : List CanonicalSurvivorshipDecision) = [] ∧
      [emailConflict "conflict-1"] = [emailConflict "conflict-1"] := by
  obtain ⟨model, hfinalize⟩ := exists_ok_of_isOk (x := finalize plainDigests plainReviewDigests
    (customerFinalization (customerProposal customers) [emailConflict "conflict-1"]))
    (by decide +kernel)
  have hmodelId : model.modelId = "cmodel:conflict-1" := by
    obtain ⟨finals, h⟩ := finalize_eq_ok hfinalize
    rw [h.model]
    rfl
  have hreorders : (modelHypothesisInput [customerType, orderType]).Reorders
      (modelHypothesisInput [orderType, customerType]) :=
    ⟨rfl, rfl, rfl, .refl _, .refl _, .refl _, fun _ => .refl _, .swap _ _ _, .refl _, .refl _, rfl,
      .refl _, .refl _, .refl _, .refl _, .refl _, rfl, rfl, .refl _, .refl _, .refl _, .refl _,
      .refl _, .refl _⟩
  have hproposals : (customerProposalInput customers).Reorders
      (customerProposalInput customers.reverse) :=
    ⟨rfl, .swap _ _ _, .refl _, by decide, rfl, .refl _, .refl _⟩
  have hboth := canonical_ids_order_independent_iff plainDigests plainReviewDigests _ _ hreorders
    ⟨by unfold Separated; decide +kernel, by unfold Separated; decide, by unfold Separated; decide,
      by unfold Separated; decide, by unfold Separated; decide, by unfold Separated; decide +kernel⟩
    _ _ hproposals
    (by
      intro a b ha hb _
      have hsame : (customerProposalInput customers).payload plainDigests =
          (customerProposalInput customers.reverse).payload plainDigests := by decide +kernel
      rw [ha, hb] at hsame
      exact Except.ok.inj hsame)
    (customerProposal customers) (by decide +kernel)
    (customerFinalization (customerProposal customers) [emailConflict "conflict-1"])
    (customerFinalization (customerProposal customers) [emailConflict "conflict-1"]) rfl
    (by
      intro a b ha hb _
      rw [ha] at hb
      exact Except.ok.inj hb) model hfinalize
  have hhash : plainDigests.modelHash model = "hash:cmodel:conflict-1" := by
    show "hash:" ++ model.modelId = _
    rw [hmodelId]
    rfl
  rw [hmodelId, hhash] at hboth
  exact hboth

/-- The same two customers under one group id. -/
def oneGroup : List CanonicalIdentityMembership :=
  [overridingCustomer "group-1" none "crm:1" "first",
    overridingCustomer "group-1" none "crm:3" "second"]

/-- **The order shows**: in the proposal when a group id repeats, and in the model when there are two
conflicts. -/
theorem order_changes_ids :
    buildProposal plainDigests (customerProposalInput oneGroup) = .ok (customerProposal oneGroup) ∧
    buildProposal plainDigests (customerProposalInput oneGroup.reverse) =
      .ok (customerProposal oneGroup.reverse) ∧
    (customerProposal oneGroup).proposalId ≠ (customerProposal oneGroup.reverse).proposalId ∧
    (finalize plainDigests plainReviewDigests (customerFinalization (customerProposal customers)
      [emailConflict "conflict-1", emailConflict "conflict-2"])).toOption.map (·.modelId) =
        some "cmodel:conflict-1,conflict-2" ∧
    (finalize plainDigests plainReviewDigests (customerFinalization (customerProposal customers)
      [emailConflict "conflict-2", emailConflict "conflict-1"])).toOption.map (·.modelId) =
        some "cmodel:conflict-2,conflict-1" := by
  refine ⟨by decide +kernel, by decide +kernel, by decide +kernel, by decide +kernel,
    by decide +kernel⟩

end DirtyDataOlap.Canonical

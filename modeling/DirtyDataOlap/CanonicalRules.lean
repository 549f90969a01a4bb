import DirtyDataOlap.CanonicalServices

/-!
# What canonicalization accepts

The services inverted: each returns exactly when its checks pass, and then its artifact is a plain
function of its inputs.  **The loop over the memberships is a condition on each membership and on each
pair**: their records are disjoint.
-/
namespace DirtyDataOlap.Canonical

open List

theorem if_error_eq_ok {ε α : Type} {c : Bool} {e : ε} {a b : α} :
    (if c then (.error e : Except ε α) else pure a) = .ok b ↔ c = false ∧ a = b := by
  cases c <;> simp [pure, Except.pure]

theorem mem_requiredFamilies {requirements : List (String × EntityResolutionRequirement)}
    {family : String} : family ∈ requiredFamilies requirements ↔
      getItem requirements family = some .erRequired := by
  rw [requiredFamilies, mem_sortedSet, mem_filter, decide_eq_true_eq]
  refine ⟨And.right, fun h => ⟨?_, h⟩⟩
  exact getItem_isSome_iff.1 (by rw [h]; rfl)

variable {hypothesis : HypothesisPayload}

theorem requirement_eq_required {family : String} : hypothesis.requirement family = .erRequired ↔
      getItem hypothesis.entityResolutionRequirements family = some .erRequired := by
  unfold HypothesisPayload.requirement
  cases getItem hypothesis.entityResolutionRequirements family <;> simp

theorem typeId_of_typesById {typeId : String} {entityType : CanonicalEntityType}
    (h : getItem hypothesis.typesById typeId = some entityType) :
    entityType.canonicalEntityTypeId = typeId := by
  obtain ⟨t, _, hid, rfl⟩ := getItem_map_eq_some h
  exact hid

/-! ## One membership of a proposal -/

section
variable {hypothesis : CanonicalModelHypothesis} {erResults : List (String × EntityResolutionResult)}
  {entityType : CanonicalEntityType} {membership : CanonicalIdentityMembership}

variable (hypothesis membership) in
def Resolved (result : EntityResolutionResult) (family : String) : Prop :=
  (membership.derivationBasis = .erAuthorizedLinkage ∧
      Authorized hypothesis membership result family) ∨
    (membership.derivationBasis = .humanDomainReview ∧
      ∀ ref ∈ membership.sourceRecordRefs, ref ∈ resultPopulation result)

variable (membership) in
/-- What `build` makes of a membership that rests on a result. -/
def resolvedMembership (family : String) (result : EntityResolutionResult) : BoundMembership where
  membership := if membership.derivationBasis = .erAuthorizedLinkage then
    membership.linked family result else membership
  resultRefs := result.artifacts
  specRefs := [result.spec.specId]

/-- **One membership**: under a required family it rests on its result; else it is not linked by
entity resolution. -/
theorem bindMembership_eq_ok {bound : BoundMembership} :
    bindMembership hypothesis erResults entityType membership = .ok bound ↔
      (hypothesis.requirement (membership.family entityType) = .erRequired ∧
        ∃ result, getItem erResults (membership.family entityType) = some result ∧
          Resolved hypothesis membership result (membership.family entityType) ∧
          bound = resolvedMembership membership (membership.family entityType) result) ∨
      (hypothesis.requirement (membership.family entityType) ≠ .erRequired ∧
        membership.derivationBasis ≠ .erAuthorizedLinkage ∧
        (entityType.kind = .event → membership.derivationBasis = .sourceLocalEventIdentity) ∧
        bound = { membership := membership }) := by
  unfold bindMembership
  by_cases hbasis : membership.derivationBasis = .erAuthorizedLinkage
  · simp only [hbasis, if_true, bind_eq_ok, require_eq_ok, demand_eq_ok, decide_eq_true_eq,
      validateErMembership_eq_ok, pure, Except.pure, Except.ok.injEq]
    constructor
    · rintro ⟨_, hrequired, result, hresult, _, hvalid, rfl⟩
      refine .inl ⟨hrequired, result, hresult, .inl ⟨hbasis, hvalid⟩, ?_⟩
      rw [resolvedMembership, if_pos hbasis]
    · rintro (⟨hrequired, result, hresult, ⟨_, hvalid⟩ | ⟨hhuman, _⟩, rfl⟩ | ⟨_, hno, _⟩)
      · refine ⟨(), hrequired, result, hresult, (), hvalid, ?_⟩
        rw [resolvedMembership, if_pos hbasis]
      · rw [hbasis] at hhuman
        cases hhuman
      · exact absurd rfl hno
  · by_cases hrequired : hypothesis.requirement (membership.family entityType) = .erRequired
    · simp only [hbasis, hrequired, if_true, if_false, bind_eq_ok, require_eq_ok, demand_eq_ok,
        decide_eq_true_eq, all_eq_true, pure, Except.pure, Except.ok.injEq]
      constructor
      · rintro ⟨result, hresult, _, hhuman, _, hpopulation, rfl⟩
        refine .inl ⟨trivial, result, hresult, .inr ⟨hhuman, hpopulation⟩, ?_⟩
        rw [resolvedMembership, if_neg hbasis]
      · rintro (⟨_, result, hresult, ⟨hlinked, _⟩ | ⟨hhuman, hpopulation⟩, rfl⟩ | ⟨hno, _⟩)
        · exact absurd hlinked hbasis
        · refine ⟨result, hresult, (), hhuman, (), hpopulation, ?_⟩
          rw [resolvedMembership, if_neg hbasis]
        · exact absurd rfl hno
    · simp only [hbasis, hrequired, if_false, bind_eq_ok, require_eq_ok, Bool.not_eq_true',
        Bool.and_eq_false_iff, decide_eq_false_iff_not, not_not, pure, Except.pure,
        Except.ok.injEq]
      constructor
      · rintro ⟨_, hevent, rfl⟩
        refine .inr ⟨hrequired, hbasis, fun hkind => ?_, rfl⟩
        rcases hevent with hno | hlocal
        · exact absurd hkind hno
        · exact hlocal
      · rintro (⟨hyes, _⟩ | ⟨_, _, hevent, rfl⟩)
        · exact hyes.elim
        · refine ⟨(), ?_, rfl⟩
          by_cases hkind : entityType.kind = .event
          · exact .inr (hevent hkind)
          · exact .inl hkind

theorem bindMembership_keeps {bound : BoundMembership}
    (h : bindMembership hypothesis erResults entityType membership = .ok bound) :
    bound.membership.sourceRecordRefs = membership.sourceRecordRefs ∧
      bound.membership.canonicalEntityTypeId = membership.canonicalEntityTypeId ∧
      bound.membership.membershipGroupId = membership.membershipGroupId := by
  rcases bindMembership_eq_ok.1 h with ⟨_, result, _, _, rfl⟩ | ⟨_, _, _, rfl⟩
  · unfold resolvedMembership
    split
    · exact ⟨rfl, rfl, rfl⟩
    · exact ⟨rfl, rfl, rfl⟩
  · exact ⟨rfl, rfl, rfl⟩

end

def RecordsApart (a b : CanonicalIdentityMembership) : Prop :=
  ∀ ref ∈ a.sourceRecordRefs, ref ∉ b.sourceRecordRefs

def BindsTo (hypothesis : CanonicalModelHypothesis)
    (erResults : List (String × EntityResolutionResult)) (membership : CanonicalIdentityMembership)
    (bound : BoundMembership) : Prop :=
  ∃ entityType, getItem hypothesis.typesById membership.canonicalEntityTypeId = some entityType ∧
    bindMembership hypothesis erResults entityType membership = .ok bound

variable {hypothesis : CanonicalModelHypothesis}
  {erResults : List (String × EntityResolutionResult)} {digests : CanonicalDigests}
  {family : String} {i : FinalizationInput} {reviewDigests : ReviewDigests}

theorem bindMemberships_eq_ok {seen : List String} {memberships : List CanonicalIdentityMembership}
    {bounds : List BoundMembership} :
    bindMemberships hypothesis erResults seen memberships = .ok bounds ↔
      Forall₂ (BindsTo hypothesis erResults) memberships bounds ∧
        memberships.Pairwise RecordsApart ∧
        ∀ membership ∈ memberships, ∀ ref ∈ membership.sourceRecordRefs, ref ∉ seen := by
  induction memberships generalizing seen bounds with
  | nil =>
    rw [bindMemberships, List.forall₂_nil_left_iff, eq_comm]
    simp [pure, Except.pure]
  | cons membership rest ih =>
    simp only [bindMemberships, bind_eq_ok, demand_eq_ok, require_eq_ok, all_eq_true,
      decide_eq_true_eq, ih, pure, Except.pure, Except.ok.injEq, mem_append, not_or]
    constructor
    · rintro ⟨entityType, htype, _, hseen, bound, hbound, bounds', ⟨hrest, hapart, hnew⟩, rfl⟩
      refine ⟨.cons ⟨entityType, htype, hbound⟩ hrest, pairwise_cons.2 ⟨?_, hapart⟩, ?_⟩
      · intro other hother ref href href'
        exact (hnew other hother ref href').2 href
      · intro other hother
        rcases mem_cons.1 hother with rfl | hother
        · exact hseen
        · exact fun ref href => (hnew other hother ref href).1
    · rintro ⟨hall, hapart, hnew⟩
      cases hall with
      | cons hone hrest =>
        obtain ⟨entityType, htype, hbound⟩ := hone
        obtain ⟨hfirst, hapart⟩ := pairwise_cons.1 hapart
        refine ⟨entityType, htype, (), hnew membership (mem_cons_self ..), _, hbound, _,
          ⟨hrest, hapart, ?_⟩, rfl⟩
        intro other hother ref href
        exact ⟨hnew other (mem_cons_of_mem _ hother) ref href,
          fun hmem => hfirst other hother ref hmem href⟩

/-- What `build` checks, and what it has when it returns. -/
structure Proposed (digests : CanonicalDigests) (i : ProposalInput) (hashes : List (String × String))
    (bounds : List BoundMembership) (proposal : CanonicalIdentityProposal) : Prop where
  results : (requiredFamilies i.hypothesis.entityResolutionRequirements).mapM
    (requiredResult i.hypothesis i.erResults) = .ok hashes
  binds : Forall₂ (BindsTo i.hypothesis i.erResults) i.memberships bounds
  apart : i.memberships.Pairwise RecordsApart
  nonempty : bounds ≠ []
  covered : ∀ family ∈ requiredFamilies i.hypothesis.entityResolutionRequirements,
    family ∈ i.hypothesis.familiesOf (bounds.map (·.membership))
  policies : (proposalPayload digests i hashes bounds).policyRefs ≠ []
  provenance : (proposalPayload digests i hashes bounds).provenanceRefs ≠ []
  domain : i.hypothesis.domainAssertionRefs ≠ []
  proposal : proposal = proposalOf digests i (proposalPayload digests i hashes bounds)

/-- **What `CanonicalIdentityProposalService.build` returns.** -/
theorem buildProposal_eq_ok {i : ProposalInput} {proposal : CanonicalIdentityProposal} :
    buildProposal digests i = .ok proposal ↔
      ∃ hashes bounds, Proposed digests i hashes bounds proposal := by
  simp only [buildProposal, bind_eq_ok, require_eq_ok, bindMemberships_eq_ok, if_error_eq_ok,
    Bool.not_eq_true', Bool.or_eq_false_iff, isEmpty_eq_false_iff, all_eq_true,
    decide_eq_true_eq]
  constructor
  · rintro ⟨hashes, hresults, bounds, ⟨hbinds, hapart, _⟩, _, hne, _, hcovered, _,
      ⟨hpolicies, hprovenance⟩, hdomain, rfl⟩
    exact ⟨hashes, bounds, hresults, hbinds, hapart, hne, hcovered, hpolicies, hprovenance, hdomain,
      rfl⟩
  · rintro ⟨hashes, bounds, hresults, hbinds, hapart, hne, hcovered, hpolicies, hprovenance, hdomain,
      rfl⟩
    exact ⟨hashes, hresults, bounds, ⟨hbinds, hapart, fun _ _ _ _ => not_mem_nil⟩, (), hne, (),
      hcovered, (), ⟨hpolicies, hprovenance⟩, hdomain, rfl⟩

theorem requiredResult_eq_ok {item : String × String} :
    requiredResult hypothesis erResults family = .ok item ↔
      ∃ result, getItem erResults family = some result ∧
        (∃ expected, Compatible hypothesis result family expected) ∧
        item = (family, result.digest) := by
  simp only [requiredResult, bind_eq_ok, demand_eq_ok, validateErResultCompatibility_eq_ok, pure,
    Except.pure, Except.ok.injEq]
  constructor
  · rintro ⟨result, hresult, _, hcompatible, rfl⟩
    exact ⟨result, hresult, hcompatible, rfl⟩
  · rintro ⟨result, hresult, hcompatible, rfl⟩
    exact ⟨result, hresult, (), hcompatible, rfl⟩

theorem compatible_of_results {hashes : List (String × String)}
    (h : (requiredFamilies hypothesis.entityResolutionRequirements).mapM
      (requiredResult hypothesis erResults) = .ok hashes)
    (hfamily : hypothesis.requirement family = .erRequired) :
    ∃ result, getItem erResults family = some result ∧
      ∃ expected, Compatible hypothesis result family expected := by
  have hmem := mem_requiredFamilies.2 (requirement_eq_required.1 hfamily)
  obtain ⟨item, _, hitem⟩ := exists_right_of_forall₂ (mapM_eq_ok.1 h) hmem
  obtain ⟨result, hresult, hcompatible, _⟩ := requiredResult_eq_ok.1 hitem
  exact ⟨result, hresult, hcompatible⟩

variable (digests reviewDigests) in
/-- What `finalize` has when it returns. -/
structure Finalized (i : FinalizationInput)
    (finals : List (CanonicalEntityInstance × List SourceRecordCanonicalMap))
    (model : CanonicalModel) : Prop where
  checked : checkFinalization digests reviewDigests i = .ok ()
  each : Forall₂ (fun membership final => finalizeMembership digests i membership = .ok final)
    i.identityProposal.memberships finals
  model : model = modelOf digests i (modelPayload digests i finals)

theorem finalize_eq_ok {model : CanonicalModel} (h : finalize digests reviewDigests i = .ok model) :
    ∃ finals, Finalized digests reviewDigests i finals model := by
  simp only [finalize, bind_eq_ok, require_eq_ok, if_error_eq_ok, mapM_eq_ok] at h
  obtain ⟨_, hchecked, finals, hfinals, _, _, _, rfl⟩ := h
  exact ⟨finals, hchecked, hfinals, rfl⟩

theorem compatible_of_checked (h : checkFinalization digests reviewDigests i = .ok ())
    (hfamily : i.hypothesis.requirement family = .erRequired) :
    ∃ result, getItem i.erResults family = some result ∧
      ∃ expected, Compatible i.hypothesis result family expected := by
  simp only [checkFinalization, bind_eq_ok] at h
  obtain ⟨hashes, hresults, _⟩ := h
  exact compatible_of_results hresults hfamily

/-- **One membership of `finalize`**: as in `build`, but one that is not linked passes for a human
override. -/
theorem admitMembership_eq_ok {entityType : CanonicalEntityType}
    {membership : CanonicalIdentityMembership} {familyResult : Option EntityResolutionResult} :
    admitMembership i entityType membership = .ok familyResult ↔
      familyResult = getItem i.erResults (membership.family entityType) ∧
      ((i.hypothesis.requirement (membership.family entityType) = .erRequired ∧
        ∃ result, getItem i.erResults (membership.family entityType) = some result ∧
          ((membership.derivationBasis = .erAuthorizedLinkage ∧
              Authorized i.hypothesis membership result (membership.family entityType)) ∨
            (membership.derivationBasis ≠ .erAuthorizedLinkage ∧
              ∀ ref ∈ membership.sourceRecordRefs, ref ∈ resultPopulation result))) ∨
      (i.hypothesis.requirement (membership.family entityType) ≠ .erRequired ∧
        membership.derivationBasis ≠ .erAuthorizedLinkage)) := by
  unfold admitMembership
  by_cases hbasis : membership.derivationBasis = .erAuthorizedLinkage
  · simp only [hbasis, if_true, bind_eq_ok, require_eq_ok, demand_eq_ok, decide_eq_true_eq,
      validateErMembership_eq_ok, pure, Except.pure, Except.ok.injEq]
    constructor
    · rintro ⟨_, hrequired, result, hresult, _, hvalid, rfl⟩
      exact ⟨rfl, .inl ⟨hrequired, result, hresult, .inl ⟨trivial, hvalid⟩⟩⟩
    · rintro ⟨rfl, ⟨hrequired, result, hresult, ⟨_, hvalid⟩ | ⟨hno, _⟩⟩ | ⟨_, hno⟩⟩
      · exact ⟨(), hrequired, result, hresult, (), hvalid, rfl⟩
      · exact absurd rfl hno
      · exact absurd rfl hno
  · by_cases hrequired : i.hypothesis.requirement (membership.family entityType) = .erRequired
    · simp only [hbasis, hrequired, if_true, if_false, bind_eq_ok, require_eq_ok, demand_eq_ok,
        all_eq_true, decide_eq_true_eq, pure, Except.pure, Except.ok.injEq]
      constructor
      · rintro ⟨result, hresult, _, hpopulation, rfl⟩
        exact ⟨rfl, .inl ⟨trivial, result, hresult, .inr ⟨hbasis, hpopulation⟩⟩⟩
      · rintro ⟨rfl, ⟨_, result, hresult, ⟨hlinked, _⟩ | ⟨_, hpopulation⟩⟩ | ⟨hno, _⟩⟩
        · exact hlinked.elim
        · exact ⟨result, hresult, (), hpopulation, rfl⟩
        · exact absurd rfl hno
    · simp only [hbasis, hrequired, if_false, pure, Except.pure, Except.ok.injEq]
      constructor
      · rintro rfl
        exact ⟨rfl, .inr ⟨hrequired, hbasis⟩⟩
      · rintro ⟨rfl, _⟩
        rfl

/-! ## One family -/

/-- Digests that tell the artifacts below apart. -/
def plainDigests : CanonicalDigests where
  typeDigest t := t.canonicalEntityTypeId
  attributeDigest a := a.canonicalAttributeId
  relationshipDigest r := r.relationshipId
  mappingDigest m := m.mappingId
  identityFieldDigest f := f.identityFieldId
  hypothesisId p := "chyp:" ++ p.runId
  hypothesisHash h := "hash:" ++ h.artifactId
  proposalId p := "cip:" ++ String.intercalate "," (p.memberships.map (·.rationale))
  proposalHash p := "hash:" ++ p.proposalId
  entityId entityTypeId refs version :=
    entityTypeId ++ ":" ++ String.intercalate "," refs ++ ":" ++ version
  modelId p := "cmodel:" ++ String.intercalate "," (p.conflicts.map (·.conflictId))
  modelHash m := "hash:" ++ m.modelId
  account maps := "account:" ++ String.intercalate "," (maps.map (·.recordRef))

def plainReviewDigests : ReviewDigests where
  evidenceScope _ := "scope"
  evidenceApplicability decisionId contentId _ _ := decisionId ++ ":" ++ contentId
  identitySemantic ids := "csem:" ++ String.intercalate "," ids
  identityApplicability hypothesis proposal _ := hypothesis ++ ":" ++ proposal
  planSemantic plan := plan.planId
  planApplicability plan := plan.contentHash
  materializationSubject compiled sql target := compiled ++ ":" ++ sql ++ ":" ++ target
  materializationSemantic planId compiledPlanId dialect targetType :=
    planId ++ ":" ++ compiledPlanId ++ ":" ++ dialect ++ ":" ++ targetType
  materializationApplicability compiled sql target := compiled ++ ":" ++ sql ++ ":" ++ target

def customerScope : ResolutionScope where
  sourceIds := ["crm"]
  snapshotIds := [("crm", "snapshot-1")]
  tableIdsBySource := [("crm", ["customers"])]

def customerSpec : EntityResolutionSpec where
  specId := "er-customer"
  entityFamily := "customer"
  scope := customerScope
  fingerprint := "spec-1"

/-- Entity resolution has linked two records of three. -/
def customerResult : EntityResolutionResult where
  spec := customerSpec
  observationScope := customerScope
  edges := [{ edgeId := "edge-1", leftRecordRef := "crm:1", rightRecordRef := "crm:2",
              modelPredictionBand := .strongLinkEvidence }]
  clusters := [["crm:1", "crm:2"], ["crm:3"]]
  artifacts := ["er-1"]
  status := .complete
  digest := "er-hash"

def customerType : CanonicalEntityType where
  canonicalEntityTypeId := "type-customer"
  semanticId := "customer"
  businessName := "Customer"
  kind := .identity
  identityStrategy := "er"
  reviewState := "ACCEPTED"
  provenanceRefs := ["run-1"]

/-- Customers must be resolved. -/
def customerHypothesis : CanonicalModelHypothesis where
  artifactId := "chyp:run-1"
  runId := "run-1"
  executionContextId := "context-1"
  modelVersion := "1"
  upstreamDecisionRefs := []
  upstreamReviewDecisionRefs := ["review-0"]
  sourceIds := ["crm"]
  snapshotFingerprints := []
  sourceSchemaFingerprints := []
  domainAssertionRefs := ["domain-1"]
  entityTypes := [customerType]
  attributes := []
  relationships := []
  sourceAttributeMappings := []
  identityFieldHypotheses := []
  entityResolutionRequirements := [("customer", .erRequired)]
  entityResolutionSpecs := [customerSpec]
  normalizationRefs := []
  sourceAuthorityPolicyRefs := []
  evidenceRefs := ["evidence-1"]
  provenanceRefs := ["run-1"]
  unresolvedAmbiguities := []
  unresolvedSemanticConflicts := []

/-- A person has decided that these records are one customer. -/
def overridingCustomer (group : String) (family : Option String) (recordRef : String)
    (rationale : String) : CanonicalIdentityMembership where
  membershipGroupId := group
  canonicalEntityTypeId := "type-customer"
  entityResolutionFamily := family
  sourceRecordRefs := [recordRef]
  derivationBasis := .humanDomainReview
  actor := some "reviewer"
  actorSource := some "PROJECT_REVIEWER"
  domainAssertionRefs := ["domain-1"]
  evidenceRefs := ["evidence-1"]
  policyRefs := ["policy-1"]
  rationale := rationale
  provenanceRefs := ["run-1"]
  records_nonempty := cons_ne_nil _ _

def customerProposalInput (memberships : List CanonicalIdentityMembership) : ProposalInput where
  hypothesis := customerHypothesis
  memberships := memberships
  erResults := [("customer", customerResult)]
  policyRefs := ["policy-1"]
  provenanceRefs := ["run-1"]

/-- What `build` makes of overrides. -/
def customerProposal (memberships : List CanonicalIdentityMembership) : CanonicalIdentityProposal :=
  let i := customerProposalInput memberships
  proposalOf plainDigests i (proposalPayload plainDigests i [("customer", "er-hash")]
    (memberships.map fun m =>
      { membership := m, resultRefs := ["er-1"], specRefs := ["er-customer"] }))

/-- The proposal, accepted. -/
def customerReview (proposal : CanonicalIdentityProposal) : IdentityReview where
  reviewDecisionId := "review-1"
  reviewCheckpointId := .reviewCanonicalIdentity
  subjectStage := "CANONICAL_IDENTITY_PROPOSAL"
  subjectArtifactId := proposal.proposalId
  subjectContentHash := plainDigests.proposalHash proposal
  subjectSchemaVersion := "1.0"
  modelVersion := "1"
  sourceSchemaFingerprints := [("er:customer", "er-hash")]
  policyVersion := "canonical-identity-v1"
  domainAssertionRefs := ["domain-1"]
  subjectSemanticId := "csem:type-customer"
  applicabilityFingerprint := "hash:chyp:run-1:" ++ plainDigests.proposalHash proposal
  decision := .accepted
  contentHash := "review-hash"

def customerFinalization (proposal : CanonicalIdentityProposal)
    (conflicts : List CanonicalConflict) : FinalizationInput where
  hypothesis := customerHypothesis
  identityProposal := proposal
  identityReview := customerReview proposal
  erResults := [("customer", customerResult)]
  sourceRecordMetadata := ["crm:1", "crm:2", "crm:3"].map fun ref =>
    (ref, { sourceId := some "crm", snapshotId := some "snapshot-1", tableId := some "customers" })
  conflicts := conflicts

end DirtyDataOlap.Canonical

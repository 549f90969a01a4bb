import DirtyDataOlap.CanonicalRules

/-!
# Required entity resolution

The services compute the ER_REQUIRED family anew from the membership, whose own
`entity_resolution_family` goes first.  **So a membership that names another family is checked for
that family, or for none** (`Governed`), and `finalize` also lets a source-local membership pass for
a human override.
-/
namespace DirtyDataOlap.Canonical

variable (hypothesis : CanonicalModelHypothesis)
  (erResults : List (String × EntityResolutionResult))

/-- What a required family asks of a membership: an authorized linkage over its COMPLETE,
spec-matching result, or a human override within the population that the result evaluated. -/
def Governed (entityType : CanonicalEntityType) (membership : CanonicalIdentityMembership) : Prop :=
  ∃ result, getItem erResults entityType.family = some result ∧
    (∃ expected, Compatible hypothesis result entityType.family expected) ∧
    Resolved hypothesis membership result entityType.family

def OfRequiredType (entityType : CanonicalEntityType) (membership : CanonicalIdentityMembership) :
    Prop :=
  getItem hypothesis.typesById membership.canonicalEntityTypeId = some entityType ∧
    hypothesis.requirement entityType.family = .erRequired

variable (memberships : List CanonicalIdentityMembership)

def ResolutionEnforced : Prop :=
  ∀ membership ∈ memberships, ∀ entityType, OfRequiredType hypothesis entityType membership →
    Governed hypothesis erResults entityType membership

/-- The memberships that name another family than their required one would have passed for their
required one as well. -/
def OverridesGoverned : Prop :=
  ∀ membership ∈ memberships, ∀ entityType, OfRequiredType hypothesis entityType membership →
    membership.family entityType ≠ entityType.family →
      Governed hypothesis erResults entityType membership

def NoSourceLocal : Prop :=
  ∀ membership ∈ memberships, ∀ entityType, OfRequiredType hypothesis entityType membership →
    membership.derivationBasis ≠ .sourceLocalEventIdentity

section
variable {digests : CanonicalDigests} {reviewDigests : ReviewDigests}

variable {membership : CanonicalIdentityMembership} {entityType : CanonicalEntityType}

/-- In `build`, a membership that names no other family is governed. -/
theorem Proposed.governed {i : ProposalInput} {hashes : List (String × String)}
    {bounds : List BoundMembership} {proposal : CanonicalIdentityProposal}
    (h : Proposed digests i hashes bounds proposal) (hmem : membership ∈ i.memberships)
    (htype : OfRequiredType i.hypothesis entityType membership)
    (hown : membership.family entityType = entityType.family) :
    Governed i.hypothesis i.erResults entityType membership := by
  obtain ⟨bound, _, found, hfound, hbound⟩ := exists_right_of_forall₂ h.binds hmem
  have hsame : found = entityType := Option.some.inj (hfound.symm.trans htype.1)
  subst hsame
  obtain ⟨_, hcompatible, expected⟩ := compatible_of_results h.results htype.2
  rcases bindMembership_eq_ok.1 hbound with ⟨_, result, hresult, hresolved, _⟩ | ⟨hno, _⟩
  · rw [hown] at hresult hresolved
    have heq := hcompatible.symm.trans hresult
    cases heq
    exact ⟨_, hresult, expected, hresolved⟩
  · rw [hown] at hno
    exact absurd htype.2 hno

theorem Governed.not_sourceLocal {hypothesis : CanonicalModelHypothesis}
    {erResults : List (String × EntityResolutionResult)}
    (h : Governed hypothesis erResults entityType membership) :
    membership.derivationBasis ≠ .sourceLocalEventIdentity := by
  obtain ⟨_, _, _, ⟨hbasis, _⟩ | ⟨hbasis, _⟩⟩ := h
  · rw [hbasis]
    intro hno
    cases hno
  · rw [hbasis]
    intro hno
    cases hno

/-- In `finalize`, it is governed unless its basis is source-local. -/
theorem Finalized.governed {i : FinalizationInput}
    {finals : List (CanonicalEntityInstance × List SourceRecordCanonicalMap)}
    {model : CanonicalModel} (h : Finalized digests reviewDigests i finals model)
    (hmem : membership ∈ i.identityProposal.memberships)
    (htype : OfRequiredType i.hypothesis entityType membership)
    (hown : membership.family entityType = entityType.family)
    (hbasis : membership.derivationBasis ≠ .sourceLocalEventIdentity) :
    Governed i.hypothesis i.erResults entityType membership := by
  obtain ⟨final, _, hfinal⟩ := exists_right_of_forall₂ h.each hmem
  simp only [finalizeMembership, bind_eq_ok, demand_eq_ok] at hfinal
  obtain ⟨found, hfound, familyResult, hadmit, _⟩ := hfinal
  have hsame : found = entityType := Option.some.inj (hfound.symm.trans htype.1)
  subst hsame
  obtain ⟨_, hcompatible, expected⟩ := compatible_of_checked h.checked htype.2
  obtain ⟨_, ⟨_, result, hresult, hresolved⟩ | ⟨hno, _⟩⟩ := admitMembership_eq_ok.1 hadmit
  · rw [hown] at hresult hresolved
    have heq := hcompatible.symm.trans hresult
    cases heq
    refine ⟨_, hresult, expected, ?_⟩
    rcases hresolved with hlinked | ⟨hno, hpopulation⟩
    · exact .inl hlinked
    · right
      refine ⟨?_, hpopulation⟩
      cases hcases : membership.derivationBasis with
      | erAuthorizedLinkage => exact absurd hcases hno
      | humanDomainReview => rfl
      | sourceLocalEventIdentity => exact absurd hcases hbasis
  · rw [hown] at hno
    exact absurd htype.2 hno

/-- **Required entity resolution is enforced exactly when the memberships that name another family
would have passed for their required one**, and, for `finalize`, none of a required family is
source-local. -/
theorem resolution_enforced_iff (digests : CanonicalDigests) (reviewDigests : ReviewDigests)
    (i : ProposalInput) (j : FinalizationInput) :
    (∀ proposal, buildProposal digests i = .ok proposal →
      (ResolutionEnforced i.hypothesis i.erResults i.memberships ↔
        OverridesGoverned i.hypothesis i.erResults i.memberships)) ∧
    (∀ model, finalize digests reviewDigests j = .ok model →
      (ResolutionEnforced j.hypothesis j.erResults j.identityProposal.memberships ↔
        OverridesGoverned j.hypothesis j.erResults j.identityProposal.memberships ∧
          NoSourceLocal j.hypothesis j.identityProposal.memberships)) := by
  constructor
  · intro proposal hbuild
    obtain ⟨hashes, bounds, hproposed⟩ := buildProposal_eq_ok.1 hbuild
    constructor
    · exact fun h membership hmem entityType htype _ => h membership hmem entityType htype
    · intro h membership hmem entityType htype
      by_cases hown : membership.family entityType = entityType.family
      · exact hproposed.governed hmem htype hown
      · exact h membership hmem entityType htype hown
  · intro model hfinalize
    obtain ⟨finals, hfinalized⟩ := finalize_eq_ok hfinalize
    constructor
    · intro h
      exact ⟨fun membership hmem entityType htype _ => h membership hmem entityType htype,
        fun membership hmem entityType htype => (h membership hmem entityType htype).not_sourceLocal⟩
    · rintro ⟨h, hlocal⟩ membership hmem entityType htype
      by_cases hown : membership.family entityType = entityType.family
      · exact hfinalized.governed hmem htype hown (hlocal membership hmem entityType htype)
      · exact h membership hmem entityType htype hown

end
/-! ## A membership that names another family -/

/-- Two customers, each under the family of their type. -/
def customers : List CanonicalIdentityMembership :=
  [overridingCustomer "group-1" none "crm:1" "first",
    overridingCustomer "group-2" none "crm:3" "second"]

/-- The second one is said to be a prospect, and entity resolution has never seen it. -/
def customersWithProspect : List CanonicalIdentityMembership :=
  [overridingCustomer "group-1" none "crm:1" "first",
    overridingCustomer "group-2" (some "prospect") "crm:9" "second"]

theorem resolution_enforced_customers :
    (ResolutionEnforced customerHypothesis [("customer", customerResult)] customers ↔
      OverridesGoverned customerHypothesis [("customer", customerResult)] customers) ∧
    (ResolutionEnforced customerHypothesis [("customer", customerResult)]
        (customerProposal customers).memberships ↔
      OverridesGoverned customerHypothesis [("customer", customerResult)]
          (customerProposal customers).memberships ∧
        NoSourceLocal customerHypothesis (customerProposal customers).memberships) := by
  obtain ⟨proposal, hbuild⟩ := exists_ok_of_isOk (x := buildProposal plainDigests
    (customerProposalInput customers)) (by decide +kernel)
  obtain ⟨model, hfinalize⟩ := exists_ok_of_isOk (x := finalize plainDigests plainReviewDigests
    (customerFinalization (customerProposal customers) [])) (by decide +kernel)
  have hboth := resolution_enforced_iff plainDigests plainReviewDigests
    (customerProposalInput customers) (customerFinalization (customerProposal customers) [])
  exact ⟨hboth.1 proposal hbuild, hboth.2 model hfinalize⟩

/-- **The membership of the prospect bypasses the required resolution.** -/
theorem prospect_bypasses_resolution :
    (buildProposal plainDigests (customerProposalInput customersWithProspect)).isOk = true ∧
    ¬ ResolutionEnforced customerHypothesis [("customer", customerResult)]
      customersWithProspect := by
  refine ⟨by decide +kernel, fun h => ?_⟩
  have hgoverned := h (overridingCustomer "group-2" (some "prospect") "crm:9" "second")
    (by simp [customersWithProspect]) customerType ⟨by decide +kernel, by decide +kernel⟩
  obtain ⟨result, hresult, _, ⟨hbasis, _⟩ | ⟨_, hpopulation⟩⟩ := hgoverned
  · cases hbasis
  · have hknown : result = customerResult := by
      have hlookup : getItem [("customer", customerResult)] customerType.family =
          some customerResult := by decide +kernel
      exact Option.some.inj (hresult.symm.trans hlookup)
    have hmem := hpopulation "crm:9" (List.mem_singleton_self _)
    rw [hknown] at hmem
    exact absurd hmem (by decide +kernel)

end DirtyDataOlap.Canonical

import DirtyDataOlap.ReviewSubjects
import DirtyDataOlap.Numerals

/-!
# What a review decision authorizes

A decision is a copy of its context, and settles a context if it agrees with it in every field.  But
the copy has its domain assertion references in order, while the comparison takes those of the
context as they come: **a decision settles the context it was made for exactly when these are in
order**.  Three builders order them; the context of an identity proposal has them as the proposal
does.
-/
namespace DirtyDataOlap

/-- `stable_id` of the context, the status, the actor and the rationale. -/
abbrev DecisionIds :=
  ReviewCompatibilityContext → ReviewDecisionStatus → String → String → String

namespace ReviewPolicyService

variable (ids : DecisionIds) (context : ReviewCompatibilityContext) (decision : ReviewDecisionStatus)
  (actor actorSource rationale : String) (skip : Option ReviewSkipAuthorization)

/-- The guards of `create_decision`. -/
def checkSkip : Except String Unit :=
  match skip with
  | none =>
    if decision = .skipped then throw "SKIPPED requires explicit versioned policy authorization"
    else pure ()
  | some skip =>
    if decision ≠ .skipped then throw "skip authorization is only valid for SKIPPED decisions"
    else if skip.checkpoint ≠ context.reviewCheckpointId ∨
        skip.applicabilityFingerprint ≠ context.applicabilityFingerprint then
      throw "skip authorization does not bind the guarded checkpoint/applicability"
    else pure ()

/-- The decision that `create_decision` builds. -/
def drafted : ReviewDecision where
  reviewDecisionId := ids context decision actor rationale
  reviewCheckpointId := context.reviewCheckpointId
  subjectStage := context.subjectStage
  subjectArtifactId := context.subjectArtifactId
  subjectContentHash := context.subjectContentHash
  subjectSchemaVersion := context.subjectSchemaVersion
  modelVersion := context.modelVersion
  sourceSchemaFingerprints := context.sourceSchemaFingerprints
  policyVersion := context.policyVersion
  domainAssertionRefs := sorted context.domainAssertionRefs
  subjectSemanticId := context.subjectSemanticId
  applicabilityFingerprint := context.applicabilityFingerprint
  decision := decision
  skipAuthorization := skip

/-- `create_decision`, with the contract of the decision: what it copies has passed the same checks in
the context. -/
def createDecision : Except String ReviewDecision := do
  checkSkip context decision skip
  if [actor, actorSource, rationale].any fun text => Numeral.strip text.toList = [] then
    throw "String should have at least 1 character"
  else if decision = .invalidated then throw "invalidated review decisions require a reason"
  else pure (drafted ids context decision actor rationale skip)

def invalidate (d : ReviewDecision) (reason : String) : Except String ReviewDecision :=
  if Numeral.strip reason.toList = [] then throw "invalidation requires a reason"
  else pure { d with decision := .invalidated, invalidationReason := some reason }

end ReviewPolicyService

open ReviewPolicyService

variable {ids : DecisionIds} {context other : ReviewCompatibilityContext}
  {decision : ReviewDecisionStatus} {actor actorSource rationale : String}
  {skip : Option ReviewSkipAuthorization} {d d' : ReviewDecision}

variable (context other) in
/-- The two contexts agree in all that a review is bound to. -/
def Agree : Prop :=
  context.reviewCheckpointId = other.reviewCheckpointId ∧
  context.subjectStage = other.subjectStage ∧
  context.subjectArtifactId = other.subjectArtifactId ∧
  context.subjectContentHash = other.subjectContentHash ∧
  context.subjectSchemaVersion = other.subjectSchemaVersion ∧
  context.modelVersion = other.modelVersion ∧ context.policyVersion = other.policyVersion ∧
  context.subjectSemanticId = other.subjectSemanticId ∧
  context.applicabilityFingerprint = other.applicabilityFingerprint ∧
  sameDict context.sourceSchemaFingerprints other.sourceSchemaFingerprints = true ∧
  ∀ ref, ref ∈ context.domainAssertionRefs ↔ ref ∈ other.domainAssertionRefs

theorem createDecision_ok
    (h : createDecision ids context decision actor actorSource rationale skip = .ok d) :
    d = drafted ids context decision actor rationale skip := by
  unfold createDecision at h
  obtain ⟨_, _, h⟩ := bind_eq_ok.1 h
  split at h
  · cases h
  · split at h
    · cases h
    · exact (Except.ok.inj h).symm

theorem ReviewDecision.compatibilityErrors_eq_nil : d.compatibilityErrors context = [] ↔
    (d.reviewCheckpointId = context.reviewCheckpointId ∧ d.subjectStage = context.subjectStage ∧
      d.subjectArtifactId = context.subjectArtifactId ∧
      d.subjectContentHash = context.subjectContentHash ∧
      d.subjectSchemaVersion = context.subjectSchemaVersion ∧
      d.modelVersion = context.modelVersion ∧ d.policyVersion = context.policyVersion ∧
      d.subjectSemanticId = context.subjectSemanticId ∧
      d.applicabilityFingerprint = context.applicabilityFingerprint ∧
      sameDict d.sourceSchemaFingerprints context.sourceSchemaFingerprints = true ∧
      d.domainAssertionRefs = context.domainAssertionRefs) ∧
    (d.decision = .accepted ∨ d.decision = .skipped) ∧
    (d.decision = .skipped → context.skipAuthorization ≠ none ∧
      d.skipAuthorization = context.skipAuthorization) ∧
    d.superseded = false ∧ d.invalidationReason.getD "" = "" := by
  simp [compatibilityErrors, and_assoc, imp_iff_not_or, Option.isSome_iff_ne_none]

/-- When a draft settles its own context. -/
theorem drafted_compatible :
    (drafted ids context decision actor rationale skip).compatibilityErrors context = [] ↔
      sorted context.domainAssertionRefs = context.domainAssertionRefs ∧
      (decision = .accepted ∨ decision = .skipped) ∧
      (decision = .skipped → context.skipAuthorization ≠ none ∧ skip = context.skipAuthorization) := by
  rw [ReviewDecision.compatibilityErrors_eq_nil]
  simp [drafted]

/-- **A decision settles no context of another subject.** -/
theorem drafted_incompatible (h : ¬ Agree context other) :
    (drafted ids context decision actor rationale skip).compatibilityErrors other ≠ [] := by
  intro hnone
  obtain ⟨⟨hcheckpoint, hstage, hartifact, hhash, hschema, hmodel, hpolicy, hsemantic, happlies,
    hfingerprints, hrefs⟩, -⟩ := ReviewDecision.compatibilityErrors_eq_nil.1 hnone
  refine h ⟨hcheckpoint, hstage, hartifact, hhash, hschema, hmodel, hpolicy, hsemantic, happlies,
    hfingerprints, fun ref => ?_⟩
  rw [← hrefs]
  exact mem_sorted.symm

/-- **An invalidated decision settles nothing.** -/
theorem invalidate_incompatible {reason : String} (h : invalidate d reason = .ok d') :
    d'.compatibilityErrors context ≠ [] := by
  unfold invalidate at h
  split at h
  · cases h
  · cases h
    intro hnone
    obtain ⟨-, hstatus, -⟩ := ReviewDecision.compatibilityErrors_eq_nil.1 hnone
    rcases hstatus with h | h <;> cases h

variable (ids context) in
structure AuthorizesExactly : Prop where
  accepted : ∀ actor actorSource rationale skip d,
    createDecision ids context .accepted actor actorSource rationale skip = .ok d →
      d.compatibilityErrors context = []
  skipped : ∀ actor actorSource rationale s d,
    createDecision ids context .skipped actor actorSource rationale (some s) = .ok d →
      (d.compatibilityErrors context = [] ↔ context.skipAuthorization = some s)
  others : ∀ decision actor actorSource rationale skip d,
    createDecision ids context decision actor actorSource rationale skip = .ok d →
      ∀ other, ¬ Agree context other → d.compatibilityErrors other ≠ []
  invalidated : ∀ d reason d', invalidate d reason = .ok d' →
    ∀ other, d'.compatibilityErrors other ≠ []

/-- **Review decisions authorize exactly their context if and only if its domain assertion references
are in order.** -/
theorem review_authorizes_iff (ids : DecisionIds) (context : ReviewCompatibilityContext) :
    AuthorizesExactly ids context ↔
      sorted context.domainAssertionRefs = context.domainAssertionRefs := by
  constructor
  · intro h
    have hsettled := h.accepted "analyst" "PROJECT_REVIEWER" "checked" none _ rfl
    exact (drafted_compatible.1 hsettled).1
  · intro hsorted
    refine ⟨fun _ _ _ _ d h => ?_, fun _ _ _ s d h => ?_, fun _ _ _ _ _ d h other hdiffers => ?_,
      fun d reason d' h other => invalidate_incompatible h⟩
    · rw [createDecision_ok h]
      exact drafted_compatible.2 ⟨hsorted, .inl rfl, nofun⟩
    · rw [createDecision_ok h, drafted_compatible]
      constructor
      · rintro ⟨-, -, hskip⟩
        exact (hskip rfl).2.symm
      · intro hskip
        exact ⟨hsorted, .inr rfl, fun _ => by simp [hskip]⟩
    · rw [createDecision_ok h]
      exact drafted_incompatible hdiffers

/-- The context of a proposal that names its assertions as it found them. -/
def unorderedProposal : ReviewCompatibilityContext where
  reviewCheckpointId := .reviewCanonicalIdentity
  subjectStage := "CANONICAL_IDENTITY_PROPOSAL"
  subjectArtifactId := "proposal"
  subjectContentHash := "hash"
  subjectSchemaVersion := "1.0"
  modelVersion := "model"
  policyVersion := "canonical-identity-v1"
  domainAssertionRefs := ["identity", "address"]
  subjectSemanticId := "customer"
  applicabilityFingerprint := "applies"

/-- **The accepted review of this proposal does not settle it.** -/
theorem unorderedProposal_unsettled : ¬ ∀ ids context, AuthorizesExactly ids context := by
  intro h
  have hsettled := (h (fun _ _ _ _ => "decision") unorderedProposal).accepted "analyst"
    "PROJECT_REVIEWER" "checked" none _ rfl
  revert hsettled
  decide +kernel

end DirtyDataOlap

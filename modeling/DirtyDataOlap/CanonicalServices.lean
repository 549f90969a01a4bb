import DirtyDataOlap.EntityLinkage

/-!
# Canonicalization

The three services of `application/canonical.py`: `build` of the hypothesis, `build` of the identity
proposal and `finalize`.  Each checks its inputs, assembles a payload by hand, and returns an artifact
whose id is the digest of the payload.
-/
namespace DirtyDataOlap.Canonical

/-! ## The hypothesis -/

/-- A `RelationshipDecision` or a `SemanticMappingDecision`, by its scope. -/
structure FusedDecision extends EvidenceDecision where
  decisionState : DecisionState

/-- The decision is about tables. -/
def FusedDecision.isRelationship (decision : FusedDecision) : Bool :=
  match decision.scope with
  | .tables .. => true
  | .columns .. => false

/-- The arguments of `CanonicalHypothesisService.build`. -/
structure HypothesisInput where
  (runId executionContextId modelVersion : String)
  evidenceReviews : List ReviewDecision
  relationshipDecisions : List FusedDecision := []
  semanticMappingDecisions : List FusedDecision := []
  evidenceDomainAssertionRefs : List (String × List String) := []
  entityTypes : List CanonicalEntityType
  (sourceIds domainAssertionRefs : List String)
  entityResolutionRequirements : List (String × EntityResolutionRequirement)
  attributes : List CanonicalAttribute := []
  relationships : List CanonicalRelationship := []
  sourceAttributeMappings : List SourceAttributeMapping := []
  identityFieldHypotheses : List CanonicalIdentityFieldHypothesis := []
  entityResolutionSpecs : List EntityResolutionSpec := []
  snapshotFingerprints : List (String × String) := []
  sourceSchemaFingerprints : List (String × String) := []
  normalizationRefs : List String := []
  sourceAuthorityPolicyRefs : List String := []
  evidenceRefs : List String := []
  provenanceRefs : List String := []
  unresolvedAmbiguities : List String := []
  unresolvedSemanticConflicts : List String := []

/-- Accepted or skipped, and not superseded. -/
def acceptableReview (review : ReviewDecision) : Bool :=
  (review.decision = .accepted || review.decision = .skipped) && !review.superseded

/-- A review that a hypothesis may rest on. -/
def checkReview (review : ReviewDecision) : Except CanonicalExc Unit := do
  require (review.reviewCheckpointId = .reviewEvidenceDecisions) .incompleteReview
    "only REVIEW_EVIDENCE_DECISIONS can feed hypotheses"
  require (acceptableReview review) .incompleteReview "evidence review is not acceptable"

/-- The decision waits for a reviewer. -/
def reviewOnly (decision : FusedDecision) : Bool :=
  decision.decisionState = .reviewRequired || decision.decisionState = .incompleteRequiredEvidence

variable (i : HypothesisInput)

/-- The fused decisions by id. -/
def HypothesisInput.decisionsById : List (String × FusedDecision) :=
  (i.relationshipDecisions ++ i.semanticMappingDecisions).map fun d => (d.decisionId, d)

/-- The reviews by id. -/
def HypothesisInput.reviewsById : List (String × ReviewDecision) :=
  i.evidenceReviews.map fun r => (r.reviewDecisionId, r)

/-- The relationship or mapping is bound to its exact reviewed decision; the id of the review. -/
def bindReview (reviewDigests : ReviewDigests) (i : HypothesisInput) (relationship : Bool)
    (label upstreamRef : String) (reviewRef : Option String) : Except CanonicalExc String := do
  let upstream ← demand
    ((getItem i.decisionsById upstreamRef).filter fun d => d.isRelationship = relationship)
    .incompleteReview (label ++ " lacks its exact reviewed decision")
  let reviewRef ← demand reviewRef .incompleteReview (label ++ " lacks its exact reviewed decision")
  let review ← demand (getItem i.reviewsById reviewRef) .incompleteReview
    (label ++ " references an unknown review")
  let domainRefs := (getItem i.evidenceDomainAssertionRefs upstream.decisionId).getD []
  let errors := review.compatibilityErrors
    (evidenceContext reviewDigests domainRefs review.subjectArtifactId upstream.toEvidenceDecision)
  require (errors = []) .incompleteReview
    ("incompatible review decision: " ++ String.intercalate "," errors)
  pure review.reviewDecisionId

/-- The families whose entities must be resolved. -/
def requiredFamilies (requirements : List (String × EntityResolutionRequirement)) : List String :=
  sortedSet ((requirements.map Prod.fst).filter fun family =>
    getItem requirements family = some .erRequired)

/-- The required families without a specification. -/
def HypothesisInput.missingFamilies : List String :=
  (requiredFamilies i.entityResolutionRequirements).filter fun family =>
    !i.entityResolutionSpecs.any fun spec => spec.entityFamily = family

section
variable (digests : CanonicalDigests) (reviewDigests : ReviewDigests)

/-- The payload of the hypothesis, with the reviews that relationships and mappings are bound to. -/
def hypothesisPayload (i : HypothesisInput) (boundReviewIds : List String) : HypothesisPayload where
  runId := i.runId
  executionContextId := i.executionContextId
  modelVersion := i.modelVersion
  upstreamDecisionRefs := sortedSet
    (i.relationships.map (·.upstreamDecisionRef) ++
      i.sourceAttributeMappings.map (·.upstreamDecisionRef) ++
      i.relationshipDecisions.map (·.decisionId) ++ i.semanticMappingDecisions.map (·.decisionId))
  upstreamReviewDecisionRefs := sortedSet
    (if boundReviewIds = [] then i.evidenceReviews.map (·.reviewDecisionId) else boundReviewIds)
  sourceIds := sortedSet i.sourceIds
  snapshotFingerprints := fingerprints i.snapshotFingerprints
  sourceSchemaFingerprints := fingerprints i.sourceSchemaFingerprints
  domainAssertionRefs := sortedSet i.domainAssertionRefs
  entityTypes := sortedBy digests.typeDigest i.entityTypes
  attributes := sortedBy digests.attributeDigest i.attributes
  relationships := sortedBy digests.relationshipDigest i.relationships
  sourceAttributeMappings := sortedBy digests.mappingDigest i.sourceAttributeMappings
  identityFieldHypotheses := sortedBy digests.identityFieldDigest i.identityFieldHypotheses
  entityResolutionRequirements := sortedBy Prod.fst (dictOf i.entityResolutionRequirements)
  entityResolutionSpecs := sortedBy (·.fingerprint) i.entityResolutionSpecs
  normalizationRefs := sortedSet i.normalizationRefs
  sourceAuthorityPolicyRefs := sortedSet i.sourceAuthorityPolicyRefs
  evidenceRefs := sortedSet i.evidenceRefs
  provenanceRefs := sortedSet i.provenanceRefs
  unresolvedAmbiguities := sortedSet i.unresolvedAmbiguities
  unresolvedSemanticConflicts := sortedSet i.unresolvedSemanticConflicts

/-- `CanonicalHypothesisService.build`. -/
def buildHypothesis (i : HypothesisInput) : Except CanonicalExc CanonicalModelHypothesis := do
  require (!i.evidenceReviews.isEmpty) .incompleteReview
    "REVIEW_EVIDENCE_DECISIONS is required before hypothesis publication"
  i.evidenceReviews.forM checkReview
  require (i.relationshipDecisions.all reviewOnly) .invalidSourceMapping
    "fusion relationship decisions must remain review-only"
  require (i.semanticMappingDecisions.all reviewOnly) .invalidSourceMapping
    "fusion mapping decisions must remain review-only"
  require (i.decisionsById.map Prod.fst).Nodup .incompleteReview
    "evidence decision IDs must be unique"
  require (i.reviewsById.map Prod.fst).Nodup .incompleteReview "review decision IDs must be unique"
  let relationshipReviews ← i.relationships.mapM fun r =>
    bindReview reviewDigests i true ("relationship " ++ r.relationshipId) r.upstreamDecisionRef
      (some r.reviewDecisionRef)
  let mappingReviews ← i.sourceAttributeMappings.mapM fun m =>
    bindReview reviewDigests i false ("mapping " ++ m.mappingId) m.upstreamDecisionRef
      m.reviewDecisionRef
  require i.missingFamilies.isEmpty .missingRequiredEr (String.intercalate "," i.missingFamilies)
  let payload := hypothesisPayload digests i (relationshipReviews ++ mappingReviews)
  require (!(payload.domainAssertionRefs.isEmpty || payload.evidenceRefs.isEmpty ||
    payload.provenanceRefs.isEmpty)) .provenanceIncomplete
    "hypothesis requires domain, evidence and provenance references"
  if payload.sourceIds.isEmpty || payload.entityTypes.isEmpty then .error .validation
  else pure { payload with artifactId := digests.hypothesisId payload }

end

/-! ## The identity proposal -/

/-- `value or None` of an optional text. -/
def truthy (text : Option String) : Option String := text.filter (· ≠ "")

/-- The family of a type; by default its semantic id. -/
def CanonicalEntityType.family (entityType : CanonicalEntityType) : String :=
  (truthy entityType.entityResolutionFamily).getD entityType.semanticId

/-- The family that a membership is checked for: its own word goes first. -/
def CanonicalIdentityMembership.family (membership : CanonicalIdentityMembership)
    (entityType : CanonicalEntityType) : String :=
  (truthy membership.entityResolutionFamily).getD entityType.family

/-- `entity_types`: the types of the hypothesis by id. -/
def HypothesisPayload.typesById (hypothesis : HypothesisPayload) :
    List (String × CanonicalEntityType) :=
  hypothesis.entityTypes.map fun t => (t.canonicalEntityTypeId, t)

/-- Whether a family must be resolved. -/
def HypothesisPayload.requirement (hypothesis : HypothesisPayload) (family : String) :
    EntityResolutionRequirement :=
  (getItem hypothesis.entityResolutionRequirements family).getD .erNotRequired

/-- The membership with the result it rests on. -/
def CanonicalIdentityMembership.linked (membership : CanonicalIdentityMembership) (family : String)
    (result : EntityResolutionResult) : CanonicalIdentityMembership :=
  { membership with
    entityResolutionFamily := some family
    erResultRefs := sorted result.artifacts
    erSpecRefs := [result.spec.specId]
    evidenceRefs := sortedSet
      (membership.evidenceRefs ++ membership.authorizedEdgeRefs ++ sorted result.artifacts) }

/-- A membership with the results and specifications it was checked against. -/
structure BoundMembership where
  membership : CanonicalIdentityMembership
  resultRefs : List String := []
  specRefs : List String := []

/-- One membership of the loop of `build`, from the records check on. -/
def bindMembership (hypothesis : CanonicalModelHypothesis)
    (erResults : List (String × EntityResolutionResult)) (entityType : CanonicalEntityType)
    (membership : CanonicalIdentityMembership) : Except CanonicalExc BoundMembership :=
  let family := membership.family entityType
  let requirement := hypothesis.requirement family
  if membership.derivationBasis = .erAuthorizedLinkage then do
    require (requirement = .erRequired) .incompatibleErResult
      ("ER linkage is not required/authorized for " ++ family)
    let result ← demand (getItem erResults family) .missingRequiredEr family
    validateErMembership hypothesis membership result family
    pure
      { membership := membership.linked family result
        resultRefs := result.artifacts
        specRefs := [result.spec.specId] }
  else if requirement = .erRequired then do
    let result ← demand (getItem erResults family) .missingRequiredEr family
    require (membership.derivationBasis = .humanDomainReview) .missingRequiredEr family
    require (membership.sourceRecordRefs.all (· ∈ resultPopulation result)) .incompatibleErResult
      ("human override contains records outside the evaluated population for " ++ family)
    pure
      { membership := membership
        resultRefs := result.artifacts
        specRefs := [result.spec.specId] }
  else do
    require (!(entityType.kind = .event &&
      membership.derivationBasis ≠ .sourceLocalEventIdentity)) .unresolvedIdentity
      "event identity requires explicit source-local identity basis"
    pure { membership := membership }

/-- The loop of `build`, with the records seen so far. -/
def bindMemberships (hypothesis : CanonicalModelHypothesis)
    (erResults : List (String × EntityResolutionResult)) :
    List String → List CanonicalIdentityMembership → Except CanonicalExc (List BoundMembership)
  | _, [] => pure []
  | seen, membership :: rest => do
    let entityType ← demand (getItem hypothesis.typesById membership.canonicalEntityTypeId)
      .unresolvedIdentity ("unknown entity type " ++ membership.canonicalEntityTypeId)
    require (membership.sourceRecordRefs.all (· ∉ seen)) .unresolvedIdentity
      "a source record appears in multiple identity groups"
    let bound ← bindMembership hypothesis erResults entityType membership
    let bounds ← bindMemberships hypothesis erResults (seen ++ membership.sourceRecordRefs) rest
    pure (bound :: bounds)

/-- The result of a required family, with the specification it used. -/
def requiredResult (hypothesis : CanonicalModelHypothesis)
    (erResults : List (String × EntityResolutionResult)) (family : String) :
    Except CanonicalExc (String × String) := do
  let result ← demand (getItem erResults family) .missingRequiredEr family
  validateErResultCompatibility hypothesis result family
  pure (family, result.digest)

/-- The arguments of `CanonicalIdentityProposalService.build`. -/
structure ProposalInput where
  hypothesis : CanonicalModelHypothesis
  memberships : List CanonicalIdentityMembership
  erResults : List (String × EntityResolutionResult) := []
  sourceSchemaFingerprints : List (String × String) := []
  (policyRefs provenanceRefs : List String)

/-- The types of the memberships, each as it is looked up. -/
def HypothesisPayload.typesOf (hypothesis : HypothesisPayload)
    (memberships : List CanonicalIdentityMembership) : List CanonicalEntityType :=
  memberships.filterMap fun m => getItem hypothesis.typesById m.canonicalEntityTypeId

/-- The families of the memberships. -/
def HypothesisPayload.familiesOf (hypothesis : HypothesisPayload)
    (memberships : List CanonicalIdentityMembership) : List String :=
  memberships.filterMap fun m =>
    (getItem hypothesis.typesById m.canonicalEntityTypeId).map m.family

section
variable (digests : CanonicalDigests)

/-- What a proposal is a digest of. -/
def proposalPayload (i : ProposalInput) (resultHashes : List (String × String))
    (bounds : List BoundMembership) : ProposalPayload where
  hypothesis := digests.hypothesisHash i.hypothesis
  entityTypes := sorted
    ((i.hypothesis.typesOf (bounds.map (·.membership))).map (·.semanticId))
  requirements := sortedBy Prod.fst (dictOf i.hypothesis.entityResolutionRequirements)
  memberships := sortedBy (·.membershipGroupId) (bounds.map (·.membership))
  erResultRefs := sortedSet (bounds.flatMap (·.resultRefs))
  erResultHashes := resultHashes
  erSpecRefs := sortedSet (bounds.flatMap (·.specRefs))
  sourceSchemaFingerprints := fingerprints
    (if i.sourceSchemaFingerprints = [] then i.hypothesis.sourceSchemaFingerprints
      else i.sourceSchemaFingerprints)
  domainAssertionRefs := sorted i.hypothesis.domainAssertionRefs
  policyRefs := sortedSet i.policyRefs
  provenanceRefs := sortedSet (i.provenanceRefs ++ i.hypothesis.provenanceRefs)

/-- The proposal with its id. -/
def proposalOf (i : ProposalInput) (payload : ProposalPayload) : CanonicalIdentityProposal where
  proposalId := digests.proposalId payload
  hypothesisArtifactId := i.hypothesis.artifactId
  canonicalEntityTypeIds := sortedSet (payload.memberships.map (·.canonicalEntityTypeId))
  entityResolutionRequirements := i.hypothesis.entityResolutionRequirements
  memberships := payload.memberships
  erResultRefs := payload.erResultRefs
  erResultHashes := payload.erResultHashes
  erSpecRefs := payload.erSpecRefs
  sourceSchemaFingerprints := payload.sourceSchemaFingerprints
  domainAssertionRefs := i.hypothesis.domainAssertionRefs
  policyRefs := payload.policyRefs
  unresolvedIdentityCases := i.hypothesis.unresolvedAmbiguities
  provenanceRefs := payload.provenanceRefs

/-- `CanonicalIdentityProposalService.build`. -/
def buildProposal (i : ProposalInput) : Except CanonicalExc CanonicalIdentityProposal := do
  let required := requiredFamilies i.hypothesis.entityResolutionRequirements
  let resultHashes ← required.mapM (requiredResult i.hypothesis i.erResults)
  let bounds ← bindMemberships i.hypothesis i.erResults [] i.memberships
  require (!bounds.isEmpty) .unresolvedIdentity
    "identity proposal requires at least one membership group"
  let proposed := i.hypothesis.familiesOf (bounds.map (·.membership))
  require (required.all (· ∈ proposed)) .unresolvedIdentity
    "required identity family has no proposed membership"
  let payload := proposalPayload digests i resultHashes bounds
  require (!(payload.policyRefs.isEmpty || payload.provenanceRefs.isEmpty)) .provenanceIncomplete
    "identity proposal requires policy and provenance refs"
  if i.hypothesis.domainAssertionRefs.isEmpty then .error .validation
  else pure (proposalOf digests i payload)

end

/-! ## The canonical model -/

/-- A review of the identity proposal; `content_hash` is all of it but the time. -/
structure IdentityReview extends ReviewDecision where
  contentHash : String

/-- Where a source record comes from, as far as it is known. -/
structure SourceRecordMetadata where
  sourceId : Option String := none
  snapshotId : Option String := none
  tableId : Option String := none

/-- The arguments of `CanonicalFinalizationService.finalize`. -/
structure FinalizationInput where
  hypothesis : CanonicalModelHypothesis
  identityProposal : CanonicalIdentityProposal
  identityReview : IdentityReview
  erResults : List (String × EntityResolutionResult) := []
  sourceRecordMetadata : List (String × SourceRecordMetadata) := []
  survivorshipDecisions : List CanonicalSurvivorshipDecision := []
  conflicts : List CanonicalConflict := []
  lineageRefs : List String := []
  recordAccountingRefs : List String := []

variable (i : FinalizationInput)

/-- The digests of the results by family. -/
def FinalizationInput.erHashes : List (String × String) :=
  (dictOf i.erResults).map fun item => (item.1, item.2.digest)

/-- The provenance of every instance and map. -/
def FinalizationInput.provenance : List String :=
  sortedSet (i.hypothesis.provenanceRefs ++ i.identityProposal.provenanceRefs)

/-- The checks of `finalize` on one membership; the result of its family. -/
def admitMembership (entityType : CanonicalEntityType) (membership : CanonicalIdentityMembership) :
    Except CanonicalExc (Option EntityResolutionResult) :=
  let family := membership.family entityType
  let requirement := i.hypothesis.requirement family
  let familyResult := getItem i.erResults family
  if membership.derivationBasis = .erAuthorizedLinkage then do
    require (requirement = .erRequired) .missingRequiredEr family
    let result ← demand familyResult .missingRequiredEr family
    validateErMembership i.hypothesis membership result family
    pure familyResult
  else if requirement = .erRequired then do
    let result ← demand familyResult .missingRequiredEr family
    require (membership.sourceRecordRefs.all (· ∈ resultPopulation result)) .incompatibleErResult
      ("human override contains records outside the evaluated population for " ++ family)
    pure familyResult
  else pure familyResult

/-- `linkage_refs`, with the hashes of all results. -/
def linkageRefs (membership : CanonicalIdentityMembership)
    (familyResult : Option EntityResolutionResult) : List String :=
  let ofResult (result : EntityResolutionResult) : List String :=
    result.artifacts ++ (result.edges.filter fun edge =>
      edge.endpoints.all (· ∈ membership.sourceRecordRefs)).map (·.edgeId)
  sortedSet ((familyResult.map ofResult).getD [] ++ membership.evidenceRefs ++
    i.erHashes.map Prod.snd)

/-- The map of one source record. -/
def recordMap (entityType : CanonicalEntityType) (membership : CanonicalIdentityMembership)
    (entityId : String) (refs : List String) (recordRef : String) :
    Except CanonicalExc SourceRecordCanonicalMap := do
  let item := (getItem i.sourceRecordMetadata recordRef).getD {}
  let missing := "missing source metadata for " ++ recordRef
  let sourceId ← demand (truthy item.sourceId) .provenanceIncomplete missing
  let snapshotId ← demand (truthy item.snapshotId) .provenanceIncomplete missing
  let tableId ← demand (truthy item.tableId) .provenanceIncomplete missing
  pure
    { recordRef := recordRef
      sourceId := sourceId
      snapshotId := snapshotId
      tableId := tableId
      canonicalEntityId := entityId
      canonicalEntityTypeId := entityType.canonicalEntityTypeId
      identityDecisionRef := i.identityReview.reviewDecisionId
      reviewDecisionRef := i.identityReview.reviewDecisionId
      linkageEvidenceRefs := refs
      clusterEvidenceRef := membership.clusterEvidenceRefs.head?
      canonicalModelVersion := i.hypothesis.modelVersion
      terminalDisposition :=
        if entityType.kind = .event || (sortedSet membership.sourceRecordRefs).length = 1 then
          .emittedDirect
        else .consolidated
      dispositionReason :=
        "accepted canonical identity proposal via " ++ membership.derivationBasis.value
      provenanceRefs := i.provenance }

section
variable (digests : CanonicalDigests) (reviewDigests : ReviewDigests)

variable (i : FinalizationInput)

/-- One membership of the loop of `finalize`: its instance, and the maps of its records. -/
def finalizeMembership (membership : CanonicalIdentityMembership) :
    Except CanonicalExc (CanonicalEntityInstance × List SourceRecordCanonicalMap) := do
  let entityType ← demand (getItem i.hypothesis.typesById membership.canonicalEntityTypeId)
    .unresolvedIdentity membership.canonicalEntityTypeId
  let familyResult ← admitMembership i entityType membership
  let members := sortedSet membership.sourceRecordRefs
  let entityId := digests.canonicalEntityId entityType.canonicalEntityTypeId members
    i.hypothesis.modelVersion
  let refs := linkageRefs i membership familyResult
  let maps ← members.mapM (recordMap i entityType membership entityId refs)
  pure
    ({ canonicalEntityId := entityId
       canonicalEntityTypeId := entityType.canonicalEntityTypeId
       sourceRecordRefs := members
       identityDecisionRef := i.identityReview.reviewDecisionId
       reviewDecisionRef := i.identityReview.reviewDecisionId
       linkageEvidenceRefs := refs
       sourceClusterEvidenceRefs := membership.clusterEvidenceRefs
       canonicalModelVersion := i.hypothesis.modelVersion
       provenanceRefs := i.provenance }, maps)

/-- The hypothesis as a reviewer saw it. -/
def CanonicalModelHypothesis.reviewed (hypothesis : CanonicalModelHypothesis) :
    ReviewedHypothesis where
  artifactId := hypothesis.artifactId
  modelVersion := hypothesis.modelVersion
  contentHash := digests.hypothesisHash hypothesis

/-- The proposal as a reviewer saw it. -/
def CanonicalIdentityProposal.reviewed (proposal : CanonicalIdentityProposal) :
    DirtyDataOlap.CanonicalIdentityProposal where
  proposalId := proposal.proposalId
  hypothesisArtifactId := proposal.hypothesisArtifactId
  canonicalEntityTypeIds := proposal.canonicalEntityTypeIds
  erResultRefs := proposal.erResultRefs
  erResultHashes := proposal.erResultHashes
  sourceSchemaFingerprints := proposal.sourceSchemaFingerprints
  domainAssertionRefs := proposal.domainAssertionRefs
  schemaVersion := "1.0"
  contentHash := digests.proposalHash proposal

/-- The checks of `finalize` before its loop. -/
def checkFinalization : Except CanonicalExc Unit := do
  let required := requiredFamilies i.hypothesis.entityResolutionRequirements
  let _ ← required.mapM (requiredResult i.hypothesis i.erResults)
  let context ← demand (identityContext reviewDigests (i.hypothesis.reviewed digests)
    (i.identityProposal.reviewed digests) i.erHashes) .staleReview
    (if i.identityProposal.hypothesisArtifactId = i.hypothesis.artifactId then
      "identity proposal is not bound to the supplied ER result hash"
    else "identity proposal does not bind the hypothesis")
  let errors := i.identityReview.toReviewDecision.compatibilityErrors context
  require (errors = []) .staleReview
    ("incompatible review decision: " ++ String.intercalate "," errors)
  require (required.isEmpty || i.identityReview.decision ≠ .skipped) .incompleteReview
    "required ER identity cannot be skipped"
  require (i.identityProposal.hypothesisArtifactId = i.hypothesis.artifactId) .staleReview
    "identity proposal does not bind the hypothesis"

/-- The required families of the entity types. -/
def HypothesisPayload.requiredTypeFamilies (hypothesis : HypothesisPayload) : List String :=
  (hypothesis.entityTypes.map CanonicalEntityType.family).filter fun family =>
    getItem hypothesis.entityResolutionRequirements family = some .erRequired

/-- What a model is a digest of. -/
def modelPayload (finals : List (CanonicalEntityInstance × List SourceRecordCanonicalMap)) :
    ModelPayload where
  hypothesis := digests.hypothesisHash i.hypothesis
  proposal := digests.proposalHash i.identityProposal
  review := i.identityReview.contentHash
  instances := finals.map Prod.fst
  maps := finals.flatMap Prod.snd
  modelVersion := i.hypothesis.modelVersion
  survivorship := i.survivorshipDecisions
  conflicts := i.conflicts

/-- The model with its id. -/
def modelOf (payload : ModelPayload) : CanonicalModel where
  modelId := digests.modelId payload
  modelVersion := i.hypothesis.modelVersion
  hypothesisArtifactId := i.hypothesis.artifactId
  reviewDecisionRefs := sortedSet
    (i.hypothesis.upstreamReviewDecisionRefs ++ [i.identityReview.reviewDecisionId] ++
      i.survivorshipDecisions.filterMap fun d => truthy d.reviewDecisionRef)
  entityTypes := i.hypothesis.entityTypes
  attributes := i.hypothesis.attributes
  relationships := i.hypothesis.relationships
  instances := payload.instances
  sourceAttributeMappings := i.hypothesis.sourceAttributeMappings.filter (·.status = .accepted)
  sourceRecordMaps := sortedBy (·.recordRef) payload.maps
  survivorshipDecisions := sortedBy (·.survivorshipDecisionId) i.survivorshipDecisions
  conflicts := sortedBy (·.conflictId) i.conflicts
  lineageRefs := sortedSet (i.lineageRefs ++ i.hypothesis.provenanceRefs)
  recordAccountingRefs :=
    if i.recordAccountingRefs = [] then [digests.account payload.maps] else i.recordAccountingRefs
  provenanceRefs := i.hypothesis.provenanceRefs
  unresolvedItems :=
    i.hypothesis.unresolvedAmbiguities ++ i.hypothesis.unresolvedSemanticConflicts

/-- `finalize`: the model of a reviewed proposal, or the first error. -/
def finalize : Except CanonicalExc CanonicalModel := do
  checkFinalization digests reviewDigests i
  let finals ← i.identityProposal.memberships.mapM (finalizeMembership digests i)
  require (i.hypothesis.requiredTypeFamilies.all
    (· ∈ i.hypothesis.familiesOf i.identityProposal.memberships)) .unresolvedIdentity
    "required identity family has no accepted membership"
  if i.hypothesis.entityTypes.isEmpty || (i.lineageRefs ++ i.hypothesis.provenanceRefs).isEmpty then
    .error .validation
  else pure (modelOf digests i (modelPayload digests i finals))

end
end DirtyDataOlap.Canonical

import DirtyDataOlap.ReviewSubjects
import DirtyDataOlap.GraphSearch

/-!
# The contracts of canonicalization

What `domain/contracts/canonical.py` passes from the hypothesis over the identity proposal to the
canonical model.  A payload that is hashed is a record of its own; the artifact extends it by its
id.  Creation times are left out: no hash covers them.
-/
namespace DirtyDataOlap.Canonical

/-- What an identity rests on. -/
inductive IdentityDerivationBasis
  | erAuthorizedLinkage | humanDomainReview | sourceLocalEventIdentity
deriving DecidableEq

/-- The value of the basis in a record. -/
def IdentityDerivationBasis.value : IdentityDerivationBasis → String
  | .erAuthorizedLinkage => "ER_AUTHORIZED_LINKAGE"
  | .humanDomainReview => "HUMAN_DOMAIN_REVIEW"
  | .sourceLocalEventIdentity => "SOURCE_LOCAL_EVENT_IDENTITY"

/-- Things, or what happened to them. -/
inductive CanonicalEntityKind
  | identity | event
deriving DecidableEq

/-- Whether a mapping was accepted. -/
inductive MappingStatus
  | accepted | rejected | reviewRequired
deriving DecidableEq

/-- Why a value is missing, if it is. -/
inductive NullSemanticState
  | sourceNullMissing | notCaptured | unknown | notApplicable | invalidUnparseable
  | withheldRedacted | quarantinedUnaccepted | present
deriving DecidableEq

/-- What alternative values disagree about. -/
inductive CanonicalConflictType
  | differingSourceValues | authorityConflict | temporalConflict | normalizationConflict
  | identityConflict | semanticMappingConflict | missingAuthorityConflict
deriving DecidableEq

/-- What became of a record. -/
inductive RecordDisposition
  | emittedDirect | consolidated | aggregated | filteredExplicit | quarantined | unresolved

/-- `DecisionState` of a fused decision. -/
inductive DecisionState
  | reviewRequired | incompleteRequiredEvidence | failed
deriving DecidableEq

/-- Why canonicalization refuses its inputs. -/
inductive CanonicalFailureKind
  | incompleteReview | staleReview | missingRequiredEr | incompatibleErResult | unresolvedIdentity
  | invalidSourceMapping | provenanceIncomplete
deriving DecidableEq

/-- What a service raises: a `CanonicalizationError`, or an error of contract validation. -/
inductive CanonicalExc
  | canonicalization (code : CanonicalFailureKind) (detail : String)
  | validation
deriving DecidableEq

/-- `if not condition: raise CanonicalizationError(code, detail)`. -/
def require (condition : Bool) (code : CanonicalFailureKind) (detail : String) :
    Except CanonicalExc Unit :=
  if condition then .ok () else .error (.canonicalization code detail)

@[simp] theorem require_eq_ok {b : Bool} {code : CanonicalFailureKind} {detail : String} {u : Unit} :
    require b code detail = .ok u ↔ b = true := by
  unfold require
  split <;> simp_all

/-- A value that must be there. -/
def demand {α : Type} (value : Option α) (code : CanonicalFailureKind) (detail : String) :
    Except CanonicalExc α :=
  match value with
  | some a => .ok a
  | none => .error (.canonicalization code detail)

@[simp] theorem demand_eq_ok {α : Type} {value : Option α} {code : CanonicalFailureKind}
    {detail : String} {a : α} : demand value code detail = .ok a ↔ value = some a := by
  cases value <;> simp [demand]

/-! ## Types, attributes and relationships -/

/-- A source table of the model. -/
structure CanonicalSourceTable where
  (sourceId snapshotId tableId schemaFingerprint : String)
deriving DecidableEq

/-- A value, by reference, with where it comes from. -/
structure CanonicalValueReference where
  valueRef : String
  sourceRecordRefs : List String := []
  sourceValueDigest : Option String := none
  safeValue : Option String := none
  nullState : NullSemanticState := .present
  sourceId : Option String := none
  snapshotId : Option String := none
deriving DecidableEq

/-- A source column mapped to a canonical attribute. -/
structure SourceAttributeMapping where
  (mappingId sourceId snapshotId sourceSchemaFingerprint tableId columnId : String)
  (canonicalEntityTypeId canonicalAttributeId normalizationRef upstreamDecisionRef : String)
  reviewDecisionRef : Option String := none
  evidenceRefs : List String := []
  status : MappingStatus := .reviewRequired
  provenanceRefs : List String
deriving DecidableEq

/-- An attribute that may identify entities. -/
structure CanonicalIdentityFieldHypothesis where
  (identityFieldId canonicalAttributeId : String)
  sourceMappingRefs : List String
  normalizationRef : String
  evidenceRefs : List String
deriving DecidableEq

/-- A type of canonical entities. -/
structure CanonicalEntityType where
  (canonicalEntityTypeId semanticId businessName : String)
  kind : CanonicalEntityKind
  entityResolutionFamily : Option String := none
  identityStrategy : String
  identityAttributeIds : List String := []
  sourceTableRefs : List CanonicalSourceTable := []
  canonicalAttributeIds : List String := []
  relationshipRefs : List String := []
  domainAssertionRefs : List String := []
  reviewState : String
  provenanceRefs : List String
deriving DecidableEq

/-- A relationship between two entity types. -/
structure CanonicalRelationship where
  (relationshipId fromEntityTypeId toEntityTypeId cardinality upstreamDecisionRef : String)
  reviewDecisionRef : String
  conflictRefs : List String := []
  provenanceRefs : List String
deriving DecidableEq

/-- An attribute with its mappings and values. -/
structure CanonicalAttribute where
  (canonicalAttributeId canonicalEntityTypeId semanticName normalizedLogicalType : String)
  candidateMappingRefs : List String := []
  acceptedMappingRefs : List String := []
  normalizationRef : String
  valueRefs : List CanonicalValueReference := []
  nullSemanticStates : List NullSemanticState := []
  authorityPolicyRef : String
  survivorshipDecisionRef : Option String := none
  reviewDecisionRef : Option String := none
  conflictRefs : List String := []
  lineageRefs : List String
deriving DecidableEq

/-- Which of several values survives, and why. -/
structure CanonicalSurvivorshipDecision where
  (survivorshipDecisionId policyId policyVersion attributeId : String)
  eligibleValueRefs : List String
  selectedValueRef : Option String := none
  losingValueRefs : List String := []
  authorityEvidenceRefs : List String := []
  normalizationRefs : List String := []
  reviewDecisionRef : Option String := none
  conflictRefs : List String := []
  rationale : String
  provenanceRefs : List String

/-- Values that are left in conflict. -/
structure CanonicalConflict where
  conflictId : String
  conflictType : CanonicalConflictType
  subjectEntityTypeId : String
  subjectAttributeId : Option String := none
  alternativeValueRefs : List String
  evidenceRefs : List String := []
  policyRef : String
  reviewDecisionRef : Option String := none
  resolutionState : String
  selectedValueRef : Option String := none
  rationale : String
  effectiveAt : Option String := none
  supersededBy : Option String := none
  provenanceRefs : List String
deriving DecidableEq

/-- The sources, snapshots and tables of a specification or of an observation. -/
structure ResolutionScope where
  sourceIds : List String
  snapshotIds : List (String × String)
  tableIdsBySource : List (String × List String)
deriving DecidableEq

/-- What canonicalization reads of an `EntityResolutionSpec`. -/
structure EntityResolutionSpec where
  (specId entityFamily : String)
  scope : ResolutionScope
  /-- `clustering_policy.include_review_edges`. -/
  includeReviewEdges : Bool := false
  /-- `stable_digest` of the whole specification. -/
  fingerprint : String
deriving DecidableEq

/-- How strong the evidence for a match is. -/
inductive EntityMatchPredictionBand
  | strongLinkEvidence | reviewLinkEvidence | belowEvidenceThreshold
deriving DecidableEq

/-- Two records that may be one entity. -/
structure EntityMatchEdge where
  (edgeId leftRecordRef rightRecordRef : String)
  modelPredictionBand : EntityMatchPredictionBand
deriving DecidableEq

/-- How the resolution of a family ended. -/
inductive EntityResolutionStatus
  | complete | incomplete | failed | skipped
deriving DecidableEq

/-- What canonicalization reads of an `EntityResolutionResult`. -/
structure EntityResolutionResult where
  spec : EntityResolutionSpec
  observationScope : ResolutionScope
  edges : List EntityMatchEdge := []
  /-- The records of each cluster. -/
  clusters : List (List String) := []
  /-- The ids of the published artifacts. -/
  artifacts : List String := []
  status : EntityResolutionStatus
  /-- `stable_digest` of the whole result. -/
  digest : String
deriving DecidableEq

/-- What `hypothesis_id` hashes. -/
structure HypothesisPayload where
  (runId executionContextId modelVersion : String)
  (upstreamDecisionRefs upstreamReviewDecisionRefs sourceIds : List String)
  (snapshotFingerprints sourceSchemaFingerprints : List (String × String))
  domainAssertionRefs : List String
  entityTypes : List CanonicalEntityType
  attributes : List CanonicalAttribute
  relationships : List CanonicalRelationship
  sourceAttributeMappings : List SourceAttributeMapping
  identityFieldHypotheses : List CanonicalIdentityFieldHypothesis
  entityResolutionRequirements : List (String × EntityResolutionRequirement)
  entityResolutionSpecs : List EntityResolutionSpec
  (normalizationRefs sourceAuthorityPolicyRefs evidenceRefs provenanceRefs : List String)
  (unresolvedAmbiguities unresolvedSemanticConflicts : List String)

/-- A hypothesis with its artifact. -/
structure CanonicalModelHypothesis extends HypothesisPayload where
  artifactId : String

/-- The records of one canonical entity, and why they are one. -/
structure CanonicalIdentityMembership where
  (membershipGroupId canonicalEntityTypeId : String)
  entityResolutionFamily : Option String := none
  sourceRecordRefs : List String
  derivationBasis : IdentityDerivationBasis
  erResultRefs : List String := []
  erSpecRefs : List String := []
  authorizedEdgeRefs : List String := []
  clusterEvidenceRefs : List String := []
  actor : Option String := none
  actorSource : Option String := none
  domainAssertionRefs : List String := []
  (evidenceRefs policyRefs : List String)
  rationale : String
  provenanceRefs : List String
  records_nonempty : sourceRecordRefs ≠ [] := by decide
deriving DecidableEq

/-- What `identity_proposal_id` hashes. -/
structure ProposalPayload where
  /-- The content hash of the hypothesis. -/
  hypothesis : String
  entityTypes : List String
  requirements : List (String × EntityResolutionRequirement)
  memberships : List CanonicalIdentityMembership
  erResultRefs : List String
  erResultHashes : List (String × String)
  erSpecRefs : List String
  sourceSchemaFingerprints : List (String × String)
  (domainAssertionRefs policyRefs provenanceRefs : List String)
deriving DecidableEq

/-- The identities proposed for review. -/
structure CanonicalIdentityProposal where
  (proposalId hypothesisArtifactId : String)
  canonicalEntityTypeIds : List String
  entityResolutionRequirements : List (String × EntityResolutionRequirement)
  memberships : List CanonicalIdentityMembership
  erResultRefs : List String
  erResultHashes : List (String × String)
  erSpecRefs : List String
  sourceSchemaFingerprints : List (String × String)
  (domainAssertionRefs policyRefs unresolvedIdentityCases provenanceRefs : List String)
deriving DecidableEq

/-- A canonical entity with the records it stands for. -/
structure CanonicalEntityInstance where
  (canonicalEntityId canonicalEntityTypeId : String)
  sourceRecordRefs : List String
  (identityDecisionRef reviewDecisionRef : String)
  (linkageEvidenceRefs sourceClusterEvidenceRefs : List String)
  canonicalModelVersion : String
  provenanceRefs : List String

/-- A source record and the entity it became. -/
structure SourceRecordCanonicalMap where
  (recordRef sourceId snapshotId tableId canonicalEntityId canonicalEntityTypeId : String)
  (identityDecisionRef reviewDecisionRef : String)
  linkageEvidenceRefs : List String
  clusterEvidenceRef : Option String
  canonicalModelVersion : String
  terminalDisposition : RecordDisposition
  dispositionReason : String
  provenanceRefs : List String

/-- What `canonical_model_id` hashes. -/
structure ModelPayload where
  /-- The content hashes of the hypothesis, of the proposal and of the review. -/
  (hypothesis proposal review : String)
  instances : List CanonicalEntityInstance
  maps : List SourceRecordCanonicalMap
  modelVersion : String
  survivorship : List CanonicalSurvivorshipDecision
  conflicts : List CanonicalConflict

/-- The final model. -/
structure CanonicalModel where
  (modelId modelVersion hypothesisArtifactId : String)
  reviewDecisionRefs : List String
  entityTypes : List CanonicalEntityType
  attributes : List CanonicalAttribute
  relationships : List CanonicalRelationship
  instances : List CanonicalEntityInstance
  sourceAttributeMappings : List SourceAttributeMapping
  sourceRecordMaps : List SourceRecordCanonicalMap
  survivorshipDecisions : List CanonicalSurvivorshipDecision
  conflicts : List CanonicalConflict
  (lineageRefs recordAccountingRefs provenanceRefs unresolvedItems : List String)

/-- `stable_digest` and `stable_id` of what the services hash. -/
structure CanonicalDigests where
  typeDigest : CanonicalEntityType → String
  attributeDigest : CanonicalAttribute → String
  relationshipDigest : CanonicalRelationship → String
  mappingDigest : SourceAttributeMapping → String
  identityFieldDigest : CanonicalIdentityFieldHypothesis → String
  /-- `hypothesis_id`. -/
  hypothesisId : HypothesisPayload → String
  /-- `content_hash` of a hypothesis. -/
  hypothesisHash : CanonicalModelHypothesis → String
  /-- `identity_proposal_id`. -/
  proposalId : ProposalPayload → String
  /-- `content_hash` of a proposal. -/
  proposalHash : CanonicalIdentityProposal → String
  /-- `stable_id` of an entity type id, of sorted record references and of a model version. -/
  entityId : String → List String → String → String
  /-- `canonical_model_id`. -/
  modelId : ModelPayload → String
  /-- `content_hash` of a model. -/
  modelHash : CanonicalModel → String
  /-- `stable_id` of the record maps. -/
  account : List SourceRecordCanonicalMap → String

/-- The id of an entity: a digest of its type, its sorted records and the version. -/
def CanonicalDigests.canonicalEntityId (digests : CanonicalDigests) (entityTypeId : String)
    (sourceRecordRefs : List String) (modelVersion : String) : String :=
  digests.entityId entityTypeId (sorted sourceRecordRefs) modelVersion

end DirtyDataOlap.Canonical

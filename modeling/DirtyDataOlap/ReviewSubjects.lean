import DirtyDataOlap.PlanningAuthority
import DirtyDataOlap.Dictionaries

/-!
# The subjects of a review checkpoint

`ReviewCheckpointSubjectResolver`: the artifacts of the stages before a checkpoint are read through
both stores, decoded by the contract of their kind, and handed to builders, which say in a
`ReviewCompatibilityContext` what exactly a review decision is about.  **A subject that cannot be
read, or not bound to what it belongs to, yields no context**; its identity is listed as unresolved.
Digests are arbitrary functions (`ReviewDigests`).
-/
namespace DirtyDataOlap

/-! ## Payloads -/

/-- What a decision of the evidence fusion is about. -/
inductive EvidenceScope
  /-- Of a `RelationshipDecision`. -/
  | tables (fromTable : String) (fromColumns : List String) (toTable : String)
      (toColumns : List String)
  /-- Of a `SemanticMappingDecision`. -/
  | columns (sourceId sourceColumnId targetSourceId targetColumnId : String)

/-- What review reads of a `RelationshipDecision` or a `SemanticMappingDecision`; `contentId` is a
digest of all of it. -/
structure EvidenceDecision where
  (decisionId subjectId schemaVersion policyId policyVersion inputEvidenceFingerprint : String)
  scope : EvidenceScope
  contentId : String

/-- What review reads of a `CanonicalModelHypothesis`. -/
structure ReviewedHypothesis where
  (artifactId modelVersion contentHash : String)

/-- What review reads of a `CanonicalIdentityProposal`. -/
structure CanonicalIdentityProposal where
  (proposalId hypothesisArtifactId : String)
  (canonicalEntityTypeIds erResultRefs : List String)
  (erResultHashes sourceSchemaFingerprints : List (String × String))
  domainAssertionRefs : List String
  (schemaVersion contentHash : String)

/-- What review reads of an `EntityResolutionResult`. -/
structure EntityResolutionOutcome where
  /-- `spec.entity_family`. -/
  entityFamily : String
  /-- `stable_digest` of the result. -/
  digest : String

/-- What review reads of an `AnalyticalPlan`. -/
structure ReviewedPlan where
  (planId planVersion schemaVersion contentHash canonicalModelId canonicalModelContentHash : String)
  (canonicalModelFingerprint inputBindingContentHash analyticalSpecPackageHash : String)
  (materializedFactIds materializedDimensionIds grainSpecIds measureSpecIds : List String)
  (dimensionSpecContentHashes factSpecContentHashes grainSpecContentHashes : List (String × String))
  measureSpecContentHashes : List (String × String)
  domainAssertionRefs : List String
  sourceSchemaFingerprints : List (String × String)
  policyVersion : String

/-- What review reads of a `CompiledPlan`. -/
structure ReviewedCompilation where
  (compiledPlanId planId planContentHash compilerVersion dialect generatedSqlId : String)
  (generatedSqlHash targetConfigFingerprint canonicalModelId canonicalModelContentHash : String)
  domainAssertionRefs : List String
  (schemaVersion contentHash : String)

/-- What review reads of a `GeneratedSQL`. -/
structure ReviewedSql where
  (generatedSqlId planId planContentHash sqlHash : String)

/-- What review reads of a `TargetConfig`. -/
structure ReviewedTarget where
  (targetType configFingerprint : String)

/-- A decoded review input. -/
inductive ReviewPayload
  | domainAssertion (assertionId : String)
  | relationshipDecision (d : EvidenceDecision)
  | semanticMappingDecision (d : EvidenceDecision)
  /-- A container, of which the identities of its decisions are read. -/
  | evidenceFusionResult (decisionIds : List String)
  | canonicalModelHypothesis (h : ReviewedHypothesis)
  | canonicalIdentityProposal (p : CanonicalIdentityProposal)
  | entityResolutionResult (r : EntityResolutionOutcome)
  | analyticalPlan (p : ReviewedPlan)
  | compiledPlan (c : ReviewedCompilation)
  | generatedSql (g : ReviewedSql)
  | targetConfig (t : ReviewedTarget)
  /-- The document of a kind without a contract. -/
  | document

/-- The kind whose contract the payload was decoded by. -/
def ReviewPayload.kind : ReviewPayload → Option String
  | domainAssertion _ => some "DomainAssertion"
  | relationshipDecision _ => some "RelationshipDecision"
  | semanticMappingDecision _ => some "SemanticMappingDecision"
  | evidenceFusionResult _ => some "EvidenceFusionResult"
  | canonicalModelHypothesis _ => some "CanonicalModelHypothesis"
  | canonicalIdentityProposal _ => some "CanonicalIdentityProposal"
  | entityResolutionResult _ => some "EntityResolutionResult"
  | analyticalPlan _ => some "AnalyticalPlan"
  | compiledPlan _ => some "CompiledPlan"
  | generatedSql _ => some "GeneratedSQL"
  | targetConfig _ => some "TargetConfig"
  | document => none

/-- The keys of `contract_types`. -/
def reviewContracts : List String :=
  ["DomainAssertion", "RelationshipDecision", "SemanticMappingDecision", "EvidenceFusionResult",
    "CanonicalModelHypothesis", "CanonicalIdentityProposal", "EntityResolutionResult",
    "AnalyticalPlan", "CompiledPlan", "GeneratedSQL", "TargetConfig"]

/-- The artifact store.  What is decoded is decoded by the contract of the kind of the
artifact, if it has one. -/
structure ReviewArtifacts where
  stat : ArtifactRef → Except Exc ArtifactRef
  verify : ArtifactRef → Except Exc ArtifactIntegrityState
  payload : ArtifactRef → Except Exc ReviewPayload
  payload_kind : ∀ {ref p}, payload ref = .ok p →
    p.kind = if ref.artifactKind ∈ reviewContracts then some ref.artifactKind else none

/-- `_read_verified`: the content of the exact registered, published and verified artifact. -/
def readVerified (s : Store) (files : ReviewArtifacts) (runId : String) (supplied : ArtifactRef) :
    Except Exc ReviewPayload :=
  match s.getArtifact supplied.artifactId with
  | none => .error (.platform
      "review input artifact is not the exact registered published reference")
  | some artifact => do
    ensure (artifact = supplied && artifact.runId = runId &&
        artifact.publicationState = .published)
      (.platform "review input artifact is not the exact registered published reference")
    let stat ← files.stat artifact
    ensure (stat = artifact) (.platform "review input artifact failed integrity verification")
    let state ← files.verify artifact
    ensure (state = .verified) (.platform "review input artifact failed integrity verification")
    files.payload artifact

/-! ## Contexts -/

/-- The digests that the builders compute. -/
structure ReviewDigests where
  evidenceScope : EvidenceScope → String
  evidenceApplicability : (decisionId contentId input : String) → EvidenceScope → String
  identitySemantic : List String → String
  identityApplicability : (hypothesis proposal : String) → List (String × String) → String
  (planSemantic planApplicability : ReviewedPlan → String)
  materializationSubject : (compiledPlan sql target : String) → String
  materializationSemantic : (planId compiledPlanId dialect targetType : String) → String
  materializationApplicability : (compiledPlan sql target : String) → String

/-- A dictionary of fingerprints, in the order of its keys. -/
def fingerprints (items : List (String × String)) : List (String × String) :=
  sortedBy Prod.fst (dictOf items)

variable (digests : ReviewDigests)

/-- `evidence_context`, about the persisted artifact of the decision. -/
def evidenceContext (domainRefs : List String) (artifactId : String) (d : EvidenceDecision) :
    ReviewCompatibilityContext where
  reviewCheckpointId := .reviewEvidenceDecisions
  subjectStage := "EVIDENCE_FUSION"
  subjectArtifactId := artifactId
  subjectContentHash := d.contentId
  subjectSchemaVersion := d.schemaVersion
  modelVersion := "evidence-fusion:" ++ (d.policyId ++ ":" ++ d.policyVersion)
  sourceSchemaFingerprints := fingerprints
    [("input", d.inputEvidenceFingerprint), ("scope", digests.evidenceScope d.scope)]
  policyVersion := d.policyId ++ ":" ++ d.policyVersion
  domainAssertionRefs := sorted domainRefs
  subjectSemanticId := d.subjectId
  applicabilityFingerprint :=
    digests.evidenceApplicability d.decisionId d.contentId d.inputEvidenceFingerprint d.scope

/-- `identity_context`; `none` where it raises a `CanonicalizationError`. -/
def identityContext (hypothesis : ReviewedHypothesis) (proposal : CanonicalIdentityProposal)
    (erHashes : List (String × String)) : Option ReviewCompatibilityContext :=
  if proposal.hypothesisArtifactId ≠ hypothesis.artifactId then none
  else if proposal.erResultHashes.any fun item => getItem erHashes item.1 ≠ some item.2 then none
  else
    let bound := fingerprints (proposal.sourceSchemaFingerprints ++
      erHashes.map fun item => ("er:" ++ item.1, item.2))
    some {
      reviewCheckpointId := .reviewCanonicalIdentity
      subjectStage := "CANONICAL_IDENTITY_PROPOSAL"
      subjectArtifactId := proposal.proposalId
      subjectContentHash := proposal.contentHash
      subjectSchemaVersion := proposal.schemaVersion
      modelVersion := hypothesis.modelVersion
      sourceSchemaFingerprints := bound
      policyVersion := "canonical-identity-v1"
      domainAssertionRefs := proposal.domainAssertionRefs
      subjectSemanticId := digests.identitySemantic proposal.canonicalEntityTypeIds
      applicabilityFingerprint :=
        digests.identityApplicability hypothesis.contentHash proposal.contentHash bound }

/-- The context of an analytical plan. -/
def analyticalPlanContext (plan : ReviewedPlan) : ReviewCompatibilityContext where
  reviewCheckpointId := .reviewAnalyticalPlan
  subjectStage := "ANALYTICAL_PLANNING"
  subjectArtifactId := plan.planId
  subjectContentHash := plan.contentHash
  subjectSchemaVersion := plan.schemaVersion
  modelVersion := plan.planVersion
  sourceSchemaFingerprints := fingerprints
    ([("canonical_model_id", plan.canonicalModelId),
      ("canonical_model_content_hash", plan.canonicalModelContentHash),
      ("canonical_model_fingerprint", plan.canonicalModelFingerprint),
      ("analytical_spec_package_hash", plan.analyticalSpecPackageHash)] ++
      plan.sourceSchemaFingerprints)
  policyVersion := plan.policyVersion
  domainAssertionRefs := sorted plan.domainAssertionRefs
  subjectSemanticId := digests.planSemantic plan
  applicabilityFingerprint := digests.planApplicability plan

/-- The context of a compilation with its target. -/
def materializationContext (compiled : ReviewedCompilation) (sql : ReviewedSql)
    (target : ReviewedTarget) : ReviewCompatibilityContext where
  reviewCheckpointId := .reviewMaterializationPlan
  subjectStage := "COMPILATION"
  subjectArtifactId := compiled.compiledPlanId
  subjectContentHash :=
    digests.materializationSubject compiled.contentHash sql.sqlHash target.configFingerprint
  subjectSchemaVersion := compiled.schemaVersion
  modelVersion := compiled.compilerVersion
  sourceSchemaFingerprints := fingerprints
    [("canonical_model_id", compiled.canonicalModelId),
      ("canonical_model_content_hash", compiled.canonicalModelContentHash),
      ("plan_content_hash", compiled.planContentHash),
      ("compiled_plan_content_hash", compiled.contentHash),
      ("generated_sql_hash", sql.sqlHash),
      ("target_config_fingerprint", target.configFingerprint)]
  policyVersion := "materialization-policy-v1"
  domainAssertionRefs := sorted compiled.domainAssertionRefs
  subjectSemanticId := digests.materializationSemantic compiled.planId compiled.compiledPlanId
    compiled.dialect target.targetType
  applicabilityFingerprint :=
    digests.materializationApplicability compiled.contentHash sql.sqlHash target.configFingerprint

/-! ## Derivation -/

/-- The contexts of a checkpoint, and the subjects that have none. -/
structure ReviewSubjectDerivation where
  contexts : List ReviewCompatibilityContext := []
  unresolvedSubjectIds : List String := []
  detail : String := ""

abbrev VerifiedInput := ArtifactRef × ReviewPayload

/-- The first loop of `derive`: the verified inputs, and the identities of the others. -/
def verifyInputs (read : ArtifactRef → Except Exc ReviewPayload) :
    List ArtifactRef → Except Exc (List VerifiedInput × List String)
  | [] => .ok ([], [])
  | supplied :: rest =>
    match read supplied with
    | .ok payload => (verifyInputs read rest).map fun (v, u) => ((supplied, payload) :: v, u)
    | .error e =>
      if e.isUnreadable then
        (verifyInputs read rest).map fun (v, u) => (v, supplied.artifactId :: u)
      else .error e

/-- What tells contexts apart. -/
def contextKey (c : ReviewCompatibilityContext) : List String :=
  [c.subjectArtifactId, c.subjectContentHash, c.subjectSemanticId, c.applicabilityFingerprint]

/-- `_unique_contexts`, of contexts of one checkpoint. -/
def uniqueContexts (contexts : List ReviewCompatibilityContext) : List ReviewCompatibilityContext :=
  (sortedBy Prod.fst (dictOf (contexts.map fun c => (contextKey c, c)))).map Prod.snd

section

variable (verified : List VerifiedInput)

/-- The assertions that the evidence is reviewed under. -/
def domainRefs : List String :=
  sorted (verified.filterMap fun
    | (_, .domainAssertion assertionId) => some assertionId
    | _ => none)

def evidenceSubject (refs : List String) : VerifiedInput → Option ReviewCompatibilityContext
  | (artifact, .relationshipDecision d) => some (evidenceContext digests refs artifact.artifactId d)
  | (artifact, .semanticMappingDecision d) =>
    some (evidenceContext digests refs artifact.artifactId d)
  | _ => none

/-- The contexts of fused decisions. -/
def evidenceContexts (unresolved : List String) : ReviewSubjectDerivation where
  contexts := uniqueContexts (verified.filterMap (evidenceSubject digests (domainRefs verified)))
  unresolvedSubjectIds := sortedSet (unresolved ++ verified.flatMap fun
    | (_, .evidenceFusionResult decisionIds) => decisionIds
    | _ => [])
  detail := "evidence decisions are derived from typed decision artifacts"

/-- The hypotheses among the inputs, by identity. -/
def hypothesesOf : List (String × ReviewedHypothesis) :=
  verified.filterMap fun
    | (artifact, .canonicalModelHypothesis h) =>
      if h.artifactId = artifact.artifactId then some (artifact.artifactId, h) else none
    | _ => none

/-- The results of entity resolution among the inputs, by identity. -/
def erResultsOf : List (String × EntityResolutionOutcome) :=
  verified.filterMap fun
    | (artifact, .entityResolutionResult r) => some (artifact.artifactId, r)
    | _ => none

/-- The hypothesis a proposal names: among the inputs, or else registered and verified. -/
def hypothesisOf (s : Store) (read : ArtifactRef → Except Exc ReviewPayload)
    (verified : List VerifiedInput) (proposal : CanonicalIdentityProposal) :
    Except Exc (Option ReviewedHypothesis) :=
  match getItem (hypothesesOf verified) proposal.hypothesisArtifactId with
  | some hypothesis => .ok (some hypothesis)
  | none =>
    match s.getArtifact proposal.hypothesisArtifactId with
    | none => .ok none
    | some artifact =>
      match read artifact with
      | .ok (.canonicalModelHypothesis h) =>
        .ok (if h.artifactId = artifact.artifactId then some h else none)
      | .ok _ => .ok none
      | .error e => if e.isUnreadable then .ok none else .error e

/-- The digests of the results that a proposal names; `none` if one of them is missing. -/
def erHashesOf (results : List (String × EntityResolutionOutcome)) :
    List String → Option (List (String × String))
  | [] => some []
  | ref :: rest =>
    match getItem results ref with
    | none => none
    | some r => (erHashesOf results rest).map ((r.entityFamily, r.digest) :: ·)

/-- The context of one proposal; `none` if it stays unresolved. -/
def identitySubject (s : Store) (read : ArtifactRef → Except Exc ReviewPayload)
    (verified : List VerifiedInput) (proposal : CanonicalIdentityProposal) :
    Except Exc (Option ReviewCompatibilityContext) := do
  match ← hypothesisOf s read verified proposal with
  | none => .ok none
  | some hypothesis =>
    match erHashesOf (erResultsOf verified) proposal.erResultRefs with
    | none => .ok none
    | some hashes => .ok (identityContext digests hypothesis proposal (dictOf hashes))

/-- The proposals among the inputs. -/
def proposalsOf : List (ArtifactRef × CanonicalIdentityProposal) :=
  verified.filterMap fun
    | (artifact, .canonicalIdentityProposal p) =>
      if p.proposalId = artifact.artifactId then some (artifact, p) else none
    | _ => none

/-- The loop over the proposals: the contexts, and the proposals that stay unresolved. -/
def identitySubjects (digests : ReviewDigests) (s : Store)
    (read : ArtifactRef → Except Exc ReviewPayload) (verified : List VerifiedInput) :
    List (ArtifactRef × CanonicalIdentityProposal) →
      Except Exc (List ReviewCompatibilityContext × List String)
  | [] => .ok ([], [])
  | (artifact, proposal) :: rest => do
    let context ← identitySubject digests s read verified proposal
    let (contexts, unresolved) ← identitySubjects digests s read verified rest
    match context with
    | some context => .ok (context :: contexts, unresolved)
    | none => .ok (contexts, artifact.artifactId :: unresolved)

/-- The contexts of canonical identities. -/
def identityContexts (s : Store) (read : ArtifactRef → Except Exc ReviewPayload)
    (verified : List VerifiedInput) (unresolved : List String) :
    Except Exc ReviewSubjectDerivation := do
  let (contexts, left) ← identitySubjects digests s read verified (proposalsOf verified)
  .ok {
    contexts := uniqueContexts contexts
    unresolvedSubjectIds := sortedSet (unresolved ++ left)
    detail := "canonical identity context is derived from hypothesis, proposal and ER artifacts" }

def analyticalSubject : VerifiedInput → Option ReviewCompatibilityContext
  | (artifact, .analyticalPlan plan) =>
    if plan.planId = artifact.artifactId then some (analyticalPlanContext digests plan) else none
  | _ => none

/-- The contexts of analytical plans. -/
def analyticalContexts (unresolved : List String) : ReviewSubjectDerivation where
  contexts := verified.filterMap (analyticalSubject digests)
  unresolvedSubjectIds := unresolved

/-- The compiled plans among the inputs, by identity. -/
def compiledOf : List (String × (ArtifactRef × ReviewedCompilation)) :=
  verified.filterMap fun
    | (artifact, .compiledPlan c) =>
      if c.compiledPlanId = artifact.artifactId then some (c.compiledPlanId, (artifact, c)) else none
    | _ => none

/-- The generated statements among the inputs, by identity. -/
def generatedOf : List (String × (ArtifactRef × ReviewedSql)) :=
  verified.filterMap fun
    | (artifact, .generatedSql g) =>
      if g.generatedSqlId = artifact.artifactId then some (g.generatedSqlId, (artifact, g)) else none
    | _ => none

/-- The targets among the inputs. -/
def targetsOf : List (ArtifactRef × ReviewedTarget) :=
  verified.filterMap fun
    | (artifact, .targetConfig t) => some (artifact, t)
    | _ => none

variable (artifact : ArtifactRef)

section

variable (compiled : ReviewedCompilation)

/-- The compiled plan and its statements come from one attempt and name one another. -/
def compilationBound (sqlArtifact : ArtifactRef) (sql : ReviewedSql) : Bool :=
  artifact.runId = sqlArtifact.runId && artifact.stageId = "COMPILATION" &&
    sqlArtifact.stageId = "COMPILATION" && artifact.attemptId = sqlArtifact.attemptId &&
    compiled.generatedSqlId = sql.generatedSqlId && compiled.generatedSqlHash = sql.sqlHash &&
    compiled.planId = sql.planId && compiled.planContentHash = sql.planContentHash

/-- The target belongs to the compilation. -/
def targetBound (target : ArtifactRef × ReviewedTarget) : Bool :=
  target.1.runId = artifact.runId && target.1.stageId = "COMPILATION" &&
    target.1.attemptId = artifact.attemptId &&
    compiled.targetConfigFingerprint = target.2.configFingerprint

/-- The contexts of a compiled plan, one for each of its targets. -/
def materializationSubject : List ReviewCompatibilityContext :=
  match getItem (generatedOf verified) compiled.generatedSqlId with
  | none => []
  | some (sqlArtifact, sql) =>
    if compilationBound artifact compiled sqlArtifact sql then
      ((targetsOf verified).filter (targetBound artifact compiled)).map fun target =>
        materializationContext digests compiled sql target.2
    else []

end

/-- The contexts of compilations. -/
def materializationContexts (unresolved : List String) : ReviewSubjectDerivation :=
  let compiled := (dictOf (compiledOf verified)).map Prod.snd
  let contextsOf (c : ArtifactRef × ReviewedCompilation) :=
    materializationSubject digests verified c.1 c.2
  { contexts := uniqueContexts (compiled.flatMap contextsOf)
    unresolvedSubjectIds := sortedSet (unresolved ++
      (compiled.filter fun c => (contextsOf c).isEmpty).map (·.2.compiledPlanId))
    detail := "materialization context is derived from compiled plan, SQL and target config" }

end

/-- **`derive`.** -/
def deriveReviewSubjects (s : Store) (files : ReviewArtifacts) (runId : String)
    (checkpoint : ReviewCheckpoint) (upstream : List ArtifactRef) :
    Except Exc ReviewSubjectDerivation := do
  let (verified, unresolved) ← verifyInputs (readVerified s files runId) upstream
  match checkpoint with
  | .reviewEvidenceDecisions => .ok (evidenceContexts digests verified unresolved)
  | .reviewCanonicalIdentity =>
    identityContexts digests s (readVerified s files runId) verified unresolved
  | .reviewAnalyticalPlan => .ok (analyticalContexts digests verified unresolved)
  | .reviewMaterializationPlan => .ok (materializationContexts digests verified unresolved)

end DirtyDataOlap

import DirtyDataOlap.FusionItems
import DirtyDataOlap.FirstClaims

/-!
# Evidence fusion

`EvidenceFusionService.fuse`: it gathers statuses, candidates and evidence, each step with its
failures (`gather`), considers every candidate by its own signals (`considerRelationship`,
`considerMapping`) and gives a verdict (`verdict`).  Left out are the publication and the texts that
explain a decision.
-/
namespace DirtyDataOlap.Fusion

open Canonical (DecisionState)

/-- `text.startswith(head)`. -/
def startsWith (text head : String) : Bool := head.toList.isPrefixOf text.toList

/-- What identifies a producer result: its family, its id and its snapshots. -/
abbrev StatusKey := String ×ₗ String ×ₗ List (String ×ₗ String)

/-- What statuses are grouped by: family, result and snapshots. -/
def statusKey (status : ProducerEvidenceStatus) : StatusKey :=
  toLex (status.family.value, toLex (status.resultId, sorted (status.snapshotBySource.map toLex)))

section
variable {R : Type} (digest : FusionDigest R)

section

variable (values : List ProducerEvidenceStatus)

/-- The statuses of one key, in the order given. -/
def statusGroup (key : StatusKey) : List ProducerEvidenceStatus :=
  values.filter fun status => statusKey status = key

/-- Whether the statuses of one result differ. -/
def conflictingGroup (group : List ProducerEvidenceStatus) : Bool :=
  1 < (group.map fun status => digest (.status status)).dedup.length

/-- A group that contradicts itself is kept whole, sorted by digest; of any other the first is kept.
-/
def settleGroup (group : List ProducerEvidenceStatus) : List ProducerEvidenceStatus :=
  if conflictingGroup digest group then sortedBy (fun status => digest (.status status)) group
  else group.take 1

/-- `_unique_statuses`: the groups in the order of their keys. -/
def uniqueStatuses : List ProducerEvidenceStatus :=
  (sortedSet (values.map statusKey)).flatMap fun key => settleGroup digest (statusGroup values key)

/-- The failures of `_unique_statuses`. -/
def statusFailures : List FusionFailure :=
  ((sortedSet (values.map statusKey)).filter fun key =>
    conflictingGroup digest (statusGroup values key)).map fun key =>
    { failureId := "fusion-status-conflict-" ++ shortDigest digest 24
        (.statusKey (ofLex key).1 (ofLex (ofLex key).2).1 ((ofLex (ofLex key).2).2.map ofLex))
      kind := .staleEvidence
      detail := "duplicate producer-result identity has conflicting state, producer or content " ++
        "fingerprint"
      evidenceRefs := [(ofLex (ofLex key).2).1] }

end

/-- The policy automates nothing, and it has dimensions and rules to score with. -/
def policyValid (policy : FusionPolicyReference R) : Bool :=
  policy.status = .uncalibrated && !policy.automationEnabled && !policy.autoAcceptEnabled &&
    !policy.autoRejectEnabled && !policy.scoringDimensions.isEmpty &&
    !policy.normalizationRules.isEmpty

/-- `_validate_policy`. -/
def policyFailures (policy : FusionPolicyReference R) : List FusionFailure :=
  if policyValid policy then [] else
    [{ failureId := "fusion-policy-invalid"
       kind := .policyInvalid
       detail := "Step17 requires a typed uncalibrated policy with declared dimensions and " ++
        "automation disabled" }]

/-- `_bounded`: the candidates in the order of their ids, up to the limit. -/
def bounded {α : Type} (candidateId : α → String) (limit : Nat) (values : List α) : List α :=
  (sortedBy candidateId values).take limit

/-- The failure of `_bounded`. -/
def boundFailures {α : Type} (candidateId : α → String) (limit : Nat) (kind : String)
    (values : List α) : List FusionFailure :=
  if limit < values.length then
    [{ failureId := "fusion-" ++ kind ++ "-bound"
       kind := .boundedInputDiscarded
       detail := "max_" ++ kind ++ "_candidates discarded material candidates"
       evidenceRefs := ((sortedBy candidateId values).drop limit).map candidateId }]
  else []

/-- The candidates that a request is about. -/
structure Selection where
  relationships : List RelationshipCandidate
  mappings : List MappingCandidate
  failures : List FusionFailure

/-- The relationship candidates given directly, then those of the dependency results. -/
def allRelationships (inputs : EvidenceFusionInputs R) : List RelationshipCandidate :=
  inputs.relationshipCandidates ++ inputs.dependencyResults.flatMap fun result =>
    result.relationshipCandidates.map (·.toRelationshipCandidate)

/-- The mapping candidates given directly, then those of the matching results. -/
def allMappings (inputs : EvidenceFusionInputs R) : List MappingCandidate :=
  inputs.mappingCandidates ++ inputs.schemaMatchResults.flatMap fun result =>
    result.candidates.map (·.toMappingCandidate)

/-- The candidates after the bounds of the request. -/
def selectCandidates (request : EvidenceFusionRequest R) (inputs : EvidenceFusionInputs R) :
    Selection :=
  let relationships := bounded (·.candidateId) request.maxRelationshipCandidates
    (allRelationships inputs)
  let mappings := bounded (·.candidateId) request.maxMappingCandidates (allMappings inputs)
  let failures := boundFailures (·.candidateId) request.maxRelationshipCandidates "relationship"
      (allRelationships inputs) ++
    boundFailures (·.candidateId) request.maxMappingCandidates "mapping" (allMappings inputs)
  let keep := request.maxTotalDecisions
  if keep < relationships.length + mappings.length then
    { relationships := relationships.take keep
      mappings := mappings.take (keep - relationships.length)
      failures := failures ++
        [{ failureId := "fusion-total-decision-bound"
           kind := .boundedInputDiscarded
           detail := "max_total_decisions discarded material candidates" }] }
  else ⟨relationships, mappings, failures⟩

/-- The checks of the selected candidates against each other and the policy. -/
def subjectKindFailures (policy : FusionPolicyReference R) (selection : Selection) :
    List FusionFailure :=
  let relationships := selection.relationships ≠ []
  let mappings := selection.mappings ≠ []
  (if relationships ∧ mappings then
    [{ failureId := "fusion-mixed-subject-request"
       kind := .policyInvalid
       detail := "one fusion request cannot contain both relationship and mapping candidates" }]
    else []) ++
  match policy.subjectKind with
  | none => []
  | some kind =>
    if (relationships ∧ kind ≠ .relationship) ∨ (mappings ∧ kind ≠ .mapping) then
      [{ failureId := "fusion-policy-subject-kind"
         kind := .policyInvalid
         detail := "request candidates and policy subject kind do not match" }]
    else []

/-- `item.subject_id.startswith(("rel:", "map:"))`. -/
def subjectShaped (subject : String) : Bool := startsWith subject "rel:" || startsWith subject "map:"

/-- One item of `_bind_items`: under the subject of its candidate, as it is, or not bound. -/
def bindItem (subjects : List (String × String)) (item : FusionEvidenceItem R) :
    Option (FusionEvidenceItem R) :=
  match getItem subjects item.subjectId with
  | some subject => some { item with subjectId := subject }
  | none =>
    if (subjects.map Prod.snd).contains item.subjectId || subjectShaped item.subjectId then some item
    else none

/-- The failures of `_bind_items`. -/
def bindFailures (subjects : List (String × String)) (items : List (FusionEvidenceItem R)) :
    List FusionFailure :=
  (items.filter fun item => (bindItem subjects item).isNone).map fun item =>
    { failureId := "fusion-item-binding-" ++ shortDigest digest 20 (.text item.evidenceId)
      kind := .subjectBindingError
      detail := "evidence item subject is not one of the selected candidates"
      evidenceRefs := [item.evidenceId] }

variable [ScoreArithmetic R]

/-- The items that the service derives from typed results, before they are bound. -/
def derivedItems (policy : FusionPolicyReference R) (inputs : EvidenceFusionInputs R) :
    List (FusionEvidenceItem R) :=
  inputs.dependencyResults.flatMap dependencyItems ++
    inputs.schemaMatchResults.flatMap (schemaItems digest policy) ++
    (inputs.declaredConstraints ++ inputs.catalogConstraints).filterMap (declaredItem digest) ++
    inputs.domainAssertions.map assertionItem

variable (request : EvidenceFusionRequest R)

/-- The items of everything but the applied-ML and the semantic results. -/
def primaryItems (inputs : EvidenceFusionInputs R) (selection : Selection) :
    Except FusionExc (List (FusionEvidenceItem R) × List FusionFailure) := do
  let subjects := candidateSubjects selection.relationships selection.mappings
  let topologies := candidateTopologies selection.relationships selection.mappings
  let derived ← checkItems (derivedItems digest request.policy inputs)
  let items := inputs.evidenceItems ++ derived
  let containers ← candidateItems selection.relationships selection.mappings
  let observed ← checkItems (inputs.profileResults.flatMap (profileItems digest topologies) ++
    inputs.qualityResults.flatMap (qualityItems digest topologies))
  pure (items.filterMap (bindItem subjects) ++ containers ++ observed,
    bindFailures digest subjects items)

/-- The evidence items of the learned and the semantic results, with their failures. -/
def auxiliaryItems (inputs : EvidenceFusionInputs R) (selection : Selection) :
    Except FusionExc (List (FusionEvidenceItem R) × List FusionFailure) := do
  let subjects := candidateSubjects selection.relationships selection.mappings
  let learned ← inputs.appliedMlResults.mapM (mlItems digest subjects)
  let semantic ← inputs.semanticResults.mapM
    (semanticResultItems digest subjects inputs.subjectBindings)
  pure (learned.flatMap Prod.fst ++ semantic.flatMap Prod.fst,
    learned.flatMap Prod.snd ++ semantic.flatMap Prod.snd)

/-- The producer families that a policy requires; by default the three observing ones. -/
def requiredFamilies (policy : FusionPolicyReference R) : List EvidenceFamily :=
  if policy.requiredProducerFamilies = [] then [.profile, .dependency, .quality]
  else policy.requiredProducerFamilies

section

variable (statuses : List ProducerEvidenceStatus)

/-- The statuses of one family. -/
def familyStatuses (family : EvidenceFamily) : List ProducerEvidenceStatus :=
  statuses.filter fun status => status.family = family

/-- A required family must be there, and none of its statuses incomplete. -/
def familyFailures (family : EvidenceFamily) : List FusionFailure :=
  let supplied := familyStatuses statuses family
  if supplied = [] then
    [{ failureId := "fusion-missing-" ++ lower family.value
       kind := .inputIncomplete
       detail := "required " ++ family.value ++ " producer result was not supplied" }]
  else if supplied.any fun status => status.state ≠ .complete then
    [{ failureId := "fusion-required-" ++ lower family.value
       kind := .requiredProducerFailed
       detail := "required " ++ family.value ++ " producer is incomplete or failed" }]
  else []

/-- `_producer_failures`: the required families, and the matcher where sources are mapped. -/
def producerFailures : List FusionFailure :=
  (if request.crossSourceMappingScope && !statuses.any fun status =>
      status.family = .schemaMatching && status.state = .complete then
    [{ failureId := "fusion-required-schema-matching"
       kind := .requiredProducerFailed
       detail := "cross-source mapping requires a COMPLETE schema-matching result" }]
    else []) ++
  (requiredFamilies request.policy).flatMap (familyFailures statuses)

/-- One expected result: it must be there, with the sources and snapshots that are named. -/
def expectedFailures (expected : ExpectedProducerResult) : List FusionFailure :=
  let found := statuses.filter fun status => status.family = expected.family &&
    status.producerId = expected.producerId && status.resultId = expected.resultId
  let failure (name detail : String) : FusionFailure :=
    { failureId := name ++ shortDigest digest 24 (.expected expected), kind := .staleEvidence
      detail := detail, evidenceRefs := [expected.resultId] }
  if found = [] then
    [failure "fusion-stale-" ("expected producer result " ++ expected.family.value ++ "/" ++
      expected.producerId ++ "/" ++ expected.resultId ++ " was not supplied")]
  else
    (if expected.sourceIds ≠ [] ∧ ∃ status ∈ found, status.sourceIds ≠ expected.sourceIds then
      [failure "fusion-stale-scope-" "expected producer result source scope does not match"]
      else []) ++
    if expected.snapshotBySource ≠ [] ∧
        ∃ status ∈ found, sameDict status.snapshotBySource expected.snapshotBySource = false then
      [failure "fusion-stale-snapshot-" "expected producer result snapshot scope does not match"]
    else []

/-- An expected id names a family or a producer of some status. -/
def expectedIdFailures (expected : String × String) : List FusionFailure :=
  if statuses.any fun status => (status.family.value = upper expected.1 ||
      status.producerId = expected.1) && status.resultId = expected.2 then []
  else
    [{ failureId := "fusion-stale-" ++ shortDigest digest 24 (.expectedId expected.1 expected.2)
       kind := .staleEvidence
       detail := "expected producer result " ++ expected.1 ++ "=" ++ expected.2 ++ " was not supplied"
       evidenceRefs := [expected.2] }]

/-- `_expected_results`. -/
def staleFailures : List FusionFailure :=
  request.expectedProducerResults.flatMap (expectedFailures digest statuses) ++
    request.expectedProducerResultIds.flatMap (expectedIdFailures digest statuses)

end

/-! ## Signals -/

section

variable (item : FusionEvidenceItem R)

/-- Whether an item is about a subject of the request. -/
def live : Bool :=
  request.relationshipCandidateIds.contains item.subjectId ||
    request.mappingCandidateIds.contains item.subjectId || subjectShaped item.subjectId

/-- The order in which `_signals` reads the items. -/
def readingOrder : String ×ₗ String ×ₗ String :=
  toLex (item.subjectId, toLex (item.evidenceId, item.metricName))

/-- The dump of an item with sorted keys. -/
def payload : FusionEvidenceItem R :=
  { item with snapshotBySource := sortedBy Prod.fst item.snapshotBySource }

/-- The dimension that an item names, or else the one that claims its metric. -/
def dimensionOf (policy : FusionPolicyReference R) (item : FusionEvidenceItem R) :
    Option (FusionScoringDimension R) :=
  (getItem (policy.scoringDimensions.map fun d => (d.dimensionId, d))
    (item.scoreDimensionId.getD "")).or
  (getItem (policy.scoringDimensions.flatMap fun d => d.metricNames.map fun metric => (metric, d))
    item.metricName)

/-- Why a score-bearing item cannot be scored. -/
def unsupported (name : String) (key : Digested R) (detail : String) (item : FusionEvidenceItem R) :
    FusionFailure :=
  { failureId := name ++ shortDigest digest 20 key, kind := .unsupportedScoreSemantics
    detail := detail, subjectId := some item.subjectId, evidenceRefs := [item.evidenceId] }

/-- The normalized value of a score-bearing item, with its method. -/
def normalizeItem (policy : FusionPolicyReference R) (item : FusionEvidenceItem R) :
    Except FusionFailure (R × String) :=
  let fail {α : Type} (name : String) (key : Digested R) (detail : String) :
      Except FusionFailure α := .error (unsupported digest name key detail item)
  match dimensionOf policy item with
  | none => fail "fusion-unsupported-" (.text item.metricName)
      ("score-bearing metric " ++ item.metricName ++ " is not declared by policy")
  | some dimension =>
    match (policy.rule dimension.normalizationRuleId).filter fun rule =>
        rule.metricNames.contains item.metricName with
    | none => fail "fusion-unsupported-" (.text item.metricName)
        ("metric " ++ item.metricName ++ " has no policy-authorized normalization")
    | some rule =>
      match item.metricValue with
      | none => fail "fusion-unsupported-value-" (.text item.evidenceId)
          "score-bearing evidence has no numeric value"
      | some value =>
        if startsWith rule.method "ordinal" ∧ 1 ≤ value then .ok (1 / (1 + value), rule.method)
        else if ¬ (-1 ≤ value ∧ value ≤ 1) then
          fail "fusion-unsupported-value-" (.text item.evidenceId)
            "score-bearing evidence value is outside policy bounds"
        else if startsWith rule.method "compatibility_strength" then
          .ok ((1 + 1) * value - 1, rule.method)
        else if startsWith rule.method "identity" then .ok (value, rule.method)
        else fail "fusion-unsupported-rule-" (.text rule.ruleId)
          ("normalization rule " ++ rule.ruleId ++ " is not executable by Step17")

/-- Whether `_signals` tries to score an item. -/
def FusionEvidenceItem.scored : Bool :=
  item.scoreBearing && item.presence = .observed

/-- The normalized value of an item, where it has one. -/
def normalizedOf (policy : FusionPolicyReference R) (item : FusionEvidenceItem R) :
    Option (R × String) :=
  if item.scored then (normalizeItem digest policy item).toOption else none

/-- A scored item that cannot be normalized is reported. -/
def scoreFailures (policy : FusionPolicyReference R) (item : FusionEvidenceItem R) :
    List FusionFailure :=
  if item.scored then
    match normalizeItem digest policy item with
    | .ok _ => []
    | .error failure => [failure]
  else []

/-- `_signal`: an item with its dimension and its normalized value. -/
def signalOf (policy : FusionPolicyReference R) (item : FusionEvidenceItem R) :
    NormalizedEvidenceSignal R :=
  let dimension := dimensionOf policy item
  let normalized := normalizedOf digest policy item
  { signalId := "fusion_signal_" ++
      shortDigest digest 32 (.signal item.evidenceId item.subjectId item.metricName)
    subjectId := item.subjectId
    evidenceId := item.evidenceId
    producerId := item.producerId
    family := item.family
    role := item.role
    rawMetricName := item.metricName
    rawMetricValue := item.metricValue
    rawMetricSemantics := item.metricSemantics
    normalizationMethod := (normalized.map Prod.snd).getD "qualitative_only_v1"
    normalizedValue := normalized.map Prod.fst
    direction := item.direction
    presence := item.presence
    reliability := item.observationScope
    scopeId := item.scopeId
    sourceIds := item.sourceIds
    snapshotIds := item.snapshotIds
    snapshotBySource := item.snapshotBySource
    snapshotBinding := item.snapshotBinding
    derivedFromRefs := item.derivedFromRefs
    correlationGroup := item.correlationGroup
    dependencyGroup := match item.dependencyGroup with
      | some group => if group ≠ "" then some group else dimension.map (·.dependencyGroup)
      | none => dimension.map (·.dependencyGroup)
    scoreDimensionId := dimension.map (·.dimensionId)
    scoreBearing := normalized.isSome }

/-- The contract of a signal: a value in `[-1, 1]`, only if observed, and known sources. -/
def NormalizedEvidenceSignal.wellFormed (signal : NormalizedEvidenceSignal R) : Bool :=
  (signal.normalizedValue.all fun value => -1 ≤ value ∧ value ≤ 1) &&
  (signal.presence = .observed || signal.normalizedValue.isNone) &&
  (signal.snapshotBinding ≠ .observation ||
    signal.snapshotBySource.all fun entry => signal.sourceIds.contains entry.1)

/-- Two different items under one evidence id. -/
def collisionFailure : FusionFailure :=
  { failureId := "fusion-collision-" ++ shortDigest digest 24 (.text item.evidenceId)
    kind := .evidenceIdCollision
    detail := "one evidence_id claimed materially different payloads"
    evidenceRefs := [item.evidenceId] }

end

/-- One pass of the loop of `_signals`: the signal of a standing item, or the collision. -/
def readClaim (policy : FusionPolicyReference R) (claim : FusionEvidenceItem R × Bool) :
    Except FusionExc (List (NormalizedEvidenceSignal R) × List FusionFailure) :=
  if claim.2 then do
    require (signalOf digest policy claim.1).wellFormed "NormalizedEvidenceSignal"
    pure ([signalOf digest policy claim.1], scoreFailures digest policy claim.1)
  else pure ([], [collisionFailure digest claim.1])

/-- The items that still hold, in the order in which they are read. -/
def readItems (items : List (FusionEvidenceItem R)) : List (FusionEvidenceItem R) :=
  (sortedBy readingOrder items).filter (live request)

/-- `_signals`: the signals in the order they are read, and the failures. -/
def collectSignals (items : List (FusionEvidenceItem R)) :
    Except FusionExc (List (NormalizedEvidenceSignal R) × List FusionFailure) := do
  let read ← (claims (·.evidenceId) payload [] (readItems request items)).mapM
    (readClaim digest request.policy)
  pure (read.flatMap Prod.fst, read.flatMap Prod.snd)

section

variable (signals : List (NormalizedEvidenceSignal R))

/-- `by_subject.get(subject, [])`. -/
def subjectEvidence (subject : String) : List (NormalizedEvidenceSignal R) :=
  signals.filter fun signal => signal.subjectId = subject

/-- The signals of one subject disagree on the snapshot of a source. -/
def mixedSnapshots : Bool :=
  let observed := (signals.filter fun signal =>
    signal.snapshotBinding ≠ .notApplicableSchemaMetadata).flatMap (·.snapshotBySource)
  observed.any fun a => observed.any fun b => a.1 = b.1 && a.2 ≠ b.2

/-- The subjects whose evidence comes from different snapshots of one source. -/
def scopeFailures : List FusionFailure :=
  ((sortedSet (signals.map (·.subjectId))).filter fun subject =>
    mixedSnapshots (subjectEvidence signals subject)).map fun subject =>
    { failureId := "fusion-scope-" ++ shortDigest digest 24 (.text subject)
      kind := .snapshotScopeMismatch
      detail := "one subject combines incompatible snapshots for a source"
      subjectId := some subject
      evidenceRefs := (subjectEvidence signals subject).map (·.evidenceId) }

end

/-- What `fuse` has in hand before the first decision. -/
structure GatheredEvidence (R : Type) where
  statuses : List ProducerEvidenceStatus
  relationships : List RelationshipCandidate
  mappings : List MappingCandidate
  signals : List (NormalizedEvidenceSignal R)
  repairRefs : List String
  failures : List FusionFailure

/-- `fuse`, up to the loops over the candidates. -/
def gather (inputs : EvidenceFusionInputs R) : Except FusionExc (GatheredEvidence R) := do
  let supplied ← gatherStatuses inputs
  let statuses := uniqueStatuses digest supplied
  let selection := selectCandidates request inputs
  let primary ← primaryItems digest request inputs selection
  let auxiliary ← auxiliaryItems digest inputs selection
  let read ← collectSignals digest request (primary.1 ++ auxiliary.1)
  pure
    { statuses := statuses
      relationships := selection.relationships
      mappings := selection.mappings
      signals := read.1
      repairRefs := sortedSet (inputs.qualityResults.flatMap
        (repairRefs (candidateTopologies selection.relationships selection.mappings)))
      failures := statusFailures digest supplied ++ policyFailures request.policy ++
        selection.failures ++ subjectKindFailures request.policy selection ++ primary.2 ++
        auxiliary.2 ++ producerFailures request statuses ++ staleFailures digest request statuses ++
        read.2 ++ scopeFailures digest read.1 }

/-! ## Scores -/

section

variable (signals : List (NormalizedEvidenceSignal R))

/-- The first value of a dimension; for `inclusion` the coverage, or what the orphans leave. -/
def normalizeDimension (dimensionId : String) : Option R :=
  let values := signals.filter fun signal => signal.scoreBearing &&
    signal.normalizedValue.isSome && signal.scoreDimensionId = some dimensionId
  if dimensionId = "inclusion" then
    match values.find? fun signal => signal.rawMetricName = "inclusion_coverage" with
    | some coverage => coverage.normalizedValue
    | none => ((values.find? fun signal => signal.rawMetricName = "orphan_ratio").bind
        (·.normalizedValue)).map fun orphan => 1 - orphan
  else values.head?.bind (·.normalizedValue)

/-- The signal speaks against a hypothesis in the dimension. -/
def contradicts (dimensionId : String) (signal : NormalizedEvidenceSignal R) : Bool :=
  signal.direction = .contradicts && signal.scoreDimensionId = some dimensionId

/-- Whether a contradicting signal turns the value of a dimension. -/
def turnable (policy : FusionPolicyReference R) (dimension : FusionScoringDimension R) : Bool :=
  dimension.dimensionId ≠ "inclusion" &&
    (policy.rule dimension.normalizationRuleId).any fun rule =>
      !startsWith rule.method "compatibility_strength"

/-- `-abs(value)`. -/
def negAbs (value : R) : R := if 0 ≤ value then -value else value

/-- The value of a dimension, turned where its signals contradict. -/
def signedValue (policy : FusionPolicyReference R) (signals : List (NormalizedEvidenceSignal R))
    (dimension : FusionScoringDimension R) (value : R) : R :=
  if turnable policy dimension && signals.any (contradicts dimension.dimensionId) then negAbs value
  else value

/-- The running totals of `_score`. -/
structure Tally (R : Type) where
  contributions : List (String × R)
  eligible : R
  observed : R

/-- One required dimension, if it has a value; its weight is eligible in any case. -/
def requiredStep (policy : FusionPolicyReference R) (signals : List (NormalizedEvidenceSignal R))
    (tally : Tally R) (dimension : FusionScoringDimension R) : Tally R :=
  if !dimension.required then tally
  else
    match normalizeDimension signals dimension.dimensionId with
    | none => tally
    | some value =>
      { tally with
        contributions := setItem tally.contributions dimension.dimensionId
          (ScoreArithmetic.round12
            (dimension.weight * signedValue policy signals dimension value))
        observed := tally.observed + dimension.weight }

/-- Some signal bears a score in the dimension. -/
def scoredDimension (dimensionId : String) : Bool :=
  signals.any fun signal => signal.scoreBearing && signal.normalizedValue.isSome &&
    signal.scoreDimensionId = some dimensionId

/-- One optional dimension: it counts only if it was observed. -/
def optionalStep (tally : Tally R) (dimension : FusionScoringDimension R) : Tally R :=
  if dimension.required || !scoredDimension signals dimension.dimensionId ||
      (tally.contributions.map Prod.fst).contains dimension.dimensionId then tally
  else
    match normalizeDimension signals dimension.dimensionId with
    | none => tally
    | some value =>
      { contributions := setItem tally.contributions dimension.dimensionId
          (ScoreArithmetic.round12 (dimension.weight * value))
        eligible := tally.eligible + dimension.weight
        observed := tally.observed + dimension.weight }

/-- `sum(values)`. -/
def total (values : List R) : R := values.foldl (· + ·) 0

/-- The totals over the required, then over the optional dimensions. -/
def tally (policy : FusionPolicyReference R) (signals : List (NormalizedEvidenceSignal R)) :
    Tally R :=
  let start : Tally R :=
    ⟨[], total ((policy.scoringDimensions.filter (·.required)).map (·.weight)), 0⟩
  let required := policy.scoringDimensions.foldl (requiredStep policy signals) start
  policy.scoringDimensions.foldl (optionalStep signals) required

/-- `_score`, but for the check of its contract. -/
def scoreOf (policy : FusionPolicyReference R) (signals : List (NormalizedEvidenceSignal R)) :
    FusionScore R :=
  let t := tally policy signals
  { value := if t.contributions ≠ [] ∧ t.eligible ≠ 0 then
      some (ScoreArithmetic.round12 (total (t.contributions.map Prod.snd) / t.eligible)) else none
    scoreSemantics := policy.scoreSemantics
    eligibleWeight := t.eligible
    observedWeight := t.observed
    evidenceCoverage :=
      if t.eligible ≠ 0 then ScoreArithmetic.round12 (t.observed / t.eligible) else 0
    sufficient := !t.contributions.isEmpty
    contributions := t.contributions }

/-- What the contract of a score asks of its numbers. -/
def FusionScore.wellFormed (score : FusionScore R) : Bool :=
  (score.value.all fun value => -1 ≤ value ∧ value ≤ 1) && 0 ≤ score.eligibleWeight &&
    0 ≤ score.observedWeight && 0 ≤ score.evidenceCoverage && score.evidenceCoverage ≤ 1

/-- The bands by their lower bound, the highest first. -/
def bandOrder (policy : FusionPolicyReference R) : List (FusionBandPolicy R) :=
  policy.bandPolicy.insertionSort fun a b =>
    b.minimum.getD (-(1 + 1)) ≤ a.minimum.getD (-(1 + 1))

/-- `_band`. -/
def confidenceBand (policy : FusionPolicyReference R) (score : FusionScore R)
    (conflicts : List Conflict) : ConfidenceBand :=
  let value := score.value.getD 0
  if conflicts ≠ [] then .conflicted
  else if !score.sufficient then .insufficient
  else
    match (bandOrder policy).find? fun band =>
        match band.minimum, band.maximum with
        | some minimum, _ => decide (minimum ≤ value)
        | none, some maximum => !decide (maximum ≤ value)
        | none, none => false with
    | some band => band.band
    | none => .low

/-- The signal was observed and bears a score. -/
def NormalizedEvidenceSignal.counts (signal : NormalizedEvidenceSignal R) : Bool :=
  signal.presence = .observed && signal.scoreBearing

/-- The required dimensions that no signal observes. -/
def missingDimensions (policy : FusionPolicyReference R)
    (signals : List (NormalizedEvidenceSignal R)) : List String :=
  (policy.scoringDimensions.filter fun dimension => dimension.required &&
    !signals.any fun signal => signal.counts &&
      signal.scoreDimensionId = some dimension.dimensionId).map fun dimension =>
    "subject:dimension:" ++ dimension.dimensionId

/-- A mapping needs a rank that some matcher gave it. -/
def missingMatcher (policy : FusionPolicyReference R)
    (signals : List (NormalizedEvidenceSignal R)) : List String :=
  if policy.subjectKind = some .mapping ∧ ¬ signals.any fun signal => signal.counts &&
      signal.family = .schemaMatching && startsWith signal.rawMetricName "matcher_rank:" then
    ["subject:matcher_evidence"]
  else []

section

variable (statuses : List ProducerEvidenceStatus)

/-- The results of a required family that are missing or not complete. -/
def missingProducers (family : EvidenceFamily) : List String :=
  let supplied := familyStatuses statuses family
  if supplied = [] then ["producer:" ++ lower family.value]
  else (supplied.filter fun status => status.state ≠ .complete).map fun status =>
    "producer:" ++ status.resultId

/-- The missing evidence of `_subject_missing`. -/
def subjectMissing (policy : FusionPolicyReference R) (statuses : List ProducerEvidenceStatus)
    (signals : List (NormalizedEvidenceSignal R)) : List String :=
  sortedSet (missingDimensions policy signals ++ missingMatcher policy signals ++
    (sortedBy EvidenceFamily.value (requiredFamilies policy).dedup).flatMap
      (missingProducers statuses))

/-- The producers that could not supply evidence. -/
def unavailableProducers : List String :=
  (statuses.filter fun status => status.state = .unavailable || status.state = .skipped ||
    status.state = .notConfigured || status.state = .privacyBlocked).map fun status =>
    "producer:" ++ status.resultId

/-- The unavailable evidence of `_subject_missing`. -/
def subjectUnavailable (signals : List (NormalizedEvidenceSignal R)) : List String :=
  sortedSet (unavailableProducers statuses ++
    (signals.filter fun signal => signal.presence ≠ .observed).map (·.evidenceId))

end

/-! ## Conflicts -/

/-- The conflict rule of this type admits the signal. -/
def eligibleConflictSignal (policy : FusionPolicyReference R) (type : ConflictType)
    (signal : NormalizedEvidenceSignal R) : Bool :=
  match policy.conflictRules.find? fun rule => rule.conflictType = type with
  | none => false
  | some rule =>
    (rule.eligibleFamilies = [] || rule.eligibleFamilies.contains signal.family) &&
    (rule.eligibleMetricNames = [] || rule.eligibleMetricNames.contains signal.rawMetricName) &&
    signal.rawMetricName ≠ "low_cardinality_risk"

/-- `_conflict`. -/
def conflictOf (type : ConflictType) (subject : String) (supporting contradicting : List String)
    (explanation rule : String) : Conflict :=
  { conflictId := "fusion_conflict_" ++ shortDigest digest 32
      (.conflict subject type (sortedSet (supporting ++ contradicting)))
    conflictType := type
    subjectId := subject
    supportingEvidenceRefs := sortedSet supporting
    contradictingEvidenceRefs := sortedSet contradicting
    explanation := explanation
    policyRule := rule
    scopeId := "subject:" ++ shortDigest digest 20 (.text subject) }

/-- The ids of the signals that satisfy a condition. -/
def evidenceWhere (condition : NormalizedEvidenceSignal R → Bool) : List String :=
  (signals.filter condition).map (·.evidenceId)

/-- The evidence ids of the semantic signals in favour. -/
def semanticSupport : List String :=
  evidenceWhere signals fun signal => signal.family = .semanticAi && signal.direction = .supports

/-- Type evidence against the subject. -/
def typeContradictions (policy : FusionPolicyReference R)
    (signals : List (NormalizedEvidenceSignal R)) : List String :=
  evidenceWhere signals fun signal => signal.rawMetricName = "type_compatibility" &&
    signal.direction = .contradicts && eligibleConflictSignal policy .typeSemanticConflict signal

/-- `abs(a - b)`. -/
def distance (a b : R) : R := if 0 ≤ a - b then a - b else -(a - b)

/-- A sampled and a full observation of a shared source that differ by the threshold. -/
def disagrees (threshold : R) (sampled full : NormalizedEvidenceSignal R) : Bool :=
  (sampled.snapshotBySource.any fun entry =>
    (full.snapshotBySource.map Prod.fst).contains entry.1) &&
  sampled.normalizedValue.any fun a => full.normalizedValue.any fun b => threshold ≤ distance a b

/-- Sampled and full observations of one metric that lie too far apart. -/
def samplingConflicts (subject : String) (threshold : R)
    (signals : List (NormalizedEvidenceSignal R)) (metric : String) : List Conflict :=
  let values := signals.filter fun signal => signal.rawMetricName = metric
  let sampled := values.filter fun signal =>
    signal.reliability = .sampled && signal.normalizedValue.isSome
  let full := values.filter fun signal =>
    signal.reliability = .full && signal.normalizedValue.isSome
  if sampled.any fun a => full.any (disagrees threshold a) then
    [conflictOf digest .sampleFullscanConflict subject (sampled.map (·.evidenceId))
      (full.map (·.evidenceId)) ("sampled and full observations disagree for " ++ metric)
      "sample_vs_full_observation"]
  else []

/-- Semantic support against structural evidence, support of any kind against the types, and samples
against whole observations. -/
def structuralConflicts (policy : FusionPolicyReference R) (subject : String)
    (signals : List (NormalizedEvidenceSignal R)) : List Conflict :=
  let semantic := semanticSupport signals
  let structural := evidenceWhere signals fun signal => signal.direction = .contradicts &&
    eligibleConflictSignal policy .semanticStructuralConflict signal
  let typeBad := typeContradictions policy signals
  let matcherSupport := evidenceWhere signals fun signal =>
    startsWith signal.rawMetricName "matcher_rank:" && signal.direction = .supports
  let threshold := (policy.conflictRules.find? fun rule =>
    rule.conflictType = .sampleFullscanConflict).bind (·.threshold)
  (if semantic ≠ [] ∧ structural ≠ [] then
    [conflictOf digest .semanticStructuralConflict subject semantic structural
      "qualitative semantic support conflicts with structural evidence"
      "semantic_structural_disagreement"]
    else []) ++
  (if typeBad ≠ [] ∧ (semantic ≠ [] ∨ matcherSupport ≠ []) then
    [conflictOf digest .typeSemanticConflict subject
      (if semantic ≠ [] then semantic else matcherSupport) typeBad
      "incompatible type evidence is retained beside semantic or matcher support"
      "type_semantic_compatibility"]
    else []) ++
  match threshold with
  | none => []
  | some threshold => (signals.map (·.rawMetricName)).eraseDups.flatMap
      (samplingConflicts digest subject threshold signals)

/-- The declared constraints that a relationship candidate restates, by their ids. -/
def declaredRefs (candidate : RelationshipCandidate) (declared : List DeclaredInput) :
    List String :=
  declared.filterMap fun
    | .typed item =>
      if item.fromTable = candidate.fromTable ∧ item.toTable = candidate.toTable ∧
          item.fromColumns = candidate.fromColumns ∧ item.toColumns = candidate.toColumns then
        some item.constraintId
      else none
    | .catalog item =>
      if item.tableId = candidate.fromTable ∧
          orText (item.referencedTableId.getD "") (item.referencedTableName.getD "") =
            candidate.toTable then
        some ("declared:" ++ shortDigest digest 24 (.text item.contentDigest))
      else none

/-- `_conflicts_for_relationship`. -/
def relationshipConflicts (policy : FusionPolicyReference R) (candidates : List RelationshipCandidate)
    (declared : List DeclaredInput) (candidate : RelationshipCandidate)
    (signals : List (NormalizedEvidenceSignal R)) : List Conflict :=
  let declaredRefs := declaredRefs digest candidate declared
  let contradictions := evidenceWhere signals fun signal => signal.direction = .contradicts &&
    eligibleConflictSignal policy .declaredDataConflict signal
  let targets := (candidates.filter fun item => item.fromTable = candidate.fromTable &&
    item.fromColumns = candidate.fromColumns).map fun item => (item.toTable, item.toColumns)
  structuralConflicts digest policy candidate.subject signals ++
  (if declaredRefs ≠ [] ∧ contradictions ≠ [] then
    [conflictOf digest .declaredDataConflict candidate.subject declaredRefs contradictions
      "declared FK metadata is retained while observed data contradicts it"
      "declared_fk_vs_observed_data"]
    else []) ++
  if 1 < targets.dedup.length then
    [conflictOf digest .multipleTargetAmbiguity candidate.subject [candidate.candidateId]
      (candidates.map (·.candidateId)) "more than one target is plausible for this source endpoint"
      "multiple_target_requires_review"]
  else []

/-- `_conflicts_for_mapping`. -/
def mappingConflicts (policy : FusionPolicyReference R) (candidates : List MappingCandidate)
    (candidate : MappingCandidate) (signals : List (NormalizedEvidenceSignal R)) : List Conflict :=
  let semantic := semanticSupport signals
  let typeBad := typeContradictions policy signals
  let plausibles := candidates.filter fun item => item.sourceId = candidate.sourceId &&
    item.sourceColumnId = candidate.sourceColumnId
  structuralConflicts digest policy candidate.subject signals ++
  (if semantic ≠ [] ∧ typeBad ≠ [] then
    [conflictOf digest .typeSemanticConflict candidate.subject semantic typeBad
      "semantic equivalence conflicts with incompatible type evidence" "semantic_vs_type"]
    else []) ++
  if 1 < (plausibles.map fun item => (item.targetSourceId, item.targetColumnId)).dedup.length then
    [conflictOf digest .multipleTargetAmbiguity candidate.subject [candidate.candidateId]
      (plausibles.map (·.candidateId)) "one source column has multiple plausible mapping targets"
      "multiple_mapping_targets_require_review"]
  else []

/-- One conflict per id, the last one given, in the order of the ids. -/
def uniqueConflicts (values : List Conflict) : List Conflict :=
  sortedBy (·.conflictId) ((dictOf (values.map fun item => (item.conflictId, item))).map Prod.snd)

/-! ## One candidate -/

/-- What considering one candidate gives. -/
structure Considered (R D : Type) where
  decision : D
  conflicts : List Conflict
  bundle : EvidenceBundle R
  failures : List FusionFailure

/-- The signals of a subject, up to the bound of the request. -/
def subjectSignals (subject : String) : List (NormalizedEvidenceSignal R) :=
  (subjectEvidence signals subject).take request.maxEvidencePerSubject

/-- The failure of `_subject_signals`. -/
def evidenceBoundFailures (subject : String) : List FusionFailure :=
  if request.maxEvidencePerSubject < (subjectEvidence signals subject).length then
    [{ failureId := "fusion-evidence-bound-" ++ shortDigest digest 20 (.text subject)
       kind := .boundedInputDiscarded
       detail := "max_evidence_per_subject discarded material evidence"
       subjectId := some subject }]
  else []

end

/-- The snapshots that `_candidate_scope_failure` expects. -/
def RelationshipCandidate.expectedSnapshots (item : RelationshipCandidate) :
    List (String × String) :=
  if item.sourceId ≠ "" ∧ item.snapshotId ≠ "" then [(item.sourceId, item.snapshotId)] else []

/-- The snapshots in which a mapping is to be observed, by source. -/
def MappingCandidate.expectedSnapshots (item : MappingCandidate) : List (String × String) :=
  let source := orText item.snapshotId item.sourceSnapshotId
  dictOf ((if item.sourceId ≠ "" ∧ source ≠ "" then [(item.sourceId, source)] else []) ++
    if item.targetSourceId ≠ "" ∧ item.targetSnapshotId ≠ "" then
      [(item.targetSourceId, item.targetSnapshotId)] else [])

/-- The signal was observed in another snapshot than the expected one. -/
def observesOther (expected : List (String × String)) (signal : NormalizedEvidenceSignal R) : Bool :=
  expected.any fun entry => (getItem signal.snapshotBySource entry.1).any (· ≠ entry.2)

/-- `_candidate_scope_failure`. -/
def candidateScopeFailures (expected : List (String × String)) (subject : String)
    (signals : List (NormalizedEvidenceSignal R)) : List FusionFailure :=
  if signals.any (observesOther expected) then
    [{ failureId := "fusion-candidate-scope-" ++ shortDigest digest 24 (.text subject)
       kind := .snapshotScopeMismatch
       detail := "candidate snapshot does not match evidence snapshot"
       subjectId := some subject
       evidenceRefs := evidenceWhere signals (observesOther expected) }]
  else []

/-- A subject has more conflicts than the request allows. -/
def conflictBoundFailures (subject : String) (conflicts : List Conflict) : List FusionFailure :=
  if request.maxConflictsPerSubject < conflicts.length then
    [{ failureId := "fusion-conflict-bound-" ++ shortDigest digest 20 (.text subject)
       kind := .boundedInputDiscarded
       detail := "max_conflicts_per_subject discarded material conflicts"
       subjectId := some subject }]
  else []

/-- `_bundle`. -/
def bundleOf (subject : String) (kind : FusionSubjectKind) (hypothesis : String)
    (signals : List (NormalizedEvidenceSignal R)) (missing unavailable : List String) :
    EvidenceBundle R :=
  { bundleId := "fusion_bundle_" ++ shortDigest digest 32
      (.bundle subject (signals.map (·.signalId)) missing unavailable)
    subjectId := subject
    subjectKind := kind
    hypothesis := hypothesis
    signals := signals
    missingEvidenceRefs := missing
    unavailableEvidenceRefs := unavailable }

/-- The evidence ids of the signals in one direction. -/
def signalRefs (direction : EvidenceDirection) (signals : List (NormalizedEvidenceSignal R)) :
    List String :=
  (signals.filter fun signal => signal.direction = direction).map (·.signalId)

section

variable (gathered : GatheredEvidence R)

/-- What both kinds of decision have in common; the state is the caller's. -/
def decisionRecord (candidate : FusionCandidate) (candidateId subject : String)
    (competitors : List String) (signals : List (NormalizedEvidenceSignal R))
    (conflicts : List Conflict) (missing : List String) (state : DecisionState) :
    FusionDecision R :=
  let score := scoreOf request.policy signals
  let context : DecisionContext :=
    { candidate := candidate
      competitors := competitors
      statuses := gathered.statuses
      missing := missing
      fusionContractVersion := request.fusionContractVersion }
  let fingerprint := digest (.decisionInput subject (sortedBy (·.signalId) signals) request.policy
    context)
  { decisionId := "fusion_decision_" ++ shortDigest digest 32 (.decision subject fingerprint
      request.policy.policyId request.policy.version request.policy.contentHash)
    candidateId := candidateId
    subjectId := subject
    score := score
    confidenceBand := confidenceBand request.policy score conflicts
    decisionState := state
    policy := request.policy
    supportingSignalRefs := signalRefs .supports signals
    contradictingSignalRefs := signalRefs .contradicts signals
    missingEvidenceRefs := missing
    unavailableEvidenceRefs := unavailableProducers gathered.statuses
    conflictRefs := conflicts.map (·.conflictId)
    inputEvidenceFingerprint := fingerprint }

/-- The contracts of a decision, but for what its kind adds. -/
def FusionDecision.wellFormed (decision : FusionDecision R) : Bool :=
  decision.score.wellFormed && decision.candidateId ≠ ""

/-- Nothing is accepted by itself: a complete decision is for review. -/
def relationshipState (policy : FusionPolicyReference R) (missing : List String) : DecisionState :=
  if missing ≠ [] || !policyValid policy then .incompleteRequiredEvidence else .reviewRequired

/-- The decision on a relationship, before its contract is checked. -/
def relationshipRecord (candidate : RelationshipCandidate)
    (signals : List (NormalizedEvidenceSignal R)) (conflicts : List Conflict)
    (missing : List String) : RelationshipDecision R :=
  { toFusionDecision := decisionRecord digest request gathered (.relationship candidate)
      candidate.candidateId candidate.subject (gathered.relationships.map (·.candidateId)) signals
      conflicts missing (relationshipState request.policy missing)
    fromTable := candidate.fromTable
    fromColumns := candidate.fromColumns
    toTable := candidate.toTable
    toColumns := candidate.toColumns
    proposedCardinality := candidate.proposedCardinality.getD "MANY_TO_ONE" }

/-- The contract of a `RelationshipDecision`. -/
def RelationshipDecision.wellFormed (decision : RelationshipDecision R) : Bool :=
  decision.toFusionDecision.wellFormed && decision.fromTable ≠ "" && decision.fromColumns ≠ [] &&
    decision.toTable ≠ "" && decision.toColumns ≠ [] && decision.proposedCardinality ≠ ""

/-- `_relationship_decision`. -/
def relationshipDecision (candidate : RelationshipCandidate)
    (signals : List (NormalizedEvidenceSignal R)) (conflicts : List Conflict)
    (missing : List String) : Except FusionExc (RelationshipDecision R) := do
  let decision := relationshipRecord digest request gathered candidate signals conflicts missing
  require decision.wellFormed "RelationshipDecision"
  pure decision

/-- The state of a mapping decision. -/
def mappingState (missing : List String) : DecisionState :=
  if missing = [] then .reviewRequired else .incompleteRequiredEvidence

variable (candidate : MappingCandidate)

/-- The decision on a mapping, before its contract is checked. -/
def mappingRecord (signals : List (NormalizedEvidenceSignal R)) (conflicts : List Conflict)
    (missing : List String) : SemanticMappingDecision R :=
  { toFusionDecision := decisionRecord digest request gathered (.mapping candidate)
      candidate.candidateId candidate.subject (gathered.mappings.map (·.candidateId)) signals
      conflicts missing (mappingState missing)
    sourceId := candidate.sourceId
    sourceColumnId := candidate.sourceColumnId
    targetSourceId := candidate.targetSourceId
    targetColumnId := candidate.targetColumnId }

/-- The contract of a `SemanticMappingDecision`. -/
def SemanticMappingDecision.wellFormed (decision : SemanticMappingDecision R) : Bool :=
  decision.toFusionDecision.wellFormed && decision.sourceId ≠ "" && decision.sourceColumnId ≠ "" &&
    decision.targetSourceId ≠ "" && decision.targetColumnId ≠ "" &&
    !(decision.sourceId = decision.targetSourceId &&
      decision.sourceColumnId = decision.targetColumnId)

/-- `_mapping_decision`. -/
def mappingDecision (signals : List (NormalizedEvidenceSignal R)) (conflicts : List Conflict)
    (missing : List String) : Except FusionExc (SemanticMappingDecision R) := do
  let decision := mappingRecord digest request gathered candidate signals conflicts missing
  require decision.wellFormed "SemanticMappingDecision"
  pure decision

/-- The part of the two loops that does not depend on the kind of the candidate. -/
def consider {D : Type} (request : EvidenceFusionRequest R) (gathered : GatheredEvidence R)
    (subject hypothesis : String) (kind : FusionSubjectKind) (expected : List (String × String))
    (conflictsOf : List (NormalizedEvidenceSignal R) → List Conflict)
    (decide : List (NormalizedEvidenceSignal R) → List Conflict → List String → Except FusionExc D) :
    Except FusionExc (Considered R D) := do
  let signals := subjectSignals request gathered.signals subject
  let conflicts := conflictsOf signals
  let kept := conflicts.take request.maxConflictsPerSubject
  let missing := subjectMissing request.policy gathered.statuses signals
  let decision ← decide signals kept missing
  pure
    { decision := decision
      conflicts := kept
      bundle := bundleOf digest subject kind hypothesis signals missing
        (subjectUnavailable gathered.statuses signals)
      failures := evidenceBoundFailures digest request gathered.signals subject ++
        candidateScopeFailures digest expected subject signals ++
        conflictBoundFailures digest request subject conflicts }

/-- One pass of the loop over the relationship candidates. -/
def considerRelationship (declared : List DeclaredInput) (gathered : GatheredEvidence R)
    (candidate : RelationshipCandidate) :
    Except FusionExc (Considered R (RelationshipDecision R)) :=
  consider digest request gathered candidate.subject
    (candidate.fromTable ++ " -> " ++ candidate.toTable) .relationship candidate.expectedSnapshots
    (relationshipConflicts digest request.policy gathered.relationships declared candidate)
    (relationshipDecision digest request gathered candidate)

/-- One pass of the loop over the mapping candidates. -/
def considerMapping : Except FusionExc (Considered R (SemanticMappingDecision R)) :=
  consider digest request gathered candidate.subject
    (candidate.sourceColumnId ++ " <-> " ++ candidate.targetColumnId) .mapping
    candidate.expectedSnapshots
    (mappingConflicts digest request.policy gathered.mappings candidate)
    (mappingDecision digest request gathered candidate)

/-- Failures after which the result is not ready for review. -/
def FusionFailureKind.blocksReview : FusionFailureKind → Bool
  | .inputIncomplete | .requiredProducerFailed | .evidenceIdCollision | .snapshotScopeMismatch
  | .staleEvidence | .unsupportedScoreSemantics | .boundedInputDiscarded => true
  | .subjectBindingError | .policyInvalid => false

/-- Failures after which the run has failed. -/
def FusionFailureKind.failsRun : FusionFailureKind → Bool
  | .policyInvalid | .evidenceIdCollision => true
  | _ => false

/-- A reference to missing evidence about the subject itself. -/
def subjectRef (ref : String) : Bool :=
  startsWith ref "subject:dimension:" || startsWith ref "subject:matcher_evidence"

/-- The completeness of a result, from its decisions, bundles and failures. -/
def verdict (decisions : List (FusionDecision R)) (bundles : List (EvidenceBundle R))
    (failures : List FusionFailure) : EvidenceFusionCompleteness :=
  let subjectIncomplete :=
    (decisions.any fun decision => decision.decisionState = .incompleteRequiredEvidence) ||
      bundles.any fun bundle => bundle.missingEvidenceRefs.any subjectRef
  if failures.any fun failure => failure.kind.failsRun then .failed
  else if subjectIncomplete || failures.any fun failure => failure.kind.blocksReview then
    .incompleteRequiredEvidence
  else .completeReviewReady

/-- The decision with the conflicts of its subject. -/
def FusionDecision.withConflicts (conflicts : List Conflict) (decision : FusionDecision R) :
    FusionDecision R :=
  { decision with
    conflictRefs := (conflicts.filter fun c => c.subjectId = decision.subjectId).map (·.conflictId) }

/-- The result of what was gathered and considered. -/
def assemble (relationships : List (Considered R (RelationshipDecision R)))
    (mappings : List (Considered R (SemanticMappingDecision R))) : EvidenceFusionResult R :=
  let conflicts := uniqueConflicts
    (relationships.flatMap (·.conflicts) ++ mappings.flatMap (·.conflicts))
  let relationshipDecisions := relationships.map fun item =>
    { item.decision with
      toFusionDecision := item.decision.toFusionDecision.withConflicts conflicts }
  let mappingDecisions := mappings.map fun item =>
    { item.decision with
      toFusionDecision := item.decision.toFusionDecision.withConflicts conflicts }
  let bundles := relationships.map (·.bundle) ++ mappings.map (·.bundle)
  let failures := gathered.failures ++ relationships.flatMap (·.failures) ++
    mappings.flatMap (·.failures)
  { request := request
    relationships := relationshipDecisions
    mappings := mappingDecisions
    conflicts := conflicts
    bundles := sortedBy (·.bundleId) bundles
    signals := sortedBy (·.signalId) gathered.signals
    forwardedRepairProposalRefs := gathered.repairRefs
    failures := failures
    completeness := verdict (relationshipDecisions.map (·.toFusionDecision) ++
      mappingDecisions.map (·.toFusionDecision)) bundles failures
    policy := request.policy }

end

/-- `fuse`, the whole service. -/
def fuse (inputs : EvidenceFusionInputs R) : Except FusionExc (EvidenceFusionResult R) := do
  let gathered ← gather digest request inputs
  let relationships ← gathered.relationships.mapM (considerRelationship digest request
    (inputs.declaredConstraints ++ inputs.catalogConstraints) gathered)
  let mappings ← gathered.mappings.mapM (considerMapping digest request gathered)
  pure (assemble request gathered relationships mappings)

end
end DirtyDataOlap.Fusion

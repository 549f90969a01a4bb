import DirtyDataOlap.FusionRules

/-!
# When a fusion run is ready for review

A run is `COMPLETE_REVIEW_READY` only where none of its steps recorded a failure that blocks it.
**So a review-ready run left out nothing and found nothing wrong** (`readyEvidence_of_ready`).  A
mapping decision looks at the missing evidence only, and under a policy without dimensions nothing
is missing (`review_readiness_sound_iff`).
-/
namespace DirtyDataOlap.Fusion

open List Function

open Canonical (DecisionState)

variable {R : Type}

/-- Nothing has failed that blocks a review. -/
def Unblocked (failures : List FusionFailure) : Prop :=
  ∀ failure ∈ failures, failure.kind = .subjectBindingError

theorem unblocked_append {a b : List FusionFailure} :
    Unblocked (a ++ b) ↔ Unblocked a ∧ Unblocked b := forall_mem_append

variable {policy : FusionPolicyReference R} {statuses : List ProducerEvidenceStatus}
  {family : EvidenceFamily} {signals : List (NormalizedEvidenceSignal R)} {α : Type}
  {missing : List String} {statuses' : List ProducerEvidenceStatus}

theorem unblocked_flatMap {xs : List α} {f : α → List FusionFailure} :
    Unblocked (xs.flatMap f) ↔ ∀ x ∈ xs, Unblocked (f x) := by
  simp only [Unblocked, mem_flatMap, forall_exists_index, and_imp]
  exact ⟨fun h x hx failure hf => h failure x hx hf, fun h failure x hx hf => h x hx failure hf⟩

theorem unblocked_if {c : Prop} [Decidable c] {failure : FusionFailure}
    (hkind : failure.kind ≠ .subjectBindingError) :
    Unblocked (if c then [failure] else []) ↔ ¬ c := by
  by_cases hc : c <;> simp [hc, Unblocked, hkind]

/-- Failures of some members of a list, that block. -/
theorem unblocked_map_filter {xs : List α} {p : α → Bool} {f : α → FusionFailure}
    (hkind : ∀ x, (f x).kind ≠ .subjectBindingError) :
    Unblocked ((xs.filter p).map f) ↔ ∀ x ∈ xs, p x = false := by
  simp only [Unblocked, forall_mem_map, mem_filter, and_imp]
  constructor
  · intro h x hx
    by_contra hp
    exact hkind x (h x hx (by simpa using hp))
  · intro h x hx hp
    rw [h x hx] at hp
    cases hp

theorem unblocked_policyFailures :
    Unblocked (policyFailures policy) ↔ policyValid policy = true := by
  unfold policyFailures
  cases policyValid policy <;> simp [Unblocked]

theorem unblocked_boundFailures {candidateId : α → String} {limit : Nat} {kind : String}
    {values : List α} :
    Unblocked (boundFailures candidateId limit kind values) ↔ values.length ≤ limit := by
  rw [boundFailures, unblocked_if (by simp), not_lt]

theorem selectCandidates_all {request : EvidenceFusionRequest R} {inputs : EvidenceFusionInputs R}
    (h : Unblocked (selectCandidates request inputs).failures) :
    (selectCandidates request inputs).relationships =
        sortedBy (·.candidateId) (allRelationships inputs) ∧
      (selectCandidates request inputs).mappings =
        sortedBy (·.candidateId) (allMappings inputs) := by
  unfold selectCandidates at h ⊢
  simp only at h ⊢
  split at h
  · exact absurd ((unblocked_append.1 h).2 _ mem_cons_self) (by decide)
  · rename_i hkeep
    rw [if_neg hkeep]
    obtain ⟨hr, hm⟩ := unblocked_append.1 h
    constructor
    · apply take_of_length_le
      rw [(sortedBy_perm _ _).length_eq]
      exact unblocked_boundFailures.1 hr
    · apply take_of_length_le
      rw [(sortedBy_perm _ _).length_eq]
      exact unblocked_boundFailures.1 hm

/-! ## Required evidence -/

variable (statuses family) in
/-- The family has a status, and all of them are complete. -/
def FamilyComplete : Prop :=
  (∃ status ∈ statuses, status.family = family) ∧
    ∀ status ∈ statuses, status.family = family → status.state = .complete

variable (policy statuses) in
/-- All required families are complete. -/
def RequiredComplete : Prop :=
  ∀ family ∈ requiredFamilies policy, FamilyComplete statuses family

theorem familyComplete_congr (h : ∀ status, status ∈ statuses ↔ status ∈ statuses') :
    FamilyComplete statuses family ↔ FamilyComplete statuses' family := by
  simp only [FamilyComplete, h]

theorem mem_familyStatuses {status : ProducerEvidenceStatus} :
    status ∈ familyStatuses statuses family ↔ status ∈ statuses ∧ status.family = family := by
  rw [familyStatuses, mem_filter, decide_eq_true_eq]

theorem familyComplete_iff : FamilyComplete statuses family ↔ familyStatuses statuses family ≠ [] ∧
      ∀ status ∈ familyStatuses statuses family, status.state = .complete := by
  have hexists : (∃ status ∈ statuses, status.family = family) ↔
      familyStatuses statuses family ≠ [] := by
    constructor
    · rintro ⟨status, hstatus, hfamily⟩
      exact ne_nil_of_mem (mem_familyStatuses.2 ⟨hstatus, hfamily⟩)
    · intro h
      obtain ⟨status, hstatus⟩ := exists_mem_of_ne_nil _ h
      exact ⟨status, mem_familyStatuses.1 hstatus⟩
  rw [FamilyComplete, hexists]
  simp only [mem_familyStatuses, and_imp]

theorem unblocked_familyFailures :
    Unblocked (familyFailures statuses family) ↔ FamilyComplete statuses family := by
  rw [familyComplete_iff]
  unfold familyFailures
  by_cases hnil : familyStatuses statuses family = []
  · simp [hnil, Unblocked]
  · rw [if_neg hnil, unblocked_if (by simp)]
    simp [hnil]

theorem missingProducers_eq_nil_iff :
    missingProducers statuses family = [] ↔ FamilyComplete statuses family := by
  rw [familyComplete_iff]
  unfold missingProducers
  by_cases hnil : familyStatuses statuses family = []
  · simp [hnil]
  · simp [hnil, filter_eq_nil_iff]

variable (policy statuses signals) in
/-- Nothing that the policy requires of a subject is missing. -/
structure HasRequiredEvidence : Prop where
  dimensions : ∀ dimension ∈ policy.scoringDimensions, dimension.required = true →
    ∃ signal ∈ signals, signal.counts = true ∧
      signal.scoreDimensionId = some dimension.dimensionId
  matcher : policy.subjectKind = some .mapping → ∃ signal ∈ signals, signal.counts = true ∧
    signal.family = .schemaMatching ∧ startsWith signal.rawMetricName "matcher_rank:" = true
  producers : RequiredComplete policy statuses

theorem missingDimensions_eq_nil_iff : missingDimensions policy signals = [] ↔
      ∀ dimension ∈ policy.scoringDimensions, dimension.required = true →
        ∃ signal ∈ signals, signal.counts = true ∧
          signal.scoreDimensionId = some dimension.dimensionId := by
  rw [missingDimensions, map_eq_nil_iff, filter_eq_nil_iff]
  simp

theorem missingMatcher_eq_nil_iff :
    missingMatcher policy signals = [] ↔ (policy.subjectKind = some .mapping →
      ∃ signal ∈ signals, signal.counts = true ∧ signal.family = .schemaMatching ∧
        startsWith signal.rawMetricName "matcher_rank:" = true) := by
  simp [missingMatcher, and_assoc]

/-- **Nothing is missing** exactly where the required evidence is there. -/
theorem subjectMissing_eq_nil_iff :
    subjectMissing policy statuses signals = [] ↔ HasRequiredEvidence policy statuses signals := by
  have hnil : ∀ xs : List String, sortedSet xs = [] ↔ xs = [] := by
    intro xs
    simp only [eq_nil_iff_forall_not_mem, mem_sortedSet]
  have hproducers : ((sortedBy EvidenceFamily.value (requiredFamilies policy).dedup).flatMap
      (missingProducers statuses)) = [] ↔ RequiredComplete policy statuses := by
    rw [flatMap_eq_nil_iff]
    simp only [mem_sortedBy, mem_dedup, missingProducers_eq_nil_iff, RequiredComplete]
  rw [subjectMissing, hnil, append_eq_nil_iff, append_eq_nil_iff,
    missingDimensions_eq_nil_iff, missingMatcher_eq_nil_iff, hproducers]
  exact ⟨fun h => ⟨h.1.1, h.1.2, h.2⟩, fun h => ⟨⟨h.dimensions, h.matcher⟩, h.producers⟩⟩

theorem HasRequiredEvidence.congr (hsame : ∀ status, status ∈ statuses ↔ status ∈ statuses')
    (h : HasRequiredEvidence policy statuses signals) :
    HasRequiredEvidence policy statuses' signals :=
  ⟨h.dimensions, h.matcher, fun family hfamily =>
    (familyComplete_congr hsame).1 (h.producers family hfamily)⟩

theorem relationshipState_eq_reviewRequired : relationshipState policy missing = .reviewRequired ↔
      missing = [] ∧ policyValid policy = true := by
  unfold relationshipState
  cases missing <;> cases policyValid policy <;> simp

theorem mappingState_eq_reviewRequired : mappingState missing = .reviewRequired ↔ missing = [] := by
  unfold mappingState
  cases missing <;> simp

theorem relationshipState_of_missing (h : missing ≠ []) :
    relationshipState policy missing = .incompleteRequiredEvidence := by
  unfold relationshipState
  simp [h]

/-! ## What a review-ready run stands on -/

theorem unblocked_scopeFailures {digest : FusionDigest R}
    (h : Unblocked (scopeFailures digest signals)) (subject : String) :
    mixedSnapshots (subjectEvidence signals subject) = false := by
  by_cases hmem : subject ∈ signals.map (·.subjectId)
  · exact (unblocked_map_filter (by simp)).1 h subject (mem_sortedSet.2 hmem)
  · have hnone : subjectEvidence signals subject = [] := by
      rw [subjectEvidence, filter_eq_nil_iff]
      intro signal hsignal hsubject
      exact hmem (mem_map.2 ⟨signal, hsignal, by simpa using hsubject⟩)
    rw [hnone]
    rfl

variable [ScoreArithmetic R]

/-- The conflicts found for all candidates, before any bound. -/
def foundConflicts (digest : FusionDigest R) (request : EvidenceFusionRequest R)
    (inputs : EvidenceFusionInputs R) (gathered : GatheredEvidence R) : List Conflict :=
  gathered.relationships.flatMap (fun candidate =>
    relationshipConflicts digest request.policy gathered.relationships (declaredInputs inputs)
      candidate (subjectEvidence gathered.signals candidate.subject)) ++
  gathered.mappings.flatMap fun candidate =>
    mappingConflicts digest request.policy gathered.mappings candidate
      (subjectEvidence gathered.signals candidate.subject)

def expectedBySubject (gathered : GatheredEvidence R) : List (String × List (String × String)) :=
  gathered.relationships.map (fun c => (c.subject, c.expectedSnapshots)) ++
    gathered.mappings.map fun c => (c.subject, c.expectedSnapshots)

/-- The run left out nothing and found nothing wrong.  `gathered` is the evidence of the run and
`items` are its items. -/
structure ReadyEvidence (digest : FusionDigest R) (request : EvidenceFusionRequest R)
    (inputs : EvidenceFusionInputs R) (items : List (FusionEvidenceItem R))
    (gathered : GatheredEvidence R) (result : EvidenceFusionResult R) : Prop where
  policy : policyValid request.policy = true
  relationships : (result.relationships.map (·.candidateId)).Perm
    ((allRelationships inputs).map (·.candidateId))
  mappings : (result.mappings.map (·.candidateId)).Perm
    ((allMappings inputs).map (·.candidateId))
  evidence : ∀ bundle ∈ result.bundles,
    bundle.signals = subjectEvidence gathered.signals bundle.subjectId
  conflicts : ∀ conflict ∈ foundConflicts digest request inputs gathered,
    conflict.conflictId ∈ result.conflicts.map (·.conflictId)
  families : RequiredComplete request.policy (allStatuses inputs)
  claims : ∀ a ∈ items, ∀ b ∈ items, live request a = true → live request b = true →
    a.evidenceId = b.evidenceId → payload a = payload b
  snapshots : ∀ subject, mixedSnapshots (subjectEvidence gathered.signals subject) = false
  expected : ∀ entry ∈ expectedBySubject gathered,
    ∀ signal ∈ subjectEvidence gathered.signals entry.1, observesOther entry.2 signal = false
  missing : ∀ decision ∈ result.decisions, decision.missingEvidenceRefs = []

section
variable {digest : FusionDigest R} {request : EvidenceFusionRequest R}
  {inputs : EvidenceFusionInputs R}

variable {gathered : GatheredEvidence R} {items : List (FusionEvidenceItem R)}
  {decision : FusionDecision R} {policy : FusionPolicyReference R}
  {signals : List (NormalizedEvidenceSignal R)}

variable (h : Unblocked (claimFailures digest request items))

include h in
theorem stands_of_unblocked
    {item : FusionEvidenceItem R} (hitem : item ∈ readItems request items) :
    stands (·.evidenceId) payload (readItems request items) item = true := by
  by_contra hstands
  have hread := unblocked_flatMap.1 h item hitem
  rw [if_neg hstands] at hread
  have hkind : (collisionFailure digest item).kind = .subjectBindingError :=
    hread _ mem_cons_self
  cases hkind

include h in
theorem payload_eq_of_unblocked
    {a b : FusionEvidenceItem R} (ha : a ∈ items) (hb : b ∈ items) (hla : live request a = true)
    (hlb : live request b = true) (hid : a.evidenceId = b.evidenceId) : payload a = payload b := by
  have hstandsA := stands_of_unblocked h (mem_readItems.2 ⟨ha, hla⟩)
  have hstandsB := stands_of_unblocked h (mem_readItems.2 ⟨hb, hlb⟩)
  rw [stands, decide_eq_true_eq] at hstandsA hstandsB
  rw [hid, hstandsB] at hstandsA
  exact (Option.some.inj hstandsA).symm

variable (request signals) in
/-- What the absence of blocking failures says about one candidate. -/
structure CandidateUnblocked (subject : String) (expected : List (String × String))
    (conflictsOf : List (NormalizedEvidenceSignal R) → List Conflict) : Prop where
  evidence : subjectSignals request signals subject = subjectEvidence signals subject
  expected : ∀ signal ∈ subjectEvidence signals subject, observesOther expected signal = false
  conflicts : (conflictsOf (subjectEvidence signals subject)).take request.maxConflictsPerSubject =
    conflictsOf (subjectEvidence signals subject)

omit [ScoreArithmetic R] in
theorem candidateUnblocked {D : Type} {subject hypothesis : String} {kind : FusionSubjectKind}
    {expected : List (String × String)}
    {conflictsOf : List (NormalizedEvidenceSignal R) → List Conflict}
    {record : List (NormalizedEvidenceSignal R) → List Conflict → List String → D}
    (h : Unblocked (consideredOf digest request gathered subject hypothesis kind expected conflictsOf
      record).failures) :
    CandidateUnblocked request gathered.signals subject expected conflictsOf := by
  obtain ⟨hrest, hconflicts⟩ := unblocked_append.1 h
  obtain ⟨hbound, hexpected⟩ := unblocked_append.1 hrest
  rw [evidenceBoundFailures, unblocked_if (by simp), not_lt] at hbound
  rw [conflictBoundFailures, unblocked_if (by simp), not_lt] at hconflicts
  rw [candidateScopeFailures, unblocked_if (by simp), Bool.not_eq_true, any_eq_false]
    at hexpected
  have hevidence : subjectSignals request gathered.signals subject =
      subjectEvidence gathered.signals subject := take_of_length_le hbound
  rw [hevidence] at hexpected hconflicts
  exact ⟨hevidence, fun signal hs => by simpa using hexpected signal hs,
    take_of_length_le hconflicts⟩

theorem conflictId_mem_uniqueConflicts {values : List Conflict} {conflict : Conflict}
    (h : conflict ∈ values) :
    conflict.conflictId ∈ (uniqueConflicts values).map (·.conflictId) := by
  have hkey : conflict.conflictId ∈
      (dictOf (values.map fun item => (item.conflictId, item))).map Prod.fst := by
    rw [key_mem_dictOf, map_map]
    exact mem_map.2 ⟨conflict, h, rfl⟩
  obtain ⟨entry, hentry, hid⟩ := mem_map.1 hkey
  obtain ⟨item, _, rfl⟩ := mem_map.1 (mem_of_mem_dictOf hentry)
  rw [uniqueConflicts, mem_map]
  exact ⟨item, mem_sortedBy.2 (mem_map.2 ⟨_, hentry, rfl⟩), hid⟩

/-- The decisions of a run, one for each candidate, but for the references to conflicts. -/
theorem mem_decisions (h : decision ∈ (resultOf digest request inputs gathered).decisions) :
    (∃ candidate ∈ gathered.relationships, ∃ conflicts, decision =
      (consideredRelationship digest request (declaredInputs inputs) gathered
        candidate).decision.toFusionDecision.withConflicts conflicts) ∨
    ∃ candidate ∈ gathered.mappings, ∃ conflicts, decision =
      (consideredMapping digest request gathered
        candidate).decision.toFusionDecision.withConflicts conflicts := by
  simp only [EvidenceFusionResult.decisions, resultOf, assemble, map_map, mem_append,
    mem_map, comp_apply] at h
  rcases h with ⟨candidate, hmem, rfl⟩ | ⟨candidate, hmem, rfl⟩
  · exact .inl ⟨candidate, hmem, _, rfl⟩
  · exact .inr ⟨candidate, hmem, _, rfl⟩

/-- What the verdict of a run says about its failures and its decisions. -/
theorem unblocked_of_ready
    (h : (resultOf digest request inputs gathered).completeness = .completeReviewReady) :
    Unblocked gathered.failures ∧ (∀ candidate ∈ gathered.relationships, Unblocked
      (consideredRelationship digest request (declaredInputs inputs) gathered candidate).failures) ∧
    (∀ candidate ∈ gathered.mappings,
      Unblocked (consideredMapping digest request gathered candidate).failures) ∧
    ∀ decision ∈ (resultOf digest request inputs gathered).decisions,
      decision.decisionState ≠ .incompleteRequiredEvidence := by
  obtain ⟨hfailures, hdecisions, _⟩ := verdict_ready_iff.1 h
  obtain ⟨hrest, hmappings⟩ := unblocked_append.1 hfailures
  obtain ⟨hgathered, hrelationships⟩ := unblocked_append.1 hrest
  rw [unblocked_flatMap, forall_mem_map] at hmappings hrelationships
  exact ⟨hgathered, hrelationships, hmappings, hdecisions⟩

theorem missing_of_not_incomplete
    (h : decision ∈ (resultOf digest request inputs gathered).decisions)
    (hstate : decision.decisionState ≠ .incompleteRequiredEvidence) :
    decision.missingEvidenceRefs = [] := by
  rcases mem_decisions h with ⟨candidate, _, conflicts, rfl⟩ | ⟨candidate, _, conflicts, rfl⟩
  · by_contra hmissing
    apply hstate
    exact relationshipState_of_missing hmissing
  · by_contra hmissing
    apply hstate
    exact if_neg hmissing

variable (digest request inputs gathered) in
theorem candidateIds_resultOf :
    (resultOf digest request inputs gathered).relationships.map (·.candidateId) =
        gathered.relationships.map (·.candidateId) ∧
      (resultOf digest request inputs gathered).mappings.map (·.candidateId) =
        gathered.mappings.map (·.candidateId) := by
  simp only [resultOf, assemble, map_map]
  exact ⟨rfl, rfl⟩

/-- A bundle of a run holds the signals that its subject was considered with. -/
theorem bundle_signals {bundle : EvidenceBundle R}
    (h : bundle ∈ (resultOf digest request inputs gathered).bundles) :
    (∃ candidate ∈ gathered.relationships, bundle.subjectId = candidate.subject ∧
      bundle.signals = subjectSignals request gathered.signals candidate.subject) ∨
    ∃ candidate ∈ gathered.mappings, bundle.subjectId = candidate.subject ∧
      bundle.signals = subjectSignals request gathered.signals candidate.subject := by
  simp only [resultOf, assemble, mem_sortedBy, map_map, mem_append, mem_map,
    comp_apply] at h
  rcases h with ⟨candidate, hmem, rfl⟩ | ⟨candidate, hmem, rfl⟩
  · exact .inl ⟨candidate, hmem, rfl, rfl⟩
  · exact .inr ⟨candidate, hmem, rfl, rfl⟩

/-- **A review-ready run left out nothing and found nothing wrong.** -/
theorem readyEvidence_of_ready {primary auxiliary : BoundItems R}
    (hdigests : DistinctDigests digest (allStatuses inputs))
    (hready : (resultOf digest request inputs
      (gatheredOf digest request inputs primary auxiliary)).completeness = .completeReviewReady) :
    ReadyEvidence digest request inputs (primary.1 ++ auxiliary.1)
      (gatheredOf digest request inputs primary auxiliary)
      (resultOf digest request inputs (gatheredOf digest request inputs primary auxiliary)) := by
  obtain ⟨hgathered, hrelationships, hmappings, hstates⟩ := unblocked_of_ready hready
  simp only [gatheredOf, unblocked_append] at hgathered
  obtain ⟨⟨⟨⟨⟨⟨⟨⟨⟨_, hpolicy⟩, hselection⟩, _⟩, _⟩, _⟩, hproducers⟩, _⟩, hclaims⟩, hscope⟩ := hgathered
  obtain ⟨hallRelationships, hallMappings⟩ := selectCandidates_all hselection
  obtain ⟨hcandidates, hcandidateMappings⟩ :=
    candidateIds_resultOf digest request inputs
      (gatheredOf digest request inputs primary auxiliary)
  have hunblocked : ∀ candidate ∈ (gatheredOf digest request inputs primary auxiliary).relationships,
      CandidateUnblocked _ _ _ _ _ := fun candidate h => candidateUnblocked (hrelationships _ h)
  have hunblocked' : ∀ candidate ∈ (gatheredOf digest request inputs primary auxiliary).mappings,
      CandidateUnblocked _ _ _ _ _ := fun candidate h => candidateUnblocked (hmappings _ h)
  constructor
  case policy => exact unblocked_policyFailures.1 hpolicy
  case relationships =>
    rw [hcandidates]
    show ((selectCandidates request inputs).relationships.map _).Perm _
    rw [hallRelationships]
    exact (sortedBy_perm _ _).map _
  case mappings =>
    rw [hcandidateMappings]
    show ((selectCandidates request inputs).mappings.map _).Perm _
    rw [hallMappings]
    exact (sortedBy_perm _ _).map _
  case evidence =>
    intro bundle hbundle
    rcases bundle_signals hbundle with ⟨candidate, hmem, hsubject, hsignals⟩ |
      ⟨candidate, hmem, hsubject, hsignals⟩
    · rw [hsignals, hsubject, (hunblocked candidate hmem).evidence]
    · rw [hsignals, hsubject, (hunblocked' candidate hmem).evidence]
  case conflicts =>
    intro conflict hconflict
    apply conflictId_mem_uniqueConflicts
    rw [mem_append, mem_flatMap, mem_flatMap]
    rcases mem_append.1 hconflict with h | h
    · obtain ⟨candidate, hmem, hfound⟩ := mem_flatMap.1 h
      refine .inl ⟨_, mem_map.2 ⟨candidate, hmem, rfl⟩, ?_⟩
      have hkept := (hunblocked candidate hmem).conflicts
      rw [← (hunblocked candidate hmem).evidence] at hkept hfound
      rw [← hkept] at hfound
      exact hfound
    · obtain ⟨candidate, hmem, hfound⟩ := mem_flatMap.1 h
      refine .inr ⟨_, mem_map.2 ⟨candidate, hmem, rfl⟩, ?_⟩
      have hkept := (hunblocked' candidate hmem).conflicts
      rw [← (hunblocked' candidate hmem).evidence] at hkept hfound
      rw [← hkept] at hfound
      exact hfound
  case families =>
    intro family hfamily
    have h := unblocked_flatMap.1 (unblocked_append.1 hproducers).2 family hfamily
    exact (familyComplete_congr fun _ => mem_uniqueStatuses hdigests).1
      (unblocked_familyFailures.1 h)
  case claims => exact fun a ha b hb hla hlb hid => payload_eq_of_unblocked hclaims ha hb hla hlb hid
  case snapshots => exact unblocked_scopeFailures hscope
  case expected =>
    intro entry hentry signal hsignal
    rcases mem_append.1 hentry with h | h
    · obtain ⟨candidate, hmem, rfl⟩ := mem_map.1 h
      exact (hunblocked candidate hmem).expected signal hsignal
    · obtain ⟨candidate, hmem, rfl⟩ := mem_map.1 h
      exact (hunblocked' candidate hmem).expected signal hsignal
  case missing =>
    exact fun decision hmem => missing_of_not_incomplete hmem (hstates decision hmem)

/-! ## When readiness is sound -/

variable (digest request inputs) in
/-- A review-ready run stands on complete evidence, and so does every decision that is up for review. -/
structure SoundReadiness (result : EvidenceFusionResult R) : Prop where
  ready : result.completeness = .completeReviewReady → ∃ items gathered,
    runItems digest request inputs = .ok items ∧ gather digest request inputs = .ok gathered ∧
      ReadyEvidence digest request inputs items gathered result
  reviewable : ∀ decision ∈ result.decisions, decision.decisionState = .reviewRequired →
    policyValid decision.policy = true ∧ decision.missingEvidenceRefs = [] ∧
      ∃ bundle ∈ result.bundles, bundle.subjectId = decision.subjectId ∧
        HasRequiredEvidence request.policy (allStatuses inputs) bundle.signals

variable (request inputs) in
/-- No mapping candidate passes as complete under an invalid policy. -/
def MappingsGuarded : Prop :=
  policyValid request.policy = true ∨ request.policy.subjectKind = some .mapping ∨
    (selectCandidates request inputs).mappings = [] ∨
    ¬ RequiredComplete request.policy (allStatuses inputs)

omit [ScoreArithmetic R] in
/-- A policy that its contract accepts is invalid only for want of dimensions. -/
theorem scoringDimensions_of_invalid (haccepted : policy.accepted = true)
    (h : policyValid policy = false) : policy.scoringDimensions = [] := by
  simp only [FusionPolicyReference.accepted, Bool.and_eq_true, decide_eq_true_eq,
    Bool.not_eq_true', Bool.or_eq_false_iff, all_eq_true] at haccepted
  obtain ⟨⟨⟨⟨hstatus, ⟨⟨⟨⟨hautomation, haccept⟩, hreject⟩, _⟩, _⟩, _⟩, _⟩, _⟩, hrules⟩ := haccepted
  simp only [policyValid, hstatus, hautomation, haccept, hreject, decide_true, Bool.not_false,
    Bool.and_self, Bool.true_and, Bool.and_eq_false_iff, Bool.not_eq_false',
    List.isEmpty_iff] at h
  rcases h with h | hnorules
  · exact h
  · rw [eq_nil_iff_forall_not_mem]
    intro dimension hdimension
    have hrule := hrules dimension hdimension
    rw [FusionPolicyReference.rule, hnorules] at hrule
    exact absurd hrule (by simp [getItem])

/-- Without dimensions nothing is scored. -/
theorem signalOf_scoreBearing_of_nil (h : policy.scoringDimensions = [])
    (item : FusionEvidenceItem R) : (signalOf digest policy item).scoreBearing = false := by
  have hdimension : dimensionOf policy item = none := by
    rw [dimensionOf, h]
    rfl
  show (normalizedOf digest policy item).isSome = false
  unfold normalizedOf normalizeItem
  rw [hdimension]
  split <;> rfl

theorem not_hasRequiredEvidence_of_nil {statuses : List ProducerEvidenceStatus}
    (hsignals : ∀ signal ∈ signals, signal ∈ items.map (signalOf digest request.policy))
    (hdimensions : request.policy.scoringDimensions = [])
    (hkind : request.policy.subjectKind = some .mapping) :
    ¬ HasRequiredEvidence request.policy statuses signals := by
  intro h
  obtain ⟨signal, hsignal, hcounts, _⟩ := h.matcher hkind
  obtain ⟨item, _, rfl⟩ := mem_map.1 (hsignals signal hsignal)
  have hscore : (signalOf digest request.policy item).scoreBearing = true :=
    (Bool.and_eq_true_iff.1 hcounts).2
  rw [signalOf_scoreBearing_of_nil hdimensions] at hscore
  cases hscore

omit [ScoreArithmetic R] in
theorem mem_subjectSignals {subject : String} {signal : NormalizedEvidenceSignal R}
    (h : signal ∈ subjectSignals request signals subject) : signal ∈ signals :=
  (mem_filter.1 (mem_of_mem_take h)).1

theorem mappingDecision_mem (digest : FusionDigest R) (request : EvidenceFusionRequest R)
    (inputs : EvidenceFusionInputs R) {candidate : MappingCandidate}
    (h : candidate ∈ gathered.mappings) : ∃ conflicts,
      (consideredMapping digest request gathered candidate).decision.toFusionDecision.withConflicts
        conflicts ∈ (resultOf digest request inputs gathered).decisions := by
  simp only [EvidenceFusionResult.decisions, resultOf, assemble, map_map, mem_append,
    mem_map, comp_apply]
  exact ⟨_, .inr ⟨candidate, h, rfl⟩⟩

theorem bundle_mem : (∀ candidate ∈ gathered.relationships,
      (consideredRelationship digest request (declaredInputs inputs) gathered candidate).bundle ∈
        (resultOf digest request inputs gathered).bundles) ∧
    ∀ candidate ∈ gathered.mappings, (consideredMapping digest request gathered candidate).bundle ∈
      (resultOf digest request inputs gathered).bundles := by
  simp only [resultOf, assemble, mem_sortedBy, map_map, mem_append, mem_map,
    comp_apply]
  exact ⟨fun candidate h => .inl ⟨candidate, h, rfl⟩, fun candidate h => .inr ⟨candidate, h, rfl⟩⟩

/-- A decision that misses nothing has its required evidence in a bundle of the result. -/
theorem bundle_of_complete {primary auxiliary : BoundItems R}
    (hdigests : DistinctDigests digest (allStatuses inputs))
    (h : decision ∈ (resultOf digest request inputs
      (gatheredOf digest request inputs primary auxiliary)).decisions)
    (hmissing : decision.missingEvidenceRefs = []) : ∃ bundle ∈ (resultOf digest request inputs
        (gatheredOf digest request inputs primary auxiliary)).bundles,
      bundle.subjectId = decision.subjectId ∧
        HasRequiredEvidence request.policy (allStatuses inputs) bundle.signals := by
  have hsame : ∀ status, status ∈ uniqueStatuses digest (allStatuses inputs) ↔
      status ∈ allStatuses inputs := fun _ => mem_uniqueStatuses hdigests
  rcases mem_decisions h with ⟨candidate, hmem, conflicts, rfl⟩ | ⟨candidate, hmem, conflicts, rfl⟩
  · exact ⟨_, bundle_mem.1 candidate hmem, rfl, (subjectMissing_eq_nil_iff.1 hmissing).congr hsame⟩
  · exact ⟨_, bundle_mem.2 candidate hmem, rfl, (subjectMissing_eq_nil_iff.1 hmissing).congr hsame⟩

end

/-- **When review-readiness is sound.** The verdict always is; a decision that is up for review is,
unless it is about a mapping, the policy has no scoring dimension and is not about mappings, and
every required producer is complete. -/
theorem review_readiness_sound_iff {digest : FusionDigest R} {request : EvidenceFusionRequest R}
    {inputs : EvidenceFusionInputs R} {result : EvidenceFusionResult R}
    (haccepted : request.accepted = true) (hdigests : DistinctDigests digest (allStatuses inputs))
    (h : fuse digest request inputs = .ok result) :
    SoundReadiness digest request inputs result ↔ MappingsGuarded request inputs := by
  obtain ⟨primary, auxiliary, hgathers, hdecisions, rfl⟩ := fuse_eq_ok.1 h
  have hpolicy : request.policy.accepted = true := (Bool.and_eq_true_iff.1 haccepted).2
  have hsame : ∀ status, status ∈ uniqueStatuses digest (allStatuses inputs) ↔
      status ∈ allStatuses inputs := fun _ => mem_uniqueStatuses hdigests
  constructor
  · intro hsound
    by_contra hguarded
    rw [MappingsGuarded, not_or, not_or, not_or, not_not, Bool.not_eq_true] at hguarded
    obtain ⟨hinvalid, hkind, hmappings, hcomplete⟩ := hguarded
    obtain ⟨candidate, hcandidate⟩ := exists_mem_of_ne_nil _ hmappings
    have hmember : candidate ∈ (gatheredOf digest request inputs primary auxiliary).mappings :=
      hcandidate
    obtain ⟨conflicts, hdecision⟩ := mappingDecision_mem digest request inputs hmember
    have hdimensions := scoringDimensions_of_invalid hpolicy hinvalid
    have hevidence : ∀ signals,
        HasRequiredEvidence request.policy (uniqueStatuses digest (allStatuses inputs)) signals :=
      fun signals => ⟨by simp [hdimensions], fun h => absurd h hkind, fun family hfamily =>
        (familyComplete_congr hsame).2 (hcomplete family hfamily)⟩
    have hvalid : policyValid request.policy = true := (hsound.reviewable _ hdecision
      (mappingState_eq_reviewRequired.2 (subjectMissing_eq_nil_iff.2 (hevidence _)))).1
    rw [hinvalid] at hvalid
    cases hvalid
  · intro hguarded
    constructor
    case ready =>
      intro hready
      exact ⟨_, _, runItems_of_gathers hgathers, gather_eq_ok.2 ⟨_, _, hgathers, rfl⟩,
        readyEvidence_of_ready hdigests hready⟩
    case reviewable =>
      intro decision hmem hstate
      have hmissing : decision.missingEvidenceRefs = [] :=
        missing_of_not_incomplete hmem (by rw [hstate]; decide)
      refine ⟨?_, hmissing, bundle_of_complete hdigests hmem hmissing⟩
      rcases mem_decisions hmem with ⟨candidate, _, conflicts, rfl⟩ |
        ⟨candidate, hcandidate, conflicts, rfl⟩
      · exact (relationshipState_eq_reviewRequired.1 hstate).2
      · -- a mapping decision does not look at the policy
        have hevidence := subjectMissing_eq_nil_iff.1 hmissing
        rcases hguarded with hvalid | hkind | hnone | hincomplete
        · exact hvalid
        · by_contra hinvalid
          have hsignals : ∀ signal ∈ subjectSignals request
              (gatheredOf digest request inputs primary auxiliary).signals candidate.subject,
              signal ∈ (standingItems request (primary.1 ++ auxiliary.1)).map
                (signalOf digest request.policy) := fun _ h => mem_subjectSignals h
          exact not_hasRequiredEvidence_of_nil hsignals
            (scoringDimensions_of_invalid hpolicy (Bool.eq_false_iff.2 hinvalid)) hkind hevidence
        · rw [show (gatheredOf digest request inputs primary auxiliary).mappings = [] from hnone]
            at hcandidate
          cases hcandidate
        · exact absurd (fun family hfamily =>
            (familyComplete_congr hsame).1 (hevidence.producers family hfamily)) hincomplete

/-! ### A mapping of two customer columns -/

def plainDigest : FusionDigest ℚ
  | .text value => value
  | .status status => status.resultId
  | .signal evidenceId _ _ => evidenceId
  | _ => ""

def customerMapping : MappingCandidate where
  candidateId := "m1"
  sourceId := "crm"
  sourceColumnId := "cust_code"
  targetSourceId := "billing"
  targetColumnId := "client_no"

/-- Complete results of the families that every policy requires by default. -/
def completeStatuses : List ProducerEvidenceStatus :=
  [{ producerId := "profiling", family := .profile, state := .complete, resultId := "p1" },
    { producerId := "quality", family := .quality, state := .complete, resultId := "q1" },
    { producerId := "dependency", family := .dependency, state := .complete, resultId := "d1" }]

def typePolicy : FusionPolicyReference ℚ where
  policyId := "mapping-types"
  version := "1.0"
  status := .uncalibrated
  contentHash := "c0ffee"
  normalizationRules := [⟨"bounded-01", ["type_compatibility"], "identity_v1", "1"⟩]
  scoringDimensions :=
    [{ dimensionId := "type_compatibility", metricNames := ["type_compatibility"], weight := 1
       normalizationRuleId := "bounded-01", dependencyGroup := "type_compatibility"
       required := true }]

/-- A policy with no dimension and no rule. -/
def emptyPolicy : FusionPolicyReference ℚ where
  policyId := "mapping-empty"
  version := "1.0"
  status := .uncalibrated
  contentHash := "decade"

def mappingRequest (policy : FusionPolicyReference ℚ) : EvidenceFusionRequest ℚ where
  requestId := "fusion-1"
  executionContextId := "context-1"
  mappingCandidateIds := ["m1"]
  policy := policy

def typeEvidence : FusionEvidenceItem ℚ where
  evidenceId := "t1"
  subjectId := "m1"
  producerId := "schema-matching"
  family := .schemaMatching
  metricName := "type_compatibility"
  metricValue := some (3 / 4)
  metricSemantics := "type compatibility"
  scopeId := "crm:billing"
  correlationGroup := "t1"
  scoreDimensionId := some "type_compatibility"

def mappingInputs : EvidenceFusionInputs ℚ where
  producerStatuses := completeStatuses
  evidenceItems := [typeEvidence]
  mappingCandidates := [customerMapping]

theorem review_readiness_sound_types :
    ∃ result, fuse plainDigest (mappingRequest typePolicy) mappingInputs = .ok result ∧
      result.completeness = .completeReviewReady ∧
      SoundReadiness plainDigest (mappingRequest typePolicy) mappingInputs result := by
  have hrun : (fuse plainDigest (mappingRequest typePolicy) mappingInputs).toOption.map
      (·.completeness) = some .completeReviewReady := by
    decide +kernel
  obtain ⟨result, h, hready⟩ := exists_ok_of_map hrun
  refine ⟨result, h, hready, (review_readiness_sound_iff (by decide +kernel) ?_ h).2
    (.inl (by decide +kernel))⟩
  unfold DistinctDigests
  decide +kernel

/-- A mapping decision is up for review under a policy without dimensions. -/
theorem mapping_reviewed_under_empty_policy : (mappingRequest emptyPolicy).accepted = true ∧
    ∃ result, fuse plainDigest (mappingRequest emptyPolicy) mappingInputs = .ok result ∧
      ¬ SoundReadiness plainDigest (mappingRequest emptyPolicy) mappingInputs result := by
  refine ⟨by decide +kernel, ?_⟩
  have hrun : (fuse plainDigest (mappingRequest emptyPolicy) mappingInputs).toOption.map
      (fun result => result.decisions.map fun d => (d.decisionState, policyValid d.policy)) =
        some [(.reviewRequired, false)] := by
    decide +kernel
  obtain ⟨result, h, hdecisions⟩ := exists_ok_of_map hrun
  refine ⟨result, h, fun hsound => ?_⟩
  have hmem : (DecisionState.reviewRequired, false) ∈
      result.decisions.map fun d => (d.decisionState, policyValid d.policy) := by
    rw [hdecisions]
    exact mem_cons_self
  obtain ⟨decision, hdecision, heq⟩ := mem_map.1 hmem
  obtain ⟨hstate, hinvalid⟩ := Prod.mk.inj heq
  rw [(hsound.reviewable decision hdecision hstate).1] at hinvalid
  cases hinvalid

end DirtyDataOlap.Fusion

import DirtyDataOlap.FusionRules

/-!
# Which inputs fusion can read

Fusion copies ids and texts of the producers' results into evidence items, whose contract refuses an
empty text; the contracts of the producers allow one.  `gathers_iff`: fusion reads its inputs
exactly when no copied text is empty (`Named`) and every signal meets its contract.
-/
namespace DirtyDataOlap.Fusion

open List FusionEvidenceItem Except Prod

variable {R : Type}

/-! ## The items, whether accepted or not -/

/-- The items of one learned result; unbound ones are reported. -/
def learnedItems (digest : FusionDigest R) (subjects : List (String × String))
    (result : AppliedMLResult R) : BoundItems R :=
  (result.learnedEvidence.filterMap fun item =>
      (getItem subjects item.candidateId).map fun subject => learnedItem subject item,
    (result.learnedEvidence.filter fun item => (getItem subjects item.candidateId).isNone).map
      fun item =>
        { failureId := "fusion-ml-binding-" ++ shortDigest digest 20 (.text item.candidateId)
          kind := .subjectBindingError
          detail := "learned evidence candidate_id is not in selected candidates"
          evidenceRefs := [item.evidenceId] })

/-- The items of one semantic answer, bound to its subjects. -/
def hypothesisItems (digest : FusionDigest R) (subjects : List (String × String))
    (bindings : List FusionSubjectBinding) (result : SemanticInput) : BoundItems R :=
  match result.llmEvidence with
  | none => ([], [])
  | some evidence =>
    match bindEvidence digest subjects bindings evidence with
    | .error failure => ([], [failure])
    | .ok subject => (evidence.hypotheses.map (hypothesisItem evidence subject), [])

variable {subjects : List (String × String)}

theorem mlItems_eq_ok {digest : FusionDigest R} {result : AppliedMLResult R} {items : BoundItems R} :
    mlItems digest subjects result = .ok items ↔
      (∀ item ∈ (learnedItems digest subjects result).1, item.wellFormed = true) ∧
        items = learnedItems digest subjects result := by
  simp only [mlItems, bind_eq_ok, checkItems_eq_ok, pure, Except.pure, Except.ok.injEq, learnedItems]
  constructor
  · rintro ⟨_, ⟨hw, rfl⟩, rfl⟩
    exact ⟨hw, rfl⟩
  · rintro ⟨hw, rfl⟩
    exact ⟨_, ⟨hw, rfl⟩, rfl⟩

theorem semanticResultItems_eq_ok {digest : FusionDigest R} {bindings : List FusionSubjectBinding}
    {result : SemanticInput} {items : BoundItems R} :
    semanticResultItems digest subjects bindings result = .ok items ↔
      (∀ item ∈ (hypothesisItems digest subjects bindings result).1, item.wellFormed = true) ∧
        items = hypothesisItems digest subjects bindings result := by
  have hnone : ∀ built : BoundItems R, built.1 = [] →
      (Except.ok built = (.ok items : Except FusionExc _) ↔
        (∀ item ∈ built.1, item.wellFormed = true) ∧ items = built) := by
    intro built hempty
    rw [Except.ok.injEq, hempty]
    exact ⟨fun h => ⟨fun item hitem => absurd hitem not_mem_nil, h.symm⟩, fun h => h.2.symm⟩
  cases hevidence : result.llmEvidence with
  | none =>
    simp only [semanticResultItems, hypothesisItems, hevidence]
    exact hnone _ rfl
  | some evidence =>
    cases hbind : bindEvidence digest subjects bindings evidence with
    | error failure =>
      simp only [semanticResultItems, hypothesisItems, hevidence, hbind]
      exact hnone _ rfl
    | ok subject =>
      simp only [semanticResultItems, hypothesisItems, hevidence, hbind, bind_eq_ok, checkItems_eq_ok,
        pure, Except.pure, Except.ok.injEq]
      constructor
      · rintro ⟨_, ⟨hw, rfl⟩, rfl⟩
        exact ⟨hw, rfl⟩
      · rintro ⟨hw, rfl⟩
        exact ⟨_, ⟨hw, rfl⟩, rfl⟩

section
variable [ScoreArithmetic R] (digest : FusionDigest R) (request : EvidenceFusionRequest R)
  (inputs : EvidenceFusionInputs R)

/-- The subjects of the selected candidates. -/
def selectedSubjects : List (String × String) :=
  candidateSubjects (selectCandidates request inputs).relationships
    (selectCandidates request inputs).mappings

/-- The endpoints of the selected subjects. -/
def selectedTopologies : List (String × List Endpoint) :=
  candidateTopologies (selectCandidates request inputs).relationships
    (selectCandidates request inputs).mappings

/-- The selected candidates, as context. -/
def containerItems : List (FusionEvidenceItem R) :=
  (selectCandidates request inputs).relationships.map relationshipContainer ++
    (selectCandidates request inputs).mappings.map mappingContainer

/-- The items of the observing producers. -/
def observedItems : List (FusionEvidenceItem R) :=
  inputs.profileResults.flatMap (profileItems digest (selectedTopologies request inputs)) ++
    inputs.qualityResults.flatMap (qualityItems digest (selectedTopologies request inputs))

/-- The items of everything but the auxiliary results. -/
def builtPrimary : BoundItems R :=
  let items := inputs.evidenceItems ++ derivedItems digest request.policy inputs
  (items.filterMap (bindItem (selectedSubjects request inputs)) ++ containerItems request inputs ++
      observedItems digest request inputs,
    bindFailures digest (selectedSubjects request inputs) items)

/-- The auxiliary items as they are built, before any check. -/
def builtAuxiliary : BoundItems R :=
  let learned := inputs.appliedMlResults.map (learnedItems digest (selectedSubjects request inputs))
  let semantic := inputs.semanticResults.map
    (hypothesisItems digest (selectedSubjects request inputs) inputs.subjectBindings)
  (learned.flatMap fst ++ semantic.flatMap fst,
    learned.flatMap snd ++ semantic.flatMap snd)

/-- All items as they are built, before any check. -/
def builtItems : List (FusionEvidenceItem R) :=
  (builtPrimary digest request inputs).1 ++ (builtAuxiliary digest request inputs).1

variable {digest request inputs}

theorem primaryItems_eq_ok {items : BoundItems R} :
    primaryItems digest request inputs (selectCandidates request inputs) = .ok items ↔
      ((∀ item ∈ derivedItems digest request.policy inputs, item.wellFormed = true) ∧
        (∀ item ∈ containerItems (R := R) request inputs, item.wellFormed = true) ∧
        ∀ item ∈ observedItems digest request inputs, item.wellFormed = true) ∧
        items = builtPrimary digest request inputs := by
  simp only [primaryItems, candidateItems, bind_eq_ok, checkItems_eq_ok, pure, Except.pure,
    Except.ok.injEq]
  constructor
  · rintro ⟨_, ⟨hderived, rfl⟩, _, ⟨hcontainers, rfl⟩, _, ⟨hobserved, rfl⟩, rfl⟩
    exact ⟨⟨hderived, hcontainers, hobserved⟩, rfl⟩
  · rintro ⟨⟨hderived, hcontainers, hobserved⟩, rfl⟩
    exact ⟨_, ⟨hderived, rfl⟩, _, ⟨hcontainers, rfl⟩, _, ⟨hobserved, rfl⟩, rfl⟩

omit [ScoreArithmetic R] in
theorem auxiliaryItems_eq_ok {items : BoundItems R} :
    auxiliaryItems digest inputs (selectCandidates request inputs) = .ok items ↔
      ((∀ result ∈ inputs.appliedMlResults,
          ∀ item ∈ (learnedItems digest (selectedSubjects request inputs) result).1,
            item.wellFormed = true) ∧ ∀ result ∈ inputs.semanticResults,
          ∀ item ∈ (hypothesisItems digest (selectedSubjects request inputs) inputs.subjectBindings
            result).1, item.wellFormed = true) ∧ items = builtAuxiliary digest request inputs := by
  simp only [auxiliaryItems, bind_eq_ok, mapM_eq_ok_iff fun _ _ => mlItems_eq_ok,
    mapM_eq_ok_iff fun _ _ => semanticResultItems_eq_ok, pure, Except.pure, Except.ok.injEq]
  constructor
  · rintro ⟨_, ⟨hlearned, rfl⟩, _, ⟨hsemantic, rfl⟩, rfl⟩
    exact ⟨⟨hlearned, hsemantic⟩, rfl⟩
  · rintro ⟨⟨hlearned, hsemantic⟩, rfl⟩
    exact ⟨_, ⟨hlearned, rfl⟩, _, ⟨hsemantic, rfl⟩, rfl⟩

/-! ## The texts that are copied -/

variable (digest request inputs) in
/-- None of the texts that fusion copies into items and statuses is empty. -/
structure Named : Prop where
  inclusions : ∀ result ∈ inputs.dependencyResults, ∀ evidence ∈ result.inclusionDependencies,
    evidence.evidenceId ≠ ""
  measured : ∀ result ∈ inputs.dependencyResults, ∀ candidate ∈ result.relationshipCandidates,
    (∀ evidence ∈ result.inclusionDependencies, evidence.evidenceId ∉ candidate.evidenceRefs) →
      candidate.candidateId ≠ ""
  scores : ∀ result ∈ inputs.schemaMatchResults, ∀ candidate ∈ result.candidates,
    ∀ ref ∈ candidate.scoreRefs, ∀ score,
      getItem (result.scores.map fun s => (s.scoreId, s)) ref = some score → score.scoreId ≠ ""
  signals : ∀ result ∈ inputs.schemaMatchResults, ∀ candidate ∈ result.candidates,
    ∀ ref ∈ candidate.signalRefs, ∀ signal,
      getItem (result.signals.map fun s => (s.signalId, s)) ref = some signal → signal.semantics ≠ ""
  constraints : ∀ constraint, .typed constraint ∈ inputs.declaredConstraints ++ inputs.catalogConstraints →
    upper constraint.constraintType = "FOREIGN_KEY" →
      constraint.constraintId ≠ "" ∧ constraint.scopeId ≠ ""
  assertions : ∀ assertion ∈ inputs.domainAssertions,
    assertion.assertionId ≠ "" ∧ assertion.subjectId ≠ "" ∧ assertion.scopeId ≠ ""
  profiles : ∀ result ∈ inputs.profileResults, ∀ profile ∈ result.tables ++ result.columns,
    ∀ topology ∈ selectedTopologies request inputs, topology.2.any (endpointMatches profile) = true →
      profile.profileId ≠ ""
  issues : ∀ result ∈ inputs.qualityResults, ∀ issue ∈ result.issues,
    ∀ topology ∈ selectedTopologies request inputs, topology.2.any (qualityMatches issue) = true →
      issue.issueId ≠ "" ∧ issue.measurementSemantics ≠ ""
  runs : ∀ result ∈ inputs.qualityResults, ∀ topology ∈ selectedTopologies request inputs,
    (∃ endpoint ∈ topology.2, endpoint.sourceId = result.sourceId ∧
      endpoint.snapshotId = result.snapshotId) → result.qualityRunId ≠ ""
  learned : ∀ result ∈ inputs.appliedMlResults, ∀ item ∈ result.learnedEvidence,
    item.candidateId ∈ (selectedSubjects request inputs).map fst →
      item.evidenceId ≠ "" ∧ item.modelId ≠ ""
  hypotheses : ∀ result ∈ inputs.semanticResults, ∀ evidence ∈ result.llmEvidence, ∀ subject,
    bindEvidence digest (selectedSubjects request inputs) inputs.subjectBindings evidence =
        .ok subject →
      ∀ hypothesis ∈ evidence.hypotheses, hypothesis.hypothesisId ≠ "" ∧
        evidence.inputFingerprint ≠ "" ∧ evidence.evidenceId ≠ ""
  requests : ∀ result ∈ inputs.semanticResults, (semanticStatus result).resultId ≠ ""

omit [ScoreArithmetic R] in
theorem wellFormed_iff {item : FusionEvidenceItem R} : item.wellFormed = true ↔
    item.evidenceId ≠ "" ∧ item.subjectId ≠ "" ∧ item.producerId ≠ "" ∧ item.metricName ≠ "" ∧
      item.metricSemantics ≠ "" ∧ item.scopeId ≠ "" ∧ item.correlationGroup ≠ "" := by
  simp only [wellFormed, texts, all_eq_true,
    forall_mem_cons, not_mem_nil, false_implies, implies_true, and_true, decide_eq_true_eq]

theorem inclusion_wellFormed_iff {evidence : InclusionDependency R} :
    (∀ item ∈ evidence.items, item.wellFormed = true) ↔ evidence.evidenceId ≠ "" := by
  unfold InclusionDependency.items
  by_cases hrisk : evidence.lowCardinalityRisk = true <;>
    simp [hrisk, wellFormed, texts, inclusionItems]

theorem measured_wellFormed_iff {complete : Bool} {candidate : MeasuredCandidate R} :
    (∀ item ∈ candidate.items complete, item.wellFormed = true) ↔ candidate.candidateId ≠ "" := by
  simp [wellFormed, texts, MeasuredCandidate.items,
    inclusionItems, RelationshipCandidate.subject]

theorem dependencyItems_wellFormed_iff {result : DependencyResult R} :
    (∀ item ∈ dependencyItems result, item.wellFormed = true) ↔
      (∀ evidence ∈ result.inclusionDependencies, evidence.evidenceId ≠ "") ∧
      ∀ candidate ∈ result.relationshipCandidates,
        (∀ evidence ∈ result.inclusionDependencies, evidence.evidenceId ∉ candidate.evidenceRefs) →
          candidate.candidateId ≠ "" := by
  rw [dependencyItems, forall_mem_append]
  refine and_congr ?_ ?_
  · rw [forall_mem_flatMap]
    exact forall₂_congr fun evidence _ => inclusion_wellFormed_iff
  · rw [forall_mem_flatMap]
    have hcovered : ∀ candidate : MeasuredCandidate R,
        (!candidate.evidenceRefs.any (result.inclusionDependencies.map (·.evidenceId)).contains) = true ↔
          ∀ evidence ∈ result.inclusionDependencies, evidence.evidenceId ∉ candidate.evidenceRefs := by
      intro candidate
      simp only [Bool.not_eq_true', any_eq_false, contains_eq_mem, decide_eq_true_eq,
        mem_map, not_exists, not_and]
      exact ⟨fun h evidence he hmem => h _ hmem evidence he rfl,
        fun h ref href evidence he heq => h evidence he (heq ▸ href)⟩
    constructor
    · intro h candidate hcandidate hfree
      exact measured_wellFormed_iff.1
        (h candidate (mem_filter.2 ⟨hcandidate, (hcovered candidate).2 hfree⟩))
    · intro h candidate hmem
      obtain ⟨hcandidate, hfree⟩ := mem_filter.1 hmem
      exact measured_wellFormed_iff.2 (h candidate hcandidate ((hcovered candidate).1 hfree))

variable {policy : FusionPolicyReference R} {subject : String} {candidate : MatchedCandidate}
  {subjects : List (String × String)} {bindings : List FusionSubjectBinding}

theorem matcher_wellFormed_iff {score : MatcherScore} :
    (matcherItem digest policy candidate score).wellFormed = true ↔ score.scoreId ≠ "" := by
  simp [wellFormed, texts, matcherItem, MappingCandidate.subject]

theorem schemaSignal_wellFormed_iff {signal : SchemaSignal R} :
    (schemaSignalItem policy candidate signal).wellFormed = true ↔ signal.semantics ≠ "" := by
  by_cases hstructural : (signal.family = "SCHEMA_STRUCTURAL" && signal.value.isSome) = true <;>
    simp [wellFormed, texts, schemaSignalItem,
      MappingCandidate.subject, hstructural]

theorem schemaItems_wellFormed_iff {result : SchemaMatchResult R} :
    (∀ item ∈ schemaItems digest policy result, item.wellFormed = true) ↔
      ∀ candidate ∈ result.candidates, (∀ ref ∈ candidate.scoreRefs, ∀ score,
          getItem (result.scores.map fun s => (s.scoreId, s)) ref = some score →
            score.scoreId ≠ "") ∧ ∀ ref ∈ candidate.signalRefs, ∀ signal,
          getItem (result.signals.map fun s => (s.signalId, s)) ref = some signal →
            signal.semantics ≠ "" := by
  rw [schemaItems, forall_mem_flatMap]
  refine forall₂_congr fun candidate _ => ?_
  rw [forall_mem_append]
  simp only [forall_mem_filterMap, mem_sorted, Option.map_eq_some_iff, forall_exists_index, and_imp,
    forall_apply_eq_imp_iff₂, matcher_wellFormed_iff, schemaSignal_wellFormed_iff]

theorem declared_wellFormed_iff {constraint : DeclaredInput} :
    (∀ item ∈ declaredItem digest constraint, item.wellFormed = true) ↔
      ∀ found, constraint = .typed found → upper found.constraintType = "FOREIGN_KEY" →
          found.constraintId ≠ "" ∧ found.scopeId ≠ "" := by
  cases constraint with
  | typed found =>
    by_cases hkey : upper found.constraintType = "FOREIGN_KEY"
    · simp [declaredItem, hkey, wellFormed, texts]
      exact fun hid _ => hid
    · simp [declaredItem, hkey]
  | catalog found =>
    by_cases hkey : upper found.constraintType = "FOREIGN_KEY"
    · simp [declaredItem, hkey, wellFormed, texts]
    · simp [declaredItem, hkey]

omit [ScoreArithmetic R] in
theorem assertion_wellFormed_iff {assertion : DomainAssertion} :
    (assertionItem (R := R) assertion).wellFormed = true ↔
      assertion.assertionId ≠ "" ∧ assertion.subjectId ≠ "" ∧ assertion.scopeId ≠ "" := by
  simp [wellFormed, texts, assertionItem]
  exact fun hid _ _ => hid

omit [ScoreArithmetic R] in
theorem containerItems_wellFormed :
    ∀ item ∈ containerItems (R := R) request inputs, item.wellFormed = true := by
  rw [containerItems, forall_mem_append, forall_mem_map, forall_mem_map]
  constructor
  · intro candidate _
    by_cases hsnapshot : candidate.snapshotId = "" <;>
      simp [wellFormed, texts, relationshipContainer,
        RelationshipCandidate.subject, hsnapshot]
  · intro candidate _
    simp [wellFormed, texts, mappingContainer,
      MappingCandidate.subject]

omit [ScoreArithmetic R] in
theorem subject_ne_empty (h : subject ∈ (selectedSubjects request inputs).map snd) :
    subject ≠ "" := by
  obtain ⟨entry, hentry, rfl⟩ := mem_map.1 h
  rcases mem_append.1 (mem_of_mem_dictOf hentry) with hmem | hmem
  · obtain ⟨candidate, _, rfl⟩ := mem_map.1 hmem
    simp [RelationshipCandidate.subject]
  · obtain ⟨candidate, _, rfl⟩ := mem_map.1 hmem
    simp [MappingCandidate.subject]

omit [ScoreArithmetic R] in
theorem topology_ne_empty {topology : String × List Endpoint}
    (h : topology ∈ selectedTopologies request inputs) : topology.1 ≠ "" := by
  rcases mem_append.1 (mem_of_mem_dictOf h) with hmem | hmem
  · obtain ⟨candidate, _, rfl⟩ := mem_map.1 hmem
    simp [RelationshipCandidate.subject]
  · obtain ⟨candidate, _, rfl⟩ := mem_map.1 hmem
    simp [MappingCandidate.subject]

omit [ScoreArithmetic R] in
theorem profileItems_wellFormed_iff {result : ProfileResult} :
    (∀ item ∈ profileItems digest (selectedTopologies request inputs) result,
        item.wellFormed = true) ↔
      ∀ profile ∈ result.tables ++ result.columns, ∀ topology ∈ selectedTopologies request inputs,
        topology.2.any (endpointMatches profile) = true → profile.profileId ≠ "" := by
  have hone : ∀ (profile : ObservedProfile) (topology : String × List Endpoint),
      topology ∈ selectedTopologies request inputs →
      ((profileItem digest topology.1 profile).wellFormed = true ↔ profile.profileId ≠ "") := by
    intro profile topology htopology
    have hne := topology_ne_empty htopology
    by_cases hcolumn : profile.columnId.isSome = true <;>
      simp [wellFormed, texts, profileItem, hne, hcolumn]
  have hmarker : ∀ topology ∈ selectedTopologies request inputs,
      (notObservedMarker digest "profile" topology.1 .profile topology.2
        "profile result has no exact selected endpoint observation").wellFormed = true := by
    intro topology htopology
    have hne := topology_ne_empty htopology
    simp [wellFormed, texts, notObservedMarker, hne]
  unfold profileItems
  generalize result.tables ++ result.columns = profiles
  simp only [forall_mem_append, forall_mem_flatMap, forall_mem_map, mem_filter,
    and_imp]
  constructor
  · rintro ⟨h, -⟩ profile hprofile topology htopology hmatch
    exact (hone profile topology htopology).1 (h profile hprofile topology htopology hmatch)
  · intro h
    exact ⟨fun profile hprofile topology htopology hmatch =>
      (hone profile topology htopology).2 (h profile hprofile topology htopology hmatch),
      fun topology htopology _ => hmarker topology htopology⟩

omit [ScoreArithmetic R] in
theorem qualityItems_wellFormed_iff {result : QualityResult R} :
    (∀ item ∈ qualityItems digest (selectedTopologies request inputs) result,
        item.wellFormed = true) ↔
      (∀ issue ∈ result.issues, ∀ topology ∈ selectedTopologies request inputs,
        topology.2.any (qualityMatches issue) = true →
          issue.issueId ≠ "" ∧ issue.measurementSemantics ≠ "") ∧
      ∀ topology ∈ selectedTopologies request inputs,
        (∃ endpoint ∈ topology.2, endpoint.sourceId = result.sourceId ∧
          endpoint.snapshotId = result.snapshotId) → result.qualityRunId ≠ "" := by
  have hissue : ∀ (issue : QualityIssue R) (topology : String × List Endpoint),
      topology ∈ selectedTopologies request inputs →
      ((qualityIssueItem digest topology.1 issue).wellFormed = true ↔
        issue.issueId ≠ "" ∧ issue.measurementSemantics ≠ "") := by
    intro issue topology htopology
    have hne := topology_ne_empty htopology
    simp [wellFormed, texts, qualityIssueItem, hne, and_comm]
  have hcoverage : ∀ topology ∈ selectedTopologies request inputs, ∀ endpoints : List Endpoint,
      ((qualityCoverageItem digest result topology.1 endpoints).wellFormed = true ↔
        result.qualityRunId ≠ "") := by
    intro topology htopology endpoints
    have hne := topology_ne_empty htopology
    have hid : (qualityCoverageItem digest result topology.1 endpoints).evidenceId =
        "quality:coverage:" ++ result.qualityRunId ++ ":" ++
          shortDigest digest 12 (.text topology.1) := rfl
    have hmetric : (qualityCoverageItem digest result topology.1 endpoints).metricName =
        "quality_coverage:" ++ lower (coverageState result) := rfl
    rw [wellFormed_iff, hid, hmetric]
    constructor
    · exact fun h => h.2.2.2.2.2.2
    · intro hrun
      refine ⟨by simp, hne, ?_, by simp, ?_, hrun, hrun⟩
      · show "quality" ≠ ""
        decide
      · show "quality coverage state is explicit and is not inferred from issue absence" ≠ ""
        decide
  unfold qualityItems
  rw [forall_mem_append]
  refine and_congr ?_ ?_
  · rw [forall_mem_flatMap]
    refine forall₂_congr fun issue _ => ?_
    rw [forall_mem_map]
    constructor
    · intro h topology htopology hmatch
      exact (hissue issue topology htopology).1 (h topology (mem_filter.2 ⟨htopology, hmatch⟩))
    · intro h topology hmem
      obtain ⟨htopology, hmatch⟩ := mem_filter.1 hmem
      exact (hissue issue topology htopology).2 (h topology htopology hmatch)
  · rw [forall_mem_filterMap]
    refine forall₂_congr fun topology htopology => ?_
    by_cases hnone : (topology.2.filter fun endpoint =>
        endpoint.sourceId = result.sourceId && endpoint.snapshotId = result.snapshotId) = []
    · have hfree : ¬ ∃ endpoint ∈ topology.2, endpoint.sourceId = result.sourceId ∧
          endpoint.snapshotId = result.snapshotId := by
        rintro ⟨endpoint, hendpoint, hmatch⟩
        exact filter_eq_nil_iff.1 hnone endpoint hendpoint (by simpa using hmatch)
      rw [if_pos hnone]
      exact ⟨fun _ hsome => absurd hsome hfree, fun _ item hitem => nomatch hitem⟩
    · obtain ⟨endpoint, hendpoint⟩ := exists_mem_of_ne_nil _ hnone
      have hsome : ∃ endpoint ∈ topology.2, endpoint.sourceId = result.sourceId ∧
          endpoint.snapshotId = result.snapshotId :=
        ⟨endpoint, (mem_filter.1 hendpoint).1, by simpa using (mem_filter.1 hendpoint).2⟩
      rw [if_neg hnone]
      constructor
      · exact fun h _ => (hcoverage topology htopology _).1 (h _ rfl)
      · intro h item hitem
        cases hitem
        exact (hcoverage topology htopology _).2 (h hsome)

omit [ScoreArithmetic R] in
theorem learnedItems_wellFormed_iff {result : AppliedMLResult R} :
    (∀ item ∈ (learnedItems digest (selectedSubjects request inputs) result).1,
        item.wellFormed = true) ↔ ∀ item ∈ result.learnedEvidence,
        item.candidateId ∈ (selectedSubjects request inputs).map fst →
          item.evidenceId ≠ "" ∧ item.modelId ≠ "" := by
  rw [learnedItems, forall_mem_filterMap]
  refine forall₂_congr fun item _ => ?_
  rw [← getItem_isSome_iff]
  cases hsubject : getItem (selectedSubjects request inputs) item.candidateId with
  | none => simp
  | some subject =>
    have hne : subject ≠ "" :=
      subject_ne_empty (mem_map.2 ⟨_, mem_of_getItem hsubject, rfl⟩)
    simp [wellFormed, texts, learnedItem, hne]

theorem bindUpstream_mem {upstream : String}
    (h : bindUpstream subjects bindings upstream = .ok subject) : subject ∈ subjects.map snd := by
  unfold bindUpstream at h
  split at h
  · rename_i binding _
    by_cases hbound : getItem subjects binding.candidateId = some binding.fusionSubjectId
    · rw [if_pos hbound] at h
      rw [← ok.inj h]
      exact mem_map.2 ⟨_, mem_of_getItem hbound, rfl⟩
    · rw [if_neg hbound] at h
      cases h
  · split at h
    · rename_i found hfound
      rw [← ok.inj h]
      exact mem_map.2 ⟨_, mem_of_getItem hfound, rfl⟩
    · by_cases hself : (subjects.map snd).contains upstream = true
      · rw [if_pos hself] at h
        rw [← ok.inj h]
        exact contains_iff_mem.1 hself
      · rw [if_neg hself] at h
        cases h

omit [ScoreArithmetic R] in
theorem bindEvidence_mem {evidence : LLMEvidence}
    (h : bindEvidence digest subjects bindings evidence = .ok subject) :
    subject ∈ subjects.map snd := by
  simp only [bindEvidence, bind_eq_ok] at h
  obtain ⟨found, hfound, h⟩ := h
  have hmem : subject ∈ found := by
    rw [← mem_sortedSet]
    revert h
    split
    · exact nofun
    · rename_i only heq
      intro h
      rw [heq, ← ok.inj h]
      exact mem_singleton_self only
    · exact nofun
  obtain ⟨upstream, _, hbind⟩ := exists_left_of_forall₂ (mapM_eq_ok.1 hfound) hmem
  cases hup : bindUpstream subjects bindings upstream with
  | error detail =>
    rw [hup] at hbind
    cases hbind
  | ok bound =>
    rw [hup] at hbind
    cases hbind
    exact bindUpstream_mem hup

omit [ScoreArithmetic R] in
theorem hypothesisItems_wellFormed_iff {result : SemanticInput} :
    (∀ item ∈ (hypothesisItems digest (selectedSubjects request inputs) inputs.subjectBindings
        result).1, item.wellFormed = true) ↔ ∀ evidence ∈ result.llmEvidence, ∀ subject,
        bindEvidence digest (selectedSubjects request inputs) inputs.subjectBindings evidence =
            .ok subject → ∀ hypothesis ∈ evidence.hypotheses, hypothesis.hypothesisId ≠ "" ∧
            evidence.inputFingerprint ≠ "" ∧ evidence.evidenceId ≠ "" := by
  cases hevidence : result.llmEvidence with
  | none => simp [hypothesisItems, hevidence]
  | some evidence =>
    cases hbind : bindEvidence digest (selectedSubjects request inputs) inputs.subjectBindings
        evidence with
    | error failure => simp [hypothesisItems, hevidence, hbind]
    | ok subject =>
      have hne := subject_ne_empty (bindEvidence_mem hbind)
      have hone : ∀ hypothesis, (hypothesisItem (R := R) evidence subject hypothesis).wellFormed = true ↔
          hypothesis.hypothesisId ≠ "" ∧ evidence.inputFingerprint ≠ "" ∧
            evidence.evidenceId ≠ "" := by
        intro hypothesis
        simp [wellFormed, texts, hypothesisItem, hne]
      simp only [hypothesisItems, hevidence, hbind, forall_mem_map, hone, Option.mem_def,
        Option.some.injEq, forall_eq', Except.ok.injEq]

omit [ScoreArithmetic R] in
/-- The status of a result always has an id, but for that of a semantic result. -/
theorem statuses_named_iff :
    (∀ status ∈ primaryStatuses inputs ++ auxiliaryStatuses inputs, StatusNamed status) ↔
      ∀ result ∈ inputs.semanticResults, (semanticStatus result).resultId ≠ "" := by
  have hresult : ∀ (producer : String) (family : EvidenceFamily) (header : ResultHeader),
      producer ≠ "" → StatusNamed (resultStatus producer family header) := by
    intro producer family header hproducer
    refine ⟨hproducer, ?_⟩
    show orText header.requestId (orText header.profileRequestId
      (orText header.qualityRunId (producer ++ "-result"))) ≠ ""
    unfold orText
    split
    · assumption
    · split
      · assumption
      · split
        · assumption
        · simp
  have hsemantic : ∀ result, StatusNamed (semanticStatus result) ↔
      (semanticStatus result).resultId ≠ "" := by
    intro result
    cases result <;> simp [StatusNamed, semanticStatus]
  simp only [primaryStatuses, auxiliaryStatuses, forall_mem_append, forall_mem_map, hsemantic]
  constructor
  · exact fun h => h.2.2
  · exact fun h => ⟨⟨⟨⟨fun _ _ => hresult _ _ _ (by decide), fun _ _ => hresult _ _ _ (by decide)⟩,
      fun _ _ => hresult _ _ _ (by decide)⟩, fun _ _ => hresult _ _ _ (by decide)⟩,
      fun _ _ => hresult _ _ _ (by decide), h⟩

/-- The contracts of all items and statuses, as texts of the inputs. -/
theorem named_iff : Named digest request inputs ↔
      (∀ status ∈ primaryStatuses inputs ++ auxiliaryStatuses inputs, StatusNamed status) ∧
        (∀ item ∈ derivedItems digest request.policy inputs, item.wellFormed = true) ∧
        (∀ item ∈ observedItems digest request inputs, item.wellFormed = true) ∧
        (∀ result ∈ inputs.appliedMlResults,
          ∀ item ∈ (learnedItems digest (selectedSubjects request inputs) result).1,
            item.wellFormed = true) ∧ ∀ result ∈ inputs.semanticResults,
          ∀ item ∈ (hypothesisItems digest (selectedSubjects request inputs) inputs.subjectBindings
            result).1, item.wellFormed = true := by
  rw [statuses_named_iff]
  simp only [derivedItems, observedItems, forall_mem_append, forall_mem_flatMap,
    forall_mem_map, forall_mem_filterMap, dependencyItems_wellFormed_iff,
    schemaItems_wellFormed_iff, assertion_wellFormed_iff, profileItems_wellFormed_iff,
    qualityItems_wellFormed_iff, learnedItems_wellFormed_iff, hypothesisItems_wellFormed_iff]
  have hconstraints : (∀ constraint,
      .typed constraint ∈ inputs.declaredConstraints ++ inputs.catalogConstraints →
        upper constraint.constraintType = "FOREIGN_KEY" →
          constraint.constraintId ≠ "" ∧ constraint.scopeId ≠ "") ↔
      (∀ constraint ∈ inputs.declaredConstraints,
        ∀ item, declaredItem digest constraint = some item → item.wellFormed = true) ∧
      ∀ constraint ∈ inputs.catalogConstraints,
        ∀ item, declaredItem digest constraint = some item → item.wellFormed = true := by
    rw [← forall_mem_append]
    constructor
    · intro h constraint hmem
      refine declared_wellFormed_iff.2 fun found hfound => ?_
      subst hfound
      exact h found hmem
    · intro h constraint hmem
      exact declared_wellFormed_iff.1 (h _ hmem) constraint rfl
  rw [← hconstraints]
  constructor
  · intro h
    exact ⟨h.requests,
      ⟨⟨⟨fun result hr => ⟨h.inclusions result hr, h.measured result hr⟩,
        fun result hr candidate hc => ⟨h.scores result hr candidate hc,
          h.signals result hr candidate hc⟩⟩, h.constraints⟩, h.assertions⟩,
      ⟨fun result hr => forall_mem_append.1 (h.profiles result hr),
        fun result hr => ⟨h.issues result hr, h.runs result hr⟩⟩, h.learned, h.hypotheses⟩
  · rintro ⟨hrequests, ⟨⟨⟨hdependency, hschema⟩, hdeclared⟩, hassertions⟩, ⟨hprofiles, hquality⟩,
      hlearned, hhypotheses⟩
    exact
      { inclusions := fun result hr => (hdependency result hr).1
        measured := fun result hr => (hdependency result hr).2
        scores := fun result hr candidate hc => (hschema result hr candidate hc).1
        signals := fun result hr candidate hc => (hschema result hr candidate hc).2
        constraints := hdeclared
        assertions := hassertions
        profiles := fun result hr => forall_mem_append.2 (hprofiles result hr)
        issues := fun result hr => (hquality result hr).1
        runs := fun result hr => (hquality result hr).2
        learned := hlearned
        hypotheses := hhypotheses
        requests := hrequests }

/-- **What fusion reads**: inputs without an empty text, and items whose signals meet their
contract. -/
theorem gathers_iff {primary auxiliary : BoundItems R} :
    Gathers digest request inputs primary auxiliary ↔ Named digest request inputs ∧
        (∀ item ∈ standingItems request (builtItems digest request inputs),
          (signalOf digest request.policy item).wellFormed = true) ∧
        primary = builtPrimary digest request inputs ∧
        auxiliary = builtAuxiliary digest request inputs := by
  rw [named_iff]
  constructor
  · intro h
    obtain ⟨⟨hderived, _, hobserved⟩, rfl⟩ := primaryItems_eq_ok.1 h.primary
    obtain ⟨⟨hlearned, hsemantic⟩, rfl⟩ := auxiliaryItems_eq_ok.1 h.auxiliary
    exact ⟨⟨h.named, hderived, hobserved, hlearned, hsemantic⟩, h.wellFormed, rfl, rfl⟩
  · rintro ⟨⟨hnamed, hderived, hobserved, hlearned, hsemantic⟩, hsignals, rfl, rfl⟩
    exact ⟨hnamed, primaryItems_eq_ok.2 ⟨⟨hderived, containerItems_wellFormed, hobserved⟩, rfl⟩,
      auxiliaryItems_eq_ok.2 ⟨⟨hlearned, hsemantic⟩, rfl⟩, hsignals⟩

variable (digest request inputs) in
/-- What is gathered from the items as they are built. -/
def gatheredFrom : GatheredEvidence R :=
  gatheredOf digest request inputs (builtPrimary digest request inputs)
    (builtAuxiliary digest request inputs)

theorem fuse_eq_ok_from {result : EvidenceFusionResult R} :
    fuse digest request inputs = .ok result ↔ Named digest request inputs ∧
        (∀ item ∈ standingItems request (builtItems digest request inputs),
          (signalOf digest request.policy item).wellFormed = true) ∧
        DecisionsWellFormed digest request inputs (gatheredFrom digest request inputs) ∧
        result = resultOf digest request inputs (gatheredFrom digest request inputs) := by
  rw [fuse_eq_ok]
  constructor
  · rintro ⟨_, _, hgathers, hdecisions, rfl⟩
    obtain ⟨hnamed, hsignals, rfl, rfl⟩ := gathers_iff.1 hgathers
    exact ⟨hnamed, hsignals, hdecisions, rfl⟩
  · rintro ⟨hnamed, hsignals, hdecisions, rfl⟩
    exact ⟨_, _, gathers_iff.2 ⟨hnamed, hsignals, rfl, rfl⟩, hdecisions, rfl⟩

end

end DirtyDataOlap.Fusion

import DirtyDataOlap.EvidenceFusion

/-!
# What fusion does

One inversion lemma for each stage of `fuse`.  The signals are those of the standing items
(`collectSignals_eq_ok`), and a run is review-ready exactly when no failure blocks it and no subject
lacks evidence (`verdict_ready_iff`).
-/
namespace DirtyDataOlap.Fusion

open List

open Canonical (DecisionState)

variable {R : Type}

theorem checkItem_eq_ok {item item' : FusionEvidenceItem R} :
    checkItem item = .ok item' ↔ item.wellFormed = true ∧ item' = item := by
  simp only [checkItem, bind_eq_ok, require_eq_ok, pure, Except.pure, Except.ok.injEq]
  constructor
  · rintro ⟨_, hw, rfl⟩
    exact ⟨hw, rfl⟩
  · rintro ⟨hw, rfl⟩
    exact ⟨(), hw, rfl⟩

theorem checkItems_eq_ok {items items' : List (FusionEvidenceItem R)} :
    checkItems items = .ok items' ↔ (∀ item ∈ items, item.wellFormed = true) ∧ items' = items :=
  mapM_check_eq_ok fun _ _ => checkItem_eq_ok

/-- The contract of a status holds. -/
def StatusNamed (status : ProducerEvidenceStatus) : Prop :=
  status.producerId ≠ "" ∧ status.resultId ≠ ""

theorem checkStatus_eq_ok {status status' : ProducerEvidenceStatus} :
    checkStatus status = .ok status' ↔ StatusNamed status ∧ status' = status := by
  simp only [checkStatus, bind_eq_ok, require_eq_ok, pure, Except.pure, Except.ok.injEq,
    Bool.and_eq_true, decide_eq_true_eq, StatusNamed]
  constructor
  · rintro ⟨_, hs, rfl⟩
    exact ⟨hs, rfl⟩
  · rintro ⟨hs, rfl⟩
    exact ⟨(), hs, rfl⟩

/-- The statuses given, then those that the results imply. -/
def allStatuses (inputs : EvidenceFusionInputs R) : List ProducerEvidenceStatus :=
  inputs.producerStatuses ++ (primaryStatuses inputs ++ auxiliaryStatuses inputs)

theorem gatherStatuses_eq_ok {inputs : EvidenceFusionInputs R}
    {statuses : List ProducerEvidenceStatus} : gatherStatuses inputs = .ok statuses ↔
      (∀ status ∈ primaryStatuses inputs ++ auxiliaryStatuses inputs, StatusNamed status) ∧
        statuses = allStatuses inputs := by
  simp only [gatherStatuses, bind_eq_ok, pure, Except.pure, Except.ok.injEq,
    mapM_check_eq_ok fun _ _ => checkStatus_eq_ok]
  constructor
  · rintro ⟨_, ⟨hnamed, rfl⟩, rfl⟩
    exact ⟨hnamed, rfl⟩
  · rintro ⟨hnamed, rfl⟩
    exact ⟨_, ⟨hnamed, rfl⟩, rfl⟩

section
variable {digest : FusionDigest R}

variable {request : EvidenceFusionRequest R} {status : ProducerEvidenceStatus}
  {items : List (FusionEvidenceItem R)} {inputs : EvidenceFusionInputs R}
  {gathered : GatheredEvidence R} {values : List ProducerEvidenceStatus}
  {item : FusionEvidenceItem R} {read : List (NormalizedEvidenceSignal R) × List FusionFailure}

theorem mem_statusGroup {key : StatusKey} :
    status ∈ statusGroup values key ↔ status ∈ values ∧ statusKey status = key := by
  rw [statusGroup, mem_filter, decide_eq_true_eq]

variable (digest values) in
/-- The digest tells the statuses apart. -/
def DistinctDigests : Prop :=
  ∀ a ∈ values, ∀ b ∈ values, digest (.status a) = digest (.status b) → a = b

theorem mem_settleGroup {group : List ProducerEvidenceStatus} (h : DistinctDigests digest group) :
    status ∈ settleGroup digest group ↔ status ∈ group := by
  unfold settleGroup
  split
  · exact mem_sortedBy
  · rename_i hsame
    cases group with
    | nil => simp
    | cons first rest =>
      rw [take_succ_cons, take_zero, mem_singleton]
      constructor
      · rintro rfl
        exact mem_cons_self
      · intro hmem
        apply h _ hmem _ mem_cons_self
        have hlen : (((first :: rest).map fun s => digest (.status s)).dedup).length ≤ 1 := by
          simpa [conflictingGroup] using hsame
        have hdigest : ∀ s ∈ first :: rest, digest (.status s) ∈
            ((first :: rest).map fun s => digest (.status s)).dedup :=
          fun s hs => mem_dedup.2 (mem_map_of_mem hs)
        have ha := hdigest status hmem
        have hb := hdigest first mem_cons_self
        revert ha hb hlen
        generalize ((first :: rest).map fun s => digest (.status s)).dedup = distinct
        intro hlen ha hb
        match distinct, hlen with
        | [], _ => cases ha
        | [only], _ => rw [mem_singleton.1 ha, mem_singleton.1 hb]

/-- **No status is lost** by making them unique. -/
theorem mem_uniqueStatuses (h : DistinctDigests digest values) :
    status ∈ uniqueStatuses digest values ↔ status ∈ values := by
  have hgroup : ∀ key, DistinctDigests digest (statusGroup values key) := fun key a ha b hb =>
    h a (mem_statusGroup.1 ha).1 b (mem_statusGroup.1 hb).1
  rw [uniqueStatuses, mem_flatMap]
  constructor
  · rintro ⟨key, _, hmem⟩
    exact (mem_statusGroup.1 ((mem_settleGroup (hgroup key)).1 hmem)).1
  · intro hmem
    refine ⟨statusKey status, mem_sortedSet.2 (mem_map_of_mem hmem), ?_⟩
    exact (mem_settleGroup (hgroup _)).2 (mem_statusGroup.2 ⟨hmem, rfl⟩)

/-- **When a run is review-ready**: no failure blocks it, every decision is up for review, and no
subject lacks evidence of its own. -/
theorem verdict_ready_iff {decisions : List (FusionDecision R)} {bundles : List (EvidenceBundle R)}
    {failures : List FusionFailure} : verdict decisions bundles failures = .completeReviewReady ↔
      (∀ failure ∈ failures, failure.kind = .subjectBindingError) ∧
      (∀ decision ∈ decisions, decision.decisionState ≠ .incompleteRequiredEvidence) ∧
      ∀ bundle ∈ bundles, ∀ ref ∈ bundle.missingEvidenceRefs, subjectRef ref = false := by
  have hkinds : (∀ failure ∈ failures, failure.kind = .subjectBindingError) ↔
      (failures.any fun f => f.kind.failsRun) = false ∧
        (failures.any fun f => f.kind.blocksReview) = false := by
    rw [any_eq_false, any_eq_false, ← forall₂_and]
    refine forall₂_congr fun failure _ => ?_
    cases failure.kind <;> decide
  have hdecisions : (∀ d ∈ decisions, d.decisionState ≠ .incompleteRequiredEvidence) ↔
      (decisions.any fun d => d.decisionState = .incompleteRequiredEvidence) = false := by
    simp [any_eq_false]
  have hbundles : (∀ bundle ∈ bundles, ∀ ref ∈ bundle.missingEvidenceRefs, subjectRef ref = false) ↔
      (bundles.any fun bundle => bundle.missingEvidenceRefs.any subjectRef) = false := by
    simp [any_eq_false]
  rw [hkinds, hdecisions, hbundles]
  unfold verdict
  cases hf : failures.any fun f => f.kind.failsRun <;>
    cases hb : failures.any fun f => f.kind.blocksReview <;>
    cases hd : decisions.any fun d => d.decisionState = .incompleteRequiredEvidence <;>
    cases hr : bundles.any fun bundle => bundle.missingEvidenceRefs.any subjectRef <;>
    simp

/-! ## Signals -/

theorem mem_readItems :
    item ∈ readItems request items ↔ item ∈ items ∧ live request item = true := by
  rw [readItems, mem_filter, mem_sortedBy]

variable [ScoreArithmetic R]

/-- The items whose evidence id is claimed for their own payload, in the order they are read. -/
def standingItems (request : EvidenceFusionRequest R) (items : List (FusionEvidenceItem R)) :
    List (FusionEvidenceItem R) :=
  (readItems request items).filter
    (stands (·.evidenceId) payload (readItems request items))

/-- The failures of `_signals`, in the order the items are read. -/
def claimFailures (digest : FusionDigest R) (request : EvidenceFusionRequest R)
    (items : List (FusionEvidenceItem R)) : List FusionFailure :=
  (readItems request items).flatMap fun item =>
    if stands (·.evidenceId) payload (readItems request items) item then
      scoreFailures digest request.policy item
    else [collisionFailure digest item]

/-- What one pass of the loop of `_signals` reads. -/
def claimReading (digest : FusionDigest R) (policy : FusionPolicyReference R)
    (claim : FusionEvidenceItem R × Bool) : List (NormalizedEvidenceSignal R) × List FusionFailure :=
  if claim.2 then ([signalOf digest policy claim.1], scoreFailures digest policy claim.1)
  else ([], [collisionFailure digest claim.1])

theorem readClaim_eq_ok {policy : FusionPolicyReference R} {claim : FusionEvidenceItem R × Bool} :
    readClaim digest policy claim = .ok read ↔
      (claim.2 = true → (signalOf digest policy claim.1).wellFormed = true) ∧
      read = claimReading digest policy claim := by
  unfold readClaim claimReading
  by_cases hstand : claim.2 = true
  · simp only [hstand, if_true, bind_eq_ok, require_eq_ok, pure, Except.pure, Except.ok.injEq,
      forall_const]
    constructor
    · rintro ⟨_, hw, rfl⟩
      exact ⟨hw, rfl⟩
    · rintro ⟨hw, rfl⟩
      exact ⟨(), hw, rfl⟩
  · rw [if_neg hstand, if_neg hstand]
    constructor
    · intro h
      exact ⟨fun hs => absurd hs hstand, (Except.ok.inj h).symm⟩
    · rintro ⟨_, rfl⟩
      rfl

theorem flatMap_if_singleton {α β : Type} (p : α → Bool) (f : α → β) (xs : List α) :
    (xs.flatMap fun x => if p x then [f x] else []) = (xs.filter p).map f := by
  induction xs with
  | nil => rfl
  | cons x xs ih => by_cases hp : p x = true <;> simp [flatMap_cons, ih, hp]

/-- **The signals of a run** are those of the standing items, all well formed. -/
theorem collectSignals_eq_ok : collectSignals digest request items = .ok read ↔
      (∀ item ∈ standingItems request items,
        (signalOf digest request.policy item).wellFormed = true) ∧
      read = ((standingItems request items).map (signalOf digest request.policy),
        claimFailures digest request items) := by
  have hsignals : ((claims (·.evidenceId) payload [] (readItems request items)).map
      (claimReading digest request.policy)).flatMap Prod.fst =
      (standingItems request items).map (signalOf digest request.policy) := by
    rw [claims_nil_eq, map_map, flatMap_map, standingItems, ← flatMap_if_singleton]
    apply flatMap_congr
    intro item _
    exact apply_ite Prod.fst _ _ _
  have hfailures : ((claims (·.evidenceId) payload [] (readItems request items)).map
      (claimReading digest request.policy)).flatMap Prod.snd = claimFailures digest request items := by
    rw [claims_nil_eq, map_map, flatMap_map, claimFailures]
    apply flatMap_congr
    intro item _
    exact apply_ite Prod.snd _ _ _
  have hwell : (∀ claim ∈ claims (·.evidenceId) payload [] (readItems request items),
      claim.2 = true → (signalOf digest request.policy claim.1).wellFormed = true) ↔
      ∀ item ∈ standingItems request items,
        (signalOf digest request.policy item).wellFormed = true := by
    rw [claims_nil_eq, forall_mem_map]
    exact ⟨fun h item hitem => h item (mem_filter.1 hitem).1 (mem_filter.1 hitem).2,
      fun h item hread hstands => h item (mem_filter.2 ⟨hread, hstands⟩)⟩
  rw [collectSignals, bind_eq_ok, ← hwell, ← hsignals, ← hfailures]
  constructor
  · rintro ⟨_, hread, h⟩
    obtain ⟨hw, rfl⟩ := (mapM_eq_ok_iff fun _ _ => readClaim_eq_ok).1 hread
    exact ⟨hw, (Except.ok.inj h).symm⟩
  · rintro ⟨hw, rfl⟩
    exact ⟨_, (mapM_eq_ok_iff fun _ _ => readClaim_eq_ok).2 ⟨hw, rfl⟩, rfl⟩

/-- Evidence items, with the failures met on the way. -/
abbrev BoundItems (R : Type) := List (FusionEvidenceItem R) × List FusionFailure

/-- What is gathered from given items. -/
def gatheredOf (digest : FusionDigest R) (request : EvidenceFusionRequest R)
    (inputs : EvidenceFusionInputs R) (primary auxiliary : BoundItems R) : GatheredEvidence R :=
  let statuses := uniqueStatuses digest (allStatuses inputs)
  let selection := selectCandidates request inputs
  let items := primary.1 ++ auxiliary.1
  let signals := (standingItems request items).map (signalOf digest request.policy)
  { statuses := statuses
    relationships := selection.relationships
    mappings := selection.mappings
    signals := signals
    repairRefs := sortedSet (inputs.qualityResults.flatMap
      (repairRefs (candidateTopologies selection.relationships selection.mappings)))
    failures := statusFailures digest (allStatuses inputs) ++ policyFailures request.policy ++
      selection.failures ++ subjectKindFailures request.policy selection ++ primary.2 ++
      auxiliary.2 ++ producerFailures request statuses ++ staleFailures digest request statuses ++
      claimFailures digest request items ++ scopeFailures digest signals }

/-- How `gather` comes to its result. -/
structure Gathers (digest : FusionDigest R) (request : EvidenceFusionRequest R)
    (inputs : EvidenceFusionInputs R) (main extra : BoundItems R) : Prop where
  named : ∀ status ∈ primaryStatuses inputs ++ auxiliaryStatuses inputs, StatusNamed status
  primary : primaryItems digest request inputs (selectCandidates request inputs) = .ok main
  auxiliary : auxiliaryItems digest inputs (selectCandidates request inputs) = .ok extra
  wellFormed : ∀ item ∈ standingItems request (main.1 ++ extra.1),
    (signalOf digest request.policy item).wellFormed = true

theorem gather_eq_ok : gather digest request inputs = .ok gathered ↔
      ∃ primary auxiliary, Gathers digest request inputs primary auxiliary ∧
        gathered = gatheredOf digest request inputs primary auxiliary := by
  simp only [gather, bind_eq_ok, gatherStatuses_eq_ok, collectSignals_eq_ok, pure, Except.pure,
    Except.ok.injEq]
  constructor
  · rintro ⟨_, ⟨hnamed, rfl⟩, primary, hprimary, auxiliary, hauxiliary, _, ⟨hw, rfl⟩, rfl⟩
    exact ⟨primary, auxiliary, ⟨hnamed, hprimary, hauxiliary, hw⟩, rfl⟩
  · rintro ⟨primary, auxiliary, h, rfl⟩
    exact ⟨_, ⟨h.named, rfl⟩, primary, h.primary, auxiliary, h.auxiliary, _, ⟨h.wellFormed, rfl⟩,
      rfl⟩

/-- The items of a run, as the service reads them from its inputs. -/
def runItems (digest : FusionDigest R) (request : EvidenceFusionRequest R)
    (inputs : EvidenceFusionInputs R) : Except FusionExc (List (FusionEvidenceItem R)) := do
  let primary ← primaryItems digest request inputs (selectCandidates request inputs)
  let auxiliary ← auxiliaryItems digest inputs (selectCandidates request inputs)
  pure (primary.1 ++ auxiliary.1)

theorem runItems_of_gathers {primary auxiliary : BoundItems R}
    (h : Gathers digest request inputs primary auxiliary) :
    runItems digest request inputs = .ok (primary.1 ++ auxiliary.1) := by
  rw [runItems, h.primary]
  show (auxiliaryItems digest inputs (selectCandidates request inputs) >>= _) = _
  rw [h.auxiliary]
  rfl

/-- What is considered for one candidate, given its decision. -/
def consideredOf {D : Type} (digest : FusionDigest R) (request : EvidenceFusionRequest R)
    (gathered : GatheredEvidence R) (subject hypothesis : String) (kind : FusionSubjectKind)
    (expected : List (String × String))
    (conflictsOf : List (NormalizedEvidenceSignal R) → List Conflict)
    (record : List (NormalizedEvidenceSignal R) → List Conflict → List String → D) :
    Considered R D :=
  let signals := subjectSignals request gathered.signals subject
  let kept := (conflictsOf signals).take request.maxConflictsPerSubject
  let missing := subjectMissing request.policy gathered.statuses signals
  { decision := record signals kept missing
    conflicts := kept
    bundle := bundleOf digest subject kind hypothesis signals missing
      (subjectUnavailable gathered.statuses signals)
    failures := evidenceBoundFailures digest request gathered.signals subject ++
      candidateScopeFailures digest expected subject signals ++
      conflictBoundFailures digest request subject (conflictsOf signals) }

/-- What the loop makes of a relationship candidate. -/
def consideredRelationship (digest : FusionDigest R) (request : EvidenceFusionRequest R)
    (declared : List DeclaredInput) (gathered : GatheredEvidence R)
    (candidate : RelationshipCandidate) : Considered R (RelationshipDecision R) :=
  consideredOf digest request gathered candidate.subject
    (candidate.fromTable ++ " -> " ++ candidate.toTable) .relationship candidate.expectedSnapshots
    (relationshipConflicts digest request.policy gathered.relationships declared candidate)
    (relationshipRecord digest request gathered candidate)

theorem considerRelationship_eq_ok {declared : List DeclaredInput}
    {candidate : RelationshipCandidate} {considered : Considered R (RelationshipDecision R)} :
    considerRelationship digest request declared gathered candidate = .ok considered ↔
      (consideredRelationship digest request declared gathered candidate).decision.wellFormed =
          true ∧
        considered = consideredRelationship digest request declared gathered candidate := by
  simp only [considerRelationship, consider, relationshipDecision, bind_eq_ok, require_eq_ok, pure,
    Except.pure, Except.ok.injEq]
  constructor
  · rintro ⟨_, ⟨_, hw, rfl⟩, rfl⟩
    exact ⟨hw, rfl⟩
  · rintro ⟨hw, rfl⟩
    exact ⟨_, ⟨(), hw, rfl⟩, rfl⟩

/-- What the loop makes of a mapping candidate. -/
def consideredMapping (digest : FusionDigest R) (request : EvidenceFusionRequest R)
    (gathered : GatheredEvidence R) (candidate : MappingCandidate) :
    Considered R (SemanticMappingDecision R) :=
  consideredOf digest request gathered candidate.subject
    (candidate.sourceColumnId ++ " <-> " ++ candidate.targetColumnId) .mapping
    candidate.expectedSnapshots
    (mappingConflicts digest request.policy gathered.mappings candidate)
    (mappingRecord digest request gathered candidate)

theorem considerMapping_eq_ok {candidate : MappingCandidate}
    {considered : Considered R (SemanticMappingDecision R)} :
    considerMapping digest request gathered candidate = .ok considered ↔
      (consideredMapping digest request gathered candidate).decision.wellFormed = true ∧
        considered = consideredMapping digest request gathered candidate := by
  simp only [considerMapping, consider, mappingDecision, bind_eq_ok, require_eq_ok, pure,
    Except.pure, Except.ok.injEq]
  constructor
  · rintro ⟨_, ⟨_, hw, rfl⟩, rfl⟩
    exact ⟨hw, rfl⟩
  · rintro ⟨hw, rfl⟩
    exact ⟨_, ⟨(), hw, rfl⟩, rfl⟩

/-- The declared constraints that conflicts are looked for with. -/
def declaredInputs (inputs : EvidenceFusionInputs R) : List DeclaredInput :=
  inputs.declaredConstraints ++ inputs.catalogConstraints

/-- No decision breaks its contract. -/
structure DecisionsWellFormed (digest : FusionDigest R) (request : EvidenceFusionRequest R)
    (inputs : EvidenceFusionInputs R) (gathered : GatheredEvidence R) : Prop where
  relationships : ∀ candidate ∈ gathered.relationships,
    (consideredRelationship digest request (declaredInputs inputs) gathered
      candidate).decision.wellFormed = true
  mappings : ∀ candidate ∈ gathered.mappings,
    (consideredMapping digest request gathered candidate).decision.wellFormed = true

/-- The result, where no contract is broken. -/
def resultOf (digest : FusionDigest R) (request : EvidenceFusionRequest R)
    (inputs : EvidenceFusionInputs R) (gathered : GatheredEvidence R) : EvidenceFusionResult R :=
  assemble request gathered
    (gathered.relationships.map
      (consideredRelationship digest request (declaredInputs inputs) gathered))
    (gathered.mappings.map (consideredMapping digest request gathered))

/-- **A run**: what is gathered, and a well-formed decision for every candidate. -/
theorem fuse_eq_ok {result : EvidenceFusionResult R} : fuse digest request inputs = .ok result ↔
      ∃ primary auxiliary, Gathers digest request inputs primary auxiliary ∧
        DecisionsWellFormed digest request inputs
          (gatheredOf digest request inputs primary auxiliary) ∧
        result = resultOf digest request inputs
          (gatheredOf digest request inputs primary auxiliary) := by
  simp only [fuse, bind_eq_ok, gather_eq_ok, pure, Except.pure, Except.ok.injEq,
    mapM_eq_ok_iff fun _ _ => considerRelationship_eq_ok,
    mapM_eq_ok_iff fun _ _ => considerMapping_eq_ok]
  constructor
  · rintro ⟨_, ⟨primary, auxiliary, h, rfl⟩, _, ⟨hr, rfl⟩, _, ⟨hm, rfl⟩, rfl⟩
    exact ⟨primary, auxiliary, h, ⟨hr, hm⟩, rfl⟩
  · rintro ⟨primary, auxiliary, h, hw, rfl⟩
    exact ⟨_, ⟨primary, auxiliary, h, rfl⟩, _, ⟨hw.relationships, rfl⟩, _, ⟨hw.mappings, rfl⟩, rfl⟩

end
end DirtyDataOlap.Fusion

import DirtyDataOlap.ReviewReadiness

/-!
# Auxiliary evidence

Applied-ML and semantic results are read into the list of the scored evidence.  A decision depends
on the signals that bear a score, on whether some signal contradicts a dimension whose value that
turns, and on the statuses of the required families.  **Auxiliary evidence changes a decision only
where it takes the id of a scored item, or is the contradiction that turns a value**
(`auxiliary_evidence_noninterfering`).
-/
namespace DirtyDataOlap.Fusion

open List Bool EvidenceFamily

open Canonical (DecisionState)

variable {R : Type}

/-! ## Statuses -/

variable {status : ProducerEvidenceStatus} {family : EvidenceFamily}
  {policy : FusionPolicyReference R} {inputs : EvidenceFusionInputs R}

theorem statusKey_family : (ofLex (statusKey status)).1 = family.value ↔ status.family = family :=
  value_injective.eq_iff

theorem mem_settleGroup_of {digest : FusionDigest R} {group : List ProducerEvidenceStatus}
    (h : status ∈ settleGroup digest group) : status ∈ group := by
  unfold settleGroup at h
  split at h
  · exact mem_sortedBy.1 h
  · exact mem_of_mem_take h

theorem familyStatuses_uniqueStatuses (digest : FusionDigest R)
    (values : List ProducerEvidenceStatus) (family : EvidenceFamily) :
    familyStatuses (uniqueStatuses digest values) family =
      uniqueStatuses digest (familyStatuses values family) := by
  have hkeys : sortedSet ((familyStatuses values family).map statusKey) =
      (sortedSet (values.map statusKey)).filter fun key => (ofLex key).1 = family.value := by
    rw [filter_sortedSet, filter_map, familyStatuses]
    congr 2
    exact filter_congr fun status _ => by
      simp only [Function.comp_apply, statusKey_family]
  have hgroup : ∀ key : StatusKey, (settleGroup digest (statusGroup values key)).filter
      (fun status => status.family = family) =
      if (ofLex key).1 = family.value then
        settleGroup digest (statusGroup (familyStatuses values family) key) else [] := by
    intro key
    have hmem : ∀ status ∈ settleGroup digest (statusGroup values key),
        (status.family = family ↔ (ofLex key).1 = family.value) := by
      intro status hstatus
      rw [← (mem_statusGroup.1 (mem_settleGroup_of hstatus)).2, statusKey_family]
    by_cases hkey : (ofLex key).1 = family.value
    · have hsame : statusGroup (familyStatuses values family) key = statusGroup values key := by
        rw [statusGroup, familyStatuses, filter_filter]
        refine filter_congr fun status _ => ?_
        by_cases hs : statusKey status = key
        · have hfamily : status.family = family := statusKey_family.1 (hs ▸ hkey)
          simp [hs, hfamily]
        · simp [hs]
      rw [if_pos hkey, hsame, filter_eq_self.2]
      exact fun status hstatus => decide_eq_true ((hmem status hstatus).2 hkey)
    · rw [if_neg hkey, filter_eq_nil_iff]
      exact fun status hstatus h => hkey ((hmem status hstatus).1 (of_decide_eq_true h))
  rw [familyStatuses, uniqueStatuses, filter_flatMap, uniqueStatuses, hkeys]
  simp only [hgroup]
  generalize sortedSet (values.map statusKey) = keys
  induction keys with
  | nil => rfl
  | cons key keys ih =>
    rw [flatMap_cons, ih]
    by_cases hkey : (ofLex key).1 = family.value <;> simp [hkey]

theorem subjectMissing_congr {statuses statuses' : List ProducerEvidenceStatus}
    {signals signals' : List (NormalizedEvidenceSignal R)}
    (hstatuses : ∀ family ∈ requiredFamilies policy,
      familyStatuses statuses family = familyStatuses statuses' family)
    (hdimensions : missingDimensions policy signals = missingDimensions policy signals')
    (hmatcher : missingMatcher policy signals = missingMatcher policy signals') :
    subjectMissing policy statuses signals = subjectMissing policy statuses' signals' := by
  have hproducers : (sortedBy value (requiredFamilies policy).dedup).flatMap
      (missingProducers statuses) = (sortedBy value
        (requiredFamilies policy).dedup).flatMap (missingProducers statuses') := by
    apply flatMap_congr
    intro family hfamily
    rw [mem_sortedBy, mem_dedup] at hfamily
    rw [missingProducers, missingProducers, hstatuses family hfamily]
  rw [subjectMissing, subjectMissing, hproducers, hdimensions, hmatcher]

/-- The inputs with other auxiliary results. -/
def EvidenceFusionInputs.withAuxiliary (inputs : EvidenceFusionInputs R)
    (learned : List (AppliedMLResult R)) (semantic : List SemanticInput) : EvidenceFusionInputs R :=
  { inputs with appliedMlResults := learned, semanticResults := semantic }

variable (policy) in
/-- The policy requires neither auxiliary family. -/
def AuxiliaryOptional : Prop :=
  semanticAi ∉ policy.requiredProducerFamilies ∧
    appliedMl ∉ policy.requiredProducerFamilies

theorem auxiliaryStatuses_family (h : status ∈ auxiliaryStatuses inputs) :
    status.family = .appliedMl ∨ status.family = .semanticAi := by
  rcases mem_append.1 h with h | h
  · obtain ⟨result, _, rfl⟩ := mem_map.1 h
    exact .inl rfl
  · obtain ⟨result, _, rfl⟩ := mem_map.1 h
    cases result <;> exact .inr rfl

theorem requiredFamilies_not_auxiliary (h : AuxiliaryOptional policy)
    (hfamily : family ∈ requiredFamilies policy) : family ≠ .appliedMl ∧ family ≠ .semanticAi := by
  unfold requiredFamilies at hfamily
  split at hfamily
  · revert hfamily
    cases family <;> decide
  · exact ⟨fun he => h.2 (he ▸ hfamily), fun he => h.1 (he ▸ hfamily)⟩

/-- The statuses of a family that is not auxiliary do not depend on the auxiliary results. -/
theorem familyStatuses_withAuxiliary {learned : List (AppliedMLResult R)}
    {semantic : List SemanticInput} (h : family ≠ .appliedMl ∧ family ≠ .semanticAi) :
    familyStatuses (allStatuses (inputs.withAuxiliary learned semantic)) family =
      familyStatuses (inputs.producerStatuses ++ primaryStatuses inputs) family := by
  have hnone : familyStatuses (auxiliaryStatuses (inputs.withAuxiliary learned semantic)) family =
      [] := by
    rw [familyStatuses, filter_eq_nil_iff]
    intro status hstatus hfamily
    rw [decide_eq_true_eq] at hfamily
    rcases auxiliaryStatuses_family hstatus with he | he
    · exact h.1 (hfamily.symm.trans he)
    · exact h.2 (hfamily.symm.trans he)
  rw [allStatuses, ← append_assoc]
  show List.filter _ (_ ++ _) = _
  rw [filter_append]
  show _ ++ familyStatuses (auxiliaryStatuses (inputs.withAuxiliary learned semantic)) family = _
  rw [hnone, append_nil]
  rfl

/-! ## What a score reads -/

section
variable {policy : FusionPolicyReference R} {signals signals' : List (NormalizedEvidenceSignal R)}

variable {p : NormalizedEvidenceSignal R → Bool} {signal : NormalizedEvidenceSignal R}

theorem any_filter_scored (hp : ∀ signal, p signal = true → signal.scoreBearing = true) :
    (signals.filter (·.scoreBearing)).any p = signals.any p := by
  rw [any_filter, Bool.eq_iff_iff, any_eq_true, any_eq_true]
  constructor
  · rintro ⟨signal, hsignal, h⟩
    exact ⟨signal, hsignal, (and_eq_true_iff.1 h).2⟩
  · rintro ⟨signal, hsignal, h⟩
    exact ⟨signal, hsignal, and_eq_true_iff.2 ⟨hp signal h, h⟩⟩

theorem any_eq_of_scored (hp : ∀ signal, p signal = true → signal.scoreBearing = true)
    (h : signals.filter (·.scoreBearing) = signals'.filter (·.scoreBearing)) :
    signals.any p = signals'.any p := by
  rw [← any_filter_scored hp, h, any_filter_scored hp]

variable [ScoreArithmetic R]

theorem normalizeDimension_filter (signals : List (NormalizedEvidenceSignal R)) (dimensionId : String) :
    normalizeDimension (signals.filter (·.scoreBearing)) dimensionId =
      normalizeDimension signals dimensionId := by
  have hvalues : ((signals.filter (·.scoreBearing)).filter fun signal => signal.scoreBearing &&
      signal.normalizedValue.isSome && signal.scoreDimensionId = some dimensionId) =
      signals.filter fun signal => signal.scoreBearing && signal.normalizedValue.isSome &&
        signal.scoreDimensionId = some dimensionId := by
    rw [filter_filter]
    apply filter_congr
    intro signal _
    cases hscore : signal.scoreBearing <;> simp
  rw [normalizeDimension, normalizeDimension, hvalues]

theorem normalizeDimension_eq_of_scored (dimensionId : String)
    (h : signals.filter (·.scoreBearing) = signals'.filter (·.scoreBearing)) :
    normalizeDimension signals dimensionId = normalizeDimension signals' dimensionId := by
  rw [← normalizeDimension_filter signals, h, normalizeDimension_filter]

/-- A dimension has a value only if a signal bears one for it. -/
theorem exists_scored {dimensionId : String} {value : R}
    (h : normalizeDimension signals dimensionId = some value) : ∃ signal ∈ signals,
      signal.scoreBearing = true ∧ signal.scoreDimensionId = some dimensionId := by
  have hvalues : (signals.filter fun signal => signal.scoreBearing &&
      signal.normalizedValue.isSome && signal.scoreDimensionId = some dimensionId) ≠ [] := by
    intro hnil
    simp [normalizeDimension, hnil] at h
  obtain ⟨signal, hsignal⟩ := exists_mem_of_ne_nil _ hvalues
  obtain ⟨hmem, hkept⟩ := mem_filter.1 hsignal
  obtain ⟨hscored, hdimension⟩ := and_eq_true_iff.1 hkept
  exact ⟨signal, hmem, (and_eq_true_iff.1 hscored).1, of_decide_eq_true hdimension⟩

variable (policy signals signals') in
/-- Two lists of signals contradict the same dimensions, as far as that turns a value. -/
def TurnAlike : Prop :=
  ∀ dimension ∈ policy.scoringDimensions, dimension.required = true →
    turnable policy dimension = true → (∃ signal ∈ signals, signal.scoreBearing = true ∧
        signal.scoreDimensionId = some dimension.dimensionId) →
      signals.any (contradicts dimension.dimensionId) =
        signals'.any (contradicts dimension.dimensionId)

/-- **A score depends on the scored signals and on the contradictions that turn a value only.** -/
theorem scoreOf_eq_of_scored (hturn : TurnAlike policy signals signals')
    (h : signals.filter (·.scoreBearing) = signals'.filter (·.scoreBearing)) :
    scoreOf policy signals = scoreOf policy signals' := by
  have hrequired : ∀ (t : Tally R), ∀ dimension ∈ policy.scoringDimensions,
      requiredStep policy signals t dimension = requiredStep policy signals' t dimension := by
    intro t dimension hdimension
    unfold requiredStep
    cases hreq : dimension.required with
    | false => rfl
    | true =>
      cases hvalue : normalizeDimension signals dimension.dimensionId with
      | none => rw [← normalizeDimension_eq_of_scored _ h, hvalue]
      | some value =>
        have hsigned : signedValue policy signals dimension value =
            signedValue policy signals' dimension value := by
          unfold signedValue
          cases hturnable : turnable policy dimension with
          | false => rfl
          | true => rw [hturn dimension hdimension hreq hturnable (exists_scored hvalue)]
        rw [← normalizeDimension_eq_of_scored _ h, hvalue]
        simp only [hsigned]
  have hoptional : ∀ (t : Tally R), ∀ dimension ∈ policy.scoringDimensions,
      optionalStep signals t dimension = optionalStep signals' t dimension := by
    intro t dimension _
    have hscored : scoredDimension signals dimension.dimensionId =
        scoredDimension signals' dimension.dimensionId := by
      refine any_eq_of_scored (fun signal hs => ?_) h
      exact (and_eq_true_iff.1 (and_eq_true_iff.1 hs).1).1
    rw [optionalStep, optionalStep, hscored, normalizeDimension_eq_of_scored _ h]
  have htally : tally policy signals = tally policy signals' := by
    simp only [tally]
    rw [foldl_ext _ _ _ hrequired, foldl_ext _ _ _ hoptional]
  rw [scoreOf, scoreOf, htally]

omit [ScoreArithmetic R] in
theorem scoreBearing_of_counts (h : signal.counts = true) :
    signal.scoreBearing = true := (and_eq_true_iff.1 h).2

omit [ScoreArithmetic R] in
/-- **Missing evidence depends on the scored signals**, and the required families, only. -/
theorem subjectMissing_eq_of_scored {statuses statuses' : List ProducerEvidenceStatus}
    (hstatuses : ∀ family ∈ requiredFamilies policy,
      familyStatuses statuses family = familyStatuses statuses' family)
    (h : signals.filter (·.scoreBearing) = signals'.filter (·.scoreBearing)) :
    subjectMissing policy statuses signals = subjectMissing policy statuses' signals' := by
  apply subjectMissing_congr hstatuses
  · unfold missingDimensions
    congr 1
    apply filter_congr
    intro dimension _
    rw [any_eq_of_scored (fun signal hs => scoreBearing_of_counts (and_eq_true_iff.1 hs).1) h]
  · unfold missingMatcher
    rw [any_eq_of_scored (fun signal hs =>
      scoreBearing_of_counts (and_eq_true_iff.1 (and_eq_true_iff.1 hs).1).1) h]

end

/-! ## Auxiliary items -/

variable [ScoreArithmetic R]

section
variable {digest : FusionDigest R}

variable {item : FusionEvidenceItem R}

omit [ScoreArithmetic R] in
theorem auxiliaryItems_spec {inputs : EvidenceFusionInputs R} {selection : Selection}
    {auxiliary : BoundItems R} (h : auxiliaryItems digest inputs selection = .ok auxiliary)
    (hitem : item ∈ auxiliary.1) : item.scoreBearing = false ∧ item.snapshotBySource = [] := by
  simp only [auxiliaryItems, bind_eq_ok, pure, Except.pure, Except.ok.injEq] at h
  obtain ⟨learned, hlearned, semantic, hsemantic, rfl⟩ := h
  rcases mem_append.1 hitem with hmem | hmem
  · obtain ⟨read, hread, hmem⟩ := mem_flatMap.1 hmem
    obtain ⟨result, _, hresult⟩ := exists_left_of_forall₂ (mapM_eq_ok.1 hlearned) hread
    simp only [mlItems, bind_eq_ok, checkItems_eq_ok, pure, Except.pure, Except.ok.injEq] at hresult
    obtain ⟨_, ⟨_, rfl⟩, rfl⟩ := hresult
    obtain ⟨evidence, _, heq⟩ := mem_filterMap.1 hmem
    obtain ⟨subject, _, rfl⟩ := Option.map_eq_some_iff.1 heq
    exact ⟨rfl, rfl⟩
  · obtain ⟨read, hread, hmem⟩ := mem_flatMap.1 hmem
    obtain ⟨result, _, hresult⟩ := exists_left_of_forall₂ (mapM_eq_ok.1 hsemantic) hread
    unfold semanticResultItems at hresult
    split at hresult
    · cases hresult
      cases hmem
    · split at hresult
      · cases hresult
        cases hmem
      · simp only [bind_eq_ok, checkItems_eq_ok, pure, Except.pure, Except.ok.injEq] at hresult
        obtain ⟨_, ⟨_, rfl⟩, rfl⟩ := hresult
        obtain ⟨hypothesis, _, rfl⟩ := mem_map.1 hmem
        exact ⟨rfl, rfl⟩

section

variable (digest : FusionDigest R) (policy : FusionPolicyReference R)

/-- An item that a run depends on: its signal bears a score, or breaks its contract. -/
def material (item : FusionEvidenceItem R) : Bool :=
  (signalOf digest policy item).scoreBearing || !(signalOf digest policy item).wellFormed

/-- The signal of an auxiliary item is well formed, and bears no score. -/
theorem signalOf_auxiliary (hscore : item.scoreBearing = false)
    (hsnapshots : item.snapshotBySource = []) : (signalOf digest policy item).scoreBearing = false ∧
      (signalOf digest policy item).wellFormed = true := by
  have hnormalized : normalizedOf digest policy item = none := by
    rw [normalizedOf, FusionEvidenceItem.scored, hscore]
    rfl
  constructor
  · show (normalizedOf digest policy item).isSome = false
    rw [hnormalized]
    rfl
  · have hvalue : (signalOf digest policy item).normalizedValue = none := by
      show (normalizedOf digest policy item).map Prod.fst = none
      rw [hnormalized]
      rfl
    have hempty : (signalOf digest policy item).snapshotBySource = [] := hsnapshots
    rw [NormalizedEvidenceSignal.wellFormed, hvalue, hempty]
    simp

/-- No subject has more signals than the request reads. -/
def NothingDiscarded (request : EvidenceFusionRequest R) (inputs : EvidenceFusionInputs R) : Prop :=
  ∀ gathered, gather digest request inputs = .ok gathered →
    ∀ subject ∈ gathered.relationships.map (·.subject) ++ gathered.mappings.map (·.subject),
      (subjectEvidence gathered.signals subject).length ≤ request.maxEvidencePerSubject

/-- An item about the subject keeps its id and bears a score for the dimension. -/
def Valued (request : EvidenceFusionRequest R) (items : List (FusionEvidenceItem R))
    (subject dimensionId : String) : Prop :=
  ∃ item ∈ standingItems request items, item.subjectId = subject ∧
    (signalOf digest request.policy item).scoreBearing = true ∧
      (signalOf digest request.policy item).scoreDimensionId = some dimensionId

/-- An item about the subject keeps its id and contradicts the dimension. -/
def Turned (request : EvidenceFusionRequest R) (items : List (FusionEvidenceItem R))
    (subject dimensionId : String) : Prop :=
  ∃ item ∈ standingItems request items, item.subjectId = subject ∧
    contradicts dimensionId (signalOf digest request.policy item) = true

/-- With the items of either run, the same items that a run depends on keep their ids, and the same
values are turned. -/
structure AuxiliaryAgree (request : EvidenceFusionRequest R) (subjects : List String)
    (primary auxiliary auxiliary' : List (FusionEvidenceItem R)) : Prop where
  kept : ∀ item ∈ primary, material digest request.policy item = true →
    (item ∈ standingItems request (primary ++ auxiliary) ↔
      item ∈ standingItems request (primary ++ auxiliary'))
  turned : ∀ subject ∈ subjects, ∀ dimension ∈ request.policy.scoringDimensions,
    dimension.required = true → turnable request.policy dimension = true →
      Valued digest request (primary ++ auxiliary) subject dimension.dimensionId →
        (Turned digest request (primary ++ auxiliary) subject dimension.dimensionId ↔
          Turned digest request (primary ++ auxiliary') subject dimension.dimensionId)

/-- The auxiliary results of the second run have ids and contents that fuse, and its items take no id
and turn no value that those of the first do not. -/
structure AuxiliaryHarmless (request : EvidenceFusionRequest R) (inputs inputs' : EvidenceFusionInputs R) :
    Prop where
  named : ∀ status ∈ auxiliaryStatuses inputs', StatusNamed status
  wellFormed : ∃ auxiliary',
    auxiliaryItems digest inputs' (selectCandidates request inputs) = .ok auxiliary'
  agree : ∀ primary auxiliary auxiliary',
    primaryItems digest request inputs (selectCandidates request inputs) = .ok primary →
    auxiliaryItems digest inputs (selectCandidates request inputs) = .ok auxiliary →
    auxiliaryItems digest inputs' (selectCandidates request inputs) = .ok auxiliary' →
    AuxiliaryAgree digest request
      ((selectCandidates request inputs).relationships.map (·.subject) ++
        (selectCandidates request inputs).mappings.map (·.subject)) primary.1 auxiliary.1 auxiliary'.1

end

variable {request : EvidenceFusionRequest R} {inputs : EvidenceFusionInputs R}

theorem standing_material {primary auxiliary : List (FusionEvidenceItem R)}
    (hauxiliary : ∀ item ∈ auxiliary, material digest request.policy item = false) :
    (standingItems request (primary ++ auxiliary)).filter (material digest request.policy) =
      (readItems request (primary.filter (material digest request.policy))).filter fun item =>
        stands (·.evidenceId) payload (readItems request (primary ++ auxiliary)) item := by
  have hnone : auxiliary.filter (material digest request.policy) = [] :=
    filter_eq_nil_iff.2 fun item hitem => by simp [hauxiliary item hitem]
  have hread : readItems request (primary.filter (material digest request.policy)) =
      (readItems request (primary ++ auxiliary)).filter (material digest request.policy) := by
    have hsplit : primary.filter (material digest request.policy) =
        (primary ++ auxiliary).filter (material digest request.policy) := by
      rw [filter_append, hnone, append_nil]
    rw [hsplit, readItems, readItems, filter_filter, ← filter_sortedBy_comm, filter_filter]
    exact filter_congr fun item _ => Bool.and_comm _ _
  rw [hread, standingItems, filter_filter, filter_filter]
  exact filter_congr fun item _ => Bool.and_comm _ _

/-- **Runs that keep the same ids** have the same standing items that they depend on. -/
theorem standing_material_eq {primary auxiliary auxiliary' : List (FusionEvidenceItem R)}
    {subjects : List String}
    (h : AuxiliaryAgree digest request subjects primary auxiliary auxiliary')
    (hauxiliary : ∀ item ∈ auxiliary, material digest request.policy item = false)
    (hauxiliary' : ∀ item ∈ auxiliary', material digest request.policy item = false) :
    (standingItems request (primary ++ auxiliary)).filter (material digest request.policy) =
      (standingItems request (primary ++ auxiliary')).filter (material digest request.policy) := by
  rw [standing_material hauxiliary, standing_material hauxiliary']
  apply filter_congr
  intro item hitem
  obtain ⟨hmem, hlive⟩ := mem_readItems.1 hitem
  obtain ⟨hmem, hmaterial⟩ := mem_filter.1 hmem
  have hstanding : ∀ others : List (FusionEvidenceItem R),
      item ∈ standingItems request (primary ++ others) ↔
        stands (·.evidenceId) payload (readItems request (primary ++ others)) item = true := by
    intro others
    rw [standingItems, mem_filter]
    exact and_iff_right (mem_readItems.2 ⟨mem_append_left _ hmem, hlive⟩)
  rw [Bool.eq_iff_iff, ← hstanding, ← hstanding]
  exact h.kept item hmem hmaterial

/-- Runs with the same standing items that they depend on have the same scored signals. -/
theorem subjectEvidence_scored {items items' : List (FusionEvidenceItem R)}
    (h : items.filter (material digest request.policy) =
      items'.filter (material digest request.policy)) (subject : String) :
    (subjectEvidence (items.map (signalOf digest request.policy)) subject).filter (·.scoreBearing) =
      (subjectEvidence (items'.map (signalOf digest request.policy)) subject).filter
        (·.scoreBearing) := by
  have hsplit : ∀ xs : List (FusionEvidenceItem R),
      (subjectEvidence (xs.map (signalOf digest request.policy)) subject).filter (·.scoreBearing) =
      ((xs.filter (material digest request.policy)).filter fun item =>
        (signalOf digest request.policy item).scoreBearing &&
          decide (item.subjectId = subject)).map (signalOf digest request.policy) := by
    intro xs
    rw [subjectEvidence, filter_filter, filter_map, filter_filter]
    congr 1
    apply filter_congr
    intro item _
    show ((signalOf digest request.policy item).scoreBearing &&
      decide (item.subjectId = subject)) = _
    cases hscored : (signalOf digest request.policy item).scoreBearing <;>
      simp [material, hscored]
  rw [hsplit, hsplit, h]

theorem mem_subjectEvidence {items : List (FusionEvidenceItem R)} {subject : String}
    {signal : NormalizedEvidenceSignal R} :
    signal ∈ subjectEvidence (items.map (signalOf digest request.policy)) subject ↔
      ∃ item ∈ items, item.subjectId = subject ∧ signalOf digest request.policy item = signal := by
  rw [subjectEvidence, mem_filter, mem_map]
  constructor
  · rintro ⟨⟨item, hitem, rfl⟩, hsubject⟩
    exact ⟨item, hitem, of_decide_eq_true hsubject, rfl⟩
  · rintro ⟨item, hitem, hsubject, rfl⟩
    exact ⟨⟨item, hitem, rfl⟩, decide_eq_true hsubject⟩

theorem turned_iff {items : List (FusionEvidenceItem R)} {subject dimensionId : String} :
    Turned digest request items subject dimensionId ↔
      (subjectEvidence ((standingItems request items).map (signalOf digest request.policy))
        subject).any (contradicts dimensionId) = true := by
  rw [any_eq_true]
  constructor
  · rintro ⟨item, hitem, hsubject, hcontra⟩
    exact ⟨_, mem_subjectEvidence.2 ⟨item, hitem, hsubject, rfl⟩, hcontra⟩
  · rintro ⟨signal, hsignal, hcontra⟩
    obtain ⟨item, hitem, hsubject, rfl⟩ := mem_subjectEvidence.1 hsignal
    exact ⟨item, hitem, hsubject, hcontra⟩

/-! ## Two runs -/

/-- What a decision says about its candidate. -/
def FusionDecision.outcome (decision : FusionDecision R) :
    String × FusionScore R × List String × DecisionState :=
  (decision.candidateId, decision.score, decision.missingEvidenceRefs, decision.decisionState)

/-- Two results say the same about every candidate. -/
def SameDecisions (a b : EvidenceFusionResult R) : Prop :=
  a.relationships.map (·.toFusionDecision.outcome) =
      b.relationships.map (·.toFusionDecision.outcome) ∧
    a.mappings.map (·.toFusionDecision.outcome) = b.mappings.map (·.toFusionDecision.outcome)

variable (request) in
/-- Two runs agree on what decisions depend on. -/
structure AgreeOn (a b : GatheredEvidence R) : Prop where
  relationships : a.relationships = b.relationships
  mappings : a.mappings = b.mappings
  statuses : ∀ family ∈ requiredFamilies request.policy,
    familyStatuses a.statuses family = familyStatuses b.statuses family
  scored : ∀ subject ∈ a.relationships.map (·.subject) ++ a.mappings.map (·.subject),
    (subjectSignals request a.signals subject).filter (·.scoreBearing) =
      (subjectSignals request b.signals subject).filter (·.scoreBearing)
  turned : ∀ subject ∈ a.relationships.map (·.subject) ++ a.mappings.map (·.subject),
    TurnAlike request.policy (subjectSignals request a.signals subject)
      (subjectSignals request b.signals subject)

section
variable {a b : GatheredEvidence R}

/-- **Runs that agree decide the same about a relationship.** -/
theorem consideredRelationship_outcome (digest : FusionDigest R)
    (declared declared' : List DeclaredInput) (h : AgreeOn request a b)
    {candidate : RelationshipCandidate} (hmem : candidate ∈ a.relationships) :
    (consideredRelationship digest request declared a candidate).decision.toFusionDecision.outcome =
      (consideredRelationship digest request declared' b
        candidate).decision.toFusionDecision.outcome := by
  have hsubject : candidate.subject ∈ a.relationships.map (·.subject) ++ a.mappings.map (·.subject) :=
    mem_append_left _ (mem_map.2 ⟨candidate, hmem, rfl⟩)
  have hscore := scoreOf_eq_of_scored (h.turned candidate.subject hsubject)
    (h.scored candidate.subject hsubject)
  have hmissing := subjectMissing_eq_of_scored h.statuses (h.scored candidate.subject hsubject)
  have houtcome : ∀ (g : GatheredEvidence R) (d : List DeclaredInput),
      (consideredRelationship digest request d g candidate).decision.toFusionDecision.outcome =
        (candidate.candidateId,
          scoreOf request.policy (subjectSignals request g.signals candidate.subject),
          subjectMissing request.policy g.statuses
            (subjectSignals request g.signals candidate.subject),
          relationshipState request.policy (subjectMissing request.policy g.statuses
            (subjectSignals request g.signals candidate.subject))) := fun _ _ => rfl
  rw [houtcome, houtcome, hscore, hmissing]

/-- **Runs that agree decide the same about a mapping.** -/
theorem consideredMapping_outcome (digest : FusionDigest R) (h : AgreeOn request a b)
    {candidate : MappingCandidate} (hmem : candidate ∈ a.mappings) :
    (consideredMapping digest request a candidate).decision.toFusionDecision.outcome =
      (consideredMapping digest request b candidate).decision.toFusionDecision.outcome := by
  have hsubject : candidate.subject ∈ a.relationships.map (·.subject) ++ a.mappings.map (·.subject) :=
    mem_append_right _ (mem_map.2 ⟨candidate, hmem, rfl⟩)
  have hscore := scoreOf_eq_of_scored (h.turned candidate.subject hsubject)
    (h.scored candidate.subject hsubject)
  have hmissing := subjectMissing_eq_of_scored h.statuses (h.scored candidate.subject hsubject)
  have houtcome : ∀ g : GatheredEvidence R,
      (consideredMapping digest request g candidate).decision.toFusionDecision.outcome =
        (candidate.candidateId,
          scoreOf request.policy (subjectSignals request g.signals candidate.subject),
          subjectMissing request.policy g.statuses
            (subjectSignals request g.signals candidate.subject),
          mappingState (subjectMissing request.policy g.statuses
            (subjectSignals request g.signals candidate.subject))) := fun _ => rfl
  rw [houtcome, houtcome, hscore, hmissing]

variable {inputs' : EvidenceFusionInputs R}

/-- Whether a decision is well formed depends on its score and its candidate only. -/
theorem decisionsWellFormed_of_agreeOn (h : AgreeOn request a b)
    (hwell : DecisionsWellFormed digest request inputs a) :
    DecisionsWellFormed digest request inputs' b := by
  constructor
  case relationships =>
    intro candidate hmem
    rw [← h.relationships] at hmem
    have hscore : (consideredRelationship digest request (declaredInputs inputs) a
        candidate).decision.score = (consideredRelationship digest request (declaredInputs inputs') b
        candidate).decision.score :=
      congrArg (fun outcome => outcome.2.1) (consideredRelationship_outcome digest (declaredInputs inputs)
        (declaredInputs inputs') h hmem)
    have hdecision := hwell.relationships candidate hmem
    unfold RelationshipDecision.wellFormed FusionDecision.wellFormed at hdecision ⊢
    rw [hscore] at hdecision
    exact hdecision
  case mappings =>
    intro candidate hmem
    rw [← h.mappings] at hmem
    have hscore : (consideredMapping digest request a candidate).decision.score =
        (consideredMapping digest request b candidate).decision.score :=
      congrArg (fun outcome => outcome.2.1) (consideredMapping_outcome digest h hmem)
    have hdecision := hwell.mappings candidate hmem
    unfold SemanticMappingDecision.wellFormed FusionDecision.wellFormed at hdecision ⊢
    rw [hscore] at hdecision
    exact hdecision

/-- **Runs that agree have the same decisions.** -/
theorem sameDecisions_of_agreeOn (h : AgreeOn request a b) :
    SameDecisions (resultOf digest request inputs a) (resultOf digest request inputs' b) := by
  constructor
  · simp only [resultOf, assemble, map_map, ← h.relationships]
    exact map_congr_left fun candidate hmem => consideredRelationship_outcome digest
      (declaredInputs inputs) (declaredInputs inputs') h hmem
  · simp only [resultOf, assemble, map_map, ← h.mappings]
    exact map_congr_left fun candidate hmem => consideredMapping_outcome digest h hmem

end

section
variable {learned learned' : List (AppliedMLResult R)} {semantic semantic' : List SemanticInput}

theorem auxiliary_not_material {inputs : EvidenceFusionInputs R} {selection : Selection}
    {auxiliary : BoundItems R} (h : auxiliaryItems digest inputs selection = .ok auxiliary) :
    ∀ item ∈ auxiliary.1, material digest request.policy item = false := by
  intro item hitem
  obtain ⟨hscore, hsnapshots⟩ := auxiliaryItems_spec h hitem
  obtain ⟨hbearing, hwell⟩ := signalOf_auxiliary digest request.policy hscore hsnapshots
  rw [material, hbearing, hwell]
  rfl

/-- With harmless auxiliary results, a run comes through whenever the other one does. -/
theorem gathers_withAuxiliary {primary auxiliary : BoundItems R}
    (h : AuxiliaryHarmless digest request (inputs.withAuxiliary learned semantic)
      (inputs.withAuxiliary learned' semantic'))
    (hgathers : Gathers digest request (inputs.withAuxiliary learned semantic) primary auxiliary) :
    ∃ auxiliary',
      Gathers digest request (inputs.withAuxiliary learned' semantic') primary auxiliary' := by
  obtain ⟨auxiliary', hauxiliary'⟩ := h.wellFormed
  refine ⟨auxiliary', ?_, hgathers.primary, hauxiliary', ?_⟩
  · intro status hstatus
    rcases mem_append.1 hstatus with hmem | hmem
    · exact hgathers.named status (mem_append_left _ hmem)
    · exact h.named status hmem
  · intro item hitem
    cases hmaterial : material digest request.policy item with
    | false => simpa using (or_eq_false_iff.1 hmaterial).2
    | true =>
      have hkept : item ∈ (standingItems request (primary.1 ++ auxiliary'.1)).filter
          (material digest request.policy) := mem_filter.2 ⟨hitem, hmaterial⟩
      rw [← standing_material_eq (h.agree _ _ _ hgathers.primary hgathers.auxiliary hauxiliary')
        (auxiliary_not_material hgathers.auxiliary) (auxiliary_not_material hauxiliary')] at hkept
      exact hgathers.wellFormed item (mem_filter.1 hkept).1

theorem agreeOn_withAuxiliary {primary auxiliary auxiliary' : BoundItems R}
    (hoptional : AuxiliaryOptional request.policy)
    (h : AuxiliaryHarmless digest request (inputs.withAuxiliary learned semantic)
      (inputs.withAuxiliary learned' semantic'))
    (hbound : NothingDiscarded digest request (inputs.withAuxiliary learned semantic))
    (hbound' : NothingDiscarded digest request (inputs.withAuxiliary learned' semantic'))
    (hgathers : Gathers digest request (inputs.withAuxiliary learned semantic) primary auxiliary)
    (hgathers' : Gathers digest request (inputs.withAuxiliary learned' semantic') primary
      auxiliary') : AgreeOn request
      (gatheredOf digest request (inputs.withAuxiliary learned semantic) primary auxiliary)
      (gatheredOf digest request (inputs.withAuxiliary learned' semantic') primary auxiliary') := by
  have hagree := h.agree _ _ _ hgathers.primary hgathers.auxiliary hgathers'.auxiliary
  have hall := hbound _ (gather_eq_ok.2 ⟨_, _, hgathers, rfl⟩)
  have hall' := hbound' _ (gather_eq_ok.2 ⟨_, _, hgathers', rfl⟩)
  constructor
  case relationships => rfl
  case mappings => rfl
  case statuses =>
    intro family hfamily
    have hnot := requiredFamilies_not_auxiliary hoptional hfamily
    show familyStatuses (uniqueStatuses digest _) family =
      familyStatuses (uniqueStatuses digest _) family
    rw [familyStatuses_uniqueStatuses, familyStatuses_uniqueStatuses,
      familyStatuses_withAuxiliary hnot, familyStatuses_withAuxiliary hnot]
  case scored =>
    intro subject hsubject
    rw [subjectSignals, subjectSignals, take_of_length_le (hall subject hsubject),
      take_of_length_le (hall' subject hsubject)]
    exact subjectEvidence_scored (standing_material_eq hagree
      (auxiliary_not_material hgathers.auxiliary) (auxiliary_not_material hgathers'.auxiliary)) subject
  case turned =>
    intro subject hsubject dimension hdimension hrequired hturnable
    rw [subjectSignals, subjectSignals, take_of_length_le (hall subject hsubject),
      take_of_length_le (hall' subject hsubject)]
    rintro ⟨signal, hsignal, hscored, hfiled⟩
    obtain ⟨item, hitem, hname, rfl⟩ := mem_subjectEvidence.1 hsignal
    have hturned := hagree.turned subject hsubject dimension hdimension hrequired hturnable
      ⟨item, hitem, hname, hscored, hfiled⟩
    rw [turned_iff, turned_iff, ← Bool.eq_iff_iff] at hturned
    exact hturned

end
end

/-- **Auxiliary evidence that takes no id and turns no value cannot influence decisions.** -/
theorem auxiliary_evidence_noninterfering {digest : FusionDigest R}
    {request : EvidenceFusionRequest R} {inputs : EvidenceFusionInputs R}
    {learned learned' : List (AppliedMLResult R)} {semantic semantic' : List SemanticInput}
    {result : EvidenceFusionResult R} (hoptional : AuxiliaryOptional request.policy)
    (hbound : NothingDiscarded digest request (inputs.withAuxiliary learned semantic))
    (hbound' : NothingDiscarded digest request (inputs.withAuxiliary learned' semantic'))
    (hharmless : AuxiliaryHarmless digest request (inputs.withAuxiliary learned semantic)
      (inputs.withAuxiliary learned' semantic'))
    (h : fuse digest request (inputs.withAuxiliary learned semantic) = .ok result) :
    ∃ result', fuse digest request (inputs.withAuxiliary learned' semantic') = .ok result' ∧
      SameDecisions result result' := by
  obtain ⟨primary, auxiliary, hgathers, hdecisions, rfl⟩ := fuse_eq_ok.1 h
  obtain ⟨auxiliary', hgathers'⟩ := gathers_withAuxiliary hharmless hgathers
  have hagree := agreeOn_withAuxiliary hoptional hharmless hbound hbound' hgathers hgathers'
  exact ⟨_, fuse_eq_ok.2 ⟨_, _, hgathers', decisionsWellFormed_of_agreeOn hagree hdecisions, rfl⟩,
    sameDecisions_of_agreeOn hagree⟩

/-! ### Rankings and hypotheses about a mapping -/

instance (digest : FusionDigest R) (request : EvidenceFusionRequest R)
    (inputs : EvidenceFusionInputs R) : Decidable (NothingDiscarded digest request inputs) :=
  decidable_of_iff ((gather digest request inputs).toOption.all fun gathered =>
    (gathered.relationships.map (·.subject) ++ gathered.mappings.map (·.subject)).all fun subject =>
      (subjectEvidence gathered.signals subject).length ≤ request.maxEvidencePerSubject) <| by
    unfold NothingDiscarded
    cases gather digest request inputs with
    | error e => simp [Except.toOption]
    | ok gathered =>
      simp only [Except.toOption, Option.all_some, all_eq_true, decide_eq_true_eq,
        Except.ok.injEq, forall_eq']

instance (digest : FusionDigest R) (request : EvidenceFusionRequest R)
    (items : List (FusionEvidenceItem R)) (subject dimensionId : String) :
    Decidable (Valued digest request items subject dimensionId) :=
  inferInstanceAs (Decidable (∃ item ∈ _, _))

instance (digest : FusionDigest R) (request : EvidenceFusionRequest R)
    (items : List (FusionEvidenceItem R)) (subject dimensionId : String) :
    Decidable (Turned digest request items subject dimensionId) :=
  inferInstanceAs (Decidable (∃ item ∈ _, _))

instance (digest : FusionDigest R) (request : EvidenceFusionRequest R) (subjects : List String)
    (primary auxiliary auxiliary' : List (FusionEvidenceItem R)) :
    Decidable (AuxiliaryAgree digest request subjects primary auxiliary auxiliary') :=
  decidable_of_iff (_ ∧ _) ⟨fun h => ⟨h.1, h.2⟩, fun h => ⟨h.kept, h.turned⟩⟩

/-- `AuxiliaryHarmless`, computed. -/
def harmlessCheck (digest : FusionDigest R) (request : EvidenceFusionRequest R)
    (inputs inputs' : EvidenceFusionInputs R) : Bool :=
  let selection := selectCandidates request inputs
  ((auxiliaryStatuses inputs').all fun status => status.producerId ≠ "" && status.resultId ≠ "") &&
  match primaryItems digest request inputs selection, auxiliaryItems digest inputs selection,
    auxiliaryItems digest inputs' selection with
  | .ok primary, .ok auxiliary, .ok auxiliary' =>
    decide (AuxiliaryAgree digest request
      (selection.relationships.map (·.subject) ++ selection.mappings.map (·.subject))
      primary.1 auxiliary.1 auxiliary'.1)
  | _, _, _ => false

theorem auxiliaryHarmless_of_check {digest : FusionDigest R} {request : EvidenceFusionRequest R}
    {inputs inputs' : EvidenceFusionInputs R} (h : harmlessCheck digest request inputs inputs' = true) :
    AuxiliaryHarmless digest request inputs inputs' := by
  obtain ⟨hnamed, hitems⟩ := and_eq_true_iff.1 h
  split at hitems
  · rename_i primary auxiliary auxiliary' hprimary hauxiliary hauxiliary'
    refine ⟨fun status hstatus => ?_, ⟨auxiliary', hauxiliary'⟩, ?_⟩
    · simpa [StatusNamed] using all_eq_true.1 hnamed status hstatus
    · intro primary2 auxiliary2 auxiliary2' hprimary2 hauxiliary2 hauxiliary2'
      cases hprimary.symm.trans hprimary2
      cases hauxiliary.symm.trans hauxiliary2
      cases hauxiliary'.symm.trans hauxiliary2'
      exact of_decide_eq_true hitems
  · cases hitems

def rankingOf (evidenceId : String) : AppliedMLResult ℚ where
  header := { state := "EXECUTED_EXPERIMENTAL", contentDigest := evidenceId }
  learnedEvidence :=
    [{ evidenceId := evidenceId, candidateId := "m1", modelId := "ranker-1", rankingScore := 1 / 2 }]

def hypothesisAgainst (hypothesisId : String) : SemanticInput :=
  .evidence
    { evidenceId := "semantic-1"
      subjectRefs := ["m1"]
      hypotheses := [⟨hypothesisId, .contradictsHypothesis, "the codes are of different kinds"⟩]
      inputFingerprint := "f1" }

theorem auxiliary_evidence_noninterfering_types : ∃ result result',
      fuse plainDigest (mappingRequest typePolicy) (mappingInputs.withAuxiliary [] []) =
        .ok result ∧
      fuse plainDigest (mappingRequest typePolicy) (mappingInputs.withAuxiliary [rankingOf "ml-1"]
        [hypothesisAgainst "hypothesis-1"]) = .ok result' ∧ SameDecisions result result' := by
  have hrun : (fuse plainDigest (mappingRequest typePolicy)
      (mappingInputs.withAuxiliary [] [])).toOption.isSome = true := by
    decide +kernel
  obtain ⟨result, h⟩ := exists_ok_of_isSome hrun
  have hbound : NothingDiscarded plainDigest (mappingRequest typePolicy)
      (mappingInputs.withAuxiliary [rankingOf "ml-1"] [hypothesisAgainst "hypothesis-1"]) := by
    decide +kernel
  have hharmless : AuxiliaryHarmless plainDigest (mappingRequest typePolicy)
      (mappingInputs.withAuxiliary [] [])
      (mappingInputs.withAuxiliary [rankingOf "ml-1"] [hypothesisAgainst "hypothesis-1"]) :=
    auxiliaryHarmless_of_check (by decide +kernel)
  obtain ⟨result', h', hsame⟩ := auxiliary_evidence_noninterfering
    (by unfold AuxiliaryOptional; decide) (by decide +kernel) hbound hharmless h
  exact ⟨result, result', h, h', hsame⟩

/-- A learned ranking takes the id of the type evidence of its own candidate. -/
theorem ranking_displaces_type_evidence :
    (mappingRequest typePolicy).accepted = true ∧ AuxiliaryOptional typePolicy ∧
    NothingDiscarded plainDigest (mappingRequest typePolicy) (mappingInputs.withAuxiliary [] []) ∧
    NothingDiscarded plainDigest (mappingRequest typePolicy)
      (mappingInputs.withAuxiliary [rankingOf "t1"] []) ∧ ∃ result result',
      fuse plainDigest (mappingRequest typePolicy) (mappingInputs.withAuxiliary [] []) =
        .ok result ∧ fuse plainDigest (mappingRequest typePolicy)
        (mappingInputs.withAuxiliary [rankingOf "t1"] []) = .ok result' ∧
      ¬ SameDecisions result result' := by
  refine ⟨by decide +kernel, by unfold AuxiliaryOptional; decide, by decide +kernel,
    by decide +kernel, ?_⟩
  have hwithout : (fuse plainDigest (mappingRequest typePolicy)
      (mappingInputs.withAuxiliary [] [])).toOption.map (fun result =>
        (result.mappings.map (·.toFusionDecision.outcome)).map fun outcome => outcome.2.2.2) =
          some [.reviewRequired] := by
    decide +kernel
  have hwith : (fuse plainDigest (mappingRequest typePolicy)
      (mappingInputs.withAuxiliary [rankingOf "t1"] [])).toOption.map (fun result =>
        (result.mappings.map (·.toFusionDecision.outcome)).map fun outcome => outcome.2.2.2) =
          some [.incompleteRequiredEvidence] := by
    decide +kernel
  obtain ⟨result, h, hstate⟩ := exists_ok_of_map hwithout
  obtain ⟨result', h', hstate'⟩ := exists_ok_of_map hwith
  refine ⟨result, result', h, h', fun hsame => ?_⟩
  rw [hsame.2, hstate'] at hstate
  cases hstate

end DirtyDataOlap.Fusion

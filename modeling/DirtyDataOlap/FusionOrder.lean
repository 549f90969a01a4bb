import DirtyDataOlap.FusionDumps
import DirtyDataOlap.ItemContracts
import DirtyDataOlap.FusionScores

/-!
# Fusion of reordered inputs

Reordered inputs give the same candidates and statuses, up to the order of dictionaries, and the
same items in another order.  Items that share an id have the same payload unless the run fails, and
then sorting forgets their order: **fusion does not depend on the order of its inputs**
(`fuse_order_independent`).
-/
namespace DirtyDataOlap.Fusion

open List EvidenceFusionResult

variable {R : Type}

/-- The same inputs, every collection in another order. -/
structure Reorders (inputs inputs' : EvidenceFusionInputs R) : Prop where
  producerStatuses : inputs'.producerStatuses.Perm inputs.producerStatuses
  evidenceItems : inputs'.evidenceItems.Perm inputs.evidenceItems
  relationshipCandidates : inputs'.relationshipCandidates.Perm inputs.relationshipCandidates
  mappingCandidates : inputs'.mappingCandidates.Perm inputs.mappingCandidates
  declaredConstraints : inputs'.declaredConstraints.Perm inputs.declaredConstraints
  catalogConstraints : inputs'.catalogConstraints.Perm inputs.catalogConstraints
  domainAssertions : inputs'.domainAssertions.Perm inputs.domainAssertions
  profileResults : inputs'.profileResults.Perm inputs.profileResults
  qualityResults : inputs'.qualityResults.Perm inputs.qualityResults
  dependencyResults : inputs'.dependencyResults.Perm inputs.dependencyResults
  schemaMatchResults : inputs'.schemaMatchResults.Perm inputs.schemaMatchResults
  appliedMlResults : inputs'.appliedMlResults.Perm inputs.appliedMlResults
  semanticResults : inputs'.semanticResults.Perm inputs.semanticResults
  subjectBindings : inputs'.subjectBindings = inputs.subjectBindings

/-- The ids of all candidates, with repetitions. -/
def candidateIds (inputs : EvidenceFusionInputs R) : List String :=
  (allRelationships inputs).map (·.candidateId) ++ (allMappings inputs).map (·.candidateId)

/-- Statuses with one digest differ at most in the order of their dictionaries. -/
def SeparatesStatuses (digest : FusionDigest R) (statuses : List ProducerEvidenceStatus) : Prop :=
  ∀ a ∈ statuses, ∀ b ∈ statuses, digest (.status a) = digest (.status b) → a.dump = b.dump

/-- The same decisions, conflicts and verdict; bundles and signals are compared as they are dumped.
-/
structure SameOutcome (a b : EvidenceFusionResult R) : Prop where
  relationships : b.relationships = a.relationships
  mappings : b.mappings = a.mappings
  conflicts : b.conflicts = a.conflicts
  bundles : b.bundles.map (·.dump) = a.bundles.map (·.dump)
  signals : b.signals.map (·.dump) = a.signals.map (·.dump)
  completeness : b.completeness = a.completeness

variable {digest : FusionDigest R} {request : EvidenceFusionRequest R}
  {inputs inputs' : EvidenceFusionInputs R}

section
variable {values values' : List ProducerEvidenceStatus}

theorem conflictingGroup_perm (h : values'.Perm values) :
    conflictingGroup digest values' = conflictingGroup digest values := by
  unfold conflictingGroup
  rw [((h.map fun status => digest (.status status)).dedup).length_eq]

theorem statusGroup_perm (h : values'.Perm values) (key : StatusKey) :
    (statusGroup values' key).Perm (statusGroup values key) := h.filter _

section
variable (hdigest : DigestsDumps digest) (hsep : SeparatesStatuses digest values)
  (h : values'.Perm values)
include hdigest hsep h

theorem settleGroup_dump :
    (settleGroup digest values').map (·.dump) = (settleGroup digest values).map (·.dump) := by
  have hstatus : ∀ status : ProducerEvidenceStatus,
      digest (.status status.dump) = digest (.status status) := fun status => hdigest (.status status)
  unfold settleGroup
  rw [conflictingGroup_perm h]
  by_cases hconflict : conflictingGroup digest values = true
  · rw [if_pos hconflict, if_pos hconflict]
    have hdump : ∀ group : List ProducerEvidenceStatus,
        sortedBy (fun status => digest (.status status)) (group.map (·.dump)) =
          (sortedBy (fun status => digest (.status status)) group).map (·.dump) :=
      sortedBy_map hstatus
    rw [← hdump, ← hdump]
    refine sortedBy_eq_of_perm (h.map _) ?_
    intro _ ha _ hb hkey
    obtain ⟨a, hmema, rfl⟩ := mem_map.1 ha
    obtain ⟨b, hmemb, rfl⟩ := mem_map.1 hb
    rw [hstatus, hstatus] at hkey
    exact hsep a (h.mem_iff.1 hmema) b (h.mem_iff.1 hmemb) hkey
  · rw [if_neg hconflict, if_neg hconflict]
    -- all statuses of the group have one digest, so that any of them stands for it
    have hsame : ∀ a ∈ values, ∀ b ∈ values, a.dump = b.dump := by
      intro a ha b hb
      have hle : (values.map fun status => digest (.status status)).dedup.length ≤ 1 := by
        simpa [conflictingGroup] using hconflict
      have hmem : ∀ status ∈ values, digest (.status status) ∈
          (values.map fun status => digest (.status status)).dedup :=
        fun status hs => mem_dedup.2 (mem_map_of_mem hs)
      obtain ⟨only, honly⟩ : ∃ only, (values.map fun status => digest (.status status)).dedup =
          [only] := by
        rw [← length_eq_one_iff]
        have := length_pos_of_mem (hmem a ha)
        omega
      have hdigesta := hmem a ha
      have hdigestb := hmem b hb
      rw [honly, mem_singleton] at hdigesta hdigestb
      exact hsep a ha b hb (hdigesta.trans hdigestb.symm)
    cases values with
    | nil =>
      obtain rfl := h.eq_nil
      rfl
    | cons b others =>
      cases values' with
      | nil => exact absurd h.nil_eq (cons_ne_nil b others).symm
      | cons a rest =>
        have hab := hsame a (h.mem_iff.1 mem_cons_self) b mem_cons_self
        simp [hab]

theorem uniqueStatuses_dump :
    (uniqueStatuses digest values').map (·.dump) = (uniqueStatuses digest values).map (·.dump) := by
  unfold uniqueStatuses
  rw [sortedSet_eq_of_perm (h.map statusKey), map_flatMap, map_flatMap]
  refine flatMap_congr fun key _ => settleGroup_dump hdigest ?_ (statusGroup_perm h key)
  intro a ha b hb
  exact hsep a (mem_statusGroup.1 ha).1 b (mem_statusGroup.1 hb).1

end

theorem statusFailures_perm (h : values'.Perm values) :
    statusFailures digest values' = statusFailures digest values := by
  unfold statusFailures
  rw [sortedSet_eq_of_perm (h.map statusKey)]
  simp only [conflictingGroup_perm (statusGroup_perm h _)]

end

theorem bounded_perm {α : Type} {candidateId : α → String} {xs ys : List α} (h : ys.Perm xs)
    (hids : (xs.map candidateId).Nodup) : sortedBy candidateId ys = sortedBy candidateId xs := by
  refine sortedBy_eq_of_perm h fun a ha b hb => ?_
  exact inj_on_of_nodup_map hids (h.mem_iff.1 ha) (h.mem_iff.1 hb)

theorem allRelationships_perm (h : Reorders inputs inputs') :
    (allRelationships inputs').Perm (allRelationships inputs) :=
  h.relationshipCandidates.append (h.dependencyResults.flatMap_right _)

theorem allMappings_perm (h : Reorders inputs inputs') :
    (allMappings inputs').Perm (allMappings inputs) :=
  h.mappingCandidates.append (h.schemaMatchResults.flatMap_right _)

theorem selectCandidates_reorder (h : Reorders inputs inputs') (hids : (candidateIds inputs).Nodup) :
    selectCandidates request inputs' = selectCandidates request inputs := by
  have hrelationships := bounded_perm (allRelationships_perm h) (nodup_append.1 hids).1
  have hmappings := bounded_perm (allMappings_perm h) (nodup_append.1 hids).2.1
  unfold selectCandidates bounded boundFailures
  rw [hrelationships, hmappings, (allRelationships_perm h).length_eq, (allMappings_perm h).length_eq]

section
variable [ScoreArithmetic R] (h : Reorders inputs inputs')
  (hselect : selectCandidates request inputs' = selectCandidates request inputs)
include h

theorem derivedItems_perm (policy : FusionPolicyReference R) :
    (derivedItems digest policy inputs').Perm (derivedItems digest policy inputs) := by
  refine List.Perm.append (List.Perm.append (List.Perm.append ?_ ?_) ?_) ?_
  · exact h.dependencyResults.flatMap_right _
  · exact h.schemaMatchResults.flatMap_right _
  · exact (h.declaredConstraints.append h.catalogConstraints).filterMap _
  · exact h.domainAssertions.map _

include hselect

omit [ScoreArithmetic R] in
theorem observedItems_perm :
    (observedItems digest request inputs').Perm (observedItems digest request inputs) := by
  unfold observedItems selectedTopologies
  rw [hselect]
  exact (h.profileResults.flatMap_right _).append (h.qualityResults.flatMap_right _)

theorem builtPrimary_perm :
    (builtPrimary digest request inputs').1.Perm (builtPrimary digest request inputs).1 ∧
      (builtPrimary digest request inputs').2.Perm (builtPrimary digest request inputs).2 := by
  have hderived : (derivedItems digest request.policy inputs').Perm
      (derivedItems digest request.policy inputs) := derivedItems_perm h request.policy
  have hitems := h.evidenceItems.append hderived
  have hobserved : (observedItems digest request inputs').Perm
      (observedItems digest request inputs) := observedItems_perm h hselect
  unfold builtPrimary selectedSubjects containerItems bindFailures
  rw [hselect]
  exact ⟨((hitems.filterMap _).append_right _).append hobserved, (hitems.filter _).map _⟩

omit [ScoreArithmetic R] in
theorem builtAuxiliary_perm :
    (builtAuxiliary digest request inputs').1.Perm (builtAuxiliary digest request inputs).1 ∧
      (builtAuxiliary digest request inputs').2.Perm (builtAuxiliary digest request inputs).2 := by
  unfold builtAuxiliary selectedSubjects
  rw [hselect, h.subjectBindings]
  exact ⟨((h.appliedMlResults.map _).flatMap_right _).append
      ((h.semanticResults.map _).flatMap_right _),
    ((h.appliedMlResults.map _).flatMap_right _).append
      ((h.semanticResults.map _).flatMap_right _)⟩

theorem builtItems_perm :
    (builtItems digest request inputs').Perm (builtItems digest request inputs) :=
  (builtPrimary_perm h hselect).1.append (builtAuxiliary_perm h hselect).1

omit [ScoreArithmetic R] hselect in
theorem producedStatuses_perm : (primaryStatuses inputs' ++ auxiliaryStatuses inputs').Perm
    (primaryStatuses inputs ++ auxiliaryStatuses inputs) := by
  refine List.Perm.append ?_ ((h.appliedMlResults.map _).append (h.semanticResults.map _))
  exact (((h.profileResults.map _).append (h.qualityResults.map _)).append
    (h.dependencyResults.map _)).append (h.schemaMatchResults.map _)

omit [ScoreArithmetic R] hselect in
theorem allStatuses_perm : (allStatuses inputs').Perm (allStatuses inputs) :=
  h.producerStatuses.append (producedStatuses_perm h)

theorem named_reorder (hnamed : Named digest request inputs) : Named digest request inputs' := by
  obtain ⟨hstatuses, hderived, hobserved, hlearned, hsemantic⟩ := named_iff.1 hnamed
  refine named_iff.2 ⟨?_, ?_, ?_, ?_, ?_⟩
  · exact fun status hmem => hstatuses status ((producedStatuses_perm h).mem_iff.1 hmem)
  · exact fun item hmem => hderived item ((derivedItems_perm h request.policy).mem_iff.1 hmem)
  · exact fun item hmem => hobserved item ((observedItems_perm h hselect).mem_iff.1 hmem)
  · unfold selectedSubjects at hlearned ⊢
    rw [hselect]
    exact fun result hmem => hlearned result (h.appliedMlResults.mem_iff.1 hmem)
  · unfold selectedSubjects at hsemantic ⊢
    rw [hselect, h.subjectBindings]
    exact fun result hmem => hsemantic result (h.semanticResults.mem_iff.1 hmem)

end

/-! ## Signals -/

/-- Items that share an id have the same payload. -/
def Agreeing (items : List (FusionEvidenceItem R)) : Prop :=
  ∀ a ∈ items, ∀ b ∈ items, a.evidenceId = b.evidenceId → payload a = payload b

section
variable {items items' : List (FusionEvidenceItem R)}

theorem readItems_perm (h : items'.Perm items) :
    (readItems request items').Perm (readItems request items) := by
  exact (((sortedBy_perm _ _).trans h).trans (sortedBy_perm _ _).symm).filter _

theorem readItems_payload (h : items'.Perm items) (hagree : Agreeing (readItems request items)) :
    (readItems request items').map payload = (readItems request items).map payload := by
  have hread : ∀ items : List (FusionEvidenceItem R), (readItems request items).map payload =
      sortedBy readingOrder ((items.filter (live request)).map payload) := by
    intro items
    have hsorted : sortedBy readingOrder ((items.filter (live request)).map payload) =
        (sortedBy readingOrder (items.filter (live request))).map payload :=
      sortedBy_map (fun _ => rfl) _
    rw [hsorted, readItems, filter_sortedBy_comm]
  have hmem : ∀ {item}, item ∈ items'.filter (live request) → item ∈ readItems request items := by
    intro item hitem
    obtain ⟨hitem, hlive⟩ := mem_filter.1 hitem
    exact mem_readItems.2 ⟨h.mem_iff.1 hitem, hlive⟩
  rw [hread, hread]
  refine sortedBy_eq_of_perm ((h.filter _).map _) ?_
  intro _ ha _ hb hkey
  obtain ⟨a, hmema, rfl⟩ := mem_map.1 ha
  obtain ⟨b, hmemb, rfl⟩ := mem_map.1 hb
  have hid : a.evidenceId = b.evidenceId :=
    congrArg (fun key => (ofLex (ofLex key).2).1) hkey
  exact hagree a (hmem hmema) b (hmem hmemb) hid

variable [ScoreArithmetic R]

theorem stands_of_agreeing (hagree : Agreeing items) {item : FusionEvidenceItem R}
    (hitem : item ∈ items) : stands (·.evidenceId) payload items item = true := by
  obtain ⟨first, hfirst⟩ : ∃ first, items.find? (fun y => y.evidenceId = item.evidenceId) =
      some first := by
    rw [← Option.isSome_iff_exists, find?_isSome]
    exact ⟨item, hitem, decide_eq_true rfl⟩
  have hid : first.evidenceId = item.evidenceId := by simpa using find?_some hfirst
  rw [stands, claimed, hfirst, decide_eq_true_eq]
  exact congrArg some (hagree first (mem_of_find?_eq_some hfirst) item hitem hid)

variable (hagree : Agreeing (readItems request items))

include hagree in
theorem standingItems_of_agreeing :
    standingItems request items = readItems request items :=
  filter_eq_self.2 fun _ hitem => stands_of_agreeing hagree hitem

theorem agreeing_of_stands
    (h : ∀ failure ∈ claimFailures digest request items, failure.kind ≠ .evidenceIdCollision) :
    Agreeing (readItems request items) := by
  have hstands : ∀ item ∈ readItems request items,
      stands (·.evidenceId) payload (readItems request items) item = true := by
    intro item hitem
    by_contra hfalls
    refine h (collisionFailure digest item) (mem_flatMap.2 ⟨item, hitem, ?_⟩) rfl
    rw [if_neg hfalls]
    exact mem_singleton_self _
  intro a ha b hb hid
  have ha' : claimed _ payload (readItems request items) a.evidenceId = some (payload a) :=
    of_decide_eq_true (hstands a ha)
  have hb' : claimed _ payload (readItems request items) b.evidenceId = some (payload b) :=
    of_decide_eq_true (hstands b hb)
  rw [hid, hb'] at ha'
  exact (Option.some.inj ha').symm

include hagree in
theorem claimFailures_of_agreeing :
    claimFailures digest request items =
      ((readItems request items).map payload).flatMap (scoreFailures digest request.policy) := by
  rw [flatMap_map]
  refine flatMap_congr fun item hitem => ?_
  rw [if_pos (stands_of_agreeing hagree hitem)]
  rfl

include hagree in
theorem signals_dump :
    ((standingItems request items).map (signalOf digest request.policy)).map (·.dump) =
      ((readItems request items).map payload).map (signalOf digest request.policy) := by
  rw [standingItems_of_agreeing hagree, map_map, map_map]
  rfl

end

section
variable [ScoreArithmetic R]

variable (hdigest : DigestsDumps digest) (hsep : SeparatesStatuses digest (allStatuses inputs))
  (h : Reorders inputs inputs')
  (hselect : selectCandidates request inputs' = selectCandidates request inputs)
  (hagree : Agreeing (readItems request (builtItems digest request inputs)))
include hdigest hsep h hselect hagree

/-- **Reordered inputs gather the same**, but for the order of the failures. -/
theorem gatheredFrom_dump : (gatheredFrom digest request inputs').dump =
      { (gatheredFrom digest request inputs).dump with
        failures := (gatheredFrom digest request inputs').failures } ∧
    (gatheredFrom digest request inputs').failures.Perm
      (gatheredFrom digest request inputs).failures := by
  set g := gatheredFrom digest request inputs
  set g' := gatheredFrom digest request inputs'
  have hitems : (builtItems digest request inputs').Perm (builtItems digest request inputs) :=
    builtItems_perm h hselect
  have hagree' : Agreeing (readItems request (builtItems digest request inputs')) :=
    fun a ha b hb => hagree a ((readItems_perm hitems).mem_iff.1 ha) b
      ((readItems_perm hitems).mem_iff.1 hb)
  have hread := readItems_payload hitems hagree
  have hsignals : g'.signals.map (·.dump) = g.signals.map (·.dump) := by
    show List.map _ (List.map _ (standingItems request (builtItems digest request inputs'))) =
      List.map _ (List.map _ (standingItems request (builtItems digest request inputs)))
    rw [signals_dump hagree', signals_dump hagree, hread]
  have hstatuses : g'.statuses.map (·.dump) = g.statuses.map (·.dump) :=
    uniqueStatuses_dump hdigest hsep (allStatuses_perm h)
  have hrefs : g'.repairRefs = g.repairRefs := by
    show sortedSet _ = sortedSet _
    rw [hselect]
    exact sortedSet_eq_of_perm (h.qualityResults.flatMap_right _)
  have hproducers : producerFailures request g'.statuses = producerFailures request g.statuses := by
    rw [← producerFailures_dump, hstatuses, producerFailures_dump]
  have hstale : staleFailures digest request g'.statuses = staleFailures digest request g.statuses := by
    rw [← staleFailures_dump, hstatuses, staleFailures_dump]
  have hclaims : claimFailures digest request (builtItems digest request inputs') =
      claimFailures digest request (builtItems digest request inputs) := by
    rw [claimFailures_of_agreeing hagree', claimFailures_of_agreeing hagree, hread]
  have hscopes : scopeFailures digest g'.signals = scopeFailures digest g.signals := by
    rw [← scopeFailures_dump, hsignals, scopeFailures_dump]
  constructor
  · have hrelationships : g'.relationships = g.relationships :=
      congrArg Selection.relationships hselect
    have hmappings : g'.mappings = g.mappings := congrArg Selection.mappings hselect
    simp only [GatheredEvidence.dump, hsignals, hstatuses, hrefs, hrelationships, hmappings]
  · show (statusFailures digest (allStatuses inputs') ++ policyFailures request.policy ++
      (selectCandidates request inputs').failures ++
      subjectKindFailures request.policy (selectCandidates request inputs') ++
      (builtPrimary digest request inputs').2 ++ (builtAuxiliary digest request inputs').2 ++
      producerFailures request g'.statuses ++ staleFailures digest request g'.statuses ++
      claimFailures digest request (builtItems digest request inputs') ++
      scopeFailures digest g'.signals).Perm _
    rw [statusFailures_perm (allStatuses_perm h), hselect, hproducers, hstale, hclaims, hscopes]
    refine List.Perm.append_right _ (List.Perm.append_right _ (List.Perm.append_right _
      (List.Perm.append_right _ (List.Perm.append (List.Perm.append_left _ ?_) ?_))))
    · exact (builtPrimary_perm h hselect).2
    · exact (builtAuxiliary_perm h hselect).2

end

/-! ## The whole -/

section
variable [ScoreArithmetic R]

theorem relationshipConflicts_perm {policy : FusionPolicyReference R}
    {candidates : List RelationshipCandidate} {declared declared' : List DeclaredInput}
    (h : declared'.Perm declared) : relationshipConflicts digest policy candidates declared' =
      relationshipConflicts digest policy candidates declared := by
  funext candidate signals
  have hrefs : (declaredRefs digest candidate declared').Perm
      (declaredRefs digest candidate declared) := h.filterMap _
  have hnil : declaredRefs digest candidate declared' = [] ↔
      declaredRefs digest candidate declared = [] :=
    ⟨fun hnil => (hnil ▸ hrefs.symm).eq_nil, fun hnil => (hnil ▸ hrefs).eq_nil⟩
  have hconflict : ∀ contradicting explanation rule,
      conflictOf digest .declaredDataConflict candidate.subject
          (declaredRefs digest candidate declared') contradicting explanation rule =
        conflictOf digest .declaredDataConflict candidate.subject
          (declaredRefs digest candidate declared) contradicting explanation rule := by
    intro contradicting explanation rule
    unfold conflictOf
    rw [sortedSet_eq_of_perm (hrefs.append_right contradicting), sortedSet_eq_of_perm hrefs]
  unfold relationshipConflicts
  simp only [ne_eq, hnil, hconflict]

theorem consideredRelationship_perm {declared declared' : List DeclaredInput}
    (h : declared'.Perm declared) {gathered : GatheredEvidence R} :
    consideredRelationship digest request declared' gathered =
      consideredRelationship digest request declared gathered := by
  funext candidate
  unfold consideredRelationship
  rw [relationshipConflicts_perm h]

omit [ScoreArithmetic R] in
/-- The order of the failures does not change the completeness. -/
theorem assemble_failures (gathered : GatheredEvidence R) {failures : List FusionFailure}
    (h : failures.Perm gathered.failures)
    (relationships : List (Considered R (RelationshipDecision R)))
    (mappings : List (Considered R (SemanticMappingDecision R))) :
    assemble request { gathered with failures := failures } relationships mappings =
      { assemble request gathered relationships mappings with
        failures := failures ++ relationships.flatMap (·.failures) ++
          mappings.flatMap (·.failures) } := by
  have hall := (h.append_right (relationships.flatMap (·.failures))).append_right
    (mappings.flatMap (·.failures))
  unfold assemble
  simp only [verdict, hall.any_eq]

section
variable (hdigest : DigestsDumps digest) (h : Reorders inputs inputs')
  {gathered gathered' : GatheredEvidence R}
  (hdump : gathered'.dump = { gathered.dump with failures := gathered'.failures })
include hdigest h hdump

variable (request) in
/-- What is considered for a candidate is the same up to the order of dictionaries. -/
theorem consideredRelationship_reorder (candidate : RelationshipCandidate) :
    (consideredRelationship digest request (declaredInputs inputs') gathered' candidate).dump =
      (consideredRelationship digest request (declaredInputs inputs) gathered candidate).dump := by
  have hdeclared : (declaredInputs inputs').Perm (declaredInputs inputs) :=
    h.declaredConstraints.append h.catalogConstraints
  rw [← consideredRelationship_dump hdigest, hdump, consideredRelationship_perm hdeclared,
    ← consideredRelationship_dump hdigest]
  rfl

variable (request) in
omit h in
theorem consideredMapping_reorder (candidate : MappingCandidate) :
    (consideredMapping digest request gathered' candidate).dump =
      (consideredMapping digest request gathered candidate).dump := by
  rw [← consideredMapping_dump hdigest, hdump, ← consideredMapping_dump hdigest]
  rfl

theorem resultOf_reorder (hperm : gathered'.failures.Perm gathered.failures) :
    (resultOf digest request inputs' gathered').dump =
      { (resultOf digest request inputs gathered).dump with
        failures := (resultOf digest request inputs' gathered').failures } := by
  have hdeclared : (declaredInputs inputs').Perm (declaredInputs inputs) :=
    h.declaredConstraints.append h.catalogConstraints
  have hresult : resultOf digest request inputs' gathered'.dump =
      { resultOf digest request inputs gathered.dump with
        failures := (resultOf digest request inputs' gathered'.dump).failures } := by
    rw [hdump]
    unfold resultOf
    rw [consideredRelationship_perm hdeclared]
    exact assemble_failures gathered.dump hperm _ _
  have hfailures : (resultOf digest request inputs' gathered'.dump).failures =
      (resultOf digest request inputs' gathered').failures := by
    rw [resultOf_dump hdigest]
    rfl
  rw [← resultOf_dump hdigest, hresult, resultOf_dump hdigest, hfailures]

end

omit [ScoreArithmetic R] in
theorem sameOutcome_of_dump {a b : EvidenceFusionResult R} {failures : List FusionFailure}
    (h : b.dump = { a.dump with failures := failures }) : SameOutcome a b where
  relationships := (congrArg relationships h :)
  mappings := (congrArg mappings h :)
  conflicts := (congrArg conflicts h :)
  bundles := (congrArg bundles h :)
  signals := (congrArg signals h :)
  completeness := (congrArg completeness h :)

omit [ScoreArithmetic R] in
theorem kind_of_verdict {decisions : List (FusionDecision R)} {bundles : List (EvidenceBundle R)}
    {failures : List FusionFailure} (h : verdict decisions bundles failures ≠ .failed) :
    ∀ failure ∈ failures, failure.kind.failsRun = false := by
  intro failure hmem
  by_contra hfails
  apply h
  unfold verdict
  rw [if_pos (any_eq_true.2 ⟨failure, hmem, Bool.eq_true_of_not_eq_false hfails⟩)]

/-- **Fusion does not depend on the order of its inputs.** -/
theorem fuse_order_independent {result : EvidenceFusionResult R} (hdigest : DigestsDumps digest)
    (hsep : SeparatesStatuses digest (allStatuses inputs)) (h : Reorders inputs inputs')
    (hids : (candidateIds inputs).Nodup) (hrun : fuse digest request inputs = .ok result)
    (hcomplete : result.completeness ≠ .failed) :
    ∃ result', fuse digest request inputs' = .ok result' ∧ SameOutcome result result' := by
  obtain ⟨hnamed, hsignals, hdecisions, rfl⟩ := fuse_eq_ok_from.1 hrun
  have hselect : selectCandidates request inputs' = selectCandidates request inputs :=
    selectCandidates_reorder h hids
  have hagree : Agreeing (readItems request (builtItems digest request inputs)) := by
    apply agreeing_of_stands
    intro failure (hmem : failure ∈ claimFailures digest request _) hkind
    simp only [resultOf, assemble] at hcomplete
    have hfalse := kind_of_verdict hcomplete failure (by
      simp only [gatheredFrom, gatheredOf, mem_append]
      exact .inl (.inl (.inl (.inr hmem))))
    rw [hkind] at hfalse
    cases hfalse
  obtain ⟨hdump, hperm⟩ := gatheredFrom_dump hdigest hsep h hselect hagree
  have hitems : (builtItems digest request inputs').Perm (builtItems digest request inputs) :=
    builtItems_perm h hselect
  have hrelationships : (gatheredFrom digest request inputs').relationships =
      (gatheredFrom digest request inputs).relationships :=
    congrArg Selection.relationships hselect
  have hmappings : (gatheredFrom digest request inputs').mappings =
      (gatheredFrom digest request inputs).mappings := congrArg Selection.mappings hselect
  refine ⟨_, fuse_eq_ok_from.2 ⟨named_reorder h hselect hnamed, ?_, ⟨?_, ?_⟩, rfl⟩, ?_⟩
  · intro item hitem
    have hread := (readItems_perm hitems).mem_iff.1 (mem_filter.1 hitem).1
    apply hsignals
    rw [standingItems_of_agreeing hagree]
    exact hread
  · intro candidate hmem
    have hsame := congrArg Considered.decision
      (consideredRelationship_reorder request hdigest h hdump candidate)
    rw [hrelationships] at hmem
    exact (congrArg RelationshipDecision.wellFormed hsame).trans
      (hdecisions.relationships candidate hmem)
  · intro candidate hmem
    have hsame := congrArg Considered.decision
      (consideredMapping_reorder request hdigest hdump candidate)
    rw [hmappings] at hmem
    exact (congrArg SemanticMappingDecision.wellFormed hsame).trans
      (hdecisions.mappings candidate hmem)
  · exact sameOutcome_of_dump (resultOf_reorder hdigest h hdump hperm)

end

def pairInputs : EvidenceFusionInputs ℚ :=
  { mappingInputs with evidenceItems := [typeEvidence, { typeEvidence with evidenceId := "t2" }] }

/-- The same, in the other order. -/
def reversedInputs : EvidenceFusionInputs ℚ :=
  { pairInputs with
    producerStatuses := pairInputs.producerStatuses.reverse
    evidenceItems := pairInputs.evidenceItems.reverse }

theorem reversed_pair_fused : ∃ result result',
    fuse plainDigest (mappingRequest typePolicy) pairInputs = .ok result ∧
    fuse plainDigest (mappingRequest typePolicy) reversedInputs = .ok result' ∧
    SameOutcome result result' := by
  have hrun : (fuse plainDigest (mappingRequest typePolicy) pairInputs).toOption.any
      (fun result => result.completeness ≠ .failed) = true := by
    decide +kernel
  obtain ⟨result, h⟩ := exists_ok_of_isSome (Option.isSome_of_any hrun)
  rw [h] at hrun
  have hdigest : DigestsDumps plainDigest := fun value => by cases value <;> rfl
  have hsep : SeparatesStatuses plainDigest (allStatuses pairInputs) := by
    unfold SeparatesStatuses
    decide +kernel
  have hreorder : Reorders pairInputs reversedInputs :=
    { producerStatuses := reverse_perm _
      evidenceItems := reverse_perm _
      relationshipCandidates := .refl _
      mappingCandidates := .refl _
      declaredConstraints := .refl _
      catalogConstraints := .refl _
      domainAssertions := .refl _
      profileResults := .refl _
      qualityResults := .refl _
      dependencyResults := .refl _
      schemaMatchResults := .refl _
      appliedMlResults := .refl _
      semanticResults := .refl _
      subjectBindings := rfl }
  obtain ⟨result', h', hsame⟩ := fuse_order_independent hdigest hsep hreorder (by decide +kernel) h
    (of_decide_eq_true hrun)
  exact ⟨result, result', h, h', hsame⟩

end DirtyDataOlap.Fusion

import DirtyDataOlap.FusionRules

/-!
# Dumps of fused evidence

The dump of a value has every dictionary in the order of its keys.  **Fusion does not see that
order** (`resultOf_dump`): what it makes of dumped evidence is the dump of what it makes of the
evidence.
-/
namespace DirtyDataOlap.Fusion

open List

variable {R : Type}

/-- A dictionary as it is dumped, by its keys. -/
def dumpDict (items : List (String × String)) : List (String × String) := sortedBy Prod.fst items

/-- The status as `_dump` writes it. -/
def ProducerEvidenceStatus.dump (status : ProducerEvidenceStatus) : ProducerEvidenceStatus :=
  { status with snapshotBySource := dumpDict status.snapshotBySource }

/-- The signal as `_dump` writes it. -/
def NormalizedEvidenceSignal.dump (signal : NormalizedEvidenceSignal R) :
    NormalizedEvidenceSignal R :=
  { signal with snapshotBySource := dumpDict signal.snapshotBySource }

/-- The bundle as `_dump` writes it. -/
def EvidenceBundle.dump (bundle : EvidenceBundle R) : EvidenceBundle R :=
  { bundle with signals := bundle.signals.map (·.dump) }

/-- **The whole result as it is written**: its dictionaries have lost their order. -/
def EvidenceFusionResult.dump (result : EvidenceFusionResult R) : EvidenceFusionResult R :=
  { result with
    bundles := result.bundles.map (·.dump)
    signals := result.signals.map (·.dump) }

/-- What `stable_digest` writes out, with sorted keys. -/
def Digested.dump : Digested R → Digested R
  | .observation subject snapshots => .observation subject (dumpDict snapshots)
  | .status producer => .status producer.dump
  | .expected producer =>
    .expected { producer with snapshotBySource := dumpDict producer.snapshotBySource }
  | .decisionInput subject signals policy context =>
    .decisionInput subject (signals.map (·.dump)) policy
      { context with statuses := context.statuses.map (·.dump) }
  | value => value

/-- The digest is of the dump, as that of `stable_digest` is. -/
def DigestsDumps (digest : FusionDigest R) : Prop := ∀ value, digest value.dump = digest value

/-- What is in hand before the decisions, dumped. -/
def GatheredEvidence.dump (gathered : GatheredEvidence R) : GatheredEvidence R :=
  { gathered with
    statuses := gathered.statuses.map (·.dump)
    signals := gathered.signals.map (·.dump) }

/-- A subject with its decision, dumped. -/
def Considered.dump {D : Type} (considered : Considered R D) : Considered R D :=
  { considered with bundle := considered.bundle.dump }

section
variable {items : List (String × String)}

theorem dumpDict_perm (items : List (String × String)) : (dumpDict items).Perm items :=
  sortedBy_perm Prod.fst items

@[simp] theorem getItem_dumpDict (key : String) : getItem (dumpDict items) key = getItem items key := by
  have hfind : ∀ entries : List (String × String), getItem entries key =
      ((entries.filter fun entry => entry.1 = key).reverse.head?).map Prod.snd := by
    intro entries
    rw [← filter_reverse, head?_filter]
    rfl
  rw [hfind, hfind, dumpDict, filter_sortedBy]

@[simp] theorem sameDict_dumpDict (other : List (String × String)) :
    sameDict (dumpDict items) other = sameDict items other := by
  have hperm : (dumpDict items ++ other).Perm (items ++ other) :=
    (dumpDict_perm items).append_right other
  unfold sameDict
  rw [hperm.all_eq]
  simp only [getItem_dumpDict]

end

section
variable {signals : List (NormalizedEvidenceSignal R)} {p : NormalizedEvidenceSignal R → Bool}

section
variable (h : ∀ signal, p signal.dump = p signal)
include h

theorem filter_dump : (signals.map (·.dump)).filter p = (signals.filter p).map (·.dump) := by
  rw [filter_map]
  exact congrArg _ (congrArg (List.filter · signals) (funext h))

theorem any_dump : (signals.map (·.dump)).any p = signals.any p := by
  rw [any_map]
  exact congrArg signals.any (funext h)

@[simp] theorem evidenceWhere_dump :
    evidenceWhere (signals.map (·.dump)) p = evidenceWhere signals p := by
  rw [evidenceWhere, filter_dump h, map_map]
  rfl

end

theorem observesOther_dump (expected : List (String × String))
    (signal : NormalizedEvidenceSignal R) :
    observesOther expected signal.dump = observesOther expected signal := by
  unfold observesOther
  show (expected.any fun entry => (getItem (dumpDict signal.snapshotBySource) entry.1).any _) = _
  simp only [getItem_dumpDict]

theorem subjectEvidence_dump (subject : String) : subjectEvidence (signals.map (·.dump)) subject =
      (subjectEvidence signals subject).map (·.dump) := filter_dump fun _ => rfl

@[simp] theorem subjectSignals_dump (request : EvidenceFusionRequest R) (subject : String) :
    subjectSignals request (signals.map (·.dump)) subject =
      (subjectSignals request signals subject).map (·.dump) := by
  rw [subjectSignals, subjectEvidence_dump, ← map_take]
  rfl

theorem signalRefs_dump (direction : EvidenceDirection) :
    signalRefs direction (signals.map (·.dump)) = signalRefs direction signals := by
  rw [signalRefs, filter_dump fun _ => rfl, map_map]
  rfl

theorem mixedSnapshots_dump : mixedSnapshots (signals.map (·.dump)) = mixedSnapshots signals := by
  have hobserved : (((signals.map (·.dump)).filter fun signal =>
      signal.snapshotBinding ≠ .notApplicableSchemaMetadata).flatMap (·.snapshotBySource)).Perm
      ((signals.filter fun signal =>
        signal.snapshotBinding ≠ .notApplicableSchemaMetadata).flatMap (·.snapshotBySource)) := by
    rw [filter_dump fun _ => rfl, flatMap_map]
    exact List.Perm.flatMap_left _ fun signal _ => dumpDict_perm signal.snapshotBySource
  unfold mixedSnapshots
  rw [hobserved.any_eq]
  exact congrArg _ (funext fun _ => hobserved.any_eq)

theorem scopeFailures_dump (digest : FusionDigest R) :
    scopeFailures digest (signals.map (·.dump)) = scopeFailures digest signals := by
  unfold scopeFailures
  simp only [subjectEvidence_dump, mixedSnapshots_dump, map_map]
  rfl

theorem sortedSignals_dump : sortedBy (·.signalId) (signals.map (·.dump)) =
    (sortedBy (·.signalId) signals).map (·.dump) := sortedBy_map (fun _ => rfl) signals

end

section
variable [ScoreArithmetic R] {policy : FusionPolicyReference R}
  {signals : List (NormalizedEvidenceSignal R)}

theorem normalizeDimension_dump (dimensionId : String) :
    normalizeDimension (signals.map (·.dump)) dimensionId =
      normalizeDimension signals dimensionId := by
  unfold normalizeDimension
  rw [filter_dump fun _ => rfl]
  generalize signals.filter _ = values
  by_cases hinclusion : dimensionId = "inclusion"
  · simp only [if_pos hinclusion, find?_map]
    cases hcoverage : values.find? fun signal => signal.rawMetricName = "inclusion_coverage" with
    | some coverage =>
      have hdumped : values.find? ((fun signal => decide (signal.rawMetricName =
          "inclusion_coverage")) ∘ NormalizedEvidenceSignal.dump) = some coverage := hcoverage
      rw [hdumped]
      rfl
    | none =>
      have hdumped : values.find? ((fun signal => decide (signal.rawMetricName =
          "inclusion_coverage")) ∘ NormalizedEvidenceSignal.dump) = none := hcoverage
      rw [hdumped]
      show (Option.bind (Option.map _ (values.find? fun signal =>
        signal.rawMetricName = "orphan_ratio")) _).map _ = _
      rw [Option.bind_map]
      rfl
  · rw [if_neg hinclusion, if_neg hinclusion, List.head?_map, Option.bind_map]
    rfl

@[simp] theorem scoreOf_dump : scoreOf policy (signals.map (·.dump)) = scoreOf policy signals := by
  have hrequired : requiredStep policy (signals.map (·.dump)) = requiredStep policy signals := by
    funext t dimension
    unfold requiredStep signedValue
    rw [normalizeDimension_dump, any_dump fun _ => rfl]
  have hoptional : optionalStep (signals.map (·.dump)) = optionalStep signals := by
    funext t dimension
    unfold optionalStep scoredDimension
    rw [normalizeDimension_dump, any_dump fun _ => rfl]
  unfold scoreOf tally
  rw [hrequired, hoptional]

end

section
variable {statuses : List ProducerEvidenceStatus} {policy : FusionPolicyReference R}
  {signals : List (NormalizedEvidenceSignal R)} {request : EvidenceFusionRequest R}

theorem familyStatuses_dump (family : EvidenceFamily) :
    familyStatuses (statuses.map (·.dump)) family =
      (familyStatuses statuses family).map (·.dump) := by
  unfold familyStatuses
  rw [filter_map]
  rfl

@[simp] theorem unavailableProducers_dump :
    unavailableProducers (statuses.map (·.dump)) = unavailableProducers statuses := by
  unfold unavailableProducers
  rw [filter_map, map_map]
  rfl

theorem missingProducers_dump :
    missingProducers (statuses.map (·.dump)) = missingProducers statuses := by
  funext family
  unfold missingProducers
  simp only [familyStatuses_dump, map_eq_nil_iff, filter_map, map_map]
  rfl

@[simp] theorem subjectMissing_dump :
    subjectMissing policy (statuses.map (·.dump)) (signals.map (·.dump)) =
      subjectMissing policy statuses signals := by
  unfold subjectMissing missingDimensions missingMatcher
  rw [missingProducers_dump]
  simp only [any_map]
  rfl

@[simp] theorem subjectUnavailable_dump :
    subjectUnavailable (statuses.map (·.dump)) (signals.map (·.dump)) =
      subjectUnavailable statuses signals := by
  unfold subjectUnavailable
  rw [unavailableProducers_dump, filter_dump fun _ => rfl, map_map]
  rfl

theorem producerFailures_dump :
    producerFailures request (statuses.map (·.dump)) = producerFailures request statuses := by
  have hfamily : familyFailures (statuses.map (·.dump)) = familyFailures statuses := by
    funext family
    unfold familyFailures
    simp only [familyStatuses_dump, map_eq_nil_iff, any_map]
    rfl
  unfold producerFailures
  rw [hfamily, any_map]
  rfl

theorem staleFailures_dump (digest : FusionDigest R) :
    staleFailures digest request (statuses.map (·.dump)) =
      staleFailures digest request statuses := by
  have hexpected : expectedFailures digest (statuses.map (·.dump)) =
      expectedFailures digest statuses := by
    funext expected
    unfold expectedFailures
    simp only [filter_map, map_eq_nil_iff, mem_map, exists_exists_and_eq_and]
    simp only [ProducerEvidenceStatus.dump, sameDict_dumpDict]
    rfl
  have hids : expectedIdFailures digest (statuses.map (·.dump)) =
      expectedIdFailures digest statuses := by
    funext expected
    unfold expectedIdFailures
    rw [any_map]
    rfl
  unfold staleFailures
  rw [hexpected, hids]

end

section
variable {digest : FusionDigest R} {policy : FusionPolicyReference R} {subject : String}
  {signals : List (NormalizedEvidenceSignal R)} {request : EvidenceFusionRequest R}

@[simp] theorem semanticSupport_dump :
    semanticSupport (signals.map (·.dump)) = semanticSupport signals :=
  evidenceWhere_dump fun _ => rfl

@[simp] theorem typeContradictions_dump :
    typeContradictions policy (signals.map (·.dump)) = typeContradictions policy signals :=
  evidenceWhere_dump fun _ => rfl

theorem bundleOf_dump {kind : FusionSubjectKind} {hypothesis : String}
    {missing unavailable : List String} :
    bundleOf digest subject kind hypothesis (signals.map (·.dump)) missing unavailable =
      (bundleOf digest subject kind hypothesis signals missing unavailable).dump := by
  unfold bundleOf EvidenceBundle.dump
  rw [map_map]
  rfl

theorem evidenceBoundFailures_dump :
    evidenceBoundFailures digest request (signals.map (·.dump)) subject =
      evidenceBoundFailures digest request signals subject := by
  unfold evidenceBoundFailures
  rw [subjectEvidence_dump, length_map]

theorem candidateScopeFailures_dump {expected : List (String × String)} :
    candidateScopeFailures digest expected subject (signals.map (·.dump)) =
      candidateScopeFailures digest expected subject signals := by
  unfold candidateScopeFailures
  rw [any_dump (observesOther_dump expected), evidenceWhere_dump (observesOther_dump expected)]

variable [ScoreArithmetic R]

theorem disagrees_dump (threshold : R) (a b : NormalizedEvidenceSignal R) :
    disagrees threshold a.dump b.dump = disagrees threshold a b := by
  have hcontains : ∀ key, ((dumpDict b.snapshotBySource).map Prod.fst).contains key =
      (b.snapshotBySource.map Prod.fst).contains key := fun key => by
    rw [Bool.eq_iff_iff, contains_iff_mem, contains_iff_mem,
      ((dumpDict_perm b.snapshotBySource).map Prod.fst).mem_iff]
  show (((dumpDict a.snapshotBySource).any fun entry =>
    ((dumpDict b.snapshotBySource).map Prod.fst).contains entry.1) && _) = _
  simp only [hcontains, (dumpDict_perm a.snapshotBySource).any_eq]
  rfl

theorem samplingConflicts_dump (threshold : R) :
    samplingConflicts digest subject threshold (signals.map (·.dump)) =
      samplingConflicts digest subject threshold signals := by
  funext metric
  simp only [samplingConflicts, filter_map, any_map, map_map, Function.comp_def,
    disagrees_dump]
  rfl

@[simp] theorem structuralConflicts_dump :
    structuralConflicts digest policy subject (signals.map (·.dump)) =
      structuralConflicts digest policy subject signals := by
  unfold structuralConflicts
  rw [semanticSupport_dump, typeContradictions_dump, evidenceWhere_dump fun _ => rfl,
    evidenceWhere_dump fun _ => rfl, map_map]
  simp only [samplingConflicts_dump]
  rfl

theorem relationshipConflicts_dump {candidates : List RelationshipCandidate}
    {declared : List DeclaredInput} {candidate : RelationshipCandidate} :
    relationshipConflicts digest policy candidates declared candidate (signals.map (·.dump)) =
      relationshipConflicts digest policy candidates declared candidate signals := by
  unfold relationshipConflicts
  rw [structuralConflicts_dump, evidenceWhere_dump fun _ => rfl]

theorem mappingConflicts_dump {candidates : List MappingCandidate} {candidate : MappingCandidate} :
    mappingConflicts digest policy candidates candidate (signals.map (·.dump)) =
      mappingConflicts digest policy candidates candidate signals := by
  unfold mappingConflicts
  rw [structuralConflicts_dump, semanticSupport_dump, typeContradictions_dump]

variable {gathered : GatheredEvidence R}

theorem decisionRecord_dump (hdigest : DigestsDumps digest) {candidate : FusionCandidate}
    {candidateId : String} {competitors missing : List String} {conflicts : List Conflict}
    {state : Canonical.DecisionState} :
    decisionRecord digest request gathered.dump candidate candidateId subject competitors
        (signals.map (·.dump)) conflicts missing state =
      decisionRecord digest request gathered candidate candidateId subject competitors signals
        conflicts missing state := by
  have hfingerprint : ∀ context : DecisionContext, digest (.decisionInput subject
      (sortedBy (·.signalId) (signals.map (·.dump))) request.policy
        { context with statuses := context.statuses.map (·.dump) }) =
      digest (.decisionInput subject (sortedBy (·.signalId) signals) request.policy context) := by
    intro context
    rw [sortedSignals_dump]
    exact hdigest (.decisionInput subject (sortedBy (·.signalId) signals) request.policy context)
  unfold decisionRecord
  simp only [scoreOf_dump, signalRefs_dump, GatheredEvidence.dump, unavailableProducers_dump]
  rw [← hfingerprint]

omit [ScoreArithmetic R] in
theorem consideredOf_dump {D : Type} {hypothesis : String} {kind : FusionSubjectKind}
    {expected : List (String × String)}
    {conflictsOf : List (NormalizedEvidenceSignal R) → List Conflict}
    {record record' : List (NormalizedEvidenceSignal R) → List Conflict → List String → D}
    (hconflicts : ∀ signals, conflictsOf (signals.map (·.dump)) = conflictsOf signals)
    (hrecord : ∀ signals, record' (signals.map (·.dump)) = record signals) :
    consideredOf digest request gathered.dump subject hypothesis kind expected conflictsOf record' =
      (consideredOf digest request gathered subject hypothesis kind expected conflictsOf
        record).dump := by
  unfold consideredOf
  simp only [GatheredEvidence.dump, subjectSignals_dump, hconflicts, hrecord, subjectMissing_dump,
    subjectUnavailable_dump, bundleOf_dump, evidenceBoundFailures_dump, candidateScopeFailures_dump]
  rfl

theorem consideredRelationship_dump (hdigest : DigestsDumps digest) {declared : List DeclaredInput}
    (candidate : RelationshipCandidate) :
    consideredRelationship digest request declared gathered.dump candidate =
      (consideredRelationship digest request declared gathered candidate).dump := by
  refine consideredOf_dump (fun _ => relationshipConflicts_dump) fun signals => ?_
  funext conflicts missing
  unfold relationshipRecord
  rw [decisionRecord_dump hdigest]
  rfl

theorem consideredMapping_dump (hdigest : DigestsDumps digest) (candidate : MappingCandidate) :
    consideredMapping digest request gathered.dump candidate =
      (consideredMapping digest request gathered candidate).dump := by
  refine consideredOf_dump (fun _ => mappingConflicts_dump) fun signals => ?_
  funext conflicts missing
  unfold mappingRecord
  rw [decisionRecord_dump hdigest]
  rfl

omit [ScoreArithmetic R] in
theorem assemble_dump {relationships : List (Considered R (RelationshipDecision R))}
    {mappings : List (Considered R (SemanticMappingDecision R))} :
    assemble request gathered.dump (relationships.map (·.dump)) (mappings.map (·.dump)) =
      (assemble request gathered relationships mappings).dump := by
  have hbundles : (relationships.map (·.dump)).map (·.bundle) ++
      (mappings.map (·.dump)).map (·.bundle) =
      (relationships.map (·.bundle) ++ mappings.map (·.bundle)).map (·.dump) := by
    simp only [map_map, map_append]
    rfl
  have hverdict : ∀ (decisions : List (FusionDecision R)) (bundles : List (EvidenceBundle R))
      (failures : List FusionFailure),
      verdict decisions (bundles.map (·.dump)) failures = verdict decisions bundles failures := by
    intro decisions bundles failures
    unfold verdict
    rw [any_map]
    rfl
  have hsorted : ∀ bundles : List (EvidenceBundle R), sortedBy (·.bundleId) (bundles.map (·.dump)) =
      (sortedBy (·.bundleId) bundles).map (·.dump) := sortedBy_map fun _ => rfl
  have hsignals : sortedBy (·.signalId) gathered.dump.signals =
      (sortedBy (·.signalId) gathered.signals).map (·.dump) := sortedSignals_dump
  unfold assemble EvidenceFusionResult.dump
  simp only [hbundles, hverdict, hsorted, hsignals]
  simp only [flatMap_map, map_map]
  rfl

/-- **Fusion does not see the order of a dictionary.** -/
theorem resultOf_dump (hdigest : DigestsDumps digest) {inputs : EvidenceFusionInputs R} :
    resultOf digest request inputs gathered.dump =
      (resultOf digest request inputs gathered).dump := by
  unfold resultOf
  rw [← assemble_dump, map_map, map_map]
  congr 1
  · exact map_congr_left fun candidate _ => consideredRelationship_dump hdigest candidate
  · exact map_congr_left fun candidate _ => consideredMapping_dump hdigest candidate

end
end DirtyDataOlap.Fusion

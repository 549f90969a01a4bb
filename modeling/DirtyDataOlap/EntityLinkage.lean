import DirtyDataOlap.CanonicalContracts

/-!
# Memberships authorized by entity resolution

`validate_er_membership`.  **A membership passes exactly when the result is the COMPLETE one of the
expected specification and the authorized edges connect the records of the membership, all of them
and no others** (`validateErMembership_eq_ok`).
-/
namespace DirtyDataOlap.Canonical

open List EntityMatchEdge

/-- `set(a) == set(b)`. -/
def sameMembers (a b : List String) : Bool := a.all (· ∈ b) && b.all (· ∈ a)

def ResolutionScope.agrees (a b : ResolutionScope) : Bool :=
  sameMembers a.sourceIds b.sourceIds && sameDict a.snapshotIds b.snapshotIds &&
    sameDict a.tableIdsBySource b.tableIdsBySource

section

variable (hypothesis : CanonicalModelHypothesis) (result : EntityResolutionResult)

def validateErResultCompatibility (family : String) : Except CanonicalExc Unit := do
  let expected ← demand (hypothesis.entityResolutionSpecs.find? (·.entityFamily = family))
    .missingRequiredEr family
  require (result.status = .complete && result.spec.specId = expected.specId &&
    result.spec.entityFamily = family && result.spec.fingerprint = expected.fingerprint)
    .incompatibleErResult family
  require (result.spec.scope.agrees expected.scope) .incompatibleErResult
    ("scope mismatch for " ++ family)
  require (result.observationScope.agrees expected.scope) .incompatibleErResult
    ("observation scope mismatch for " ++ family)

def EntityMatchEdge.endpoints (edge : EntityMatchEdge) : List String :=
  [edge.leftRecordRef, edge.rightRecordRef]

def resultPopulation : List String :=
  result.edges.flatMap endpoints ++ result.clusters.flatten

def edgesById : List (String × EntityMatchEdge) :=
  result.edges.map fun edge => (edge.edgeId, edge)

/-- `allowed`: the bands that the clustering policy links over. -/
def allowedBand (band : EntityMatchPredictionBand) : Bool :=
  band = .strongLinkEvidence ||
    (result.spec.includeReviewEdges && band = .reviewLinkEvidence)

/-- `adjacency`. -/
def neighbours (edges : List EntityMatchEdge) (recordRef : String) : List String :=
  edges.flatMap fun edge =>
    (if edge.leftRecordRef = recordRef then [edge.rightRecordRef] else []) ++
      (if edge.rightRecordRef = recordRef then [edge.leftRecordRef] else [])

variable (membership : CanonicalIdentityMembership)

def CanonicalIdentityMembership.selectedEdges (result : EntityResolutionResult) :
    List EntityMatchEdge :=
  membership.authorizedEdgeRefs.filterMap (getItem (edgesById result))

def validateErMembership (result : EntityResolutionResult) (family : String) :
    Except CanonicalExc Unit := do
  validateErResultCompatibility hypothesis result family
  require (membership.authorizedEdgeRefs.all fun ref => (getItem (edgesById result) ref).isSome)
    .incompatibleErResult "membership references a missing ER edge"
  let selected := membership.selectedEdges result
  require (selected.all fun edge => allowedBand result edge.modelPredictionBand)
    .incompatibleErResult "membership uses an edge outside the authorized cluster policy"
  let records := membership.sourceRecordRefs
  let endpoints := selected.flatMap endpoints
  require (endpoints.all (· ∈ records)) .incompatibleErResult
    "authorized edge endpoint is outside the proposed membership"
  require (records.all (· ∈ endpoints)) .unresolvedIdentity
    "every proposed ER member must be present in the selected-edge graph"
  let visited := explore records (neighbours selected) []
    [records.head membership.records_nonempty]
  require (records.all (· ∈ visited)) .unresolvedIdentity
    "authorized ER edges must form one connected component"
  require (records.all (· ∈ resultPopulation result)) .incompatibleErResult
    "membership contains records absent from the ER evaluated output"

/-! ## What a validated membership is -/

structure Compatible (family : String) (expected : EntityResolutionSpec) : Prop where
  specified : hypothesis.entityResolutionSpecs.find? (·.entityFamily = family) = some expected
  complete : result.status = .complete
  sameSpec : result.spec.specId = expected.specId
  sameFamily : result.spec.entityFamily = family
  sameFingerprint : result.spec.fingerprint = expected.fingerprint
  sameScope : result.spec.scope.agrees expected.scope = true
  sameObservation : result.observationScope.agrees expected.scope = true

end

variable {hypothesis : CanonicalModelHypothesis} {result : EntityResolutionResult}
  {edges : List EntityMatchEdge}

theorem validateErResultCompatibility_eq_ok {family : String} {u : Unit} :
    validateErResultCompatibility hypothesis result family = .ok u ↔
      ∃ expected, Compatible hypothesis result family expected := by
  simp only [validateErResultCompatibility, bind_eq_ok, demand_eq_ok, require_eq_ok,
    Bool.and_eq_true, decide_eq_true_eq]
  constructor
  · rintro ⟨expected, he, _, ⟨⟨⟨hc, hs⟩, hf⟩, hp⟩, _, hscope, hobserved⟩
    exact ⟨expected, he, hc, hs, hf, hp, hscope, hobserved⟩
  · rintro ⟨expected, he, hc, hs, hf, hp, hscope, hobserved⟩
    exact ⟨expected, he, (), ⟨⟨⟨hc, hs⟩, hf⟩, hp⟩, (), hscope, hobserved⟩

def Joined (edges : List EntityMatchEdge) (a b : String) : Prop :=
  ∃ edge ∈ edges, (edge.leftRecordRef = a ∧ edge.rightRecordRef = b) ∨
    (edge.rightRecordRef = a ∧ edge.leftRecordRef = b)

theorem mem_neighbours {a b : String} : b ∈ neighbours edges a ↔ Joined edges a b := by
  simp only [neighbours, Joined, mem_flatMap, mem_append]
  refine exists_congr fun edge => and_congr_right fun _ => or_congr ?_ ?_
  · by_cases h : edge.leftRecordRef = a
    · simp [h, eq_comm]
    · simp [h]
  · by_cases h : edge.rightRecordRef = a
    · simp [h, eq_comm]
    · simp [h]

/-- The membership is what its authorized edges link. -/
structure Authorized (hypothesis : CanonicalModelHypothesis)
    (membership : CanonicalIdentityMembership) (result : EntityResolutionResult)
    (family : String) : Prop where
  compatible : ∃ expected, Compatible hypothesis result family expected
  known : ∀ ref ∈ membership.authorizedEdgeRefs, (getItem (edgesById result) ref).isSome = true
  allowed : ∀ edge ∈ membership.selectedEdges result, allowedBand result edge.modelPredictionBand = true
  inside : ∀ edge ∈ membership.selectedEdges result, ∀ ref ∈ edge.endpoints,
    ref ∈ membership.sourceRecordRefs
  covered : ∀ ref ∈ membership.sourceRecordRefs, ∃ edge ∈ membership.selectedEdges result,
    ref ∈ edge.endpoints
  connected : ∀ ref ∈ membership.sourceRecordRefs,
    Relation.ReflTransGen (Joined (membership.selectedEdges result))
      (membership.sourceRecordRefs.head membership.records_nonempty) ref
  evaluated : ∀ ref ∈ membership.sourceRecordRefs, ref ∈ resultPopulation result

theorem neighbours_inside {records : List String}
    (h : ∀ edge ∈ edges, ∀ ref ∈ edge.endpoints, ref ∈ records) (a : String) :
    ∀ b ∈ neighbours edges a, b ∈ records := by
  intro b hb
  obtain ⟨edge, hedge, ⟨_, rfl⟩ | ⟨_, rfl⟩⟩ := mem_neighbours.1 hb
  · exact h edge hedge _ (by simp [endpoints])
  · exact h edge hedge _ (by simp [endpoints])

/-- **What `validate_er_membership` accepts.** -/
theorem validateErMembership_eq_ok {membership : CanonicalIdentityMembership} {family : String}
    {u : Unit} : validateErMembership hypothesis membership result family = .ok u ↔
      Authorized hypothesis membership result family := by
  have hreach : (∀ edge ∈ membership.selectedEdges result, ∀ ref ∈ edge.endpoints,
      ref ∈ membership.sourceRecordRefs) → ∀ ref,
      ref ∈ explore membership.sourceRecordRefs (neighbours (membership.selectedEdges result)) []
          [membership.sourceRecordRefs.head membership.records_nonempty] ↔
        Relation.ReflTransGen (Joined (membership.selectedEdges result))
          (membership.sourceRecordRefs.head membership.records_nonempty) ref := by
    intro hinside ref
    rw [mem_explore_iff (fun a _ => neighbours_inside hinside a) (head_mem _)]
    have hrel : Leads (neighbours (membership.selectedEdges result)) =
        Joined (membership.selectedEdges result) := by
      funext a b
      exact propext mem_neighbours
    rw [hrel]
  simp only [validateErMembership, bind_eq_ok, require_eq_ok,
    validateErResultCompatibility_eq_ok, all_eq_true, decide_eq_true_eq, mem_flatMap]
  constructor
  · rintro ⟨_, hcompatible, _, hknown, _, hallowed, _, hinside, _, hcovered, _, hvisited, hevaluated⟩
    have hin : ∀ edge ∈ membership.selectedEdges result, ∀ ref ∈ edge.endpoints,
        ref ∈ membership.sourceRecordRefs := fun edge hedge ref href =>
      hinside ref ⟨edge, hedge, href⟩
    exact ⟨hcompatible, hknown, hallowed, hin, hcovered,
      fun ref href => (hreach hin ref).1 (hvisited ref href), hevaluated⟩
  · rintro ⟨hcompatible, hknown, hallowed, hinside, hcovered, hconnected, hevaluated⟩
    refine ⟨(), hcompatible, (), hknown, (), hallowed, (), ?_, (), hcovered, (), ?_, hevaluated⟩
    · rintro ref ⟨edge, hedge, href⟩
      exact hinside edge hedge ref href
    · exact fun ref href => (hreach hinside ref).2 (hconnected ref href)

end DirtyDataOlap.Canonical

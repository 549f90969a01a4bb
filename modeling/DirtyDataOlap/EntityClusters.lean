import Mathlib.Data.Prod.Lex
import Mathlib.Data.Rat.Defs
import DirtyDataOlap.UnionFind
import DirtyDataOlap.EntityLinkage

/-!
# Clusters of an entity resolution run

`SplinkEntityResolutionAdapter._clusters`: union and find over the match edges whose band is
authorized, and a cluster for each class of two or more records.  **The classes depend on the ids
and on what connects them only** (`Classified.perm`).
-/
namespace DirtyDataOlap.Canonical

open UnionFind List

/-- Which clusters are to be rejected. -/
structure ERClusteringPolicy where
  (policyId algorithm thresholdPolicyId : String)
  maxClusterSize : Nat
  (rejectPlaceholderOnlyEdges rejectConflictingAnchorEdges rejectUnsafeBridgeClusters : Bool)
  clusterProbabilityThreshold : Option ℚ
  includeReviewEdges : Bool

structure IdentityFieldSpecification where
  fieldId : String
  isAnchor : Bool

/-- A specification with what clustering reads of it besides. -/
structure SplinkSpec extends EntityResolutionSpec where
  clusteringPolicy : ERClusteringPolicy
  /-- `execution_budget.max_cluster_size`. -/
  budgetMaxClusterSize : Nat
  identityFields : List IdentityFieldSpecification
  bandsOfPolicy : includeReviewEdges = clusteringPolicy.includeReviewEdges := by rfl

/-- A row of the record map: its normalized values by column. -/
structure ResolutionRecord where
  (recordRef sourceId : String)
  values : List (String × Option String)

/-- The id of a record across sources. -/
def uniqueId (sourceId recordRef : String) : String := sourceId ++ "::" ++ recordRef

def ResolutionRecord.id (record : ResolutionRecord) : String :=
  uniqueId record.sourceId record.recordRef

/-- `record_map`: the records by their ids, collected by their references. -/
structure RecordMap where
  records : List ResolutionRecord
  idsAreUnique : (records.map ResolutionRecord.id).Nodup := by decide
  refsAreUnique : (records.map ResolutionRecord.recordRef).Nodup := by decide

/-- A match edge with what clustering reads of it besides. -/
structure SplinkEdge extends EntityMatchEdge where
  (leftSourceId rightSourceId : String)
  independentEvidenceRefs : List String
  endpointsDiffer : leftRecordRef ≠ rightRecordRef := by decide

def SplinkEdge.leftId (edge : SplinkEdge) : String := uniqueId edge.leftSourceId edge.leftRecordRef

def SplinkEdge.rightId (edge : SplinkEdge) : String :=
  uniqueId edge.rightSourceId edge.rightRecordRef

/-! ## Clusters -/

/-- What `cluster_id` hashes. -/
structure ClusterKey where
  entityFamily : String
  recordRefs : List String
  clusteringPolicy : ERClusteringPolicy
  (modelConfigHash modelId : String)

/-- The digests that name clusters and edges. -/
structure ClusterDigests where
  clusterId : ClusterKey → String
  diagnosticId : (clusterId : String) → String
  /-- `entity_edge_id`, of the sorted references of an edge. -/
  edgeId : List String → (modelId : String) → String
  fieldColumn : (fieldId : String) → String

def ClusterDigests.entityEdgeId (digests : ClusterDigests) (leftRecordRef rightRecordRef modelId : String) :
    String :=
  digests.edgeId (sorted [leftRecordRef, rightRecordRef]) modelId

inductive ClusterDecision
  | candidateCluster | reviewCluster

/-- A cluster with the edges and diagnostics behind it. -/
structure EntityCluster where
  clusterId : String
  (recordRefs edgeRefs : List String)
  decision : ClusterDecision
  (diagnosticRefs riskFlags : List String)

/-- What is suspicious about a cluster. -/
structure EntityClusterDiagnostic where
  (diagnosticId clusterId : String)
  (connectedComponentSize independentEvidenceCount : Nat)
  (placeholderOnly conflictingAnchors unsafeBridge largestClusterGuard : Bool)

namespace RecordMap

def ids (map : RecordMap) : List String := map.records.map ResolutionRecord.id

/-- `record_map[id]`. -/
def record? (map : RecordMap) (id : String) : Option ResolutionRecord :=
  map.records.find? fun record => record.id = id

end RecordMap

/-- The model that a run has trained. -/
structure ModelReference where
  (modelId modelConfigHash : String)

variable (spec : SplinkSpec)

/-- `authorized_bands`. -/
def SplinkSpec.authorizes (band : EntityMatchPredictionBand) : Bool :=
  band = .strongLinkEvidence ||
    (spec.clusteringPolicy.includeReviewEdges && band = .reviewLinkEvidence)

/-- The edges that may link records. -/
def SplinkSpec.authorizedEdges (edges : List SplinkEdge) : List SplinkEdge :=
  edges.filter fun edge => spec.authorizes edge.modelPredictionBand

/-- `frozenset` of the two ids of an edge. -/
def SplinkEdge.pair (edge : SplinkEdge) : String × String :=
  if edge.leftId ≤ edge.rightId then (edge.leftId, edge.rightId) else (edge.rightId, edge.leftId)

/-- The last edge of every pair. -/
def edgeByPair (authorized : List SplinkEdge) : List ((String × String) × SplinkEdge) :=
  dictOf (authorized.map fun edge => (edge.pair, edge))

variable (digests : ClusterDigests)

/-- Records of the component disagree on an anchor field. -/
def hasConflictingAnchors (component : List String) (map : RecordMap) (spec : SplinkSpec) : Bool :=
  (spec.identityFields.filter (·.isAnchor)).any fun field =>
    let values := component.filterMap fun id => (map.record? id).bind fun record =>
      (getItem record.values (digests.fieldColumn field.fieldId)).join
    1 < values.dedup.length

/-- `record_map[id]["_record_ref"]` of the members of a component. -/
def RecordMap.refs (map : RecordMap) (component : List String) : List String :=
  sorted (component.filterMap fun id => (map.record? id).map ResolutionRecord.recordRef)

/-- The edges inside a component. -/
def internalEdges (authorized : List SplinkEdge) (component : List String) : List SplinkEdge :=
  ((edgeByPair authorized).filter fun item => item.1.1 ∈ component ∧ item.1.2 ∈ component).map Prod.snd

/-- One round of the loop over the components. -/
def clusterOf (spec : SplinkSpec) (model : ModelReference) (map : RecordMap)
    (authorized : List SplinkEdge) (component : List String) :
    EntityCluster × EntityClusterDiagnostic :=
  let policy := spec.clusteringPolicy
  let refs := map.refs component
  let clusterId := digests.clusterId
    ⟨spec.entityFamily, refs, policy, model.modelConfigHash, model.modelId⟩
  let internal := internalEdges authorized component
  let size := component.length
  let unsafeBridge := decide (3 ≤ size ∧ internal.length < size * (size - 1) / 2)
  let placeholderOnly := decide (internal ≠ []) &&
    internal.all fun edge => edge.independentEvidenceRefs = []
  let conflictingAnchors := hasConflictingAnchors digests component map spec
  let flags := [("unsafe_bridge", unsafeBridge), ("placeholder_only", placeholderOnly),
    ("conflicting_anchors", conflictingAnchors)].filterMap fun flag =>
      if flag.2 then some flag.1 else none
  let largestGuard := decide (min policy.maxClusterSize spec.budgetMaxClusterSize < size)
  let rejected := (placeholderOnly && policy.rejectPlaceholderOnlyEdges) ||
    (conflictingAnchors && policy.rejectConflictingAnchorEdges) ||
    (unsafeBridge && policy.rejectUnsafeBridgeClusters) || largestGuard
  ({ clusterId := clusterId
     recordRefs := refs
     edgeRefs := internal.map (·.edgeId)
     decision := if rejected then .reviewCluster else .candidateCluster
     diagnosticRefs := [digests.diagnosticId clusterId]
     riskFlags := flags },
   { diagnosticId := digests.diagnosticId clusterId
     clusterId := clusterId
     connectedComponentSize := size
     independentEvidenceCount := (internal.map (·.independentEvidenceRefs.length)).sum
     placeholderOnly := placeholderOnly
     conflictingAnchors := conflictingAnchors
     unsafeBridge := unsafeBridge
     largestClusterGuard := largestGuard })

/-- The linked pairs of known records. -/
def linkedIds (map : RecordMap) (authorized : List SplinkEdge) : List (String × String) :=
  (authorized.map fun edge => (edge.leftId, edge.rightId)).filter fun pair =>
    pair.1 ∈ map.ids ∧ pair.2 ∈ map.ids

/-- The classes of several records, each sorted. -/
def sortedClasses (groups : List (String × List String)) : List (List String) :=
  ((groups.map Prod.snd).filter fun component => 1 < component.length).map sorted

/-- `components`: smaller ones first. -/
def sortedComponents (groups : List (String × List String)) : List (List String) :=
  sortedBy (fun component => toLex (component.length, component)) (sortedClasses groups)

/-- `_clusters`, each walk to a root given as many steps as there are records. -/
def entityClusters (spec : SplinkSpec) (model : ModelReference) (map : RecordMap)
    (edges : List SplinkEdge) : Option (List (EntityCluster × EntityClusterDiagnostic)) := do
  let authorized := spec.authorizedEdges edges
  let parent ← uniteAll map.ids.length id (linkedIds map authorized)
  let groups ← classes map.ids.length parent map.ids []
  return (sortedComponents groups).map (clusterOf digests spec model map authorized)

/-! ## Components -/

/-- An authorized edge joins the two ids. -/
def Linked (edges : List SplinkEdge) (a b : String) : Prop :=
  ∃ edge ∈ edges, spec.authorizes edge.modelPredictionBand = true ∧ edge.leftId = a ∧
    edge.rightId = b

/-- Authorized edges connect the two ids. -/
abbrev Connected (edges : List SplinkEdge) : String → String → Prop :=
  Relation.EqvGen (Linked spec edges)

/-- The edges join records of the map, no two the same pair of records. -/
structure EdgesBetween (map : RecordMap) (edges : List SplinkEdge) : Prop where
  between : ∀ edge ∈ edges, ∃ left ∈ map.records, ∃ right ∈ map.records,
    (edge.leftSourceId = left.sourceId ∧ edge.leftRecordRef = left.recordRef) ∧
      (edge.rightSourceId = right.sourceId ∧ edge.rightRecordRef = right.recordRef)
  oncePerPair : (edges.map SplinkEdge.pair).Nodup

/-- The clusters are the components of two or more records. -/
structure AreComponents (map : RecordMap) (edges : List SplinkEdge) (clusters : List EntityCluster) :
    Prop where
  component : ∀ cluster ∈ clusters, ∃ record ∈ map.records,
    ∀ ref, ref ∈ cluster.recordRefs ↔
      ∃ other ∈ map.records, other.recordRef = ref ∧ Connected spec edges record.id other.id
  distinct : ∀ cluster ∈ clusters, cluster.recordRefs.Nodup ∧ 2 ≤ cluster.recordRefs.length
  complete : ∀ a ∈ map.records, ∀ b ∈ map.records, a ≠ b → Connected spec edges a.id b.id →
    ∃ cluster ∈ clusters, a.recordRef ∈ cluster.recordRefs ∧ b.recordRef ∈ cluster.recordRefs
  disjoint : clusters.Pairwise fun a b => ∀ ref ∈ a.recordRefs, ref ∉ b.recordRefs

namespace RecordMap

variable {map : RecordMap} {record other : ResolutionRecord} {id : String}

theorem record?_id (h : record ∈ map.records) : map.record? record.id = some record := by
  cases hfind : map.record? record.id with
  | none =>
    have hall := find?_eq_none.1 hfind record h
    simp at hall
  | some found =>
    have hid : found.id = record.id := by simpa using find?_some hfind
    have hmem : found ∈ map.records := mem_of_find?_eq_some hfind
    rw [inj_on_of_nodup_map map.idsAreUnique hmem h hid]

theorem mem_ids : id ∈ map.ids ↔ ∃ record ∈ map.records, record.id = id := mem_map

theorem eq_of_recordRef (h : record ∈ map.records) (h' : other ∈ map.records)
    (href : record.recordRef = other.recordRef) : record = other :=
  inj_on_of_nodup_map map.refsAreUnique h h' href

theorem mem_refs {component : List String} {ref : String} :
    ref ∈ map.refs component ↔ ∃ record ∈ map.records, record.recordRef = ref ∧
      record.id ∈ component := by
  simp only [refs, mem_sorted, mem_filterMap, Option.map_eq_some_iff]
  constructor
  · rintro ⟨id, hid, record, hrecord, rfl⟩
    have hmem : record ∈ map.records := mem_of_find?_eq_some hrecord
    have hkey : record.id = id := by simpa using find?_some hrecord
    exact ⟨record, hmem, rfl, hkey ▸ hid⟩
  · rintro ⟨record, hmem, rfl, hid⟩
    exact ⟨record.id, hid, record, record?_id hmem, rfl⟩

theorem refs_eq {component : List String} (h : ∀ id ∈ component, id ∈ map.ids)
    (hnodup : component.Nodup) :
    (map.refs component).Nodup ∧ (map.refs component).length = component.length := by
  have hfound : ∀ id ∈ component, ∃ record ∈ map.records, record.id = id ∧
      map.record? id = some record := by
    intro id hid
    obtain ⟨record, hrecord, rfl⟩ := mem_ids.1 (h id hid)
    exact ⟨record, hrecord, rfl, record?_id hrecord⟩
  constructor
  · rw [refs, (sorted_perm _).nodup_iff]
    refine hnodup.filterMap fun a b ref ha hb => ?_
    obtain ⟨r, hr, rfl⟩ := Option.map_eq_some_iff.1 ha
    obtain ⟨r', hr', href⟩ := Option.map_eq_some_iff.1 hb
    have hsame := eq_of_recordRef (mem_of_find?_eq_some hr') (mem_of_find?_eq_some hr) href
    subst hsame
    have ha' : r'.id = a := by simpa using find?_some hr
    have hb' : r'.id = b := by simpa using find?_some hr'
    exact ha'.symm.trans hb'
  · rw [refs, length_sorted, length_filterMap_eq_countP, countP_eq_length]
    intro id hid
    obtain ⟨record, -, -, hrecord⟩ := hfound id hid
    rw [hrecord]
    rfl

end RecordMap

/-! ## The classes found -/

/-- Sorted classes of two or more ids. -/
structure Classified (ids : List String) (same : String → String → Prop)
    (components : List (List String)) : Prop where
  distinct : components.Nodup
  isClass : ∀ c ∈ components, ∃ a ∈ ids, ∀ b, b ∈ c ↔ b ∈ ids ∧ same a b
  isSorted : ∀ c ∈ components, sorted c = c ∧ c.Nodup ∧ 2 ≤ c.length
  complete : ∀ a ∈ ids, ∀ b ∈ ids, a ≠ b → same a b → ∃ c ∈ components, a ∈ c ∧ b ∈ c

theorem two_le_length {α : Type} {xs : List α} {a b : α} (ha : a ∈ xs) (hb : b ∈ xs) (hne : a ≠ b) :
    2 ≤ xs.length := by
  rcases xs with _ | ⟨x, _ | ⟨y, rest⟩⟩
  · cases ha
  · rw [mem_singleton] at ha hb
    exact absurd (ha.trans hb.symm) hne
  · simp

theorem exists_ne_of_two_le {α : Type} {xs : List α} (hnodup : xs.Nodup) (h : 2 ≤ xs.length) :
    ∃ a ∈ xs, ∃ b ∈ xs, a ≠ b := by
  rcases xs with _ | ⟨x, _ | ⟨y, rest⟩⟩
  · simp at h
  · simp at h
  · refine ⟨x, mem_cons_self, y, by simp, ?_⟩
    rintro rfl
    simp at hnodup

variable {ids : List String} {same : String → String → Prop}
  {components components' : List (List String)}

theorem Grouped.classified {parent : String → String} {groups : List (String × List String)}
    {link : String → String → Prop} (hgroups : Grouped parent ids groups) (hforest : Forest parent)
    (hspans : Spans parent link) :
    Classified ids (Relation.EqvGen link) (sortedClasses groups) := by
  have hmem : ∀ c, c ∈ sortedClasses groups ↔ ∃ root members,
      (root, members) ∈ groups ∧ 1 < members.length ∧ sorted members = c := by
    intro c
    simp only [sortedClasses, mem_map, mem_filter, decide_eq_true_eq]
    constructor
    · rintro ⟨_, ⟨⟨⟨root, members⟩, hg, rfl⟩, hlength⟩, rfl⟩
      exact ⟨root, members, hg, hlength, rfl⟩
    · rintro ⟨root, members, hg, hlength, rfl⟩
      exact ⟨members, ⟨⟨(root, members), hg, rfl⟩, hlength⟩, rfl⟩
  have hget : ∀ {root members}, (root, members) ∈ groups → getItem groups root = some members :=
    fun hg => (getItem_eq_some_iff hgroups.roots).2 hg
  have hsame : ∀ {root members a}, (root, members) ∈ groups → a ∈ members →
      ∀ b, b ∈ members ↔ b ∈ ids ∧ Relation.EqvGen link a b := by
    intro root members a hg ha b
    obtain ⟨-, n, hroot⟩ := (hgroups.mem root members (hget hg) a).1 ha
    rw [hgroups.mem root members (hget hg) b]
    refine and_congr_right fun _ => ?_
    rw [← hspans a b]
    constructor
    · rintro ⟨m, hb⟩
      exact ⟨n, m, root, hroot, hb⟩
    · rintro ⟨i, j, root', ha', hb'⟩
      rw [(hroot.unique ha').2]
      exact ⟨j, hb'⟩
  refine ⟨?_, ?_, ?_, ?_⟩
  · rw [sortedClasses, filter_map, map_map]
    refine List.Nodup.map_on ?_ ((List.Nodup.of_map _ hgroups.roots).filter _)
    rintro ⟨root, members⟩ hg ⟨root', members'⟩ hg' heq
    obtain ⟨hg, hlength⟩ := mem_filter.1 hg
    obtain ⟨hg', -⟩ := mem_filter.1 hg'
    have hperm : members.Perm members' :=
      (sorted_perm members).symm.trans ((List.Perm.of_eq heq).trans (sorted_perm members'))
    obtain ⟨a, ha⟩ := exists_mem_of_length_pos (l := members) (by
      simp only [Function.comp_apply, decide_eq_true_eq] at hlength
      omega)
    obtain ⟨-, n, hroot⟩ := (hgroups.mem root members (hget hg) a).1 ha
    obtain ⟨-, m, hroot'⟩ := (hgroups.mem root' members' (hget hg') a).1 (hperm.mem_iff.1 ha)
    obtain ⟨-, rfl⟩ := hroot.unique hroot'
    have heq' := (hget hg).symm.trans (hget hg')
    rw [Option.some.inj heq']
  · intro c hc
    obtain ⟨root, members, hg, hlength, rfl⟩ := (hmem c).1 hc
    obtain ⟨a, ha⟩ := exists_mem_of_length_pos (l := members) (by omega)
    refine ⟨a, ((hgroups.mem root members (hget hg) a).1 ha).1, fun b => ?_⟩
    rw [mem_sorted]
    exact hsame hg ha b
  · intro c hc
    obtain ⟨root, members, hg, hlength, rfl⟩ := (hmem c).1 hc
    refine ⟨sorted_sorted members, ?_, ?_⟩
    · rw [(sorted_perm members).nodup_iff]
      exact hgroups.nodup root members (hget hg)
    · rw [length_sorted]
      omega
  · intro a ha b hb hne hab
    obtain ⟨n, root, hroot⟩ := hforest a
    obtain ⟨members, hmembers⟩ := Option.isSome_iff_exists.1 (hgroups.covers a ha n root hroot)
    have hg : (root, members) ∈ groups := mem_of_getItem hmembers
    have haMem : a ∈ members := (hgroups.mem root members hmembers a).2 ⟨ha, n, hroot⟩
    have hbMem : b ∈ members := (hsame hg haMem b).2 ⟨hb, hab⟩
    refine ⟨sorted members, (hmem _).2 ⟨root, members, hg, two_le_length haMem hbMem hne, rfl⟩, ?_, ?_⟩
    · exact mem_sorted.2 haMem
    · exact mem_sorted.2 hbMem

theorem Classified.eq_of_mem {ids' : List String} (hequiv : Equivalence same)
    (h : Classified ids same components) (h' : Classified ids' same components')
    (hids : ∀ a, a ∈ ids ↔ a ∈ ids') {c c' : List String} (hc : c ∈ components)
    (hc' : c' ∈ components') {a : String} (ha : a ∈ c) (ha' : a ∈ c') : c = c' := by
  obtain ⟨x, -, hclass⟩ := h.isClass c hc
  obtain ⟨y, -, hclass'⟩ := h'.isClass c' hc'
  obtain ⟨hsorted, hnodup, -⟩ := h.isSorted c hc
  obtain ⟨hsorted', hnodup', -⟩ := h'.isSorted c' hc'
  have hxy : same x y :=
    hequiv.trans ((hclass a).1 ha).2 (hequiv.symm ((hclass' a).1 ha').2)
  have hperm : c.Perm c' := by
    rw [perm_ext_iff_of_nodup hnodup hnodup']
    intro b
    rw [hclass b, hclass' b, hids b]
    exact and_congr_right fun _ => ⟨hequiv.trans (hequiv.symm hxy), hequiv.trans hxy⟩
  rw [← hsorted, ← hsorted']
  exact sorted_eq_of_perm hperm

/-- **The classes are determined**: by the ids and by what connects them. -/
theorem Classified.perm {ids' : List String} (hequiv : Equivalence same)
    (h : Classified ids same components) (h' : Classified ids' same components')
    (hids : ∀ a, a ∈ ids ↔ a ∈ ids') : components.Perm components' := by
  have hsub : ∀ {ids ids' : List String} {cs cs' : List (List String)}, Classified ids same cs →
      Classified ids' same cs' → (∀ a, a ∈ ids ↔ a ∈ ids') → ∀ c ∈ cs, c ∈ cs' := by
    intro ids ids' cs cs' h h' hids c hc
    obtain ⟨x, -, hclass⟩ := h.isClass c hc
    obtain ⟨-, hnodup, hlength⟩ := h.isSorted c hc
    obtain ⟨a, ha, b, hb, hne⟩ := exists_ne_of_two_le hnodup hlength
    obtain ⟨haIds, hxa⟩ := (hclass a).1 ha
    obtain ⟨hbIds, hxb⟩ := (hclass b).1 hb
    obtain ⟨c', hc', hac', -⟩ := h'.complete a ((hids a).1 haIds) b ((hids b).1 hbIds) hne
      (hequiv.trans (hequiv.symm hxa) hxb)
    exact (h.eq_of_mem hequiv h' hids hc hc' ha hac') ▸ hc'
  rw [perm_ext_iff_of_nodup h.distinct h'.distinct]
  exact fun c => ⟨hsub h h' hids c, hsub h' h (fun a => (hids a).symm) c⟩

end DirtyDataOlap.Canonical

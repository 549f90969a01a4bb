import Mathlib.Data.List.Permutation
import DirtyDataOlap.EntityClusters

/-!
# Clusters that canonicalization accepts

**The clusters are the connected components of the authorized edges, they do not depend on the order
of records or edges, and `validate_er_membership` accepts the membership made of any one of them**
(`entity_clusters_authorized`).
-/
namespace DirtyDataOlap.Canonical

open UnionFind List RecordMap EntityMatchEdge SplinkEdge

variable {spec : SplinkSpec} {map map' : RecordMap} {edges edges' : List SplinkEdge}
  {digests : ClusterDigests} {model : ModelReference}

theorem mem_authorizedEdges {edge : SplinkEdge} : edge ∈ spec.authorizedEdges edges ↔
    edge ∈ edges ∧ spec.authorizes edge.modelPredictionBand = true := mem_filter

namespace EdgesBetween

section
variable (h : EdgesBetween map edges)
include h

theorem records {edge : SplinkEdge} (hedge : edge ∈ edges) :
    ∃ left ∈ map.records, ∃ right ∈ map.records,
      (edge.leftRecordRef = left.recordRef ∧ edge.leftId = left.id) ∧
        (edge.rightRecordRef = right.recordRef ∧ edge.rightId = right.id) := by
  obtain ⟨left, hleft, right, hright, ⟨hls, hlr⟩, hrs, hrr⟩ := h.between edge hedge
  refine ⟨left, hleft, right, hright, ⟨hlr, ?_⟩, hrr, ?_⟩
  · rw [leftId, hls, hlr]
    rfl
  · rw [rightId, hrs, hrr]
    rfl

theorem mem_linkedIds {a b : String} :
    (a, b) ∈ linkedIds map (spec.authorizedEdges edges) ↔ Linked spec edges a b := by
  simp only [linkedIds, mem_filter, mem_map, decide_eq_true_eq, Prod.mk.injEq]
  constructor
  · rintro ⟨⟨edge, hedge, hleft, hright⟩, -⟩
    obtain ⟨hmem, hband⟩ := mem_authorizedEdges.1 hedge
    exact ⟨edge, hmem, hband, hleft, hright⟩
  · rintro ⟨edge, hmem, hband, hleft, hright⟩
    obtain ⟨left, hl, right, hr, ⟨-, hlid⟩, -, hrid⟩ := h.records hmem
    refine ⟨⟨edge, mem_authorizedEdges.2 ⟨hmem, hband⟩, hleft, hright⟩, ?_, ?_⟩
    · exact mem_ids.2 ⟨left, hl, hlid.symm.trans hleft⟩
    · exact mem_ids.2 ⟨right, hr, hrid.symm.trans hright⟩

theorem connected_ids {a b : String} (hab : Connected spec edges a b) :
    a ∈ map.ids ↔ b ∈ map.ids := by
  induction hab with
  | rel a b hlink =>
    obtain ⟨edge, hmem, -, rfl, rfl⟩ := hlink
    obtain ⟨left, hl, right, hr, ⟨-, hlid⟩, -, hrid⟩ := h.records hmem
    exact iff_of_true (mem_ids.2 ⟨left, hl, hlid.symm⟩)
      (mem_ids.2 ⟨right, hr, hrid.symm⟩)
  | refl a => rfl
  | symm a b _ ih => exact ih.symm
  | trans a b c _ _ ih ih' => exact ih.trans ih'

theorem perm (hmap : map'.records.Perm map.records)
    (hedges : edges'.Perm edges) : EdgesBetween map' edges' where
  between edge hedge := by
    obtain ⟨left, hl, right, hr, hends⟩ := h.between edge (hedges.mem_iff.1 hedge)
    exact ⟨left, hmap.mem_iff.2 hl, right, hmap.mem_iff.2 hr, hends⟩
  oncePerPair := (hedges.map pair).nodup_iff.2 h.oncePerPair

end

end EdgesBetween

theorem Linked.perm (hedges : edges'.Perm edges) : Linked spec edges' = Linked spec edges := by
  funext a b
  exact propext (exists_congr fun edge => and_congr_left fun _ => hedges.mem_iff)

/-! ## The components -/

variable (digests model) in
/-- **The run ends**, with the classes of the connected ids. -/
theorem entityClusters_spec (spec : SplinkSpec) (h : EdgesBetween map edges) :
    ∃ components, Classified map.ids (Connected spec edges) components ∧
      entityClusters digests spec model map edges =
        some ((sortedBy (fun c => toLex (c.length, c)) components).map
          (clusterOf digests spec model map (spec.authorizedEdges edges))) := by
  have hwithin : ∀ e ∈ linkedIds map (spec.authorizedEdges edges), e.1 ∈ map.ids ∧ e.2 ∈ map.ids := by
    intro e he
    simpa using (mem_filter.1 he).2
  obtain ⟨parent, hunite, hrooted, hspans⟩ := uniteAll_spec hwithin
  obtain ⟨groups, hclasses, hgroups⟩ := classes_spec hrooted map.idsAreUnique
  refine ⟨sortedClasses groups, ?_, ?_⟩
  · have hlink : (fun a b => (a, b) ∈ linkedIds map (spec.authorizedEdges edges)) =
        Linked spec edges := by
      funext a b
      exact propext h.mem_linkedIds
    rw [hlink] at hspans
    exact Grouped.classified hgroups hrooted.forest hspans
  · simp only [entityClusters, hunite, hclasses, Option.bind_eq_bind, Option.bind_some,
      sortedComponents]
    rfl

theorem Classified.areComponents {components : List (List String)}
    (h : Classified map.ids (Connected spec edges) components) (authorized : List SplinkEdge) :
    AreComponents spec map edges (((sortedBy (fun c => toLex (c.length, c)) components).map
        (clusterOf digests spec model map authorized)).map Prod.fst) := by
  have hmem : ∀ cluster, cluster ∈ ((sortedBy (fun c => toLex (c.length, c)) components).map
      (clusterOf digests spec model map authorized)).map Prod.fst →
      ∃ c ∈ components, cluster.recordRefs = map.refs c := by
    intro cluster hcluster
    obtain ⟨found, hfound, rfl⟩ := mem_map.1 hcluster
    obtain ⟨c, hc, rfl⟩ := mem_map.1 hfound
    exact ⟨c, mem_sortedBy.1 hc, rfl⟩
  have hids : ∀ c ∈ components, ∀ id ∈ c, id ∈ map.ids := by
    intro c hc id hid
    obtain ⟨a, -, hclass⟩ := h.isClass c hc
    exact ((hclass id).1 hid).1
  refine ⟨?_, ?_, ?_, ?_⟩
  · intro cluster hcluster
    obtain ⟨c, hc, hrefs⟩ := hmem cluster hcluster
    obtain ⟨a, ha, hclass⟩ := h.isClass c hc
    obtain ⟨record, hrecord, rfl⟩ := mem_ids.1 ha
    refine ⟨record, hrecord, fun ref => ?_⟩
    rw [hrefs, mem_refs]
    constructor
    · rintro ⟨other, hother, rfl, hid⟩
      exact ⟨other, hother, rfl, ((hclass other.id).1 hid).2⟩
    · rintro ⟨other, hother, rfl, hsame⟩
      exact ⟨other, hother, rfl, (hclass other.id).2 ⟨mem_ids.2 ⟨other, hother, rfl⟩, hsame⟩⟩
  · intro cluster hcluster
    obtain ⟨c, hc, hrefs⟩ := hmem cluster hcluster
    obtain ⟨-, hnodup, hlength⟩ := h.isSorted c hc
    obtain ⟨hrefsNodup, hrefsLength⟩ := refs_eq (hids c hc) hnodup
    rw [hrefs, hrefsLength]
    exact ⟨hrefsNodup, hlength⟩
  · intro a ha b hb hne hab
    have hidne : a.id ≠ b.id := fun heq =>
      hne (inj_on_of_nodup_map map.idsAreUnique ha hb heq)
    obtain ⟨c, hc, hac, hbc⟩ := h.complete a.id (mem_ids.2 ⟨a, ha, rfl⟩) b.id
      (mem_ids.2 ⟨b, hb, rfl⟩) hidne hab
    refine ⟨(clusterOf digests spec model map authorized c).1, ?_, ?_, ?_⟩
    · exact mem_map.2 ⟨_, mem_map.2 ⟨c, mem_sortedBy.2 hc, rfl⟩, rfl⟩
    · exact mem_refs.2 ⟨a, ha, rfl, hac⟩
    · exact mem_refs.2 ⟨b, hb, rfl, hbc⟩
  · rw [map_map, pairwise_map]
    have hdistinct : (sortedBy (fun c => toLex (c.length, c)) components).Nodup :=
      (sortedBy_perm _ components).nodup_iff.2 h.distinct
    refine hdistinct.imp_of_mem fun {c c'} hc hc' hne ref href href' => hne ?_
    -- a record of both classes makes them one class
    obtain ⟨record, hrecord, hr, hid⟩ := mem_refs.1 href
    obtain ⟨record', hrecord', hr', hid'⟩ := mem_refs.1 href'
    have heq := eq_of_recordRef hrecord hrecord' (hr.trans hr'.symm)
    subst heq
    exact h.eq_of_mem (Relation.EqvGen.is_equivalence _) h (fun _ => Iff.rfl) (mem_sortedBy.1 hc)
      (mem_sortedBy.1 hc') hid hid'

/-- The references of a component are the same in a permuted map. -/
theorem RecordMap.refs_perm (hmap : map'.records.Perm map.records) {component : List String}
    (hnodup : component.Nodup) (hids : ∀ id ∈ component, id ∈ map.ids) :
    map'.refs component = map.refs component := by
  have hids' : ∀ id ∈ component, id ∈ map'.ids := fun id hid =>
    (hmap.map ResolutionRecord.id).mem_iff.2 (hids id hid)
  have hperm : (map'.refs component).Perm (map.refs component) := by
    rw [perm_ext_iff_of_nodup (refs_eq hids' hnodup).1 (refs_eq hids hnodup).1]
    intro ref
    rw [mem_refs, mem_refs]
    exact exists_congr fun record => and_congr_left fun _ => hmap.mem_iff
  exact (sorted_sorted _).symm.trans ((sorted_eq_of_perm hperm).trans (sorted_sorted _))

/-- The id and the records of a cluster, in the order of the result. -/
def identities (found : List (EntityCluster × EntityClusterDiagnostic)) :
    List (String × List String) :=
  found.map fun item => (item.1.clusterId, item.1.recordRefs)

/-- **The order of records and of edges** leaves the ids and the records of the clusters alone. -/
theorem entityClusters_perm (h : EdgesBetween map edges) (hmap : map'.records.Perm map.records)
    (hedges : edges'.Perm edges) {found found' : List (EntityCluster × EntityClusterDiagnostic)}
    (hfound : entityClusters digests spec model map edges = some found)
    (hfound' : entityClusters digests spec model map' edges' = some found') :
    identities found' = identities found := by
  obtain ⟨components, hclasses, hrun⟩ := entityClusters_spec digests model spec h
  obtain ⟨components', hclasses', hrun'⟩ := entityClusters_spec digests model spec
    (h.perm hmap hedges)
  rw [hrun, Option.some.injEq] at hfound
  rw [hrun', Option.some.injEq] at hfound'
  subst hfound hfound'
  have hids : ∀ a, a ∈ map'.ids ↔ a ∈ map.ids := fun a => (hmap.map ResolutionRecord.id).mem_iff
  rw [Connected, Linked.perm hedges] at hclasses'
  have hperm := Classified.perm (Relation.EqvGen.is_equivalence _) hclasses' hclasses hids
  have hsort : sortedBy (fun c => toLex (c.length, c)) components' =
      sortedBy (fun c => toLex (c.length, c)) components :=
    sortedBy_eq_of_perm hperm fun a _ b _ hkey => (Prod.ext_iff.1 (toLex_inj.1 hkey)).2
  rw [hsort, identities, identities, map_map, map_map]
  refine map_congr_left fun c hc => ?_
  obtain ⟨a, -, hclass⟩ := hclasses.isClass c (mem_sortedBy.1 hc)
  have hrefs : map'.refs c = map.refs c :=
    refs_perm hmap (hclasses.isSorted c (mem_sortedBy.1 hc)).2.1
      fun id hid => ((hclass id).1 hid).1
  simp only [Function.comp_apply, clusterOf, hrefs]

/-! ## The membership of a cluster -/

variable (spec edges) in
def completeResult (clusters : List EntityCluster) (artifacts : List String) (digest : String) :
    EntityResolutionResult where
  spec := spec.toEntityResolutionSpec
  observationScope := spec.scope
  edges := edges.map toEntityMatchEdge
  clusters := clusters.map EntityCluster.recordRefs
  artifacts := artifacts
  status := .complete
  digest := digest

theorem SplinkSpec.authorizes_eq (band : EntityMatchPredictionBand) {clusters : List EntityCluster}
    {artifacts : List String} {digest : String} :
    allowedBand (completeResult spec edges clusters artifacts digest) band = spec.authorizes band := by
  rw [SplinkSpec.authorizes, ← spec.bandsOfPolicy]
  rfl

theorem sameMembers_refl (xs : List String) : sameMembers xs xs = true := by
  simp [sameMembers]

theorem ResolutionScope.agrees_refl (scope : ResolutionScope) : scope.agrees scope = true := by
  simp [ResolutionScope.agrees, sameMembers_refl, sameDict]

theorem EdgesBetween.mem_internalEdges (h : EdgesBetween map edges) {component : List String}
    {edge : SplinkEdge} : edge ∈ internalEdges (spec.authorizedEdges edges) component ↔
      (edge ∈ edges ∧ spec.authorizes edge.modelPredictionBand = true) ∧
        edge.leftId ∈ component ∧ edge.rightId ∈ component := by
  have honce : ∀ a ∈ (spec.authorizedEdges edges).map (fun edge => (edge.pair, edge)),
      ∀ b ∈ (spec.authorizedEdges edges).map (fun edge => (edge.pair, edge)), a.1 = b.1 → a = b := by
    rintro _ ha _ hb hkey
    obtain ⟨x, hx, rfl⟩ := mem_map.1 ha
    obtain ⟨y, hy, rfl⟩ := mem_map.1 hb
    rw [inj_on_of_nodup_map h.oncePerPair (mem_authorizedEdges.1 hx).1
      (mem_authorizedEdges.1 hy).1 hkey]
  have hpair : (edge.pair.1 ∈ component ∧ edge.pair.2 ∈ component) ↔
      edge.leftId ∈ component ∧ edge.rightId ∈ component := by
    rw [SplinkEdge.pair]
    split
    · exact Iff.rfl
    · exact and_comm
  simp only [internalEdges, edgeByPair, mem_map, mem_filter, decide_eq_true_eq,
    mem_dictOf honce]
  constructor
  · rintro ⟨_, ⟨⟨e, he, rfl⟩, hin⟩, rfl⟩
    exact ⟨mem_authorizedEdges.1 he, hpair.1 hin⟩
  · rintro ⟨he, hin⟩
    exact ⟨_, ⟨⟨edge, mem_authorizedEdges.2 he, rfl⟩, hpair.2 hin⟩, rfl⟩

theorem Linked.of_connected {a b : String} (h : Connected spec edges a b) (hne : a ≠ b) :
    ∃ c, c ≠ a ∧ (Linked spec edges a c ∨ Linked spec edges c a) := by
  have hstep : ∀ {a b : String}, Connected spec edges a b → a ≠ b →
      (∃ c, c ≠ a ∧ (Linked spec edges a c ∨ Linked spec edges c a)) ∧
        ∃ c, c ≠ b ∧ (Linked spec edges b c ∨ Linked spec edges c b) := by
    intro a b h
    induction h with
    | rel a b hab => exact fun hne => ⟨⟨b, hne.symm, .inl hab⟩, a, hne, .inr hab⟩
    | refl a => exact fun hne => absurd rfl hne
    | symm a b _ ih => exact fun hne => (ih hne.symm).symm
    | trans a b c _ _ ih ih' =>
      intro hne
      by_cases hab : a = b
      · subst hab
        exact ih' hne
      · by_cases hbc : b = c
        · subst hbc
          exact ih hne
        · exact ⟨(ih hab).1, (ih' hbc).2⟩
  exact (hstep h hne).1

theorem pair_swap (a b : String) : (if a ≤ b then (a, b) else (b, a)) =
    if b ≤ a then (b, a) else (a, b) := by
  by_cases hab : a ≤ b
  · by_cases hba : b ≤ a
    · rw [le_antisymm hab hba]
    · rw [if_pos hab, if_neg hba]
  · rw [if_neg hab, if_pos ((le_total a b).resolve_left hab)]

section Membership

variable {clusters : List EntityCluster} {artifacts : List String} {digest : String}
  {membership : CanonicalIdentityMembership} {component : List String}

section
variable (h : EdgesBetween map edges)
include h

theorem EdgesBetween.edgeIds (hdigests : ∀ a ∈ edges, ∀ b ∈ edges,
      digests.entityEdgeId a.leftRecordRef a.rightRecordRef model.modelId =
        digests.entityEdgeId b.leftRecordRef b.rightRecordRef model.modelId →
      [a.leftRecordRef, a.rightRecordRef].Perm [b.leftRecordRef, b.rightRecordRef])
    (hids : ∀ edge ∈ edges, edge.edgeId =
      digests.entityEdgeId edge.leftRecordRef edge.rightRecordRef model.modelId) :
    (edges.map (·.edgeId)).Nodup := by
  have hnodup : edges.Nodup := List.Nodup.of_map _ h.oncePerPair
  refine hnodup.map_on fun x hx y hy hxy => ?_
  rw [hids x hx, hids y hy] at hxy
  have hperm := hdigests x hx y hy hxy
  obtain ⟨l, hl, r, hr, ⟨hxl, hxlid⟩, hxr, hxrid⟩ := h.records hx
  obtain ⟨l', hl', r', hr', ⟨hyl, hylid⟩, hyr, hyrid⟩ := h.records hy
  refine inj_on_of_nodup_map h.oncePerPair hx hy ?_
  rw [pair, pair, hxlid, hxrid, hylid, hyrid]
  rw [hxl, hxr, hyl, hyr] at hperm
  -- the same two references, in one order or in the other
  rcases perm_pair.1 hperm with heq | heq
  · obtain ⟨hleft, hright⟩ : l.recordRef = l'.recordRef ∧ r.recordRef = r'.recordRef := by
      simpa using heq
    rw [eq_of_recordRef hl hl' hleft, eq_of_recordRef hr hr' hright]
  · obtain ⟨hleft, hright⟩ : l.recordRef = r'.recordRef ∧ r.recordRef = l'.recordRef := by
      simpa using heq
    rw [eq_of_recordRef hl hr' hleft, eq_of_recordRef hr hl' hright]
    exact pair_swap _ _

/-- The selected edges of the membership of a component are the authorized ones inside it. -/
theorem EdgesBetween.mem_selectedEdges (hedgeIds : (edges.map (·.edgeId)).Nodup)
    (hrefs : membership.authorizedEdgeRefs =
      (internalEdges (spec.authorizedEdges edges) component).map (·.edgeId)) {e : EntityMatchEdge} :
    e ∈ membership.selectedEdges (completeResult spec edges clusters artifacts digest) ↔
      ∃ edge ∈ internalEdges (spec.authorizedEdges edges) component,
        edge.toEntityMatchEdge = e := by
  have hget : ∀ edge ∈ edges, getItem
      (edgesById (completeResult spec edges clusters artifacts digest)) edge.edgeId =
        some edge.toEntityMatchEdge := by
    intro edge hedge
    have hnodup : ((edgesById (completeResult spec edges clusters artifacts digest)).map
        Prod.fst).Nodup := by
      simpa only [edgesById, completeResult, map_map, Function.comp_def] using hedgeIds
    exact (getItem_eq_some_iff hnodup).2 (mem_map.2
      ⟨_, mem_map.2 ⟨edge, hedge, rfl⟩, rfl⟩)
  rw [CanonicalIdentityMembership.selectedEdges, hrefs]
  simp only [mem_filterMap, mem_map]
  constructor
  · rintro ⟨_, ⟨edge, hedge, rfl⟩, hitem⟩
    rw [hget edge (h.mem_internalEdges.1 hedge).1.1] at hitem
    exact ⟨edge, hedge, Option.some.inj hitem⟩
  · rintro ⟨edge, hedge, rfl⟩
    exact ⟨_, ⟨edge, hedge, rfl⟩, hget edge (h.mem_internalEdges.1 hedge).1.1⟩

/-- Connected ids of a component lie on a path of its own edges. -/
theorem EdgesBetween.path {selected : List EntityMatchEdge} (hselected : ∀ e, e ∈ selected ↔
      ∃ edge ∈ internalEdges (spec.authorizedEdges edges) component, edge.toEntityMatchEdge = e)
    (hclosed : ∀ a b, Connected spec edges a b → (a ∈ component ↔ b ∈ component))
    {a b : String} (hab : Connected spec edges a b) (ha : a ∈ component) :
    ∀ record ∈ map.records, ∀ other ∈ map.records, record.id = a → other.id = b →
      Relation.ReflTransGen (Joined selected) record.recordRef other.recordRef := by
  have hboth : ∀ {a b : String}, Connected spec edges a b → a ∈ component →
      ∀ record ∈ map.records, ∀ other ∈ map.records, record.id = a → other.id = b →
        Relation.ReflTransGen (Joined selected) record.recordRef other.recordRef ∧
          Relation.ReflTransGen (Joined selected) other.recordRef record.recordRef := by
    intro a b hab
    induction hab with
    | rel a b hlink =>
      rintro ha record hrecord other hother rfl rfl
      have hb := (hclosed _ _ (.rel _ _ hlink)).1 ha
      obtain ⟨edge, hmem, hband, hleft, hright⟩ := hlink
      obtain ⟨l, hl, r, hr, ⟨hlr, hlid⟩, hrr, hrid⟩ := h.records hmem
      have hsame : l = record :=
        inj_on_of_nodup_map map.idsAreUnique hl hrecord (hlid.symm.trans hleft)
      have hsame' : r = other :=
        inj_on_of_nodup_map map.idsAreUnique hr hother (hrid.symm.trans hright)
      subst hsame hsame'
      have hin : edge.toEntityMatchEdge ∈ selected :=
        (hselected _).2 ⟨edge, h.mem_internalEdges.2 ⟨⟨hmem, hband⟩, hleft ▸ ha, hright ▸ hb⟩, rfl⟩
      exact ⟨.single ⟨_, hin, .inl ⟨hlr, hrr⟩⟩, .single ⟨_, hin, .inr ⟨hrr, hlr⟩⟩⟩
    | refl a =>
      rintro - record hrecord other hother hid hid'
      have hsame := inj_on_of_nodup_map map.idsAreUnique hrecord hother (hid.trans hid'.symm)
      subst hsame
      exact ⟨.refl, .refl⟩
    | symm a b hab ih =>
      intro hb record hrecord other hother hid hid'
      exact (ih ((hclosed _ _ hab).2 hb) other hother record hrecord hid' hid).symm
    | trans a b c hab hbc ih ih' =>
      intro ha record hrecord other hother hid hid'
      have hb := (hclosed _ _ hab).1 ha
      obtain ⟨middle, hmiddle, hmid⟩ := mem_ids.1
        ((h.connected_ids hab).1 (mem_ids.2 ⟨record, hrecord, hid⟩))
      obtain ⟨hto, hback⟩ := ih ha record hrecord middle hmiddle hid hmid
      obtain ⟨hto', hback'⟩ := ih' hb middle hmiddle other hother hmid hid'
      exact ⟨hto.trans hto', hback'.trans hback⟩
  exact fun record hrecord other hother hid hid' =>
    (hboth hab ha record hrecord other hother hid hid').1

/-- **The membership of a component is authorized.** -/
theorem EdgesBetween.authorized
    (hedgeIds : (edges.map (·.edgeId)).Nodup) {components : List (List String)}
    (hclasses : Classified map.ids (Connected spec edges) components) (hc : component ∈ components)
    (hcluster : map.refs component ∈ clusters.map EntityCluster.recordRefs)
    {hypothesis : CanonicalModelHypothesis}
    (hspec : hypothesis.entityResolutionSpecs.find? (·.entityFamily = spec.entityFamily) =
      some spec.toEntityResolutionSpec)
    (hrecords : membership.sourceRecordRefs = map.refs component)
    (hrefs : membership.authorizedEdgeRefs =
      (internalEdges (spec.authorizedEdges edges) component).map (·.edgeId)) :
    Authorized hypothesis membership (completeResult spec edges clusters artifacts digest)
      spec.entityFamily := by
  have hselected : ∀ e, e ∈ membership.selectedEdges
      (completeResult spec edges clusters artifacts digest) ↔
        ∃ edge ∈ internalEdges (spec.authorizedEdges edges) component,
          edge.toEntityMatchEdge = e := fun e => h.mem_selectedEdges hedgeIds hrefs
  obtain ⟨a, ha, hclass⟩ := hclasses.isClass component hc
  have hequiv := Relation.EqvGen.is_equivalence (Linked spec edges)
  have hclosed : ∀ x y, Connected spec edges x y → (x ∈ component ↔ y ∈ component) := by
    intro x y hxy
    rw [hclass x, hclass y, h.connected_ids hxy]
    exact and_congr_right fun _ =>
      ⟨fun hx => hequiv.trans hx hxy, fun hy => hequiv.trans hy (hequiv.symm hxy)⟩
  have hmem : ∀ ref, ref ∈ membership.sourceRecordRefs ↔
      ∃ record ∈ map.records, record.recordRef = ref ∧ record.id ∈ component := by
    intro ref
    rw [hrecords, mem_refs]
  refine ⟨⟨spec.toEntityResolutionSpec, hspec, rfl, rfl, rfl, rfl, ?_, ?_⟩, ?_, ?_, ?_, ?_, ?_, ?_⟩
  · exact spec.scope.agrees_refl
  · exact spec.scope.agrees_refl
  · -- every reference is that of an edge of the result
    intro ref href
    rw [hrefs] at href
    obtain ⟨edge, hedge, rfl⟩ := mem_map.1 href
    rw [getItem_isSome_iff]
    exact mem_map.2 ⟨_, mem_map.2 ⟨edge.toEntityMatchEdge, mem_map.2
      ⟨edge, (h.mem_internalEdges.1 hedge).1.1, rfl⟩, rfl⟩, rfl⟩
  · intro e he
    obtain ⟨edge, hedge, rfl⟩ := (hselected e).1 he
    rw [SplinkSpec.authorizes_eq]
    exact (h.mem_internalEdges.1 hedge).1.2
  · -- both ends of an edge inside the component are records of it
    intro e he ref href
    obtain ⟨edge, hedge, rfl⟩ := (hselected e).1 he
    obtain ⟨⟨hin, -⟩, hleft, hright⟩ := h.mem_internalEdges.1 hedge
    obtain ⟨l, hl, r, hr, ⟨hlr, hlid⟩, hrr, hrid⟩ := h.records hin
    rw [endpoints, mem_pair] at href
    rcases href with rfl | rfl
    · exact (hmem _).2 ⟨l, hl, hlr.symm, hlid ▸ hleft⟩
    · exact (hmem _).2 ⟨r, hr, hrr.symm, hrid ▸ hright⟩
  · -- another record of the component is connected to it, so it has an edge
    intro ref href
    obtain ⟨record, hrecord, rfl, hid⟩ := (hmem ref).1 href
    obtain ⟨-, hnodup, hlength⟩ := hclasses.isSorted component hc
    obtain ⟨x, hx, y, hy, hxy⟩ := exists_ne_of_two_le hnodup hlength
    obtain ⟨b, hb, hne⟩ : ∃ b ∈ component, record.id ≠ b := by
      by_cases hidx : record.id = x
      · exact ⟨y, hy, hidx ▸ hxy⟩
      · exact ⟨x, hx, hidx⟩
    have hconnected : Connected spec edges record.id b :=
      hequiv.trans (hequiv.symm ((hclass _).1 hid).2) ((hclass b).1 hb).2
    have hends : ∀ edge ∈ edges, spec.authorizes edge.modelPredictionBand = true →
        edge.leftId ∈ component ∧ edge.rightId ∈ component → edge.toEntityMatchEdge ∈
          membership.selectedEdges (completeResult spec edges clusters artifacts digest) :=
      fun edge hin hband hboth =>
        (hselected _).2 ⟨edge, h.mem_internalEdges.2 ⟨⟨hin, hband⟩, hboth⟩, rfl⟩
    obtain ⟨c, -, hlink | hlink⟩ := Linked.of_connected hconnected hne
    · have hcIn := (hclosed _ _ (.rel _ _ hlink)).1 hid
      obtain ⟨edge, hin, hband, hleft, hright⟩ := hlink
      obtain ⟨l, hl, r, hr, ⟨hlr, hlid⟩, -⟩ := h.records hin
      have hsame : l = record :=
        inj_on_of_nodup_map map.idsAreUnique hl hrecord (hlid.symm.trans hleft)
      refine ⟨_, hends edge hin hband ⟨hleft ▸ hid, hright ▸ hcIn⟩, ?_⟩
      rw [endpoints, hlr, hsame]
      exact mem_cons_self
    · have hcIn := (hclosed _ _ (.rel _ _ hlink)).2 hid
      obtain ⟨edge, hin, hband, hleft, hright⟩ := hlink
      obtain ⟨l, hl, r, hr, -, hrr, hrid⟩ := h.records hin
      have hsame : r = record :=
        inj_on_of_nodup_map map.idsAreUnique hr hrecord (hrid.symm.trans hright)
      refine ⟨_, hends edge hin hband ⟨hleft ▸ hcIn, hright ▸ hid⟩, ?_⟩
      rw [endpoints, hrr, hsame]
      simp
  · intro ref href
    obtain ⟨record, hrecord, rfl, hid⟩ := (hmem ref).1 href
    obtain ⟨first, hfirst, hhead, hfid⟩ := (hmem _).1 (head_mem membership.records_nonempty)
    rw [← hhead]
    have hconnected : Connected spec edges first.id record.id :=
      hequiv.trans (hequiv.symm ((hclass _).1 hfid).2) ((hclass _).1 hid).2
    exact h.path hselected hclosed hconnected hfid first hfirst record hrecord rfl rfl
  · intro ref href
    refine mem_append_right _ (mem_flatten.2 ⟨_, hcluster, ?_⟩)
    rw [← hrecords]
    exact href

end

end Membership

/-- **Clusters are the authorized components, and canonicalization accepts them.** -/
theorem entity_clusters_authorized (digests : ClusterDigests) (spec : SplinkSpec)
    (model : ModelReference) (map : RecordMap) (edges : List SplinkEdge)
    (h : EdgesBetween map edges) (hids : ∀ edge ∈ edges, edge.edgeId =
      digests.entityEdgeId edge.leftRecordRef edge.rightRecordRef model.modelId)
    -- the digests of two pairs of records do not collide
    (hdigests : ∀ a ∈ edges, ∀ b ∈ edges,
      digests.entityEdgeId a.leftRecordRef a.rightRecordRef model.modelId =
        digests.entityEdgeId b.leftRecordRef b.rightRecordRef model.modelId →
      [a.leftRecordRef, a.rightRecordRef].Perm [b.leftRecordRef, b.rightRecordRef]) :
    ∃ found, entityClusters digests spec model map edges = some found ∧
      AreComponents spec map edges (found.map Prod.fst) ∧
      (∀ (map' : RecordMap) (edges' : List SplinkEdge), map'.records.Perm map.records →
        edges'.Perm edges → ∃ found', entityClusters digests spec model map' edges' = some found' ∧
          identities found' = identities found) ∧
      ∀ (hypothesis : CanonicalModelHypothesis) (membership : CanonicalIdentityMembership)
        (artifacts : List String) (digest : String),
        hypothesis.entityResolutionSpecs.find? (·.entityFamily = spec.entityFamily) =
          some spec.toEntityResolutionSpec →
        ∀ cluster ∈ found.map Prod.fst, membership.sourceRecordRefs = cluster.recordRefs →
          membership.authorizedEdgeRefs = cluster.edgeRefs →
          validateErMembership hypothesis membership
            (completeResult spec edges (found.map Prod.fst) artifacts digest) spec.entityFamily =
              .ok () := by
  obtain ⟨components, hclasses, hrun⟩ := entityClusters_spec digests model spec h
  refine ⟨_, hrun, hclasses.areComponents _, ?_, ?_⟩
  · intro map' edges' hmap hedges
    obtain ⟨components', -, hrun'⟩ := entityClusters_spec digests model spec
      (h.perm hmap hedges)
    exact ⟨_, hrun', entityClusters_perm h hmap hedges hrun hrun'⟩
  · intro hypothesis membership artifacts digest hspec cluster hcluster hrecords hrefs
    obtain ⟨item, hitem, rfl⟩ := mem_map.1 hcluster
    obtain ⟨component, hc, rfl⟩ := mem_map.1 hitem
    rw [validateErMembership_eq_ok]
    exact h.authorized (h.edgeIds hdigests hids) hclasses (mem_sortedBy.1 hc)
      (mem_map.2 ⟨_, hcluster, rfl⟩) hspec hrecords hrefs

def pairDigests : ClusterDigests where
  clusterId key := String.join key.recordRefs
  diagnosticId clusterId := "diag_" ++ clusterId
  edgeId refs _ := String.join refs
  fieldColumn fieldId := fieldId

def reviewPolicy : ERClusteringPolicy :=
  { policyId := "policy"
    algorithm := "connected_components"
    thresholdPolicyId := "thresholds"
    maxClusterSize := 10
    rejectPlaceholderOnlyEdges := true
    rejectConflictingAnchorEdges := true
    rejectUnsafeBridgeClusters := true
    clusterProbabilityThreshold := none
    includeReviewEdges := true }

def customerLinkage : SplinkSpec where
  specId := "spec"
  entityFamily := "customer"
  scope := ⟨["crm"], [("crm", "s1")], [("crm", ["t1"])]⟩
  includeReviewEdges := true
  fingerprint := "f"
  clusteringPolicy := reviewPolicy
  budgetMaxClusterSize := 10
  identityFields := []

def customerMap : RecordMap where
  records := [⟨"r1", "crm", []⟩, ⟨"r2", "crm", []⟩, ⟨"r3", "crm", []⟩]

def customerEdges : List SplinkEdge :=
  [{ edgeId := "r1r2", leftRecordRef := "r2", rightRecordRef := "r1",
     modelPredictionBand := .strongLinkEvidence, leftSourceId := "crm", rightSourceId := "crm",
     independentEvidenceRefs := ["name"] },
   { edgeId := "r2r3", leftRecordRef := "r2", rightRecordRef := "r3",
     modelPredictionBand := .reviewLinkEvidence, leftSourceId := "crm", rightSourceId := "crm",
     independentEvidenceRefs := [] }]

theorem entity_clusters_authorized_customer :
    ∃ found, entityClusters pairDigests customerLinkage ⟨"m", "c"⟩ customerMap customerEdges =
        some found ∧
      AreComponents customerLinkage customerMap customerEdges (found.map Prod.fst) := by
  obtain ⟨found, hrun, hcomponents, -⟩ := entity_clusters_authorized pairDigests customerLinkage
    ⟨"m", "c"⟩ customerMap customerEdges ⟨by decide, by decide⟩ (by decide) (by decide)
  exact ⟨found, hrun, hcomponents⟩

end DirtyDataOlap.Canonical

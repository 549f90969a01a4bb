import DirtyDataOlap.FilterValues
import DirtyDataOlap.SelectSemantics

/-!
# Filters and the grouping of a query

A filter joins the dimension of its attribute, and where a request names no grouping every joined
dimension is grouped by.  So **further filters only restrict if and only if a grouping is named or
they join no further dimension**.
-/
namespace DirtyDataOlap.Semantic

open List Analytical Sql

/-- Requests that differ only in that the second has further filters. -/
structure AddsFilters (r r' : SemanticQueryRequest) : Prop where
  requestId : r'.requestId = r.requestId
  metricIds : r'.metricIds = r.metricIds
  dimensionIds : r'.dimensionIds = r.dimensionIds
  groupByAttributeIds : r'.groupByAttributeIds = r.groupByAttributeIds
  timeRoleId : r'.timeRoleId = r.timeRoleId
  aggregationOverrides : r'.aggregationOverrides = r.aggregationOverrides
  filters : r.filters.Sublist r'.filters
  sort : r'.sort = r.sort
  limit : r'.limit = r.limit

def withAttribute (model : SemanticModel) (filter : SemanticFilter) : Option FilterAttribute :=
  (getItem model.attributeItems filter.attributeId).map fun filtered => (filter, filtered)

/-- The dimensions that a request names and that its filters are on, in the order they are met. -/
def requestDimensions (model : SemanticModel) (request : SemanticQueryRequest) : List String :=
  ((request.filters.filterMap (withAttribute model)).map fun item => item.2.dimensionId).foldl
    addDimension request.dimensionIds

section

variable {selected more : List String} {dimensionId : String}

theorem selected_isPrefixOf_addDimension : selected <+: addDimension selected dimensionId := by
  unfold addDimension
  split_ifs
  · exact prefix_refl _
  · exact prefix_append _ _

theorem mem_addDimension {d : String} :
    d ∈ addDimension selected dimensionId ↔ d ∈ selected ∨ d = dimensionId := by
  unfold addDimension
  split_ifs with h
  · refine ⟨.inl, ?_⟩
    rintro (hd | rfl)
    · exact hd
    · exact h
  · rw [mem_append, mem_singleton]

theorem nodup_addDimension (h : selected.Nodup) : (addDimension selected dimensionId).Nodup := by
  unfold addDimension
  split_ifs with hmem
  · exact h
  · exact List.Nodup.append h (nodup_singleton _) (by simpa using hmem)

theorem selected_isPrefixOf_foldl : selected <+: more.foldl addDimension selected := by
  induction more generalizing selected with
  | nil => exact prefix_refl _
  | cons d more ih => exact selected_isPrefixOf_addDimension.trans ih

theorem mem_foldl_addDimension {d : String} :
    d ∈ more.foldl addDimension selected ↔ d ∈ selected ∨ d ∈ more := by
  induction more generalizing selected with
  | nil => simp
  | cons e more ih =>
    rw [foldl_cons, ih, mem_addDimension, mem_cons, or_assoc]

theorem nodup_foldl_addDimension (h : selected.Nodup) : (more.foldl addDimension selected).Nodup := by
  induction more generalizing selected with
  | nil => exact h
  | cons d more ih => exact ih (nodup_addDimension h)

end

variable {model : SemanticModel} {selected : List String} {request : SemanticQueryRequest}
  {named : List SemanticAttribute}

theorem groupDimensions_ok (h : groupDimensions model request = .ok selected) :
    selected.Nodup ∧ (request.groupByAttributeIds = [] → selected = request.dimensionIds) ∧
      ∀ i ∈ request.groupByAttributeIds, ∃ groupBy, getItem model.attributeItems i = some groupBy ∧
        groupBy.dimensionId ∈ selected := by
  let Kept (done selected : List String) : Prop := selected.Nodup ∧
    (done = [] → selected = request.dimensionIds) ∧
    ∀ i ∈ done, ∃ groupBy, getItem model.attributeItems i = some groupBy ∧
      groupBy.dimensionId ∈ selected
  have hstart : Kept [] request.dimensionIds :=
    ⟨request.queryIdsAreUnique.2.2.1, fun _ => rfl, fun i hi => absurd hi not_mem_nil⟩
  have hinvariant : Kept ([] ++ request.groupByAttributeIds) selected :=
    foldlM_invariant ?_ hstart h
  · rwa [nil_append] at hinvariant
  rintro done selected i selected' ⟨hnodup, -, hdone⟩ hstep
  cases hitem : getItem model.attributeItems i with
  | none =>
    rw [hitem] at hstep
    cases hstep
  | some groupBy =>
    rw [hitem] at hstep
    cases hstep
    refine ⟨nodup_addDimension hnodup, by simp, fun j hj => ?_⟩
    rcases mem_append.1 hj with hj | hj
    · obtain ⟨other, hother, hmem⟩ := hdone j hj
      exact ⟨other, hother, mem_addDimension.2 (.inl hmem)⟩
    · obtain rfl := mem_singleton.1 hj
      exact ⟨groupBy, hitem, mem_addDimension.2 (.inr rfl)⟩

/-! ## What a selection holds -/

theorem selectFilter_ok {metrics : List MetricSpec} {filter : SemanticFilter}
    {r : List String × FilterAttribute} (h : selectFilter model metrics selected filter = .ok r) :
    withAttribute model filter = some r.2 ∧ r.1 = addDimension selected r.2.2.dimensionId := by
  unfold selectFilter at h
  unfold withAttribute
  cases hitem : getItem model.attributeItems filter.attributeId with
  | none =>
    rw [hitem] at h
    cases h
  | some filtered =>
    rw [hitem] at h
    obtain ⟨_, -, h⟩ := bind_eq_ok.1 h
    obtain ⟨_, -, h⟩ := bind_eq_ok.1 h
    obtain ⟨_, -, h⟩ := bind_eq_ok.1 h
    cases h
    exact ⟨rfl, rfl⟩

theorem selectFilters_ok {metrics : List MetricSpec} {filters : List SemanticFilter}
    {r : List String × List FilterAttribute}
    (h : selectFilters model metrics filters selected = .ok r) :
    r.2 = filters.filterMap (withAttribute model) ∧
      r.1 = (r.2.map fun item => item.2.dimensionId).foldl addDimension selected := by
  induction filters generalizing selected r with
  | nil =>
    cases h
    exact ⟨rfl, rfl⟩
  | cons filter filters ih =>
    obtain ⟨first, hfirst, h⟩ := bind_eq_ok.1 h
    obtain ⟨rest, hrest, h⟩ := bind_eq_ok.1 h
    cases h
    obtain ⟨hattribute, hselected⟩ := selectFilter_ok hfirst
    obtain ⟨hfilters, hdimensions⟩ := ih hrest
    refine ⟨?_, ?_⟩
    · rw [filterMap_cons_some hattribute, ← hfilters]
    · rw [hdimensions, hselected]
      rfl

theorem selectRelationship_ok {factId dimensionId : String} {timeRole : Option TimeRole}
    {relationship : SemanticRelationship}
    (h : selectRelationship model factId timeRole dimensionId = .ok relationship) :
    relationship.targetSemanticObjectId = dimensionId := by
  have hall : ∀ r ∈ (model.relationships.filter fun r =>
      r.sourceSemanticObjectId = factId && r.targetSemanticObjectId = dimensionId),
      r.targetSemanticObjectId = dimensionId := by
    intro r hr
    have hboth := (mem_filter.1 hr).2
    simp only [Bool.and_eq_true, decide_eq_true_eq] at hboth
    exact hboth.2
  unfold selectRelationship at h
  simp only at h
  split at h
  · rename_i only hcandidates
    obtain ⟨_, -, h⟩ := bind_eq_ok.1 h
    cases h
    refine hall _ ?_
    have hmem : relationship ∈ [relationship] := mem_singleton_self _
    rw [← hcandidates] at hmem
    split at hmem
    · split_ifs at hmem
      · exact (mem_filter.1 hmem).1
      · exact hmem
    · exact hmem
  · cases h

theorem namedGroups_ok (h : namedGroups model request = .ok named) :
    Forall₂ (fun i groupBy => getItem model.attributeItems i = some groupBy)
      request.groupByAttributeIds named := by
  refine (mapM_eq_ok.1 h).imp fun i groupBy hgroup => ?_
  obtain ⟨found, hfound, hgroup⟩ := bind_eq_ok.1 hgroup
  obtain ⟨_, -, hgroup⟩ := bind_eq_ok.1 hgroup
  cases hgroup
  unfold lookup at hfound
  split at hfound
  · rename_i hitem
    cases hfound
    exact hitem
  · cases hfound

theorem defaultGroup_ok {dimensionId : String} {groupBy : SemanticAttribute}
    (h : defaultGroup model dimensionId = .ok groupBy) :
    groupBy ∈ model.attributes ∧ groupBy.dimensionId = dimensionId := by
  obtain ⟨dimension, hdimension, h⟩ := bind_eq_ok.1 h
  unfold lookup at hdimension
  split at hdimension
  · rename_i hitem
    cases hdimension
    obtain ⟨d, hd, hid, hsame⟩ := getItem_map_eq_some hitem
    subst hsame
    split at h
    · rename_i candidate hfind
      cases h
      have hmem := mem_of_find?_eq_some hfind
      exact ⟨mem_flatMap.2 ⟨d, hd, hmem⟩,
        (d.attributesBelongToDimension.2.1 _ hmem).trans hid⟩
    · cases h
  · cases hdimension

theorem groupAttributes_ok {groups : List SemanticAttribute}
    (h : groupAttributes model selected named = .ok groups) : (named ≠ [] → groups = named) ∧
      (named = [] → Forall₂ (fun d g => g ∈ model.attributes ∧ g.dimensionId = d) selected groups) := by
  unfold groupAttributes at h
  split_ifs at h with hdefault
  · obtain ⟨found, hfound, h⟩ := bind_eq_ok.1 h
    obtain ⟨_, -, h⟩ := bind_eq_ok.1 h
    cases h
    refine ⟨fun hne => absurd hdefault.2 hne, fun _ => ?_⟩
    exact (mapM_eq_ok.1 hfound).imp fun d g hg => defaultGroup_ok hg
  · obtain ⟨found, hfound, h⟩ := bind_eq_ok.1 h
    obtain ⟨_, -, h⟩ := bind_eq_ok.1 h
    cases hfound
    cases h
    refine ⟨fun _ => rfl, fun hnil => ?_⟩
    have hselected : selected = [] := not_not.1 fun hne => hdefault ⟨hne, hnil⟩
    rw [hselected, hnil]
    exact .nil

/-! ## Aliases -/

def aliasName (dimensionIds : List String) (dimensionId : String) : String :=
  (getItem (aliasesOf dimensionIds) dimensionId).getD ""

/-- The alias of a dimension in another list for its alias in the first. -/
def renameScope (dimensionIds dimensionIds' : List String) (scope : String) : String :=
  match dimensionIds.find? fun d => aliasName dimensionIds d = scope with
  | some d => aliasName dimensionIds' d
  | none => scope

section

variable {ds ds' : List String} {d e : String}

theorem aliasName_eq (hnodup : ds.Nodup) (hd : d ∈ ds) :
    aliasName ds d = "d" ++ toString (ds.idxOf d) := by
  have hkeys : (aliasesOf ds).map Prod.fst = ds := by
    unfold aliasesOf
    rw [map_map]
    exact zipIdx_map_fst 0 ds
  have hmem : (d, "d" ++ toString (ds.idxOf d)) ∈ aliasesOf ds :=
    mem_map.2 ⟨(d, ds.idxOf d), List.mk_mem_zipIdx_iff_getElem?.2 (List.getElem?_idxOf hd), rfl⟩
  unfold aliasName
  rw [(getItem_eq_some_iff (by rwa [hkeys])).2 hmem]
  rfl

theorem aliasName_injective (hnodup : ds.Nodup) (hd : d ∈ ds) (he : e ∈ ds)
    (h : aliasName ds d = aliasName ds e) : d = e := by
  rw [aliasName_eq hnodup hd, aliasName_eq hnodup he] at h
  have hidx : ds.idxOf d = ds.idxOf e := toString_nat_injective ((String.append_right_inj _).1 h)
  rw [← getElem_idxOf (idxOf_lt_length_of_mem hd)]
  simp only [hidx]
  exact getElem_idxOf (idxOf_lt_length_of_mem he)

theorem aliasName_ne_table (hnodup : ds.Nodup) (hd : d ∈ ds) : aliasName ds d ≠ "f" := by
  rw [aliasName_eq hnodup hd]
  intro h
  have hlist := congrArg String.toList h
  rw [String.toList_append] at hlist
  exact absurd (List.cons.inj hlist).1 (by decide)

/-- A dimension keeps its alias where more dimensions follow. -/
theorem aliasName_of_isPrefixOf (hnodup : ds'.Nodup) (h : ds <+: ds') (hd : d ∈ ds) :
    aliasName ds' d = aliasName ds d := by
  obtain ⟨more, rfl⟩ := h
  rw [aliasName_eq hnodup (mem_append_left _ hd),
    aliasName_eq (List.Nodup.of_append_left hnodup) hd, idxOf_append_of_mem hd]

theorem renameScope_alias (hnodup : ds.Nodup) (hd : d ∈ ds) :
    renameScope ds ds' (aliasName ds d) = aliasName ds' d := by
  unfold renameScope
  cases hfind : ds.find? fun e => aliasName ds e = aliasName ds d with
  | none =>
    have hnone := find?_eq_none.1 hfind d hd
    simp at hnone
  | some e =>
    have he : aliasName ds e = aliasName ds d := by simpa using find?_some hfind
    rw [aliasName_injective hnodup (mem_of_find?_eq_some hfind) hd he]

theorem renameScope_table (hnodup : ds.Nodup) : renameScope ds ds' "f" = "f" := by
  unfold renameScope
  cases hfind : ds.find? fun e => aliasName ds e = "f" with
  | none => rfl
  | some e =>
    have he : aliasName ds e = "f" := by simpa using find?_some hfind
    exact absurd he (aliasName_ne_table hnodup (mem_of_find?_eq_some hfind))

end

namespace SemanticLayerService

variable (model request) in
/-- What the first half of a compilation selects, step by step. -/
structure Selects (s : Selection) (named : List SemanticAttribute) (selected : List String)
    (timeRole : Option TimeRole) : Prop where
  metrics : selectedMetrics model request = .ok s.metrics
  fact : selectedFact s.metrics = .ok (s.factId, s.grainId)
  explicit : groupDimensions model request = .ok selected
  time : selectedTimeRole model request s.metrics s.factId = .ok timeRole
  filters : s.filters = request.filters.filterMap (withAttribute model)
  dimensions : s.dimensionIds =
    (s.filters.map fun item => item.2.dimensionId).foldl addDimension selected
  relationships : s.dimensionIds.mapM (selectRelationship model s.factId timeRole) =
    .ok s.relationships
  asked : namedGroups model request = .ok named
  groups : groupAttributes model s.dimensionIds named = .ok s.groups

theorem select_ok {model : SemanticModel} {request : SemanticQueryRequest} {s : Selection}
    (h : select model request = .ok s) :
    ∃ named selected timeRole, Selects model request s named selected timeRole := by
  obtain ⟨metrics, hmetrics, h⟩ := bind_eq_ok.1 h
  obtain ⟨⟨factId, grainId⟩, hfact, h⟩ := bind_eq_ok.1 h
  obtain ⟨selected, hselected, h⟩ := bind_eq_ok.1 h
  obtain ⟨_, -, h⟩ := bind_eq_ok.1 h
  obtain ⟨timeRole, htime, h⟩ := bind_eq_ok.1 h
  obtain ⟨⟨dimensionIds, filters⟩, hfilters, h⟩ := bind_eq_ok.1 h
  obtain ⟨relationships, hrelationships, h⟩ := bind_eq_ok.1 h
  obtain ⟨named, hnamed, h⟩ := bind_eq_ok.1 h
  obtain ⟨_, -, h⟩ := bind_eq_ok.1 h
  obtain ⟨groups, hgroups, h⟩ := bind_eq_ok.1 h
  cases h
  obtain ⟨hattributes, hdimensions⟩ := selectFilters_ok hfilters
  exact ⟨named, selected, timeRole, hmetrics, hfact, hselected, htime, hattributes, hdimensions,
    hrelationships, hnamed, hgroups⟩

section

variable {model : SemanticModel} {r r' : SemanticQueryRequest} {s s' : Selection}
  {named : List SemanticAttribute} {selected : List String} {timeRole : Option TimeRole}

section
variable (h : Selects model r s named selected timeRole)
include h

theorem Selects.nodup : s.dimensionIds.Nodup := by
  rw [h.dimensions]
  exact nodup_foldl_addDimension (groupDimensions_ok h.explicit).1

theorem Selects.selected_isPrefixOf : selected <+: s.dimensionIds := by
  rw [h.dimensions]
  exact selected_isPrefixOf_foldl

theorem Selects.filter_mem {item : FilterAttribute}
    (hitem : item ∈ s.filters) : item.2.dimensionId ∈ s.dimensionIds := by
  rw [h.dimensions]
  exact mem_foldl_addDimension.2 (.inr (mem_map.2 ⟨item, hitem, rfl⟩))

theorem Selects.targets :
    s.relationships.map SemanticRelationship.targetSemanticObjectId = s.dimensionIds := by
  have heq := map_eq_of_forall₂ (mapM_eq_ok.1 h.relationships) id
    SemanticRelationship.targetSemanticObjectId fun d r hr => selectRelationship_ok hr
  rwa [map_id] at heq

theorem Selects.named_mem {g : SemanticAttribute} (hg : g ∈ named) : g.dimensionId ∈ selected := by
  obtain ⟨i, hi, hitem⟩ := exists_left_of_forall₂ (namedGroups_ok h.asked) hg
  obtain ⟨other, hother, hmem⟩ := (groupDimensions_ok h.explicit).2.2 i hi
  rw [hitem] at hother
  cases hother
  exact hmem

theorem Selects.named_eq_nil_iff : named = [] ↔ r.groupByAttributeIds = [] := by
  have hall := namedGroups_ok h.asked
  constructor
  · rintro rfl
    exact List.forall₂_nil_right_iff.1 hall
  · intro hnil
    rw [hnil] at hall
    exact List.forall₂_nil_left_iff.1 hall

theorem Selects.group_mem {g : SemanticAttribute}
    (hg : g ∈ s.groups) : g.dimensionId ∈ s.dimensionIds := by
  by_cases hnamed : named = []
  · obtain ⟨d, hd, -, hgd⟩ := exists_left_of_forall₂ ((groupAttributes_ok h.groups).2 hnamed) hg
    rwa [hgd]
  · rw [(groupAttributes_ok h.groups).1 hnamed] at hg
    exact h.selected_isPrefixOf.subset (h.named_mem hg)

theorem Selects.dimensions_eq
    (hnone : r.groupByAttributeIds = []) : s.dimensionIds = requestDimensions model r := by
  rw [h.dimensions, h.filters, (groupDimensions_ok h.explicit).2.1 hnone]
  rfl

theorem Selects.of_addsFilters (hmore : AddsFilters r r') (h' : select model r' = .ok s') :
    Selects model r' s' named selected timeRole ∧ s'.metrics = s.metrics ∧ s'.factId = s.factId := by
  obtain ⟨named', selected', timeRole', h'⟩ := select_ok h'
  have hmetrics : s'.metrics = s.metrics := by
    have heq : selectedMetrics model r' = selectedMetrics model r := by
      simp only [selectedMetrics, hmore.metricIds]
    exact Except.ok.inj ((h'.metrics.symm.trans heq).trans h.metrics)
  have hfact : s'.factId = s.factId := by
    have heq := h'.fact
    rw [hmetrics, h.fact] at heq
    exact (Prod.mk.inj (Except.ok.inj heq)).1.symm
  have hnamed : named' = named := by
    have heq : namedGroups model r' = namedGroups model r := by
      simp only [namedGroups, hmore.groupByAttributeIds]
    exact Except.ok.inj ((h'.asked.symm.trans heq).trans h.asked)
  have hselected : selected' = selected := by
    have heq : groupDimensions model r' = groupDimensions model r := by
      simp only [groupDimensions, hmore.groupByAttributeIds, hmore.dimensionIds]
    exact Except.ok.inj ((h'.explicit.symm.trans heq).trans h.explicit)
  have htime : timeRole' = timeRole := by
    have heq : selectedTimeRole model r' s'.metrics s'.factId =
        selectedTimeRole model r s.metrics s.factId := by
      simp only [selectedTimeRole, hmore.timeRoleId, hmetrics, hfact]
    exact Except.ok.inj ((h'.time.symm.trans heq).trans h.time)
  subst hnamed hselected htime
  exact ⟨h', hmetrics, hfact⟩

end

end

/-! ## The statement of a selection -/

variable {model : SemanticModel} {aliases : List (String × String)}

theorem groupPart_ok {g : SemanticAttribute} {part : GroupColumn × (String × String)}
    (h : groupPart model aliases g = .ok part) :
    part.1 = ⟨columnRef aliases g, g.semanticAttributeId⟩ := by
  obtain ⟨_, -, h⟩ := bind_eq_ok.1 h
  cases h
  rfl

theorem metricPart_ok {r : SemanticQueryRequest} {metric : MetricSpec} {part : MetricColumn}
    (h : metricPart model r metric = .ok part) : part.aggregate.source.scope = "f" := by
  obtain ⟨_, -, h⟩ := bind_eq_ok.1 h
  obtain ⟨_, -, h⟩ := bind_eq_ok.1 h
  cases h
  rfl

variable (aliases) in
def conditionOf (item : FilterAttribute) : Condition :=
  match item.1.operator with
  | .equals =>
    if item.1.values.head? = some .none then .isNull (columnRef aliases item.2)
    else .equals (columnRef aliases item.2)
  | .isIn => .isIn (columnRef aliases item.2) item.1.values.length
  | .dateRange => .between (columnRef aliases item.2)

def parametersOf (item : FilterAttribute) : List SemanticValue :=
  if item.1.operator = .equals ∧ item.1.values.head? = some .none then [] else item.1.values

theorem wherePart_ok {item : FilterAttribute} {part : WherePart}
    (h : wherePart aliases item = .ok part) :
    part.condition = conditionOf aliases item ∧ part.parameters = parametersOf item := by
  obtain ⟨filter, filtered⟩ := item
  unfold conditionOf parametersOf
  simp only [wherePart] at h ⊢
  cases hoperator : filter.operator with
  | equals =>
    rw [hoperator] at h
    by_cases hnull : filter.values.head? = some .none
    · by_cases hnullable : filtered.nullable = true
      · simp only [if_pos hnull, if_pos hnullable] at h
        cases h
        simp [hnull]
      · simp only [if_pos hnull, if_neg hnullable] at h
        cases h
    · simp only [if_neg hnull] at h
      cases h
      simp [hnull]
  | isIn =>
    rw [hoperator] at h
    cases h
    simp
  | dateRange =>
    rw [hoperator] at h
    cases h
    simp

variable (aliases : List (String × String))

theorem length_parametersOf (item : FilterAttribute) :
    (parametersOf item).length = (conditionOf aliases item).placeholders.length := by
  have hshape := item.1.shapeIsBounded
  unfold parametersOf conditionOf
  cases hoperator : item.1.operator with
  | equals =>
    by_cases hnull : item.1.values.head? = some .none
    · simp [hnull, Condition.placeholders]
    · simp [hnull, Condition.placeholders, hshape.2.1 hoperator]
  | isIn => simp [Condition.placeholders]
  | dateRange => simp [Condition.placeholders, hshape.2.2 hoperator]

@[simp] theorem column_conditionOf (item : FilterAttribute) :
    (conditionOf aliases item).column = columnRef aliases item.2 := by
  unfold conditionOf
  cases item.1.operator with
  | equals => split_ifs <;> rfl
  | isIn => rfl
  | dateRange => rfl

structure Writes (model : SemanticModel) (r : SemanticQueryRequest) (s : Selection) (w : Statement)
    (parts : List MetricColumn) : Prop where
  groups : w.statement.groups = s.groups.map fun g =>
    ⟨columnRef (aliasesOf s.dimensionIds) g, g.semanticAttributeId⟩
  metrics : s.metrics.mapM (metricPart model r) = .ok parts
  aggregates : w.statement.aggregates = parts.map MetricColumn.aggregate
  table : w.statement.table = (parts.head?.map MetricColumn.factTable).getD ""
  operations : w.operations = parts.map fun part => (part.aggregate.name, part.aggregate.operation)
  scope : w.statement.scope = "f"
  joins : w.statement.joins = s.relationships.map (joinPart (aliasesOf s.dimensionIds))
  conditions : w.statement.conditions = s.filters.map (conditionOf (aliasesOf s.dimensionIds))
  parameters : w.whereParts.flatMap WherePart.parameters = s.filters.flatMap parametersOf

theorem writeStatement_ok {r : SemanticQueryRequest} {s : Selection} {w : Statement}
    (h : writeStatement model r s = .ok w) : ∃ parts, Writes model r s w parts := by
  obtain ⟨groups, hgroups, h⟩ := bind_eq_ok.1 h
  obtain ⟨metrics, hmetrics, h⟩ := bind_eq_ok.1 h
  obtain ⟨whereParts, hparts, h⟩ := bind_eq_ok.1 h
  obtain ⟨sort, -, h⟩ := bind_eq_ok.1 h
  cases h
  have hwhere := (mapM_eq_ok.1 hparts).imp fun item part hpart => wherePart_ok hpart
  refine ⟨metrics, ?_, hmetrics, rfl, rfl, rfl, rfl, rfl, ?_, ?_⟩
  · exact map_eq_of_forall₂ (mapM_eq_ok.1 hgroups)
      (fun g => (⟨columnRef (aliasesOf s.dimensionIds) g, g.semanticAttributeId⟩ : GroupColumn))
      Prod.fst fun g part hpart => groupPart_ok hpart
  · exact map_eq_of_forall₂ hwhere (conditionOf (aliasesOf s.dimensionIds)) WherePart.condition
      fun item part hpart => hpart.1
  · have hparameters := map_eq_of_forall₂ hwhere parametersOf WherePart.parameters
      fun item part hpart => hpart.2
    rw [flatMap_def, flatMap_def, hparameters]

theorem bound_conditionOf (filters : List FilterAttribute) :
    bound (filters.map (conditionOf aliases)) (filters.flatMap parametersOf) =
      filters.map fun item => (conditionOf aliases item, parametersOf item) := by
  induction filters with
  | nil => rfl
  | cons item filters ih =>
    have hlength := length_parametersOf aliases item
    simp only [map_cons, flatMap_cons, bound]
    rw [← hlength, take_left, drop_left, ih]

section

variable {model : SemanticModel} {r r' : SemanticQueryRequest} {s s' : Selection}
  {named : List SemanticAttribute} {selected : List String} {timeRole : Option TimeRole}
  {w w' : Statement} {parts : List MetricColumn}

section
variable (hw : Writes model r s w parts) (h : Selects model r s named selected timeRole)
include hw h

theorem Writes.scopes :
    (w.statement.joins.map fun j => j.right.scope) = s.dimensionIds.map (aliasName s.dimensionIds) := by
  conv_rhs => rw [← h.targets, map_map]
  rw [hw.joins, map_map, ← h.targets]
  rfl

theorem Writes.star : w.statement.Star where
  left j hj := by
    rw [hw.joins] at hj
    obtain ⟨relationship, -, rfl⟩ := mem_map.1 hj
    exact hw.scope.symm
  scopes := by
    rw [hw.scopes h]
    exact h.nodup.map_on fun d hd e he => aliasName_injective h.nodup hd he
  table := by
    rw [hw.scopes h, hw.scope]
    rintro hmem
    obtain ⟨d, hd, halias⟩ := mem_map.1 hmem
    exact aliasName_ne_table h.nodup hd halias

theorem Writes.inScope {a : SemanticAttribute} (ha : a.dimensionId ∈ s.dimensionIds) :
    w.statement.InScope (columnRef (aliasesOf s.dimensionIds) a) := by
  refine .inr ?_
  rw [hw.scopes h]
  exact mem_map.2 ⟨a.dimensionId, ha, rfl⟩

end

theorem columnRef_rename {ds ds' : List String} (hnodup : ds.Nodup) {a : SemanticAttribute}
    (ha : a.dimensionId ∈ ds) :
    (columnRef (aliasesOf ds) a).rename (renameScope ds ds') = columnRef (aliasesOf ds') a := by
  exact congrArg (fun scope => (⟨scope, a.physicalColumnRef⟩ : ColumnRef))
    (renameScope_alias hnodup ha)

theorem conditionOf_rename {ds ds' : List String} (hnodup : ds.Nodup) {item : FilterAttribute}
    (hitem : item.2.dimensionId ∈ ds) :
    (conditionOf (aliasesOf ds) item).rename (renameScope ds ds') =
      conditionOf (aliasesOf ds') item := by
  have hcolumn := @columnRef_rename ds ds' hnodup item.2 hitem
  unfold conditionOf
  cases item.1.operator with
  | equals =>
    split_ifs
    · exact congrArg Condition.isNull hcolumn
    · exact congrArg Condition.equals hcolumn
  | isIn => exact congrArg (Condition.isIn · _) hcolumn
  | dateRange => exact congrArg Condition.between hcolumn

/-- With one grouping, the statement of the further filters asks for more. -/
theorem Writes.asksForMore (hw : Writes model r s w parts) (hw' : Writes model r' s' w' parts)
    (h : Selects model r s named selected timeRole) (h' : Selects model r' s' named selected timeRole)
    (hmore : AddsFilters r r') (hfact : s'.factId = s.factId) (hgroups : s'.groups = s.groups) :
    AsksForMore (renameScope s.dimensionIds s'.dimensionIds) w.statement
      (w.whereParts.flatMap WherePart.parameters) w'.statement
      (w'.whereParts.flatMap WherePart.parameters) where
  star := hw.star h
  star' := hw'.star h'
  table := hw'.table.trans hw.table.symm
  scope := hw'.scope.trans hw.scope.symm
  keepsTable := by
    rw [hw.scope]
    exact renameScope_table h.nodup
  joins j hj := by
    have hfilters : s.filters.Sublist s'.filters := by
      rw [h.filters, h'.filters]
      exact hmore.filters.filterMap _
    have hdimensions : s.dimensionIds ⊆ s'.dimensionIds := by
      intro d hd
      rw [h.dimensions, mem_foldl_addDimension] at hd
      rw [h'.dimensions, mem_foldl_addDimension]
      exact hd.imp_right fun hmem => (hfilters.map _).subset hmem
    rw [hw.joins] at hj
    obtain ⟨relationship, hmem, rfl⟩ := mem_map.1 hj
    obtain ⟨d, hd, hselect⟩ := exists_left_of_forall₂ (mapM_eq_ok.1 h.relationships) hmem
    obtain ⟨relationship', hmem', hselect'⟩ :=
      exists_right_of_forall₂ (mapM_eq_ok.1 h'.relationships) (hdimensions hd)
    rw [hfact, hselect] at hselect'
    cases hselect'
    rw [hw'.joins]
    refine mem_map.2 ⟨relationship, hmem', ?_⟩
    have htarget := selectRelationship_ok hselect
    subst htarget
    unfold joinPart LeftJoin.rename ColumnRef.rename
    simp only [renameScope_table h.nodup]
    exact congrArg (fun scope => (⟨relationship.physicalDimensionTable,
      ⟨"f", relationship.physicalFactColumn⟩,
      ⟨scope, relationship.physicalDimensionKeyColumn⟩⟩ : LeftJoin))
      (renameScope_alias h.nodup hd).symm
  groups := by
    rw [hw.groups, hw'.groups, hgroups, map_map, map_map]
    exact map_congr_left fun g hg => (columnRef_rename h.nodup (h.group_mem hg)).symm
  aggregates := by
    rw [hw.aggregates, hw'.aggregates, map_map, map_map]
    refine map_congr_left fun part hpart => ?_
    obtain ⟨metric, -, hmetric⟩ := exists_left_of_forall₂ (mapM_eq_ok.1 hw.metrics) hpart
    have hscope := metricPart_ok hmetric
    simp only [Function.comp_apply, ColumnRef.rename, hscope, renameScope_table h.nodup]
    rw [← hscope]
  conditions := by
    rw [hw.conditions, hw.parameters, hw'.conditions, hw'.parameters, bound_conditionOf,
      bound_conditionOf, map_map]
    have hsame : s.filters.map ((fun item : Condition × List SemanticValue =>
          (item.1.rename (renameScope s.dimensionIds s'.dimensionIds), item.2)) ∘
          fun item => (conditionOf (aliasesOf s.dimensionIds) item, parametersOf item)) =
        s.filters.map fun item =>
          (conditionOf (aliasesOf s'.dimensionIds) item, parametersOf item) :=
      map_congr_left fun item hitem =>
        congrArg (·, parametersOf item) (conditionOf_rename h.nodup (h.filter_mem hitem))
    rw [hsame, h.filters, h'.filters]
    exact (hmore.filters.filterMap _).map _
  groupsInScope g hg := by
    rw [hw.groups] at hg
    obtain ⟨a, ha, rfl⟩ := mem_map.1 hg
    exact hw.inScope h (h.group_mem ha)
  aggregatesInScope a ha := by
    rw [hw.aggregates] at ha
    obtain ⟨part, hpart, rfl⟩ := mem_map.1 ha
    obtain ⟨metric, -, hmetric⟩ := exists_left_of_forall₂ (mapM_eq_ok.1 hw.metrics) hpart
    exact .inl ((metricPart_ok hmetric).trans hw.scope.symm)
  conditionsInScope c hc := by
    rw [hw.conditions] at hc
    obtain ⟨item, hitem, rfl⟩ := mem_map.1 hc
    rw [column_conditionOf]
    exact hw.inScope h (h.filter_mem hitem)

end

/-! ## Filters only restrict -/

def statementOf (model : SemanticModel) (request : SemanticQueryRequest) :
    Except Raised SelectStatement := do
  let selection ← select model request
  let written ← writeStatement model request selection
  return written.statement

/-- The second compilation groups and aggregates as the first does, over fewer rows. -/
structure OnlyRestricts (c c' : SemanticQueryCompilation) (q q' : SelectStatement) : Prop where
  groupBy : c'.queryPlan.groupByAttributeIds = c.queryPlan.groupByAttributeIds
  groups : q'.groups = q.groups
  aggregates : q'.aggregates = q.aggregates
  operations : c'.queryPlan.aggregationOperations = c.queryPlan.aggregationOperations
  rows : ∀ {V : Type} (cmp : Comparison V SemanticValue) (db : Database V),
    q'.contributions cmp db c'.parameters ⊆ q.contributions cmp db c.parameters
  once : ∀ {V : Type} (cmp : Comparison V SemanticValue) (db : Database V), q'.KeysAreUnique cmp db →
    (q'.contributions cmp db c'.parameters).Sublist (q.contributions cmp db c.parameters)

variable (service : SemanticLayerService)

theorem compileQuery_ok {service : SemanticLayerService} {model : SemanticModel}
    {current : CurrentArtifacts} {r : SemanticQueryRequest} {c : SemanticQueryCompilation}
    (h : service.compileQuery model current r = .ok c) :
    ∃ s w, select model r = .ok s ∧ writeStatement model r s = .ok w ∧
      c.queryPlan.groupByAttributeIds = s.groups.map SemanticAttribute.semanticAttributeId ∧
      c.queryPlan.aggregationOperations = w.operations ∧
      c.queryPlan.sqlTemplate = w.statement.text ∧
      c.parameters = w.whereParts.flatMap WherePart.parameters := by
  obtain ⟨_, -, h⟩ := bind_eq_ok.1 h
  obtain ⟨s, hs, h⟩ := bind_eq_ok.1 h
  obtain ⟨w, hw, h⟩ := bind_eq_ok.1 h
  obtain ⟨plan, hplan, h⟩ := bind_eq_ok.1 h
  obtain ⟨_, -, h⟩ := bind_eq_ok.1 h
  cases h
  obtain ⟨shapes, -, hplan⟩ := bind_eq_ok.1 hplan
  simp only at hplan
  split_ifs at hplan
  cases hplan
  exact ⟨s, w, hs, hw, rfl, rfl, rfl, rfl⟩

section

variable {model : SemanticModel} {r r' : SemanticQueryRequest} {s s' : Selection}
  {named : List SemanticAttribute} {selected : List String} {timeRole : Option TimeRole}
  {w w' : Statement} {parts : List MetricColumn}

section
variable (h : Selects model r s named selected timeRole)
  (h' : Selects model r' s' named selected timeRole) (hmore : AddsFilters r r')
include h h' hmore

variable (hkept : r.groupByAttributeIds ≠ [] ∨ requestDimensions model r' = requestDimensions model r)

include hkept in
theorem Selects.dimensionIds_eq (hnamed : named = []) : s'.dimensionIds = s.dimensionIds := by
  have hnone := h.named_eq_nil_iff.1 hnamed
  have hdimensions := hkept.resolve_left fun hne => hne hnone
  have hnone' : r'.groupByAttributeIds = [] := hmore.groupByAttributeIds.trans hnone
  rw [h'.dimensions_eq hnone', hdimensions, ← h.dimensions_eq hnone]

include hkept in
theorem Selects.groups_eq : s'.groups = s.groups := by
  by_cases hnamed : named = []
  · have hgroups := h'.groups
    rw [h.dimensionIds_eq h' hmore hkept hnamed, h.groups] at hgroups
    exact (Except.ok.inj hgroups).symm
  · rw [(groupAttributes_ok h.groups).1 hnamed, (groupAttributes_ok h'.groups).1 hnamed]

/-- A default grouping shows the dimensions it stands for. -/
theorem Selects.dimensions_of_groups (hids : s'.groups.map SemanticAttribute.semanticAttributeId =
      s.groups.map SemanticAttribute.semanticAttributeId) :
    r.groupByAttributeIds ≠ [] ∨ requestDimensions model r' = requestDimensions model r := by
  refine or_iff_not_imp_left.2 fun hne => ?_
  have hnone := not_not.1 hne
  have hnone' : r'.groupByAttributeIds = [] := hmore.groupByAttributeIds.trans hnone
  have hnamed := h.named_eq_nil_iff.2 hnone
  have hall := (groupAttributes_ok h.groups).2 hnamed
  have hall' := (groupAttributes_ok h'.groups).2 hnamed
  have hmem : ∀ g ∈ s.groups, g ∈ model.attributes := fun g hg => by
    obtain ⟨d, -, hattribute, -⟩ := exists_left_of_forall₂ hall hg
    exact hattribute
  have hmem' : ∀ g ∈ s'.groups, g ∈ model.attributes := fun g hg => by
    obtain ⟨d, -, hattribute, -⟩ := exists_left_of_forall₂ hall' hg
    exact hattribute
  have hgroups : s'.groups = s.groups :=
    eq_of_map_eq (fun a ha b hb hab =>
      inj_on_of_nodup_map model.closed.attributeIds (hmem' a ha) (hmem b hb) hab) hids
  have hdimensions := map_eq_of_forall₂ hall id SemanticAttribute.dimensionId fun d g hg => hg.2
  have hdimensions' := map_eq_of_forall₂ hall' id SemanticAttribute.dimensionId fun d g hg => hg.2
  rw [map_id] at hdimensions hdimensions'
  rw [← h.dimensions_eq hnone, ← h'.dimensions_eq hnone', ← hdimensions, ← hdimensions', hgroups]

include hkept in
/-- The grouping columns keep their aliases. -/
theorem Selects.columnRef_eq
    {g : SemanticAttribute} (hg : g ∈ s.groups) :
    columnRef (aliasesOf s'.dimensionIds) g = columnRef (aliasesOf s.dimensionIds) g := by
  by_cases hnamed : named = []
  · rw [h.dimensionIds_eq h' hmore hkept hnamed]
  · rw [(groupAttributes_ok h.groups).1 hnamed] at hg
    have hmem := h.named_mem hg
    have halias : aliasName s'.dimensionIds g.dimensionId = aliasName s.dimensionIds g.dimensionId := by
      rw [aliasName_of_isPrefixOf h'.nodup h'.selected_isPrefixOf hmem,
        aliasName_of_isPrefixOf h.nodup h.selected_isPrefixOf hmem]
    exact congrArg (fun scope => (⟨scope, g.physicalColumnRef⟩ : ColumnRef)) halias

end

/-- **Further filters only restrict, exactly if a grouping is named or they join no further
dimension.** -/
theorem compileQuery_restricts_iff {current : CurrentArtifacts} {c c' : SemanticQueryCompilation}
    (hmore : AddsFilters r r') (hc : service.compileQuery model current r = .ok c)
    (hc' : service.compileQuery model current r' = .ok c') :
    ∃ q q', statementOf model r = .ok q ∧ statementOf model r' = .ok q' ∧
      c.queryPlan.sqlTemplate = q.text ∧ c'.queryPlan.sqlTemplate = q'.text ∧
      (OnlyRestricts c c' q q' ↔
        r.groupByAttributeIds ≠ [] ∨ requestDimensions model r' = requestDimensions model r) := by
  obtain ⟨s, w, hs, hw, hgroupBy, hoperations, htext, hparameters⟩ := compileQuery_ok hc
  obtain ⟨s', w', hs', hw', hgroupBy', hoperations', htext', hparameters'⟩ := compileQuery_ok hc'
  have hstatement : statementOf model r = .ok w.statement :=
    bind_eq_ok.2 ⟨s, hs, bind_eq_ok.2 ⟨w, hw, rfl⟩⟩
  have hstatement' : statementOf model r' = .ok w'.statement :=
    bind_eq_ok.2 ⟨s', hs', bind_eq_ok.2 ⟨w', hw', rfl⟩⟩
  refine ⟨w.statement, w'.statement, hstatement, hstatement', htext, htext', ?_⟩
  obtain ⟨named, selected, timeRole, h⟩ := select_ok hs
  obtain ⟨h', hmetrics, hfact⟩ := h.of_addsFilters hmore hs'
  obtain ⟨parts, hwrites⟩ := writeStatement_ok hw
  obtain ⟨parts', hwrites'⟩ := writeStatement_ok hw'
  have hparts : parts' = parts := by
    have heq : s'.metrics.mapM (metricPart model r') = s.metrics.mapM (metricPart model r) := by
      rw [hmetrics]
      refine congrArg (List.mapM · s.metrics) (funext fun metric => ?_)
      simp only [metricPart, hmore.aggregationOverrides]
    exact Except.ok.inj ((hwrites'.metrics.symm.trans heq).trans hwrites.metrics)
  subst hparts
  constructor
  · intro honly
    have hids := honly.groupBy
    rw [hgroupBy, hgroupBy'] at hids
    exact h.dimensions_of_groups h' hmore hids
  · intro hkept
    have hgroups := h.groups_eq h' hmore hkept
    have hasks := hwrites.asksForMore hwrites' h h' hmore hfact hgroups
    rw [← hparameters, ← hparameters'] at hasks
    exact {
      groupBy := by rw [hgroupBy, hgroupBy', hgroups]
      groups := by
        rw [hwrites.groups, hwrites'.groups, hgroups]
        exact map_congr_left fun g hg => by rw [h.columnRef_eq h' hmore hkept hg]
      aggregates := by rw [hwrites.aggregates, hwrites'.aggregates]
      operations := by rw [hoperations, hoperations', hwrites.operations, hwrites'.operations]
      rows := fun _ _ => hasks.contributions_subset
      once := fun _ _ => hasks.contributions_sublist }

/-- **A compiled query aggregates no fact row twice**, where the joined keys are unique, and without
filters none is left out; every placeholder of its text has a parameter. -/
theorem compileQuery_aggregates_once {current : CurrentArtifacts} {c : SemanticQueryCompilation}
    (hc : service.compileQuery model current r = .ok c) :
    ∃ q, statementOf model r = .ok q ∧ c.queryPlan.sqlTemplate = q.text ∧
      (q.conditions.flatMap Condition.placeholders).length = c.parameters.length ∧
      ∀ {V : Type} (cmp : Comparison V SemanticValue) (db : Database V), q.KeysAreUnique cmp db →
        ((q.contributions cmp db c.parameters).map (·.place)).Sublist (range (db q.table).length) ∧
        (r.filters = [] →
          (q.contributions cmp db c.parameters).map (·.place) = range (db q.table).length) := by
  obtain ⟨s, w, hs, hw, -, -, htext, hparameters⟩ := compileQuery_ok hc
  obtain ⟨named, selected, timeRole, h⟩ := select_ok hs
  obtain ⟨parts, hwrites⟩ := writeStatement_ok hw
  refine ⟨w.statement, bind_eq_ok.2 ⟨s, hs, bind_eq_ok.2 ⟨w, hw, rfl⟩⟩, htext, ?_, fun cmp db hkeys =>
    ⟨(hkeys.places _).1, fun hnone => (hkeys.places _).2 ?_⟩⟩
  · rw [hparameters, hwrites.parameters, hwrites.conditions, flatMap_map, length_flatMap,
      length_flatMap]
    exact congrArg List.sum (map_congr_left fun item _ => (length_parametersOf _ item).symm)
  · rw [hwrites.conditions, h.filters, hnone]
    rfl

end

theorem addsFilters_region (name : String) :
    AddsFilters (salesRequest []) (salesRequest [regionFilter name]) where
  requestId := rfl
  metricIds := rfl
  dimensionIds := rfl
  groupByAttributeIds := rfl
  timeRoleId := rfl
  aggregationOverrides := rfl
  filters := nil_sublist _
  sort := rfl
  limit := rfl

theorem groupBy_total : (salesService.compileQuery salesModel ⟨none, none, none⟩
    (salesRequest [])).toOption.map (fun c => c.queryPlan.groupByAttributeIds) = some [] := by
  decide +kernel

theorem compileQuery_restricts_iff_region : ∃ c c' q q',
    salesService.compileQuery salesModel ⟨none, none, none⟩ (salesRequest []) = .ok c ∧
      salesService.compileQuery salesModel ⟨none, none, none⟩
        (salesRequest [regionFilter "north"]) = .ok c' ∧
      statementOf salesModel (salesRequest []) = .ok q ∧
      statementOf salesModel (salesRequest [regionFilter "north"]) = .ok q' ∧
      (OnlyRestricts c c' q q' ↔ (salesRequest []).groupByAttributeIds ≠ [] ∨
        requestDimensions salesModel (salesRequest [regionFilter "north"]) =
          requestDimensions salesModel (salesRequest [])) := by
  obtain ⟨c, hc, -⟩ := exists_ok_of_map groupBy_total
  obtain ⟨c', hc', -⟩ := exists_ok_of_map groupBy_region
  obtain ⟨q, q', hq, hq', -, -, hiff⟩ :=
    salesService.compileQuery_restricts_iff (addsFilters_region "north") hc hc'
  exact ⟨c, c', q, q', hc, hc', hq, hq', hiff⟩

/-- Values that are equal join, and only whole numbers are ordered. -/
def salesComparison : Comparison SemanticValue SemanticValue where
  joins v key := v = key
  equals v parameter := v = parameter
  atLeast
    | .int m, .int n => n ≤ m
    | _, _ => false
  atMost
    | .int m, .int n => m ≤ n
    | _, _ => false

def salesRow (columns : List (String × SemanticValue)) : Row SemanticValue :=
  fun column => columns.lookup column

/-- Two regions, and three sales of which one is in the south. -/
def salesTables : Database SemanticValue
  | "sales" => [salesRow [("region", .int 1), ("revenue", .int 10)],
      salesRow [("region", .int 2), ("revenue", .int 20)],
      salesRow [("region", .int 1), ("revenue", .int 30)]]
  | "region" => [salesRow [("region", .int 1), ("name", .str "north")],
      salesRow [("region", .int 2), ("name", .str "south")]]
  | _ => []

theorem statementOf_region : (statementOf salesModel (salesRequest [regionFilter "north"])).toOption.map
    (fun q => (q.table, q.joins.map fun j => (j.table, j.right.column))) =
      some ("sales", [("region", "region")]) := by
  decide +kernel

/-- No region has the key of another one. -/
theorem keysAreUnique_region {q : SelectStatement}
    (h : q.joins.map (fun j => (j.table, j.right.column)) = [("region", "region")]) :
    q.KeysAreUnique salesComparison salesTables := by
  intro j hj value
  have hjoin : (j.table, j.right.column) = ("region", "region") :=
    mem_singleton.1 (h ▸ mem_map_of_mem hj)
  obtain ⟨htable, hcolumn⟩ := Prod.mk.inj hjoin
  unfold LeftJoin.matched
  rw [htable, hcolumn]
  cases value with
  | none => exact Nat.zero_le _
  | some v =>
    by_cases hnorth : v = .int 1
    · subst hnorth
      decide +kernel
    · simp [salesTables, salesRow, salesComparison, filter_cons, hnorth]
      split <;> simp

theorem compileQuery_aggregates_once_region : ∃ c q,
    salesService.compileQuery salesModel ⟨none, none, none⟩
        (salesRequest [regionFilter "north"]) = .ok c ∧
      statementOf salesModel (salesRequest [regionFilter "north"]) = .ok q ∧
      c.queryPlan.sqlTemplate = q.text ∧
      (q.conditions.flatMap Condition.placeholders).length = c.parameters.length ∧
      ((q.contributions salesComparison salesTables c.parameters).map (·.place)).Sublist (range 3) := by
  obtain ⟨c, hc, -⟩ := exists_ok_of_map groupBy_region
  obtain ⟨q, hq, htext, hplaceholders, hrows⟩ := salesService.compileQuery_aggregates_once hc
  obtain ⟨q', hq', hparts⟩ := exists_ok_of_map statementOf_region
  obtain rfl : q = q' := Except.ok.inj (hq.symm.trans hq')
  obtain ⟨htable, hjoins⟩ := Prod.mk.inj hparts
  have honce := (hrows salesComparison salesTables (keysAreUnique_region hjoins)).1
  rw [htable] at honce
  exact ⟨c, q, hc, hq, htext, hplaceholders, honce⟩

/-- The filter on one region turns the total into a grouped answer. -/
theorem filters_regroup : ¬ ∀ (service : SemanticLayerService) (model : SemanticModel)
    (current : CurrentArtifacts) (r r' : SemanticQueryRequest) (c c' : SemanticQueryCompilation),
    AddsFilters r r' → service.compileQuery model current r = .ok c →
      service.compileQuery model current r' = .ok c' →
      c'.queryPlan.groupByAttributeIds = c.queryPlan.groupByAttributeIds := by
  intro hsame
  obtain ⟨c, hc, htotal⟩ := exists_ok_of_map groupBy_total
  obtain ⟨c', hc', hregion⟩ := exists_ok_of_map groupBy_region
  have heq := hsame _ _ _ _ _ c c' (addsFilters_region "north") hc hc'
  rw [htotal, hregion] at heq
  cases heq

end SemanticLayerService

end DirtyDataOlap.Semantic

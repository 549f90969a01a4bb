import DirtyDataOlap.SemanticQueries
import DirtyDataOlap.PairedRuns

/-!
# Filter values stay out of query plans

Two requests that differ only in the values of their filters, value by value of one type, are compiled
side by side. Every step before the parameters reads a value through its type and through whether it
is null, so **both compilations fail with one error, or return one plan**.
-/
namespace DirtyDataOlap.Semantic

open List Analytical Sql

def SemanticValue.typeName : SemanticValue → String
  | .none => "NoneType"
  | .bool _ => "bool"
  | .int _ => "int"
  | .float _ => "float"
  | .decimal _ => "Decimal"
  | .str _ => "str"
  | .date _ => "date"
  | .datetime _ => "datetime"

def SameType (v v' : SemanticValue) : Prop := v.typeName = v'.typeName

instance (v v' : SemanticValue) : Decidable (SameType v v') :=
  inferInstanceAs (Decidable (v.typeName = v'.typeName))

/-- Filters apart from their values. -/
structure SameShape (f f' : SemanticFilter) : Prop where
  attributeId : f.attributeId = f'.attributeId
  operator : f.operator = f'.operator
  values : Forall₂ SameType f.values f'.values

structure DifferInValues (r r' : SemanticQueryRequest) : Prop where
  requestId : r.requestId = r'.requestId
  metricIds : r.metricIds = r'.metricIds
  dimensionIds : r.dimensionIds = r'.dimensionIds
  groupByAttributeIds : r.groupByAttributeIds = r'.groupByAttributeIds
  timeRoleId : r.timeRoleId = r'.timeRoleId
  aggregationOverrides : r.aggregationOverrides = r'.aggregationOverrides
  filters : Forall₂ SameShape r.filters r'.filters
  sort : r.sort = r'.sort
  limit : r.limit = r'.limit

section

variable {v v' : SemanticValue}

theorem SameType.none_iff (h : SameType v v') : v = .none ↔ v' = .none := by
  cases v <;> cases v' <;> simp [SameType, SemanticValue.typeName] at h ⊢

theorem SameType.valueMatchesType_eq (h : SameType v v') (logicalType : String) :
    valueMatchesType v logicalType = valueMatchesType v' logicalType := by
  cases v <;> cases v' <;> simp [SameType, SemanticValue.typeName] at h <;> rfl

/-- The dump writes some types as texts, but values of one type as one type. -/
theorem SameType.normalized_eq (h : SameType v v') (service : SemanticLayerService) :
    normalized (service.jsonMode v) = normalized (service.jsonMode v') := by
  cases v <;> cases v' <;> simp [SameType, SemanticValue.typeName] at h <;>
    simp only [SemanticLayerService.jsonMode, normalized]

end

section

variable {vs vs' : List SemanticValue}

section
variable (h : Forall₂ SameType vs vs')
include h

theorem any_eq_of_sameType {p p' : SemanticValue → Bool}
    (hp : ∀ v v', SameType v v' → p v = p' v') : vs.any p = vs'.any p' := by
  induction h with
  | nil => rfl
  | cons hhead _ ih => rw [any_cons, any_cons, hp _ _ hhead, ih]

theorem map_eq_of_sameType {α : Type} {f f' : SemanticValue → α}
    (hf : ∀ v v', SameType v v' → f v = f' v') : vs.map f = vs'.map f' := by
  induction h with
  | nil => rfl
  | cons hhead _ ih => rw [map_cons, map_cons, hf _ _ hhead, ih]

theorem none_mem_iff_of_sameType : SemanticValue.none ∈ vs ↔ SemanticValue.none ∈ vs' := by
  induction h with
  | nil => rfl
  | cons hhead _ ih =>
    rw [mem_cons, mem_cons, ih, eq_comm, hhead.none_iff, eq_comm]

theorem head_none_iff_of_sameType : vs.head? = some .none ↔ vs'.head? = some .none := by
  cases h with
  | nil => rfl
  | cons hhead _ => simpa using hhead.none_iff

end

end

/-! ## The compilations side by side -/

def SameFiltered (item item' : FilterAttribute) : Prop :=
  SameShape item.1 item'.1 ∧ item.2 = item'.2

theorem checkFilterValues_eq {f f' : SemanticFilter} (h : SameShape f f') (filtered : SemanticAttribute) :
    checkFilterValues f filtered = checkFilterValues f' filtered := by
  have htypes : (f.values.any fun value =>
        value ≠ .none && !valueMatchesType value filtered.logicalType) =
      f'.values.any fun value => value ≠ .none && !valueMatchesType value filtered.logicalType :=
    any_eq_of_sameType h.values fun v v' hv => by
      rw [hv.valueMatchesType_eq]
      congr 1
      exact decide_eq_decide.2 (not_congr hv.none_iff)
  have hnull : (f.operator = .dateRange ∧ SemanticValue.none ∈ f.values) =
      (f'.operator = .dateRange ∧ SemanticValue.none ∈ f'.values) := by
    rw [h.operator, none_mem_iff_of_sameType h.values]
  simp only [checkFilterValues, raiseIf, htypes, hnull]

theorem paired_selectFilter (model : SemanticModel) (metrics : List MetricSpec)
    (selected : List String) {f f' : SemanticFilter} (h : SameShape f f') :
    Paired (· = ·) (fun r r' => r.1 = r'.1 ∧ SameFiltered r.2 r'.2)
      (selectFilter model metrics selected f) (selectFilter model metrics selected f') := by
  unfold selectFilter
  rw [h.attributeId]
  cases getItem model.attributeItems f'.attributeId with
  | none => exact rfl
  | some filtered =>
    refine (paired_refl fun _ => rfl).bind fun _ _ _ _ _ => ?_
    refine (paired_refl fun _ => rfl).bind fun _ _ _ _ _ => ?_
    refine (paired_of_eq (fun _ => rfl) (checkFilterValues_eq h filtered)).bind fun _ _ _ _ _ => ?_
    exact ⟨rfl, h, rfl⟩

theorem paired_selectFilters (model : SemanticModel) (metrics : List MetricSpec)
    {fs fs' : List SemanticFilter} (h : Forall₂ SameShape fs fs') (selected : List String) :
    Paired (· = ·) (fun r r' => r.1 = r'.1 ∧ Forall₂ SameFiltered r.2 r'.2)
      (selectFilters model metrics fs selected) (selectFilters model metrics fs' selected) := by
  refine paired_threaded (f := selectFilter model metrics) (g := selectFilter model metrics)
    (fun _ => rfl) (fun _ _ _ => rfl) (fun _ => rfl) (fun _ _ _ => rfl) (h.imp fun f f' hf => ?_) rfl
  intro s t hst
  subst hst
  exact paired_selectFilter model metrics s hf

namespace SemanticLayerService

/-- Selections apart from the values of their filters. -/
structure SameSelection (s s' : Selection) : Prop where
  metrics : s.metrics = s'.metrics
  factId : s.factId = s'.factId
  grainId : s.grainId = s'.grainId
  dimensionIds : s.dimensionIds = s'.dimensionIds
  relationships : s.relationships = s'.relationships
  groups : s.groups = s'.groups
  filters : Forall₂ SameFiltered s.filters s'.filters

variable {r r' : SemanticQueryRequest}

theorem paired_select (model : SemanticModel) (h : DifferInValues r r') :
    Paired (· = ·) SameSelection (select model r) (select model r') := by
  have hmetrics : selectedMetrics model r = selectedMetrics model r' := by
    simp only [selectedMetrics, h.metricIds]
  have hdimensions : groupDimensions model r = groupDimensions model r' := by
    simp only [groupDimensions, h.groupByAttributeIds, h.dimensionIds]
  have hnamed : namedGroups model r = namedGroups model r' := by
    simp only [namedGroups, h.groupByAttributeIds]
  refine (paired_of_eq (fun _ => rfl) hmetrics).bind fun metrics _ _ _ hm => ?_
  subst hm
  refine (paired_refl fun _ => rfl).bind fun fact _ _ _ hfact => ?_
  subst hfact
  refine (paired_of_eq (fun _ => rfl) hdimensions).bind fun selected _ _ _ hselected => ?_
  subst hselected
  refine (paired_refl fun _ => rfl).bind fun _ _ _ _ _ => ?_
  have htime : selectedTimeRole model r metrics fact.1 = selectedTimeRole model r' metrics fact.1 := by
    simp only [selectedTimeRole, h.timeRoleId]
  refine (paired_of_eq (fun _ => rfl) htime).bind fun timeRole _ _ _ hrole => ?_
  subst hrole
  refine (paired_selectFilters model metrics h.filters selected).bind ?_
  rintro ⟨dimensionIds, filters⟩ ⟨_, filters'⟩ - - ⟨hids, hfilters⟩
  simp only at hids hfilters
  subst hids
  refine (paired_refl fun _ => rfl).bind fun relationships _ _ _ hrelationships => ?_
  subst hrelationships
  refine (paired_of_eq (fun _ => rfl) hnamed).bind fun named _ _ _ hgroups => ?_
  subst hgroups
  have hfiltered : filters.map Prod.snd = filters'.map Prod.snd := by
    clear * - hfilters
    induction hfilters with
    | nil => rfl
    | cons hhead _ ih => rw [map_cons, map_cons, hhead.2, ih]
  rw [hfiltered]
  refine (paired_refl fun _ => rfl).bind fun _ _ _ _ _ => ?_
  refine (paired_refl fun _ => rfl).bind fun groups _ _ _ hgroups => ?_
  subst hgroups
  exact ⟨rfl, rfl, rfl, rfl, rfl, rfl, hfilters⟩

/-- Parts of a `WHERE` clause apart from the values of their parameters. -/
structure SamePart (p p' : WherePart) : Prop where
  condition : p.condition = p'.condition
  parameters : Forall₂ SameType p.parameters p'.parameters
  parameterTypes : p.parameterTypes = p'.parameterTypes

theorem paired_wherePart (aliases : List (String × String)) {item item' : FilterAttribute}
    (h : SameFiltered item item') :
    Paired (· = ·) SamePart (wherePart aliases item) (wherePart aliases item') := by
  obtain ⟨filter, filtered⟩ := item
  obtain ⟨filter', filtered'⟩ := item'
  obtain ⟨hshape, hfiltered⟩ := h
  simp only at hshape hfiltered
  subst hfiltered
  have htypes : (filter.values.map fun _ => filtered.logicalType) =
      filter'.values.map fun _ => filtered.logicalType :=
    map_eq_of_sameType hshape.values fun _ _ _ => rfl
  have hlength := hshape.values.length_eq
  have hoperator := hshape.operator
  simp only [wherePart]
  rw [← hoperator]
  cases filter.operator with
  | equals =>
    simp only [head_none_iff_of_sameType hshape.values]
    by_cases hnull : filter'.values.head? = some .none
    · simp only [if_pos hnull]
      by_cases hnullable : filtered.nullable = true
      · simp only [hnullable, if_true]
        exact ⟨rfl, .nil, rfl⟩
      · simp only [hnullable]
        exact rfl
    · simp only [if_neg hnull]
      exact ⟨rfl, hshape.values, htypes⟩
  | isIn => exact ⟨by rw [hlength], hshape.values, htypes⟩
  | dateRange => exact ⟨rfl, hshape.values, htypes⟩

/-- Statements apart from the values of their parameters. -/
structure SameStatement (w w' : Statement) : Prop where
  statement : w.statement = w'.statement
  bindings : w.bindings = w'.bindings
  operations : w.operations = w'.operations
  whereParts : Forall₂ SamePart w.whereParts w'.whereParts

theorem paired_writeStatement (model : SemanticModel) {s s' : Selection} (h : DifferInValues r r')
    (hs : SameSelection s s') :
    Paired (· = ·) SameStatement (writeStatement model r s) (writeStatement model r' s') := by
  have hmetric : metricPart model r = metricPart model r' := by
    funext metric
    simp only [metricPart, h.aggregationOverrides]
  unfold writeStatement
  rw [hs.dimensionIds, hs.groups, hs.metrics, hmetric, h.sort, h.limit, hs.relationships]
  refine (paired_refl fun _ => rfl).bind fun groups _ _ _ hgroups => ?_
  subst hgroups
  refine (paired_refl fun _ => rfl).bind fun metrics _ _ _ hmetrics => ?_
  subst hmetrics
  refine (paired_mapM (hs.filters.imp fun _ _ hitem => paired_wherePart _ hitem)).bind ?_
  intro parts parts' _ _ hparts
  have hconditions : parts.map WherePart.condition = parts'.map WherePart.condition := by
    clear * - hparts
    induction hparts with
    | nil => rfl
    | cons hhead _ ih => rw [map_cons, map_cons, hhead.condition, ih]
  refine (paired_refl fun _ => rfl).bind fun sort _ _ _ hsort => ?_
  subst hsort
  exact ⟨by simp only [hconditions], rfl, rfl, hparts⟩

theorem parameters_of_sameParts {parts parts' : List WherePart}
    (h : Forall₂ SamePart parts parts') :
    parts.flatMap WherePart.parameterTypes = parts'.flatMap WherePart.parameterTypes ∧
      Forall₂ SameType (parts.flatMap WherePart.parameters)
        (parts'.flatMap WherePart.parameters) := by
  induction h with
  | nil => exact ⟨rfl, .nil⟩
  | cons hhead _ ih =>
    simp only [flatMap_cons]
    exact ⟨by rw [hhead.parameterTypes, ih.1], rel_append hhead.parameters ih.2⟩

theorem filterShape_eq {item item' : FilterAttribute} (h : SameFiltered item item') :
    filterShape item = filterShape item' := by
  obtain ⟨hshape, hfiltered⟩ := h
  have hlength := hshape.values.length_eq
  have hnull := head_none_iff_of_sameType hshape.values
  simp only [filterShape, hshape.attributeId, hshape.operator, hlength, hnull, hfiltered]

theorem mapM_filterShape_eq {items items' : List FilterAttribute}
    (h : Forall₂ SameFiltered items items') :
    items.mapM filterShape = items'.mapM filterShape := by
  induction h with
  | nil => rfl
  | cons hhead _ ih => rw [mapM_cons, mapM_cons, filterShape_eq hhead, ih]

variable (service : SemanticLayerService)

/-- The hashed shape of a request has no value in it. -/
theorem queryPayload_eq (model : SemanticModel) (h : DifferInValues r r') (sql : String)
    (parameterTypes : List String) : service.queryPayload model r sql parameterTypes =
      service.queryPayload model r' sql parameterTypes := by
  have hfilters : (r.filters.map fun filter => (⟨filter.attributeId, filter.operator,
        filter.values.map fun value => normalized (service.jsonMode value)⟩ : MaskedFilter)) =
      r'.filters.map fun filter => ⟨filter.attributeId, filter.operator,
        filter.values.map fun value => normalized (service.jsonMode value)⟩ := by
    generalize r.filters = fs, r'.filters = fs', h.filters = hall
    induction hall with
    | nil => rfl
    | cons hhead _ ih =>
      rw [map_cons, map_cons, ih, hhead.attributeId, hhead.operator,
        map_eq_of_sameType hhead.values fun _ _ hv => hv.normalized_eq service]
  simp only [queryPayload, hfilters, h.requestId, h.metricIds, h.dimensionIds, h.groupByAttributeIds,
    h.timeRoleId, h.aggregationOverrides, h.sort, h.limit]

theorem queryPlan_eq (model : SemanticModel) {s s' : Selection} {w w' : Statement}
    (h : DifferInValues r r') (hs : SameSelection s s') (hw : SameStatement w w') :
    service.queryPlan model r s w = service.queryPlan model r' s' w' := by
  obtain ⟨htypes, hparameters⟩ := parameters_of_sameParts hw.whereParts
  simp only [queryPlan, htypes, hparameters.length_eq, hw.statement, hw.bindings, hw.operations,
    mapM_filterShape_eq hs.filters, service.queryPayload_eq model h, h.requestId, h.metricIds,
    h.timeRoleId, h.sort, h.limit, hs.dimensionIds, hs.factId, hs.grainId, hs.relationships, hs.groups]

theorem paired_compileQuery (model : SemanticModel) (current : CurrentArtifacts)
    (h : DifferInValues r r') : Paired (· = ·)
      (fun c c' => c.queryPlan = c'.queryPlan ∧ Forall₂ SameType c.parameters c'.parameters)
      (service.compileQuery model current r) (service.compileQuery model current r') := by
  refine (paired_refl fun _ => rfl).bind fun _ _ _ _ _ => ?_
  refine (paired_select model h).bind fun s s' _ _ hs => ?_
  refine (paired_writeStatement model h hs).bind fun w w' _ _ hw => ?_
  refine (paired_of_eq (fun _ => rfl) (service.queryPlan_eq model h hs hw)).bind ?_
  intro plan _ _ _ hplan
  subst hplan
  refine (paired_refl fun _ => rfl).bind fun _ _ _ _ _ => ?_
  exact ⟨rfl, (parameters_of_sameParts hw.whereParts).2⟩

/-- **Requests that differ only in filter values, value by value of one type, fail with one error or
compile to one plan.** -/
theorem compileQuery_hides_values (model : SemanticModel) (current : CurrentArtifacts)
    {r r' : SemanticQueryRequest} (h : DifferInValues r r') :
    (∃ e, service.compileQuery model current r = .error e ∧
        service.compileQuery model current r' = .error e) ∨
      ∃ c c', service.compileQuery model current r = .ok c ∧
        service.compileQuery model current r' = .ok c' ∧ c.queryPlan = c'.queryPlan ∧
        Forall₂ SameType c.parameters c'.parameters := by
  have hpaired := service.paired_compileQuery model current h
  cases hr : service.compileQuery model current r with
  | error e =>
    cases hr' : service.compileQuery model current r' with
    | error e' =>
      rw [hr, hr', paired_error] at hpaired
      exact .inl ⟨e, rfl, by rw [hpaired]⟩
    | ok c' =>
      obtain ⟨c, hc, -⟩ := hpaired.ok_right hr'
      rw [hr] at hc
      cases hc
  | ok c =>
    obtain ⟨c', hc', hplan, hparameters⟩ := hpaired.ok_left hr
    exact .inr ⟨c, c', rfl, hc', hplan, hparameters⟩

end SemanticLayerService

/-! ## Sales by region -/

/-- A service whose hash of a query is its template. -/
def salesService : SemanticLayerService where
  casefold text := text
  isAlnum := Char.isAlphanum
  dimensionContentHash := DimensionSpec.dimensionId
  factContentHash := FactSpec.factId
  grainContentHash := GrainSpec.grainId
  measureContentHash := MeasureSpec.measureId
  relationshipDigest key := key.factColumn
  metricDigest measureId _ _ := measureId
  modelDigest inputs := inputs.plan.planId
  modelContentHash inputs := inputs.plan.contentHash
  queryPlanId payload := payload.sql
  queryHash payload := payload.sql
  datetimeText := DateTime.isoformat "T"

def salesDimension : SemanticDimension where
  semanticDimensionId := "region"
  businessName := "Region"
  physicalTableRef := "region"
  role := .conformed
  attributes := [⟨"name", "Name", "region", "name", "STRING", true, .exposed, by decide +kernel⟩]
  identifiersAreSafe := by decide +kernel
  attributesBelongToDimension := by decide +kernel

def salesMeasure : SemanticMeasure where
  semanticMeasureId := "revenue"
  factId := "sales"
  measureSpecId := "revenue"
  physicalFactTableRef := "sales"
  physicalFieldRef := "revenue"
  grainId := "sale"
  aggregationClass := .additive
  allowedAggregationOperations := ["SUM"]
  compatibleDimensionIds := ["region"]
  compatibleTimeRoleIds := []
  availability := .available
  failureReason := none
  identifiersAreSafe := by decide +kernel
  operationsAreSafe := by decide +kernel
  aggregationIsNotLoosened := by decide +kernel

def salesMetric : MetricSpec where
  metricId := "total"
  semanticName := "revenue"
  displayName := "Revenue"
  metricKind := .baseAggregate
  factIds := ["sales"]
  grainIds := ["sale"]
  measureIds := ["revenue"]
  expression := .aggregateMeasure "revenue" "SUM"
  aggregationClass := some .additive
  allowedAggregationOperations := ["SUM"]
  compatibleDimensionIds := ["region"]
  compatibleTimeRoleIds := []
  availability := .available
  failureReason := none
  identifiersAreSafe := by decide +kernel
  referenceIdsAreSafe := by decide +kernel
  operationsAreSafe := by decide +kernel
  expressionIsConsistent := by decide +kernel

def salesRelationship : SemanticRelationship where
  relationshipId := "sales_region"
  sourceSemanticObjectId := "sales"
  targetSemanticObjectId := "region"
  relationshipScope := .canonicalAccepted
  cardinality := "MANY_TO_ONE"
  physicalFactId := "sales"
  physicalFactTable := "sales"
  physicalFactColumn := "region"
  physicalDimensionId := "region"
  physicalDimensionTable := "region"
  physicalDimensionKeyColumn := "region"
  upstreamRelationshipRef := "sales_region"
  identifiersAreSafe := by decide +kernel

/-- The revenue of sales, by region. -/
def salesModel : SemanticModel where
  semanticModelId := "model_1"
  contentHash := "model_hash_1"
  analyticalPlanId := "plan_1"
  analyticalPlanContentHash := "plan_hash_1"
  analyticalSpecPackageHash := "package_1"
  compiledPlanId := "compiled_1"
  compiledPlanContentHash := "compiled_hash_1"
  materializationArtifactId := "artifact_1"
  materializationArtifactContentHash := "artifact_hash_1"
  targetConfigFingerprint := "fingerprint_1"
  targetRelativePath := "warehouse.duckdb"
  dimensions := [salesDimension]
  measures := [salesMeasure]
  metrics := [salesMetric]
  hierarchies := []
  timeRoles := []
  relationships := [salesRelationship]
  closed := by decide +kernel

/-- The revenue of the regions that filters leave. -/
def salesRequest (filters : List SemanticFilter) : SemanticQueryRequest where
  requestId := "request_1"
  metricIds := ["total"]
  dimensionIds := []
  groupByAttributeIds := []
  timeRoleId := none
  aggregationOverrides := []
  filters := filters
  sort := []
  limit := 1

def regionFilter (name : String) : SemanticFilter where
  attributeId := "name"
  operator := .equals
  values := [.str name]
  shapeIsBounded := by simp

theorem differInValues_region (name name' : String) :
    DifferInValues (salesRequest [regionFilter name]) (salesRequest [regionFilter name']) where
  requestId := rfl
  metricIds := rfl
  dimensionIds := rfl
  groupByAttributeIds := rfl
  timeRoleId := rfl
  aggregationOverrides := rfl
  filters := .cons ⟨rfl, rfl, .cons rfl .nil⟩ .nil
  sort := rfl
  limit := rfl

theorem groupBy_region : (salesService.compileQuery salesModel ⟨none, none, none⟩
    (salesRequest [regionFilter "north"])).toOption.map
      (fun c => c.queryPlan.groupByAttributeIds) = some ["name"] := by
  decide +kernel

/-- The revenue of one region and that of another are asked for by one plan. -/
theorem compileQuery_hides_region : ∃ c c', salesService.compileQuery salesModel ⟨none, none, none⟩
        (salesRequest [regionFilter "north"]) = .ok c ∧
      salesService.compileQuery salesModel ⟨none, none, none⟩
        (salesRequest [regionFilter "south"]) = .ok c' ∧ c.queryPlan = c'.queryPlan ∧
      Forall₂ SameType c.parameters c'.parameters := by
  obtain ⟨c, hc, -⟩ := exists_ok_of_map groupBy_region
  rcases salesService.compileQuery_hides_values salesModel ⟨none, none, none⟩
    (differInValues_region "north" "south") with ⟨e, he, -⟩ | hplans
  · rw [hc] at he
    cases he
  · exact hplans

end DirtyDataOlap.Semantic

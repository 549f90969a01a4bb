import DirtyDataOlap.FactConservation
import DirtyDataOlap.SemanticModels
import DirtyDataOlap.FilterValues

/-!
# Which packages become semantic models

What each contract of `build_model` accepts of the specifications it is given.  **A package that
passes the other checks becomes a model exactly if each additive measure names SUM and each
semi-additive one names MAX or MIN before LAST and FIRST.**
-/
namespace DirtyDataOlap.Semantic

open List Analytical

variable {α : Type}

theorem validated_eq_ok {contract : String} {accepts : Prop} [Decidable accepts]
    {object : accepts → α} {a : α} :
    validated contract accepts object = .ok a ↔ ∃ h, object h = a := by
  unfold validated
  split_ifs with h
  · exact ⟨fun heq => ⟨h, Except.ok.inj heq⟩, fun ⟨_, heq⟩ => congrArg _ heq⟩
  · exact ⟨nofun, fun ⟨h', _⟩ => absurd h' h⟩

theorem exists_validated {contract : String} {accepts : Prop} [Decidable accepts]
    {object : accepts → α} : (∃ a, validated contract accepts object = .ok a) ↔ accepts :=
  ⟨fun ⟨_, ha⟩ => (validated_eq_ok.1 ha).1, fun h => ⟨object h, validated_eq_ok.2 ⟨h, rfl⟩⟩⟩

theorem lookup_eq_ok {items : List (String × α)} {key : String} {value : α} :
    lookup items key = .ok value ↔ getItem items key = some value := by
  unfold lookup
  cases getItem items key <;> simp

namespace SemanticLayerService

variable {service : SemanticLayerService} {i : ModelInputs}

/-- What the contracts ask of a dimension. -/
structure DimensionAccepted (service : SemanticLayerService) (i : ModelInputs) (d : DimensionSpec) :
    Prop where
  id : isIdentifier d.dimensionId = true
  texts : isText (i.businessName d) = true ∧ isText d.eligibilityReason = true ∧
    isText d.canonicalEntityTypeId = true
  attributes : d.attributes ≠ [] ∧ ∀ a ∈ d.attributes,
    isIdentifier (attributeId d.dimensionId a.attributeId) = true ∧ isText a.logicalType = true
  ids : (d.attributes.map fun a => attributeId d.dimensionId a.attributeId).Nodup
  names : (d.attributes.map fun a => service.casefold (display a.attributeId)).Nodup

/-- The semantic dimension says what the spec says. -/
structure ProjectsDimension (i : ModelInputs) (d : DimensionSpec) (s : SemanticDimension) : Prop where
  id : s.semanticDimensionId = d.dimensionId
  name : s.businessName = i.businessName d
  role : s.role = d.role
  attributes : s.attributes.map SemanticAttribute.semanticAttributeId =
    d.attributes.map fun a => attributeId d.dimensionId a.attributeId

theorem exists_semanticAttribute {d : DimensionSpec} {a : DimensionAttributeSpec} :
    (∃ s, service.semanticAttribute d a = .ok s) ↔
      isIdentifier (attributeId d.dimensionId a.attributeId) = true ∧
        isIdentifier d.dimensionId = true ∧ isText a.logicalType = true := by
  exact exists_validated

variable {d : DimensionSpec} {level : String}

theorem semanticAttribute_ok {a : DimensionAttributeSpec} {s : SemanticAttribute}
    (h : service.semanticAttribute d a = .ok s) :
    s.semanticAttributeId = attributeId d.dimensionId a.attributeId ∧
      s.name = display a.attributeId ∧ s.dimensionId = d.dimensionId := by
  obtain ⟨_, hobject⟩ := validated_eq_ok.1 h
  simp only [← hobject, and_self]

theorem semanticAttributes_ok {attributes : List SemanticAttribute}
    (h : d.attributes.mapM (service.semanticAttribute d) = .ok attributes) :
    (attributes.map SemanticAttribute.semanticAttributeId =
        d.attributes.map fun a => attributeId d.dimensionId a.attributeId) ∧
      (attributes.map SemanticAttribute.name = d.attributes.map fun a => display a.attributeId) ∧
      (∀ s ∈ attributes, s.dimensionId = d.dimensionId) ∧
      attributes.length = d.attributes.length := by
  have hall := (mapM_eq_ok.1 h).imp fun a s hs => semanticAttribute_ok hs
  refine ⟨map_eq_of_forall₂ hall _ _ fun a s hs => hs.1,
    map_eq_of_forall₂ hall _ _ fun a s hs => hs.2.1, fun s hs => ?_, hall.length_eq.symm⟩
  obtain ⟨a, -, ha⟩ := exists_left_of_forall₂ hall hs
  exact ha.2.2

theorem exists_semanticDimension :
    (∃ s, service.semanticDimension i d = .ok s) ↔ DimensionAccepted service i d := by
  constructor
  · rintro ⟨s, h⟩
    obtain ⟨attributes, hattributes, h⟩ := bind_eq_ok.1 h
    obtain ⟨⟨hid, htexts, hnames, hne, -, hids⟩, -⟩ := validated_eq_ok.1 h
    obtain ⟨hidsEq, hnamesEq, -, hlength⟩ := semanticAttributes_ok hattributes
    rw [hidsEq] at hids
    rw [hnamesEq, map_map] at hnames
    refine ⟨hid, htexts, ⟨fun hnil => hne ?_, fun a ha => ?_⟩, hids, hnames⟩
    · rw [hnil] at hlength
      exact length_eq_zero_iff.1 hlength
    · obtain ⟨s, -, hs⟩ := exists_right_of_forall₂ (mapM_eq_ok.1 hattributes) ha
      obtain ⟨hsafe, -, htext⟩ := exists_semanticAttribute.1 ⟨s, hs⟩
      exact ⟨hsafe, htext⟩
  · intro h
    obtain ⟨attributes, hattributes⟩ := exists_mapM_eq_ok.2 fun a ha =>
      (@exists_semanticAttribute service d a).2
        ⟨(h.attributes.2 a ha).1, h.id, (h.attributes.2 a ha).2⟩
    obtain ⟨hidsEq, hnamesEq, hbelong, hlength⟩ := semanticAttributes_ok hattributes
    have hne : attributes ≠ [] := by
      intro hnil
      rw [hnil] at hlength
      exact h.attributes.1 (length_eq_zero_iff.1 hlength.symm)
    have hnames : ((attributes.map SemanticAttribute.name).map service.casefold).Nodup := by
      rw [hnamesEq, map_map]
      exact h.names
    have hids : (attributes.map SemanticAttribute.semanticAttributeId).Nodup := hidsEq ▸ h.ids
    exact exists_bind_ok.2 ⟨attributes, hattributes,
      exists_validated.2 ⟨h.id, h.texts, hnames, hne, hbelong, hids⟩⟩

theorem semanticDimension_ok {s : SemanticDimension} (h : service.semanticDimension i d = .ok s) :
    ProjectsDimension i d s := by
  obtain ⟨attributes, hattributes, h⟩ := bind_eq_ok.1 h
  obtain ⟨_, rfl⟩ := validated_eq_ok.1 h
  exact ⟨rfl, rfl, rfl, (semanticAttributes_ok hattributes).1⟩

/-- What the contracts ask of a calendar. -/
structure CalendarAccepted (d : DimensionSpec) : Prop where
  hierarchy : isIdentifier (hierarchyId d) = true
  levels : ∀ level ∈ calendarLevels, isIdentifier (slug (hierarchyId d ++ "_" ++ level)) = true

theorem exists_hierarchyLevel : (∃ l, hierarchyLevel d level = .ok l) ↔
      isIdentifier (slug (hierarchyId d ++ "_" ++ level)) = true ∧
        isIdentifier (attributeId d.dimensionId level) = true := by
  exact exists_validated

theorem hierarchyLevel_ok {l : HierarchyLevel} (h : hierarchyLevel d level = .ok l) :
    l.semanticAttributeId = attributeId d.dimensionId level := by
  obtain ⟨_, hobject⟩ := validated_eq_ok.1 h
  rw [← hobject]

theorem semanticHierarchy_ok {s : DimensionHierarchy} (h : semanticHierarchy d = .ok s) :
    s.dimensionId = d.dimensionId ∧ s.levels.map HierarchyLevel.semanticAttributeId =
        calendarLevels.map (attributeId d.dimensionId) := by
  obtain ⟨levels, hlevels, h⟩ := bind_eq_ok.1 h
  obtain ⟨_, rfl⟩ := validated_eq_ok.1 h
  have hall := (mapM_eq_ok.1 hlevels).imp fun level l hl => hierarchyLevel_ok hl
  exact ⟨rfl, map_eq_of_forall₂ hall _ _ fun level l hl => hl⟩

theorem mem_attributes_of_hasCalendar (h : hasCalendar d = true) (hlevel : level ∈ calendarLevels) :
    ∃ a ∈ d.attributes, a.attributeId = level := by
  obtain ⟨-, hlevels⟩ := Bool.and_eq_true_iff.1 h
  have hmem := all_eq_true.1 hlevels level hlevel
  simpa using hmem

/-- The levels of a calendar are attributes of their dimension, hence distinct. -/
theorem exists_semanticHierarchy (hcalendar : hasCalendar d = true)
    (hd : DimensionAccepted service i d) :
    (∃ s, semanticHierarchy d = .ok s) ↔ CalendarAccepted d := by
  constructor
  · rintro ⟨s, h⟩
    obtain ⟨levels, hlevels, h⟩ := bind_eq_ok.1 h
    obtain ⟨⟨⟨hid, -⟩, -⟩, -⟩ := validated_eq_ok.1 h
    refine ⟨hid, fun level hlevel => ?_⟩
    obtain ⟨l, -, hl⟩ := exists_right_of_forall₂ (mapM_eq_ok.1 hlevels) hlevel
    exact (exists_hierarchyLevel.1 ⟨l, hl⟩).1
  · intro h
    have hsafe : ∀ level ∈ calendarLevels, isIdentifier (attributeId d.dimensionId level) = true := by
      intro level hlevel
      obtain ⟨a, ha, rfl⟩ := mem_attributes_of_hasCalendar hcalendar hlevel
      exact (hd.attributes.2 a ha).1
    obtain ⟨levels, hlevels⟩ := exists_mapM_eq_ok.2 fun level hlevel =>
      exists_hierarchyLevel.2 ⟨h.levels level hlevel, hsafe level hlevel⟩
    have hids : levels.map HierarchyLevel.semanticAttributeId =
        calendarLevels.map (attributeId d.dimensionId) :=
      map_eq_of_forall₂ (mapM_eq_ok.1 hlevels) _ _ fun level l hl => hierarchyLevel_ok hl
    have hdistinct : (levels.map HierarchyLevel.semanticAttributeId).Nodup := by
      rw [hids]
      refine List.Nodup.map_on (fun a ha b hb hab => ?_) (by decide +kernel)
      obtain ⟨x, hx, rfl⟩ := mem_attributes_of_hasCalendar hcalendar ha
      obtain ⟨y, hy, rfl⟩ := mem_attributes_of_hasCalendar hcalendar hb
      rw [inj_on_of_nodup_map hd.ids hx hy hab]
    exact exists_bind_ok.2 ⟨levels, hlevels,
      exists_validated.2 ⟨⟨h.hierarchy, hd.id⟩, hdistinct⟩⟩

/-! ## Relationships and time roles -/

/-- What a foreign key to a date dimension needs. -/
structure TimeKeyAccepted (service : SemanticLayerService) (i : ModelInputs) (fact : FactSpec)
    (foreignKey : FactForeignKeySpec) (d : DimensionSpec) : Prop where
  scope : foreignKey.relationshipScope = .analyticalTimeRole
  id : isIdentifier (service.relationshipId fact foreignKey d .analyticalTimeRole) = true
  role : ∃ sourceColumn dated grain, foreignKey.inputReferenceColumn = some sourceColumn ∧
    sourceColumn ∈ fact.dateRoleColumns ∧ dateAttribute d = some dated ∧
    getItem i.grainItems fact.grainSpecId = some grain ∧
    isIdentifier (timeRoleId fact sourceColumn) = true ∧
    isIdentifier foreignKey.relationshipRef = true ∧ isIdentifier fact.grainSpecId = true ∧
    isText (timeSemantics sourceColumn grain) = true

/-- A foreign key to an entity dimension that a reviewed canonical relationship binds. -/
structure EntityKeyAccepted (service : SemanticLayerService) (i : ModelInputs) (fact : FactSpec)
    (foreignKey : FactForeignKeySpec) (d : DimensionSpec) : Prop where
  scope : foreignKey.relationshipScope = .canonicalAccepted
  accepted : foreignKey.relationshipRef ∈ i.plan.acceptedRelationshipRefs
  id : isIdentifier (service.relationshipId fact foreignKey d .canonicalAccepted) = true
  canonical : ∃ model canonical, i.canonicalModel = some model ∧
    model.relationships.find? (·.relationshipId = foreignKey.relationshipRef) = some canonical ∧
    canonical.toEntityTypeId = d.canonicalEntityTypeId ∧
    (canonical.fromEntityTypeId ∈ fact.canonicalEventRefs ∨
      canonical.fromEntityTypeId = fact.canonicalEventTypeId) ∧
    isText canonical.cardinality = true

/-- What a foreign key needs to become a join. -/
def ForeignKeyAccepted (service : SemanticLayerService) (i : ModelInputs)
    (item : FactSpec × FactForeignKeySpec) : Prop :=
  ∃ d, getItem i.dimensionItems item.2.dimensionId = some d ∧
    item.2.relationshipRef ∈ item.1.relationshipRefs ∧ isText item.2.relationshipRef = true ∧
    isIdentifier item.1.factId = true ∧ isIdentifier d.dimensionId = true ∧
    if d.role = .date then TimeKeyAccepted service i item.1 item.2 d
    else EntityKeyAccepted service i item.1 item.2 d

section

variable {fact : FactSpec} {foreignKey : FactForeignKeySpec} {d : DimensionSpec}

variable {r : SemanticRelationshipScope × String}

theorem relationshipScope_date (hdate : d.role = .date) :
    relationshipScope i fact foreignKey d = .ok r ↔
      foreignKey.relationshipRef ∈ fact.relationshipRefs ∧
      foreignKey.relationshipScope = .analyticalTimeRole ∧
      (∃ c, foreignKey.inputReferenceColumn = some c ∧ c ∈ fact.dateRoleColumns) ∧
      r = (.analyticalTimeRole, "FACT_TO_DATE_ROLE") := by
  have hcolumn : ¬ foreignKey.inputReferenceColumn.all (· ∉ fact.dateRoleColumns) = true ↔
      ∃ c, foreignKey.inputReferenceColumn = some c ∧ c ∈ fact.dateRoleColumns := by
    cases foreignKey.inputReferenceColumn <;> simp
  unfold relationshipScope
  simp only [if_pos hdate, bind_eq_ok, raiseIf_eq_ok, pure, Except.pure, Except.ok.injEq,
    exists_const]
  exact and_congr not_not (and_congr not_not (and_congr hcolumn eq_comm))

theorem relationshipScope_entity (hentity : d.role ≠ .date) :
    relationshipScope i fact foreignKey d = .ok r ↔
      foreignKey.relationshipRef ∈ fact.relationshipRefs ∧
      foreignKey.relationshipScope = .canonicalAccepted ∧
      foreignKey.relationshipRef ∈ i.plan.acceptedRelationshipRefs ∧
      ∃ model canonical, i.canonicalModel = some model ∧
        model.relationships.find? (·.relationshipId = foreignKey.relationshipRef) = some canonical ∧
        canonical.toEntityTypeId = d.canonicalEntityTypeId ∧
        (canonical.fromEntityTypeId ∈ fact.canonicalEventRefs ∨
          canonical.fromEntityTypeId = fact.canonicalEventTypeId) ∧
        r = (.canonicalAccepted, canonical.cardinality) := by
  unfold relationshipScope
  simp only [if_neg hentity, bind_eq_ok, raiseIf_eq_ok, not_not, ne_eq, exists_const]
  refine and_congr_right fun _ => and_congr_right fun _ => and_congr_right fun _ => ?_
  cases i.canonicalModel with
  | none => simp [throw, throwThe, MonadExceptOf.throw]
  | some model =>
    simp only [Option.some.injEq, exists_and_left, exists_eq_left']
    cases model.relationships.find? (·.relationshipId = foreignKey.relationshipRef) with
    | none => simp [throw, throwThe, MonadExceptOf.throw]
    | some canonical =>
      simp only [bind_eq_ok, raiseIf_eq_ok, pure, Except.pure, Except.ok.injEq, Option.some.injEq,
        exists_eq_left', not_or, not_not, not_and, exists_const, and_assoc]
      refine and_congr_right fun _ => and_congr (by rw [or_iff_not_imp_left]) eq_comm

theorem relationship_ok {s : SemanticRelationship}
    (h : service.relationship i fact foreignKey d = .ok s) :
    s.sourceSemanticObjectId = fact.factId ∧ s.targetSemanticObjectId = d.dimensionId := by
  obtain ⟨⟨scope, cardinality⟩, -, h⟩ := bind_eq_ok.1 h
  obtain ⟨_, rfl⟩ := validated_eq_ok.1 h
  exact ⟨rfl, rfl⟩

theorem exists_relationship : (∃ s, service.relationship i fact foreignKey d = .ok s) ↔
      ∃ scope cardinality, relationshipScope i fact foreignKey d = .ok (scope, cardinality) ∧
        (isIdentifier (service.relationshipId fact foreignKey d scope) = true ∧
          isIdentifier fact.factId = true ∧ isIdentifier d.dimensionId = true) ∧
        isText cardinality = true ∧ isText foreignKey.relationshipRef = true := by
  unfold relationship
  rw [exists_bind_ok, Prod.exists]
  simp only [exists_validated]

theorem exists_timeRole : (∃ s, timeRole i fact foreignKey d = .ok s) ↔
      ∃ sourceColumn dated grain, foreignKey.inputReferenceColumn = some sourceColumn ∧
        dateAttribute d = some dated ∧ getItem i.grainItems fact.grainSpecId = some grain ∧
        (isIdentifier (timeRoleId fact sourceColumn) = true ∧ isIdentifier fact.factId = true ∧
          isIdentifier foreignKey.relationshipRef = true ∧ isIdentifier sourceColumn = true ∧
          isIdentifier d.dimensionId = true ∧
          isIdentifier (attributeId d.dimensionId dated.attributeId) = true ∧
          isIdentifier fact.grainSpecId = true) ∧ isText (timeSemantics sourceColumn grain) = true := by
  unfold timeRole
  cases foreignKey.inputReferenceColumn with
  | none => simp
  | some sourceColumn =>
    cases dateAttribute d with
    | none => simp
    | some dated =>
      simp only [exists_bind_ok, exists_validated, lookup_eq_ok, Option.some.injEq, exists_and_left,
        exists_eq_left']

theorem timeRole_ok {s : TimeRole} (h : timeRole i fact foreignKey d = .ok s) :
    s.factId = fact.factId ∧ s.dateDimensionId = d.dimensionId ∧
      ∃ a ∈ d.attributes, s.dateDimensionAttributeId = attributeId d.dimensionId a.attributeId := by
  unfold timeRole at h
  split at h
  · cases h
  · cases h
  · rename_i sourceColumn dated _ hdated
    obtain ⟨grain, -, h⟩ := bind_eq_ok.1 h
    obtain ⟨_, hobject⟩ := validated_eq_ok.1 h
    simp only [← hobject, true_and]
    exact ⟨dated, mem_of_find?_eq_some hdated, rfl⟩

end

/-- The join says what the foreign key says. -/
structure ProjectsKey (i : ModelInputs) (item : FactSpec × FactForeignKeySpec)
    (r : SemanticRelationship × Option TimeRole) : Prop where
  source : r.1.sourceSemanticObjectId = item.1.factId
  target : r.1.targetSemanticObjectId = item.2.dimensionId
  role : ∀ role ∈ r.2, role.factId = item.1.factId ∧
    ∃ d ∈ i.dimensions, d.role = .date ∧ role.dateDimensionId = d.dimensionId ∧
      ∃ a ∈ d.attributes, role.dateDimensionAttributeId = attributeId d.dimensionId a.attributeId

theorem dimension_of_getItem {dimensionId : String} {d : DimensionSpec}
    (h : getItem i.dimensionItems dimensionId = some d) :
    d ∈ i.dimensions ∧ d.dimensionId = dimensionId := by
  obtain ⟨x, hx, hkey, rfl⟩ := getItem_map_eq_some h
  exact ⟨hx, hkey⟩

variable {item : FactSpec × FactForeignKeySpec}

theorem mem_foreignKeys :
    item ∈ i.foreignKeys ↔ item.1 ∈ i.facts ∧ item.2 ∈ item.1.dimensionForeignKeys := by
  obtain ⟨fact, foreignKey⟩ := item
  unfold ModelInputs.foreignKeys
  rw [mem_flatMap]
  constructor
  · rintro ⟨f, hf, hmem⟩
    obtain ⟨k, hk, heq⟩ := mem_map.1 hmem
    cases heq
    exact ⟨hf, hk⟩
  · rintro ⟨hf, hk⟩
    exact ⟨fact, hf, mem_map.2 ⟨foreignKey, hk, rfl⟩⟩

theorem ForeignKeyAccepted.dimension (h : ForeignKeyAccepted service i item) :
    item.2.dimensionId ∈ i.dimensions.map DimensionSpec.dimensionId ∧
      isIdentifier item.2.dimensionId = true := by
  obtain ⟨d, hitem, -, -, -, hid, -⟩ := h
  obtain ⟨hd, hsame⟩ := dimension_of_getItem hitem
  rw [← hsame]
  exact ⟨mem_map.2 ⟨d, hd, rfl⟩, hid⟩

theorem foreignKeyObjects_ok {r : SemanticRelationship × Option TimeRole}
    (h : service.foreignKeyObjects i item = .ok r) : ProjectsKey i item r := by
  obtain ⟨fact, foreignKey⟩ := item
  unfold foreignKeyObjects at h
  simp only at h
  split at h
  · cases h
  · rename_i d hitem
    obtain ⟨hd, hid⟩ := dimension_of_getItem hitem
    obtain ⟨joined, hjoined, h⟩ := bind_eq_ok.1 h
    obtain ⟨hsource, htarget⟩ := relationship_ok hjoined
    split_ifs at h with hdate
    · obtain ⟨role, hrole, h⟩ := bind_eq_ok.1 h
      cases h
      obtain ⟨hfact, hdimension, hattribute⟩ := timeRole_ok hrole
      refine ⟨hsource, htarget.trans hid, fun other hother => ?_⟩
      obtain rfl := Option.mem_some.1 hother
      exact ⟨hfact, d, hd, hdate, hdimension, hattribute⟩
    · cases h
      exact ⟨hsource, htarget.trans hid, by simp⟩

/-- The dimensions are accepted, so that a date column has an id. -/
theorem exists_foreignKeyObjects (hdimensions : ∀ d ∈ i.dimensions, DimensionAccepted service i d) :
    (∃ r, service.foreignKeyObjects i item = .ok r) ↔ ForeignKeyAccepted service i item := by
  obtain ⟨fact, foreignKey⟩ := item
  unfold foreignKeyObjects ForeignKeyAccepted
  simp only
  cases hitem : getItem i.dimensionItems foreignKey.dimensionId with
  | none => simp [throw, throwThe, MonadExceptOf.throw]
  | some d =>
    have hd := hdimensions d (dimension_of_getItem hitem).1
    simp only [Option.some.injEq, exists_eq_left']
    by_cases hdate : d.role = .date
    · simp only [if_pos hdate]
      rw [exists_bind_ok]
      constructor
      · rintro ⟨joined, hjoined, r, hr⟩
        obtain ⟨scope, cardinality, hscope, ⟨hid, hfact, hdimension⟩, -, href⟩ :=
          exists_relationship.1 ⟨joined, hjoined⟩
        obtain ⟨hdeclared, htime, ⟨c, hc, hcolumn⟩, hpair⟩ := (relationshipScope_date hdate).1 hscope
        obtain ⟨role, hrole, -⟩ := bind_eq_ok.1 hr
        obtain ⟨sourceColumn, dated, grain, hsource, hdated, hgrain, hids, htext⟩ :=
          exists_timeRole.1 ⟨role, hrole⟩
        cases hpair
        rw [hc] at hsource
        cases hsource
        exact ⟨hdeclared, href, hfact, hdimension, htime, hid, c, dated, grain, hc, hcolumn, hdated,
          hgrain, hids.1, hids.2.2.1, hids.2.2.2.2.2.2, htext⟩
      · rintro ⟨hdeclared, href, hfact, hdimension, htime, hid, c, dated, grain, hc, hcolumn, hdated,
          hgrain, hrole, hrefId, hgrainId, htext⟩
        have hscope : relationshipScope i fact foreignKey d =
            .ok (.analyticalTimeRole, "FACT_TO_DATE_ROLE") :=
          (relationshipScope_date hdate).2 ⟨hdeclared, htime, ⟨c, hc, hcolumn⟩, rfl⟩
        have hsafe : isIdentifier c = true := by
          have hcolumns := foreignKey.columnsAreSafe.2.2
          rw [hc] at hcolumns
          exact hcolumns
        have hattribute := (hd.attributes.2 dated (mem_of_find?_eq_some hdated)).1
        obtain ⟨joined, hjoined⟩ := exists_relationship.2 ⟨_, _, hscope, ⟨hid, hfact, hdimension⟩,
          by decide +kernel, href⟩
        obtain ⟨role, hrole⟩ := exists_timeRole.2 ⟨c, dated, grain, hc, hdated, hgrain,
          ⟨hrole, hfact, hrefId, hsafe, hdimension, hattribute, hgrainId⟩, htext⟩
        exact ⟨joined, hjoined, _, bind_eq_ok.2 ⟨role, hrole, rfl⟩⟩
    · simp only [if_neg hdate]
      rw [exists_bind_ok]
      constructor
      · rintro ⟨joined, hjoined, -⟩
        obtain ⟨scope, cardinality, hscope, ⟨hid, hfact, hdimension⟩, htext, href⟩ :=
          exists_relationship.1 ⟨joined, hjoined⟩
        obtain ⟨hdeclared, hkey, haccepted, model, canonical, hmodel, hfind, hto, hfrom, hpair⟩ :=
          (relationshipScope_entity hdate).1 hscope
        cases hpair
        exact ⟨hdeclared, href, hfact, hdimension, hkey, haccepted, hid, model, canonical, hmodel,
          hfind, hto, hfrom, htext⟩
      · rintro ⟨hdeclared, href, hfact, hdimension, hkey, haccepted, hid, model, canonical, hmodel,
          hfind, hto, hfrom, htext⟩
        have hscope : relationshipScope i fact foreignKey d =
            .ok (.canonicalAccepted, canonical.cardinality) :=
          (relationshipScope_entity hdate).2
            ⟨hdeclared, hkey, haccepted, model, canonical, hmodel, hfind, hto, hfrom, rfl⟩
        obtain ⟨joined, hjoined⟩ := exists_relationship.2 ⟨_, _, hscope, ⟨hid, hfact, hdimension⟩,
          htext, href⟩
        exact ⟨joined, hjoined, _, rfl⟩

/-! ## Measures and metrics -/

def semiAdditiveOperations : List String := ["MAX", "MIN", "LAST", "FIRST"]

/-- The rule names an operation of its class that can be executed: SUM for an additive measure, MAX
or MIN first for a semi-additive one. -/
def RuleAccepted (service : SemanticLayerService) (measure : MeasureSpec) : Prop :=
  match measure.aggregationClass with
  | .additive => "SUM" ∈ service.explicitOperations measure
  | .semiAdditive => ∃ o ∈ ["MAX", "MIN"],
      ((service.explicitOperations measure).find? (· ∈ semiAdditiveOperations)) = some o
  | .nonAdditive => True

/-- The contracts of a measure and of its metric accept a specification, apart from its rule. -/
structure MeasureAccepted (service : SemanticLayerService) (i : ModelInputs) (measure : MeasureSpec) :
    Prop where
  fact : ∃ fact, getItem i.factItems measure.factId = some fact ∧
    fact.grainSpecId ∈ i.grains.map GrainSpec.grainId ∧ isIdentifier fact.factId = true ∧
    isIdentifier fact.grainSpecId = true
  ids : isIdentifier (slug ("semantic_" ++ measure.measureId)) = true ∧
    isIdentifier measure.measureId = true
  metricIds : isIdentifier (service.metricId i measure) = true ∧
    isIdentifier (slug measure.semanticName) = true
  texts : isText measure.aggregationRule = true ∧ isText measure.unitSemantics = true ∧
    isText measure.currencySemantics = true

section

variable {measure : MeasureSpec} {fact : FactSpec} {roles : List String}

/-- The operations that a measure names itself, of the semi-additive ones. -/
def namedOperations (service : SemanticLayerService) (measure : MeasureSpec) : List String :=
  (service.explicitOperations measure).filter (· ∈ semiAdditiveOperations)

theorem inheritedOperations_additive (h : measure.aggregationClass = .additive) :
    service.inheritedOperations measure =
      if "SUM" ∈ service.explicitOperations measure then ["SUM"] else [] := by
  simp only [inheritedOperations, h]

theorem inheritedOperations_semiAdditive (h : measure.aggregationClass = .semiAdditive) :
    service.inheritedOperations measure = (service.namedOperations measure).take 1 := by
  simp only [inheritedOperations, h]
  rfl

theorem inheritedOperations_nonAdditive (h : measure.aggregationClass = .nonAdditive) :
    service.inheritedOperations measure = ["AT_GRAIN"] := by
  simp only [inheritedOperations, h]

theorem mem_namedOperations {o : String} (h : o ∈ service.namedOperations measure) :
    o ∈ service.explicitOperations measure ∧ o ∈ semiAdditiveOperations := by
  rw [namedOperations, mem_filter, decide_eq_true_eq] at h
  exact h

theorem inheritedOperations_cases (service : SemanticLayerService) (measure : MeasureSpec) :
    service.inheritedOperations measure = [] ∨
      ∃ o ∈ ["SUM", "MAX", "MIN", "LAST", "FIRST", "AT_GRAIN"],
        service.inheritedOperations measure = [o] ∧
          (measure.aggregationClass = .nonAdditive → o = "AT_GRAIN") := by
  cases hclass : measure.aggregationClass with
  | additive =>
    rw [inheritedOperations_additive hclass]
    by_cases hsum : "SUM" ∈ service.explicitOperations measure
    · exact .inr ⟨"SUM", by simp, if_pos hsum, nofun⟩
    · exact .inl (if_neg hsum)
  | semiAdditive =>
    rw [inheritedOperations_semiAdditive hclass]
    cases hnamed : service.namedOperations measure with
    | nil => exact .inl rfl
    | cons o os =>
      have hmem := (mem_namedOperations (hnamed ▸ mem_cons_self)).2
      exact .inr ⟨o, mem_cons_of_mem _ (mem_append_left ["AT_GRAIN"] hmem), rfl, nofun⟩
  | nonAdditive =>
    exact .inr ⟨"AT_GRAIN", by simp, inheritedOperations_nonAdditive hclass, fun _ => rfl⟩

/-- The operations of a measure are named safely and do not loosen its class. -/
theorem inheritedOperations_safe (service : SemanticLayerService) (measure : MeasureSpec) :
    ((∀ o ∈ service.inheritedOperations measure, isOperationName o = true) ∧
        (service.inheritedOperations measure).Nodup) ∧
      (measure.aggregationClass = .nonAdditive → "SUM" ∉ service.inheritedOperations measure) := by
  have hnames : ∀ o ∈ ["SUM", "MAX", "MIN", "LAST", "FIRST", "AT_GRAIN"], isOperationName o = true := by
    decide +kernel
  rcases inheritedOperations_cases service measure with hnil | ⟨o, ho, hone, hclass⟩
  · rw [hnil]
    simp
  · rw [hone]
    refine ⟨⟨fun x hx => ?_, nodup_singleton _⟩, fun hnon hsum => ?_⟩
    · rw [mem_singleton.1 hx]
      exact hnames o ho
    · rw [hclass hnon, mem_singleton] at hsum
      exact absurd hsum (by decide)

theorem take_one_inheritedOperations (service : SemanticLayerService) (measure : MeasureSpec) :
    (service.inheritedOperations measure).take 1 = service.inheritedOperations measure := by
  rcases inheritedOperations_cases service measure with hnil | ⟨o, -, hone, -⟩
  · rw [hnil]
    rfl
  · rw [hone]
    rfl

theorem ruleAccepted_iff : RuleAccepted service measure ↔ service.inheritedOperations measure ≠ [] ∧
      (isAvailable measure (service.inheritedOperations measure) = false →
        (failureReason measure (service.inheritedOperations measure)).any (· ≠ "") = true) := by
  unfold RuleAccepted isAvailable failureReason
  cases hclass : measure.aggregationClass with
  | additive =>
    rw [inheritedOperations_additive hclass]
    by_cases hsum : "SUM" ∈ service.explicitOperations measure
    · simp [hsum, aggregateSql]
    · simp [hsum]
  | semiAdditive =>
    rw [inheritedOperations_semiAdditive hclass]
    have hfind : (service.explicitOperations measure).find? (· ∈ semiAdditiveOperations) =
        (service.namedOperations measure).head? := (head?_filter ..).symm
    simp only [hfind]
    cases hnamed : service.namedOperations measure with
    | nil => simp
    | cons o os =>
      have hmem := (mem_namedOperations (hnamed ▸ mem_cons_self)).2
      simp only [semiAdditiveOperations, mem_cons, not_mem_nil, or_false] at hmem
      rcases hmem with rfl | rfl | rfl | rfl <;> simp [aggregateSql]
  | nonAdditive =>
    rw [inheritedOperations_nonAdditive hclass]
    simp

theorem exists_semanticMeasure : (∃ s, service.semanticMeasure fact roles measure = .ok s) ↔
      (isIdentifier (slug ("semantic_" ++ measure.measureId)) = true ∧
        isIdentifier fact.factId = true ∧ isIdentifier measure.measureId = true ∧
        isIdentifier fact.grainSpecId = true) ∧
      (isText measure.aggregationRule = true ∧ isText measure.unitSemantics = true ∧
        isText measure.currencySemantics = true) ∧ service.inheritedOperations measure ≠ [] := by
  obtain ⟨hsafe, hsum⟩ := inheritedOperations_safe service measure
  unfold semanticMeasure
  rw [exists_validated]
  exact and_congr_right fun _ => and_congr_right fun _ => ⟨fun h => h.2.2, fun h => ⟨hsafe, hsum, h⟩⟩

theorem exists_metricSpec : (∃ s, service.metricSpec i fact roles measure = .ok s) ↔
      (isIdentifier (service.metricId i measure) = true ∧
        isIdentifier (slug measure.semanticName) = true) ∧
      (∀ r ∈ [fact.factId] ++ [fact.grainSpecId] ++ [measure.measureId] ++
          fact.dimensionForeignKeys.map FactForeignKeySpec.dimensionId ++ roles,
        isIdentifier r = true) ∧
      (isAvailable measure (service.inheritedOperations measure) = false →
        (failureReason measure (service.inheritedOperations measure)).any (· ≠ "") = true) := by
  obtain ⟨hsafe, hsum⟩ := inheritedOperations_safe service measure
  have htake := take_one_inheritedOperations service measure
  unfold metricSpec
  rw [exists_validated]
  refine and_congr_right fun _ => and_congr_right fun _ => ⟨fun h => h.2.2.1, fun h => ?_⟩
  by_cases havailable : isAvailable measure (service.inheritedOperations measure) = true
  · have hne : service.inheritedOperations measure ≠ [] := by
      intro hnil
      rw [hnil] at havailable
      cases havailable
    simp only [if_pos havailable, htake]
    exact ⟨hsafe, fun _ => hne, h, hsum⟩
  · simp only [if_neg havailable]
    exact ⟨⟨nofun, nodup_nil⟩, fun hfalse => absurd hfalse havailable, h, fun _ => nofun⟩

theorem semanticMeasure_ok {s : SemanticMeasure}
    (h : service.semanticMeasure fact roles measure = .ok s) :
    s.factId = fact.factId ∧ s.measureSpecId = measure.measureId := by
  obtain ⟨_, hobject⟩ := validated_eq_ok.1 h
  simp only [← hobject, and_self]

/-- The metric says what the measure says. -/
structure ProjectsMetric (service : SemanticLayerService) (i : ModelInputs) (fact : FactSpec)
    (measure : MeasureSpec) (m : MetricSpec) : Prop where
  id : m.metricId = service.metricId i measure
  name : m.displayName = display measure.semanticName
  factIds : m.factIds = [fact.factId]
  grainIds : m.grainIds = [fact.grainSpecId]
  measureIds : m.measureIds = [measure.measureId]
  expression : m.expression.measureId = some measure.measureId ∧ m.expression.metricRefs = []
  operations : m.allowedAggregationOperations ⊆ service.inheritedOperations measure
  availability : m.availability =
    if isAvailable measure (service.inheritedOperations measure) then .available else .unavailable
  reason : m.availability ≠ .available → m.failureReason.any (· ≠ "") = true

theorem metricSpec_ok {m : MetricSpec} (h : service.metricSpec i fact roles measure = .ok m) :
    ProjectsMetric service i fact measure m := by
  obtain ⟨_, hobject⟩ := validated_eq_ok.1 h
  have hreason := m.expressionIsConsistent.2.2.2.1
  refine ⟨?_, ?_, ?_, ?_, ?_, ?_, ?_, ?_, hreason⟩
  all_goals simp only [← hobject]
  · exact ⟨rfl, rfl⟩
  · split_ifs
    · exact take_subset _ _
    · exact nil_subset _

/-- The semantic measure says what the spec says, and its metric too. -/
structure ProjectsMeasure (service : SemanticLayerService) (i : ModelInputs) (measure : MeasureSpec)
    (r : SemanticMeasure × MetricSpec) : Prop where
  factId : r.1.factId = measure.factId
  measureId : r.1.measureSpecId = measure.measureId
  metric : ∃ fact, getItem i.factItems measure.factId = some fact ∧
    fact.factId = measure.factId ∧ ProjectsMetric service i fact measure r.2

theorem fact_of_getItem {factId : String} (h : getItem i.factItems factId = some fact) :
    fact ∈ i.facts ∧ fact.factId = factId := by
  obtain ⟨x, hx, hkey, rfl⟩ := getItem_map_eq_some h
  exact ⟨hx, hkey⟩

theorem measureObjects_ok {timeRoles : List TimeRole} {r : SemanticMeasure × MetricSpec}
    (h : service.measureObjects i timeRoles measure = .ok r) : ProjectsMeasure service i measure r := by
  unfold measureObjects at h
  split at h
  · cases h
  · rename_i fact hitem
    obtain ⟨_, -, h⟩ := bind_eq_ok.1 h
    obtain ⟨projected, hprojected, h⟩ := bind_eq_ok.1 h
    obtain ⟨metric, hmetric, h⟩ := bind_eq_ok.1 h
    cases h
    obtain ⟨hfact, hmeasure⟩ := semanticMeasure_ok hprojected
    have hid := (fact_of_getItem hitem).2
    exact ⟨hfact.trans hid, hmeasure, fact, hitem, hid, metricSpec_ok hmetric⟩

/-- A measure and its metric are built where the specification and its rule are accepted. -/
theorem exists_measureObjects {timeRoles : List TimeRole}
    (hkeys : ∀ item ∈ i.foreignKeys, ForeignKeyAccepted service i item) :
    (∃ r, service.measureObjects i timeRoles measure = .ok r) ↔
      MeasureAccepted service i measure ∧ RuleAccepted service measure := by
  cases hitem : getItem i.factItems measure.factId with
  | none =>
    constructor
    · rintro ⟨r, h⟩
      rw [measureObjects, hitem] at h
      cases h
    · rintro ⟨h, -⟩
      obtain ⟨fact, hfact, -⟩ := h.fact
      rw [hitem] at hfact
      cases hfact
  | some fact =>
    have hgrain : ¬ (getItem i.grainItems fact.grainSpecId).isNone = true ↔
        fact.grainSpecId ∈ i.grains.map GrainSpec.grainId := by
      have hkeys : i.grainItems.map Prod.fst = i.grains.map GrainSpec.grainId := by
        unfold ModelInputs.grainItems
        rw [map_map]
        rfl
      rw [Option.isNone_iff_eq_none, getItem_eq_none_iff, not_not, hkeys]
    obtain ⟨hmem, hid⟩ := fact_of_getItem hitem
    have hroles : ∀ r ∈ (timeRoles.filter (·.factId = fact.factId)).map TimeRole.timeRoleId,
        isIdentifier r = true := by
      intro r hr
      obtain ⟨role, -, rfl⟩ := mem_map.1 hr
      exact role.identifiersAreSafe.1
    simp only [measureObjects, hitem, exists_bind_ok, raiseIf_eq_ok, hgrain]
    constructor
    · rintro ⟨_, hknown, projected, hprojected, metric, hmetric, -⟩
      obtain ⟨⟨hsemantic, hfact, hmeasure, hgrainId⟩, htexts, hne⟩ :=
        exists_semanticMeasure.1 ⟨projected, hprojected⟩
      obtain ⟨hmetricIds, -, hreason⟩ := exists_metricSpec.1 ⟨metric, hmetric⟩
      exact ⟨⟨⟨fact, hitem, hknown, hfact, hgrainId⟩, ⟨hsemantic, hmeasure⟩, hmetricIds, htexts⟩,
        ruleAccepted_iff.2 ⟨hne, hreason⟩⟩
    · rintro ⟨haccepted, hrule⟩
      obtain ⟨hne, hreason⟩ := ruleAccepted_iff.1 hrule
      obtain ⟨other, hother, hknown, hfact, hgrainId⟩ := haccepted.fact
      rw [hitem] at hother
      cases hother
      obtain ⟨projected, hprojected⟩ := exists_semanticMeasure.2
        ⟨⟨haccepted.ids.1, hfact, haccepted.ids.2, hgrainId⟩, haccepted.texts, hne⟩
      have hrefs : ∀ r ∈ [fact.factId] ++ [fact.grainSpecId] ++ [measure.measureId] ++
          fact.dimensionForeignKeys.map FactForeignKeySpec.dimensionId ++
          (timeRoles.filter (·.factId = fact.factId)).map TimeRole.timeRoleId,
          isIdentifier r = true := by
        intro r hr
        simp only [mem_append, mem_singleton] at hr
        rcases hr with (((rfl | rfl) | rfl) | hr) | hr
        · exact hfact
        · exact hgrainId
        · exact haccepted.ids.2
        · obtain ⟨foreignKey, hforeignKey, rfl⟩ := mem_map.1 hr
          exact (hkeys (fact, foreignKey) (mem_foreignKeys.2 ⟨hmem, hforeignKey⟩)).dimension.2
        · exact hroles r hr
      obtain ⟨metric, hmetric⟩ := exists_metricSpec.2 ⟨haccepted.metricIds, hrefs, hreason⟩
      exact ⟨(), hknown, projected, hprojected, metric, hmetric, _, rfl⟩

end

/-! ## References between the objects -/

/-- What the loop over the derived metrics reads of the metric of a measure. -/
def metricGrain (service : SemanticLayerService) (i : ModelInputs) (measure : MeasureSpec) :
    MetricGrain :=
  (service.metricId i measure, ([measure.factId],
    [((getItem i.factItems measure.factId).map FactSpec.grainSpecId).getD ""]))

def modelMetricIds (service : SemanticLayerService) (i : ModelInputs) : List String :=
  i.measures.map (service.metricId i) ++ i.derivedMetrics.map MetricSpec.metricId

/-- The derived metrics rest on known ones. -/
def DerivedAccepted (service : SemanticLayerService) (i : ModelInputs) : Prop :=
  ∃ known, i.derivedMetrics.foldlM
    (checkDerivedMetric (modelMetricIds service i) (i.measures.map MeasureSpec.measureId))
    (i.measures.map (metricGrain service i)) = .ok known

/-- The specifications of a package have ids of their own and refer to one another. -/
structure PackageIsClosed (service : SemanticLayerService) (i : ModelInputs) : Prop where
  dimensionIds : (i.dimensions.map DimensionSpec.dimensionId).Nodup
  measureIds : (i.measures.map MeasureSpec.measureId).Nodup
  metricIds : (modelMetricIds service i).Nodup
  attributeIds : (i.dimensions.flatMap fun d =>
    d.attributes.map fun a => attributeId d.dimensionId a.attributeId).Nodup
  factsAreMeasured : ∀ fact ∈ i.facts, fact.factId ∈ i.measures.map MeasureSpec.factId
  derived : ∀ m ∈ i.derivedMetrics, (∀ f ∈ m.factIds, f ∈ i.measures.map MeasureSpec.factId) ∧
    ∀ x ∈ m.expression.measureId, x ∈ m.measureIds

/-- What a derived metric refers to, as far as the loop checks it. -/
theorem refs_of_checkDerived {metricIds measureIds : List String} {known : List MetricGrain}
    {derived : List MetricSpec} {final : List MetricGrain}
    (h : derived.foldlM (checkDerivedMetric metricIds measureIds) known = .ok final) :
    ∀ m ∈ derived, m.availability ≠ .available ∧ (∀ r ∈ m.expression.metricRefs, r ∈ metricIds) ∧
      ∀ r ∈ m.measureIds, r ∈ measureIds := by
  let Checked (done : List MetricSpec) (_ : List MetricGrain) : Prop :=
    ∀ m ∈ done, m.availability ≠ .available ∧ (∀ r ∈ m.expression.metricRefs, r ∈ metricIds) ∧
      ∀ r ∈ m.measureIds, r ∈ measureIds
  have hstart : Checked [] known := nofun
  have hinvariant : Checked ([] ++ derived) final := foldlM_invariant ?_ hstart h
  · rwa [nil_append] at hinvariant
  intro done known m known' hdone hstep
  obtain ⟨_, havailable, hstep⟩ := bind_eq_ok.1 hstep
  obtain ⟨_, -, hstep⟩ := bind_eq_ok.1 hstep
  obtain ⟨_, hrefs, hstep⟩ := bind_eq_ok.1 hstep
  obtain ⟨_, hmeasures, -⟩ := bind_eq_ok.1 hstep
  intro x hx
  rcases mem_append.1 hx with hx | hx
  · exact hdone x hx
  · obtain rfl := mem_singleton.1 hx
    have hrefs := raiseIf_eq_ok.1 hrefs
    have hmeasures := raiseIf_eq_ok.1 hmeasures
    simp only [any_eq_true, decide_eq_true_eq, not_exists, not_and, not_not] at hrefs hmeasures
    exact ⟨raiseIf_eq_ok.1 havailable, hrefs, hmeasures⟩

section

variable {dimensions : List SemanticDimension} {hierarchies : List DimensionHierarchy}
  {joins : List (SemanticRelationship × Option TimeRole)}
  {measures : List (SemanticMeasure × MetricSpec)}

/-- The objects that the loops of a construction build. -/
structure Projects (service : SemanticLayerService) (i : ModelInputs)
    (dimensions : List SemanticDimension) (hierarchies : List DimensionHierarchy)
    (joins : List (SemanticRelationship × Option TimeRole))
    (measures : List (SemanticMeasure × MetricSpec)) : Prop where
  dimensions : Forall₂ (ProjectsDimension i) i.dimensions dimensions
  hierarchies : Forall₂ (fun d s => s.dimensionId = d.dimensionId ∧
    s.levels.map HierarchyLevel.semanticAttributeId = calendarLevels.map (attributeId d.dimensionId))
    (i.dimensions.filter hasCalendar) hierarchies
  joins : Forall₂ (ProjectsKey i) i.foreignKeys joins
  measures : Forall₂ (ProjectsMeasure service i) i.measures measures

section
variable (h : Projects service i dimensions hierarchies joins measures)
include h

theorem Projects.dimensionIds : dimensions.map SemanticDimension.semanticDimensionId =
      i.dimensions.map DimensionSpec.dimensionId :=
  map_eq_of_forall₂ h.dimensions _ _ fun _ _ hd => hd.id

theorem Projects.names : dimensions.map SemanticDimension.businessName ++
        (measures.map Prod.snd ++ i.derivedMetrics).map MetricSpec.displayName =
      i.dimensions.map i.businessName ++ (i.measures.map (fun m => display m.semanticName) ++
        i.derivedMetrics.map MetricSpec.displayName) := by
  have hdimensions : dimensions.map SemanticDimension.businessName =
      i.dimensions.map i.businessName := map_eq_of_forall₂ h.dimensions _ _ fun _ _ hd => hd.name
  have hmeasures : measures.map (fun r => r.2.displayName) =
      i.measures.map fun m => display m.semanticName :=
    map_eq_of_forall₂ h.measures _ _ fun _ _ hm => by
      obtain ⟨_, -, -, hmetric⟩ := hm.metric
      exact hmetric.name
  rw [hdimensions, map_append, map_map, ← hmeasures]
  rfl

theorem Projects.measureIds : (measures.map Prod.fst).map SemanticMeasure.measureSpecId =
      i.measures.map MeasureSpec.measureId := by
  rw [map_map]
  exact map_eq_of_forall₂ h.measures _ _ fun _ _ hm => hm.measureId

theorem Projects.factIds :
    (measures.map Prod.fst).map SemanticMeasure.factId = i.measures.map MeasureSpec.factId := by
  rw [map_map]
  exact map_eq_of_forall₂ h.measures _ _ fun _ _ hm => hm.factId

theorem Projects.metricIds :
    (measures.map Prod.snd).map MetricSpec.metricId = i.measures.map (service.metricId i) := by
  rw [map_map]
  refine map_eq_of_forall₂ h.measures _ _ fun _ _ hm => ?_
  obtain ⟨_, -, -, hmetric⟩ := hm.metric
  exact hmetric.id

theorem Projects.metricGrains :
    (measures.map Prod.snd).map (fun m => (m.metricId, (m.factIds, m.grainIds))) =
      i.measures.map (metricGrain service i) := by
  rw [map_map]
  refine map_eq_of_forall₂ h.measures _ _ fun m r hm => ?_
  obtain ⟨fact, hitem, hid, hmetric⟩ := hm.metric
  simp only [metricGrain, Function.comp_apply, hmetric.id, hmetric.factIds, hmetric.grainIds, hitem,
    hid, Option.map_some, Option.getD_some]

theorem Projects.attributeIds :
    (dimensions.flatMap SemanticDimension.attributes).map SemanticAttribute.semanticAttributeId =
      i.dimensions.flatMap fun d =>
        d.attributes.map fun a => attributeId d.dimensionId a.attributeId := by
  rw [map_flatMap, flatMap_def, flatMap_def]
  exact congrArg List.flatten (map_eq_of_forall₂ h.dimensions _ _ fun _ _ hd => hd.attributes)

theorem Projects.exists_relationship {fact : FactSpec} (hfact : fact ∈ i.facts) :
    ∃ r ∈ joins.map Prod.fst, r.sourceSemanticObjectId = fact.factId := by
  obtain ⟨foreignKey, hkey⟩ := exists_mem_of_ne_nil _ fact.childrenAreGiven.1
  have hitem : (fact, foreignKey) ∈ i.foreignKeys := mem_foreignKeys.2 ⟨hfact, hkey⟩
  obtain ⟨r, hr, hprojects⟩ := exists_right_of_forall₂ h.joins hitem
  exact ⟨r.1, mem_map.2 ⟨r, hr, rfl⟩, hprojects.source⟩

/-- The objects of a construction are closed exactly if its package is. -/
theorem Projects.closed_iff (hnonempty : i.dimensions ≠ [] ∧ i.measures ≠ []) (hderived : DerivedAccepted service i)
    (hkeys : ∀ item ∈ i.foreignKeys, ForeignKeyAccepted service i item) :
    ReferencesAreClosed dimensions (measures.map Prod.fst) (measures.map Prod.snd ++ i.derivedMetrics)
      hierarchies (joins.filterMap Prod.snd) (joins.map Prod.fst) ↔ PackageIsClosed service i := by
  constructor
  · intro hclosed
    exact {
      dimensionIds := h.dimensionIds ▸ hclosed.dimensionIds
      measureIds := h.measureIds ▸ hclosed.measureIds
      metricIds := by
        have hids := hclosed.metricIds
        rwa [map_append, h.metricIds] at hids
      attributeIds := h.attributeIds ▸ hclosed.attributeIds
      factsAreMeasured := fun fact hfact => by
        obtain ⟨r, hr, hsource⟩ := h.exists_relationship hfact
        rw [← h.factIds, ← hsource]
        exact (hclosed.relationships r hr).1
      derived := fun m hm => by
        obtain ⟨hfacts, -, hexpression, -⟩ := hclosed.metrics m (mem_append_right _ hm)
        rw [h.factIds] at hfacts
        exact ⟨hfacts, hexpression⟩ }
  · intro hpackage
    obtain ⟨known, hknown⟩ := hderived
    have hrefs := refs_of_checkDerived hknown
    exact {
      nonempty := by
        refine ⟨fun hnil => hnonempty.1 ?_, fun hnil => hnonempty.2 ?_⟩
        · exact length_eq_zero_iff.1 (h.dimensions.length_eq.trans (by rw [hnil]; rfl))
        · have hlength : measures.length = 0 := by
            rw [← length_map (f := Prod.fst), hnil]
            rfl
          exact length_eq_zero_iff.1 (h.measures.length_eq.trans hlength)
      dimensionIds := h.dimensionIds ▸ hpackage.dimensionIds
      measureIds := h.measureIds ▸ hpackage.measureIds
      metricIds := by
        rw [map_append, h.metricIds]
        exact hpackage.metricIds
      attributeIds := h.attributeIds ▸ hpackage.attributeIds
      hierarchies := fun s hs => by
        obtain ⟨d, hd, hid, hlevels⟩ := exists_left_of_forall₂ h.hierarchies hs
        obtain ⟨hmem, hcalendar⟩ := mem_filter.1 hd
        obtain ⟨x, hx, hprojects⟩ := exists_right_of_forall₂ h.dimensions hmem
        refine ⟨x, hx, hprojects.id.trans hid.symm, fun level hlevel => ?_⟩
        have hname : level.semanticAttributeId ∈ calendarLevels.map (attributeId d.dimensionId) :=
          hlevels ▸ mem_map.2 ⟨level, hlevel, rfl⟩
        obtain ⟨name, hname, heq⟩ := mem_map.1 hname
        obtain ⟨a, ha, rfl⟩ := mem_attributes_of_hasCalendar hcalendar hname
        rw [hprojects.attributes, ← heq]
        exact mem_map.2 ⟨a, ha, rfl⟩
      timeRoles := fun role hrole => by
        obtain ⟨r, hr, hsome⟩ := mem_filterMap.1 hrole
        obtain ⟨item, hitem, hprojects⟩ := exists_left_of_forall₂ h.joins hr
        obtain ⟨hfact, d, hd, hdate, hid, a, ha, hattribute⟩ := hprojects.role role hsome
        obtain ⟨x, hx, hdimension⟩ := exists_right_of_forall₂ h.dimensions hd
        rw [h.factIds, hfact]
        refine ⟨hpackage.factsAreMeasured _ (mem_foreignKeys.1 hitem).1, x, hx,
          hdimension.id.trans hid.symm, hdimension.role.trans hdate, ?_⟩
        rw [hdimension.attributes, hattribute]
        exact mem_map.2 ⟨a, ha, rfl⟩
      metrics := fun m hm => by
        rw [h.factIds, h.measureIds, map_append, h.metricIds]
        rcases mem_append.1 hm with hm | hm
        · obtain ⟨r, hr, rfl⟩ := mem_map.1 hm
          obtain ⟨measure, hmeasure, hprojects⟩ := exists_left_of_forall₂ h.measures hr
          obtain ⟨fact, -, hid, hmetric⟩ := hprojects.metric
          rw [hmetric.factIds, hmetric.measureIds, hmetric.expression.1, hmetric.expression.2, hid]
          refine ⟨fun f hf => ?_, fun x hx => ?_, fun x hx => ?_, nofun⟩
          · rw [mem_singleton.1 hf]
            exact mem_map.2 ⟨measure, hmeasure, rfl⟩
          · rw [mem_singleton.1 hx]
            exact mem_map.2 ⟨measure, hmeasure, rfl⟩
          · rw [← Option.mem_some.1 hx]
            exact mem_singleton_self _
        · obtain ⟨-, hmetrics, hmeasures⟩ := hrefs m hm
          obtain ⟨hfacts, hexpression⟩ := hpackage.derived m hm
          exact ⟨hfacts, hmeasures, hexpression, hmetrics⟩
      relationships := fun r hr => by
        obtain ⟨join, hjoin, rfl⟩ := mem_map.1 hr
        obtain ⟨item, hitem, hprojects⟩ := exists_left_of_forall₂ h.joins hjoin
        rw [h.factIds, h.dimensionIds, hprojects.source, hprojects.target]
        exact ⟨hpackage.factsAreMeasured _ (mem_foreignKeys.1 hitem).1, (hkeys item hitem).dimension.1⟩ }

end

end

/-! ## Construction -/

/-- A package that `build_model` accepts, whatever the rules of its measures are. -/
structure Buildable (service : SemanticLayerService) (i : ModelInputs) : Prop where
  families : service.checkFamilies i = .ok ()
  dimensions : ∀ d ∈ i.dimensions, DimensionAccepted service i d
  calendars : ∀ d ∈ i.dimensions, hasCalendar d = true → CalendarAccepted d
  foreignKeys : ∀ item ∈ i.foreignKeys, ForeignKeyAccepted service i item
  measures : ∀ m ∈ i.measures, MeasureAccepted service i m
  derived : DerivedAccepted service i
  texts : ∀ t ∈ upstreamTexts i, isText t = true
  names : ((i.dimensions.map i.businessName ++ (i.measures.map (fun m => display m.semanticName) ++
    i.derivedMetrics.map MetricSpec.displayName)).map service.casefold).Nodup
  closed : PackageIsClosed service i

theorem nonempty_of_checkFamilies (h : service.checkFamilies i = .ok ()) :
    i.dimensions ≠ [] ∧ i.measures ≠ [] := by
  obtain ⟨_, hfamilies, -⟩ := bind_eq_ok.1 h
  have hnonempty := raiseIf_eq_ok.1 hfamilies
  simp only [not_or] at hnonempty
  exact ⟨hnonempty.1, hnonempty.2.2.2⟩

section

variable {dimensions : List SemanticDimension} {hierarchies : List DimensionHierarchy}
  {joins : List (SemanticRelationship × Option TimeRole)} {timeRoles : List TimeRole}
  {measures : List (SemanticMeasure × MetricSpec)}

theorem projects_of_loops (hdimensions : i.dimensions.mapM (service.semanticDimension i) = .ok dimensions)
    (hhierarchies : (i.dimensions.filter hasCalendar).mapM semanticHierarchy = .ok hierarchies)
    (hjoins : i.foreignKeys.mapM (service.foreignKeyObjects i) = .ok joins)
    (hmeasures : i.measures.mapM (service.measureObjects i timeRoles) = .ok measures) :
    Projects service i dimensions hierarchies joins measures where
  dimensions := (mapM_eq_ok.1 hdimensions).imp fun _ _ h => semanticDimension_ok h
  hierarchies := (mapM_eq_ok.1 hhierarchies).imp fun _ _ h => semanticHierarchy_ok h
  joins := (mapM_eq_ok.1 hjoins).imp fun _ _ h => foreignKeyObjects_ok h
  measures := (mapM_eq_ok.1 hmeasures).imp fun _ _ h => measureObjects_ok h

theorem exists_semanticModel (h : Projects service i dimensions hierarchies joins measures)
    (hnonempty : i.dimensions ≠ [] ∧ i.measures ≠ [])
    (hkeys : ∀ item ∈ i.foreignKeys, ForeignKeyAccepted service i item) :
    (∃ known, i.derivedMetrics.foldlM (checkDerivedMetric
          ((measures.map Prod.snd).map MetricSpec.metricId ++ i.derivedMetrics.map MetricSpec.metricId)
          (measures.map fun m => m.1.measureSpecId))
        ((measures.map Prod.snd).map fun m => (m.metricId, (m.factIds, m.grainIds))) = .ok known ∧
      ∃ model, service.semanticModel i ⟨dimensions, measures.map Prod.fst,
        measures.map Prod.snd ++ i.derivedMetrics, hierarchies, joins.filterMap Prod.snd,
        joins.map Prod.fst⟩ = .ok model) ↔
      DerivedAccepted service i ∧ (∀ t ∈ upstreamTexts i, isText t = true) ∧
        ((i.dimensions.map i.businessName ++ (i.measures.map (fun m => display m.semanticName) ++
          i.derivedMetrics.map MetricSpec.displayName)).map service.casefold).Nodup ∧
        PackageIsClosed service i := by
  have hmeasureIds : (measures.map fun m => m.1.measureSpecId) =
      i.measures.map MeasureSpec.measureId := by
    rw [← h.measureIds, map_map]
    rfl
  rw [h.metricIds, h.metricGrains, hmeasureIds]
  unfold semanticModel
  simp only [exists_validated, h.names, exists_and_right]
  refine and_congr_right fun hderived => and_congr_right fun _ => and_congr_right fun _ => ?_
  exact h.closed_iff hnonempty hderived hkeys

end

/-- A model is built exactly if the package is accepted and so is each rule. -/
theorem exists_buildModel : (∃ model, service.buildModel i = .ok model) ↔
    Buildable service i ∧ ∀ m ∈ i.measures, RuleAccepted service m := by
  unfold buildModel
  simp only [exists_bind_ok]
  constructor
  · rintro ⟨_, hfamilies, dimensions, hdimensions, hierarchies, hhierarchies, joins, hjoins, measures,
      hmeasures, hmodel⟩
    have hprojects := projects_of_loops hdimensions hhierarchies hjoins hmeasures
    have hacceptedDimensions : ∀ d ∈ i.dimensions, DimensionAccepted service i d := fun d hd =>
      exists_semanticDimension.1 (exists_mapM_eq_ok.1 ⟨dimensions, hdimensions⟩ d hd)
    have hacceptedKeys : ∀ item ∈ i.foreignKeys, ForeignKeyAccepted service i item := fun item hitem =>
      (exists_foreignKeyObjects hacceptedDimensions).1
        (exists_mapM_eq_ok.1 ⟨joins, hjoins⟩ item hitem)
    have hacceptedMeasures : ∀ m ∈ i.measures, MeasureAccepted service i m ∧ RuleAccepted service m :=
      fun m hm => (exists_measureObjects hacceptedKeys).1
        (exists_mapM_eq_ok.1 ⟨measures, hmeasures⟩ m hm)
    obtain ⟨hderived, htexts, hnames, hclosed⟩ := (exists_semanticModel hprojects
      (nonempty_of_checkFamilies hfamilies) hacceptedKeys).1 hmodel
    refine ⟨⟨hfamilies, hacceptedDimensions, fun d hd hcalendar => ?_, hacceptedKeys,
      fun m hm => (hacceptedMeasures m hm).1, hderived, htexts, hnames, hclosed⟩,
      fun m hm => (hacceptedMeasures m hm).2⟩
    exact (exists_semanticHierarchy hcalendar (hacceptedDimensions d hd)).1
      (exists_mapM_eq_ok.1 ⟨hierarchies, hhierarchies⟩ d (mem_filter.2 ⟨hd, hcalendar⟩))
  · rintro ⟨h, hrules⟩
    obtain ⟨dimensions, hdimensions⟩ := exists_mapM_eq_ok.2 fun d hd =>
      exists_semanticDimension.2 (h.dimensions d hd)
    obtain ⟨hierarchies, hhierarchies⟩ := exists_mapM_eq_ok.2 fun d hd =>
      (exists_semanticHierarchy (mem_filter.1 hd).2 (h.dimensions d (mem_filter.1 hd).1)).2
        (h.calendars d (mem_filter.1 hd).1 (mem_filter.1 hd).2)
    obtain ⟨joins, hjoins⟩ := exists_mapM_eq_ok.2 fun item hitem =>
      (exists_foreignKeyObjects h.dimensions).2 (h.foreignKeys item hitem)
    have hbuilt : ∀ m ∈ i.measures,
        ∃ r, service.measureObjects i (joins.filterMap Prod.snd) m = .ok r := fun m hm =>
      (exists_measureObjects h.foreignKeys).2 ⟨h.measures m hm, hrules m hm⟩
    obtain ⟨measures, hmeasures⟩ := exists_mapM_eq_ok.2 hbuilt
    have hprojects := projects_of_loops hdimensions hhierarchies hjoins hmeasures
    exact ⟨(), h.families, dimensions, hdimensions, hierarchies, hhierarchies, joins, hjoins, measures,
      hmeasures, (exists_semanticModel hprojects (nonempty_of_checkFamilies h.families)
        h.foreignKeys).2 ⟨h.derived, h.texts, h.names, h.closed⟩⟩

/-! ## Rules and metrics -/

/-- The rule of a measure names an operation of its class that V1 executes. -/
def DeclaresExecutable (service : SemanticLayerService) (measure : MeasureSpec) : Prop :=
  match measure.aggregationClass with
  | .additive => "SUM" ∈ service.explicitOperations measure
  | .semiAdditive => ∃ o ∈ ["MAX", "MIN"], o ∈ service.explicitOperations measure
  | .nonAdditive => False

/-- A measure that declares no operation gives an unavailable metric, and an available one allows
only what the rule of its measure names. -/
structure MetricsFollowRules (service : SemanticLayerService) (i : ModelInputs)
    (model : SemanticModel) : Prop where
  unavailable : ∀ measure ∈ i.measures, ¬ DeclaresExecutable service measure →
    ∃ metric ∈ model.metrics, metric.measureIds = [measure.measureId] ∧
      metric.availability = .unavailable ∧ metric.failureReason.any (· ≠ "") = true
  mentioned : ∀ metric ∈ model.metrics, metric.availability = .available →
    ∃ measure ∈ i.measures, metric.measureIds = [measure.measureId] ∧
      ∀ o ∈ metric.allowedAggregationOperations, o ∈ service.explicitOperations measure

theorem isAvailable_inherited {measure : MeasureSpec}
    (h : isAvailable measure (service.inheritedOperations measure) = true) :
    DeclaresExecutable service measure ∧ ∀ o ∈ service.inheritedOperations measure,
      o ∈ service.explicitOperations measure := by
  unfold DeclaresExecutable
  unfold isAvailable at h
  cases hclass : measure.aggregationClass with
  | additive =>
    rw [inheritedOperations_additive hclass] at h ⊢
    by_cases hsum : "SUM" ∈ service.explicitOperations measure
    · rw [if_pos hsum]
      exact ⟨hsum, fun o ho => mem_singleton.1 ho ▸ hsum⟩
    · rw [if_neg hsum] at h
      simp at h
  | semiAdditive =>
    rw [inheritedOperations_semiAdditive hclass] at h ⊢
    refine ⟨?_, fun o ho => (mem_namedOperations (mem_of_mem_take ho)).1⟩
    cases hnamed : service.namedOperations measure with
    | nil => simp [hnamed] at h
    | cons o os =>
      obtain ⟨hexplicit, hmem⟩ := mem_namedOperations (hnamed ▸ mem_cons_self)
      refine ⟨o, ?_, hexplicit⟩
      simp only [hnamed, take_succ_cons, List.head?_cons, Option.any_some, Bool.and_eq_true,
        decide_eq_true_eq] at h
      simp only [semiAdditiveOperations, mem_cons, not_mem_nil, or_false] at hmem
      rcases hmem with rfl | rfl | rfl | rfl
      · simp
      · simp
      · exact absurd h.1 (by decide)
      · exact absurd h.1 (by decide)
  | nonAdditive => simp [hclass] at h

theorem metricsFollowRules {model : SemanticModel} (h : service.buildModel i = .ok model) :
    MetricsFollowRules service i model := by
  obtain ⟨_, -, h⟩ := bind_eq_ok.1 h
  obtain ⟨dimensions, -, h⟩ := bind_eq_ok.1 h
  obtain ⟨hierarchies, -, h⟩ := bind_eq_ok.1 h
  obtain ⟨joins, -, h⟩ := bind_eq_ok.1 h
  obtain ⟨measures, hmeasures, h⟩ := bind_eq_ok.1 h
  obtain ⟨known, hderived, h⟩ := bind_eq_ok.1 h
  obtain ⟨_, rfl⟩ := validated_eq_ok.1 h
  have hall := (mapM_eq_ok.1 hmeasures).imp fun _ _ hm => measureObjects_ok hm
  constructor
  · intro measure hmeasure hnone
    obtain ⟨r, hr, hprojects⟩ := exists_right_of_forall₂ hall hmeasure
    obtain ⟨fact, -, -, hmetric⟩ := hprojects.metric
    have havailable : ¬ isAvailable measure (service.inheritedOperations measure) = true :=
      fun havailable => hnone (isAvailable_inherited havailable).1
    have hunavailable : r.2.availability = .unavailable := by
      rw [hmetric.availability, if_neg havailable]
    refine ⟨r.2, mem_append_left _ (mem_map.2 ⟨r, hr, rfl⟩), hmetric.measureIds,
      hunavailable, hmetric.reason ?_⟩
    rw [hunavailable]
    decide
  · intro metric hmetric havailable
    rcases mem_append.1 hmetric with hmem | hmem
    · obtain ⟨r, hr, rfl⟩ := mem_map.1 hmem
      obtain ⟨measure, hmeasure, hprojects⟩ := exists_left_of_forall₂ hall hr
      obtain ⟨fact, -, -, hof⟩ := hprojects.metric
      have hisAvailable : isAvailable measure (service.inheritedOperations measure) = true := by
        by_contra hnot
        rw [hof.availability, if_neg hnot] at havailable
        cases havailable
      exact ⟨measure, hmeasure, hof.measureIds, fun o ho =>
        (isAvailable_inherited hisAvailable).2 o (hof.operations ho)⟩
    · exact absurd havailable (refs_of_checkDerived hderived metric hmem).1

/-- **A package becomes a model whose metrics keep to their rules exactly if it is accepted apart
from them, each additive measure names SUM, and each semi-additive one MAX or MIN first.** -/
theorem buildModel_iff (service : SemanticLayerService) (i : ModelInputs) :
    (∃ model, service.buildModel i = .ok model ∧ MetricsFollowRules service i model) ↔
      Buildable service i ∧ ∀ m ∈ i.measures, RuleAccepted service m := by
  rw [← exists_buildModel]
  exact exists_congr fun model => and_iff_left_of_imp fun h => metricsFollowRules h

/-! ## Sales that no rule sums -/

def regionSpec : DimensionSpec :=
  { AnalyticalCompilerService.quarantinedCustomer with
    dimensionId := "region"
    tableName := "region"
    inputTableId := some "region"
    canonicalReferenceColumn := "ref"
    canonicalEntityTypeId := "region"
    surrogateKey := { keyName := "region_key", namespace_ := "region" }
    alternateKeyColumns := ["ref"]
    attributes := [{ attributeId := "name", columnName := "name", logicalType := "STRING"
                     inputColumnName := none, derivation := none, nullable := true
                     columnIsSafe := (regionFilter "").attributeIdIsSafe }]
    tableIsSafe := by decide +kernel
    inputRefsAreSafe := by decide +kernel
    keysAreDistinct := by decide +kernel }

def salesFact : FactSpec where
  factId := "sales"
  tableName := "sales"
  inputTableId := "sales"
  canonicalEventTypeId := "sale"
  canonicalEventRefs := ["sale"]
  grainSpecId := "sale"
  dimensionForeignKeys := [
    { relationshipRef := "sale_region", relationshipScope := .canonicalAccepted
      dimensionId := "region", factColumn := "region", dimensionKeyColumn := "region_key"
      inputReferenceColumn := some "region", required := true }]
  degenerateDimensionColumns := []
  measureIds := ["revenue"]
  dateRoleColumns := ["sale_date"]
  relationshipRefs := ["sale_region"]
  childrenAreGiven := by simp

def saleGrain : GrainSpec :=
  { AnalyticalCompilerService.demoGrain with grainId := "sale", factId := "sales" }

def revenue (aggregationClass : AggregationClass) (rule : String) : MeasureSpec where
  measureId := "revenue"
  factId := "sales"
  fieldName := "revenue"
  semanticName := "revenue"
  aggregationClass := aggregationClass
  aggregationRule := rule
  unitSemantics := "amount"
  currencySemantics := "none"
  logicalType := "DECIMAL"
  nullable := false

/-- An accepted package of sales by region with the measure of its revenue. -/
def salesPackage (measure : MeasureSpec) : ModelInputs where
  plan := {
    planId := "plan", contentHash := "plan_hash", analyticalSpecPackageHash := "package"
    canonicalModelId := "model", canonicalModelContentHash := "model_hash"
    inputBindingId := "binding", inputBindingContentHash := "binding_hash"
    acceptedRelationshipRefs := ["sale_region"], materializedDimensionIds := ["region"]
    materializedFactIds := ["sales"], grainSpecIds := ["sale"], measureSpecIds := ["revenue"]
    specContentHashes := ⟨[("region", "region")], [("sales", "sales")], [("sale", "sale")],
      [("revenue", "revenue")]⟩
    reviewState := .accepted, unresolvedItems := [] }
  dimensions := [regionSpec]
  facts := [salesFact]
  grains := [saleGrain]
  measures := [measure]
  compiledPlan := {
    compiledPlanId := "compiled", contentHash := "compiled_hash", planId := "plan"
    planContentHash := "plan_hash", analyticalSpecPackageHash := "package"
    generatedSqlHash := "sql", targetConfigFingerprint := "config", reviewState := .accepted
    tableNames := ["region", "sales"], dimensionSpecs := [regionSpec], factSpecs := [salesFact]
    grainSpecs := [saleGrain], measureSpecs := [measure] }
  materialization := {
    artifactId := "artifact", contentHash := "artifact_hash", planId := "plan"
    planContentHash := "plan_hash", compiledPlanId := "compiled"
    compiledPlanContentHash := "compiled_hash", targetRelativePath := "sales.duckdb"
    targetConfigFingerprint := "config", generatedSqlHash := "sql", status := .succeeded
    usable := true }
  canonicalModel := some ⟨"model", "model_hash", [⟨"region", "Region"⟩],
    [⟨"sale_region", "sale", "region", "MANY_TO_ONE"⟩]⟩
  analyticalReview := some ⟨true, []⟩
  derivedMetrics := []

/-- The exception that leaves a call. -/
def raisedBy {α : Type} : Except Raised α → Option Raised
  | .ok _ => none
  | .error e => some e

theorem error_of_raisedBy {α : Type} {x : Except Raised α} {e : Raised} (h : raisedBy x = some e) :
    x = .error e := by
  cases x with
  | ok a => cases h
  | error e' => exact congrArg Except.error (Option.some.inj h)

/-- The package is built when its rule sums the revenue. -/
example : (salesService.buildModel (salesPackage (revenue .additive "SUM(revenue)"))).isOk = true := by
  decide +kernel

/-- An average fails the contract of its measure, and a last value the one of its metric. -/
theorem buildModel_raises :
    (salesService.validateUpstream (salesPackage (revenue .additive "AVG(revenue)")) = .ok () ∧
      salesService.buildModel (salesPackage (revenue .additive "AVG(revenue)")) =
        .error (.validation "SemanticMeasure")) ∧
    (salesService.validateUpstream (salesPackage (revenue .semiAdditive "LAST(revenue)")) = .ok () ∧
      salesService.buildModel (salesPackage (revenue .semiAdditive "LAST(revenue)")) =
        .error (.validation "MetricSpec")) :=
  ⟨⟨by decide +kernel, error_of_raisedBy (by decide +kernel)⟩,
    by decide +kernel, error_of_raisedBy (by decide +kernel)⟩

end SemanticLayerService

end DirtyDataOlap.Semantic

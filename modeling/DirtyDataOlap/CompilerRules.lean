import DirtyDataOlap.AnalyticalCompiler

/-!
# What a compilation that succeeds has done

One inversion lemma for each step of the compiler: from its success, every guard it passed and
every value it computed. The results about the load are derived from these alone.
-/
namespace DirtyDataOlap.Analytical.AnalyticalCompilerService

open List

variable {compiler : AnalyticalCompilerService}

variable {row : AnalyticalInputRow} {scope scope' : LoadScope} {ctx : FactContext}
  {dimension : DimensionSpec} {fact : FactSpec} {foreignKey : FactForeignKeySpec}
  {facts : List FactSpec} {sql : GeneratedSQL} {specs : SpecPackage} {compiled : List CompiledFact}

theorem dimensionById_eq_ok {dimensions : List DimensionSpec} {dimensionId : String}
    (h : dimensionById dimensions dimensionId = .ok dimension) :
    dimension ∈ dimensions ∧ dimension.dimensionId = dimensionId := by
  unfold dimensionById lookupKey at h
  split at h
  · rename_i value hvalue
    obtain ⟨d, hd, hid, hval⟩ := getItem_map_eq_some hvalue
    cases h
    exact ⟨hval ▸ hd, hval ▸ hid⟩
  · cases h

/-! ## Foreign keys -/

theorem missingKey_cases {reference : Option String} {lookup : Option RefKeys}
    {resolution : Resolution}
    (h : missingKey ctx row foreignKey dimension reference lookup = .ok resolution) :
    (dimension.unknownMemberPolicy.policy = .quarantineFact ∧
      resolution = .quarantined (missingReference ctx.fact row dimension reference)) ∨
    (dimension.unknownMemberPolicy.policy = .nullableFk ∧ foreignKey.required = false ∧
      resolution = .key none []) ∨
    (dimension.unknownMemberPolicy.policy = .explicitUnknownMember ∧ ∃ keys unknown,
      lookup = some keys ∧ getItem keys (unknownReference dimension.dimensionId) = some unknown ∧
      resolution = .key (some unknown) [unknownPolicyRef dimension.dimensionId]) := by
  unfold missingKey at h
  split at h
  · rename_i hp
    exact .inl ⟨hp, (Except.ok.inj h).symm⟩
  · rename_i hp
    split at h
    · cases h
    · rename_i hr
      exact .inr (.inl ⟨hp, by simpa using hr, (Except.ok.inj h).symm⟩)
  · rename_i hp
    split at h
    · cases h
    · rename_i keys
      split at h
      · cases h
      · rename_i unknown hu
        exact .inr (.inr ⟨hp, keys, unknown, rfl, hu, (Except.ok.inj h).symm⟩)

def LoadScope.meet (scope : LoadScope) (dimensionId : String) (current : Option Date) : LoadScope :=
  { scope with
    dateValues := scope.dateValues ++ (current.map fun d => (dimensionId, d)).toList }

/-- A foreign key is the key of the day, or looked up among the members; what is missing goes to the
policy. -/
theorem resolveForeignKey_cases {resolution : Resolution}
    (h : compiler.resolveForeignKey ctx row foreignKey scope = .ok (scope', resolution)) :
    ∃ value dimension, referenceValue row foreignKey = .ok value ∧
      dimensionById ctx.dimensions foreignKey.dimensionId = .ok dimension ∧
      ((dimension.role = .date ∧ ∃ current, coerceDate value = .ok current ∧
          scope' = scope.meet dimension.dimensionId current ∧
          ((∃ d, current = some d ∧ resolution = .key (some (compiler.deterministicWarehouseKey
              dimension.surrogateKey.namespace_ d.isoformat)) []) ∨ (current = none ∧
              missingKey ctx row foreignKey dimension none scope.lookup = .ok resolution))) ∨
        (dimension.role ≠ .date ∧ scope' = { scope with
            lookup := some (keysByDimension ctx.materialized foreignKey.dimensionId) } ∧
          ((∃ k, (compiler.memberReference value).bind
                (getItem (keysByDimension ctx.materialized foreignKey.dimensionId)) = some k ∧
              resolution = .key (some k) []) ∨ ((compiler.memberReference value).bind
                (getItem (keysByDimension ctx.materialized foreignKey.dimensionId)) = none ∧
              missingKey ctx row foreignKey dimension (compiler.memberReference value)
                (some (keysByDimension ctx.materialized foreignKey.dimensionId)) =
                  .ok resolution)))) := by
  obtain ⟨value, hvalue, h⟩ := bind_eq_ok.1 h
  obtain ⟨dimension, hdimension, h⟩ := bind_eq_ok.1 h
  refine ⟨value, dimension, hvalue, hdimension, ?_⟩
  split at h
  · rename_i hdate
    obtain ⟨current, hcurrent, h⟩ := bind_eq_ok.1 h
    refine .inl ⟨hdate, current, hcurrent, ?_⟩
    cases current with
    | some d =>
      cases h
      exact ⟨rfl, .inl ⟨d, rfl, rfl⟩⟩
    | none =>
      obtain ⟨res, hres, h⟩ := bind_eq_ok.1 h
      cases h
      exact ⟨rfl, .inr ⟨rfl, hres⟩⟩
  · rename_i hdate
    refine .inr ⟨hdate, ?_⟩
    simp only at h
    split at h
    · rename_i k hk
      cases h
      exact ⟨rfl, .inl ⟨k, hk, rfl⟩⟩
    · rename_i hk
      obtain ⟨res, hres, h⟩ := bind_eq_ok.1 h
      cases h
      exact ⟨rfl, .inr ⟨hk, hres⟩⟩

/-- The row is quarantined here, or by a later key, or this key comes before the later ones. -/
theorem resolveForeignKeys_cons {foreignKeys : List FactForeignKeySpec} {resolution : RowResolution}
    (h : compiler.resolveForeignKeys ctx row (foreignKey :: foreignKeys) scope =
      .ok (scope', resolution)) : (∃ record, compiler.resolveForeignKey ctx row foreignKey scope =
        .ok (scope', .quarantined record) ∧ resolution = .quarantined record) ∨
    (∃ middle value refs rest, compiler.resolveForeignKey ctx row foreignKey scope =
        .ok (middle, .key value refs) ∧
      compiler.resolveForeignKeys ctx row foreignKeys middle = .ok (scope', rest) ∧
      ((∃ record, rest = .quarantined record ∧ resolution = .quarantined record) ∨
        ∃ keys policyRefs, rest = .resolved keys policyRefs ∧
          resolution = .resolved (value :: keys) (refs ++ policyRefs))) := by
  obtain ⟨⟨middle, first⟩, hfirst, h⟩ := bind_eq_ok.1 h
  simp only at h
  cases first with
  | quarantined record =>
    cases h
    exact .inl ⟨record, hfirst, rfl⟩
  | key value refs =>
    obtain ⟨⟨last, rest⟩, hrest, h⟩ := bind_eq_ok.1 h
    simp only at h
    refine .inr ⟨middle, value, refs, rest, hfirst, ?_⟩
    cases rest with
    | quarantined record =>
      cases h
      exact ⟨hrest, .inl ⟨record, rfl, rfl⟩⟩
    | resolved keys policyRefs =>
      cases h
      exact ⟨hrest, .inr ⟨keys, policyRefs, rfl, rfl⟩⟩

theorem grainValues_eq_ok {grain : GrainSpec} {key : List AnalyticalValue}
    (h : grainValues grain row = .ok key) : grain.keyColumns.mapM row.valueFor = .ok key := by
  rw [mapM_eq_ok]
  refine Forall₂.imp ?_ (mapM_eq_ok.1 h)
  intro column value hvalue
  split at hvalue
  · rename_i v hv
    rw [hv, Except.ok.inj hvalue]
  · cases hvalue

/-- A row is quarantined for a null in its grain or by a foreign key; else it is loaded, unless
another column takes the name of the lineage column. -/
theorem compileRow_cases {outcome : RowOutcome}
    (h : compiler.compileRow ctx scope row = .ok (scope', outcome)) :
    ∃ key, grainValues ctx.grain row = .ok key ∧
      ((.none ∈ key ∧ scope' = scope ∧ outcome = .quarantined (nullGrainKey ctx.fact row)) ∨
        (.none ∉ key ∧
          ((∃ record, compiler.resolveForeignKeys ctx row ctx.fact.dimensionForeignKeys scope =
              .ok (scope', .quarantined record) ∧ outcome = .quarantined record) ∨
            ∃ keys policyRefs degenerate measures,
              compiler.resolveForeignKeys ctx row ctx.fact.dimensionForeignKeys scope =
                .ok (scope', .resolved keys policyRefs) ∧
              (degenerateColumns ctx.fact ctx.grain).mapM row.valueFor = .ok degenerate ∧
              ctx.measures.mapM (measureValue row) = .ok measures ∧
              (("source_record_refs" ∈ ctx.targetNames ∧ outcome = .dropped) ∨
                ("source_record_refs" ∉ ctx.targetNames ∧ outcome = .loaded
                  (key ++ [.str row.canonicalReference] ++ keys.map keyValue ++ degenerate ++
                    measures ++ [.strings (row.sourceRecordRefs ++ policyRefs)])))))) := by
  obtain ⟨key, hkey, h⟩ := bind_eq_ok.1 h
  refine ⟨key, hkey, ?_⟩
  split at h
  · rename_i hnull
    split at h
    · cases h
    · cases h
      exact .inl ⟨hnull, rfl, rfl⟩
  · rename_i hnull
    refine .inr ⟨hnull, ?_⟩
    obtain ⟨⟨last, resolution⟩, hres, h⟩ := bind_eq_ok.1 h
    simp only at h
    cases resolution with
    | quarantined record =>
      cases h
      exact .inl ⟨record, hres, rfl⟩
    | resolved keys policyRefs =>
      obtain ⟨degenerate, hdeg, h⟩ := bind_eq_ok.1 h
      obtain ⟨measures, hmeas, h⟩ := bind_eq_ok.1 h
      refine .inr ⟨keys, policyRefs, degenerate, measures, ?_⟩
      split at h
      · rename_i hname
        cases h
        exact ⟨hres, hdeg, hmeas, .inl ⟨hname, rfl⟩⟩
      · rename_i hname
        cases h
        exact ⟨hres, hdeg, hmeas, .inr ⟨hname, rfl⟩⟩

theorem compileRows_cons {rows : List AnalyticalInputRow} {outcomes : List RowOutcome}
    (h : compiler.compileRows ctx (row :: rows) scope = .ok (scope', outcomes)) :
    ∃ middle outcome rest, compiler.compileRow ctx scope row = .ok (middle, outcome) ∧
      compiler.compileRows ctx rows middle = .ok (scope', rest) ∧ outcomes = outcome :: rest := by
  obtain ⟨⟨middle, outcome⟩, hrow, h⟩ := bind_eq_ok.1 h
  obtain ⟨⟨last, rest⟩, hrest, h⟩ := bind_eq_ok.1 h
  cases h
  exact ⟨middle, outcome, rest, hrow, hrest, rfl⟩

/-! ## Facts -/

/-- The columns of a fact table, before the lineage column. -/
def targetColumns (fact : FactSpec) (grain : GrainSpec) (measures : List MeasureSpec) :
    List String :=
  grain.keyColumns ++ ["canonical_event_id"] ++ fact.dimensionForeignKeys.map (·.factColumn) ++
    degenerateColumns fact grain ++ measures.map (·.fieldName)

theorem addColumns_eq_ok {α : Type} {duplicate : String} {name : α → String}
    {definition : α → Except Raised String} {xs : List α} {names names' : List String}
    {columns : List ColumnDef}
    (h : addColumns duplicate name definition xs names = .ok (columns, names')) :
    columns.map ColumnDef.name = xs.map name ∧ names' = names ++ xs.map name ∧
      (xs.map name).Nodup ∧ ∀ x ∈ xs, name x ∉ names := by
  induction xs generalizing names columns with
  | nil =>
    cases h
    simp
  | cons x xs ih =>
    unfold addColumns at h
    split at h
    · cases h
    · rename_i hnew
      obtain ⟨text, -, h⟩ := bind_eq_ok.1 h
      obtain ⟨⟨rest, last⟩, hrest, h⟩ := bind_eq_ok.1 h
      cases h
      obtain ⟨hcols, hnames, hnodup, hdisjoint⟩ := ih hrest
      refine ⟨by simp [hcols], by simp [hnames], ?_, ?_⟩
      · rw [map_cons, nodup_cons]
        refine ⟨?_, hnodup⟩
        intro hmem
        obtain ⟨y, hy, he⟩ := mem_map.1 hmem
        exact hdisjoint y hy (by simp [he])
      · intro y hy
        rcases mem_cons.1 hy with rfl | hy
        · exact hnew
        · exact fun hmem => hdisjoint y hy (by simp [hmem])

theorem factColumns_eq_ok {grain : GrainSpec} {measures : List MeasureSpec}
    {dimensions : List DimensionSpec} {table : AnalyticalInputTable} {columns : List ColumnDef}
    {names : List String}
    (h : factColumns fact grain measures dimensions table = .ok (columns, names)) :
    columns.map ColumnDef.name = targetColumns fact grain measures ∧
      names = targetColumns fact grain measures := by
  unfold factColumns at h
  simp only at h
  obtain ⟨keys, hkeys, h⟩ := bind_eq_ok.1 h
  obtain ⟨⟨foreignKeys, names1⟩, hforeign, h⟩ := bind_eq_ok.1 h
  obtain ⟨⟨degenerate, names2⟩, hdegenerate, h⟩ := bind_eq_ok.1 h
  obtain ⟨⟨measured, names3⟩, hmeasured, h⟩ := bind_eq_ok.1 h
  cases h
  have hkeynames : keys.map ColumnDef.name = grain.keyColumns := by
    have := map_eq_of_forall₂ (mapM_eq_ok.1 hkeys) id ColumnDef.name ?_
    · simpa using this
    · intro column def_ hdef
      obtain ⟨text, -, hdef⟩ := bind_eq_ok.1 hdef
      cases hdef
      rfl
  obtain ⟨hf, rfl, -, -⟩ := addColumns_eq_ok hforeign
  obtain ⟨hd, rfl, -, -⟩ := addColumns_eq_ok hdegenerate
  obtain ⟨hm, rfl, -, -⟩ := addColumns_eq_ok hmeasured
  constructor
  · simp [targetColumns, hkeynames, hf, hd, hm]
  · simp [targetColumns]

variable (compiler) in
/-- What a compiled fact was compiled from, and the scopes around its rows. -/
structure CompiledFrom (dimensions : List DimensionSpec) (grains : List GrainSpec)
    (measures : List MeasureSpec) (dataset : AnalyticalInputDataset)
    (materialized : List MaterializedDimension) (fact : FactSpec) (compiled : CompiledFact)
    (scope scope' : LoadScope) : Prop where
  fact_eq : compiled.context.fact = fact
  dimensions_eq : compiled.context.dimensions = dimensions
  materialized_eq : compiled.context.materialized = materialized
  grain_eq : grainById grains fact.grainSpecId = .ok compiled.context.grain
  measures_eq : fact.measureIds.mapM (measureById measures) = .ok compiled.context.measures
  targetNames_eq : compiled.context.targetNames =
    targetColumns fact compiled.context.grain compiled.context.measures
  columns_eq : compiled.table.columns.map ColumnDef.name =
    targetColumns fact compiled.context.grain compiled.context.measures ++
      (lineageColumn (targetColumns fact compiled.context.grain
        compiled.context.measures)).map ColumnDef.name
  tableName_eq : compiled.table.tableName = fact.tableName
  rows_eq : ∃ table, dataset.table fact.inputTableId = .ok table ∧
    compiler.compileRows compiled.context (sortedBy AnalyticalInputRow.rowRef table.rows) scope =
      .ok (scope', compiled.outcomes)

variable {dimensions : List DimensionSpec} {grains : List GrainSpec} {measures : List MeasureSpec}
  {dataset : AnalyticalInputDataset} {materialized : List MaterializedDimension}

theorem compileFact_eq_ok {compiled : CompiledFact}
    (h : compiler.compileFact dimensions grains measures dataset materialized fact scope =
      .ok (scope', compiled)) :
    CompiledFrom compiler dimensions grains measures dataset materialized fact compiled scope
      scope' := by
  obtain ⟨table, htable, h⟩ := bind_eq_ok.1 h
  obtain ⟨grain, hgrain, h⟩ := bind_eq_ok.1 h
  obtain ⟨factMeasures, hmeasures, h⟩ := bind_eq_ok.1 h
  obtain ⟨⟨columns, names⟩, hcolumns, h⟩ := bind_eq_ok.1 h
  obtain ⟨⟨last, outcomes⟩, hrows, h⟩ := bind_eq_ok.1 h
  cases h
  obtain ⟨hnames, rfl⟩ := factColumns_eq_ok hcolumns
  exact {
    fact_eq := rfl
    dimensions_eq := rfl
    materialized_eq := rfl
    grain_eq := hgrain
    measures_eq := hmeasures
    targetNames_eq := rfl
    columns_eq := by simp [hnames]
    tableName_eq := rfl
    rows_eq := ⟨table, htable, hrows⟩ }

theorem compileFacts_cons
    (h : compiler.compileFacts dimensions grains measures dataset materialized (fact :: facts) scope =
      .ok (scope', compiled)) : ∃ middle first rest,
      CompiledFrom compiler dimensions grains measures dataset materialized fact first scope middle ∧
      compiler.compileFacts dimensions grains measures dataset materialized facts middle =
        .ok (scope', rest) ∧ compiled = first :: rest := by
  obtain ⟨⟨middle, first⟩, hfirst, h⟩ := bind_eq_ok.1 h
  obtain ⟨⟨last, rest⟩, hrest, h⟩ := bind_eq_ok.1 h
  cases h
  exact ⟨middle, first, rest, compileFact_eq_ok hfirst, hrest, rfl⟩

theorem compileFacts_forall₂
    (h : compiler.compileFacts dimensions grains measures dataset materialized facts scope =
      .ok (scope', compiled)) : Forall₂ (fun fact c => ∃ s s',
      CompiledFrom compiler dimensions grains measures dataset materialized fact c s s')
      facts compiled := by
  induction facts generalizing scope compiled with
  | nil =>
    cases h
    exact .nil
  | cons fact facts ih =>
    obtain ⟨middle, first, rest, hfirst, hrest, rfl⟩ := compileFacts_cons h
    exact .cons ⟨_, _, hfirst⟩ (ih hrest)

variable (compiler dimensions) in
/-- The parts of a successful generation. -/
structure Generated (facts : List FactSpec) (grains : List GrainSpec) (measures : List MeasureSpec)
    (dataset : AnalyticalInputDataset) (sql : GeneratedSQL) where
  materialized : List MaterializedDimension
  scope : LoadScope
  compiled : List CompiledFact
  tables : List TableDef
  materialized_eq : compiler.dimensionRows dimensions dataset = .ok materialized
  tables_eq : (sortedBy DimensionSpec.tableName dimensions).mapM dimensionTable = .ok tables
  facts_eq : compiler.compileFacts dimensions grains measures dataset materialized
    (sortedBy FactSpec.tableName facts) ⟨[], none⟩ = .ok (scope, compiled)
  createSchema_eq : sql.createSchema = tables ++ compiled.map CompiledFact.table
  loadDate_eq : (sortedBy DimensionSpec.tableName
    (dimensions.filter fun dimension => dimension.role = .date)).mapM
      (compiler.loadDates scope.dateValues) = .ok sql.loadDate
  loadDimensions_eq : sql.loadDimensions = ((sortedBy DimensionSpec.tableName dimensions).filter
    fun dimension => dimension.role ≠ .date).map fun dimension =>
      ⟨dimension, rowsByTable materialized dimension.tableName⟩
  loadFacts_eq : sql.loadFacts = compiled.map fun c =>
    ⟨c.context.fact, c.outcomes.filterMap RowOutcome.loadedRow⟩
  quarantine_eq : sql.quarantineRecords = compiled.flatMap fun c =>
    c.outcomes.filterMap RowOutcome.record
  scripts_given : blankScripts sql = []

theorem checkGenerated_eq_ok {sql' : GeneratedSQL} :
    checkGenerated sql = .ok sql' ↔ blankScripts sql = [] ∧ sql = sql' := by
  unfold checkGenerated
  split
  · rename_i h
    simp [h]
  · rename_i h
    simp [h]

theorem generateSql_eq_ok
    (h : compiler.generateSql dimensions facts grains measures dataset = .ok sql) :
    Nonempty (Generated compiler dimensions facts grains measures dataset sql) := by
  obtain ⟨materialized, hmaterialized, h⟩ := bind_eq_ok.1 h
  obtain ⟨tables, htables, h⟩ := bind_eq_ok.1 h
  obtain ⟨⟨scope, compiled⟩, hfacts, h⟩ := bind_eq_ok.1 h
  obtain ⟨loadDate, hdate, h⟩ := bind_eq_ok.1 h
  obtain ⟨hgiven, rfl⟩ := checkGenerated_eq_ok.1 h
  exact ⟨{
    materialized := materialized
    scope := scope
    compiled := compiled
    tables := tables
    materialized_eq := hmaterialized
    tables_eq := htables
    facts_eq := hfacts
    createSchema_eq := rfl
    loadDate_eq := hdate
    loadDimensions_eq := rfl
    loadFacts_eq := rfl
    quarantine_eq := rfl
    scripts_given := hgiven }⟩

theorem raiseIf_eq_ok {condition : Prop} [Decidable condition] {message : String} {u : Unit} :
    raiseIf condition message = .ok u ↔ ¬ condition := by
  unfold raiseIf
  split <;> rename_i hc <;> simp [hc]

/-- What the checks of the plan establish about the specifications. -/
structure SpecPackage.Checked (specs : SpecPackage) : Prop where
  dimensionIds : (specs.dimensions.map DimensionSpec.dimensionId).Nodup
  factIds : (specs.facts.map FactSpec.factId).Nodup
  grainIds : (specs.grains.map GrainSpec.grainId).Nodup
  measureIds : (specs.measures.map MeasureSpec.measureId).Nodup
  optionalKeys : ∀ fact ∈ specs.facts, ∀ foreignKey ∈ fact.dimensionForeignKeys,
    ∃ dimension ∈ specs.dimensions, dimension.dimensionId = foreignKey.dimensionId ∧
      (foreignKey.required = false → dimension.unknownMemberPolicy.policy = .nullableFk)

theorem checkFact_eq_ok (h : checkFact specs fact = .ok ()) :
    ∀ foreignKey ∈ fact.dimensionForeignKeys, ∃ dimension ∈ specs.dimensions,
      dimension.dimensionId = foreignKey.dimensionId ∧
        (foreignKey.required = false → dimension.unknownMemberPolicy.policy = .nullableFk) := by
  obtain ⟨_, -, h⟩ := bind_eq_ok.1 h
  obtain ⟨_, -, h⟩ := bind_eq_ok.1 h
  intro foreignKey hmem
  have hkey := forM_eq_ok.1 h foreignKey hmem
  split at hkey
  · cases hkey
  · rename_i dimension hdimension
    obtain ⟨d, hd, hid, rfl⟩ := getItem_map_eq_some hdimension
    refine ⟨d, hd, hid, ?_⟩
    intro hrequired
    by_contra hpolicy
    exact raiseIf_eq_ok.1 hkey ⟨hrequired, hpolicy⟩

theorem validatePlanAndReview_eq_ok {request : CompileRequest}
    (h : compiler.validatePlanAndReview request specs = .ok ()) : specs.Checked := by
  unfold validatePlanAndReview at h
  simp only [bind_eq_ok] at h
  obtain ⟨_, -, _, -, _, -, _, -, _, -, _, -, _, -, _, htables, _, hchildren, hfacts⟩ := h
  rw [raiseIf_eq_ok, not_not] at htables hchildren
  simp only [actualHashes, map_map] at htables hchildren
  exact {
    dimensionIds := htables.1
    factIds := htables.2
    grainIds := hchildren.1
    measureIds := hchildren.2
    optionalKeys := fun fact hfact => checkFact_eq_ok (forM_eq_ok.1 hfacts fact hfact) }

theorem compile_eq_ok {request : CompileRequest} {plan : CompiledPlan}
    (h : compiler.compile request specs = .ok (plan, sql)) :
    specs.Checked ∧ compiler.generateSql specs.dimensions specs.facts specs.grains specs.measures
        request.dataset = .ok sql ∧
      plan.dimensionSpecs = specs.dimensions ∧ plan.factSpecs = specs.facts ∧
      plan.grainSpecs = specs.grains ∧ plan.measureSpecs = specs.measures := by
  obtain ⟨_, hplan, h⟩ := bind_eq_ok.1 h
  obtain ⟨_, -, h⟩ := bind_eq_ok.1 h
  obtain ⟨sql', hsql, h⟩ := bind_eq_ok.1 h
  cases h
  exact ⟨validatePlanAndReview_eq_ok hplan, hsql, rfl, rfl, rfl, rfl⟩

/-! ## Dimension rows -/

def keyCell (row : List AnalyticalValue) : Option AnalyticalValue := row[0]?

def referenceCell (row : List AnalyticalValue) : Option AnalyticalValue := row[1]?

variable (compiler dimension) in
/-- The rows of a dimension hold the references `refs`, each under the key of its digest. -/
structure HoldsMembers (inputs : List AnalyticalInputRow) (refs : List String)
    (rows : DimensionRows) : Prop where
  references : Forall₂ (fun row ref => compiler.rowReference row dimension = .ok ref) inputs refs
  refs_nodup : refs.Nodup
  refKeys_eq : rows.refKeys = refs.map fun ref =>
    (ref, compiler.deterministicWarehouseKey dimension.surrogateKey.namespace_ ref)
  keys_nodup : (rows.refKeys.map Prod.snd).Nodup
  keyCells : rows.output.map keyCell = rows.refKeys.map fun item => some (.int item.2)
  referenceCells : rows.output.map referenceCell = rows.refKeys.map fun item => some (.str item.1)

theorem addMember_holds {inputs : List AnalyticalInputRow} {refs : List String}
    {rows rows' : DimensionRows} (hrows : HoldsMembers compiler dimension inputs refs rows)
    (h : compiler.addMember dimension rows row = .ok rows') :
    ∃ ref, HoldsMembers compiler dimension (inputs ++ [row]) (refs ++ [ref]) rows' := by
  obtain ⟨ref, href, h⟩ := bind_eq_ok.1 h
  obtain ⟨_, hnew, h⟩ := bind_eq_ok.1 h
  obtain ⟨_, hkey, h⟩ := bind_eq_ok.1 h
  obtain ⟨values, -, h⟩ := bind_eq_ok.1 h
  cases h
  rw [raiseIf_eq_ok] at hnew hkey
  have hrefs : rows.refKeys.map Prod.fst = refs := by
    rw [hrows.refKeys_eq, map_map]
    exact map_id' refs
  refine ⟨ref, ?_⟩
  exact {
    references := rel_append hrows.references (.cons href .nil)
    refs_nodup := by
      rw [hrefs] at hnew
      exact nodup_append.2 ⟨hrows.refs_nodup, by simp, by
        intro a ha b hb he
        rw [mem_singleton] at hb
        apply hnew
        rwa [he, hb] at ha⟩
    refKeys_eq := by rw [hrows.refKeys_eq, map_append]; rfl
    keys_nodup := by
      rw [map_append]
      refine nodup_append.2 ⟨hrows.keys_nodup, by simp, ?_⟩
      intro a ha b hb he
      rw [map_singleton, mem_singleton] at hb
      apply hkey
      rwa [he, hb] at ha
    keyCells := by simp [hrows.keyCells, keyCell]
    referenceCells := by simp [hrows.referenceCells, referenceCell] }

variable (compiler dataset) in
/-- The rows of a materialized dimension: its members, then the unknown member if the policy asks
for one. -/
structure Materializes (dimension : DimensionSpec) (inputs : List AnalyticalInputRow)
    (refs : List String) (members : DimensionRows) (m : MaterializedDimension) : Prop where
  dimension_eq : m.dimension = dimension
  inputs_eq : ∃ table, inputTable dataset dimension = .ok table ∧
    inputs = sortedBy AnalyticalInputRow.canonicalReference table.rows
  members_hold : HoldsMembers compiler dimension inputs refs members
  rows_eq : (dimension.unknownMemberPolicy.policy ≠ .explicitUnknownMember ∧ m.rows = members) ∨
    ∃ unknownKey values, dimension.unknownMemberPolicy.policy = .explicitUnknownMember ∧
      unknownKey ∉ members.refKeys.map Prod.snd ∧
      m.rows.refKeys =
        setItem members.refKeys (unknownReference dimension.dimensionId) unknownKey ∧
      m.rows.output = members.output ++
        [.int unknownKey :: .str (unknownReference dimension.dimensionId) :: values]

theorem materializeDimension_eq_ok {m : MaterializedDimension}
    (h : compiler.materializeDimension dataset dimension = .ok m) :
    ∃ inputs refs members, Materializes compiler dataset dimension inputs refs members m := by
  obtain ⟨table, htable, h⟩ := bind_eq_ok.1 h
  obtain ⟨members, hmembers, h⟩ := bind_eq_ok.1 h
  obtain ⟨rows, hrows, h⟩ := bind_eq_ok.1 h
  cases h
  have hempty : ∃ refs, HoldsMembers compiler dimension [] refs ⟨[], []⟩ :=
    ⟨[], .nil, by simp, rfl, by simp, rfl, rfl⟩
  obtain ⟨refs, hrefs⟩ := foldlM_invariant
    (P := fun done rows => ∃ refs, HoldsMembers compiler dimension done refs rows)
    (fun _ _ _ _ ⟨refs, hP⟩ hstep => (addMember_holds hP hstep).imp' (refs ++ [·]) fun _ h => h)
    hempty hmembers
  refine ⟨_, refs, members, rfl, ⟨table, htable, rfl⟩, by simpa using hrefs, ?_⟩
  unfold addUnknownMember at hrows
  split at hrows
  · rename_i hpolicy
    split at hrows
    · cases hrows
    · split at hrows
      · cases hrows
      · rename_i unknownKey _ hfree
        obtain ⟨values, -, hrows⟩ := bind_eq_ok.1 hrows
        cases hrows
        exact .inr ⟨unknownKey, values, hpolicy, hfree, rfl, rfl⟩
  · rename_i hpolicy
    exact .inl ⟨hpolicy, (Except.ok.inj hrows).symm⟩

theorem dimensionRows_eq_ok (h : compiler.dimensionRows dimensions dataset = .ok materialized) :
    Forall₂ (fun dimension m => ∃ inputs refs members,
      Materializes compiler dataset dimension inputs refs members m)
      (dimensions.filter fun dimension => dimension.role ≠ .date) materialized :=
  (mapM_eq_ok.1 h).imp fun _ _ hm => materializeDimension_eq_ok hm

end DirtyDataOlap.Analytical.AnalyticalCompilerService

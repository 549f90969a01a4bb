import DirtyDataOlap.FactConservation

/-!
# Keys of the generated load

Within a dimension the surrogate keys and the references of the loaded rows should be distinct, and
a foreign key should be a key of its dimension.  What no pass checks is **a member that has the
reference of the unknown member, and two days of a date dimension whose digests agree in 63 bits**.
-/
namespace DirtyDataOlap.Analytical.AnalyticalCompilerService

open List

variable {compiler : AnalyticalCompilerService} {specs : SpecPackage}
  {dataset : AnalyticalInputDataset} {ctx : FactContext}

/-- Every key derived from a digest is a positive 64-bit integer. -/
theorem deterministicWarehouseKey_bounds (namespace_ ref : String) :
    1 ≤ compiler.deterministicWarehouseKey namespace_ ref ∧
      compiler.deterministicWarehouseKey namespace_ ref ≤ 2 ^ 63 - 1 := by
  unfold deterministicWarehouseKey
  have hlt := Nat.mod_lt (compiler.digestPrefix namespace_ ref).val (show 0 < 2 ^ 63 by decide)
  simp only
  split <;> omega

/-! ## The days of a date dimension -/

variable {dimension : DimensionSpec} {scope scope' : LoadScope} {row : AnalyticalInputRow}
  {item : String × Date} {sql : GeneratedSQL} {materialized : List MaterializedDimension}
  {inputs : List AnalyticalInputRow} {refs : List String} {members : DimensionRows}
  {m : MaterializedDimension} {dates : List Date} {x : Date} {foreignKey : FactForeignKeySpec}
  {foreignKeys : List FactForeignKeySpec} {resolution : RowResolution}
  {rows : List AnalyticalInputRow} {outcomes : List RowOutcome} {compiled : List CompiledFact}

theorem mem_dateRangeFrom {last : Date} {fuel : Nat} {current : Date}
    (h : dateRangeFrom last fuel current = .ok dates)
    (hfuel : last.ordinal + 1 ≤ current.ordinal + fuel) : x ∈ dates ↔ current ≤ x ∧ x ≤ last := by
  induction fuel generalizing current dates with
  | zero =>
    cases h
    constructor
    · simp
    · rintro ⟨h1, h2⟩
      have hle : current.ordinal ≤ last.ordinal := (h1.trans h2 : current ≤ last)
      omega
  | succ fuel ih =>
    unfold dateRangeFrom at h
    split at h
    · rename_i hle
      split at h
      · cases h
      · rename_i next hnext
        obtain ⟨rest, hrest, h⟩ := bind_eq_ok.1 h
        cases h
        have hord : next.ordinal = current.ordinal + 1 := by
          unfold Date.tomorrow Date.ofOrdinal at hnext
          split at hnext
          · cases hnext
            rfl
          · cases hnext
        rw [mem_cons, ih hrest (by omega)]
        constructor
        · rintro (rfl | ⟨h1, h2⟩)
          · exact ⟨le_refl _, hle⟩
          · have h1 : next.ordinal ≤ x.ordinal := h1
            exact ⟨show current.ordinal ≤ x.ordinal by omega, h2⟩
        · rintro ⟨h1, h2⟩
          have h1 : current.ordinal ≤ x.ordinal := h1
          by_cases he : x.ordinal = current.ordinal
          · exact .inl (Date.ordinal_injective he)
          · exact .inr ⟨show next.ordinal ≤ x.ordinal by omega, h2⟩
    · rename_i hle
      cases h
      constructor
      · simp
      · rintro ⟨h1, h2⟩
        exact absurd (h1.trans h2) hle

/-- The day is in the reviewed range of the dimension. -/
def InRange (dimension : DimensionSpec) (x : Date) : Prop :=
  ∃ first ∈ dimension.dateRangeStart, ∃ last ∈ dimension.dateRangeEnd, first ≤ x ∧ x ≤ last

theorem mem_reviewedRange (h : reviewedRange dimension = .ok dates) :
    x ∈ dates ↔ InRange dimension x := by
  unfold reviewedRange at h
  split at h
  · rename_i hstart
    cases h
    simp [InRange, hstart]
  · rename_i first hstart
    unfold dateRange at h
    split at h
    · cases h
    · rename_i last hlast
      rw [mem_dateRangeFrom h (by omega)]
      simp [InRange, hstart, hlast]

/-- The foreign key is of the date dimension with this id, and names the day. -/
def MeetsAt (dimensions : List DimensionSpec) (row : AnalyticalInputRow)
    (foreignKey : FactForeignKeySpec) (dimensionId : String) (x : Date) : Prop :=
  ∃ value dimension, referenceValue row foreignKey = .ok value ∧
    dimensionById dimensions foreignKey.dimensionId = .ok dimension ∧
    dimension.role = .date ∧ dimension.dimensionId = dimensionId ∧
    coerceDate value = .ok (some x)

variable (compiler specs dataset row foreignKeys) in
/-- A foreign key of the list meets the day, and none before it withholds the row. -/
def MeetsAmong (dimensionId : String) (x : Date) : Prop :=
  ∃ before foreignKey after, foreignKeys = before ++ foreignKey :: after ∧
    (∀ earlier ∈ before, ¬ Unresolved compiler specs dataset row earlier) ∧
    MeetsAt specs.dimensions row foreignKey dimensionId x

theorem LoadsFrom.dateValues_resolveForeignKey (hctx : LoadsFrom compiler specs dataset ctx)
    {resolution : Resolution}
    (h : compiler.resolveForeignKey ctx row foreignKey scope = .ok (scope', resolution)) :
    item ∈ scope'.dateValues ↔
      item ∈ scope.dateValues ∨ MeetsAt specs.dimensions row foreignKey item.1 item.2 := by
  obtain ⟨value, dimension, hvalue, hdimension, hcases⟩ := resolveForeignKey_cases h
  rw [hctx.dimensions_eq] at hdimension
  have hmeets : MeetsAt specs.dimensions row foreignKey item.1 item.2 ↔
      dimension.role = .date ∧ dimension.dimensionId = item.1 ∧
        coerceDate value = .ok (some item.2) := by
    constructor
    · rintro ⟨value', dimension', hvalue', hdimension', hrest⟩
      cases hvalue.symm.trans hvalue'
      cases hdimension.symm.trans hdimension'
      exact hrest
    · exact fun hrest => ⟨value, dimension, hvalue, hdimension, hrest⟩
  rw [hmeets]
  rcases hcases with ⟨hdate, current, hcurrent, rfl, -⟩ | ⟨hdate, rfl, -⟩
  · rw [LoadScope.meet, mem_append, hcurrent]
    obtain ⟨i, x⟩ := item
    cases current with
    | none => simp
    | some d => simp [hdate, Prod.ext_iff, eq_comm]
  · simp [hdate]

theorem LoadsFrom.dateValues_resolveForeignKeys (hctx : LoadsFrom compiler specs dataset ctx)
    (h : compiler.resolveForeignKeys ctx row foreignKeys scope = .ok (scope', resolution)) :
    item ∈ scope'.dateValues ↔ item ∈ scope.dateValues ∨
      MeetsAmong compiler specs dataset row foreignKeys item.1 item.2 := by
  induction foreignKeys generalizing scope resolution with
  | nil =>
    cases h
    simp [MeetsAmong]
  | cons foreignKey foreignKeys ih =>
    rcases resolveForeignKeys_cons h with ⟨record, hfirst, -⟩ |
      ⟨middle, value, refs, rest, hfirst, hrest, -⟩
    · -- The loop stops here: the days of later foreign keys are not met.
      have hunresolved : Unresolved compiler specs dataset row foreignKey := by
        rcases hctx.resolveForeignKey_quarantines hfirst with ⟨hu, -⟩ | ⟨-, k, refs, he⟩
        · exact hu
        · cases he
      rw [hctx.dateValues_resolveForeignKey hfirst]
      refine or_congr_right ⟨fun hm => ⟨[], foreignKey, foreignKeys, rfl, by simp, hm⟩, ?_⟩
      rintro ⟨before, fk, after, heq, hbefore, hm⟩
      cases before with
      | nil =>
        cases heq
        exact hm
      | cons earlier before =>
        cases heq
        exact absurd hunresolved (hbefore foreignKey (by simp))
    · have hresolved : ¬ Unresolved compiler specs dataset row foreignKey := by
        rcases hctx.resolveForeignKey_quarantines hfirst with ⟨-, d, ref, he⟩ | ⟨hu, -⟩
        · cases he
        · exact hu
      rw [ih hrest, hctx.dateValues_resolveForeignKey hfirst, or_assoc]
      refine or_congr_right ⟨?_, ?_⟩
      · rintro (hm | ⟨before, fk, after, rfl, hbefore, hm⟩)
        · exact ⟨[], foreignKey, foreignKeys, rfl, by simp, hm⟩
        · refine ⟨foreignKey :: before, fk, after, rfl, ?_, hm⟩
          intro earlier hearlier
          rcases mem_cons.1 hearlier with rfl | hearlier
          · exact hresolved
          · exact hbefore earlier hearlier
      · rintro ⟨before, fk, after, heq, hbefore, hm⟩
        cases before with
        | nil =>
          cases heq
          exact .inl hm
        | cons earlier before =>
          cases heq
          exact .inr ⟨before, fk, after, rfl, fun e he => hbefore e (by simp [he]), hm⟩

variable (compiler specs dataset) in
def RowMeets (fact : FactSpec) (grain : GrainSpec) (dimensionId : String) (x : Date)
    (row : AnalyticalInputRow) : Prop :=
  (∀ column ∈ grain.keyColumns, row.valueFor column ≠ .ok .none) ∧
    MeetsAmong compiler specs dataset row fact.dimensionForeignKeys dimensionId x

theorem LoadsFrom.dateValues_compileRow (hctx : LoadsFrom compiler specs dataset ctx)
    {outcome : RowOutcome} (h : compiler.compileRow ctx scope row = .ok (scope', outcome)) :
    item ∈ scope'.dateValues ↔ item ∈ scope.dateValues ∨
      RowMeets compiler specs dataset ctx.fact ctx.grain item.1 item.2 row := by
  obtain ⟨key, hkey, hcases⟩ := compileRow_cases h
  have hnull := none_mem_grainValues hkey
  rcases hcases with ⟨hmem, rfl, -⟩ | ⟨hmem, hcases⟩
  · obtain ⟨column, hcolumn, hvalue⟩ := hnull.1 hmem
    simp only [iff_self_or]
    rintro ⟨hfull, -⟩
    exact absurd hvalue (hfull column hcolumn)
  · have hfull : ∀ column ∈ ctx.grain.keyColumns, row.valueFor column ≠ .ok .none :=
      fun column hcolumn hvalue => hmem (hnull.2 ⟨column, hcolumn, hvalue⟩)
    have hscope : ∃ resolution, compiler.resolveForeignKeys ctx row ctx.fact.dimensionForeignKeys
        scope = .ok (scope', resolution) := by
      rcases hcases with ⟨record, hres, -⟩ | ⟨keys, refs, -, -, hres, -⟩
      · exact ⟨_, hres⟩
      · exact ⟨_, hres⟩
    obtain ⟨resolution, hres⟩ := hscope
    rw [hctx.dateValues_resolveForeignKeys hres]
    exact or_congr_right ⟨fun hm => ⟨hfull, hm⟩, And.right⟩

theorem LoadsFrom.dateValues_compileRows (hctx : LoadsFrom compiler specs dataset ctx)
    (h : compiler.compileRows ctx rows scope = .ok (scope', outcomes)) :
    item ∈ scope'.dateValues ↔ item ∈ scope.dateValues ∨
      ∃ row ∈ rows, RowMeets compiler specs dataset ctx.fact ctx.grain item.1 item.2 row := by
  induction rows generalizing scope outcomes with
  | nil =>
    cases h
    simp
  | cons row rows ih =>
    obtain ⟨middle, outcome, rest, hrow, hrest, -⟩ := compileRows_cons h
    rw [ih hrest, hctx.dateValues_compileRow hrow, or_assoc]
    simp

variable (compiler specs dataset) in
/-- The day is met by a row of a fact, in the order in which its foreign keys are read. -/
def Met (facts : List FactSpec) (dimensionId : String) (x : Date) : Prop :=
  ∃ fact ∈ facts, ∃ table grain, dataset.table fact.inputTableId = .ok table ∧
    grainById specs.grains fact.grainSpecId = .ok grain ∧
    ∃ row ∈ table.rows, RowMeets compiler specs dataset fact grain dimensionId x row

theorem dateValues_compileFacts (hids : (specs.dimensions.map DimensionSpec.dimensionId).Nodup)
    (hm : compiler.dimensionRows specs.dimensions dataset = .ok materialized)
    {facts : List FactSpec}
    (h : compiler.compileFacts specs.dimensions specs.grains specs.measures dataset materialized
      facts scope = .ok (scope', compiled)) : item ∈ scope'.dateValues ↔ item ∈ scope.dateValues ∨
      Met compiler specs dataset facts item.1 item.2 := by
  induction facts generalizing scope compiled with
  | nil =>
    cases h
    simp [Met]
  | cons fact facts ih =>
    obtain ⟨middle, first, rest, hfirst, hrest, -⟩ := compileFacts_cons h
    obtain ⟨table, htable, hrows⟩ := hfirst.rows_eq
    have hctx : LoadsFrom compiler specs dataset first.context :=
      ⟨hfirst.dimensions_eq, hids, hfirst.materialized_eq ▸ hm⟩
    rw [ih hrest, hctx.dateValues_compileRows hrows, or_assoc, hfirst.fact_eq]
    refine or_congr_right ⟨?_, ?_⟩
    · rintro (⟨row, hrow, hmeets⟩ | ⟨f, hf, hmet⟩)
      · exact ⟨fact, by simp, table, first.context.grain, htable, hfirst.grain_eq, row,
          mem_sortedBy.1 hrow, hmeets⟩
      · exact ⟨f, by simp [hf], hmet⟩
    · rintro ⟨f, hf, table', grain, htable', hgrain, row, hrow, hmeets⟩
      rcases mem_cons.1 hf with rfl | hf
      · cases htable.symm.trans htable'
        cases hfirst.grain_eq.symm.trans hgrain
        exact .inl ⟨row, mem_sortedBy.2 hrow, hmeets⟩
      · exact .inr ⟨f, hf, table', grain, htable', hgrain, row, hrow, hmeets⟩

variable (compiler specs dataset dimension x) in
def HasDay : Prop :=
  Met compiler specs dataset specs.facts dimension.dimensionId x ∨ InRange dimension x

theorem mem_dimensionDates (hids : (specs.dimensions.map DimensionSpec.dimensionId).Nodup)
    (g : Generated compiler specs.dimensions specs.facts specs.grains specs.measures dataset sql)
    (h : dimensionDates g.scope.dateValues dimension = .ok dates) :
    x ∈ dates ↔ HasDay compiler specs dataset dimension x := by
  obtain ⟨range, hrange, h⟩ := bind_eq_ok.1 h
  cases h
  have hmet : x ∈ g.scope.dateValues.filterMap (fun item =>
      if item.1 = dimension.dimensionId then some item.2 else none) ↔
      (dimension.dimensionId, x) ∈ g.scope.dateValues := by
    rw [mem_filterMap]
    constructor
    · rintro ⟨⟨i, y⟩, hitem, he⟩
      split at he
      · rename_i hi
        cases he
        exact hi ▸ hitem
      · cases he
    · exact fun hitem => ⟨_, hitem, by simp⟩
  have hfacts : Met compiler specs dataset (sortedBy FactSpec.tableName specs.facts)
      dimension.dimensionId x ↔ Met compiler specs dataset specs.facts dimension.dimensionId x := by
    simp [Met]
  rw [mem_sortedSet, mem_append, hmet,
    dateValues_compileFacts hids g.materialized_eq g.facts_eq, mem_reviewedRange hrange, hfacts]
  simp [HasDay]

/-! ## The rows of a dimension -/

def loadedRows (sql : GeneratedSQL) (dimension : DimensionSpec) : List (List AnalyticalValue) :=
  (sql.loadDimensions ++ sql.loadDate).flatMap fun load =>
    if load.dimension.tableName = dimension.tableName then load.rows else []

theorem loadDates_eq_ok {dateValues : List (String × Date)} {load : DimensionLoad}
    (h : compiler.loadDates dateValues dimension = .ok load) :
    load.dimension = dimension ∧ ∃ dates, dimensionDates dateValues dimension = .ok dates ∧
      dates.mapM (compiler.dateRow dimension) = .ok load.rows := by
  obtain ⟨dates, hdates, h⟩ := bind_eq_ok.1 h
  obtain ⟨_, -, h⟩ := bind_eq_ok.1 h
  obtain ⟨rows, hrows, h⟩ := bind_eq_ok.1 h
  cases h
  exact ⟨rfl, dates, hdates, hrows⟩

section
variable
  (g : Generated compiler specs.dimensions specs.facts specs.grains specs.measures dataset sql)
include g

theorem Generated.blocks_perm :
    ((sql.loadDimensions ++ sql.loadDate).map DimensionLoad.dimension).Perm specs.dimensions := by
  have hdates : sql.loadDate.map DimensionLoad.dimension = sortedBy DimensionSpec.tableName
      (specs.dimensions.filter fun d => d.role = .date) := by
    have := map_eq_of_forall₂ (mapM_eq_ok.1 g.loadDate_eq) id DimensionLoad.dimension
      fun d load h => (loadDates_eq_ok h).1
    simpa using this
  have hmembers : sql.loadDimensions.map DimensionLoad.dimension =
      (sortedBy DimensionSpec.tableName specs.dimensions).filter fun d => d.role ≠ .date := by
    rw [g.loadDimensions_eq, map_map]
    exact map_id' _
  rw [map_append, hmembers, hdates]
  refine ((((sortedBy_perm _ _).filter _).append (sortedBy_perm _ _)).trans ?_)
  have hsplit := filter_append_perm (fun d : DimensionSpec => decide (d.role ≠ .date))
    specs.dimensions
  simpa using hsplit

theorem Generated.loadedRows_eq
    (htables : (specs.dimensions.map DimensionSpec.tableName).Nodup) {load : DimensionLoad}
    (hload : load ∈ sql.loadDimensions ++ sql.loadDate) :
    loadedRows sql load.dimension = load.rows := by
  have hnodup : ((sql.loadDimensions ++ sql.loadDate).map
      fun load => load.dimension.tableName).Nodup := by
    have hperm := g.blocks_perm.map DimensionSpec.tableName
    rw [map_map] at hperm
    exact hperm.nodup_iff.2 htables
  exact flatMap_block hnodup hload

theorem Generated.loadedRows_members
    (htables : (specs.dimensions.map DimensionSpec.tableName).Nodup)
    (hd : dimension ∈ specs.dimensions) (hrole : dimension.role ≠ .date) :
    ∃ m ∈ g.materialized, ∃ inputs refs members,
      Materializes compiler dataset dimension inputs refs members m ∧
      loadedRows sql dimension = m.rows.output := by
  obtain ⟨m, hm, inputs, refs, members, hmat, hrows⟩ :=
    getItem_materialized g.materialized_eq htables (·.rows.output) hd hrole
  refine ⟨m, hm, inputs, refs, members, hmat, ?_⟩
  have hload : (⟨dimension, rowsByTable g.materialized dimension.tableName⟩ : DimensionLoad) ∈
      sql.loadDimensions ++ sql.loadDate := by
    refine mem_append_left _ ?_
    rw [g.loadDimensions_eq]
    exact mem_map.2 ⟨dimension, by simp [hd, hrole], rfl⟩
  rw [g.loadedRows_eq htables hload, rowsByTable, hrows, Option.getD_some]

theorem Generated.loadedRows_days (htables : (specs.dimensions.map DimensionSpec.tableName).Nodup)
    (hd : dimension ∈ specs.dimensions) (hrole : dimension.role = .date) :
    ∃ dates, dimensionDates g.scope.dateValues dimension = .ok dates ∧
      dates.mapM (compiler.dateRow dimension) = .ok (loadedRows sql dimension) := by
  have hmem : dimension ∈ sortedBy DimensionSpec.tableName
      (specs.dimensions.filter fun d => d.role = .date) := by simp [hd, hrole]
  obtain ⟨load, hload, hdates⟩ := exists_right_of_forall₂ (mapM_eq_ok.1 g.loadDate_eq) hmem
  obtain ⟨rfl, dates, hok, hrows⟩ := loadDates_eq_ok hdates
  refine ⟨dates, hok, ?_⟩
  rw [g.loadedRows_eq htables (mem_append_right _ hload), hrows]

end

theorem dateRow_cells {current : Date} {row : List AnalyticalValue}
    (h : compiler.dateRow dimension current = .ok row) :
    keyCell row = some (.int (compiler.deterministicWarehouseKey dimension.surrogateKey.namespace_
      current.isoformat)) ∧ referenceCell row = some (.date current) := by
  obtain ⟨attributes, -, h⟩ := bind_eq_ok.1 h
  cases h
  exact ⟨rfl, rfl⟩

/-! ## Distinct keys and references -/

section
variable (h : Materializes compiler dataset dimension inputs refs members m)
include h

theorem Materializes.keyCells_nodup : (m.rows.output.map keyCell).Nodup := by
  have hinj : Function.Injective fun k : Int => some (AnalyticalValue.int k) := by
    intro a b hab
    simpa using hab
  have hmembers : (members.output.map keyCell).Nodup := by
    rw [h.members_hold.keyCells]
    have := h.members_hold.keys_nodup.map hinj
    rwa [map_map] at this
  rcases h.rows_eq with ⟨-, hrows⟩ | ⟨unknownKey, values, -, hfree, -, hout⟩
  · rw [hrows]
    exact hmembers
  · rw [hout, map_append, nodup_append]
    refine ⟨hmembers, by simp, ?_⟩
    intro a ha b hb hab
    rw [map_singleton, mem_singleton] at hb
    rw [h.members_hold.keyCells, mem_map] at ha
    obtain ⟨item, hitem, rfl⟩ := ha
    apply hfree
    have : item.2 = unknownKey := by simpa [hb, keyCell] using hab
    exact mem_map.2 ⟨item, hitem, this⟩

theorem Materializes.referenceCells_nodup_iff : (m.rows.output.map referenceCell).Nodup ↔
      (dimension.unknownMemberPolicy.policy = .explicitUnknownMember →
        ¬ IsMember compiler dataset dimension (unknownReference dimension.dimensionId)) := by
  have hinj : Function.Injective fun ref : String => some (AnalyticalValue.str ref) := by
    intro a b hab
    simpa using hab
  have hcells : members.output.map referenceCell =
      refs.map fun ref => some (AnalyticalValue.str ref) := by
    rw [h.members_hold.referenceCells, h.members_hold.refKeys_eq, map_map]
    rfl
  have hmembers : (members.output.map referenceCell).Nodup := by
    rw [hcells]
    exact h.members_hold.refs_nodup.map hinj
  rcases h.rows_eq with ⟨hpolicy, hrows⟩ | ⟨unknownKey, values, hpolicy, -, -, hout⟩
  · rw [hrows]
    simp [hmembers, hpolicy]
  · rw [hout, map_append, nodup_append, hcells, ← h.mem_refs_iff]
    simp only [hpolicy, forall_const]
    constructor
    · rintro ⟨-, -, hdisjoint⟩ hmem
      exact hdisjoint _ (mem_map.2 ⟨_, hmem, rfl⟩) _ (by simp [referenceCell]) rfl
    · intro hfree
      refine ⟨hcells ▸ hmembers, by simp, ?_⟩
      intro a ha b hb hab
      rw [map_singleton, mem_singleton] at hb
      obtain ⟨ref, href, rfl⟩ := mem_map.1 ha
      have : ref = unknownReference dimension.dimensionId := by
        simpa [hb, referenceCell] using hab
      exact hfree (this ▸ href)

theorem Materializes.key_loaded {item : String × Int} (hitem : item ∈ m.rows.refKeys) :
    some (.int item.2) ∈ m.rows.output.map keyCell := by
  have hmember : ∀ item ∈ members.refKeys, some (.int item.2) ∈ members.output.map keyCell := by
    intro item hitem
    rw [h.members_hold.keyCells]
    exact mem_map.2 ⟨item, hitem, rfl⟩
  rcases h.rows_eq with ⟨-, hrows⟩ | ⟨unknownKey, values, -, -, hkeys, hout⟩
  · rw [hrows] at hitem ⊢
    exact hmember item hitem
  · rw [hkeys] at hitem
    rw [hout, map_append]
    rcases mem_setItem hitem with rfl | hitem
    · exact mem_append_right _ (by simp [keyCell])
    · exact mem_append_left _ (hmember item hitem)

theorem Materializes.key_bounds
    {row : List AnalyticalValue} (hrow : row ∈ m.rows.output) : ∃ k, keyCell row = some (.int k) ∧
      ((1 ≤ k ∧ k ≤ 2 ^ 63 - 1) ∨ referenceCell row =
        some (.str (unknownReference dimension.dimensionId)) ∧
          dimension.unknownMemberPolicy.policy = .explicitUnknownMember) := by
  have hmember : ∀ row ∈ members.output, ∃ k, keyCell row = some (.int k) ∧
      (1 ≤ k ∧ k ≤ 2 ^ 63 - 1) := by
    intro row hrow
    have hcell : keyCell row ∈ members.output.map keyCell := mem_map.2 ⟨row, hrow, rfl⟩
    rw [h.members_hold.keyCells, h.members_hold.refKeys_eq, map_map] at hcell
    obtain ⟨ref, -, he⟩ := mem_map.1 hcell
    exact ⟨_, he.symm, deterministicWarehouseKey_bounds _ _⟩
  rcases h.rows_eq with ⟨-, hrows⟩ | ⟨unknownKey, values, hpolicy, -, -, hout⟩
  · rw [hrows] at hrow
    obtain ⟨k, hk, hb⟩ := hmember row hrow
    exact ⟨k, hk, .inl hb⟩
  · rw [hout] at hrow
    rcases mem_append.1 hrow with hrow | hrow
    · obtain ⟨k, hk, hb⟩ := hmember row hrow
      exact ⟨k, hk, .inl hb⟩
    · rw [mem_singleton] at hrow
      exact ⟨unknownKey, by rw [hrow]; rfl, .inr ⟨by rw [hrow]; rfl, hpolicy⟩⟩

end

/-! ## Foreign keys -/

section

variable (compiler : AnalyticalCompilerService) (specs : SpecPackage)

/-- A row that names no day in a foreign key of a date dimension finds no member with the reference
of the unknown member, which a date dimension does not have, in another dimension. -/
def DayNamed (dataset : AnalyticalInputDataset) (row : AnalyticalInputRow)
    (foreignKey : FactForeignKeySpec) : Prop :=
  ∀ dimension, dimensionById specs.dimensions foreignKey.dimensionId = .ok dimension →
    dimension.role = .date →
    dimension.unknownMemberPolicy.policy = .explicitUnknownMember →
    referenceValue row foreignKey = .ok .none →
    ∀ other ∈ specs.dimensions, other.role ≠ .date →
      ¬ IsMember compiler dataset other (unknownReference dimension.dimensionId)

/-- No row of a fact falls back on a member of another dimension for a day it does not name. -/
def DaysNamed (dataset : AnalyticalInputDataset) (facts : List FactSpec) : Prop :=
  ∀ fact ∈ facts, ∀ table, dataset.table fact.inputTableId = .ok table →
    ∀ row ∈ table.rows, ∀ foreignKey ∈ fact.dimensionForeignKeys,
      DayNamed compiler specs dataset row foreignKey

/-- The variable `lookup` holds the keys of a dimension that is not a date dimension. -/
def LookupHeld (ctx : FactContext) (scope : LoadScope) : Prop :=
  ∀ keys ∈ scope.lookup, ∃ dimension ∈ specs.dimensions, dimension.role ≠ .date ∧
    keys = keysByDimension ctx.materialized dimension.dimensionId

/-- Where a foreign key comes from: it is null and optional, the key of a day that was met, or the
key of a member. -/
def KeyFrom (materialized : List MaterializedDimension) (dateValues : List (String × Date))
    (foreignKey : FactForeignKeySpec) (key : Option Int) : Prop :=
  (key = none ∧ foreignKey.required = false) ∨
  ∃ n dimension, key = some n ∧ dimension ∈ specs.dimensions ∧
    dimension.dimensionId = foreignKey.dimensionId ∧
    ((dimension.role = .date ∧ ∃ x, (dimension.dimensionId, x) ∈ dateValues ∧
        n = compiler.deterministicWarehouseKey dimension.surrogateKey.namespace_ x.isoformat) ∨
      (dimension.role ≠ .date ∧
        ∃ ref, (ref, n) ∈ keysByDimension materialized dimension.dimensionId))

end

theorem KeyFrom.mono {a b : List (String × Date)} {key : Option Int}
    (h : KeyFrom compiler specs materialized a foreignKey key) (hab : a ⊆ b) :
    KeyFrom compiler specs materialized b foreignKey key := by
  rcases h with h | ⟨n, dimension, hkey, hd, hid, hfrom⟩
  · exact .inl h
  · refine .inr ⟨n, dimension, hkey, hd, hid, ?_⟩
    rcases hfrom with ⟨hrole, x, hx, hn⟩ | hfrom
    · exact .inl ⟨hrole, x, hab hx, hn⟩
    · exact .inr hfrom

theorem unknownReference_injective : Function.Injective unknownReference := by
  intro a b h
  exact String.append_right_inj _ |>.1 h

section
variable (hctx : LoadsFrom compiler specs dataset ctx)
include hctx

/-- The keys of a dimension have no unknown member of a date dimension. -/
theorem LoadsFrom.getItem_unknown_of_date
    {other : DimensionSpec} (hd : dimension ∈ specs.dimensions) (hdate : dimension.role = .date)
    (ho : other ∈ specs.dimensions) (hrole : other.role ≠ .date)
    (hstray : ¬ IsMember compiler dataset other (unknownReference dimension.dimensionId)) :
    getItem (keysByDimension ctx.materialized other.dimensionId)
      (unknownReference dimension.dimensionId) = none := by
  obtain ⟨m, -, inputs, refs, members, hmat, hkeys⟩ :=
    getItem_materialized hctx.materialized_eq hctx.ids (·.rows.refKeys) ho hrole
  have hrefs : members.refKeys.map Prod.fst = refs := by
    rw [hmat.members_hold.refKeys_eq, map_map]
    exact map_id' refs
  have hfree : unknownReference dimension.dimensionId ∉ members.refKeys.map Prod.fst := by
    rw [hrefs, hmat.mem_refs_iff]
    exact hstray
  rw [keysByDimension, hkeys, Option.getD_some, getItem_eq_none_iff]
  rcases hmat.rows_eq with ⟨-, hrows⟩ | ⟨unknownKey, values, -, -, hset, -⟩
  · rw [hrows]
    exact hfree
  · rw [hset]
    intro hmem
    obtain ⟨item, hitem, he⟩ := mem_map.1 hmem
    rcases mem_setItem hitem with rfl | hitem
    · have hid := unknownReference_injective he
      have := inj_on_of_nodup_map hctx.ids ho hd hid
      exact hrole (this ▸ hdate)
    · exact hfree (mem_map.2 ⟨item, hitem, he⟩)

theorem LoadsFrom.keyFrom_resolveForeignKey
    {resolution : Resolution} (hnamed : DayNamed compiler specs dataset row foreignKey)
    (hheld : LookupHeld specs ctx scope)
    (h : compiler.resolveForeignKey ctx row foreignKey scope = .ok (scope', resolution)) :
    LookupHeld specs ctx scope' ∧ scope.dateValues ⊆ scope'.dateValues ∧
      ∀ key refs, resolution = .key key refs →
        KeyFrom compiler specs ctx.materialized scope'.dateValues foreignKey key := by
  have hdates : scope.dateValues ⊆ scope'.dateValues := by
    intro item hitem
    exact (hctx.dateValues_resolveForeignKey h).2 (.inl hitem)
  obtain ⟨value, dimension, hvalue, hdimension, hcases⟩ := resolveForeignKey_cases h
  rw [hctx.dimensions_eq] at hdimension
  obtain ⟨hd, hid⟩ := dimensionById_eq_ok hdimension
  refine ⟨?_, hdates, ?_⟩
  · rcases hcases with ⟨-, current, -, rfl, -⟩ | ⟨hrole, rfl, -⟩
    · exact hheld
    · intro keys hkeys
      cases hkeys
      exact ⟨dimension, hd, hrole, by rw [hid]⟩
  · rintro key refs rfl
    rcases hcases with ⟨hrole, current, hcurrent, rfl, hkey⟩ | ⟨hrole, -, hkey⟩
    · rcases hkey with ⟨x, rfl, hkey⟩ | ⟨rfl, hmissing⟩
      · cases hkey
        exact .inr ⟨_, dimension, rfl, hd, hid, .inl ⟨hrole, x, by simp [LoadScope.meet], rfl⟩⟩
      · rcases missingKey_cases hmissing with ⟨-, he⟩ | ⟨-, hreq, he⟩ |
          ⟨hpolicy, keys, unknown, hlookup, hunknown, -⟩
        · cases he
        · cases he
          exact .inl ⟨rfl, hreq⟩
        · -- The leftover `lookup` has no unknown member of a date dimension.
          obtain ⟨other, ho, horole, rfl⟩ := hheld keys (by simp [hlookup])
          have hnone := coerceDate_eq_none.1 hcurrent
          have hstray := hnamed dimension hdimension hrole hpolicy (hnone ▸ hvalue) other ho horole
          rw [hctx.getItem_unknown_of_date hd hrole ho horole hstray] at hunknown
          cases hunknown
    · rw [← hid] at hkey
      rcases hkey with ⟨k, hk, hkey⟩ | ⟨-, hmissing⟩
      · cases hkey
        obtain ⟨ref, -, hget⟩ := Option.bind_eq_some_iff.1 hk
        exact .inr ⟨k, dimension, rfl, hd, hid, .inr ⟨hrole, ref, mem_of_getItem hget⟩⟩
      · rcases missingKey_cases hmissing with ⟨-, he⟩ | ⟨-, hreq, he⟩ |
          ⟨-, keys, unknown, hlookup, hunknown, he⟩
        · cases he
        · cases he
          exact .inl ⟨rfl, hreq⟩
        · cases he
          cases hlookup
          exact .inr ⟨unknown, dimension, rfl, hd, hid, .inr ⟨hrole, _, mem_of_getItem hunknown⟩⟩

theorem LoadsFrom.keyFrom_resolveForeignKeys
    (hnamed : ∀ foreignKey ∈ foreignKeys, DayNamed compiler specs dataset row foreignKey)
    (hheld : LookupHeld specs ctx scope)
    (h : compiler.resolveForeignKeys ctx row foreignKeys scope = .ok (scope', resolution)) :
    LookupHeld specs ctx scope' ∧ scope.dateValues ⊆ scope'.dateValues ∧
      ∀ keys refs, resolution = .resolved keys refs → Forall₂
        (KeyFrom compiler specs ctx.materialized scope'.dateValues) foreignKeys keys := by
  induction foreignKeys generalizing scope resolution with
  | nil =>
    cases h
    refine ⟨hheld, fun _ hx => hx, ?_⟩
    rintro keys refs he
    cases he
    exact .nil
  | cons foreignKey foreignKeys ih =>
    have hthis := hnamed foreignKey (by simp)
    rcases resolveForeignKeys_cons h with ⟨record, hfirst, rfl⟩ |
      ⟨middle, value, refs, rest, hfirst, hrest, hcases⟩
    · obtain ⟨hheld', hsub, -⟩ := hctx.keyFrom_resolveForeignKey hthis hheld hfirst
      exact ⟨hheld', hsub, by rintro _ _ ⟨⟩⟩
    · obtain ⟨hmiddle, hsub, hkey⟩ := hctx.keyFrom_resolveForeignKey hthis hheld hfirst
      obtain ⟨hheld', hsub', hkeys⟩ := ih (fun fk hfk => hnamed fk (by simp [hfk])) hmiddle hrest
      refine ⟨hheld', List.Subset.trans hsub hsub', ?_⟩
      rintro keys policyRefs rfl
      rcases hcases with ⟨record, -, he⟩ | ⟨keys', refs', rfl, he⟩
      · cases he
      · cases he
        exact .cons ((hkey value refs rfl).mono hsub') (hkeys keys' refs' rfl)

end

variable (compiler specs ctx) in
def RowKeys (dateValues : List (String × Date)) (values : List AnalyticalValue) : Prop :=
  ∃ key event keys rest, values = key ++ [event] ++ keys.map keyValue ++ rest ∧
    key.length = ctx.grain.keyColumns.length ∧
    Forall₂ (KeyFrom compiler specs ctx.materialized dateValues)
      ctx.fact.dimensionForeignKeys keys

theorem RowKeys.mono {a b : List (String × Date)} {values : List AnalyticalValue}
    (h : RowKeys compiler specs ctx a values) (hab : a ⊆ b) :
    RowKeys compiler specs ctx b values := by
  obtain ⟨key, event, keys, rest, hvalues, hlen, hkeys⟩ := h
  exact ⟨key, event, keys, rest, hvalues, hlen, hkeys.imp fun _ _ hk => hk.mono hab⟩

theorem LoadsFrom.rowKeys_compileRow (hctx : LoadsFrom compiler specs dataset ctx)
    {outcome : RowOutcome} (hnamed : ∀ foreignKey ∈ ctx.fact.dimensionForeignKeys,
      DayNamed compiler specs dataset row foreignKey) (hheld : LookupHeld specs ctx scope)
    (h : compiler.compileRow ctx scope row = .ok (scope', outcome)) :
    LookupHeld specs ctx scope' ∧ scope.dateValues ⊆ scope'.dateValues ∧
      ∀ values, outcome = .loaded values → RowKeys compiler specs ctx scope'.dateValues values := by
  obtain ⟨key, hkey, hcases⟩ := compileRow_cases h
  rcases hcases with ⟨-, rfl, rfl⟩ | ⟨-, hcases⟩
  · exact ⟨hheld, fun _ hx => hx, by rintro _ ⟨⟩⟩
  · rcases hcases with ⟨record, hres, rfl⟩ |
      ⟨keys, refs, degenerate, measures, hres, -, -, hlast⟩
    · obtain ⟨hheld', hsub, -⟩ := hctx.keyFrom_resolveForeignKeys hnamed hheld hres
      exact ⟨hheld', hsub, by rintro _ ⟨⟩⟩
    · obtain ⟨hheld', hsub, hkeys⟩ := hctx.keyFrom_resolveForeignKeys hnamed hheld hres
      refine ⟨hheld', hsub, ?_⟩
      rintro values rfl
      rcases hlast with ⟨-, he⟩ | ⟨-, he⟩
      · cases he
      · cases he
        refine ⟨key, .str row.canonicalReference, keys, degenerate ++ measures ++
          [.strings (row.sourceRecordRefs ++ refs)], by simp, ?_, hkeys keys refs rfl⟩
        exact (mapM_eq_ok.1 (grainValues_eq_ok hkey)).length_eq.symm

theorem LoadsFrom.rowKeys_compileRows (hctx : LoadsFrom compiler specs dataset ctx)
    (hnamed : ∀ row ∈ rows, ∀ foreignKey ∈ ctx.fact.dimensionForeignKeys,
      DayNamed compiler specs dataset row foreignKey) (hheld : LookupHeld specs ctx scope)
    (h : compiler.compileRows ctx rows scope = .ok (scope', outcomes)) :
    LookupHeld specs ctx scope' ∧ scope.dateValues ⊆ scope'.dateValues ∧
      ∀ values ∈ outcomes.filterMap RowOutcome.loadedRow,
        RowKeys compiler specs ctx scope'.dateValues values := by
  induction rows generalizing scope outcomes with
  | nil =>
    cases h
    exact ⟨hheld, fun _ hx => hx, by simp⟩
  | cons row rows ih =>
    obtain ⟨middle, outcome, rest, hrow, hrest, rfl⟩ := compileRows_cons h
    obtain ⟨hmiddle, hsub, hfirst⟩ := hctx.rowKeys_compileRow (hnamed row (by simp)) hheld hrow
    obtain ⟨hheld', hsub', hothers⟩ := ih (fun r hr => hnamed r (by simp [hr])) hmiddle hrest
    refine ⟨hheld', List.Subset.trans hsub hsub', ?_⟩
    intro values hvalues
    obtain ⟨o, ho, he⟩ := mem_filterMap.1 hvalues
    rcases mem_cons.1 ho with rfl | ho
    · cases o with
      | loaded vs =>
        cases he
        exact (hfirst values rfl).mono hsub'
      | quarantined record => cases he
      | dropped => cases he
    · exact hothers values (mem_filterMap.2 ⟨o, ho, he⟩)

theorem rowKeys_compileFacts (hids : (specs.dimensions.map DimensionSpec.dimensionId).Nodup)
    (hm : compiler.dimensionRows specs.dimensions dataset = .ok materialized)
    {facts : List FactSpec} (hnamed : DaysNamed compiler specs dataset facts)
    (hheld : ∀ keys ∈ scope.lookup, ∃ dimension ∈ specs.dimensions, dimension.role ≠ .date ∧
      keys = keysByDimension materialized dimension.dimensionId)
    (h : compiler.compileFacts specs.dimensions specs.grains specs.measures dataset materialized
      facts scope = .ok (scope', compiled)) : scope.dateValues ⊆ scope'.dateValues ∧ ∀ c ∈ compiled,
      ∀ values ∈ c.outcomes.filterMap RowOutcome.loadedRow,
        RowKeys compiler specs c.context scope'.dateValues values := by
  induction facts generalizing scope compiled with
  | nil =>
    cases h
    exact ⟨fun _ hx => hx, by simp⟩
  | cons fact facts ih =>
    obtain ⟨middle, first, rest, hfirst, hrest, rfl⟩ := compileFacts_cons h
    obtain ⟨table, htable, hrows⟩ := hfirst.rows_eq
    have hctx : LoadsFrom compiler specs dataset first.context :=
      ⟨hfirst.dimensions_eq, hids, hfirst.materialized_eq ▸ hm⟩
    have hnamed' : ∀ row ∈ sortedBy AnalyticalInputRow.rowRef table.rows,
        ∀ foreignKey ∈ first.context.fact.dimensionForeignKeys,
          DayNamed compiler specs dataset row foreignKey := by
      intro row hrow
      rw [hfirst.fact_eq]
      exact hnamed fact (by simp) table htable row (mem_sortedBy.1 hrow)
    have hheld' : LookupHeld specs first.context scope := by
      intro keys hkeys
      rw [hfirst.materialized_eq]
      exact hheld keys hkeys
    obtain ⟨hmiddle, hsub, hvalues⟩ := hctx.rowKeys_compileRows hnamed' hheld' hrows
    rw [LookupHeld, hfirst.materialized_eq] at hmiddle
    obtain ⟨hsub', hothers⟩ := ih (fun f hf => hnamed f (by simp [hf])) hmiddle hrest
    refine ⟨List.Subset.trans hsub hsub', ?_⟩
    intro c hc values hv
    rcases mem_cons.1 hc with rfl | hc
    · exact (hvalues values hv).mono hsub'
    · exact hothers c hc values hv

/-! ## Integrity of the load -/

def foreignKeyCells (fact : FactSpec) (grain : GrainSpec) (row : List AnalyticalValue) :
    List AnalyticalValue :=
  (row.drop (grain.keyColumns.length + 1)).take fact.dimensionForeignKeys.length

variable (specs sql foreignKey) in
/-- A foreign key cell is null where the key is optional, or the key of a loaded row of its
dimension. -/
def Refers (cell : AnalyticalValue) : Prop :=
  (cell = .none ∧ foreignKey.required = false) ∨
  ∃ dimension ∈ specs.dimensions, dimension.dimensionId = foreignKey.dimensionId ∧
    some cell ∈ (loadedRows sql dimension).map keyCell

variable (specs sql) in
/-- Distinct keys and references within each dimension, foreign keys that resolve, and keys from
digests in the positive 64-bit range. -/
structure Integrity : Prop where
  keys : ∀ dimension ∈ specs.dimensions, ((loadedRows sql dimension).map keyCell).Nodup
  references : ∀ dimension ∈ specs.dimensions, ((loadedRows sql dimension).map referenceCell).Nodup
  foreignKeys : ∀ fact ∈ specs.facts, ∀ grain, grainById specs.grains fact.grainSpecId = .ok grain →
    ∀ row ∈ factLoad sql fact,
      Forall₂ (Refers specs sql) fact.dimensionForeignKeys (foreignKeyCells fact grain row)
  bounds : ∀ dimension ∈ specs.dimensions, ∀ row ∈ loadedRows sql dimension, ∃ k,
    keyCell row = some (.int k) ∧ ((1 ≤ k ∧ k ≤ 2 ^ 63 - 1) ∨
      referenceCell row = some (.str (unknownReference dimension.dimensionId)) ∧
        dimension.unknownMemberPolicy.policy = .explicitUnknownMember)

variable (compiler specs dataset) in
def UnknownApart : Prop :=
  ∀ dimension ∈ specs.dimensions, dimension.role ≠ .date →
    dimension.unknownMemberPolicy.policy = .explicitUnknownMember →
    ¬ IsMember compiler dataset dimension (unknownReference dimension.dimensionId)

variable (compiler specs dataset) in
def DaysApart : Prop :=
  ∀ dimension ∈ specs.dimensions, dimension.role = .date →
    ∀ a b, HasDay compiler specs dataset dimension a → HasDay compiler specs dataset dimension b →
      compiler.deterministicWarehouseKey dimension.surrogateKey.namespace_ a.isoformat =
        compiler.deterministicWarehouseKey dimension.surrogateKey.namespace_ b.isoformat → a = b

section Generated

variable {sql : GeneratedSQL}
  (g : Generated compiler specs.dimensions specs.facts specs.grains specs.measures dataset sql)
  (hids : (specs.dimensions.map DimensionSpec.dimensionId).Nodup)
  (htables : (specs.dimensions.map DimensionSpec.tableName).Nodup)

include g hids htables

/-- The rows of a date dimension have distinct references, and distinct keys exactly when its days
have. -/
theorem Generated.days_cells {dimension : DimensionSpec} (hd : dimension ∈ specs.dimensions)
    (hrole : dimension.role = .date) : ((loadedRows sql dimension).map referenceCell).Nodup ∧
      (((loadedRows sql dimension).map keyCell).Nodup ↔
        ∀ a b, HasDay compiler specs dataset dimension a →
          HasDay compiler specs dataset dimension b →
          compiler.deterministicWarehouseKey dimension.surrogateKey.namespace_ a.isoformat =
            compiler.deterministicWarehouseKey dimension.surrogateKey.namespace_ b.isoformat →
          a = b) := by
  obtain ⟨dates, hdates, hrows⟩ := g.loadedRows_days htables hd hrole
  have hnodup : dates.Nodup := by
    have h := hdates
    obtain ⟨range, -, h⟩ := bind_eq_ok.1 h
    cases h
    exact nodup_sortedSet _
  have hall := mapM_eq_ok.1 hrows
  have hkeys := map_eq_of_forall₂ hall (fun d => some (AnalyticalValue.int
    (compiler.deterministicWarehouseKey dimension.surrogateKey.namespace_ d.isoformat))) keyCell
    fun _ _ h => (dateRow_cells h).1
  have hrefs := map_eq_of_forall₂ hall (fun d => some (AnalyticalValue.date d)) referenceCell
    fun _ _ h => (dateRow_cells h).2
  rw [hkeys, hrefs]
  constructor
  · refine hnodup.map ?_
    intro a b hab
    simpa using hab
  · rw [nodup_map_iff_inj_on hnodup]
    constructor
    · intro hinj a b ha hb hab
      refine hinj a ((mem_dimensionDates hids g hdates).2 ha) b
        ((mem_dimensionDates hids g hdates).2 hb) ?_
      rw [hab]
    · intro hinj a ha b hb hab
      refine hinj a b ((mem_dimensionDates hids g hdates).1 ha)
        ((mem_dimensionDates hids g hdates).1 hb) ?_
      simpa using hab

theorem Generated.keys_nodup_iff :
    (∀ dimension ∈ specs.dimensions, ((loadedRows sql dimension).map keyCell).Nodup) ↔
      DaysApart compiler specs dataset := by
  constructor
  · intro h dimension hd hrole
    exact (g.days_cells hids htables hd hrole).2.1 (h dimension hd)
  · intro h dimension hd
    by_cases hrole : dimension.role = .date
    · exact (g.days_cells hids htables hd hrole).2.2 (h dimension hd hrole)
    · obtain ⟨m, -, inputs, refs, members, hmat, hrows⟩ := g.loadedRows_members htables hd hrole
      rw [hrows]
      exact hmat.keyCells_nodup

theorem Generated.references_nodup_iff :
    (∀ dimension ∈ specs.dimensions, ((loadedRows sql dimension).map referenceCell).Nodup) ↔
      UnknownApart compiler specs dataset := by
  constructor
  · intro h dimension hd hrole
    obtain ⟨m, -, inputs, refs, members, hmat, hrows⟩ := g.loadedRows_members htables hd hrole
    have hn := h dimension hd
    rw [hrows] at hn
    exact hmat.referenceCells_nodup_iff.1 hn
  · intro h dimension hd
    by_cases hrole : dimension.role = .date
    · exact (g.days_cells hids htables hd hrole).1
    · obtain ⟨m, -, inputs, refs, members, hmat, hrows⟩ := g.loadedRows_members htables hd hrole
      rw [hrows]
      exact hmat.referenceCells_nodup_iff.2 (h dimension hd hrole)

/-- A foreign key that comes from a member or from a day is the key of a loaded row. -/
theorem Generated.keyFrom_refers {foreignKey : FactForeignKeySpec} {key : Option Int}
    (h : KeyFrom compiler specs g.materialized g.scope.dateValues foreignKey key) :
    Refers specs sql foreignKey (keyValue key) := by
  rcases h with ⟨rfl, hreq⟩ | ⟨n, dimension, rfl, hd, hid, hfrom⟩
  · exact .inl ⟨rfl, hreq⟩
  · refine .inr ⟨dimension, hd, hid, ?_⟩
    rcases hfrom with ⟨hrole, x, hx, rfl⟩ | ⟨hrole, ref, href⟩
    · obtain ⟨dates, hdates, hrows⟩ := g.loadedRows_days htables hd hrole
      have hmet : Met compiler specs dataset specs.facts dimension.dimensionId x := by
        have := (dateValues_compileFacts hids g.materialized_eq g.facts_eq).1 hx
        simpa [Met] using this
      have hmem := (mem_dimensionDates hids g hdates).2 (.inl hmet)
      obtain ⟨row, hrow, hok⟩ := exists_right_of_forall₂ (mapM_eq_ok.1 hrows) hmem
      exact mem_map.2 ⟨row, hrow, (dateRow_cells hok).1⟩
    · obtain ⟨m, hm, inputs, refs, members, hmat, hrows⟩ := g.loadedRows_members htables hd hrole
      obtain ⟨m', hm', inputs', refs', members', hmat', hkeys⟩ :=
        getItem_materialized g.materialized_eq hids (·.rows.refKeys) hd hrole
      have hsame : m = m' := by
        have hnames : (g.materialized.map fun m => m.dimension.dimensionId).Nodup :=
          materialized_keys_nodup g.materialized_eq hids
        exact inj_on_of_nodup_map hnames hm hm' (by rw [hmat.dimension_eq, hmat'.dimension_eq])
      rw [keysByDimension, hkeys, Option.getD_some, ← hsame] at href
      rw [hrows]
      exact hmat.key_loaded href

variable {row : List AnalyticalValue}

theorem Generated.foreignKeys_refer (hnamed : DaysNamed compiler specs dataset specs.facts)
    (hfacts : (specs.facts.map FactSpec.factId).Nodup) {fact : FactSpec} (hf : fact ∈ specs.facts)
    {grain : GrainSpec} (hgrain : grainById specs.grains fact.grainSpecId = .ok grain)
    (hrow : row ∈ factLoad sql fact) :
    Forall₂ (Refers specs sql) fact.dimensionForeignKeys (foreignKeyCells fact grain row) := by
  obtain ⟨c, hc, s, s', hfrom⟩ := g.exists_compiled hf
  have hload := (g.block_eq hfacts hids hc).1
  rw [hfrom.fact_eq] at hload
  rw [hload] at hrow
  have hnamed : DaysNamed compiler specs dataset (sortedBy FactSpec.tableName specs.facts) :=
    fun f hf => hnamed f (mem_sortedBy.1 hf)
  obtain ⟨-, hrows⟩ := rowKeys_compileFacts hids g.materialized_eq hnamed (by simp) g.facts_eq
  obtain ⟨key, event, keys, rest, rfl, hlen, hkeys⟩ := hrows c hc row hrow
  rw [hfrom.fact_eq, hfrom.materialized_eq] at hkeys
  obtain rfl : grain = c.context.grain := Except.ok.inj (hgrain.symm.trans hfrom.grain_eq)
  have hcells : foreignKeyCells fact c.context.grain (key ++ [event] ++ keys.map keyValue ++ rest) =
      keys.map keyValue := by
    have hdrop : (key ++ [event]).length = c.context.grain.keyColumns.length + 1 := by simp [hlen]
    have htake : (keys.map keyValue).length = fact.dimensionForeignKeys.length := by
      rw [length_map, hkeys.length_eq]
    rw [foreignKeyCells, append_assoc (key ++ [event]), ← hdrop, drop_left, ← htake,
      take_left]
  rw [hcells, forall₂_map_right_iff]
  exact hkeys.imp fun _ _ hk => g.keyFrom_refers hids htables hk

omit hids in
theorem Generated.keys_bounded {dimension : DimensionSpec} (hd : dimension ∈ specs.dimensions)
    (hrow : row ∈ loadedRows sql dimension) : ∃ k,
      keyCell row = some (.int k) ∧ ((1 ≤ k ∧ k ≤ 2 ^ 63 - 1) ∨
        referenceCell row = some (.str (unknownReference dimension.dimensionId)) ∧
          dimension.unknownMemberPolicy.policy = .explicitUnknownMember) := by
  by_cases hrole : dimension.role = .date
  · obtain ⟨dates, -, hrows⟩ := g.loadedRows_days htables hd hrole
    obtain ⟨d, -, hok⟩ := exists_left_of_forall₂ (mapM_eq_ok.1 hrows) hrow
    exact ⟨_, (dateRow_cells hok).1, .inl (deterministicWarehouseKey_bounds _ _)⟩
  · obtain ⟨m, -, inputs, refs, members, hmat, hrows⟩ := g.loadedRows_members htables hd hrole
    rw [hrows] at hrow
    exact hmat.key_bounds hrow

end Generated

/-- **Integrity of the generated load.** In every compilation that succeeds, of dimensions with
tables of their own and with no row that takes a member of another dimension for a day, the load has
integrity exactly when no member has the reference of its dimension's unknown member and no two days
of a date dimension collide. -/
theorem load_integrity_iff {request : CompileRequest} {plan : CompiledPlan} {sql : GeneratedSQL}
    (h : compiler.compile request specs = .ok (plan, sql))
    (htables : (specs.dimensions.map DimensionSpec.tableName).Nodup)
    (hnamed : DaysNamed compiler specs request.dataset specs.facts) : Integrity specs sql ↔
      UnknownApart compiler specs request.dataset ∧ DaysApart compiler specs request.dataset := by
  obtain ⟨hchecked, hsql, -⟩ := compile_eq_ok h
  obtain ⟨g⟩ := generateSql_eq_ok hsql
  have hids := hchecked.dimensionIds
  constructor
  · intro hintegrity
    exact ⟨(g.references_nodup_iff hids htables).1 hintegrity.references,
      (g.keys_nodup_iff hids htables).1 hintegrity.keys⟩
  · rintro ⟨hunknown, hdays⟩
    exact {
      keys := (g.keys_nodup_iff hids htables).2 hdays
      references := (g.references_nodup_iff hids htables).2 hunknown
      foreignKeys := fun fact hf grain hgrain row hrow =>
        g.foreignKeys_refer hids htables hnamed hchecked.factIds hf hgrain hrow
      bounds := fun dimension hd row hrow => g.keys_bounded htables hd hrow }

/-! ## The small warehouse -/

theorem demo_daysNamed (dataset : AnalyticalInputDataset) :
    DaysNamed demoCompiler (demoSpecs quarantinePolicy amount) dataset
      (demoSpecs quarantinePolicy amount).facts := by
  intro fact _ table _ row _ foreignKey _ dimension hdimension _ hpolicy
  obtain ⟨hd, -⟩ := dimensionById_eq_ok hdimension
  simp only [demoSpecs, mem_cons, not_mem_nil, or_false] at hd
  rcases hd with rfl | rfl
  · simp [demoCustomer, quarantinePolicy] at hpolicy
  · simp [demoDate] at hpolicy

theorem demo_hasDay {x : Date}
    (h : HasDay demoCompiler (demoSpecs quarantinePolicy amount) soldDataset demoDate x) :
    x.ordinal = 738886 ∨ x.ordinal = 738887 := by
  rcases h with ⟨fact, hf, table, grain, htable, -, row, hrow, -, before, fk, after, hfks, -,
    value, dimension, hvalue, hdimension, hrole, -, hcoerce⟩ | ⟨first, hfirst, last, hlast, h1, h2⟩
  · obtain rfl : fact = demoFact true := by simpa [demoSpecs, quarantinePolicy] using hf
    obtain rfl : soldDataset.tables[1] = table := Except.ok.inj htable
    obtain rfl : row = saleTo "cust:1" := by
      simpa [soldDataset, demoDataset, AnalyticalInputTable.rows] using hrow
    have hfk : fk ∈ (demoFact true).dimensionForeignKeys := by simp [hfks]
    simp only [demoFact, mem_cons, not_mem_nil, or_false] at hfk
    rcases hfk with rfl | rfl
    · obtain rfl : demoCustomer quarantinePolicy = dimension := Except.ok.inj hdimension
      cases hrole
    · obtain rfl : AnalyticalValue.str "2024-01-01" = value := Except.ok.inj hvalue
      have hday : coerceDate (.str "2024-01-01") = .ok (Date.ofOrdinal 738886) := by decide +kernel
      left
      rw [hday] at hcoerce
      have := Except.ok.inj hcoerce
      cases this
      rfl
  · have hf : Date.ofYmd 2024 1 1 = Date.ofOrdinal 738886 := by decide +kernel
    have hl : Date.ofYmd 2024 1 2 = Date.ofOrdinal 738887 := by decide +kernel
    simp only [demoDate, hf, hl] at hfirst hlast
    cases hfirst
    cases hlast
    have h1 : 738886 ≤ x.ordinal := h1
    have h2 : x.ordinal ≤ 738887 := h2
    omega

theorem load_integrity_sold : ∃ plan sql,
    demoCompiler.compile (demoRequest soldDataset) (demoSpecs quarantinePolicy amount) =
      .ok (plan, sql) ∧ Integrity (demoSpecs quarantinePolicy amount) sql := by
  obtain ⟨⟨plan, sql⟩, h⟩ := exists_ok_of_isSome soldDataset_compiles
  refine ⟨plan, sql, h, (load_integrity_iff h (by decide +kernel) (demo_daysNamed _)).2 ⟨?_, ?_⟩⟩
  · intro dimension hd _ hpolicy
    simp only [demoSpecs, mem_cons, not_mem_nil, or_false] at hd
    rcases hd with rfl | rfl
    · simp [demoCustomer, quarantinePolicy] at hpolicy
    · simp [demoDate] at hpolicy
  · intro dimension hd hrole a b ha hb hab
    simp only [demoSpecs, mem_cons, not_mem_nil, or_false] at hd
    rcases hd with rfl | rfl
    · simp [demoCustomer] at hrole
    · have hkeys : ∀ x : Date, x.ordinal = 738886 ∨ x.ordinal = 738887 →
          x = ⟨738886, by decide⟩ ∨ x = ⟨738887, by decide⟩ := by
        rintro x (hx | hx)
        · exact .inl (Date.ordinal_injective hx)
        · exact .inr (Date.ordinal_injective hx)
      have hne : demoCompiler.deterministicWarehouseKey "dim_date"
          (Date.isoformat ⟨738886, by decide⟩) ≠ demoCompiler.deterministicWarehouseKey "dim_date"
          (Date.isoformat ⟨738887, by decide⟩) := by decide +kernel
      rcases hkeys a (demo_hasDay ha) with rfl | rfl <;>
        rcases hkeys b (demo_hasDay hb) with rfl | rfl
      · rfl
      · exact absurd hab hne
      · exact absurd hab.symm hne
      · rfl

/-- Facts that miss a customer refer to an unknown member. -/
def explicitPolicy : UnknownMemberPolicySpec :=
  { policy := .explicitUnknownMember, unknownMemberKey := some 0 }

/-- A customer whose reference is the reference of the unknown member. -/
def clashingDataset : AnalyticalInputDataset :=
  demoDataset [demoCustomerRow "__UNKNOWN__:dim_customer"] [saleTo "cust:1"]

/-- The customer and the unknown member are loaded with one reference. -/
theorem unknown_reference_clashes : ∃ plan sql,
    demoCompiler.compile (demoRequest clashingDataset) (demoSpecs explicitPolicy amount) =
      .ok (plan, sql) ∧ ¬ Integrity (demoSpecs explicitPolicy amount) sql := by
  have hrun : ((demoCompiler.compile (demoRequest clashingDataset)
      (demoSpecs explicitPolicy amount)).toOption.map fun r =>
        (loadedRows r.2 (demoCustomer explicitPolicy)).map referenceCell) =
      some [some (.str "__UNKNOWN__:dim_customer"), some (.str "__UNKNOWN__:dim_customer")] := by
    decide +kernel
  obtain ⟨⟨plan, sql⟩, h, hcells⟩ := exists_ok_of_map hrun
  refine ⟨plan, sql, h, fun hintegrity => ?_⟩
  have hn := hintegrity.references (demoCustomer explicitPolicy) (by simp [demoSpecs])
  have hcells : (loadedRows sql (demoCustomer explicitPolicy)).map referenceCell = _ := hcells
  rw [hcells] at hn
  revert hn
  decide +kernel

end DirtyDataOlap.Analytical.AnalyticalCompilerService

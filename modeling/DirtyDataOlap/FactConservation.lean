import DirtyDataOlap.CompilerRules

/-!
# Conservation of fact rows

Every input row of a fact should end as one row of its load or as one quarantine record.  The loop
gives each exactly one outcome.  **The only rows that are lost are the complete rows of a fact that
has a column of its own named `source_record_refs`**: the append is nested under the test that adds
the lineage column.
-/
namespace DirtyDataOlap.Analytical.AnalyticalCompilerService

open List

variable {compiler : AnalyticalCompilerService} {specs : SpecPackage}
  {dataset : AnalyticalInputDataset} {materialized : List MaterializedDimension}

variable (compiler dataset) in
/-- Some input row is a member of the dimension under this reference. -/
def IsMember (dimension : DimensionSpec) (ref : String) : Prop :=
  ∃ table, inputTable dataset dimension = .ok table ∧
    ∃ row ∈ table.rows, compiler.rowReference row dimension = .ok ref

variable {dimension : DimensionSpec} {row : AnalyticalInputRow} {scope scope' : LoadScope}
  {rows : List AnalyticalInputRow} {outcomes : List RowOutcome} {inputs : List AnalyticalInputRow}

theorem Materializes.mem_refs_iff {refs : List String} {members : DimensionRows}
    {m : MaterializedDimension} (h : Materializes compiler dataset dimension inputs refs members m)
    {ref : String} : ref ∈ refs ↔ IsMember compiler dataset dimension ref := by
  obtain ⟨table, htable, rfl⟩ := h.inputs_eq
  have hrefs := h.members_hold.references
  constructor
  · intro href
    obtain ⟨row, hrow, hrowref⟩ := exists_left_of_forall₂ hrefs href
    exact ⟨table, htable, row, mem_sortedBy.1 hrow, hrowref⟩
  · rintro ⟨table', htable', row, hrow, href⟩
    obtain rfl : table = table' := Except.ok.inj (htable.symm.trans htable')
    obtain ⟨ref', href', hrowref⟩ := exists_right_of_forall₂ hrefs (mem_sortedBy.2 hrow)
    exact Except.ok.inj (hrowref.symm.trans href) ▸ href'

section
variable (hm : compiler.dimensionRows specs.dimensions dataset = .ok materialized)
  {key : DimensionSpec → String} (hkeys : (specs.dimensions.map key).Nodup)
include hm hkeys

theorem materialized_keys_nodup : (materialized.map fun m => key m.dimension).Nodup := by
  have hnames : materialized.map (fun m => key m.dimension) =
      (specs.dimensions.filter fun d => d.role ≠ .date).map key := by
    refine map_eq_of_forall₂ (dimensionRows_eq_ok hm) _ _ ?_
    rintro d m ⟨inputs, refs, members, h⟩
    rw [h.dimension_eq]
  rw [hnames]
  exact hkeys.sublist (filter_sublist.map _)

theorem getItem_materialized {β : Type} (part : MaterializedDimension → β)
    (hd : dimension ∈ specs.dimensions) (hrole : dimension.role ≠ .date) :
    ∃ m ∈ materialized, ∃ inputs refs members,
      Materializes compiler dataset dimension inputs refs members m ∧
      getItem (materialized.map fun m => (key m.dimension, part m)) (key dimension) =
        some (part m) := by
  have hmem : dimension ∈ specs.dimensions.filter fun d => d.role ≠ .date := by
    simp [hd, hrole]
  obtain ⟨m, hmm, inputs, refs, members, hmat⟩ :=
    exists_right_of_forall₂ (dimensionRows_eq_ok hm) hmem
  refine ⟨m, hmm, inputs, refs, members, hmat, ?_⟩
  rw [← hmat.dimension_eq]
  exact getItem_map_of_mem (materialized_keys_nodup hm hkeys) hmm

end

theorem HoldsMembers.getItem_isSome_iff {refs : List String} {rows : DimensionRows}
    (h : HoldsMembers compiler dimension inputs refs rows) {ref : String} :
    (getItem rows.refKeys ref).isSome ↔ ref ∈ refs := by
  rw [DirtyDataOlap.getItem_isSome_iff, h.refKeys_eq, map_map]
  exact (congrArg (ref ∈ ·) (map_id' refs)).to_iff

/-! ## Rows that the policies withhold -/

section

variable (compiler : AnalyticalCompilerService) (specs : SpecPackage)
  (dataset : AnalyticalInputDataset)

/-- The foreign key names no member of a dimension that quarantines such rows. -/
def Unresolved (row : AnalyticalInputRow) (foreignKey : FactForeignKeySpec) : Prop :=
  ∃ value dimension, referenceValue row foreignKey = .ok value ∧
    dimensionById specs.dimensions foreignKey.dimensionId = .ok dimension ∧
    dimension.unknownMemberPolicy.policy = .quarantineFact ∧
    (value = .none ∨ dimension.role ≠ .date ∧
      ¬ IsMember compiler dataset dimension (value.pyStr compiler.isPrintable))

/-- The row may be left out: it has no grain key, or a reference leads nowhere. -/
def Withheld (fact : FactSpec) (grain : GrainSpec) (row : AnalyticalInputRow) : Prop :=
  (∃ column ∈ grain.keyColumns, row.valueFor column = .ok .none) ∨
    ∃ foreignKey ∈ fact.dimensionForeignKeys, Unresolved compiler specs dataset row foreignKey

/-- What the loops over the facts of a package work with. -/
structure LoadsFrom (ctx : FactContext) : Prop where
  dimensions_eq : ctx.dimensions = specs.dimensions
  ids : (specs.dimensions.map DimensionSpec.dimensionId).Nodup
  materialized_eq : compiler.dimensionRows specs.dimensions dataset = .ok ctx.materialized

end

variable {ctx : FactContext}

theorem coerceDate_eq_none {value : AnalyticalValue} :
    coerceDate value = .ok none ↔ value = .none := by
  cases value with
  | str text =>
    simp only [coerceDate, reduceCtorEq, iff_false]
    split <;> simp
  | _ => simp [coerceDate]

section
variable (hctx : LoadsFrom compiler specs dataset ctx)
include hctx

theorem LoadsFrom.lookup_eq_none
    (hd : dimension ∈ specs.dimensions) (hrole : dimension.role ≠ .date)
    (hpolicy : dimension.unknownMemberPolicy.policy = .quarantineFact) {value : AnalyticalValue} :
    (compiler.memberReference value).bind
        (getItem (keysByDimension ctx.materialized dimension.dimensionId)) = none ↔ value = .none ∨
        ¬ IsMember compiler dataset dimension (value.pyStr compiler.isPrintable) := by
  obtain ⟨m, -, inputs, refs, members, hmat, hkeys⟩ :=
    getItem_materialized hctx.materialized_eq hctx.ids (·.rows.refKeys) hd hrole
  have hrows : m.rows = members := by
    rcases hmat.rows_eq with ⟨-, h⟩ | ⟨_, _, h, -⟩
    · exact h
    · simp [hpolicy] at h
  rw [keysByDimension, hkeys, Option.getD_some, hrows]
  by_cases hv : value = .none
  · simp [memberReference, hv]
  · rw [memberReference, if_neg hv, Option.bind_some, ← Option.not_isSome_iff_eq_none,
      hmat.members_hold.getItem_isSome_iff, hmat.mem_refs_iff]
    simp [hv]

theorem LoadsFrom.resolveForeignKey_quarantines
    {foreignKey : FactForeignKeySpec} {resolution : Resolution}
    (h : compiler.resolveForeignKey ctx row foreignKey scope = .ok (scope', resolution)) :
    (Unresolved compiler specs dataset row foreignKey ∧ ∃ dimension ref,
        resolution = .quarantined (missingReference ctx.fact row dimension ref)) ∨
      (¬ Unresolved compiler specs dataset row foreignKey ∧ ∃ k refs, resolution = .key k refs) := by
  obtain ⟨value, dimension, hvalue, hdimension, hcases⟩ := resolveForeignKey_cases h
  rw [hctx.dimensions_eq] at hdimension
  obtain ⟨hd, hid⟩ := dimensionById_eq_ok hdimension
  have hunresolved : Unresolved compiler specs dataset row foreignKey ↔
      dimension.unknownMemberPolicy.policy = .quarantineFact ∧ (value = .none ∨
        dimension.role ≠ .date ∧
          ¬ IsMember compiler dataset dimension (value.pyStr compiler.isPrintable)) := by
    constructor
    · rintro ⟨value', dimension', hvalue', hdimension', hrest⟩
      cases hvalue.symm.trans hvalue'
      cases hdimension.symm.trans hdimension'
      exact hrest
    · rintro ⟨hpolicy, hmissing⟩
      exact ⟨value, dimension, hvalue, hdimension, hpolicy, hmissing⟩
  -- A key that is missing is unresolved exactly under the quarantine policy.
  have hpolicies : ∀ {ref lookup},
      (dimension.unknownMemberPolicy.policy = .quarantineFact → value = .none ∨
        dimension.role ≠ .date ∧
          ¬ IsMember compiler dataset dimension (value.pyStr compiler.isPrintable)) →
      missingKey ctx row foreignKey dimension ref lookup = .ok resolution →
      (Unresolved compiler specs dataset row foreignKey ∧ ∃ dimension ref,
          resolution = .quarantined (missingReference ctx.fact row dimension ref)) ∨
        (¬ Unresolved compiler specs dataset row foreignKey ∧ ∃ k refs, resolution = .key k refs) := by
    intro ref lookup hmissing hres
    rcases missingKey_cases hres with ⟨hp, rfl⟩ | ⟨hp, -, rfl⟩ | ⟨hp, keys, unknown, -, -, rfl⟩
    · exact .inl ⟨hunresolved.2 ⟨hp, hmissing hp⟩, _, _, rfl⟩
    · exact .inr ⟨fun hu => by simp [hp] at hunresolved; exact hunresolved hu, _, _, rfl⟩
    · exact .inr ⟨fun hu => by simp [hp] at hunresolved; exact hunresolved hu, _, _, rfl⟩
  rcases hcases with ⟨hdate, current, hcurrent, -, hdate'⟩ | ⟨hdate, -, hlookup⟩
  · rcases hdate' with ⟨d, rfl, rfl⟩ | ⟨rfl, hres⟩
    · refine .inr ⟨fun hu => ?_, _, _, rfl⟩
      rcases (hunresolved.1 hu).2 with hnone | ⟨hrole, -⟩
      · rw [coerceDate_eq_none.2 hnone] at hcurrent
        cases hcurrent
      · exact hrole hdate
    · exact hpolicies (fun _ => .inl (coerceDate_eq_none.1 hcurrent)) hres
  · rw [← hid] at hlookup
    rcases hlookup with ⟨k, hk, rfl⟩ | ⟨hnone, hres⟩
    · refine .inr ⟨fun hu => ?_, _, _, rfl⟩
      obtain ⟨hp, hmissing⟩ := hunresolved.1 hu
      have hnone := (hctx.lookup_eq_none hd hdate hp).2 (hmissing.imp_right And.right)
      rw [hk] at hnone
      cases hnone
    · refine hpolicies (fun hp => ?_) hres
      exact ((hctx.lookup_eq_none hd hdate hp).1 hnone).imp_right fun hm => ⟨hdate, hm⟩

theorem LoadsFrom.resolveForeignKeys_quarantines
    {foreignKeys : List FactForeignKeySpec} {resolution : RowResolution}
    (h : compiler.resolveForeignKeys ctx row foreignKeys scope = .ok (scope', resolution)) :
    ((∃ foreignKey ∈ foreignKeys, Unresolved compiler specs dataset row foreignKey) ∧
        ∃ dimension ref, resolution = .quarantined (missingReference ctx.fact row dimension ref)) ∨
      ((¬ ∃ foreignKey ∈ foreignKeys, Unresolved compiler specs dataset row foreignKey) ∧
        ∃ keys refs, resolution = .resolved keys refs) := by
  induction foreignKeys generalizing scope resolution with
  | nil =>
    cases h
    exact .inr ⟨by simp, _, _, rfl⟩
  | cons foreignKey foreignKeys ih =>
    rcases resolveForeignKeys_cons h with ⟨record, hfirst, rfl⟩ |
      ⟨middle, value, refs, rest, hfirst, hrest, hcases⟩
    · rcases hctx.resolveForeignKey_quarantines hfirst with ⟨hu, d, ref, he⟩ | ⟨-, k, refs, he⟩
      · cases he
        exact .inl ⟨⟨foreignKey, by simp, hu⟩, d, ref, rfl⟩
      · cases he
    · have hthis : ¬ Unresolved compiler specs dataset row foreignKey := by
        rcases hctx.resolveForeignKey_quarantines hfirst with ⟨-, d, ref, he⟩ | ⟨hu, -⟩
        · cases he
        · exact hu
      rcases ih hrest with ⟨⟨fk, hfk, hu⟩, d, ref, rfl⟩ | ⟨hu, keys, policyRefs, rfl⟩
      · rcases hcases with ⟨record, hrec, rfl⟩ | ⟨_, _, hrec, -⟩
        · cases hrec
          exact .inl ⟨⟨fk, by simp [hfk], hu⟩, d, ref, rfl⟩
        · cases hrec
      · rcases hcases with ⟨record, hrec, -⟩ | ⟨keys', refs', hrec, rfl⟩
        · cases hrec
        · cases hrec
          refine .inr ⟨?_, _, _, rfl⟩
          rintro ⟨fk, hfk, hfu⟩
          rcases mem_cons.1 hfk with rfl | hfk
          · exact hthis hfu
          · exact hu ⟨fk, hfk, hfu⟩

end

/-- A row of a fact load, or a quarantine record. -/
abbrev Disposition := List AnalyticalValue ⊕ QuarantineRecord

/-- A loaded row carries the grain, the event and the lineage of the input row; a quarantine record
names the row and its fact. -/
def StandsFor (fact : FactSpec) (grain : GrainSpec) (row : AnalyticalInputRow) : Disposition → Prop
  | .inl values => ∃ key middle refs, grain.keyColumns.mapM row.valueFor = .ok key ∧
      values = key ++ [.str row.canonicalReference] ++ middle ++
        [.strings (row.sourceRecordRefs ++ refs)]
  | .inr record => record.factId = fact.factId ∧ record.factTableName = fact.tableName ∧
      record.rowRef = row.rowRef ∧ record.sourceRecordRefs = row.sourceRecordRefs

variable (compiler specs dataset ctx) in
/-- A row is quarantined if it is withheld, else lost to the column that the fact has, else loaded.
-/
def Fate (row : AnalyticalInputRow) (outcome : RowOutcome) : Prop :=
  (Withheld compiler specs dataset ctx.fact ctx.grain row ∧ ∃ record,
    outcome = .quarantined record ∧ StandsFor ctx.fact ctx.grain row (.inr record)) ∨
  (¬ Withheld compiler specs dataset ctx.fact ctx.grain row ∧
    (("source_record_refs" ∈ ctx.targetNames ∧ outcome = .dropped) ∨
      ("source_record_refs" ∉ ctx.targetNames ∧ ∃ values,
        outcome = .loaded values ∧ StandsFor ctx.fact ctx.grain row (.inl values))))

theorem none_mem_grainValues {grain : GrainSpec} {key : List AnalyticalValue}
    (h : grainValues grain row = .ok key) :
    .none ∈ key ↔ ∃ column ∈ grain.keyColumns, row.valueFor column = .ok .none := by
  have hall := mapM_eq_ok.1 (grainValues_eq_ok h)
  constructor
  · exact exists_left_of_forall₂ hall
  · rintro ⟨column, hcolumn, hvalue⟩
    obtain ⟨value, hmem, hget⟩ := exists_right_of_forall₂ hall hcolumn
    exact Except.ok.inj (hget.symm.trans hvalue) ▸ hmem

theorem LoadsFrom.compileRow_fate (hctx : LoadsFrom compiler specs dataset ctx)
    {outcome : RowOutcome} (h : compiler.compileRow ctx scope row = .ok (scope', outcome)) :
    Fate compiler specs dataset ctx row outcome := by
  obtain ⟨key, hkey, hcases⟩ := compileRow_cases h
  have hgrain := grainValues_eq_ok hkey
  have hnull := none_mem_grainValues hkey
  rcases hcases with ⟨hmem, -, rfl⟩ | ⟨hmem, hcases⟩
  · exact .inl ⟨.inl (hnull.1 hmem), _, rfl, rfl, rfl, rfl, rfl⟩
  · rcases hcases with ⟨record, hres, rfl⟩ | ⟨keys, refs, degenerate, measures, hres, -, -, hlast⟩
    · rcases hctx.resolveForeignKeys_quarantines hres with ⟨hu, d, ref, he⟩ | ⟨-, _, _, he⟩
      · cases he
        exact .inl ⟨.inr hu, _, rfl, rfl, rfl, rfl, rfl⟩
      · cases he
    · have hkept : ¬ Withheld compiler specs dataset ctx.fact ctx.grain row := by
        rcases hctx.resolveForeignKeys_quarantines hres with ⟨-, d, ref, he⟩ | ⟨hu, -⟩
        · cases he
        · rintro (hn | hw)
          · exact hmem (hnull.2 hn)
          · exact hu hw
      rcases hlast with ⟨hname, rfl⟩ | ⟨hname, rfl⟩
      · exact .inr ⟨hkept, .inl ⟨hname, rfl⟩⟩
      · refine .inr ⟨hkept, .inr ⟨hname, _, rfl, key,
          keys.map keyValue ++ degenerate ++ measures, refs, hgrain, ?_⟩⟩
        simp

theorem LoadsFrom.compileRows_fates (hctx : LoadsFrom compiler specs dataset ctx)
    (h : compiler.compileRows ctx rows scope = .ok (scope', outcomes)) :
    Forall₂ (Fate compiler specs dataset ctx) rows outcomes := by
  induction rows generalizing scope outcomes with
  | nil =>
    cases h
    exact .nil
  | cons row rows ih =>
    obtain ⟨middle, outcome, rest, hrow, hrest, rfl⟩ := compileRows_cons h
    exact .cons (hctx.compileRow_fate hrow) (ih hrest)

/-! ## The blocks of one fact -/

/-- The rows loaded into a fact. -/
def factLoad (sql : GeneratedSQL) (fact : FactSpec) : List (List AnalyticalValue) :=
  sql.loadFacts.flatMap fun load => if load.fact.factId = fact.factId then load.rows else []

/-- The rows of a fact that are quarantined. -/
def factQuarantine (sql : GeneratedSQL) (fact : FactSpec) : List QuarantineRecord :=
  sql.quarantineRecords.filter fun record => record.factId = fact.factId

variable (specs dataset) in
/-- **Every input row of the fact stands for one loaded or quarantined row**, in order. -/
def Conserved (sql : GeneratedSQL) (fact : FactSpec) : Prop :=
  ∃ table grain dispositions, dataset.table fact.inputTableId = .ok table ∧
    grainById specs.grains fact.grainSpecId = .ok grain ∧
    Forall₂ (StandsFor fact grain) (sortedBy AnalyticalInputRow.rowRef table.rows)
      dispositions ∧
    factLoad sql fact = dispositions.filterMap Sum.getLeft? ∧
    factQuarantine sql fact = dispositions.filterMap Sum.getRight?

theorem flatMap_block {α β : Type} {key : α → String} {f : α → List β} {xs : List α}
    (hn : (xs.map key).Nodup) {x : α} (hx : x ∈ xs) :
    xs.flatMap (fun y => if key y = key x then f y else []) = f x := by
  induction xs with
  | nil => simp at hx
  | cons y ys ih =>
    rw [map_cons, nodup_cons] at hn
    rw [flatMap_cons]
    by_cases hk : key y = key x
    · have hys : ∀ z ∈ ys, key z ≠ key x := by
        intro z hz he
        exact hn.1 (mem_map.2 ⟨z, hz, he.trans hk.symm⟩)
      have hnil : ys.flatMap (fun z => if key z = key x then f z else []) = [] := by
        rw [flatMap_eq_nil_iff]
        intro z hz
        rw [if_neg (hys z hz)]
      have hxy : x = y := by
        rcases mem_cons.1 hx with h | h
        · exact h
        · exact absurd rfl (hys x h)
      rw [if_pos hk, hnil, hxy, append_nil]
    · have hxs : x ∈ ys := by
        rcases mem_cons.1 hx with rfl | h
        · exact absurd rfl hk
        · exact h
      rw [if_neg hk, nil_append, ih hn.2 hxs]

theorem Generated.exists_compiled {facts : List FactSpec} {grains : List GrainSpec}
    {measures : List MeasureSpec} {dimensions : List DimensionSpec} {sql : GeneratedSQL}
    (g : Generated compiler dimensions facts grains measures dataset sql) {fact : FactSpec}
    (hf : fact ∈ facts) : ∃ c ∈ g.compiled, ∃ s s',
      CompiledFrom compiler dimensions grains measures dataset g.materialized fact c s s' :=
  exists_right_of_forall₂ (compileFacts_forall₂ g.facts_eq) (mem_sortedBy.2 hf)

theorem Generated.block_eq {sql : GeneratedSQL} (hids : (specs.facts.map FactSpec.factId).Nodup)
    (hdims : (specs.dimensions.map DimensionSpec.dimensionId).Nodup)
    (g : Generated compiler specs.dimensions specs.facts specs.grains specs.measures dataset sql)
    {c : CompiledFact} (hc : c ∈ g.compiled) :
    factLoad sql c.context.fact = c.outcomes.filterMap RowOutcome.loadedRow ∧
      factQuarantine sql c.context.fact = c.outcomes.filterMap RowOutcome.record := by
  have hall := compileFacts_forall₂ g.facts_eq
  have hnames : g.compiled.map (fun c => c.context.fact.factId) =
      (sortedBy FactSpec.tableName specs.facts).map FactSpec.factId := by
    refine map_eq_of_forall₂ hall _ _ ?_
    rintro fact c ⟨s, s', h⟩
    rw [h.fact_eq]
  have hnodup : (g.compiled.map fun c => c.context.fact.factId).Nodup := by
    rw [hnames]
    exact ((sortedBy_perm _ _).map _).nodup_iff.2 hids
  have hrecords : ∀ c ∈ g.compiled, ∀ record ∈ c.outcomes.filterMap RowOutcome.record,
      record.factId = c.context.fact.factId := by
    intro c hc record hrecord
    obtain ⟨outcome, houtcome, he⟩ := mem_filterMap.1 hrecord
    obtain ⟨fact, -, s, s', hfrom⟩ := exists_left_of_forall₂ hall hc
    obtain ⟨table, -, hrows⟩ := hfrom.rows_eq
    have hctx : LoadsFrom compiler specs dataset c.context :=
      ⟨hfrom.dimensions_eq, hdims, hfrom.materialized_eq ▸ g.materialized_eq⟩
    obtain ⟨row, -, hfate⟩ := exists_left_of_forall₂ (hctx.compileRows_fates hrows) houtcome
    rcases hfate with ⟨-, record', rfl, hstands⟩ | ⟨-, ⟨-, rfl⟩ | ⟨-, values, rfl, -⟩⟩
    · cases he
      exact hstands.1
    · cases he
    · cases he
  constructor
  · rw [factLoad, g.loadFacts_eq, flatMap_map]
    exact flatMap_block hnodup hc
  · rw [factQuarantine, g.quarantine_eq, filter_flatMap,
      ← flatMap_block (f := fun c => c.outcomes.filterMap RowOutcome.record) hnodup hc]
    apply flatMap_congr
    intro y hy
    by_cases hk : y.context.fact.factId = c.context.fact.factId
    · rw [if_pos hk, filter_eq_self]
      intro record hrecord
      simp [hrecords y hy record hrecord, hk]
    · rw [if_neg hk, filter_eq_nil_iff]
      intro record hrecord
      simp [hrecords y hy record hrecord, hk]

/-! ## Conservation -/

variable (h : Forall₂ (Fate compiler specs dataset ctx) rows outcomes)

include h in
/-- Where nothing is dropped, the outcomes are dispositions. -/
theorem exists_dispositions (hkept : "source_record_refs" ∉ ctx.targetNames ∨
      ∀ row ∈ rows, Withheld compiler specs dataset ctx.fact ctx.grain row) :
    ∃ dispositions, Forall₂ (StandsFor ctx.fact ctx.grain) rows dispositions ∧
      outcomes.filterMap RowOutcome.loadedRow = dispositions.filterMap Sum.getLeft? ∧
      outcomes.filterMap RowOutcome.record = dispositions.filterMap Sum.getRight? := by
  induction h with
  | nil => exact ⟨[], .nil, rfl, rfl⟩
  | @cons row outcome rows outcomes hfate _ ih =>
    have hrest := hkept.imp_right fun hw row hrow => hw row (mem_cons_of_mem _ hrow)
    obtain ⟨ds, hds, hleft, hright⟩ := ih hrest
    rcases hfate with ⟨-, record, rfl, hstands⟩ | ⟨hw, hcases⟩
    · refine ⟨.inr record :: ds, .cons hstands hds, ?_, ?_⟩
      · exact hleft
      · exact congrArg (record :: ·) hright
    · rcases hcases with ⟨hname, rfl⟩ | ⟨-, values, rfl, hstands⟩
      · rcases hkept with hkept | hkept
        · exact absurd hname hkept
        · exact absurd (hkept row (by simp)) hw
      · refine ⟨.inl values :: ds, .cons hstands hds, ?_, ?_⟩
        · exact congrArg (values :: ·) hleft
        · exact hright

theorem length_dispositions (ds : List Disposition) :
    (ds.filterMap Sum.getLeft?).length + (ds.filterMap Sum.getRight?).length = ds.length := by
  induction ds with
  | nil => rfl
  | cons d ds ih =>
    cases d <;> simp only [filterMap_cons, Sum.getLeft?, Sum.getRight?, length_cons] <;>
      omega

include h in
/-- In a fact with a column named `source_record_refs` no row is loaded, and a row is quarantined
only if it is withheld. -/
theorem withheld_of_length (hname : "source_record_refs" ∈ ctx.targetNames)
    (hlen : (outcomes.filterMap RowOutcome.loadedRow).length +
      (outcomes.filterMap RowOutcome.record).length = rows.length) :
    ∀ row ∈ rows, Withheld compiler specs dataset ctx.fact ctx.grain row := by
  have hload : outcomes.filterMap RowOutcome.loadedRow = [] := by
    rw [filterMap_eq_nil_iff]
    intro outcome houtcome
    obtain ⟨row, -, hfate⟩ := exists_left_of_forall₂ h houtcome
    rcases hfate with ⟨-, record, rfl, -⟩ | ⟨-, ⟨-, rfl⟩ | ⟨hfree, -⟩⟩
    · rfl
    · rfl
    · exact absurd hname hfree
  rw [hload, length_nil, Nat.zero_add, h.length_eq, filterMap_length_eq_length] at hlen
  intro row hrow
  obtain ⟨outcome, houtcome, hfate⟩ := exists_right_of_forall₂ h hrow
  have hrecord := hlen outcome houtcome
  rcases hfate with ⟨hw, -⟩ | ⟨-, ⟨-, rfl⟩ | ⟨hfree, -⟩⟩
  · exact hw
  · simp [RowOutcome.record] at hrecord
  · exact absurd hname hfree

/-- **Conservation of fact rows**: in every compilation that succeeds, exactly when no target column
of the fact is named `source_record_refs` or every row of its input is withheld. -/
theorem fact_rows_conserved_iff {request : CompileRequest} {plan : CompiledPlan}
    {sql : GeneratedSQL} (h : compiler.compile request specs = .ok (plan, sql)) {fact : FactSpec}
    (hf : fact ∈ specs.facts) :
    ∃ table grain measures, request.dataset.table fact.inputTableId = .ok table ∧
      grainById specs.grains fact.grainSpecId = .ok grain ∧
      fact.measureIds.mapM (measureById specs.measures) = .ok measures ∧
      (Conserved specs request.dataset sql fact ↔
        "source_record_refs" ∉ targetColumns fact grain measures ∨
          ∀ row ∈ table.rows, Withheld compiler specs request.dataset fact grain row) := by
  obtain ⟨hchecked, hsql, -⟩ := compile_eq_ok h
  obtain ⟨g⟩ := generateSql_eq_ok hsql
  obtain ⟨c, hc, s, s', hfrom⟩ := g.exists_compiled hf
  obtain ⟨table, htable, hrows⟩ := hfrom.rows_eq
  refine ⟨table, c.context.grain, c.context.measures, htable, hfrom.grain_eq, hfrom.measures_eq, ?_⟩
  have hctx : LoadsFrom compiler specs request.dataset c.context :=
    ⟨hfrom.dimensions_eq, hchecked.dimensionIds, hfrom.materialized_eq ▸ g.materialized_eq⟩
  have hfates := hctx.compileRows_fates hrows
  obtain ⟨hload, hquarantine⟩ := g.block_eq hchecked.factIds hchecked.dimensionIds hc
  rw [hfrom.fact_eq] at hload hquarantine
  constructor
  · rintro ⟨table', grain, dispositions, htable', -, hds, hleft, hright⟩
    cases htable.symm.trans htable'
    by_cases hname : "source_record_refs" ∈ c.context.targetNames
    · right
      have hlen := length_dispositions dispositions
      rw [← hleft, ← hright, hload, hquarantine, ← hds.length_eq] at hlen
      intro row hrow
      have hw := withheld_of_length hfates hname hlen row (mem_sortedBy.2 hrow)
      rwa [hfrom.fact_eq] at hw
    · left
      rwa [← hfrom.targetNames_eq]
  · intro hkept
    have hkept : "source_record_refs" ∉ c.context.targetNames ∨
        ∀ row ∈ sortedBy AnalyticalInputRow.rowRef table.rows,
          Withheld compiler specs request.dataset c.context.fact c.context.grain row := by
      rw [hfrom.targetNames_eq, hfrom.fact_eq]
      exact hkept.imp_right fun hw row hrow => hw row (mem_sortedBy.1 hrow)
    obtain ⟨dispositions, hds, hleft, hright⟩ := exists_dispositions hfates hkept
    rw [hfrom.fact_eq] at hds
    exact ⟨table, c.context.grain, dispositions, htable, hfrom.grain_eq, hds,
      hload.trans hleft, hquarantine.trans hright⟩

/-! ## A small warehouse -/

/-- The digest prefixes of the references of the warehouse below. -/
def demoDigest (namespace_ ref : String) : Fin (2 ^ 64) :=
  if namespace_ = "dim_customer" then
    if ref = "cust:1" then 9822230649782420804 else 7978260082189488582
  else if ref = "2024-01-01" then 16203633368246810864 else 8213242492016271445

def demoCompiler : AnalyticalCompilerService where
  digestPrefix := demoDigest
  isPrintable c := 32 ≤ c.toNat && c.toNat < 127
  dimensionContentHash d := "hash:" ++ d.dimensionId
  factContentHash f := "hash:" ++ f.factId
  grainContentHash g := "hash:" ++ g.grainId
  measureContentHash m := "hash:" ++ m.measureId
  compiledPlanId _ _ := "cplan_0"
  compiledPlanContentHash _ _ := "hash:cplan_0"
  sqlHash _ := "hash:sql"

def demoCustomer (policy : UnknownMemberPolicySpec) : DimensionSpec where
  dimensionId := "dim_customer"
  tableName := "dim_customer"
  inputTableId := some "customers"
  canonicalReferenceColumn := "canonical_entity_id"
  canonicalEntityTypeId := "entity:customer"
  role := .conformed
  eligibilityReason := "reviewed entity"
  surrogateKey := { keyName := "customer_key", namespace_ := "dim_customer" }
  alternateKeyColumns := ["canonical_entity_id"]
  attributes := [{ attributeId := "customer_name", columnName := "customer_name"
                   logicalType := "STRING", inputColumnName := none, derivation := none
                   nullable := false }]
  unknownMemberPolicy := policy
  dateRangeStart := none
  dateRangeEnd := none

def demoDate : DimensionSpec where
  dimensionId := "dim_date"
  tableName := "dim_date"
  inputTableId := none
  canonicalReferenceColumn := "canonical_entity_id"
  canonicalEntityTypeId := "analytical:date"
  role := .date
  eligibilityReason := "calendar"
  surrogateKey := { keyName := "date_key", namespace_ := "dim_date" }
  alternateKeyColumns := ["full_date"]
  attributes := [{ attributeId := "full_date", columnName := "full_date", logicalType := "DATE"
                   inputColumnName := none, derivation := some "FULL_DATE", nullable := false }]
  unknownMemberPolicy := { policy := .quarantineFact, unknownMemberKey := none }
  dateRangeStart := Date.ofYmd 2024 1 1
  dateRangeEnd := Date.ofYmd 2024 1 2

def demoFact (required : Bool) : FactSpec where
  factId := "fact_sales"
  tableName := "fact_sales"
  inputTableId := "sales"
  canonicalEventTypeId := "event:sale"
  canonicalEventRefs := ["event:sale"]
  grainSpecId := "grain_sales"
  dimensionForeignKeys := [
    { relationshipRef := "rel_sale_customer", relationshipScope := .canonicalAccepted
      dimensionId := "dim_customer", factColumn := "customer_key"
      dimensionKeyColumn := "customer_key", inputReferenceColumn := some "customer_ref"
      required := required },
    { relationshipRef := "role_sale_date", relationshipScope := .analyticalTimeRole
      dimensionId := "dim_date", factColumn := "date_key", dimensionKeyColumn := "date_key"
      inputReferenceColumn := some "sale_date", required := true }]
  degenerateDimensionColumns := []
  measureIds := ["measure_1"]
  dateRoleColumns := ["sale_date"]
  relationshipRefs := ["rel_sale_customer", "role_sale_date"]
  childrenAreGiven := by simp

def demoGrain : GrainSpec where
  grainId := "grain_sales"
  factId := "fact_sales"
  humanReadableGrain := "one row for each sale"
  keyColumns := ["sale_id"]
  nullPolicy := .rejectNulls
  validated := true

def demoMeasure (fieldName : String) (h : isIdentifier fieldName = true) : MeasureSpec where
  measureId := "measure_1"
  factId := "fact_sales"
  fieldName := fieldName
  semanticName := "sales_amount"
  aggregationClass := .additive
  aggregationRule := "SUM(amount)"
  unitSemantics := "amount"
  currencySemantics := "none"
  logicalType := "DECIMAL"
  nullable := false
  fieldIsSafe := h

def demoSpecs (policy : UnknownMemberPolicySpec) (measure : MeasureSpec) : SpecPackage where
  dimensions := [demoCustomer policy, demoDate]
  facts := [demoFact (policy.policy ≠ .nullableFk)]
  grains := [demoGrain]
  measures := [measure]

def demoCustomerRow (reference : String) : AnalyticalInputRow where
  rowRef := "row:" ++ reference
  canonicalReference := reference
  values := [⟨"customer_name", .str "Ada"⟩]
  sourceRecordRefs := ["src:" ++ reference]
  lineageRefs := ["lineage:" ++ reference]

def demoSale (measure : MeasureSpec) (h : measure.fieldName ∉ ["sale_id", "customer_ref", "sale_date"])
    (customer : AnalyticalValue) : AnalyticalInputRow where
  rowRef := "row:sale-1"
  canonicalReference := "sale:1"
  values := [⟨"sale_id", .int 1⟩, ⟨"customer_ref", customer⟩, ⟨"sale_date", .str "2024-01-01"⟩,
    ⟨measure.fieldName, .str "9.50"⟩]
  sourceRecordRefs := ["src:sale-1"]
  lineageRefs := ["lineage:sale-1"]
  columnsAreUnique := by
    simp only [mem_cons, not_or, not_mem_nil, not_false_eq_true, and_true] at h
    simp [Ne.symm h.1, Ne.symm h.2.1, Ne.symm h.2.2]

def customerTable (customers : List AnalyticalInputRow) : AnalyticalInputTable where
  tableId := "customers"
  columns := [⟨"customer_name", "STRING"⟩]
  batches := [customers]

def demoDataset (customers : List AnalyticalInputRow) (sales : List AnalyticalInputRow) :
    AnalyticalInputDataset where
  datasetId := "dataset"
  contentHash := "hash:dataset"
  canonicalModelId := "cmodel"
  canonicalModelContentHash := "hash:cmodel"
  tables := [
    customerTable customers,
    { tableId := "sales"
      columns := [⟨"sale_id", "INTEGER"⟩, ⟨"customer_ref", "STRING"⟩, ⟨"sale_date", "DATE"⟩]
      batches := [sales] }]
  sourceSchemaFingerprints := []
  sourceSnapshotFingerprints := []
  tablesAreUnique := by simp [customerTable]

def demoRequest (dataset : AnalyticalInputDataset) : CompileRequest where
  plan :=
    { planId := "aplan", contentHash := "hash:aplan", analyticalSpecPackageHash := "hash:specs"
      canonicalModelId := "cmodel", canonicalModelContentHash := "hash:cmodel"
      inputBindingId := "binding", inputBindingContentHash := "hash:binding"
      acceptedRelationshipRefs := ["rel_sale_customer"]
      materializedDimensionIds := ["dim_customer", "dim_date"]
      materializedFactIds := ["fact_sales"]
      grainSpecIds := ["grain_sales"]
      measureSpecIds := ["measure_1"]
      specContentHashes :=
        { dimension := [("dim_customer", "hash:dim_customer"), ("dim_date", "hash:dim_date")]
          fact := [("fact_sales", "hash:fact_sales")]
          grain := [("grain_sales", "hash:grain_sales")]
          measure := [("measure_1", "hash:measure_1")] }
      reviewState := .reviewRequired
      unresolvedItems := [] }
  binding :=
    { bindingId := "binding", contentHash := "hash:binding", canonicalModelId := "cmodel"
      canonicalModelContentHash := "hash:cmodel", fixtureId := none
      datasetId := some dataset.datasetId, datasetContentHash := some dataset.contentHash
      sourceSchemaFingerprints := [], sourceSnapshotFingerprints := [] }
  dataset := dataset
  targetConfigFingerprint := "config"
  reviewErrors := []

def quarantinePolicy : UnknownMemberPolicySpec := { policy := .quarantineFact, unknownMemberKey := none }

def quarantinedCustomer : DimensionSpec := demoCustomer quarantinePolicy

def amount : MeasureSpec := demoMeasure "amount" (by decide +kernel)

def saleTo (customer : String) : AnalyticalInputRow := demoSale amount (by decide +kernel) (.str customer)

def soldDataset : AnalyticalInputDataset := demoDataset [demoCustomerRow "cust:1"] [saleTo "cust:1"]

def lineageMeasure : MeasureSpec := demoMeasure "source_record_refs" (by decide +kernel)

def returnsFact : FactSpec where
  factId := "fact_returns"
  tableName := "fact_returns"
  inputTableId := "returns"
  canonicalEventTypeId := "event:return"
  canonicalEventRefs := ["event:return"]
  grainSpecId := "grain_returns"
  dimensionForeignKeys := [
    { relationshipRef := "role_return_date", relationshipScope := .analyticalTimeRole
      dimensionId := "dim_date", factColumn := "date_key", dimensionKeyColumn := "date_key"
      inputReferenceColumn := some "return_date", required := true }]
  degenerateDimensionColumns := []
  measureIds := ["measure_2"]
  dateRoleColumns := ["return_date"]
  relationshipRefs := ["role_return_date"]

def lostSpecs : SpecPackage where
  dimensions := [demoCustomer quarantinePolicy, demoDate]
  facts := [demoFact true, returnsFact]
  grains := [demoGrain, { grainId := "grain_returns", factId := "fact_returns"
                          humanReadableGrain := "one row for each return"
                          keyColumns := ["return_id"], nullPolicy := .rejectNulls
                          validated := true }]
  measures := [lineageMeasure, { measureId := "measure_2", factId := "fact_returns"
                                 fieldName := "quantity", semanticName := "returned"
                                 aggregationClass := .additive, aggregationRule := "SUM(quantity)"
                                 unitSemantics := "pieces", currencySemantics := "none"
                                 logicalType := "INTEGER", nullable := false }]

def lostDataset : AnalyticalInputDataset where
  __ := demoDataset [] []
  tables := [
    { tableId := "customers", columns := [⟨"customer_name", "STRING"⟩]
      batches := [[demoCustomerRow "cust:1"]] },
    { tableId := "sales"
      columns := [⟨"sale_id", "INTEGER"⟩, ⟨"customer_ref", "STRING"⟩, ⟨"sale_date", "DATE"⟩]
      batches := [[demoSale lineageMeasure (by decide +kernel) (.str "cust:1")]] },
    { tableId := "returns", columns := [⟨"return_id", "INTEGER"⟩]
      batches := [[{ rowRef := "row:return-1", canonicalReference := "return:1"
                     values := [⟨"return_id", .int 1⟩, ⟨"return_date", .str "2024-01-01"⟩,
                       ⟨"quantity", .int 2⟩]
                     sourceRecordRefs := ["src:return-1"], lineageRefs := ["lineage:return-1"] }]] }]
  tablesAreUnique := by simp

def lostRequest : CompileRequest :=
  { demoRequest lostDataset with
    plan := { (demoRequest lostDataset).plan with
      materializedFactIds := ["fact_sales", "fact_returns"]
      grainSpecIds := ["grain_sales", "grain_returns"]
      measureSpecIds := ["measure_1", "measure_2"]
      specContentHashes :=
        { dimension := [("dim_customer", "hash:dim_customer"), ("dim_date", "hash:dim_date")]
          fact := [("fact_sales", "hash:fact_sales"), ("fact_returns", "hash:fact_returns")]
          grain := [("grain_sales", "hash:grain_sales"), ("grain_returns", "hash:grain_returns")]
          measure := [("measure_1", "hash:measure_1"), ("measure_2", "hash:measure_2")] } } }

theorem soldDataset_compiles : ((demoCompiler.compile (demoRequest soldDataset)
    (demoSpecs quarantinePolicy amount)).toOption.isSome) = true := by decide +kernel

theorem fact_rows_conserved_sold : ∃ plan sql,
    demoCompiler.compile (demoRequest soldDataset) (demoSpecs quarantinePolicy amount) =
      .ok (plan, sql) ∧
    Conserved (demoSpecs quarantinePolicy amount) soldDataset sql (demoFact true) := by
  obtain ⟨⟨plan, sql⟩, h⟩ := exists_ok_of_isSome soldDataset_compiles
  have hf : demoFact true ∈ (demoSpecs quarantinePolicy amount).facts := .head _
  obtain ⟨table, grain, measures, -, hgrain, hmeasures, hiff⟩ := fact_rows_conserved_iff h hf
  refine ⟨plan, sql, h, hiff.2 (.inl ?_)⟩
  obtain rfl : demoGrain = grain := Except.ok.inj hgrain
  obtain rfl : [amount] = measures := Except.ok.inj hmeasures
  decide +kernel

/-- A measure named `source_record_refs` makes the load of its fact empty. -/
theorem lineage_measure_loses_rows : ∃ plan sql,
    demoCompiler.compile lostRequest lostSpecs = .ok (plan, sql) ∧
    ¬ Conserved lostSpecs lostDataset sql (demoFact true) := by
  have hrun : ((demoCompiler.compile lostRequest lostSpecs).toOption.map fun r =>
      (factLoad r.2 (demoFact true), factQuarantine r.2 (demoFact true))) = some ([], []) := by
    decide +kernel
  obtain ⟨⟨plan, sql⟩, h, hblocks⟩ := exists_ok_of_map hrun
  obtain ⟨hload, hquarantine⟩ := Prod.mk.inj hblocks
  refine ⟨plan, sql, h, ?_⟩
  rintro ⟨table, grain, dispositions, htable, -, hds, hleft, hright⟩
  have hlen := length_dispositions dispositions
  rw [← hleft, ← hright, hload, hquarantine, ← hds.length_eq,
    (sortedBy_perm _ _).length_eq] at hlen
  obtain rfl : lostDataset.tables[1] = table := Except.ok.inj htable
  revert hlen
  decide +kernel

end DirtyDataOlap.Analytical.AnalyticalCompilerService

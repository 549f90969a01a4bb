import DirtyDataOlap.AnalyticalPlanner
import DirtyDataOlap.FactConservation

/-!
# Keys of planned facts

The planner compares the keys of the rows as the interpreter does; the load stores them as values of
the declared column types.  **The stored keys of a load are distinct exactly when no two loaded rows
merge** (`validated_grain_keys`).
-/
namespace DirtyDataOlap.Analytical

open List Except AnalyticalCompilerService

variable {planner : AnalyticalPlannerService} {model : FinalizedModel}
  {binding : AnalyticalInputBinding} {planned dataset : AnalyticalInputDataset}
  {request : AnalyticalPlanningRequest} {plan : AnalyticalPlan} {specs : SpecPackage} {κ : Type}

/-! ## What a plan has checked -/

theorem refuseIf_eq_ok {condition : Prop} [Decidable condition] {message : String} {u : Unit} :
    refuseIf condition message = .ok u ↔ ¬ condition := by
  unfold refuseIf
  split <;> rename_i h <;> simp [h]

/-- The input table and the grain of a fact, and the declared types of the columns of its key: what the
generated `PRIMARY KEY` of the fact is made of. -/
structure KeyedBy (specs : SpecPackage) (dataset : AnalyticalInputDataset) (fact : FactSpec)
    (table : AnalyticalInputTable) (grain : GrainSpec) (types : List String) : Prop where
  table_eq : dataset.table fact.inputTableId = .ok table
  grain_eq : grainById specs.grains fact.grainSpecId = .ok grain
  types_eq : grain.keyColumns.mapM (inputType table) = .ok types

variable (planner) in
/-- The key that the planner compares a row by.  A row with a null in a column of the grain has none, as
`validate_grain` leaves it to the null policy. -/
def CompleteKey (grain : GrainSpec) (index : Nat) (row : AnalyticalInputRow)
    (key : List (List Validation.Token)) : Prop :=
  ∃ values, grain.keyColumns.mapM row.valueFor = .ok values ∧ .none ∉ values ∧
    planner.setKey index values = key

variable {grain : GrainSpec} {rows : List AnalyticalInputRow} {table : AnalyticalInputTable}

theorem rowKey_eq_ok {row : AnalyticalInputRow} {index : Nat}
    {key : Option (List (List Validation.Token))} (h : planner.rowKey grain (row, index) = .ok key)
    {values : List AnalyticalValue} (hvalues : grain.keyColumns.mapM row.valueFor = .ok values)
    (hnone : .none ∉ values) : key = some (planner.setKey index values) := by
  obtain ⟨values', hvalues', h⟩ := bind_eq_ok.1 h
  have hsame : values' = values := by
    have hread : Forall₂ (fun column value => row.valueFor column = .ok value)
        grain.keyColumns values' := by
      refine (mapM_eq_ok.1 hvalues').imp fun column value hvalue => ?_
      split at hvalue
      · rename_i v hv
        rw [← ok.inj hvalue]
        exact hv
      · cases hvalue
    exact ok.inj ((mapM_eq_ok.2 hread).symm.trans hvalues)
  subst hsame
  rw [if_neg hnone] at h
  exact (ok.inj h).symm

theorem validateGrain_distinct {grain' : GrainSpec}
    (h : planner.validateGrain rows grain = .ok grain') :
    grain'.keyColumns = grain.keyColumns ∧ grain'.grainId = grain.grainId ∧
      ∀ i j (hi : i < rows.length) (hj : j < rows.length), i < j →
        ∀ key key', CompleteKey planner grain i rows[i] key →
          CompleteKey planner grain j rows[j] key' → key ≠ key' := by
  obtain ⟨_, -, h⟩ := bind_eq_ok.1 h
  obtain ⟨keys, hkeys, h⟩ := bind_eq_ok.1 h
  obtain ⟨_, hdistinct, h⟩ := bind_eq_ok.1 h
  cases h
  refine ⟨rfl, rfl, ?_⟩
  rw [refuseIf_eq_ok, not_not] at hdistinct
  have hnodup : (keys.filterMap id).Nodup := by
    show keys.reduceOption.Nodup
    have hle := (dedup_sublist keys.reduceOption).length_le
    have heq : keys.reduceOption.dedup.length = keys.reduceOption.length := by omega
    rw [← (dedup_sublist keys.reduceOption).eq_of_length heq]
    exact nodup_dedup _
  have hall := mapM_eq_ok.1 hkeys
  have hlength : rows.length = keys.length := by
    rw [← hall.length_eq, length_zipIdx]
  have hkeyAt : ∀ i (hi : i < rows.length) key, CompleteKey planner grain i rows[i] key →
      keys.get ⟨i, hlength ▸ hi⟩ = some key := by
    rintro i hi key ⟨values, hvalues, hnone, rfl⟩
    have hrun := (forall₂_iff_get.1 hall).2 i (by rw [length_zipIdx]; exact hi)
      (hlength ▸ hi)
    simp only [get_eq_getElem, getElem_zipIdx, Nat.zero_add] at hrun
    exact rowKey_eq_ok hrun hvalues hnone
  intro i j hi hj hij key key' hkey hkey' heq
  rw [List.Nodup, pairwise_filterMap, pairwise_iff_getElem] at hnodup
  exact hnodup i j (hlength ▸ hi) (hlength ▸ hj) hij key (hkeyAt i hi key hkey) key'
    (hkeyAt j hj key' hkey') heq

variable (planner binding planned plan specs) in
/-- What a plan that was built has checked. -/
structure GrainsChecked : Prop where
  bound : ∀ id, binding.datasetId = some id → binding.datasetContentHash = some planned.contentHash
  bindingHash : plan.inputBindingContentHash = binding.contentHash
  grains : ∀ fact ∈ specs.facts, ∃ grain ∈ specs.grains, grain.grainId = fact.grainSpecId
  /-- The grain with an id was validated over the rows of every fact that names it. -/
  distinct : ∀ fact ∈ specs.facts, ∀ grain ∈ specs.grains, grain.grainId = fact.grainSpecId →
    ∃ table, planned.table fact.inputTableId = .ok table ∧
      ∀ i j (hi : i < table.rows.length) (hj : j < table.rows.length), i < j →
        ∀ key key', CompleteKey planner grain i table.rows[i] key →
          CompleteKey planner grain j table.rows[j] key' → key ≠ key'

theorem plannedTable_eq_ok {tableId : String} (h : plannedTable planned tableId = .ok table) :
    planned.table tableId = .ok table := by
  unfold plannedTable at h
  split at h
  · rename_i t ht
    rw [ht, ok.inj h]
  · cases h

theorem buildPlan_eq_ok (h : planner.buildPlan model binding planned request = .ok (plan, specs)) :
    GrainsChecked planner binding planned plan specs := by
  obtain ⟨_, hinputs, h⟩ := bind_eq_ok.1 h
  obtain ⟨_, -, h⟩ := bind_eq_ok.1 h
  obtain ⟨_, -, h⟩ := bind_eq_ok.1 h
  obtain ⟨grains, hgrains, h⟩ := bind_eq_ok.1 h
  obtain ⟨_, -, h⟩ := bind_eq_ok.1 h
  cases h
  -- the grain of a fact is the validated one of the request
  have hone : ∀ fact grain', planner.factGrain planned request fact = .ok grain' →
      ∃ grain table, request.grains.find? (·.grainId = fact.grainSpecId) = some grain ∧
        planned.table fact.inputTableId = .ok table ∧
        planner.validateGrain table.rows grain = .ok grain' := by
    intro fact grain' hgrain
    unfold AnalyticalPlannerService.factGrain at hgrain
    split at hgrain
    · cases hgrain
    · rename_i grain hfind
      obtain ⟨table, htable, hgrain⟩ := bind_eq_ok.1 hgrain
      exact ⟨grain, table, hfind, plannedTable_eq_ok htable, hgrain⟩
  have hall := mapM_eq_ok.1 hgrains
  refine ⟨?_, rfl, ?_, ?_⟩
  · obtain ⟨_, -, hinputs⟩ := bind_eq_ok.1 hinputs
    obtain ⟨_, hbinding, -⟩ := bind_eq_ok.1 hinputs
    intro id hid
    rw [AnalyticalPlannerService.identifyDataset, hid] at hbinding
    simp only [refuseIf_eq_ok, not_or, not_not] at hbinding
    exact hbinding.2
  · intro fact hfact
    obtain ⟨grain', hmem, hrun⟩ := exists_right_of_forall₂ hall hfact
    obtain ⟨grain, table, hfind, -, hvalid⟩ := hone fact grain' hrun
    have hid : grain.grainId = fact.grainSpecId := by simpa using find?_some hfind
    exact ⟨grain', hmem, (validateGrain_distinct hvalid).2.1.trans hid⟩
  · intro fact hfact grain' hmem hid'
    obtain ⟨own, -, hrun⟩ := exists_right_of_forall₂ hall hfact
    obtain ⟨grain, table, hfind, htable, hvalid⟩ := hone fact own hrun
    obtain ⟨other, -, hrun'⟩ := exists_left_of_forall₂ hall hmem
    obtain ⟨grain2, table2, hfind2, -, hvalid2⟩ := hone other grain' hrun'
    obtain ⟨hcols, hgid, hdistinct⟩ := validateGrain_distinct hvalid
    obtain ⟨hcols2, hgid2, -⟩ := validateGrain_distinct hvalid2
    have hspec : fact.grainSpecId = other.grainSpecId := by
      have h2 : grain2.grainId = other.grainSpecId := by simpa using find?_some hfind2
      rw [← hid', hgid2, h2]
    rw [← hspec, hfind] at hfind2
    cases hfind2
    refine ⟨table, htable, fun i j hi hj hij key key' hkey hkey' => ?_⟩
    rw [CompleteKey, hcols2] at hkey hkey'
    exact hdistinct i j hi hj hij key key' hkey hkey'

/-! ## The keys of a load -/

/-- The key of a row as the table of its fact stores it: each value converted to the declared type of
its column. -/
def storedKey (convert : String → AnalyticalValue → κ) (grain : GrainSpec) (types : List String)
    (row : AnalyticalInputRow) : List κ :=
  zipWith convert types ((grainValues grain row).toOption.getD [])

/-- No policy withholds the row, and the fact has no column named like the lineage column. -/
def Loads (compiler : AnalyticalCompilerService) (specs : SpecPackage)
    (dataset : AnalyticalInputDataset) (fact : FactSpec) (grain : GrainSpec)
    (row : AnalyticalInputRow) : Prop :=
  ¬ Withheld compiler specs dataset fact grain row ∧ ∃ measures,
    fact.measureIds.mapM (measureById specs.measures) = .ok measures ∧
    "source_record_refs" ∉ targetColumns fact grain measures

/-- The keys that are stored in a fact table are distinct, under the conversion of its columns. -/
def StoredKeysDistinct (convert : String → AnalyticalValue → κ) (specs : SpecPackage)
    (dataset : AnalyticalInputDataset) (sql : GeneratedSQL) : Prop :=
  ∀ fact ∈ specs.facts, ∀ table grain types, KeyedBy specs dataset fact table grain types →
    ((factLoad sql fact).map (zipWith convert types)).Nodup

variable {compiler : AnalyticalCompilerService}

theorem map_stored_eq (convert : String → AnalyticalValue → κ) {types : List String}
    {ctx : FactContext} (hlength : types.length = ctx.grain.keyColumns.length)
    (L : AnalyticalInputRow → Prop) [DecidablePred L]
    (hL : ∀ row, L row ↔ ¬ Withheld compiler specs dataset ctx.fact ctx.grain row ∧
      "source_record_refs" ∉ ctx.targetNames) {outcomes : List RowOutcome}
    (h : Forall₂ (Fate compiler specs dataset ctx) rows outcomes) :
    (outcomes.filterMap RowOutcome.loadedRow).map (zipWith convert types) =
      (rows.filter L).map (storedKey convert ctx.grain types) := by
  induction h with
  | nil => rfl
  | @cons row outcome rows outcomes hfate _ ih =>
    rcases hfate with ⟨hw, record, rfl, -⟩ | ⟨hw, ⟨hname, rfl⟩ | ⟨hname, values, rfl, hstands⟩⟩
    · rw [filter_cons_of_neg (by simp [hL, hw])]
      exact ih
    · rw [filter_cons_of_neg (by simp [hL, hname])]
      exact ih
    · rw [filter_cons_of_pos (by simp [hL, hw, hname]), map_cons, ← ih]
      obtain ⟨key, middle, refs, hkey, rfl⟩ := hstands
      refine congrArg (· :: _) ?_
      have hread : grainValues ctx.grain row = .ok key := by
        rw [grainValues, mapM_eq_ok]
        refine (mapM_eq_ok.1 hkey).imp fun column value hvalue => ?_
        rw [hvalue]
      have hkeyLength : types.length = key.length := by
        rw [hlength, (mapM_eq_ok.1 hkey).length_eq]
      rw [storedKey, hread, append_assoc, append_assoc]
      show zipWith convert types (key ++ _) = zipWith convert types key
      rw [← append_nil types, zipWith_append hkeyLength]
      simp

/-- **The keys of one load**, by pairs of rows. -/
theorem stored_nodup_iff {creq : CompileRequest} {cplan : CompiledPlan} {sql : GeneratedSQL}
    (convert : String → AnalyticalValue → κ) (h : compiler.compile creq specs = .ok (cplan, sql))
    {fact : FactSpec} (hf : fact ∈ specs.facts) {types : List String}
    (hkeyed : KeyedBy specs creq.dataset fact table grain types) :
    ((factLoad sql fact).map (zipWith convert types)).Nodup ↔
      ∀ i j (hi : i < table.rows.length) (hj : j < table.rows.length), i < j →
        Loads compiler specs creq.dataset fact grain table.rows[i] →
        Loads compiler specs creq.dataset fact grain table.rows[j] →
        storedKey convert grain types table.rows[i] ≠ storedKey convert grain types table.rows[j] := by
  classical
  obtain ⟨hchecked, hsql, -⟩ := compile_eq_ok h
  obtain ⟨g⟩ := generateSql_eq_ok hsql
  obtain ⟨c, hc, s, s', hfrom⟩ := g.exists_compiled hf
  obtain ⟨table', htable', hrows⟩ := hfrom.rows_eq
  cases hkeyed.table_eq.symm.trans htable'
  cases hkeyed.grain_eq.symm.trans hfrom.grain_eq
  have hctx : LoadsFrom compiler specs creq.dataset c.context :=
    ⟨hfrom.dimensions_eq, hchecked.dimensionIds, hfrom.materialized_eq ▸ g.materialized_eq⟩
  have hfates := hctx.compileRows_fates hrows
  obtain ⟨hload, -⟩ := g.block_eq hchecked.factIds hchecked.dimensionIds hc
  rw [hfrom.fact_eq] at hload
  have hL : ∀ row, Loads compiler specs creq.dataset fact c.context.grain row ↔
      ¬ Withheld compiler specs creq.dataset c.context.fact c.context.grain row ∧
        "source_record_refs" ∉ c.context.targetNames := by
    intro row
    rw [Loads, hfrom.fact_eq, hfrom.targetNames_eq]
    refine and_congr_right fun _ => ⟨?_, fun hname => ⟨_, hfrom.measures_eq, hname⟩⟩
    rintro ⟨measures, hmeasures, hname⟩
    rwa [ok.inj (hmeasures.symm.trans hfrom.measures_eq)] at hname
  have hlength : types.length = c.context.grain.keyColumns.length :=
    (mapM_eq_ok.1 hkeyed.types_eq).length_eq.symm
  rw [hload, map_stored_eq convert hlength _ hL hfates, List.Nodup, pairwise_map,
    pairwise_filter,
    (sortedBy_perm AnalyticalInputRow.rowRef table.rows).pairwise_iff (fun hab hb ha => (hab ha hb).symm),
    pairwise_iff_getElem]
  simp only [decide_eq_true_eq, ne_eq]

/-! ## Planned and loaded -/

/-- Two loaded rows are stored under one key that the planner has told apart. -/
inductive Merges (planner : AnalyticalPlannerService) (convert : String → AnalyticalValue → κ)
    (specs : SpecPackage) (planned dataset : AnalyticalInputDataset) (fact : FactSpec) : Prop
  | intro (table : AnalyticalInputTable) (grain : GrainSpec) (types : List String) (i j : Nat)
      (keyed : KeyedBy specs dataset fact table grain types) (hi : i < table.rows.length)
      (hj : j < table.rows.length) (lt : i < j)
      (left : Loads planner.compiler specs dataset fact grain table.rows[i])
      (right : Loads planner.compiler specs dataset fact grain table.rows[j])
      (merged : storedKey convert grain types table.rows[i] =
        storedKey convert grain types table.rows[j])
      (apart : planned.tables = dataset.tables →
        ∀ key key', CompleteKey planner grain i table.rows[i] key →
          CompleteKey planner grain j table.rows[j] key' → key ≠ key')

theorem compile_bound {creq : CompileRequest} {cplan : CompiledPlan} {sql : GeneratedSQL}
    (h : compiler.compile creq specs = .ok (cplan, sql)) :
    creq.binding.contentHash = creq.plan.inputBindingContentHash ∧
      ∀ id, creq.binding.datasetId = some id →
        creq.binding.datasetContentHash = some creq.dataset.contentHash := by
  obtain ⟨_, hplan, h⟩ := bind_eq_ok.1 h
  obtain ⟨_, hbinding, -⟩ := bind_eq_ok.1 h
  constructor
  · unfold validatePlanAndReview at hplan
    simp only [bind_eq_ok, raiseIf_eq_ok] at hplan
    obtain ⟨_, -, _, -, _, -, _, hstale, -⟩ := hplan
    exact not_not.1 fun hne => hstale (.inr hne)
  · intro id hid
    unfold validateDatasetBinding at hbinding
    rw [hid] at hbinding
    obtain ⟨_, hstale, -⟩ := bind_eq_ok.1 hbinding
    rw [raiseIf_eq_ok] at hstale
    exact not_not.1 fun hne => hstale (.inr hne)

/-! ### Another content hash

Without a dataset in its binding, a compilation never reads the content hash.
-/

/-- The request over a dataset that differs in its content hash and, with it, in something that no
table shows. -/
def AnalyticalCompilerService.CompileRequest.rehashed (creq : CompileRequest) (contentHash : String) : CompileRequest :=
  { creq with dataset := { creq.dataset with contentHash := contentHash } }

theorem compileFacts_rehashed (dimensions : List DimensionSpec) (grains : List GrainSpec)
    (measures : List MeasureSpec) (contentHash : String) (materialized : List MaterializedDimension)
    (facts : List FactSpec) (scope : LoadScope) :
    compiler.compileFacts dimensions grains measures { dataset with contentHash := contentHash }
      materialized facts scope =
        compiler.compileFacts dimensions grains measures dataset materialized facts scope := by
  induction facts generalizing scope with
  | nil => rfl
  | cons fact facts ih =>
    have hfact : compiler.compileFact dimensions grains measures
        { dataset with contentHash := contentHash } materialized fact scope =
          compiler.compileFact dimensions grains measures dataset materialized fact scope := rfl
    unfold AnalyticalCompilerService.compileFacts
    rw [hfact]
    simp only [ih]

theorem generateSql_rehashed (dimensions : List DimensionSpec) (facts : List FactSpec)
    (grains : List GrainSpec) (measures : List MeasureSpec) (contentHash : String) :
    compiler.generateSql dimensions facts grains measures { dataset with contentHash := contentHash } =
      compiler.generateSql dimensions facts grains measures dataset := by
  have hrows : compiler.dimensionRows dimensions { dataset with contentHash := contentHash } =
      compiler.dimensionRows dimensions dataset := rfl
  unfold AnalyticalCompilerService.generateSql
  rw [hrows]
  simp only [compileFacts_rehashed]

theorem compile_rehashed {creq : CompileRequest} (h : creq.binding.datasetId = none)
    (contentHash : String) :
    compiler.compile (creq.rehashed contentHash) specs = compiler.compile creq specs := by
  have hbinding : validateDatasetBinding (creq.rehashed contentHash) = validateDatasetBinding creq := by
    have h' : (creq.rehashed contentHash).binding.datasetId = none := h
    unfold validateDatasetBinding
    rw [h, h']
    rfl
  have hsql : compiler.generateSql specs.dimensions specs.facts specs.grains specs.measures
      { creq.dataset with contentHash := contentHash } = compiler.generateSql specs.dimensions
        specs.facts specs.grains specs.measures creq.dataset :=
    generateSql_rehashed specs.dimensions specs.facts specs.grains specs.measures contentHash
  unfold AnalyticalCompilerService.compile
  rw [hbinding]
  show (compiler.validatePlanAndReview creq specs).bind _ = _
  rw [show (creq.rehashed contentHash).dataset = { creq.dataset with contentHash := contentHash } from
    rfl, hsql]
  rfl

/-- A binding that names the dataset pins the content hash of what is compiled. -/
theorem compiled_hash (hplan : planner.buildPlan model binding planned request = .ok (plan, specs))
    (creq : CompileRequest) (hreviewed : creq.plan = plan)
    (hdigest : creq.binding.contentHash = binding.contentHash →
      creq.binding.datasetId = binding.datasetId ∧
        creq.binding.datasetContentHash = binding.datasetContentHash)
    (hsome : binding.datasetId.isSome = true) {cplan : CompiledPlan} {sql : GeneratedSQL}
    (h : compiler.compile creq specs = .ok (cplan, sql)) :
    creq.dataset.contentHash = planned.contentHash := by
  have hchecked := buildPlan_eq_ok hplan
  obtain ⟨hhash, hbound⟩ := compile_bound h
  obtain ⟨id, hid⟩ := Option.isSome_iff_exists.1 hsome
  rw [hreviewed, hchecked.bindingHash] at hhash
  obtain ⟨hids, hcontents⟩ := hdigest hhash
  have hcompiled := hbound id (hids.trans hid)
  rw [hcontents, hchecked.bound id hid] at hcompiled
  exact (Option.some.inj hcompiled).symm

theorem merges_iff (convert : String → AnalyticalValue → κ)
    (hplan : planner.buildPlan model binding planned request = .ok (plan, specs))
    {creq : CompileRequest} {cplan : CompiledPlan} {sql : GeneratedSQL}
    (h : planner.compiler.compile creq specs = .ok (cplan, sql)) :
    StoredKeysDistinct convert specs creq.dataset sql ↔
      ∀ fact ∈ specs.facts, ¬ Merges planner convert specs planned creq.dataset fact := by
  have hchecked := buildPlan_eq_ok hplan
  constructor
  · rintro hdistinct fact hf ⟨table, grain, types, i, j, hkeyed, hi, hj, hij, hleft, hright, hmerged, -⟩
    exact (stored_nodup_iff convert h hf hkeyed).1 (hdistinct fact hf table grain types hkeyed) i j
      hi hj hij hleft hright hmerged
  · intro hmerges fact hf table grain types hkeyed
    rw [stored_nodup_iff convert h hf hkeyed]
    intro i j hi hj hij hleft hright hmerged
    refine hmerges fact hf ⟨table, grain, types, i, j, hkeyed, hi, hj, hij, hleft, hright, hmerged, ?_⟩
    -- the planner has seen these rows
    intro htables
    obtain ⟨hmem, hid⟩ : grain ∈ specs.grains ∧ grain.grainId = fact.grainSpecId := by
      have hget := hkeyed.grain_eq
      unfold grainById lookupKey at hget
      split at hget
      · rename_i value hvalue
        obtain ⟨g, hg, hgid, hval⟩ := getItem_map_eq_some hvalue
        cases hget
        exact ⟨hval ▸ hg, hval ▸ hgid⟩
      · cases hget
    obtain ⟨table', htable', hdistinct⟩ := hchecked.distinct fact hf grain hmem hid
    have htable : planned.table fact.inputTableId = .ok table := by
      rw [AnalyticalInputDataset.table, htables]
      exact hkeyed.table_eq
    cases htable.symm.trans htable'
    exact hdistinct i j hi hj hij

/-- **Validated grain and loaded keys**: a plan compiles over these tables with the planned content
hash only, and to distinct stored keys, exactly when the binding names the dataset and no two loaded
rows merge. -/
theorem validated_grain_keys (convert : String → AnalyticalValue → κ)
    (hplan : planner.buildPlan model binding planned request = .ok (plan, specs))
    {creq : CompileRequest} (hreviewed : creq.plan = plan)
    -- the digests of two bindings do not collide
    (hdigest : creq.binding.contentHash = binding.contentHash →
      creq.binding.datasetId = binding.datasetId ∧
        creq.binding.datasetContentHash = binding.datasetContentHash)
    {cplan : CompiledPlan} {sql : GeneratedSQL}
    (h : planner.compiler.compile creq specs = .ok (cplan, sql)) :
    (∀ contentHash cplan' sql',
        planner.compiler.compile (creq.rehashed contentHash) specs = .ok (cplan', sql') →
          contentHash = planned.contentHash ∧
            StoredKeysDistinct convert specs (creq.rehashed contentHash).dataset sql') ↔
      binding.datasetId.isSome = true ∧
        ∀ fact ∈ specs.facts, ¬ Merges planner convert specs planned creq.dataset fact := by
  rw [← merges_iff convert hplan h]
  constructor
  · intro hall
    refine ⟨?_, (hall creq.dataset.contentHash cplan sql h).2⟩
    by_contra hnone
    -- a binding without a dataset compiles whatever the hash is
    have hbinding : creq.binding.datasetId = none := by
      obtain ⟨hhash, -⟩ := compile_bound h
      rw [hreviewed, (buildPlan_eq_ok hplan).bindingHash] at hhash
      rw [(hdigest hhash).1]
      exact Option.not_isSome_iff_eq_none.1 hnone
    have hany : ∀ contentHash, contentHash = planned.contentHash := fun contentHash =>
      (hall contentHash cplan sql ((compile_rehashed hbinding contentHash).trans h)).1
    exact absurd ((hany "").trans (hany "0").symm) (by decide)
  · rintro ⟨hsome, hdistinct⟩ contentHash cplan' sql' h'
    have hhash : contentHash = planned.contentHash := compiled_hash hplan
      (creq.rehashed contentHash) hreviewed hdigest hsome h'
    have hown := compiled_hash hplan creq hreviewed hdigest hsome h
    have hsame : creq.rehashed contentHash = creq := by
      rw [hhash, ← hown]
      rfl
    rw [hsame] at h' ⊢
    cases h.symm.trans h'
    exact ⟨hhash, hdistinct⟩

/-! ## A small plan -/

def keyPlanner : AnalyticalPlannerService where
  compiler := demoCompiler
  planId _ binding _ := "aplan:" ++ binding
  planContentHash planId := "hash:" ++ planId
  specPackageHash _ := "hash:specs"
  nanObject row column := row + column

def keyModel : FinalizedModel where
  modelId := "cmodel"
  contentHash := "hash:cmodel"
  entityTypeIds := ["entity:customer", "event:sale"]
  relationshipIds := ["rel_sale_customer"]

def namedCustomer : DimensionSpec :=
  { quarantinedCustomer with
    alternateKeyColumns := ["customer_name"]
    keysAreDistinct := by decide +kernel }

def keyRequest : AnalyticalPlanningRequest where
  dimensions := [namedCustomer, demoDate]
  facts := [demoFact true]
  grains := [{ demoGrain with validated := false }]
  measures := [amount]
  acceptedRelationshipRefs := ["rel_sale_customer"]
  reviewState := .reviewRequired
  partsAreGiven := by simp

def keySale (rowRef : String) (saleId : AnalyticalValue) : AnalyticalInputRow where
  rowRef := rowRef
  canonicalReference := rowRef
  values := [⟨"sale_id", saleId⟩, ⟨"customer_ref", .str "cust:1"⟩, ⟨"sale_date", .str "2024-01-01"⟩,
    ⟨"amount", .int 5⟩]
  sourceRecordRefs := [rowRef]
  lineageRefs := [rowRef]
  columnsAreUnique := by simp

def keyDataset (contentHash : String) (sales : List AnalyticalInputRow) : AnalyticalInputDataset where
  __ := demoDataset [] []
  contentHash := contentHash
  tables := [
    customerTable [demoCustomerRow "cust:1"],
    { tableId := "sales"
      columns := [⟨"sale_id", "INTEGER"⟩, ⟨"customer_ref", "STRING"⟩, ⟨"sale_date", "DATE"⟩,
        ⟨"amount", "DECIMAL"⟩]
      batches := [sales] }]
  tablesAreUnique := by simp [customerTable]

def keyBinding (fixtureId datasetId datasetContentHash : Option String) : AnalyticalInputBinding where
  bindingId := "binding"
  contentHash := "hash:binding"
  canonicalModelId := "cmodel"
  canonicalModelContentHash := "hash:cmodel"
  fixtureId := fixtureId
  datasetId := datasetId
  datasetContentHash := datasetContentHash
  sourceSchemaFingerprints := []
  sourceSnapshotFingerprints := []

variable (binding dataset) in
def compilePlanned (built : AnalyticalPlan × SpecPackage) :
    Except Raised (CompiledPlan × GeneratedSQL) :=
  demoCompiler.compile ⟨built.1, binding, dataset, "config", []⟩ built.2

/-- What an `INTEGER` column stores of integers and of their numerals. -/
def storedInteger (_ : String) : AnalyticalValue → Option Int
  | .int n => some n
  | .str text => (Date.number text.toList).map Int.ofNat
  | _ => none

/-- Two sales that only a conversion makes one. -/
def numeralDataset : AnalyticalInputDataset :=
  keyDataset "hash:dataset" [keySale "sale:1" (.int 1), keySale "sale:2" (.str "1")]

/-- Two sales with one key. -/
def repeatedDataset : AnalyticalInputDataset :=
  keyDataset "hash:other" [keySale "sale:1" (.int 1), keySale "sale:2" (.int 1)]

def singleDataset : AnalyticalInputDataset := keyDataset "hash:dataset" [keySale "sale:1" (.int 1)]

def salesDataset : AnalyticalInputDataset :=
  keyDataset "hash:dataset" [keySale "sale:1" (.int 1), keySale "sale:2" (.int 2)]

def namedBinding : AnalyticalInputBinding := keyBinding none (some "dataset") (some "hash:dataset")

def fixtureBinding : AnalyticalInputBinding := keyBinding (some "dataset") none none

def plannedKeys (binding : AnalyticalInputBinding) (planned compiled : AnalyticalInputDataset) :
    Option ((List FactSpec × List GrainSpec) × List (List (Option Int))) :=
  (keyPlanner.buildPlan keyModel binding planned keyRequest).toOption.bind fun built =>
    (compilePlanned binding compiled built).toOption.map fun r =>
      ((built.2.facts, built.2.grains),
        (factLoad r.2 (demoFact true)).map (zipWith storedInteger ["INTEGER"]))

theorem exists_of_plannedKeys {binding : AnalyticalInputBinding}
    {planned compiled : AnalyticalInputDataset}
    {result : (List FactSpec × List GrainSpec) × List (List (Option Int))}
    (h : plannedKeys binding planned compiled = some result) : ∃ plan specs cplan sql,
      keyPlanner.buildPlan keyModel binding planned keyRequest = .ok (plan, specs) ∧
      demoCompiler.compile ⟨plan, binding, compiled, "config", []⟩ specs = .ok (cplan, sql) ∧
      ((specs.facts, specs.grains),
        (factLoad sql (demoFact true)).map (zipWith storedInteger ["INTEGER"])) = result := by
  obtain ⟨⟨plan, specs⟩, hbuilt, h⟩ := Option.bind_eq_some_iff.1 h
  obtain ⟨⟨cplan, sql⟩, hcompile, hresult⟩ := exists_ok_of_map h
  exact ⟨plan, specs, cplan, sql, toOption_eq_some.1 hbuilt, hcompile, hresult⟩

theorem validated_grain_keys_two : ∃ plan specs cplan sql,
    keyPlanner.buildPlan keyModel namedBinding salesDataset keyRequest = .ok (plan, specs) ∧
    demoCompiler.compile ⟨plan, namedBinding, salesDataset, "config", []⟩ specs = .ok (cplan, sql) ∧
    (factLoad sql (demoFact true)).length = 2 ∧
    StoredKeysDistinct storedInteger specs salesDataset sql := by
  have hrun : plannedKeys namedBinding salesDataset salesDataset =
      some (([demoFact true], [demoGrain]), [[some 1], [some 2]]) := by decide +kernel
  obtain ⟨plan, specs, cplan, sql, hplan, hcompile, hresult⟩ := exists_of_plannedKeys hrun
  obtain ⟨hspecs, hkeys⟩ := Prod.mk.inj hresult
  obtain ⟨hfacts, hgrains⟩ := Prod.mk.inj hspecs
  refine ⟨plan, specs, cplan, sql, hplan, hcompile, by simpa using congrArg length hkeys, ?_⟩
  have hiff := @validated_grain_keys _ _ _ _ _ _ _ _ storedInteger hplan
    ⟨plan, namedBinding, salesDataset, "config", []⟩ rfl (fun _ => ⟨rfl, rfl⟩) _ _ hcompile
  refine (hiff.2 ⟨rfl, ?_⟩ "hash:dataset" cplan sql hcompile).2
  rw [hfacts]
  rintro fact hfact ⟨table, grain, types, i, j, ⟨htable, hgrain, htypes⟩, hi, hj, hij, -, -, hmerged, -⟩
  obtain rfl := mem_singleton.1 hfact
  rw [hgrains] at hgrain
  cases hgrain
  cases htable
  cases htypes
  -- the two sales are the only pair of rows
  have hlast : j < 2 := hj
  obtain ⟨rfl, rfl⟩ : i = 0 ∧ j = 1 := by omega
  have hapart : storedKey storedInteger demoGrain ["INTEGER"] (keySale "sale:1" (.int 1)) ≠
      storedKey storedInteger demoGrain ["INTEGER"] (keySale "sale:2" (.int 2)) := by decide +kernel
  exact hapart hmerged

/-- A conversion merges keys that the planner tells apart; a binding without a dataset lets another
one compile. -/
theorem grain_keys_merge : (∃ plan specs cplan sql,
      keyPlanner.buildPlan keyModel namedBinding numeralDataset keyRequest = .ok (plan, specs) ∧
      demoCompiler.compile ⟨plan, namedBinding, numeralDataset, "config", []⟩ specs =
        .ok (cplan, sql) ∧
      ¬ StoredKeysDistinct storedInteger specs numeralDataset sql) ∧ ∃ plan specs cplan sql,
      keyPlanner.buildPlan keyModel fixtureBinding singleDataset keyRequest = .ok (plan, specs) ∧
      demoCompiler.compile ⟨plan, fixtureBinding, repeatedDataset, "config", []⟩ specs =
        .ok (cplan, sql) ∧ repeatedDataset.contentHash ≠ singleDataset.contentHash ∧
      ¬ StoredKeysDistinct storedInteger specs repeatedDataset sql := by
  have hnumeral : plannedKeys namedBinding numeralDataset numeralDataset =
      some (([demoFact true], [demoGrain]), [[some 1], [some 1]]) := by decide +kernel
  have hrepeated : plannedKeys fixtureBinding singleDataset repeatedDataset =
      some (([demoFact true], [demoGrain]), [[some 1], [some 1]]) := by decide +kernel
  have hclash : ∀ {dataset : AnalyticalInputDataset} {specs : SpecPackage} {sql : GeneratedSQL},
      ((specs.facts, specs.grains),
        (factLoad sql (demoFact true)).map (zipWith storedInteger ["INTEGER"])) =
          (([demoFact true], [demoGrain]), [[some 1], [some 1]]) →
      (∃ table, dataset.table "sales" = .ok table ∧ inputType table "sale_id" = .ok "INTEGER") →
      ¬ StoredKeysDistinct storedInteger specs dataset sql := by
    intro dataset specs sql hresult htable hdistinct
    obtain ⟨hspecs, hkeys⟩ := Prod.mk.inj hresult
    obtain ⟨hfacts, hgrains⟩ := Prod.mk.inj hspecs
    obtain ⟨table, htable, htype⟩ := htable
    have hnodup := hdistinct (demoFact true) (by rw [hfacts]; exact mem_cons_self) table
      demoGrain ["INTEGER"] ⟨htable, by rw [hgrains]; rfl, by
        rw [mapM_eq_ok]
        exact .cons htype .nil⟩
    rw [hkeys] at hnodup
    revert hnodup
    decide
  obtain ⟨plan, specs, cplan, sql, hplan, hcompile, hresult⟩ := exists_of_plannedKeys hnumeral
  obtain ⟨plan', specs', cplan', sql', hplan', hcompile', hresult'⟩ := exists_of_plannedKeys hrepeated
  refine ⟨⟨plan, specs, cplan, sql, hplan, hcompile, hclash hresult ⟨_, rfl, rfl⟩⟩,
    plan', specs', cplan', sql', hplan', hcompile', by decide, hclash hresult' ⟨_, rfl, rfl⟩⟩

end DirtyDataOlap.Analytical

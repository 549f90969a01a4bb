import DirtyDataOlap.WarehouseIntegrity

/-!
# The columns of the inserted rows

The values of an `INSERT` go to the columns of the `CREATE TABLE` by their position, but are written
for a list of columns of their own.  **The two are the same unless the surrogate key has the name of
the lineage column**, or two tables share a name.
-/
namespace DirtyDataOlap.Analytical

open List

/-- A column that a value is written for. -/
inductive Column
  | key (name : String)
  | reference
  | field (item : DimensionAttributeSpec)
  | grain (column : String)
  | event
  | foreignKey (item : FactForeignKeySpec)
  | degenerate (column : String)
  | measured (item : MeasureSpec)
  | lineage

def Column.name : Column → String
  | .key name => name
  | .reference => "canonical_entity_id"
  | .field item => item.columnName
  | .grain column => column
  | .event => "canonical_event_id"
  | .foreignKey item => item.factColumn
  | .degenerate column => column
  | .measured item => item.fieldName
  | .lineage => "source_record_refs"

/-- The lineage column, unless another column that values are written for has its name. -/
def lineageOf (names : List String) : List Column :=
  if "source_record_refs" ∈ names then [] else [.lineage]

open AnalyticalCompilerService (degenerateColumns targetColumns)

/-- What a table is generated for. -/
inductive Target
  | dimension (spec : DimensionSpec)
  | fact (spec : FactSpec) (grain : GrainSpec) (measures : List MeasureSpec)

def Target.tableName : Target → String
  | .dimension spec => spec.tableName
  | .fact spec _ _ => spec.tableName

/-- The columns that the rows of a target are written for, in order. -/
def Target.columns : Target → List Column
  | .dimension spec => .key spec.surrogateKey.keyName :: .reference :: spec.attributes.map .field ++
      lineageOf (spec.attributes.map (·.columnName))
  | .fact spec grain measures => grain.keyColumns.map .grain ++ [.event] ++
      spec.dimensionForeignKeys.map .foreignKey ++ (degenerateColumns spec grain).map .degenerate ++
      measures.map .measured ++ lineageOf (targetColumns spec grain measures)

def Target.columnNames (target : Target) : List String := target.columns.map Column.name

def Target.KeyedByLineage : Target → Prop
  | .dimension spec => spec.surrogateKey.keyName = "source_record_refs"
  | .fact _ _ _ => False

/-- The `INSERT` statements: the table and the values of each. -/
def GeneratedSQL.inserts (sql : GeneratedSQL) : List (String × List AnalyticalValue) :=
  (sql.loadDate ++ sql.loadDimensions).flatMap
      (fun load => load.rows.map fun values => (load.dimension.tableName, values)) ++
    sql.loadFacts.flatMap fun load => load.rows.map fun values => (load.fact.tableName, values)

namespace AnalyticalCompilerService

section

variable (compiler : AnalyticalCompilerService)

section

variable (dimension : DimensionSpec)

def MemberValue (row : AnalyticalInputRow) : Column → AnalyticalValue → Prop
  | .key _, value => ∃ ref, compiler.rowReference row dimension = .ok ref ∧
      value = .int (compiler.deterministicWarehouseKey dimension.surrogateKey.namespace_ ref)
  | .reference, value => ∃ ref, compiler.rowReference row dimension = .ok ref ∧ value = .str ref
  | .field item, value => attributeValue dimension row item = .ok value
  | .lineage, value => value = .strings row.sourceRecordRefs
  | _, _ => False

def UnknownValue : Column → AnalyticalValue → Prop
  | .key _, value => ∃ key, dimension.unknownMemberPolicy.unknownMemberKey = some key ∧ value = .int key
  | .reference, value => value = .str (unknownReference dimension.dimensionId)
  | .field item, value => unknownValue item.logicalType = .ok value
  | .lineage, value => value = .strings [unknownPolicyRef dimension.dimensionId]
  | _, _ => False

def DayValue (day : Date) : Column → AnalyticalValue → Prop
  | .key _, value => value =
      .int (compiler.deterministicWarehouseKey dimension.surrogateKey.namespace_ day.isoformat)
  | .reference, value => value = .date day
  | .field item, value => ∃ derivation, item.derivation = some derivation ∧
      dateDerivation derivation day = .ok value
  | .lineage, value => value = .strings ["date-range:" ++ dimension.dimensionId]
  | _, _ => False

end

def EventValue (ctx : FactContext) (row : AnalyticalInputRow) : Column → AnalyticalValue → Prop
  | .grain column, value => row.valueFor column = .ok value
  | .event, value => value = .str row.canonicalReference
  | .foreignKey item, value => ∃ scope scope' key policyRefs,
      compiler.resolveForeignKey ctx row item scope = .ok (scope', .key key policyRefs) ∧
        value = keyValue key
  | .degenerate column, value => row.valueFor column = .ok value
  | .measured item, value => measureValue row item = .ok value
  | .lineage, value => ∃ policyRefs, value = .strings (row.sourceRecordRefs ++ policyRefs)
  | _, _ => False

end

/-- The values of a row of a target are those of its columns, in order. -/
inductive Written (compiler : AnalyticalCompilerService) (dataset : AnalyticalInputDataset) :
    Target → List AnalyticalValue → Prop
  | member {dimension : DimensionSpec} {table : AnalyticalInputTable} {row : AnalyticalInputRow}
      {values : List AnalyticalValue} (htable : inputTable dataset dimension = .ok table)
      (hrow : row ∈ table.rows)
      (hvalues : Forall₂ (compiler.MemberValue dimension row) (Target.dimension dimension).columns
        values) : Written compiler dataset (.dimension dimension) values
  | unknown {dimension : DimensionSpec} {values : List AnalyticalValue}
      (hvalues : Forall₂ (UnknownValue dimension) (Target.dimension dimension).columns values) :
      Written compiler dataset (.dimension dimension) values
  | day {dimension : DimensionSpec} {day : Date} {values : List AnalyticalValue}
      (hvalues : Forall₂ (compiler.DayValue dimension day) (Target.dimension dimension).columns
        values) : Written compiler dataset (.dimension dimension) values
  | event {ctx : FactContext} {table : AnalyticalInputTable} {row : AnalyticalInputRow}
      {values : List AnalyticalValue} (htable : dataset.table ctx.fact.inputTableId = .ok table)
      (hrow : row ∈ table.rows)
      (hvalues : Forall₂ (compiler.EventValue ctx row)
        (Target.fact ctx.fact ctx.grain ctx.measures).columns values) :
      Written compiler dataset (.fact ctx.fact ctx.grain ctx.measures) values

section

variable {compiler : AnalyticalCompilerService} {specs : SpecPackage}
  {dataset : AnalyticalInputDataset} {sql : GeneratedSQL}

variable {values : List AnalyticalValue} {dimension : DimensionSpec} {target : Target}
  {table : TableDef} {row : AnalyticalInputRow} {ctx : FactContext} {scope scope' : LoadScope}
  {read : DimensionAttributeSpec → Except Raised AnalyticalValue}
  {attributes : List DimensionAttributeSpec}

/-! ## Rows of dimensions -/

theorem attributeValues_eq_ok {lineage : List String} {names : List String}
    (h : attributeValues read lineage attributes names = .ok values) :
    ∃ fields, Forall₂ (fun item value => read item = .ok value) attributes fields ∧
      values = fields ++ if "source_record_refs" ∈ names ++ attributes.map (·.columnName) then []
        else [.strings lineage] := by
  induction attributes generalizing names values with
  | nil =>
    cases h
    exact ⟨[], .nil, by simp⟩
  | cons item attributes ih =>
    unfold attributeValues at h
    split at h
    · cases h
    · obtain ⟨value, hvalue, h⟩ := bind_eq_ok.1 h
      obtain ⟨rest, hrest, h⟩ := bind_eq_ok.1 h
      cases h
      obtain ⟨fields, hfields, rfl⟩ := ih hrest
      refine ⟨value :: fields, .cons hvalue hfields, ?_⟩
      rw [append_assoc]
      rfl

theorem fields_written {holds : Column → AnalyticalValue → Prop} {lineage : List String}
    (hread : ∀ item value, read item = .ok value → holds (.field item) value)
    (hlineage : holds .lineage (.strings lineage))
    (h : attributeValues read lineage attributes ["canonical_entity_id"] = .ok values) :
    Forall₂ holds (attributes.map .field ++ lineageOf (attributes.map (·.columnName))) values := by
  obtain ⟨fields, hfields, rfl⟩ := attributeValues_eq_ok h
  have hhead : Forall₂ holds (attributes.map .field) fields :=
    forall₂_map_left_iff.2 (hfields.imp hread)
  refine rel_append hhead ?_
  have hother : "source_record_refs" ≠ "canonical_entity_id" := by decide
  unfold lineageOf
  by_cases hmem : "source_record_refs" ∈ attributes.map (·.columnName)
  · rw [if_pos hmem, if_pos (mem_append_right _ hmem)]
    exact .nil
  · rw [if_neg hmem, if_neg]
    · exact .cons hlineage .nil
    · intro h
      rcases mem_append.1 h with h | h
      · exact hother (mem_singleton.1 h)
      · exact hmem h

theorem addMember_written {rows rows' : DimensionRows}
    (h : compiler.addMember dimension rows row = .ok rows') :
    ∃ values, rows'.output = rows.output ++ [values] ∧
      Forall₂ (compiler.MemberValue dimension row) (Target.dimension dimension).columns values := by
  obtain ⟨ref, href, h⟩ := bind_eq_ok.1 h
  obtain ⟨_, -, h⟩ := bind_eq_ok.1 h
  obtain ⟨_, -, h⟩ := bind_eq_ok.1 h
  obtain ⟨values, hvalues, h⟩ := bind_eq_ok.1 h
  cases h
  refine ⟨_, rfl, .cons ⟨ref, href, rfl⟩ (.cons ⟨ref, href, rfl⟩ ?_)⟩
  exact fields_written (fun _ _ h => h) rfl hvalues

theorem addUnknownMember_written {rows rows' : DimensionRows}
    (h : addUnknownMember dimension rows = .ok rows') :
    rows'.output = rows.output ∨ ∃ values, rows'.output = rows.output ++ [values] ∧
      Forall₂ (UnknownValue dimension) (Target.dimension dimension).columns values := by
  unfold addUnknownMember at h
  split at h
  · split at h
    · cases h
    · rename_i unknownKey hkey
      split at h
      · cases h
      · obtain ⟨values, hvalues, h⟩ := bind_eq_ok.1 h
        cases h
        refine .inr ⟨_, rfl, .cons ⟨unknownKey, hkey, rfl⟩ (.cons rfl ?_)⟩
        exact fields_written (fun _ _ h => h) rfl hvalues
  · exact .inl (by rw [Except.ok.inj h])

variable (compiler dimension) in
/-- The rows so far are those of the input rows done. -/
def MembersWritten (done : List AnalyticalInputRow) (rows : DimensionRows) : Prop :=
  ∀ values ∈ rows.output, ∃ row ∈ done,
    Forall₂ (compiler.MemberValue dimension row) (Target.dimension dimension).columns values

theorem membersWritten_step (done : List AnalyticalInputRow) (rows : DimensionRows)
    (row : AnalyticalInputRow) (rows' : DimensionRows)
    (hdone : MembersWritten compiler dimension done rows)
    (h : compiler.addMember dimension rows row = .ok rows') :
    MembersWritten compiler dimension (done ++ [row]) rows' := by
  intro values hmem
  obtain ⟨last, houtput, hlast⟩ := addMember_written h
  rw [houtput] at hmem
  rcases mem_append.1 hmem with hmem | hmem
  · obtain ⟨other, hother, hvalues⟩ := hdone values hmem
    exact ⟨other, mem_append_left _ hother, hvalues⟩
  · obtain rfl := mem_singleton.1 hmem
    exact ⟨row, mem_append_right _ mem_cons_self, hlast⟩

theorem materializeDimension_written {m : MaterializedDimension}
    (h : compiler.materializeDimension dataset dimension = .ok m) : m.dimension = dimension ∧
      ∀ values ∈ m.rows.output, Written compiler dataset (.dimension dimension) values := by
  obtain ⟨table, htable, h⟩ := bind_eq_ok.1 h
  obtain ⟨members, hmembers, h⟩ := bind_eq_ok.1 h
  obtain ⟨rows, hrows, h⟩ := bind_eq_ok.1 h
  cases h
  have hempty : MembersWritten compiler dimension [] ⟨[], []⟩ :=
    fun _ hmem => absurd hmem not_mem_nil
  have hall := foldlM_invariant membersWritten_step hempty hmembers
  have hwritten : ∀ values ∈ members.output, Written compiler dataset (.dimension dimension) values := by
    intro values hmem
    obtain ⟨row, hrow, hvalues⟩ := hall values hmem
    exact .member htable ((sortedBy_perm _ _).mem_iff.1 hrow) hvalues
  refine ⟨rfl, ?_⟩
  show ∀ values ∈ rows.output, _
  rcases addUnknownMember_written hrows with hsame | ⟨last, houtput, hlast⟩
  · rwa [hsame]
  · intro values hmem
    rw [houtput] at hmem
    rcases mem_append.1 hmem with hmem | hmem
    · exact hwritten values hmem
    · obtain rfl := mem_singleton.1 hmem
      exact .unknown hlast

/-- The dimension whose rows are inserted into a table: the last one that has its name. -/
def lastNamed (specs : SpecPackage) (tableName : String) : Option DimensionSpec :=
  getItem ((specs.dimensions.filter fun d => d.role ≠ .date).map fun d => (d.tableName, d)) tableName

theorem rowsByTable_written {materialized : List MaterializedDimension}
    (hm : compiler.dimensionRows specs.dimensions dataset = .ok materialized) {tableName : String}
    (hlast : lastNamed specs tableName = some dimension) :
    ∀ values ∈ rowsByTable materialized tableName, Written compiler dataset (.dimension dimension) values := by
  have hall : Forall₂ (fun (x : String × DimensionSpec) (y : String × List (List AnalyticalValue)) =>
      x.1 = y.1 ∧ ∀ values ∈ y.2, Written compiler dataset (.dimension x.2) values)
      ((specs.dimensions.filter fun d => d.role ≠ .date).map fun d => (d.tableName, d))
      (materialized.map fun m => (m.dimension.tableName, m.rows.output)) := by
    rw [forall₂_map_left_iff, forall₂_map_right_iff]
    refine (mapM_eq_ok.1 hm).imp fun d m hd => ?_
    obtain ⟨hsame, hwritten⟩ := materializeDimension_written hd
    exact ⟨by rw [hsame], hwritten⟩
  obtain ⟨rows, hrows, hwritten⟩ := exists_getItem_of_forall₂
    (R := fun d rows => ∀ values ∈ rows, Written compiler dataset (.dimension d) values) hall hlast
  unfold rowsByTable
  rw [hrows]
  exact hwritten

theorem dateRow_written {day : Date} (h : compiler.dateRow dimension day = .ok values) :
    Forall₂ (compiler.DayValue dimension day) (Target.dimension dimension).columns values := by
  obtain ⟨fields, hfields, h⟩ := bind_eq_ok.1 h
  cases h
  refine .cons rfl (.cons rfl (rel_append ?_ ?_))
  · refine forall₂_map_left_iff.2 ((mapM_eq_ok.1 hfields).imp fun item value hvalue => ?_)
    split at hvalue
    · cases hvalue
    · rename_i derivation hderivation
      exact ⟨derivation, hderivation, hvalue⟩
  · unfold lineageOf
    by_cases hmem : "source_record_refs" ∈ dimension.attributes.map (·.columnName)
    · rw [if_pos hmem, if_pos hmem]
      exact .nil
    · rw [if_neg hmem, if_neg hmem]
      exact .cons rfl .nil

theorem resolveForeignKeys_written {foreignKeys : List FactForeignKeySpec}
    {keys : List (Option Int)} {policyRefs : List String}
    (h : compiler.resolveForeignKeys ctx row foreignKeys scope = .ok (scope', .resolved keys policyRefs)) :
    Forall₂ (compiler.EventValue ctx row) (foreignKeys.map .foreignKey) (keys.map keyValue) := by
  induction foreignKeys generalizing scope keys policyRefs with
  | nil =>
    obtain ⟨-, hnil⟩ := Prod.mk.inj (Except.ok.inj h)
    cases hnil
    exact .nil
  | cons foreignKey foreignKeys ih =>
    obtain ⟨⟨middle, resolution⟩, hfirst, h⟩ := bind_eq_ok.1 h
    cases resolution with
    | quarantined record => cases h
    | key value refs =>
      obtain ⟨⟨last, rest⟩, hrest, h⟩ := bind_eq_ok.1 h
      cases rest with
      | quarantined record => cases h
      | resolved keys' policyRefs' =>
        obtain ⟨rfl, hkeys⟩ := Prod.mk.inj (Except.ok.inj h)
        cases hkeys
        exact .cons ⟨scope, middle, value, refs, hfirst, rfl⟩ (ih hrest)

theorem compileRow_written
    (hnames : ctx.targetNames = targetColumns ctx.fact ctx.grain ctx.measures)
    (h : compiler.compileRow ctx scope row = .ok (scope', .loaded values)) :
    "source_record_refs" ∉ targetColumns ctx.fact ctx.grain ctx.measures ∧
      Forall₂ (compiler.EventValue ctx row) (Target.fact ctx.fact ctx.grain ctx.measures).columns
        values := by
  obtain ⟨key, hkey, ⟨-, -, hnull⟩ | ⟨-, ⟨record, -, hquarantined⟩ |
    ⟨keys, policyRefs, degenerate, measures, hforeign, hdegenerate, hmeasures, ⟨-, hdropped⟩ |
      ⟨hlineage, hloaded⟩⟩⟩⟩ := compileRow_cases h
  · cases hnull
  · cases hquarantined
  · cases hdropped
  · cases hloaded
    rw [hnames] at hlineage
    refine ⟨hlineage, ?_⟩
    have hgrain : Forall₂ (compiler.EventValue ctx row) (ctx.grain.keyColumns.map .grain) key :=
      forall₂_map_left_iff.2 (mapM_eq_ok.1 (grainValues_eq_ok hkey))
    have hevent : Forall₂ (compiler.EventValue ctx row) [.event] [.str row.canonicalReference] :=
      .cons rfl .nil
    have hrest : Forall₂ (compiler.EventValue ctx row)
        ((degenerateColumns ctx.fact ctx.grain).map .degenerate) degenerate :=
      forall₂_map_left_iff.2 (mapM_eq_ok.1 hdegenerate)
    have hmeasured : Forall₂ (compiler.EventValue ctx row) (ctx.measures.map .measured) measures :=
      forall₂_map_left_iff.2 (mapM_eq_ok.1 hmeasures)
    have hlast : Forall₂ (compiler.EventValue ctx row)
        (lineageOf (targetColumns ctx.fact ctx.grain ctx.measures))
        [.strings (row.sourceRecordRefs ++ policyRefs)] := by
      rw [lineageOf, if_neg hlineage]
      exact .cons ⟨policyRefs, rfl⟩ .nil
    have hkeys := resolveForeignKeys_written hforeign
    exact rel_append (rel_append (rel_append (rel_append
      (rel_append hgrain hevent) hkeys) hrest) hmeasured) hlast

theorem compileRows_written {rows : List AnalyticalInputRow} {outcomes : List RowOutcome}
    (hnames : ctx.targetNames = targetColumns ctx.fact ctx.grain ctx.measures)
    (h : compiler.compileRows ctx rows scope = .ok (scope', outcomes)) :
    ∀ values ∈ outcomes.filterMap RowOutcome.loadedRow, ∃ row ∈ rows,
      "source_record_refs" ∉ targetColumns ctx.fact ctx.grain ctx.measures ∧
        Forall₂ (compiler.EventValue ctx row) (Target.fact ctx.fact ctx.grain ctx.measures).columns
          values := by
  induction rows generalizing scope outcomes with
  | nil =>
    cases h
    exact fun _ hmem => absurd hmem not_mem_nil
  | cons row rows ih =>
    obtain ⟨middle, outcome, rest, hrow, hrest, rfl⟩ := compileRows_cons h
    intro values hmem
    obtain ⟨found, hfound, hvalues⟩ := mem_filterMap.1 hmem
    rcases mem_cons.1 hfound with rfl | hfound
    · cases found with
      | loaded values' =>
        cases hvalues
        exact ⟨row, mem_cons_self, compileRow_written hnames hrow⟩
      | quarantined record => cases hvalues
      | dropped => cases hvalues
    · obtain ⟨other, hother, hwritten⟩ := ih hrest values (mem_filterMap.2 ⟨found, hfound, hvalues⟩)
      exact ⟨other, mem_cons_of_mem _ hother, hwritten⟩

/-! ## Tables -/

/-- A table definition of a schema, with what it is generated for. -/
inductive Created (compiler : AnalyticalCompilerService) (specs : SpecPackage)
    (dataset : AnalyticalInputDataset) : Target → TableDef → Prop
  | dimension {dimension : DimensionSpec} {table : TableDef} (hmem : dimension ∈ specs.dimensions)
      (htable : dimensionTable dimension = .ok table) :
      Created compiler specs dataset (.dimension dimension) table
  | fact {fact : FactSpec} {materialized : List MaterializedDimension} {compiled : CompiledFact}
      {scope scope' : LoadScope} (hmem : fact ∈ specs.facts)
      (hcompiled : CompiledFrom compiler specs.dimensions specs.grains specs.measures dataset materialized
        fact compiled scope scope') :
      Created compiler specs dataset (.fact fact compiled.context.grain compiled.context.measures)
        compiled.table

theorem lineageColumn_names (names : List String) : (lineageColumn names).map ColumnDef.name =
    if "source_record_refs" ∈ names then [] else ["source_record_refs"] := by
  unfold lineageColumn
  split <;> rfl

theorem dimensionTable_eq_ok (h : dimensionTable dimension = .ok table) :
    table.tableName = dimension.tableName ∧
      dimension.surrogateKey.keyName ∉ dimension.attributes.map (·.columnName) ∧
      table.columns.map ColumnDef.name = dimension.surrogateKey.keyName :: "canonical_entity_id" ::
        dimension.attributes.map (·.columnName) ++
        if "source_record_refs" = dimension.surrogateKey.keyName ∨
          "source_record_refs" ∈ dimension.attributes.map (·.columnName) then []
        else ["source_record_refs"] := by
  unfold dimensionTable at h
  simp only at h
  obtain ⟨⟨fields, names⟩, hfields, h⟩ := bind_eq_ok.1 h
  cases h
  obtain ⟨hcolumns, rfl, -, hnew⟩ := addColumns_eq_ok hfields
  refine ⟨rfl, ?_, ?_⟩
  · intro hmem
    obtain ⟨item, hitem, hname⟩ := mem_map.1 hmem
    exact hnew item hitem (by simp [hname])
  · have hother : "source_record_refs" ≠ "canonical_entity_id" := by decide
    have hiff : "source_record_refs" ∈ ["canonical_entity_id", dimension.surrogateKey.keyName] ++
        dimension.attributes.map (·.columnName) ↔ "source_record_refs" = dimension.surrogateKey.keyName ∨
          "source_record_refs" ∈ dimension.attributes.map (·.columnName) := by
      simp [hother]
    show _ :: _ :: (fields ++ lineageColumn (["canonical_entity_id", dimension.surrogateKey.keyName] ++
      dimension.attributes.map (·.columnName))).map ColumnDef.name = _
    rw [map_append, hcolumns, lineageColumn_names]
    simp only [hiff]
    rfl

theorem lineageOf_names (names : List String) : (lineageOf names).map Column.name =
    if "source_record_refs" ∈ names then [] else ["source_record_refs"] := by
  unfold lineageOf
  split <;> rfl

theorem columnNames_dimension (dimension : DimensionSpec) :
    (Target.dimension dimension).columnNames = dimension.surrogateKey.keyName :: "canonical_entity_id" ::
      dimension.attributes.map (·.columnName) ++
      if "source_record_refs" ∈ dimension.attributes.map (·.columnName) then []
      else ["source_record_refs"] := by
  unfold Target.columnNames Target.columns
  rw [map_append, lineageOf_names]
  simp only [map_cons, map_map]
  rfl

theorem columnNames_fact (fact : FactSpec) (grain : GrainSpec) (measures : List MeasureSpec) :
    (Target.fact fact grain measures).columnNames = targetColumns fact grain measures ++
      if "source_record_refs" ∈ targetColumns fact grain measures then []
      else ["source_record_refs"] := by
  unfold Target.columnNames Target.columns
  rw [map_append, lineageOf_names]
  simp only [map_append, map_map, map_cons, map_nil]
  have hids : ∀ xs : List String, xs.map (Column.name ∘ Column.degenerate) = xs := map_id
  have hgrains : ∀ xs : List String, xs.map (Column.name ∘ Column.grain) = xs := map_id
  rw [hids, hgrains]
  rfl

/-- A table has the columns that the rows of its target are written for, unless its key has the name of
the lineage column. -/
theorem created_names (h : Created compiler specs dataset target table) :
    table.tableName = target.tableName ∧
      (¬ target.KeyedByLineage → table.columns.map ColumnDef.name = target.columnNames) := by
  cases h with
  | dimension hmem htable =>
    obtain ⟨hname, -, hcolumns⟩ := dimensionTable_eq_ok htable
    refine ⟨hname, fun hkey => ?_⟩
    rw [hcolumns, columnNames_dimension]
    congr 1
    have hfree : "source_record_refs" ≠ _ := fun h => hkey h.symm
    simp only [hfree, false_or]
  | fact hmem hcompiled =>
    refine ⟨hcompiled.tableName_eq, fun _ => ?_⟩
    rw [hcompiled.columns_eq, columnNames_fact, lineageColumn_names]

/-! ## Inserts -/

/-- A row of an `INSERT`, with the target that its values are written for. -/
inductive Inserted (specs : SpecPackage) (sql : GeneratedSQL) : Target → List AnalyticalValue → Prop
  | member {load : DimensionLoad} {dimension : DimensionSpec} {values : List AnalyticalValue}
      (hload : load ∈ sql.loadDimensions) (hvalues : values ∈ load.rows)
      (hlast : lastNamed specs load.dimension.tableName = some dimension) :
      Inserted specs sql (.dimension dimension) values
  | day {load : DimensionLoad} {values : List AnalyticalValue} (hload : load ∈ sql.loadDate)
      (hvalues : values ∈ load.rows) : Inserted specs sql (.dimension load.dimension) values
  | event {load : FactLoad} {grain : GrainSpec} {measures : List MeasureSpec}
      {values : List AnalyticalValue} (hload : load ∈ sql.loadFacts) (hvalues : values ∈ load.rows)
      (hgrain : grainById specs.grains load.fact.grainSpecId = .ok grain)
      (hmeasures : load.fact.measureIds.mapM (measureById specs.measures) = .ok measures) :
      Inserted specs sql (.fact load.fact grain measures) values

variable (compiler dataset table) in
/-- The values of a row are those of the columns of a table, in their number and order. -/
structure Fits (target : Target) (values : List AnalyticalValue) : Prop where
  written : Written compiler dataset target values
  names : table.columns.map ColumnDef.name = target.columnNames

variable (g : Generated compiler specs.dimensions specs.facts specs.grains specs.measures dataset sql)

include g

theorem Generated.event_target {load : FactLoad} (hload : load ∈ sql.loadFacts) :
    ∃ compiled scope scope', load = ⟨compiled.context.fact,
        compiled.outcomes.filterMap RowOutcome.loadedRow⟩ ∧ load.fact ∈ specs.facts ∧
      CompiledFrom compiler specs.dimensions specs.grains specs.measures dataset g.materialized load.fact
        compiled scope scope' := by
  rw [g.loadFacts_eq] at hload
  obtain ⟨compiled, hcompiled, rfl⟩ := mem_map.1 hload
  obtain ⟨fact, hfact, scope, scope', hfrom⟩ :=
    exists_left_of_forall₂ (compileFacts_forall₂ g.facts_eq) hcompiled
  refine ⟨compiled, scope, scope', rfl, ?_, ?_⟩
  · rw [hfrom.fact_eq]
    exact (sortedBy_perm _ _).mem_iff.1 hfact
  · rw [hfrom.fact_eq]
    exact hfrom

theorem Generated.mem_inserts_iff {tableName : String} : (tableName, values) ∈ sql.inserts ↔
      ∃ target, target.tableName = tableName ∧ Inserted specs sql target values := by
  unfold GeneratedSQL.inserts
  simp only [mem_append, mem_flatMap, mem_map, Prod.mk.injEq]
  constructor
  · rintro (⟨load, hload | hload, row, hrow, rfl, rfl⟩ | ⟨load, hload, row, hrow, rfl, rfl⟩)
    · exact ⟨_, rfl, .day hload hrow⟩
    · have hdimension : load.dimension ∈ specs.dimensions.filter fun d => d.role ≠ .date := by
        rw [g.loadDimensions_eq] at hload
        obtain ⟨dimension, hdimension, rfl⟩ := mem_map.1 hload
        obtain ⟨hmem, hrole⟩ := mem_filter.1 hdimension
        exact mem_filter.2 ⟨(sortedBy_perm _ _).mem_iff.1 hmem, hrole⟩
      have hkey : (lastNamed specs load.dimension.tableName).isSome := by
        unfold lastNamed
        rw [getItem_isSome_iff, map_map]
        exact mem_map.2 ⟨_, hdimension, rfl⟩
      obtain ⟨dimension, hlast⟩ := Option.isSome_iff_exists.1 hkey
      obtain ⟨other, -, hname, rfl⟩ := getItem_map_eq_some hlast
      exact ⟨.dimension _, hname, .member hload hrow hlast⟩
    · obtain ⟨compiled, scope, scope', -, -, hfrom⟩ := g.event_target hload
      exact ⟨_, rfl, .event hload hrow hfrom.grain_eq hfrom.measures_eq⟩
  · rintro ⟨target, rfl, hinserted⟩
    cases hinserted with
    | member hload hvalues hlast =>
      obtain ⟨other, -, hname, rfl⟩ := getItem_map_eq_some hlast
      exact .inl ⟨_, .inr hload, _, hvalues, hname.symm, rfl⟩
    | day hload hvalues => exact .inl ⟨_, .inl hload, _, hvalues, rfl, rfl⟩
    | event hload hvalues _ _ => exact .inr ⟨_, hload, _, hvalues, rfl, rfl⟩

/-- Every row is written for the columns of its target; that of a fact has a column for its lineage. -/
theorem Generated.inserted_written (h : Inserted specs sql target values) :
    Written compiler dataset target values ∧
      ∀ fact grain measures, target = .fact fact grain measures →
        "source_record_refs" ∉ targetColumns fact grain measures := by
  cases h with
  | member hload hvalues hlast =>
    rw [g.loadDimensions_eq] at hload
    obtain ⟨dimension, -, rfl⟩ := mem_map.1 hload
    exact ⟨rowsByTable_written g.materialized_eq hlast _ hvalues, nofun⟩
  | day hload hvalues =>
    obtain ⟨dimension, -, hdates⟩ := exists_left_of_forall₂ (mapM_eq_ok.1 g.loadDate_eq) hload
    obtain ⟨rfl, dates, -, hrows⟩ := loadDates_eq_ok hdates
    obtain ⟨day, -, hday⟩ := exists_left_of_forall₂ (mapM_eq_ok.1 hrows) hvalues
    exact ⟨.day (dateRow_written hday), nofun⟩
  | @event load grain measures _ hload hvalues hgrain hmeasures =>
    obtain ⟨compiled, scope, scope', hsame, -, hfrom⟩ := g.event_target hload
    obtain ⟨table, htable, hrows⟩ := hfrom.rows_eq
    cases hgrain.symm.trans hfrom.grain_eq
    cases hmeasures.symm.trans hfrom.measures_eq
    have hfact := hfrom.fact_eq
    have hnames : compiled.context.targetNames = targetColumns compiled.context.fact
        compiled.context.grain compiled.context.measures := by
      rw [hfact]
      exact hfrom.targetNames_eq
    rw [hsame] at hvalues
    obtain ⟨row, hrow, hlineage, hwritten⟩ := compileRows_written hnames hrows values hvalues
    rw [← hfact]
    refine ⟨.event (hfact ▸ htable) ((sortedBy_perm _ _).mem_iff.1 hrow) hwritten, ?_⟩
    intro fact grain measures heq
    cases heq
    exact hlineage

theorem Generated.exists_created (h : table ∈ sql.createSchema) :
    ∃ target, Created compiler specs dataset target table := by
  rw [g.createSchema_eq] at h
  rcases mem_append.1 h with h | h
  · obtain ⟨dimension, hmem, htable⟩ := exists_left_of_forall₂ (mapM_eq_ok.1 g.tables_eq) h
    exact ⟨_, .dimension ((sortedBy_perm _ _).mem_iff.1 hmem) htable⟩
  · obtain ⟨compiled, hcompiled, rfl⟩ := mem_map.1 h
    obtain ⟨fact, hfact, scope, scope', hfrom⟩ :=
      exists_left_of_forall₂ (compileFacts_forall₂ g.facts_eq) hcompiled
    exact ⟨_, .fact ((sortedBy_perm _ _).mem_iff.1 hfact) hfrom⟩

omit g in
/-- A table whose key has the name of the lineage column has no other column of that name. -/
theorem not_keyedByLineage {other : Target} (hcreated : Created compiler specs dataset other table)
    (hlineage : ∀ fact grain measures, target = .fact fact grain measures →
      "source_record_refs" ∉ targetColumns fact grain measures)
    (hnames : table.columns.map ColumnDef.name = target.columnNames) : ¬ other.KeyedByLineage := by
  intro hkeyed
  cases hcreated with
  | fact _ _ => exact hkeyed
  | @dimension dimension _ hmem htable =>
    obtain ⟨-, hfree, hcolumns⟩ := dimensionTable_eq_ok htable
    have hkey : dimension.surrogateKey.keyName = "source_record_refs" := hkeyed
    rw [hkey] at hfree hcolumns
    rw [hcolumns, if_pos (.inl rfl), append_nil] at hnames
    cases target with
    | dimension spec =>
      -- the lineage of the row is one of the attributes of the table
      rw [columnNames_dimension] at hnames
      have htail := (List.cons.inj (List.cons.inj hnames).2).2
      rw [htail] at hfree
      split at hfree
      · rename_i hattribute
        exact hfree (mem_append_left _ hattribute)
      · exact hfree (mem_append_right _ mem_cons_self)
    | fact spec grain measures =>
      -- the first column of a fact is not its lineage
      have hnone := hlineage spec grain measures rfl
      rw [columnNames_fact, if_neg hnone] at hnames
      cases hcols : targetColumns spec grain measures with
      | nil => simp [targetColumns] at hcols
      | cons first rest =>
        rw [hcols, cons_append] at hnames
        apply hnone
        rw [hcols, ← (List.cons.inj hnames).1]
        exact mem_cons_self

omit g in
/-- **The values of an `INSERT` are those of the columns of its table exactly if the key is not
named like the lineage column, and the table is generated for the same columns as the row.** -/
theorem inserts_fit_iff {request : CompileRequest} {plan : CompiledPlan}
    (h : compiler.compile request specs = .ok (plan, sql)) :
    (∀ tableName values, (tableName, values) ∈ sql.inserts ↔
      ∃ target, target.tableName = tableName ∧ Inserted specs sql target values) ∧
    ∀ target values, Inserted specs sql target values → ∀ table ∈ sql.createSchema,
      table.tableName = target.tableName → ∃ other, Created compiler specs request.dataset other table ∧
        (Fits compiler request.dataset table target values ↔
          ¬ other.KeyedByLineage ∧ other.columnNames = target.columnNames) := by
  obtain ⟨-, hsql, -⟩ := compile_eq_ok h
  obtain ⟨g⟩ := generateSql_eq_ok hsql
  refine ⟨fun _ _ => g.mem_inserts_iff, ?_⟩
  intro target values hinserted table htable _
  obtain ⟨hwritten, hlineage⟩ := g.inserted_written hinserted
  obtain ⟨other, hcreated⟩ := g.exists_created htable
  have hnames := (created_names hcreated).2
  refine ⟨other, hcreated, ?_⟩
  constructor
  · intro hfits
    have hkey := not_keyedByLineage hcreated hlineage hfits.names
    exact ⟨hkey, (hnames hkey).symm.trans hfits.names⟩
  · rintro ⟨hkey, hsame⟩
    exact ⟨hwritten, (hnames hkey).trans hsame⟩

end

/-- The sales, with the dimension of the customers under a key that is named like the lineage column. -/
def lineageKeyedSpecs : SpecPackage :=
  { demoSpecs quarantinePolicy amount with
    dimensions := [{ quarantinedCustomer with
      surrogateKey := ⟨"source_record_refs", "dim_customer", lineageMeasure.fieldIsSafe⟩
      keysAreDistinct := by decide +kernel }, demoDate] }

/-- The numbers of columns of the tables, and of values of their inserts. -/
def shape (r : CompiledPlan × GeneratedSQL) : List (String × Nat) × List (String × Nat) :=
  (r.2.createSchema.map fun table => (table.tableName, table.columns.length),
    r.2.inserts.map fun insert => (insert.1, insert.2.length))

theorem sold_shape : (demoCompiler.compile (demoRequest soldDataset)
    (demoSpecs quarantinePolicy amount)).toOption.map shape =
      some ([("dim_customer", 4), ("dim_date", 4), ("fact_sales", 6)],
        [("dim_date", 4), ("dim_date", 4), ("dim_customer", 4), ("fact_sales", 6)]) := by
  decide +kernel

theorem inserts_fit_iff_sold : ∃ plan sql,
    demoCompiler.compile (demoRequest soldDataset) (demoSpecs quarantinePolicy amount) =
      .ok (plan, sql) ∧ sql.inserts.map (fun insert => (insert.1, insert.2.length)) =
        [("dim_date", 4), ("dim_date", 4), ("dim_customer", 4), ("fact_sales", 6)] ∧
    ∀ target values, Inserted (demoSpecs quarantinePolicy amount) sql target values →
      ∀ table ∈ sql.createSchema, table.tableName = target.tableName →
        ∃ other, Created demoCompiler (demoSpecs quarantinePolicy amount) soldDataset other table ∧
          (Fits demoCompiler soldDataset table target values ↔
            ¬ other.KeyedByLineage ∧ other.columnNames = target.columnNames) := by
  obtain ⟨⟨plan, sql⟩, h, hshape⟩ := exists_ok_of_map sold_shape
  exact ⟨plan, sql, h, (Prod.mk.inj hshape).2, (inserts_fit_iff h).2⟩

/-- Under such a key the row of a customer has a value more than its table has columns. -/
theorem lineage_key_shifts : ∃ plan sql,
    demoCompiler.compile (demoRequest soldDataset) lineageKeyedSpecs = .ok (plan, sql) ∧
      ∃ insert ∈ sql.inserts, ∃ table ∈ sql.createSchema, table.tableName = insert.1 ∧
        table.columns.length = 3 ∧ insert.2.length = 4 := by
  have hrun : (demoCompiler.compile (demoRequest soldDataset) lineageKeyedSpecs).toOption.map shape =
      some ([("dim_customer", 3), ("dim_date", 4), ("fact_sales", 6)],
        [("dim_date", 4), ("dim_date", 4), ("dim_customer", 4), ("fact_sales", 6)]) := by
    decide +kernel
  obtain ⟨⟨plan, sql⟩, h, hshape⟩ := exists_ok_of_map hrun
  obtain ⟨htables, hinserts⟩ := Prod.mk.inj hshape
  have htable : ("dim_customer", 3) ∈ sql.createSchema.map fun t => (t.tableName, t.columns.length) := by
    rw [htables]
    exact mem_cons_self
  have hinsert : ("dim_customer", 4) ∈ sql.inserts.map fun insert => (insert.1, insert.2.length) := by
    rw [hinserts]
    decide
  obtain ⟨table, hmem, hcolumns⟩ := mem_map.1 htable
  obtain ⟨insert, hinserted, hvalues⟩ := mem_map.1 hinsert
  obtain ⟨hname, hlength⟩ := Prod.mk.inj hcolumns
  obtain ⟨hname', hlength'⟩ := Prod.mk.inj hvalues
  exact ⟨plan, sql, h, insert, hinserted, table, hmem, hname.trans hname'.symm, hlength, hlength'⟩

end AnalyticalCompilerService

end DirtyDataOlap.Analytical

import DirtyDataOlap.DependencyDiscovery

/-!
# What a complete discovery has covered

A result keeps to the output bound, and its candidates name evidence that is emitted with them.  A
**complete** result has cut no table and no column, its tables are fully observed, every call of the
provider has been answered, and every dependency of the answers that has columns, within the arity
bound and in range, is emitted.
-/
namespace DirtyDataOlap.Dependencies

open List SearchRounds

/-! ## Items of an answer -/

theorem validated_ok {α : Type} {contract : String} {accepts : Prop} [Decidable accepts]
    {object : accepts → α} {a : α} (h : validated contract accepts object = .ok a) :
    ∃ h, object h = a := by
  unfold validated at h
  split_ifs at h with haccepts
  exact ⟨haccepts, Except.ok.inj h⟩

def NamesColumns (columns : List ColumnDescriptor) (indices : List Int) (ids : List String) : Prop :=
  ∃ chosen, columnsAt columns indices = .ok chosen ∧ ids = chosen.map ColumnDescriptor.columnId

/-- Indices that count from zero and stay below the number of columns. -/
def InRange (columns : List ColumnDescriptor) (indices : List Int) : Prop :=
  ∀ i ∈ indices, 0 ≤ i ∧ i < columns.length

theorem not_exceeds {columns : List ColumnDescriptor} {indices : List Int}
    (h : InRange columns indices) : ¬ exceeds columns indices = true := by
  intro hexceeds
  obtain ⟨i, hi, hle⟩ := any_eq_true.1 hexceeds
  have hlt := (h i hi).2
  have hle := of_decide_eq_true hle
  omega

namespace DesbordanteDependencyAdapter

variable {adapter : DesbordanteDependencyAdapter} {engine : DependencyEngine} {d : Discovery}

variable (adapter d) in
/-- The evidence of an item about unique column combinations. -/
structure UccMeasured (tableId : String) (item : ProviderUCC) (e : UniqueColumnCombinationEvidence)
    (chosen : List ColumnDescriptor) (metrics : KeyMetrics) : Prop where
  columns : columnsAt (d.columnsOf tableId) item.indices = .ok chosen
  measured : keyMetrics (d.rowsOf tableId) (d.columnsOf tableId)
    (chosen.map ColumnDescriptor.physicalName) d.request.nullPolicy = .ok metrics
  tableId : e.tableId = tableId
  columnIds : e.columnIds = chosen.map ColumnDescriptor.columnId
  uniqueness : e.uniquenessRatio = adapter.rounding.ratio metrics.distinct metrics.eligible 0
  duplicates : e.duplicateCount = metrics.eligible - metrics.distinct

variable {tableId : String} {approximate : Bool} {r : Option UniqueColumnCombinationEvidence}

theorem uccItem_ok {item : ProviderUCC} (h : adapter.uccItem engine d tableId item = .ok r) :
    (r = none ∧ (item.indices = [] ∨ d.request.searchPolicy.maxUccArity < item.indices.length ∨
      exceeds (d.columnsOf tableId) item.indices = true)) ∨
    ∃ e chosen metrics, r = some e ∧ UccMeasured adapter d tableId item e chosen metrics := by
  unfold uccItem at h
  by_cases hskip : item.indices = [] ∨ d.request.searchPolicy.maxUccArity < item.indices.length ∨
      exceeds (d.columnsOf tableId) item.indices = true
  · rw [if_pos hskip] at h
    exact .inl ⟨(Except.ok.inj h).symm, hskip⟩
  · rw [if_neg hskip] at h
    obtain ⟨chosen, hchosen, h⟩ := bind_eq_ok.1 h
    obtain ⟨metrics, hmetrics, h⟩ := bind_eq_ok.1 h
    obtain ⟨e, he, h⟩ := bind_eq_ok.1 h
    obtain ⟨_, hobject⟩ := validated_ok he
    refine .inr ⟨e, chosen, metrics, (Except.ok.inj h).symm, ⟨hchosen, hmetrics, ?_, ?_, ?_, ?_⟩⟩ <;>
      simp only [← hobject]

variable (adapter d approximate) in
/-- The evidence of an item about functional dependencies. -/
structure FdMeasured (tableId : String) (item : ProviderFD) (e : FunctionalDependencyEvidence)
    (lhs : List ColumnDescriptor) (rhs : ColumnDescriptor) (metrics : FdMetrics) : Prop where
  determinantColumns : columnsAt (d.columnsOf tableId) item.lhsIndices = .ok lhs
  dependentColumn : itemAt (d.columnsOf tableId) item.rhsIndex = .ok rhs
  measured : fdMetrics adapter.rounding (d.rowsOf tableId) (d.columnsOf tableId)
    (lhs.map ColumnDescriptor.physicalName) [rhs.physicalName] d.request.nullPolicy = .ok metrics
  tableId : e.tableId = tableId
  determinant : e.determinant = lhs.map ColumnDescriptor.columnId
  dependent : e.dependent = [rhs.columnId]
  approximate : e.approximate = approximate
  violations : e.violationCount = metrics.violations

theorem fdItem_ok {item : ProviderFD} {r : Option FunctionalDependencyEvidence}
    (h : adapter.fdItem engine d approximate tableId item = .ok r) :
    (r = none ∧ (item.lhsIndices = [] ∨
      d.request.searchPolicy.maxFdLhsArity < item.lhsIndices.length ∨
      exceeds (d.columnsOf tableId) (item.lhsIndices ++ [item.rhsIndex]) = true)) ∨
    ∃ e lhs rhs metrics, r = some e ∧
      FdMeasured adapter d approximate tableId item e lhs rhs metrics := by
  unfold fdItem at h
  by_cases hskip : item.lhsIndices = [] ∨
      d.request.searchPolicy.maxFdLhsArity < item.lhsIndices.length ∨
      exceeds (d.columnsOf tableId) (item.lhsIndices ++ [item.rhsIndex]) = true
  · rw [if_pos hskip] at h
    exact .inl ⟨(Except.ok.inj h).symm, hskip⟩
  · rw [if_neg hskip] at h
    obtain ⟨lhs, hlhs, h⟩ := bind_eq_ok.1 h
    obtain ⟨rhs, hrhs, h⟩ := bind_eq_ok.1 h
    obtain ⟨metrics, hmetrics, h⟩ := bind_eq_ok.1 h
    obtain ⟨observation, -, h⟩ := bind_eq_ok.1 h
    obtain ⟨e, he, h⟩ := bind_eq_ok.1 h
    obtain ⟨_, hobject⟩ := validated_ok he
    refine .inr ⟨e, lhs, rhs, metrics, (Except.ok.inj h).symm,
      ⟨hlhs, hrhs, hmetrics, ?_, ?_, ?_, ?_, ?_⟩⟩ <;> simp only [← hobject]

variable (adapter d approximate) in
/-- The evidence of an item about inclusion dependencies. -/
structure IndMeasured (item : ProviderIND) (left right : TableDescriptor)
    (e : InclusionDependencyEvidence) (lhs rhs : List ColumnDescriptor) (metrics : IndMetrics) :
    Prop where
  leftTable : itemAt d.tables item.leftTableIndex = .ok left
  rightTable : itemAt d.tables item.rightTableIndex = .ok right
  leftColumns : columnsAt (d.columnsOf left.tableId) item.leftColumnIndices = .ok lhs
  rightColumns : columnsAt (d.columnsOf right.tableId) item.rightColumnIndices = .ok rhs
  measured : indMetrics adapter.rounding (d.rowsOf left.tableId) (d.rowsOf right.tableId)
    (d.columnsOf left.tableId) (d.columnsOf right.tableId) (lhs.map ColumnDescriptor.physicalName)
    (rhs.map ColumnDescriptor.physicalName) d.request.nullPolicy = .ok metrics
  leftTableId : e.leftTableId = left.tableId
  rightTableId : e.rightTableId = right.tableId
  leftIds : e.leftColumns = lhs.map ColumnDescriptor.columnId
  rightIds : e.rightColumns = rhs.map ColumnDescriptor.columnId
  approximate : e.approximate = approximate
  coverage : e.coverageRatio = metrics.coverage
  orphans : e.orphanCount = metrics.orphanCount

/-- What an item about inclusion dependencies is not emitted for. -/
def IndSkipped (d : Discovery) (item : ProviderIND) (left right : TableDescriptor) : Prop :=
  left.tableId = right.tableId ∨
    (item.leftColumnIndices.length ≠ item.rightColumnIndices.length ∨ item.leftColumnIndices = [] ∨
      d.request.searchPolicy.maxIndArity < item.leftColumnIndices.length) ∨
    exceeds (d.columnsOf left.tableId) item.leftColumnIndices = true ∨
    exceeds (d.columnsOf right.tableId) item.rightColumnIndices = true

theorem indItem_ok {item : ProviderIND} {r : Option InclusionDependencyEvidence}
    (h : adapter.indItem engine d approximate item = .ok r) :
    (r = none ∧ ∃ left right, itemAt d.tables item.leftTableIndex = .ok left ∧
      itemAt d.tables item.rightTableIndex = .ok right ∧ IndSkipped d item left right) ∨
    ∃ e left right lhs rhs metrics, r = some e ∧
      IndMeasured adapter d approximate item left right e lhs rhs metrics := by
  obtain ⟨left, hleft, h⟩ := bind_eq_ok.1 h
  obtain ⟨right, hright, h⟩ := bind_eq_ok.1 h
  by_cases hsame : left.tableId = right.tableId
  · rw [if_pos hsame] at h
    exact .inl ⟨(Except.ok.inj h).symm, left, right, hleft, hright, .inl hsame⟩
  rw [if_neg hsame] at h
  by_cases hwidth : item.leftColumnIndices.length ≠ item.rightColumnIndices.length ∨
      item.leftColumnIndices = [] ∨
      d.request.searchPolicy.maxIndArity < item.leftColumnIndices.length
  · rw [if_pos hwidth] at h
    exact .inl ⟨(Except.ok.inj h).symm, left, right, hleft, hright, .inr (.inl hwidth)⟩
  rw [if_neg hwidth] at h
  by_cases hrange : exceeds (d.columnsOf left.tableId) item.leftColumnIndices = true ∨
      exceeds (d.columnsOf right.tableId) item.rightColumnIndices = true
  · rw [if_pos hrange] at h
    exact .inl ⟨(Except.ok.inj h).symm, left, right, hleft, hright, .inr (.inr hrange)⟩
  rw [if_neg hrange] at h
  obtain ⟨lhs, hlhs, h⟩ := bind_eq_ok.1 h
  obtain ⟨rhs, hrhs, h⟩ := bind_eq_ok.1 h
  obtain ⟨metrics, hmetrics, h⟩ := bind_eq_ok.1 h
  obtain ⟨observation, -, h⟩ := bind_eq_ok.1 h
  obtain ⟨e, he, h⟩ := bind_eq_ok.1 h
  obtain ⟨_, hobject⟩ := validated_ok he
  refine .inr ⟨e, left, right, lhs, rhs, metrics, (Except.ok.inj h).symm,
    ⟨hleft, hright, hlhs, hrhs, hmetrics, ?_, ?_, ?_, ?_, ?_, ?_, ?_⟩⟩ <;> simp only [← hobject]

/-- An item about unique column combinations with columns, within the arity bound and in range has
evidence. -/
theorem uccItem_measures {item : ProviderUCC} (h : adapter.uccItem engine d tableId item = .ok r)
    (hcolumns : item.indices ≠ [])
    (harity : item.indices.length ≤ d.request.searchPolicy.maxUccArity)
    (hrange : InRange (d.columnsOf tableId) item.indices) : ∃ e, r = some e ∧ e.tableId = tableId ∧
      NamesColumns (d.columnsOf tableId) item.indices e.columnIds := by
  rcases uccItem_ok h with ⟨-, hnil | hlong | hexceeds⟩ | ⟨e, chosen, metrics, rfl, he⟩
  · exact absurd hnil hcolumns
  · omega
  · exact absurd hexceeds (not_exceeds hrange)
  · exact ⟨e, rfl, he.tableId, chosen, he.columns, he.columnIds⟩

theorem fdItem_measures {item : ProviderFD} {r : Option FunctionalDependencyEvidence}
    (h : adapter.fdItem engine d approximate tableId item = .ok r) (hcolumns : item.lhsIndices ≠ [])
    (harity : item.lhsIndices.length ≤ d.request.searchPolicy.maxFdLhsArity)
    (hrange : InRange (d.columnsOf tableId) (item.lhsIndices ++ [item.rhsIndex])) :
    ∃ e, r = some e ∧ e.approximate = approximate ∧ e.tableId = tableId ∧
      NamesColumns (d.columnsOf tableId) item.lhsIndices e.determinant ∧
      NamesColumns (d.columnsOf tableId) [item.rhsIndex] e.dependent := by
  rcases fdItem_ok h with ⟨-, hnil | hlong | hexceeds⟩ | ⟨e, lhs, rhs, metrics, rfl, he⟩
  · exact absurd hnil hcolumns
  · omega
  · exact absurd hexceeds (not_exceeds hrange)
  · have hdependent : columnsAt (d.columnsOf tableId) [item.rhsIndex] = .ok [rhs] :=
      mapM_eq_ok.2 (.cons he.dependentColumn .nil)
    exact ⟨e, rfl, he.approximate, he.tableId, ⟨lhs, he.determinantColumns, he.determinant⟩,
      [rhs], hdependent, he.dependent⟩

theorem indItem_measures {item : ProviderIND} {r : Option InclusionDependencyEvidence}
    (h : adapter.indItem engine d approximate item = .ok r) {left right : TableDescriptor}
    (hleft : itemAt d.tables item.leftTableIndex = .ok left)
    (hright : itemAt d.tables item.rightTableIndex = .ok right)
    (hdifferent : left.tableId ≠ right.tableId) (hcolumns : item.leftColumnIndices ≠ [])
    (hwidths : item.leftColumnIndices.length = item.rightColumnIndices.length)
    (harity : item.leftColumnIndices.length ≤ d.request.searchPolicy.maxIndArity)
    (hranges : InRange (d.columnsOf left.tableId) item.leftColumnIndices ∧
      InRange (d.columnsOf right.tableId) item.rightColumnIndices) :
    ∃ e, r = some e ∧ e.approximate = approximate ∧ e.leftTableId = left.tableId ∧
      e.rightTableId = right.tableId ∧
      NamesColumns (d.columnsOf left.tableId) item.leftColumnIndices e.leftColumns ∧
      NamesColumns (d.columnsOf right.tableId) item.rightColumnIndices e.rightColumns := by
  rcases indItem_ok h with ⟨-, left', right', hleft', hright', hskip⟩ |
    ⟨e, left', right', lhs, rhs, metrics, rfl, he⟩
  · cases hleft.symm.trans hleft'
    cases hright.symm.trans hright'
    rcases hskip with hsame | (hwidth | hnil | hlong) | hexceeds | hexceeds
    · exact absurd hsame hdifferent
    · exact absurd hwidths hwidth
    · exact absurd hnil hcolumns
    · omega
    · exact absurd hexceeds (not_exceeds hranges.1)
    · exact absurd hexceeds (not_exceeds hranges.2)
  · cases hleft.symm.trans he.leftTable
    cases hright.symm.trans he.rightTable
    exact ⟨e, rfl, he.approximate, he.leftTableId, he.rightTableId, ⟨lhs, he.leftColumns, he.leftIds⟩,
      rhs, he.rightColumns, he.rightIds⟩

end DesbordanteDependencyAdapter

/-! ## Calls of the provider -/

namespace ProviderCall

/-- A call that has been answered. -/
def Succeeded : ProviderCall → Prop
  | .ucc _ _ (.returned _) | .fd _ _ _ _ (.returned _) | .ind _ _ _ _ (.returned _) => True
  | _ => False

def Passes (kind : DependencyKind) (input : EngineInput) : ProviderCall → Prop
  | .ucc given _ _ => kind = .ucc ∧ given = input
  | .fd given approximate _ _ _ => kind = (if approximate then .afd else .fd) ∧ given = input
  | .ind given approximate _ _ _ =>
    kind = (if approximate then .approximateInd else .ind) ∧ input ∈ given

/-- The dependencies that a call returns are emitted: those that have columns, within the arity
bound and in range. -/
def Emitted (policy : DependencySearchPolicy) (tables : List TableDescriptor)
    (columnsOf : String → List ColumnDescriptor) (result : DependencyResult) : ProviderCall → Prop
  | .ucc input _ (.returned items) => ∀ item ∈ items, item.indices ≠ [] →
      item.indices.length ≤ policy.maxUccArity → InRange (columnsOf input.tableId) item.indices →
      ∃ e ∈ result.uccEvidence, e.tableId = input.tableId ∧
        NamesColumns (columnsOf input.tableId) item.indices e.columnIds
  | .fd input approximate _ _ (.returned items) => ∀ item ∈ items, item.lhsIndices ≠ [] →
      item.lhsIndices.length ≤ policy.maxFdLhsArity →
      InRange (columnsOf input.tableId) (item.lhsIndices ++ [item.rhsIndex]) →
      ∃ e ∈ result.functionalDependencies, e.approximate = approximate ∧
        e.tableId = input.tableId ∧
        NamesColumns (columnsOf input.tableId) item.lhsIndices e.determinant ∧
        NamesColumns (columnsOf input.tableId) [item.rhsIndex] e.dependent
  | .ind _ approximate _ _ (.returned items) => ∀ item ∈ items, ∀ left right,
      itemAt tables item.leftTableIndex = .ok left → itemAt tables item.rightTableIndex = .ok right →
      left.tableId ≠ right.tableId → item.leftColumnIndices ≠ [] →
      item.leftColumnIndices.length = item.rightColumnIndices.length →
      item.leftColumnIndices.length ≤ policy.maxIndArity →
      InRange (columnsOf left.tableId) item.leftColumnIndices ∧
        InRange (columnsOf right.tableId) item.rightColumnIndices →
      ∃ e ∈ result.inclusionDependencies, e.approximate = approximate ∧
        e.leftTableId = left.tableId ∧ e.rightTableId = right.tableId ∧
        NamesColumns (columnsOf left.tableId) item.leftColumnIndices e.leftColumns ∧
        NamesColumns (columnsOf right.tableId) item.rightColumnIndices e.rightColumns
  | _ => True

end ProviderCall

theorem mem_of_itemAt {α : Type} {xs : List α} {i : Int} {x : α} (h : itemAt xs i = .ok x) :
    x ∈ xs := by
  unfold itemAt at h
  split at h
  · rename_i y hy
    cases h
    split_ifs at hy
    · exact mem_of_getElem? hy
    · exact mem_of_getElem? hy
  · cases h

namespace DesbordanteDependencyAdapter

section

variable {adapter : DesbordanteDependencyAdapter} {engine : DependencyEngine} {d : Discovery}
  {columnsOf : String → List ColumnDescriptor} {log log' : ProviderLog}

variable (d columnsOf) in
/-- A search without failures: each of its calls has been answered with dependencies that are
emitted. -/
structure Clean (inputs : DependencyKind → EngineInput → Prop) (log log' : ProviderLog)
    (emits : DependencyResult → Prop) : Prop where
  passed : ∀ kind input, inputs kind input → ∃ c ∈ log'.calls, c.Passes kind input
  calls : ∀ c ∈ log'.calls, c ∈ log.calls ∨ (c.Succeeded ∧ ∀ result, emits result →
    c.Emitted d.request.searchPolicy d.tables columnsOf result)

variable {found : List UniqueColumnCombinationEvidence}

theorem discoverKeys_clean (hcolumns : ∀ t ∈ d.tables, d.columnsOf t.tableId = columnsOf t.tableId)
    (h : adapter.discoverKeys engine d log = .ok (found, log')) (hclean : log'.failures = []) :
    Clean d columnsOf (fun kind input => kind = .ucc ∧ .ucc ∈ d.request.requestedKinds ∧
      ∃ t ∈ d.tables, input = adapter.inputOf d t.tableId) log log'
      fun result => found ⊆ result.uccEvidence := by
  unfold discoverKeys at h
  by_cases hkind : .ucc ∈ d.request.requestedKinds
  · rw [if_pos hkind] at h
    obtain ⟨hall, honly⟩ := search_clean (fun _ _ => rfl) h hclean
    constructor
    · rintro kind input ⟨rfl, -, t, ht, rfl⟩
      obtain ⟨c, hc, before, items, rfl, -⟩ := hall t ht
      exact ⟨_, hc, rfl, rfl⟩
    · intro c hc
      rcases honly c hc with hc | ⟨t, ht, before, items, rfl, hanswer, hitems⟩
      · exact .inl hc
      refine .inr ?_
      beta_reduce at hanswer hitems ⊢
      rw [hanswer]
      refine ⟨trivial, fun result hfound item hitem hnonempty harity hrange => ?_⟩
      obtain ⟨r, hr, hmem⟩ := hitems item hitem
      obtain ⟨e, rfl, htable, hnames⟩ :=
        uccItem_measures hr hnonempty harity (hcolumns t ht ▸ hrange)
      exact ⟨e, hfound (hmem e rfl), htable, hcolumns t ht ▸ hnames⟩
  · rw [if_neg hkind] at h
    cases h
    exact ⟨fun kind input hinput => absurd hinput.2.1 hkind, fun c hc => .inl hc⟩

theorem mem_requestedModes {request : DependencyRequest} {exact approximate : DependencyKind}
    {mode : Bool} : mode ∈ requestedModes request exact approximate ↔
      (if mode then approximate else exact) ∈ request.requestedKinds := by
  unfold requestedModes
  rw [mem_filter, decide_eq_true_eq, and_iff_right]
  cases mode <;> simp

theorem discoverFds_clean {found : List FunctionalDependencyEvidence}
    (hcolumns : ∀ t ∈ d.tables, d.columnsOf t.tableId = columnsOf t.tableId)
    (h : adapter.discoverFds engine d log = .ok (found, log')) (hclean : log'.failures = []) :
    Clean d columnsOf (fun kind input => kind ∈ d.request.requestedKinds ∧
      (kind = .fd ∨ kind = .afd) ∧ ∃ t ∈ d.tables, input = adapter.inputOf d t.tableId) log log'
      fun result => found ⊆ result.functionalDependencies := by
  obtain ⟨hall, honly⟩ := search_clean (fun _ _ => rfl) h hclean
  have hmem : ∀ mode t, (mode, t) ∈
      ((requestedModes d.request .fd .afd).flatMap fun mode => d.tables.map (mode, ·)) ↔
        (if mode then DependencyKind.afd else .fd) ∈ d.request.requestedKinds ∧ t ∈ d.tables := by
    intro mode t
    rw [mem_flatMap]
    constructor
    · rintro ⟨mode', hmode, hitem⟩
      obtain ⟨t', ht, heq⟩ := mem_map.1 hitem
      cases heq
      exact ⟨mem_requestedModes.1 hmode, ht⟩
    · rintro ⟨hmode, ht⟩
      exact ⟨mode, mem_requestedModes.2 hmode, mem_map.2 ⟨t, ht, rfl⟩⟩
  constructor
  · rintro kind input ⟨hkind, hkinds, t, ht, rfl⟩
    have hmode : ∃ mode : Bool, kind = if mode then .afd else .fd := by
      rcases hkinds with rfl | rfl
      · exact ⟨false, rfl⟩
      · exact ⟨true, rfl⟩
    obtain ⟨mode, rfl⟩ := hmode
    obtain ⟨c, hc, before, items, rfl, -⟩ := hall (mode, t) ((hmem mode t).2 ⟨hkind, ht⟩)
    exact ⟨_, hc, rfl, rfl⟩
  · intro c hc
    rcases honly c hc with hc | ⟨⟨mode, t⟩, hitem, before, items, rfl, hanswer, hitems⟩
    · exact .inl hc
    have ht := ((hmem mode t).1 hitem).2
    refine .inr ?_
    beta_reduce at hanswer hitems ⊢
    rw [hanswer]
    refine ⟨trivial, fun result hfound item hitem hnonempty harity hrange => ?_⟩
    obtain ⟨r, hr, hfoundItem⟩ := hitems item hitem
    obtain ⟨e, rfl, hmode, htable, hdeterminant, hdependent⟩ :=
      fdItem_measures hr hnonempty harity (hcolumns t ht ▸ hrange)
    exact ⟨e, hfound (hfoundItem e rfl), hmode, htable, hcolumns t ht ▸ hdeterminant,
      hcolumns t ht ▸ hdependent⟩

theorem discoverInds_clean {found : List InclusionDependencyEvidence}
    (hcolumns : ∀ t ∈ d.tables, d.columnsOf t.tableId = columnsOf t.tableId)
    (h : adapter.discoverInds engine d log = .ok (found, log')) (hclean : log'.failures = []) :
    Clean d columnsOf (fun kind input => kind ∈ d.request.requestedKinds ∧
      (kind = .ind ∨ kind = .approximateInd) ∧ input ∈ adapter.inputsOf d) log log'
      fun result => found ⊆ result.inclusionDependencies := by
  obtain ⟨hall, honly⟩ := search_clean (fun _ _ => rfl) h hclean
  constructor
  · rintro kind input ⟨hkind, hkinds, hinput⟩
    have hmode : ∃ mode : Bool, kind = if mode then .approximateInd else .ind := by
      rcases hkinds with rfl | rfl
      · exact ⟨false, rfl⟩
      · exact ⟨true, rfl⟩
    obtain ⟨mode, rfl⟩ := hmode
    obtain ⟨c, hc, before, items, rfl, -⟩ := hall mode (mem_requestedModes.2 hkind)
    exact ⟨_, hc, rfl, hinput⟩
  · intro c hc
    rcases honly c hc with hc | ⟨mode, hmode, before, items, rfl, hanswer, hitems⟩
    · exact .inl hc
    refine .inr ?_
    beta_reduce at hanswer hitems ⊢
    rw [hanswer]
    refine ⟨trivial, fun result hfound item hitem left right hleft hright hdifferent hnonempty hwidths
      harity hranges => ?_⟩
    have hl := hcolumns left (mem_of_itemAt hleft)
    have hr := hcolumns right (mem_of_itemAt hright)
    obtain ⟨r, hok, hfoundItem⟩ := hitems item hitem
    obtain ⟨e, rfl, hmode, hleftId, hrightId, hleftNames, hrightNames⟩ := indItem_measures hok hleft
      hright hdifferent hnonempty hwidths harity ⟨hl ▸ hranges.1, hr ▸ hranges.2⟩
    exact ⟨e, hfound (hfoundItem e rfl), hmode, hleftId, hrightId, hl ▸ hleftNames, hr ▸ hrightNames⟩

theorem mem_inputsOf {t : TableDescriptor} (ht : t ∈ d.tables) :
    adapter.inputOf d t.tableId ∈ adapter.inputsOf d := by
  unfold inputsOf byTable
  rw [map_map, mem_map]
  exact ⟨t.tableId, mem_eraseDups.2 (mem_map.2 ⟨t, ht, rfl⟩), rfl⟩

theorem discoverKeys_extends (h : adapter.discoverKeys engine d log = .ok (found, log')) :
    Extends log log' := by
  unfold discoverKeys at h
  split_ifs at h
  · exact search_extends (fun _ _ => rfl) h
  · cases h
    exact Extends.refl _

theorem searchAll_extends {found : Findings}
    (h : adapter.searchAll engine d log = .ok (found, log')) : Extends log log' := by
  obtain ⟨⟨uccs, afterUccs⟩, huccs, h⟩ := bind_eq_ok.1 h
  obtain ⟨⟨fds, afterFds⟩, hfds, h⟩ := bind_eq_ok.1 h
  obtain ⟨⟨inds, last⟩, hinds, h⟩ := bind_eq_ok.1 h
  cases h
  exact (discoverKeys_extends huccs).trans ((search_extends (fun _ _ => rfl) hfds).trans
    (search_extends (fun _ _ => rfl) hinds))

theorem searchAll_clean {failures : List DependencyFailure} {found : Findings}
    (hcolumns : ∀ t ∈ d.tables, d.columnsOf t.tableId = columnsOf t.tableId)
    (h : adapter.searchAll engine d ⟨[], failures⟩ = .ok (found, log)) (hclean : log.failures = []) :
    (∀ kind ∈ d.request.requestedKinds, ∀ t ∈ d.tables,
      ∃ c ∈ log.calls, c.Passes kind (adapter.inputOf d t.tableId)) ∧
    ∀ c ∈ log.calls, c.Succeeded ∧ ∀ result : DependencyResult, found.uccs ⊆ result.uccEvidence →
      found.fds ⊆ result.functionalDependencies → found.inds ⊆ result.inclusionDependencies →
      c.Emitted d.request.searchPolicy d.tables columnsOf result := by
  obtain ⟨⟨uccs, afterUccs⟩, huccs, h⟩ := bind_eq_ok.1 h
  obtain ⟨⟨fds, afterFds⟩, hfds, h⟩ := bind_eq_ok.1 h
  obtain ⟨⟨inds, last⟩, hinds, h⟩ := bind_eq_ok.1 h
  obtain ⟨rfl, rfl⟩ := Prod.mk.inj (Except.ok.inj h)
  have hextendsInds : Extends afterFds last := search_extends (fun _ _ => rfl) hinds
  have hextendsFds : Extends afterUccs afterFds := search_extends (fun _ _ => rfl) hfds
  have hcleanFds := hextendsInds.failures_eq_nil hclean
  have hcleanUccs := hextendsFds.failures_eq_nil hcleanFds
  have hkeys := discoverKeys_clean hcolumns huccs hcleanUccs
  have hfunctional := discoverFds_clean hcolumns hfds hcleanFds
  have hinclusions := discoverInds_clean hcolumns hinds hclean
  refine ⟨fun kind hkind t ht => ?_, fun c hc => ?_⟩
  · have hfd : (kind = .fd ∨ kind = .afd) → ∃ c ∈ last.calls,
        c.Passes kind (adapter.inputOf d t.tableId) := by
      intro hkinds
      obtain ⟨c, hc, hpasses⟩ := hfunctional.passed kind _ ⟨hkind, hkinds, t, ht, rfl⟩
      exact ⟨c, hextendsInds.calls.subset hc, hpasses⟩
    cases kind with
    | ucc =>
      obtain ⟨c, hc, hpasses⟩ := hkeys.passed .ucc _ ⟨rfl, hkind, t, ht, rfl⟩
      exact ⟨c, hextendsInds.calls.subset (hextendsFds.calls.subset hc), hpasses⟩
    | fd => exact hfd (.inl rfl)
    | afd => exact hfd (.inr rfl)
    | ind => exact hinclusions.passed .ind _ ⟨hkind, .inl rfl, mem_inputsOf ht⟩
    | approximateInd => exact hinclusions.passed .approximateInd _ ⟨hkind, .inr rfl, mem_inputsOf ht⟩
  · rcases hinclusions.calls c hc with hc | ⟨hanswered, hemits⟩
    · rcases hfunctional.calls c hc with hc | ⟨hanswered, hemits⟩
      · rcases hkeys.calls c hc with hc | ⟨hanswered, hemits⟩
        · cases hc
        · exact ⟨hanswered, fun result hfound _ _ => hemits result hfound⟩
      · exact ⟨hanswered, fun result _ hfound _ => hemits result hfound⟩
    · exact ⟨hanswered, fun result _ _ hfound => hemits result hfound⟩

end

end DesbordanteDependencyAdapter

/-! ## Closed results -/

/-- A result that keeps to its bound and names nothing that it does not hold. -/
structure Closed (request : DependencyRequest) (result : DependencyResult) : Prop where
  bounded : result.emitted ≤ request.searchPolicy.maxOutputCandidates
  keys : ∀ k ∈ result.keyCandidates, ∃ e ∈ result.uccEvidence, e.evidenceId = k.uccEvidenceId ∧
    k.evidenceRefs = [e.evidenceId]
  relationships : ∀ r ∈ result.relationshipCandidates, ∀ ref ∈ r.evidenceRefs,
    ∃ e ∈ result.inclusionDependencies, e.evidenceId = ref
  targets : ∀ r ∈ result.relationshipCandidates,
    r.typeCompatible = true ∧ r.targetUniquenessRatio = 1
  uccRatios : ∀ e ∈ result.uccEvidence, IsRatio e.uniquenessRatio ∧ IsRatio e.physicalMissingRatio
  keyRatios : ∀ k ∈ result.keyCandidates, IsRatio k.uniquenessRatio ∧ IsRatio k.physicalMissingRatio
  fdRatios : ∀ e ∈ result.functionalDependencies, IsRatio e.supportRatio ∧ IsRatio e.errorRatio
  indRatios : ∀ e ∈ result.inclusionDependencies, IsRatio e.coverageRatio ∧
    IsRatio e.violationRatio ∧ IsRatio e.targetUniquenessRatio
  relationshipRatios : ∀ r ∈ result.relationshipCandidates,
    IsRatio r.sourceOrphanRatio ∧ IsRatio r.targetUniquenessRatio

variable {request : DependencyRequest}

/-- Evidence is in range by its contract, so that only the references of the candidates are left. -/
theorem closed_of_references {result : DependencyResult}
    (bounded : result.emitted ≤ request.searchPolicy.maxOutputCandidates)
    (keys : ∀ k ∈ result.keyCandidates, ∃ e ∈ result.uccEvidence, e.evidenceId = k.uccEvidenceId ∧
      k.evidenceRefs = [e.evidenceId])
    (relationships : ∀ r ∈ result.relationshipCandidates, ∀ ref ∈ r.evidenceRefs,
      ∃ e ∈ result.inclusionDependencies, e.evidenceId = ref)
    (targets : ∀ r ∈ result.relationshipCandidates,
      r.typeCompatible = true ∧ r.targetUniquenessRatio = 1) : Closed request result where
  bounded := bounded
  keys := keys
  relationships := relationships
  targets := targets
  uccRatios e _ := e.isMeasured.2
  keyRatios k _ := k.isMeasured.2
  fdRatios e _ := e.isMeasured.2.2
  indRatios e _ := e.isMeasured
  relationshipRatios r _ := r.isMeasured

theorem failedResult_closed {request' : DependencyRequest} {scope : DependencyObservationScope}
    {failures : List DependencyFailure} {capability : DependencyCapability}
    {stats : DependencySearchStats} : Closed request
      (DesbordanteDependencyAdapter.failedResult request' scope failures capability stats) :=
  closed_of_references (Nat.zero_le _) nofun nofun nofun

theorem take_eq_of_room {α : Type} {xs : List α} {n : Nat} (h : 0 < n - (xs.take n).length) :
    xs.take n = xs := by
  rw [length_take] at h
  exact take_of_length_le (by omega)

namespace DesbordanteDependencyAdapter

section

variable {adapter : DesbordanteDependencyAdapter} {d : Discovery} {found : Findings}
  {capability : DependencyCapability} {stats : DependencySearchStats} {log : ProviderLog}

theorem relationshipCandidate_some {item : InclusionDependencyEvidence} {r : RelationshipCandidate}
    (h : adapter.relationshipCandidate item = some r) :
    r.evidenceRefs = [item.evidenceId] ∧ r.typeCompatible = true ∧ r.targetUniquenessRatio = 1 := by
  unfold relationshipCandidate at h
  split_ifs at h with htarget
  cases h
  exact ⟨rfl, htarget.2.1, le_antisymm item.isMeasured.2.2.2 htarget.2.2⟩

/-- The five lists are cut one after the other: a candidate is only emitted when all evidence before
it is. -/
theorem searchResult_closed :
    Closed d.request (adapter.searchResult d capability stats found log) := by
  refine closed_of_references ?_ ?_ ?_ ?_
  · show _ ≤ d.request.searchPolicy.maxOutputCandidates
    simp only [DependencyResult.emitted, searchResult, length_take]
    omega
  · intro k hk
    simp only [searchResult] at hk ⊢
    have hroom := length_pos_of_mem hk
    rw [length_take] at hroom
    rw [take_eq_of_room (by omega)]
    obtain ⟨e, he, rfl⟩ := mem_map.1 (mem_of_mem_take hk)
    exact ⟨e, he, rfl, rfl⟩
  · intro r hr ref href
    simp only [searchResult] at hr ⊢
    have hroom := length_pos_of_mem hr
    rw [length_take] at hroom
    rw [take_eq_of_room (by omega)]
    obtain ⟨e, he, hcandidate⟩ := mem_filterMap.1 (mem_of_mem_take hr)
    rw [(relationshipCandidate_some hcandidate).1] at href
    exact ⟨e, he, (mem_singleton.1 href).symm⟩
  · intro r hr
    obtain ⟨e, -, hcandidate⟩ := mem_filterMap.1 (mem_of_mem_take hr)
    exact (relationshipCandidate_some hcandidate).2

theorem completeness_complete (h : adapter.completeness d stats found log = .complete) :
    stats.truncated = false ∧
      found.emitted adapter ≤ d.request.searchPolicy.maxOutputCandidates ∧ log.failures = [] ∧
      d.scope.completeByTable.all Prod.snd = true := by
  unfold completeness at h
  split_ifs at h with hincomplete
  simp only [not_or, not_not] at hincomplete
  obtain ⟨htruncated, hfailures, hscope⟩ := hincomplete
  simp only [isTruncated, Bool.or_eq_true, decide_eq_true_eq, not_or, not_not,
    Bool.not_eq_true] at htruncated
  refine ⟨htruncated.1, ?_, ?_, hscope⟩
  · by_contra hover
    have hreasons := htruncated.2
    simp only [truncationReasons, if_pos (Nat.lt_of_not_le hover)] at hreasons
    simp at hreasons
  · by_contra hne
    unfold finalFailures at hfailures
    split_ifs at hfailures
    · exact absurd hfailures (append_ne_nil_of_right_ne_nil _ (cons_ne_nil _ _))
    · exact hne hfailures

/-- What a complete status says of the search behind it: nothing that it has found is cut. -/
theorem searchResult_complete
    (h : (adapter.searchResult d capability stats found log).status = .complete) :
    log.failures = [] ∧ stats.truncated = false ∧ d.scope.completeByTable.all Prod.snd = true ∧
      found.uccs ⊆ (adapter.searchResult d capability stats found log).uccEvidence ∧
      found.fds ⊆ (adapter.searchResult d capability stats found log).functionalDependencies ∧
      found.inds ⊆ (adapter.searchResult d capability stats found log).inclusionDependencies := by
  have hcomplete : adapter.completeness d stats found log = .complete := by
    by_contra hne
    rw [searchResult, if_neg hne] at h
    cases h
  obtain ⟨htruncated, hbound, hfailures, hscope⟩ := completeness_complete hcomplete
  unfold Findings.emitted at hbound
  refine ⟨hfailures, htruncated, hscope, fun e he => ?_, fun e he => ?_, fun e he => ?_⟩
  · show e ∈ found.uccs.take _
    rwa [take_of_length_le (by omega)]
  · show e ∈ found.fds.take _
    rwa [take_of_length_le (by simp only [length_take]; omega)]
  · show e ∈ found.inds.take _
    rwa [take_of_length_le (by simp only [length_take]; omega)]

end

/-! ## Runs of discovery -/

section

variable {adapter : DesbordanteDependencyAdapter} {request : DependencyRequest}
  {catalog : SourceCatalog} {snapshot : SourceSnapshotResult} {artifactRoot : Option String}
  {authorization : Option DependencyAuthorization} {result : DependencyResult}
  {calls : List ProviderCall}

variable (adapter request catalog snapshot result calls) in
/-- A result that comes from a search which has come to its end. -/
structure Searched (rows : List (String × List StagedDependencyRow)) (engine : DependencyEngine)
    (found : Findings) (log : ProviderLog) : Prop where
  loaded : adapter.loadRows request catalog snapshot = .ok rows
  available : adapter.engine = some engine
  search : adapter.searchAll engine (discovery request catalog snapshot rows)
    ⟨[], adapter.boundFailures request (searchStats request catalog)⟩ = .ok (found, log)
  result : ∃ artifacts, result = { adapter.searchResult (discovery request catalog snapshot rows)
    (adapter.capability request) (searchStats request catalog) found log with artifacts := artifacts }
  calls : calls = log.calls

variable (adapter request result) in
/-- A result that emits nothing, with its failures. -/
def Fails : Prop :=
  ∃ scope failures stats,
    result = failedResult request scope failures (adapter.capability request) stats

theorem discoverRows_cases {rows : List (String × List StagedDependencyRow)}
    (hrows : adapter.loadRows request catalog snapshot = .ok rows)
    (h : adapter.discoverRows request catalog snapshot artifactRoot rows = .ok (result, calls)) :
    Fails adapter request result ∨ ∃ engine found log,
      Searched adapter request catalog snapshot result calls rows engine found log := by
  simp only [discoverRows] at h
  by_cases hbudget : request.searchPolicy.maxColumnPairs <
      (searchStats request catalog).candidatePairsBeforePruning
  · rw [if_pos hbudget] at h
    cases h
    exact .inl ⟨_, _, _, rfl⟩
  rw [if_neg hbudget] at h
  cases hengine : adapter.engine with
  | none =>
    simp only [hengine] at h
    cases h
    exact .inl ⟨_, _, _, rfl⟩
  | some engine =>
    simp only [hengine] at h
    by_cases hroot : adapter.makesTempRoot request = true
    on_goal 2 => rw [if_pos hroot] at h; cases h
    rw [if_neg (not_not.2 hroot)] at h
    replace h := Except.ok.inj h
    unfold runSearch at h
    split_ifs at h with hwrites
    on_goal 2 =>
      cases h
      exact .inl ⟨_, _, _, rfl⟩
    split at h
    · cases h
      exact .inl ⟨_, _, _, rfl⟩
    · rename_i found log hsearch
      cases artifactRoot with
      | none =>
        cases h
        exact .inr ⟨engine, found, log, ⟨hrows, hengine, hsearch, ⟨_, rfl⟩, rfl⟩⟩
      | some root =>
        simp only at h
        split at h
        · cases h
          exact .inl ⟨_, _, _, rfl⟩
        · cases h
          exact .inr ⟨engine, found, log, ⟨hrows, hengine, hsearch, ⟨_, rfl⟩, rfl⟩⟩

variable (h : adapter.discover request catalog snapshot artifactRoot authorization = .ok (result, calls))

include h in
theorem discover_cases : Fails adapter request result ∨
      adapter.validateEntry request catalog snapshot authorization = .ok () ∧
        ∃ rows engine found log,
          Searched adapter request catalog snapshot result calls rows engine found log := by
  unfold discover at h
  simp only at h
  split at h
  · split_ifs at h with hdetail
    cases h
    exact .inl ⟨_, _, _, rfl⟩
  · rename_i hentry
    split at h
    · cases h
    · split_ifs at h with hdetail
      cases h
      exact .inl ⟨_, _, _, rfl⟩
    · rename_i rows hrows
      rcases discoverRows_cases hrows h with hfailed | ⟨engine, found, log, hsearched⟩
      · exact .inl hfailed
      · exact .inr ⟨hentry, rows, engine, found, log, hsearched⟩

variable (adapter request catalog snapshot result calls) in
/-- What a complete result has covered. -/
structure Complete (rows : List (String × List StagedDependencyRow)) : Prop where
  loaded : adapter.loadRows request catalog snapshot = .ok rows
  tables : selectedTables request catalog = requestedTables request catalog
  columns : ∀ t ∈ requestedTables request catalog,
    selectedColumns request catalog t.tableId = allColumns catalog t.tableId
  observed : ∀ tableId ∈ request.selectedTableIds, fullyObserved snapshot tableId = true
  passed : ∀ kind ∈ request.requestedKinds, ∀ tableId ∈ request.selectedTableIds, ∃ call ∈ calls,
    call.Passes kind (engineInput adapter.interpreter tableId (allColumns catalog tableId)
      ((getItem rows tableId).getD []) request.nullPolicy)
  succeeded : ∀ call ∈ calls, call.Succeeded
  emitted : ∀ call ∈ calls, call.Emitted request.searchPolicy (requestedTables request catalog)
    (allColumns catalog) result

theorem requested_of_validateEntry
    (h : adapter.validateEntry request catalog snapshot authorization = .ok ()) {tableId : String}
    (hid : tableId ∈ request.selectedTableIds) :
    ∃ t ∈ requestedTables request catalog, t.tableId = tableId := by
  by_contra hnone
  have hunknown : ∃ tableId ∈ request.selectedTableIds,
      tableId ∉ catalog.tables.map TableDescriptor.tableId := by
    refine ⟨tableId, hid, fun hmem => hnone ?_⟩
    obtain ⟨t, ht, rfl⟩ := mem_map.1 hmem
    exact ⟨t, mem_filter.2 ⟨ht, by simpa using hid⟩, rfl⟩
  simp only [validateEntry, if_pos hunknown] at h
  split_ifs at h
  all_goals simp [throw, throwThe, MonadExceptOf.throw, bind, Except.bind] at h

theorem uncut_of_boundFailures
    (h : adapter.boundFailures request (searchStats request catalog) = []) :
    selectedTables request catalog = requestedTables request catalog ∧
      ∀ t ∈ requestedTables request catalog,
        selectedColumns request catalog t.tableId = allColumns catalog t.tableId := by
  unfold boundFailures at h
  split_ifs at h with hexcluded
  simp only [not_or, not_not] at hexcluded
  obtain ⟨htables, hcolumns⟩ := hexcluded
  have hall : selectedTables request catalog = requestedTables request catalog := by
    have hlength : (requestedTables request catalog).length -
      (selectedTables request catalog).length = 0 := htables
    unfold selectedTables at hlength ⊢
    rw [length_take] at hlength
    exact take_of_length_le (by omega)
  refine ⟨hall, fun t ht => ?_⟩
  have hzero := sum_eq_zero_iff.1 hcolumns _ (mem_map.2 ⟨t, ht, rfl⟩)
  rw [if_pos (hall ▸ mem_map.2 ⟨t, ht, rfl⟩)] at hzero
  unfold selectedColumns at hzero ⊢
  rw [length_take] at hzero
  exact take_of_length_le (by omega)

include h in
/-- **A complete result is complete, and every result is closed.** -/
theorem discover_sound : (result.status = .complete →
      ∃ rows, Complete adapter request catalog snapshot result calls rows) ∧
    Closed request result := by
  rcases discover_cases h with ⟨scope, failures, stats, rfl⟩ |
    ⟨hentry, rows, engine, found, log, hsearched⟩
  · exact ⟨nofun, failedResult_closed⟩
  obtain ⟨artifacts, rfl⟩ := hsearched.result
  have hclosed : Closed request (adapter.searchResult (discovery request catalog snapshot rows)
    (adapter.capability request) (searchStats request catalog) found log) :=
    searchResult_closed (d := discovery request catalog snapshot rows)
  refine ⟨fun hcomplete => ⟨rows, ?_⟩, ⟨hclosed.bounded, hclosed.keys, hclosed.relationships,
    hclosed.targets, hclosed.uccRatios, hclosed.keyRatios, hclosed.fdRatios, hclosed.indRatios,
    hclosed.relationshipRatios⟩⟩
  have hstatus : (adapter.searchResult (discovery request catalog snapshot rows)
    (adapter.capability request) (searchStats request catalog) found log).status = .complete := hcomplete
  obtain ⟨hfailures, -, hscope, huccs, hfds, hinds⟩ := searchResult_complete hstatus
  obtain ⟨htables, hcolumns⟩ := uncut_of_boundFailures
    ((searchAll_extends hsearched.search).failures_eq_nil hfailures)
  have hselected : (discovery request catalog snapshot rows).tables = requestedTables request catalog :=
    htables
  obtain ⟨hpassed, hcalls⟩ := searchAll_clean (fun t ht => hcolumns t (hselected ▸ ht))
    hsearched.search hfailures
  exact {
    loaded := hsearched.loaded
    tables := htables
    columns := hcolumns
    observed := fun tableId hid => by
      obtain ⟨t, ht, rfl⟩ := requested_of_validateEntry hentry hid
      have hitem : (t.tableId, fullyObserved snapshot t.tableId) ∈
          (discovery request catalog snapshot rows).scope.completeByTable := by
        refine mem_map.2 ⟨t.tableId, mem_eraseDups.2 (mem_map.2 ⟨t, ?_, rfl⟩), rfl⟩
        exact htables ▸ ht
      exact all_eq_true.1 hscope _ hitem
    passed := fun kind hkind tableId hid => by
      obtain ⟨t, ht, rfl⟩ := requested_of_validateEntry hentry hid
      obtain ⟨c, hc, hpasses⟩ := hpassed kind hkind t (hselected.symm ▸ ht)
      rw [← hcolumns t ht]
      exact ⟨c, hsearched.calls ▸ hc, hpasses⟩
    succeeded := fun c hc => (hcalls c (hsearched.calls ▸ hc)).1
    emitted := fun c hc => by
      rw [← htables]
      exact (hcalls c (hsearched.calls ▸ hc)).2 _ huccs hfds hinds }

end

/-! ## Two tables -/

/-- A search bounded by default values. -/
def demoPolicy : DependencySearchPolicy where
  maxTables := 32
  maxColumnsPerTable := 64
  maxUccArity := 3
  maxFdLhsArity := 3
  maxIndArity := 3
  maxColumnPairs := 2000
  maxOutputCandidates := 500
  maxRuntimeSeconds := 120
  maxErrorRatio := 1 / 5
  lowCardinalityDistinctLimit := 8
  lowCardinalityDistinctRatio := 1 / 20

def demoRequest (kinds : List DependencyKind) (policy : NullPolicy) : DependencyRequest where
  requestId := "request"
  sourceId := "source"
  snapshotId := "snapshot"
  selectedTableIds := ["a", "b"]
  requestedKinds := kinds
  searchPolicy := demoPolicy
  nullPolicy := policy
  privacyPurpose := "analysis"

def demoCatalog : SourceCatalog where
  sourceId := "source"
  tables := [⟨"a", "a"⟩, ⟨"b", "b"⟩]
  columns := [⟨"a.x", "a", "x", "string"⟩, ⟨"b.x", "b", "x", "string"⟩, ⟨"b.y", "b", "y", "string"⟩]

def demoSnapshot : SourceSnapshotResult where
  snapshotId := "snapshot"
  observationMode := .full
  batches := []
  recordTableIds := []
  tableObservations := [⟨"a", .fullyObserved⟩, ⟨"b", .fullyObserved⟩]

def demoAuthorization : DependencyAuthorization where
  authorizationId := "authorization"
  purpose := "analysis"
  policyId := "policy"
  policyVersion := "1"
  sourceId := "source"
  snapshotId := "snapshot"
  tableIds := ["a", "b"]
  artifactIds := []
  networkAllowed := false
  externalProcessingAllowed := false

/-- Floats that hold every rational number. -/
def exactRounding : Rounding where
  round x := x
  monotone := monotone_id
  zero := rfl
  one := rfl

/-- An adapter over an engine, for tables with the given rows. -/
def demoAdapter (engine : DependencyEngine) (rows : List StagedDependencyRow) :
    DesbordanteDependencyAdapter where
  engine := some engine
  interpreter := ⟨fun _ => true, fun text => text, fun _ => "", fun _ => none⟩
  rounding := exactRounding
  digest _ := "0"
  configHash _ := "config"
  iterTable _ _ _ _ := .ok rows
  verifyAuthorization := some fun _ _ _ _ _ => true
  makesTempRoot _ := true
  writesInput _ := true
  runtimeExceeded _ := false
  publish _ _ := none

/-- An engine that returns the same dependencies for all tables. -/
def fixedEngine (uccs : List ProviderUCC) (fds : List ProviderFD) (inds : List ProviderIND) :
    DependencyEngine where
  name := "engine"
  version := "1"
  runtimeIdentity := "local"
  discoverUcc _ _ _ := .returned uccs
  discoverFd _ _ _ _ _ := .returned fds
  discoverInd _ _ _ _ _ := .returned inds

/-- The discovery of some kinds in two empty tables. -/
def demoRun (kinds : List DependencyKind) (engine : DependencyEngine) :
    Except DiscoverRaised (DependencyResult × List ProviderCall) :=
  (demoAdapter engine []).discover (demoRequest kinds .nullsEqual) demoCatalog demoSnapshot none
    (some demoAuthorization)

theorem keyRun : (demoRun [.ucc] (fixedEngine [⟨[0]⟩] [] [])).toOption.map
    (fun r => (r.1.status, r.1.uccEvidence.map (·.columnIds))) =
      some (.complete, [["a.x"], ["b.x"]]) := by
  decide +kernel

/-- The keys of two tables are a complete result. -/
theorem discover_sound_keys : ∃ result calls,
    demoRun [.ucc] (fixedEngine [⟨[0]⟩] [] []) = .ok (result, calls) ∧ result.status = .complete ∧
      ((result.status = .complete → ∃ rows, Complete (demoAdapter (fixedEngine [⟨[0]⟩] [] []) [])
        (demoRequest [.ucc] .nullsEqual) demoCatalog demoSnapshot result calls rows) ∧
      Closed (demoRequest [.ucc] .nullsEqual) result) := by
  obtain ⟨⟨result, calls⟩, hrun, hkeys⟩ := exists_ok_of_map keyRun
  exact ⟨result, calls, hrun, (Prod.mk.inj hkeys).1, discover_sound hrun⟩

/-- What a run shows of its result: its status, its calls and the number of items it emits. -/
def outcome (r : DependencyResult × List ProviderCall) :
    DependencyStageStatus × List ProviderCall × Nat :=
  (r.1.status, r.2, r.1.emitted)

/-- A result of a request for no kind has passed no table to the provider; one may also leave out a
dependency without columns, and an inclusion between different numbers of columns. -/
theorem complete_leaves_out :
    (demoRun [] (fixedEngine [] [] [])).toOption.map outcome = some (.complete, [], 0) ∧
    (demoRun [.ucc] (fixedEngine [⟨[]⟩] [] [])).toOption.map outcome = some (.complete,
      [.ucc ⟨"a", ["x"], []⟩ 3 (.returned [⟨[]⟩]), .ucc ⟨"b", ["x", "y"], []⟩ 3 (.returned [⟨[]⟩])],
      0) ∧
    (demoRun [.fd] (fixedEngine [] [⟨[], 0, none⟩] [])).toOption.map outcome = some (.complete,
      [.fd ⟨"a", ["x"], []⟩ false (1 / 5) 3 (.returned [⟨[], 0, none⟩]),
        .fd ⟨"b", ["x", "y"], []⟩ false (1 / 5) 3 (.returned [⟨[], 0, none⟩])], 0) ∧
    (demoRun [.ind] (fixedEngine [] [] [⟨0, [0], 1, [0, 1], none⟩])).toOption.map outcome =
      some (.complete, [.ind [⟨"a", ["x"], []⟩, ⟨"b", ["x", "y"], []⟩] false (1 / 5) 3
        (.returned [⟨0, [0], 1, [0, 1], none⟩])], 0) := by
  refine ⟨?_, ?_, ?_, ?_⟩ <;> decide +kernel

end DesbordanteDependencyAdapter

end DirtyDataOlap.Dependencies

import DirtyDataOlap.ColumnDependencies
import DirtyDataOlap.DiscoveryCompleteness

/-!
# Verdicts of the provider and metrics of the project

A provider is correct if what it returns holds for the file that it is given, which writes a cell as
its type and its text.  A verdict and its metrics agree **unless two rows are told apart by one of
the two**: equal values that are written differently, values that are written alike without being
equal, or rows that only the metrics see.
-/
namespace DirtyDataOlap.Dependencies

open List ColumnDependencies SearchRounds
open Validation (Interpreter Token Value)

def cellsAt (indices : List Int) (row : List String) : List String :=
  indices.map fun i => row.getD i.toNat ""

section

variable (input : EngineInput)

/-- The indices are those of columns of a file. -/
def EngineInput.Has (indices : List Int) : Prop :=
  ∀ i ∈ indices, 0 ≤ i ∧ i < input.header.length

def UccHolds (item : ProviderUCC) : Prop :=
  input.Has item.indices ∧ IsKey (cellsAt item.indices) input.rows

def FdHolds (item : ProviderFD) : Prop :=
  input.Has (item.lhsIndices ++ [item.rhsIndex]) ∧
    Determines (cellsAt item.lhsIndices) (cellsAt [item.rhsIndex]) input.rows

/-- An inclusion between the columns of two files. -/
def IncludedIn (left right : EngineInput) (item : ProviderIND) : Prop :=
  left.Has item.leftColumnIndices ∧ right.Has item.rightColumnIndices ∧
    Included (cellsAt item.leftColumnIndices) left.rows (cellsAt item.rightColumnIndices) right.rows

def IndHolds (inputs : List EngineInput) (item : ProviderIND) : Prop :=
  (0 ≤ item.leftTableIndex ∧ 0 ≤ item.rightTableIndex) ∧
    ∃ left ∈ inputs[item.leftTableIndex.toNat]?, ∃ right ∈ inputs[item.rightTableIndex.toNat]?,
      IncludedIn left right item

instance (indices : List Int) : Decidable (input.Has indices) :=
  inferInstanceAs (Decidable (∀ i ∈ indices, 0 ≤ i ∧ i < input.header.length))

instance (item : ProviderUCC) : Decidable (UccHolds input item) :=
  inferInstanceAs (Decidable (_ ∧ _))

instance (item : ProviderFD) : Decidable (FdHolds input item) :=
  inferInstanceAs (Decidable (_ ∧ _))

end

instance (left right : EngineInput) (item : ProviderIND) : Decidable (IncludedIn left right item) :=
  inferInstanceAs (Decidable (_ ∧ _ ∧ _))

instance (inputs : List EngineInput) (item : ProviderIND) : Decidable (IndHolds inputs item) :=
  inferInstanceAs (Decidable (_ ∧ _))

/-- An engine whose exact dependencies hold for what it is given. -/
structure Correct (engine : DependencyEngine) : Prop where
  uccs : ∀ calls input maxArity items, engine.discoverUcc calls input maxArity = .returned items →
    ∀ item ∈ items, UccHolds input item
  fds : ∀ calls input maxError maxLhs items,
    engine.discoverFd calls input false maxError maxLhs = .returned items →
      ∀ item ∈ items, FdHolds input item
  inds : ∀ calls inputs maxError maxArity items,
    engine.discoverInd calls inputs false maxError maxArity = .returned items →
      ∀ item ∈ items, IndHolds inputs item

def checkingEngine (uccs : List ProviderUCC) (fds : List ProviderFD) (inds : List ProviderIND) :
    DependencyEngine where
  name := "engine"
  version := "1"
  runtimeIdentity := "local"
  discoverUcc _ input _ := .returned (uccs.filter (UccHolds input))
  discoverFd _ input _ _ _ := .returned (fds.filter (FdHolds input))
  discoverInd _ inputs _ _ _ := .returned (inds.filter (IndHolds inputs))

theorem checkingEngine_correct (uccs : List ProviderUCC) (fds : List ProviderFD)
    (inds : List ProviderIND) : Correct (checkingEngine uccs fds inds) where
  uccs := by
    intro calls input maxArity items h item hitem
    cases h
    exact of_decide_eq_true (mem_filter.1 hitem).2
  fds := by
    intro calls input maxError maxLhs items h item hitem
    cases h
    exact of_decide_eq_true (mem_filter.1 hitem).2
  inds := by
    intro calls inputs maxError maxArity items h item hitem
    cases h
    exact of_decide_eq_true (mem_filter.1 hitem).2

/-! ## Rows as they are written and as they are compared -/

/-- A row with its position. -/
abbrev Item := StagedDependencyRow × Nat

/-- The rows without a null in some columns, where nulls are excluded. -/
def eligibleRows (names : List String) (policy : NullPolicy) (rows : List StagedDependencyRow) :
    List Item :=
  rows.zipIdx.filter fun item => rowEligible item.1 names policy

def namesOf (columns : List ColumnDescriptor) : List String := columns.map ColumnDescriptor.physicalName

/-- What the provider is given of a row. -/
def written (py : Interpreter) (policy : NullPolicy) (chosen : List ColumnDescriptor) (item : Item) :
    List String :=
  chosen.map fun c => cellBody py (item.1.get c.physicalName) policy item.2 c.columnId

/-- What the distinct rows are counted by. -/
def plainKey (chosen : List ColumnDescriptor) (item : Item) : List (List Token) :=
  chosen.map fun c => (item.1.get c.physicalName).key

/-- What the rows of a dependency are compared by. -/
def metricKey (columns chosen : List ColumnDescriptor) (policy : NullPolicy) (item : Item) :
    List (List Token) :=
  (metricTuple columns (namesOf chosen) policy item).map Value.key

section

variable {py : Interpreter} {policy : NullPolicy} {columns chosen : List ColumnDescriptor}
  {rows : List StagedDependencyRow}

theorem encodeCell_inj {a b : String} :
    "DDO1_" ++ Base64.encodeText a = "DDO1_" ++ Base64.encodeText b ↔ a = b := by
  constructor
  · intro h
    exact Base64.encodeText_injective (String.append_right_inj _ |>.1 h)
  · exact fun h => h ▸ rfl

theorem itemAt_ok {α : Type} {xs : List α} {i : Int} {x : α} (hi : 0 ≤ i) (h : itemAt xs i = .ok x) :
    xs[i.toNat]? = some x := by
  unfold itemAt at h
  rw [if_pos hi] at h
  cases hx : xs[i.toNat]? with
  | none => simp [hx] at h
  | some y => simpa [hx] using h

theorem cellsAt_map {indices : List Int} (hchosen : columnsAt columns indices = .ok chosen)
    (hindices : ∀ i ∈ indices, 0 ≤ i) (f : ColumnDescriptor → String) :
    cellsAt indices (columns.map f) = chosen.map f := by
  induction indices generalizing chosen with
  | nil =>
    cases hchosen
    rfl
  | cons i indices ih =>
    obtain ⟨c, hc, hbind⟩ := bind_eq_ok.1 ((mapM_cons).symm.trans hchosen)
    obtain ⟨rest, hrest, hok⟩ := bind_eq_ok.1 hbind
    cases hok
    have hhead : (columns.map f).getD i.toNat "" = f c := by
      rw [getD_eq_getElem?_getD, getElem?_map, itemAt_ok (hindices i mem_cons_self) hc]
      rfl
    have htail := ih hrest fun j hj => hindices j (mem_cons_of_mem _ hj)
    rw [map_cons, ← hhead, ← htail]
    rfl

/-- Rows agree at some indices of their file exactly if they are written alike. -/
theorem cellsAt_eq_iff {indices : List Int} (hchosen : columnsAt columns indices = .ok chosen)
    (hindices : ∀ i ∈ indices, 0 ≤ i) {columns' chosen' : List ColumnDescriptor} {indices' : List Int}
    (hchosen' : columnsAt columns' indices' = .ok chosen') (hindices' : ∀ i ∈ indices', 0 ≤ i)
    {a b : Item} :
    cellsAt indices (columns.map fun c => encodeCell py (a.1.get c.physicalName) policy a.2 c.columnId) =
      cellsAt indices'
        (columns'.map fun c => encodeCell py (b.1.get c.physicalName) policy b.2 c.columnId) ↔
      written py policy chosen a = written py policy chosen' b := by
  rw [cellsAt_map hchosen hindices, cellsAt_map hchosen' hindices']
  have harmour : Function.Injective fun text => "DDO1_" ++ Base64.encodeText text :=
    fun _ _ h => encodeCell_inj.1 h
  have hleft : (chosen.map fun c => encodeCell py (a.1.get c.physicalName) policy a.2 c.columnId) =
      (written py policy chosen a).map fun text => "DDO1_" ++ Base64.encodeText text := by
    rw [written, map_map]
    rfl
  have hright : (chosen'.map fun c => encodeCell py (b.1.get c.physicalName) policy b.2 c.columnId) =
      (written py policy chosen' b).map fun text => "DDO1_" ++ Base64.encodeText text := by
    rw [written, map_map]
    rfl
  rw [hleft, hright]
  exact (map_injective_iff.2 harmour).eq_iff

/-! ## Metrics of the project -/

theorem tupleKey_ok {values : List Value} {key : List (List Token)} (h : tupleKey values = .ok key) :
    key = values.map Value.key := by
  unfold tupleKey at h
  split_ifs at h
  exact (Except.ok.inj h).symm

theorem map_eligibleRows {names : List String} :
    (eligibleRows names policy rows).map Prod.fst = rows.filter (rowEligible · names policy) := by
  have hfilter := filter_map (f := Prod.fst) (p := (rowEligible · names policy))
    (l := rows.zipIdx)
  rw [zipIdx_map_fst] at hfilter
  exact hfilter.symm

theorem keyMetrics_ok {metrics : KeyMetrics}
    (h : keyMetrics rows columns (namesOf chosen) policy = .ok metrics) :
    metrics.eligible = (eligibleRows (namesOf columns) policy rows).length ∧ metrics.distinct =
        ((eligibleRows (namesOf columns) policy rows).map (plainKey chosen)).eraseDups.length := by
  obtain ⟨keys, hkeys, h⟩ := bind_eq_ok.1 h
  cases h
  have hmap : keys = (rows.filter (rowEligible · (namesOf columns) policy)).map fun row =>
      (namesOf chosen).map fun name => (row.get name).key := by
    have hall := (mapM_eq_ok.1 hkeys).imp fun row key hkey => tupleKey_ok hkey
    rw [← map_id keys]
    refine map_eq_of_forall₂ hall _ _ fun row key hkey => ?_
    rw [hkey, map_map]
    rfl
  rw [← map_eligibleRows, map_map] at hmap
  have hplain : keys = (eligibleRows (namesOf columns) policy rows).map (plainKey chosen) := by
    rw [hmap]
    refine map_congr_left fun item _ => ?_
    show (namesOf chosen).map _ = _
    rw [namesOf, map_map]
    rfl
  constructor
  · show (rows.filter _).length = _
    rw [← length_map Prod.fst, map_eligibleRows]
    rfl
  · rw [← hplain]

theorem duplicates_iff {metrics : KeyMetrics}
    (h : keyMetrics rows columns (namesOf chosen) policy = .ok metrics) :
    metrics.eligible - metrics.distinct = 0 ↔
      IsKey (plainKey chosen) (eligibleRows (namesOf columns) policy rows) := by
  obtain ⟨heligible, hdistinct⟩ := keyMetrics_ok h
  have hle := length_eraseDups_le ((eligibleRows (namesOf columns) policy rows).map (plainKey chosen))
  rw [length_map] at hle
  rw [isKey_iff_count, heligible, hdistinct]
  omega

theorem violations_iff {r : Rounding} {lhs rhs : List ColumnDescriptor} {metrics : FdMetrics}
    (h : fdMetrics r rows columns (namesOf lhs) (namesOf rhs) policy = .ok metrics) :
    metrics.violations = 0 ↔ Determines (metricKey columns lhs policy) (metricKey columns rhs policy)
      (eligibleRows (namesOf columns) policy rows) := by
  obtain ⟨entries, hentries, h⟩ := bind_eq_ok.1 h
  cases h
  have hall : Forall₂ (fun item entry => entry =
      (⟨metricKey columns lhs policy item, metricKey columns rhs policy item, item.1.recordRef⟩ : FdEntry))
      (eligibleRows (namesOf columns) policy rows) entries := by
    refine (mapM_eq_ok.1 hentries).imp fun item entry hentry => ?_
    obtain ⟨left, hleft, hentry⟩ := bind_eq_ok.1 hentry
    obtain ⟨right, hright, hentry⟩ := bind_eq_ok.1 hentry
    cases hentry
    rw [tupleKey_ok hleft, tupleKey_ok hright]
    rfl
  have hmap := map_eq_of_forall₂ hall _ id fun item entry hentry => hentry
  rw [map_id] at hmap
  have hexcess : excess FdEntry.determinant FdEntry.dependent entries = 0 ↔ _ :=
    determines_iff_excess.symm
  refine hexcess.trans ?_
  rw [hmap]
  constructor
  · intro hdetermines a ha b hb
    exact hdetermines _ (mem_map.2 ⟨a, ha, rfl⟩) _ (mem_map.2 ⟨b, hb, rfl⟩)
  · intro hdetermines x hx y hy
    obtain ⟨a, ha, rfl⟩ := mem_map.1 hx
    obtain ⟨b, hb, rfl⟩ := mem_map.1 hy
    exact hdetermines a ha b hb

theorem indEntries_ok {entries : List IndEntry}
    (h : indEntries rows columns (namesOf chosen) policy = .ok entries) :
    entries = (eligibleRows (namesOf chosen) policy rows).map fun item =>
      (metricKey columns chosen policy item, item.1.recordRef) := by
  have hall : Forall₂ (fun item (entry : IndEntry) => entry =
      (metricKey columns chosen policy item, item.1.recordRef))
      (eligibleRows (namesOf chosen) policy rows) entries := by
    refine (mapM_eq_ok.1 h).imp fun item entry hentry => ?_
    obtain ⟨key, hkey, hentry⟩ := bind_eq_ok.1 hentry
    cases hentry
    rw [tupleKey_ok hkey]
    rfl
  have hmap := map_eq_of_forall₂ hall _ id fun item entry hentry => hentry
  rwa [map_id] at hmap

/-- An inclusion has no orphans exactly if each row on the left has a partner; then it covers all. -/
theorem orphans_iff {r : Rounding} {leftRows rightRows : List StagedDependencyRow}
    {leftColumns rightColumns lhs rhs : List ColumnDescriptor} {metrics : IndMetrics}
    (h : indMetrics r leftRows rightRows leftColumns rightColumns (namesOf lhs) (namesOf rhs) policy =
      .ok metrics) : (metrics.orphanCount = 0 ∧ metrics.coverage = 1) ↔
      Included (metricKey leftColumns lhs policy) (eligibleRows (namesOf lhs) policy leftRows)
        (metricKey rightColumns rhs policy) (eligibleRows (namesOf rhs) policy rightRows) := by
  obtain ⟨right, hright, h⟩ := bind_eq_ok.1 h
  obtain ⟨left, hleft, h⟩ := bind_eq_ok.1 h
  cases h
  have horphans : (left.filter (·.1 ∉ (right.map Prod.fst).eraseDups)).length = 0 ↔
      Included Prod.fst left Prod.fst right := included_iff_orphans.symm
  have hincluded : Included Prod.fst left Prod.fst right ↔
      Included (metricKey leftColumns lhs policy) (eligibleRows (namesOf lhs) policy leftRows)
        (metricKey rightColumns rhs policy) (eligibleRows (namesOf rhs) policy rightRows) := by
    rw [indEntries_ok hright, indEntries_ok hleft]
    constructor
    · intro h a ha
      obtain ⟨y, hy, heq⟩ := h _ (mem_map.2 ⟨a, ha, rfl⟩)
      obtain ⟨b, hb, rfl⟩ := mem_map.1 hy
      exact ⟨b, hb, heq⟩
    · intro h x hx
      obtain ⟨a, ha, rfl⟩ := mem_map.1 hx
      obtain ⟨b, hb, heq⟩ := h a ha
      exact ⟨_, mem_map.2 ⟨b, hb, rfl⟩, heq⟩
  rw [← hincluded, ← horphans]
  refine and_iff_left_of_imp fun hnone => ?_
  -- without orphans every distinct value on the left is one on the right
  have hall : (left.map Prod.fst).eraseDups.filter (· ∈ (right.map Prod.fst).eraseDups) =
      (left.map Prod.fst).eraseDups := by
    refine filter_eq_self.2 fun k hk => ?_
    obtain ⟨a, ha, rfl⟩ := mem_map.1 (mem_eraseDups.1 hk)
    obtain ⟨b, hb, heq⟩ := horphans.1 hnone a ha
    rw [decide_eq_true_eq, mem_eraseDups, heq]
    exact mem_map.2 ⟨b, hb, rfl⟩
  show r.ratio _ _ 1 = 1
  rw [hall, Rounding.ratio]
  split_ifs with hzero
  · rfl
  · rw [div_self (Nat.cast_ne_zero.2 hzero), r.one]

end

section

variable {py : Interpreter} {policy : NullPolicy} {tableId : String}
  {columns chosen : List ColumnDescriptor} {rows : List StagedDependencyRow}

theorem isKey_written {item : ProviderUCC} (hchosen : columnsAt columns item.indices = .ok chosen)
    (hholds : UccHolds (engineInput py tableId columns rows policy) item) :
    IsKey (written py policy chosen) (eligibleRows (namesOf columns) policy rows) := by
  have hindices : ∀ i ∈ item.indices, 0 ≤ i := fun i hi => (hholds.1 i hi).1
  refine (pairwise_map.1 hholds.2).imp fun {a b} hne heq => hne ?_
  exact (cellsAt_eq_iff hchosen hindices hchosen hindices).2 heq

theorem determines_written {item : ProviderFD} {lhs : List ColumnDescriptor} {rhs : ColumnDescriptor}
    (hlhs : columnsAt columns item.lhsIndices = .ok lhs) (hrhs : itemAt columns item.rhsIndex = .ok rhs)
    (hholds : FdHolds (engineInput py tableId columns rows policy) item) :
    Determines (written py policy lhs) (written py policy [rhs])
      (eligibleRows (namesOf columns) policy rows) := by
  have hindices : ∀ i ∈ item.lhsIndices, 0 ≤ i := fun i hi =>
    (hholds.1 i (mem_append_left _ hi)).1
  have hindex : ∀ i ∈ [item.rhsIndex], 0 ≤ i := fun i hi =>
    (hholds.1 i (mem_append_right _ hi)).1
  have hdependent : columnsAt columns [item.rhsIndex] = .ok [rhs] :=
    mapM_eq_ok.2 (.cons hrhs .nil)
  intro a ha b hb heq
  refine (cellsAt_eq_iff hdependent hindex hdependent hindex).1 ?_
  refine hholds.2 _ (mem_map.2 ⟨a, ha, rfl⟩) _ (mem_map.2 ⟨b, hb, rfl⟩) ?_
  exact (cellsAt_eq_iff hlhs hindices hlhs hindices).2 heq

/-- What the provider sees of the rows that an inclusion is measured on. -/
theorem filter_eligibleRows (hsub : chosen ⊆ columns) :
    (eligibleRows (namesOf chosen) policy rows).filter
      (fun item => rowEligible item.1 (namesOf columns) policy) =
    eligibleRows (namesOf columns) policy rows := by
  unfold eligibleRows
  rw [filter_filter]
  refine filter_congr fun item _ => ?_
  cases hseen : rowEligible item.1 (namesOf columns) policy with
  | false => rfl
  | true =>
    rw [Bool.true_and]
    unfold rowEligible at hseen ⊢
    rw [Bool.or_eq_true] at hseen ⊢
    refine hseen.imp_right fun hall => all_eq_true.2 fun name hname => ?_
    obtain ⟨c, hc, rfl⟩ := mem_map.1 hname
    exact all_eq_true.1 hall _ (mem_map.2 ⟨c, hsub hc, rfl⟩)

theorem columnsAt_subset {indices : List Int} (h : columnsAt columns indices = .ok chosen) :
    chosen ⊆ columns := by
  intro c hc
  obtain ⟨i, -, hi⟩ := exists_left_of_forall₂ (mapM_eq_ok.1 h) hc
  exact mem_of_itemAt hi

theorem included_written {item : ProviderIND} {rightTableId : String}
    {rightColumns lhs rhs : List ColumnDescriptor} {rightRows : List StagedDependencyRow}
    (hlhs : columnsAt columns item.leftColumnIndices = .ok lhs)
    (hrhs : columnsAt rightColumns item.rightColumnIndices = .ok rhs)
    (hholds : IncludedIn (engineInput py tableId columns rows policy)
      (engineInput py rightTableId rightColumns rightRows policy) item) :
    Included (written py policy lhs) ((eligibleRows (namesOf lhs) policy rows).filter fun item =>
        rowEligible item.1 (namesOf columns) policy) (written py policy rhs)
      ((eligibleRows (namesOf rhs) policy rightRows).filter fun item =>
        rowEligible item.1 (namesOf rightColumns) policy) := by
  rw [filter_eligibleRows (columnsAt_subset hlhs), filter_eligibleRows (columnsAt_subset hrhs)]
  intro a ha
  obtain ⟨y, hy, heq⟩ := hholds.2.2 _ (mem_map.2 ⟨a, ha, rfl⟩)
  obtain ⟨b, hb, rfl⟩ := mem_map.1 hy
  refine ⟨b, hb, (cellsAt_eq_iff hlhs ?_ hrhs ?_).1 heq⟩
  · exact fun i hi => (hholds.1 i hi).1
  · exact fun i hi => (hholds.2.1 i hi).1

end

/-! ## Agreement -/

def EqualsWrittenAlike (py : Interpreter) (policy : NullPolicy) (columns chosen : List ColumnDescriptor)
    (rows : List StagedDependencyRow) : Prop :=
  (eligibleRows (namesOf columns) policy rows).Pairwise fun a b =>
    plainKey chosen a = plainKey chosen b → written py policy chosen a = written py policy chosen b

/-- No two rows have equal determinants and unequal dependents, where the determinants are written
differently or the dependents are written alike. -/
def NoConflict (py : Interpreter) (policy : NullPolicy) (columns lhs rhs : List ColumnDescriptor)
    (rows : List StagedDependencyRow) : Prop :=
  ∀ a ∈ eligibleRows (namesOf columns) policy rows, ∀ b ∈ eligibleRows (namesOf columns) policy rows,
    ¬ Conflict (metricKey columns lhs policy) (metricKey columns rhs policy) (written py policy lhs)
      (written py policy rhs) a b

structure IndSide where
  columns : List ColumnDescriptor
  chosen : List ColumnDescriptor
  rows : List StagedDependencyRow

def IndSide.measured (side : IndSide) (policy : NullPolicy) : List Item :=
  eligibleRows (namesOf side.chosen) policy side.rows

def IndSide.sees (side : IndSide) (policy : NullPolicy) (item : Item) : Bool :=
  rowEligible item.1 (namesOf side.columns) policy

def IndSide.key (side : IndSide) (policy : NullPolicy) : Item → List (List Token) :=
  metricKey side.columns side.chosen policy

/-- A row with a null in a further column, which only the metrics see, has an equal row on the right,
and so has a row that is written like one on the right. -/
def PartnersAreEqual (py : Interpreter) (policy : NullPolicy) (left right : IndSide) : Prop :=
  (∀ a ∈ left.measured policy, left.sees policy a = false →
    ∃ b ∈ right.measured policy, left.key policy a = right.key policy b) ∧
  ∀ a ∈ left.measured policy, ∀ b ∈ right.measured policy, left.sees policy a = true →
    right.sees policy b = true → written py policy left.chosen a = written py policy right.chosen b →
    ∃ c ∈ right.measured policy, left.key policy a = right.key policy c

namespace DesbordanteDependencyAdapter

section

variable {adapter : DesbordanteDependencyAdapter} {engine : DependencyEngine} {d : Discovery}

/-- Evidence of a key agrees with its verdict exactly if equal rows are written alike. -/
theorem ucc_agrees {tableId : String} {item : ProviderUCC} {e : UniqueColumnCombinationEvidence}
    (hitem : adapter.uccItem engine d tableId item = .ok (some e))
    (hholds : UccHolds (adapter.inputOf d tableId) item) :
    e.tableId = tableId ∧ ∃ chosen, chosen ⊆ d.columnsOf tableId ∧
      e.columnIds = chosen.map ColumnDescriptor.columnId ∧
      ((e.duplicateCount = 0 ∧ (eligibleRows (namesOf (d.columnsOf tableId)) d.request.nullPolicy
          (d.rowsOf tableId) ≠ [] → e.uniquenessRatio = 1)) ↔
        EqualsWrittenAlike adapter.interpreter d.request.nullPolicy (d.columnsOf tableId) chosen
          (d.rowsOf tableId)) := by
  rcases uccItem_ok hitem with ⟨hnone, -⟩ | ⟨e', chosen, metrics, hsome, he⟩
  · cases hnone
  cases hsome
  refine ⟨he.tableId, chosen, columnsAt_subset he.columns, he.columnIds, ?_⟩
  unfold EqualsWrittenAlike
  rw [← isKey_iff_alike (isKey_written he.columns hholds), ← duplicates_iff he.measured,
    he.duplicates]
  refine and_iff_left_of_imp fun hzero hrows => ?_
  obtain ⟨heligible, hdistinct⟩ := keyMetrics_ok he.measured
  have hkey := (duplicates_iff he.measured).1 hzero
  rw [isKey_iff_count] at hkey
  rw [he.uniqueness, hdistinct, hkey, ← heligible, Rounding.ratio]
  have hne : metrics.eligible ≠ 0 := by
    rw [heligible]
    exact fun hnil => hrows (length_eq_zero_iff.1 hnil)
  rw [if_neg hne, div_self (Nat.cast_ne_zero.2 hne), adapter.rounding.one]

theorem fd_agrees {tableId : String} {item : ProviderFD} {e : FunctionalDependencyEvidence}
    (hitem : adapter.fdItem engine d false tableId item = .ok (some e))
    (hholds : FdHolds (adapter.inputOf d tableId) item) :
    e.tableId = tableId ∧ ∃ lhs rhs, lhs ⊆ d.columnsOf tableId ∧ rhs ⊆ d.columnsOf tableId ∧
      e.determinant = lhs.map ColumnDescriptor.columnId ∧
      e.dependent = rhs.map ColumnDescriptor.columnId ∧
      (e.violationCount = 0 ↔ NoConflict adapter.interpreter d.request.nullPolicy
        (d.columnsOf tableId) lhs rhs (d.rowsOf tableId)) := by
  rcases fdItem_ok hitem with ⟨hnone, -⟩ | ⟨e', lhs, rhs, metrics, hsome, he⟩
  · cases hnone
  cases hsome
  have hrhs : [rhs] ⊆ d.columnsOf tableId := by
    intro c hc
    rw [mem_singleton.1 hc]
    exact mem_of_itemAt he.dependentColumn
  refine ⟨he.tableId, lhs, [rhs], columnsAt_subset he.determinantColumns, hrhs, he.determinant,
    he.dependent, ?_⟩
  unfold NoConflict
  rw [← determines_iff_conflict (determines_written he.determinantColumns he.dependentColumn hholds),
    he.violations]
  exact violations_iff he.measured

theorem ind_agrees {item : ProviderIND} {e : InclusionDependencyEvidence}
    (htables : (d.tables.map TableDescriptor.tableId).Nodup)
    (hitem : adapter.indItem engine d false item = .ok (some e))
    (hholds : IndHolds (adapter.inputsOf d) item) :
    ∃ lhs rhs, lhs ⊆ d.columnsOf e.leftTableId ∧ rhs ⊆ d.columnsOf e.rightTableId ∧
      e.leftColumns = lhs.map ColumnDescriptor.columnId ∧
      e.rightColumns = rhs.map ColumnDescriptor.columnId ∧
      ((e.orphanCount = 0 ∧ e.coverageRatio = 1) ↔
        PartnersAreEqual adapter.interpreter d.request.nullPolicy
          ⟨d.columnsOf e.leftTableId, lhs, d.rowsOf e.leftTableId⟩
          ⟨d.columnsOf e.rightTableId, rhs, d.rowsOf e.rightTableId⟩) := by
  rcases indItem_ok hitem with ⟨hnone, -⟩ | ⟨e', left, right, lhs, rhs, metrics, hsome, he⟩
  · cases hnone
  cases hsome
  -- the files are those of the tables, in their order
  have hinputs : adapter.inputsOf d = d.tables.map fun t => adapter.inputOf d t.tableId := by
    unfold inputsOf byTable
    rw [eraseDups_eq_self htables, map_map, map_map]
    rfl
  obtain ⟨⟨hleft, hright⟩, leftInput, hleftInput, rightInput, hrightInput, hincluded⟩ := hholds
  rw [hinputs, getElem?_map, itemAt_ok hleft he.leftTable] at hleftInput
  rw [hinputs, getElem?_map, itemAt_ok hright he.rightTable] at hrightInput
  cases hleftInput
  cases hrightInput
  rw [he.leftTableId, he.rightTableId]
  refine ⟨lhs, rhs, columnsAt_subset he.leftColumns, columnsAt_subset he.rightColumns, he.leftIds,
    he.rightIds, ?_⟩
  rw [he.orphans, he.coverage]
  refine (orphans_iff he.measured).trans ?_
  exact included_iff_partners (included_written he.leftColumns he.rightColumns hincluded)

end

section

variable {adapter : DesbordanteDependencyAdapter} {engine : DependencyEngine}
  {request : DependencyRequest} {catalog : SourceCatalog} {snapshot : SourceSnapshotResult}
  {artifactRoot : Option String} {authorization : Option DependencyAuthorization}
  {result : DependencyResult} {calls : List ProviderCall}

def rowsIn (rows : List (String × List StagedDependencyRow)) (tableId : String) :
    List StagedDependencyRow :=
  (getItem rows tableId).getD []

/-- The metrics of a result agree with the verdicts of the provider on three kinds of evidence, each
exactly if the rows are not told apart. -/
structure AgreesWhen (py : Interpreter) (policy : NullPolicy)
    (columnsOf : String → List ColumnDescriptor) (rowsOf : String → List StagedDependencyRow)
    (result : DependencyResult) : Prop where
  uccs : ∀ e ∈ result.uccEvidence, ∃ chosen ⊆ columnsOf e.tableId,
    e.columnIds = chosen.map ColumnDescriptor.columnId ∧
    ((e.duplicateCount = 0 ∧ (eligibleRows (namesOf (columnsOf e.tableId)) policy (rowsOf e.tableId) ≠
        [] → e.uniquenessRatio = 1)) ↔
      EqualsWrittenAlike py policy (columnsOf e.tableId) chosen (rowsOf e.tableId))
  fds : ∀ e ∈ result.functionalDependencies, e.approximate = false →
    ∃ lhs ⊆ columnsOf e.tableId, ∃ rhs ⊆ columnsOf e.tableId,
      e.determinant = lhs.map ColumnDescriptor.columnId ∧
      e.dependent = rhs.map ColumnDescriptor.columnId ∧
      (e.violationCount = 0 ↔
        NoConflict py policy (columnsOf e.tableId) lhs rhs (rowsOf e.tableId))
  inds : ∀ e ∈ result.inclusionDependencies, e.approximate = false →
    ∃ lhs ⊆ columnsOf e.leftTableId, ∃ rhs ⊆ columnsOf e.rightTableId,
      e.leftColumns = lhs.map ColumnDescriptor.columnId ∧
      e.rightColumns = rhs.map ColumnDescriptor.columnId ∧
      ((e.orphanCount = 0 ∧ e.coverageRatio = 1) ↔ PartnersAreEqual py policy
        ⟨columnsOf e.leftTableId, lhs, rowsOf e.leftTableId⟩
        ⟨columnsOf e.rightTableId, rhs, rowsOf e.rightTableId⟩)

theorem searchAll_agrees {d : Discovery} {log log' : ProviderLog} {found : Findings}
    (hcorrect : Correct engine) (htables : (d.tables.map TableDescriptor.tableId).Nodup)
    (h : adapter.searchAll engine d log = .ok (found, log')) (hresult : DependencyResult)
    (huccs : hresult.uccEvidence ⊆ found.uccs) (hfds : hresult.functionalDependencies ⊆ found.fds)
    (hinds : hresult.inclusionDependencies ⊆ found.inds) :
    AgreesWhen adapter.interpreter d.request.nullPolicy d.columnsOf d.rowsOf hresult := by
  obtain ⟨⟨uccs, afterUccs⟩, hkeys, h⟩ := bind_eq_ok.1 h
  obtain ⟨⟨fds, afterFds⟩, hfunctional, h⟩ := bind_eq_ok.1 h
  obtain ⟨⟨inds, last⟩, hinclusions, h⟩ := bind_eq_ok.1 h
  cases h
  constructor
  · intro e he
    unfold discoverKeys at hkeys
    split_ifs at hkeys
    · obtain ⟨t, -, before, items, hanswer, item, hmem, hitem⟩ :=
        mem_search (fun _ _ => rfl) hkeys (huccs he)
      obtain ⟨htable, chosen, hsub, hids, hagrees⟩ :=
        ucc_agrees hitem (hcorrect.uccs _ _ _ _ hanswer item hmem)
      rw [htable]
      exact ⟨chosen, hsub, hids, hagrees⟩
    · cases hkeys
      exact absurd (huccs he) not_mem_nil
  · intro e he hexact
    obtain ⟨⟨mode, t⟩, -, before, items, hanswer, item, hmem, hitem⟩ :=
      mem_search (fun _ _ => rfl) hfunctional (hfds he)
    have hmode : mode = false := by
      rcases fdItem_ok hitem with ⟨hnone, -⟩ | ⟨e', lhs, rhs, metrics, hsome, hmeasured⟩
      · cases hnone
      · cases hsome
        exact hmeasured.approximate.symm.trans hexact
    subst hmode
    obtain ⟨htable, lhs, rhs, hlhs, hrhs, hdeterminant, hdependent, hagrees⟩ :=
      fd_agrees hitem (hcorrect.fds _ _ _ _ _ hanswer item hmem)
    rw [htable]
    exact ⟨lhs, hlhs, rhs, hrhs, hdeterminant, hdependent, hagrees⟩
  · intro e he hexact
    obtain ⟨mode, -, before, items, hanswer, item, hmem, hitem⟩ :=
      mem_search (fun _ _ => rfl) hinclusions (hinds he)
    have hmode : mode = false := by
      rcases indItem_ok hitem with ⟨hnone, -⟩ | ⟨e', left, right, lhs, rhs, metrics, hsome, hmeasured⟩
      · cases hnone
      · cases hsome
        exact hmeasured.approximate.symm.trans hexact
    subst hmode
    obtain ⟨lhs, rhs, hlhs, hrhs, hleft, hright, hagrees⟩ :=
      ind_agrees htables hitem (hcorrect.inds _ _ _ _ _ hanswer item hmem)
    exact ⟨lhs, hlhs, rhs, hrhs, hleft, hright, hagrees⟩

theorem searchResult_subset (d : Discovery) (capability : DependencyCapability)
    (stats : DependencySearchStats) (found : Findings) (log : ProviderLog) :
    (adapter.searchResult d capability stats found log).uccEvidence ⊆ found.uccs ∧
      (adapter.searchResult d capability stats found log).functionalDependencies ⊆ found.fds ∧
      (adapter.searchResult d capability stats found log).inclusionDependencies ⊆ found.inds :=
  ⟨fun _ => mem_of_mem_take, fun _ => mem_of_mem_take, fun _ => mem_of_mem_take⟩

theorem searched_agrees {rows : List (String × List StagedDependencyRow)} {found : Findings}
    {log : ProviderLog} (hcorrect : Correct engine)
    (htables : (catalog.tables.map TableDescriptor.tableId).Nodup)
    (hsearched : Searched adapter request catalog snapshot result calls rows engine found log) :
    AgreesWhen adapter.interpreter request.nullPolicy (selectedColumns request catalog) (rowsIn rows)
      result := by
  have hselected : ((selectedTables request catalog).map TableDescriptor.tableId).Nodup :=
    htables.sublist (((take_sublist _ _).trans filter_sublist).map _)
  obtain ⟨huccs, hfds, hinds⟩ := searchResult_subset (discovery request catalog snapshot rows)
    (adapter.capability request) (searchStats request catalog) found log
  have hagrees := searchAll_agrees hcorrect hselected hsearched.search _ huccs hfds hinds
  obtain ⟨artifacts, hresult⟩ := hsearched.result
  rw [hresult]
  exact ⟨hagrees.uccs, hagrees.fds, hagrees.inds⟩

/-- **The metrics of every result agree with a correct provider exactly where equal rows and rows
written alike are the same.** -/
theorem discover_agrees_iff (hengine : adapter.engine = some engine) (hcorrect : Correct engine)
    (htables : (catalog.tables.map TableDescriptor.tableId).Nodup)
    (h : adapter.discover request catalog snapshot artifactRoot authorization = .ok (result, calls)) :
    ∀ rows, adapter.loadRows request catalog snapshot = .ok rows →
      AgreesWhen adapter.interpreter request.nullPolicy (selectedColumns request catalog) (rowsIn rows)
        result := by
  intro rows hrows
  rcases discover_cases h with hfails | ⟨-, rows', engine', found, log, hsearched⟩
  · obtain ⟨scope, failures, stats, hresult⟩ := hfails
    have huccs : result.uccEvidence = [] := by rw [hresult]; rfl
    have hfds : result.functionalDependencies = [] := by rw [hresult]; rfl
    have hinds : result.inclusionDependencies = [] := by rw [hresult]; rfl
    constructor
    · simp [huccs]
    · simp [hfds]
    · simp [hinds]
  · have hsame : rows' = rows := Except.ok.inj (hsearched.loaded.symm.trans hrows)
    have hengines : engine' = engine := Option.some.inj (hsearched.available.symm.trans hengine)
    rw [hsame, hengines] at hsearched
    exact searched_agrees hcorrect htables hsearched

end

/-- The discovery of a kind in two tables with the same rows. -/
def rowsRun (kind : DependencyKind) (policy : NullPolicy) (rows : List (List (String × Value))) :
    Except DiscoverRaised (DependencyResult × List ProviderCall) :=
  (demoAdapter (checkingEngine [⟨[0]⟩] [⟨[0], 1, none⟩] [⟨1, [1], 0, [0], none⟩])
    (rows.map fun values => ⟨"row", values⟩)).discover (demoRequest [kind] policy) demoCatalog demoSnapshot
      none (some demoAuthorization)

def nullRows : List (List (String × Value)) := [[("x", .none)], [("x", .none)]]

theorem nullRun : (rowsRun .ucc .nullsBreakDependency nullRows).toOption.map
    (fun r => r.1.uccEvidence.map fun e => (e.tableId, e.duplicateCount)) =
      some [("a", 1), ("b", 1)] := by
  decide +kernel

/-- The duplicates of keys of nulls are rows with equal values that are written differently. -/
theorem discover_agrees_iff_nulls : ∃ result calls,
    rowsRun .ucc .nullsBreakDependency nullRows = .ok (result, calls) ∧
      result.uccEvidence.map (fun e => (e.tableId, e.duplicateCount)) = [("a", 1), ("b", 1)] ∧
      AgreesWhen (demoAdapter (checkingEngine [] [] []) []).interpreter .nullsBreakDependency
        (selectedColumns (demoRequest [.ucc] .nullsBreakDependency) demoCatalog)
        (rowsIn (demoCatalog.tables.map fun t => (t.tableId, nullRows.map fun values => ⟨"row", values⟩)))
        result := by
  obtain ⟨⟨result, calls⟩, hrun, hkeys⟩ := exists_ok_of_map nullRun
  refine ⟨result, calls, hrun, hkeys, ?_⟩
  exact discover_agrees_iff rfl (checkingEngine_correct _ _ _) (by decide) hrun _ rfl

/-- A correct engine returns a key of two nulls that are told apart, a functional dependency between two
rows with equal determinants of different types, and an inclusion of rows of which it sees one only. -/
theorem verdicts_disagree :
    Correct (checkingEngine [⟨[0]⟩] [⟨[0], 1, none⟩] [⟨1, [1], 0, [0], none⟩]) ∧
    (rowsRun .ucc .nullsBreakDependency nullRows).toOption.map
      (fun r => r.1.uccEvidence.map fun e => (e.tableId, e.duplicateCount)) =
        some [("a", 1), ("b", 1)] ∧ (rowsRun .fd .nullsEqual
      [[("x", .int 1), ("y", .int 1)], [("x", .bool true), ("y", .int 2)]]).toOption.map (fun r => r.1.functionalDependencies.map fun e =>
        (e.tableId, e.approximate, e.violationCount)) = some [("b", false, 1)] ∧
    (rowsRun .ind .excludePhysicalNull
      [[("x", .int 1), ("y", .int 1)], [("x", .none), ("y", .int 2)]]).toOption.map (fun r => r.1.inclusionDependencies.map fun e =>
        (e.approximate, e.orphanCount, e.coverageRatio)) = some [(false, 1, 1 / 2)] := by
  refine ⟨checkingEngine_correct _ _ _, ?_, ?_, ?_⟩ <;> decide +kernel

end DesbordanteDependencyAdapter

end DirtyDataOlap.Dependencies

import DirtyDataOlap.SelectStatements
import Mathlib.Data.List.Nodup

/-!
# What a grouped SELECT aggregates

The rows that the aggregates of a statement are taken over, on any database.  A statement that joins
more and asks for more than another, and otherwise reads the same columns, has its contributions
among those of the other.
-/
namespace DirtyDataOlap.Sql

open List

/-- A row by its columns, `none` being NULL. -/
abbrev Row (V : Type) := String → Option V

/-- The rows of every table. -/
abbrev Database (V : Type) := String → List (Row V)

/-- A row for every alias. -/
abbrev Scopes (V : Type) := String → Row V

/-- How values compare with each other and with parameters. -/
structure Comparison (V P : Type) where
  joins : V → V → Bool
  (equals atLeast atMost : V → P → Bool)

variable {V P : Type}

def Scopes.read (env : Scopes V) (c : ColumnRef) : Option V := env c.scope c.column

/-- The rows of the joined table whose key is the value. -/
def LeftJoin.matched (cmp : Comparison V P) (db : Database V) (j : LeftJoin) (value : Option V) :
    List (Row V) :=
  (db j.table).filter fun row =>
    value.any fun v => (row j.right.column).any fun key => cmp.joins v key

/-- The matched rows, or one of nulls. -/
def LeftJoin.candidates (cmp : Comparison V P) (db : Database V) (j : LeftJoin) (value : Option V) :
    List (Row V) :=
  if (j.matched cmp db value).isEmpty then [fun _ => none] else j.matched cmp db value

/-- All combinations of joined rows. -/
def joinRows (cmp : Comparison V P) (db : Database V) : List LeftJoin → Scopes V → List (Scopes V)
  | [], env => [env]
  | j :: js, env => (j.candidates cmp db (env.read j.left)).flatMap fun row =>
      joinRows cmp db js (Function.update env j.right.scope row)

/-- A condition on the value of its column, with its own parameters. A comparison with NULL does not
hold. -/
def Condition.holds (cmp : Comparison V P) (value : Option V) : Condition → List P → Bool
  | .isNull _, _ => value.isNone
  | .equals _, parameters => value.any fun v => parameters.head?.any (cmp.equals v)
  | .isIn _ _, parameters => value.any fun v => parameters.any (cmp.equals v)
  | .between _, parameters => value.any fun v => parameters.head?.any (cmp.atLeast v) &&
      (parameters.drop 1).head?.any (cmp.atMost v)

/-- Every condition takes its parameters from the front. -/
def bound : List Condition → List P → List (Condition × List P)
  | [], _ => []
  | c :: cs, parameters => (c, parameters.take c.placeholders.length) ::
      bound cs (parameters.drop c.placeholders.length)

/-- What a row of the table, known by its place, contributes: its group and the values that are
aggregated. -/
structure Contribution (V : Type) where
  place : Nat
  (group values : List (Option V))

namespace SelectStatement

variable (s : SelectStatement)

/-- The scopes before the joins. -/
def base (row : Row V) : Scopes V := fun scope => if scope = s.scope then row else fun _ => none

variable (cmp : Comparison V P)

/-- All conditions hold. -/
def keeps (parameters : List P) (env : Scopes V) : Bool :=
  (bound s.conditions parameters).all fun item => item.1.holds cmp (env.read item.1.column) item.2

/-- What one joined row contributes to its group. -/
def contribution (place : Nat) (env : Scopes V) : Contribution V where
  place := place
  group := s.groups.map fun g => env.read g.source
  values := s.aggregates.map fun a => env.read a.source

/-- What one row of the fact table contributes. -/
def rowContributions (db : Database V) (parameters : List P) (row : Row V × Nat) :
    List (Contribution V) :=
  ((joinRows cmp db s.joins (s.base row.1)).filter (s.keeps cmp parameters)).map
    (s.contribution row.2)

/-- What the aggregates of a statement are taken over, group by group. -/
def contributions (db : Database V) (parameters : List P) : List (Contribution V) :=
  (db s.table).zipIdx.flatMap (s.rowContributions cmp db parameters)

/-- All joins start at the fact table, under aliases of their own. -/
structure Star : Prop where
  left : ∀ j ∈ s.joins, j.left.scope = s.scope
  scopes : (s.joins.map fun j => j.right.scope).Nodup
  table : s.scope ∉ s.joins.map fun j => j.right.scope

/-- A column of the table or of a joined table. -/
def InScope (c : ColumnRef) : Prop := c.scope = s.scope ∨ c.scope ∈ s.joins.map fun j => j.right.scope

/-- No value is the key of two rows of a joined table. -/
def KeysAreUnique (db : Database V) : Prop :=
  ∀ j ∈ s.joins, ∀ value, (j.matched cmp db value).length ≤ 1

end SelectStatement

section

variable {cmp : Comparison V P} {db : Database V} {js : List LeftJoin} {env env' : Scopes V}

theorem mem_joinRows (hleft : ∀ j ∈ js, j.left.scope ∉ js.map fun j => j.right.scope)
    (hscopes : (js.map fun j => j.right.scope).Nodup) : env' ∈ joinRows cmp db js env ↔
      (∀ j ∈ js, env' j.right.scope ∈ j.candidates cmp db (env.read j.left)) ∧
        ∀ a, a ∉ (js.map fun j => j.right.scope) → env' a = env a := by
  induction js generalizing env with
  | nil =>
    simp only [joinRows, mem_singleton, map_nil, not_mem_nil, false_imp_iff,
      implies_true, not_false_eq_true, true_and, forall_true_left]
    exact funext_iff
  | cons j js ih =>
    rw [map_cons, nodup_cons] at hscopes
    have hleft' : ∀ k ∈ js, k.left.scope ∉ js.map fun j => j.right.scope := fun k hk hmem =>
      hleft k (mem_cons_of_mem _ hk) (mem_cons_of_mem _ hmem)
    have hread (row : Row V) {k : LeftJoin} (hk : k ∈ js) :
        Scopes.read (Function.update env j.right.scope row) k.left = env.read k.left := by
      have hne : k.left.scope ≠ j.right.scope := fun heq =>
        hleft k (mem_cons_of_mem _ hk) (by rw [heq]; exact mem_cons_self)
      unfold Scopes.read
      rw [Function.update_of_ne hne]
    simp only [joinRows, mem_flatMap]
    constructor
    · rintro ⟨row, hrow, hmem⟩
      obtain ⟨hjoins, hrest⟩ := (ih hleft' hscopes.2).1 hmem
      have hself : env' j.right.scope = row := by
        rw [hrest _ hscopes.1, Function.update_self]
      refine ⟨forall_mem_cons.2 ⟨by rwa [hself], fun k hk => ?_⟩, fun a ha => ?_⟩
      · rw [← hread row hk]
        exact hjoins k hk
      · rw [map_cons, mem_cons, not_or] at ha
        rw [hrest a ha.2, Function.update_of_ne ha.1]
    · rintro ⟨hjoins, hrest⟩
      refine ⟨env' j.right.scope, hjoins j mem_cons_self,
        (ih hleft' hscopes.2).2 ⟨fun k hk => ?_, fun a ha => ?_⟩⟩
      · rw [hread _ hk]
        exact hjoins k (mem_cons_of_mem _ hk)
      · by_cases haj : a = j.right.scope
        · rw [haj, Function.update_self]
        · rw [Function.update_of_ne haj]
          exact hrest a (by rw [map_cons, mem_cons, not_or]; exact ⟨haj, ha⟩)

theorem length_candidates {j : LeftJoin} {value : Option V}
    (h : (j.matched cmp db value).length ≤ 1) : (j.candidates cmp db value).length = 1 := by
  unfold LeftJoin.candidates
  split_ifs with hempty
  · rfl
  · have hpos := length_pos_iff.2 (mt isEmpty_iff.2 hempty)
    omega

theorem length_joinRows (h : ∀ j ∈ js, ∀ value, (j.matched cmp db value).length ≤ 1) :
    (joinRows cmp db js env).length = 1 := by
  induction js generalizing env with
  | nil => rfl
  | cons j js ih =>
    rw [forall_mem_cons] at h
    obtain ⟨row, hrow⟩ := length_eq_one_iff.1 (length_candidates (h.1 (env.read j.left)))
    rw [joinRows, hrow, flatMap_singleton]
    exact ih h.2

end

theorem sublist_flatMap {α β : Type} {f g : α → List β} {xs : List α}
    (h : ∀ x ∈ xs, (f x).Sublist (g x)) : (xs.flatMap f).Sublist (xs.flatMap g) := by
  induction xs with
  | nil => exact .slnil
  | cons x xs ih =>
    rw [forall_mem_cons] at h
    rw [flatMap_cons, flatMap_cons]
    exact h.1.append (ih h.2)

/-! ## Statements that join by unique keys -/

section
variable {s : SelectStatement} {cmp : Comparison V P} {db : Database V}
  (h : s.KeysAreUnique cmp db) (parameters : List P)
include h

theorem SelectStatement.KeysAreUnique.rowContributions (row : Row V × Nat) :
    ∃ env, joinRows cmp db s.joins (s.base row.1) = [env] ∧
      s.rowContributions cmp db parameters row =
        if s.keeps cmp parameters env then [s.contribution row.2 env] else [] := by
  obtain ⟨env, henv⟩ := length_eq_one_iff.1 (length_joinRows h : (joinRows cmp db s.joins
    (s.base row.1)).length = 1)
  refine ⟨env, henv, ?_⟩
  rw [SelectStatement.rowContributions, henv, filter_singleton]
  cases s.keeps cmp parameters env <;> rfl

/-- **No row is aggregated twice**, and without conditions none is left out. -/
theorem SelectStatement.KeysAreUnique.places :
    ((s.contributions cmp db parameters).map (·.place)).Sublist (range (db s.table).length) ∧
      (s.conditions = [] →
        (s.contributions cmp db parameters).map (·.place) = range (db s.table).length) := by
  have hplaces : range (db s.table).length = (db s.table).zipIdx.flatMap fun row => [row.2] := by
    rw [range_eq_range', ← zipIdx_map_snd, map_eq_flatMap]
  unfold SelectStatement.contributions
  rw [map_flatMap, hplaces]
  constructor
  · refine sublist_flatMap fun row _ => ?_
    obtain ⟨env, -, hrow⟩ := h.rowContributions parameters row
    rw [hrow]
    split
    · exact .refl _
    · exact nil_sublist _
  · intro hnone
    refine flatMap_congr fun row _ => ?_
    obtain ⟨env, -, hrow⟩ := h.rowContributions parameters row
    have hkept : s.keeps cmp parameters env = true := by
      rw [SelectStatement.keeps, hnone]
      rfl
    rw [hrow, if_pos hkept]
    rfl

end

/-! ## Statements that ask for more -/

def ColumnRef.rename (f : String → String) (c : ColumnRef) : ColumnRef := ⟨f c.scope, c.column⟩

def LeftJoin.rename (f : String → String) (j : LeftJoin) : LeftJoin :=
  ⟨j.table, j.left.rename f, j.right.rename f⟩

def Condition.rename (f : String → String) : Condition → Condition
  | .isNull c => .isNull (c.rename f)
  | .equals c => .equals (c.rename f)
  | .isIn c count => .isIn (c.rename f) count
  | .between c => .between (c.rename f)

@[simp] theorem Condition.column_rename (f : String → String) (c : Condition) :
    (c.rename f).column = c.column.rename f := by
  cases c <;> rfl

theorem Condition.holds_rename (cmp : Comparison V P) (value : Option V) (f : String → String)
    (c : Condition) (parameters : List P) :
    (c.rename f).holds cmp value parameters = c.holds cmp value parameters := by
  cases c <;> rfl

/-- The second statement reads what the first reads, under other scopes, and joins and asks for more. -/
structure AsksForMore (f : String → String) (s : SelectStatement) (parameters : List P)
    (s' : SelectStatement) (parameters' : List P) : Prop where
  star : s.Star
  star' : s'.Star
  table : s'.table = s.table
  scope : s'.scope = s.scope
  keepsTable : f s.scope = s.scope
  joins : ∀ j ∈ s.joins, j.rename f ∈ s'.joins
  groups : s'.groups.map GroupColumn.source = s.groups.map fun g => g.source.rename f
  aggregates : s'.aggregates.map Aggregate.source = s.aggregates.map fun a => a.source.rename f
  conditions : ((bound s.conditions parameters).map fun item => (item.1.rename f, item.2)).Sublist
    (bound s'.conditions parameters')
  groupsInScope : ∀ g ∈ s.groups, s.InScope g.source
  aggregatesInScope : ∀ a ∈ s.aggregates, s.InScope a.source
  conditionsInScope : ∀ c ∈ s.conditions, s.InScope c.column

section

variable {f : String → String} {s s' : SelectStatement} {parameters parameters' : List P}

theorem SelectStatement.Star.left_notMem (h : s.Star) {j : LeftJoin} (hj : j ∈ s.joins) :
    j.left.scope ∉ s.joins.map fun j => j.right.scope := by
  rw [h.left j hj]
  exact h.table

theorem fst_mem_of_mem_bound {cs : List Condition} {ps : List P} {item : Condition × List P}
    (h : item ∈ bound cs ps) : item.1 ∈ cs := by
  induction cs generalizing ps with
  | nil => cases h
  | cons c cs ih =>
    rcases mem_cons.1 h with rfl | hmem
    · exact mem_cons_self
    · exact mem_cons_of_mem _ (ih hmem)

variable {cmp : Comparison V P} {db : Database V} {row : Row V} {env' : Scopes V}

section
variable (h : AsksForMore f s parameters s' parameters')
include h

theorem AsksForMore.exists_joined (hmem : env' ∈ joinRows cmp db s'.joins (s'.base row)) :
    ∃ env ∈ joinRows cmp db s.joins (s.base row),
      ∀ c, s.InScope c → env.read c = env'.read (c.rename f) := by
  obtain ⟨hjoins, hrest⟩ := (mem_joinRows (fun j hj => h.star'.left_notMem hj) h.star'.scopes).1 hmem
  have htable : env' s.scope = row := by
    rw [← h.scope, hrest _ h.star'.table]
    exact if_pos rfl
  refine ⟨fun a => if a ∈ s.joins.map fun j => j.right.scope then env' (f a) else s.base row a,
    (mem_joinRows (fun j hj => h.star.left_notMem hj) h.star.scopes).2
      ⟨fun j hj => ?_, fun a ha => if_neg ha⟩, fun c hc => ?_⟩
  · have hscope : j.right.scope ∈ s.joins.map fun j => j.right.scope := mem_map.2 ⟨j, hj, rfl⟩
    have hvalue : (s'.base row).read (j.rename f).left = (s.base row).read j.left := by
      unfold Scopes.read LeftJoin.rename ColumnRef.rename SelectStatement.base
      rw [h.scope, h.star.left j hj, h.keepsTable]
    have hcandidate := hjoins _ (h.joins j hj)
    rw [hvalue] at hcandidate
    simp only [if_pos hscope]
    exact hcandidate
  · unfold Scopes.read ColumnRef.rename
    rcases hc with hc | hc
    · simp only [hc, if_neg h.star.table, h.keepsTable, htable]
      exact congrFun (if_pos rfl) _
    · simp only [if_pos hc]

/-- A row contributes to the second statement only what it contributes to the first. -/
theorem AsksForMore.mem_rowContributions {place : Nat}
    {x : Contribution V} (hx : x ∈ s'.rowContributions cmp db parameters' (row, place)) :
    x ∈ s.rowContributions cmp db parameters (row, place) := by
  obtain ⟨env', hkept, rfl⟩ := mem_map.1 hx
  obtain ⟨hmem, hkeeps⟩ := mem_filter.1 hkept
  obtain ⟨env, henv, hread⟩ := h.exists_joined hmem
  refine mem_map.2 ⟨env, mem_filter.2 ⟨henv, ?_⟩, ?_⟩
  · refine all_eq_true.2 fun item hitem => ?_
    rw [hread _ (h.conditionsInScope _ (fst_mem_of_mem_bound hitem)), ← Condition.column_rename,
      ← Condition.holds_rename cmp _ f]
    exact all_eq_true.1 hkeeps _ (h.conditions.subset (mem_map.2 ⟨item, hitem, rfl⟩))
  · have hgroup : (s.groups.map fun g => env.read g.source) =
        s'.groups.map fun g => env'.read g.source := by
      have hsources := congrArg (List.map env'.read) h.groups
      simp only [map_map] at hsources
      refine Eq.trans ?_ hsources.symm
      exact map_congr_left fun g hg => hread _ (h.groupsInScope g hg)
    have hvalues : (s.aggregates.map fun a => env.read a.source) =
        s'.aggregates.map fun a => env'.read a.source := by
      have hsources := congrArg (List.map env'.read) h.aggregates
      simp only [map_map] at hsources
      refine Eq.trans ?_ hsources.symm
      exact map_congr_left fun a ha => hread _ (h.aggregatesInScope a ha)
    unfold SelectStatement.contribution
    rw [hgroup, hvalues]

/-- **A statement that asks for more aggregates rows of the other, in the same groups.** -/
theorem AsksForMore.contributions_subset :
    s'.contributions cmp db parameters' ⊆ s.contributions cmp db parameters := by
  intro x hx
  obtain ⟨⟨row, place⟩, hrow, hmem⟩ := mem_flatMap.1 hx
  rw [h.table] at hrow
  exact mem_flatMap.2 ⟨(row, place), hrow, h.mem_rowContributions hmem⟩

/-- Where its joins find at most one row, it aggregates no row more often than the other does. -/
theorem AsksForMore.contributions_sublist (hkeys : s'.KeysAreUnique cmp db) :
    (s'.contributions cmp db parameters').Sublist (s.contributions cmp db parameters) := by
  unfold SelectStatement.contributions
  rw [h.table]
  refine sublist_flatMap fun item hitem => ?_
  obtain ⟨row, place⟩ := item
  have hlength : (s'.rowContributions cmp db parameters' (row, place)).length ≤ 1 := by
    have hjoined : (joinRows cmp db s'.joins (s'.base row)).length = 1 := length_joinRows hkeys
    unfold SelectStatement.rowContributions
    rw [length_map, ← hjoined]
    exact length_filter_le _ _
  cases hpart : s'.rowContributions cmp db parameters' (row, place) with
  | nil => exact nil_sublist _
  | cons x xs =>
    rw [hpart, length_cons] at hlength
    obtain rfl := length_eq_zero_iff.1 (by omega : xs.length = 0)
    refine singleton_sublist.2 (h.mem_rowContributions ?_)
    rw [hpart]
    exact mem_singleton_self x

end

end

end DirtyDataOlap.Sql

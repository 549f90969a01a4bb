import DirtyDataOlap.FallibleLists
import DirtyDataOlap.PartitionContracts

/-!
# Leakage between evaluation splits

`build_split_manifest` gives every scenario group one role, and the evaluation service selects the
rows of a split by `example_id`.  **A split holds the rows of its groups exactly when no example id is
shared across its border**; the manifest only checks that the groups are disjoint.
-/

namespace DirtyDataOlap.Evaluation

open List

inductive SplitRole
  | development
  | calibration
  | test
deriving DecidableEq

def SplitRole.ofText : String → Except String SplitRole
  | "DEVELOPMENT" => .ok .development
  | "CALIBRATION" => .ok .calibration
  | "TEST" => .ok .test
  | role => .error ("unknown split role: " ++ role)

structure InferenceEvaluationExample where
  (exampleId scenarioGroupId queryId : String)
  candidateId : Option String
  score : Option Rat
  label : Option Nat

/-- The tasks whose rows `run` builds. -/
inductive EvaluatedTask
  | relationship
  | schema
  | entity

abbrev EvaluationRows := EvaluatedTask → List InferenceEvaluationExample

def EvaluationRows.all (rows : EvaluationRows) : List InferenceEvaluationExample :=
  rows .relationship ++ rows .schema ++ rows .entity

structure SplitManifest where
  (groupIds exampleIds : SplitRole → List String)

structure UsedRows where
  test : EvaluationRows
  threshold : List InferenceEvaluationExample

/-- The inputs of `assign_groups` beside the groups. -/
structure Splitting where
  sha256 : String → String
  seed : Int
  explicitRoles : List (String × String)

namespace Splitting

variable (s : Splitting)

def bucket (groupId : String) : Nat :=
  Scale.hexPrefix (String.ofList ((s.sha256 (toString s.seed ++ ":" ++ groupId)).toList.take 8)) % 100

def roleOf (groupId : String) : Except String SplitRole :=
  match s.explicitRoles.lookup groupId with
  | some role => SplitRole.ofText role
  | none =>
    .ok (if s.bucket groupId < 60 then .development
      else if s.bucket groupId < 80 then .calibration else .test)

/-- The items of `group_roles`. -/
def assignGroups (groupIds : List String) : Except String (List (String × SplitRole)) :=
  (sortedSet groupIds).mapM fun groupId => do return (groupId, ← s.roleOf groupId)

def buildSplitManifest (rows : List InferenceEvaluationExample) : Except String SplitManifest := do
  let roles ← s.assignGroups (rows.map (·.scenarioGroupId))
  let groupIds role := sorted ((roles.filter (·.2 = role)).map (·.1))
  let ofRole role := rows.filter fun row => (row.scenarioGroupId, role) ∈ roles
  if [SplitRole.development, .calibration, .test].Pairwise fun left right =>
      ∀ groupId ∈ groupIds left, groupId ∉ groupIds right then
    .ok ⟨groupIds, fun role => sorted ((ofRole role).map (·.exampleId))⟩
  else .error "scenario group crosses evaluation splits"

/-- The selections of `InferenceEvaluationService.run`. -/
def usedRows (rows : EvaluationRows) : Except String UsedRows := do
  let split ← s.buildSplitManifest rows.all
  return {
    test := fun task => (rows task).filter (·.exampleId ∈ split.exampleIds .test)
    threshold := (rows .relationship).filter (·.exampleId ∈ split.exampleIds .calibration) }

abbrev InRole (role : SplitRole) (row : InferenceEvaluationExample) : Prop :=
  s.roleOf row.scenarioGroupId = .ok role

/-- Rows that differ, where their group is no TEST group, in other fields than their ids. -/
def SameTest (row row' : InferenceEvaluationExample) : Prop :=
  row'.exampleId = row.exampleId ∧ row'.scenarioGroupId = row.scenarioGroupId ∧
    (s.InRole .test row → row' = row)

/-- Each study uses the rows of its groups, no row serves both, and no TEST metric depends on what
the rows of other groups hold. -/
structure NoLeakage (rows : EvaluationRows) (used : UsedRows) : Prop where
  test : used.test = fun task => (rows task).filter (s.InRole .test)
  threshold : used.threshold = (rows .relationship).filter (s.InRole .calibration)
  disjoint : ∀ row ∈ used.threshold, ∀ task, row ∉ used.test task
  independent : ∀ rows' used', (∀ task, Forall₂ s.SameTest (rows task) (rows' task)) →
    s.usedRows rows' = .ok used' →
      ∀ (Metric : Type) (metric : EvaluationRows → Metric), metric used'.test = metric used.test

def Separated (role : SplitRole) (rows others : List InferenceEvaluationExample) : Prop :=
  ∀ row ∈ rows, ∀ other ∈ others, s.InRole role row → other.exampleId = row.exampleId →
    s.InRole role other

section

variable {s : Splitting} {rows others : List InferenceEvaluationExample} {split : SplitManifest}
  {role : SplitRole}

theorem mem_assignGroups {groupIds : List String} {roles : List (String × SplitRole)}
    (h : s.assignGroups groupIds = .ok roles) {groupId : String} :
    (groupId, role) ∈ roles ↔ groupId ∈ groupIds ∧ s.roleOf groupId = .ok role := by
  have hroles := mapM_eq_ok.1 h
  constructor
  · intro hmem
    obtain ⟨g, hg, hitem⟩ := exists_left_of_forall₂ hroles hmem
    obtain ⟨_, hrole, hitem⟩ := bind_eq_ok.1 hitem
    cases hitem
    exact ⟨mem_sortedSet.1 hg, hrole⟩
  · rintro ⟨hg, hrole⟩
    obtain ⟨item, hmem, hitem⟩ := exists_right_of_forall₂ hroles (mem_sortedSet.2 hg)
    rw [hrole] at hitem
    cases hitem
    exact hmem

theorem mem_exampleIds (h : s.buildSplitManifest rows = .ok split) {exampleId : String} :
    exampleId ∈ split.exampleIds role ↔
      ∃ row ∈ rows, s.InRole role row ∧ row.exampleId = exampleId := by
  obtain ⟨roles, hroles, h⟩ := bind_eq_ok.1 h
  dsimp only at h
  split at h
  · cases h
    simp only [mem_sorted, mem_map, mem_filter, mem_assignGroups hroles, decide_eq_true_eq]
    grind
  · cases h

/-- **The rows selected by example id are those of the role** exactly when the role is separated. -/
theorem selected_iff (h : s.buildSplitManifest rows = .ok split) (hsub : others ⊆ rows) :
    others.filter (·.exampleId ∈ split.exampleIds role) = others.filter (s.InRole role) ↔
      s.Separated role rows others := by
  constructor
  · intro heq row hrow other hother hrole hid
    have hmem : other ∈ others.filter (·.exampleId ∈ split.exampleIds role) :=
      mem_filter.2 ⟨hother, decide_eq_true ((mem_exampleIds h).2 ⟨row, hrow, hrole, hid.symm⟩)⟩
    rw [heq] at hmem
    exact of_decide_eq_true (mem_filter.1 hmem).2
  · intro hseparated
    refine filter_congr fun other hother => ?_
    rw [decide_eq_decide, mem_exampleIds h]
    constructor
    · rintro ⟨row, hrow, hrole, hid⟩
      exact hseparated row hrow other hother hrole hid.symm
    · intro hrole
      exact ⟨other, hsub hother, hrole, rfl⟩

section
variable (h : Forall₂ s.SameTest rows others)
include h

theorem filter_test_eq : others.filter (s.InRole .test) = rows.filter (s.InRole .test) := by
  induction h with
  | nil => rfl
  | @cons row other _ _ hsame _ ih =>
    by_cases hrole : s.InRole .test row
    · rw [hsame.2.2 hrole, filter_cons_of_pos (by simpa), filter_cons_of_pos (by simpa), ih]
    · have hrole' : ¬ s.InRole .test other := by rwa [InRole, hsame.2.1]
      rw [filter_cons_of_neg (by simpa), filter_cons_of_neg (by simpa), ih]

theorem separated_of_sameTest (hrows : s.Separated role rows rows) :
    s.Separated role others others := by
  intro row hrow other hother hrole hid
  obtain ⟨row', hrow', hsame⟩ := exists_left_of_forall₂ h hrow
  obtain ⟨other', hother', hsame'⟩ := exists_left_of_forall₂ h hother
  rw [InRole, hsame.2.1] at hrole
  rw [hsame.1, hsame'.1] at hid
  rw [InRole, hsame'.2.1]
  exact hrows row' hrow' other' hother' hrole hid

end

end

variable {s} {rows : EvaluationRows} {used : UsedRows}

theorem test_eq_iff (h : s.usedRows rows = .ok used) :
    (used.test = fun task => (rows task).filter (s.InRole .test)) ↔
      s.Separated .test rows.all rows.all := by
  obtain ⟨split, hsplit, h⟩ := bind_eq_ok.1 h
  cases h
  have hsub : ∀ task, rows task ⊆ rows.all := by
    rintro (_ | _ | _) <;> simp [EvaluationRows.all]
  simp only [funext_iff, selected_iff hsplit (hsub _)]
  constructor
  · intro htasks row hrow other hother
    simp only [EvaluationRows.all, mem_append] at hother
    rcases hother with (hother | hother) | hother <;> exact htasks _ row hrow other hother
  · intro hall task row hrow other hother
    exact hall row hrow other (hsub task hother)

theorem threshold_eq_iff (h : s.usedRows rows = .ok used) :
    used.threshold = (rows .relationship).filter (s.InRole .calibration) ↔
      s.Separated .calibration rows.all (rows .relationship) := by
  obtain ⟨split, hsplit, h⟩ := bind_eq_ok.1 h
  cases h
  exact selected_iff hsplit (by simp [EvaluationRows.all])

/-- **The splits leak nothing** exactly when no row outside the TEST groups has the example id of a
TEST row, and no relationship row outside the CALIBRATION groups that of a CALIBRATION row. -/
theorem noLeakage_iff (h : s.usedRows rows = .ok used) :
    s.NoLeakage rows used ↔ s.Separated .test rows.all rows.all ∧
      s.Separated .calibration rows.all (rows .relationship) := by
  constructor
  · intro hleak
    exact ⟨(test_eq_iff h).1 hleak.test, (threshold_eq_iff h).1 hleak.threshold⟩
  · rintro ⟨htest, hthreshold⟩
    have htests := (test_eq_iff h).2 htest
    have hstudy := (threshold_eq_iff h).2 hthreshold
    refine ⟨htests, hstudy, ?_, ?_⟩
    · intro row hrow task hmem
      simp only [htests, hstudy, mem_filter, InRole] at hrow hmem
      grind
    · intro rows' used' hsame h' Metric metric
      have hall : Forall₂ s.SameTest rows.all rows'.all :=
        rel_append (rel_append (hsame _) (hsame _)) (hsame _)
      rw [(test_eq_iff h').2 (separated_of_sameTest hall htest), htests]
      simp only [filter_test_eq (hsame _)]

/-- A TEST group and a DEVELOPMENT group, each with a relationship row. -/
def demoSplitting : Splitting := ⟨id, 0, [("g1", "TEST"), ("g2", "DEVELOPMENT")]⟩

def demoRows (first second : String) : EvaluationRows
  | .relationship => [⟨first, "g1", "q1", some first, none, some 1⟩,
    ⟨second, "g2", "q2", some second, none, some 0⟩]
  | _ => []

theorem noLeakage_own_ids : ∃ used, demoSplitting.NoLeakage (demoRows "c1" "c2") used := by
  obtain ⟨used, h⟩ := exists_ok_of_isOk (x := demoSplitting.usedRows (demoRows "c1" "c2"))
    (by decide +kernel)
  refine ⟨used, (noLeakage_iff h).2 ?_⟩
  unfold Separated
  decide +kernel

theorem shared_candidate_leaks : ∃ used, demoSplitting.usedRows (demoRows "c" "c") = .ok used ∧
    ¬ demoSplitting.NoLeakage (demoRows "c" "c") used := by
  obtain ⟨used, h⟩ := exists_ok_of_isOk (x := demoSplitting.usedRows (demoRows "c" "c"))
    (by decide +kernel)
  refine ⟨used, h, fun hleak => absurd ((test_eq_iff h).1 hleak.test) ?_⟩
  unfold Separated
  decide +kernel

end Splitting

end DirtyDataOlap.Evaluation

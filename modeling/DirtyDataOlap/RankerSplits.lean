import DirtyDataOlap.Dictionaries
import DirtyDataOlap.FallibleLists
import DirtyDataOlap.SortedCollections
import Mathlib.Data.String.Basic

/-!
# The splits of the learned ranker

`make_grouped_split` assigns groups to splits, by row ids that are made from label ids.  **The splits
leak nothing exactly when labels with one id are of one group and the groups of a base scenario get
one split**; the manifest checks neither.
-/
namespace DirtyDataOlap.AppliedMl

open List

structure MLFeatureVector where
  (candidateId logicalPairKey : String)

structure MLTrainingLabel where
  (labelId candidateId logicalPairKey groupId baseScenarioId : String)

structure MLDatasetRow where
  rowId : String
  featureVector : MLFeatureVector
  label : MLTrainingLabel
  aligned : featureVector.candidateId = label.candidateId ∧
    featureVector.logicalPairKey = label.logicalPairKey

def datasetRow (vectors : List (String × MLFeatureVector)) (label : MLTrainingLabel) :
    Except String MLDatasetRow :=
  match getItem vectors label.candidateId with
  | none => .error ("label has no feature vector: " ++ label.candidateId)
  | some vector =>
    if h : vector.candidateId = label.candidateId ∧ vector.logicalPairKey = label.logicalPairKey then
      .ok ⟨"row_" ++ label.labelId, vector, label, h⟩
    else .error "dataset row feature and label identity mismatch"

/-- The rows of `build_dataset`. -/
def buildDataset (vectors : List MLFeatureVector) (labels : List MLTrainingLabel) :
    Except String (List MLDatasetRow) :=
  if (labels.map (·.candidateId)).Nodup then
    (sortedBy (·.candidateId) labels).mapM
      (datasetRow (dictOf (vectors.map fun vector => (vector.candidateId, vector))))
  else .error "each candidate must have exactly one explicit label"

structure MLSplitManifest where
  (assignments rowGroupById reversePairGroupByKey : List (String × String))

def MLSplitManifest.noGroupOverlap (m : MLSplitManifest) : Except String MLSplitManifest :=
  let group (item : String × String) := getItem m.rowGroupById item.1
  if m.assignments.any (group · = none) then .error "every split row requires a group"
  else if ∃ a ∈ m.assignments, ∃ b ∈ m.assignments, a.2 ≠ b.2 ∧ group a = group b then
    .error "group leakage across split assignments"
  else match m.reversePairGroupByKey.find? (·.2 ∉ m.rowGroupById.map Prod.snd) with
    | some item => .error ("reverse pair group is not represented: " ++ item.1)
    | none => .ok m

section
variable (rows : List MLDatasetRow)

/-- `groups`, the sorted keys of `by_group`. -/
def groups : List String := sortedSet (rows.map (·.label.groupId))

def splitOf (groupId : String) : String :=
  let index := (groups rows).idxOf groupId
  if 3 ≤ (groups rows).length then
    if index % 3 = 0 then "train" else if index % 3 = 1 then "validation" else "test"
  else if (groups rows).length = 2 ∧ index % 2 = 1 then "test" else "train"

/-- An item of `by_pair`. -/
def groupsOfPair (key : String) : List String :=
  ((rows.filter (·.label.logicalPairKey = key)).map (·.label.groupId)).dedup

/-- The items of `assignments`, as they are written. -/
def assigned : List (String × String) :=
  (groups rows).flatMap fun groupId =>
    (rows.filter (·.label.groupId = groupId)).map (·.rowId, splitOf rows groupId)

def makeGroupedSplit : Except String MLSplitManifest :=
  if rows.isEmpty then .error "cannot split an empty dataset"
  else if rows.any fun row => (groupsOfPair rows row.label.logicalPairKey).length ≠ 1 then
    .error "reverse or duplicate logical pairs cross split groups"
  else MLSplitManifest.noGroupOverlap
    ⟨dictOf (assigned rows), dictOf (rows.map fun row => (row.rowId, row.label.groupId)),
      dictOf (rows.map fun row => (row.label.logicalPairKey, row.label.groupId))⟩

/-- The rows that `ranking_metrics` takes. -/
def selected (m : MLSplitManifest) (split : String) : List MLDatasetRow :=
  rows.filter fun row => getItem m.assignments row.rowId = some split

/-- The place of a row's group in the rotation of the splits. -/
def place (row : MLDatasetRow) : Nat :=
  (groups rows).idxOf row.label.groupId % min 3 (groups rows).length

/-- Rows that share a field have the same image. -/
def Keeps {α β : Type} (field : MLTrainingLabel → α) (f : MLDatasetRow → β) : Prop :=
  ∀ row ∈ rows, ∀ other ∈ rows, field row.label = field other.label → f row = f other

/-- Every row has one of the splits and its label's group, rows that belong together have one split,
and the metrics of the splits take every row once. -/
structure NoLeakage (m : MLSplitManifest) : Prop where
  split : ∀ row ∈ rows, ∃ split ∈ ["train", "validation", "test"], row ∈ selected rows m split
  recorded : ∀ row ∈ rows, getItem m.rowGroupById row.rowId = some row.label.groupId
  groups : Keeps rows (·.groupId) (getItem m.assignments ·.rowId)
  pairs : Keeps rows (·.logicalPairKey) (getItem m.assignments ·.rowId)
  scenarios : Keeps rows (·.baseScenarioId) (getItem m.assignments ·.rowId)
  disjoint : ∀ left right, left ≠ right → (selected rows m left).Disjoint (selected rows m right)

end

variable {rows : List MLDatasetRow} {m : MLSplitManifest} {row : MLDatasetRow}

theorem rowId_eq {vectors : List MLFeatureVector} {labels : List MLTrainingLabel}
    (h : buildDataset vectors labels = .ok rows) (hrow : row ∈ rows) :
    row.rowId = "row_" ++ row.label.labelId := by
  unfold buildDataset at h
  split at h
  · obtain ⟨label, -, hlabel⟩ := exists_left_of_forall₂ (mapM_eq_ok.1 h) hrow
    unfold datasetRow at hlabel
    split at hlabel
    · cases hlabel
    · split at hlabel <;> cases hlabel
      rfl
  · cases h

theorem getItem_dictOf {items : List (String × String)} {key value : String}
    (hmem : (key, value) ∈ items) (hall : ∀ other, (key, other) ∈ items → other = value) :
    getItem (dictOf items) key = some value := by
  obtain ⟨other, hother⟩ := Option.isSome_iff_exists.1
    (getItem_isSome_iff.2 (key_mem_dictOf.2 (mem_map_of_mem hmem)))
  rw [hother, hall other (mem_of_mem_dictOf (mem_of_getItem hother))]

theorem mem_assigned {item : String × String} :
    item ∈ assigned rows ↔ ∃ row ∈ rows, (row.rowId, splitOf rows row.label.groupId) = item := by
  simp only [assigned, groups, mem_flatMap, mem_sortedSet, mem_map, mem_filter, decide_eq_true_eq]
  grind

theorem splitOf_eq_iff {other : MLDatasetRow} (hrow : row ∈ rows) (hother : other ∈ rows) :
    splitOf rows row.label.groupId = splitOf rows other.label.groupId ↔
      place rows row = place rows other := by
  have hlt : ∀ r ∈ rows, (groups rows).idxOf r.label.groupId < (groups rows).length := fun r hr =>
    idxOf_lt_length_of_mem (mem_sortedSet.2 (mem_map_of_mem hr))
  have hi := hlt row hrow
  have hj := hlt other hother
  unfold splitOf place
  generalize (groups rows).idxOf row.label.groupId = i,
    (groups rows).idxOf other.label.groupId = j, (groups rows).length = n at *
  by_cases hn : 3 ≤ n
  · rw [min_eq_left hn, if_pos hn, if_pos hn]
    split_ifs <;> simp <;> omega
  · rw [min_eq_right (by omega), if_neg hn, if_neg hn, Nat.mod_eq_of_lt hi, Nat.mod_eq_of_lt hj]
    split_ifs <;> simp <;> omega

theorem makeGroupedSplit_eq_ok (hm : makeGroupedSplit rows = .ok m) :
    Keeps rows (·.logicalPairKey) (·.label.groupId) ∧ m.assignments = dictOf (assigned rows) ∧
      m.rowGroupById = dictOf (rows.map fun row => (row.rowId, row.label.groupId)) := by
  unfold makeGroupedSplit at hm
  split_ifs at hm with hempty hpair
  refine ⟨fun row hrow other hother hkey => ?_, ?_⟩
  · have hone : (groupsOfPair rows row.label.logicalPairKey).length = 1 := by
      by_contra hne
      exact hpair (any_eq_true.2 ⟨row, hrow, decide_eq_true hne⟩)
    obtain ⟨groupId, hgroups⟩ := length_eq_one_iff.1 hone
    have hgroup : ∀ r ∈ rows, r.label.logicalPairKey = row.label.logicalPairKey →
        r.label.groupId ∈ groupsOfPair rows row.label.logicalPairKey := fun r hr hk =>
      mem_dedup.2 (mem_map_of_mem (mem_filter.2 ⟨hr, decide_eq_true hk⟩))
    simp only [hgroups, mem_singleton] at hgroup
    exact (hgroup row hrow rfl).trans (hgroup other hother hkey.symm).symm
  · unfold MLSplitManifest.noGroupOverlap at hm
    simp only at hm
    split_ifs at hm
    split at hm <;> cases hm
    exact ⟨rfl, rfl⟩

theorem assignment_eq (hm : makeGroupedSplit rows = .ok m) (hrow : row ∈ rows)
    (hapart : ∀ other ∈ rows, other.rowId = row.rowId → other.label.groupId = row.label.groupId) :
    getItem m.assignments row.rowId = some (splitOf rows row.label.groupId) := by
  rw [(makeGroupedSplit_eq_ok hm).2.1]
  refine getItem_dictOf (mem_assigned.2 ⟨row, hrow, rfl⟩) fun split hsplit => ?_
  obtain ⟨other, hother, heq⟩ := mem_assigned.1 hsplit
  obtain ⟨hid, rfl⟩ := Prod.mk.inj heq
  rw [hapart other hother hid]

/-- **The splits leak nothing** exactly when labels with one id are of one group and the groups of a
base scenario have one place. -/
theorem splits_leak_nothing_iff {vectors : List MLFeatureVector} {labels : List MLTrainingLabel}
    (h : buildDataset vectors labels = .ok rows) (hm : makeGroupedSplit rows = .ok m) :
    NoLeakage rows m ↔ Keeps rows (·.labelId) (·.label.groupId) ∧
      Keeps rows (·.baseScenarioId) (place rows) := by
  have hids : ∀ row ∈ rows, ∀ other ∈ rows,
      row.rowId = other.rowId ↔ row.label.labelId = other.label.labelId := by
    intro row hrow other hother
    rw [rowId_eq h hrow, rowId_eq h hother]
    exact String.append_right_inj _
  obtain ⟨hpairs, -, hrecorded⟩ := makeGroupedSplit_eq_ok hm
  constructor
  · intro hleak
    have hapart : Keeps rows (·.labelId) (·.label.groupId) := by
      intro row hrow other hother hlabel
      have hgroup := hleak.recorded row hrow
      rw [(hids row hrow other hother).2 hlabel, hleak.recorded other hother] at hgroup
      exact (Option.some.inj hgroup).symm
    refine ⟨hapart, fun row hrow other hother hscenario => ?_⟩
    have hsplit := hleak.scenarios row hrow other hother hscenario
    simp only at hsplit
    rw [assignment_eq hm hrow fun r hr hid => hapart r hr row hrow ((hids r hr row hrow).1 hid),
      assignment_eq hm hother fun r hr hid => hapart r hr other hother ((hids r hr other hother).1 hid)]
      at hsplit
    exact (splitOf_eq_iff hrow hother).1 (Option.some.inj hsplit)
  · rintro ⟨hapart, hscenarios⟩
    have hsplit : ∀ row ∈ rows, getItem m.assignments row.rowId =
        some (splitOf rows row.label.groupId) := fun row hrow =>
      assignment_eq hm hrow fun r hr hid => hapart r hr row hrow ((hids r hr row hrow).1 hid)
    have hkeeps : ∀ {field : MLTrainingLabel → String},
        Keeps rows field (splitOf rows ·.label.groupId) →
          Keeps rows field (getItem m.assignments ·.rowId) := by
      intro field hfield row hrow other hother heq
      simp only [hsplit row hrow, hsplit other hother]
      exact congrArg some (hfield row hrow other hother heq)
    refine ⟨fun row hrow => ⟨splitOf rows row.label.groupId, ?_,
      mem_filter.2 ⟨hrow, decide_eq_true (hsplit row hrow)⟩⟩, ?_, ?_, ?_, ?_, ?_⟩
    · unfold splitOf
      simp only
      split_ifs <;> simp
    · intro row hrow
      rw [hrecorded]
      refine getItem_dictOf (mem_map_of_mem hrow) fun groupId hgroup => ?_
      obtain ⟨other, hother, heq⟩ := mem_map.1 hgroup
      obtain ⟨hid, rfl⟩ := Prod.mk.inj heq
      exact hapart other hother row hrow ((hids other hother row hrow).1 hid)
    · exact hkeeps fun row _ other _ heq => congrArg (splitOf rows) heq
    · exact hkeeps fun row hrow other hother heq =>
        congrArg (splitOf rows) (hpairs row hrow other hother heq)
    · exact hkeeps fun row hrow other hother heq =>
        (splitOf_eq_iff hrow hother).2 (hscenarios row hrow other hother heq)
    · intro left right hne row hleft hright
      simp only [selected, mem_filter, decide_eq_true_eq] at hleft hright
      exact hne (Option.some.inj (hleft.2.symm.trans hright.2))

/-- **The manifest never rejects a split of rows with ids of their own**: the only errors are those of
an empty dataset and of pairs that cross groups. -/
theorem makeGroupedSplit_isOk_iff (hids : (rows.map MLDatasetRow.rowId).Nodup) :
    (makeGroupedSplit rows).isOk = true ↔
      rows ≠ [] ∧ Keeps rows (·.logicalPairKey) (·.label.groupId) := by
  constructor
  · intro h
    obtain ⟨m, hm⟩ := exists_ok_of_isOk h
    refine ⟨?_, (makeGroupedSplit_eq_ok hm).1⟩
    rintro rfl
    cases hm
  · rintro ⟨hne, hpairs⟩
    have hone : ∀ row ∈ rows, (groupsOfPair rows row.label.logicalPairKey).length = 1 := by
      intro row hrow
      have hmem : ∀ g, g ∈ groupsOfPair rows row.label.logicalPairKey ↔ g = row.label.groupId := by
        intro g
        simp only [groupsOfPair, mem_dedup, mem_map, mem_filter, decide_eq_true_eq]
        constructor
        · rintro ⟨other, ⟨hother, hkey⟩, rfl⟩
          exact hpairs other hother row hrow hkey
        · rintro rfl
          exact ⟨row, ⟨hrow, rfl⟩, rfl⟩
      have hperm : groupsOfPair rows row.label.logicalPairKey ~ [row.label.groupId] :=
        (perm_ext_iff_of_nodup (nodup_dedup _) (nodup_singleton _)).2 fun g =>
          (hmem g).trans mem_singleton.symm
      exact hperm.length_eq
    have hgroup : ∀ row ∈ rows, getItem (dictOf (rows.map fun row => (row.rowId, row.label.groupId)))
        row.rowId = some row.label.groupId := by
      intro row hrow
      refine getItem_dictOf (mem_map_of_mem hrow) fun groupId hmem => ?_
      obtain ⟨other, hother, heq⟩ := mem_map.1 hmem
      obtain ⟨hid, rfl⟩ := Prod.mk.inj heq
      rw [inj_on_of_nodup_map hids hother hrow hid]
    have hassigned : ∀ a ∈ dictOf (assigned rows), ∃ row ∈ rows,
        (row.rowId, splitOf rows row.label.groupId) = a := fun a ha =>
      mem_assigned.1 (mem_of_mem_dictOf ha)
    unfold makeGroupedSplit
    rw [if_neg (by simpa using hne), if_neg (by simpa using hone)]
    unfold MLSplitManifest.noGroupOverlap
    dsimp only
    rw [if_neg, if_neg]
    · split
      · rename_i item hitem
        have hnot := find?_some hitem
        obtain ⟨row, hrow, rfl⟩ := mem_map.1 (mem_of_mem_dictOf (mem_of_find?_eq_some hitem))
        simp only [decide_eq_true_eq] at hnot
        exact absurd (mem_map_of_mem (mem_of_getItem (hgroup row hrow))) hnot
      · rfl
    · rintro ⟨a, ha, b, hb, hsplit, heq⟩
      obtain ⟨row, hrow, rfl⟩ := hassigned a ha
      obtain ⟨other, hother, rfl⟩ := hassigned b hb
      rw [hgroup row hrow, hgroup other hother] at heq
      exact hsplit (by rw [Option.some.inj heq])
    · rw [any_eq_true]
      rintro ⟨a, ha, hnone⟩
      obtain ⟨row, hrow, rfl⟩ := hassigned a ha
      rw [decide_eq_true_eq, hgroup row hrow] at hnone
      cases hnone

/-- Two groups, whose labels are of these base scenarios. -/
def demoLabels (first second : String) : List MLTrainingLabel :=
  [⟨"l1", "c1", "p1", "g1", first⟩, ⟨"l2", "c2", "p2", "g2", second⟩]

def demoVectors : List MLFeatureVector := [⟨"c1", "p1"⟩, ⟨"c2", "p2"⟩]

theorem noLeakage_own_scenarios : ∃ rows m, makeGroupedSplit rows = .ok m ∧ NoLeakage rows m := by
  obtain ⟨rows, h⟩ := exists_ok_of_isOk (x := buildDataset demoVectors (demoLabels "s1" "s2"))
    (by decide +kernel)
  obtain ⟨m, hm⟩ := exists_ok_of_isOk (x := makeGroupedSplit rows) (by cases h; decide +kernel)
  refine ⟨rows, m, hm, (splits_leak_nothing_iff h hm).2 ?_⟩
  cases h
  unfold Keeps
  decide +kernel

theorem makeGroupedSplit_isOk_own_scenarios : ∃ rows,
    buildDataset demoVectors (demoLabels "s1" "s2") = .ok rows ∧
      Keeps rows (·.logicalPairKey) (·.label.groupId) := by
  obtain ⟨rows, h⟩ := exists_ok_of_isOk (x := buildDataset demoVectors (demoLabels "s1" "s2"))
    (by decide +kernel)
  refine ⟨rows, h, ((makeGroupedSplit_isOk_iff ?_).1 ?_).2⟩ <;> cases h <;> decide +kernel

theorem shared_scenario_leaks : ∃ rows m,
    buildDataset demoVectors (demoLabels "s1" "s1") = .ok rows ∧ makeGroupedSplit rows = .ok m ∧
      ¬ NoLeakage rows m := by
  obtain ⟨rows, h⟩ := exists_ok_of_isOk (x := buildDataset demoVectors (demoLabels "s1" "s1"))
    (by decide +kernel)
  obtain ⟨m, hm⟩ := exists_ok_of_isOk (x := makeGroupedSplit rows) (by cases h; decide +kernel)
  refine ⟨rows, m, h, hm, fun hleak => absurd hleak.scenarios ?_⟩
  cases h
  cases hm
  unfold Keeps
  decide +kernel

end DirtyDataOlap.AppliedMl

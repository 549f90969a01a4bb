import DirtyDataOlap.DependencyContracts

/-!
# The instance sample of schema matching

`_sample_stream` appends every row to those it keeps, sorts them by their seeded digests and drops the
last one.  **After every row, those kept are a prefix of the sorted rows read so far**, so the sample
is a function of the set of rows, and a larger limit only adds rows to it.
-/

namespace DirtyDataOlap

open List

section Smallest

variable {α β : Type} [LinearOrder α] {key : β → α} {limit : Nat} {xs : List β}

theorem take_orderedInsert (r : β → β → Prop) [DecidableRel r] (x : β) (limit : Nat) (xs : List β) :
    (xs.orderedInsert r x).take limit = ((xs.take limit).orderedInsert r x).take limit := by
  induction xs generalizing limit with
  | nil => simp
  | cons y xs ih =>
    cases limit with
    | zero => rfl
    | succ limit =>
      by_cases hxy : r x y
      · cases limit <;> simp [orderedInsert_cons, hxy, take_take]
      · simp only [orderedInsert_cons, hxy, if_false, take_succ_cons]
        rw [ih]

/-- The smallest of `xs ++ [x]` are among the smallest of `xs` and `x`. -/
theorem take_sortedBy_append {x : β} (hkey : ((xs ++ [x]).map key).Nodup) :
    (sortedBy key ((sortedBy key xs).take limit ++ [x])).take limit =
      (sortedBy key (xs ++ [x])).take limit := by
  have hfirst : ∀ ys : List β, (∀ y ∈ ys, y ∈ xs) →
      sortedBy key (ys ++ [x]) = orderedInsert (fun a b => key a ≤ key b) x (sortedBy key ys) := by
    intro ys hys
    refine sortedBy_eq_of_perm (perm_append_singleton x ys) fun a ha b hb => ?_
    exact inj_on_of_nodup_map hkey (by grind) (by grind)
  rw [hfirst xs fun y hy => hy, hfirst _ fun y hy => mem_sortedBy.1 (mem_of_mem_take hy),
    take_orderedInsert _ x limit (sortedBy key xs)]
  congr 2
  exact ((pairwise_sortedBy key xs).sublist (take_sublist ..)).insertionSort_eq

end Smallest

/-- The rows of `iter_table`, with the ordinal that only the sample reads. -/
structure SampledRow extends Dependencies.StagedDependencyRow where
  extractionOrdinal : Nat

def seededDigest (sha256 : String → String) (seed : Int) (row : SampledRow) : String :=
  sha256 (toString seed ++ ":" ++ row.recordRef)

/-- One pass of the loop of `_sample_stream`. -/
def sampleStep (digest : SampledRow → String) (limit : Nat) (state : List SampledRow × Nat)
    (item : SampledRow) : List SampledRow × Nat :=
  let selected := sortedBy digest (state.1 ++ [item])
  (if limit < selected.length then selected.dropLast else selected, state.2 + 1)

/-- `_sample_stream`. -/
def sampleStream (sha256 : String → String) (rows : List SampledRow) (limit : Nat) (seed : Int) :
    List SampledRow × Nat :=
  let state := rows.foldl (sampleStep (seededDigest sha256 seed) limit) ([], 0)
  (sortedBy (·.extractionOrdinal) state.1, state.2)

variable {digest : SampledRow → String} {limit : Nat} {rows : List SampledRow}

theorem sampleStep_prefix {item : SampledRow} (hdigest : ((rows ++ [item]).map digest).Nodup) :
    sampleStep digest limit ((sortedBy digest rows).take limit, rows.length) item =
      ((sortedBy digest (rows ++ [item])).take limit, (rows ++ [item]).length) := by
  rw [← take_sortedBy_append hdigest]
  have hlength := (sortedBy_perm digest ((sortedBy digest rows).take limit ++ [item])).length_eq
  simp only [length_append, length_take, length_singleton] at hlength
  simp only [sampleStep, length_append, length_singleton, Prod.mk.injEq, and_true]
  split
  · rw [dropLast_eq_take]
    congr 1
    omega
  · exact (take_of_length_le (by omega)).symm

/-- **The invariant of the loop**: the smallest rows of those read, in the order of their digests. -/
theorem foldl_sampleStep (hdigest : (rows.map digest).Nodup) :
    rows.foldl (sampleStep digest limit) ([], 0) =
      ((sortedBy digest rows).take limit, rows.length) := by
  induction rows using reverseRecOn with
  | nil => simp [sortedBy]
  | append_singleton rows item ih =>
    have hprefix : (rows.map digest).Nodup :=
      hdigest.sublist ((sublist_append_left rows [item]).map digest)
    rw [foldl_concat, ih hprefix, sampleStep_prefix hdigest]

variable {sha256 : String → String} {seed : Int}

theorem sampleStream_eq (hdigest : (rows.map (seededDigest sha256 seed)).Nodup) :
    sampleStream sha256 rows limit seed =
      (sortedBy (·.extractionOrdinal) ((sortedBy (seededDigest sha256 seed) rows).take limit),
        rows.length) := by
  simp only [sampleStream, foldl_sampleStep hdigest]

/-- **The streamed sample is the batch sample.** -/
theorem sample_smallest (hdigest : (rows.map (seededDigest sha256 seed)).Nodup) :
    let (selected, count) := sampleStream sha256 rows limit seed
    count = rows.length ∧ selected.length = min limit rows.length ∧ selected.Subperm rows ∧
    selected.Pairwise (·.extractionOrdinal ≤ ·.extractionOrdinal) ∧
    (∀ row ∈ selected, ∀ other ∈ rows, other ∉ selected →
      seededDigest sha256 seed row < seededDigest sha256 seed other) ∧ (∀ rows', rows.Perm rows' →
      sampleStream sha256 rows' limit seed = sampleStream sha256 rows limit seed) ∧
    ∀ larger ≥ limit, selected ⊆ (sampleStream sha256 rows larger seed).1 := by
  simp only [sampleStream_eq hdigest]
  refine ⟨trivial, ?_, ?_, pairwise_sortedBy _ _, ?_, ?_, ?_⟩
  · rw [(sortedBy_perm _ _).length_eq, length_take, (sortedBy_perm _ rows).length_eq]
  · exact (sortedBy_perm _ _).subperm.trans
      ((take_sublist ..).subperm.trans (sortedBy_perm _ rows).subperm)
  · intro row hrow other hother hnot
    rw [mem_sortedBy] at hrow hnot
    have hdrop : other ∈ (sortedBy (seededDigest sha256 seed) rows).drop limit := by
      have hsplit : other ∈ sortedBy (seededDigest sha256 seed) rows := mem_sortedBy.2 hother
      rw [← take_append_drop limit (sortedBy _ rows), mem_append] at hsplit
      exact hsplit.resolve_left hnot
    have hle := pairwise_sortedBy (seededDigest sha256 seed) rows
    rw [← take_append_drop limit (sortedBy _ rows), pairwise_append] at hle
    refine lt_of_le_of_ne (hle.2.2 row hrow other hdrop) fun heq => hnot ?_
    have hsame := inj_on_of_nodup_map hdigest (mem_sortedBy.1 (mem_of_mem_take hrow)) hother heq
    exact hsame ▸ hrow
  · intro rows' hperm
    rw [sampleStream_eq ((hperm.map _).nodup_iff.1 hdigest), hperm.length_eq,
      sortedBy_eq_of_perm hperm fun a ha b hb => inj_on_of_nodup_map hdigest ha hb]
  · intro larger hlarger row hrow
    rw [mem_sortedBy] at hrow ⊢
    exact (take_prefix_take_left hlarger).subset hrow

theorem sample_two_rows : let sha256 (text : String) := if text = "0:a" then
      "9df3c5fab8ef8fe78a408912e52e76477b5bd838eec3cbf48191a848ec8563d3"
      else "e02192fd813f38fd4ce376d30d7e2e888d6fdf56f25505e3152304418b90871e"
    let sample := sampleStream sha256 [⟨⟨"a", []⟩, 0⟩, ⟨⟨"b", []⟩, 1⟩] 1 0
    sample.2 = 2 ∧ sample.1.length = 1 := by
  intro sha256
  have hsample := @sample_smallest 1 [⟨⟨"a", []⟩, 0⟩, ⟨⟨"b", []⟩, 1⟩] sha256 0 (by decide)
  exact ⟨hsample.1, hsample.2.1⟩

end DirtyDataOlap

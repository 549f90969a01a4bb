import Mathlib.Data.List.Sort
import Mathlib.Data.Finset.Max

/-!
# Cuts of a linear order

A list of cuts splits a linear order into one piece more than it has cuts, and the position of a key
counts the cuts at or below it. Position `i` says nothing of the cuts number `i - 1` and `i` unless
the list is in order; `Between` is what a reader of the list takes it to say.
-/
namespace DirtyDataOlap.Cuts

open List

variable {α : Type} [LinearOrder α] {cuts : List α} {key : α}

/-- The number of cuts at or below the key. -/
def position (cuts : List α) (key : α) : Nat := (cuts.filter fun cut => cut ≤ key).length

/-- The key is in piece `i`: not before the cut that begins it, and before the cut that ends it. -/
structure Between (cuts : List α) (i : Nat) (key : α) : Prop where
  below : 0 < i → ∀ cut ∈ cuts[i - 1]?, cut ≤ key
  above : ∀ cut ∈ cuts[i]?, key < cut

theorem position_le_length (cuts : List α) (key : α) : position cuts key ≤ cuts.length :=
  length_filter_le _ _

theorem position_perm {cuts' : List α} (h : cuts.Perm cuts') : position cuts key = position cuts' key :=
  (h.filter _).length_eq

theorem position_cons (cut : α) (cuts : List α) :
    position (cut :: cuts) key = (if cut ≤ key then 1 else 0) + position cuts key := by
  unfold position
  by_cases hcut : cut ≤ key
  · rw [filter_cons_of_pos (by simpa using hcut), if_pos hcut, length_cons]
    omega
  · rw [filter_cons_of_neg (by simpa using hcut), if_neg hcut]
    omega

theorem position_eq_zero (h : ∀ cut ∈ cuts, key < cut) : position cuts key = 0 := by
  unfold position
  rw [length_eq_zero_iff, filter_eq_nil_iff]
  intro cut hcut
  simpa using h cut hcut

theorem position_eq_length (h : ∀ cut ∈ cuts, cut ≤ key) : position cuts key = cuts.length := by
  unfold position
  rw [filter_eq_self.2]
  intro cut hcut
  simpa using h cut hcut

section
variable (hs : cuts.Pairwise (· ≤ ·))
include hs

/-- In a list in order, the cuts at or below a key are the first ones. -/
theorem le_iff_lt_position {i : Nat} {cut : α}
    (hi : cuts[i]? = some cut) : cut ≤ key ↔ i < position cuts key := by
  induction cuts generalizing i with
  | nil => simp at hi
  | cons first cuts ih =>
    rw [pairwise_cons] at hs
    rw [position_cons]
    by_cases hfirst : first ≤ key
    · rw [if_pos hfirst]
      cases i with
      | zero =>
        simp only [getElem?_cons_zero, Option.some.injEq] at hi
        subst hi
        exact ⟨fun _ => by omega, fun _ => hfirst⟩
      | succ i =>
        rw [getElem?_cons_succ] at hi
        rw [ih hs.2 hi]
        omega
    · rw [if_neg hfirst, position_eq_zero fun cut hcut =>
        lt_of_lt_of_le (not_le.1 hfirst) (hs.1 cut hcut)]
      have hcut : first ≤ cut := by
        cases i with
        | zero =>
          simp only [getElem?_cons_zero, Option.some.injEq] at hi
          exact hi.le
        | succ i =>
          rw [getElem?_cons_succ] at hi
          exact hs.1 cut (mem_of_getElem? hi)
      constructor
      · intro hle
        exact absurd (hcut.trans hle) hfirst
      · intro hlt
        omega

theorem position_lt_iff {n : Nat} (hn : 1 ≤ n) :
    position cuts key < n ↔ ∀ cut ∈ cuts[n - 1]?, key < cut := by
  constructor
  · intro hlt cut hcut
    have hiff : cut ≤ key ↔ n - 1 < position cuts key := le_iff_lt_position hs hcut
    exact not_le.1 (hiff.not.2 (by omega))
  · intro h
    by_contra hge
    have hlength := position_le_length cuts key
    have hcut : cuts[n - 1]? = some cuts[n - 1] := getElem?_eq_getElem (by omega)
    have hle : cuts[n - 1] ≤ key := (le_iff_lt_position hs hcut).2 (by omega)
    exact absurd (h _ hcut) (not_lt.2 hle)

theorem between_position (key : α) : Between cuts (position cuts key) key where
  below hpos cut hcut := (le_iff_lt_position hs hcut).2 (by omega)
  above := (position_lt_iff hs (Nat.le_add_left 1 _)).1 (Nat.lt_succ_self _)

/-- When the position is held to the first `n` pieces, it tells the truth of the keys it is not held
for, and of no other. -/
theorem between_min_iff {n : Nat} (hn : 1 ≤ n) (key : α) :
    Between cuts (min (position cuts key) (n - 1)) key ↔ position cuts key < n := by
  constructor
  · intro h
    by_contra hge
    rw [show min (position cuts key) (n - 1) = n - 1 by omega] at h
    exact hge ((position_lt_iff hs hn).2 h.above)
  · intro h
    rw [show min (position cuts key) (n - 1) = position cuts key by omega]
    exact between_position hs key

end

/-! ## Cuts in any order -/

theorem exists_greatest (hne : cuts ≠ []) : ∃ top ∈ cuts, ∀ cut ∈ cuts, cut ≤ top := by
  obtain ⟨top, htop, hmax⟩ := Finset.exists_max_image cuts.toFinset id
    (toFinset_nonempty_iff _ |>.2 hne)
  exact ⟨top, mem_toFinset.1 htop, fun cut hcut => hmax cut (mem_toFinset.2 hcut)⟩

/-- The position is the truth for every key when it is for the cuts themselves. -/
theorem between_of_cuts (h : ∀ cut ∈ cuts, Between cuts (position cuts cut) cut) (key : α) :
    Between cuts (position cuts key) key := by
  by_cases hnone : ∀ cut ∈ cuts, key < cut
  · rw [position_eq_zero hnone]
    exact ⟨fun h => absurd h (lt_irrefl 0), fun cut hcut => hnone cut (mem_of_getElem? hcut)⟩
  · -- the greatest cut at or below the key has the position of the key
    have hsome : cuts.filter (fun cut => cut ≤ key) ≠ [] := by
      intro hnil
      apply hnone
      intro cut hcut
      have := filter_eq_nil_iff.1 hnil cut hcut
      simpa using this
    obtain ⟨top, htop, hmax⟩ := exists_greatest hsome
    obtain ⟨hmem, hle⟩ : top ∈ cuts ∧ top ≤ key := by simpa using htop
    have hiff : ∀ cut ∈ cuts, (cut ≤ top ↔ cut ≤ key) := by
      intro cut hcut
      constructor
      · intro h
        exact h.trans hle
      · intro h
        exact hmax cut (mem_filter.2 ⟨hcut, by simpa using h⟩)
    have hposition : position cuts top = position cuts key := by
      unfold position
      rw [filter_congr]
      intro cut hcut
      simpa using hiff cut hcut
    have hbetween := h top hmem
    rw [hposition] at hbetween
    refine ⟨fun hpos cut hcut => (hbetween.below hpos cut hcut).trans hle, fun cut hcut => ?_⟩
    have hnot := (hiff cut (mem_of_getElem? hcut)).not
    exact not_le.1 (hnot.1 (not_le.2 (hbetween.above cut hcut)))

/-- **When no key is told wrong.** There are fewer cuts than pieces, and no cut is told wrong. -/
theorem forall_between_iff {n : Nat} (hn : 1 ≤ n) :
    (∀ key, Between cuts (min (position cuts key) (n - 1)) key) ↔
      cuts.length < n ∧ ∀ cut ∈ cuts, Between cuts (position cuts cut) cut := by
  constructor
  · intro h
    have hlength : cuts.length < n := by
      by_contra hge
      have hne : cuts ≠ [] := by
        rintro rfl
        simp at hge
        omega
      obtain ⟨top, -, hmax⟩ := exists_greatest hne
      have hbetween := h top
      rw [position_eq_length hmax, show min cuts.length (n - 1) = n - 1 by omega] at hbetween
      obtain ⟨cut, hcut⟩ : ∃ cut, cuts[n - 1]? = some cut :=
        ⟨_, getElem?_eq_getElem (by omega)⟩
      have hle := hmax cut (mem_of_getElem? hcut)
      exact absurd (hbetween.above cut hcut) (not_lt.2 hle)
    refine ⟨hlength, fun cut _ => ?_⟩
    have hle := position_le_length cuts cut
    have hbetween := h cut
    rwa [show min (position cuts cut) (n - 1) = position cuts cut by omega] at hbetween
  · rintro ⟨hlength, h⟩ key
    have hle := position_le_length cuts key
    rw [show min (position cuts key) (n - 1) = position cuts key by omega]
    exact between_of_cuts h key

/-- Among distinct cuts every position is taken. -/
theorem exists_position_eq (hnodup : cuts.Nodup) {i : Nat} (hi : i < cuts.length) :
    ∃ cut ∈ cuts, position cuts cut = i + 1 := by
  obtain ⟨sorted, hperm, hs⟩ : ∃ sorted : List α, sorted.Perm cuts ∧ sorted.Pairwise (· ≤ ·) :=
    ⟨_, perm_insertionSort (· ≤ ·) cuts, pairwise_insertionSort _ _⟩
  have hlength := hperm.length_eq
  have hlt : sorted.Pairwise (· < ·) := by
    have hne : sorted.Pairwise (· ≠ ·) := hperm.nodup_iff.2 hnodup
    exact (hs.and hne).imp fun h => lt_of_le_of_ne h.1 h.2
  refine ⟨sorted[i], hperm.mem_iff.1 (getElem_mem _), ?_⟩
  rw [← position_perm hperm]
  have hlow := (le_iff_lt_position hs (getElem?_eq_getElem (i := i) (by omega))).1 le_rfl
  have hle := position_le_length sorted sorted[i]
  by_contra hne
  have hnext : sorted[i + 1] ≤ sorted[i] :=
    (le_iff_lt_position hs (getElem?_eq_getElem (by omega))).2 (by omega)
  exact absurd hnext (not_le.2 (pairwise_iff_getElem.1 hlt i (i + 1) _ _ (by omega)))

/-- **Distinct cuts tell the truth only in order.** -/
theorem forall_cuts_iff (hnodup : cuts.Nodup) :
    (∀ cut ∈ cuts, Between cuts (position cuts cut) cut) ↔ cuts.Pairwise (· < ·) := by
  constructor
  · intro h
    rw [← isChain_iff_pairwise, isChain_iff_getElem]
    intro i hi
    obtain ⟨cut, hmem, hposition⟩ := exists_position_eq hnodup (show i < cuts.length by omega)
    have hbetween := h cut hmem
    rw [hposition] at hbetween
    have hbelow := hbetween.below (by omega) _ (getElem?_eq_getElem (by omega))
    have habove := hbetween.above _ (getElem?_eq_getElem hi)
    exact lt_of_le_of_lt hbelow habove
  · intro h cut _
    exact between_position (h.imp le_of_lt) cut

end DirtyDataOlap.Cuts

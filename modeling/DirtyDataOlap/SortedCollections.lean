import Mathlib.Data.List.Sort
import Mathlib.Data.List.Dedup
import Mathlib.Data.List.Perm.Lattice
import Mathlib.Data.List.Flatten
import Mathlib.Data.List.Lex

/-!
# Sorted collections and their partitions

Lists sorted by an order or by a key, the sorted members of a set, and a list cut into the fibres of
a routing function.  **A collection is recovered from its sorted form up to order**: sorting forgets
the order of the input and, for sets, the repetitions.
-/

namespace DirtyDataOlap

open List

variable {α β κ : Type} [LinearOrder α]

/-- `sorted(xs)`. -/
def sorted (xs : List α) : List α := xs.insertionSort (· ≤ ·)

/-- `sorted(set(xs))`. -/
def sortedSet (xs : List α) : List α := sorted xs.dedup

/-- `sorted(xs, key=key)`, a stable sort. -/
def sortedBy (key : β → α) (xs : List β) : List β := xs.insertionSort fun a b => key a ≤ key b

theorem sorted_perm (xs : List α) : (sorted xs).Perm xs := perm_insertionSort _ xs

variable {xs : List α} {key : β → α} {ys : List α}

@[simp] theorem mem_sorted {x : α} : x ∈ sorted xs ↔ x ∈ xs :=
  (sorted_perm xs).mem_iff

@[simp] theorem length_sorted (xs : List α) : (sorted xs).length = xs.length :=
  (sorted_perm xs).length_eq

theorem pairwise_sorted (xs : List α) : (sorted xs).Pairwise (· ≤ ·) :=
  pairwise_insertionSort _ xs

theorem sorted_eq_of_perm (h : xs.Perm ys) : sorted xs = sorted ys := by
  have hp : (sorted xs).Perm (sorted ys) := ((sorted_perm xs).trans h).trans (sorted_perm ys).symm
  exact hp.eq_of_pairwise (fun a b _ _ => le_antisymm) (pairwise_sorted xs) (pairwise_sorted ys)

@[simp] theorem mem_sortedSet {x : α} : x ∈ sortedSet xs ↔ x ∈ xs := by
  simp [sortedSet]

theorem sortedSet_eq_nil : sortedSet xs = [] ↔ xs = [] := by
  rw [eq_nil_iff_forall_not_mem, eq_nil_iff_forall_not_mem]
  simp only [mem_sortedSet]

theorem nodup_sortedSet (xs : List α) : (sortedSet xs).Nodup :=
  (sorted_perm _).nodup_iff.2 xs.nodup_dedup

theorem sortedSet_eq (h : ∀ x, x ∈ xs ↔ x ∈ ys) : sortedSet xs = sortedSet ys := by
  apply sorted_eq_of_perm
  rw [perm_ext_iff_of_nodup xs.nodup_dedup ys.nodup_dedup]
  simpa using h

theorem sortedSet_eq_of_perm (h : xs.Perm ys) : sortedSet xs = sortedSet ys :=
  sortedSet_eq fun _ => h.mem_iff

theorem length_sortedSet : (sortedSet xs).length = xs.length ↔ xs.Nodup := by
  rw [sortedSet, length_sorted]
  constructor
  · intro h
    rw [← dedup_eq_self]
    exact (xs.dedup_sublist).eq_of_length h
  · intro h
    rw [h.dedup]

theorem sorted_sorted (xs : List α) : sorted (sorted xs) = sorted xs :=
  sorted_eq_of_perm (sorted_perm _)

theorem sortedBy_perm (key : β → α) (xs : List β) : (sortedBy key xs).Perm xs :=
  perm_insertionSort _ xs

@[simp] theorem mem_sortedBy {xs : List β} {x : β} :
    x ∈ sortedBy key xs ↔ x ∈ xs := (sortedBy_perm key xs).mem_iff

theorem pairwise_sortedBy (key : β → α) (xs : List β) :
    (sortedBy key xs).Pairwise fun a b => key a ≤ key b := by
  have : Std.Total fun a b : β => key a ≤ key b := ⟨fun a b => le_total (key a) (key b)⟩
  have : IsTrans β fun a b => key a ≤ key b := ⟨fun _ _ _ => le_trans⟩
  exact pairwise_insertionSort _ xs

theorem sorted_map_key (key : β → α) (xs : List β) :
    sorted (xs.map key) = (sortedBy key xs).map key := by
  have hp : (sorted (xs.map key)).Perm ((sortedBy key xs).map key) :=
    (sorted_perm _).trans ((sortedBy_perm key xs).symm.map key)
  refine hp.eq_of_pairwise (fun a b _ _ => le_antisymm) (pairwise_sorted _) ?_
  rw [pairwise_map]
  exact pairwise_sortedBy key xs

/-- Members may be mapped before the sort where their keys are kept. -/
theorem sortedBy_map {γ : Type} {f : γ → β} {key' : γ → α} (h : ∀ x, key (f x) = key' x)
    (xs : List γ) : sortedBy key (xs.map f) = (sortedBy key' xs).map f := by
  refine (map_insertionSort (r := fun a b => key' a ≤ key' b) (s := fun a b => key a ≤ key b)
    f xs ?_).symm
  intro a _ b _
  rw [h, h]

/-- Sorting by a key that separates the members forgets their order. -/
theorem sortedBy_eq_of_perm {xs ys : List β} (h : xs.Perm ys)
    (hkey : ∀ a ∈ xs, ∀ b ∈ xs, key a = key b → a = b) : sortedBy key xs = sortedBy key ys := by
  have hp : (sortedBy key xs).Perm (sortedBy key ys) :=
    ((sortedBy_perm key xs).trans h).trans (sortedBy_perm key ys).symm
  refine hp.eq_of_pairwise ?_ (pairwise_sortedBy key xs) (pairwise_sortedBy key ys)
  intro a b ha hb hab hba
  exact hkey a (mem_sortedBy.1 ha) b (h.mem_iff.2 (mem_sortedBy.1 hb)) (le_antisymm hab hba)

/-- **The sort is stable**: members with the same key stay in their order. -/
theorem filter_sortedBy (key : β → α) (k : α) (xs : List β) :
    (sortedBy key xs).filter (fun x => key x = k) = xs.filter fun x => key x = k := by
  have hequal : (xs.filter fun x => key x = k).Pairwise fun a b => key a ≤ key b := by
    refine List.Pairwise.imp_of_mem ?_ (pairwise_of_forall fun _ _ => trivial)
    intro a b ha hb _
    rw [of_decide_eq_true (mem_filter.1 ha).2, of_decide_eq_true (mem_filter.1 hb).2]
  have hsub : (xs.filter fun x => key x = k).Sublist (sortedBy key xs) :=
    sublist_insertionSort hequal filter_sublist
  have hfiltered := hsub.filter fun x => key x = k
  simp only [filter_filter, Bool.and_self] at hfiltered
  exact (hfiltered.eq_of_length ((sortedBy_perm key xs).filter _).length_eq.symm).symm

/-- Sorted lists with the same members, in the same order, under every key. -/
theorem eq_of_filter_eq {xs ys : List β} (hxs : xs.Pairwise fun a b => key a ≤ key b)
    (hys : ys.Pairwise fun a b => key a ≤ key b)
    (h : ∀ k, xs.filter (fun x => key x = k) = ys.filter fun x => key x = k) : xs = ys := by
  have hmem : ∀ x, x ∈ xs ↔ x ∈ ys := by
    intro x
    have hx := congrArg (x ∈ ·) (h (key x))
    simpa [mem_filter] using hx
  induction xs generalizing ys with
  | nil => exact (eq_nil_iff_forall_not_mem.2 fun y hy => not_mem_nil ((hmem y).2 hy)).symm
  | cons a xs ih =>
    cases ys with
    | nil => exact absurd ((hmem a).1 (mem_cons_self ..)) not_mem_nil
    | cons b ys =>
      have hab : key a = key b := by
        apply le_antisymm
        · rcases mem_cons.1 ((hmem b).2 (mem_cons_self ..)) with rfl | hb
          · exact le_rfl
          · exact (pairwise_cons.1 hxs).1 b hb
        · rcases mem_cons.1 ((hmem a).1 (mem_cons_self ..)) with rfl | ha
          · exact le_rfl
          · exact (pairwise_cons.1 hys).1 a ha
      have hhead := h (key a)
      rw [filter_cons_of_pos (by simp), filter_cons_of_pos (by simp [hab])] at hhead
      obtain ⟨rfl, _⟩ := List.cons.inj hhead
      have htail : ∀ k, xs.filter (fun x => key x = k) = ys.filter fun x => key x = k := by
        intro k
        have hk := h k
        by_cases hak : key a = k
        · rw [filter_cons_of_pos (by simp [hak]), filter_cons_of_pos (by simp [hak])] at hk
          exact (List.cons.inj hk).2
        · rwa [filter_cons_of_neg (by simp [hak]), filter_cons_of_neg (by simp [hak])] at hk
      have hmem' : ∀ x, x ∈ xs ↔ x ∈ ys := by
        intro x
        have hx := congrArg (x ∈ ·) (htail (key x))
        simpa [mem_filter] using hx
      rw [ih (pairwise_cons.1 hxs).2 (pairwise_cons.1 hys).2 htail hmem']

/-- **What a stable sort forgets**: the order of members with different keys, and nothing else. -/
theorem sortedBy_eq_iff {xs ys : List β} : sortedBy key xs = sortedBy key ys ↔
      ∀ k, xs.filter (fun x => key x = k) = ys.filter fun x => key x = k := by
  constructor
  · intro h k
    rw [← filter_sortedBy, h, filter_sortedBy]
  · intro h
    refine eq_of_filter_eq (pairwise_sortedBy key xs) (pairwise_sortedBy key ys) fun k => ?_
    rw [filter_sortedBy, filter_sortedBy, h k]

theorem filter_sortedBy_comm (key : β → α) (p : β → Bool) (xs : List β) :
    (sortedBy key xs).filter p = sortedBy key (xs.filter p) := by
  refine eq_of_filter_eq ((pairwise_sortedBy key xs).filter p) (pairwise_sortedBy key _) fun k => ?_
  rw [filter_sortedBy, filter_comm, filter_sortedBy, filter_comm]

theorem filter_sortedSet (p : α → Bool) (xs : List α) :
    (sortedSet xs).filter p = sortedSet (xs.filter p) := by
  have hp : ((sortedSet xs).filter p).Perm (sortedSet (xs.filter p)) := by
    rw [perm_ext_iff_of_nodup ((nodup_sortedSet xs).filter p) (nodup_sortedSet _)]
    intro x
    rw [mem_filter, mem_sortedSet, mem_sortedSet, mem_filter]
  exact hp.eq_of_pairwise (fun _ _ _ _ => le_antisymm) ((pairwise_sorted _).filter p)
    (pairwise_sorted _)

variable [DecidableEq κ]

/-- The members of `xs` routed to each of the keys, in the order of the keys. -/
def fibres (route : β → κ) (keys : List κ) (xs : List β) : List (List β) :=
  keys.map fun k => xs.filter fun x => route x = k

/-- **Partition.** Distinct keys that cover the routes cut a list into its parts exactly. -/
theorem fibres_flatten_perm {route : β → κ} {keys : List κ} {xs : List β} (hk : keys.Nodup)
    (hcover : ∀ x ∈ xs, route x ∈ keys) : (fibres route keys xs).flatten.Perm xs := by
  induction keys generalizing xs with
  | nil =>
    have hempty : xs = [] := eq_nil_iff_forall_not_mem.2 fun x hx => by
      simpa using hcover x hx
    simp [hempty, fibres]
  | cons k keys ih =>
    obtain ⟨hnot, hk⟩ := nodup_cons.1 hk
    have hrest : ∀ x ∈ xs.filter (fun x => ! decide (route x = k)), route x ∈ keys := by
      intro x hx
      obtain ⟨hx, hne⟩ := mem_filter.1 hx
      rcases mem_cons.1 (hcover x hx) with h | h
      · simp [h] at hne
      · exact h
    have hsame : fibres route keys (xs.filter fun x => ! decide (route x = k)) =
        fibres route keys xs := by
      apply map_congr_left
      intro k' hk'
      rw [filter_filter]
      apply filter_congr
      intro x _
      have hne : k' ≠ k := fun h => hnot (h ▸ hk')
      by_cases hx : route x = k'
      · simp [hx, hne]
      · simp [hx]
    have hperm := ih hk hrest
    rw [hsame] at hperm
    have hsplit := filter_append_perm (fun x => decide (route x = k)) xs
    exact (hperm.append_left _).trans hsplit

end DirtyDataOlap

import Mathlib.Data.List.Dedup
import Mathlib.Data.Prod.Lex
import Mathlib.Order.WellFounded
import DirtyDataOlap.GraphSearch

/-!
# A worklist in any order

A search that pops the last pending node and, if the node is new, pushes the neighbours that are not
visited yet in any order.  **Every such search of a finite graph ends, and it ends with exactly the
nodes that can be reached** (`Searches.mem_iff`).
-/
namespace DirtyDataOlap

open List

variable {α : Type}

structure SearchState (α : Type) where
  visited : List α
  pending : List α

inductive Round (next : α → List α) : SearchState α → SearchState α → Prop
  | seen {visited pending : List α} {x : α} (h : x ∈ visited) :
      Round next ⟨visited, pending ++ [x]⟩ ⟨visited, pending⟩
  | new {visited pending pushed : List α} {x : α} (h : x ∉ visited) (hnodup : pushed.Nodup)
      (hpushed : ∀ y, y ∈ pushed ↔ y ∈ next x ∧ y ∉ x :: visited) :
      Round next ⟨visited, pending ++ [x]⟩ ⟨x :: visited, pending ++ pushed⟩

/-- A search from one node can end with these nodes visited. -/
def Searches (next : α → List α) (start : α) (visited : List α) : Prop :=
  Relation.ReflTransGen (Round next) ⟨[], [start]⟩ ⟨visited, []⟩

section
variable {next : α → List α} {nodes : List α} {s t : SearchState α} {start : α}

theorem Round.pending_subset (h : Round next s t) (hnext : ∀ x ∈ nodes, ∀ y ∈ next x, y ∈ nodes)
    (hs : ∀ x ∈ s.pending, x ∈ nodes) : ∀ x ∈ t.pending, x ∈ nodes := by
  cases h with
  | seen _ => exact fun y hy => hs y (mem_append_left _ hy)
  | @new visited pending pushed x _ _ hpushed =>
    have hx : x ∈ nodes := hs x (mem_append_right _ (mem_singleton_self x))
    intro y hy
    rcases mem_append.1 hy with hy | hy
    · exact hs y (mem_append_left _ hy)
    · exact hnext x hx y ((hpushed y).1 hy).1

/-- What a round makes smaller: the nodes that are not visited, and then the pending ones. -/
def searchSize [DecidableEq α] (nodes : List α) (s : SearchState α) : ℕ ×ₗ ℕ :=
  toLex ((nodes.filter (· ∉ s.visited)).length, s.pending.length)

theorem Round.size_lt [DecidableEq α] (h : Round next s t) (hs : ∀ x ∈ s.pending, x ∈ nodes) :
    searchSize nodes t < searchSize nodes s := by
  cases h with
  | seen _ =>
    apply Prod.Lex.toLex_lt_toLex.2
    exact .inr ⟨rfl, by simp⟩
  | @new visited pending pushed x hnew _ _ =>
    have hx : x ∈ nodes := hs x (mem_append_right _ (mem_singleton_self x))
    apply Prod.Lex.toLex_lt_toLex.2
    refine .inl (length_filter_lt hx (by simpa using hnew) (by simp) ?_)
    intro y hy
    simp only [mem_cons, not_or, decide_eq_true_eq] at hy ⊢
    exact hy.2

/-- **Every search ends**: no state is followed by rounds without end. -/
theorem acc_round (hnext : ∀ x ∈ nodes, ∀ y ∈ next x, y ∈ nodes)
    (hs : ∀ x ∈ s.pending, x ∈ nodes) : Acc (fun t s => Round next s t) s := by
  classical
  induction hsize : searchSize nodes s using WellFoundedLT.induction generalizing s with
  | ind size ih =>
    subst hsize
    constructor
    intro t ht
    exact ih (searchSize nodes t) (ht.size_lt hs) (ht.pending_subset hnext hs) rfl

/-- While a node is pending the loop can go on. -/
theorem exists_round (hpending : s.pending ≠ []) : ∃ t, Round next s t := by
  classical
  obtain ⟨visited, pending⟩ := s
  obtain ⟨rest, x, rfl⟩ : ∃ rest x, pending = rest ++ [x] :=
    ⟨_, _, (dropLast_append_getLast hpending).symm⟩
  by_cases hseen : x ∈ visited
  · exact ⟨_, .seen hseen⟩
  · refine ⟨⟨x :: visited, rest ++ ((next x).filter (· ∉ x :: visited)).dedup⟩,
      .new hseen (nodup_dedup _) fun y => ?_⟩
    rw [mem_dedup, mem_filter, decide_eq_true_eq]

theorem exists_run (hacc : Acc (fun t s => Round next s t) s) :
    ∃ visited, Relation.ReflTransGen (Round next) s ⟨visited, []⟩ := by
  induction hacc with
  | intro s _ ih =>
    by_cases hpending : s.pending = []
    · obtain ⟨visited, pending⟩ := s
      subst hpending
      exact ⟨visited, .refl⟩
    · obtain ⟨t, ht⟩ : ∃ t, Round next s t := exists_round hpending
      obtain ⟨visited, hrun⟩ := ih t ht
      exact ⟨visited, .head ht hrun⟩

/-- What holds at every round: what was found can be reached, and what one of the visited nodes leads
to was found. -/
structure Searching (next : α → List α) (start : α) (s : SearchState α) : Prop where
  reached : ∀ x ∈ s.visited ++ s.pending, Relation.ReflTransGen (Leads next) start x
  started : start ∈ s.visited ++ s.pending
  frontier : ∀ x ∈ s.visited, ∀ y ∈ next x, y ∈ s.visited ++ s.pending

theorem searching_start : Searching next start ⟨[], [start]⟩ where
  reached := by
    intro x hx
    obtain rfl : x = start := by simpa using hx
    exact .refl
  started := by simp
  frontier := by
    intro x hx
    cases hx

theorem Searching.round (h : Searching next start s) (hround : Round next s t) :
    Searching next start t := by
  cases hround with
  | @seen visited pending x hseen =>
    -- the popped node is visited: the two lists together keep what they have
    have hkeep : ∀ y, y ∈ visited ++ (pending ++ [x]) → y ∈ visited ++ pending := by
      intro y hy
      simp only [mem_append, mem_singleton] at hy ⊢
      rcases hy with hy | hy | rfl
      · exact .inl hy
      · exact .inr hy
      · exact .inl hseen
    refine ⟨fun y hy => h.reached y ?_, hkeep _ h.started, fun z hz y hy => ?_⟩
    · rcases mem_append.1 hy with hy | hy
      · exact mem_append_left _ hy
      · exact mem_append_right _ (mem_append_left _ hy)
    · exact hkeep y (h.frontier z hz y hy)
  | @new visited pending pushed x hnew _ hpushed =>
    have hx : Relation.ReflTransGen (Leads next) start x := h.reached x (by simp)
    have hkeep : ∀ y, y ∈ visited ++ (pending ++ [x]) → y ∈ x :: visited ++ (pending ++ pushed) := by
      intro y hy
      simp only [mem_append, mem_cons, not_mem_nil, or_false] at hy ⊢
      rcases hy with hy | hy | rfl
      · exact .inl (.inr hy)
      · exact .inr (.inl hy)
      · exact .inl (.inl rfl)
    refine ⟨fun y hy => ?_, hkeep _ h.started, fun z hz y hy => ?_⟩
    · simp only [mem_append, mem_cons] at hy
      rcases hy with (rfl | hy) | hy | hy
      · exact hx
      · exact h.reached y (mem_append_left _ hy)
      · exact h.reached y (mem_append_right _ (mem_append_left _ hy))
      · exact .tail hx ((hpushed y).1 hy).1
    · rcases mem_cons.1 hz with rfl | hz
      · by_cases hfound : y ∈ z :: visited
        · exact mem_append_left _ hfound
        · exact mem_append_right _ (mem_append_right _ ((hpushed y).2 ⟨hy, hfound⟩))
      · exact hkeep y (h.frontier z hz y hy)

theorem Searching.run (h : Searching next start s) (hrun : Relation.ReflTransGen (Round next) s t) :
    Searching next start t := by
  induction hrun with
  | refl => exact h
  | tail _ hround ih => exact ih.round hround

/-- **A search ends with what can be reached**, in whatever order it went. -/
theorem Searches.mem_iff {visited : List α} (h : Searches next start visited) {x : α} :
    x ∈ visited ↔ Relation.ReflTransGen (Leads next) start x := by
  have hdone := searching_start.run h
  have hfound : ∀ y, y ∈ visited ++ [] → y ∈ visited := by simp
  constructor
  · intro hx
    exact hdone.reached x (mem_append_left _ hx)
  · intro hpath
    induction hpath with
    | refl => exact hfound _ hdone.started
    | tail _ hstep ih => exact hfound _ (hdone.frontier _ ih _ hstep)

end

end DirtyDataOlap

import Mathlib.Data.List.Basic
import Mathlib.Logic.Relation

/-!
# Search in a finite graph

A search from some pending nodes, with the nodes it has visited.  **Whatever order it takes, it ends
with exactly the nodes that can be reached**, as long as the neighbours stay among the known nodes.
-/
namespace DirtyDataOlap

open List

theorem length_filter_lt {α : Type} {p q : α → Bool} {xs : List α} {x : α} (hx : x ∈ xs) (hp : p x = true)
    (hq : q x = false) (h : ∀ y, q y = true → p y = true) :
    (xs.filter q).length < (xs.filter p).length := by
  have hsub : (xs.filter q).Sublist (xs.filter p) := monotone_filter_right xs h
  refine Nat.lt_of_le_of_ne hsub.length_le fun hlength => ?_
  have hsame := hsub.eq_of_length hlength
  have hmem : x ∈ xs.filter q := by
    rw [hsame]
    exact mem_filter.2 ⟨hx, hp⟩
  rw [(mem_filter.1 hmem).2] at hq
  cases hq

variable {α : Type} [DecidableEq α]

/-- The nodes visited in the end. -/
def explore (nodes : List α) (next : α → List α) (visited : List α) : List α → List α
  | [] => visited
  | x :: pending =>
    if x ∈ visited then explore nodes next visited pending
    else if x ∈ nodes then
      explore nodes next (x :: visited) ((next x).filter (· ∉ x :: visited) ++ pending)
    else explore nodes next visited pending
termination_by pending => ((nodes.filter (· ∉ visited)).length, pending.length)
decreasing_by
  · exact Prod.Lex.right _ (Nat.lt_succ_self _)
  · rename_i hnew hknown
    refine Prod.Lex.left _ _ (length_filter_lt hknown (by simpa using hnew) (by simp) ?_)
    intro y hy
    simp only [mem_cons, not_or, decide_eq_true_eq] at hy ⊢
    exact hy.2
  · exact Prod.Lex.right _ (Nat.lt_succ_self _)

variable {nodes visited pending : List α} {next : α → List α} {x : α}

/-- One node leads to the other. -/
abbrev Leads (next : α → List α) (x y : α) : Prop := y ∈ next x

theorem visited_subset_explore : ∀ y ∈ visited, y ∈ explore nodes next visited pending := by
  fun_induction explore nodes next visited pending with
  | case1 visited => exact fun y hy => hy
  | case2 visited x pending _ ih => exact ih
  | case3 visited x pending _ _ ih => exact fun y hy => ih y (mem_cons_of_mem _ hy)
  | case4 visited x pending _ _ ih => exact ih

theorem reachable_of_mem_explore {y : α} (h : y ∈ explore nodes next visited pending) :
    y ∈ visited ∨ ∃ x ∈ pending, Relation.ReflTransGen (Leads next) x y := by
  fun_induction explore nodes next visited pending with
  | case1 visited => exact .inl h
  | case2 visited x pending _ ih =>
    rcases ih h with hy | ⟨z, hz, hpath⟩
    · exact .inl hy
    · exact .inr ⟨z, mem_cons_of_mem _ hz, hpath⟩
  | case3 visited x pending _ _ ih =>
    rcases ih h with hy | ⟨z, hz, hpath⟩
    · rcases mem_cons.1 hy with rfl | hy
      · exact .inr ⟨y, mem_cons_self .., .refl⟩
      · exact .inl hy
    · rcases mem_append.1 hz with hz | hz
      · have hstep : Leads next x z := (mem_filter.1 hz).1
        exact .inr ⟨x, mem_cons_self .., .head hstep hpath⟩
      · exact .inr ⟨z, mem_cons_of_mem _ hz, hpath⟩
  | case4 visited x pending _ _ ih =>
    rcases ih h with hy | ⟨z, hz, hpath⟩
    · exact .inl hy
    · exact .inr ⟨z, mem_cons_of_mem _ hz, hpath⟩

/-- **The search ends closed**: it has the pending nodes and the neighbours of what it has. -/
theorem explore_closed (hnext : ∀ x ∈ nodes, ∀ y ∈ next x, y ∈ nodes)
    (hpending : ∀ x ∈ pending, x ∈ nodes)
    (hopen : ∀ x ∈ visited, ∀ y ∈ next x, y ∈ visited ∨ y ∈ pending) :
    (∀ x ∈ pending, x ∈ explore nodes next visited pending) ∧
      ∀ x ∈ explore nodes next visited pending, ∀ y ∈ next x,
        y ∈ explore nodes next visited pending := by
  fun_induction explore nodes next visited pending with
  | case1 visited =>
    refine ⟨fun x hx => (not_mem_nil hx).elim, fun x hx y hy => ?_⟩
    rcases hopen x hx y hy with hv | hp
    · exact hv
    · cases hp
  | case2 visited x pending hseen ih =>
    have hrest := ih (fun y hy => hpending y (mem_cons_of_mem _ hy)) fun z hz y hy => by
      rcases hopen z hz y hy with hv | hp
      · exact .inl hv
      · rcases mem_cons.1 hp with rfl | hp
        · exact .inl hseen
        · exact .inr hp
    refine ⟨fun y hy => ?_, hrest.2⟩
    rcases mem_cons.1 hy with rfl | hy
    · exact visited_subset_explore y hseen
    · exact hrest.1 y hy
  | case3 visited x pending hnew hknown ih =>
    have hfound : ∀ y ∈ next x, y ∈ x :: visited ∨
        y ∈ (next x).filter (· ∉ x :: visited) ++ pending := by
      intro y hy
      by_cases hv : y ∈ x :: visited
      · exact .inl hv
      · exact .inr (mem_append.2 (.inl (mem_filter.2 ⟨hy, decide_eq_true hv⟩)))
    have hrest := ih
      (fun y hy => by
        rcases mem_append.1 hy with hy | hy
        · exact hnext x hknown y (mem_filter.1 hy).1
        · exact hpending y (mem_cons_of_mem _ hy))
      (fun z hz y hy => by
        rcases mem_cons.1 hz with rfl | hz
        · exact hfound y hy
        · rcases hopen z hz y hy with hv | hp
          · exact .inl (mem_cons_of_mem _ hv)
          · rcases mem_cons.1 hp with rfl | hp
            · exact .inl (mem_cons_self ..)
            · exact .inr (mem_append.2 (.inr hp)))
    refine ⟨fun y hy => ?_, hrest.2⟩
    rcases mem_cons.1 hy with rfl | hy
    · exact visited_subset_explore _ (mem_cons_self ..)
    · exact hrest.1 y (mem_append.2 (.inr hy))
  | case4 visited x pending _ hunknown ih =>
    exact absurd (hpending x (mem_cons_self ..)) hunknown

/-- **A search from one node visits what can be reached from it.** -/
theorem mem_explore_iff {start : α} (hnext : ∀ x ∈ nodes, ∀ y ∈ next x, y ∈ nodes)
    (hstart : start ∈ nodes) :
    x ∈ explore nodes next [] [start] ↔ Relation.ReflTransGen (Leads next) start x := by
  constructor
  · intro h
    rcases reachable_of_mem_explore h with hv | ⟨y, hy, hpath⟩
    · cases hv
    · rw [mem_singleton] at hy
      exact hy ▸ hpath
  · intro hpath
    have hpending : ∀ y ∈ [start], y ∈ nodes := by
      intro y hy
      rw [mem_singleton] at hy
      exact hy ▸ hstart
    have hvisited : ∀ z ∈ ([] : List α), ∀ y ∈ next z, y ∈ [] ∨ y ∈ [start] := by
      intro z hz
      cases hz
    have hclosed := explore_closed hnext hpending hvisited
    induction hpath with
    | refl => exact hclosed.1 start (mem_singleton_self _)
    | tail _ hstep ih => exact hclosed.2 _ ih _ hstep

end DirtyDataOlap

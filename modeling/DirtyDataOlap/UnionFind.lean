import Mathlib.Data.List.Perm.Subperm
import DirtyDataOlap.Dictionaries

/-!
# Union and find over parent pointers

A forest given by the parent of each node.  `find` walks to the root and makes each node it leaves
point to its grandparent; `unite` hangs one root under another.  **After any list of unions two
nodes have the same root exactly when the united pairs connect them** (`uniteAll_spec`), and the
walk ends within as many steps as there are nodes (`find_spec`).
-/
namespace DirtyDataOlap.UnionFind

open List Function

variable {α : Type}

/-- The node lies `n` steps below the root. -/
inductive RootAt (parent : α → α) : (n : Nat) → (x root : α) → Prop
  | root {x : α} : parent x = x → RootAt parent 0 x x
  | step {n : Nat} {x root : α} : parent x ≠ x → RootAt parent n (parent x) root →
      RootAt parent (n + 1) x root

/-- Every pointer leads to a root. -/
def Forest (parent : α → α) : Prop := ∀ x, ∃ n root, RootAt parent n x root

/-- The two nodes lie below one root. -/
def SameRoot (parent : α → α) (x y : α) : Prop :=
  ∃ n m root, RootAt parent n x root ∧ RootAt parent m y root

variable {parent : α → α} {n m : Nat} {x y root other : α}

theorem RootAt.isRoot (h : RootAt parent n x root) : parent root = root := by
  induction h with
  | root hx => exact hx
  | step _ _ ih => exact ih

theorem RootAt.unique (h : RootAt parent n x root) (h' : RootAt parent m x other) :
    n = m ∧ root = other := by
  induction h generalizing m with
  | root hx =>
    cases h' with
    | root => exact ⟨rfl, rfl⟩
    | step hne => exact absurd hx hne
  | step hne _ ih =>
    cases h' with
    | root hx => exact absurd hx hne
    | step _ hrest =>
      obtain ⟨rfl, rfl⟩ := ih hrest
      exact ⟨rfl, rfl⟩

/-- A pointer below the root is not answered by a pointer back. -/
theorem RootAt.grandparent_ne (h : RootAt parent n x root) (hx : parent x ≠ x) :
    parent (parent x) ≠ x := by
  intro hback
  cases h with
  | root hroot => exact hx hroot
  | step _ hrest =>
    cases hrest with
    | root hroot => exact hx (hroot.symm.trans hback)
    | @step k _ _ hne hrest' =>
      rw [hback] at hrest'
      have hdepth := (hrest'.unique (.step hx (.step hne (hback.symm ▸ hrest')))).1
      omega

variable {nodes : List α} {parent' : α → α} {link : α → α → Prop} {xs : List α}
  {groups : List (α × List α)} {left right : α}

section
variable (h : RootAt parent n x root) (hclosed : ∀ y ∈ nodes, parent y ∈ nodes) (hx : x ∈ nodes)
include h hclosed hx

theorem RootAt.chain : ∃ path : List α, path.length = n + 1 ∧ path.Nodup ∧ (∀ y ∈ path, y ∈ nodes) ∧
      ∀ y ∈ path, ∃ m ≤ n, RootAt parent m y root := by
  induction h with
  | @root x hroot =>
    refine ⟨[x], rfl, by simp, ?_, ?_⟩
    · intro y hy
      rw [mem_singleton] at hy
      exact hy ▸ hx
    · intro y hy
      rw [mem_singleton] at hy
      subst hy
      exact ⟨0, Nat.le_refl 0, .root hroot⟩
  | @step k x root hne hrest ih =>
    obtain ⟨path, hlength, hnodup, hnodes, hdepth⟩ := ih (hclosed x hx)
    refine ⟨x :: path, by rw [length_cons, hlength], ?_, ?_, ?_⟩
    · refine nodup_cons.2 ⟨fun hmem => ?_, hnodup⟩
      obtain ⟨m, hm, hroot⟩ := hdepth x hmem
      have heq := (hroot.unique (.step hne hrest)).1
      omega
    · exact forall_mem_cons.2 ⟨hx, hnodes⟩
    · refine forall_mem_cons.2 ⟨⟨k + 1, Nat.le_refl _, .step hne hrest⟩, fun y hy => ?_⟩
      obtain ⟨m, hm, hroot⟩ := hdepth y hy
      exact ⟨m, by omega, hroot⟩

/-- **No node lies as deep as there are nodes.** -/
theorem RootAt.lt_length : n < nodes.length := by
  obtain ⟨path, hlength, hnodup, hnodes, -⟩ := h.chain hclosed hx
  have hle := (subperm_of_subset hnodup hnodes).length_le
  omega

end

/-- The nodes whose pointers lead to a root without leaving them. -/
structure Rooted (nodes : List α) (parent : α → α) : Prop where
  forest : Forest parent
  within : ∀ x ∈ nodes, parent x ∈ nodes

/-- Every node has kept its root. -/
def KeepsRoots (parent parent' : α → α) : Prop :=
  ∀ n x root, RootAt parent n x root → ∃ m ≤ n, RootAt parent' m x root

theorem KeepsRoots.refl : KeepsRoots parent parent := fun n _ _ h => ⟨n, Nat.le_refl n, h⟩

theorem KeepsRoots.trans {a b c : α → α} (h : KeepsRoots a b) (h' : KeepsRoots b c) :
    KeepsRoots a c := by
  intro n x root hroot
  obtain ⟨m, hm, hroot⟩ := h n x root hroot
  obtain ⟨k, hk, hroot⟩ := h' m x root hroot
  exact ⟨k, by omega, hroot⟩

theorem KeepsRoots.forest (hforest : Forest parent) (h : KeepsRoots parent parent') :
    Forest parent' := by
  intro x
  obtain ⟨n, root, hroot⟩ := hforest x
  obtain ⟨m, -, hroot⟩ := h n x root hroot
  exact ⟨m, root, hroot⟩

theorem KeepsRoots.root_iff (hforest : Forest parent) (h : KeepsRoots parent parent') :
    (∃ n, RootAt parent' n x root) ↔ ∃ n, RootAt parent n x root := by
  constructor
  · rintro ⟨m, hroot⟩
    obtain ⟨n, r, hx⟩ := hforest x
    obtain ⟨k, -, hx'⟩ := h n x r hx
    rw [(hroot.unique hx').2]
    exact ⟨n, hx⟩
  · rintro ⟨n, hroot⟩
    obtain ⟨m, -, hroot⟩ := h n x root hroot
    exact ⟨m, hroot⟩

theorem rooted_id (nodes : List α) : Rooted nodes (id : α → α) :=
  ⟨fun x => ⟨0, x, .root rfl⟩, fun _ hx => hx⟩

variable [DecidableEq α]

/-- `parent[x] = parent[parent[x]]`. -/
def halve (parent : α → α) (x : α) : α → α := update parent x (parent (parent x))

theorem halve_self : halve parent x x = parent (parent x) := by
  rw [halve, update_self]

theorem halve_of_ne (h : y ≠ x) : halve parent x y = parent y := by
  rw [halve, update_of_ne h]

/-- **Halving a path brings nodes nearer to their root, which stays the same.** -/
theorem RootAt.halved (hforest : Forest parent) (hx : parent x ≠ x) (h : RootAt parent n y root) :
    ∃ m ≤ n, RootAt (halve parent x) m y root := by
  induction h with
  | @root y hroot =>
    refine ⟨0, Nat.le_refl 0, .root ?_⟩
    have hyx : y ≠ x := by
      rintro rfl
      exact hx hroot
    rw [halve_of_ne hyx, hroot]
  | @step k y root hne hrest ih =>
    obtain ⟨m, hm, hroot⟩ := ih
    by_cases hyx : y = x
    · subst hyx
      -- `x` now points past its parent, so the walk from the parent starts one step later.
      have hself : halve parent y (parent y) = parent (parent y) := halve_of_ne hne
      obtain ⟨j, r, hy⟩ := hforest y
      have hnew : halve parent y y ≠ y := by
        rw [halve_self]
        exact hy.grandparent_ne hne
      cases hroot with
      | root hfix =>
        rw [hself] at hfix
        refine ⟨1, by omega, .step hnew ?_⟩
        rw [halve_self, hfix]
        exact .root (hself.trans hfix)
      | @step i _ _ hne' hrest' =>
        rw [hself] at hrest'
        refine ⟨i + 1, by omega, .step hnew ?_⟩
        rw [halve_self]
        exact hrest'
    · refine ⟨m + 1, by omega, .step ?_ ?_⟩
      · rw [halve_of_ne hyx]
        exact hne
      · rw [halve_of_ne hyx]
        exact hroot

/-- The node reached by a halving step lies below the one left. -/
theorem RootAt.halve_next (hforest : Forest parent) (hx : parent x ≠ x)
    (h : RootAt parent (n + 1) x root) :
    ∃ m ≤ n, RootAt (halve parent x) m (halve parent x x) root := by
  obtain ⟨m, hm, hroot⟩ := h.halved hforest hx
  cases hroot with
  | root hfix =>
    rw [halve_self] at hfix
    exact absurd hfix (h.grandparent_ne hx)
  | @step i _ _ _ hrest => exact ⟨i, by omega, hrest⟩

/-- `find`, for fewer than `fuel` steps: the pointers it leaves behind, and the root. -/
def find (parent : α → α) : (fuel : Nat) → α → Option ((α → α) × α)
  | 0, _ => none
  | fuel + 1, x =>
    if parent x = x then some (parent, x) else find (halve parent x) fuel (halve parent x x)

theorem Rooted.halve (h : Rooted nodes parent) (hx : x ∈ nodes) (hne : parent x ≠ x) :
    Rooted nodes (UnionFind.halve parent x) ∧ KeepsRoots parent (UnionFind.halve parent x) := by
  have hkeeps : KeepsRoots parent (UnionFind.halve parent x) :=
    fun _ _ _ hroot => hroot.halved h.forest hne
  refine ⟨⟨hkeeps.forest h.forest, fun y hy => ?_⟩, hkeeps⟩
  by_cases hyx : y = x
  · subst hyx
    rw [halve_self]
    exact h.within _ (h.within _ hy)
  · rw [halve_of_ne hyx]
    exact h.within y hy

/-- **The walk ends at the root**, and only shortens the ways of other nodes. -/
theorem find_spec (hrooted : Rooted nodes parent) (hx : x ∈ nodes) (h : RootAt parent n x root)
    {fuel : Nat} (hfuel : n < fuel) :
    ∃ parent', find parent fuel x = some (parent', root) ∧ Rooted nodes parent' ∧
      KeepsRoots parent parent' := by
  induction fuel generalizing parent n x with
  | zero => omega
  | succ fuel ih =>
    rw [find]
    cases h with
    | root hroot =>
      rw [if_pos hroot]
      exact ⟨parent, rfl, hrooted, .refl⟩
    | @step k _ _ hne hrest =>
      rw [if_neg hne]
      obtain ⟨hrooted', hkeeps⟩ := hrooted.halve hx hne
      obtain ⟨m, hm, hnext⟩ := (RootAt.step hne hrest).halve_next hrooted.forest hne
      obtain ⟨parent', hfind, hend, hkeeps'⟩ := ih hrooted' (hrooted'.within x hx) hnext (by omega)
      exact ⟨parent', hfind, hend, hkeeps.trans hkeeps'⟩

theorem find_nodes (hrooted : Rooted nodes parent) (hx : x ∈ nodes) :
    ∃ parent' root n, find parent nodes.length x = some (parent', root) ∧ RootAt parent n x root ∧
      Rooted nodes parent' ∧ KeepsRoots parent parent' := by
  obtain ⟨n, root, hroot⟩ := hrooted.forest x
  have hlt := hroot.lt_length hrooted.within hx
  obtain ⟨parent', hfind, hrooted', hkeeps⟩ := find_spec hrooted hx hroot hlt
  exact ⟨parent', root, n, hfind, hroot, hrooted', hkeeps⟩

/-! ## Unite -/

/-- `union`: the root of the second node is hung under that of the first. -/
def unite (fuel : Nat) (parent : α → α) (edge : α × α) : Option (α → α) := do
  let (parent, leftRoot) ← find parent fuel edge.1
  let (parent, rightRoot) ← find parent fuel edge.2
  return if leftRoot = rightRoot then parent else update parent rightRoot leftRoot

def uniteAll (fuel : Nat) (parent : α → α) (edges : List (α × α)) : Option (α → α) :=
  edges.foldlM (unite fuel) parent

variable (parent link) in
/-- Two nodes have the same root exactly when the links connect them. -/
def Spans : Prop :=
  ∀ x y, SameRoot parent x y ↔ Relation.EqvGen link x y

omit [DecidableEq α] in
theorem Spans.keeps (h : Spans parent link) (hforest : Forest parent)
    (hkeeps : KeepsRoots parent parent') : Spans parent' link := by
  intro x y
  rw [← h x y]
  constructor
  · rintro ⟨n, m, root, hx, hy⟩
    obtain ⟨n', hx'⟩ := (hkeeps.root_iff hforest).1 ⟨n, hx⟩
    obtain ⟨m', hy'⟩ := (hkeeps.root_iff hforest).1 ⟨m, hy⟩
    exact ⟨n', m', root, hx', hy'⟩
  · rintro ⟨n, m, root, hx, hy⟩
    obtain ⟨n', -, hx'⟩ := hkeeps n x root hx
    obtain ⟨m', -, hy'⟩ := hkeeps m y root hy
    exact ⟨n', m', root, hx', hy'⟩

theorem RootAt.hang (hleft : parent left = left) (hright : parent right = right)
    (hne : left ≠ right) (h : RootAt parent n x root) :
    ∃ m, RootAt (update parent right left) m x (if root = right then left else root) := by
  have hkept : update parent right left left = left := by
    rw [update_of_ne hne, hleft]
  induction h with
  | @root x hroot =>
    by_cases hx : x = right
    · subst hx
      rw [if_pos rfl]
      refine ⟨1, .step ?_ ?_⟩
      · rw [update_self]
        exact hne
      · rw [update_self]
        exact .root hkept
    · rw [if_neg hx]
      exact ⟨0, .root (by rw [update_of_ne hx, hroot])⟩
  | @step k x root hstep _ ih =>
    obtain ⟨m, hm⟩ := ih
    have hx : x ≠ right := by
      rintro rfl
      exact hstep hright
    refine ⟨m + 1, .step ?_ ?_⟩
    · rw [update_of_ne hx]
      exact hstep
    · rw [update_of_ne hx]
      exact hm

/-- **Hanging one root under another joins the two classes and no others.** -/
theorem Spans.hang (hspans : Spans parent link) (hforest : Forest parent) {leftRoot rightRoot : α}
    (hleft : RootAt parent n left leftRoot) (hright : RootAt parent m right rightRoot)
    (hne : leftRoot ≠ rightRoot) : Forest (update parent rightRoot leftRoot) ∧
      Spans (update parent rightRoot leftRoot) (fun a b => link a b ∨ (a = left ∧ b = right)) := by
  have hhang : ∀ {k : Nat} {x root : α}, RootAt parent k x root →
      ∃ m, RootAt (update parent rightRoot leftRoot) m x
        (if root = rightRoot then leftRoot else root) :=
    fun h => h.hang hleft.isRoot hright.isRoot hne
  have hlinked : ∀ {x y : α}, SameRoot parent x y →
      Relation.EqvGen (fun a b => link a b ∨ (a = left ∧ b = right)) x y :=
    fun h => Relation.EqvGen.mono (fun _ _ => Or.inl) _ _ ((hspans _ _).1 h)
  have hjoined : Relation.EqvGen (fun a b => link a b ∨ (a = left ∧ b = right)) left right :=
    .rel _ _ (.inr ⟨rfl, rfl⟩)
  refine ⟨fun x => ?_, fun x y => ⟨?_, fun h => ?_⟩⟩
  · obtain ⟨k, root, hx⟩ := hforest x
    obtain ⟨i, hx'⟩ := hhang hx
    exact ⟨i, _, hx'⟩
  · rintro ⟨i, j, root, hx, hy⟩
    obtain ⟨k, a, hxa⟩ := hforest x
    obtain ⟨l, b, hyb⟩ := hforest y
    have ha := (hhang hxa).elim fun _ h => (hx.unique h).2
    have hb := (hhang hyb).elim fun _ h => (hy.unique h).2
    rw [ha] at hb
    by_cases hxr : a = rightRoot
    · by_cases hyr : b = rightRoot
      · exact hlinked ⟨k, l, rightRoot, hxr ▸ hxa, hyr ▸ hyb⟩
      · rw [if_pos hxr, if_neg hyr] at hb
        exact (hlinked ⟨k, m, rightRoot, hxr ▸ hxa, hright⟩).trans _ _ _
          (hjoined.symm.trans _ _ _ (hlinked ⟨n, l, leftRoot, hleft, hb ▸ hyb⟩))
    · by_cases hyr : b = rightRoot
      · rw [if_neg hxr, if_pos hyr] at hb
        exact (hlinked ⟨k, n, leftRoot, hb ▸ hxa, hleft⟩).trans _ _ _
          (hjoined.trans _ _ _ (hlinked ⟨m, l, rightRoot, hright, hyr ▸ hyb⟩))
      · rw [if_neg hxr, if_neg hyr] at hb
        exact hlinked ⟨k, l, b, hb ▸ hxa, hyb⟩
  · induction h with
    | rel a b hab =>
      rcases hab with hab | ⟨rfl, rfl⟩
      · obtain ⟨i, j, root, ha, hb⟩ := (hspans a b).2 (.rel _ _ hab)
        obtain ⟨i', ha'⟩ := hhang ha
        obtain ⟨j', hb'⟩ := hhang hb
        exact ⟨i', j', _, ha', hb'⟩
      · obtain ⟨i, ha⟩ := hhang hleft
        obtain ⟨j, hb⟩ := hhang hright
        rw [if_neg hne] at ha
        rw [if_pos rfl] at hb
        exact ⟨i, j, leftRoot, ha, hb⟩
    | refl a =>
      obtain ⟨k, root, ha⟩ := hforest a
      obtain ⟨i, ha'⟩ := hhang ha
      exact ⟨i, i, _, ha', ha'⟩
    | symm _ _ _ ih =>
      obtain ⟨i, j, root, ha, hb⟩ := ih
      exact ⟨j, i, root, hb, ha⟩
    | trans _ _ _ _ _ ih ih' =>
      obtain ⟨i, j, root, ha, hb⟩ := ih
      obtain ⟨i', j', root', hb', hc⟩ := ih'
      rw [(hb'.unique hb).2] at hc
      exact ⟨i, j', root, ha, hc⟩

/-- **One union**: it ends, and the pair is linked besides what was. -/
theorem unite_spec (hrooted : Rooted nodes parent) (hspans : Spans parent link)
    (hleft : left ∈ nodes) (hright : right ∈ nodes) :
    ∃ parent', unite nodes.length parent (left, right) = some parent' ∧ Rooted nodes parent' ∧
      Spans parent' (fun a b => link a b ∨ (a = left ∧ b = right)) := by
  obtain ⟨p, leftRoot, n, hfind, hl, hp, hkeeps⟩ := find_nodes hrooted hleft
  obtain ⟨q, rightRoot, m, hfind', hr, hq, hkeeps'⟩ := find_nodes hp hright
  have hspans' := (hspans.keeps hrooted.forest hkeeps).keeps hp.forest hkeeps'
  obtain ⟨n', -, hl'⟩ := hkeeps _ _ _ hl
  obtain ⟨i, -, hl''⟩ := hkeeps' _ _ _ hl'
  obtain ⟨j, -, hr'⟩ := hkeeps' _ _ _ hr
  by_cases hsame : leftRoot = rightRoot
  · refine ⟨q, by simp [unite, hfind, hfind', hsame], hq, fun x y => ?_⟩
    rw [hspans' x y]
    constructor
    · exact Relation.EqvGen.mono (fun _ _ => Or.inl) x y
    · intro h
      induction h with
      | rel a b hab =>
        rcases hab with hab | ⟨rfl, rfl⟩
        · exact .rel _ _ hab
        · exact (hspans' a b).1 ⟨i, j, rightRoot, hsame ▸ hl'', hr'⟩
      | refl a => exact .refl a
      | symm _ _ _ ih => exact .symm _ _ ih
      | trans _ _ _ _ _ ih ih' => exact .trans _ _ _ ih ih'
  · obtain ⟨hforest, hlinks⟩ := hspans'.hang hq.forest hl'' hr' hsame
    refine ⟨update q rightRoot leftRoot, by simp [unite, hfind, hfind', hsame], ⟨hforest, ?_⟩,
      hlinks⟩
    have hmem : ∀ {k : Nat} {x root : α}, RootAt q k x root → x ∈ nodes → root ∈ nodes := by
      intro k x root h hx
      induction h with
      | root => exact hx
      | step _ _ ih => exact ih (hq.within _ hx)
    intro x hx
    by_cases hxr : x = rightRoot
    · subst hxr
      rw [update_self]
      exact hmem hl'' hleft
    · rw [update_of_ne hxr]
      exact hq.within x hx

theorem uniteAll_extends (hrooted : Rooted nodes parent) (hspans : Spans parent link)
    {edges : List (α × α)} (hedges : ∀ e ∈ edges, e.1 ∈ nodes ∧ e.2 ∈ nodes) :
    ∃ parent', uniteAll nodes.length parent edges = some parent' ∧ Rooted nodes parent' ∧
      Spans parent' (fun a b => link a b ∨ (a, b) ∈ edges) := by
  induction edges generalizing parent link with
  | nil => exact ⟨parent, rfl, hrooted, by simpa using hspans⟩
  | cons edge edges ih =>
    rw [forall_mem_cons] at hedges
    obtain ⟨p, hunite, hp, hlinks⟩ := unite_spec hrooted hspans hedges.1.1 hedges.1.2
    obtain ⟨q, hrest, hq, hall⟩ := ih hp hlinks hedges.2
    refine ⟨q, ?_, hq, ?_⟩
    · rw [uniteAll, foldlM_cons, hunite]
      exact hrest
    · simpa only [mem_cons, Prod.ext_iff, or_assoc] using hall

/-- **Any list of unions** ends with the classes that its pairs connect. -/
theorem uniteAll_spec {edges : List (α × α)} (hedges : ∀ e ∈ edges, e.1 ∈ nodes ∧ e.2 ∈ nodes) :
    ∃ parent, uniteAll nodes.length id edges = some parent ∧ Rooted nodes parent ∧
      Spans parent (fun a b => (a, b) ∈ edges) := by
  have hspans : Spans (id : α → α) (fun _ _ => False) := by
    intro x y
    constructor
    · rintro ⟨n, m, root, hx, hy⟩
      cases hx with
      | root => cases hy with
        | root => exact .refl _
        | step hne => exact absurd rfl hne
      | step hne => exact absurd rfl hne
    · intro h
      induction h with
      | rel _ _ h => exact h.elim
      | refl a => exact ⟨0, 0, a, .root rfl, .root rfl⟩
      | symm _ _ _ ih =>
        obtain ⟨i, j, root, ha, hb⟩ := ih
        exact ⟨j, i, root, hb, ha⟩
      | trans _ _ _ _ _ ih ih' =>
        obtain ⟨i, j, root, ha, hb⟩ := ih
        obtain ⟨i', j', root', hb', hc⟩ := ih'
        rw [(hb'.unique hb).2] at hc
        exact ⟨i, j', root, ha, hc⟩
  simpa using uniteAll_extends (rooted_id nodes) hspans hedges

/-! ## Classes -/

/-- `memberships.setdefault(find(x), set()).add(x)`, for each of the nodes. -/
def classes (fuel : Nat) : (parent : α → α) → List α → (groups : List (α × List α)) →
    Option (List (α × List α))
  | _, [], groups => some groups
  | parent, x :: xs, groups => do
    let (parent, root) ← find parent fuel x
    classes fuel parent xs (setItem groups root ((getItem groups root).getD [] ++ [x]))

/-- The groups are the classes of the nodes, each under its root. -/
structure Grouped (parent : α → α) (xs : List α) (groups : List (α × List α)) : Prop where
  roots : (groups.map Prod.fst).Nodup
  nodup : ∀ root members, getItem groups root = some members → members.Nodup
  mem : ∀ root members, getItem groups root = some members →
    ∀ x, x ∈ members ↔ x ∈ xs ∧ ∃ n, RootAt parent n x root
  covers : ∀ x ∈ xs, ∀ n root, RootAt parent n x root → (getItem groups root).isSome = true

/-- What the group of a root holds, where there is none nothing. -/
theorem Grouped.members (h : Grouped parent xs groups) (root y : α) :
    y ∈ (getItem groups root).getD [] ↔ y ∈ xs ∧ ∃ n, RootAt parent n y root := by
  cases hget : getItem groups root with
  | some members => exact h.mem root members hget y
  | none =>
    refine ⟨fun hy => absurd hy not_mem_nil, ?_⟩
    rintro ⟨hy, n, hroot⟩
    have hsome := h.covers y hy n root hroot
    rw [hget] at hsome
    cases hsome

theorem Grouped.add (h : Grouped parent xs groups) (hx : RootAt parent n x root) (hnew : x ∉ xs) :
    Grouped parent (xs ++ [x]) (setItem groups root ((getItem groups root).getD [] ++ [x])) where
  roots := nodup_keys_setItem h.roots
  nodup := by
    intro r members hget
    rw [getItem_setItem] at hget
    split at hget
    · cases hget
      refine nodup_append'.2 ⟨?_, by simp, ?_⟩
      · cases hold : getItem groups root with
        | some members => exact h.nodup _ _ hold
        | none => exact nodup_nil
      · rintro y hy hyx
        rw [mem_singleton] at hyx
        subst hyx
        exact hnew ((h.members root _).1 hy).1
    · exact h.nodup r members hget
  mem := by
    intro r members hget y
    rw [getItem_setItem] at hget
    split at hget
    · rename_i hr
      subst hr
      cases hget
      rw [mem_append, mem_append, mem_singleton, h.members r y]
      constructor
      · rintro (⟨hy, hroot⟩ | rfl)
        · exact ⟨.inl hy, hroot⟩
        · exact ⟨.inr rfl, n, hx⟩
      · rintro ⟨hy | rfl, hroot⟩
        · exact .inl ⟨hy, hroot⟩
        · exact .inr rfl
    · rename_i hr
      rw [h.mem r members hget y, mem_append, mem_singleton]
      constructor
      · rintro ⟨hy, hroot⟩
        exact ⟨.inl hy, hroot⟩
      · rintro ⟨hy | rfl, k, hroot⟩
        · exact ⟨hy, k, hroot⟩
        · exact absurd (hroot.unique hx).2 hr
  covers := by
    intro y hy k r hroot
    rw [getItem_setItem]
    split
    · rfl
    · rename_i hr
      rcases mem_append.1 hy with hy | hy
      · exact h.covers y hy k r hroot
      · rw [mem_singleton] at hy
        subst hy
        exact absurd (hroot.unique hx).2 hr

theorem Grouped.keeps (h : Grouped parent xs groups) (hforest : Forest parent)
    (hkeeps : KeepsRoots parent parent') : Grouped parent' xs groups where
  roots := h.roots
  nodup := h.nodup
  mem := by
    intro root members hget x
    rw [h.mem root members hget x, hkeeps.root_iff hforest]
  covers := by
    intro x hx n root hroot
    obtain ⟨m, hroot'⟩ := (hkeeps.root_iff hforest).1 ⟨n, hroot⟩
    exact h.covers x hx m root hroot'

theorem classes_extends {done : List α} (hrooted : Rooted nodes parent)
    (hgroups : Grouped parent done groups) (hnodup : (done ++ xs).Nodup) (hxs : ∀ x ∈ xs, x ∈ nodes) :
    ∃ groups' parent', classes nodes.length parent xs groups = some groups' ∧
      Grouped parent' (done ++ xs) groups' ∧ KeepsRoots parent parent' := by
  induction xs generalizing parent done groups with
  | nil => exact ⟨groups, parent, rfl, by simpa using hgroups, .refl⟩
  | cons x xs ih =>
    rw [forall_mem_cons] at hxs
    obtain ⟨p, root, n, hfind, hroot, hp, hkeeps⟩ := find_nodes hrooted hxs.1
    have hnew : x ∉ done := fun hx =>
      (disjoint_of_nodup_append hnodup) hx (mem_cons_self ..)
    obtain ⟨m, -, hroot'⟩ := hkeeps n x root hroot
    have hadded := (hgroups.keeps hrooted.forest hkeeps).add hroot' hnew
    obtain ⟨groups', q, hrest, hq, hkeeps'⟩ := ih hp hadded (by simpa using hnodup) hxs.2
    refine ⟨groups', q, ?_, by simpa using hq, hkeeps.trans hkeeps'⟩
    rw [classes, hfind]
    exact hrest

/-- **The groups found are the classes of the nodes.** -/
theorem classes_spec (hrooted : Rooted nodes parent) (hnodup : nodes.Nodup) :
    ∃ groups, classes nodes.length parent nodes [] = some groups ∧ Grouped parent nodes groups := by
  have hstart : Grouped parent [] ([] : List (α × List α)) :=
    ⟨nodup_nil, nofun, nofun, nofun⟩
  obtain ⟨groups, p, hclasses, hgroups, hkeeps⟩ :=
    classes_extends hrooted hstart (by simpa using hnodup) (fun x hx => hx)
  refine ⟨groups, hclasses, hgroups.roots, hgroups.nodup, fun root members hget x => ?_,
    fun x hx n root hroot => ?_⟩
  · rw [hgroups.mem root members hget x, hkeeps.root_iff hrooted.forest]
    rfl
  · obtain ⟨m, -, hroot'⟩ := hkeeps n x root hroot
    exact hgroups.covers x hx m root hroot'

end DirtyDataOlap.UnionFind

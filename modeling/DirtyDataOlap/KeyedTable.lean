import Mathlib.Data.List.Nodup

/-!
# Tables with a primary key, and tables that only grow

A `Table key` is a list of rows no two of which share a key, read with `find?` and written with
`insert?` and `update`: the key constraint never has to be proved again.

`Grows ρ l l'`: every row of `l` is still there, in its place, as a row related to it by `ρ`, and
new rows come after them.  Lookups are monotone along it (`Grows.find?`).
-/
namespace DirtyDataOlap

open List

/-- Rows with pairwise distinct keys. -/
structure Table {ρ κ : Type} (key : ρ → κ) where
  rows : List ρ
  nodup : (rows.map key).Nodup

namespace Table
variable {ρ κ : Type} {key : ρ → κ}

/-- The table with no rows. -/
def empty : Table key := ⟨[], nodup_nil⟩

/-- Rewrite the rows that satisfy `p`, by a function that keeps the key. -/
def update (t : Table key) (p : ρ → Bool) (f : ρ → ρ) (hf : ∀ r, key (f r) = key r) :
    Table key where
  rows := t.rows.map fun r => if p r then f r else r
  nodup := by
    have h : (key ∘ fun r => if p r then f r else r) = key := by
      funext r
      by_cases hp : p r <;> simp [hp, hf]
    rw [map_map, h]
    exact t.nodup

variable [DecidableEq κ]

/-- The row with key `k`. -/
def find? (t : Table key) (k : κ) : Option ρ := t.rows.find? fun r => key r = k

/-- Add a row at the end, unless its key is taken. -/
def insert? (t : Table key) (r : ρ) : Option (Table key) :=
  if h : (t.find? (key r)).isNone then
    some
      { rows := t.rows ++ [r]
        nodup := by
          rw [map_append, nodup_append]
          refine ⟨t.nodup, nodup_singleton _, ?_⟩
          intro a ha b hb he
          obtain ⟨old, hold, rfl⟩ := mem_map.mp ha
          rw [map_singleton, mem_singleton] at hb
          have hnone := find?_eq_none.mp (Option.isNone_iff_eq_none.mp h) old hold
          exact hnone (by simp [he, hb]) }
  else none

variable {t : Table key} {r : ρ} {t' : Table key}

theorem find?_key {k : κ} (h : t.find? k = some r) : key r = k := by
  simpa using find?_some h

theorem mem_of_find? {k : κ} (h : t.find? k = some r) : r ∈ t.rows :=
  mem_of_find?_eq_some h

/-- **A row is found under its own key**, since no other row has it. -/
theorem find?_of_mem (h : r ∈ t.rows) : t.find? (key r) = some r := by
  obtain ⟨rows, hnd⟩ := t
  change r ∈ rows at h
  change rows.find? (fun a => key a = key r) = some r
  induction rows with
  | nil => cases h
  | cons a rows ih =>
    rw [map_cons, nodup_cons] at hnd
    rcases mem_cons.mp h with rfl | h
    · simp
    · have hne : ¬ key a = key r := fun he => hnd.1 (mem_map.mpr ⟨r, h, he.symm⟩)
      rw [find?_cons_of_neg (by simpa using hne)]
      exact ih hnd.2 h

theorem find?_update (t : Table key) (p : ρ → Bool) (f : ρ → ρ) (hf : ∀ r, key (f r) = key r)
    (k : κ) : (t.update p f hf).find? k = (t.find? k).map fun r => if p r then f r else r := by
  unfold find? update
  rw [find?_map]
  congr 2
  funext r
  by_cases hp : p r <;> simp [hp, hf]

theorem insert?_rows (h : t.insert? r = some t') : t'.rows = t.rows ++ [r] := by
  unfold insert? at h
  split at h
  · cases h; rfl
  · cases h

theorem find?_insert? (h : t.insert? r = some t') (k : κ) :
    t'.find? k = (t.find? k).or (if key r = k then some r else none) := by
  unfold find?
  rw [insert?_rows h, find?_append]
  by_cases hk : key r = k <;> simp [hk]

theorem insert?_fresh (h : t.insert? r = some t') : t.find? (key r) = none := by
  unfold insert? at h
  split at h
  · rename_i hn; exact Option.isNone_iff_eq_none.mp hn
  · cases h

theorem exists_insert? (h : t.find? (key r) = none) : ∃ t', t.insert? r = some t' := by
  unfold insert?
  rw [dif_pos (Option.isNone_iff_eq_none.mpr h)]
  exact ⟨_, rfl⟩

end Table

/-- `l'` starts with a row for every row of `l`, related to it by `ρ`. -/
inductive Grows {α : Type} (ρ : α → α → Prop) : List α → List α → Prop
  | nil (l : List α) : Grows ρ [] l
  | cons {a b : α} {l l' : List α} : ρ a b → Grows ρ l l' → Grows ρ (a :: l) (b :: l')

namespace Grows
variable {α : Type} {ρ σ : α → α → Prop}

theorem refl (h : ∀ a, ρ a a) : ∀ l : List α, Grows ρ l l
  | [] => .nil []
  | a :: l => .cons (h a) (refl h l)

theorem trans (h : ∀ a b c, ρ a b → ρ b c → ρ a c) {l1 l2 l3 : List α}
    (h1 : Grows ρ l1 l2) (h2 : Grows ρ l2 l3) : Grows ρ l1 l3 := by
  induction h1 generalizing l3 with
  | nil l => exact .nil l3
  | cons hab _ ih =>
    cases h2 with
    | cons hbc h2 => exact .cons (h _ _ _ hab hbc) (ih h2)

variable {l l' : List α}

theorem map {f : α → α} (h : ∀ a ∈ l, ρ a (f a)) : Grows ρ l (l.map f) := by
  induction l with
  | nil => exact .nil []
  | cons a l ih =>
    exact .cons (h a (mem_cons_self ..)) (ih fun b hb => h b (mem_cons_of_mem _ hb))

theorem append (h : ∀ a, ρ a a) (l new : List α) : Grows ρ l (l ++ new) := by
  induction l with
  | nil => exact .nil new
  | cons a l ih => exact .cons (h a) ih

/-- **Lookups are monotone**: a test that related rows agree on finds the row that the old one
became. -/
theorem find? {p : α → Bool} (hp : ∀ a b, ρ a b → p b = p a) (hg : Grows ρ l l') {a : α}
    (ha : l.find? p = some a) : ∃ b, l'.find? p = some b ∧ ρ a b := by
  induction hg with
  | nil => cases ha
  | @cons x y l l' hxy _ ih =>
    by_cases hx : p x = true
    · rw [find?_cons_of_pos hx] at ha
      cases ha
      exact ⟨y, find?_cons_of_pos (by rw [hp _ _ hxy, hx]), hxy⟩
    · rw [find?_cons_of_neg hx] at ha
      rw [find?_cons_of_neg (by rw [hp _ _ hxy]; exact hx)]
      exact ih ha

end Grows

namespace Table
variable {ρ κ : Type} {key : ρ → κ}

variable {R : ρ → ρ → Prop}

theorem grows_update (t : Table key) (p : ρ → Bool) (f : ρ → ρ) (hf : ∀ r, key (f r) = key r)
    (hrefl : ∀ r, R r r) (h : ∀ r ∈ t.rows, p r = true → R r (f r)) :
    Grows R t.rows (t.update p f hf).rows := by
  refine Grows.map fun r hr => ?_
  by_cases hp : p r = true
  · simpa [hp] using h r hr hp
  · simpa [hp] using hrefl r

variable [DecidableEq κ]

theorem grows_insert? {t t' : Table key} {r : ρ} (hrefl : ∀ r, R r r) (h : t.insert? r = some t') :
    Grows R t.rows t'.rows := by
  rw [insert?_rows h]
  exact Grows.append hrefl _ _

theorem find?_grows (hkey : ∀ a b, R a b → key b = key a) {t t' : Table key}
    (hg : Grows R t.rows t'.rows) {k : κ} {r : ρ} (h : t.find? k = some r) :
    ∃ r', t'.find? k = some r' ∧ R r r' :=
  Grows.find? (fun a b hab => by rw [hkey a b hab]) hg h

end Table
end DirtyDataOlap

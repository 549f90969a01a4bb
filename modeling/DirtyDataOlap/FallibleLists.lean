import Mathlib.Data.List.Forall2
import Mathlib.Data.Set.Basic

/-!
# Loops that can raise

A loop over a list whose body may raise is a monadic map, filter or traversal in `Except`. It
returns exactly when its body returns at every element, and then its result is the plain map or
filter.
-/
namespace DirtyDataOlap

open List

variable {ε α β : Type}

variable {xs : List α} {f : α → Except ε β} {ys : List β} {x : Except ε α} {R : α → β → Prop}
  {a : α} {e : ε} {σ : Type} {s : σ} {γ : Type}

theorem bind_eq_ok {b : β} : x >>= f = .ok b ↔ ∃ a, x = .ok a ∧ f a = .ok b := by
  cases x <;> simp [bind, Except.bind]

theorem exists_bind_ok : (∃ b, x >>= f = .ok b) ↔ ∃ a, x = .ok a ∧ ∃ b, f a = .ok b := by
  simp only [bind_eq_ok]
  exact ⟨fun ⟨b, a, hx, hf⟩ => ⟨a, hx, b, hf⟩, fun ⟨a, hx, b, hf⟩ => ⟨b, a, hx, hf⟩⟩

theorem exists_ok_of_isSome (h : x.toOption.isSome = true) : ∃ a, x = .ok a := by
  cases x with
  | error e => simp [Except.toOption] at h
  | ok a => exact ⟨a, rfl⟩

theorem exists_ok_of_isOk (h : x.isOk = true) : ∃ a, x = .ok a := by
  cases x with
  | ok a => exact ⟨a, rfl⟩
  | error e => cases h

theorem toOption_eq_some : x.toOption = some a ↔ x = .ok a := by
  cases x <;> simp [Except.toOption]

theorem exists_ok_of_map {f : α → β} {b : β} (h : x.toOption.map f = some b) :
    ∃ a, x = .ok a ∧ f a = b := by
  cases x with
  | error e => simp [Except.toOption] at h
  | ok a => exact ⟨a, rfl, by simpa [Except.toOption] using h⟩

theorem mapM_eq_ok : xs.mapM f = .ok ys ↔ Forall₂ (fun x y => f x = .ok y) xs ys := by
  induction xs generalizing ys with
  | nil =>
    rw [mapM_nil, forall₂_nil_left_iff, eq_comm]
    simp [pure, Except.pure]
  | cons x xs ih =>
    rw [mapM_cons, bind_eq_ok, forall₂_cons_left_iff]
    simp only [bind_eq_ok, ih, pure, Except.pure, Except.ok.injEq]
    constructor
    · rintro ⟨y, hy, ys', hys, rfl⟩
      exact ⟨y, ys', hy, hys, rfl⟩
    · rintro ⟨y, ys', hy, hys, rfl⟩
      exact ⟨y, hy, ys', hys, rfl⟩

theorem mapM_ok {g : α → β} (h : ∀ x ∈ xs, f x = .ok (g x)) : xs.mapM f = .ok (xs.map g) := by
  rw [mapM_eq_ok, forall₂_map_right_iff, forall₂_same]
  exact h

theorem exists_mapM_eq_ok : (∃ ys, xs.mapM f = .ok ys) ↔ ∀ x ∈ xs, ∃ y, f x = .ok y := by
  induction xs with
  | nil => exact ⟨fun _ x hx => absurd hx not_mem_nil, fun _ => ⟨[], rfl⟩⟩
  | cons x xs ih =>
    simp only [mapM_cons, bind_eq_ok, forall_mem_cons, ← ih]
    constructor
    · rintro ⟨_, y, hy, ys, hys, -⟩
      exact ⟨⟨y, hy⟩, ys, hys⟩
    · rintro ⟨⟨y, hy⟩, ys, hys⟩
      exact ⟨y :: ys, y, hy, ys, hys, rfl⟩

/-- A loop that collects errors finds none exactly when its body finds none at every element. -/
theorem mapM_flatten_eq_nil {f : α → Except ε (List β)} :
    (∃ ys, xs.mapM f = .ok ys ∧ ys.flatten = []) ↔ ∀ x ∈ xs, f x = .ok [] := by
  induction xs with
  | nil => exact ⟨fun _ x hx => absurd hx not_mem_nil, fun _ => ⟨[], rfl, rfl⟩⟩
  | cons x xs ih =>
    simp only [mapM_cons, bind_eq_ok, forall_mem_cons, ← ih]
    constructor
    · rintro ⟨_, ⟨y, hy, ys, hys, he⟩, hnil⟩
      cases he
      rw [flatten_cons, append_eq_nil_iff] at hnil
      exact ⟨hnil.1 ▸ hy, ys, hys, hnil.2⟩
    · rintro ⟨hx, ys, hys, hnil⟩
      exact ⟨[] :: ys, ⟨[], hx, ys, hys, rfl⟩, by simpa using hnil⟩

theorem mapM_eq_error (h : xs.mapM f = .error e) : ∃ x ∈ xs, f x = .error e := by
  induction xs with
  | nil => simp [pure, Except.pure] at h
  | cons x xs ih =>
    rw [mapM_cons] at h
    cases hx : f x with
    | error e' =>
      rw [hx] at h
      simp only [bind, Except.bind, Except.error.injEq] at h
      exact ⟨x, by simp, by rw [hx, h]⟩
    | ok y =>
      cases hxs : xs.mapM f with
      | error e' =>
        rw [hx, hxs] at h
        simp only [bind, Except.bind, Except.error.injEq] at h
        obtain ⟨z, hz, hfz⟩ := ih (by rw [hxs, h])
        exact ⟨z, by simp [hz], hfz⟩
      | ok ys =>
        rw [hx, hxs] at h
        simp [bind, Except.bind, pure, Except.pure] at h

theorem mapM_eq_ok_iff {P : α → Prop} {g : α → β} (h : ∀ x y, f x = .ok y ↔ P x ∧ y = g x) :
    xs.mapM f = .ok ys ↔ (∀ x ∈ xs, P x) ∧ ys = xs.map g := by
  constructor
  · intro hxs
    rw [mapM_eq_ok] at hxs
    induction hxs with
    | nil => simp
    | cons hxy _ ih =>
      obtain ⟨hP, rfl⟩ := (h _ _).1 hxy
      exact ⟨by simpa using ⟨hP, ih.1⟩, by rw [ih.2, map_cons]⟩
  · rintro ⟨hP, rfl⟩
    exact mapM_ok fun x hx => (h x _).2 ⟨hP x hx, rfl⟩

theorem mapM_check_eq_ok {f : α → Except ε α} {P : α → Prop} (h : ∀ x y, f x = .ok y ↔ P x ∧ y = x)
    {ys : List α} : xs.mapM f = .ok ys ↔ (∀ x ∈ xs, P x) ∧ ys = xs := by
  rw [mapM_eq_ok_iff (g := id) h, map_id]

theorem filterM_ok {p : α → Except ε Bool} {q : α → Bool} (h : ∀ x ∈ xs, p x = .ok (q x)) :
    xs.filterM p = .ok (xs.filter q) := by
  suffices ∀ acc, List.filterAuxM p xs acc = .ok ((xs.filter q).reverse ++ acc) by
    simp [filterM, this, bind, Except.bind, pure, Except.pure]
  induction xs with
  | nil => intro acc; rfl
  | cons x xs ih =>
    intro acc
    have hx := h x (by simp)
    have hrest := ih fun y hy => h y (by simp [hy])
    simp only [List.filterAuxM, hx, bind, Except.bind]
    rw [hrest, filter_cons]
    cases q x <;> simp

theorem forM_eq_ok {f : α → Except ε Unit} : xs.forM f = .ok () ↔ ∀ x ∈ xs, f x = .ok () := by
  induction xs with
  | nil => simp [List.forM, pure, Except.pure]
  | cons x xs ih =>
    change (f x >>= fun _ => xs.forM f) = .ok () ↔ _
    rw [bind_eq_ok]
    constructor
    · rintro ⟨_, hx, hxs⟩ y hy
      rcases mem_cons.1 hy with rfl | hy
      · exact hx
      · exact (ih.1 hxs) y hy
    · intro h
      exact ⟨(), h x (by simp), ih.2 fun y hy => h y (by simp [hy])⟩

/-- **Loop invariant.** What every round keeps, with the elements done so far, holds at the end. -/
theorem foldlM_invariant {f : σ → α → Except ε σ} {P : List α → σ → Prop}
    (step : ∀ done s x s', P done s → f s x = .ok s' → P (done ++ [x]) s') {done : List α} {s' : σ}
    (h0 : P done s) (h : xs.foldlM f s = .ok s') : P (done ++ xs) s' := by
  induction xs generalizing done s with
  | nil =>
    cases h
    simpa using h0
  | cons x xs ih =>
    rw [foldlM_cons] at h
    obtain ⟨middle, hmiddle, h⟩ := bind_eq_ok.1 h
    have hrest := ih (step done s x middle h0 hmiddle) h
    simpa using hrest

section
variable (h : Forall₂ R xs ys)
include h

theorem exists_right_of_forall₂ {x : α} (hx : x ∈ xs) : ∃ y ∈ ys, R x y := by
  induction h with
  | nil => simp at hx
  | cons hxy _ ih =>
    rcases mem_cons.1 hx with rfl | hx
    · exact ⟨_, by simp, hxy⟩
    · obtain ⟨y, hy, hR⟩ := ih hx
      exact ⟨y, by simp [hy], hR⟩

theorem exists_left_of_forall₂ {y : β} (hy : y ∈ ys) : ∃ x ∈ xs, R x y :=
  exists_right_of_forall₂ (R := fun y x => R x y) (Forall₂.flip h) hy

theorem pairwise_of_forall₂ {P : α → α → Prop} {Q : β → β → Prop}
    (hP : xs.Pairwise P) (hPQ : ∀ a b c d, R a c → R b d → P a b → Q c d) : ys.Pairwise Q := by
  induction h with
  | nil => exact List.Pairwise.nil
  | cons hhead hrest ih =>
    obtain ⟨hfirst, htail⟩ := pairwise_cons.1 hP
    refine pairwise_cons.2 ⟨fun y hy => ?_, ih htail⟩
    obtain ⟨x, hx, hR⟩ := exists_left_of_forall₂ hrest hy
    exact hPQ _ _ _ _ hhead hR (hfirst x hx)

theorem map_eq_of_forall₂ (f : α → γ) (g : β → γ) (hfg : ∀ x y, R x y → g y = f x) :
    ys.map g = xs.map f := by
  induction h with
  | nil => rfl
  | cons hxy _ ih => rw [map_cons, map_cons, ih, hfg _ _ hxy]

end

/-- Two lists that correspond to a third correspond to each other. -/
theorem forall₂_of_common {S : α → γ → Prop} {zs : List γ} (hR : Forall₂ R xs ys)
    (hS : Forall₂ S xs zs) : Forall₂ (fun y z => ∃ x ∈ xs, R x y ∧ S x z) ys zs := by
  induction hR generalizing zs with
  | nil =>
    cases hS
    exact .nil
  | @cons x y xs ys hxy _ ih =>
    cases hS with
    | cons hxz hrest =>
      refine .cons ⟨x, by simp, hxy, hxz⟩ ((ih hrest).imp ?_)
      rintro y z ⟨x, hx, hboth⟩
      exact ⟨x, by simp [hx], hboth⟩

theorem flatMap_perm_of_forall₂ (h : Forall₂ R xs ys) (f : α → List γ) (g : β → List γ)
    (hfg : ∀ x y, R x y → (f x).Perm (g y)) : (xs.flatMap f).Perm (ys.flatMap g) := by
  induction h with
  | nil => exact .refl _
  | cons hxy _ ih =>
    rw [flatMap_cons, flatMap_cons]
    exact (hfg _ _ hxy).append ih

theorem eq_of_map_eq {f : α → β} {xs ys : List α} (hinj : ∀ x ∈ xs, ∀ y ∈ ys, f x = f y → x = y)
    (h : xs.map f = ys.map f) : xs = ys := by
  induction xs generalizing ys with
  | nil => exact (map_eq_nil_iff.1 h.symm).symm
  | cons x xs ih =>
    cases ys with
    | nil => cases h
    | cons y ys =>
      obtain ⟨hhead, htail⟩ := List.cons.inj h
      rw [hinj x mem_cons_self y mem_cons_self hhead,
        ih (fun a ha b hb => hinj a (mem_cons_of_mem _ ha) b (mem_cons_of_mem _ hb)) htail]

end DirtyDataOlap

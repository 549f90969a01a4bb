import DirtyDataOlap.FallibleLists

/-!
# Two runs side by side

A computation that can raise is run on two inputs. The runs are paired when both raise, with errors
that one relation relates, or both return, with values that another relates. Sequences and loops of
paired steps are paired.
-/
namespace DirtyDataOlap

variable {ε α α' β β' σ σ' : Type} {E : ε → ε → Prop}

/-- Both runs raise, or both return. -/
def Paired (E : ε → ε → Prop) (R : α → β → Prop) : Except ε α → Except ε β → Prop
  | .ok a, .ok b => R a b
  | .error e, .error e' => E e e'
  | _, _ => False

variable {R : α → β → Prop} {S : α' → β' → Prop} {x : Except ε α} {y : Except ε β}

@[simp] theorem paired_error {e e' : ε} :
    Paired E R (.error e : Except ε α) (.error e' : Except ε β) ↔ E e e' := Iff.rfl

theorem Paired.ok_left (h : Paired E R x y) {a : α} (hx : x = .ok a) : ∃ b, y = .ok b ∧ R a b := by
  subst hx
  cases y with
  | ok b => exact ⟨b, rfl, h⟩
  | error e => exact absurd h id

theorem Paired.ok_right (h : Paired E R x y) {b : β} (hy : y = .ok b) : ∃ a, x = .ok a ∧ R a b := by
  subst hy
  cases x with
  | ok a => exact ⟨a, rfl, h⟩
  | error e => exact absurd h id

theorem paired_refl {x : Except ε α} (hE : ∀ e, E e e) : Paired E (· = ·) x x := by
  cases x with
  | ok a => rfl
  | error e => exact hE e

theorem paired_of_eq {x y : Except ε α} (hE : ∀ e, E e e) (h : x = y) : Paired E (· = ·) x y :=
  h ▸ paired_refl hE

theorem Paired.bind {f : α → Except ε α'} {g : β → Except ε β'} (h : Paired E R x y)
    (hfg : ∀ a b, x = .ok a → y = .ok b → R a b → Paired E S (f a) (g b)) :
    Paired E S (x >>= f) (y >>= g) := by
  cases x with
  | ok a =>
    cases y with
    | ok b => exact hfg a b rfl rfl h
    | error e => exact absurd h id
  | error e =>
    cases y with
    | ok b => exact absurd h id
    | error e' => exact h

variable {xs : List α} {ys : List β}

theorem paired_mapM {f : α → Except ε α'} {g : β → Except ε β'}
    (h : List.Forall₂ (fun a b => Paired E S (f a) (g b)) xs ys) :
    Paired E (List.Forall₂ S) (xs.mapM f) (ys.mapM g) := by
  induction h with
  | nil => exact .nil
  | cons hhead _ ih =>
    rw [List.mapM_cons, List.mapM_cons]
    refine hhead.bind fun a b _ _ hab => ih.bind fun as bs _ _ habs => ?_
    exact .cons hab habs

theorem paired_threaded {P : σ → σ' → Prop} {f : σ → α → Except ε (σ × α')}
    {g : σ' → β → Except ε (σ' × β')} {loop : List α → σ → Except ε (σ × List α')}
    {loop' : List β → σ' → Except ε (σ' × List β')} (hnil : ∀ s, loop [] s = .ok (s, []))
    (hcons : ∀ x xs s, loop (x :: xs) s =
      f s x >>= fun r => loop xs r.1 >>= fun rest => .ok (rest.1, r.2 :: rest.2))
    (hnil' : ∀ s, loop' [] s = .ok (s, [])) (hcons' : ∀ x xs s, loop' (x :: xs) s =
      g s x >>= fun r => loop' xs r.1 >>= fun rest => .ok (rest.1, r.2 :: rest.2))
    (h : List.Forall₂ (fun a b => ∀ s t, P s t →
      Paired E (fun r r' => P r.1 r'.1 ∧ S r.2 r'.2) (f s a) (g t b)) xs ys) {s : σ} {t : σ'}
    (hst : P s t) :
    Paired E (fun r r' => P r.1 r'.1 ∧ List.Forall₂ S r.2 r'.2) (loop xs s) (loop' ys t) := by
  induction h generalizing s t with
  | nil =>
    rw [hnil, hnil']
    exact ⟨hst, .nil⟩
  | cons hhead _ ih =>
    rw [hcons, hcons']
    refine (hhead s t hst).bind fun r r' _ _ hr => (ih hr.1).bind fun q q' _ _ hq => ?_
    exact ⟨hq.1, .cons hr.2 hq.2⟩

end DirtyDataOlap

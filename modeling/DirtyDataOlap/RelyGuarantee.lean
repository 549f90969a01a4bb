import DirtyDataOlap.Resumption

/-!
# Rely and guarantee

A `Contract` says what a program may **rely** on between two of its actions, what it may **assume**
of the moment at which it acts, what it must **guarantee**, what it **ends** with, and an invariant.
`Contract.wp C i l p Q c`: program `p`, run as thread `i` with label `l` from configuration `c`,
keeps its guarantee at every action, and `Q` holds at the end; proving it is executing the program
symbolically (`wp_bind`, `wp_call`, `wp_tryCatch`, `wp_mono`).

`Contract.Compatible`, that the guarantee of one thread implies the rely of every other, makes the
rule sound: **a pool whose threads all satisfy `wp` stays so under every action of every thread**
(`Pool.Verified.advance`, `Pool.Verified.kill`).
-/
namespace DirtyDataOlap

variable {A : Type} {R : A → Type} {E S Λ α β I : Type}

/-- What the threads of a pool promise one another. -/
structure Contract {A : Type} (R : A → Type) (E S Λ α : Type) where
  /-- Holds of every configuration. -/
  inv : Config R E S → Prop
  /-- What thread `i` with label `l` may see change between two of its actions. -/
  rely : Nat → Λ → Config R E S → Config R E S → Prop
  /-- What thread `i` with label `l` may assume of the configuration it acts in, once
  it has acted. -/
  assume : Nat → Λ → Config R E S → Prop
  /-- What thread `i` with label `l` promises of an action: performed in this
  configuration, with this reply, leading to this state. -/
  guar : Nat → Λ → Config R E S → (a : A) → Except E (R a) → S → Prop
  /-- What holds from when thread `i` with label `l` has finished with a result. -/
  post : Nat → Λ → Except E α → Config R E S → Prop

namespace Contract
variable {γ : Type} (C : Contract R E S Λ γ) (exec : (a : A) → I → S → Except E (R a) × S)

/-- Program `p` keeps its guarantee at every action, and ends in `Q`. -/
def wp (i : Nat) (l : Λ) : Prog R E α → (Except E α → Config R E S → Prop) → Config R E S → Prop
  | .done r, Q, c => Q r c
  | .act a k, Q, c => ∀ c', C.rely i l c c' → C.inv c' → ∀ ω r s,
      exec a ω c'.state = (r, s) → C.guar i l c' a r s ∧
        (C.assume i l c' → C.inv (c'.log i a r s) → wp i l (k r) Q (c'.log i a r s))

variable {C exec} {i : Nat} {l : Λ}

variable {c : Config R E S} {Q : Except E α → Config R E S → Prop} {p : Prog R E α}

theorem wp_mono {Q' : Except E α → Config R E S → Prop} (h : C.wp exec i l p Q c)
    (hQ : ∀ r c', Q r c' → Q' r c') : C.wp exec i l p Q' c := by
  induction p generalizing c with
  | done r => exact hQ r c h
  | act a k ih =>
    intro c' hc' hi ω r s he
    obtain ⟨hg, hk⟩ := h c' hc' hi ω r s he
    exact ⟨hg, fun ha hi' => ih r (hk ha hi')⟩

/-- **Sequencing**: what the first program ends in is where the second starts. -/
theorem wp_bind {f : α → Prog R E β} {Q : Except E β → Config R E S → Prop}
    (h : C.wp exec i l p (fun r c' => match r with
      | .ok a => C.wp exec i l (f a) Q c'
      | .error e => Q (.error e) c') c) : C.wp exec i l (p.bind f) Q c := by
  induction p generalizing c with
  | done r =>
    cases r with
    | ok a => exact h
    | error e => exact h
  | act a k ih =>
    intro c' hc' hi ω r s he
    obtain ⟨hg, hk⟩ := h c' hc' hi ω r s he
    exact ⟨hg, fun ha hi' => ih r (hk ha hi')⟩

/-- **Exceptions**: the handler starts where the body stopped. -/
theorem wp_tryCatch {f : E → Prog R E α} (h : C.wp exec i l p (fun r c' => match r with
      | .ok a => Q (.ok a) c'
      | .error e => C.wp exec i l (f e) Q c') c) : C.wp exec i l (p.tryCatch f) Q c := by
  induction p generalizing c with
  | done r =>
    cases r with
    | ok a => exact h
    | error e => exact h
  | act a k ih =>
    intro c' hc' hi ω r s he
    obtain ⟨hg, hk⟩ := h c' hc' hi ω r s he
    exact ⟨hg, fun ha hi' => ih r (hk ha hi')⟩

/-- **One action.** -/
theorem wp_call {a : A} {Q : Except E (R a) → Config R E S → Prop}
    (h : ∀ c', C.rely i l c c' → C.inv c' → ∀ ω r s, exec a ω c'.state = (r, s) →
      C.guar i l c' a r s ∧ (C.assume i l c' → C.inv (c'.log i a r s) → Q r (c'.log i a r s))) :
    C.wp exec i l (.call a) Q c := h

/-- What a thread waits with is still good after the others have moved. -/
theorem wp_rely_act (htrans : ∀ {c1 c2 c3}, C.rely i l c1 c2 → C.rely i l c2 c3 → C.rely i l c1 c3)
    {a : A} {k : Except E (R a) → Prog R E α} {c' : Config R E S} (h : C.wp exec i l (.act a k) Q c)
    (hr : C.rely i l c c') : C.wp exec i l (.act a k) Q c' :=
  fun c'' hc'' => h c'' (htrans hr hc'')

variable (C) in
/-- **The side condition**: relies are preorders, guarantees keep the invariant
and what finished threads ended with, and the guarantee of one thread implies the
rely of every other compatible one. -/
structure Compatible (exec : (a : A) → I → S → Except E (R a) × S) (compat : Λ → Λ → Prop) :
    Prop where
  refl : ∀ i l c, C.rely i l c c
  trans : ∀ i l {c1 c2 c3}, C.rely i l c1 c2 → C.rely i l c2 c3 → C.rely i l c1 c3
  inv : ∀ {i l c a ω r s}, C.inv c → exec a ω c.state = (r, s) → C.guar i l c a r s →
    C.inv (c.log i a r s)
  rely : ∀ {i j l m c a ω r s}, i ≠ j → compat l m → C.inv c →
    exec a ω c.state = (r, s) → C.guar i l c a r s → C.rely j m c (c.log i a r s)
  post : ∀ {i j l m v c a ω r s}, i ≠ j → C.inv c → exec a ω c.state = (r, s) →
    C.guar i l c a r s → C.post j m v c → C.post j m v (c.log i a r s)

end Contract

namespace Pool
variable {C : Contract R E S Λ α} {exec : (a : A) → I → S → Except E (R a) × S}
variable {compat : Λ → Λ → Prop}

/-- The labels of any two programs that can still act are compatible. -/
def LabelsCompatible (compat : Λ → Λ → Prop) (p : Pool R E S Λ α) : Prop :=
  ∀ (i j : Nat) (t u : Thread R E Λ α), i ≠ j → p.threads[i]? = some t →
    p.threads[j]? = some u → t.live = true → u.live = true → compat t.label u.label

variable (C exec) in
/-- The invariant holds and every program keeps its guarantee from here on. -/
structure Verified (p : Pool R E S Λ α) : Prop where
  inv : C.inv p.config
  threads : ∀ i t, p.threads[i]? = some t → ∀ q, t.prog = some q →
    C.wp exec i t.label q (C.post i t.label) p.config

variable {p : Pool R E S Λ α}

section
variable (hv : Verified C exec p)
include hv

theorem Verified.guar (hc : C.Compatible exec compat) {i : Nat} {l : Λ}
    {a : A} {k : Except E (R a) → Prog R E α} (hth : p.threads[i]? = some ⟨l, some (.act a k)⟩)
    {ω : I} {r : Except E (R a)} {s : S} (he : exec a ω p.config.state = (r, s)) :
    C.guar i l p.config a r s :=
  (hv.threads i _ hth _ rfl p.config (hc.refl i l _) hv.inv ω r s he).1

/-- **Verified pools stay verified under every action of every thread.** -/
theorem Verified.advance (hc : C.Compatible exec compat)
    (hl : LabelsCompatible compat p) (i : Nat) (ω : I)
    (ha : ∀ t, p.threads[i]? = some t → C.assume i t.label p.config) :
    Verified C exec (p.advance exec i ω) := by
  rcases p.advance_cases exec i ω with h | ⟨l, a, k, r, s, hth, he, h⟩
  · rw [h]; exact hv
  rw [h]
  obtain ⟨hg, hk⟩ := hv.threads i _ hth _ rfl p.config (hc.refl i l _) hv.inv ω r s he
  have hinv : C.inv (p.config.log i a r s) := hc.inv hv.inv he hg
  refine ⟨hinv, fun j t ht q hq => ?_⟩
  rcases Pool.set_cases ht with ⟨rfl, rfl⟩ | ⟨hij, ht⟩
  · cases hq
    exact hk (ha _ hth) hinv
  have hw := hv.threads j t ht q hq
  -- only a program that can still act relies on anything
  cases q with
  | done v => exact hc.post hij hv.inv he hg hw
  | act a' k' =>
    have hr := hc.rely hij (hl i j _ t hij hth ht rfl (Thread.live_iff.mpr ⟨a', k', hq⟩))
      hv.inv he hg
    exact C.wp_rely_act (fun h1 h2 => hc.trans j t.label h1 h2) hw hr

theorem Verified.kill (i : Nat) : Verified C exec (p.kill i) := by
  rcases p.kill_cases i with h | ⟨t', hth, h⟩
  · rw [h]; exact hv
  rw [h]
  refine ⟨hv.inv, fun j t ht q hq => ?_⟩
  rcases Pool.set_cases ht with ⟨rfl, rfl⟩ | ⟨_, ht⟩
  · cases hq
  · exact hv.threads j t ht q hq

/-- A change of the configuration from outside that every thread relies on keeps
a pool verified. -/
theorem Verified.outside (hc : C.Compatible exec compat) {c : Config R E S} (hinv : C.inv c)
    (hr : ∀ i t, p.threads[i]? = some t → t.live = true → C.rely i t.label p.config c)
    (hp : ∀ i t v, p.threads[i]? = some t → C.post i t.label v p.config → C.post i t.label v c) :
    Verified C exec { p with config := c } := by
  refine ⟨hinv, fun j t ht q hq => ?_⟩
  have hw := hv.threads j t ht q hq
  cases q with
  | done v => exact hp j t v ht hw
  | act a k =>
    exact C.wp_rely_act (fun h1 h2 => hc.trans j t.label h1 h2) hw
      (hr j t ht (Thread.live_iff.mpr ⟨a, k, hq⟩))

theorem Verified.spawn {l : Λ} {q : Prog R E α}
    (hq : C.wp exec p.threads.length l q (C.post p.threads.length l) p.config) :
    Verified C exec (p.spawn l q) := by
  refine ⟨hv.inv, fun j t ht q' hq' => ?_⟩
  simp only [Pool.spawn] at ht
  rcases Nat.lt_trichotomy j p.threads.length with hlt | rfl | hgt
  · rw [List.getElem?_append_left hlt] at ht
    exact hv.threads j t ht q' hq'
  · rw [List.getElem?_concat_length] at ht
    cases ht
    cases hq'
    exact hq
  · rw [List.getElem?_eq_none (by simp; omega)] at ht
    cases ht

end

theorem LabelsCompatible.advance (hl : LabelsCompatible compat p) (i : Nat) (ω : I) :
    LabelsCompatible compat (p.advance exec i ω) := by
  rcases p.advance_cases exec i ω with h | ⟨l, a, k, r, s, hth, he, h⟩
  · rw [h]; exact hl
  rw [h]
  -- every program of the new pool was live under the same label before
  have back : ∀ (j : Nat) (t : Thread R E Λ α), (p.threads.set i ⟨l, some (k r)⟩)[j]? = some t →
      t.live = true → ∃ t' : Thread R E Λ α, p.threads[j]? = some t' ∧ t'.live = true ∧
        t'.label = t.label := by
    intro j t ht htl
    rcases Pool.set_cases ht with ⟨rfl, rfl⟩ | ⟨_, ht⟩
    · exact ⟨_, hth, rfl, rfl⟩
    · exact ⟨t, ht, htl, rfl⟩
  intro j j' t u hne ht hu htl hul
  obtain ⟨t', ht', htl', hte⟩ := back j t ht htl
  obtain ⟨u', hu', hul', hue⟩ := back j' u hu hul
  rw [← hte, ← hue]
  exact hl j j' t' u' hne ht' hu' htl' hul'

end Pool
end DirtyDataOlap

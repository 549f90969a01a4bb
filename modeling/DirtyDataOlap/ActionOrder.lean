import DirtyDataOlap.Resumption

/-!
# What a program does right after what

`Prog.Orderly ok likely prev p`: every action of `p` is `ok` after the action before it and its
reply, as far as the reply is `likely`.  It is proved along the program, without a state;
`Pool.Orderly` is what it says of every interleaving, where each thread may go by rules of its own
(`Pool.Orderly.next`).
-/
namespace DirtyDataOlap

open Config List

variable {A : Type} {R : A → Type} {E S Λ α β I : Type}

/-- An action with its reply. -/
abbrev Answered {A : Type} (R : A → Type) (E : Type) := Σ a : A, Except E (R a)

namespace Prog

/-- Every action is `ok` after the one before it. -/
def Orderly (ok : Option (Answered R E) → A → Prop) (likely : Answered R E → Prop) :
    Option (Answered R E) → Prog R E α → Prop
  | _, done _ => True
  | prev, act a k => ok prev a ∧ ∀ r, likely ⟨a, r⟩ → Orderly ok likely (some ⟨a, r⟩) (k r)

variable {ok : Option (Answered R E) → A → Prop} {likely : Answered R E → Prop}

/-- What may come first may come after anything. -/
def Permissive (ok : Option (Answered R E) → A → Prop) : Prop :=
  ∀ prev a, ok none a → ok prev a

variable {p : Prog R E α} {prev : Option (Answered R E)}

theorem Orderly.after (hok : Permissive ok) (h : p.Orderly ok likely none)
    (prev : Option (Answered R E)) : p.Orderly ok likely prev := by
  cases p with
  | done r => trivial
  | act a k => exact ⟨hok prev a h.1, h.2⟩

theorem orderly_bind (hok : Permissive ok) {f : α → Prog R E β} (hp : p.Orderly ok likely prev)
    (hf : ∀ a, (f a).Orderly ok likely none) : (p.bind f).Orderly ok likely prev := by
  induction p generalizing prev with
  | done r =>
    cases r with
    | ok a => exact (hf a).after hok prev
    | error e => trivial
  | act a k ih => exact ⟨hp.1, fun r hr => ih r (hp.2 r hr)⟩

theorem orderly_tryCatch (hok : Permissive ok) {f : E → Prog R E α} (hp : p.Orderly ok likely prev)
    (hf : ∀ e, (f e).Orderly ok likely none) : (p.tryCatch f).Orderly ok likely prev := by
  induction p generalizing prev with
  | done r =>
    cases r with
    | ok a => trivial
    | error e => exact (hf e).after hok prev
  | act a k ih => exact ⟨hp.1, fun r hr => ih r (hp.2 r hr)⟩

theorem orderly_call {a : A} (h : ok prev a) :
    (Prog.call a : Prog R E (R a)).Orderly ok likely prev :=
  ⟨h, fun _ _ => trivial⟩

end Prog

/-- The last thing thread `i` did. -/
def Config.last (c : Config R E S) (i : Nat) : Option (Answered R E) :=
  (c.trace.find? fun e => e.tid = i).map fun e => ⟨e.act, e.reply⟩

theorem Config.last_log_self (c : Config R E S) (i : Nat) (a : A) (r : Except E (R a)) (s : S) :
    (c.log i a r s).last i = some ⟨a, r⟩ := by
  simp [last, log]

theorem Config.last_log_ne (c : Config R E S) {i j : Nat} (hij : i ≠ j) (a : A)
    (r : Except E (R a)) (s : S) : (c.log i a r s).last j = c.last j := by
  simp [last, log, hij]

/-- The last thing a thread did is in the trace. -/
theorem Config.last_mem {c : Config R E S} {i : Nat} {b : Answered R E} (h : c.last i = some b) :
    ∃ s, (⟨i, b.1, b.2, s⟩ : Entry R E S) ∈ c.trace := by
  obtain ⟨⟨j, a, r, s⟩, hfind, rfl⟩ := Option.map_eq_some_iff.mp h
  have hj : j = i := by simpa using find?_some hfind
  exact ⟨s, hj ▸ mem_of_find?_eq_some hfind⟩

namespace Pool
variable {likely : Answered R E → Prop} {exec : (a : A) → I → S → Except E (R a) × S}

def Orderly (admits : S → Λ → (Option (Answered R E) → A → Prop) → Prop)
    (likely : Answered R E → Prop) (p : Pool R E S Λ α) : Prop :=
  ∀ (i : Nat) (t : Thread R E Λ α) (q : Prog R E α), p.threads[i]? = some t → t.prog = some q →
    ∃ ok, admits p.config.state t.label ok ∧ q.Orderly ok likely (p.config.last i)

variable {admits : S → Λ → (Option (Answered R E) → A → Prop) → Prop}

variable {p : Pool R E S Λ α} {l : Λ}

section
variable (h : p.Orderly admits likely)
include h

/-- **The next action of a thread is allowed after its last.** -/
theorem Orderly.next {i : Nat} {a : A}
    {k : Except E (R a) → Prog R E α} (hth : p.threads[i]? = some ⟨l, some (.act a k)⟩) :
    ∃ ok, admits p.config.state l ok ∧ ok (p.config.last i) a := by
  obtain ⟨ok, hadm, hq⟩ := h i _ _ hth rfl
  exact ⟨ok, hadm, hq.1⟩

theorem Orderly.advance {i : Nat} {ω : I}
    (hlikely : ∀ l a k r s, p.threads[i]? = some ⟨l, some (.act a k)⟩ →
      exec a ω p.config.state = (r, s) → likely ⟨a, r⟩)
    (hadmits : ∀ l ok, admits p.config.state l ok → admits (p.advance exec i ω).config.state l ok) :
    (p.advance exec i ω).Orderly admits likely := by
  rcases p.advance_cases exec i ω with heq | ⟨l, a, k, r, s, hth, he, heq⟩
  · rwa [heq]
  rw [heq] at hadmits ⊢
  intro j t q ht hq
  rcases Pool.set_cases ht with ⟨rfl, rfl⟩ | ⟨hij, ht⟩
  · cases hq
    obtain ⟨ok, hadm, hord⟩ := h i _ _ hth rfl
    refine ⟨ok, hadmits _ _ hadm, ?_⟩
    rw [last_log_self]
    exact hord.2 r (hlikely l a k r s hth he)
  · obtain ⟨ok, hadm, hord⟩ := h j t q ht hq
    refine ⟨ok, hadmits _ _ hadm, ?_⟩
    rw [last_log_ne _ hij]
    exact hord

theorem Orderly.kill (i : Nat) : (p.kill i).Orderly admits likely := by
  rcases p.kill_cases i with heq | ⟨t', hth, heq⟩
  · rwa [heq]
  rw [heq]
  intro j t q ht hq
  rcases Pool.set_cases ht with ⟨rfl, rfl⟩ | ⟨_, ht⟩
  · cases hq
  · exact h j t q ht hq

theorem Orderly.outside {s : S} (hadmits : ∀ l ok, admits p.config.state l ok → admits s l ok) :
    Orderly admits likely { p with config := { p.config with state := s } } := by
  intro j t q ht hq
  obtain ⟨ok, hadm, hord⟩ := h j t q ht hq
  exact ⟨ok, hadmits _ _ hadm, hord⟩

theorem Orderly.spawn {q : Prog R E α} (hq : ∃ ok, admits p.config.state l ok ∧
      q.Orderly ok likely (p.config.last p.threads.length)) :
    (p.spawn l q).Orderly admits likely := by
  intro j t q' ht hq'
  change (p.threads ++ [⟨l, some q⟩])[j]? = some t at ht
  rcases Nat.lt_trichotomy j p.threads.length with hlt | rfl | hgt
  · rw [getElem?_append_left hlt] at ht
    exact h j t q' ht hq'
  · rw [getElem?_concat_length] at ht
    cases ht
    cases hq'
    exact hq
  · rw [getElem?_eq_none (by simp; omega)] at ht
    cases ht

/-- A new thread joins, with whatever it did before at the head of the trace. -/
theorem Orderly.join {a : A} {r : Except E (R a)} {s : S}
    {q : Prog R E α} (hadmits : ∀ l ok, admits p.config.state l ok → admits s l ok)
    (hq : ∃ ok, admits s l ok ∧ q.Orderly ok likely (some ⟨a, r⟩)) : Orderly admits likely
      (Pool.spawn { p with config := p.config.log p.threads.length a r s } l q) := by
  intro j t q' ht hq'
  change (p.threads ++ [⟨l, some q⟩])[j]? = some t at ht
  change ∃ ok, admits s t.label ok ∧
    q'.Orderly ok likely ((p.config.log p.threads.length a r s).last j)
  rcases Nat.lt_trichotomy j p.threads.length with hlt | rfl | hgt
  · rw [getElem?_append_left hlt] at ht
    obtain ⟨ok, hadm, hord⟩ := h j t q' ht hq'
    refine ⟨ok, hadmits _ _ hadm, ?_⟩
    rw [last_log_ne _ (Nat.ne_of_gt hlt)]
    exact hord
  · rw [getElem?_concat_length] at ht
    cases ht
    cases hq'
    rw [last_log_self]
    exact hq
  · rw [getElem?_eq_none (by simp; omega)] at ht
    cases ht

end

end Pool
end DirtyDataOlap

import DirtyDataOlap.Resumption

/-!
# Executions without interference, whole and crashed

`Prog.Runs` is what one program does when nobody else acts; `Prog.Stops` is the same for a program
that crashes after some of its actions.  **A whole execution is a crashed one that had nothing left
to do.**  Both follow the program: sequencing and handling of exceptions are equations.
-/
namespace DirtyDataOlap.Prog

variable {A : Type} {R : A → Type} {E S I α β : Type}

section
variable (exec : (a : A) → I → S → Except E (R a) × S)

/-- From state `s` the program ends with `r` in state `s'`. -/
def Runs : Prog R E α → S → Except E α → S → Prop
  | done v, s, r, s' => r = v ∧ s' = s
  | act a k, s, r, s' => ∃ ω, (k (exec a ω s).1).Runs (exec a ω s).2 r s'

/-- From state `s` the program stops in state `s'`, after some of its actions. -/
def Stops : Prog R E α → S → S → Prop
  | done _, s, s' => s' = s
  | act a k, s, s' => s' = s ∨ ∃ ω, (k (exec a ω s).1).Stops (exec a ω s).2 s'

/-- The execution in which the world outside always gives the same answer. -/
def run (ω : I) : Prog R E α → S → Except E α × S
  | done v, s => (v, s)
  | act a k, s => (k (exec a ω s).1).run ω (exec a ω s).2

/-- The state after the first `n` actions of that execution. -/
def stopAfter (ω : I) : Nat → Prog R E α → S → S
  | 0, _, s => s
  | _ + 1, done _, s => s
  | n + 1, act a k, s => stopAfter ω n (k (exec a ω s).1) (exec a ω s).2

end

variable {exec : (a : A) → I → S → Except E (R a) × S}

theorem runs_run (ω : I) (p : Prog R E α) (s : S) :
    p.Runs exec s (p.run exec ω s).1 (p.run exec ω s).2 := by
  induction p generalizing s with
  | done v => exact ⟨rfl, rfl⟩
  | act a k ih => exact ⟨ω, ih _ _⟩

theorem run_bind (ω : I) (p : Prog R E α) (f : α → Prog R E β) (s : S) :
    (p.bind f).run exec ω s = match p.run exec ω s with
      | (.ok a, s') => (f a).run exec ω s'
      | (.error e, s') => (.error e, s') := by
  induction p generalizing s with
  | done v => cases v <;> rfl
  | act a k ih => exact ih _ _

variable {s s' : S} {r : Except E α} {p : Prog R E α}

@[simp] theorem runs_done {v : Except E α} :
    (done v : Prog R E α).Runs exec s r s' ↔ r = v ∧ s' = s := Iff.rfl

/-- **Sequencing**: the second program goes on where the first one ended. -/
theorem runs_bind {f : α → Prog R E β} {r : Except E β} : (p.bind f).Runs exec s r s' ↔
      (∃ a s1, p.Runs exec s (.ok a) s1 ∧ (f a).Runs exec s1 r s') ∨
        ∃ e, p.Runs exec s (.error e) s' ∧ r = .error e := by
  induction p generalizing s with
  | done v =>
    cases v with
    | ok a =>
      constructor
      · intro h
        exact .inl ⟨a, s, ⟨rfl, rfl⟩, h⟩
      · rintro (⟨_, _, ⟨⟨⟩, rfl⟩, h⟩ | ⟨_, ⟨⟨⟩, _⟩, _⟩)
        exact h
    | error e =>
      constructor
      · rintro ⟨rfl, rfl⟩
        exact .inr ⟨e, ⟨rfl, rfl⟩, rfl⟩
      · rintro (⟨_, _, ⟨⟨⟩, _⟩, _⟩ | ⟨_, ⟨⟨⟩, rfl⟩, rfl⟩)
        exact ⟨rfl, rfl⟩
  | act a k ih =>
    constructor
    · rintro ⟨ω, h⟩
      rcases (ih _).1 h with ⟨b, s1, h1, h2⟩ | ⟨e, h1, rfl⟩
      · exact .inl ⟨b, s1, ⟨ω, h1⟩, h2⟩
      · exact .inr ⟨e, ⟨ω, h1⟩, rfl⟩
    · rintro (⟨b, s1, ⟨ω, h1⟩, h2⟩ | ⟨e, ⟨ω, h1⟩, rfl⟩)
      · exact ⟨ω, (ih _).2 (.inl ⟨b, s1, h1, h2⟩)⟩
      · exact ⟨ω, (ih _).2 (.inr ⟨e, h1, rfl⟩)⟩

/-- **Exceptions**: the handler goes on where the body raised. -/
theorem runs_tryCatch {f : E → Prog R E α} : (p.tryCatch f).Runs exec s r s' ↔
      (∃ a, p.Runs exec s (.ok a) s' ∧ r = .ok a) ∨
        ∃ e s1, p.Runs exec s (.error e) s1 ∧ (f e).Runs exec s1 r s' := by
  induction p generalizing s with
  | done v =>
    cases v with
    | ok a =>
      constructor
      · rintro ⟨rfl, rfl⟩
        exact .inl ⟨a, ⟨rfl, rfl⟩, rfl⟩
      · rintro (⟨_, ⟨⟨⟩, rfl⟩, rfl⟩ | ⟨_, _, ⟨⟨⟩, _⟩, _⟩)
        exact ⟨rfl, rfl⟩
    | error e =>
      constructor
      · intro h
        exact .inr ⟨e, s, ⟨rfl, rfl⟩, h⟩
      · rintro (⟨_, ⟨⟨⟩, _⟩, _⟩ | ⟨_, _, ⟨⟨⟩, rfl⟩, h⟩)
        exact h
  | act a k ih =>
    constructor
    · rintro ⟨ω, h⟩
      rcases (ih _).1 h with ⟨b, h1, rfl⟩ | ⟨e, s1, h1, h2⟩
      · exact .inl ⟨b, ⟨ω, h1⟩, rfl⟩
      · exact .inr ⟨e, s1, ⟨ω, h1⟩, h2⟩
    · rintro (⟨b, ⟨ω, h1⟩, rfl⟩ | ⟨e, s1, ⟨ω, h1⟩, h2⟩)
      · exact ⟨ω, (ih _).2 (.inl ⟨b, h1, rfl⟩)⟩
      · exact ⟨ω, (ih _).2 (.inr ⟨e, s1, h1, h2⟩)⟩

theorem run_tryCatch (ω : I) (p : Prog R E α) (f : E → Prog R E α) (s : S) :
    (p.tryCatch f).run exec ω s = match p.run exec ω s with
      | (.ok a, s') => (.ok a, s')
      | (.error e, s') => (f e).run exec ω s' := by
  induction p generalizing s with
  | done v => cases v <;> rfl
  | act a k ih => exact ih _ _

/-! ## Crashes -/

theorem stops_refl (p : Prog R E α) (s : S) : p.Stops exec s s := by
  cases p with
  | done v => exact rfl
  | act a k => exact .inl rfl

theorem stops_stopAfter (ω : I) (n : Nat) (p : Prog R E α) (s : S) :
    p.Stops exec s (p.stopAfter exec ω n s) := by
  induction n generalizing p s with
  | zero => exact stops_refl p s
  | succ n ih =>
    cases p with
    | done v => exact rfl
    | act a k => exact .inr ⟨ω, ih _ _⟩

theorem Runs.stops (h : p.Runs exec s r s') : p.Stops exec s s' := by
  induction p generalizing s with
  | done v => exact h.2
  | act a k ih =>
    obtain ⟨ω, h⟩ := h
    exact .inr ⟨ω, ih _ h⟩

/-- **Sequencing**: the crash comes in the first program, or in the second once the first has
ended. -/
theorem stops_bind {f : α → Prog R E β} : (p.bind f).Stops exec s s' ↔
      p.Stops exec s s' ∨ ∃ a s1, p.Runs exec s (.ok a) s1 ∧ (f a).Stops exec s1 s' := by
  induction p generalizing s with
  | done v =>
    cases v with
    | ok a =>
      constructor
      · intro h
        exact .inr ⟨a, s, ⟨rfl, rfl⟩, h⟩
      · rintro (rfl | ⟨_, _, ⟨⟨⟩, rfl⟩, h⟩)
        · exact stops_refl _ _
        · exact h
    | error e =>
      constructor
      · intro h
        exact .inl h
      · rintro (h | ⟨_, _, ⟨⟨⟩, _⟩, _⟩)
        exact h
  | act a k ih =>
    constructor
    · rintro (rfl | ⟨ω, h⟩)
      · exact .inl (.inl rfl)
      · rcases (ih _).mp h with h | ⟨b, s1, h1, h2⟩
        · exact .inl (.inr ⟨ω, h⟩)
        · exact .inr ⟨b, s1, ⟨ω, h1⟩, h2⟩
    · rintro ((rfl | ⟨ω, h⟩) | ⟨b, s1, ⟨ω, h1⟩, h2⟩)
      · exact .inl rfl
      · exact .inr ⟨ω, (ih _).mpr (.inl h)⟩
      · exact .inr ⟨ω, (ih _).mpr (.inr ⟨b, s1, h1, h2⟩)⟩

theorem stops_tryCatch {f : E → Prog R E α} : (p.tryCatch f).Stops exec s s' ↔
      p.Stops exec s s' ∨ ∃ e s1, p.Runs exec s (.error e) s1 ∧ (f e).Stops exec s1 s' := by
  induction p generalizing s with
  | done v =>
    cases v with
    | ok a =>
      constructor
      · intro h
        exact .inl h
      · rintro (h | ⟨_, _, ⟨⟨⟩, _⟩, _⟩)
        exact h
    | error e =>
      constructor
      · intro h
        exact .inr ⟨e, s, ⟨rfl, rfl⟩, h⟩
      · rintro (rfl | ⟨_, _, ⟨⟨⟩, rfl⟩, h⟩)
        · exact stops_refl _ _
        · exact h
  | act a k ih =>
    constructor
    · rintro (rfl | ⟨ω, h⟩)
      · exact .inl (.inl rfl)
      · rcases (ih _).mp h with h | ⟨e, s1, h1, h2⟩
        · exact .inl (.inr ⟨ω, h⟩)
        · exact .inr ⟨e, s1, ⟨ω, h1⟩, h2⟩
    · rintro ((rfl | ⟨ω, h⟩) | ⟨e, s1, ⟨ω, h1⟩, h2⟩)
      · exact .inl rfl
      · exact .inr ⟨ω, (ih _).mpr (.inl h)⟩
      · exact .inr ⟨ω, (ih _).mpr (.inr ⟨e, s1, h1, h2⟩)⟩

theorem runs_iff_run {exec : (a : A) → Unit → S → Except E (R a) × S} :
    p.Runs exec s r s' ↔ p.run exec () s = (r, s') := by
  induction p generalizing s with
  | done v =>
    constructor
    · rintro ⟨rfl, rfl⟩
      rfl
    · intro h
      cases h
      exact ⟨rfl, rfl⟩
  | act a k ih =>
    constructor
    · rintro ⟨_, h⟩
      exact (ih _).mp h
    · intro h
      exact ⟨(), (ih _).mpr h⟩

/-- Every action of the program satisfies `P`, and every value that it returns satisfies `Q`. -/
def Only (P : A → Prop) (Q : α → Prop) : Prog R E α → Prop
  | done (.ok a) => Q a
  | done (.error _) => True
  | act a k => P a ∧ ∀ r, (k r).Only P Q

section
variable {P : A → Prop} {Q : α → Prop} {Q' : β → Prop}

theorem only_call {a : A} (h : P a) : (call a : Prog R E (R a)).Only P fun _ => True := by
  refine ⟨h, fun r => ?_⟩
  cases r <;> exact trivial

variable {p : Prog R E α}

theorem only_ite {c : Prop} {_ : Decidable c} {q : Prog R E α} (hp : c → p.Only P Q)
    (hq : ¬ c → q.Only P Q) : (if c then p else q).Only P Q := by
  by_cases h : c
  · rw [if_pos h]
    exact hp h
  · rw [if_neg h]
    exact hq h

theorem Only.bind {f : α → Prog R E β} (hp : p.Only P Q) (hf : ∀ a, Q a → (f a).Only P Q') :
    (p.bind f).Only P Q' := by
  induction p with
  | done v =>
    cases v with
    | ok a => exact hf a hp
    | error e => exact trivial
  | act a k ih => exact ⟨hp.1, fun r => ih r (hp.2 r)⟩

theorem Only.tryCatch {f : E → Prog R E α} (hp : p.Only P Q) (hf : ∀ e, (f e).Only P Q) :
    (p.tryCatch f).Only P Q := by
  induction p with
  | done v =>
    cases v with
    | ok a => exact hp
    | error e => exact hf e
  | act a k ih => exact ⟨hp.1, fun r => ih r (hp.2 r)⟩

theorem Only.stops (hp : p.Only P Q) (h : ∀ a, P a → ∀ ω s, (exec a ω s).2 = s) {s s' : S}
    (hs : p.Stops exec s s') : s' = s := by
  induction p generalizing s with
  | done v => exact hs
  | act a k ih =>
    rcases hs with rfl | ⟨ω, hs⟩
    · rfl
    · rw [ih _ (hp.2 _) hs, h a hp.1]

theorem Only.value (hp : p.Only P Q) {a : α} {s s' : S} (hs : p.Runs exec s (.ok a) s') : Q a := by
  induction p generalizing s with
  | done v =>
    obtain ⟨rfl, _⟩ := hs
    exact hp
  | act b k ih =>
    obtain ⟨ω, hs⟩ := hs
    exact ih _ (hp.2 _) hs

end
end DirtyDataOlap.Prog

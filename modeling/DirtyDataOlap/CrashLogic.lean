import DirtyDataOlap.CrashRuns

/-!
# Conditions that survive a crash

`Prog.Throughout exec I p s Q`: started in `s`, `I` holds after every action of the program and `Q`
of its result and last state.  The first is what is left of a program that crashes
(`Throughout.stops`), the second what a caller sees (`Throughout.runs`); **both are proved in one
pass over the program**.
-/
namespace DirtyDataOlap.Prog

variable {A : Type} {R : A → Type} {E S W α β : Type}

/-- `I` after every action of the program, and `Q` of its result and its last state. -/
def Throughout (exec : (a : A) → W → S → Except E (R a) × S) (I : S → Prop) :
    Prog R E α → S → (Except E α → S → Prop) → Prop
  | done v, s, Q => Q v s
  | act a k, s, Q =>
      ∀ ω, I (exec a ω s).2 ∧ (k (exec a ω s).1).Throughout exec I (exec a ω s).2 Q

variable {exec : (a : A) → W → S → Except E (R a) × S} {I J : S → Prop}

variable {s : S} {Q : Except E α → S → Prop} {p : Prog R E α}

theorem Throughout.mono {Q' : Except E α → S → Prop} (h : p.Throughout exec I s Q)
    (hI : ∀ s', I s' → J s') (hQ : ∀ r s', Q r s' → Q' r s') : p.Throughout exec J s Q' := by
  induction p generalizing s with
  | done v => exact hQ v s h
  | act a k ih =>
    intro ω
    exact ⟨hI _ (h ω).1, ih _ (h ω).2⟩

/-- The last state of a program that starts in `I` is in `I` too. -/
theorem Throughout.and_self (h : p.Throughout exec I s Q) (hs : I s) :
    p.Throughout exec I s fun r s' => I s' ∧ Q r s' := by
  induction p generalizing s with
  | done v => exact ⟨hs, h⟩
  | act a k ih =>
    intro ω
    exact ⟨(h ω).1, ih _ (h ω).2 (h ω).1⟩

/-- **Sequencing**: what the first program leaves is where the second starts. -/
theorem throughout_bind {f : α → Prog R E β} {Q : Except E β → S → Prop} (P : Except E α → S → Prop)
    (hp : p.Throughout exec I s P) (hok : ∀ a s', P (.ok a) s' → (f a).Throughout exec I s' Q)
    (herror : ∀ e s', P (.error e) s' → Q (.error e) s') : (p.bind f).Throughout exec I s Q := by
  induction p generalizing s with
  | done v =>
    cases v with
    | ok a => exact hok a s hp
    | error e => exact herror e s hp
  | act a k ih =>
    intro ω
    exact ⟨(hp ω).1, ih _ (hp ω).2⟩

/-- Sequencing, where the first program has a rule for every `P`: it is used with what comes next. -/
theorem throughout_then {f : α → Prog R E β} {Q : Except E β → S → Prop}
    (hp : ∀ P : Except E α → S → Prop, (∀ a s', (f a).Throughout exec I s' Q → P (.ok a) s') →
      (∀ e s', Q (.error e) s' → P (.error e) s') → p.Throughout exec I s P) :
    (p.bind f).Throughout exec I s Q := by
  refine throughout_bind (fun r s' => match r with
    | .ok a => (f a).Throughout exec I s' Q
    | .error e => Q (.error e) s') (hp _ ?_ ?_) ?_ ?_
  all_goals exact fun _ _ h => h

/-- Sequencing, for a condition that relates a state to the one the program started in. -/
theorem throughout_bind_rel {T : S → S → Prop} (htrans : ∀ {a b c}, T a b → T b c → T a c)
    {f : α → Prog R E β} {Q : Except E β → S → Prop} (P : Except E α → S → Prop) (hs : T s s)
    (hp : p.Throughout exec (T s) s P)
    (hok : ∀ a s', T s s' → P (.ok a) s' → (f a).Throughout exec (T s') s' Q)
    (herror : ∀ e s', T s s' → P (.error e) s' → Q (.error e) s') :
    (p.bind f).Throughout exec (T s) s Q := by
  refine throughout_bind _ (hp.and_self hs) ?_ ?_
  · rintro a s' ⟨hs', hP⟩
    exact (hok a s' hs' hP).mono (fun _ h => htrans hs' h) fun _ _ h => h
  · rintro e s' ⟨hs', hP⟩
    exact herror e s' hs' hP

/-- **Exceptions**: the handler starts where the body raised. -/
theorem throughout_tryCatch {f : E → Prog R E α} (P : Except E α → S → Prop)
    (hp : p.Throughout exec I s P) (hok : ∀ a s', P (.ok a) s' → Q (.ok a) s')
    (herror : ∀ e s', P (.error e) s' → (f e).Throughout exec I s' Q) :
    (p.tryCatch f).Throughout exec I s Q := by
  induction p generalizing s with
  | done v =>
    cases v with
    | ok a => exact hok a s hp
    | error e => exact herror e s hp
  | act a k ih =>
    intro ω
    exact ⟨(hp ω).1, ih _ (hp ω).2⟩

theorem throughout_except {f : E → Prog R E α}
    (hp : ∀ P : Except E α → S → Prop, (∀ a s', Q (.ok a) s' → P (.ok a) s') →
      (∀ e s', (f e).Throughout exec I s' Q → P (.error e) s') → p.Throughout exec I s P) :
    (p.tryCatch f).Throughout exec I s Q := by
  refine throughout_tryCatch (fun r s' => match r with
    | .ok a => Q (.ok a) s'
    | .error e => (f e).Throughout exec I s' Q) (hp _ ?_ ?_) ?_ ?_
  all_goals exact fun _ _ h => h

/-- **What a crash leaves.** -/
theorem Throughout.stops {s' : S} (h : p.Throughout exec I s Q) (hs : I s)
    (hstop : p.Stops exec s s') : I s' := by
  induction p generalizing s with
  | done v =>
    have heq : s' = s := hstop
    rwa [heq]
  | act a k ih =>
    rcases hstop with rfl | ⟨ω, hstop⟩
    · exact hs
    · exact ih _ (h ω).2 (h ω).1 hstop

/-- **What a caller sees.** -/
theorem Throughout.runs {s' : S} {r : Except E α} (h : p.Throughout exec I s Q)
    (hrun : p.Runs exec s r s') : Q r s' := by
  induction p generalizing s with
  | done v =>
    obtain ⟨rfl, rfl⟩ := hrun
    exact h
  | act a k ih =>
    obtain ⟨ω, hrun⟩ := hrun
    exact ih _ (h ω).2 hrun

end DirtyDataOlap.Prog

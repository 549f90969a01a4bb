import Mathlib.Data.List.Basic

/-!
# Programs that act on a shared state one atomic action at a time

A `Prog` has finished (`done`, with a value or an exception), or is about to perform one atomic
action and will go on according to the reply (`act`).  Programs interleave exactly at their actions,
and one that stops for ever between two of them has crashed.

`exec a ω s` is the reply and the next state, given an input `ω` from outside.  `Pool` runs any
number of programs over one state and records every action in a `trace`, most recent first.
-/
namespace DirtyDataOlap

/-- A program over actions `A` with replies `R` and exceptions `E`. -/
inductive Prog {A : Type} (R : A → Type) (E α : Type) : Type
  | done (r : Except E α)
  | act (a : A) (k : Except E (R a) → Prog R E α)

namespace Prog
variable {A : Type} {R : A → Type} {E α β : Type}

/-- Sequencing: an exception skips the rest. -/
def bind : Prog R E α → (α → Prog R E β) → Prog R E β
  | done (.ok a), f => f a
  | done (.error e), _ => done (.error e)
  | act a k, f => act a fun r => (k r).bind f

/-- Python's `try`: an exception is handed to `h`. -/
def tryCatch : Prog R E α → (E → Prog R E α) → Prog R E α
  | done (.ok a), _ => done (.ok a)
  | done (.error e), h => h e
  | act a k, h => act a fun r => (k r).tryCatch h

instance : Monad (Prog R E) where
  pure a := done (.ok a)
  bind := bind

def raise (e : E) : Prog R E α := done (.error e)

/-- Perform one action and return its reply. -/
def call (a : A) : Prog R E (R a) := act a done

@[simp] theorem pure_def (a : α) : (pure a : Prog R E α) = done (.ok a) := rfl

@[simp] theorem bind_def (p : Prog R E α) (f : α → Prog R E β) : p >>= f = p.bind f := rfl

@[simp] theorem done_ok_bind (a : α) (f : α → Prog R E β) : (done (.ok a)).bind f = f a := rfl

end Prog

/-! ## Pools of programs over one state -/

section

variable {A : Type} (R : A → Type)

/-- One performed action: who, what, the reply, and the state it left. -/
structure Entry (E S : Type) where
  tid : Nat
  act : A
  reply : Except E (R act)
  after : S

/-- The shared state together with everything that was done to it. -/
structure Config (E S : Type) where
  state : S
  trace : List (Entry R E S)

/-- The configuration once program `i` has performed `a`, with reply `r`, leaving
the state `s`. -/
def Config.log {R : A → Type} {E S : Type} (c : Config R E S) (i : Nat) (a : A) (r : Except E (R a))
    (s : S) : Config R E S :=
  ⟨s, ⟨i, a, r, s⟩ :: c.trace⟩

/-- Program `i` has performed `a` with reply `r`. -/
def Config.Did {R : A → Type} {E S : Type} (c : Config R E S) (i : Nat) (a : A) (r : Except E (R a)) :
    Prop :=
  ∃ s, (⟨i, a, r, s⟩ : Entry R E S) ∈ c.trace

theorem Config.did_log {R : A → Type} {E S : Type} (c : Config R E S) (i : Nat) (a : A)
    (r : Except E (R a)) (s : S) : (c.log i a r s).Did i a r :=
  ⟨s, List.mem_cons_self ..⟩

theorem Config.Did.log {A : Type} {R : A → Type} {E S : Type} {c : Config R E S} {i j : Nat}
    {a b : A} {r : Except E (R a)} {r' : Except E (R b)} {s : S} (h : c.Did i a r) :
    (c.log j b r' s).Did i a r :=
  h.imp fun _ => List.mem_cons_of_mem _

/-- A program with the label of its owner; `none` once it has crashed. -/
structure Thread (E Λ α : Type) where
  label : Λ
  prog : Option (Prog R E α)

/-- Programs over one state. -/
structure Pool (E S Λ α : Type) where
  config : Config R E S
  threads : List (Thread R E Λ α)

end

namespace Thread
variable {A : Type} {R : A → Type} {E Λ α : Type}

/-- The program still has an action to perform. -/
def live (t : Thread R E Λ α) : Bool :=
  match t.prog with
  | some (.act _ _) => true
  | _ => false

def next (t : Thread R E Λ α) : Option A :=
  match t.prog with
  | some (.act a _) => some a
  | _ => none

theorem next_eq_some {t : Thread R E Λ α} {a : A} :
    t.next = some a ↔ ∃ k, t.prog = some (.act a k) := by
  obtain ⟨l, _ | (_ | _)⟩ := t
  · simp [next]
  · simp [next]
  · constructor
    · rintro ⟨⟩
      exact ⟨_, rfl⟩
    · rintro ⟨k, hk⟩
      cases hk
      rfl

theorem live_iff {t : Thread R E Λ α} : t.live = true ↔ ∃ a k, t.prog = some (.act a k) := by
  obtain ⟨l, _ | (_ | _)⟩ := t <;> simp [live]

end Thread

namespace Pool
variable {A : Type} {R : A → Type} {E S Λ α I : Type}

variable (exec : (a : A) → I → S → Except E (R a) × S) (p : Pool R E S Λ α) (i : Nat)

/-- Program `i` performs its next action, with outside input `ω`. -/
def advance (ω : I) : Pool R E S Λ α :=
  match p.threads[i]? with
  | some ⟨l, some (.act a k)⟩ =>
      let (r, s) := exec a ω p.config.state
      ⟨p.config.log i a r s, p.threads.set i ⟨l, some (k r)⟩⟩
  | _ => p

/-- Program `i` crashes: it never acts again. -/
def kill : Pool R E S Λ α :=
  match p.threads[i]? with
  | some t => { p with threads := p.threads.set i ⟨t.label, none⟩ }
  | none => p

/-- A new program joins. -/
def spawn (l : Λ) (q : Prog R E α) : Pool R E S Λ α :=
  { p with threads := p.threads ++ [⟨l, some q⟩] }

/-- **What `advance` does**: nothing, or the next action of program `i`. -/
theorem advance_cases (ω : I) : p.advance exec i ω = p ∨
      ∃ l a k r s, p.threads[i]? = some ⟨l, some (.act a k)⟩ ∧ exec a ω p.config.state = (r, s) ∧
        p.advance exec i ω = ⟨p.config.log i a r s, p.threads.set i ⟨l, some (k r)⟩⟩ := by
  unfold advance
  split
  · rename_i l a k heq
    exact .inr ⟨l, a, k, _, _, heq, rfl, rfl⟩
  · exact .inl rfl

theorem kill_cases : p.kill i = p ∨ ∃ t, p.threads[i]? = some t ∧
      p.kill i = { p with threads := p.threads.set i ⟨t.label, none⟩ } := by
  unfold kill
  cases h : p.threads[i]? with
  | none => exact .inl rfl
  | some t => exact .inr ⟨t, rfl, rfl⟩

/-- A thread of a list in which thread `i` was replaced is the new one, or an
old one elsewhere. -/
theorem set_cases {ts : List (Thread R E Λ α)} {i j : Nat} {t u : Thread R E Λ α}
    (h : (ts.set i t)[j]? = some u) : (i = j ∧ u = t) ∨ (i ≠ j ∧ ts[j]? = some u) := by
  by_cases hij : i = j
  · subst hij
    have hlt : i < ts.length := by
      have := (List.getElem?_eq_some_iff.mp h).1
      rwa [List.length_set] at this
    rw [List.getElem?_set_self hlt] at h
    exact .inl ⟨rfl, (Option.some.inj h).symm⟩
  · rw [List.getElem?_set_ne hij] at h
    exact .inr ⟨hij, h⟩

end Pool
end DirtyDataOlap

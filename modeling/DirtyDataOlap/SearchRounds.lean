import Mathlib.Data.List.Infix
import DirtyDataOlap.FallibleLists

/-!
# Searches in rounds

A search puts a question to a provider in each round and handles the items of an answer up to the
first that cannot be handled; a timeout ends the search.  Failures are only ever added, so that a
search **without failures has handled every item of every answer**.
-/
namespace DirtyDataOlap.SearchRounds

open List Except Prod

variable {α β ι κ φ ε : Type}

inductive Answer (ι : Type) where
  | returned (items : List ι)
  | raised
  | timeout
deriving DecidableEq

/-- What a search has recorded: the questions it has put, and its failures. -/
structure Log (κ φ : Type) where
  calls : List κ
  failures : List φ

/-- What the items of an answer give, up to one that cannot be handled, and whether there is none. -/
def handle (f : ι → Except ε (Option β)) : List ι → List β × Bool
  | [] => ([], true)
  | x :: xs =>
    match f x with
    | .error _ => ([], false)
    | .ok none => handle f xs
    | .ok (some b) => (b :: (handle f xs).1, (handle f xs).2)

/-- One round: the question is recorded, and a failure if the answer is not handled to its end. -/
def round (call : κ) (failure : φ) (answer : Answer ι) (f : ι → Except ε (Option β))
    (log : Log κ φ) : Except (Log κ φ) (List β × Log κ φ) :=
  match answer with
  | .timeout => .error ⟨log.calls ++ [call], log.failures⟩
  | .raised => .ok ([], ⟨log.calls ++ [call], log.failures ++ [failure]⟩)
  | .returned items =>
    .ok ((handle f items).1, ⟨log.calls ++ [call],
      if (handle f items).2 then log.failures else log.failures ++ [failure]⟩)

/-- The rounds of a search, one for each element of a list. -/
def search (step : α → Log κ φ → Except (Log κ φ) (List β × Log κ φ)) :
    List α → Log κ φ → Except (Log κ φ) (List β × Log κ φ)
  | [], log => .ok ([], log)
  | x :: xs, log => do
    let (found, log) ← step x log
    let (rest, log) ← search step xs log
    return (found ++ rest, log)

theorem mem_handle {f : ι → Except ε (Option β)} {xs : List ι} {b : β} (h : b ∈ (handle f xs).1) :
    ∃ x ∈ xs, f x = .ok (some b) := by
  induction xs with
  | nil => cases h
  | cons x xs ih =>
    cases hx : f x with
    | error e => simp [handle, hx] at h
    | ok r =>
      cases r with
      | none =>
        simp only [handle, hx] at h
        obtain ⟨y, hy, hf⟩ := ih h
        exact ⟨y, mem_cons_of_mem _ hy, hf⟩
      | some b' =>
        simp only [handle, hx, mem_cons] at h
        rcases h with rfl | h
        · exact ⟨x, mem_cons_self, hx⟩
        · obtain ⟨y, hy, hf⟩ := ih h
          exact ⟨y, mem_cons_of_mem _ hy, hf⟩

theorem handled_of_handle {f : ι → Except ε (Option β)} {xs : List ι} (h : (handle f xs).2 = true)
    {x : ι} (hx : x ∈ xs) : ∃ r, f x = .ok r ∧ ∀ b, r = some b → b ∈ (handle f xs).1 := by
  induction xs with
  | nil => cases hx
  | cons y ys ih =>
    cases hy : f y with
    | error e => simp [handle, hy] at h
    | ok r =>
      cases r with
      | none =>
        simp only [handle, hy] at h ⊢
        rcases mem_cons.1 hx with rfl | hx
        · exact ⟨none, hy, nofun⟩
        · exact ih h hx
      | some b =>
        simp only [handle, hy] at h ⊢
        rcases mem_cons.1 hx with rfl | hx
        · exact ⟨some b, hy, fun b' hb => Option.some.inj hb ▸ mem_cons_self⟩
        · obtain ⟨r, hr, hmem⟩ := ih h hx
          exact ⟨r, hr, fun b' hb => mem_cons_of_mem _ (hmem b' hb)⟩

/-- What is recorded stays recorded. -/
structure Extends (log log' : Log κ φ) : Prop where
  calls : log.calls <+: log'.calls
  failures : log.failures <+: log'.failures

theorem Extends.refl (log : Log κ φ) : Extends log log := ⟨prefix_rfl, prefix_rfl⟩

theorem Extends.trans {a b c : Log κ φ} (h : Extends a b) (h' : Extends b c) : Extends a c :=
  ⟨h.calls.trans h'.calls, h.failures.trans h'.failures⟩

theorem Extends.failures_eq_nil {log log' : Log κ φ} (h : Extends log log')
    (hnil : log'.failures = []) : log.failures = [] :=
  prefix_nil.1 (hnil ▸ h.failures)

section

variable {call : κ} {failure : φ} {answer : Answer ι} {f : ι → Except ε (Option β)}
  {log log' : Log κ φ} {found : List β}

section
variable (h : round call failure answer f log = .ok (found, log'))
include h

theorem round_extends : Extends log log' ∧ log'.calls = log.calls ++ [call] := by
  cases answer with
  | timeout => cases h
  | raised =>
    cases h
    exact ⟨⟨prefix_append _ _, prefix_append _ _⟩, rfl⟩
  | returned items =>
    cases h
    refine ⟨⟨prefix_append _ _, ?_⟩, rfl⟩
    show log.failures <+: if (handle f items).2 then log.failures else log.failures ++ [failure]
    split_ifs
    · exact prefix_rfl
    · exact prefix_append _ _

theorem mem_round {b : β} (hb : b ∈ found) :
    ∃ items, answer = .returned items ∧ ∃ x ∈ items, f x = .ok (some b) := by
  cases answer with
  | timeout => cases h
  | raised =>
    cases h
    cases hb
  | returned items =>
    cases h
    exact ⟨items, rfl, mem_handle hb⟩

/-- A round that leaves no failure has been answered, and every item of the answer is handled. -/
theorem round_clean (hclean : log'.failures = []) : ∃ items, answer = .returned items ∧
      ∀ x ∈ items, ∃ r, f x = .ok r ∧ ∀ b, r = some b → b ∈ found := by
  cases answer with
  | timeout => cases h
  | raised =>
    cases h
    exact absurd hclean (append_ne_nil_of_right_ne_nil _ (cons_ne_nil _ _))
  | returned items =>
    cases h
    by_cases hend : (handle f items).2 = true
    · exact ⟨items, rfl, fun x hx => handled_of_handle hend hx⟩
    · have hfailures : log.failures ++ [failure] = [] := by
        simpa only [if_neg hend] using hclean
      exact absurd hfailures (append_ne_nil_of_right_ne_nil _ (cons_ne_nil _ _))

end

end

/-! ## Searches -/

section

variable {step : α → Log κ φ → Except (Log κ φ) (List β × Log κ φ)} {call : α → Log κ φ → κ}
  {failure : α → φ} {answer : α → Log κ φ → Answer ι} {f : α → ι → Except ε (Option β)}
  {xs : List α} {log log' : Log κ φ} {found : List β}

section
variable (hstep : ∀ x log, step x log = round (call x log) (failure x) (answer x log) (f x) log)
  (h : search step xs log = .ok (found, log'))
include hstep h

theorem search_extends : Extends log log' := by
  induction xs generalizing log found with
  | nil =>
    cases h
    exact Extends.refl _
  | cons x xs ih =>
    obtain ⟨⟨first, middle⟩, hfirst, h⟩ := bind_eq_ok.1 h
    obtain ⟨⟨rest, last⟩, hrest, h⟩ := bind_eq_ok.1 h
    cases h
    rw [hstep] at hfirst
    exact (round_extends hfirst).1.trans (ih hrest)

theorem mem_search {b : β} (hb : b ∈ found) :
    ∃ x ∈ xs, ∃ before items, answer x before = .returned items ∧
      ∃ y ∈ items, f x y = .ok (some b) := by
  induction xs generalizing log found with
  | nil =>
    cases h
    cases hb
  | cons x xs ih =>
    obtain ⟨⟨first, middle⟩, hfirst, h⟩ := bind_eq_ok.1 h
    obtain ⟨⟨rest, last⟩, hrest, h⟩ := bind_eq_ok.1 h
    cases h
    rcases mem_append.1 hb with hb | hb
    · rw [hstep] at hfirst
      obtain ⟨items, hanswer, hitem⟩ := mem_round hfirst hb
      exact ⟨x, mem_cons_self, log, items, hanswer, hitem⟩
    · obtain ⟨y, hy, hround⟩ := ih hrest hb
      exact ⟨y, mem_cons_of_mem _ hy, hround⟩

end

variable (call answer f found) in
/-- A question that has been answered, every item of whose answer is handled. -/
def Answered (x : α) (c : κ) : Prop :=
  ∃ before items, c = call x before ∧ answer x before = .returned items ∧
    ∀ y ∈ items, ∃ r, f x y = .ok r ∧ ∀ b, r = some b → b ∈ found

theorem Answered.mono {found found' : List β} {x : α} {c : κ} (hsub : found ⊆ found')
    (h : Answered call answer f found x c) : Answered call answer f found' x c := by
  obtain ⟨before, items, hcall, hanswer, hitems⟩ := h
  refine ⟨before, items, hcall, hanswer, fun y hy => ?_⟩
  obtain ⟨r, hr, hmem⟩ := hitems y hy
  exact ⟨r, hr, fun b hb => hsub (hmem b hb)⟩

/-- A search that leaves no failure has put each of its questions, and each question that it has put
has been answered. -/
theorem search_clean
    (hstep : ∀ x log, step x log = round (call x log) (failure x) (answer x log) (f x) log)
    (h : search step xs log = .ok (found, log')) (hclean : log'.failures = []) :
    (∀ x ∈ xs, ∃ c ∈ log'.calls, Answered call answer f found x c) ∧
      ∀ c ∈ log'.calls, c ∈ log.calls ∨ ∃ x ∈ xs, Answered call answer f found x c := by
  induction xs generalizing log found with
  | nil =>
    cases h
    exact ⟨nofun, fun c hc => .inl hc⟩
  | cons x xs ih =>
    obtain ⟨⟨first, middle⟩, hfirst, h⟩ := bind_eq_ok.1 h
    obtain ⟨⟨rest, last⟩, hrest, h⟩ := bind_eq_ok.1 h
    obtain ⟨rfl, rfl⟩ := mk.inj (ok.inj h)
    have hextends := search_extends hstep hrest
    rw [hstep] at hfirst
    obtain ⟨items, hanswer, hitems⟩ := round_clean hfirst (hextends.failures_eq_nil hclean)
    have hcalls := (round_extends hfirst).2
    have hx : Answered call answer f first x (call x log) := ⟨log, items, rfl, hanswer, hitems⟩
    have hput : call x log ∈ last.calls :=
      hextends.calls.subset (hcalls ▸ mem_append_right _ (mem_singleton_self _))
    obtain ⟨hall, honly⟩ := ih hrest
    constructor
    · intro y hy
      rcases mem_cons.1 hy with rfl | hy
      · exact ⟨_, hput, hx.mono (subset_append_left _ _)⟩
      · obtain ⟨c, hc, hanswered⟩ := hall y hy
        exact ⟨c, hc, hanswered.mono (subset_append_right _ _)⟩
    · intro c hc
      rcases honly c hc with hc | ⟨y, hy, hanswered⟩
      · rw [hcalls] at hc
        rcases mem_append.1 hc with hc | hc
        · exact .inl hc
        · rw [mem_singleton.1 hc]
          exact .inr ⟨x, mem_cons_self, hx.mono (subset_append_left _ _)⟩
      · exact .inr ⟨y, mem_cons_of_mem _ hy, hanswered.mono (subset_append_right _ _)⟩

end

end DirtyDataOlap.SearchRounds

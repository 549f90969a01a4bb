import DirtyDataOlap.SortedCollections
import DirtyDataOlap.Dictionaries

/-!
# First claims

A pass over a list in which the first item that carries a name claims it for its payload; a later
item stands if it has the same payload.  **The pass keeps the items whose name the whole list claims for
their payload** (`claims_nil_eq`).
-/
namespace DirtyDataOlap

open List

variable {α ι π : Type} [DecidableEq ι]

section
variable (name : α → ι) (payload : α → π)

/-- The payload for which `xs` claims a name. -/
def claimed (xs : List α) (n : ι) : Option π := (xs.find? fun y => name y = n).map payload

variable [DecidableEq π]

/-- Whether the name of `x` is claimed for its own payload. -/
def stands (xs : List α) (x : α) : Bool := claimed name payload xs (name x) = some (payload x)

/-- The pass, with the names claimed so far: each item with whether it stands. -/
def claims : List (ι × π) → List α → List (α × Bool)
  | _, [] => []
  | seen, x :: xs =>
    match getItem seen (name x) with
    | none => (x, true) :: claims (setItem seen (name x) (payload x)) xs
    | some prior =>
      if prior = payload x then (x, true) :: claims (setItem seen (name x) (payload x)) xs
      else (x, false) :: claims seen xs

end

section
variable {name : α → ι} {payload : α → π}

variable {xs : List α} {x : α} {ys : List α}

theorem claimed_cons {n : ι} : claimed name payload (x :: xs) n =
      if name x = n then some (payload x) else claimed name payload xs n := by
  unfold claimed
  by_cases h : name x = n <;> simp [h]

variable [DecidableEq π]

/-- What the pass decides about each item, from the names claimed before. -/
theorem claims_eq_map (seen : List (ι × π)) (xs : List α) :
    claims name payload seen xs = xs.map fun x =>
      (x, decide ((getItem seen (name x)).or (claimed name payload xs (name x)) =
        some (payload x))) := by
  induction xs generalizing seen with
  | nil => rfl
  | cons x xs ih =>
    have htail : ∀ seen', (∀ n, (getItem seen' n).or (claimed name payload xs n) =
        (getItem seen n).or (claimed name payload (x :: xs) n)) →
        claims name payload seen' xs = xs.map fun y =>
          (y, decide ((getItem seen (name y)).or (claimed name payload (x :: xs) (name y)) =
            some (payload y))) := by
      intro seen' hseen
      rw [ih seen']
      apply map_congr_left
      intro y _
      rw [hseen (name y)]
    have hfirst : claimed name payload (x :: xs) (name x) = some (payload x) := by
      rw [claimed_cons, if_pos rfl]
    rw [map_cons, claims, hfirst]
    cases hx : getItem seen (name x) with
    | none =>
      rw [htail]
      · rw [Option.none_or, decide_eq_true rfl]
      · intro n
        rw [getItem_setItem, claimed_cons]
        by_cases hn : n = name x
        · simp [hn, hx]
        · rw [if_neg hn, if_neg (Ne.symm hn)]
    | some prior =>
      simp only [Option.some_or, Option.some.injEq]
      by_cases hp : prior = payload x
      · rw [if_pos hp, htail, decide_eq_true hp]
        intro n
        rw [getItem_setItem, claimed_cons]
        by_cases hn : n = name x
        · simp [hn, hx, hp]
        · rw [if_neg hn, if_neg (Ne.symm hn)]
      · rw [if_neg hp, htail, decide_eq_false hp]
        intro n
        rw [claimed_cons]
        by_cases hn : name x = n
        · rw [← hn, hx]
          rfl
        · rw [if_neg hn]

/-- **A pass over a list keeps the items whose name is claimed for their payload.** -/
theorem claims_nil_eq (xs : List α) :
    claims name payload [] xs = xs.map fun x => (x, stands name payload xs x) := by
  rw [claims_eq_map]
  rfl

end
end DirtyDataOlap

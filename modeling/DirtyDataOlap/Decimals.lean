import Mathlib.Data.Nat.Digits.Lemmas
import Mathlib.Data.List.MinMax
import Mathlib.Algebra.Order.Field.Basic
import Mathlib.Algebra.Order.BigOperators.Group.List
import Mathlib.Tactic.FieldSimp

/-!
# DecimalContext-precision decimal arithmetic

A finite decimal is a sign, a coefficient and an exponent.  Addition computes the exact sum at the
smaller exponent and rounds it, half to even, to the precision of a context; a result above its
range overflows.

The **key idea** is that exact addition is associative and commutative on the triples themselves:
where the context does not round, a sum does not depend on the order of its terms.
-/

namespace DirtyDataOlap

open List

/-- A finite decimal number: `(-1)^negative * coefficient * 10^exponent`. -/
structure Dec where
  negative : Bool
  coefficient : Nat
  exponent : Int
deriving DecidableEq

/-- Precision and adjusted-exponent range of the arithmetic. -/
structure DecimalContext where
  precision : Nat
  emax : Int
  emin : Int

namespace DecimalContext

/-- The smallest exponent of a result. -/
def etiny (ctx : DecimalContext) : Int := ctx.emin - ctx.precision + 1

/-- The largest exponent of a result with a full coefficient. -/
def etop (ctx : DecimalContext) : Int := ctx.emax - ctx.precision + 1

end DecimalContext

/-- The context a thread starts with. -/
def defaultContext : DecimalContext := ⟨28, 999999, -999999⟩

namespace Dec

/-- `Decimal("0")`. -/
def zero : Dec := ⟨false, 0, 0⟩

def signed (d : Dec) : Int := if d.negative then -(d.coefficient : Int) else d.coefficient

/-- The exact rational value. -/
def value (d : Dec) : ℚ := d.signed * (10 : ℚ) ^ d.exponent

/-- The signed coefficient of `d` written at the smaller exponent `e`. -/
def scaled (d : Dec) (e : Int) : Int := d.signed * 10 ^ (d.exponent - e).toNat

variable (a b : Dec)

/-- The sum before rounding; opposite terms cancel to a positive zero. -/
def exactAdd : Dec :=
  let e := min a.exponent b.exponent
  let n := a.scaled e + b.scaled e
  { negative := if n = 0 then a.coefficient = 0 && b.coefficient = 0 && a.negative && b.negative
      else decide (n < 0)
    coefficient := n.natAbs
    exponent := e }

/-- `n / m` rounded to the nearest integer, ties to the even one. -/
def roundHalfEven (n m : Nat) : Nat :=
  if m < 2 * (n % m) ∨ (m = 2 * (n % m) ∧ n / m % 2 = 1) then n / m + 1 else n / m

/-- `Decimal._fix`: round to the context; `none` where the result overflows it. -/
def fix (ctx : DecimalContext) (d : Dec) : Option Dec :=
  if d.coefficient = 0 then
    some { d with exponent := min (max d.exponent ctx.etiny) ctx.emax }
  else
    let digits := (Nat.digits 10 d.coefficient).length
    let expMin := (digits : Int) + d.exponent - ctx.precision
    if ctx.etop < expMin then none
    else
      let expMin := max expMin ctx.etiny
      if d.exponent < expMin then
        let rounded := roundHalfEven d.coefficient (10 ^ (expMin - d.exponent).toNat)
        -- Rounding up `99..9` gives one digit too many, the last of which is a zero.
        if ctx.precision < (Nat.digits 10 rounded).length then
          if ctx.etop < expMin + 1 then none else some ⟨d.negative, rounded / 10, expMin + 1⟩
        else some ⟨d.negative, rounded, expMin⟩
      else some d

/-- `a + b` in the context. -/
def add (ctx : DecimalContext) (a b : Dec) : Option Dec := fix ctx (a.exactAdd b)

/-- `sum(ds, Decimal("0"))` in the context. -/
def sum (ctx : DecimalContext) (ds : List Dec) : Option Dec := ds.foldlM (add ctx) zero

/-- The sum of `ds` with no rounding. -/
def exactSum (ds : List Dec) : Dec := ds.foldl exactAdd zero

/-- `min(ds)`: the first of the numerically least. -/
def minimum (ds : List Dec) : Option Dec := ds.argmin value

/-- `max(ds)`: the first of the numerically greatest. -/
def maximum (ds : List Dec) : Option Dec := ds.argmax value

/-! ## Exact addition on the triples -/

/-- A zero with a minus sign. -/
def IsNegZero (d : Dec) : Prop := d.coefficient = 0 ∧ d.negative = true

theorem natAbs_signed (d : Dec) : d.signed.natAbs = d.coefficient := by
  unfold signed
  split <;> simp

theorem signed_eq_zero (d : Dec) : d.signed = 0 ↔ d.coefficient = 0 := by
  rw [← Int.natAbs_eq_zero, natAbs_signed]

variable {d : Dec} {e : Int}

theorem signed_neg (h : d.coefficient ≠ 0) : d.signed < 0 ↔ d.negative = true := by
  unfold signed
  split <;> rename_i hn
  · simp only [hn, iff_true]
    omega
  · simp only [hn, iff_false, Bool.false_eq_true]
    omega

theorem eq_of_signed {a b : Dec} (hs : a.signed = b.signed) (he : a.exponent = b.exponent)
    (hz : a.IsNegZero ↔ b.IsNegZero) : a = b := by
  have hc : a.coefficient = b.coefficient := by
    rw [← natAbs_signed a, ← natAbs_signed b, hs]
  have hn : a.negative = b.negative := by
    rw [Bool.eq_iff_iff]
    by_cases h0 : a.coefficient = 0
    · have h0' : b.coefficient = 0 := hc ▸ h0
      simpa [IsNegZero, h0, h0'] using hz
    · rw [← signed_neg h0, hs, signed_neg (hc ▸ h0)]
  cases a
  cases b
  simp_all

theorem scaled_scaled {f : Int} (hf : f ≤ e) (he : e ≤ d.exponent) :
    d.scaled f = d.scaled e * 10 ^ (e - f).toNat := by
  unfold scaled
  rw [mul_assoc, ← pow_add]
  congr 2
  omega

theorem scaled_eq_zero (d : Dec) (e : Int) : d.scaled e = 0 ↔ d.coefficient = 0 := by
  simp [scaled, signed_eq_zero]

theorem value_eq_scaled (h : e ≤ d.exponent) : d.value = d.scaled e * (10 : ℚ) ^ e := by
  have hsplit : (10 : ℚ) ^ d.exponent = (10 : ℚ) ^ (d.exponent - e).toNat * (10 : ℚ) ^ e := by
    rw [← zpow_natCast, Int.toNat_of_nonneg (by omega), ← zpow_add₀ (by norm_num)]
    congr 1
    omega
  unfold value scaled
  rw [hsplit]
  push_cast
  ring

@[simp] theorem exactAdd_exponent : (a.exactAdd b).exponent = min a.exponent b.exponent := rfl

theorem exactAdd_signed : (a.exactAdd b).signed =
      a.scaled (min a.exponent b.exponent) + b.scaled (min a.exponent b.exponent) := by
  simp only [exactAdd, signed]
  by_cases h : a.scaled (min a.exponent b.exponent) + b.scaled (min a.exponent b.exponent) = 0
  · simp [h]
  · simp only [h, if_false, decide_eq_true_eq]
    split <;> omega

theorem exactAdd_isNegZero : (a.exactAdd b).IsNegZero ↔ a.IsNegZero ∧ b.IsNegZero := by
  have hc : (a.exactAdd b).coefficient = 0 ↔
      a.scaled (min a.exponent b.exponent) + b.scaled (min a.exponent b.exponent) = 0 := by
    simp [exactAdd]
  constructor
  · rintro ⟨h0, hn⟩
    rw [hc] at h0
    simp only [exactAdd, h0, if_true, Bool.and_eq_true, decide_eq_true_eq] at hn
    exact ⟨⟨hn.1.1.1, hn.1.2⟩, hn.1.1.2, hn.2⟩
  · rintro ⟨⟨ha, han⟩, hb, hbn⟩
    have h0 : a.scaled (min a.exponent b.exponent) + b.scaled (min a.exponent b.exponent) = 0 := by
      rw [(scaled_eq_zero a _).2 ha, (scaled_eq_zero b _).2 hb]
      rfl
    exact ⟨hc.2 h0, by simp [exactAdd, h0, ha, hb, han, hbn]⟩

theorem exactAdd_scaled {a b : Dec} (ha : e ≤ a.exponent) (hb : e ≤ b.exponent) :
    (a.exactAdd b).scaled e = a.scaled e + b.scaled e := by
  have hm : e ≤ min a.exponent b.exponent := le_min ha hb
  rw [scaled_scaled hm (min_le_left _ _), scaled_scaled hm (min_le_right _ _), ← add_mul,
    ← exactAdd_signed]
  rfl

theorem exactAdd_comm : a.exactAdd b = b.exactAdd a := by
  apply eq_of_signed
  · rw [exactAdd_signed, exactAdd_signed, min_comm, add_comm]
  · exact min_comm _ _
  · rw [exactAdd_isNegZero, exactAdd_isNegZero, and_comm]

theorem exactAdd_assoc (a b c : Dec) : (a.exactAdd b).exactAdd c = a.exactAdd (b.exactAdd c) := by
  have hexp : min (min a.exponent b.exponent) c.exponent =
      min a.exponent (min b.exponent c.exponent) := min_assoc _ _ _
  apply eq_of_signed
  · rw [exactAdd_signed, exactAdd_signed, exactAdd_exponent, exactAdd_exponent, hexp,
      exactAdd_scaled (by omega) (by omega), exactAdd_scaled (by omega) (by omega), add_assoc]
  · exact hexp
  · simp only [exactAdd_isNegZero, and_assoc]

instance : Std.Associative exactAdd := ⟨exactAdd_assoc⟩

instance : Std.Commutative exactAdd := ⟨exactAdd_comm⟩

theorem exactAdd_value : (a.exactAdd b).value = a.value + b.value := by
  have hm := exactAdd_exponent a b
  rw [value_eq_scaled (le_of_eq hm.symm), exactAdd_scaled (min_le_left _ _) (min_le_right _ _),
    value_eq_scaled (min_le_left a.exponent b.exponent),
    value_eq_scaled (min_le_right a.exponent b.exponent)]
  push_cast
  ring

theorem zero_exactAdd_zero : zero.exactAdd zero = zero := by
  decide

theorem foldl_exactAdd (d e : Dec) (ds : List Dec) :
    ds.foldl exactAdd (d.exactAdd e) = d.exactAdd (ds.foldl exactAdd e) :=
  foldl_assoc

theorem exactSum_append (ds es : List Dec) :
    exactSum (ds ++ es) = (exactSum ds).exactAdd (exactSum es) := by
  unfold exactSum
  rw [foldl_append, ← foldl_exactAdd]
  congr 1
  -- The second sum starts at a zero of its own, which the first absorbs.
  rw [exactAdd_comm]
  conv_rhs => rw [← foldl_exactAdd, zero_exactAdd_zero]

theorem exactSum_perm {ds es : List Dec} (h : ds.Perm es) : exactSum ds = exactSum es := by
  refine h.foldl_eq' ?_ zero
  intro x _ y _ z
  rw [exactAdd_assoc, exactAdd_comm x y, ← exactAdd_assoc]

theorem exactSum_flatten (groups : List (List Dec)) :
    exactSum (groups.map exactSum) = exactSum groups.flatten := by
  induction groups with
  | nil => rfl
  | cons ds groups ih =>
    have hcons : exactSum ((ds :: groups).map exactSum) =
        (exactSum [exactSum ds]).exactAdd (exactSum (groups.map exactSum)) := by
      rw [← exactSum_append]
      rfl
    have hone : exactSum [exactSum ds] = exactSum ds := by
      change zero.exactAdd (exactSum ds) = exactSum ds
      unfold exactSum
      rw [← foldl_exactAdd, zero_exactAdd_zero]
    rw [hcons, hone, ih, flatten_cons, exactSum_append]

theorem foldl_exactAdd_value (d : Dec) (ds : List Dec) :
    (ds.foldl exactAdd d).value = d.value + (ds.map value).sum := by
  induction ds generalizing d with
  | nil => simp
  | cons x ds ih =>
    rw [foldl_cons, ih, exactAdd_value, map_cons, sum_cons]
    ring

theorem exactSum_value (ds : List Dec) : (exactSum ds).value = (ds.map value).sum := by
  rw [exactSum, foldl_exactAdd_value]
  simp [value, zero, signed]

section Extremes

variable {α γ : Type} [LinearOrder γ] (f : α → γ)

/-- `o` is a member of `xs` of least `f`, or nothing where `xs` has no members. -/
def IsLeastOf (xs : List α) : Option α → Prop
  | none => xs = []
  | some x => x ∈ xs ∧ ∀ y ∈ xs, f x ≤ f y

theorem isLeastOf_argmin (xs : List α) : IsLeastOf f xs (xs.argmin f) := by
  cases h : xs.argmin f with
  | none => exact argmin_eq_none.1 h
  | some x => exact ⟨argmin_mem h, fun y hy => le_of_mem_argmin hy h⟩

variable {f}

theorem IsLeastOf.perm {xs ys : List α} {o : Option α} (h : IsLeastOf f xs o)
    (hp : xs.Perm ys) : IsLeastOf f ys o := by
  cases o with
  | none =>
    change xs = [] at h
    subst h
    exact hp.nil_eq.symm
  | some x => exact ⟨hp.mem_iff.1 h.1, fun y hy => h.2 y (hp.mem_iff.2 hy)⟩

theorem IsLeastOf.map_eq {xs : List α} {o p : Option α} (ho : IsLeastOf f xs o)
    (hp : IsLeastOf f xs p) : o.map f = p.map f := by
  match o, p with
  | none, none => rfl
  | none, some y => exact absurd hp.1 (by simp [show xs = [] from ho])
  | some x, none => exact absurd ho.1 (by simp [show xs = [] from hp])
  | some x, some y => exact congrArg some (le_antisymm (ho.2 y hp.1) (hp.2 x ho.1))

theorem isLeastOf_groups (groups : List (List α)) :
    IsLeastOf f groups.flatten ((groups.filterMap fun xs => xs.argmin f).argmin f) := by
  have hin : ∀ x ∈ groups.filterMap (fun xs => xs.argmin f), x ∈ groups.flatten := by
    intro x hx
    obtain ⟨xs, hxs, hx⟩ := mem_filterMap.1 hx
    exact mem_flatten.2 ⟨xs, hxs, argmin_mem hx⟩
  have hbelow : ∀ y ∈ groups.flatten, ∃ x ∈ groups.filterMap (fun xs => xs.argmin f), f x ≤ f y := by
    intro y hy
    obtain ⟨xs, hxs, hy⟩ := mem_flatten.1 hy
    cases hx : xs.argmin f with
    | none => exact absurd hy (by simp [argmin_eq_none.1 hx])
    | some x => exact ⟨x, mem_filterMap.2 ⟨xs, hxs, hx⟩, le_of_mem_argmin hy hx⟩
  have hleast := isLeastOf_argmin f (groups.filterMap fun xs => xs.argmin f)
  cases h : (groups.filterMap fun xs => xs.argmin f).argmin f with
  | none =>
    rw [h] at hleast
    change groups.filterMap (fun xs => xs.argmin f) = [] at hleast
    refine eq_nil_iff_forall_not_mem.2 fun y hy => ?_
    obtain ⟨x, hx, _⟩ := hbelow y hy
    simp [hleast] at hx
  | some x =>
    rw [h] at hleast
    refine ⟨hin x hleast.1, fun y hy => ?_⟩
    obtain ⟨z, hz, hzy⟩ := hbelow y hy
    exact (hleast.2 z hz).trans hzy

end Extremes

/-- The greatest of the group maxima, read in the dual order of the values. -/
def dualValue (d : Dec) : ℚᵒᵈ := OrderDual.toDual d.value

theorem maximum_eq_argmin (ds : List Dec) : maximum ds = ds.argmin dualValue := rfl

/-! ## Sums the context does not round -/

/-- Written at the exponent `e`, no partial sum of the terms, in any order, leaves the context. -/
structure FitsAt (ctx : DecimalContext) (e : Int) (ds : List Dec) : Prop where
  range : ctx.etiny ≤ e ∧ e ≤ 0 ∧ ctx.precision ≤ ctx.emax
  exponents : ∀ d ∈ ds, e ≤ d.exponent
  digits : (ds.map fun d => (d.scaled e).natAbs).sum < 10 ^ ctx.precision

/-- No sum over `ds` rounds or overflows in the context. -/
def Fits (ctx : DecimalContext) (ds : List Dec) : Prop := ∃ e, FitsAt ctx e ds

theorem coefficient_le_scaled (d : Dec) (e : Int) : d.coefficient ≤ (d.scaled e).natAbs := by
  rw [scaled, Int.natAbs_mul, natAbs_signed]
  exact Nat.le_mul_of_pos_right _ (Int.natAbs_pos.2 (by positivity))

variable {ctx : DecimalContext} {e : Int} {ds es : List Dec}

theorem fix_eq_some {d : Dec} (hc : d.coefficient < 10 ^ ctx.precision)
    (hlow : ctx.etiny ≤ d.exponent) (hhigh : d.exponent ≤ 0) (hmax : ctx.precision ≤ ctx.emax) :
    fix ctx d = some d := by
  have hdig : (Nat.digits 10 d.coefficient).length ≤ ctx.precision :=
    (Nat.digits_length_le_iff (by norm_num) _).2 hc
  unfold fix
  split
  · rename_i h0
    have : min (max d.exponent ctx.etiny) ctx.emax = d.exponent := by
      have : (0 : Int) ≤ ctx.precision := by omega
      omega
    rw [this]
  · have htop : ¬ ctx.etop <
        ((Nat.digits 10 d.coefficient).length : Int) + d.exponent - ctx.precision := by
      unfold DecimalContext.etop
      omega
    have hround : ¬ d.exponent < max
        (((Nat.digits 10 d.coefficient).length : Int) + d.exponent - ctx.precision) ctx.etiny := by
      omega
    rw [if_neg htop, if_neg hround]

theorem foldlM_add_eq (ds : List Dec) (acc : Dec) (h : FitsAt ctx e (acc :: ds))
    (hacc : acc.exponent ≤ 0) : ds.foldlM (add ctx) acc = some (ds.foldl exactAdd acc) := by
  induction ds generalizing acc with
  | nil => rfl
  | cons d ds ih =>
    obtain ⟨hr, hexp, hdig⟩ := h
    have hea := hexp acc (by simp)
    have hed := hexp d (by simp)
    have hsum := exactAdd_scaled hea hed
    have habs := Int.natAbs_add_le (acc.scaled e) (d.scaled e)
    simp only [map_cons, sum_cons] at hdig
    have hnext : FitsAt ctx e (acc.exactAdd d :: ds) := by
      refine ⟨hr, ?_, ?_⟩
      · intro x hx
        rcases mem_cons.1 hx with rfl | hx
        · exact le_min hea hed
        · exact hexp x (by simp [hx])
      · simp only [map_cons, sum_cons, hsum]
        omega
    have hle : (acc.exactAdd d).exponent ≤ 0 := (min_le_left _ _).trans hacc
    have hcoef : (acc.exactAdd d).coefficient < 10 ^ ctx.precision := by
      have := coefficient_le_scaled (acc.exactAdd d) e
      have := hnext.digits
      simp only [map_cons, sum_cons] at this
      omega
    have hadd : add ctx acc d = some (acc.exactAdd d) :=
      fix_eq_some hcoef (hr.1.trans (le_min hea hed)) hle hr.2.2
    rw [foldlM_cons, hadd, foldl_cons]
    exact ih _ hnext hle

/-- **Exact sums.** A sum that fits the context is the exact one. -/
theorem sum_eq_exactSum (h : Fits ctx ds) : sum ctx ds = some (exactSum ds) := by
  obtain ⟨e, hr, hexp, hdig⟩ := h
  refine foldlM_add_eq (e := e) ds zero ⟨hr, ?_, ?_⟩ le_rfl
  · intro d hd
    rcases mem_cons.1 hd with rfl | hd
    · exact hr.2.1
    · exact hexp d hd
  · simpa [scaled, zero, signed] using hdig

theorem foldl_exactAdd_exponent (ds : List Dec) (acc : Dec) (ha : e ≤ acc.exponent)
    (h : ∀ d ∈ ds, e ≤ d.exponent) : e ≤ (ds.foldl exactAdd acc).exponent := by
  induction ds generalizing acc with
  | nil => exact ha
  | cons d ds ih =>
    have hd := h d (by simp)
    exact ih _ (le_min ha hd) (fun x hx => h x (by simp [hx]))

theorem foldl_exactAdd_scaled (ds : List Dec) (acc : Dec) (ha : e ≤ acc.exponent)
    (h : ∀ d ∈ ds, e ≤ d.exponent) : ((ds.foldl exactAdd acc).scaled e).natAbs ≤
      (acc.scaled e).natAbs + (ds.map fun d => (d.scaled e).natAbs).sum := by
  induction ds generalizing acc with
  | nil => simp
  | cons d ds ih =>
    have hd := h d (by simp)
    have hrec := ih (acc.exactAdd d) (le_min ha hd) (fun x hx => h x (by simp [hx]))
    have habs := Int.natAbs_add_le (acc.scaled e) (d.scaled e)
    rw [exactAdd_scaled ha hd] at hrec
    simp only [foldl_cons, map_cons, sum_cons]
    omega

theorem FitsAt.of_sublist (h : FitsAt ctx e es) (hsub : ds.Sublist es) : FitsAt ctx e ds := by
  refine ⟨h.range, fun d hd => h.exponents d (hsub.subset hd), ?_⟩
  exact lt_of_le_of_lt ((hsub.map _).sum_le_sum (by simp)) h.digits

theorem Fits.of_sublist (h : Fits ctx es) (hsub : ds.Sublist es) : Fits ctx ds :=
  h.imp fun _ he => he.of_sublist hsub

theorem Fits.perm (h : Fits ctx ds) (hp : ds.Perm es) : Fits ctx es := by
  obtain ⟨e, hr, hexp, hdig⟩ := h
  refine ⟨e, hr, fun d hd => hexp d (hp.mem_iff.2 hd), ?_⟩
  rwa [← (hp.map _).sum_eq]

theorem Fits.groups {groups : List (List Dec)} (h : Fits ctx groups.flatten) :
    Fits ctx (groups.map exactSum) := by
  obtain ⟨e, hr, hexp, hdig⟩ := h
  have hin : ∀ ds ∈ groups, ∀ d ∈ ds, e ≤ d.exponent :=
    fun ds hds d hd => hexp d (mem_flatten.2 ⟨ds, hds, hd⟩)
  refine ⟨e, hr, ?_, ?_⟩
  · intro d hd
    obtain ⟨ds, hds, rfl⟩ := mem_map.1 hd
    exact foldl_exactAdd_exponent ds zero hr.2.1 (hin ds hds)
  · refine lt_of_le_of_lt ?_ hdig
    clear hdig hexp
    induction groups with
    | nil => simp
    | cons ds groups ih =>
      have hhead := foldl_exactAdd_scaled ds zero hr.2.1 (hin ds (by simp))
      have hrest := ih fun ds hds => hin ds (by simp [hds])
      have hzero : (zero.scaled e).natAbs = 0 := by simp [scaled, zero, signed]
      simp only [map_cons, sum_cons, flatten_cons, map_append, sum_append]
      unfold exactSum at hrest ⊢
      omega

end Dec

end DirtyDataOlap

import DirtyDataOlap.GridRounding
import DirtyDataOlap.ReviewReadiness

/-!
# How a score moves with its signals

A contribution is a weight times a value, rounded to twelve digits; the score is their sum over the
weight of the dimensions that are required or observed, rounded again. Rounding is monotone, so
that **a signal that turns against a candidate never raises its score**.
-/
namespace DirtyDataOlap

open List

/-- A rounded quotient is off by a half at most. -/
theorem Dec.roundHalfEven_near (n : Nat) {m : Nat} (hm : 0 < m) :
    2 * Dec.roundHalfEven n m * m ≤ 2 * n + m ∧ 2 * n ≤ 2 * Dec.roundHalfEven n m * m + m := by
  have hdiv := Nat.div_add_mod n m
  have hmod := Nat.mod_lt n hm
  rw [Dec.roundHalfEven]
  by_cases hup : m < 2 * (n % m) ∨ (m = 2 * (n % m) ∧ n / m % 2 = 1)
  · rw [if_pos hup]
    have hexpand : 2 * (n / m + 1) * m = 2 * (m * (n / m)) + 2 * m := by ring
    omega
  · rw [if_neg hup]
    have hexpand : 2 * (n / m) * m = 2 * (m * (n / m)) := by ring
    omega

namespace Fusion

/-- Scores are rounded to twelve digits. -/
def scoreStep : ℚ := 1 / 10 ^ 12

theorem roundRational_eq (x : ℚ) : ∃ k : ℤ, roundRational x = k * scoreStep ∧
    |(k : ℚ) - x * 10 ^ 12| ≤ 1 / 2 := by
  set scaled := x * 10 ^ 12 with hscaled
  set rounded := Dec.roundHalfEven scaled.num.natAbs scaled.den with hrounded
  have hden : (0 : ℚ) < scaled.den := by exact_mod_cast scaled.den_pos
  -- The rounding works on the magnitude.
  have hnear : |(rounded : ℚ) - (scaled.num.natAbs : ℚ) / scaled.den| ≤ 1 / 2 := by
    obtain ⟨hle, hge⟩ := Dec.roundHalfEven_near scaled.num.natAbs scaled.den_pos
    rw [← hrounded] at hle hge
    have hle' : 2 * (rounded : ℚ) * scaled.den ≤ 2 * scaled.num.natAbs + scaled.den := by
      exact_mod_cast hle
    have hge' : 2 * (scaled.num.natAbs : ℚ) ≤ 2 * rounded * scaled.den + scaled.den := by
      exact_mod_cast hge
    have hdiv := div_mul_cancel₀ (scaled.num.natAbs : ℚ) hden.ne'
    rw [abs_le]
    constructor
    · apply le_of_mul_le_mul_right _ hden
      rw [sub_mul, hdiv]
      linarith
    · apply le_of_mul_le_mul_right _ hden
      rw [sub_mul, hdiv]
      linarith
  have hvalue : roundRational x =
      (if scaled.num < 0 then -(rounded : ℚ) else rounded) * scoreStep := by
    rw [roundRational, scoreStep, ← hscaled, ← hrounded]
    split <;> ring
  by_cases hneg : scaled.num < 0
  · refine ⟨-rounded, by rw [hvalue, if_pos hneg]; push_cast; ring, ?_⟩
    have hself : scaled = -((scaled.num.natAbs : ℚ) / scaled.den) := by
      have habs : ((scaled.num.natAbs : ℤ) : ℚ) = -scaled.num := by
        rw [Int.ofNat_natAbs_of_nonpos hneg.le]; push_cast; ring
      rw [← Int.cast_natCast, habs, neg_div, neg_neg, Rat.num_div_den]
    rw [hself, ← abs_neg]
    push_cast
    rw [show -(-(rounded : ℚ) - -((scaled.num.natAbs : ℚ) / scaled.den)) =
      rounded - (scaled.num.natAbs : ℚ) / scaled.den by ring]
    exact hnear
  · refine ⟨rounded, by rw [hvalue, if_neg hneg]; push_cast; ring, ?_⟩
    have hself : scaled = (scaled.num.natAbs : ℚ) / scaled.den := by
      have habs : ((scaled.num.natAbs : ℤ) : ℚ) = scaled.num := by
        rw [Int.natAbs_of_nonneg (not_lt.1 hneg)]
      rw [← Int.cast_natCast, habs, Rat.num_div_den]
    rw [hself]
    push_cast
    exact hnear

theorem roundRational_toNearest : Rounding.ToNearest scoreStep roundRational := by
  refine ⟨by norm_num [scoreStep], fun x => ?_, fun x => ?_⟩
  · obtain ⟨k, hk, -⟩ := roundRational_eq x
    exact ⟨k, hk⟩
  · obtain ⟨k, hk, hnear⟩ := roundRational_eq x
    rw [hk]
    have hscale : (k : ℚ) * scoreStep - x = (k - x * 10 ^ 12) * scoreStep := by
      rw [scoreStep]; ring
    have hstep : (0 : ℚ) ≤ scoreStep := by norm_num [scoreStep]
    rw [hscale, abs_mul, abs_of_nonneg hstep]
    linarith [mul_le_mul_of_nonneg_right hnear hstep]

theorem round12_mono {x y : ℚ} (h : x ≤ y) :
    ScoreArithmetic.round12 x ≤ ScoreArithmetic.round12 y :=
  roundRational_toNearest.monotone h

theorem total_eq_sum (values : List ℚ) : total values = values.sum := by
  rw [sum_eq_foldl]
  rfl

/-! ## Contradicting evidence -/

/-- A signal but for its direction, as the value of a dimension reads it. -/
def undirected (signal : NormalizedEvidenceSignal ℚ) : NormalizedEvidenceSignal ℚ :=
  { signal with direction := .context }

theorem normalizeDimension_undirected (signals : List (NormalizedEvidenceSignal ℚ))
    (dimensionId : String) : normalizeDimension (signals.map undirected) dimensionId =
      normalizeDimension signals dimensionId := by
  have hvalues : ((signals.map undirected).filter fun signal => signal.scoreBearing &&
      signal.normalizedValue.isSome && signal.scoreDimensionId = some dimensionId) =
      (signals.filter fun signal => signal.scoreBearing && signal.normalizedValue.isSome &&
        signal.scoreDimensionId = some dimensionId).map undirected := by
    rw [filter_map]
    rfl
  rw [normalizeDimension, normalizeDimension, hvalues]
  generalize signals.filter _ = values
  have hfind : ∀ name : String, ((values.map undirected).find? fun signal =>
      signal.rawMetricName = name) =
      (values.find? fun signal => signal.rawMetricName = name).map undirected := by
    intro name
    rw [find?_map]
    rfl
  simp only [hfind]
  by_cases hinclusion : dimensionId = "inclusion"
  · rw [if_pos hinclusion, if_pos hinclusion]
    cases values.find? fun signal => signal.rawMetricName = "inclusion_coverage" with
    | some coverage => rfl
    | none =>
      cases values.find? fun signal => signal.rawMetricName = "orphan_ratio" with
      | some orphan => rfl
      | none => rfl
  · rw [if_neg hinclusion, if_neg hinclusion]
    cases values with
    | nil => rfl
    | cons value values => rfl

theorem scoredDimension_undirected (signals : List (NormalizedEvidenceSignal ℚ))
    (dimensionId : String) :
    scoredDimension (signals.map undirected) dimensionId = scoredDimension signals dimensionId := by
  rw [scoredDimension, any_map]
  rfl

/-- The same signals but for their directions, of which more contradict. -/
structure Harsher (signals' signals : List (NormalizedEvidenceSignal ℚ)) : Prop where
  readings : signals'.map undirected = signals.map undirected
  against : ∀ dimensionId, signals.any (contradicts dimensionId) = true →
    signals'.any (contradicts dimensionId) = true

/-- The same weights, and contributions under the same dimensions that are not larger. -/
structure TallyBelow (a b : Tally ℚ) : Prop where
  contributions : Forall₂ (fun x y => x.1 = y.1 ∧ x.2 ≤ y.2) a.contributions b.contributions
  eligible : a.eligible = b.eligible
  observed : a.observed = b.observed

section
variable {policy : FusionPolicyReference ℚ} {signals signals' : List (NormalizedEvidenceSignal ℚ)}

theorem Harsher.normalizeDimension_eq (h : Harsher signals' signals) (dimensionId : String) :
    normalizeDimension signals' dimensionId = normalizeDimension signals dimensionId := by
  rw [← normalizeDimension_undirected signals', h.readings, normalizeDimension_undirected]

theorem Harsher.scoredDimension_eq (h : Harsher signals' signals) (dimensionId : String) :
    scoredDimension signals' dimensionId = scoredDimension signals dimensionId := by
  rw [← scoredDimension_undirected signals', h.readings, scoredDimension_undirected]

theorem negAbs_le (value : ℚ) : negAbs value ≤ value := by
  rw [negAbs]
  by_cases h : 0 ≤ value
  · rw [if_pos h]
    exact neg_le_self h
  · rw [if_neg h]

theorem Harsher.signedValue_le (h : Harsher signals' signals) (policy : FusionPolicyReference ℚ)
    (dimension : FusionScoringDimension ℚ) (value : ℚ) :
    signedValue policy signals' dimension value ≤ signedValue policy signals dimension value := by
  unfold signedValue
  by_cases hturn : turnable policy dimension = true
  · by_cases hcontra : signals.any (contradicts dimension.dimensionId) = true
    · rw [hturn, hcontra, h.against _ hcontra]
    · rw [hturn, Bool.eq_false_iff.2 hcontra, if_neg (by decide : ¬ (true && false) = true)]
      by_cases hcontra' : signals'.any (contradicts dimension.dimensionId) = true
      · rw [hcontra', if_pos (by decide : (true && true) = true)]
        exact negAbs_le value
      · rw [Bool.eq_false_iff.2 hcontra', if_neg (by decide)]
  · rw [Bool.eq_false_iff.2 hturn]
    exact le_refl value

variable {a b : Tally ℚ} {dimension : FusionScoringDimension ℚ}

theorem requiredStep_below (h : Harsher signals' signals) (hweight : 0 ≤ dimension.weight)
    (hab : TallyBelow a b) : TallyBelow (requiredStep policy signals' a dimension)
      (requiredStep policy signals b dimension) := by
  unfold requiredStep
  by_cases hrequired : dimension.required = true
  · rw [hrequired, h.normalizeDimension_eq]
    cases normalizeDimension signals dimension.dimensionId with
    | none => exact hab
    | some value =>
      have hsigned := mul_le_mul_of_nonneg_left
        (h.signedValue_le policy dimension value) hweight
      exact ⟨forall₂_setItem hab.contributions (round12_mono hsigned), hab.eligible,
        congrArg (· + dimension.weight) hab.observed⟩
  · rw [Bool.eq_false_iff.2 hrequired]
    exact hab

/-- An optional dimension keeps the order, and never turns a value. -/
theorem optionalStep_below (h : Harsher signals' signals) (dimension : FusionScoringDimension ℚ)
    (hab : TallyBelow a b) :
    TallyBelow (optionalStep signals' a dimension) (optionalStep signals b dimension) := by
  unfold optionalStep
  rw [h.scoredDimension_eq, keys_eq_of_forall₂ hab.contributions]
  by_cases hskip : (dimension.required || !scoredDimension signals dimension.dimensionId ||
      (b.contributions.map Prod.fst).contains dimension.dimensionId) = true
  · rw [if_pos hskip, if_pos hskip]
    exact hab
  · rw [if_neg hskip, if_neg hskip, h.normalizeDimension_eq]
    cases normalizeDimension signals dimension.dimensionId with
    | none => exact hab
    | some value =>
      exact ⟨forall₂_setItem hab.contributions (le_refl _),
        congrArg (· + dimension.weight) hab.eligible, congrArg (· + dimension.weight) hab.observed⟩

theorem tally_below (h : Harsher signals' signals)
    (hweights : ∀ dimension ∈ policy.scoringDimensions, 0 ≤ dimension.weight) :
    TallyBelow (tally policy signals') (tally policy signals) := by
  have hrequired : ∀ (dimensions : List (FusionScoringDimension ℚ)) (a b : Tally ℚ),
      (∀ dimension ∈ dimensions, 0 ≤ dimension.weight) → TallyBelow a b →
        TallyBelow (dimensions.foldl (requiredStep policy signals') a)
          (dimensions.foldl (requiredStep policy signals) b) := by
    intro dimensions
    induction dimensions with
    | nil => exact fun a b _ hab => hab
    | cons dimension dimensions ih =>
      intro a b hdims hab
      exact ih _ _ (fun other hother => hdims other (mem_cons_of_mem _ hother))
        (requiredStep_below h (hdims dimension mem_cons_self) hab)
  have hoptional : ∀ (dimensions : List (FusionScoringDimension ℚ)) (a b : Tally ℚ),
      TallyBelow a b → TallyBelow (dimensions.foldl (optionalStep signals') a)
        (dimensions.foldl (optionalStep signals) b) := by
    intro dimensions
    induction dimensions with
    | nil => exact fun a b hab => hab
    | cons dimension dimensions ih =>
      intro a b hab
      exact ih _ _ (optionalStep_below h dimension hab)
  exact hoptional _ _ _ (hrequired _ _ _ hweights ⟨.nil, rfl, rfl⟩)

theorem TallyBelow.total_le (h : TallyBelow a b) :
    total (a.contributions.map Prod.snd) ≤ total (b.contributions.map Prod.snd) := by
  rw [total_eq_sum, total_eq_sum]
  have hvalues := h.contributions
  generalize a.contributions = xs, b.contributions = ys at hvalues
  induction hvalues with
  | nil => exact le_refl _
  | cons hxy _ ih =>
    rw [map_cons, map_cons, sum_cons, sum_cons]
    exact add_le_add hxy.2 ih

theorem requiredStep_eligible (t : Tally ℚ) (dimension : FusionScoringDimension ℚ) :
    (requiredStep policy signals t dimension).eligible = t.eligible := by
  unfold requiredStep
  split
  · rfl
  · split <;> rfl

theorem requiredTally_eligible (dimensions : List (FusionScoringDimension ℚ)) (t : Tally ℚ) :
    (dimensions.foldl (requiredStep policy signals) t).eligible = t.eligible := by
  induction dimensions generalizing t with
  | nil => rfl
  | cons dimension dimensions ih => rw [foldl_cons, ih, requiredStep_eligible]

theorem optionalStep_eligible_nonneg {t : Tally ℚ} (ht : 0 ≤ t.eligible)
    (hweight : 0 ≤ dimension.weight) : 0 ≤ (optionalStep signals t dimension).eligible := by
  unfold optionalStep
  split
  · exact ht
  · split
    · exact ht
    · exact add_nonneg ht hweight

variable (hweights : ∀ dimension ∈ policy.scoringDimensions, 0 ≤ dimension.weight)

include hweights in
/-- The weight that a score is divided by. -/
theorem tally_eligible_nonneg :
    0 ≤ (tally policy signals).eligible := by
  refine List.foldlRecOn (motive := fun t : Tally ℚ => 0 ≤ t.eligible) _ _ ?_
    fun t ht dimension hdimension => optionalStep_eligible_nonneg ht (hweights dimension hdimension)
  rw [requiredTally_eligible, total_eq_sum]
  apply sum_nonneg
  intro weight hweight
  obtain ⟨dimension, hdimension, rfl⟩ := mem_map.1 hweight
  exact hweights dimension (mem_filter.1 hdimension).1

theorem scoreOf_le (h : Harsher signals' signals)
    (hweights : ∀ dimension ∈ policy.scoringDimensions, 0 ≤ dimension.weight) :
    Option.Rel (· ≤ ·) (scoreOf policy signals').value (scoreOf policy signals).value := by
  have hbelow := tally_below h hweights
  have hempty : (tally policy signals').contributions = [] ↔
      (tally policy signals).contributions = [] := by
    rw [← length_eq_zero_iff, hbelow.contributions.length_eq, length_eq_zero_iff]
  simp only [scoreOf, ne_eq, hempty, hbelow.eligible]
  by_cases hscored : ¬ (tally policy signals).contributions = [] ∧ ¬ (tally policy signals).eligible = 0
  · rw [if_pos hscored, if_pos hscored]
    apply Option.Rel.some
    apply round12_mono
    exact div_le_div_of_nonneg_right hbelow.total_le (tally_eligible_nonneg hweights)
  · rw [if_neg hscored, if_neg hscored]
    exact .none

include hweights in
/-- **Contradicting evidence never raises a score.** Where a signal turns from supporting to
contradicting, its value unchanged, there is a score if there was one, and it is not larger. -/
theorem contradiction_never_raises

    (before after : List (NormalizedEvidenceSignal ℚ)) (signal : NormalizedEvidenceSignal ℚ) :
    Option.Rel (· ≤ ·)
      (scoreOf policy (before ++ { signal with direction := .contradicts } :: after)).value
      (scoreOf policy (before ++ { signal with direction := .supports } :: after)).value := by
  refine scoreOf_le ⟨by simp [undirected], fun dimensionId hcontra => ?_⟩ hweights
  rw [any_append, any_cons] at hcontra ⊢
  have hsupports : contradicts dimensionId { signal with direction := .supports } = false := by
    simp [contradicts]
  rw [hsupports, Bool.false_or] at hcontra
  rcases Bool.or_eq_true_iff.1 hcontra with hbefore | hafter
  · rw [hbefore, Bool.true_or]
  · rw [hafter, Bool.or_true, Bool.or_true]

end

def typeSignal : NormalizedEvidenceSignal ℚ := signalOf plainDigest typePolicy typeEvidence

theorem contradiction_never_raises_types :
    (scoreOf typePolicy [{ typeSignal with direction := .supports }]).value = some (3 / 4) ∧
    Option.Rel (· ≤ ·)
      (scoreOf typePolicy ([] ++ { typeSignal with direction := .contradicts } :: [])).value
      (scoreOf typePolicy ([] ++ { typeSignal with direction := .supports } :: [])).value :=
  ⟨by decide +kernel, contradiction_never_raises (by decide +kernel) [] [] typeSignal⟩

end Fusion

end DirtyDataOlap

import Mathlib.Algebra.Order.Field.Basic
import Mathlib.Tactic.Linarith
import Mathlib.Tactic.Ring

/-!
# Rounding to the nearest point of a grid

A rounding sends every number to a point of a grid at most half a step away. How it breaks ties is
left open: **such a rounding is monotone**, it keeps the points of the grid, and so it does not
leave an interval whose ends are points of the grid.
-/
namespace Rounding

variable {K : Type} [Field K] [LinearOrder K] [IsStrictOrderedRing K]

def OnGrid (step x : K) : Prop := ∃ n : ℤ, x = n * step

structure ToNearest (step : K) (round : K → K) : Prop where
  step_pos : 0 < step
  onGrid : ∀ x, OnGrid step (round x)
  near : ∀ x, |round x - x| ≤ step / 2

variable {step : K} {round : K → K}

theorem OnGrid.add_step_le (hstep : 0 < step) {x y : K} (hx : OnGrid step x) (hy : OnGrid step y)
    (h : x < y) : x + step ≤ y := by
  obtain ⟨n, rfl⟩ := hx
  obtain ⟨m, rfl⟩ := hy
  have hnm : n + 1 ≤ m := by
    have hlt : (n : K) < m := lt_of_mul_lt_mul_right h hstep.le
    have := Int.cast_lt.1 hlt
    omega
  calc (n : K) * step + step = ((n + 1 : ℤ) : K) * step := by push_cast; ring
    _ ≤ m * step := mul_le_mul_of_nonneg_right (Int.cast_le.2 hnm) hstep.le

namespace ToNearest

section
variable (h : ToNearest step round)
include h

theorem le_add (x : K) : round x ≤ x + step / 2 := by
  have := (abs_le.1 (h.near x)).2
  linarith

theorem sub_le (x : K) : x - step / 2 ≤ round x := by
  have := (abs_le.1 (h.near x)).1
  linarith

/-- **Rounding to nearest is monotone, whatever it does with ties.** -/
theorem monotone : Monotone round := by
  intro x y hxy
  by_contra hlt
  rw [not_le] at hlt
  have hgap := OnGrid.add_step_le h.step_pos (h.onGrid y) (h.onGrid x) hlt
  have hx := h.le_add x
  have hy := h.sub_le y
  -- Only a tie could be rounded both ways, and a number is rounded one way.
  obtain rfl : x = y := le_antisymm hxy (by linarith)
  exact lt_irrefl _ hlt

end

end ToNearest

end Rounding

/-
**The canvas in exact arithmetic.**

The geometry of the canvas is written for any kind of coordinate.  Some of its laws are about exact
numbers, where sums, products and quotients are not rounded and every two numbers can be compared.
The rational numbers are such numbers, and have every finite double among them.

Main definitions:

* `QueryBuilder.Exact` — a rational number as a coordinate;
* `QueryBuilder.Exact.nearest` — the nearest whole number.

Main results:

* `QueryBuilder.Settings.value_pos`, `QueryBuilder.Settings.minZoom_le` — what exact settings
  without a fault satisfy.
-/

import Mathlib.Data.Rat.Floor
import QueryBuilder.Proofs.Canvas.Settings

set_option autoImplicit false

namespace QueryBuilder

/-- An exact number as a coordinate. -/
@[ext]
structure Exact where
  value : ℚ
  deriving DecidableEq, Repr

namespace Exact

/-- The nearest whole number, halves away from zero. -/
def nearest (x : ℚ) : ℚ :=
  if 0 ≤ x then ⌊x + 1 / 2⌋ else -⌊-x + 1 / 2⌋

instance : Coordinate Exact where
  add a b := ⟨a.value + b.value⟩
  sub a b := ⟨a.value - b.value⟩
  mul a b := ⟨a.value * b.value⟩
  div a b := ⟨a.value / b.value⟩
  whole n := ⟨n⟩
  le a b := a.value ≤ b.value
  lt a b := a.value < b.value
  larger a b := ⟨max a.value b.value⟩
  smaller a b := ⟨min a.value b.value⟩
  nearest a := ⟨nearest a.value⟩
  isFinite _ := true

@[simp] theorem value_sub (a b : Exact) : (a - b).value = a.value - b.value := rfl

@[simp] theorem value_whole (n : Nat) : (Coordinate.whole n : Exact).value = n := rfl

@[simp] theorem le_eq (a b : Exact) : Coordinate.le a b = decide (a.value ≤ b.value) := rfl

@[simp] theorem lt_eq (a b : Exact) : Coordinate.lt a b = decide (a.value < b.value) := rfl

end Exact

namespace Settings

variable {c : Settings Exact} {s : Setting}

/-- Sizes and factors are positive. -/
theorem value_pos (h : c.fault? = none) (hs : s ∈ Setting.positive) : 0 < (c s).value := by
  simpa using (fault?_eq_none_iff.1 h).2.1 s hs

/-- The smallest zoom is not above the largest ones. -/
theorem minZoom_le (h : c.fault? = none) (hs : s ∈ Setting.zoomCeilings) :
    (c .minZoom).value ≤ (c s).value := by
  simpa using (fault?_eq_none_iff.1 h).2.2 s hs

end Settings

end QueryBuilder

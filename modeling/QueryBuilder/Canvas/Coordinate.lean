/-
**Coordinates of the canvas.**

The geometry of the canvas is written once for any kind of coordinate.  Programs run it on doubles;
its laws are about exact numbers.  Besides arithmetic, geometry needs whole numbers, comparisons,
the larger and the smaller of two numbers, rounding, and a test for numbers that are finite.

Among doubles, an undefined number is never the larger or the smaller one of two if the other is
defined.  The two zeros are equal, and so the order in which they are compared tells which is kept.

Main definitions:

* `QueryBuilder.Coordinate` — what geometry needs of its numbers;
* `QueryBuilder.Position` — a point of the canvas;
* `QueryBuilder.Position.toJson`, `QueryBuilder.Position.ofDraft` — writing and reading points.
-/

import QueryBuilder.Decimal.Binary
import QueryBuilder.Json.Decoder

set_option autoImplicit false

namespace QueryBuilder

/-! ### Numbers -/

/-- Numbers that positions and sizes are made of. -/
class Coordinate (α : Type) extends Add α, Sub α, Mul α, Div α where
  /-- A natural number. -/
  whole : Nat → α
  le : α → α → Bool
  lt : α → α → Bool
  larger : α → α → α
  smaller : α → α → α
  /-- The nearest whole number, halves away from zero. -/
  nearest : α → α
  isFinite : α → Bool

namespace Coordinate

/-- The larger of two doubles: the second one if they are equal, and the defined one if only one of
them is. -/
def largerFloat (a b : Float) : Float :=
  if b < a || b != b then a else b

/-- The smaller of two doubles: the second one if they are equal, and the defined one if only one of
them is. -/
def smallerFloat (a b : Float) : Float :=
  if a < b || b != b then a else b

instance : Coordinate Float where
  whole := Float.ofNat
  le a b := a ≤ b
  lt a b := a < b
  larger := largerFloat
  smaller := smallerFloat
  nearest := Decimal.nearestWhole
  isFinite := Decimal.isFinite

variable {α : Type} [Coordinate α]

/-- A number of tenths. -/
def tenths (n : Nat) : α :=
  whole n / whole 10

end Coordinate

/-! ### Points -/

/-- A point of the canvas, in units that do not depend on the zoom. -/
structure Position (α : Type) where
  x : α
  y : α
  deriving DecidableEq, Repr

namespace Position

/-- Writes a point. -/
def toJson (p : Position Float) : Json :=
  .record [("x", .float p.x), ("y", .float p.y)]

/-- Reads a point. -/
def ofDraft : Json.Decoder (Position Float) :=
  Json.recordOf ["x", "y"] false fun r =>
    Position.mk <$> r.required "x" Json.double <*> r.required "y" Json.double

end Position

end QueryBuilder

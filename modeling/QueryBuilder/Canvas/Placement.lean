/-
**Placing tables and fitting the view.**

New tables go to the right of all others, on one row.  Fitting the view takes the box around all
tables and chooses the zoom at which it fills a given part of the container.

Main definitions:

* `QueryBuilder.Settings.spawn` — the place of a new table;
* `QueryBuilder.Bounds`, `QueryBuilder.Settings.bounds?` — boxes, and the box around all tables;
* `QueryBuilder.clampZoom` — a zoom kept between two others;
* `QueryBuilder.Settings.fitZoom` — the zoom at which a box fits a container;
* `QueryBuilder.snap` — the nearest grid line.
-/

import QueryBuilder.Canvas.Settings

set_option autoImplicit false

namespace QueryBuilder

variable {α : Type} [Coordinate α]

/-! ### New tables -/

/-- The right edge of the rightmost table, if there is a table. -/
def Settings.rightEdge? (c : Settings α) : List (Position α) → Option α
  | [] => none
  | p :: rest =>
    some (rest.foldl (fun edge q => Coordinate.larger edge (q.x + c .tableWidth))
      (p.x + c .tableWidth))

/-- The place of a new table, given the places of the others. -/
def Settings.spawn (c : Settings α) (existing : List (Position α)) : Position α :=
  match c.rightEdge? existing with
  | some edge => ⟨edge + c .spawnMargin, c .spawnY⟩
  | none => ⟨c .originX, c .spawnY⟩

/-! ### Boxes -/

/-- A box with sides along the axes. -/
structure Bounds (α : Type) where
  minX : α
  minY : α
  maxX : α
  maxY : α
  deriving DecidableEq, Repr

namespace Bounds

/-- The width of a box. -/
def width (b : Bounds α) : α := b.maxX - b.minX

/-- The height of a box. -/
def height (b : Bounds α) : α := b.maxY - b.minY

/-- The smallest box around two others. -/
def join (a b : Bounds α) : Bounds α :=
  { minX := Coordinate.smaller a.minX b.minX
    minY := Coordinate.smaller a.minY b.minY
    maxX := Coordinate.larger a.maxX b.maxX
    maxY := Coordinate.larger a.maxY b.maxY }

end Bounds

/-- The box of a table at a place. -/
def Settings.footprint (c : Settings α) (p : Position α) : Bounds α :=
  ⟨p.x, p.y, p.x + c .tableWidth, p.y + c .tableHeight⟩

/-- The box around all tables, if there is a table. -/
def Settings.bounds? (c : Settings α) : List (Position α) → Option (Bounds α)
  | [] => none
  | p :: rest => some (rest.foldl (fun b q => b.join (c.footprint q)) (c.footprint p))

/-! ### Zoom -/

/-- A zoom kept between two others; if they are out of order the upper one wins. -/
def clampZoom (zoom min max : α) : α :=
  Coordinate.smaller (Coordinate.larger zoom min) max

/-- The zoom at which a box fits a container with the given width and height. -/
def Settings.fitZoom (c : Settings α) (b : Bounds α) (width height : α) : α :=
  clampZoom (Coordinate.smaller (width / b.width) (height / b.height) * c .fitPadding)
    (c .minZoom) (c .fitMaxZoom)

/-- The nearest of the lines at multiples of the pitch; without a positive pitch there is no
grid. -/
def snap (value pitch : α) : α :=
  if Coordinate.le pitch (Coordinate.whole 0) then value
  else Coordinate.nearest (value / pitch) * pitch

end QueryBuilder

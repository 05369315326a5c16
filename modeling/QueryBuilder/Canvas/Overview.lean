/-
**The overview of the canvas.**

A small picture of all tables at a fixed scale.

Main definitions:

* `QueryBuilder.OverviewBox`, `QueryBuilder.Overview` — a table in the picture, and the picture;
* `QueryBuilder.View.overview` — the picture of some tables;
* `QueryBuilder.Overview.toJson` — writing it.
-/

import QueryBuilder.Canvas.View

set_option autoImplicit false

namespace QueryBuilder

/-- A table in the overview. -/
structure OverviewBox (α : Type) where
  id : Nat
  x : α
  y : α
  width : α
  height : α
  deriving DecidableEq, Repr

/-- The overview with its size. -/
structure Overview (α : Type) where
  width : α
  height : α
  boxes : List (OverviewBox α)
  deriving DecidableEq, Repr

/-- The overview of some tables, each where it is shown. -/
def View.overview {α : Type} [Coordinate α] (v : View α) (tables : List (PlacedTable α)) :
    Overview α :=
  let scale := v.settings .minimapScale
  { width := v.settings .minimapWidth
    height := v.settings .minimapHeight
    boxes := tables.map fun t =>
      let p := v.positionOf t
      { id := t.id
        x := p.x * scale
        y := p.y * scale
        width := v.settings .tableWidth * scale
        height := v.settings .tableHeight * scale } }

/-- Writes a table of the overview. -/
def OverviewBox.toJson (b : OverviewBox Float) : Json :=
  .record [("id", .nat b.id), ("x", .float b.x), ("y", .float b.y), ("width", .float b.width),
    ("height", .float b.height)]

/-- Writes the overview. -/
def Overview.toJson (o : Overview Float) : Json :=
  .record [("width", .float o.width), ("height", .float o.height),
    ("tables", .list (o.boxes.map OverviewBox.toJson))]

end QueryBuilder

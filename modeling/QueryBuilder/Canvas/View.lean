/-
**The view of the canvas.**

The graph holds the places of the tables.  The view holds the zoom, whether tables snap to the grid
while they are dragged, and the drag that goes on, if any.  A table that is dragged is shown at its
place in the view's shadow until it is let go.

Main definitions:

* `QueryBuilder.Gesture`, `QueryBuilder.View` — a drag, and the view;
* `QueryBuilder.View.setZoom`, `QueryBuilder.View.zoomIn`, `QueryBuilder.View.zoomOut`,
  `QueryBuilder.View.resetZoom`, `QueryBuilder.View.fit` — the zoom;
* `QueryBuilder.View.positionOf` — where a table is shown.
-/

import QueryBuilder.Canvas.Placement
import QueryBuilder.Graph.Entity

set_option autoImplicit false

namespace QueryBuilder

/-- What the pointer is doing. -/
inductive Gesture (α : Type) where
  | idle
  /-- It holds a table at an offset from the table's place. -/
  | dragging (table : Nat) (offset : Position α)
  deriving DecidableEq, Repr

/-- The view of the canvas. -/
structure View (α : Type) where
  settings : Settings α
  zoom : α
  gridSnap : Bool
  gesture : Gesture α
  /-- The places at which tables are shown while they are dragged. -/
  shadow : List (Nat × Position α)

namespace View

variable {α : Type} [Coordinate α]

/-- The view at the start. -/
def ofSettings (settings : Settings α) : View α :=
  ⟨settings, Coordinate.whole 1, false, .idle, []⟩

/-! ### Zoom -/

/-- A zoom in whole hundredths, so that repeated steps do not drift. -/
def roundZoom (zoom : α) : α :=
  Coordinate.nearest (zoom * Coordinate.whole 100) / Coordinate.whole 100

/-- Sets the zoom, within the range that the settings allow. -/
def setZoom (v : View α) (zoom : α) : View α :=
  { v with zoom := clampZoom (roundZoom zoom) (v.settings .minZoom) (v.settings .maxZoom) }

/-- One step closer. -/
def zoomIn (v : View α) : View α :=
  v.setZoom (v.zoom + v.settings .zoomStep)

/-- One step away. -/
def zoomOut (v : View α) : View α :=
  v.setZoom (v.zoom - v.settings .zoomStep)

/-- Back to the zoom of the start. -/
def resetZoom (v : View α) : View α :=
  { v with zoom := Coordinate.whole 1 }

/-- Whether tables snap to the grid. -/
def setGridSnap (v : View α) (gridSnap : Bool) : View α :=
  { v with gridSnap }

/-! ### Places -/

omit [Coordinate α] in
/-- Where a table is shown: at its shadow, or else at its place in the graph. -/
def positionOf (v : View α) (t : PlacedTable α) : Position α :=
  (v.shadow.lookup t.id).getD t.position

/-- The zoom at which all tables fit a container; without tables it stays. -/
def fit (v : View α) (tables : List (PlacedTable α)) (width height : α) : View α :=
  match v.settings.bounds? (tables.map v.positionOf) with
  | some bounds => { v with zoom := v.settings.fitZoom bounds width height }
  | none => v

/-- A point of the screen on the canvas. -/
def toCanvas (v : View α) (screen : Position α) : Position α :=
  ⟨screen.x / v.zoom, screen.y / v.zoom⟩

end View

end QueryBuilder

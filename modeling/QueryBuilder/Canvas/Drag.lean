/-
**Dragging a table.**

A drag starts when the pointer goes down on the header of a table, and ends when it goes up, which
commits the place of the table's shadow, or when the view is torn down, which forgets it.  The
listeners for the pointer are attached for as long as a drag goes on.  Who receives the place is a
parameter: the graph is one such receiver, and it is handed through with the listeners.

Main definitions:

* `QueryBuilder.Listeners` — how often listeners were attached and detached;
* `QueryBuilder.PositionSink` — what receives the places of tables that are let go;
* `QueryBuilder.View.pointerDown`, `QueryBuilder.View.pointerMove`,
  `QueryBuilder.View.pointerUp`, `QueryBuilder.View.teardown` — the steps of a drag.
-/

import QueryBuilder.Canvas.View

set_option autoImplicit false

namespace QueryBuilder

/-- How often listeners for the pointer were attached and detached. -/
structure Listeners where
  attached : Nat
  detached : Nat
  deriving DecidableEq, Repr

namespace Listeners

/-- No listeners so far. -/
def none : Listeners := ⟨0, 0⟩

/-- Attaches listeners. -/
def attach (l : Listeners) : Listeners := { l with attached := l.attached + 1 }

/-- Detaches listeners. -/
def detach (l : Listeners) : Listeners := { l with detached := l.detached + 1 }

end Listeners

/-- What receives the places of tables that are let go. -/
class PositionSink (σ : Type) (α : outParam Type) where
  /-- The receiver once a table is let go at a place. -/
  commit : σ → Nat → Position α → σ

/-- The shadows with one more, which replaces an earlier one of the same table. -/
def setShadow {α : Type} (shadow : List (Nat × Position α)) (table : Nat) (p : Position α) :
    List (Nat × Position α) :=
  (table, p) :: shadow.filter fun s => s.1 != table

namespace View

variable {α : Type} [Coordinate α]

/-- Whether a point of the canvas is on the header of a table; the edges belong to it. -/
def onHeader (v : View α) (t : PlacedTable α) (point : Position α) : Bool :=
  Coordinate.le t.position.x point.x &&
    Coordinate.le point.x (t.position.x + v.settings .tableWidth) &&
    Coordinate.le t.position.y point.y &&
    Coordinate.le point.y (t.position.y + v.settings .headerHeight)

/-- The pointer goes down over a table.  A drag starts if none goes on and the pointer is on the
table's header. -/
def pointerDown (v : View α) (t : PlacedTable α) (pointer : Position α) (host : Listeners) :
    Bool × View α × Listeners :=
  match v.gesture with
  | .dragging _ _ => (false, v, host)
  | .idle =>
    let point := v.toCanvas pointer
    if v.onHeader t point then
      (true,
        { v with
          gesture := .dragging t.id ⟨point.x - t.position.x, point.y - t.position.y⟩
          shadow := setShadow v.shadow t.id t.position },
        host.attach)
    else
      (false, v, host)

/-- A coordinate of a dragged table: not beyond the edge of the canvas, and on the grid if tables
snap to it. -/
def dragged (v : View α) (coordinate : α) : α :=
  let kept := Coordinate.larger coordinate (Coordinate.whole 0)
  if v.gridSnap then snap kept (v.settings .gridPitch) else kept

/-- The pointer moves.  The dragged table's shadow follows it. -/
def pointerMove (v : View α) (pointer : Position α) : Option (Position α) × View α :=
  match v.gesture with
  | .idle => (none, v)
  | .dragging table offset =>
    let point := v.toCanvas pointer
    let p : Position α := ⟨v.dragged (point.x - offset.x), v.dragged (point.y - offset.y)⟩
    (some p, { v with shadow := setShadow v.shadow table p })

omit [Coordinate α] in
/-- The pointer goes up.  The drag ends, the listeners are detached, and the place of the dragged
table's shadow is committed. -/
def pointerUp {σ : Type} [PositionSink σ α] (v : View α) (sink : σ) (host : Listeners) :
    Option (Nat × Position α) × View α × σ × Listeners :=
  match v.gesture with
  | .idle => (none, v, sink, host)
  | .dragging table _ =>
    let host := host.detach
    let view : View α :=
      { v with gesture := .idle, shadow := v.shadow.filter fun s => s.1 != table }
    match v.shadow.lookup table with
    | none => (none, view, sink, host)
    | some p => (some (table, p), view, PositionSink.commit sink table p, host)

omit [Coordinate α] in
/-- The view is torn down.  A drag is given up without a commit. -/
def teardown (v : View α) (host : Listeners) : View α × Listeners :=
  ({ v with gesture := .idle, shadow := [] },
    match v.gesture with
    | .idle => host
    | .dragging _ _ => host.detach)

end View

end QueryBuilder

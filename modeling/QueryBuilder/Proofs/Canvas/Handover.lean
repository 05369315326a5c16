/-
**The end of a drag does not show.**

While a table is dragged, its place is known twice: the graph holds where it was, and the view's
shadow where it is shown.  Letting it go writes the shadow into the graph and drops it, and what is
seen is the same before and after: the places of all tables, the overview, and the zoom at which
they fit a container.  All of these are made from the places at which tables are shown, and so it is
enough that these places are the same.

In between, the graph may have been edited in any way.  The dragged table may be gone, or may have
been moved, and neither makes a difference.  If the view is torn down instead, the shadow is dropped
alone, and what is seen is made from the places that the graph holds.

Main definitions:

* `QueryBuilder.Picture`, `QueryBuilder.View.picture` — what is seen of some tables;
* `QueryBuilder.Settings.picture` — what is seen of tables at given places.

Main results:

* `QueryBuilder.View.picture_eq` — what is seen is made from the places at which tables are shown;
* `QueryBuilder.Board.graph_release` — the graph takes over the places at which tables are shown;
* `QueryBuilder.Board.release_keeps_picture` — **what is seen during a drag is what is committed**.
-/

import QueryBuilder.Canvas.Overview
import QueryBuilder.Proofs.Canvas.Board

set_option autoImplicit false

namespace QueryBuilder

variable {α : Type} [Coordinate α]

/-! ### Pictures -/

/-- What is seen of some tables. -/
structure Picture (α : Type) where
  /-- The tables with the places at which they are shown. -/
  places : List (Nat × Position α)
  overview : Overview α
  /-- The zoom that is chosen so that all tables fit a container. -/
  fitting : α → α → α

/-- What a view shows of some tables. -/
def View.picture (v : View α) (tables : List (PlacedTable α)) : Picture α :=
  { places := tables.map fun t => (t.id, v.positionOf t)
    overview := v.overview tables
    fitting := fun width height => (v.fit tables width height).zoom }

/-- What is seen of tables that are at given places.  If there are none, the zoom stays. -/
def Settings.picture (c : Settings α) (zoom : α) (places : List (Nat × Position α)) : Picture α :=
  { places
    overview :=
      { width := c .minimapWidth
        height := c .minimapHeight
        boxes := places.map fun p =>
          { id := p.1
            x := p.2.x * c .minimapScale
            y := p.2.y * c .minimapScale
            width := c .tableWidth * c .minimapScale
            height := c .tableHeight * c .minimapScale } }
    fitting := fun width height =>
      match c.bounds? (places.map Prod.snd) with
      | some bounds => c.fitZoom bounds width height
      | none => zoom }

/-- **What is seen is made from the places at which tables are shown.** -/
theorem View.picture_eq (v : View α) (tables : List (PlacedTable α)) :
    v.picture tables = v.settings.picture v.zoom (tables.map fun t => (t.id, v.positionOf t)) := by
  have hplaces : (tables.map fun t => (t.id, v.positionOf t)).map Prod.snd =
      tables.map v.positionOf := by
    rw [List.map_map]
    rfl
  have hfitting : ∀ width height, (v.fit tables width height).zoom =
      (v.settings.picture v.zoom (tables.map fun t => (t.id, v.positionOf t))).fitting
        width height := by
    intro width height
    simp only [fit, Settings.picture, hplaces]
    cases v.settings.bounds? (tables.map v.positionOf) <;> rfl
  rw [picture, Settings.picture, Picture.mk.injEq]
  refine ⟨rfl, ?_, funext fun width => funext (hfitting width)⟩
  rw [overview, List.map_map]
  rfl

/-! ### Places at which tables are shown -/

omit [Coordinate α] in
/-- Without shadows, tables are shown where the graph holds them. -/
theorem View.positionOf_of_nil {v : View α} (h : v.shadow = []) (t : PlacedTable α) :
    v.positionOf t = t.position := by
  rw [positionOf, h]
  rfl

omit [Coordinate α] in
/-- A single shadow is the place of its table, and of no other one. -/
theorem View.positionOf_of_single {v : View α} {table : Nat} {place : Position α}
    (h : v.shadow = [(table, place)]) (t : PlacedTable α) :
    v.positionOf t = if t.id = table then place else t.position := by
  rw [positionOf, h, List.lookup_cons]
  by_cases hid : t.id = table
  · rw [if_pos hid, beq_iff_eq.2 hid]
    rfl
  · rw [if_neg hid, beq_false_of_ne hid]
    rfl

omit [Coordinate α] in
/-- A commit moves the tables under the id, if there are any. -/
theorem Graph.commitPosition_eq (g : Graph α) (id : Nat) (place : Position α) :
    g.commitPosition id place = { g with toDiagram := g.moved id place } := by
  cases htable : g.table? id with
  | some t => exact commitPosition_of_table? htable place
  | none =>
      have hsame : ∀ t ∈ g.tables,
          (if t.id = id then { t with position := place } else t) = t := by
        intro t ht
        have hne : t.id ≠ id := by simpa using List.find?_eq_none.1 htable t ht
        exact if_neg hne
      rw [commitPosition_of_missing htable, Diagram.moved, List.map_congr_left hsame, List.map_id']

namespace Board

/-- What is seen of the graph of a board. -/
def picture (b : Board α) : Picture α :=
  b.stage.view.picture b.graph.tables

variable {b : Board α} {dragged : Nat}

omit [Coordinate α] in
/-- During a drag, all tables but the dragged one are shown where the graph holds them. -/
theorem positionOf_of_ne (hsound : b.stage.Sound)
    (hdragged : b.stage.view.gesture.table? = some dragged) {t : PlacedTable α}
    (h : t.id ≠ dragged) : b.stage.view.positionOf t = t.position := by
  cases hsound with
  | idle _ hshadow _ => exact View.positionOf_of_nil hshadow t
  | dragging hgesture hshadow _ =>
      rw [hgesture, Gesture.table?, Option.some.injEq] at hdragged
      rw [View.positionOf_of_single hshadow, hdragged, if_neg h]

/-- **The graph takes over the places at which tables are shown**, when the pointer goes up.  This
is so whether the dragged table is still there or not. -/
theorem graph_release (hsound : b.stage.Sound) :
    (b.step (.view .up)).graph =
      { b.graph with
        tables := b.graph.tables.map fun t =>
          { t with position := b.stage.view.positionOf t } } := by
  cases hsound with
  | idle hgesture hshadow _ =>
      have hsame : ∀ t ∈ b.graph.tables,
          { t with position := b.stage.view.positionOf t } = t := by
        intro t _
        rw [View.positionOf_of_nil hshadow]
      rw [graph_release_idle hgesture, List.map_congr_left hsame, List.map_id']
  | @dragging table offset place hgesture hshadow _ =>
      have hcommit : (b.step (.view .up)).graph = b.graph.commitPosition table place := by
        simp only [step_up, View.pointerUp, hgesture, hshadow, List.lookup_cons_self]
        rfl
      have hmoved : ∀ t ∈ b.graph.tables,
          (if t.id = table then { t with position := place } else t) =
            { t with position := b.stage.view.positionOf t } := by
        intro t _
        rw [View.positionOf_of_single hshadow]
        split <;> rfl
      rw [hcommit, Graph.commitPosition_eq, Diagram.moved, List.map_congr_left hmoved]

/-- The view after the pointer went up. -/
theorem view_release (hsound : b.stage.Sound) :
    (b.step (.view .up)).stage.view = { b.stage.view with gesture := .idle, shadow := [] } := by
  have hstage : (b.step (.view .up)).stage = b.stage.step .up := by rw [step_up]
  cases hsound with
  | idle hgesture hshadow _ => rw [hstage, Stage.step_up_idle hgesture, ← hgesture, ← hshadow]
  | dragging hgesture hshadow _ => rw [hstage, Stage.step_up_dragging hgesture hshadow]

/-- Nothing that is seen changes when the pointer goes up: the places that were those of shadows are
now those of the graph. -/
theorem picture_release (hsound : b.stage.Sound) : (b.step (.view .up)).picture = b.picture := by
  have hview := view_release hsound
  have hshadow : (b.step (.view .up)).stage.view.shadow = [] := by rw [hview]
  have hplaces : ((b.step (.view .up)).graph.tables.map fun t =>
      (t.id, (b.step (.view .up)).stage.view.positionOf t)) =
        b.graph.tables.map fun t => (t.id, b.stage.view.positionOf t) := by
    simp only [View.positionOf_of_nil hshadow, graph_release hsound, List.map_map]
    rfl
  rw [picture, picture, View.picture_eq, View.picture_eq, hplaces, hview]

/-- After the view is torn down, what is seen is made from the places that the graph holds. -/
theorem picture_teardown (b : Board α) :
    (b.step (.view .teardown)).picture =
      b.stage.view.settings.picture b.stage.view.zoom
        (b.graph.tables.map fun t => (t.id, t.position)) := by
  have hshadow : (b.step (.view .teardown)).stage.view.shadow = [] := rfl
  rw [picture, View.picture_eq]
  simp only [View.positionOf_of_nil hshadow]
  rfl

/-- **What is seen during a drag is what is committed.**  Take any graph, as edits may have made it
since the pointer went down, and a view with a drag that goes on.  When the pointer goes up, nothing
that is seen changes: each table is stored at the place at which it was shown.  A table with another
id than the dragged one keeps its place.  If the view is torn down instead, the graph stays as it
is, and what is seen is made from the places that it holds. -/
theorem release_keeps_picture (g : Graph α) (settings : Settings α) (events : List (ViewEvent α))
    {dragged : Nat}
    (h : ((Stage.ofSettings settings).run events).view.gesture.table? = some dragged) :
    let board : Board α := ⟨g, (Stage.ofSettings settings).run events⟩
    (board.step (.view .up)).picture = board.picture ∧
    (board.step (.view .up)).graph =
      { g with
        tables := g.tables.map fun t => { t with position := board.stage.view.positionOf t } } ∧
    (∀ (i : Nat) (t : PlacedTable α), g.tables[i]? = some t → t.id ≠ dragged →
      (board.step (.view .up)).graph.tables[i]? = some t) ∧
    (board.step (.view .teardown)).graph = g ∧
    (board.step (.view .teardown)).picture =
      board.stage.view.settings.picture board.stage.view.zoom
        (g.tables.map fun t => (t.id, t.position)) := by
  intro board
  have hsound : board.stage.Sound := (Stage.sound_ofSettings settings).run events
  have hgraph := graph_release hsound
  refine ⟨picture_release hsound, hgraph, fun i t ht hid => ?_, rfl, picture_teardown board⟩
  rw [hgraph, List.getElem?_map, ht, Option.map_some, positionOf_of_ne hsound h hid]

/-- During the drag the zoom changes, the dragged table is moved in the graph and another one is
taken away. -/
theorem release_keeps_picture_sample :
    let events : List (BoardEvent Float) :=
      [.view (.down (first Sample.orders "o") ⟨60, 70⟩), .view .zoomIn, .edit (.removeTable 2),
        .view (.move ⟨260, 170⟩), .edit (.moveTable 1 ⟨5, 5⟩)]
    let board := (ofGraph Sample.graph .standard).run events
    Sample.graph.Reachable ∧ board.stage.view.gesture.table? = some 1 ∧
      (board.step (.view .up)).picture = board.picture ∧
      (board.step (.view .teardown)).graph = board.graph := by
  intro events board
  have hstage := stage_run (ofGraph Sample.graph .standard) events
  have hdragged : ((Stage.ofSettings .standard).run
      (events.filterMap BoardEvent.view?)).view.gesture.table? = some 1 := by
    decide +kernel
  obtain ⟨hpicture, -, -, hgraph, -⟩ := release_keeps_picture board.graph .standard _ hdragged
  have hboard : board = ⟨board.graph, (Stage.ofSettings .standard).run
      (events.filterMap BoardEvent.view?)⟩ := by
    rw [Board.mk.injEq]
    exact ⟨rfl, hstage⟩
  rw [← hboard] at hpicture hgraph
  exact ⟨Sample.reachable_graph, hstage ▸ hdragged, hpicture, hgraph⟩

end Board

end QueryBuilder

/-
**Drags over a graph that is edited meanwhile.**

A drag holds its table by the id alone, and the graph may be edited in any way until the pointer
goes up: tables come and go, or everything is dropped.  The commit then moves the table that has the
id by now.  As long as the grabbed table stays on the canvas this is the grabbed table, and no other
one is moved.  If it is gone, the commit does nothing, unless its id was given to a new table in
between.

Ids are counted up, and so an id within the count is not given out again while nothing resets the
count.  Dropping everything does reset it; and the count of a loaded graph does not know of the ids
that the graph brought along, once their tables are removed.  In both cases a drag can move a table
that was never grabbed.

Main definitions:

* `QueryBuilder.Board` — a graph with a view whose commits it receives;
* `QueryBuilder.Graph.Issues`, `QueryBuilder.Board.Issued` — an id is given to a new table;
* `QueryBuilder.Board.Stays` — a table with an id is there all along;
* `QueryBuilder.Graph.Counted` — the ids of all tables are within the count;
* `QueryBuilder.Board.MovesOnlyGrabbed` — a session in which releases move grabbed tables alone.

Main results:

* `QueryBuilder.Graph.table?_apply` — what an id names after an edit;
* `QueryBuilder.Board.graph_run` — what edits preserve, events of a board preserve;
* `QueryBuilder.Board.table?_run_of_stays`, `QueryBuilder.Board.table?_run_of_gone` — and after any
  events;
* `QueryBuilder.Board.not_issued` — ids within the count are not given out again;
* `QueryBuilder.Board.release_moves_grabbed` — **what a release does to the graph**;
* `QueryBuilder.Board.release_moves_other` — a release that moves a table that was never grabbed.
-/

import QueryBuilder.Proofs.Canvas.Gestures
import QueryBuilder.Proofs.Graph.Effects
import QueryBuilder.Proofs.Graph.Faithfulness

set_option autoImplicit false

namespace QueryBuilder

variable {α : Type}

/-! ### What an id names after an edit -/

/-- The table under an id is gone, or it is the one that was there, at some place. -/
def Diagram.KeepsTable (d d' : Diagram α) (id : Nat) : Prop :=
  d'.table? id = none ∨
    ∃ t position, d.table? id = some t ∧ d'.table? id = some { t with position }

theorem Diagram.keepsTable_of_eq {d d' : Diagram α} {id : Nat} (h : d'.table? id = d.table? id) :
    d.KeepsTable d' id := by
  cases ht : d.table? id with
  | none => exact .inl (h.trans ht)
  | some t => exact .inr ⟨t, t.position, ht, h.trans ht⟩

theorem Diagram.keepsTable_moved (d : Diagram α) (moved id : Nat) (position : Position α) :
    d.KeepsTable (d.moved moved position) id := by
  unfold KeepsTable
  rw [table?_moved]
  cases ht : d.table? id with
  | none => exact .inl rfl
  | some t =>
      by_cases hmoved : t.id = moved
      · exact .inr ⟨t, position, rfl, by rw [Option.map_some, if_pos hmoved]⟩
      · exact .inr ⟨t, t.position, rfl, by rw [Option.map_some, if_neg hmoved]⟩

theorem Diagram.keepsTable_withoutTable (d : Diagram α) (gone id : Nat) :
    d.KeepsTable (d.withoutTable gone) id := by
  by_cases h : id = gone
  · refine .inl (List.find?_eq_none.2 fun t ht => ?_)
    have hne := (List.mem_filter.1 ht).2
    simpa [h] using hne
  · exact keepsTable_of_eq (table?_filter h)

namespace Graph

variable [Coordinate α]

/-- An edit gives an id to a new table. -/
def Issues (g : Graph α) (e : Edit α) (id : Nat) : Prop :=
  (∃ t, e = .addTable t) ∧ g.answer e = .ok (some id)

/-- The id that a new table gets was not in use, and is above the count. -/
theorem Issues.fresh {g : Graph α} {e : Edit α} {id : Nat} (h : g.Issues e id) :
    g.table? id = none ∧ g.lastId < id := by
  obtain ⟨⟨t, rfl⟩, hanswer⟩ := h
  have hmakes := makes_of_answer hanswer
  generalize (g.apply (.addTable t)).toDiagram = d at hmakes
  cases hmakes with
  | addTable hcatalog hdatabase =>
      refine ⟨List.find?_eq_none.2 fun t ht hid => ?_, g.lastId_lt_nextId⟩
      exact nextId_not_mem (beq_iff_eq.1 hid ▸ Diagram.table_id_mem ht)

/-- **What an id names after an edit**: a new table, nothing, or what it named before, at some
place. -/
theorem table?_apply (g : Graph α) (e : Edit α) (id : Nat) :
    g.Issues e id ∨ g.KeepsTable (g.apply e).toDiagram id := by
  cases hanswer : g.answer e with
  | error err =>
      rw [toDiagram_of_refused hanswer]
      exact .inr (Diagram.keepsTable_of_eq rfl)
  | ok added =>
      have hmakes := makes_of_answer hanswer
      generalize (g.apply e).toDiagram = d at hmakes ⊢
      cases hmakes with
      | @addTable t hcatalog hdatabase =>
          by_cases hid : id = g.nextId
          · subst hid
            exact .inl ⟨⟨t, rfl⟩, hanswer⟩
          · refine .inr (Diagram.keepsTable_of_eq ?_)
            have hnew : (g.tableToAdd t).id ≠ id := Ne.symm hid
            simp [Diagram.table?, List.find?_append, hnew]
      | removeTable h => exact .inr (g.keepsTable_withoutTable _ id)
      | moveTable h => exact .inr (g.keepsTable_moved _ id _)
      | commitPosition h => exact .inr (g.keepsTable_moved _ id _)
      | reset => exact .inr (.inl rfl)
      | _ => exact .inr (Diagram.keepsTable_of_eq rfl)

/-- The ids of all tables are within the count. -/
def Counted (g : Graph α) : Prop :=
  ∀ t ∈ g.tables, t.id ≤ g.lastId

/-- **Every edit keeps the ids of tables within the count.** -/
theorem Counted.apply {g : Graph α} (h : g.Counted) (e : Edit α) : (g.apply e).Counted := by
  by_cases hreset : e = .reset
  · subst hreset
    intro t ht
    cases ht
  · have hcount := g.lastId_le_apply hreset
    -- a table is one that was there, or the new one, whose id is the new count
    suffices htables : ∀ t ∈ (g.apply e).tables,
        (∃ old ∈ g.tables, t.id = old.id) ∨ t.id = (g.apply e).lastId by
      intro t ht
      rcases htables t ht with ⟨old, hold, hid⟩ | hid
      · exact hid ▸ Nat.le_trans (h old hold) hcount
      · exact Nat.le_of_eq hid
    cases hanswer : g.answer e with
    | error err =>
        rw [toDiagram_of_refused hanswer]
        exact fun t ht => .inl ⟨t, ht, rfl⟩
    | ok added =>
        have hmakes := makes_of_answer hanswer
        generalize hd : (g.apply e).toDiagram = d at hmakes ⊢
        cases hmakes with
        | addTable hcatalog hdatabase =>
            intro t ht
            rcases List.mem_append.1 ht with ht | ht
            · exact .inl ⟨t, ht, rfl⟩
            · refine .inr ?_
              rw [List.mem_singleton.1 ht, Graph.apply, addTable_eq, hcatalog, hdatabase]
              rfl
        | removeTable _ => exact fun t ht => .inl ⟨t, (List.mem_filter.1 ht).1, rfl⟩
        | moveTable _ | commitPosition _ =>
            intro t ht
            obtain ⟨old, hold, rfl⟩ := List.mem_map.1 ht
            exact .inl ⟨old, hold, by split <;> rfl⟩
        | reset => exact (hreset rfl).elim
        | _ => exact fun t ht => .inl ⟨t, ht, rfl⟩

omit [Coordinate α] in
/-- A commit moves the table under the id. -/
theorem commitPosition_of_table? {g : Graph α} {id : Nat} {t : PlacedTable α}
    (h : g.table? id = some t) (place : Position α) :
    g.commitPosition id place = { g with toDiagram := g.moved id place } := by
  rw [commitPosition, moveTable_eq, h]
  rfl

omit [Coordinate α] in
/-- A commit does nothing if there is no such table. -/
theorem commitPosition_of_missing {g : Graph α} {id : Nat} (h : g.table? id = none)
    (place : Position α) : g.commitPosition id place = g := by
  rw [commitPosition, moveTable_eq, h]
  rfl

end Graph

/-! ### Boards -/

/-- What happens on a board: something to the view, or an edit of the graph. -/
inductive BoardEvent (α : Type) where
  | view (e : ViewEvent α)
  | edit (e : Edit α)

/-- What an event does to the view, if it is one of the view. -/
def BoardEvent.view? : BoardEvent α → Option (ViewEvent α)
  | .view e => some e
  | .edit _ => none

/-- Two receivers of places are one that hands each place to both. -/
instance {σ τ : Type} [PositionSink σ α] [PositionSink τ α] : PositionSink (σ × τ) α :=
  ⟨fun sinks table place =>
    (PositionSink.commit sinks.1 table place, PositionSink.commit sinks.2 table place)⟩

/-- A graph with a view, which commits to the graph. -/
structure Board (α : Type) where
  graph : Graph α
  stage : Stage α

namespace Board

variable [Coordinate α]

/-- A graph and a view on which nothing has happened yet. -/
def ofGraph (g : Graph α) (settings : Settings α) : Board α :=
  ⟨g, .ofSettings settings⟩

/-- The board after an event.  A release is told to the graph and to the list of commits. -/
def step (b : Board α) : BoardEvent α → Board α
  | .edit e => { b with graph := b.graph.apply e }
  | .view .up =>
    let (_, view, (graph, commits), host) :=
      b.stage.view.pointerUp (b.graph, b.stage.commits) b.stage.host
    ⟨graph, view, host, commits⟩
  | .view e => { b with stage := b.stage.step e }

/-- A release is told to the graph alone and to the stage alone as it is told to both. -/
theorem step_up (b : Board α) :
    b.step (.view .up) =
      ⟨(b.stage.view.pointerUp b.graph b.stage.host).2.2.1, b.stage.step .up⟩ := by
  simp only [step, Stage.step, View.pointerUp]
  cases b.stage.view.gesture with
  | idle => rfl
  | dragging table offset =>
      simp only
      cases b.stage.view.shadow.lookup table <;> rfl

/-- The board after a list of events, the first of which comes first. -/
def run (b : Board α) (events : List (BoardEvent α)) : Board α :=
  events.foldl step b

@[simp] theorem run_cons (b : Board α) (e : BoardEvent α) (events : List (BoardEvent α)) :
    b.run (e :: events) = (b.step e).run events := rfl

theorem run_append (b : Board α) (before after : List (BoardEvent α)) :
    b.run (before ++ after) = (b.run before).run after :=
  List.foldl_append

/-- The view does not depend on the graph. -/
theorem stage_run (b : Board α) (events : List (BoardEvent α)) :
    (b.run events).stage = b.stage.run (events.filterMap BoardEvent.view?) := by
  induction events generalizing b with
  | nil => rfl
  | cons e events ih =>
      rw [run_cons, ih]
      cases e with
      | edit e => rfl
      | view e =>
          cases e with
          | up =>
              rw [step_up]
              rfl
          | _ => rfl

/-! ### Tables during a drag -/

instance (s : Stage α) (table : PlacedTable α) (pointer : Position α) :
    Decidable (s.Grabs table pointer) :=
  inferInstanceAs (Decidable (_ = true))

/-- An event that leaves drags alone: an edit, or one of the view that ends no drag. -/
def Quiet (e : BoardEvent α) : Prop :=
  ∀ e' ∈ e.view?, e'.endsDrag = false

/-- After none of the events, and not before them, a table with an id was missing. -/
def Stays (b : Board α) (id : Nat) : List (BoardEvent α) → Prop
  | [] => b.graph.table? id ≠ none
  | e :: events => b.graph.table? id ≠ none ∧ (b.step e).Stays id events

instance decidableStays (b : Board α) (id : Nat) :
    (events : List (BoardEvent α)) → Decidable (b.Stays id events)
  | [] => inferInstanceAs (Decidable (b.graph.table? id ≠ none))
  | e :: events =>
    have := decidableStays (b.step e) id events
    inferInstanceAs (Decidable (b.graph.table? id ≠ none ∧ (b.step e).Stays id events))

/-- During the events, an id was given to a new table. -/
def Issued (b : Board α) (id : Nat) : List (BoardEvent α) → Prop
  | [] => False
  | e :: events => (∃ edit, e = .edit edit ∧ b.graph.Issues edit id) ∨ (b.step e).Issued id events


variable {b : Board α} {id : Nat} {events : List (BoardEvent α)}

/-- Every event edits the graph, commits to it, or leaves it alone. -/
theorem graph_step (b : Board α) (e : BoardEvent α) :
    (b.step e).graph = b.graph ∨
      ∃ edit, (b.step e).graph = b.graph.apply edit ∧
        (e = .edit edit ∨ ∃ id position, edit = .commitPosition id position) := by
  cases e with
  | edit edit => exact .inr ⟨edit, rfl, .inl rfl⟩
  | view e =>
      cases e with
      | up =>
          rw [step_up, View.pointerUp_sink]
          cases (b.stage.view.pointerUp b.graph b.stage.host).1 with
          | none => exact .inl rfl
          | some commit =>
              exact .inr ⟨.commitPosition commit.1 commit.2, rfl, .inr ⟨_, _, rfl⟩⟩
      | _ => exact .inl rfl

/-- What an id names after an event that leaves drags alone. -/
theorem table?_step {e : BoardEvent α} (h : Quiet e) (b : Board α) (id : Nat) :
    (∃ edit, e = .edit edit ∧ b.graph.Issues edit id) ∨
      b.graph.KeepsTable (b.step e).graph.toDiagram id := by
  cases e with
  | edit edit =>
      rcases b.graph.table?_apply edit id with hissues | hkeeps
      · exact .inl ⟨edit, rfl, hissues⟩
      · exact .inr hkeeps
  | view e =>
      have hends : e.endsDrag = false := h e rfl
      cases e with
      | up => cases hends
      | _ => exact .inr (Diagram.keepsTable_of_eq rfl)

/-- **A table that stays is the one that was there**, at some place. -/
theorem table?_run_of_stays (hquiet : ∀ e ∈ events, Quiet e) (h : b.Stays id events) :
    ∃ t position, b.graph.table? id = some t ∧
      (b.run events).graph.table? id = some { t with position } := by
  induction events generalizing b with
  | nil =>
      obtain ⟨t, ht⟩ := Option.ne_none_iff_exists'.1 h
      exact ⟨t, t.position, ht, ht⟩
  | cons e events ih =>
      obtain ⟨hthere, hrest⟩ := h
      obtain ⟨he, hevents⟩ := List.forall_mem_cons.1 hquiet
      obtain ⟨next, position, hnext, hrun⟩ := ih hevents hrest
      rcases table?_step he b id with ⟨edit, -, hissues⟩ | hnone | ⟨t, place, ht, hstep⟩
      · exact (hthere hissues.fresh.1).elim
      · rw [hnone] at hnext
        cases hnext
      · rw [hstep, Option.some.injEq] at hnext
        subst hnext
        exact ⟨t, position, ht, hrun⟩

/-- An id that names nothing and is not given out names nothing afterwards. -/
theorem table?_run_of_missing (hquiet : ∀ e ∈ events, Quiet e) (h : b.graph.table? id = none)
    (hissued : ¬ b.Issued id events) : (b.run events).graph.table? id = none := by
  induction events generalizing b with
  | nil => exact h
  | cons e events ih =>
      obtain ⟨he, hevents⟩ := List.forall_mem_cons.1 hquiet
      refine ih hevents ?_ fun hrest => hissued (.inr hrest)
      rcases table?_step he b id with hissues | hnone | ⟨t, place, ht, -⟩
      · exact (hissued (.inl hissues)).elim
      · exact hnone
      · rw [h] at ht
        cases ht

/-- **A table that is gone stays away**, if its id is not given to a new one. -/
theorem table?_run_of_gone (hquiet : ∀ e ∈ events, Quiet e) (h : ¬ b.Stays id events)
    (hissued : ¬ b.Issued id events) : (b.run events).graph.table? id = none := by
  induction events generalizing b with
  | nil => exact not_not.1 h
  | cons e events ih =>
      by_cases hthere : b.graph.table? id = none
      · exact table?_run_of_missing hquiet hthere hissued
      · exact ih (List.forall_mem_cons.1 hquiet).2 (fun hrest => h ⟨hthere, hrest⟩)
          fun hrest => hissued (.inr hrest)

/-- **Ids within the count are not given out again**, if the count is not reset. -/
theorem not_issued (hreset : .edit .reset ∉ events) (h : id ≤ b.graph.lastId) :
    ¬ b.Issued id events := by
  induction events generalizing b with
  | nil => exact fun hissued => hissued
  | cons e events ih =>
      rw [List.mem_cons, not_or] at hreset
      rintro (⟨edit, -, hissues⟩ | hrest)
      · exact Nat.not_lt_of_le h hissues.fresh.2
      · refine ih hreset.2 (Nat.le_trans h ?_) hrest
        rcases b.graph_step e with hsame | ⟨edit, hedit, hwhich⟩
        · exact Nat.le_of_eq (by rw [hsame])
        · rw [hedit]
          refine b.graph.lastId_le_apply ?_
          rcases hwhich with rfl | ⟨id, position, rfl⟩
          · rintro rfl
            exact hreset.1 rfl
          · simp

/-- **What every edit of a graph preserves, every run of events preserves.** -/
theorem graph_run {P : Graph α → Prop} (hP : ∀ (g : Graph α) (e : Edit α), P g → P (g.apply e))
    (h : P b.graph) (events : List (BoardEvent α)) : P (b.run events).graph := by
  induction events generalizing b with
  | nil => exact h
  | cons e events ih =>
      refine ih ?_
      rcases b.graph_step e with hsame | ⟨edit, hedit, -⟩
      · rw [hsame]
        exact h
      · rw [hedit]
        exact hP _ edit h

/-! ### Releases -/

/-- After some events the pointer goes down on a table and begins a drag, and the next events leave
the drag alone. -/
structure Drags (b : Board α) (before : List (BoardEvent α)) (table : PlacedTable α)
    (pointer : Position α) (during : List (BoardEvent α)) : Prop where
  grabs : (b.run before).stage.Grabs table pointer
  quiet : ∀ e ∈ during, Quiet e

/-- A drag that goes on was begun by the pointer going down on the table that is dragged. -/
theorem exists_drags (h : b.stage.Sound) (hidle : b.stage.view.gesture = .idle)
    (hdragged : (b.run events).stage.view.gesture.table? = some id) :
    ∃ before table pointer during, events = before ++ .view (.down table pointer) :: during ∧
      table.id = id ∧ b.Drags before table pointer during := by
  rw [stage_run] at hdragged
  obtain ⟨table, place, hholds, hid, -⟩ := Stage.traced_run h hidle _ hdragged
  obtain ⟨before, pointer, during, hviews, hgrabs, hquiet, -⟩ := hholds
  -- the events of the view are split at the same place as all events
  obtain ⟨first, rest, rfl, rfl, hrest⟩ := List.filterMap_eq_append_iff.1 hviews
  obtain ⟨edits, e, during', rfl, hedits, he, rfl⟩ := List.filterMap_eq_cons_iff.1 hrest
  cases e with
  | edit e => cases he
  | view e =>
      cases he
      refine ⟨first ++ edits, table, pointer, during', by simp, hid, ?_, ?_⟩
      · have hnone : edits.filterMap BoardEvent.view? = [] := List.filterMap_eq_nil_iff.2 hedits
        rw [stage_run, List.filterMap_append, hnone, List.append_nil]
        exact hgrabs
      · intro e he e' he'
        exact hquiet e' (List.mem_filterMap.2 ⟨e, he, he'⟩)

/-- The pointer goes up while nothing is dragged. -/
theorem graph_release_idle (h : b.stage.view.gesture = .idle) :
    (b.step (.view .up)).graph = b.graph := by
  simp only [step_up, View.pointerUp, h]

/-- The pointer goes up during a drag: the table under the id is moved, if there is one. -/
theorem graph_release_dragging (h : b.stage.Sound)
    (hdragged : b.stage.view.gesture.table? = some id) :
    ∃ place, (b.step (.view .up)).graph = b.graph.commitPosition id place := by
  obtain ⟨offset, hgesture⟩ := Gesture.table?_eq_some.1 hdragged
  cases h with
  | idle hidle _ _ =>
      rw [hidle] at hgesture
      cases hgesture
  | @dragging table offset' place hdragging hshadow _ =>
      have htable : table = id := by
        rw [hdragging] at hdragged
        exact Option.some.inj hdragged
      subst htable
      refine ⟨place, ?_⟩
      simp only [step_up, View.pointerUp, hdragging, hshadow, List.lookup_cons_self]
      rfl

/-- **What a release does to the graph.**  If nothing is dragged, it does nothing.  Otherwise the
pointer had gone down on a table before.  If this table stayed on the canvas, it and no other one is
moved.  If it is gone, nothing is moved, unless its id was given to a new table in between; and this
cannot be if the id was within the count and nothing was dropped as a whole.  If the session began
without parts, all ids are within the count at any time. -/
theorem release_moves_grabbed {g : Graph α} (h : g.Reachable) (settings : Settings α)
    (events : List (BoardEvent α)) :
    let start := ofGraph g settings
    let board := start.run events
    (board.stage.view.gesture = .idle → (board.step (.view .up)).graph = board.graph) ∧
    ∀ id, board.stage.view.gesture.table? = some id →
      ∃ before table pointer during,
        events = before ++ .view (.down table pointer) :: during ∧ table.id = id ∧
        start.Drags before table pointer during ∧
        let grabbed := start.run (before ++ [.view (.down table pointer)])
        (grabbed.Stays id during →
          ∃ held position place, grabbed.graph.table? id = some held ∧
            (table ∈ grabbed.graph.tables → held = table) ∧
            (∀ t ∈ board.graph.tables, t.id = id ↔ t = { held with position }) ∧
            (board.step (.view .up)).graph =
              { board.graph with toDiagram := board.graph.moved id place }) ∧
        (¬ grabbed.Stays id during → ¬ grabbed.Issued id during →
          (board.step (.view .up)).graph = board.graph) ∧
        (.edit .reset ∉ during → id ≤ grabbed.graph.lastId → ¬ grabbed.Issued id during) ∧
        (g.tables = [] → ∀ t ∈ grabbed.graph.tables, t.id ≤ grabbed.graph.lastId) := by
  intro start board
  have hsound : board.stage.Sound := by
    rw [stage_run]
    exact (Stage.sound_ofSettings settings).run _
  refine ⟨graph_release_idle, fun id hdragged => ?_⟩
  obtain ⟨before, table, pointer, during, hevents, hid, hdrags⟩ :=
    exists_drags (Stage.sound_ofSettings settings) rfl hdragged
  refine ⟨before, table, pointer, during, hevents, hid, hdrags, ?_⟩
  intro grabbed
  have hrun : board = grabbed.run during := by
    rw [← run_append, List.append_assoc, List.singleton_append, ← hevents]
  have hvalid : ∀ events, (start.run events).graph.toDiagram.Valid :=
    graph_run (P := fun g => g.toDiagram.Valid) (fun _ e hg => hg.apply e) h.valid
  obtain ⟨place, hrelease⟩ := graph_release_dragging hsound hdragged
  refine ⟨fun hstays => ?_, fun hgone hissued => ?_, not_issued, fun hempty => ?_⟩
  · obtain ⟨held, position, hheld, hnow⟩ := table?_run_of_stays hdrags.quiet hstays
    rw [← hrun] at hnow
    obtain ⟨hmem, hheldId⟩ := Diagram.mem_of_table? hheld
    obtain ⟨hnowMem, hnowId⟩ := Diagram.mem_of_table? hnow
    refine ⟨held, position, place, hheld, fun htable => ?_, fun t ht => ⟨fun hsame => ?_, ?_⟩, ?_⟩
    · exact (hvalid _).eq_of_id_eq hmem htable (hheldId.trans hid.symm)
    · exact (hvalid events).eq_of_id_eq ht hnowMem (hsame.trans hnowId.symm)
    · rintro rfl
      exact hnowId
    · rw [hrelease, Graph.commitPosition_of_table? hnow]
  · have hnow := table?_run_of_gone hdrags.quiet hgone hissued
    rw [← hrun] at hnow
    rw [hrelease, Graph.commitPosition_of_missing hnow]
  · have hcounted : g.Counted := fun t ht => by
      rw [hempty] at ht
      cases ht
    exact graph_run (P := Graph.Counted) (fun _ e hg => hg.apply e) hcounted _

/-- A table as it is placed first, under the first id. -/
def first (t : NewTable) (aliasName : String) : PlacedTable Float :=
  { t with id := 1, aliasName, position := ⟨50, 50⟩ }

/-- The grabbed table is removed and another one added before the pointer goes up: nothing is
moved. -/
theorem release_moves_grabbed_sample :
    let board := (ofGraph Sample.graph .standard).run
      [.view (.down (first Sample.orders "o") ⟨60, 70⟩), .edit (.removeTable 1),
        .edit (.addTable Sample.orders), .view (.move ⟨260, 170⟩)]
    Sample.graph.Reachable ∧ board.stage.view.gesture.table? = some 1 ∧
      (board.step (.view .up)).graph = board.graph := by
  intro board
  have hdragged : board.stage.view.gesture.table? = some 1 := by decide +kernel
  obtain ⟨before, grabbed, pointer, during, hevents, -, -, hmoved⟩ :=
    (release_moves_grabbed Sample.reachable_graph .standard _).2 1 hdragged
  obtain ⟨-, hgone, hnot, -⟩ := hmoved
  refine ⟨Sample.reachable_graph, hdragged, ?_⟩
  -- there is only one event that can have begun the drag
  rcases before with _ | ⟨_, _ | ⟨_, _ | ⟨_, _ | ⟨_, before⟩⟩⟩⟩ <;> simp at hevents
  obtain ⟨⟨rfl, rfl⟩, rfl⟩ := hevents
  exact hgone (by decide +kernel) (hnot (by simp) (by decide +kernel))

/-! ### Releases that move another table -/

/-- The session of a graph moves only grabbed tables: whenever a table of the canvas is grabbed, and
whatever happens until the pointer goes up, the release leaves every other table where it is. -/
def MovesOnlyGrabbed (g : Graph α) (settings : Settings α) : Prop :=
  ∀ before table pointer during, (ofGraph g settings).Drags before table pointer during →
    table ∈ ((ofGraph g settings).run before).graph.tables →
      let board := (ofGraph g settings).run (before ++ .view (.down table pointer) :: during)
      ∀ t ∈ board.graph.tables, t ∉ (board.step (.view .up)).graph.tables →
        ∃ position, t = { table with position }

/-- A single table, as it is saved. -/
def single : Diagram Float :=
  { database := some 4, tables := [first Sample.orders "o"], joins := [], columns := [],
    filters := [] }

/-- **A release may move a table that was never grabbed.**  Dropping everything begins the count
again, and so the next table gets the id that the drag still holds; and in a loaded graph the next
table gets the id of the grabbed one, once that is removed. -/
theorem release_moves_other :
    ¬ MovesOnlyGrabbed (.empty .standard : Graph Float) .standard ∧
    ∃ loaded, Graph.load single = .ok loaded ∧ ¬ MovesOnlyGrabbed loaded .standard := by
  have hother : ∀ position,
      first Sample.customers "c" ≠ { first Sample.orders "o" with position } := by
    intro position heq
    cases congrArg (fun t : PlacedTable Float => t.catalogId) heq
  constructor
  · intro h
    obtain ⟨position, heq⟩ := h [.edit (.addTable Sample.orders)] (first Sample.orders "o") ⟨60, 70⟩
      [.edit .reset, .edit (.addTable Sample.customers), .view (.move ⟨260, 170⟩)]
      ⟨by decide +kernel, by simp [Quiet, BoardEvent.view?, ViewEvent.endsDrag]⟩ (by decide +kernel)
      (first Sample.customers "c") (by decide +kernel) (by decide +kernel)
    exact hother position heq
  · refine ⟨.ofDiagram single .standard, rfl, fun h => ?_⟩
    obtain ⟨position, heq⟩ := h [] (first Sample.orders "o") ⟨60, 70⟩
      [.edit (.removeTable 1), .edit (.addTable Sample.customers), .view (.move ⟨260, 170⟩)]
      ⟨by decide +kernel, by simp [Quiet, BoardEvent.view?, ViewEvent.endsDrag]⟩ (by decide +kernel)
      (first Sample.customers "c") (by decide +kernel) (by decide +kernel)
    exact hother position heq

end Board

end QueryBuilder

/-
**Drags, whatever order their events come in.**

The pointer may go down twice, go up while nothing is dragged, or the view may be torn down in the
middle of a drag; the zoom and the grid may change at any time.  In all these orders the state of
the view stays one of two.  Either nothing is dragged, there is no shadow and no listener is
attached, or one table is dragged, it has the only shadow and listeners are attached once.

A drag that ends with the pointer going up is committed once.  What is committed is the table on
which the pointer went down, at the place that the pointer's last move gave it, or where it was if
the pointer did not move.  A drag that ends otherwise is not committed.

Main definitions:

* `QueryBuilder.ViewEvent`, `QueryBuilder.Stage` — what happens to a view, and a view with its
  listeners and with what it committed;
* `QueryBuilder.Stage.step`, `QueryBuilder.Stage.run` — a stage after an event, and after a list of
  them;
* `QueryBuilder.Stage.places` — the places that the moves of the pointer gave;
* `QueryBuilder.Stage.releases` — how often the pointer went up during a drag;
* `QueryBuilder.Stage.Holds` — a drag that goes on, with its table and the place of this table.

Main results:

* `QueryBuilder.Stage.Sound.step`, `QueryBuilder.Stage.Sound.run` — one step, and a whole run, leave
  the stage in one of the two states;
* `QueryBuilder.Stage.traced_run` — a drag that goes on was begun by the pointer going down;
* `QueryBuilder.Stage.drag_machine` — **the states, the listeners and the commits of any run**.
-/

import Mathlib.Data.List.Induction
import QueryBuilder.Canvas.Drag

set_option autoImplicit false

namespace QueryBuilder

variable {α : Type}

/-! ### Events -/

/-- What happens to a view. -/
inductive ViewEvent (α : Type) where
  | down (table : PlacedTable α) (pointer : Position α)
  | move (pointer : Position α)
  | up
  | teardown
  | setZoom (zoom : α)
  | zoomIn
  | zoomOut
  | resetZoom
  | snapToGrid (enabled : Bool)
  | fit (tables : List (PlacedTable α)) (width height : α)

/-- Whether an event ends a drag. -/
def ViewEvent.endsDrag : ViewEvent α → Bool
  | .up | .teardown => true
  | _ => false

/-- The table that is dragged. -/
def Gesture.table? : Gesture α → Option Nat
  | .idle => none
  | .dragging table _ => some table

theorem Gesture.table?_eq_some {gesture : Gesture α} {table : Nat} :
    gesture.table? = some table ↔ ∃ offset, gesture = .dragging table offset := by
  cases gesture with
  | idle => simp [Gesture.table?]
  | dragging table' offset => simp [Gesture.table?]

/-- A list receives the places of tables that are let go by keeping them all. -/
instance : PositionSink (List (Nat × Position α)) α :=
  ⟨fun commits table place => commits ++ [(table, place)]⟩

/-- **What is told of a release is what was committed.**  Whoever receives the place of the table
that is let go receives it once, and nothing if none is told. -/
theorem View.pointerUp_sink {σ : Type} [PositionSink σ α] (v : View α) (sink : σ)
    (host : Listeners) :
    (v.pointerUp sink host).2.2.1 =
      match (v.pointerUp sink host).1 with
      | some (table, place) => PositionSink.commit sink table place
      | none => sink := by
  unfold pointerUp
  cases v.gesture with
  | idle => rfl
  | dragging table offset =>
      simp only
      cases v.shadow.lookup table <;> rfl

/-- A view with its listeners, and with what it committed so far, the first commit first. -/
structure Stage (α : Type) where
  view : View α
  host : Listeners
  commits : List (Nat × Position α)

namespace Stage

variable [Coordinate α]

/-- A stage on which nothing has happened yet. -/
def ofSettings (settings : Settings α) : Stage α :=
  ⟨.ofSettings settings, .none, []⟩

/-- The stage after an event. -/
def step (s : Stage α) : ViewEvent α → Stage α
  | .down table pointer =>
    let (_, view, host) := s.view.pointerDown table pointer s.host
    { s with view, host }
  | .move pointer => { s with view := (s.view.pointerMove pointer).2 }
  | .up =>
    let (_, view, commits, host) := s.view.pointerUp s.commits s.host
    ⟨view, host, commits⟩
  | .teardown =>
    let (view, host) := s.view.teardown s.host
    { s with view, host }
  | .setZoom zoom => { s with view := s.view.setZoom zoom }
  | .zoomIn => { s with view := s.view.zoomIn }
  | .zoomOut => { s with view := s.view.zoomOut }
  | .resetZoom => { s with view := s.view.resetZoom }
  | .snapToGrid enabled => { s with view := s.view.setGridSnap enabled }
  | .fit tables width height => { s with view := s.view.fit tables width height }

/-- The stage after a list of events, the first of which comes first. -/
def run (s : Stage α) (events : List (ViewEvent α)) : Stage α :=
  events.foldl step s

@[simp] theorem run_nil (s : Stage α) : s.run [] = s := rfl

@[simp] theorem run_cons (s : Stage α) (e : ViewEvent α) (events : List (ViewEvent α)) :
    s.run (e :: events) = (s.step e).run events := rfl

theorem run_append (s : Stage α) (before after : List (ViewEvent α)) :
    s.run (before ++ after) = (s.run before).run after :=
  List.foldl_append

/-- The place that an event gives to the dragged table, if the pointer moves and drags one. -/
def place? (s : Stage α) : ViewEvent α → Option (Position α)
  | .move pointer => (s.view.pointerMove pointer).1
  | _ => none

/-- The places that the moves of the pointer gave to the dragged table, in order. -/
def places (s : Stage α) : List (ViewEvent α) → List (Position α)
  | [] => []
  | e :: events => (s.place? e).toList ++ (s.step e).places events

/-- Whether an event is the pointer going up during a drag. -/
def releasesAt (s : Stage α) : ViewEvent α → Bool
  | .up => s.view.gesture.table?.isSome
  | _ => false

/-- How often the pointer went up during a drag. -/
def releases (s : Stage α) : List (ViewEvent α) → Nat
  | [] => 0
  | e :: events => (if s.releasesAt e then 1 else 0) + (s.step e).releases events

/-- The pointer goes down on a table and begins a drag. -/
def Grabs (s : Stage α) (table : PlacedTable α) (pointer : Position α) : Prop :=
  (s.view.pointerDown table pointer s.host).1 = true

/-- After some events a drag goes on that was begun by the pointer going down on a table.  The table
is shown where the last move brought it, or where it was when the drag began. -/
def Holds (s : Stage α) (events : List (ViewEvent α)) (table : PlacedTable α) (place : Position α) :
    Prop :=
  ∃ before pointer during,
    events = before ++ .down table pointer :: during ∧
      (s.run before).Grabs table pointer ∧ (∀ e ∈ during, e.endsDrag = false) ∧
        place = (((s.run before).step (.down table pointer)).places during).getLast?.getD
          table.position

end Stage

/-! ### Shadows -/

theorem setShadow_nil (table : Nat) (p : Position α) : setShadow [] table p = [(table, p)] := rfl

theorem setShadow_single (table : Nat) (p p' : Position α) :
    setShadow [(table, p)] table p' = [(table, p')] := by
  simp [setShadow]

namespace Stage

variable [Coordinate α] {s : Stage α}

/-! ### The two states -/

/-- Either nothing is dragged, nothing has a shadow and no listeners are attached, or one table is
dragged, it has the only shadow and listeners are attached once. -/
inductive Sound (s : Stage α) : Prop where
  | idle (hgesture : s.view.gesture = .idle) (hshadow : s.view.shadow = [])
      (hhost : s.host.attached = s.host.detached)
  | dragging {table : Nat} {offset place : Position α}
      (hgesture : s.view.gesture = .dragging table offset)
      (hshadow : s.view.shadow = [(table, place)])
      (hhost : s.host.attached = s.host.detached + 1)

omit [Coordinate α] in
/-- The zoom and the grid do not matter. -/
theorem Sound.congr {s' : Stage α} (h : s.Sound) (hgesture : s'.view.gesture = s.view.gesture)
    (hshadow : s'.view.shadow = s.view.shadow) (hhost : s'.host = s.host) : s'.Sound := by
  cases h with
  | idle hg hs hh => exact .idle (hgesture.trans hg) (hshadow.trans hs) (by rw [hhost, hh])
  | dragging hg hs hh => exact .dragging (hgesture.trans hg) (hshadow.trans hs) (by rw [hhost, hh])

theorem sound_ofSettings (settings : Settings α) : (ofSettings settings).Sound :=
  .idle rfl rfl rfl

/-! ### Single events -/

/-- A drag begins only if none goes on. -/
theorem step_down_of_grabs {table : PlacedTable α} {pointer : Position α}
    (h : s.Grabs table pointer) :
    s.view.gesture = .idle ∧ ∃ offset,
      s.step (.down table pointer) =
        { s with
          view := { s.view with
            gesture := .dragging table.id offset
            shadow := setShadow s.view.shadow table.id table.position }
          host := s.host.attach } := by
  unfold Grabs View.pointerDown at h
  cases hgesture : s.view.gesture with
  | dragging _ _ =>
      rw [hgesture] at h
      cases h
  | idle =>
      rw [hgesture] at h
      simp only at h
      split at h
      · next hheader =>
          let point := s.view.toCanvas pointer
          refine ⟨rfl, ⟨point.x - table.position.x, point.y - table.position.y⟩, ?_⟩
          simp only [step, View.pointerDown, hgesture, if_pos hheader]
          rfl
      · cases h

/-- If the pointer goes down and no drag begins, nothing happens. -/
theorem step_down_of_not_grabs {table : PlacedTable α} {pointer : Position α}
    (h : ¬ s.Grabs table pointer) : s.step (.down table pointer) = s := by
  unfold Grabs View.pointerDown at h
  cases hgesture : s.view.gesture with
  | dragging _ _ => simp only [step, View.pointerDown, hgesture]
  | idle =>
      rw [hgesture] at h
      simp only at h
      split at h
      · exact (h rfl).elim
      · next hheader =>
          simp only [step, View.pointerDown, hgesture, if_neg hheader]

/-- If the pointer moves and nothing is dragged, nothing happens. -/
theorem step_move_idle (h : s.view.gesture = .idle) (pointer : Position α) :
    s.step (.move pointer) = s ∧ s.place? (.move pointer) = none := by
  simp only [step, place?, View.pointerMove, h, and_self]

/-- A table that is dragged gets the place that the pointer's move gives it. -/
theorem step_move_dragging {table : Nat} {offset : Position α}
    (h : s.view.gesture = .dragging table offset) (pointer : Position α) :
    ∃ place, s.place? (.move pointer) = some place ∧
      s.step (.move pointer) =
        { s with view := { s.view with shadow := setShadow s.view.shadow table place } } := by
  let point := s.view.toCanvas pointer
  refine ⟨⟨s.view.dragged (point.x - offset.x), s.view.dragged (point.y - offset.y)⟩, ?_, ?_⟩
  · simp only [place?, View.pointerMove, h]
    rfl
  · simp only [step, View.pointerMove, h]
    rfl

/-- If the pointer goes up and nothing is dragged, nothing happens. -/
theorem step_up_idle (h : s.view.gesture = .idle) : s.step .up = s := by
  simp only [step, View.pointerUp, h]

/-- The pointer goes up during a drag: the place of the only shadow is committed. -/
theorem step_up_dragging {table : Nat} {offset place : Position α}
    (hgesture : s.view.gesture = .dragging table offset)
    (hshadow : s.view.shadow = [(table, place)]) :
    s.step .up =
      ⟨{ s.view with gesture := .idle, shadow := [] }, s.host.detach,
        s.commits ++ [(table, place)]⟩ := by
  simp only [step, View.pointerUp, hgesture, hshadow, List.lookup_cons_self]
  simp [PositionSink.commit]

/-- Fitting the tables changes the zoom alone. -/
theorem step_fit (s : Stage α) (tables : List (PlacedTable α)) (width height : α) :
    ∃ zoom, s.step (.fit tables width height) = { s with view := { s.view with zoom } } := by
  simp only [step, View.fit]
  split
  · exact ⟨_, rfl⟩
  · exact ⟨s.view.zoom, rfl⟩

/-- The pointer going up commits what is told of it, and that comes last. -/
theorem commits_step_up (s : Stage α) :
    (s.step .up).commits = s.commits ++ (s.view.pointerUp s.commits s.host).1.toList := by
  have hsink : (s.step .up).commits = (s.view.pointerUp s.commits s.host).2.2.1 := rfl
  rw [hsink, View.pointerUp_sink]
  cases (s.view.pointerUp s.commits s.host).1 with
  | none => exact (List.append_nil _).symm
  | some commit => rfl

/-- Only the pointer going up commits. -/
theorem commits_step {e : ViewEvent α} (h : e ≠ .up) : (s.step e).commits = s.commits := by
  cases e with
  | up => exact (h rfl).elim
  | _ => rfl

/-! ### Steps and runs -/

/-- **Every event leaves the stage in one of the two states.** -/
theorem Sound.step (h : s.Sound) (e : ViewEvent α) : (s.step e).Sound := by
  cases e with
  | down table pointer =>
      by_cases hgrabs : s.Grabs table pointer
      · obtain ⟨hidle, offset, hstep⟩ := step_down_of_grabs hgrabs
        cases h with
        | dragging hgesture hshadow hhost =>
            rw [hidle] at hgesture
            cases hgesture
        | idle hgesture hshadow hhost =>
            rw [hstep, hshadow, setShadow_nil]
            exact .dragging rfl rfl (congrArg (· + 1) hhost)
      · rw [step_down_of_not_grabs hgrabs]
        exact h
  | move pointer =>
      cases h with
      | idle hgesture hshadow hhost =>
          rw [(step_move_idle hgesture pointer).1]
          exact .idle hgesture hshadow hhost
      | dragging hgesture hshadow hhost =>
          obtain ⟨place, -, hstep⟩ := step_move_dragging hgesture pointer
          rw [hstep, hshadow, setShadow_single]
          exact .dragging hgesture rfl hhost
  | up =>
      cases h with
      | idle hgesture hshadow hhost =>
          rw [step_up_idle hgesture]
          exact .idle hgesture hshadow hhost
      | dragging hgesture hshadow hhost =>
          rw [step_up_dragging hgesture hshadow]
          exact .idle rfl rfl hhost
  | teardown =>
      cases h with
      | idle hgesture hshadow hhost =>
          refine .idle rfl rfl ?_
          simp only [Stage.step, View.teardown, hgesture]
          exact hhost
      | dragging hgesture hshadow hhost =>
          refine .idle rfl rfl ?_
          simp only [Stage.step, View.teardown, hgesture]
          exact hhost
  | fit tables width height =>
      obtain ⟨zoom, hstep⟩ := s.step_fit tables width height
      rw [hstep]
      exact h.congr rfl rfl rfl
  | setZoom zoom => exact h.congr rfl rfl rfl
  | zoomIn => exact h.congr rfl rfl rfl
  | zoomOut => exact h.congr rfl rfl rfl
  | resetZoom => exact h.congr rfl rfl rfl
  | snapToGrid enabled => exact h.congr rfl rfl rfl

/-- **Every run leaves the stage in one of the two states.** -/
theorem Sound.run (h : s.Sound) (events : List (ViewEvent α)) : (s.run events).Sound := by
  induction events generalizing s with
  | nil => exact h
  | cons e events ih => exact ih (h.step e)

/-! ### Commits -/

/-- An event commits once if it is the pointer going up during a drag, and not otherwise. -/
theorem length_commits_step (h : s.Sound) (e : ViewEvent α) :
    (s.step e).commits.length = s.commits.length + if s.releasesAt e then 1 else 0 := by
  by_cases hup : e = .up
  · subst hup
    cases h with
    | idle hgesture hshadow hhost =>
        rw [step_up_idle hgesture]
        simp [releasesAt, hgesture, Gesture.table?]
    | dragging hgesture hshadow hhost =>
        rw [step_up_dragging hgesture hshadow]
        simp [releasesAt, hgesture, Gesture.table?]
  · have hreleases : s.releasesAt e = false := by
      cases e with
      | up => exact (hup rfl).elim
      | _ => rfl
    rw [commits_step hup, hreleases]
    rfl

/-- **A run commits as often as the pointer goes up during a drag.** -/
theorem length_commits_run (h : s.Sound) (events : List (ViewEvent α)) :
    (s.run events).commits.length = s.commits.length + s.releases events := by
  induction events generalizing s with
  | nil => rfl
  | cons e events ih =>
      have hstep := length_commits_step h e
      have hrest := ih (h.step e)
      rw [run_cons, hrest, hstep, releases]
      omega

/-- What is committed stays committed. -/
theorem exists_commits_run (s : Stage α) (events : List (ViewEvent α)) :
    ∃ more, (s.run events).commits = s.commits ++ more := by
  induction events generalizing s with
  | nil => exact ⟨[], (List.append_nil _).symm⟩
  | cons e events ih =>
      obtain ⟨more, hmore⟩ := ih (s.step e)
      by_cases hup : e = .up
      · subst hup
        refine ⟨(s.view.pointerUp s.commits s.host).1.toList ++ more, ?_⟩
        rw [run_cons, hmore, commits_step_up, List.append_assoc]
      · exact ⟨more, by rw [run_cons, hmore, commits_step hup]⟩

/-! ### Drags that go on -/

theorem places_append (s : Stage α) (before after : List (ViewEvent α)) :
    s.places (before ++ after) = s.places before ++ (s.run before).places after := by
  induction before generalizing s with
  | nil => rfl
  | cons e before ih =>
      rw [List.cons_append, places, places, ih, List.append_assoc]
      rfl

/-- A drag goes on over an event that does not end it; a move of the pointer gives the table its
place. -/
theorem Holds.snoc {events : List (ViewEvent α)} {table : PlacedTable α} {place : Position α}
    (h : s.Holds events table place) {e : ViewEvent α} (he : e.endsDrag = false) :
    s.Holds (events ++ [e]) table (((s.run events).place? e).getD place) := by
  obtain ⟨before, pointer, during, hevents, hgrabs, hduring, hplace⟩ := h
  refine ⟨before, pointer, during ++ [e], ?_, hgrabs, ?_, ?_⟩
  · rw [hevents, List.append_assoc, List.cons_append]
  · intro e' he'
    rcases List.mem_append.1 he' with he' | he'
    · exact hduring e' he'
    · rw [List.mem_singleton.1 he']
      exact he
  · have hrun : ((s.run before).step (.down table pointer)).run during = s.run events := by
      rw [hevents, run_append, run_cons]
    have hlast : (places (s.run events) [e]).getLast? = (s.run events).place? e := by
      simp only [places, List.append_nil]
      cases (s.run events).place? e <;> rfl
    rw [places_append, hrun, List.getLast?_append, hlast, hplace]
    cases (s.run events).place? e <;> rfl

/-- The shadow of the dragged table is where the drag that goes on brought it. -/
def Traced (s : Stage α) (events : List (ViewEvent α)) (dragged : Nat) : Prop :=
  ∃ table place, s.Holds events table place ∧ table.id = dragged ∧
    (s.run events).view.shadow = [(dragged, place)]

variable {events : List (ViewEvent α)} {dragged : Nat}

/-- The pointer goes down on a table while nothing is dragged. -/
theorem traced_of_grabs (h : (s.run events).Sound) {table : PlacedTable α} {pointer : Position α}
    (hgrabs : (s.run events).Grabs table pointer) :
    s.Traced (events ++ [.down table pointer]) table.id := by
  obtain ⟨hidle, offset, hstep⟩ := step_down_of_grabs hgrabs
  have hshadow : (s.run events).view.shadow = [] := by
    cases h with
    | idle hgesture hshadow hhost => exact hshadow
    | dragging hgesture hshadow hhost =>
        rw [hidle] at hgesture
        cases hgesture
  refine ⟨table, table.position, ⟨events, pointer, [], rfl, hgrabs, ?_, rfl⟩, rfl, ?_⟩
  · intro e he
    cases he
  · rw [run_append, run_cons, run_nil, hstep, hshadow, setShadow_nil]

/-- The pointer moves during a drag. -/
theorem Traced.move (h : s.Traced events dragged) {offset : Position α}
    (hgesture : (s.run events).view.gesture = .dragging dragged offset) (pointer : Position α) :
    s.Traced (events ++ [.move pointer]) dragged := by
  obtain ⟨table, old, hholds, hid, hshadow⟩ := h
  obtain ⟨place, hplace, hstep⟩ := step_move_dragging hgesture pointer
  have hsnoc := hholds.snoc (e := .move pointer) rfl
  rw [hplace, Option.getD_some] at hsnoc
  refine ⟨table, place, hsnoc, hid, ?_⟩
  rw [run_append, run_cons, run_nil, hstep, hshadow, setShadow_single]

/-- An event neither ends the drag nor moves the table. -/
theorem Traced.quiet (h : s.Traced events dragged) {e : ViewEvent α} (he : e.endsDrag = false)
    (hplace : (s.run events).place? e = none)
    (hshadow : ((s.run events).step e).view.shadow = (s.run events).view.shadow) :
    s.Traced (events ++ [e]) dragged := by
  obtain ⟨table, place, hholds, hid, hsame⟩ := h
  have hsnoc := hholds.snoc he
  rw [hplace] at hsnoc
  refine ⟨table, place, hsnoc, hid, ?_⟩
  rw [run_append, run_cons, run_nil, hshadow, hsame]

/-- **A drag that goes on was begun by the pointer going down** on the table that is dragged, and the
table's shadow is where the last move brought it.  The induction is on the events from the end:
the last one began the drag, moved the table or left both alone. -/
theorem traced_run (h : s.Sound) (hidle : s.view.gesture = .idle) (events : List (ViewEvent α))
    (hdragged : (s.run events).view.gesture.table? = some dragged) : s.Traced events dragged := by
  induction events using List.reverseRecOn with
  | nil =>
      rw [run_nil, hidle] at hdragged
      cases hdragged
  | append_singleton events e ih =>
      have hsound : (s.run events).Sound := h.run events
      rw [run_append, run_cons, run_nil] at hdragged
      cases e with
      | down table pointer =>
          by_cases hgrabs : (s.run events).Grabs table pointer
          · obtain ⟨-, offset, hstep⟩ := step_down_of_grabs hgrabs
            rw [hstep] at hdragged
            rw [← Option.some.inj hdragged]
            exact traced_of_grabs hsound hgrabs
          · have hstep := step_down_of_not_grabs hgrabs
            rw [hstep] at hdragged
            exact (ih hdragged).quiet rfl rfl (by rw [hstep])
      | move pointer =>
          cases hsound with
          | idle hgesture hshadow hhost =>
              rw [(step_move_idle hgesture pointer).1, hgesture] at hdragged
              cases hdragged
          | dragging hgesture hshadow hhost =>
              obtain ⟨place, -, hstep⟩ := step_move_dragging hgesture pointer
              rw [hstep] at hdragged
              obtain ⟨offset, hgesture⟩ := Gesture.table?_eq_some.1 hdragged
              exact (ih hdragged).move hgesture pointer
      | up =>
          cases hsound with
          | idle hgesture hshadow hhost =>
              rw [step_up_idle hgesture, hgesture] at hdragged
              cases hdragged
          | dragging hgesture hshadow hhost =>
              rw [step_up_dragging hgesture hshadow] at hdragged
              cases hdragged
      | teardown => cases hdragged
      | fit tables width height =>
          obtain ⟨zoom, hstep⟩ := (s.run events).step_fit tables width height
          rw [hstep] at hdragged
          exact (ih hdragged).quiet rfl rfl (by rw [hstep])
      | setZoom zoom => exact (ih hdragged).quiet rfl rfl rfl
      | zoomIn => exact (ih hdragged).quiet rfl rfl rfl
      | zoomOut => exact (ih hdragged).quiet rfl rfl rfl
      | resetZoom => exact (ih hdragged).quiet rfl rfl rfl
      | snapToGrid enabled => exact (ih hdragged).quiet rfl rfl rfl

/-! ### The whole machine -/

/-- **The states, the listeners and the commits of any run.**  A table is dragged exactly if it has
the only shadow, and nothing is dragged exactly if there is none; listeners are attached once during
a drag and not at all otherwise.  A move of the pointer during a drag returns a place, and the
dragged table's shadow is there then.  There are as many commits as the pointer went up during a
drag, and each has the table on which the pointer had gone down, at the place of its last move or,
without a move, where it was.  Tearing the view down commits nothing. -/
theorem drag_machine (settings : Settings α) (events : List (ViewEvent α)) :
    (∀ table, ((ofSettings settings).run events).view.gesture.table? = some table ↔
      ((ofSettings settings).run events).view.shadow.map Prod.fst = [table]) ∧
    (((ofSettings settings).run events).view.gesture = .idle ↔
      ((ofSettings settings).run events).view.shadow = []) ∧
    ((ofSettings settings).run events).host.attached =
      ((ofSettings settings).run events).host.detached +
        (if ((ofSettings settings).run events).view.gesture.table?.isSome then 1 else 0) ∧
    (∀ dragged pointer, ((ofSettings settings).run events).view.gesture.table? = some dragged →
      ∃ place, (((ofSettings settings).run events).view.pointerMove pointer).1 = some place ∧
        ((ofSettings settings).run (events ++ [.move pointer])).view.shadow =
          [(dragged, place)]) ∧
    ((ofSettings settings).run events).commits.length = (ofSettings settings).releases events ∧
    (∀ before after dragged, events = before ++ .up :: after →
      ((ofSettings settings).run before).view.gesture.table? = some dragged →
        ∃ table place, (ofSettings settings).Holds before table place ∧ table.id = dragged ∧
          ((ofSettings settings).run events).commits[(ofSettings settings).releases before]? =
            some (table.id, place)) ∧
    ((ofSettings settings).run (events ++ [.teardown])).commits =
      ((ofSettings settings).run events).commits := by
  have hstart := sound_ofSettings settings
  have hcount : ∀ events, ((ofSettings settings).run events).commits.length =
      (ofSettings settings).releases events := by
    intro events
    rw [length_commits_run hstart]
    exact Nat.zero_add _
  have hsound := hstart.run events
  refine ⟨?_, ?_, ?_, ?_, hcount events, ?_, ?_⟩
  · intro table
    cases hsound with
    | idle hgesture hshadow hhost => simp [hgesture, hshadow, Gesture.table?]
    | dragging hgesture hshadow hhost => simp [hgesture, hshadow, Gesture.table?]
  · cases hsound with
    | idle hgesture hshadow hhost => simp [hgesture, hshadow]
    | dragging hgesture hshadow hhost => simp [hgesture, hshadow]
  · cases hsound with
    | idle hgesture hshadow hhost => simpa [hgesture, Gesture.table?] using hhost
    | dragging hgesture hshadow hhost => simpa [hgesture, Gesture.table?] using hhost
  · intro dragged pointer hdragged
    cases hsound with
    | idle hgesture hshadow hhost =>
        rw [hgesture] at hdragged
        cases hdragged
    | dragging hgesture hshadow hhost =>
        obtain ⟨place, hplace, hstep⟩ := step_move_dragging hgesture pointer
        rw [hgesture, Gesture.table?, Option.some.injEq] at hdragged
        refine ⟨place, hplace, ?_⟩
        rw [run_append, run_cons, run_nil, hstep, hshadow, setShadow_single, hdragged]
  · intro before after dragged hevents hdragged
    obtain ⟨table, place, hholds, hid, hshadow⟩ := traced_run hstart rfl before hdragged
    obtain ⟨offset, hgesture⟩ := Gesture.table?_eq_some.1 hdragged
    have hup := step_up_dragging hgesture hshadow
    obtain ⟨more, hmore⟩ := (((ofSettings settings).run before).step .up).exists_commits_run after
    refine ⟨table, place, hholds, hid, ?_⟩
    rw [hevents, run_append, run_cons, hmore, hup, ← hcount before, hid]
    simp
  · rw [run_append]
    have hne : (ViewEvent.teardown : ViewEvent α) ≠ .up := by simp
    exact commits_step hne

/-- The pointer goes down twice, moves, goes up twice, and goes down again before the view is torn
down; in between the zoom changes.  There is one commit: the table of the first drag, at the place
that the second move returned. -/
theorem drag_machine_sample :
    let table : PlacedTable Float :=
      { catalogId := 1, name := "orders", schema := none, database := 4, fields := []
        id := 7, aliasName := "o", position := ⟨50, 50⟩ }
    let earlier : List (ViewEvent Float) :=
      [.down table ⟨60, 70⟩, .down { table with id := 8 } ⟨60, 70⟩, .move ⟨100, 80⟩, .zoomIn]
    let before := earlier ++ [.move ⟨187, 176⟩]
    let events := before ++ .up :: [.up, .down table ⟨77, 77⟩, .teardown]
    ((ofSettings .standard).run earlier).view.gesture.table? = some 7 ∧
      (((ofSettings .standard).run earlier).view.pointerMove ⟨187, 176⟩).1 = some ⟨160, 140⟩ ∧
      ((ofSettings .standard).run before).view.shadow = [(7, ⟨160, 140⟩)] ∧
      (ofSettings .standard).releases events = 1 ∧
      ((ofSettings .standard).run events).commits = [(7, ⟨160, 140⟩)] ∧
      ∃ held, (ofSettings .standard).Holds before held ⟨160, 140⟩ ∧ held.id = 7 := by
  intro table earlier before events
  have hearlier : ((ofSettings .standard).run earlier).view.gesture.table? = some 7 := by
    decide +kernel
  have hmoved : (((ofSettings .standard).run earlier).view.pointerMove ⟨187, 176⟩).1 =
      some ⟨160, 140⟩ := by
    decide +kernel
  obtain ⟨-, -, -, hmoves, -⟩ := drag_machine (.standard : Settings Float) earlier
  obtain ⟨place, hplace, hshadow⟩ := hmoves 7 ⟨187, 176⟩ hearlier
  rw [hmoved, Option.some.injEq] at hplace
  obtain ⟨-, -, -, -, -, hcommits, -⟩ := drag_machine (.standard : Settings Float) events
  have hreleases : (ofSettings .standard).releases events = 1 := by decide +kernel
  have hshown : ((ofSettings .standard).run events).commits = [(7, ⟨160, 140⟩)] := by
    decide +kernel
  obtain ⟨held, place', hholds, hid, hcommit⟩ := hcommits before _ 7 rfl (by decide +kernel)
  have hbefore : (ofSettings .standard).releases before = 0 := by decide +kernel
  rw [hbefore, hshown] at hcommit
  obtain ⟨-, rfl⟩ := Prod.mk.inj (Option.some.inj hcommit)
  exact ⟨hearlier, hmoved, hplace ▸ hshadow, hreleases, hshown, held, hholds, hid⟩

end Stage

end QueryBuilder

/-
**What the services are asked.**

Two services are asked for something on behalf of a graph: one runs its query, and one keeps it.
The requests are made apart from each other, and each of them looks for the query and for the
database of the graph.  A graph that a session can get to has a query exactly if it has a table, and
then it has the database of all its tables.  So a graph without a table is refused by both, for this
reason and for no other, and for every other graph both ask for the same query in the same database.

A query is kept while the session goes on.  The answer of the service arrives later, and in between
the graph may be edited and runs may start and end.  None of this notices the saves: what is asked
for was settled by the graph at the time, and whatever the service answers, the session goes on as
it would have without.

Main definitions:

* `QueryBuilder.SaveDetails.request` — what is asked to keep a query;
* `QueryBuilder.Session.Idle`, `QueryBuilder.Session.Asks` — nobody is asked for anything, and all
  ask for the same query in the same database;
* `QueryBuilder.SavingEvent`, `QueryBuilder.SavingDesk` — what happens to a session with saves in
  flight, and such a session.

Main results:

* `QueryBuilder.Session.idle_of_nil`, `QueryBuilder.Session.asks_of_valid` — requests of a graph
  without tables, and of a valid one with some;
* `QueryBuilder.Desk.reachable_run` — schedules keep to graphs that a session can get to;
* `QueryBuilder.SavingDesk.toDesk_run` — a session with saves in flight goes on as one without;
* `QueryBuilder.SavingDesk.save_of_pending` — a save in flight asks for what the graph said when it
  was made;
* `QueryBuilder.SavingDesk.requests_agree` — **requests agree, and saving changes nothing**.
-/

import QueryBuilder.Proofs.Graph.Faithfulness
import QueryBuilder.Proofs.Session.Schedules
import QueryBuilder.Session.Save

set_option autoImplicit false

namespace QueryBuilder

variable {α : Type}

/-! ### Requests -/

/-- What the service that keeps queries is asked about a query in a database. -/
def SaveDetails.request (details : SaveDetails) (database : Int) (query : Query) : SaveRequest :=
  ⟨details.name, details.description, database, query, details.visualization, details.settings⟩

namespace Session

/-- Nobody is asked for anything, because there is no table. -/
structure Idle (s : Session α) : Prop where
  query? : s.graph.query? = none
  executionRequest : s.graph.executionRequest = .error .noTables
  saveRequest : ∀ details, s.saveRequest details = .error .noTables
  save : ∀ details reply, s.save details reply = (none, .error (.graph .noTables))
  execute : ∀ outcome,
    s.execute outcome = (none, if s.closed then .superseded else .notReady .noTables, s)

/-- All ask for the same query, in the database of all tables. -/
structure Asks (s : Session α) (database : Int) (query : Query) : Prop where
  query? : s.graph.query? = some query
  database_eq : ∀ t ∈ s.graph.tables, t.database = database
  executionRequest : s.graph.executionRequest = .ok ⟨database, query⟩
  saveRequest : ∀ details, s.saveRequest details = .ok (details.request database query)
  save : ∀ details reply,
    s.save details reply = (some (details.request database query), reply.mapError .service)
  execute : ∀ outcome, s.execute outcome =
    if s.closed then (none, .superseded, s)
    else (some ⟨s.graph.begin.1, ⟨database, query⟩⟩, .ofOutcome outcome,
      { s with graph := s.graph.begin.2.recorded outcome })

variable {s : Session α}

/-- A run that has just been started is the latest one. -/
theorem resolve_begin (g : Graph α) (closed : Bool) (request : ExecutionRequest)
    (outcome : RunOutcome) :
    (⟨g.begin.2, closed⟩ : Session α).resolve ⟨g.begin.1, request⟩ outcome =
      (.ofOutcome outcome, ⟨g.begin.2.recorded outcome, closed⟩) :=
  Desk.resolve_current (by simp [Graph.isCurrent, Graph.begin]) outcome

/-- A run of a graph that is refused. -/
theorem execute_of_error {reason : GraphError} (h : s.graph.executionRequest = .error reason)
    (outcome : RunOutcome) :
    s.execute outcome = (none, if s.closed then .superseded else .notReady reason, s) := by
  unfold execute start
  cases hclosed : s.closed with
  | true => simp
  | false => simp [h]

/-- A run of a graph that is ready for it. -/
theorem execute_of_ok {request : ExecutionRequest} (h : s.graph.executionRequest = .ok request)
    (outcome : RunOutcome) : s.execute outcome =
      if s.closed then (none, .superseded, s)
      else (some ⟨s.graph.begin.1, request⟩, .ofOutcome outcome,
        { s with graph := s.graph.begin.2.recorded outcome }) := by
  obtain ⟨g, closed⟩ := s
  unfold execute start
  cases closed with
  | true => rfl
  | false => simp [h, resolve_begin]

/-- **Without a table nobody is asked for anything.** -/
theorem idle_of_nil (h : s.graph.tables = []) : s.Idle := by
  have hquery : s.graph.query? = none := Diagram.query?_eq_none_iff.2 h
  have hexecution : s.graph.executionRequest = .error .noTables := by
    rw [Diagram.executionRequest, hquery]
  have hsave : ∀ details, s.saveRequest details = .error .noTables := by
    intro details
    rw [saveRequest, hquery]
  refine ⟨hquery, hexecution, hsave, ?_, execute_of_error hexecution⟩
  intro details reply
  rw [save, hsave]

/-- **With a table all ask for the same**, in the database of all tables. -/
theorem asks_of_valid (hvalid : s.graph.toDiagram.Valid) (h : s.graph.tables ≠ []) :
    ∃ database query, s.Asks database query := by
  obtain ⟨query, hquery⟩ : ∃ query, s.graph.query? = some query :=
    Option.ne_none_iff_exists'.1 fun hnone => h (Diagram.query?_eq_none_iff.1 hnone)
  obtain ⟨database, hdatabase, htables, hexecution⟩ := hvalid.exists_executionRequest hquery
  have hsave : ∀ details, s.saveRequest details = .ok (details.request database query) := by
    intro details
    rw [saveRequest, hquery, hdatabase]
    rfl
  refine ⟨database, query, hquery, htables, hexecution, hsave, ?_, execute_of_ok hexecution⟩
  intro details reply
  rw [save, hsave]

/-- **A run is refused for the lack of a table**, and for nothing else. -/
theorem execute_notReady_iff (hvalid : s.graph.toDiagram.Valid) (outcome : RunOutcome)
    (reason : GraphError) : (s.execute outcome).2.1 = .notReady reason ↔
      s.closed = false ∧ s.graph.tables = [] ∧ reason = .noTables := by
  by_cases htables : s.graph.tables = []
  · rw [(idle_of_nil htables).execute]
    cases s.closed <;> simp [htables, eq_comm]
  · obtain ⟨database, query, hasks⟩ := asks_of_valid hvalid htables
    rw [hasks.execute]
    refine iff_of_false ?_ fun h => htables h.2.1
    cases s.closed <;> cases outcome <;> simp [RunReport.ofOutcome]

/-- **The database is never missing.** -/
theorem not_noDatabase (hvalid : s.graph.toDiagram.Valid) :
    s.graph.executionRequest ≠ .error .noDatabase ∧
      (∀ details, s.saveRequest details ≠ .error .noDatabase) ∧
      ∀ details reply, (s.save details reply).2 ≠ .error (.graph .noDatabase) := by
  by_cases htables : s.graph.tables = []
  · have hidle := idle_of_nil htables
    simp [hidle.executionRequest, hidle.saveRequest, hidle.save]
  · obtain ⟨database, query, hasks⟩ := asks_of_valid hvalid htables
    refine ⟨by simp [hasks.executionRequest], by simp [hasks.saveRequest], ?_⟩
    intro details reply
    rw [hasks.save]
    cases reply <;> simp [Except.mapError]

end Session

/-! ### Schedules keep to reachable graphs -/

namespace Desk

/-- The graph after an outcome arrived. -/
theorem graph_resolve (s : Session α) (run : Run) (outcome : RunOutcome) :
    (s.resolve run outcome).2.graph = (s.graph.finish run.ticket outcome).2 := by
  unfold Session.resolve
  obtain ⟨accepted, g⟩ := s.graph.finish run.ticket outcome
  cases accepted <;> rfl

variable [Coordinate α]

/-- **Every event edits the graph**, with at most two edits. -/
theorem exists_edits_step (w : Desk α) (e : Event α) :
    ∃ edits : List (Edit α), (w.step e).session.graph = w.session.graph.run edits := by
  cases e with
  | start =>
      rcases start_cases w.session with ⟨request, hstart, -⟩ | ⟨report, hstart⟩
      · exact ⟨[.begin], by simp only [step, hstart]; rfl⟩
      · exact ⟨[], by simp only [step, hstart]; rfl⟩
  | resolve number outcome =>
      cases hp : w.pending? number with
      | none => exact ⟨[], by simp only [step, hp]; rfl⟩
      | some run =>
          refine ⟨[.finish run.ticket outcome, .abandon run.ticket], ?_⟩
          simp only [step, hp, settle, Session.dropRun, graph_resolve]
          rfl
  | drop number borrowed =>
      cases hp : w.pending? number with
      | none => exact ⟨[], by simp only [step, hp]; rfl⟩
      | some run =>
          cases borrowed with
          | true => exact ⟨[], by simp only [step, hp]; rfl⟩
          | false => exact ⟨[.abandon run.ticket], by simp only [step, hp]; rfl⟩
  | close => exact ⟨[.cancel], rfl⟩
  | edit e => exact ⟨[e], rfl⟩

/-- **Schedules keep to graphs that a session can get to.** -/
theorem reachable_run {w : Desk α} (h : w.session.graph.Reachable) (events : List (Event α)) :
    (w.run events).session.graph.Reachable := by
  induction events generalizing w with
  | nil => exact h
  | cons e events ih =>
      obtain ⟨edits, hedits⟩ := w.exists_edits_step e
      exact ih (hedits ▸ h.run edits)

end Desk

/-! ### Saves in flight -/

/-- What happens to a session, with queries that are kept in between. -/
inductive SavingEvent (α : Type) where
  | session (e : Event α)
  /-- The query is to be kept, and the service is asked if there is something to ask for. -/
  | save (details : SaveDetails)
  /-- The answer to a save arrives. -/
  | answer (number : Nat) (reply : Except String Int)

/-- An event that is not about a save. -/
def SavingEvent.session? : SavingEvent α → Option (Event α)
  | .session e => some e
  | _ => none

/-- A session with its runs and its saves by number; saves that have their answer are `none`. -/
structure SavingDesk (α : Type) extends Desk α where
  saves : List (Option SaveRequest)

namespace SavingDesk

/-- What is asked by the save with a number, if it is in flight. -/
def pendingSave? (w : SavingDesk α) (number : Nat) : Option SaveRequest :=
  w.saves[number]?.join

/-- A session with its saves after an event. -/
def step [Coordinate α] (w : SavingDesk α) : SavingEvent α → SavingDesk α
  | .session e => { w with toDesk := w.toDesk.step e }
  | .save details =>
    match w.session.saveRequest details with
    | .ok request => { w with saves := w.saves ++ [some request] }
    | .error _ => w
  | .answer number _ => { w with saves := w.saves.set number none }

/-- A session with its saves after a schedule. -/
def run [Coordinate α] (w : SavingDesk α) (events : List (SavingEvent α)) : SavingDesk α :=
  events.foldl step w

variable [Coordinate α] {w : SavingDesk α}

/-- Only the events that are not about saves are noticed by the rest. -/
theorem toDesk_step (w : SavingDesk α) (e : SavingEvent α) :
    (w.step e).toDesk = w.toDesk.run e.session?.toList := by
  cases e with
  | session e => rfl
  | save details =>
      simp only [step]
      split <;> rfl
  | answer number reply => rfl

/-- **A session with saves in flight goes on as one without.** -/
theorem toDesk_run (w : SavingDesk α) (events : List (SavingEvent α)) :
    (w.run events).toDesk = w.toDesk.run (events.filterMap SavingEvent.session?) := by
  induction events generalizing w with
  | nil => rfl
  | cons e events ih =>
      have hstep : (w.run (e :: events)).toDesk =
          (w.toDesk.run e.session?.toList).run (events.filterMap SavingEvent.session?) := by
        rw [← toDesk_step, ← ih]
        rfl
      rw [hstep, ← Desk.run_append]
      cases he : e.session? <;> simp [he]

/-- **What an event does to a save**: it stays in flight or is settled, or it is made just then. -/
theorem pendingSave?_step {e : SavingEvent α} {number : Nat} {request : SaveRequest}
    (h : (w.step e).pendingSave? number = some request) :
    w.pendingSave? number = some request ∨ number = w.saves.length := by
  cases e with
  | session e => exact .inl h
  | save details =>
      simp only [step] at h
      split at h
      · exact (join_getElem?_concat h).imp_right And.left
      · exact .inl h
  | answer settled reply =>
      rw [step, pendingSave?, join_getElem?_set_none] at h
      split at h
      · cases h
      · exact .inl h

/-- Numbers are not given out again. -/
theorem saves_length_le_step (w : SavingDesk α) (e : SavingEvent α) :
    w.saves.length ≤ (w.step e).saves.length := by
  cases e with
  | session e => exact Nat.le_refl _
  | save details =>
      simp only [step]
      split
      · simp
      · exact Nat.le_refl _
  | answer number reply => simp [step]

/-- A save in flight has been in flight since it was made. -/
theorem pendingSave_run {events : List (SavingEvent α)} {number : Nat} {request : SaveRequest}
    (hlt : number < w.saves.length) (h : (w.run events).pendingSave? number = some request) :
    w.pendingSave? number = some request := by
  induction events generalizing w with
  | nil => exact h
  | cons e events ih =>
      rcases pendingSave?_step (ih (Nat.lt_of_lt_of_le hlt (w.saves_length_le_step e)) h) with
        hp | rfl
      · exact hp
      · exact absurd hlt (Nat.lt_irrefl _)

/-- **A save in flight asks for what the graph said when it was made**, whatever happened since: it
is the save that the same answer would have ended at once. -/
theorem save_of_pending {details : SaveDetails} {between : List (SavingEvent α)}
    {asked request : SaveRequest} (hasked : w.session.saveRequest details = .ok asked)
    (h : ((w.step (.save details)).run between).pendingSave? w.saves.length = some request)
    (reply : Except String Int) :
    w.session.save details reply = (some request, reply.mapError .service) := by
  have hstep : w.step (.save details) = { w with saves := w.saves ++ [some asked] } := by
    simp only [step, hasked]
  rw [hstep] at h
  have hsame : request = asked := by
    simpa [pendingSave?] using (pendingSave_run (by simp) h).symm
  rw [Session.save, hasked, hsame]

/-- **Requests agree, and saving changes nothing.**  Whatever happened in a session whose graph could
be got to, there is a query exactly if there is a table.  Without a table nobody is asked for
anything; with one, both services are asked for the same query, in the database of all tables.  The
database is never missing, and a run is refused only because there is no table.  The session is as
it would be without the saves. -/
theorem requests_agree (h : w.session.graph.Reachable) (events : List (SavingEvent α)) :
    let s := (w.run events).session
    s.graph.Reachable ∧ (s.graph.query? = none ↔ s.graph.tables = []) ∧
      (s.graph.tables = [] → s.Idle) ∧
      (s.graph.tables ≠ [] → ∃ database query, s.Asks database query) ∧
      (s.graph.executionRequest ≠ .error .noDatabase ∧
        (∀ details, s.saveRequest details ≠ .error .noDatabase) ∧
        ∀ details reply, (s.save details reply).2 ≠ .error (.graph .noDatabase)) ∧
      (∀ outcome reason, (s.execute outcome).2.1 = .notReady reason ↔
        s.closed = false ∧ s.graph.tables = [] ∧ reason = .noTables) ∧
      (w.run events).toDesk = w.toDesk.run (events.filterMap SavingEvent.session?) := by
  intro s
  have hreachable : s.graph.Reachable := by
    show (w.run events).session.graph.Reachable
    rw [toDesk_run]
    exact Desk.reachable_run h _
  have hvalid := hreachable.valid
  exact ⟨hreachable, Diagram.query?_eq_none_iff, Session.idle_of_nil,
    Session.asks_of_valid hvalid, Session.not_noDatabase hvalid,
    Session.execute_notReady_iff hvalid, toDesk_run w events⟩

/-- A query is to be kept, a run is started, tables are taken away and the answer arrives: a table is
left first, and none in the end. -/
theorem requests_agree_sample :
    let w : SavingDesk Float := ⟨.ofGraph Sample.graph, []⟩
    let events : List (SavingEvent Float) := [.save ⟨"orders", none, "table", .null⟩,
      .session .start, .session (.edit (.removeTable 1)), .answer 0 (.error "full")]
    let emptied := events ++ [.session (.edit (.removeTable 2))]
    w.session.graph.Reachable ∧ (∃ database query, (w.run events).session.Asks database query) ∧
      (w.run emptied).session.Idle ∧
      (w.run emptied).toDesk = w.toDesk.run [.start, .edit (.removeTable 1),
        .edit (.removeTable 2)] := by
  intro w events emptied
  have h : w.session.graph.Reachable := Sample.reachable_graph
  obtain ⟨-, -, -, hasks, -⟩ := requests_agree h events
  obtain ⟨-, -, hidle, -, -, -, hdesk⟩ := requests_agree h emptied
  have hleft : (w.run events).session.graph.tables.length = 1 := by decide +kernel
  have hnone : (w.run emptied).session.graph.tables.length = 0 := by decide +kernel
  refine ⟨h, hasks ?_, hidle (List.eq_nil_of_length_eq_zero hnone), hdesk⟩
  intro hnil
  rw [hnil] at hleft
  cases hleft

end SavingDesk

end QueryBuilder

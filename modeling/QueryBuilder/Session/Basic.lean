/-
**Builder sessions.**

A session runs the query of its graph and keeps queries.  A run is started, and later its outcome
arrives or it is dropped; in between, anything may happen to the graph.  Only a run that is still
the latest one leaves its outcome in the graph.

Main definitions:

* `QueryBuilder.Session` — a graph, and whether the session is closed;
* `QueryBuilder.RunReport` — what became of a run;
* `QueryBuilder.Session.start`, `QueryBuilder.Session.resolve`, `QueryBuilder.Session.dropRun` —
  the life of a run;
* `QueryBuilder.Session.execute` — a run whose outcome arrives at once;
* `QueryBuilder.Session.close` — the end of a session.
-/

import QueryBuilder.Graph.Execution
import QueryBuilder.Graph.Query

set_option autoImplicit false

namespace QueryBuilder

/-- A graph, and whether its session is closed. -/
structure Session (α : Type) where
  graph : Graph α
  closed : Bool

/-- What became of a run. -/
inductive RunReport where
  | completed (rowCount : Nat)
  | failed (reason : String)
  /-- The session was closed or another run started. -/
  | superseded
  | notReady (reason : GraphError)
  deriving DecidableEq, Repr

/-- A run that waits for its outcome. -/
structure Run where
  ticket : Ticket
  request : ExecutionRequest
  deriving DecidableEq, Repr

namespace Session

variable {α : Type}

/-- A session at its start. -/
def ofGraph (graph : Graph α) : Session α := ⟨graph, false⟩

/-- Closes the session; all runs become stale. -/
def close (s : Session α) : Session α :=
  ⟨s.graph.cancel, true⟩

/-- Starts a run, unless the session is closed or there is nothing to run. -/
def start (s : Session α) : Except RunReport Run × Session α :=
  if s.closed then (.error .superseded, s)
  else
    match s.graph.executionRequest with
    | .error e => (.error (.notReady e), s)
    | .ok request =>
      let (ticket, graph) := s.graph.begin
      (.ok ⟨ticket, request⟩, { s with graph })

/-- The outcome of a run arrives. -/
def resolve (s : Session α) (run : Run) (outcome : RunOutcome) : RunReport × Session α :=
  match s.graph.finish run.ticket outcome with
  | (false, graph) => (.superseded, { s with graph })
  | (true, graph) =>
    (match outcome with
      | .ok result => .completed result.rowCount
      | .error reason => .failed reason,
      { s with graph })

/-- A run is dropped before its outcome arrives. -/
def dropRun (s : Session α) (run : Run) : Session α :=
  { s with graph := s.graph.abandon run.ticket }

/-- Starts a run whose outcome arrives at once.  The first part is the run, if there was one. -/
def execute (s : Session α) (outcome : RunOutcome) : Option Run × RunReport × Session α :=
  match s.start with
  | (.error report, s) => (none, report, s)
  | (.ok run, s) => (some run, s.resolve run outcome)

end Session

end QueryBuilder

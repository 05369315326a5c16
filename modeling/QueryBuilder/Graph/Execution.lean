/-
**Running the query of a graph.**

A run is known by a ticket, which is the number of runs started or cancelled when it began.  The
outcome of a run counts only while its ticket is the graph's latest number; any later start or
cancellation makes it stale.

Main definitions:

* `QueryBuilder.Ticket` — a run;
* `QueryBuilder.Graph.begin`, `QueryBuilder.Graph.finish`, `QueryBuilder.Graph.abandon`,
  `QueryBuilder.Graph.cancel` — the life of a run;
* `QueryBuilder.Graph.setExecuting`, `QueryBuilder.Graph.setError`, `QueryBuilder.Graph.setResult`
  — what is shown of it.
-/

import QueryBuilder.Graph.Basic

set_option autoImplicit false

namespace QueryBuilder

/-- A run of the query of a graph. -/
structure Ticket where
  generation : Nat
  deriving DecidableEq, Repr

/-- What the service that runs queries answers: a result, or the reason for which there is none. -/
abbrev RunOutcome := Except String QueryResult

namespace Graph

variable {α : Type}

/-- Shows whether a query runs. -/
def setExecuting (g : Graph α) (executing : Bool) : Graph α :=
  { g with executing }

/-- Shows a message, or none. -/
def setError (g : Graph α) (error : Option String) : Graph α :=
  { g with error }

/-- Shows a result; the message goes away. -/
def setResult (g : Graph α) (result : QueryResult) : Graph α :=
  { g with lastResult := some result, error := none }

/-- Starts a run; all earlier ones become stale. -/
def begin (g : Graph α) : Ticket × Graph α :=
  let generation := g.generation + 1
  (⟨generation⟩, { g with generation, executing := true })

/-- Whether a run is the latest one and was not cancelled. -/
def isCurrent (g : Graph α) (ticket : Ticket) : Bool :=
  ticket.generation == g.generation

/-- Shows what became of a run, unless it is stale: a result, or the reason of a failure next to
the last result. -/
def finish (g : Graph α) (ticket : Ticket) (outcome : RunOutcome) : Bool × Graph α :=
  if g.isCurrent ticket then
    let g := g.setExecuting false
    match outcome with
    | .ok result => (true, g.setResult result)
    | .error reason => (true, g.setError (some reason))
  else
    (false, g)

/-- Gives a run up without an outcome. -/
def abandon (g : Graph α) (ticket : Ticket) : Graph α :=
  if g.isCurrent ticket then g.setExecuting false else g

/-- Makes every run that was started so far stale. -/
def cancel (g : Graph α) : Graph α :=
  { g with generation := g.generation + 1, executing := false }

end Graph

end QueryBuilder

/-
**The graph of a builder session, and edits of it.**

A graph is a diagram together with what a session needs besides: the message that is shown, the
last result, whether a query runs, the number of runs that were started or cancelled, the settings
for placing tables, and the last id that was given out.

An edit is made of steps.  A step asks something of the graph that was reached so far, or writes to
it.  A question may end the edit with an error, and what was written before stays written: nothing
in the steps takes it back.  That edits ask first and write then is a matter of their order, and it
is proved edit by edit.

Main definitions:

* `QueryBuilder.Graph` — the graph;
* `QueryBuilder.Graph.nextId` — the next id, above all that are or were in use;
* `QueryBuilder.Editing`, `QueryBuilder.Graph.edit` — the steps of an edit, and what they answer
  and leave behind;
* `QueryBuilder.Editing.ask`, `QueryBuilder.Editing.askShown`, `QueryBuilder.Editing.find`,
  `QueryBuilder.Editing.drawId` — steps that several edits share;
* `QueryBuilder.Graph.reset`, `QueryBuilder.Graph.setDatabase` — edits of the graph as a whole.
-/

import QueryBuilder.Canvas.Placement
import QueryBuilder.Graph.Diagram
import QueryBuilder.Query.Result

set_option autoImplicit false

namespace QueryBuilder

/-- The graph of a builder session. -/
structure Graph (α : Type) extends Diagram α where
  executing : Bool
  error : Option String
  lastResult : Option QueryResult
  /-- The number of runs that were started or cancelled. -/
  generation : Nat
  settings : Settings α
  lastId : Nat

namespace Graph

variable {α : Type}

/-- A graph that nothing has happened to yet. -/
def ofDiagram (d : Diagram α) (settings : Settings α) : Graph α :=
  { d with
    executing := false
    error := none
    lastResult := none
    generation := 0
    settings
    lastId := 0 }

/-- A graph without parts. -/
def empty (settings : Settings α) : Graph α :=
  ofDiagram .empty settings

/-- The next id: above the last one, and above those that a loaded diagram brought along. -/
def nextId (g : Graph α) : Nat :=
  max g.lastId (g.ids.foldl max 0) + 1

end Graph

/-! ### Steps of edits -/

/-- An edit under way: steps that read the graph and write to it, each of which may end it with an
error.  What was written by then stays written. -/
abbrev Editing (α : Type) : Type → Type :=
  ExceptT GraphError (StateM (Graph α))

/-- What an edit answers, and the graph that it reached, whether it came to its end or not. -/
def Graph.edit {α β : Type} (g : Graph α) (steps : Editing α β) : Except GraphError β × Graph α :=
  steps.run.run g

namespace Editing

variable {α β : Type}

/-- Asks something of the graph that was reached. -/
def ask (question : Graph α → Except GraphError β) : Editing α β := do
  match question (← get) with
  | .ok b => return b
  | .error e => throw e

/-- Ends the edit with an error that the graph shows. -/
def reject (e : GraphError) : Editing α β := do
  modify fun g => { g with error := some e.message }
  throw e

/-- Asks something of the graph that was reached, which shows why the answer is no. -/
def askShown (question : Graph α → Except GraphError β) : Editing α β := do
  match question (← get) with
  | .ok b => return b
  | .error e => reject e

/-- Looks for a part of the graph that was reached. -/
def find (part? : Graph α → Option β) (missing : GraphError) : Editing α β := do
  match part? (← get) with
  | some b => return b
  | none => throw missing

/-- Draws the next id, which is used up even if the edit fails later. -/
def drawId : Editing α Nat := do
  let id := (← get).nextId
  modify fun g => { g with lastId := id }
  return id

end Editing

/-! ### Edits of the graph as a whole -/

namespace Graph

variable {α : Type}

/-- Drops everything but the settings; runs that were started before are stale. -/
def reset (g : Graph α) : Graph α :=
  { empty g.settings with generation := g.generation + 1 }

/-- Chooses the database, which is fixed while there are tables. -/
def setDatabase (g : Graph α) (database : Option Int) : Except GraphError Unit × Graph α :=
  g.edit do
    let reached ← get
    if reached.tables ≠ [] ∧ database ≠ reached.database then
      Editing.reject .databaseLocked
    modify fun g => { g with database }

end Graph

end QueryBuilder

/-
**Dropping things on the canvas.**

A drop is an edit of the graph: a table on the canvas is placed, a field on the list of columns
becomes a column, a column on another column takes its place, and a table's connector on another
table joins the two.  All other drops are ignored.  A drop that is refused leaves its reason as the
graph's message.

Main definitions:

* `QueryBuilder.Target`, `QueryBuilder.DropOutcome` — where things are dropped, and what came of it;
* `QueryBuilder.Graph.drop` — a drop of a payload;
* `QueryBuilder.Graph.dropText` — a drop of a text;
* `QueryBuilder.Graph.activate` — a field chosen by other means than a drop.
-/

import QueryBuilder.Drop.Payload
import QueryBuilder.Graph.Columns
import QueryBuilder.Graph.Execution
import QueryBuilder.Graph.Joins
import QueryBuilder.Graph.Suggestion
import QueryBuilder.Graph.Tables

set_option autoImplicit false

namespace QueryBuilder

/-- Where something is dropped. -/
inductive Target where
  | canvas
  | columnList
  | column (id : Nat)
  | table (id : Nat)
  deriving DecidableEq, Repr

/-- What came of a drop. -/
inductive DropOutcome where
  | ignored
  | tableAdded (id : Nat)
  | columnAdded (id : Nat)
  | columnMoved (src dst : Nat)
  | joinAdded (id : Nat)
  /-- Two tables without keys to suggest: the user has to choose. -/
  | joinDraft (source target : Nat)
  /-- The message is the graph's as well. -/
  | rejected (message : String)
  deriving DecidableEq, Repr

namespace Graph

variable {α : Type}

/-- Refuses a drop. -/
def reject (g : Graph α) (message : String) : DropOutcome × Graph α :=
  (.rejected message, g.setError (some message))

/-- Places a table. -/
def dropTable [Coordinate α] (g : Graph α) (drag : TableDrag) : DropOutcome × Graph α :=
  match drag.toNewTable with
  | .error e => g.reject e.message
  | .ok t =>
    match g.addTable t with
    | (.ok id, g) => (.tableAdded id, g)
    | (.error e, g) => (.rejected e.message, g)

/-- Adds a field as a column, by a drop or by other means. -/
def activate (g : Graph α) (drag : FieldDrag) : DropOutcome × Graph α :=
  match drag.table, drag.field with
  | none, _ => g.reject (DropError.missing "canvasTableId").message
  | _, none => g.reject (DropError.missing "fieldId").message
  | some table, some field =>
    match g.addColumn table field with
    | (.ok id, g) => (.columnAdded id, g)
    | (.error e, g) => g.reject e.message

/-- Moves a column to the place of another one. -/
def dropColumn (g : Graph α) (moved other : Nat) : DropOutcome × Graph α :=
  match g.columnIndex? moved, g.columnIndex? other with
  | some src, some dst =>
    if src = dst then (.ignored, g)
    else
      match g.reorderColumns src dst with
      | (.ok (), g) => (.columnMoved src dst, g)
      | (.error e, g) => g.reject e.message
  | _, _ => (.ignored, g)

/-- Joins two tables by the suggested keys. -/
def dropConnector (g : Graph α) (source target : Nat) : DropOutcome × Graph α :=
  if source = target then (.ignored, g)
  else
    match g.table? source, g.table? target with
    | some s, some t =>
      match suggest s.side t.side with
      | none => (.joinDraft source target, g)
      | some keys =>
        match g.addJoin ⟨source, target, keys.sourceField, keys.targetField, .left⟩ with
        | (.ok id, g) => (.joinAdded id, g)
        | (.error e, g) => g.reject e.message
    | _, _ => (.ignored, g)

/-- A drop of a payload. -/
def drop [Coordinate α] (g : Graph α) : Payload → Target → DropOutcome × Graph α
  | .table drag, .canvas => g.dropTable drag
  | .field drag, .columnList => g.activate drag
  | .column moved, .column other => g.dropColumn moved other
  | .connector source, .table target => g.dropConnector source target
  | _, _ => (.ignored, g)

/-- A drop of a text, which is refused if it cannot be read. -/
def dropText [Coordinate α] (g : Graph α) (wording : Json.Wording) (text : String)
    (target : Target) : DropOutcome × Graph α :=
  match Payload.ofText wording text with
  | .ok payload => g.drop payload target
  | .error e => g.reject e.message

end Graph

end QueryBuilder

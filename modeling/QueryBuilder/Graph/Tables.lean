/-
**Edits of tables.**

Main definitions:

* `QueryBuilder.Graph.addTable` — places a table;
* `QueryBuilder.Graph.removeTable` — takes a table away, with everything that refers to it;
* `QueryBuilder.Graph.moveTable` — moves a table;
* `QueryBuilder.Graph.commitPosition` — moves a table that is let go, which makes the graph a
  receiver of such places.
-/

import QueryBuilder.Canvas.Drag
import QueryBuilder.Graph.Alias
import QueryBuilder.Graph.Basic

set_option autoImplicit false

namespace QueryBuilder.Graph

open Editing

variable {α : Type}

/-- Places a table right of the others.  The first table fixes the database, and the message of an
earlier refusal goes away. -/
def addTable [Coordinate α] (g : Graph α) (t : NewTable) : Except GraphError Nat × Graph α :=
  g.edit do
    askShown fun g => g.checkCatalogId t.catalogId
    askShown fun g => g.checkDatabase t.database
    let id ← drawId
    let reached ← get
    let position := reached.settings.spawn (reached.tables.map (·.position))
    let aliasName := Alias.fresh (reached.tables.map (·.aliasName)) t.name
    modify fun g => { g with database := some t.database }
    modify fun g => { g with tables := g.tables ++ [{ t with id, aliasName, position }] }
    modify fun g => { g with error := none }
    return id

/-- Takes a table away, with everything that refers to it.  With the last table the database is free
again. -/
def removeTable (g : Graph α) (id : Nat) : Except GraphError (PlacedTable α) × Graph α :=
  g.edit do
    let t ← find (fun g => g.table? id) (.unknownTable id)
    modify fun g => { g with tables := g.tables.filter fun t => t.id != id }
    modify fun g => { g with joins := g.joins.filter fun j => !j.touches id }
    modify fun g => { g with columns := g.columns.filter fun c => c.table != id }
    modify fun g => { g with filters := g.filters.filter fun f => f.table != id }
    if (← get).tables.isEmpty then
      modify fun g => { g with database := none }
    return t

/-- Moves a table. -/
def moveTable (g : Graph α) (id : Nat) (position : Position α) : Except GraphError Unit × Graph α :=
  g.edit do
    let _ ← find (fun g => g.table? id) (.unknownTable id)
    modify fun g => { g with
      tables := g.tables.map fun t => if t.id = id then { t with position } else t }

/-- Moves a table at the end of a drag; a table that is gone is left alone. -/
def commitPosition (g : Graph α) (id : Nat) (position : Position α) : Graph α :=
  (g.moveTable id position).2

instance : PositionSink (Graph α) α :=
  ⟨commitPosition⟩

end QueryBuilder.Graph

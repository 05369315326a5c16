/-
**Loading a saved graph.**

A saved diagram is rebuilt part by part, under the checks that edits apply; the first part that
fails is reported.  What columns and filters say about their fields is taken from the tables, and
what edits would not have left behind is put right: aggregations of what is no number, blank
aliases, values of tests for null.

Main definitions:

* `QueryBuilder.Diagram.repeated?` — the first id that is used twice;
* `QueryBuilder.Diagram.acceptTable`, `QueryBuilder.Diagram.acceptJoin`,
  `QueryBuilder.Diagram.acceptColumn`, `QueryBuilder.Diagram.acceptFilter` — one more part;
* `QueryBuilder.Diagram.accept` — a saved diagram, checked;
* `QueryBuilder.Graph.load`, `QueryBuilder.Graph.loadText`, `QueryBuilder.Graph.saveText` — graphs
  from and to texts.
-/

import QueryBuilder.Graph.Basic
import QueryBuilder.Graph.Codec
import QueryBuilder.Json.Load
import QueryBuilder.Json.Render

set_option autoImplicit false

namespace QueryBuilder

variable {α : Type}

/-! ### Checking -/

namespace Diagram

/-- The first of the given ids that was seen before. -/
def repeated? (seen : List Nat) : List Nat → Option Nat
  | [] => none
  | id :: rest => if seen.contains id then some id else repeated? (id :: seen) rest

/-- An alias belongs to one table. -/
def checkAlias (d : Diagram α) (aliasName : String) : Except GraphError Unit :=
  if d.tables.any fun t => t.aliasName == aliasName then .error (.duplicateAlias aliasName) else .ok ()

/-- One more table. -/
def acceptTable (d : Diagram α) (t : PlacedTable α) : Except GraphError (Diagram α) := do
  d.checkCatalogId t.catalogId
  d.checkAlias t.aliasName
  d.checkDatabase t.database
  return { d with database := some t.database, tables := d.tables ++ [t] }

/-- One more join. -/
def acceptJoin (d : Diagram α) (j : Join) : Except GraphError (Diagram α) := do
  d.checkLink j.toLink
  return { d with joins := d.joins ++ [j] }

/-- One more column. -/
def acceptColumn (d : Diagram α) (c : Column) : Except GraphError (Diagram α) := do
  let use ← d.use c.table c.field
  d.checkUnused use
  let column : Column :=
    { use with
      id := c.id
      aggregation := c.aggregation.allowedFor use.baseType
      aliasName := usefulAlias c.aliasName }
  return { d with columns := d.columns ++ [column] }

/-- One more filter. -/
def acceptFilter (d : Diagram α) (f : Filter) : Except GraphError (Diagram α) := do
  let use ← d.use f.table f.field
  checkComparison f.comparison use.baseType
  let filter : Filter :=
    { use with
      id := f.id
      comparison := f.comparison
      value := f.comparison.keptValue f.value
      connective := f.connective }
  return { d with filters := d.filters ++ [filter] }

/-- A saved diagram, checked and put right. -/
def accept (saved : Diagram α) : Except GraphError (Diagram α) := do
  if let some id := repeated? [] saved.ids then throw (.duplicateId id)
  let d ← saved.tables.foldlM acceptTable { empty with database := saved.database }
  let d ← saved.joins.foldlM acceptJoin d
  let d ← saved.columns.foldlM acceptColumn d
  saved.filters.foldlM acceptFilter d

end Diagram

/-! ### Texts -/

namespace Graph

/-- The graph of a saved diagram, with the standard settings. -/
def load [Coordinate α] (saved : Diagram α) : Except GraphError (Graph α) :=
  saved.accept.map fun d => ofDiagram d .standard

/-- The graph of a text. -/
def loadText (text : String) : Except (Json.LoadError GraphError) (Graph Float) :=
  Json.loadText Diagram.ofDraft load text

/-- The text of a graph: its diagram, and nothing of how it is used. -/
def saveText (g : Graph Float) : String :=
  g.toDiagram.toJson.compact

end Graph

end QueryBuilder

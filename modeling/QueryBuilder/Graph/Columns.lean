/-
**Edits of columns.**

A column takes its names and its type from the table, whatever the caller believes them to be.

Main definitions:

* `QueryBuilder.Graph.addColumn`, `QueryBuilder.Graph.updateColumn`,
  `QueryBuilder.Graph.removeColumn`;
* `QueryBuilder.Graph.reorderColumns` — moves a column to another place.
-/

import QueryBuilder.Graph.Basic

set_option autoImplicit false

namespace QueryBuilder.Graph

open Editing

variable {α : Type}

/-- Adds a column that shows a field as it is. -/
def addColumn (g : Graph α) (table : Nat) (field : Int) : Except GraphError Nat × Graph α :=
  g.edit do
    let use ← ask fun g => g.use table field
    ask fun g => g.checkUnused use
    let id ← drawId
    let column : Column := { use with id, aggregation := .plain, aliasName := none }
    modify fun g => { g with columns := g.columns ++ [column] }
    return id

/-- The graph with one of its columns written to. -/
def writeColumn (g : Graph α) (id : Nat) (write : Column → Column) : Graph α :=
  { g with columns := g.columns.map fun c => if c.id = id then write c else c }

/-- Changes a column. -/
def updateColumn (g : Graph α) (id : Nat) (change : ColumnChange) :
    Except GraphError Unit × Graph α :=
  g.edit do
    let _ ← find (fun g => g.column? id) (.unknownColumn id)
    if let some aggregation := change.aggregation then
      modify (·.writeColumn id fun c =>
        { c with aggregation := aggregation.allowedFor c.baseType })
    if let some aliasName := change.aliasName then
      modify (·.writeColumn id fun c => { c with aliasName := usefulAlias aliasName })

/-- Takes a column away. -/
def removeColumn (g : Graph α) (id : Nat) : Except GraphError Column × Graph α :=
  g.edit do
    let c ← find (fun g => g.column? id) (.unknownColumn id)
    modify fun g => { g with columns := g.columns.filter fun c => c.id != id }
    return c

/-- Moves a column to another place; of two wrong places the first is reported. -/
def reorderColumns (g : Graph α) (src dst : Nat) : Except GraphError Unit × Graph α :=
  g.edit do
    let length := (← get).columns.length
    for index in [src, dst] do
      if length ≤ index then throw (.indexOutOfRange index length)
    if src ≠ dst then
      if let some column := (← get).columns[src]? then
        modify fun g => { g with columns := g.columns.eraseIdx src }
        modify fun g => { g with columns := g.columns.insertIdx dst column }

end QueryBuilder.Graph

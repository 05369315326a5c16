/-
**Edits of filters.**

A filter takes its names and its type from the table, and the type decides which comparisons it
admits.

Main definitions:

* `QueryBuilder.Graph.addFilter`, `QueryBuilder.Graph.updateFilter`,
  `QueryBuilder.Graph.removeFilter`.
-/

import QueryBuilder.Graph.Basic

set_option autoImplicit false

namespace QueryBuilder.Graph

open Editing

variable {α : Type}

/-- Adds a filter that asks for equality with null. -/
def addFilter (g : Graph α) (table : Nat) (field : Int) : Except GraphError Nat × Graph α :=
  g.edit do
    let use ← ask fun g => g.use table field
    let id ← drawId
    let filter : Filter := { use with id, comparison := .eq, value := none, connective := .and }
    modify fun g => { g with filters := g.filters ++ [filter] }
    return id

/-- The graph with one of its filters written to. -/
def writeFilter (g : Graph α) (id : Nat) (write : Filter → Filter) : Graph α :=
  { g with filters := g.filters.map fun f => if f.id = id then write f else f }

/-- Changes a filter, if its type admits the new comparison; tests for null lose their value. -/
def updateFilter (g : Graph α) (id : Nat) (change : FilterChange) :
    Except GraphError Unit × Graph α :=
  g.edit do
    let current ← find (fun g => g.filter? id) (.unknownFilter id)
    if let some comparison := change.comparison then
      ask fun _ => Diagram.checkComparison comparison current.baseType
    if let some comparison := change.comparison then
      modify (·.writeFilter id fun f => { f with comparison })
    if let some value := change.value then
      modify (·.writeFilter id fun f => { f with value })
    modify (·.writeFilter id fun f => { f with value := f.comparison.keptValue f.value })
    if let some connective := change.connective then
      modify (·.writeFilter id fun f => { f with connective })

/-- Takes a filter away. -/
def removeFilter (g : Graph α) (id : Nat) : Except GraphError Filter × Graph α :=
  g.edit do
    let f ← find (fun g => g.filter? id) (.unknownFilter id)
    modify fun g => { g with filters := g.filters.filter fun f => f.id != id }
    return f

end QueryBuilder.Graph

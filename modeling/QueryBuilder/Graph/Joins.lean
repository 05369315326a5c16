/-
**Edits of joins.**

Main definitions:

* `QueryBuilder.Graph.addJoin`, `QueryBuilder.Graph.updateJoin`, `QueryBuilder.Graph.removeJoin`.
-/

import QueryBuilder.Graph.Basic

set_option autoImplicit false

namespace QueryBuilder.Graph

open Editing

variable {α : Type}

/-- Adds a join. -/
def addJoin (g : Graph α) (l : Link) : Except GraphError Nat × Graph α :=
  g.edit do
    ask fun g => g.checkLink l
    let id ← drawId
    modify fun g => { g with joins := g.joins ++ [{ l with id }] }
    return id

/-- Changes a join, if what comes out is a join. -/
def updateJoin (g : Graph α) (id : Nat) (change : LinkChange) : Except GraphError Unit × Graph α :=
  g.edit do
    let current ← find (fun g => g.join? id) (.unknownJoin id)
    let merged := change.apply current.toLink
    ask fun g => g.checkLink merged
    modify fun g => { g with
      joins := g.joins.map fun j => if j.id = id then { merged with id } else j }

/-- Takes a join away. -/
def removeJoin (g : Graph α) (id : Nat) : Except GraphError Join × Graph α :=
  g.edit do
    let j ← find (fun g => g.join? id) (.unknownJoin id)
    modify fun g => { g with joins := g.joins.filter fun j => j.id != id }
    return j

end QueryBuilder.Graph

/-
**The graphs that a session can get to.**

A session starts with a graph without parts or with a loaded one, and edits it in any order, with
any arguments.  All the graphs on the way have valid diagrams: the start has one, because loading
checks what it loads, and every edit leaves one.

Main results:

* `QueryBuilder.Graph.Reachable.valid` — a graph that a session can get to is valid;
* `QueryBuilder.Graph.valid_run` — **every run of edits from a start stays among valid graphs**.
-/

import QueryBuilder.Proofs.Graph.Acceptance
import QueryBuilder.Proofs.Graph.Preservation

set_option autoImplicit false

namespace QueryBuilder

namespace Graph

variable {α : Type} [Coordinate α]

/-- A session starts with a valid graph. -/
theorem Initial.valid {g : Graph α} (h : g.Initial) : g.toDiagram.Valid := by
  cases h with
  | empty settings => exact Diagram.Valid.ofEmpty
  | @loaded saved g h =>
      obtain ⟨d, hd, rfl⟩ := load_eq_ok.1 h
      exact Diagram.valid_accept hd

/-- A graph that a session can get to is valid. -/
theorem Reachable.valid {g : Graph α} (h : g.Reachable) : g.toDiagram.Valid := by
  obtain ⟨start, edits, hstart, rfl⟩ := h
  exact hstart.valid.run edits

/-- **Every run of edits from a start stays among valid graphs.**  Ids are distinct across all four
kinds of parts, catalog tables and aliases are distinct, all tables belong to the database of the
graph, joins connect two tables by a field of each, columns and filters say of their fields what
the catalog says, and are as edits leave them behind. -/
theorem valid_run {start : Graph α} (h : start.Initial) (edits : List (Edit α)) :
    (start.run edits).toDiagram.Valid :=
  h.valid.run edits

/-- A run from a loaded graph: a table with a taken alias, a link to itself, a removed table. -/
theorem valid_run_sample : ∃ start : Graph Float, load Sample.saved = .ok start ∧
    (start.run [.addTable { Sample.orders with catalogId := 5 }, .addJoin ⟨7, 7, 10, 10, .full⟩,
      .addColumn 7 12, .updateFilter 1 ⟨some .contains, none, none⟩, .removeTable 3,
      .addFilter 7 10]).toDiagram.Valid := by
  have hok : (load Sample.saved).isOk = true := by decide +kernel
  cases hstart : load Sample.saved with
  | error e =>
      rw [hstart] at hok
      cases hok
  | ok start => exact ⟨start, rfl, valid_run (.loaded hstart) _⟩

end Graph

end QueryBuilder

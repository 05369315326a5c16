/-
**Edits of a graph, and runs of edits.**

Everything that can be done to a graph from outside is one of a fixed set of edits, each with
arguments of its own.  A refused edit is an edit too: it leaves the graph as it was, or with a
message.  A session starts with a graph without parts or with a loaded one, and a graph is
*reachable* if some run of edits leads to it from such a start.

Main definitions:

* `QueryBuilder.Edit`, `QueryBuilder.Graph.apply` — the edits, and the graph after one;
* `QueryBuilder.Graph.run` — the graph after a list of edits;
* `QueryBuilder.Graph.Initial`, `QueryBuilder.Graph.Reachable` — the graphs that a session starts
  with, and those that it can get to;
* `QueryBuilder.Sample.orders`, `QueryBuilder.Sample.customers`, `QueryBuilder.Sample.saved`,
  `QueryBuilder.Sample.graph` — two tables of a catalog, a saved diagram with both of them, and a
  graph with parts of every kind, for examples.

Main results:

* `QueryBuilder.Graph.run_induction` — what every edit preserves, every run preserves.
-/

import QueryBuilder.Graph.Execution
import QueryBuilder.Graph.Saved
import QueryBuilder.Proofs.Graph.Steps

set_option autoImplicit false

namespace QueryBuilder

variable {α : Type}

/-! ### Edits -/

/-- An edit of a graph with its arguments, which need not make sense for the graph. -/
inductive Edit (α : Type) where
  | setDatabase (database : Option Int)
  | addTable (table : NewTable)
  | removeTable (id : Nat)
  | moveTable (id : Nat) (position : Position α)
  | commitPosition (id : Nat) (position : Position α)
  | addJoin (link : Link)
  | updateJoin (id : Nat) (change : LinkChange)
  | removeJoin (id : Nat)
  | addColumn (table : Nat) (field : Int)
  | updateColumn (id : Nat) (change : ColumnChange)
  | removeColumn (id : Nat)
  | reorderColumns (src dst : Nat)
  | addFilter (table : Nat) (field : Int)
  | updateFilter (id : Nat) (change : FilterChange)
  | removeFilter (id : Nat)
  | reset
  | setExecuting (executing : Bool)
  | setError (error : Option String)
  | setResult (result : QueryResult)
  | begin
  | finish (ticket : Ticket) (outcome : RunOutcome)
  | abandon (ticket : Ticket)
  | cancel

namespace Graph

/-- The graph after an edit, whether the edit applies or is refused. -/
def apply [Coordinate α] (g : Graph α) : Edit α → Graph α
  | .setDatabase database => (g.setDatabase database).2
  | .addTable table => (g.addTable table).2
  | .removeTable id => (g.removeTable id).2
  | .moveTable id position => (g.moveTable id position).2
  | .commitPosition id position => g.commitPosition id position
  | .addJoin link => (g.addJoin link).2
  | .updateJoin id change => (g.updateJoin id change).2
  | .removeJoin id => (g.removeJoin id).2
  | .addColumn table field => (g.addColumn table field).2
  | .updateColumn id change => (g.updateColumn id change).2
  | .removeColumn id => (g.removeColumn id).2
  | .reorderColumns src dst => (g.reorderColumns src dst).2
  | .addFilter table field => (g.addFilter table field).2
  | .updateFilter id change => (g.updateFilter id change).2
  | .removeFilter id => (g.removeFilter id).2
  | .reset => g.reset
  | .setExecuting executing => g.setExecuting executing
  | .setError error => g.setError error
  | .setResult result => g.setResult result
  | .begin => g.begin.2
  | .finish ticket outcome => (g.finish ticket outcome).2
  | .abandon ticket => g.abandon ticket
  | .cancel => g.cancel

/-! ### Runs -/

/-- The graph after a list of edits, the first of which comes first. -/
def run [Coordinate α] (g : Graph α) (edits : List (Edit α)) : Graph α :=
  edits.foldl apply g

@[simp] theorem run_nil [Coordinate α] (g : Graph α) : g.run [] = g := rfl

@[simp] theorem run_cons [Coordinate α] (g : Graph α) (e : Edit α) (edits : List (Edit α)) :
    g.run (e :: edits) = (g.apply e).run edits := rfl

/-- A graph that a session starts with: one without parts, under any settings, or a saved one that
was accepted. -/
inductive Initial [Coordinate α] : Graph α → Prop where
  | empty (settings : Settings α) : Initial (.empty settings)
  | loaded {saved : Diagram α} {g : Graph α} (h : load saved = .ok g) : Initial g

/-- A graph that some run of edits leads to. -/
def Reachable [Coordinate α] (g : Graph α) : Prop :=
  ∃ (start : Graph α) (edits : List (Edit α)), start.Initial ∧ g = start.run edits

/-- **What every edit preserves, every run preserves.** -/
theorem run_induction [Coordinate α] {P : Graph α → Prop}
    (step : ∀ (g : Graph α) (e : Edit α), P g → P (g.apply e)) {g : Graph α} (h : P g)
    (edits : List (Edit α)) : P (g.run edits) := by
  induction edits generalizing g with
  | nil => exact h
  | cons e edits ih => exact ih (step g e h)

/-- The graph after a run of edits can be got to from where the run started. -/
theorem Reachable.run [Coordinate α] {g : Graph α} (h : g.Reachable) (edits : List (Edit α)) :
    (g.run edits).Reachable := by
  obtain ⟨start, before, hstart, rfl⟩ := h
  exact ⟨start, before ++ edits, hstart, by rw [Graph.run, Graph.run, Graph.run, List.foldl_append]⟩

end Graph

/-! ### Graphs for examples -/

namespace Sample

/-- Orders, with a foreign key into the customers. -/
def orders : NewTable :=
  { catalogId := 1, name := "orders", schema := some "public", database := 4
    fields := [⟨10, "id", "ID", "type/Integer", some "type/PK", none⟩,
      ⟨11, "customer_id", "", "type/Integer", none, some 20⟩,
      ⟨12, "total", "", "type/Float", none, none⟩] }

/-- Customers, whose name begins with another letter. -/
def customers : NewTable :=
  { catalogId := 2, name := "customers", schema := none, database := 4
    fields := [⟨20, "id", "", "type/Integer", none, none⟩, ⟨21, "name", "", "type/Text", none, none⟩] }

/-- Orders joined with customers.  What the column and the filter say of their fields is wrong, and
so is what they ask of them. -/
def saved : Diagram Float :=
  { database := none
    tables := [{ orders with id := 7, aliasName := "o", position := ⟨50, 50⟩ },
      { customers with id := 3, aliasName := "c", position := ⟨310, 50⟩ }]
    joins := [⟨⟨7, 3, 11, 20, .left⟩, 8⟩]
    columns := [⟨⟨3, 21, "?", "?", "type/Float"⟩, 9, .sum, some " "⟩]
    filters := [⟨⟨7, 12, "?", "?", "?"⟩, 1, .notNull, some (.float 2.5), .or⟩] }

/-- Orders joined with customers, with a sum, a comparison with a double and a test for null. -/
def edits : List (Edit Float) :=
  [.addTable orders, .addTable customers, .addJoin ⟨1, 2, 11, 20, .left⟩, .addColumn 2 21,
    .addColumn 1 12, .updateColumn 5 ⟨some .sum, none⟩, .addFilter 1 12,
    .updateFilter 6 ⟨some .gt, some (some (.float 2.5)), none⟩, .addFilter 2 21,
    .updateFilter 7 ⟨some .isNull, none, some .or⟩]

/-- The graph that these edits lead to. -/
def graph : Graph Float :=
  (Graph.empty .standard).run edits

theorem reachable_graph : graph.Reachable :=
  ⟨.empty .standard, edits, .empty .standard, rfl⟩

end Sample

end QueryBuilder

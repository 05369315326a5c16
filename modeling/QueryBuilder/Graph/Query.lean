/-
**The query of a graph.**

The first table is the source of the query.  Joins, columns and filters appear in it one by one and
in order; a field of another table than the first is named together with that table's alias.
Filters are combined strictly from the left, each by its own connective.

Main definitions:

* `QueryBuilder.Diagram.fieldRef` — how a field is named;
* `QueryBuilder.Diagram.joinClause?`, `QueryBuilder.Diagram.projection`,
  `QueryBuilder.Diagram.comparison` — what joins, columns and filters become;
* `QueryBuilder.Diagram.condition?` — all filters as one condition;
* `QueryBuilder.Diagram.query?` — the query, if there is a table;
* `QueryBuilder.Diagram.executionRequest` — what the service is asked.
-/

import QueryBuilder.Graph.Diagram
import QueryBuilder.Query.Request

set_option autoImplicit false

namespace QueryBuilder.Diagram

variable {α : Type}

/-- A field of the source table by itself, or a field of another table with its alias. -/
def fieldRef (d : Diagram α) (root : PlacedTable α) (table : Nat) (field : Int) : FieldRef :=
  ⟨field, if table = root.id then none else (d.table? table).map (·.aliasName)⟩

/-- The clause of a join, which names the joined table. -/
def joinClause? (d : Diagram α) (root : PlacedTable α) (j : Join) : Option JoinClause :=
  (d.table? j.target).map fun target =>
    { aliasName := target.aliasName
      source := target.catalogId
      lhs := d.fieldRef root j.source j.sourceField
      rhs := d.fieldRef root j.target j.targetField
      kind := j.kind }

/-- What a column shows. -/
def projection (d : Diagram α) (root : PlacedTable α) (c : Column) : Projection :=
  let field := d.fieldRef root c.table c.field
  match c.aggregation with
  | .plain => .plain field
  | aggregation => .aggregate aggregation field

/-- What a filter asks. -/
def comparison (d : Diagram α) (root : PlacedTable α) (f : Filter) : Condition :=
  .compare f.comparison (d.fieldRef root f.table f.field) (f.comparison.keptValue f.value)

/-- One more filter behind a condition. -/
def addComparison (d : Diagram α) (root : PlacedTable α) (before : Option Condition) (f : Filter) :
    Option Condition :=
  match before with
  | none => some (d.comparison root f)
  | some lhs => some (.combine f.connective lhs (d.comparison root f))

/-- All filters as one condition, combined from the left. -/
def condition? (d : Diagram α) (root : PlacedTable α) : Option Condition :=
  d.filters.foldl (d.addComparison root) none

/-- The query, if there is a table. -/
def query? (d : Diagram α) : Option Query :=
  d.tables.head?.map fun root =>
    { source := root.catalogId
      joins := d.joins.filterMap (d.joinClause? root)
      projections := d.columns.map (d.projection root)
      condition := d.condition? root }

/-- What the service that runs queries is asked. -/
def executionRequest (d : Diagram α) : Except GraphError ExecutionRequest :=
  match d.query? with
  | none => .error .noTables
  | some query =>
    match d.database with
    | none => .error .noDatabase
    | some database => .ok ⟨database, query⟩

end QueryBuilder.Diagram

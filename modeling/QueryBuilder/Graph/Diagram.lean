/-
**What a graph says, apart from how it is used.**

A diagram holds the tables, joins, columns and filters of a query and the database they belong to.
It is what a saved graph consists of, and what a query is made from.  A diagram by itself is not
checked; the checks that edits and loading share are defined here.

Main definitions:

* `QueryBuilder.Diagram` — the parts;
* `QueryBuilder.Diagram.table?`, `QueryBuilder.Diagram.join?`, `QueryBuilder.Diagram.column?`,
  `QueryBuilder.Diagram.filter?` — parts by id;
* `QueryBuilder.Diagram.checkCatalogId`, `QueryBuilder.Diagram.checkDatabase`,
  `QueryBuilder.Diagram.checkLink`, `QueryBuilder.Diagram.use`, `QueryBuilder.Diagram.checkUnused`
  — the shared checks.
-/

import QueryBuilder.Graph.Entity
import QueryBuilder.Graph.Error

set_option autoImplicit false

namespace QueryBuilder

/-- The parts of a query graph, each kind in the order in which it was added. -/
structure Diagram (α : Type) where
  database : Option Int
  tables : List (PlacedTable α)
  joins : List Join
  columns : List Column
  filters : List Filter
  deriving DecidableEq, Repr

namespace Diagram

variable {α : Type}

/-- A diagram without parts. -/
def empty : Diagram α := ⟨none, [], [], [], []⟩

/-! ### Parts by id -/

/-- The table with an id. -/
def table? (d : Diagram α) (id : Nat) : Option (PlacedTable α) :=
  d.tables.find? fun t => t.id == id

/-- The join with an id. -/
def join? (d : Diagram α) (id : Nat) : Option Join :=
  d.joins.find? fun j => j.id == id

/-- The column with an id. -/
def column? (d : Diagram α) (id : Nat) : Option Column :=
  d.columns.find? fun c => c.id == id

/-- The place of a column among the columns. -/
def columnIndex? (d : Diagram α) (id : Nat) : Option Nat :=
  d.columns.findIdx? fun c => c.id == id

/-- The filter with an id. -/
def filter? (d : Diagram α) (id : Nat) : Option Filter :=
  d.filters.find? fun f => f.id == id

/-- All ids: those of tables, then of joins, columns and filters. -/
def ids (d : Diagram α) : List Nat :=
  d.tables.map (·.id) ++ d.joins.map (·.id) ++ d.columns.map (·.id) ++ d.filters.map (·.id)

/-! ### Checks -/

/-- A catalog table is placed once. -/
def checkCatalogId (d : Diagram α) (catalogId : Int) : Except GraphError Unit :=
  if d.tables.any fun t => t.catalogId == catalogId then .error .tableOnCanvas else .ok ()

/-- All tables belong to one database. -/
def checkDatabase (d : Diagram α) (database : Int) : Except GraphError Unit :=
  match d.database with
  | some expected =>
    if expected = database then .ok () else .error (.databaseMismatch expected database)
  | none => .ok ()

/-- A key field belongs to its table. -/
def checkKey (d : Diagram α) (table : Nat) (field : Int) : Except GraphError Unit :=
  match d.table? table with
  | none => .error (.unknownTable table)
  | some t => if t.hasField field then .ok () else .error (.fieldNotInTable field t.name)

/-- A link connects two tables by a field of each; the source is looked at first. -/
def checkLink (d : Diagram α) (l : Link) : Except GraphError Unit := do
  if l.source = l.target then throw .selfJoin
  d.checkKey l.source l.sourceField
  d.checkKey l.target l.targetField

/-- A field of a table with what the catalog knows of it. -/
def use (d : Diagram α) (table : Nat) (field : Int) : Except GraphError FieldUse :=
  match d.table? table with
  | none => .error (.unknownTable table)
  | some t =>
    match t.field? field with
    | none => .error (.fieldNotInTable field t.name)
    | some f => .ok ⟨table, field, f.name, t.name, f.baseType⟩

/-- A field is shown by one column only. -/
def checkUnused (d : Diagram α) (use : FieldUse) : Except GraphError Unit :=
  if d.columns.any fun c => c.table == use.table && c.field == use.field then
    .error .duplicateColumn
  else
    .ok ()

/-- A comparison is one that the type of a field admits. -/
def checkComparison (comparison : Comparison) (baseType : String) : Except GraphError Unit :=
  if (FieldClass.ofBaseType baseType).supports comparison then .ok ()
  else .error (.unsupportedComparison comparison baseType)

end Diagram

end QueryBuilder

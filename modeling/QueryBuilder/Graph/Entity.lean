/-
**The parts of a query graph.**

Tables, joins, columns and filters refer to each other by ids that are handed out per session, one
sequence for all four kinds.  What the catalog knows of a table or field is kept with the part that
uses it.

Main definitions:

* `QueryBuilder.PlacedTable` — a table on the canvas;
* `QueryBuilder.Link`, `QueryBuilder.Join` — what a join connects, and a join of the graph;
* `QueryBuilder.FieldUse` — a field of a table on the canvas, as columns and filters name it;
* `QueryBuilder.Column`, `QueryBuilder.Filter` — what a query shows and what it keeps;
* `QueryBuilder.LinkChange`, `QueryBuilder.ColumnChange`, `QueryBuilder.FilterChange` — partial
  updates.
-/

import QueryBuilder.Canvas.Coordinate
import QueryBuilder.Catalog.Table
import QueryBuilder.Query.Literal

set_option autoImplicit false

namespace QueryBuilder

/-! ### Tables -/

/-- A table on the canvas. -/
structure PlacedTable (α : Type) extends NewTable where
  id : Nat
  aliasName : String
  position : Position α
  deriving DecidableEq, Repr

/-- Whether the table has a field with the given id. -/
def PlacedTable.hasField {α : Type} (t : PlacedTable α) (id : Int) : Bool :=
  (t.field? id).isSome

/-! ### Joins -/

/-- Two tables with a key field of each. -/
structure Link where
  source : Nat
  target : Nat
  sourceField : Int
  targetField : Int
  kind : JoinKind
  deriving DecidableEq, Repr

/-- A join of the graph. -/
structure Join extends Link where
  id : Nat
  deriving DecidableEq, Repr

/-- Whether a table is at one of the two ends. -/
def Link.touches (l : Link) (table : Nat) : Bool :=
  l.source == table || l.target == table

/-- New values for some parts of a link. -/
structure LinkChange where
  source : Option Nat
  target : Option Nat
  sourceField : Option Int
  targetField : Option Int
  kind : Option JoinKind
  deriving DecidableEq, Repr

/-- The link with the new values. -/
def LinkChange.apply (change : LinkChange) (l : Link) : Link :=
  { source := change.source.getD l.source
    target := change.target.getD l.target
    sourceField := change.sourceField.getD l.sourceField
    targetField := change.targetField.getD l.targetField
    kind := change.kind.getD l.kind }

/-! ### Columns -/

/-- A field of a table on the canvas, with what the catalog knows of it. -/
structure FieldUse where
  table : Nat
  field : Int
  fieldName : String
  tableName : String
  baseType : String
  deriving DecidableEq, Repr

/-- A column that the query shows. -/
structure Column extends FieldUse where
  id : Nat
  aggregation : Aggregation
  aliasName : Option String
  deriving DecidableEq, Repr

/-- New values for some parts of a column; the alias may be taken away. -/
structure ColumnChange where
  aggregation : Option Aggregation
  aliasName : Option (Option String)
  deriving DecidableEq, Repr

/-- The aggregation that a field with the given type gets when another one is asked for: only
numbers can be aggregated. -/
def Aggregation.allowedFor (a : Aggregation) (baseType : String) : Aggregation :=
  if (FieldClass.ofBaseType baseType).isAggregatable then a else .plain

/-- An alias that says something. -/
def usefulAlias (aliasName : Option String) : Option String :=
  aliasName.filter fun a => !Text.isBlankText a

/-! ### Filters -/

/-- A condition that rows have to meet. -/
structure Filter extends FieldUse where
  id : Nat
  comparison : Comparison
  value : Option Literal
  /-- How the condition is joined to those before it; the first one has none before it. -/
  connective : Connective
  deriving DecidableEq, Repr

/-- New values for some parts of a filter; the value may be taken away. -/
structure FilterChange where
  comparison : Option Comparison
  value : Option (Option Literal)
  connective : Option Connective
  deriving DecidableEq, Repr

/-- A value next to a comparison that takes one. -/
def Comparison.keptValue (c : Comparison) (value : Option Literal) : Option Literal :=
  if c.isUnary then none else value

end QueryBuilder

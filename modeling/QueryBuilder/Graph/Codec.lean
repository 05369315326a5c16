/-
**The parts of a graph in JSON.**

Main definitions:

* `toJson` and `ofDraft` of `QueryBuilder.PlacedTable`, `QueryBuilder.Join`,
  `QueryBuilder.FieldUse`, `QueryBuilder.Column`, `QueryBuilder.Filter` and
  `QueryBuilder.Diagram`;
* `QueryBuilder.Link.ofDraft`, and `ofDraft` of the three kinds of changes.
-/

import QueryBuilder.Graph.Diagram

set_option autoImplicit false

namespace QueryBuilder

/-! ### Tables -/

namespace PlacedTable

/-- The names of the members of a written table. -/
def members : List String :=
  ["id", "tableId", "tableName", "schemaName", "alias", "databaseId", "position", "fields"]

/-- Writes a table. -/
def toJson (t : PlacedTable Float) : Json :=
  .record ([("id", .nat t.id), ("tableId", .int t.catalogId), ("tableName", .text t.name)] ++
    Json.ifPresent "schemaName" .text t.schema ++
    [("alias", .text t.aliasName), ("databaseId", .int t.database), ("position", t.position.toJson),
      ("fields", .list (t.fields.map Field.toJson))])

/-- Reads a table. -/
def ofDraft : Json.Decoder (PlacedTable Float) :=
  Json.recordOf members false fun r =>
    (fun id catalogId name schema aliasName database position fields =>
      { id, catalogId, name, schema, aliasName, database, position, fields })
      <$> r.required "id" Json.nat64 <*> r.required "tableId" Json.int64
      <*> r.required "tableName" Json.string
      <*> r.withDefault "schemaName" none (Json.nullable Json.string)
      <*> r.required "alias" Json.string <*> r.required "databaseId" Json.int64
      <*> r.required "position" Position.ofDraft
      <*> r.required "fields" (Json.listOf Field.ofDraft)

end PlacedTable

/-! ### Joins -/

/-- Reads a link; without a kind it keeps all rows of the source. -/
def Link.ofDraft : Json.Decoder Link :=
  Json.recordOf ["sourceTableId", "targetTableId", "sourceFieldId", "targetFieldId", "joinType"]
    false fun r =>
    Link.mk <$> r.required "sourceTableId" Json.nat64 <*> r.required "targetTableId" Json.nat64
      <*> r.required "sourceFieldId" Json.int64 <*> r.required "targetFieldId" Json.int64
      <*> r.withDefault "joinType" .left JoinKind.ofWord

namespace Join

/-- The names of the members of a written join. -/
def members : List String :=
  ["id", "sourceTableId", "targetTableId", "sourceFieldId", "targetFieldId", "joinType"]

/-- Writes a join. -/
def toJson (j : Join) : Json :=
  .record [("id", .nat j.id), ("sourceTableId", .nat j.source), ("targetTableId", .nat j.target),
    ("sourceFieldId", .int j.sourceField), ("targetFieldId", .int j.targetField),
    ("joinType", .text j.kind.word)]

/-- Reads a join. -/
def ofDraft : Json.Decoder Join :=
  Json.recordOf members false fun r =>
    (fun id source target sourceField targetField kind =>
      { id, source, target, sourceField, targetField, kind })
      <$> r.required "id" Json.nat64 <*> r.required "sourceTableId" Json.nat64
      <*> r.required "targetTableId" Json.nat64 <*> r.required "sourceFieldId" Json.int64
      <*> r.required "targetFieldId" Json.int64 <*> r.required "joinType" JoinKind.ofWord

end Join

/-- Reads a change of a link; a part that is there must have a value. -/
def LinkChange.ofDraft : Json.Decoder LinkChange :=
  Json.recordOf ["sourceTableId", "targetTableId", "sourceFieldId", "targetFieldId", "joinType"]
    false fun r =>
    LinkChange.mk <$> r.ifGiven "sourceTableId" Json.nat64
      <*> r.ifGiven "targetTableId" Json.nat64 <*> r.ifGiven "sourceFieldId" Json.int64
      <*> r.ifGiven "targetFieldId" Json.int64 <*> r.ifGiven "joinType" JoinKind.ofWord

/-! ### Uses of fields -/

namespace FieldUse

/-- The names of the members of a written use. -/
def members : List String :=
  ["canvasTableId", "fieldId", "fieldName", "tableName", "baseType"]

/-- The members of a use. -/
def toMembers (u : FieldUse) : List (String × Json) :=
  [("canvasTableId", .nat u.table), ("fieldId", .int u.field), ("fieldName", .text u.fieldName),
    ("tableName", .text u.tableName), ("baseType", .text u.baseType)]

/-- Writes a use. -/
def toJson (u : FieldUse) : Json :=
  .record u.toMembers

/-- Reads the members of a use. -/
def ofFields (r : Json.Fields) : Json.Reading FieldUse :=
  FieldUse.mk <$> r.required "canvasTableId" Json.nat64 <*> r.required "fieldId" Json.int64
    <*> r.required "fieldName" Json.string <*> r.required "tableName" Json.string
    <*> r.required "baseType" Json.string

/-- Reads a use. -/
def ofDraft : Json.Decoder FieldUse :=
  Json.recordOf members false ofFields

end FieldUse

/-! ### Columns -/

namespace Column

/-- Writes a column. -/
def toJson (c : Column) : Json :=
  .record ([("id", .nat c.id)] ++ c.toFieldUse.toMembers ++
    [("aggregation", .text c.aggregation.word)] ++ Json.ifPresent "alias" .text c.aliasName)

/-- Reads a column. -/
def ofDraft : Json.Decoder Column :=
  Json.recordOf (["id"] ++ FieldUse.members ++ ["aggregation", "alias"]) false fun r =>
    (fun id use aggregation aliasName => { use with id, aggregation, aliasName })
      <$> r.required "id" Json.nat64 <*> FieldUse.ofFields r
      <*> r.required "aggregation" Aggregation.ofWord
      <*> r.withDefault "alias" none (Json.nullable Json.string)

end Column

/-- Reads a change of a column; an alias of `null` takes the alias away. -/
def ColumnChange.ofDraft : Json.Decoder ColumnChange :=
  Json.recordOf ["aggregation", "alias"] false fun r =>
    ColumnChange.mk <$> r.ifGiven "aggregation" Aggregation.ofWord
      <*> r.ifGiven "alias" (Json.nullable Json.string)

/-! ### Filters -/

namespace Filter

/-- Writes a filter. -/
def toJson (f : Filter) : Json :=
  .record ([("id", .nat f.id)] ++ f.toFieldUse.toMembers ++
    [("operator", .text f.comparison.word), ("value", .optional Literal.toJson f.value),
      ("logic", .text f.connective.word)])

/-- Reads a filter. -/
def ofDraft : Json.Decoder Filter :=
  Json.recordOf (["id"] ++ FieldUse.members ++ ["operator", "value", "logic"]) false fun r =>
    (fun id use comparison value connective => { use with id, comparison, value, connective })
      <$> r.required "id" Json.nat64 <*> FieldUse.ofFields r
      <*> r.required "operator" Comparison.ofWord <*> r.optional "value" Literal.ofDraft
      <*> r.required "logic" Connective.ofWord

end Filter

/-- Reads a change of a filter; a value of `null` takes the value away. -/
def FilterChange.ofDraft : Json.Decoder FilterChange :=
  Json.recordOf ["operator", "value", "logic"] false fun r =>
    FilterChange.mk <$> r.ifGiven "operator" Comparison.ofWord
      <*> r.ifGiven "value" (Json.nullable Literal.ofDraft)
      <*> r.ifGiven "logic" Connective.ofWord

/-! ### Diagrams -/

namespace Diagram

/-- Writes a diagram. -/
def toJson (d : Diagram Float) : Json :=
  .record [("databaseId", .optional .int d.database),
    ("tables", .list (d.tables.map PlacedTable.toJson)),
    ("joins", .list (d.joins.map Join.toJson)),
    ("columns", .list (d.columns.map Column.toJson)),
    ("filters", .list (d.filters.map Filter.toJson))]

/-- Reads a diagram, unchecked; every member may be left out. -/
def ofDraft : Json.Decoder (Diagram Float) :=
  Json.recordOf ["databaseId", "tables", "joins", "columns", "filters"] false fun r =>
    Diagram.mk <$> r.withDefault "databaseId" none (Json.nullable Json.int64)
      <*> r.withDefault "tables" [] (Json.listOf PlacedTable.ofDraft)
      <*> r.withDefault "joins" [] (Json.listOf Join.ofDraft)
      <*> r.withDefault "columns" [] (Json.listOf Column.ofDraft)
      <*> r.withDefault "filters" [] (Json.listOf Filter.ofDraft)

end Diagram

end QueryBuilder

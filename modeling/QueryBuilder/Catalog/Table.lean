/-
**Tables and databases of a catalog.**

Main definitions:

* `QueryBuilder.CatalogTable`, `QueryBuilder.CatalogDatabase` — the entries of a catalog;
* `QueryBuilder.NewTable` — a table that is about to be placed on the canvas;
* `toJson` and `ofDraft` in the namespace of each.
-/

import QueryBuilder.Catalog.Field

set_option autoImplicit false

namespace QueryBuilder

/-! ### Tables to be placed -/

/-- A table that is about to be placed on the canvas. -/
structure NewTable where
  catalogId : Int
  name : String
  schema : Option String
  database : Int
  fields : List Field
  deriving DecidableEq, Repr

namespace NewTable

/-- The field with the given id. -/
def field? (t : NewTable) (id : Int) : Option Field :=
  t.fields.find? fun f => f.id == id

/-- The names of the members of a written table. -/
def members : List String :=
  ["tableId", "tableName", "schemaName", "databaseId", "fields"]

/-- Writes a table. -/
def toJson (t : NewTable) : Json :=
  .record [("tableId", .int t.catalogId), ("tableName", .text t.name),
    ("schemaName", .optional .text t.schema), ("databaseId", .int t.database),
    ("fields", .list (t.fields.map Field.toJson))]

/-- Reads a table. -/
def ofDraft : Json.Decoder NewTable :=
  Json.recordOf members false fun r =>
    NewTable.mk <$> r.required "tableId" Json.int64 <*> r.required "tableName" Json.string
      <*> r.withDefault "schemaName" none (Json.nullable Json.string)
      <*> r.required "databaseId" Json.int64
      <*> r.required "fields" (Json.listOf Field.ofDraft)

end NewTable

/-! ### Entries of the catalog -/

/-- A database in the list of databases. -/
structure CatalogDatabase where
  id : Int
  name : String
  engine : Option String
  deriving DecidableEq, Repr

namespace CatalogDatabase

/-- Writes a database. -/
def toJson (d : CatalogDatabase) : Json :=
  .record [("id", .int d.id), ("name", .text d.name), ("engine", .optional .text d.engine)]

/-- Reads a database. -/
def ofDraft : Json.Decoder CatalogDatabase :=
  Json.recordOf ["id", "name", "engine"] false fun r =>
    CatalogDatabase.mk <$> r.required "id" Json.int64 <*> r.required "name" Json.string
      <*> r.withDefault "engine" none (Json.nullable Json.string)

end CatalogDatabase

/-- A table in the list of tables of a database. -/
structure CatalogTable where
  id : Int
  name : String
  displayName : String
  schema : Option String
  database : Int
  fields : List Field
  deriving DecidableEq, Repr

namespace CatalogTable

/-- The table as it is placed on the canvas. -/
def toNewTable (t : CatalogTable) : NewTable :=
  { catalogId := t.id, name := t.name, schema := t.schema, database := t.database,
    fields := t.fields }

/-- The names of the members of a written table. -/
def members : List String :=
  ["id", "name", "display_name", "schema", "db_id", "fields"]

/-- Writes a table. -/
def toJson (t : CatalogTable) : Json :=
  .record [("id", .int t.id), ("name", .text t.name), ("display_name", .text t.displayName),
    ("schema", .optional .text t.schema), ("db_id", .int t.database),
    ("fields", .list (t.fields.map Field.toJson))]

/-- Reads a table. -/
def ofDraft : Json.Decoder CatalogTable :=
  Json.recordOf members false fun r =>
    CatalogTable.mk <$> r.required "id" Json.int64 <*> r.required "name" Json.string
      <*> r.withDefault "display_name" "" Json.string
      <*> r.withDefault "schema" none (Json.nullable Json.string)
      <*> r.required "db_id" Json.int64
      <*> r.withDefault "fields" [] (Json.listOf Field.ofDraft)

end CatalogTable

end QueryBuilder

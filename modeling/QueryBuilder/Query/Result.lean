/-
**Results of queries.**

Main definitions:

* `QueryBuilder.QueryResult` — the rows that a query gave, with the fields they consist of;
* `QueryBuilder.QueryResult.toJson`, `QueryBuilder.QueryResult.ofDraft` — writing and reading.
-/

import QueryBuilder.Catalog.Field

set_option autoImplicit false

namespace QueryBuilder

/-- The rows that a query gave.  Their number is reported by the service and need not be the length
of the list. -/
structure QueryResult where
  fields : List Field
  rows : List (List Json)
  rowCount : Nat
  deriving Repr

namespace QueryResult

/-- Writes a result. -/
def toJson (r : QueryResult) : Json :=
  .record [("data", .record [("cols", .list (r.fields.map Field.toJson)),
      ("rows", .list (r.rows.map .list))]),
    ("row_count", .nat r.rowCount)]

/-- Reads the fields and the rows of a result. -/
def dataOfDraft : Json.Decoder (List Field × List (List Json)) :=
  Json.recordOf ["cols", "rows"] false fun r =>
    Prod.mk <$> r.withDefault "cols" [] (Json.listOf Field.ofDraft)
      <*> r.withDefault "rows" [] (Json.listOf (Json.listOf Json.any))

/-- Reads a result. -/
def ofDraft : Json.Decoder QueryResult :=
  Json.recordOf ["data", "row_count"] false fun r =>
    (fun data count => ⟨data.1, data.2, count⟩) <$> r.required "data" dataOfDraft
      <*> r.withDefault "row_count" 0 Json.nat64

end QueryResult

end QueryBuilder

/-
**What is dragged.**

Drags carry a text that says what is dragged.  It comes from outside, so nothing in it is taken for
granted: a text that cannot be read is refused as a whole, in the words of the reader, and a table
may lack what is needed to place it.

The text is a record with a member `type` among the others, or a list with the type as its first
item.

Main definitions:

* `QueryBuilder.Payload` — what is dragged;
* `QueryBuilder.DropError` — why a drag is refused, apart from the graph;
* `QueryBuilder.TableDrag.toNewTable` — the table to be placed, if it lacks nothing;
* `QueryBuilder.Payload.ofText` — reading.
-/

import QueryBuilder.Catalog.Table
import QueryBuilder.Json.Load

set_option autoImplicit false

namespace QueryBuilder

/-! ### Errors -/

/-- Why a drag is refused, apart from reasons of the graph. -/
inductive DropError where
  | missing (member : String)
  /-- The reader says what is wrong with the text. -/
  | unreadable (words : String)
  deriving DecidableEq, Repr

/-- The text that is shown. -/
def DropError.message : DropError → String
  | .missing member => "Dropped item is missing " ++ member
  | .unreadable words => "Unreadable drop payload: " ++ words

/-! ### Payloads -/

/-- A table of the catalog. -/
structure TableDrag where
  catalogId : Option Int
  name : Option String
  schema : Option String
  database : Option Int
  fields : List Field
  deriving DecidableEq, Repr

/-- A field of a table on the canvas. -/
structure FieldDrag where
  table : Option Nat
  field : Option Int
  deriving DecidableEq, Repr

/-- What is dragged. -/
inductive Payload where
  | table (drag : TableDrag)
  | field (drag : FieldDrag)
  | column (id : Nat)
  /-- The connector of a table on the canvas. -/
  | connector (table : Nat)
  deriving DecidableEq, Repr

namespace TableDrag

/-- The table to be placed.  Of several missing members the first is reported; an empty name counts
as missing. -/
def toNewTable (t : TableDrag) : Except DropError NewTable :=
  match t.catalogId, t.name.filter (fun n => !n.isEmpty), t.database with
  | none, _, _ => .error (.missing "tableId")
  | _, none, _ => .error (.missing "tableName")
  | _, _, none => .error (.missing "databaseId")
  | some catalogId, some name, some database =>
    .ok { catalogId, name, schema := t.schema, database, fields := t.fields }

/-- Reads a table. -/
def ofDraft : Json.Decoder TableDrag :=
  Json.recordOf ["tableId", "tableName", "schemaName", "databaseId", "fields"] false fun r =>
    TableDrag.mk <$> r.optional "tableId" Json.int64 <*> r.optional "tableName" Json.string
      <*> r.optional "schemaName" Json.string <*> r.optional "databaseId" Json.int64
      <*> r.withDefault "fields" [] (Json.listOf Field.ofDraft)

end TableDrag

/-- Reads a field. -/
def FieldDrag.ofDraft : Json.Decoder FieldDrag :=
  Json.recordOf ["canvasTableId", "fieldId"] false fun r =>
    FieldDrag.mk <$> r.optional "canvasTableId" Json.nat64 <*> r.optional "fieldId" Json.int64

namespace Payload

/-- The type of a payload and the draft of its other members. -/
def split? : Json.Draft → Option (String × Json.Draft)
  | .record members =>
    match members.partition fun m => m.1 == some "type" with
    | ([(_, .text kind)], rest) => some (kind, .record rest)
    | _ => none
  | .list (.text kind :: rest) => some (kind, .list rest)
  | _ => none

/-- Reads the members that belong to a type. -/
def ofKind (kind : String) : Json.Decoder Payload := fun d =>
  if kind = "table" then table <$> TableDrag.ofDraft d
  else if kind = "field" then field <$> FieldDrag.ofDraft d
  else if kind = "column" then
    column <$> Json.recordOf ["columnId"] false (fun r => r.required "columnId" Json.nat64) d
  else if kind = "tableLink" then
    connector <$>
      Json.recordOf ["sourceTableId"] false (fun r => r.required "sourceTableId" Json.nat64) d
  else .error .mismatch

/-- Reads a payload.  The whole of it must have a value, also what is not asked for. -/
def ofDraft : Json.Decoder Payload := fun d => do
  let _ ← d.value
  match split? d with
  | some (kind, rest) => ofKind kind rest
  | none => .error .mismatch

/-- Reads the text of a drag. -/
def ofText (wording : Json.Wording) (text : String) : Except DropError Payload :=
  match Json.decodeText (ε := Empty) ofDraft text with
  | .ok payload => .ok payload
  | .error _ => .error (.unreadable (wording text))

end Payload

end QueryBuilder

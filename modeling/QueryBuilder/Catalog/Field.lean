/-
**Fields of catalog tables.**

Main definitions:

* `QueryBuilder.Field` — a field as the catalog describes it;
* `QueryBuilder.Field.toJson`, `QueryBuilder.Field.ofDraft` — writing and reading.
-/

import QueryBuilder.Catalog.FieldClass

set_option autoImplicit false

namespace QueryBuilder

/-- A field as the catalog describes it. -/
structure Field where
  id : Int
  name : String
  displayName : String
  baseType : String
  semanticType : Option String
  /-- The field that this one refers to, if it is a foreign key. -/
  references : Option Int
  deriving DecidableEq, Repr

namespace Field

/-- The class of the field's type. -/
def fieldClass (f : Field) : FieldClass :=
  .ofBaseType f.baseType

/-- Whether the field is the key of its table. -/
def isPrimaryKey (f : Field) : Bool :=
  f.semanticType = some "type/PK"

/-- Whether the field refers to another one, or says that it does. -/
def isForeignKey (f : Field) : Bool :=
  f.references.isSome || f.semanticType = some "type/FK"

/-- The names of the members of a written field. -/
def members : List String :=
  ["id", "name", "display_name", "base_type", "semantic_type", "fk_target_field_id"]

/-- Writes a field. -/
def toJson (f : Field) : Json :=
  .record ([("id", .int f.id), ("name", .text f.name), ("display_name", .text f.displayName),
    ("base_type", .text f.baseType)] ++
    Json.ifPresent "semantic_type" .text f.semanticType ++
    Json.ifPresent "fk_target_field_id" .int f.references)

/-- Reads a field. -/
def ofDraft : Json.Decoder Field :=
  Json.recordOf members false fun r =>
    Field.mk <$> r.required "id" Json.int64 <*> r.required "name" Json.string
      <*> r.withDefault "display_name" "" Json.string <*> r.required "base_type" Json.string
      <*> r.withDefault "semantic_type" none (Json.nullable Json.string)
      <*> r.withDefault "fk_target_field_id" none (Json.nullable Json.int64)

end Field

end QueryBuilder

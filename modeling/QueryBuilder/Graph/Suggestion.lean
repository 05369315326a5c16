/-
**Suggesting the keys of a join.**

Four rules are tried in order: a foreign key of the source into the target, one of the target into
the source, an `id` of the source that the target names after the source, and an `id` of the target
that the source names after the target.

Main definitions:

* `QueryBuilder.Side` — what the rules look at;
* `QueryBuilder.Side.foreignKey?`, `QueryBuilder.Side.namedKey?` — the rules;
* `QueryBuilder.Suggestion`, `QueryBuilder.suggest` — the pair of keys of the first rule that
  applies.
-/

import QueryBuilder.Graph.Entity

set_option autoImplicit false

namespace QueryBuilder

/-- The name and the fields of a table. -/
structure Side where
  name : String
  fields : List Field
  deriving DecidableEq, Repr

/-- A table of the catalog as one side of a join. -/
def CatalogTable.side (t : CatalogTable) : Side := ⟨t.name, t.fields⟩

/-- A table on the canvas as one side of a join. -/
def PlacedTable.side {α : Type} (t : PlacedTable α) : Side := ⟨t.name, t.fields⟩

/-- The key fields of a join. -/
structure Suggestion where
  sourceField : Int
  targetField : Int
  deriving DecidableEq, Repr

namespace Suggestion

/-- The keys of the join in the other direction. -/
def swap (s : Suggestion) : Suggestion := ⟨s.targetField, s.sourceField⟩

/-- Writes a suggestion. -/
def toJson (s : Suggestion) : Json :=
  .record [("sourceFieldId", .int s.sourceField), ("targetFieldId", .int s.targetField)]

end Suggestion

namespace Side

/-- The first field of one side that refers to a field of the other. -/
def foreignKey? (source target : Side) : Option Suggestion :=
  source.fields.findSome? fun f =>
    f.references.bind fun id =>
      (target.fields.find? fun t => t.id == id).map fun t => ⟨f.id, t.id⟩

/-- Whether a name is `id`, in any case. -/
def isIdName (name : String) : Bool :=
  name.toList.map Text.lowerAscii = ['i', 'd']

/-- Whether a field is named after an owner: `owner_id` or `ownerid`, in any case. -/
def isNamedAfter (owner field : String) : Bool :=
  let name := Text.lower field.toList
  let stem := Text.lower owner.toList
  name = stem ++ "_id".toList || name = stem ++ "id".toList

/-- The `id` of one side with the first field of the other that is named after that side. -/
def namedKey? (owner other : Side) : Option Suggestion :=
  (owner.fields.find? fun f => isIdName f.name).bind fun id =>
    (other.fields.find? fun f => isNamedAfter owner.name f.name).map fun f => ⟨id.id, f.id⟩

end Side

/-- The keys of the first rule that applies. -/
def suggest (source target : Side) : Option Suggestion :=
  (source.foreignKey? target).or <|
  ((target.foreignKey? source).map Suggestion.swap).or <|
  (source.namedKey? target).or <|
  (target.namedKey? source).map Suggestion.swap

end QueryBuilder

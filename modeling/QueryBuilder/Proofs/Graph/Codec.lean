/-
**Written parts of a graph read back.**

Each part of a diagram is a record whose numbers are whole numbers of 64 bits or doubles.  A part
whose whole numbers are within their ranges is what its decoder makes of the record that was written
for it: members that were left out are absent again, and a filter's value is of the same kind as
before.

Main definitions:

* `Fits` in the namespace of each part — the whole numbers are within the ranges of 64 bits.

Main results:

* `recovers` in the namespace of each part — the decoder gives back the part;
* `QueryBuilder.Diagram.recovers` — **the decoder gives back the diagram**.
-/

import Mathlib.Tactic.MkIffOfInductiveProp
import QueryBuilder.Graph.Codec
import QueryBuilder.Proofs.Json.Decoding

set_option autoImplicit false

namespace QueryBuilder

open Json Json.Reading

/-! ### Fields and positions -/

/-- The ids are within their range. -/
@[mk_iff]
structure Field.Fits (f : Field) : Prop where
  id : isInt64 f.id = true
  references : ∀ r ∈ f.references, isInt64 r = true

instance (f : Field) : Decidable f.Fits :=
  decidable_of_iff _ (Field.fits_iff f).symm

theorem Field.recovers {f : Field} (h : f.Fits) : Recovers Field.ofDraft Field.toJson f := by
  refine (recordOf_record (by decide) ?_).trans (toExcept_eq_ok ?_)
  · rw [List.map_append, List.map_append]
    exact ((List.Sublist.refl _).append (names_ifPresent _ _ _)).append (names_ifPresent _ _ _)
  · refine seq_eq_done (seq_eq_done (seq_eq_done (seq_eq_done (seq_eq_done
      (map_eq_done ?_) ?_) ?_) ?_) ?_) ?_
    · exact Fields.required_ofMembers (by simp) (recovers_int64 h.id)
    · exact Fields.required_ofMembers (by simp) (recovers_string f.name)
    · exact Fields.withDefault_ofMembers (by simp) (recovers_string f.displayName)
    · exact Fields.required_ofMembers (by simp) (recovers_string f.baseType)
    · exact Fields.withDefault_ifPresent (by simp [List.lookup_append]) fun s _ =>
        ⟨recovers_string s, by simp⟩
    · exact Fields.withDefault_ifPresent (by simp [List.lookup_append]) fun r hr =>
        ⟨recovers_int64 (h.references r hr), by simp [Json.int]⟩

theorem Position.recovers (p : Position Float) : Recovers Position.ofDraft Position.toJson p := by
  refine (recordOf_record (by decide) ?_).trans (toExcept_eq_ok ?_)
  · exact List.Sublist.refl _
  · refine seq_eq_done (map_eq_done ?_) ?_
    · exact Fields.required_ofMembers (by simp) (recovers_double p.x)
    · exact Fields.required_ofMembers (by simp) (recovers_double p.y)

/-! ### Tables -/

/-- The ids of a table and of its fields are within their ranges. -/
@[mk_iff]
structure PlacedTable.Fits (t : PlacedTable Float) : Prop where
  id : isNat64 t.id = true
  catalogId : isInt64 t.catalogId = true
  database : isInt64 t.database = true
  fields : ∀ f ∈ t.fields, f.Fits

instance (t : PlacedTable Float) : Decidable t.Fits :=
  decidable_of_iff _ (PlacedTable.fits_iff t).symm

theorem PlacedTable.recovers {t : PlacedTable Float} (h : t.Fits) :
    Recovers PlacedTable.ofDraft PlacedTable.toJson t := by
  refine (recordOf_record (by decide) ?_).trans (toExcept_eq_ok ?_)
  · rw [List.map_append, List.map_append]
    exact ((List.Sublist.refl _).append (names_ifPresent _ _ _)).append (List.Sublist.refl _)
  · refine seq_eq_done (seq_eq_done (seq_eq_done (seq_eq_done (seq_eq_done (seq_eq_done (seq_eq_done
      (map_eq_done ?_) ?_) ?_) ?_) ?_) ?_) ?_) ?_
    · exact Fields.required_ofMembers (by simp) (recovers_nat64 h.id)
    · exact Fields.required_ofMembers (by simp) (recovers_int64 h.catalogId)
    · exact Fields.required_ofMembers (by simp) (recovers_string t.name)
    · exact Fields.withDefault_ifPresent (by simp [List.lookup_append]) fun s _ =>
        ⟨recovers_string s, by simp⟩
    · exact Fields.required_ofMembers (by simp [List.lookup_append]) (recovers_string t.aliasName)
    · exact Fields.required_ofMembers (by simp [List.lookup_append]) (recovers_int64 h.database)
    · exact Fields.required_ofMembers (by simp [List.lookup_append]) (Position.recovers t.position)
    · exact Fields.required_ofMembers (by simp [List.lookup_append])
        (recovers_listOf fun f hf => Field.recovers (h.fields f hf))

/-! ### Joins -/

/-- The ids of a join are within their ranges. -/
@[mk_iff]
structure Join.Fits (j : Join) : Prop where
  id : isNat64 j.id = true
  source : isNat64 j.source = true
  target : isNat64 j.target = true
  sourceField : isInt64 j.sourceField = true
  targetField : isInt64 j.targetField = true

instance (j : Join) : Decidable j.Fits :=
  decidable_of_iff _ (Join.fits_iff j).symm

theorem JoinKind.recovers (k : JoinKind) :
    Recovers JoinKind.ofWord (fun k => .text k.word) k :=
  recovers_word (by cases k <;> decide) (by decide)

theorem Join.recovers {j : Join} (h : j.Fits) : Recovers Join.ofDraft Join.toJson j := by
  refine (recordOf_record (by decide) ?_).trans (toExcept_eq_ok ?_)
  · exact List.Sublist.refl _
  · refine seq_eq_done (seq_eq_done (seq_eq_done (seq_eq_done (seq_eq_done
      (map_eq_done ?_) ?_) ?_) ?_) ?_) ?_
    · exact Fields.required_ofMembers (by simp) (recovers_nat64 h.id)
    · exact Fields.required_ofMembers (by simp) (recovers_nat64 h.source)
    · exact Fields.required_ofMembers (by simp) (recovers_nat64 h.target)
    · exact Fields.required_ofMembers (by simp) (recovers_int64 h.sourceField)
    · exact Fields.required_ofMembers (by simp) (recovers_int64 h.targetField)
    · exact Fields.required_ofMembers (by simp) (JoinKind.recovers j.kind)

/-! ### Columns -/

/-- The ids of a use of a field are within their ranges. -/
@[mk_iff]
structure FieldUse.Fits (u : FieldUse) : Prop where
  table : isNat64 u.table = true
  field : isInt64 u.field = true

instance (u : FieldUse) : Decidable u.Fits :=
  decidable_of_iff _ (FieldUse.fits_iff u).symm

/-- A use is read from a record that has its members behind an id. -/
theorem FieldUse.ofFields_eq_done {u : FieldUse} (h : u.Fits) (id : Json)
    (more : List (String × Json)) :
    FieldUse.ofFields (.ofMembers ([("id", id)] ++ u.toMembers ++ more)) = .done u := by
  refine seq_eq_done (seq_eq_done (seq_eq_done (seq_eq_done (map_eq_done ?_) ?_) ?_) ?_) ?_
  · exact Fields.required_ofMembers (by simp [toMembers]) (recovers_nat64 h.table)
  · exact Fields.required_ofMembers (by simp [toMembers]) (recovers_int64 h.field)
  · exact Fields.required_ofMembers (by simp [toMembers]) (recovers_string u.fieldName)
  · exact Fields.required_ofMembers (by simp [toMembers]) (recovers_string u.tableName)
  · exact Fields.required_ofMembers (by simp [toMembers]) (recovers_string u.baseType)

/-- The ids of a column are within their ranges. -/
@[mk_iff]
structure Column.Fits (c : Column) : Prop extends FieldUse.Fits c.toFieldUse where
  id : isNat64 c.id = true

instance (c : Column) : Decidable c.Fits :=
  decidable_of_iff _ (Column.fits_iff c).symm

theorem Aggregation.recovers (a : Aggregation) :
    Recovers Aggregation.ofWord (fun a => .text a.word) a :=
  recovers_word (by cases a <;> decide) (by decide)

theorem Column.recovers {c : Column} (h : c.Fits) : Recovers Column.ofDraft Column.toJson c := by
  refine (recordOf_record (by decide) ?_).trans (toExcept_eq_ok ?_)
  · rw [List.map_append]
    exact (List.Sublist.refl _).append (names_ifPresent _ _ _)
  · refine seq_eq_done (seq_eq_done (seq_eq_done (map_eq_done ?_) ?_) ?_) ?_
    · exact Fields.required_ofMembers (by simp [FieldUse.toMembers]) (recovers_nat64 h.id)
    · rw [List.append_assoc _ [_] _]
      exact FieldUse.ofFields_eq_done h.toFits _ _
    · exact Fields.required_ofMembers (by simp [FieldUse.toMembers])
        (Aggregation.recovers c.aggregation)
    · exact Fields.withDefault_ifPresent (by simp [FieldUse.toMembers]) fun s _ =>
        ⟨recovers_string s, by simp⟩

/-! ### Filters -/

/-- A whole number is within its range. -/
def Literal.Fits : Literal → Prop
  | .int n => isInt64 n = true
  | _ => True

instance (l : Literal) : Decidable l.Fits :=
  match l with
  | .int n => inferInstanceAs (Decidable (isInt64 n = true))
  | .bool _ | .float _ | .text _ => .isTrue trivial

/-- Whole numbers and doubles come back as what they were. -/
theorem Literal.recovers {l : Literal} (h : l.Fits) :
    Recovers Literal.ofDraft Literal.toJson l := by
  cases l with
  | bool b => rfl
  | int n =>
      -- beyond its range it would come back as a double
      have hint : isInt64 n = true := h
      have hjson : Literal.ofJson? (.number (.int n)) = some (.int n) := by
        rw [Literal.ofJson?, if_pos hint]
      simp only [Recovers, Literal.toJson, Json.int, draft, Literal.ofDraft, Draft.value, bind,
        Except.bind, hjson]
  | float x => rfl
  | text s => rfl

/-- No literal is written as `null`. -/
theorem Literal.toJson_ne_null (l : Literal) : l.toJson ≠ .null := by
  cases l <;> simp [Literal.toJson, Json.int, Json.float]

/-- The ids of a filter, and its value if it is a whole number, are within their ranges. -/
@[mk_iff]
structure Filter.Fits (f : Filter) : Prop extends FieldUse.Fits f.toFieldUse where
  id : isNat64 f.id = true
  value : ∀ l ∈ f.value, l.Fits

instance (f : Filter) : Decidable f.Fits :=
  decidable_of_iff _ (Filter.fits_iff f).symm

theorem Comparison.recovers (c : Comparison) :
    Recovers Comparison.ofWord (fun c => .text c.word) c :=
  recovers_word (by cases c <;> decide) (by decide)

theorem Connective.recovers (c : Connective) :
    Recovers Connective.ofWord (fun c => .text c.word) c :=
  recovers_word (by cases c <;> decide) (by decide)

theorem Filter.recovers {f : Filter} (h : f.Fits) : Recovers Filter.ofDraft Filter.toJson f := by
  refine (recordOf_record (by decide) ?_).trans (toExcept_eq_ok ?_)
  · exact List.Sublist.refl _
  · refine seq_eq_done (seq_eq_done (seq_eq_done (seq_eq_done (map_eq_done ?_) ?_) ?_) ?_) ?_
    · exact Fields.required_ofMembers (by simp [FieldUse.toMembers]) (recovers_nat64 h.id)
    · exact FieldUse.ofFields_eq_done h.toFits _ _
    · exact Fields.required_ofMembers (by simp [FieldUse.toMembers])
        (Comparison.recovers f.comparison)
    · exact Fields.optional_ofMembers (by simp [FieldUse.toMembers])
        (recovers_nullable fun l hl => ⟨Literal.recovers (h.value l hl), l.toJson_ne_null⟩)
    · exact Fields.required_ofMembers (by simp [FieldUse.toMembers])
        (Connective.recovers f.connective)

/-! ### Diagrams -/

/-- All whole numbers of a diagram are within their ranges. -/
@[mk_iff]
structure Diagram.Fits (d : Diagram Float) : Prop where
  database : ∀ id ∈ d.database, isInt64 id = true
  tables : ∀ t ∈ d.tables, t.Fits
  joins : ∀ j ∈ d.joins, j.Fits
  columns : ∀ c ∈ d.columns, c.Fits
  filters : ∀ f ∈ d.filters, f.Fits

instance (d : Diagram Float) : Decidable d.Fits :=
  decidable_of_iff _ (Diagram.fits_iff d).symm

/-- **The decoder gives back the diagram that was written.** -/
theorem Diagram.recovers {d : Diagram Float} (h : d.Fits) :
    Recovers Diagram.ofDraft Diagram.toJson d := by
  refine (recordOf_record (by decide) ?_).trans (toExcept_eq_ok ?_)
  · exact List.Sublist.refl _
  · refine seq_eq_done (seq_eq_done (seq_eq_done (seq_eq_done (map_eq_done ?_) ?_) ?_) ?_) ?_
    · exact Fields.withDefault_ofMembers (by simp)
        (recovers_nullable fun id hid => ⟨recovers_int64 (h.database id hid), by simp [Json.int]⟩)
    · exact Fields.withDefault_ofMembers (by simp)
        (recovers_listOf fun t ht => PlacedTable.recovers (h.tables t ht))
    · exact Fields.withDefault_ofMembers (by simp)
        (recovers_listOf fun j hj => Join.recovers (h.joins j hj))
    · exact Fields.withDefault_ofMembers (by simp)
        (recovers_listOf fun c hc => Column.recovers (h.columns c hc))
    · exact Fields.withDefault_ofMembers (by simp)
        (recovers_listOf fun f hf => Filter.recovers (h.filters f hf))

end QueryBuilder

/-
**Saving and loading a graph.**

A saved graph is a text of JSON, which is read, decoded and then checked like any other text.  For a
graph that a session can get to, nothing is lost on the way and nothing is refused or put right: the
text reads back as the value that was written, the value decodes to the diagram, and the diagram is
valid.  What belongs to the use of the graph, a running query, its message and its result, starts
afresh.

Doubles need a condition of their own: that the reader finds a finite double in the text of this
double.  It is a question about the doubles of the graph and nothing else.

Main definitions:

* `QueryBuilder.Diagram.doubles` — the doubles of a diagram: positions, and values of filters.

Main results:

* `QueryBuilder.Diagram.readable` — the value of a diagram can be read from its text;
* `QueryBuilder.Graph.loadText_saveText` — **a saved graph is loaded as it was**.
-/

import QueryBuilder.Proofs.Graph.Codec
import QueryBuilder.Proofs.Graph.Reachability
import QueryBuilder.Proofs.Json.Values

set_option autoImplicit false

namespace QueryBuilder

open Json

/-! ### Values that can be read -/

namespace Json

variable {α : Type} {depth : Nat}

theorem readable_int {n : Int} (h : isInt64 n = true) : (Json.int n).Readable depth :=
  Number.readsBack_int (.inl h)

theorem readable_nat {n : Nat} (h : isNat64 n = true) : (Json.nat n).Readable depth :=
  Number.readsBack_int (.inr h)

theorem readable_optional {encode : α → Json} {o : Option α}
    (h : ∀ a ∈ o, (encode a).Readable depth) : (Json.optional encode o).Readable depth := by
  cases o with
  | none => trivial
  | some a => exact h a rfl

theorem readable_list {encode : α → Json} {items : List α} (hdepth : depth + 1 ≤ deepest)
    (h : ∀ a ∈ items, (encode a).Readable (depth + 1)) :
    (Json.list (items.map encode)).Readable depth := by
  refine ⟨hdepth, itemsReadable_iff.2 fun j hj => ?_⟩
  obtain ⟨a, ha, rfl⟩ := List.mem_map.1 hj
  exact h a ha

theorem membersReadable_append {before after : List (String × Json)}
    (hbefore : MembersReadable depth before) (hafter : MembersReadable depth after) :
    MembersReadable depth (before ++ after) := by
  rw [membersReadable_iff] at hbefore hafter ⊢
  intro m hm
  rcases List.mem_append.1 hm with hm | hm
  · exact hbefore m hm
  · exact hafter m hm

theorem membersReadable_ifPresent {name : String} {encode : α → Json} {o : Option α}
    (h : ∀ a ∈ o, (encode a).Readable depth) :
    MembersReadable depth (Json.ifPresent name encode o) := by
  cases o with
  | none => trivial
  | some a => exact ⟨h a rfl, trivial⟩

end Json

/-! ### Parts of a diagram -/

variable {depth : Nat}

theorem Field.readable {f : Field} (h : f.Fits) (hdepth : depth + 1 ≤ deepest) :
    f.toJson.Readable depth := by
  refine ⟨hdepth, membersReadable_append (membersReadable_append ?_ ?_) ?_⟩
  · exact ⟨readable_int h.id, trivial, trivial, trivial, trivial⟩
  · exact membersReadable_ifPresent fun _ _ => trivial
  · exact membersReadable_ifPresent fun r hr => readable_int (h.references r hr)

/-- The doubles of a table: where it is. -/
def PlacedTable.doubles (t : PlacedTable Float) : List Float :=
  [t.position.x, t.position.y]

theorem PlacedTable.readable {t : PlacedTable Float} (h : t.Fits)
    (hdoubles : ∀ x ∈ t.doubles, (Number.float x).ReadsBack) (hdepth : depth + 3 ≤ deepest) :
    t.toJson.Readable depth := by
  have hx : (Number.float t.position.x).ReadsBack := hdoubles _ (by simp [doubles])
  have hy : (Number.float t.position.y).ReadsBack := hdoubles _ (by simp [doubles])
  refine ⟨by omega, membersReadable_append (membersReadable_append ?_ ?_) ?_⟩
  · exact ⟨readable_nat h.id, readable_int h.catalogId, trivial, trivial⟩
  · exact membersReadable_ifPresent fun _ _ => trivial
  · refine ⟨trivial, readable_int h.database, ⟨by omega, hx, hy, trivial⟩, ?_, trivial⟩
    exact readable_list (by omega) fun f hf => Field.readable (h.fields f hf) (by omega)

theorem Join.readable {j : Join} (h : j.Fits) (hdepth : depth + 1 ≤ deepest) :
    j.toJson.Readable depth :=
  ⟨hdepth, readable_nat h.id, readable_nat h.source, readable_nat h.target,
    readable_int h.sourceField, readable_int h.targetField, trivial, trivial⟩

theorem FieldUse.membersReadable {u : FieldUse} (h : u.Fits) :
    MembersReadable depth u.toMembers :=
  ⟨readable_nat h.table, readable_int h.field, trivial, trivial, trivial, trivial⟩

theorem Column.readable {c : Column} (h : c.Fits) (hdepth : depth + 1 ≤ deepest) :
    c.toJson.Readable depth := by
  refine ⟨hdepth, membersReadable_append (membersReadable_append (membersReadable_append
    ⟨readable_nat h.id, trivial⟩ (FieldUse.membersReadable h.toFits)) ⟨trivial, trivial⟩) ?_⟩
  exact membersReadable_ifPresent fun _ _ => trivial

/-- The double of a literal, if it is one. -/
def Literal.doubles : Literal → List Float
  | .float x => [x]
  | _ => []

/-- The double that a filter compares with, if it does. -/
def Filter.doubles (f : Filter) : List Float :=
  f.value.elim [] Literal.doubles

theorem Literal.readable {l : Literal} (h : l.Fits)
    (hdoubles : ∀ x ∈ l.doubles, (Number.float x).ReadsBack) : l.toJson.Readable depth := by
  cases l with
  | bool b => trivial
  | int n => exact readable_int h
  | float x => exact hdoubles x List.mem_cons_self
  | text s => trivial

theorem Filter.readable {f : Filter} (h : f.Fits)
    (hdoubles : ∀ x ∈ f.doubles, (Number.float x).ReadsBack) (hdepth : depth + 1 ≤ deepest) :
    f.toJson.Readable depth := by
  have hvalue : (Json.optional Literal.toJson f.value).Readable (depth + 1) := by
    refine readable_optional fun l hl => Literal.readable (h.value l hl) fun x hx => ?_
    refine hdoubles x ?_
    rw [Filter.doubles, Option.mem_def.1 hl]
    exact hx
  refine ⟨hdepth, membersReadable_append (membersReadable_append ⟨readable_nat h.id, trivial⟩
    (FieldUse.membersReadable h.toFits)) ⟨trivial, hvalue, trivial, trivial⟩⟩

/-! ### Diagrams -/

/-- The doubles of a diagram: where its tables are, and what its filters compare with. -/
def Diagram.doubles (d : Diagram Float) : List Float :=
  d.tables.flatMap PlacedTable.doubles ++ d.filters.flatMap Filter.doubles

/-- **The value of a diagram can be read from its text**, if its doubles can. -/
theorem Diagram.readable {d : Diagram Float} (h : d.Fits)
    (hdoubles : ∀ x ∈ d.doubles, (Number.float x).ReadsBack) : d.toJson.Readable 0 := by
  have htable : ∀ t ∈ d.tables, ∀ x ∈ t.doubles, (Number.float x).ReadsBack := fun t ht x hx =>
    hdoubles x (List.mem_append_left _ (List.mem_flatMap.2 ⟨t, ht, hx⟩))
  have hfilter : ∀ f ∈ d.filters, ∀ x ∈ f.doubles, (Number.float x).ReadsBack := fun f hf x hx =>
    hdoubles x (List.mem_append_right _ (List.mem_flatMap.2 ⟨f, hf, hx⟩))
  refine ⟨by decide, ?_, ?_, ?_, ?_, ?_, trivial⟩
  · exact readable_optional fun id hid => readable_int (h.database id hid)
  · exact readable_list (by decide) fun t ht =>
      PlacedTable.readable (h.tables t ht) (htable t ht) (by decide)
  · exact readable_list (by decide) fun j hj => Join.readable (h.joins j hj) (by decide)
  · exact readable_list (by decide) fun c hc => Column.readable (h.columns c hc) (by decide)
  · exact readable_list (by decide) fun f hf =>
      Filter.readable (h.filters f hf) (hfilter f hf) (by decide)

/-! ### Graphs -/

namespace Graph

/-- **A printed diagram is loaded as it was**, whatever blanks stand in the text. -/
theorem loadText_render {style : Style} (hstyle : style.Blank) {d : Diagram Float} (hvalid : d.Valid)
    (hfits : d.Fits) (hdoubles : ∀ x ∈ d.doubles, (Number.float x).ReadsBack) :
    loadText (String.ofList (d.toJson.render style 0)) = .ok (ofDiagram d .standard) := by
  have htext := ofText_render hstyle (Diagram.readable hfits hdoubles)
  have hdecode : Diagram.ofDraft d.toJson.draft = .ok d := Diagram.recovers hfits
  have hload : load d = .ok (ofDiagram d .standard) := load_eq_ok.2 ⟨d, hvalid.accept_eq, rfl⟩
  simp only [loadText, Json.loadText, htext, hdecode, hload]
  rfl

/-- **A saved graph is loaded as it was.**  Of a graph that a session can get to, the database, the
tables, joins, columns and filters come back unchanged and in the same order, from a text with blanks
or without; nothing runs, and there is no message and no result.  Its whole numbers are those of 64
bits, its doubles are finite, and a finite double of it reads back. -/
theorem loadText_saveText {g : Graph Float} (hreach : g.Reachable) (hfits : g.toDiagram.Fits)
    (hfinite : ∀ x ∈ g.doubles, Decimal.isFinite x = true)
    (hreads : ∀ x ∈ g.doubles, Decimal.isFinite x = true → (Number.float x).ReadsBack) :
    loadText g.saveText = .ok (ofDiagram g.toDiagram .standard) ∧
      loadText g.toDiagram.toJson.pretty = .ok (ofDiagram g.toDiagram .standard) := by
  have hdoubles : ∀ x ∈ g.doubles, (Number.float x).ReadsBack := fun x hx =>
    hreads x hx (hfinite x hx)
  exact ⟨loadText_render Style.blank_compact hreach.valid hfits hdoubles,
    loadText_render Style.blank_indented hreach.valid hfits hdoubles⟩

/-- Two tables, a join, an aggregation, a test for null and a comparison with a double. -/
theorem loadText_saveText_sample :
    (Sample.graph.Reachable ∧ Sample.graph.toDiagram.Fits ∧
      (∀ x ∈ Sample.graph.doubles, Decimal.isFinite x = true) ∧
      ∀ x ∈ Sample.graph.doubles, Decimal.isFinite x = true → (Number.float x).ReadsBack) ∧
    Sample.graph.doubles.length = 5 ∧
    loadText Sample.graph.saveText = .ok (ofDiagram Sample.graph.toDiagram .standard) ∧
      loadText Sample.graph.toDiagram.toJson.pretty =
        .ok (ofDiagram Sample.graph.toDiagram .standard) := by
  have hfits : Sample.graph.toDiagram.Fits := by decide +kernel
  have hfinite : ∀ x ∈ Sample.graph.doubles, Decimal.isFinite x = true := by decide +kernel
  have hreads : ∀ x ∈ Sample.graph.doubles, Decimal.isFinite x = true →
      (Number.float x).ReadsBack := by
    decide +kernel
  exact ⟨⟨Sample.reachable_graph, hfits, hfinite, hreads⟩, by decide +kernel,
    loadText_saveText Sample.reachable_graph hfits hfinite hreads⟩

end Graph

end QueryBuilder

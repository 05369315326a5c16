/-
**The query of a graph says what the graph says.**

The query of a diagram with a table has the first table as its source, and its clauses, projections
and comparisons are those of the joins, columns and filters of the diagram: one for each, in order,
none left out and none added.  Making the query looks tables up by id and would leave out a join
whose table is not found, or take a field of such a table for one of the source.  In a valid
diagram each table that is named is found, and no other has its alias.

Main definitions:

* `QueryBuilder.Diagram.Only` — the one table that has a property;
* `QueryBuilder.Diagram.Refers` — a reference names a field of a table, and of no other;
* `QueryBuilder.Diagram.Keeps`, `QueryBuilder.Diagram.Shows`, `QueryBuilder.Diagram.Asks` — what a
  clause, a projection and a comparison have to do with a join, a column and a filter;
* `QueryBuilder.Condition.leaves` — the comparisons of a condition from left to right;
* `QueryBuilder.Diagram.Expresses` — what a query has to do with a diagram.

Main results:

* `QueryBuilder.Diagram.Valid.expresses` — the query of a valid diagram;
* `QueryBuilder.Graph.query_expresses` — **the query of a graph that a session can get to expresses
  this graph**.
-/

import Mathlib.Data.List.Forall2
import QueryBuilder.Graph.Query
import QueryBuilder.Proofs.Graph.Reachability

set_option autoImplicit false

namespace QueryBuilder

/-! ### Comparisons of a condition -/

/-- A comparison within a condition. -/
structure Leaf where
  comparison : Comparison
  field : FieldRef
  value : Option Literal
  deriving DecidableEq, Repr

/-- The comparisons of a condition from left to right. -/
def Condition.leaves : Condition → List Leaf
  | .compare comparison field value => [⟨comparison, field, value⟩]
  | .combine _ lhs rhs => lhs.leaves ++ rhs.leaves

/-- The comparisons of a query from left to right. -/
def Query.leaves (q : Query) : List Leaf :=
  q.condition.elim [] Condition.leaves

namespace Diagram

variable {α : Type}

/-! ### What a query has to do with a diagram -/

/-- Among the tables of the diagram, one and only one has a value under a key. -/
def Only {κ : Type} [DecidableEq κ] (d : Diagram α) (key : PlacedTable α → κ) (k : κ)
    (t : PlacedTable α) : Prop :=
  d.tables.filter (fun t => key t = k) = [t]

/-- A reference names a field of the table with an id.  It has no alias if this is the source
table, and otherwise one that this table has and no other. -/
def Refers (d : Diagram α) (root : PlacedTable α) (table : Nat) (field : Int) (r : FieldRef) :
    Prop :=
  ∃ owner, d.Only (·.id) table owner ∧ owner.hasField field = true ∧ r.field = field ∧
    (r.joinAlias = none ↔ owner = root) ∧
    ∀ a, r.joinAlias = some a → d.Only (·.aliasName) a owner

/-- A clause joins the target of a join, under its alias, by the key fields of the join. -/
structure Keeps (d : Diagram α) (root : PlacedTable α) (j : Join) (clause : JoinClause) :
    Prop where
  target : ∃ t, d.Only (·.id) j.target t ∧ clause.aliasName = t.aliasName ∧
    clause.source = t.catalogId
  lhs : d.Refers root j.source j.sourceField clause.lhs
  rhs : d.Refers root j.target j.targetField clause.rhs
  kind : clause.kind = j.kind

/-- A projection shows the field of a column, by itself if the column asks for no aggregation. -/
inductive Shows (d : Diagram α) (root : PlacedTable α) (c : Column) : Projection → Prop where
  | plain {r : FieldRef} (h : c.aggregation = .plain) (hr : d.Refers root c.table c.field r) :
      Shows d root c (.plain r)
  | aggregate {r : FieldRef} (h : c.aggregation ≠ .plain) (hr : d.Refers root c.table c.field r) :
      Shows d root c (.aggregate c.aggregation r)

/-- A comparison asks of the field of a filter what the filter asks, without a value exactly in
tests for null. -/
structure Asks (d : Diagram α) (root : PlacedTable α) (f : Filter) (leaf : Leaf) : Prop where
  comparison : leaf.comparison = f.comparison
  field : d.Refers root f.table f.field leaf.field
  value : leaf.value = if f.comparison.isUnary then none else f.value

/-- A query has the given source, and one part for each part of the diagram, in order. -/
structure Expresses (d : Diagram α) (root : PlacedTable α) (q : Query) : Prop where
  source : q.source = root.catalogId
  joins : List.Forall₂ (d.Keeps root) d.joins q.joins
  projections : List.Forall₂ (d.Shows root) d.columns q.projections
  leaves : List.Forall₂ (d.Asks root) d.filters q.leaves

/-! ### Tables by id and by alias -/

/-- An item is the only one with its key, if keys are distinct. -/
theorem filter_eq_singleton {β κ : Type} [DecidableEq κ] {key : β → κ} {items : List β} {b : β}
    (h : (items.map key).Nodup) (hb : b ∈ items) :
    items.filter (fun b' => key b' = key b) = [b] := by
  induction items with
  | nil => cases hb
  | cons a items ih =>
      rw [List.map_cons, List.nodup_cons] at h
      rcases List.mem_cons.1 hb with rfl | hb
      · have hnone : items.filter (fun b' => key b' = key b) = [] := by
          rw [List.filter_eq_nil_iff]
          intro b' hb' heq
          exact h.1 (List.mem_map.2 ⟨b', hb', by simpa using heq⟩)
        rw [List.filter_cons_of_pos (by simp), hnone]
      · have hne : key a ≠ key b := fun heq => h.1 (heq ▸ List.mem_map_of_mem hb)
        rw [List.filter_cons_of_neg (by simpa using hne)]
        exact ih h.2 hb

/-- The ids of the tables are distinct. -/
theorem Valid.table_ids_nodup {d : Diagram α} (h : d.Valid) : (d.tables.map (·.id)).Nodup := by
  have hids := h.ids_nodup
  rw [ids, List.append_assoc, List.append_assoc] at hids
  exact (List.nodup_append.1 hids).1

/-- The table that is found under an id is the only one with this id. -/
theorem Valid.only_of_table? {d : Diagram α} (h : d.Valid) {id : Nat} {t : PlacedTable α}
    (ht : d.table? id = some t) : d.Only (·.id) id t := by
  obtain ⟨hmem, rfl⟩ := mem_of_table? ht
  exact filter_eq_singleton h.table_ids_nodup hmem

/-- A table is the only one with its alias. -/
theorem Valid.only_alias {d : Diagram α} (h : d.Valid) {t : PlacedTable α} (ht : t ∈ d.tables) :
    d.Only (·.aliasName) t.aliasName t :=
  filter_eq_singleton h.aliases_nodup ht

/-- Tables with the same id are the same. -/
theorem Valid.eq_of_id_eq {d : Diagram α} (h : d.Valid) {t t' : PlacedTable α}
    (ht : t ∈ d.tables) (ht' : t' ∈ d.tables) (heq : t.id = t'.id) : t = t' :=
  List.inj_on_of_nodup_map h.table_ids_nodup ht ht' heq

/-- A table is found under its id. -/
theorem Valid.table?_of_mem {d : Diagram α} (h : d.Valid) {t : PlacedTable α} (ht : t ∈ d.tables) :
    d.table? t.id = some t := by
  have hsome : (d.table? t.id).isSome = true := List.find?_isSome.2 ⟨t, ht, by simp⟩
  obtain ⟨found, hfound⟩ := Option.isSome_iff_exists.1 hsome
  obtain ⟨hmem, hid⟩ := mem_of_table? hfound
  rw [hfound, h.eq_of_id_eq hmem ht hid]

/-! ### The parts of a query -/

variable {d : Diagram α} {root : PlacedTable α}

/-- **A field is named together with its own table.** -/
theorem Valid.refers_fieldRef (h : d.Valid) (hroot : root ∈ d.tables) {table : Nat} {field : Int}
    (hf : d.HasField table field) : d.Refers root table field (d.fieldRef root table field) := by
  obtain ⟨owner, howner, hfield⟩ := hf
  obtain ⟨hmem, hid⟩ := mem_of_table? howner
  refine ⟨owner, h.only_of_table? howner, hfield, rfl, ?_, ?_⟩
  · unfold fieldRef
    by_cases htable : table = root.id
    · have : owner = root := h.eq_of_id_eq hmem hroot (hid.trans htable)
      simp [htable, this]
    · have : owner ≠ root := by
        rintro rfl
        exact htable hid.symm
      simp [htable, howner, this]
  · intro a ha
    unfold fieldRef at ha
    by_cases htable : table = root.id
    · simp [htable] at ha
    · simp only [if_neg htable, howner, Option.map_some, Option.some.injEq] at ha
      subst ha
      exact h.only_alias hmem

/-- A join becomes a clause. -/
theorem Valid.keeps_joinClause (h : d.Valid) (hroot : root ∈ d.tables) {j : Join}
    (hj : j ∈ d.joins) : ∃ clause, d.joinClause? root j = some clause ∧ d.Keeps root j clause := by
  obtain ⟨-, hsource, htarget⟩ := h.connects j hj
  -- a join without a target would be left out here
  obtain ⟨t, ht, -⟩ := id htarget
  refine ⟨_, by rw [joinClause?, ht, Option.map_some], ?_⟩
  exact
    { target := ⟨t, h.only_of_table? ht, rfl, rfl⟩
      lhs := h.refers_fieldRef hroot hsource
      rhs := h.refers_fieldRef hroot htarget
      kind := rfl }

/-- A column becomes a projection. -/
theorem Valid.shows_projection (h : d.Valid) (hroot : root ∈ d.tables) {c : Column}
    (hc : c ∈ d.columns) : d.Shows root c (d.projection root c) := by
  have hr := h.refers_fieldRef hroot (h.columns_describe c hc).hasField
  by_cases ha : c.aggregation = .plain
  · have heq : d.projection root c = .plain (d.fieldRef root c.table c.field) := by
      simp only [projection, ha]
    rw [heq]
    exact .plain ha hr
  · have heq : d.projection root c =
        .aggregate c.aggregation (d.fieldRef root c.table c.field) := by
      unfold projection
      cases hc : c.aggregation with
      | plain => exact absurd hc ha
      | _ => rfl
    rw [heq]
    exact .aggregate ha hr

/-- A filter becomes a comparison. -/
theorem Valid.asks_comparison (h : d.Valid) (hroot : root ∈ d.tables) {f : Filter}
    (hf : f ∈ d.filters) :
    d.Asks root f
      ⟨f.comparison, d.fieldRef root f.table f.field, f.comparison.keptValue f.value⟩ where
  comparison := rfl
  field := h.refers_fieldRef hroot (h.filters_describe f hf).hasField
  value := rfl

/-! ### Lists of parts -/

/-- If every item becomes something that is related to it, the results are related in order. -/
theorem forall₂_filterMap {β γ : Type} {R : β → γ → Prop} {f : β → Option γ} {items : List β}
    (h : ∀ b ∈ items, ∃ c, f b = some c ∧ R b c) :
    List.Forall₂ R items (items.filterMap f) := by
  induction items with
  | nil => exact .nil
  | cons b items ih =>
      obtain ⟨c, hc, hr⟩ := h b List.mem_cons_self
      rw [List.filterMap_cons_some hc]
      exact .cons hr (ih fun b hb => h b (List.mem_cons_of_mem _ hb))

theorem forall₂_map {β γ : Type} {R : β → γ → Prop} {f : β → γ} {items : List β}
    (h : ∀ b ∈ items, R b (f b)) : List.Forall₂ R items (items.map f) :=
  List.forall₂_map_right_iff.2 (List.forall₂_same.2 h)

/-- Filters are put behind the comparisons that are there already, in order. -/
theorem leaves_foldl (d : Diagram α) (root : PlacedTable α) (filters : List Filter)
    (before : Option Condition) :
    (filters.foldl (d.addComparison root) before).elim [] Condition.leaves =
      before.elim [] Condition.leaves ++ filters.map fun f =>
        ⟨f.comparison, d.fieldRef root f.table f.field, f.comparison.keptValue f.value⟩ := by
  -- what was folded so far becomes the left side of the next condition
  induction filters generalizing before with
  | nil => simp
  | cons f filters ih =>
      rw [List.foldl_cons, ih]
      cases before with
      | none => simp [addComparison, comparison, Condition.leaves]
      | some lhs => simp [addComparison, comparison, Condition.leaves]

/-! ### Queries -/

/-- There is no query exactly if there is no table. -/
theorem query?_eq_none_iff : d.query? = none ↔ d.tables = [] := by
  rw [query?, Option.map_eq_none_iff, List.head?_eq_none_iff]

/-- A valid diagram with a query has the database of its tables, and so its request is complete. -/
theorem Valid.exists_executionRequest (h : d.Valid) {query : Query} (hquery : d.query? = some query) :
    ∃ database, d.database = some database ∧ (∀ t ∈ d.tables, t.database = database) ∧
      d.executionRequest = .ok ⟨database, query⟩ := by
  have htables : d.tables ≠ [] := fun hnil => by
    rw [query?_eq_none_iff.2 hnil] at hquery
    cases hquery
  obtain ⟨root, hmem⟩ := List.exists_mem_of_ne_nil _ htables
  have hroot : d.database = some root.database := h.database_eq root hmem
  refine ⟨root.database, hroot, fun t ht => ?_, by rw [executionRequest, hquery, hroot]⟩
  exact Option.some.inj ((h.database_eq t ht).symm.trans hroot)

/-- **The query of a valid diagram with a table expresses the diagram.** -/
theorem Valid.expresses (h : d.Valid) (htables : d.tables ≠ []) :
    ∃ root q, d.tables.head? = some root ∧ d.query? = some q ∧ d.Expresses root q := by
  cases hcons : d.tables with
  | nil => exact absurd hcons htables
  | cons root rest =>
      have hroot : root ∈ d.tables := by simp [hcons]
      refine ⟨root, _, rfl, by rw [query?, hcons, List.head?_cons, Option.map_some], ?_⟩
      exact
        { source := rfl
          joins := forall₂_filterMap fun j hj => h.keeps_joinClause hroot hj
          projections := forall₂_map fun c hc => h.shows_projection hroot hc
          leaves := by
            rw [Query.leaves, condition?, leaves_foldl]
            exact forall₂_map fun f hf => h.asks_comparison hroot hf }

end Diagram

namespace Graph

variable {α : Type} [Coordinate α]

/-- **The query of a graph that a session can get to expresses this graph.**  It exists if there is
a table; the first table is its source, it has one part for each join, column and filter, in
order, and each field in it is named together with its own table. -/
theorem query_expresses {g : Graph α} (h : g.Reachable) (htables : g.tables ≠ []) :
    ∃ root q, g.tables.head? = some root ∧ g.toDiagram.query? = some q ∧
      g.toDiagram.Expresses root q :=
  h.valid.expresses htables

/-- A query with a join, an aggregation and a test for null. -/
theorem query_expresses_sample : Sample.graph.Reachable ∧ Sample.graph.tables ≠ [] ∧
    ∃ root q, Sample.graph.tables.head? = some root ∧ Sample.graph.toDiagram.query? = some q ∧
      q.joins.length = 1 ∧ Sample.graph.toDiagram.Expresses root q := by
  have htables : Sample.graph.tables ≠ [] := by
    intro h
    have hlength : Sample.graph.tables.length = 2 := by decide +kernel
    rw [h] at hlength
    cases hlength
  obtain ⟨root, q, hroot, hq, hexp⟩ := query_expresses Sample.reachable_graph htables
  have hjoins : Sample.graph.joins.length = 1 := by decide +kernel
  exact ⟨Sample.reachable_graph, htables, root, q, hroot, hq,
    hexp.joins.length_eq.symm.trans hjoins, hexp⟩

end Graph

end QueryBuilder

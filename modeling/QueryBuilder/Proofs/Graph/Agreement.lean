/-
**Loading agrees with editing.**

Loading checks a saved graph by itself and does not go through the edits.  Still both ask the same
of a part.  If a join, a column or a filter is written behind the others of a saved graph, under
the id that the graph would give out next, then loading takes it up exactly as editing does: a join
is added, a column or a filter is added and then changed to what it says.  Both succeed with the
same diagram, or both are refused for the same reason.  What a column or filter says of its field
plays no part in this, because both take it from the table.

Both sides are compared with what the step of loading for one part does to the diagram of the graph.

Main definitions:

* `QueryBuilder.Graph.outcome` — the diagram after an edit, or why the edit is refused;
* `QueryBuilder.Graph.thenEdit` — an edit after another one, if that one applies.

Main results:

* `QueryBuilder.Diagram.Valid.accept_withJoin`, `QueryBuilder.Diagram.Valid.accept_withColumn`,
  `QueryBuilder.Diagram.Valid.accept_withFilter` — one part more is loaded in one step more;
* `QueryBuilder.Graph.outcome_addJoin`, `QueryBuilder.Graph.outcome_addColumn`,
  `QueryBuilder.Graph.outcome_addFilter` — edits do the same as this step;
* `QueryBuilder.Graph.load_agrees_with_edits` — **loading agrees with editing**.
-/

import QueryBuilder.Proofs.Graph.Reachability

set_option autoImplicit false

namespace QueryBuilder

variable {α β γ : Type}

/-! ### Lists with one item more -/

/-- One item more is one step more. -/
theorem foldlM_snoc {ε σ τ : Type} {f : σ → τ → Except ε σ} {items : List τ} {s s' : σ}
    (h : items.foldlM f s = .ok s') (item : τ) : (items ++ [item]).foldlM f s = f s' item := by
  rw [List.foldlM_append, h, ok_bind, List.foldlM_cons]
  exact bind_pure (f s' item)

/-- The last item is found by its key, if no other item has this key. -/
theorem find?_last {key : β → Nat} {id : Nat} {items : List β} {last : β}
    (hitems : ∀ b ∈ items, key b ≠ id) (hlast : key last = id) :
    (items ++ [last]).find? (fun b => key b == id) = some last := by
  have hnone : items.find? (fun b => key b == id) = none :=
    List.find?_eq_none.2 (by simpa using hitems)
  rw [List.find?_append, hnone]
  simp [hlast]

/-- Only the last item is changed, if no other item has its key. -/
theorem update_last {key : β → Nat} {id : Nat} {change : β → β} {items : List β} {last : β}
    (hitems : ∀ b ∈ items, key b ≠ id) (hlast : key last = id) :
    ((items ++ [last]).map fun b => if key b = id then change b else b) =
      items ++ [change last] := by
  have hsame : (items.map fun b => if key b = id then change b else b) = items.map fun b => b :=
    List.map_congr_left fun b hb => if_neg (hitems b hb)
  rw [List.map_append, List.map_singleton, if_pos hlast, hsame, List.map_id']

/-! ### Loading with one part more -/

namespace Diagram

variable {d : Diagram α}

/-- The tables of a valid diagram are accepted. -/
theorem Valid.foldlM_acceptTable (h : d.Valid) :
    d.tables.foldlM acceptTable ⟨d.database, [], [], [], []⟩ =
      .ok ⟨d.database, d.tables, [], [], []⟩ := by
  have hdatabase : chosen d.database d.tables = d.database := h.loadsAs.database.symm
  refine foldlM_acceptTable_eq_ok.2 ⟨nil_freshKeys.2 h.catalogIds_nodup,
    nil_freshKeys.2 h.aliases_nodup, fun t ht => hdatabase.trans (h.database_eq t ht), ?_⟩
  rw [hdatabase]
  rfl

/-- The joins of a valid diagram are accepted behind its tables. -/
theorem Valid.foldlM_acceptJoin (h : d.Valid) :
    d.joins.foldlM acceptJoin ⟨d.database, d.tables, [], [], []⟩ =
      .ok ⟨d.database, d.tables, d.joins, [], []⟩ :=
  foldlM_acceptJoin_eq_ok.2 ⟨h.connects, rfl⟩

/-- The columns are accepted behind the tables, whatever the joins are. -/
theorem Valid.foldlM_acceptColumn (h : d.Valid) (joins : List Join) :
    d.columns.foldlM acceptColumn ⟨d.database, d.tables, joins, [], []⟩ =
      .ok ⟨d.database, d.tables, joins, d.columns, []⟩ :=
  foldlM_acceptColumn_eq_ok.2 ⟨nil_freshKeys.2 h.columns_nodup, d.columns,
    h.loadsAs.columns.imp fun _ _ hc => hc.of_tables rfl, rfl⟩

/-- The filters are accepted behind the tables, whatever the joins and columns are. -/
theorem Valid.foldlM_acceptFilter (h : d.Valid) (joins : List Join) (columns : List Column) :
    d.filters.foldlM acceptFilter ⟨d.database, d.tables, joins, columns, []⟩ =
      .ok ⟨d.database, d.tables, joins, columns, d.filters⟩ :=
  foldlM_acceptFilter_eq_ok.2 ⟨d.filters, h.loadsAs.filters.imp fun _ _ hf => hf.of_tables rfl, rfl⟩

/-- **One join more is loaded in one step more.**  The step comes before those for the columns and
filters, which do not look at joins. -/
theorem Valid.accept_withJoin (h : d.Valid) {j : Join} (hid : j.id ∉ d.ids) :
    ({ d with joins := d.joins ++ [j] } : Diagram α).accept = d.acceptJoin j := by
  have hcheck : (⟨d.database, d.tables, d.joins, [], []⟩ : Diagram α).checkLink j.toLink =
      d.checkLink j.toLink := rfl
  rw [accept_of_nodup (ids_nodup_of_perm_cons h.ids_nodup hid (ids_withJoin d j))]
  simp only [h.foldlM_acceptTable, ok_bind, foldlM_snoc h.foldlM_acceptJoin, acceptJoin, hcheck]
  cases d.checkLink j.toLink with
  | error e => rfl
  | ok _ =>
      simp only [ok_bind, pure, Except.pure, h.foldlM_acceptColumn, h.foldlM_acceptFilter]

/-- **One column more is loaded in one step more**, before those for the filters. -/
theorem Valid.accept_withColumn (h : d.Valid) {c : Column} (hid : c.id ∉ d.ids) :
    ({ d with columns := d.columns ++ [c] } : Diagram α).accept = d.acceptColumn c := by
  have huse : (⟨d.database, d.tables, d.joins, d.columns, []⟩ : Diagram α).use c.table c.field =
      d.use c.table c.field := rfl
  rw [accept_of_nodup (ids_nodup_of_perm_cons h.ids_nodup hid (ids_withColumn d c))]
  simp only [h.foldlM_acceptTable, h.foldlM_acceptJoin, ok_bind,
    foldlM_snoc (h.foldlM_acceptColumn d.joins), acceptColumn, huse]
  cases d.use c.table c.field with
  | error e => rfl
  | ok use =>
      have hcheck : (⟨d.database, d.tables, d.joins, d.columns, []⟩ : Diagram α).checkUnused use =
          d.checkUnused use := rfl
      simp only [ok_bind, hcheck]
      cases d.checkUnused use with
      | error e => rfl
      | ok _ => simp only [ok_bind, pure, Except.pure, h.foldlM_acceptFilter]

/-- **One filter more is loaded in one step more**, the last one. -/
theorem Valid.accept_withFilter (h : d.Valid) {f : Filter} (hid : f.id ∉ d.ids) :
    ({ d with filters := d.filters ++ [f] } : Diagram α).accept = d.acceptFilter f := by
  rw [accept_of_nodup (ids_nodup_of_perm_cons h.ids_nodup hid (ids_withFilter d f))]
  simp only [h.foldlM_acceptTable, h.foldlM_acceptJoin, h.foldlM_acceptColumn, ok_bind,
    foldlM_snoc (h.foldlM_acceptFilter d.joins d.columns)]

end Diagram

/-! ### Editing -/

namespace Graph

/-- The diagram after an edit, or why the edit is refused. -/
def outcome : Except GraphError β × Graph α → Except GraphError (Diagram α)
  | (.ok _, g) => .ok g.toDiagram
  | (.error e, _) => .error e

/-- An edit after another one, whose result it may use; if that one is refused, there is no other. -/
def thenEdit (first : Except GraphError β × Graph α)
    (next : β → Graph α → Except GraphError γ × Graph α) : Except GraphError γ × Graph α :=
  match first with
  | (.ok b, g) => next b g
  | (.error e, g) => (.error e, g)

variable {g : Graph α}

/-- The next id is that of no column. -/
theorem column_id_ne_nextId {c : Column} (h : c ∈ g.columns) : c.id ≠ g.nextId :=
  Nat.ne_of_lt (lt_nextId (Diagram.column_id_mem h))

/-- The next id is that of no filter. -/
theorem filter_id_ne_nextId {f : Filter} (h : f ∈ g.filters) : f.id ≠ g.nextId :=
  Nat.ne_of_lt (lt_nextId (Diagram.filter_id_mem h))

/-- A change of the last column changes nothing else. -/
theorem updateColumn_last (g : Graph α) (columns : List Column) (last : Column)
    (change : ColumnChange) (h : ∀ c ∈ columns, c.id ≠ last.id) :
    ({ g with columns := columns ++ [last] } : Graph α).updateColumn last.id change =
      (.ok (), { g with columns := columns ++ [change.apply last] }) := by
  have hfind : ({ g with columns := columns ++ [last] } : Graph α).column? last.id = some last :=
    find?_last h rfl
  rw [updateColumn_eq]
  simp only [hfind, update_last h]
  rfl

/-- A change of the last filter changes nothing else, if its type admits the new comparison. -/
theorem outcome_updateFilter_last (g : Graph α) (filters : List Filter) (last : Filter)
    (change : FilterChange) (h : ∀ f ∈ filters, f.id ≠ last.id) :
    outcome (({ g with filters := filters ++ [last] } : Graph α).updateFilter last.id change) = (do
      if let some comparison := change.comparison then
        Diagram.checkComparison comparison last.baseType
      return { g.toDiagram with filters := filters ++ [change.apply last] }) := by
  have hfind : ({ g with filters := filters ++ [last] } : Graph α).filter? last.id = some last :=
    find?_last h rfl
  rw [updateFilter_eq]
  simp only [hfind, update_last h]
  cases change.comparison with
  | none => rfl
  | some comparison =>
      simp only
      cases Diagram.checkComparison comparison last.baseType <;> rfl

/-- **A join is added as it is loaded.** -/
theorem outcome_addJoin {j : Join} (hid : j.id = g.nextId) :
    outcome (g.addJoin j.toLink) = g.acceptJoin j := by
  obtain ⟨l, id⟩ := j
  simp only at hid
  subst hid
  rw [addJoin_eq, Diagram.acceptJoin]
  cases g.checkLink l <;> rfl

/-- **A column is added and changed as it is loaded.**  The edits take two steps: a column without
an aggregation and without an alias comes in between. -/
theorem outcome_addColumn {c : Column} (hid : c.id = g.nextId) :
    outcome (thenEdit (g.addColumn c.table c.field) fun id g =>
      g.updateColumn id ⟨some c.aggregation, some c.aliasName⟩) = g.acceptColumn c := by
  rw [addColumn_eq, Diagram.acceptColumn]
  cases g.use c.table c.field with
  | error e => rfl
  | ok use =>
      simp only [ok_bind]
      cases g.checkUnused use with
      | error e => rfl
      | ok _ =>
          have hchange := updateColumn_last { g with lastId := g.nextId } g.columns
            { use with id := g.nextId, aggregation := .plain, aliasName := none }
            ⟨some c.aggregation, some c.aliasName⟩ fun c hc => column_id_ne_nextId hc
          simp only [ok_bind, pure, Except.pure, allOrNothing, thenEdit, hchange]
          simp only [outcome, ColumnChange.apply, hid]

/-- **A filter is added and changed as it is loaded.**  The comparison is checked when the filter is
changed, against the type that it was added with. -/
theorem outcome_addFilter {f : Filter} (hid : f.id = g.nextId) :
    outcome (thenEdit (g.addFilter f.table f.field) fun id g =>
      g.updateFilter id ⟨some f.comparison, some f.value, some f.connective⟩) =
        g.acceptFilter f := by
  rw [addFilter_eq, Diagram.acceptFilter]
  cases g.use f.table f.field with
  | error e => rfl
  | ok use =>
      have hchange := outcome_updateFilter_last { g with lastId := g.nextId } g.filters
        { use with id := g.nextId, comparison := .eq, value := none, connective := .and }
        ⟨some f.comparison, some f.value, some f.connective⟩ fun f hf => filter_id_ne_nextId hf
      simp only [ok_bind, pure, Except.pure, allOrNothing, thenEdit, hchange]
      simp only [FilterChange.apply, hid]
      rfl

/-! ### Loading and editing -/

/-- **Loading agrees with editing.**  Let a join, a column or a filter have the id that a graph would
give out next.  Loading the graph's diagram with this part behind the others, and adding the part to
the graph and changing it to what it says, give the same diagram, or are refused for the same
reason. -/
theorem load_agrees_with_edits [Coordinate α] {g : Graph α} (h : g.Reachable) :
    (∀ j : Join, j.id = g.nextId →
      (load { g.toDiagram with joins := g.joins ++ [j] }).map (·.toDiagram) =
        outcome (g.addJoin j.toLink)) ∧
    (∀ c : Column, c.id = g.nextId →
      (load { g.toDiagram with columns := g.columns ++ [c] }).map (·.toDiagram) =
        outcome (thenEdit (g.addColumn c.table c.field) fun id g =>
          g.updateColumn id ⟨some c.aggregation, some c.aliasName⟩)) ∧
    ∀ f : Filter, f.id = g.nextId →
      (load { g.toDiagram with filters := g.filters ++ [f] }).map (·.toDiagram) =
        outcome (thenEdit (g.addFilter f.table f.field) fun id g =>
          g.updateFilter id ⟨some f.comparison, some f.value, some f.connective⟩) := by
  have hvalid : g.toDiagram.Valid := h.valid
  refine ⟨fun j hid => ?_, fun c hid => ?_, fun f hid => ?_⟩
  · rw [map_load, outcome_addJoin hid]
    exact hvalid.accept_withJoin (hid ▸ nextId_not_mem)
  · rw [map_load, outcome_addColumn hid]
    exact hvalid.accept_withColumn (hid ▸ nextId_not_mem)
  · rw [map_load, outcome_addFilter hid]
    exact hvalid.accept_withFilter (hid ▸ nextId_not_mem)

/-- A column that is wrong about its field and has a blank alias is put right by both; a filter whose
wrong type would admit the comparison is refused by both. -/
theorem load_agrees_with_edits_sample :
    Sample.graph.Reachable ∧
    (∃ d, (load { Sample.graph.toDiagram with
        columns := Sample.graph.columns ++ [⟨⟨1, 10, "?", "?", "?"⟩, 8, .max, some " "⟩] }).map
          (·.toDiagram) = .ok d ∧
      outcome (thenEdit (Sample.graph.addColumn 1 10) fun id g =>
        g.updateColumn id ⟨some .max, some (some " ")⟩) = .ok d ∧
      d.columns.getLast? = some ⟨⟨1, 10, "id", "orders", "type/Integer"⟩, 8, .max, none⟩) ∧
    (load { Sample.graph.toDiagram with
        filters := Sample.graph.filters ++
          [⟨⟨2, 21, "?", "?", "type/Float"⟩, 8, .gt, none, .or⟩] }).map (·.toDiagram) =
      .error (.unsupportedComparison .gt "type/Text") ∧
    outcome (thenEdit (Sample.graph.addFilter 2 21) fun id g =>
      g.updateFilter id ⟨some .gt, some none, some .or⟩) =
        .error (.unsupportedComparison .gt "type/Text") := by
  have hnext : Sample.graph.nextId = 8 := by decide +kernel
  obtain ⟨-, hcolumn, hfilter⟩ := load_agrees_with_edits Sample.reachable_graph
  have hcolumn := hcolumn ⟨⟨1, 10, "?", "?", "?"⟩, 8, .max, some " "⟩ hnext.symm
  have hfilter := hfilter ⟨⟨2, 21, "?", "?", "type/Float"⟩, 8, .gt, none, .or⟩ hnext.symm
  have hlast : (outcome (thenEdit (Sample.graph.addColumn 1 10) fun id g =>
      g.updateColumn id ⟨some .max, some (some " ")⟩)).map (·.columns.getLast?) =
        .ok (some ⟨⟨1, 10, "id", "orders", "type/Integer"⟩, 8, .max, none⟩) := by
    decide +kernel
  have hnone : (outcome (thenEdit (Sample.graph.addFilter 2 21) fun id g =>
      g.updateFilter id ⟨some .gt, some none, some .or⟩)).map (·.columns) =
        .error (.unsupportedComparison .gt "type/Text") := by
    decide +kernel
  obtain ⟨d, hd, hlast⟩ := map_eq_ok.1 hlast
  have hrefused := map_eq_error.1 hnone
  exact ⟨Sample.reachable_graph, ⟨d, hcolumn.trans hd, hd, hlast⟩, hfilter.trans hrefused, hrefused⟩

end Graph

end QueryBuilder

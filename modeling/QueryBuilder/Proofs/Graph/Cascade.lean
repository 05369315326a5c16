/-
**A table that goes takes along what refers to it, and nothing else.**

Taking a table away is an edit of all four lists of a graph.  The table is cut out of its place;
the joins that have it at either end, and the columns and filters of its fields, go with it; and
every other part stays as it is, in its order.  The database stays while a table is left, and is
free again after the last one.  Nothing outside the diagram changes.

Since parts refer only to tables that are there, a table that has just been added has nothing that
refers to it.  So adding a table and taking it away again restores all parts.  It restores the
database as well if another table held it; without one, a database that was chosen before is lost.

Main definitions:

* `QueryBuilder.Graph.CutsOut` — what is left of a graph without a table.

Main results:

* `QueryBuilder.Diagram.Consistent.withoutTable_withTable` — taking away what was added;
* `QueryBuilder.Graph.cutsOut_removeTable` — taking away what was there;
* `QueryBuilder.Graph.table_goes_alone` — **a table that goes takes along what refers to it, and
  nothing else**.
-/

import QueryBuilder.Proofs.Graph.Agreement
import QueryBuilder.Proofs.Graph.Renaming
import QueryBuilder.Proofs.Graph.Tracking

set_option autoImplicit false

namespace QueryBuilder

variable {α : Type}

/-! ### Tables that were just added -/

/-- **Taking away a table that was just added leaves the other parts**, because none of them refers
to an id that was not in use. -/
theorem Diagram.Consistent.withoutTable_withTable {d : Diagram α} (h : d.Consistent)
    (new : PlacedTable α) (hnew : new.id ∉ d.ids) (database : Option Int) :
    ({ d with database, tables := d.tables ++ [new] } : Diagram α).withoutTable new.id =
      { d with database := if d.tables.isEmpty then none else database } := by
  have hne : ∀ id ∈ d.ids, id ≠ new.id := fun id hid heq => hnew (heq ▸ hid)
  have htables : (d.tables ++ [new]).filter (fun t => t.id != new.id) = d.tables := by
    rw [List.filter_append, List.filter_eq_self.2, List.filter_cons_of_neg (by simp),
      List.filter_nil, List.append_nil]
    intro t ht
    simpa using hne t.id (table_id_mem ht)
  have hjoins : d.joins.filter (fun j => !j.touches new.id) = d.joins := by
    refine List.filter_eq_self.2 fun j hj => ?_
    obtain ⟨-, hsource, htarget⟩ := h.connects j hj
    simp [Link.touches, hne j.source hsource.mem_ids, hne j.target htarget.mem_ids]
  have hcolumns : d.columns.filter (fun c => c.table != new.id) = d.columns := by
    refine List.filter_eq_self.2 fun c hc => ?_
    simpa using hne c.table (h.columns_describe c hc).mem_ids
  have hfilters : d.filters.filter (fun f => f.table != new.id) = d.filters := by
    refine List.filter_eq_self.2 fun f hf => ?_
    simpa using hne f.table (h.filters_describe f hf).mem_ids
  simp only [Diagram.withoutTable, htables, hjoins, hcolumns, hfilters]

namespace Graph

/-! ### Tables that were there -/

/-- What is left of a graph without a table: all that does not refer to it, in the same order. -/
structure CutsOut (g : Graph α) (t : PlacedTable α) (g' : Graph α) : Prop where
  tables : ∃ place : Nat, g.tables[place]? = some t ∧ g'.tables = g.tables.eraseIdx place
  gone : g'.table? t.id = none
  joins : g'.joins = g.joins.filter fun j => j.source ≠ t.id ∧ j.target ≠ t.id
  columns : g'.columns = g.columns.filter fun c => c.table ≠ t.id
  filters : g'.filters = g.filters.filter fun f => f.table ≠ t.id
  database_kept : g'.database = g.database ↔ g'.tables ≠ []
  database_freed : g'.tables = [] → g'.database = none
  /-- The message, the runs, the last result, the settings and the last id are the same. -/
  rest : g' = { g with toDiagram := g'.toDiagram }

variable {g : Graph α}

theorem removeTable_of_table? {id : Nat} {t : PlacedTable α} (h : g.table? id = some t) :
    g.removeTable id = (.ok t, { g with toDiagram := g.withoutTable id }) := by
  rw [removeTable_eq, h]
  rfl

/-- **A table that is taken away is cut out of the graph.** -/
theorem cutsOut_removeTable (h : g.toDiagram.Valid) {t : PlacedTable α} (ht : t ∈ g.tables) :
    ∃ g', g.removeTable t.id = (.ok t, g') ∧ g.CutsOut t g' := by
  refine ⟨_, removeTable_of_table? (h.table?_of_mem ht), ?_⟩
  have hdatabase : g.database = some t.database := h.database_eq t ht
  obtain ⟨place, hplace⟩ := List.mem_iff_getElem?.1 ht
  constructor
  case tables => exact ⟨place, hplace, filter_eq_eraseIdx h.table_ids_nodup hplace⟩
  case gone =>
    refine List.find?_eq_none.2 fun other hother => ?_
    simpa using (List.mem_filter.1 hother).2
  case joins =>
    refine List.filter_congr fun j _ => Bool.eq_iff_iff.2 ?_
    simp [Link.touches]
  case columns =>
    refine List.filter_congr fun c _ => Bool.eq_iff_iff.2 ?_
    simp
  case filters =>
    refine List.filter_congr fun f _ => Bool.eq_iff_iff.2 ?_
    simp
  case database_kept =>
    -- the database is one before, and none if no table is left
    simp only [Diagram.withoutTable, hdatabase]
    split <;> simp_all
  case database_freed =>
    intro hnone
    simp only [Diagram.withoutTable] at hnone ⊢
    rw [hnone]
    rfl
  case rest => rfl

variable [Coordinate α]

/-- A table that is added belongs to the database of the graph, and comes behind the others under
the next id. -/
theorem addTable_eq_ok {new : NewTable} {id : Nat} {g' : Graph α}
    (h : g.addTable new = (.ok id, g')) :
    g.checkDatabase new.database = .ok () ∧ id = g.nextId ∧ g'.toDiagram =
      { g.toDiagram with database := some new.database, tables := g.tables ++ [g.tableToAdd new] } := by
  have hanswer : g.answer (.addTable new) = .ok (some id) := by
    rw [answer, h]
    rfl
  have hmakes := makes_of_answer hanswer
  rw [apply, h] at hmakes
  generalize g'.toDiagram = d at hmakes
  cases hmakes with
  | addTable _ hdatabase => exact ⟨hdatabase, rfl, rfl⟩

/-- **A table that was added can be taken away again**, and all other parts are as they were. -/
theorem removeTable_addTable (h : g.toDiagram.Valid) {new : NewTable} {id : Nat} {g₁ : Graph α}
    (hadd : g.addTable new = (.ok id, g₁)) :
    g₁.removeTable id = (.ok (g.tableToAdd new),
      { g₁ with toDiagram := { g.toDiagram with
          database := if g.tables.isEmpty then none else some new.database } }) := by
  obtain ⟨-, rfl, hd⟩ := addTable_eq_ok hadd
  have hfound : g₁.table? g.nextId = some (g.tableToAdd new) := by
    rw [hd]
    exact find?_last (fun t ht heq => nextId_not_mem (heq ▸ Diagram.table_id_mem ht)) rfl
  have hleft := h.toConsistent.withoutTable_withTable (g.tableToAdd new) nextId_not_mem
    (some new.database)
  rw [removeTable_of_table? hfound, hd, ← hleft]
  rfl

/-- **A table that goes takes along what refers to it, and nothing else.**  Every table of a graph
that a session can get to can be taken away.  It is answered, and cut out of the graph with the
joins at either end of which it was and the columns and filters of its fields.  A table that was
just added takes nothing along: the parts are as before it came, and the database too if there was
another table. -/
theorem table_goes_alone (h : g.Reachable) :
    (∀ t ∈ g.tables, ∃ g', g.removeTable t.id = (.ok t, g') ∧ g.CutsOut t g') ∧
    ∀ new id g₁, g.addTable new = (.ok id, g₁) →
      ∃ g₂, g₁.removeTable id = (.ok (g.tableToAdd new), g₂) ∧
        g₂.tables = g.tables ∧ g₂.joins = g.joins ∧ g₂.columns = g.columns ∧
        g₂.filters = g.filters ∧ (g.tables ≠ [] → g₂.database = g.database) := by
  refine ⟨fun t ht => cutsOut_removeTable h.valid ht, fun new id g₁ hadd => ?_⟩
  refine ⟨_, removeTable_addTable h.valid hadd, rfl, rfl, rfl, rfl, fun hother => ?_⟩
  obtain ⟨t, ht⟩ := List.exists_mem_of_ne_nil _ hother
  have hdatabase := h.valid.database_eq t ht
  -- the new table passed the check against the database of the table that was there
  have hsame : t.database = new.database :=
    Diagram.checkDatabase_eq_ok.1 (addTable_eq_ok hadd).1 _ hdatabase
  rw [if_neg (by simpa using hother), hdatabase, hsame]

/-- The second table goes with the join, one of two columns and one of two filters; a third one
comes and goes. -/
theorem table_goes_alone_sample :
    let new : NewTable := { Sample.orders with catalogId := 9 }
    Sample.graph.Reachable ∧
    (∃ t ∈ Sample.graph.tables, ∃ g', Sample.graph.removeTable 2 = (.ok t, g') ∧
      Sample.graph.CutsOut t g' ∧ g'.joins = [] ∧ g'.columns.map (·.id) = [5] ∧
      g'.filters.map (·.id) = [6]) ∧
    (Sample.graph.addTable new).1 = .ok 8 ∧
      ∃ t g', (Sample.graph.addTable new).2.removeTable 8 = (.ok t, g') ∧
        g'.tables = Sample.graph.tables ∧ g'.database = Sample.graph.database := by
  intro new
  obtain ⟨hgoes, hreturns⟩ := table_goes_alone Sample.reachable_graph
  obtain ⟨t, ht, hid⟩ : ∃ t ∈ Sample.graph.tables, t.id = 2 := by decide +kernel
  obtain ⟨g', hg', hcut⟩ := hgoes t ht
  have hjoins := hcut.joins
  have hcolumns := hcut.columns
  have hfilters := hcut.filters
  rw [hid] at hg' hjoins hcolumns hfilters
  have hadd : (Sample.graph.addTable new).1 = .ok 8 := by decide +kernel
  obtain ⟨g₂, hg₂, htables, -, -, -, hdatabase⟩ := hreturns new 8 _ (Prod.ext hadd rfl)
  refine ⟨Sample.reachable_graph, ⟨t, ht, g', hg', hcut, ?_, ?_, ?_⟩, hadd, _, g₂, hg₂, htables,
    hdatabase (by decide +kernel)⟩
  · rw [hjoins]
    decide +kernel
  · rw [hcolumns]
    decide +kernel
  · rw [hfilters]
    decide +kernel

end Graph

end QueryBuilder

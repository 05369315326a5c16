/-
**Saving and loading a graph do not show in later edits.**

A loaded graph counts its ids and its runs from the start, places new tables by the standard settings
and shows no message and no result.  None of this has to do with what later edits do: the graph that is
loaded from a text and the one that was saved stay twins.

The doubles are the exception.  Those in the places of tables may be read as other ones, for nothing
asks for them.  Those in filters have to read back: a double that is read as another one is another
one in the query.

Main results:

* `QueryBuilder.Diagram.reread_eq_renamed` — only the places of tables change;
* `QueryBuilder.Graph.restored_graph_indistinct` — **saving and loading do not show in later edits**;
* `QueryBuilder.Graph.restored_graph_differs` — a filter whose value does not read back.
-/

import QueryBuilder.Proofs.Graph.Rereading
import QueryBuilder.Proofs.Graph.Twins

set_option autoImplicit false

namespace QueryBuilder

open Json

variable {found : Float → Float}

/-! ### Doubles that are read as they are -/

/-- Some doubles are found in their texts as they are, and in the others whatever is there. -/
theorem exists_found {places values : List Float}
    (hplaces : ∀ x ∈ places, ∃ y, (Number.float x).ReadsAs (.float y))
    (hvalues : ∀ x ∈ values, (Number.float x).ReadsBack) :
    ∃ found : Float → Float,
      (∀ x ∈ places ++ values, (Number.float x).ReadsAs (.float (found x))) ∧
        ∀ x ∈ values, found x = x := by
  have hread : ∀ x, ∃ y, (x ∈ places ++ values → (Number.float x).ReadsAs (.float y)) ∧
      (x ∈ values → y = x) := by
    intro x
    by_cases hvalue : x ∈ values
    · exact ⟨x, fun _ => (hvalues x hvalue).readsAs, fun _ => rfl⟩
    · by_cases hplace : x ∈ places
      · obtain ⟨y, hy⟩ := hplaces x hplace
        exact ⟨y, fun _ => hy, fun h => absurd h hvalue⟩
      · have hnot : x ∉ places ++ values := by
          rw [List.mem_append]
          exact not_or.2 ⟨hplace, hvalue⟩
        exact ⟨x, fun h => absurd h hnot, fun _ => rfl⟩
  choose found hfound using hread
  exact ⟨found, fun x => (hfound x).1, fun x => (hfound x).2⟩

theorem Literal.reread_eq_self {l : Literal} (h : ∀ x ∈ l.doubles, found x = x) :
    l.reread found = l := by
  cases l with
  | float x => rw [Literal.reread, h x List.mem_cons_self]
  | _ => rfl

theorem Filter.reread_eq_self {f : Filter} (h : ∀ x ∈ f.doubles, found x = x) :
    f.reread found = f := by
  have hvalue : f.value.map (Literal.reread found) = f.value := by
    rw [Filter.doubles] at h
    cases hv : f.value with
    | none => rfl
    | some l =>
        rw [hv] at h
        exact congrArg some (Literal.reread_eq_self h)
  rw [Filter.reread, hvalue]

/-- **Only the places of tables change** if the values of filters are read as they are. -/
theorem Diagram.reread_eq_renamed {d : Diagram Float}
    (h : ∀ x ∈ d.filters.flatMap Filter.doubles, found x = x) :
    d.reread found = d.renamed id fun t => t.position.reread found := by
  have hfilters : d.filters.map (Filter.reread found) = d.filters := by
    have hself : ∀ f ∈ d.filters, f.reread found = id f := by
      intro f hf
      apply Filter.reread_eq_self
      intro x hx
      exact h x (List.mem_flatMap.2 ⟨f, hf, hx⟩)
    rw [List.map_congr_left hself, List.map_id]
  have hjoins : d.joins.map (Join.renamed id) = d.joins := List.map_id _
  have hcolumns : d.columns.map (Column.renamed id) = d.columns := List.map_id _
  have hfilters' : d.filters.map (Filter.renamed id) = d.filters := List.map_id _
  rw [Diagram.reread, Diagram.renamed, hfilters, hjoins, hcolumns, hfilters']
  rfl

/-! ### Graphs for examples -/

namespace Sample

/-- Edits that add a column and change it, are refused, and start a run. -/
def later : List (Edit Float) :=
  [.addColumn 1 10, .updateColumn 8 ⟨none, some (some "key")⟩, .addColumn 1 10, .addTable orders,
    .begin, .removeTable 2]

/-- A filter by a double that is read as another one. -/
def threshold : Graph Float :=
  (Graph.empty .standard).run [.addTable orders, .addFilter 1 12,
    .updateFilter 2 ⟨some .gt, some (some (.float 91204.66666666667)), none⟩]

/-- What is found in the texts of the doubles of that graph. -/
def misread (x : Float) : Float :=
  if x = 91204.66666666667 then 91204.66666666669 else x

end Sample

namespace Graph

/-- A graph and the one that is loaded from its text are alike, under the same ids. -/
theorem exists_restored_alike {g : Graph Float} (hvalid : g.toDiagram.Valid)
    (hfits : g.toDiagram.Fits)
    (hplaces : ∀ x ∈ g.tables.flatMap PlacedTable.doubles, ∃ y, (Number.float x).ReadsAs (.float y))
    (hvalues : ∀ x ∈ g.filters.flatMap Filter.doubles, (Number.float x).ReadsBack) :
    ∃ r, loadText g.saveText = .ok r ∧ (Twins.mk g r id).Alike := by
  obtain ⟨found, hfound, hsame⟩ := exists_found hplaces hvalues
  exact ⟨_, loadText_saveText_reread hvalid hfits hfound,
    hvalid, hvalid.reread found, _, Diagram.reread_eq_renamed hsame⟩

/-- **Saving and loading a graph do not show in later edits.**  Take a graph that a session can get to
and do any edits to it and to the graph that is loaded from its text, where edits name parts that are
there, and parts that were added since the text was saved are matched by the edits that added them.
After all of them, new tables have the same aliases, the queries are the same, the next edit is
accepted by both graphs or refused by both for the same reason, and runs that were started by the same
edit are recorded by both or by none.  The whole numbers of the graph are those of 64 bits and its
doubles are finite; those of filters read back, and something is found in the texts of the others. -/
theorem restored_graph_indistinct {g : Graph Float} (hreach : g.Reachable)
    (hfits : g.toDiagram.Fits) (hfinite : ∀ x ∈ g.doubles, Decimal.isFinite x = true)
    (hplaces : ∀ x ∈ g.tables.flatMap PlacedTable.doubles, Decimal.isFinite x = true →
      ∃ y, (Number.float x).ReadsAs (.float y))
    (hvalues : ∀ x ∈ g.filters.flatMap Filter.doubles, Decimal.isFinite x = true →
      (Number.float x).ReadsBack) :
    ∃ r, loadText g.saveText = .ok r ∧
      ∀ (ticket : Ticket → Ticket) (edits : List (Edit Float)),
        g.AllNamed edits →
          ((Twins.mk g r id).run ticket edits).Indistinct ticket ∧
            ∀ run run', ((Twins.mk g r id).run ticket edits).Matched run run' ↔
              (Twins.mk g r id).Matched run run' := by
  have hplaced : ∀ x ∈ g.tables.flatMap PlacedTable.doubles,
      ∃ y, (Number.float x).ReadsAs (.float y) := by
    intro x hx
    exact hplaces x hx (hfinite x (List.mem_append_left _ hx))
  have hvalued : ∀ x ∈ g.filters.flatMap Filter.doubles, (Number.float x).ReadsBack := by
    intro x hx
    exact hvalues x hx (hfinite x (List.mem_append_right _ hx))
  obtain ⟨r, hload, halike⟩ := exists_restored_alike hreach.valid hfits hplaced hvalued
  refine ⟨r, hload, ?_⟩
  intro ticket edits hnamed
  refine ⟨(halike.run ticket hnamed).indistinct ticket, ?_⟩
  intro run run'
  exact Twins.matched_run ticket _ edits run run'

/-- The last filter was taken away before the graph was saved, and so the ids of both graphs drift
apart. -/
theorem restored_graph_indistinct_sample :
    ((Sample.graph.apply (.removeFilter 7)).Reachable ∧
      (Sample.graph.apply (.removeFilter 7)).toDiagram.Fits ∧
      (Sample.graph.apply (.removeFilter 7)).AllNamed Sample.later) ∧
    ∃ r, loadText (Sample.graph.apply (.removeFilter 7)).saveText = .ok r ∧
      ((Twins.mk (Sample.graph.apply (.removeFilter 7)) r id).run id Sample.later).Indistinct id := by
  have hreach : (Sample.graph.apply (.removeFilter 7)).Reachable :=
    Sample.reachable_graph.run [.removeFilter 7]
  have hfits : (Sample.graph.apply (.removeFilter 7)).toDiagram.Fits := by decide +kernel
  have hnamed : (Sample.graph.apply (.removeFilter 7)).AllNamed Sample.later := by decide +kernel
  have hfinite : ∀ x ∈ (Sample.graph.apply (.removeFilter 7)).doubles,
      Decimal.isFinite x = true := by
    decide +kernel
  have hreads : ∀ x ∈ (Sample.graph.apply (.removeFilter 7)).doubles,
      (Number.float x).ReadsBack := by
    decide +kernel
  obtain ⟨r, hload, htwins⟩ := restored_graph_indistinct hreach hfits hfinite
    (fun x hx _ => ⟨x, (hreads x (List.mem_append_left _ hx)).readsAs⟩)
    (fun x hx _ => hreads x (List.mem_append_right _ hx))
  exact ⟨⟨hreach, hfits, hnamed⟩, r, hload, (htwins id Sample.later hnamed).1⟩

/-- The value of this filter is read as another double, and the query asks for another one. -/
theorem restored_graph_differs :
    Sample.threshold.Reachable ∧ Sample.threshold.toDiagram.Fits ∧
      (∀ x ∈ Sample.threshold.doubles, Decimal.isFinite x = true) ∧
      ∃ r, loadText Sample.threshold.saveText = .ok r ∧ r.query? ≠ Sample.threshold.query? := by
  have hreach : Sample.threshold.Reachable := ⟨.empty .standard, _, .empty .standard, rfl⟩
  have hfits : Sample.threshold.toDiagram.Fits := by decide +kernel
  have hfinite : ∀ x ∈ Sample.threshold.doubles, Decimal.isFinite x = true := by decide +kernel
  have hdoubles : ∀ x ∈ Sample.threshold.doubles,
      (Number.float x).ReadsAs (.float (Sample.misread x)) := by
    decide +kernel
  refine ⟨hreach, hfits, hfinite, _, loadText_saveText_reread hreach.valid hfits hdoubles, ?_⟩
  decide +kernel

end Graph

end QueryBuilder

/-
**What accepted edits do to a diagram.**

An edit that is accepted passed its checks, and the diagram that it leaves behind is told by the
edit and the diagram before it.  All such edits with their checks and their diagrams are one relation;
what holds after any edit is then told by a case for each of them.

Main definitions:

* `QueryBuilder.Graph.Makes` — an edit, what it answers and the diagram that it leaves behind.

Main results:

* `QueryBuilder.Graph.makes_of_answer` — **every accepted edit leaves such a diagram behind**.
-/

import QueryBuilder.Proofs.Graph.Accepted
import QueryBuilder.Proofs.Graph.Generations

set_option autoImplicit false

namespace QueryBuilder.Graph

open Diagram

variable {α : Type} [Coordinate α]

/-- What accepted edits answer and leave behind, with the checks that they passed.  Edits that are
not of the diagram leave it as it is, and dropping everything empties it. -/
inductive Makes (g : Graph α) : Edit α → Option Nat → Diagram α → Prop where
  | setDatabase {database : Option Int} (h : g.tables ≠ [] → database = g.database) :
      Makes g (.setDatabase database) none { g.toDiagram with database }
  | addTable {t : NewTable} (hcatalog : g.checkCatalogId t.catalogId = .ok ())
      (hdatabase : g.checkDatabase t.database = .ok ()) :
      Makes g (.addTable t) (some g.nextId)
        { g.toDiagram with database := some t.database, tables := g.tables ++ [g.tableToAdd t] }
  | removeTable {id : Nat} {t : PlacedTable α} (h : g.table? id = some t) :
      Makes g (.removeTable id) none (g.toDiagram.withoutTable id)
  | moveTable {id : Nat} {t : PlacedTable α} {position : Position α} (h : g.table? id = some t) :
      Makes g (.moveTable id position) none (g.toDiagram.moved id position)
  | commitPosition {id : Nat} {t : PlacedTable α} {position : Position α}
      (h : g.table? id = some t) :
      Makes g (.commitPosition id position) none (g.toDiagram.moved id position)
  | commitNothing {id : Nat} {position : Position α} (h : g.table? id = none) :
      Makes g (.commitPosition id position) none g.toDiagram
  | addJoin {l : Link} (h : g.checkLink l = .ok ()) :
      Makes g (.addJoin l) (some g.nextId)
        { g.toDiagram with joins := g.joins ++ [{ l with id := g.nextId }] }
  | updateJoin {id : Nat} {change : LinkChange} {j : Join} (hj : g.join? id = some j)
      (h : g.checkLink (change.apply j.toLink) = .ok ()) :
      Makes g (.updateJoin id change) none
        { g.toDiagram with
          joins := g.joins.map fun k =>
            if k.id = id then { change.apply j.toLink with id } else k }
  | removeJoin {id : Nat} {j : Join} (h : g.join? id = some j) :
      Makes g (.removeJoin id) none
        { g.toDiagram with joins := g.joins.filter fun k => k.id != id }
  | addColumn {table : Nat} {field : Int} {use : FieldUse} (huse : g.use table field = .ok use)
      (h : g.checkUnused use = .ok ()) :
      Makes g (.addColumn table field) (some g.nextId)
        { g.toDiagram with
          columns := g.columns ++
            [{ use with id := g.nextId, aggregation := .plain, aliasName := none }] }
  | updateColumn {id : Nat} {change : ColumnChange} {c : Column} (h : g.column? id = some c) :
      Makes g (.updateColumn id change) none
        { g.toDiagram with
          columns := g.columns.map fun k => if k.id = id then change.apply k else k }
  | removeColumn {id : Nat} {c : Column} (h : g.column? id = some c) :
      Makes g (.removeColumn id) none
        { g.toDiagram with columns := g.columns.filter fun k => k.id != id }
  | reorderColumns {src dst : Nat} (hsrc : src < g.columns.length) (hdst : dst < g.columns.length) :
      Makes g (.reorderColumns src dst) none
        { g.toDiagram with columns := moveItem g.columns src dst }
  | addFilter {table : Nat} {field : Int} {use : FieldUse} (huse : g.use table field = .ok use) :
      Makes g (.addFilter table field) (some g.nextId)
        { g.toDiagram with
          filters := g.filters ++
            [{ use with
              id := g.nextId, comparison := .eq, value := none, connective := .and }] }
  | updateFilter {id : Nat} {change : FilterChange} {f : Filter} (hf : g.filter? id = some f)
      (h : ∀ comparison ∈ change.comparison, checkComparison comparison f.baseType = .ok ()) :
      Makes g (.updateFilter id change) none
        { g.toDiagram with
          filters := g.filters.map fun k => if k.id = id then change.apply k else k }
  | removeFilter {id : Nat} {f : Filter} (h : g.filter? id = some f) :
      Makes g (.removeFilter id) none
        { g.toDiagram with filters := g.filters.filter fun k => k.id != id }
  | reset : Makes g .reset none .empty
  | shows {e : Edit α} (h : e.editsDiagram = false) (hreset : e ≠ .reset) :
      Makes g e none g.toDiagram

variable {g : Graph α} {added : Option Nat}

/-- What an edit yields is what it makes. -/
theorem Yields.makes {e : Edit α} {id : Option Nat} {d : Diagram α} (h : g.Yields e id d)
    (hmakes : g.Makes e id d) (hanswer : g.answer e = .ok added) :
    g.Makes e added (g.apply e).toDiagram := by
  rw [h.1] at hanswer
  cases hanswer
  rw [h.2]
  exact hmakes

/-- Edits that are not of the diagram leave it as it is, unless they drop everything. -/
theorem toDiagram_apply {e : Edit α} (h : e.editsDiagram = false) (hreset : e ≠ .reset) :
    (g.apply e).toDiagram = g.toDiagram := by
  obtain ⟨_, _, _, _, hshown⟩ := g.shown_apply h hreset
  rw [hshown]

/-! ### Tables -/

theorem makes_setDatabase {database : Option Int}
    (h : g.answer (.setDatabase database) = .ok added) :
    g.Makes (.setDatabase database) added (g.apply (.setDatabase database)).toDiagram := by
  by_cases hlocked : g.tables ≠ [] ∧ database ≠ g.database
  · rw [answer_setDatabase_of_locked hlocked] at h
    cases h
  · refine (yields_setDatabase hlocked).makes (.setDatabase fun htables => ?_) h
    by_contra hne
    exact hlocked ⟨htables, hne⟩

theorem makes_addTable {t : NewTable} (h : g.answer (.addTable t) = .ok added) :
    g.Makes (.addTable t) added (g.apply (.addTable t)).toDiagram := by
  cases hcatalog : g.checkCatalogId t.catalogId with
  | error err =>
      rw [answer_addTable_of_catalogId hcatalog] at h
      cases h
  | ok _ =>
      cases hdatabase : g.checkDatabase t.database with
      | error err =>
          rw [answer_addTable_of_database hcatalog hdatabase] at h
          cases h
      | ok _ => exact (yields_addTable hcatalog hdatabase).makes (.addTable hcatalog hdatabase) h

theorem makes_removeTable {id : Nat} (h : g.answer (.removeTable id) = .ok added) :
    g.Makes (.removeTable id) added (g.apply (.removeTable id)).toDiagram := by
  cases ht : g.table? id with
  | none =>
      rw [answer, removeTable_eq, ht] at h
      cases h
  | some t => exact (yields_removeTable ht).makes (.removeTable ht) h

theorem makes_moveTable {id : Nat} {position : Position α}
    (h : g.answer (.moveTable id position) = .ok added) :
    g.Makes (.moveTable id position) added (g.apply (.moveTable id position)).toDiagram := by
  cases ht : g.table? id with
  | none =>
      rw [answer, moveTable_eq, ht] at h
      cases h
  | some t => exact (yields_moveTable ht position).makes (.moveTable ht) h

theorem makes_commitPosition {id : Nat} {position : Position α}
    (h : g.answer (.commitPosition id position) = .ok added) :
    g.Makes (.commitPosition id position) added
      (g.apply (.commitPosition id position)).toDiagram := by
  cases ht : g.table? id with
  | none =>
      have hsame : (g.apply (.commitPosition id position)).toDiagram = g.toDiagram := by
        rw [apply, commitPosition, moveTable_eq, ht]
        rfl
      cases h
      rw [hsame]
      exact .commitNothing ht
  | some t => exact (yields_commitPosition ht position).makes (.commitPosition ht) h

/-! ### Joins -/

theorem makes_addJoin {l : Link} (h : g.answer (.addJoin l) = .ok added) :
    g.Makes (.addJoin l) added (g.apply (.addJoin l)).toDiagram := by
  cases hlink : g.checkLink l with
  | error err =>
      rw [answer_addJoin_of_link hlink] at h
      cases h
  | ok _ => exact (yields_addJoin hlink).makes (.addJoin hlink) h

theorem makes_updateJoin {id : Nat} {change : LinkChange}
    (h : g.answer (.updateJoin id change) = .ok added) :
    g.Makes (.updateJoin id change) added (g.apply (.updateJoin id change)).toDiagram := by
  cases hj : g.join? id with
  | none =>
      simp only [answer, updateJoin_eq, hj] at h
      cases h
  | some j =>
      cases hlink : g.checkLink (change.apply j.toLink) with
      | error err =>
          rw [answer_updateJoin_of_link hj hlink] at h
          cases h
      | ok _ => exact (yields_updateJoin hj hlink).makes (.updateJoin hj hlink) h

theorem makes_removeJoin {id : Nat} (h : g.answer (.removeJoin id) = .ok added) :
    g.Makes (.removeJoin id) added (g.apply (.removeJoin id)).toDiagram := by
  cases hj : g.join? id with
  | none =>
      rw [answer, removeJoin_eq, hj] at h
      cases h
  | some j => exact (yields_removeJoin hj).makes (.removeJoin hj) h

/-! ### Columns -/

theorem makes_addColumn {table : Nat} {field : Int}
    (h : g.answer (.addColumn table field) = .ok added) :
    g.Makes (.addColumn table field) added (g.apply (.addColumn table field)).toDiagram := by
  cases huse : g.use table field with
  | error err =>
      rw [answer_addColumn_of_use huse] at h
      cases h
  | ok use =>
      cases hunused : g.checkUnused use with
      | error err =>
          rw [answer_addColumn_of_used huse hunused] at h
          cases h
      | ok _ => exact (yields_addColumn huse hunused).makes (.addColumn huse hunused) h

theorem makes_updateColumn {id : Nat} {change : ColumnChange}
    (h : g.answer (.updateColumn id change) = .ok added) :
    g.Makes (.updateColumn id change) added (g.apply (.updateColumn id change)).toDiagram := by
  cases hc : g.column? id with
  | none =>
      rw [answer, updateColumn_eq, hc] at h
      cases h
  | some c => exact (yields_updateColumn hc change).makes (.updateColumn hc) h

theorem makes_removeColumn {id : Nat} (h : g.answer (.removeColumn id) = .ok added) :
    g.Makes (.removeColumn id) added (g.apply (.removeColumn id)).toDiagram := by
  cases hc : g.column? id with
  | none =>
      rw [answer, removeColumn_eq, hc] at h
      cases h
  | some c => exact (yields_removeColumn hc).makes (.removeColumn hc) h

theorem makes_reorderColumns {src dst : Nat} (h : g.answer (.reorderColumns src dst) = .ok added) :
    g.Makes (.reorderColumns src dst) added (g.apply (.reorderColumns src dst)).toDiagram := by
  by_cases hsrc : g.columns.length ≤ src
  · rw [answer_reorderColumns_of_src hsrc] at h
    cases h
  · by_cases hdst : g.columns.length ≤ dst
    · rw [answer_reorderColumns_of_dst hsrc hdst] at h
      cases h
    · exact (yields_reorderColumns hsrc hdst).makes
        (.reorderColumns (Nat.lt_of_not_le hsrc) (Nat.lt_of_not_le hdst)) h

/-! ### Filters -/

theorem makes_addFilter {table : Nat} {field : Int}
    (h : g.answer (.addFilter table field) = .ok added) :
    g.Makes (.addFilter table field) added (g.apply (.addFilter table field)).toDiagram := by
  cases huse : g.use table field with
  | error err =>
      rw [answer_addFilter_of_use huse] at h
      cases h
  | ok use => exact (yields_addFilter huse).makes (.addFilter huse) h

theorem makes_updateFilter {id : Nat} {change : FilterChange}
    (h : g.answer (.updateFilter id change) = .ok added) :
    g.Makes (.updateFilter id change) added (g.apply (.updateFilter id change)).toDiagram := by
  cases hf : g.filter? id with
  | none =>
      simp only [answer, updateFilter_eq, hf] at h
      cases h
  | some f =>
      by_cases hchange : ∀ comparison ∈ change.comparison,
          checkComparison comparison f.baseType = .ok ()
      · exact (yields_updateFilter hf hchange).makes (.updateFilter hf hchange) h
      · obtain ⟨comparison, hmem, hfails⟩ : ∃ comparison ∈ change.comparison,
            checkComparison comparison f.baseType ≠ .ok () := by
          simpa using hchange
        cases hcheck : checkComparison comparison f.baseType with
        | ok _ => exact (hfails hcheck).elim
        | error err =>
            rw [answer_updateFilter_of_comparison hf hmem hcheck] at h
            cases h

theorem makes_removeFilter {id : Nat} (h : g.answer (.removeFilter id) = .ok added) :
    g.Makes (.removeFilter id) added (g.apply (.removeFilter id)).toDiagram := by
  cases hf : g.filter? id with
  | none =>
      rw [answer, removeFilter_eq, hf] at h
      cases h
  | some f => exact (yields_removeFilter hf).makes (.removeFilter hf) h

/-! ### All edits -/

/-- **Every accepted edit answers and leaves behind what it should.**  An edit that fails one of its
checks is refused. -/
theorem makes_of_answer {e : Edit α} (h : g.answer e = .ok added) :
    g.Makes e added (g.apply e).toDiagram := by
  cases e with
  | setDatabase _ => exact makes_setDatabase h
  | addTable _ => exact makes_addTable h
  | removeTable _ => exact makes_removeTable h
  | moveTable _ _ => exact makes_moveTable h
  | commitPosition _ _ => exact makes_commitPosition h
  | addJoin _ => exact makes_addJoin h
  | updateJoin _ _ => exact makes_updateJoin h
  | removeJoin _ => exact makes_removeJoin h
  | addColumn _ _ => exact makes_addColumn h
  | updateColumn _ _ => exact makes_updateColumn h
  | removeColumn _ => exact makes_removeColumn h
  | reorderColumns _ _ => exact makes_reorderColumns h
  | addFilter _ _ => exact makes_addFilter h
  | updateFilter _ _ => exact makes_updateFilter h
  | removeFilter _ => exact makes_removeFilter h
  | reset =>
      cases h
      exact .reset
  | setExecuting _ | setError _ | setResult _ | begin | finish _ _ | abandon _ | cancel =>
      cases h
      rw [toDiagram_apply rfl (by simp)]
      exact .shows rfl (by simp)

end QueryBuilder.Graph

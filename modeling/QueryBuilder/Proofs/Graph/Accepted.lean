/-
**What edits answer, and what they leave behind.**

An edit that may be refused asks something of the diagram first.  For each of these edits this file
says which answer refuses it, and what the diagram is afterwards if nothing does.

Main definitions:

* `QueryBuilder.Graph.Yields` — an edit is accepted and leaves a diagram behind;
* `QueryBuilder.Graph.tableToAdd` — the table that a graph makes of a new one.

Main results:

* `QueryBuilder.Graph.yields_addTable` and the like — edits that are accepted;
* `QueryBuilder.Graph.answer_addTable_of_catalogId` and the like — edits that are refused;
* `QueryBuilder.Graph.toDiagram_of_refused` — a refused edit leaves the diagram.
-/

import QueryBuilder.Proofs.Graph.Refusals

set_option autoImplicit false

namespace QueryBuilder.Graph

open Diagram

variable {α : Type} [Coordinate α]

/-- An edit is accepted: it adds a part under an id, or none, and leaves a diagram behind. -/
def Yields (g : Graph α) (e : Edit α) (added : Option Nat) (d : Diagram α) : Prop :=
  g.answer e = .ok added ∧ (g.apply e).toDiagram = d

variable {g : Graph α} {err : GraphError}

/-- A refused edit leaves the diagram. -/
theorem toDiagram_of_refused {e : Edit α} (h : g.answer e = .error err) :
    (g.apply e).toDiagram = g.toDiagram := by
  rw [apply_of_error h]
  cases e.showsRefusal <;> rfl

/-! ### Tables -/

theorem answer_setDatabase_of_locked {database : Option Int}
    (h : g.tables ≠ [] ∧ database ≠ g.database) :
    g.answer (.setDatabase database) = .error .databaseLocked := by
  rw [answer, setDatabase_eq, if_pos h]
  rfl

theorem yields_setDatabase {database : Option Int}
    (h : ¬(g.tables ≠ [] ∧ database ≠ g.database)) :
    g.Yields (.setDatabase database) none { g.toDiagram with database } := by
  rw [Yields, answer, apply, setDatabase_eq, if_neg h]
  exact ⟨rfl, rfl⟩

/-- The table that a graph makes of a new one. -/
def tableToAdd (g : Graph α) (t : NewTable) : PlacedTable α :=
  { t with
    id := g.nextId
    aliasName := Alias.fresh (g.tables.map (·.aliasName)) t.name
    position := g.settings.spawn (g.tables.map (·.position)) }

theorem answer_addTable_of_catalogId {t : NewTable}
    (h : g.checkCatalogId t.catalogId = .error err) : g.answer (.addTable t) = .error err := by
  rw [answer, addTable_eq, h]
  rfl

theorem answer_addTable_of_database {t : NewTable} (hcatalog : g.checkCatalogId t.catalogId = .ok ())
    (h : g.checkDatabase t.database = .error err) : g.answer (.addTable t) = .error err := by
  rw [answer, addTable_eq, hcatalog, h]
  rfl

theorem yields_addTable {t : NewTable} (hcatalog : g.checkCatalogId t.catalogId = .ok ())
    (hdatabase : g.checkDatabase t.database = .ok ()) :
    g.Yields (.addTable t) (some g.nextId)
      { g.toDiagram with database := some t.database, tables := g.tables ++ [g.tableToAdd t] } := by
  rw [Yields, answer, apply, addTable_eq, hcatalog, hdatabase]
  exact ⟨rfl, rfl⟩

theorem yields_removeTable {id : Nat} {t : PlacedTable α} (h : g.table? id = some t) :
    g.Yields (.removeTable id) none (g.toDiagram.withoutTable id) := by
  rw [Yields, answer, apply, removeTable_eq, h]
  exact ⟨rfl, rfl⟩

theorem yields_moveTable {id : Nat} {t : PlacedTable α} (h : g.table? id = some t)
    (position : Position α) :
    g.Yields (.moveTable id position) none (g.toDiagram.moved id position) := by
  rw [Yields, answer, apply, moveTable_eq, h]
  exact ⟨rfl, rfl⟩

theorem yields_commitPosition {id : Nat} {t : PlacedTable α} (h : g.table? id = some t)
    (position : Position α) :
    g.Yields (.commitPosition id position) none (g.toDiagram.moved id position) :=
  ⟨rfl, (yields_moveTable h position).2⟩

/-! ### Joins -/

theorem answer_addJoin_of_link {l : Link} (h : g.checkLink l = .error err) :
    g.answer (.addJoin l) = .error err := by
  rw [answer, addJoin_eq, h]
  rfl

theorem yields_addJoin {l : Link} (h : g.checkLink l = .ok ()) :
    g.Yields (.addJoin l) (some g.nextId)
      { g.toDiagram with joins := g.joins ++ [{ l with id := g.nextId }] } := by
  rw [Yields, answer, apply, addJoin_eq, h]
  exact ⟨rfl, rfl⟩

variable {id : Nat}

theorem answer_updateJoin_of_link {j : Join} {change : LinkChange} (hj : g.join? id = some j)
    (h : g.checkLink (change.apply j.toLink) = .error err) :
    g.answer (.updateJoin id change) = .error err := by
  simp only [answer, updateJoin_eq, hj, h]
  rfl

theorem yields_updateJoin {j : Join} {change : LinkChange} (hj : g.join? id = some j)
    (h : g.checkLink (change.apply j.toLink) = .ok ()) :
    g.Yields (.updateJoin id change) none
      { g.toDiagram with
        joins := g.joins.map fun k =>
          if k.id = id then { change.apply j.toLink with id } else k } := by
  simp only [Yields, answer, apply, updateJoin_eq, hj, h]
  exact ⟨rfl, rfl⟩

theorem yields_removeJoin {j : Join} (h : g.join? id = some j) :
    g.Yields (.removeJoin id) none
      { g.toDiagram with joins := g.joins.filter fun k => k.id != id } := by
  rw [Yields, answer, apply, removeJoin_eq, h]
  exact ⟨rfl, rfl⟩

/-! ### Columns -/

variable {table : Nat} {field : Int} {use : FieldUse}

theorem answer_addColumn_of_use (h : g.use table field = .error err) :
    g.answer (.addColumn table field) = .error err := by
  rw [answer, addColumn_eq, h]
  rfl

theorem answer_addColumn_of_used (huse : g.use table field = .ok use)
    (h : g.checkUnused use = .error err) : g.answer (.addColumn table field) = .error err := by
  rw [answer, addColumn_eq, huse, ok_bind, h]
  rfl

theorem yields_addColumn (huse : g.use table field = .ok use) (h : g.checkUnused use = .ok ()) :
    g.Yields (.addColumn table field) (some g.nextId)
      { g.toDiagram with
        columns := g.columns ++
          [{ use with id := g.nextId, aggregation := .plain, aliasName := none }] } := by
  rw [Yields, answer, apply, addColumn_eq, huse, ok_bind, h]
  exact ⟨rfl, rfl⟩

theorem yields_updateColumn {c : Column} (h : g.column? id = some c) (change : ColumnChange) :
    g.Yields (.updateColumn id change) none
      { g.toDiagram with
        columns := g.columns.map fun k => if k.id = id then change.apply k else k } := by
  rw [Yields, answer, apply, updateColumn_eq, h]
  exact ⟨rfl, rfl⟩

theorem yields_removeColumn {c : Column} (h : g.column? id = some c) :
    g.Yields (.removeColumn id) none
      { g.toDiagram with columns := g.columns.filter fun k => k.id != id } := by
  rw [Yields, answer, apply, removeColumn_eq, h]
  exact ⟨rfl, rfl⟩

variable {src dst : Nat}

theorem answer_reorderColumns_of_src (h : g.columns.length ≤ src) :
    g.answer (.reorderColumns src dst) = .error (.indexOutOfRange src g.columns.length) := by
  rw [answer, reorderColumns_eq, if_pos h]
  rfl

theorem answer_reorderColumns_of_dst (hsrc : ¬g.columns.length ≤ src)
    (h : g.columns.length ≤ dst) :
    g.answer (.reorderColumns src dst) = .error (.indexOutOfRange dst g.columns.length) := by
  rw [answer, reorderColumns_eq, if_neg hsrc, if_pos h]
  rfl

theorem yields_reorderColumns (hsrc : ¬g.columns.length ≤ src) (hdst : ¬g.columns.length ≤ dst) :
    g.Yields (.reorderColumns src dst) none
      { g.toDiagram with columns := moveItem g.columns src dst } := by
  rw [Yields, answer, apply, reorderColumns_eq, if_neg hsrc, if_neg hdst]
  exact ⟨rfl, rfl⟩

/-! ### Filters -/

theorem answer_addFilter_of_use (h : g.use table field = .error err) :
    g.answer (.addFilter table field) = .error err := by
  rw [answer, addFilter_eq, h]
  rfl

theorem yields_addFilter (huse : g.use table field = .ok use) :
    g.Yields (.addFilter table field) (some g.nextId)
      { g.toDiagram with
        filters := g.filters ++
          [{ use with
            id := g.nextId, comparison := .eq, value := none, connective := .and }] } := by
  rw [Yields, answer, apply, addFilter_eq, huse]
  exact ⟨rfl, rfl⟩

theorem answer_updateFilter_of_comparison {f : Filter} {change : FilterChange}
    (hf : g.filter? id = some f) {comparison : Comparison}
    (hcomparison : change.comparison = some comparison)
    (h : checkComparison comparison f.baseType = .error err) :
    g.answer (.updateFilter id change) = .error err := by
  simp only [answer, updateFilter_eq, hf, hcomparison, h]
  rfl

theorem yields_updateFilter {f : Filter} {change : FilterChange} (hf : g.filter? id = some f)
    (h : ∀ comparison ∈ change.comparison, checkComparison comparison f.baseType = .ok ()) :
    g.Yields (.updateFilter id change) none
      { g.toDiagram with
        filters := g.filters.map fun k => if k.id = id then change.apply k else k } := by
  cases hcomparison : change.comparison with
  | none =>
      simp only [Yields, answer, apply, updateFilter_eq, hf, hcomparison]
      exact ⟨rfl, rfl⟩
  | some comparison =>
      simp only [Yields, answer, apply, updateFilter_eq, hf, hcomparison, h comparison hcomparison]
      exact ⟨rfl, rfl⟩

theorem yields_removeFilter {f : Filter} (h : g.filter? id = some f) :
    g.Yields (.removeFilter id) none
      { g.toDiagram with filters := g.filters.filter fun k => k.id != id } := by
  rw [Yields, answer, apply, removeFilter_eq, h]
  exact ⟨rfl, rfl⟩

end QueryBuilder.Graph

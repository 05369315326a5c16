/-
**The query follows the edits.**

An edit of the diagram changes the pieces of the query that belong to what is edited, and no others.
Edits that say nothing about the query leave it as it is; a part that is added brings one piece,
behind all others of its kind; a part that is changed or taken away has its piece changed or taken
away; and a table that goes, unless it is the first one, takes the pieces with it that refer to it.

The first table is special, because its fields are named without an alias, and all tables are
looked up by id.  So it matters that a table that comes or moves has no part in the names of others,
and that nothing that is left refers to a table that goes.

Main definitions:

* `QueryBuilder.Edit.leavesQuery` — edits that say nothing about the query;
* `QueryBuilder.Diagram.Tracks` — what becomes of the pieces of a query, edit by edit.

Main results:

* `QueryBuilder.Diagram.Spells.follows` — what every accepted edit does to the pieces;
* `QueryBuilder.Graph.query_tracks` — **the query follows every edit, and nothing else changes in
  it**.
-/

import QueryBuilder.Proofs.Graph.Effects
import QueryBuilder.Proofs.Graph.Outline

set_option autoImplicit false

namespace QueryBuilder

variable {α : Type}

/-! ### Parts and their places -/

/-- Parts with distinct ids are at different places. -/
theorem place_unique {β : Type} {key : β → Nat} {parts : List β} (h : (parts.map key).Nodup)
    {i n : Nat} {part part' : β} (hi : parts[i]? = some part) (hn : parts[n]? = some part')
    (hkey : key part = key part') : i = n := by
  have hlt : i < (parts.map key).length := by
    rw [List.length_map]
    exact (List.getElem?_eq_some_iff.1 hi).1
  refine (List.getElem?_inj hlt h).1 ?_
  rw [List.getElem?_map, List.getElem?_map, hi, hn, Option.map_some, Option.map_some, hkey]

/-- A part that is found under an id has a place. -/
theorem exists_place {β : Type} {key : β → Nat} {parts : List β} {id : Nat} {part : β}
    (h : parts.find? (fun b => key b == id) = some part) :
    ∃ i : Nat, parts[i]? = some part ∧ key part = id := by
  obtain ⟨i, hi⟩ := List.mem_iff_getElem?.1 (List.mem_of_find?_eq_some h)
  exact ⟨i, hi, by simpa using List.find?_some h⟩

/-- Changing the part with an id is replacing what is at its place. -/
theorem update_eq_set {β : Type} {key : β → Nat} {parts : List β} (h : (parts.map key).Nodup)
    {i : Nat} {part : β} (hi : parts[i]? = some part) (change : β → β) :
    parts.map (fun b => if key b = key part then change b else b) =
      parts.set i (change part) := by
  refine List.ext_getElem? fun n => ?_
  rw [List.getElem?_map, List.getElem?_set]
  by_cases hn : i = n
  · subst hn
    rw [if_pos rfl, if_pos (List.getElem?_eq_some_iff.1 hi).1, hi, Option.map_some, if_pos rfl]
  · rw [if_neg hn]
    cases hpart : parts[n]? with
    | none => rfl
    | some part' =>
        have hkey : key part' ≠ key part := fun hkey => hn (place_unique h hi hpart hkey.symm)
        rw [Option.map_some, if_neg hkey]

/-- Taking away the part with an id is taking away what is at its place. -/
theorem filter_eq_eraseIdx {β : Type} {key : β → Nat} {parts : List β} (h : (parts.map key).Nodup)
    {i : Nat} {part : β} (hi : parts[i]? = some part) :
    parts.filter (fun b => key b != key part) = parts.eraseIdx i := by
  induction parts generalizing i with
  | nil => rfl
  | cons first parts ih =>
      rw [List.map_cons, List.nodup_cons] at h
      cases i with
      | zero =>
          rw [List.getElem?_cons_zero, Option.some.injEq] at hi
          subst hi
          rw [List.filter_cons_of_neg (by simp), List.eraseIdx_cons_zero, List.filter_eq_self]
          intro b hb
          have hkey : key b ≠ key first := fun hkey => h.1 (hkey ▸ List.mem_map_of_mem hb)
          simpa using hkey
      | succ i =>
          rw [List.getElem?_cons_succ] at hi
          have hkey : key first ≠ key part := fun hkey =>
            h.1 (hkey ▸ List.mem_map_of_mem (List.mem_of_getElem? hi))
          rw [List.filter_cons_of_pos (by simpa using hkey), List.eraseIdx_cons_succ, ih h.2 hi]

/-! ### What becomes of the pieces -/

/-- Whether an edit says nothing about the query: it is about tables that are there or come behind
the others, about names of columns, or about runs. -/
def Edit.leavesQuery : Edit α → Bool
  | .setDatabase _ | .addTable _ | .moveTable .. | .commitPosition .. => true
  | .updateColumn _ change => change.aggregation.isNone
  | .setExecuting _ | .setError _ | .setResult _ | .begin | .finish .. | .abandon _ | .cancel => true
  | _ => false

theorem Edit.leavesQuery_of_shows {e : Edit α} (h : e.editsDiagram = false) (hreset : e ≠ .reset) :
    e.leavesQuery = true := by
  cases e with
  | reset => exact (hreset rfl).elim
  | setExecuting _ | setError _ | setResult _ | begin | finish _ _ | abandon _ | cancel => rfl
  | _ => cases h

namespace Diagram

/-- What becomes of the pieces of a query, if an edit makes another diagram of the first one.  All
lists of pieces that are not mentioned stay as they are. -/
inductive Tracks (d d' : Diagram α) (root : PlacedTable α) (o : Outline) :
    Edit α → Outline → Prop where
  | leaves {e : Edit α} (h : e.leavesQuery = true) : Tracks d d' root o e o
  | addJoin {l : Link} {j : Join} {clause : JoinClause} (hjoins : d'.joins = d.joins ++ [j])
      (hj : j.toLink = l) (h : d'.Keeps root j clause) :
      Tracks d d' root o (.addJoin l) { o with clauses := o.clauses ++ [clause] }
  | updateJoin {change : LinkChange} {i : Nat} {j : Join} {clause : JoinClause}
      (hj : d.joins[i]? = some j)
      (h : d'.Keeps root { change.apply j.toLink with id := j.id } clause) :
      Tracks d d' root o (.updateJoin j.id change) { o with clauses := o.clauses.set i clause }
  | removeJoin {i : Nat} {j : Join} (hj : d.joins[i]? = some j) :
      Tracks d d' root o (.removeJoin j.id) { o with clauses := o.clauses.eraseIdx i }
  | addColumn {table : Nat} {field : Int} {r : FieldRef} (h : d'.Refers root table field r) :
      Tracks d d' root o (.addColumn table field)
        { o with projections := o.projections ++ [.plain r] }
  | updateColumn {change : ColumnChange} {i : Nat} {c : Column} {projection : Projection}
      (hc : d.columns[i]? = some c) (ha : change.aggregation ≠ none)
      (h : d'.Shows root (change.apply c) projection) :
      Tracks d d' root o (.updateColumn c.id change)
        { o with projections := o.projections.set i projection }
  | removeColumn {i : Nat} {c : Column} (hc : d.columns[i]? = some c) :
      Tracks d d' root o (.removeColumn c.id) { o with projections := o.projections.eraseIdx i }
  | reorderColumns {src dst : Nat} :
      Tracks d d' root o (.reorderColumns src dst)
        { o with projections := moveItem o.projections src dst }
  | addFilter {table : Nat} {field : Int} {r : FieldRef} (h : d'.Refers root table field r) :
      Tracks d d' root o (.addFilter table field)
        { o with steps := o.steps ++ [(.and, ⟨.eq, r, none⟩)] }
  | updateFilter {change : FilterChange} {i : Nat} {f : Filter} {leaf : Leaf}
      (hf : d.filters[i]? = some f) (h : d'.Asks root (change.apply f) leaf) :
      Tracks d d' root o (.updateFilter f.id change)
        { o with steps := o.steps.set i ((change.apply f).connective, leaf) }
  | removeFilter {i : Nat} {f : Filter} (hf : d.filters[i]? = some f) :
      Tracks d d' root o (.removeFilter f.id) { o with steps := o.steps.eraseIdx i }
  | removeTable {id : Nat} (h : id ≠ root.id) :
      Tracks d d' root o (.removeTable id)
        { o with
          clauses := keptParts (fun j => !j.touches id) d.joins o.clauses
          projections := keptParts (fun c => c.table != id) d.columns o.projections
          steps := keptParts (fun f => f.table != id) d.filters o.steps }

/-- An edit leaves a query behind that has the pieces of the first one, but for those that it
changes. -/
def Follows (d d' : Diagram α) (root : PlacedTable α) (o : Outline) (e : Edit α) : Prop :=
  ∃ root' o', d'.tables.head? = some root' ∧ root'.id = root.id ∧ d'.Spells root' o' ∧
    Tracks d d' root o e o'

variable {d : Diagram α} {root : PlacedTable α} {o : Outline}

/-! ### Edits of joins -/

section Joins

variable (hs : d.Spells root o) (hroot : d.tables.head? = some root)
include hs

theorem Spells.withJoins {joins : List Join} {clauses : List JoinClause}
    (h : joins.map (d.joinClause? root) = clauses.map some) :
    ({ d with joins } : Diagram α).Spells root { o with clauses } :=
  ⟨hs.source, h, hs.projections, hs.steps⟩

include hroot

theorem Spells.follows_addJoin {j : Join}
    (hvalid : ({ d with joins := d.joins ++ [j] } : Diagram α).Valid) :
    d.Follows { d with joins := d.joins ++ [j] } root o (.addJoin j.toLink) := by
  obtain ⟨clause, hclause, hkeeps⟩ :=
    hvalid.keeps_joinClause (List.mem_of_mem_head? hroot)
      (List.mem_append_right _ List.mem_cons_self)
  refine ⟨root, _, hroot, rfl, hs.withJoins ?_, .addJoin rfl rfl hkeeps⟩
  rw [List.map_append, List.map_append, hs.clauses]
  exact congrArg (_ ++ [·]) hclause

theorem Spells.follows_updateJoin (hids : d.ids.Nodup) {change : LinkChange} {j : Join} {i : Nat}
    (hj : d.joins[i]? = some j)
    (hvalid : ({ d with
      joins := d.joins.map fun k =>
        if k.id = j.id then { change.apply j.toLink with id := j.id } else k } :
        Diagram α).Valid) :
    d.Follows { d with
      joins := d.joins.map fun k =>
        if k.id = j.id then { change.apply j.toLink with id := j.id } else k } root o
      (.updateJoin j.id change) := by
  rw [update_eq_set (joinIds_nodup hids) hj fun _ => { change.apply j.toLink with id := j.id }]
    at hvalid ⊢
  obtain ⟨clause, hclause, hkeeps⟩ := hvalid.keeps_joinClause (List.mem_of_mem_head? hroot)
    (List.mem_of_getElem? (List.getElem?_set_self (List.getElem?_eq_some_iff.1 hj).1))
  refine ⟨root, _, hroot, rfl, hs.withJoins ?_, .updateJoin hj hkeeps⟩
  rw [List.map_set, List.map_set, hs.clauses]
  exact congrArg ((o.clauses.map some).set i) hclause

theorem Spells.follows_removeJoin (hids : d.ids.Nodup) {j : Join} {i : Nat}
    (hj : d.joins[i]? = some j) :
    d.Follows { d with joins := d.joins.filter fun k => k.id != j.id } root o
      (.removeJoin j.id) := by
  refine ⟨root, _, hroot, rfl, hs.withJoins ?_, .removeJoin hj⟩
  rw [filter_eq_eraseIdx (joinIds_nodup hids) hj, ← List.eraseIdx_map, hs.clauses,
    List.eraseIdx_map]

end Joins

/-! ### Edits of columns -/

section Columns

variable (hs : d.Spells root o) (hroot : d.tables.head? = some root)
include hs

theorem Spells.withColumns {columns : List Column} {projections : List Projection}
    (h : columns.map (d.projection root) = projections) :
    ({ d with columns } : Diagram α).Spells root { o with projections } :=
  ⟨hs.source, hs.clauses, h, hs.steps⟩

include hroot

theorem Spells.follows_addColumn {use : FieldUse} {id : Nat} {columns : List Column}
    (hcolumns : columns =
      d.columns ++ [{ use with id, aggregation := .plain, aliasName := none }])
    (hvalid : ({ d with columns } : Diagram α).Valid) :
    d.Follows { d with columns } root o (.addColumn use.table use.field) := by
  subst hcolumns
  have hfield := (hvalid.columns_describe _
    (List.mem_append_right _ List.mem_cons_self)).hasField
  refine ⟨root, _, hroot, rfl, hs.withColumns ?_,
    .addColumn (hvalid.refers_fieldRef (List.mem_of_mem_head? hroot) hfield)⟩
  rw [List.map_append, hs.projections]
  rfl

theorem Spells.follows_updateColumn (hids : d.ids.Nodup) {change : ColumnChange} {c : Column}
    {i : Nat} (hc : d.columns[i]? = some c)
    (hvalid : ({ d with
      columns := d.columns.map fun k => if k.id = c.id then change.apply k else k } :
        Diagram α).Valid) :
    d.Follows { d with
      columns := d.columns.map fun k => if k.id = c.id then change.apply k else k } root o
      (.updateColumn c.id change) := by
  rw [update_eq_set (columnIds_nodup hids) hc change.apply] at hvalid ⊢
  have hshows := hvalid.shows_projection (List.mem_of_mem_head? hroot)
    (List.mem_of_getElem? (List.getElem?_set_self (List.getElem?_eq_some_iff.1 hc).1))
  have hset : (d.columns.set i (change.apply c)).map (d.projection root) =
      o.projections.set i (d.projection root (change.apply c)) := by
    rw [List.map_set, hs.projections]
  cases ha : change.aggregation with
  | some _ =>
      have hsome : change.aggregation ≠ none := by simp [ha]
      exact ⟨root, _, hroot, rfl, hs.withColumns hset, .updateColumn hc hsome hshows⟩
  | none =>
      -- another alias gives the same projection
      have hsame : d.projection root (change.apply c) = d.projection root c := by
        simp only [projection, ColumnChange.apply, ha]
      refine ⟨root, o, hroot, rfl, hs.withColumns ?_, .leaves ?_⟩
      · have hpiece : o.projections[i]? = some (d.projection root c) := by
          rw [← hs.projections, List.getElem?_map, hc, Option.map_some]
        obtain ⟨_, hpiece⟩ := List.getElem?_eq_some_iff.1 hpiece
        rw [hset, hsame, ← hpiece, List.set_getElem_self]
      · rw [Edit.leavesQuery, ha]
        rfl

theorem Spells.follows_removeColumn (hids : d.ids.Nodup) {c : Column} {i : Nat}
    (hc : d.columns[i]? = some c) :
    d.Follows { d with columns := d.columns.filter fun k => k.id != c.id } root o
      (.removeColumn c.id) := by
  refine ⟨root, _, hroot, rfl, hs.withColumns ?_, .removeColumn hc⟩
  rw [filter_eq_eraseIdx (columnIds_nodup hids) hc, ← List.eraseIdx_map, hs.projections]

theorem Spells.follows_reorderColumns (src dst : Nat) :
    d.Follows { d with columns := moveItem d.columns src dst } root o
      (.reorderColumns src dst) := by
  refine ⟨root, _, hroot, rfl, hs.withColumns ?_, .reorderColumns⟩
  rw [← moveItem_map, hs.projections]

end Columns

/-! ### Edits of filters -/

section Filters

variable (hs : d.Spells root o) (hroot : d.tables.head? = some root)
include hs

theorem Spells.withFilters {filters : List Filter} {steps : List (Connective × Leaf)}
    (h : filters.map (d.step root) = steps) :
    ({ d with filters } : Diagram α).Spells root { o with steps } :=
  ⟨hs.source, hs.clauses, hs.projections, h⟩

include hroot

theorem Spells.follows_addFilter {use : FieldUse} {id : Nat} {filters : List Filter}
    (hfilters : filters = d.filters ++
      [{ use with id, comparison := .eq, value := none, connective := .and }])
    (hvalid : ({ d with filters } : Diagram α).Valid) :
    d.Follows { d with filters } root o (.addFilter use.table use.field) := by
  subst hfilters
  have hfield := (hvalid.filters_describe _
    (List.mem_append_right _ List.mem_cons_self)).hasField
  refine ⟨root, _, hroot, rfl, hs.withFilters ?_,
    .addFilter (hvalid.refers_fieldRef (List.mem_of_mem_head? hroot) hfield)⟩
  rw [List.map_append, hs.steps]
  rfl

theorem Spells.follows_updateFilter (hids : d.ids.Nodup) {change : FilterChange} {f : Filter}
    {i : Nat} (hf : d.filters[i]? = some f)
    (hvalid : ({ d with
      filters := d.filters.map fun k => if k.id = f.id then change.apply k else k } :
        Diagram α).Valid) :
    d.Follows { d with
      filters := d.filters.map fun k => if k.id = f.id then change.apply k else k } root o
      (.updateFilter f.id change) := by
  rw [update_eq_set (filterIds_nodup hids) hf change.apply] at hvalid ⊢
  have hasks := hvalid.asks_comparison (List.mem_of_mem_head? hroot)
    (List.mem_of_getElem? (List.getElem?_set_self (List.getElem?_eq_some_iff.1 hf).1))
  refine ⟨root, _, hroot, rfl, hs.withFilters ?_, .updateFilter hf hasks⟩
  rw [List.map_set, hs.steps]
  rfl

theorem Spells.follows_removeFilter (hids : d.ids.Nodup) {f : Filter} {i : Nat}
    (hf : d.filters[i]? = some f) :
    d.Follows { d with filters := d.filters.filter fun k => k.id != f.id } root o
      (.removeFilter f.id) := by
  refine ⟨root, _, hroot, rfl, hs.withFilters ?_, .removeFilter hf⟩
  rw [filter_eq_eraseIdx (filterIds_nodup hids) hf, ← List.eraseIdx_map, hs.steps]

end Filters

/-! ### Edits of tables -/

section Tables

variable (hs : d.Spells root o) (hroot : d.tables.head? = some root)
include hs

/-- Edits that say nothing about the query, and by which no id in use names another table. -/
theorem Spells.follows_leaves {d' : Diagram α} {root' : PlacedTable α} {e : Edit α}
    (he : e.leavesQuery = true) (hvalid : d.Valid) (hroot' : d'.tables.head? = some root')
    (hid : root'.id = root.id) (hcatalog : root'.catalogId = root.catalogId)
    (hjoins : d'.joins = d.joins) (hcolumns : d'.columns = d.columns)
    (hfilters : d'.filters = d.filters)
    (halike : ∀ id t, d.table? id = some t → d.NamesAlike d' id) : d.Follows d' root o e := by
  refine ⟨root', o, hroot', hid, hs.congr hid hcatalog hjoins hcolumns hfilters ?_ ?_ ?_,
    .leaves he⟩
  · intro j hj
    obtain ⟨-, ⟨source, hsource, -⟩, ⟨target, htarget, -⟩⟩ := hvalid.connects j hj
    exact ⟨halike _ _ hsource, halike _ _ htarget⟩
  · intro c hc
    obtain ⟨t, -, ht, -⟩ := hvalid.columns_describe c hc
    exact halike _ _ ht
  · intro f hf
    obtain ⟨t, -, ht, -⟩ := hvalid.filters_describe f hf
    exact halike _ _ ht

include hroot

theorem Spells.follows_addTable (hvalid : d.Valid) (new : PlacedTable α) (t : NewTable) :
    d.Follows { d with database := some t.database, tables := d.tables ++ [new] } root o
      (.addTable t) := by
  refine hs.follows_leaves rfl hvalid ?_ rfl rfl rfl rfl rfl fun id owner howner => ?_
  · rw [List.head?_append, hroot]
    rfl
  · exact namesAlike_of_eq ((table?_append howner _ _).trans howner.symm)

theorem Spells.follows_moved (hvalid : d.Valid) {id : Nat} {position : Position α} {e : Edit α}
    (he : e.leavesQuery = true) : d.Follows (d.moved id position) root o e := by
  have hhead : (d.moved id position).tables.head? =
      some (if root.id = id then { root with position } else root) := by
    rw [Diagram.moved, List.head?_map, hroot, Option.map_some]
  refine hs.follows_leaves he hvalid hhead ?_ ?_ rfl rfl rfl fun other owner howner => ?_
  · split <;> rfl
  · split <;> rfl
  · rw [NamesAlike, table?_moved, howner]
    simp only [Option.map_some]
    split <;> rfl

/-- A table that goes takes with it what refers to it, and no other part looks it up. -/
theorem Spells.follows_removeTable {id : Nat} (h : id ≠ root.id) :
    d.Follows (d.withoutTable id) root o (.removeTable id) := by
  refine ⟨root, _, ?_, rfl, (hs.filter (fun j => !j.touches id) (fun c => c.table != id)
    fun f => f.table != id).congr rfl rfl rfl rfl rfl ?_ ?_ ?_, .removeTable h⟩
  · obtain ⟨rest, hrest⟩ := List.head?_eq_some_iff.1 hroot
    have hstays : (root.id != id) = true := by simpa using h.symm
    rw [Diagram.withoutTable, hrest, List.filter_cons, if_pos hstays, List.head?_cons]
  · intro j hj
    have hends : j.source ≠ id ∧ j.target ≠ id := by
      simpa [Link.touches] using (List.mem_filter.1 hj).2
    exact ⟨namesAlike_of_eq (table?_filter hends.1), namesAlike_of_eq (table?_filter hends.2)⟩
  · intro c hc
    have hne : c.table ≠ id := by simpa using (List.mem_filter.1 hc).2
    exact namesAlike_of_eq (table?_filter hne)
  · intro f hf
    have hne : f.table ≠ id := by simpa using (List.mem_filter.1 hf).2
    exact namesAlike_of_eq (table?_filter hne)

end Tables

/-! ### All edits -/

/-- **What every accepted edit does to the pieces of a query**, one case for each edit.  Two edits
may leave no first table behind that was first before: taking it away, and dropping everything. -/
theorem Spells.follows [Coordinate α] {g : Graph α} {e : Edit α} {added : Option Nat}
    {d' : Diagram α} (hs : g.Spells root o) (hroot : g.tables.head? = some root)
    (hvalid : g.Valid) (hvalid' : d'.Valid) (hmakes : g.Makes e added d')
    (hreset : e ≠ .reset) (hfirst : e ≠ .removeTable root.id) : g.Follows d' root o e := by
  have hids := hvalid.ids_nodup
  cases hmakes with
  | setDatabase _ =>
      exact hs.follows_leaves rfl hvalid hroot rfl rfl rfl rfl rfl fun _ _ _ => namesAlike_of_eq rfl
  | addTable _ _ => exact hs.follows_addTable hroot hvalid _ _
  | removeTable _ =>
      refine hs.follows_removeTable hroot ?_
      rintro rfl
      exact hfirst rfl
  | moveTable _ => exact hs.follows_moved hroot hvalid rfl
  | commitPosition _ => exact hs.follows_moved hroot hvalid rfl
  | commitNothing _ => exact ⟨root, o, hroot, rfl, hs, .leaves rfl⟩
  | addJoin _ => exact hs.follows_addJoin hroot hvalid'
  | updateJoin hj _ =>
      obtain ⟨i, hi, rfl⟩ := exists_place hj
      exact hs.follows_updateJoin hroot hids hi hvalid'
  | removeJoin hj =>
      obtain ⟨i, hi, rfl⟩ := exists_place hj
      exact hs.follows_removeJoin hroot hids hi
  | addColumn huse _ =>
      obtain ⟨rfl, rfl, -⟩ := use_eq_ok.1 huse
      exact hs.follows_addColumn hroot rfl hvalid'
  | updateColumn hc =>
      obtain ⟨i, hi, rfl⟩ := exists_place hc
      exact hs.follows_updateColumn hroot hids hi hvalid'
  | removeColumn hc =>
      obtain ⟨i, hi, rfl⟩ := exists_place hc
      exact hs.follows_removeColumn hroot hids hi
  | reorderColumns _ _ => exact hs.follows_reorderColumns hroot _ _
  | addFilter huse =>
      obtain ⟨rfl, rfl, -⟩ := use_eq_ok.1 huse
      exact hs.follows_addFilter hroot rfl hvalid'
  | updateFilter hf _ =>
      obtain ⟨i, hi, rfl⟩ := exists_place hf
      exact hs.follows_updateFilter hroot hids hi hvalid'
  | removeFilter hf =>
      obtain ⟨i, hi, rfl⟩ := exists_place hf
      exact hs.follows_removeFilter hroot hids hi
  | reset => exact (hreset rfl).elim
  | shows he _ => exact ⟨root, o, hroot, rfl, hs, .leaves (Edit.leavesQuery_of_shows he hreset)⟩

end Diagram

namespace Graph

variable [Coordinate α]

/-- **The query follows every edit, and nothing else changes in it.**  Before and after an edit that
is accepted and leaves the first table in its place, the pieces of the query belong to the parts of
the graph, in order, and the pieces after the edit are those before it, with one added, replaced,
taken away or moved, as the edit says; or with those taken away that refer to a table that goes. -/
theorem query_tracks {g : Graph α} (h : g.Reachable) {q : Query} (hq : g.query? = some q)
    {e : Edit α} {added : Option Nat} (hanswer : g.answer e = .ok added)
    (hleft : (g.apply e).tables ≠ [])
    (hfirst : ∀ root, g.tables.head? = some root → e ≠ .removeTable root.id) :
    ∃ root root' o o', g.tables.head? = some root ∧ (g.apply e).tables.head? = some root' ∧
      root'.id = root.id ∧ q = o.query ∧ g.Outlines root o ∧
      (g.apply e).query? = some o'.query ∧ (g.apply e).Outlines root' o' ∧
      g.Tracks (g.apply e).toDiagram root o e o' := by
  have hvalid := h.valid
  have hvalid' : (g.apply e).toDiagram.Valid := hvalid.apply e
  obtain ⟨root, hroot, -⟩ := Option.map_eq_some_iff.1 hq
  have hmem : root ∈ g.tables := List.mem_of_mem_head? hroot
  obtain ⟨o, hs⟩ := hvalid.exists_spells hmem
  have hreset : e ≠ .reset := by
    rintro rfl
    exact hleft rfl
  obtain ⟨root', o', hroot', hid, hs', htracks⟩ :=
    hs.follows hroot hvalid hvalid' (makes_of_answer hanswer) hreset (hfirst root hroot)
  have hmem' : root' ∈ (g.apply e).tables := List.mem_of_mem_head? hroot'
  refine ⟨root, root', o, o', hroot, hroot', hid, ?_, hs.outlines hvalid hmem,
    hs'.query?_eq hroot', hs'.outlines hvalid' hmem', htracks⟩
  exact Option.some.inj (hq.symm.trans (hs.query?_eq hroot))

/-- Another comparison of a filter leaves the clauses and the projections. -/
theorem query_tracks_sample : ∃ q q' : Query,
    Sample.graph.query? = some q ∧
    (Sample.graph.apply (.updateFilter 6 ⟨some .lt, none, none⟩)).query? = some q' ∧
    q'.source = q.source ∧ q'.joins = q.joins ∧ q'.projections = q.projections := by
  have hsome : Sample.graph.query?.isSome = true := by decide +kernel
  obtain ⟨q, hq⟩ := Option.isSome_iff_exists.1 hsome
  have hanswer : Sample.graph.answer (.updateFilter 6 ⟨some .lt, none, none⟩) = .ok none := by
    decide +kernel
  have hleft : (Sample.graph.apply (.updateFilter 6 ⟨some .lt, none, none⟩)).tables ≠ [] := by
    decide +kernel
  obtain ⟨root, root', o, o', -, -, -, rfl, -, hq', -, htracks⟩ :=
    query_tracks Sample.reachable_graph hq hanswer hleft (by simp)
  -- only one case is about this edit
  generalize hedit : Edit.updateFilter 6 ⟨some .lt, none, none⟩ = e at htracks hq' ⊢
  cases htracks with
  | updateFilter _ _ => exact ⟨_, _, hq, hq', rfl, rfl, rfl⟩
  | leaves he =>
      subst hedit
      cases he
  | _ => cases hedit

end Graph

end QueryBuilder

/-
**Editing a graph and its twin under other ids.**

Take a graph and another one that is the same under other ids, and do the same edits to both; where an
edit names a part, it names the one that corresponds in the other graph, and what both add at the same
time corresponds.  Then both refuse the same edits for the same reasons, new tables get the same
aliases, the queries are the same at all times, and the same runs are stale.

What corresponds is known by a renaming of the ids, which grows with the parts that are added.  That
one graph is the other one under this renaming is all that has to be kept: the ids that are given out
next, the settings for the places of tables, and what is shown of runs have no part in it.

Main definitions:

* `QueryBuilder.Edit.renamed` — an edit under other ids;
* `QueryBuilder.Edit.Names`, `QueryBuilder.Graph.AllNamed` — edits that name parts that are there;
* `QueryBuilder.Twins`, `QueryBuilder.Twins.step`, `QueryBuilder.Twins.run` — two graphs that are
  edited alike;
* `QueryBuilder.Twins.Alike` — one is the other under other ids;
* `QueryBuilder.Twins.Indistinct` — nothing that is asked of both tells them apart.

Main results:

* `QueryBuilder.Twins.Alike.outcome` — what an edit does to both graphs;
* `QueryBuilder.Twins.Alike.step`, `QueryBuilder.Twins.Alike.run` — one step, and a whole run;
* `QueryBuilder.Twins.Alike.indistinct` — **twins cannot be told apart**;
* `QueryBuilder.Twins.matched_run` — runs that correspond do so for good.
-/

import QueryBuilder.Proofs.Graph.Accepted
import QueryBuilder.Proofs.Graph.Generations
import QueryBuilder.Proofs.Graph.Renaming

set_option autoImplicit false

namespace QueryBuilder

open Diagram

variable {α : Type}

/-! ### Edits under other ids -/

/-- The edit of the parts and runs that are known by other ids. -/
def Edit.renamed (name : Nat → Nat) (ticket : Ticket → Ticket) : Edit α → Edit α
  | .removeTable id => .removeTable (name id)
  | .moveTable id position => .moveTable (name id) position
  | .commitPosition id position => .commitPosition (name id) position
  | .addJoin link => .addJoin (link.renamed name)
  | .updateJoin id change => .updateJoin (name id) (change.renamed name)
  | .removeJoin id => .removeJoin (name id)
  | .addColumn table field => .addColumn (name table) field
  | .updateColumn id change => .updateColumn (name id) change
  | .removeColumn id => .removeColumn (name id)
  | .addFilter table field => .addFilter (name table) field
  | .updateFilter id change => .updateFilter (name id) change
  | .removeFilter id => .removeFilter (name id)
  | .finish run outcome => .finish (ticket run) outcome
  | .abandon run => .abandon (ticket run)
  | e => e

/-- Under other ids, an edit makes runs stale if it did so before. -/
theorem Edit.endsRuns_renamed (name : Nat → Nat) (ticket : Ticket → Ticket) (e : Edit α) :
    (e.renamed name ticket).endsRuns = e.endsRuns := by
  cases e <;> rfl

/-- The parts that an edit names are there. -/
def Edit.Names (d : Diagram α) : Edit α → Prop
  | .removeTable id | .moveTable id _ | .commitPosition id _ => (d.table? id).isSome = true
  | .addJoin link => (d.table? link.source).isSome = true ∧ (d.table? link.target).isSome = true
  | .updateJoin id change =>
    (d.join? id).isSome = true ∧ (∀ s ∈ change.source, (d.table? s).isSome = true) ∧
      ∀ t ∈ change.target, (d.table? t).isSome = true
  | .removeJoin id => (d.join? id).isSome = true
  | .addColumn table _ | .addFilter table _ => (d.table? table).isSome = true
  | .updateColumn id _ | .removeColumn id => (d.column? id).isSome = true
  | .updateFilter id _ | .removeFilter id => (d.filter? id).isSome = true
  | _ => True

instance (d : Diagram α) : (e : Edit α) → Decidable (e.Names d)
  | .removeTable id | .moveTable id _ | .commitPosition id _ =>
    inferInstanceAs (Decidable ((d.table? id).isSome = true))
  | .addJoin link => inferInstanceAs (Decidable (_ ∧ (d.table? link.target).isSome = true))
  | .updateJoin id change =>
    inferInstanceAs (Decidable ((d.join? id).isSome = true ∧
      (∀ s ∈ change.source, (d.table? s).isSome = true) ∧
        ∀ t ∈ change.target, (d.table? t).isSome = true))
  | .removeJoin id => inferInstanceAs (Decidable ((d.join? id).isSome = true))
  | .addColumn table _ | .addFilter table _ =>
    inferInstanceAs (Decidable ((d.table? table).isSome = true))
  | .updateColumn id _ | .removeColumn id =>
    inferInstanceAs (Decidable ((d.column? id).isSome = true))
  | .updateFilter id _ | .removeFilter id =>
    inferInstanceAs (Decidable ((d.filter? id).isSome = true))
  | .setDatabase _ | .addTable _ | .reorderColumns _ _ | .reset | .setExecuting _ | .setError _
  | .setResult _ | .begin | .finish _ _ | .abandon _ | .cancel => inferInstanceAs (Decidable True)

/-- Every edit of a list names parts that are there when it is done. -/
def Graph.AllNamed [Coordinate α] (g : Graph α) : List (Edit α) → Prop
  | [] => True
  | e :: edits => e.Names g.toDiagram ∧ (g.apply e).AllNamed edits

instance Graph.instDecidableAllNamed [Coordinate α] :
    (g : Graph α) → (edits : List (Edit α)) → Decidable (g.AllNamed edits)
  | _, [] => inferInstanceAs (Decidable True)
  | g, e :: edits =>
    have := instDecidableAllNamed (g.apply e) edits
    inferInstanceAs (Decidable (e.Names g.toDiagram ∧ (g.apply e).AllNamed edits))

/-- A graph and its twin, say the one that was loaded from its text. -/
structure Twins (α : Type) where
  original : Graph α
  restored : Graph α
  /-- The ids that the parts of the first graph have in the second one. -/
  name : Nat → Nat

namespace Twins

variable [Coordinate α]

/-- The same edit is done to both graphs.  What both add corresponds from now on. -/
def step (ticket : Ticket → Ticket) (w : Twins α) (e : Edit α) : Twins α :=
  { original := w.original.apply e
    restored := w.restored.apply (e.renamed w.name ticket)
    name :=
      match w.original.answer e, w.restored.answer (e.renamed w.name ticket) with
      | .ok (some id), .ok (some id') => Function.update w.name id id'
      | _, _ => w.name }

/-- The same edits are done to both graphs, the first of them first. -/
def run (ticket : Ticket → Ticket) (w : Twins α) (edits : List (Edit α)) : Twins α :=
  edits.foldl (step ticket) w

omit [Coordinate α] in
/-- One graph is the other under other ids, with its tables at other places. -/
structure Alike (w : Twins α) : Prop where
  original_valid : w.original.toDiagram.Valid
  restored_valid : w.restored.toDiagram.Valid
  same : ∃ place, w.restored.toDiagram = w.original.toDiagram.renamed w.name place

omit [Coordinate α] in
/-- The ids with those that both graphs give out next. -/
def extended (w : Twins α) : Nat → Nat :=
  Function.update w.name w.original.nextId w.restored.nextId

omit [Coordinate α] in
theorem extended_of_mem {w : Twins α} {id : Nat} (h : id ∈ w.original.ids) :
    w.extended id = w.name id :=
  Function.update_of_ne (ne_of_mem_of_not_mem h Graph.nextId_not_mem) _ _

omit [Coordinate α] in
theorem extended_nextId (w : Twins α) : w.extended w.original.nextId = w.restored.nextId :=
  Function.update_self ..

/-- What an edit does to both graphs: it is refused for one reason, or it leaves the ids as they are,
or it adds a part. -/
inductive Outcome (w : Twins α) (e e' : Edit α) : Prop where
  | refused (err : GraphError) (h : w.original.answer e = .error err)
      (h' : w.restored.answer e' = .error err)
  | kept {d d' : Diagram α} (h : w.original.Yields e none d) (h' : w.restored.Yields e' none d')
      (place : PlacedTable α → Position α) (same : d' = d.renamed w.name place)
  | added {d d' : Diagram α} (h : w.original.Yields e (some w.original.nextId) d)
      (h' : w.restored.Yields e' (some w.restored.nextId) d')
      (place : PlacedTable α → Position α) (same : d' = d.renamed w.extended place)

namespace Alike

variable {w : Twins α}

omit [Coordinate α] in
/-- Different parts have different ids in the second graph too. -/
theorem apart (h : w.Alike) : w.original.toDiagram.Apart w.name := by
  obtain ⟨place, hsame⟩ := h.same
  have hnodup := h.restored_valid.ids_nodup
  rw [hsame, ids_renamed] at hnodup
  intro i hi j hj heq
  exact List.inj_on_of_nodup_map hnodup hi hj heq

omit [Coordinate α] in
/-- The parts that are there keep their ids when another one is added. -/
theorem renamed_extended (h : w.Alike) {place place' : PlacedTable α → Position α}
    (hplace : ∀ t ∈ w.original.tables, place' t = place t) :
    w.original.toDiagram.renamed w.extended place' =
      w.original.toDiagram.renamed w.name place :=
  h.original_valid.toConsistent.renamed_congr (fun _ hi => extended_of_mem hi) hplace

/-! ### Parts of both graphs -/

omit [Coordinate α] in
/-- A table is found in both graphs. -/
theorem table?_eq (h : w.Alike) {id : Nat} (hid : (w.original.table? id).isSome = true) :
    ∃ t t', w.original.table? id = some t ∧ id ∈ w.original.ids ∧
      w.restored.table? (w.name id) = some t' := by
  obtain ⟨place, hsame⟩ := h.same
  obtain ⟨t, ht⟩ := Option.isSome_iff_exists.1 hid
  have hmem := mem_ids_of_table? ht
  refine ⟨t, t.renamed w.name place, ht, hmem, ?_⟩
  rw [hsame, h.apart.table?_renamed hmem, ht]
  rfl

omit [Coordinate α] in
/-- A join is found in both graphs. -/
theorem join?_eq (h : w.Alike) {id : Nat} (hid : (w.original.join? id).isSome = true) :
    ∃ j, w.original.join? id = some j ∧ id ∈ w.original.ids ∧
      w.restored.join? (w.name id) = some (j.renamed w.name) := by
  obtain ⟨place, hsame⟩ := h.same
  obtain ⟨j, hj⟩ := Option.isSome_iff_exists.1 hid
  have hmem := mem_ids_of_join? hj
  refine ⟨j, hj, hmem, ?_⟩
  rw [hsame, h.apart.join?_renamed hmem, hj]
  rfl

omit [Coordinate α] in
/-- A column is found in both graphs. -/
theorem column?_eq (h : w.Alike) {id : Nat} (hid : (w.original.column? id).isSome = true) :
    ∃ c, w.original.column? id = some c ∧ id ∈ w.original.ids ∧
      w.restored.column? (w.name id) = some (c.renamed w.name) := by
  obtain ⟨place, hsame⟩ := h.same
  obtain ⟨c, hc⟩ := Option.isSome_iff_exists.1 hid
  have hmem := mem_ids_of_column? hc
  refine ⟨c, hc, hmem, ?_⟩
  rw [hsame, h.apart.column?_renamed hmem, hc]
  rfl

omit [Coordinate α] in
/-- A filter is found in both graphs. -/
theorem filter?_eq (h : w.Alike) {id : Nat} (hid : (w.original.filter? id).isSome = true) :
    ∃ f, w.original.filter? id = some f ∧ id ∈ w.original.ids ∧
      w.restored.filter? (w.name id) = some (f.renamed w.name) := by
  obtain ⟨place, hsame⟩ := h.same
  obtain ⟨f, hf⟩ := Option.isSome_iff_exists.1 hid
  have hmem := mem_ids_of_filter? hf
  refine ⟨f, hf, hmem, ?_⟩
  rw [hsame, h.apart.filter?_renamed hmem, hf]
  rfl

omit [Coordinate α] in
/-- A link between tables that are there is accepted by both graphs, or refused alike. -/
theorem checkLink_eq (h : w.Alike) {l : Link} (hsource : (w.original.table? l.source).isSome = true)
    (htarget : (w.original.table? l.target).isSome = true) :
    w.restored.checkLink (l.renamed w.name) = w.original.checkLink l := by
  obtain ⟨place, hsame⟩ := h.same
  obtain ⟨s, hs⟩ := Option.isSome_iff_exists.1 hsource
  obtain ⟨t, ht⟩ := Option.isSome_iff_exists.1 htarget
  rw [hsame]
  exact h.apart.checkLink_renamed hs ht

omit [Coordinate α] in
/-- A field is found in both graphs, or refused alike. -/
theorem use_eq (h : w.Alike) {table : Nat} (htable : (w.original.table? table).isSome = true)
    (field : Int) :
    w.restored.use (w.name table) field =
      (w.original.use table field).map (FieldUse.renamed w.name) := by
  obtain ⟨place, hsame⟩ := h.same
  obtain ⟨t, ht⟩ := Option.isSome_iff_exists.1 htable
  rw [hsame]
  exact h.apart.use_renamed ht field

/-! ### Edits of tables -/

theorem outcome_setDatabase (h : w.Alike) (database : Option Int) :
    w.Outcome (.setDatabase database) (.setDatabase database) := by
  obtain ⟨place, hsame⟩ := h.same
  have hlocked : (w.restored.tables ≠ [] ∧ database ≠ w.restored.database) ↔
      (w.original.tables ≠ [] ∧ database ≠ w.original.database) := by
    rw [hsame]
    simp [Diagram.renamed]
  by_cases hlock : w.original.tables ≠ [] ∧ database ≠ w.original.database
  · exact .refused .databaseLocked (Graph.answer_setDatabase_of_locked hlock)
      (Graph.answer_setDatabase_of_locked (hlocked.2 hlock))
  · refine .kept (Graph.yields_setDatabase hlock)
      (Graph.yields_setDatabase (hlocked.not.2 hlock)) place ?_
    rw [hsame]
    rfl

/-- A new table gets the same alias, because the aliases are the same so far. -/
theorem outcome_addTable (h : w.Alike) (t : NewTable) : w.Outcome (.addTable t) (.addTable t) := by
  obtain ⟨place, hsame⟩ := h.same
  have hcatalog : w.restored.checkCatalogId t.catalogId = w.original.checkCatalogId t.catalogId := by
    rw [hsame]
    exact checkCatalogId_renamed t.catalogId
  have hdatabase : w.restored.checkDatabase t.database = w.original.checkDatabase t.database := by
    rw [hsame]
    exact checkDatabase_renamed t.database
  have halias : w.restored.tables.map (fun t => t.aliasName) =
      w.original.tables.map fun t => t.aliasName := by
    rw [hsame]
    exact map_renamed _ fun _ => rfl
  cases hc : w.original.checkCatalogId t.catalogId with
  | error err =>
      exact .refused err (Graph.answer_addTable_of_catalogId hc)
        (Graph.answer_addTable_of_catalogId (hcatalog.trans hc))
  | ok _ =>
      cases hd : w.original.checkDatabase t.database with
      | error err =>
          exact .refused err (Graph.answer_addTable_of_database hc hd)
            (Graph.answer_addTable_of_database (hcatalog.trans hc) (hdatabase.trans hd))
      | ok _ =>
          -- the new table is where the second graph puts it, and the others are where they were
          obtain ⟨place', hplace'⟩ : ∃ place', place' = setPlace place w.original.nextId
            (w.restored.tableToAdd t).position := ⟨_, rfl⟩
          have hold : ∀ u ∈ w.original.tables, place' u = place u := by
            intro u hu
            rw [hplace']
            exact if_neg (ne_of_mem_of_not_mem (table_id_mem hu) Graph.nextId_not_mem)
          have hnew : (w.original.tableToAdd t).renamed w.extended place' =
              w.restored.tableToAdd t := by
            simp only [PlacedTable.renamed, Graph.tableToAdd, hplace', setPlace, extended_nextId,
              halias, if_true]
          refine .added (Graph.yields_addTable hc hd)
            (Graph.yields_addTable (hcatalog.trans hc) (hdatabase.trans hd)) place' ?_
          rw [renamed_withTable, h.renamed_extended hold, hnew, ← hsame]

theorem outcome_removeTable (h : w.Alike) {id : Nat} (hid : (w.original.table? id).isSome = true) :
    w.Outcome (.removeTable id) (.removeTable (w.name id)) := by
  obtain ⟨place, hsame⟩ := h.same
  obtain ⟨t, t', ht, hmem, ht'⟩ := h.table?_eq hid
  refine .kept (Graph.yields_removeTable ht) (Graph.yields_removeTable ht') place ?_
  rw [hsame]
  exact h.apart.withoutTable_renamed h.original_valid.toConsistent hmem

omit [Coordinate α] in
/-- A table is moved in both graphs. -/
theorem moved_eq (h : w.Alike) {id : Nat} (hmem : id ∈ w.original.ids) (position : Position α) :
    ∃ place, w.restored.toDiagram.moved (w.name id) position =
      (w.original.toDiagram.moved id position).renamed w.name place := by
  obtain ⟨place, hsame⟩ := h.same
  refine ⟨setPlace place id position, ?_⟩
  rw [hsame]
  exact h.apart.moved_renamed hmem position

theorem outcome_moveTable (h : w.Alike) {id : Nat} (hid : (w.original.table? id).isSome = true)
    (position : Position α) :
    w.Outcome (.moveTable id position) (.moveTable (w.name id) position) := by
  obtain ⟨t, t', ht, hmem, ht'⟩ := h.table?_eq hid
  obtain ⟨place, hmoved⟩ := h.moved_eq hmem position
  exact .kept (Graph.yields_moveTable ht position) (Graph.yields_moveTable ht' position) place hmoved

theorem outcome_commitPosition (h : w.Alike) {id : Nat}
    (hid : (w.original.table? id).isSome = true) (position : Position α) :
    w.Outcome (.commitPosition id position) (.commitPosition (w.name id) position) := by
  obtain ⟨t, t', ht, hmem, ht'⟩ := h.table?_eq hid
  obtain ⟨place, hmoved⟩ := h.moved_eq hmem position
  exact .kept (Graph.yields_commitPosition ht position) (Graph.yields_commitPosition ht' position)
    place hmoved

/-! ### Edits of joins -/

theorem outcome_addJoin (h : w.Alike) {l : Link}
    (hsource : (w.original.table? l.source).isSome = true)
    (htarget : (w.original.table? l.target).isSome = true) :
    w.Outcome (.addJoin l) (.addJoin (l.renamed w.name)) := by
  obtain ⟨place, hsame⟩ := h.same
  have hlink := h.checkLink_eq hsource htarget
  cases hcheck : w.original.checkLink l with
  | error err =>
      exact .refused err (Graph.answer_addJoin_of_link hcheck)
        (Graph.answer_addJoin_of_link (hlink.trans hcheck))
  | ok _ =>
      obtain ⟨_, _, _, hsourceMem, _⟩ := h.table?_eq hsource
      obtain ⟨_, _, _, htargetMem, _⟩ := h.table?_eq htarget
      have hnew : ({ l with id := w.original.nextId } : Join).renamed w.extended =
          { l.renamed w.name with id := w.restored.nextId } := by
        simp only [Join.renamed, Link.renamed, extended_nextId, extended_of_mem hsourceMem,
          extended_of_mem htargetMem]
      refine .added (Graph.yields_addJoin hcheck) (Graph.yields_addJoin (hlink.trans hcheck)) place ?_
      rw [renamed_withJoin, h.renamed_extended fun _ _ => rfl, hnew, ← hsame]

theorem outcome_updateJoin (h : w.Alike) {id : Nat} {change : LinkChange}
    (hid : (w.original.join? id).isSome = true)
    (hsource : ∀ s ∈ change.source, (w.original.table? s).isSome = true)
    (htarget : ∀ t ∈ change.target, (w.original.table? t).isSome = true) :
    w.Outcome (.updateJoin id change) (.updateJoin (w.name id) (change.renamed w.name)) := by
  obtain ⟨place, hsame⟩ := h.same
  obtain ⟨j, hj, hmem, hj'⟩ := h.join?_eq hid
  obtain ⟨-, ⟨s, hs, -⟩, t, ht, -⟩ :=
    h.original_valid.connects j (List.mem_of_find?_eq_some hj)
  -- the ends of the changed link are tables that are there, be they new or old
  have hsource' : (w.original.table? (change.apply j.toLink).source).isSome = true := by
    cases hchange : change.source with
    | none =>
        rw [LinkChange.apply, hchange]
        exact Option.isSome_iff_exists.2 ⟨s, hs⟩
    | some source =>
        rw [LinkChange.apply, hchange]
        exact hsource source hchange
  have htarget' : (w.original.table? (change.apply j.toLink).target).isSome = true := by
    cases hchange : change.target with
    | none =>
        rw [LinkChange.apply, hchange]
        exact Option.isSome_iff_exists.2 ⟨t, ht⟩
    | some target =>
        rw [LinkChange.apply, hchange]
        exact htarget target hchange
  have happly : (change.renamed w.name).apply (j.renamed w.name).toLink =
      (change.apply j.toLink).renamed w.name := change.apply_renamed w.name j.toLink
  have hlink : w.restored.checkLink ((change.renamed w.name).apply (j.renamed w.name).toLink) =
      w.original.checkLink (change.apply j.toLink) := by
    rw [happly]
    exact h.checkLink_eq hsource' htarget'
  cases hcheck : w.original.checkLink (change.apply j.toLink) with
  | error err =>
      exact .refused err (Graph.answer_updateJoin_of_link hj hcheck)
        (Graph.answer_updateJoin_of_link hj' (hlink.trans hcheck))
  | ok _ =>
      have hjoins : ((w.original.joins.map (Join.renamed w.name)).map fun k =>
          if k.id = w.name id then
            { (change.apply j.toLink).renamed w.name with id := w.name id }
          else k) =
          (w.original.joins.map fun k =>
            if k.id = id then { change.apply j.toLink with id } else k).map (Join.renamed w.name) :=
        h.apart.update_renamed hmem (fun _ hk => join_id_mem hk) (fun _ => rfl) fun _ _ _ => rfl
      refine .kept (Graph.yields_updateJoin hj hcheck)
        (Graph.yields_updateJoin hj' (hlink.trans hcheck)) place ?_
      rw [hsame, happly]
      simp only [Diagram.renamed, hjoins]

theorem outcome_removeJoin (h : w.Alike) {id : Nat} (hid : (w.original.join? id).isSome = true) :
    w.Outcome (.removeJoin id) (.removeJoin (w.name id)) := by
  obtain ⟨place, hsame⟩ := h.same
  obtain ⟨j, hj, hmem, hj'⟩ := h.join?_eq hid
  refine .kept (Graph.yields_removeJoin hj) (Graph.yields_removeJoin hj') place ?_
  rw [hsame]
  simp only [Diagram.renamed]
  rw [h.apart.filter_renamed hmem (fun _ hk => join_id_mem hk) fun _ => rfl]

/-! ### Edits of columns -/

theorem outcome_addColumn (h : w.Alike) {table : Nat}
    (htable : (w.original.table? table).isSome = true) (field : Int) :
    w.Outcome (.addColumn table field) (.addColumn (w.name table) field) := by
  obtain ⟨place, hsame⟩ := h.same
  have huse := h.use_eq htable field
  cases hfound : w.original.use table field with
  | error err =>
      rw [hfound] at huse
      exact .refused err (Graph.answer_addColumn_of_use hfound) (Graph.answer_addColumn_of_use huse)
  | ok use =>
      rw [hfound] at huse
      obtain ⟨-, -, hdescribes⟩ := use_eq_ok.1 hfound
      have hmem : use.table ∈ w.original.ids := hdescribes.mem_ids
      have hunused : w.restored.checkUnused (use.renamed w.name) = w.original.checkUnused use := by
        rw [hsame]
        exact h.apart.checkUnused_renamed h.original_valid.toConsistent hmem
      cases hcheck : w.original.checkUnused use with
      | error err =>
          exact .refused err (Graph.answer_addColumn_of_used hfound hcheck)
            (Graph.answer_addColumn_of_used huse (hunused.trans hcheck))
      | ok _ =>
          have hnew : ({ use with
              id := w.original.nextId, aggregation := .plain, aliasName := none } :
                Column).renamed w.extended =
              { use.renamed w.name with
                id := w.restored.nextId, aggregation := .plain, aliasName := none } := by
            simp only [Column.renamed, FieldUse.renamed, extended_nextId, extended_of_mem hmem]
          refine .added (Graph.yields_addColumn hfound hcheck)
            (Graph.yields_addColumn huse (hunused.trans hcheck)) place ?_
          rw [renamed_withColumn, h.renamed_extended fun _ _ => rfl, hnew, ← hsame]

theorem outcome_updateColumn (h : w.Alike) {id : Nat}
    (hid : (w.original.column? id).isSome = true) (change : ColumnChange) :
    w.Outcome (.updateColumn id change) (.updateColumn (w.name id) change) := by
  obtain ⟨place, hsame⟩ := h.same
  obtain ⟨c, hc, hmem, hc'⟩ := h.column?_eq hid
  refine .kept (Graph.yields_updateColumn hc change) (Graph.yields_updateColumn hc' change) place ?_
  rw [hsame]
  simp only [Diagram.renamed]
  rw [h.apart.update_renamed hmem (fun _ hk => column_id_mem hk) (fun _ => rfl)
    fun k _ _ => change.apply_renamed w.name k]

theorem outcome_removeColumn (h : w.Alike) {id : Nat}
    (hid : (w.original.column? id).isSome = true) :
    w.Outcome (.removeColumn id) (.removeColumn (w.name id)) := by
  obtain ⟨place, hsame⟩ := h.same
  obtain ⟨c, hc, hmem, hc'⟩ := h.column?_eq hid
  refine .kept (Graph.yields_removeColumn hc) (Graph.yields_removeColumn hc') place ?_
  rw [hsame]
  simp only [Diagram.renamed]
  rw [h.apart.filter_renamed hmem (fun _ hk => column_id_mem hk) fun _ => rfl]

theorem outcome_reorderColumns (h : w.Alike) (src dst : Nat) :
    w.Outcome (.reorderColumns src dst) (.reorderColumns src dst) := by
  obtain ⟨place, hsame⟩ := h.same
  have hlength : w.restored.columns.length = w.original.columns.length := by
    rw [hsame, Diagram.renamed, List.length_map]
  by_cases hsrc : w.original.columns.length ≤ src
  · refine .refused _ (Graph.answer_reorderColumns_of_src hsrc) ?_
    rw [← hlength]
    exact Graph.answer_reorderColumns_of_src (hlength.trans_le hsrc)
  · have hsrc' : ¬w.restored.columns.length ≤ src := fun hle => hsrc (hlength.symm.trans_le hle)
    by_cases hdst : w.original.columns.length ≤ dst
    · refine .refused _ (Graph.answer_reorderColumns_of_dst hsrc hdst) ?_
      rw [← hlength]
      exact Graph.answer_reorderColumns_of_dst hsrc' (hlength.trans_le hdst)
    · have hdst' : ¬w.restored.columns.length ≤ dst := fun hle => hdst (hlength.symm.trans_le hle)
      refine .kept (Graph.yields_reorderColumns hsrc hdst)
        (Graph.yields_reorderColumns hsrc' hdst') place ?_
      rw [hsame]
      simp only [Diagram.renamed, moveItem_map]

/-! ### Edits of filters -/

theorem outcome_addFilter (h : w.Alike) {table : Nat}
    (htable : (w.original.table? table).isSome = true) (field : Int) :
    w.Outcome (.addFilter table field) (.addFilter (w.name table) field) := by
  obtain ⟨place, hsame⟩ := h.same
  have huse := h.use_eq htable field
  cases hfound : w.original.use table field with
  | error err =>
      rw [hfound] at huse
      exact .refused err (Graph.answer_addFilter_of_use hfound) (Graph.answer_addFilter_of_use huse)
  | ok use =>
      rw [hfound] at huse
      obtain ⟨-, -, hdescribes⟩ := use_eq_ok.1 hfound
      have hnew : ({ use with
          id := w.original.nextId, comparison := .eq, value := none, connective := .and } :
            Filter).renamed w.extended =
          { use.renamed w.name with
            id := w.restored.nextId, comparison := .eq, value := none, connective := .and } := by
        simp only [Filter.renamed, FieldUse.renamed, extended_nextId,
          extended_of_mem hdescribes.mem_ids]
      refine .added (Graph.yields_addFilter hfound) (Graph.yields_addFilter huse) place ?_
      rw [renamed_withFilter, h.renamed_extended fun _ _ => rfl, hnew, ← hsame]

theorem outcome_updateFilter (h : w.Alike) {id : Nat}
    (hid : (w.original.filter? id).isSome = true) (change : FilterChange) :
    w.Outcome (.updateFilter id change) (.updateFilter (w.name id) change) := by
  obtain ⟨place, hsame⟩ := h.same
  obtain ⟨f, hf, hmem, hf'⟩ := h.filter?_eq hid
  by_cases hcheck : ∀ comparison ∈ change.comparison,
      checkComparison comparison f.baseType = .ok ()
  · refine .kept (Graph.yields_updateFilter hf hcheck) (Graph.yields_updateFilter hf' hcheck) place ?_
    rw [hsame]
    simp only [Diagram.renamed]
    rw [h.apart.update_renamed hmem (fun _ hk => filter_id_mem hk) (fun _ => rfl)
      fun k _ _ => change.apply_renamed w.name k]
  · push Not at hcheck
    obtain ⟨comparison, hcomparison, hcheck⟩ := hcheck
    cases herr : checkComparison comparison f.baseType with
    | ok _ => exact absurd herr hcheck
    | error err =>
        exact .refused err (Graph.answer_updateFilter_of_comparison hf hcomparison herr)
          (Graph.answer_updateFilter_of_comparison hf' hcomparison herr)

theorem outcome_removeFilter (h : w.Alike) {id : Nat}
    (hid : (w.original.filter? id).isSome = true) :
    w.Outcome (.removeFilter id) (.removeFilter (w.name id)) := by
  obtain ⟨place, hsame⟩ := h.same
  obtain ⟨f, hf, hmem, hf'⟩ := h.filter?_eq hid
  refine .kept (Graph.yields_removeFilter hf) (Graph.yields_removeFilter hf') place ?_
  rw [hsame]
  simp only [Diagram.renamed]
  rw [h.apart.filter_renamed hmem (fun _ hk => filter_id_mem hk) fun _ => rfl]

/-! ### All edits -/

/-- **An edit that names what is there does the same to both graphs.** -/
theorem outcome (h : w.Alike) (ticket : Ticket → Ticket) {e : Edit α}
    (hnames : e.Names w.original.toDiagram) : w.Outcome e (e.renamed w.name ticket) := by
  obtain ⟨place, hsame⟩ := h.same
  cases e with
  | setDatabase database => exact h.outcome_setDatabase database
  | addTable table => exact h.outcome_addTable table
  | removeTable id => exact h.outcome_removeTable hnames
  | moveTable id position => exact h.outcome_moveTable hnames position
  | commitPosition id position => exact h.outcome_commitPosition hnames position
  | addJoin link => exact h.outcome_addJoin hnames.1 hnames.2
  | updateJoin id change => exact h.outcome_updateJoin hnames.1 hnames.2.1 hnames.2.2
  | removeJoin id => exact h.outcome_removeJoin hnames
  | addColumn table field => exact h.outcome_addColumn hnames field
  | updateColumn id change => exact h.outcome_updateColumn hnames change
  | removeColumn id => exact h.outcome_removeColumn hnames
  | reorderColumns src dst => exact h.outcome_reorderColumns src dst
  | addFilter table field => exact h.outcome_addFilter hnames field
  | updateFilter id change => exact h.outcome_updateFilter hnames change
  | removeFilter id => exact h.outcome_removeFilter hnames
  | reset => exact .kept ⟨rfl, rfl⟩ ⟨rfl, rfl⟩ place rfl
  | setExecuting executing => exact .kept ⟨rfl, rfl⟩ ⟨rfl, rfl⟩ place hsame
  | setError error => exact .kept ⟨rfl, rfl⟩ ⟨rfl, rfl⟩ place hsame
  | setResult result => exact .kept ⟨rfl, rfl⟩ ⟨rfl, rfl⟩ place hsame
  | begin => exact .kept ⟨rfl, rfl⟩ ⟨rfl, rfl⟩ place hsame
  | cancel => exact .kept ⟨rfl, rfl⟩ ⟨rfl, rfl⟩ place hsame
  | finish run outcome =>
      refine .kept ⟨rfl, rfl⟩ ⟨rfl, rfl⟩ place ?_
      obtain ⟨_, _, _, hg⟩ := w.original.finish_eq_shown run outcome
      obtain ⟨_, _, _, hr⟩ := w.restored.finish_eq_shown (ticket run) outcome
      rw [Edit.renamed, Graph.apply, Graph.apply, hg, hr]
      exact hsame
  | abandon run =>
      refine .kept ⟨rfl, rfl⟩ ⟨rfl, rfl⟩ place ?_
      obtain ⟨_, hg⟩ := w.original.abandon_eq_shown run
      obtain ⟨_, hr⟩ := w.restored.abandon_eq_shown (ticket run)
      rw [Edit.renamed, Graph.apply, Graph.apply, hg, hr]
      exact hsame

/-- **One step.**  Both graphs answer alike, and stay alike. -/
theorem step (h : w.Alike) (ticket : Ticket → Ticket) {e : Edit α}
    (hnames : e.Names w.original.toDiagram) :
    (w.restored.answer (e.renamed w.name ticket)).map (fun _ => ()) =
        (w.original.answer e).map (fun _ => ()) ∧
      (w.step ticket e).Alike := by
  have hvalid := h.original_valid.apply e
  have hvalid' := h.restored_valid.apply (e.renamed w.name ticket)
  cases h.outcome ticket hnames with
  | refused err hg hr =>
      obtain ⟨place, hsame⟩ := h.same
      refine ⟨by rw [hg, hr], hvalid, hvalid', place, ?_⟩
      simp only [Twins.step, Graph.toDiagram_of_refused hg, Graph.toDiagram_of_refused hr, hg]
      exact hsame
  | kept hg hr place hsame =>
      refine ⟨by rw [hg.1, hr.1], hvalid, hvalid', place, ?_⟩
      simp only [Twins.step, hg.1, hg.2, hr.2]
      exact hsame
  | added hg hr place hsame =>
      refine ⟨by rw [hg.1, hr.1]; rfl, hvalid, hvalid', place, ?_⟩
      simp only [Twins.step, hg.1, hg.2, hr.1, hr.2]
      exact hsame

/-- **A whole run.** -/
theorem run (h : w.Alike) (ticket : Ticket → Ticket) {edits : List (Edit α)}
    (hnamed : w.original.AllNamed edits) : (w.run ticket edits).Alike := by
  induction edits generalizing w with
  | nil => exact h
  | cons e edits ih => exact ih (h.step ticket hnamed.1).2 hnamed.2

end Alike

/-! ### What is asked of both graphs -/

omit [Coordinate α] in
/-- A run of each graph, one as old as the other. -/
def Matched (w : Twins α) (run run' : Ticket) : Prop :=
  run'.generation + w.original.generation = run.generation + w.restored.generation

/-- Nothing that is asked of both graphs tells them apart. -/
structure Indistinct (ticket : Ticket → Ticket) (w : Twins α) : Prop where
  aliases : w.restored.tables.map (fun t => t.aliasName) =
    w.original.tables.map fun t => t.aliasName
  query : w.restored.query? = w.original.query?
  request : w.restored.executionRequest = w.original.executionRequest
  /-- Both accept the next edit, or both refuse it for the same reason. -/
  answers : ∀ e : Edit α, e.Names w.original.toDiagram →
    (w.restored.answer (e.renamed w.name ticket)).map (fun _ => ()) =
      (w.original.answer e).map fun _ => ()
  started : w.Matched w.original.begin.1 w.restored.begin.1
  /-- Both record the outcome of a run, or both drop it. -/
  finished : ∀ run run', w.Matched run run' → ∀ outcome,
    (w.restored.finish run' outcome).1 = (w.original.finish run outcome).1

/-- **Twins cannot be told apart.** -/
theorem Alike.indistinct {w : Twins α} (h : w.Alike) (ticket : Ticket → Ticket) :
    w.Indistinct ticket where
  aliases := by
    obtain ⟨place, hsame⟩ := h.same
    rw [hsame]
    exact map_renamed _ fun _ => rfl
  query := by
    obtain ⟨place, hsame⟩ := h.same
    rw [hsame]
    exact h.apart.query?_renamed h.original_valid.toConsistent
  request := by
    obtain ⟨place, hsame⟩ := h.same
    rw [hsame]
    exact h.apart.executionRequest_renamed h.original_valid.toConsistent
  answers _ hnames := (h.step ticket hnames).1
  started := by
    show w.restored.generation + 1 + w.original.generation =
      w.original.generation + 1 + w.restored.generation
    omega
  finished := by
    intro run run' hmatched outcome
    have hcurrent : w.restored.isCurrent run' = w.original.isCurrent run := by
      rw [Matched] at hmatched
      rw [Graph.isCurrent, Graph.isCurrent, Bool.eq_iff_iff, beq_iff_eq, beq_iff_eq]
      omega
    rw [Graph.finish, Graph.finish, hcurrent]
    cases w.original.isCurrent run with
    | false => rfl
    | true => cases outcome <;> rfl

/-- **Runs that correspond do so for good**: both graphs count the same edits. -/
theorem matched_run (ticket : Ticket → Ticket) (w : Twins α) (edits : List (Edit α))
    (run run' : Ticket) : (w.run ticket edits).Matched run run' ↔ w.Matched run run' := by
  induction edits generalizing w with
  | nil => exact Iff.rfl
  | cons e edits ih =>
      have hstep : (w.step ticket e).Matched run run' ↔ w.Matched run run' := by
        simp only [Matched, step, Graph.generation_apply, Edit.endsRuns_renamed]
        omega
      exact (ih (w.step ticket e)).trans hstep

end Twins

end QueryBuilder

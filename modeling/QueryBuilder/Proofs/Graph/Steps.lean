/-
**Edits ask first and write then.**

An edit is made of steps, and what its steps wrote stays written if a later one fails.  So an edit
that is refused might leave a graph that is half edited, or an id that is used up.  None does: each
asks all its questions before its first write.  An edit therefore comes to the same as one that is
decided on the graph as it was, and then applies as a whole or is refused as a whole.

This is proved here for each edit from its steps, and all that is proved of edits elsewhere rests on
these equations.  What an edit makes of the diagram is told by one function in each of them, however
many writes it takes.

Main definitions:

* `QueryBuilder.Graph.allOrNothing`, `QueryBuilder.Graph.allOrNothingShown` — an edit that is
  decided before anything is written;
* `QueryBuilder.Diagram.withoutTable`, `QueryBuilder.Diagram.moved`, `QueryBuilder.moveItem`,
  `QueryBuilder.ColumnChange.apply`, `QueryBuilder.FilterChange.apply` — what several writes make of
  a diagram or of its parts.

Main results:

* `QueryBuilder.Graph.edit_bind` — what a failing step leaves behind is what was reached;
* `QueryBuilder.Graph.addTable_eq`, `QueryBuilder.Graph.addJoin_eq`,
  `QueryBuilder.Graph.updateFilter_eq` and one more for each other edit — **nothing is written
  before a refusal**;
* `QueryBuilder.Graph.allOrNothing_cases`, `QueryBuilder.Graph.allOrNothingShown_cases`,
  `QueryBuilder.Graph.allOrNothing_preserves`, `QueryBuilder.Graph.allOrNothingShown_preserves` —
  what follows from it.
-/

import Mathlib.Data.List.InsertIdx
import QueryBuilder.Graph.Columns
import QueryBuilder.Graph.Filters
import QueryBuilder.Graph.Joins
import QueryBuilder.Graph.Tables

set_option autoImplicit false

namespace QueryBuilder

@[simp] theorem ok_bind {ε β γ : Type} (b : β) (f : β → Except ε γ) : Except.ok b >>= f = f b :=
  rfl

variable {α β γ : Type}

/-! ### What several writes come to -/

/-- The diagram without a table and without the joins, columns and filters that refer to it.  With
the last table the database is free again. -/
def Diagram.withoutTable (d : Diagram α) (id : Nat) : Diagram α :=
  let tables := d.tables.filter fun t => t.id != id
  { database := if tables.isEmpty then none else d.database
    tables
    joins := d.joins.filter fun j => !j.touches id
    columns := d.columns.filter fun c => c.table != id
    filters := d.filters.filter fun f => f.table != id }

/-- The diagram with a table at another place. -/
def Diagram.moved (d : Diagram α) (id : Nat) (position : Position α) : Diagram α :=
  { d with tables := d.tables.map fun t => if t.id = id then { t with position } else t }

/-- A list with one item moved to another place; those in between close up. -/
def moveItem (items : List β) (src dst : Nat) : List β :=
  match items[src]? with
  | some item => (items.eraseIdx src).insertIdx dst item
  | none => items

/-- The column with the new values. -/
def ColumnChange.apply (change : ColumnChange) (c : Column) : Column :=
  { c with
    aggregation :=
      match change.aggregation with
      | some a => a.allowedFor c.baseType
      | none => c.aggregation
    aliasName :=
      match change.aliasName with
      | some a => usefulAlias a
      | none => c.aliasName }

/-- The filter with the new values; tests for null lose their value. -/
def FilterChange.apply (change : FilterChange) (f : Filter) : Filter :=
  let comparison := change.comparison.getD f.comparison
  { f with
    comparison
    value := comparison.keptValue (change.value.getD f.value)
    connective := change.connective.getD f.connective }

namespace Graph

/-! ### Decided edits -/

/-- The graph after an edit that was decided beforehand, or as it was if the edit is refused. -/
def allOrNothing (g : Graph α) : Except GraphError (β × Graph α) → Except GraphError β × Graph α
  | .ok (b, g') => (.ok b, g')
  | .error e => (.error e, g)

/-- The same for an edit that is refused with a message. -/
def allOrNothingShown (g : Graph α) :
    Except GraphError (β × Graph α) → Except GraphError β × Graph α
  | .ok (b, g') => (.ok b, g')
  | .error e => (.error e, { g with error := some e.message })

/-- An edit that shows nothing either is refused, and leaves the graph as it was, or applies. -/
theorem allOrNothing_cases (g : Graph α) (r : Except GraphError (β × Graph α)) :
    (∃ e, r = .error e ∧ g.allOrNothing r = (.error e, g)) ∨
      ∃ b g', r = .ok (b, g') ∧ g.allOrNothing r = (.ok b, g') := by
  cases r with
  | error e => exact .inl ⟨e, rfl, rfl⟩
  | ok r => exact .inr ⟨r.1, r.2, rfl, rfl⟩

/-- An edit that shows its refusal either is refused, and changes only the message, or applies. -/
theorem allOrNothingShown_cases (g : Graph α) (r : Except GraphError (β × Graph α)) :
    (∃ e, r = .error e ∧ g.allOrNothingShown r = (.error e, { g with error := some e.message })) ∨
      ∃ b g', r = .ok (b, g') ∧ g.allOrNothingShown r = (.ok b, g') := by
  cases r with
  | error e => exact .inl ⟨e, rfl, rfl⟩
  | ok r => exact .inr ⟨r.1, r.2, rfl, rfl⟩

/-- What holds before an edit, and after it if it applies, holds after it. -/
theorem allOrNothing_preserves {P : Graph α → Prop} {g : Graph α}
    {r : Except GraphError (β × Graph α)} (h : P g) (hr : ∀ b g', r = .ok (b, g') → P g') :
    P (g.allOrNothing r).2 := by
  rcases g.allOrNothing_cases r with ⟨e, _, ha⟩ | ⟨b, g', hok, ha⟩
  · rw [ha]
    exact h
  · rw [ha]
    exact hr b g' hok

/-- The same for an edit that shows its refusal, if the message does not matter. -/
theorem allOrNothingShown_preserves {P : Graph α → Prop} {g : Graph α}
    {r : Except GraphError (β × Graph α)} (h : ∀ error, P { g with error })
    (hr : ∀ b g', r = .ok (b, g') → P g') : P (g.allOrNothingShown r).2 := by
  rcases g.allOrNothingShown_cases r with ⟨e, _, ha⟩ | ⟨b, g', hok, ha⟩
  · rw [ha]
    exact h _
  · rw [ha]
    exact hr b g' hok

/-! ### Single steps -/

variable (g : Graph α)

/-- **What a failing step leaves behind is what was reached.**  The steps after it are not taken,
and those before it are not taken back. -/
theorem edit_bind (first : Editing α β) (rest : β → Editing α γ) :
    g.edit (first >>= rest) =
      match g.edit first with
      | (.ok b, reached) => reached.edit (rest b)
      | (.error e, reached) => (.error e, reached) := by
  simp only [edit, ExceptT.run_bind, StateT.run_bind]
  rcases (first.run.run g : Except GraphError β × Graph α) with ⟨_ | _, reached⟩ <;> rfl

theorem edit_get : g.edit get = (.ok g, g) := rfl

theorem edit_modify (write : Graph α → Graph α) : g.edit (modify write) = (.ok ⟨⟩, write g) := rfl

theorem edit_pure (b : β) : g.edit (pure b) = (.ok b, g) := rfl

/-- A question writes nothing, whatever the answer. -/
theorem edit_ask (question : Graph α → Except GraphError β) :
    g.edit (.ask question) = (question g, g) := by
  simp only [Editing.ask, edit_bind, edit_get]
  cases question g <;> rfl

/-- A question that shows why the answer is no writes the message and nothing else. -/
theorem edit_askShown (question : Graph α → Except GraphError β) :
    g.edit (.askShown question) =
      match question g with
      | .ok b => (.ok b, g)
      | .error e => (.error e, { g with error := some e.message }) := by
  simp only [Editing.askShown, edit_bind, edit_get]
  cases question g <;> rfl

/-- Looking for a part writes nothing. -/
theorem edit_find (part? : Graph α → Option β) (missing : GraphError) :
    g.edit (.find part? missing) =
      match part? g with
      | some b => (.ok b, g)
      | none => (.error missing, g) := by
  simp only [Editing.find, edit_bind, edit_get]
  cases part? g <;> rfl

/-- An id that is drawn is used up. -/
theorem edit_drawId : g.edit .drawId = (.ok g.nextId, { g with lastId := g.nextId }) := rfl

/-- An edit that draws its id before it fails does change the graph: the order of the steps
counts. -/
example : g.edit (do let id ← .drawId; throw .selfJoin; return id) =
    (.error .selfJoin, { g with lastId := g.nextId }) :=
  rfl

/-! ### The graph as a whole, and tables -/

theorem setDatabase_eq (database : Option Int) :
    g.setDatabase database = g.allOrNothingShown
      (if g.tables ≠ [] ∧ database ≠ g.database then .error .databaseLocked
        else .ok ((), { g with database })) := by
  rw [setDatabase, edit_bind, edit_get]
  by_cases hlocked : g.tables ≠ [] ∧ database ≠ g.database
  · simp only [if_pos hlocked]
    rfl
  · simp only [if_neg hlocked]
    rfl

theorem addTable_eq [Coordinate α] (t : NewTable) :
    g.addTable t = g.allOrNothingShown do
      g.checkCatalogId t.catalogId
      g.checkDatabase t.database
      let placed : PlacedTable α :=
        { t with
          id := g.nextId
          aliasName := Alias.fresh (g.tables.map (·.aliasName)) t.name
          position := g.settings.spawn (g.tables.map (·.position)) }
      return (g.nextId, { g with
        database := some t.database
        tables := g.tables ++ [placed]
        error := none
        lastId := g.nextId }) := by
  rw [addTable, edit_bind, edit_askShown]
  cases g.checkCatalogId t.catalogId with
  | error e => rfl
  | ok _ =>
      simp only
      rw [edit_bind, edit_askShown]
      cases g.checkDatabase t.database <;> rfl

theorem removeTable_eq (id : Nat) :
    g.removeTable id = g.allOrNothing
      (match g.table? id with
      | none => .error (.unknownTable id)
      | some t => .ok (t, { g with toDiagram := g.toDiagram.withoutTable id })) := by
  rw [removeTable, edit_bind, edit_find]
  cases g.table? id with
  | none => rfl
  | some t =>
      simp only [edit_bind, edit_modify, edit_get, Diagram.withoutTable]
      cases (g.tables.filter fun t => t.id != id).isEmpty <;> rfl

theorem moveTable_eq (id : Nat) (position : Position α) :
    g.moveTable id position = g.allOrNothing
      (match g.table? id with
      | none => .error (.unknownTable id)
      | some _ => .ok ((), { g with toDiagram := g.toDiagram.moved id position })) := by
  rw [moveTable, edit_bind, edit_find]
  cases g.table? id <;> rfl

/-! ### Joins -/

theorem addJoin_eq (l : Link) :
    g.addJoin l = g.allOrNothing do
      g.checkLink l
      return (g.nextId,
        { g with joins := g.joins ++ [{ l with id := g.nextId }], lastId := g.nextId }) := by
  rw [addJoin, edit_bind, edit_ask]
  cases g.checkLink l with
  | error e => rfl
  | ok _ =>
      simp only [edit_bind, edit_drawId, edit_modify, edit_pure]
      rfl

theorem updateJoin_eq (id : Nat) (change : LinkChange) :
    g.updateJoin id change = g.allOrNothing
      (match g.join? id with
      | none => .error (.unknownJoin id)
      | some j => do
        let l := change.apply j.toLink
        g.checkLink l
        return ((), { g with
          joins := g.joins.map fun j => if j.id = id then { l with id } else j })) := by
  rw [updateJoin, edit_bind, edit_find]
  cases g.join? id with
  | none => rfl
  | some j =>
      simp only
      rw [edit_bind, edit_ask]
      cases g.checkLink (change.apply j.toLink) <;> rfl

theorem removeJoin_eq (id : Nat) :
    g.removeJoin id = g.allOrNothing
      (match g.join? id with
      | none => .error (.unknownJoin id)
      | some j => .ok (j, { g with joins := g.joins.filter fun j => j.id != id })) := by
  rw [removeJoin, edit_bind, edit_find]
  cases g.join? id <;> rfl

/-! ### Columns -/

/-- Two writes to the items under an id are one, unless the first one changes the ids. -/
theorem map_write_write {key : β → Nat} {first : β → β} (h : ∀ b, key (first b) = key b)
    (second : β → β) (id : Nat) (items : List β) :
    (items.map fun b => if key b = id then first b else b).map
        (fun b => if key b = id then second b else b) =
      items.map fun b => if key b = id then second (first b) else b := by
  rw [List.map_map]
  refine List.map_congr_left fun b _ => ?_
  by_cases hid : key b = id
  · simp [hid, h]
  · simp [hid]

theorem writeColumn_writeColumn {first : Column → Column} (h : ∀ c, (first c).id = c.id)
    (second : Column → Column) (id : Nat) :
    (g.writeColumn id first).writeColumn id second =
      g.writeColumn id fun c => second (first c) := by
  simp only [writeColumn, map_write_write h]

theorem addColumn_eq (table : Nat) (field : Int) :
    g.addColumn table field = g.allOrNothing do
      let use ← g.use table field
      g.checkUnused use
      let column : Column := { use with id := g.nextId, aggregation := .plain, aliasName := none }
      return (g.nextId, { g with columns := g.columns ++ [column], lastId := g.nextId }) := by
  rw [addColumn, edit_bind, edit_ask]
  cases g.use table field with
  | error e => rfl
  | ok use =>
      simp only [edit_bind, edit_ask, ok_bind]
      cases g.checkUnused use <;> rfl

theorem updateColumn_eq (id : Nat) (change : ColumnChange) :
    g.updateColumn id change = g.allOrNothing
      (match g.column? id with
      | none => .error (.unknownColumn id)
      | some _ => .ok ((), { g with
          columns := g.columns.map fun c => if c.id = id then change.apply c else c })) := by
  rw [updateColumn, edit_bind, edit_find]
  cases g.column? id with
  | none => rfl
  | some c =>
      -- one write for each member that is given
      rcases change with ⟨_ | aggregation, _ | aliasName⟩
      · simp only [edit_pure, ColumnChange.apply, ite_self, List.map_id']
        rfl
      · rfl
      · rfl
      · simp only [edit_bind, edit_modify]
        rw [writeColumn_writeColumn]
        · simp only [writeColumn, allOrNothing, ColumnChange.apply]
        · exact fun _ => rfl

theorem removeColumn_eq (id : Nat) :
    g.removeColumn id = g.allOrNothing
      (match g.column? id with
      | none => .error (.unknownColumn id)
      | some c => .ok (c, { g with columns := g.columns.filter fun c => c.id != id })) := by
  rw [removeColumn, edit_bind, edit_find]
  cases g.column? id <;> rfl

theorem reorderColumns_eq (src dst : Nat) :
    g.reorderColumns src dst = g.allOrNothing
      (if g.columns.length ≤ src then .error (.indexOutOfRange src g.columns.length)
      else if g.columns.length ≤ dst then .error (.indexOutOfRange dst g.columns.length)
      else .ok ((), { g with columns := moveItem g.columns src dst })) := by
  simp only [reorderColumns, edit_bind, edit_get]
  by_cases hsrc : g.columns.length ≤ src
  · simp only [List.forIn_cons, if_pos hsrc]
    rfl
  · by_cases hdst : g.columns.length ≤ dst
    · simp only [List.forIn_cons, if_neg hsrc, if_pos hdst]
      rfl
    · simp only [List.forIn_cons, List.forIn_nil, if_neg hsrc, if_neg hdst, edit_bind, edit_pure]
      have hitem : g.columns[src]? = some g.columns[src] :=
        List.getElem?_eq_getElem (Nat.lt_of_not_le hsrc)
      by_cases hsame : src = dst
      · -- the column stays where it is, and nothing is written
        subst hsame
        rw [if_neg (not_not_intro rfl), edit_pure, moveItem, hitem]
        simp only [List.insertIdx_eraseIdx_getElem]
        rfl
      · simp only [if_pos hsame, edit_bind, edit_get, hitem, edit_modify, moveItem]
        rfl

/-! ### Filters -/

theorem writeFilter_writeFilter {first : Filter → Filter} (h : ∀ f, (first f).id = f.id)
    (second : Filter → Filter) (id : Nat) :
    (g.writeFilter id first).writeFilter id second =
      g.writeFilter id fun f => second (first f) := by
  simp only [writeFilter, map_write_write h]

theorem addFilter_eq (table : Nat) (field : Int) :
    g.addFilter table field = g.allOrNothing do
      let use ← g.use table field
      let filter : Filter :=
        { use with id := g.nextId, comparison := .eq, value := none, connective := .and }
      return (g.nextId, { g with filters := g.filters ++ [filter], lastId := g.nextId }) := by
  rw [addFilter, edit_bind, edit_ask]
  cases g.use table field <;> rfl

theorem updateFilter_eq (id : Nat) (change : FilterChange) :
    g.updateFilter id change = g.allOrNothing
      (match g.filter? id with
      | none => .error (.unknownFilter id)
      | some f => do
        if let some comparison := change.comparison then
          Diagram.checkComparison comparison f.baseType
        return ((), { g with
          filters := g.filters.map fun f => if f.id = id then change.apply f else f })) := by
  rw [updateFilter, edit_bind, edit_find]
  cases g.filter? id with
  | none => rfl
  | some f =>
      -- the question is about the comparison; then one write for each member that is given
      rcases change with ⟨_ | comparison, value, connective⟩
      · rcases value with _ | value <;> rcases connective with _ | connective
        all_goals
          simp only [edit_bind, edit_pure, edit_modify, writeFilter_writeFilter, implies_true]
          simp only [writeFilter, FilterChange.apply, Option.getD_none, Option.getD_some]
          rfl
      · simp only [edit_bind, edit_ask]
        cases Diagram.checkComparison comparison f.baseType with
        | error e => rfl
        | ok _ =>
            rcases value with _ | value <;> rcases connective with _ | connective
            all_goals
              simp only [edit_bind, edit_pure, edit_modify, writeFilter_writeFilter, implies_true]
              simp only [writeFilter, FilterChange.apply, Option.getD_none, Option.getD_some]
              rfl

theorem removeFilter_eq (id : Nat) :
    g.removeFilter id = g.allOrNothing
      (match g.filter? id with
      | none => .error (.unknownFilter id)
      | some f => .ok (f, { g with filters := g.filters.filter fun f => f.id != id })) := by
  rw [removeFilter, edit_bind, edit_find]
  cases g.filter? id <;> rfl

end Graph

end QueryBuilder

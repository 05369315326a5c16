/-
**Diagrams under other ids.**

Ids only tell parts from each other.  If every part of a diagram gets another id, and different parts
get different ones, then whatever is asked of the diagram has the same answer when it is asked of the
new one under the new ids: parts are found, links and fields are accepted or refused for the same
reason, and the query is the same.  The places of tables may change as well, for nothing asks for
them.

Main definitions:

* `QueryBuilder.setPlace` — places of tables, with one of them changed;
* `renamed` in the namespace of each part — the part under the new ids;
* `QueryBuilder.Diagram.renamed` — the diagram under the new ids, with its tables at other places;
* `QueryBuilder.Diagram.Apart` — different parts get different ids.

Main results:

* `QueryBuilder.Diagram.Apart.table?_renamed` and the like — parts are found under their new ids;
* `QueryBuilder.Diagram.Apart.checkLink_renamed`, `QueryBuilder.Diagram.Apart.use_renamed`,
  `QueryBuilder.Diagram.Apart.checkUnused_renamed` — the checks of edits;
* `QueryBuilder.Diagram.Apart.withoutTable_renamed`, `QueryBuilder.Diagram.Apart.moved_renamed` —
  edits of tables;
* `QueryBuilder.Diagram.Apart.query?_renamed`,
  `QueryBuilder.Diagram.Apart.executionRequest_renamed` — **the query is the same**.
-/

import Mathlib.Data.List.Find
import QueryBuilder.Graph.Columns
import QueryBuilder.Graph.Query
import QueryBuilder.Proofs.Graph.Validity

set_option autoImplicit false

namespace QueryBuilder

variable {α : Type}

/-! ### Parts under other ids -/

/-- The places of tables, with another one for the table with an id. -/
def setPlace (place : PlacedTable α → Position α) (id : Nat) (position : Position α)
    (t : PlacedTable α) : Position α :=
  if t.id = id then position else place t

/-- A table under a new id, at another place. -/
def PlacedTable.renamed (name : Nat → Nat) (place : PlacedTable α → Position α)
    (t : PlacedTable α) : PlacedTable α :=
  { t with id := name t.id, position := place t }

/-- A link between the same tables under their new ids. -/
def Link.renamed (name : Nat → Nat) (l : Link) : Link :=
  { l with source := name l.source, target := name l.target }

/-- A join between the same tables. -/
def Join.renamed (name : Nat → Nat) (j : Join) : Join :=
  { j.toLink.renamed name with id := name j.id }

/-- A change that brings in the same tables. -/
def LinkChange.renamed (name : Nat → Nat) (change : LinkChange) : LinkChange :=
  { change with source := change.source.map name, target := change.target.map name }

/-- A use of the same field. -/
def FieldUse.renamed (name : Nat → Nat) (u : FieldUse) : FieldUse :=
  { u with table := name u.table }

/-- A column that shows the same field. -/
def Column.renamed (name : Nat → Nat) (c : Column) : Column :=
  { c with table := name c.table, id := name c.id }

/-- A filter on the same field. -/
def Filter.renamed (name : Nat → Nat) (f : Filter) : Filter :=
  { f with table := name f.table, id := name f.id }

theorem LinkChange.apply_renamed (name : Nat → Nat) (change : LinkChange) (l : Link) :
    (change.renamed name).apply (l.renamed name) = (change.apply l).renamed name := by
  obtain ⟨source, target, sourceField, targetField, kind⟩ := change
  cases source <;> cases target <;> rfl

theorem ColumnChange.apply_renamed (name : Nat → Nat) (change : ColumnChange) (c : Column) :
    change.apply (c.renamed name) = (change.apply c).renamed name := rfl

theorem FilterChange.apply_renamed (name : Nat → Nat) (change : FilterChange) (f : Filter) :
    change.apply (f.renamed name) = (change.apply f).renamed name := rfl

namespace Diagram

/-- The diagram under new ids, with its tables at other places. -/
def renamed (name : Nat → Nat) (place : PlacedTable α → Position α) (d : Diagram α) : Diagram α :=
  { database := d.database
    tables := d.tables.map (PlacedTable.renamed name place)
    joins := d.joins.map (Join.renamed name)
    columns := d.columns.map (Column.renamed name)
    filters := d.filters.map (Filter.renamed name) }

variable {d : Diagram α} {name : Nat → Nat} {place : PlacedTable α → Position α}

theorem ids_renamed : (d.renamed name place).ids = d.ids.map name := by
  simp only [ids, renamed, List.map_map, List.map_append]
  rfl

/-- What depends neither on the id nor on the place is the same of all tables. -/
theorem map_renamed {β : Type} (part : PlacedTable α → β)
    (hpart : ∀ t : PlacedTable α, part (t.renamed name place) = part t) :
    (d.renamed name place).tables.map part = d.tables.map part := by
  rw [renamed, List.map_map]
  exact List.map_congr_left fun t _ => hpart t

/-! ### One part more -/

theorem renamed_withTable (d : Diagram α) (database : Option Int) (t : PlacedTable α) :
    ({ d with database, tables := d.tables ++ [t] } : Diagram α).renamed name place =
      { d.renamed name place with
        database
        tables := (d.renamed name place).tables ++ [t.renamed name place] } := by
  simp only [renamed, List.map_append, List.map_cons, List.map_nil]

theorem renamed_withJoin (d : Diagram α) (j : Join) :
    ({ d with joins := d.joins ++ [j] } : Diagram α).renamed name place =
      { d.renamed name place with joins := (d.renamed name place).joins ++ [j.renamed name] } := by
  simp only [renamed, List.map_append, List.map_cons, List.map_nil]

theorem renamed_withColumn (d : Diagram α) (c : Column) :
    ({ d with columns := d.columns ++ [c] } : Diagram α).renamed name place =
      { d.renamed name place with
        columns := (d.renamed name place).columns ++ [c.renamed name] } := by
  simp only [renamed, List.map_append, List.map_cons, List.map_nil]

theorem renamed_withFilter (d : Diagram α) (f : Filter) :
    ({ d with filters := d.filters ++ [f] } : Diagram α).renamed name place =
      { d.renamed name place with
        filters := (d.renamed name place).filters ++ [f.renamed name] } := by
  simp only [renamed, List.map_append, List.map_cons, List.map_nil]

/-! ### Ids in use -/

/-- The id of a table that is found is in use. -/
theorem mem_ids_of_table? {id : Nat} {t : PlacedTable α} (h : d.table? id = some t) :
    id ∈ d.ids := by
  obtain ⟨hmem, rfl⟩ := mem_of_table? h
  exact table_id_mem hmem

theorem mem_ids_of_join? {id : Nat} {j : Join} (h : d.join? id = some j) : id ∈ d.ids := by
  have hid : j.id = id := by simpa using List.find?_some h
  rw [← hid]
  exact join_id_mem (List.mem_of_find?_eq_some h)

theorem mem_ids_of_column? {id : Nat} {c : Column} (h : d.column? id = some c) : id ∈ d.ids := by
  have hid : c.id = id := by simpa using List.find?_some h
  rw [← hid]
  exact column_id_mem (List.mem_of_find?_eq_some h)

theorem mem_ids_of_filter? {id : Nat} {f : Filter} (h : d.filter? id = some f) : id ∈ d.ids := by
  have hid : f.id = id := by simpa using List.find?_some h
  rw [← hid]
  exact filter_id_mem (List.mem_of_find?_eq_some h)

theorem HasField.mem_ids {table : Nat} {field : Int} (h : d.HasField table field) :
    table ∈ d.ids := by
  obtain ⟨t, ht, -⟩ := h
  exact mem_ids_of_table? ht

theorem Describes.mem_ids {u : FieldUse} (h : d.Describes u) : u.table ∈ d.ids := by
  obtain ⟨t, f, ht, -⟩ := h
  exact mem_ids_of_table? ht

/-- Only the new ids of parts matter, and only the new places of tables. -/
theorem Consistent.renamed_congr (h : d.Consistent) {name' : Nat → Nat}
    {place' : PlacedTable α → Position α} (hname : ∀ i ∈ d.ids, name' i = name i)
    (hplace : ∀ t ∈ d.tables, place' t = place t) :
    d.renamed name' place' = d.renamed name place := by
  have htables : d.tables.map (PlacedTable.renamed name' place') =
      d.tables.map (PlacedTable.renamed name place) := by
    apply List.map_congr_left
    intro t ht
    rw [PlacedTable.renamed, PlacedTable.renamed, hname t.id (table_id_mem ht), hplace t ht]
  have hjoins : d.joins.map (Join.renamed name') = d.joins.map (Join.renamed name) := by
    apply List.map_congr_left
    intro j hj
    obtain ⟨-, hsource, htarget⟩ := h.connects j hj
    rw [Join.renamed, Join.renamed, Link.renamed, Link.renamed, hname j.id (join_id_mem hj),
      hname j.source hsource.mem_ids, hname j.target htarget.mem_ids]
  have hcolumns : d.columns.map (Column.renamed name') = d.columns.map (Column.renamed name) := by
    apply List.map_congr_left
    intro c hc
    rw [Column.renamed, Column.renamed, hname c.id (column_id_mem hc),
      hname c.table (h.columns_describe c hc).mem_ids]
  have hfilters : d.filters.map (Filter.renamed name') = d.filters.map (Filter.renamed name) := by
    apply List.map_congr_left
    intro f hf
    rw [Filter.renamed, Filter.renamed, hname f.id (filter_id_mem hf),
      hname f.table (h.filters_describe f hf).mem_ids]
  rw [renamed, renamed, htables, hjoins, hcolumns, hfilters]

/-! ### Checks that look at no id -/

theorem checkCatalogId_renamed (catalogId : Int) :
    (d.renamed name place).checkCatalogId catalogId = d.checkCatalogId catalogId := by
  rw [checkCatalogId, checkCatalogId, renamed, List.any_map]
  rfl

theorem checkDatabase_renamed (database : Int) :
    (d.renamed name place).checkDatabase database = d.checkDatabase database := rfl

/-! ### Different parts -/

/-- Different parts get different ids. -/
def Apart (name : Nat → Nat) (d : Diagram α) : Prop :=
  ∀ i ∈ d.ids, ∀ j ∈ d.ids, name i = name j → i = j

namespace Apart

variable {id : Nat}

theorem eq_iff (h : d.Apart name) {i j : Nat} (hi : i ∈ d.ids) (hj : j ∈ d.ids) :
    name i = name j ↔ i = j :=
  ⟨h i hi j hj, congrArg name⟩

theorem beq_eq (h : d.Apart name) {i j : Nat} (hi : i ∈ d.ids) (hj : j ∈ d.ids) :
    (name i == name j) = (i == j) := by
  rw [Bool.eq_iff_iff, beq_iff_eq, beq_iff_eq]
  exact h.eq_iff hi hj

theorem bne_eq (h : d.Apart name) {i j : Nat} (hi : i ∈ d.ids) (hj : j ∈ d.ids) :
    (name i != name j) = (i != j) := by
  rw [bne, bne, h.beq_eq hi hj]

/-! ### Parts by id -/

theorem table?_renamed (h : d.Apart name) (hid : id ∈ d.ids) :
    (d.renamed name place).table? (name id) =
      (d.table? id).map (PlacedTable.renamed name place) := by
  simp only [table?, renamed, List.find?_map]
  congr 1
  exact List.find?_congr fun t ht => h.beq_eq (table_id_mem ht) hid

theorem join?_renamed (h : d.Apart name) (hid : id ∈ d.ids) :
    (d.renamed name place).join? (name id) = (d.join? id).map (Join.renamed name) := by
  simp only [join?, renamed, List.find?_map]
  congr 1
  exact List.find?_congr fun j hj => h.beq_eq (join_id_mem hj) hid

theorem column?_renamed (h : d.Apart name) (hid : id ∈ d.ids) :
    (d.renamed name place).column? (name id) = (d.column? id).map (Column.renamed name) := by
  simp only [column?, renamed, List.find?_map]
  congr 1
  exact List.find?_congr fun c hc => h.beq_eq (column_id_mem hc) hid

theorem filter?_renamed (h : d.Apart name) (hid : id ∈ d.ids) :
    (d.renamed name place).filter? (name id) = (d.filter? id).map (Filter.renamed name) := by
  simp only [filter?, renamed, List.find?_map]
  congr 1
  exact List.find?_congr fun f hf => h.beq_eq (filter_id_mem hf) hid

/-! ### Checks -/

theorem checkKey_renamed (h : d.Apart name) {table : Nat} (htable : table ∈ d.ids)
    {t : PlacedTable α} (ht : d.table? table = some t) (field : Int) :
    (d.renamed name place).checkKey (name table) field = d.checkKey table field := by
  rw [checkKey, checkKey, h.table?_renamed htable, ht]
  rfl

/-- A link between tables that are there is accepted, or refused for the same reason. -/
theorem checkLink_renamed (h : d.Apart name) {l : Link} {s t : PlacedTable α}
    (hs : d.table? l.source = some s) (ht : d.table? l.target = some t) :
    (d.renamed name place).checkLink (l.renamed name) = d.checkLink l := by
  have hsource : l.source ∈ d.ids := mem_ids_of_table? hs
  have htarget : l.target ∈ d.ids := mem_ids_of_table? ht
  have hself : (l.renamed name).source = (l.renamed name).target ↔ l.source = l.target :=
    h.eq_iff hsource htarget
  have hsourceKey : (d.renamed name place).checkKey (l.renamed name).source
      (l.renamed name).sourceField = d.checkKey l.source l.sourceField :=
    h.checkKey_renamed hsource hs l.sourceField
  have htargetKey : (d.renamed name place).checkKey (l.renamed name).target
      (l.renamed name).targetField = d.checkKey l.target l.targetField :=
    h.checkKey_renamed htarget ht l.targetField
  simp only [checkLink, hself, hsourceKey, htargetKey]

/-- The use of a field is that of the same field, or is refused for the same reason. -/
theorem use_renamed (h : d.Apart name) {table : Nat} {t : PlacedTable α}
    (ht : d.table? table = some t) (field : Int) :
    (d.renamed name place).use (name table) field =
      (d.use table field).map (FieldUse.renamed name) := by
  rw [use, use, h.table?_renamed (mem_ids_of_table? ht), ht]
  have hfield : (t.renamed name place).field? field = t.field? field := rfl
  simp only [Option.map_some, hfield]
  cases t.field? field <;> rfl

/-- A field is shown already, or not. -/
theorem checkUnused_renamed (h : d.Apart name) (hd : d.Consistent) {u : FieldUse}
    (hu : u.table ∈ d.ids) :
    (d.renamed name place).checkUnused (u.renamed name) = d.checkUnused u := by
  have hany : (d.renamed name place).columns.any (fun c => c.table == (u.renamed name).table &&
      c.field == (u.renamed name).field) =
        d.columns.any fun c => c.table == u.table && c.field == u.field := by
    rw [renamed, List.any_map, Bool.eq_iff_iff, List.any_eq_true, List.any_eq_true]
    refine exists_congr fun c => and_congr_right fun hc => ?_
    have htable := h.beq_eq (hd.columns_describe c hc).mem_ids hu
    simp only [Function.comp_apply, Column.renamed, FieldUse.renamed, htable]
  rw [checkUnused, checkUnused, hany]

/-! ### Edits of the parts -/

/-- A part is changed as the part under the old id is. -/
theorem update_renamed (h : d.Apart name) {β : Type} {key : β → Nat} {rename change change' : β → β}
    {items : List β} (hid : id ∈ d.ids) (hitems : ∀ b ∈ items, key b ∈ d.ids)
    (hkey : ∀ b, key (rename b) = name (key b))
    (hchange : ∀ b ∈ items, key b = id → change' (rename b) = rename (change b)) :
    ((items.map rename).map fun b => if key b = name id then change' b else b) =
      (items.map fun b => if key b = id then change b else b).map rename := by
  rw [List.map_map, List.map_map]
  apply List.map_congr_left
  intro b hb
  have heq := h.eq_iff (hitems b hb) hid
  simp only [Function.comp_apply, hkey, heq]
  by_cases hb' : key b = id
  · rw [if_pos hb', if_pos hb', hchange b hb hb']
  · rw [if_neg hb', if_neg hb']

/-- A part is taken away as the part under the old id is. -/
theorem filter_renamed (h : d.Apart name) {β : Type} {key : β → Nat} {rename : β → β}
    {items : List β} (hid : id ∈ d.ids) (hitems : ∀ b ∈ items, key b ∈ d.ids)
    (hkey : ∀ b, key (rename b) = name (key b)) :
    (items.map rename).filter (fun b => key b != name id) =
      (items.filter fun b => key b != id).map rename := by
  rw [List.filter_map]
  congr 1
  apply List.filter_congr
  intro b hb
  rw [Function.comp_apply, hkey]
  exact h.bne_eq (hitems b hb) hid

/-- A table is taken away with everything that refers to it. -/
theorem withoutTable_renamed (h : d.Apart name) (hd : d.Consistent) (hid : id ∈ d.ids) :
    (d.renamed name place).withoutTable (name id) = (d.withoutTable id).renamed name place := by
  have htables : (d.tables.map (PlacedTable.renamed name place)).filter (fun t => t.id != name id) =
      (d.tables.filter fun t => t.id != id).map (PlacedTable.renamed name place) :=
    h.filter_renamed hid (fun _ ht => table_id_mem ht) fun _ => rfl
  have hjoins : (d.joins.map (Join.renamed name)).filter (fun j => !j.touches (name id)) =
      (d.joins.filter fun j => !j.touches id).map (Join.renamed name) := by
    rw [List.filter_map]
    congr 1
    apply List.filter_congr
    intro j hj
    obtain ⟨-, hsource, htarget⟩ := hd.connects j hj
    have hsourceEq := h.beq_eq hsource.mem_ids hid
    have htargetEq := h.beq_eq htarget.mem_ids hid
    simp only [Function.comp_apply, Link.touches, Join.renamed, Link.renamed, hsourceEq, htargetEq]
  have hcolumns : (d.columns.map (Column.renamed name)).filter (fun c => c.table != name id) =
      (d.columns.filter fun c => c.table != id).map (Column.renamed name) :=
    h.filter_renamed hid (fun c hc => (hd.columns_describe c hc).mem_ids) fun _ => rfl
  have hfilters : (d.filters.map (Filter.renamed name)).filter (fun f => f.table != name id) =
      (d.filters.filter fun f => f.table != id).map (Filter.renamed name) :=
    h.filter_renamed hid (fun f hf => (hd.filters_describe f hf).mem_ids) fun _ => rfl
  simp only [withoutTable, renamed, htables, hjoins, hcolumns, hfilters, List.isEmpty_map]

/-- A table that is moved is at its new place, and the others are where they are. -/
theorem moved_renamed (h : d.Apart name) (hid : id ∈ d.ids) (position : Position α) :
    (d.renamed name place).moved (name id) position =
      (d.moved id position).renamed name (setPlace place id position) := by
  simp only [moved, renamed, List.map_map, Diagram.mk.injEq, true_and, and_true]
  apply List.map_congr_left
  intro t ht
  have heq := h.eq_iff (table_id_mem ht) hid
  by_cases ht : t.id = id
  · simp [PlacedTable.renamed, setPlace, ht]
  · simp [PlacedTable.renamed, setPlace, heq, ht]

/-! ### The query -/

variable {root : PlacedTable α}

/-- A field of a table is named by the same alias, or by none. -/
theorem fieldRef_renamed (h : d.Apart name) (hroot : root ∈ d.tables) {table : Nat}
    (htable : table ∈ d.ids) (field : Int) :
    (d.renamed name place).fieldRef (root.renamed name place) (name table) field =
      d.fieldRef root table field := by
  have heq : name table = (root.renamed name place).id ↔ table = root.id :=
    h.eq_iff htable (table_id_mem hroot)
  rw [fieldRef, fieldRef, h.table?_renamed htable, Option.map_map]
  simp only [heq]
  rfl

theorem joinClause?_renamed (h : d.Apart name) (hd : d.Consistent) (hroot : root ∈ d.tables)
    {j : Join} (hj : j ∈ d.joins) :
    (d.renamed name place).joinClause? (root.renamed name place) (j.renamed name) =
      d.joinClause? root j := by
  obtain ⟨-, hsource, htarget⟩ := hd.connects j hj
  have htable : (d.renamed name place).table? (j.renamed name).target =
      (d.table? j.target).map (PlacedTable.renamed name place) := h.table?_renamed htarget.mem_ids
  have hlhs : (d.renamed name place).fieldRef (root.renamed name place) (j.renamed name).source
      (j.renamed name).sourceField = d.fieldRef root j.source j.sourceField :=
    h.fieldRef_renamed hroot hsource.mem_ids j.sourceField
  have hrhs : (d.renamed name place).fieldRef (root.renamed name place) (j.renamed name).target
      (j.renamed name).targetField = d.fieldRef root j.target j.targetField :=
    h.fieldRef_renamed hroot htarget.mem_ids j.targetField
  simp only [joinClause?, htable, hlhs, hrhs, Option.map_map]
  rfl

theorem projection_renamed (h : d.Apart name) (hd : d.Consistent) (hroot : root ∈ d.tables)
    {c : Column} (hc : c ∈ d.columns) :
    (d.renamed name place).projection (root.renamed name place) (c.renamed name) =
      d.projection root c := by
  have hfield : (d.renamed name place).fieldRef (root.renamed name place) (c.renamed name).table
      (c.renamed name).field = d.fieldRef root c.table c.field :=
    h.fieldRef_renamed hroot (hd.columns_describe c hc).mem_ids c.field
  simp only [projection, hfield]
  rfl

theorem comparison_renamed (h : d.Apart name) (hd : d.Consistent) (hroot : root ∈ d.tables)
    {f : Filter} (hf : f ∈ d.filters) :
    (d.renamed name place).comparison (root.renamed name place) (f.renamed name) =
      d.comparison root f := by
  have hfield : (d.renamed name place).fieldRef (root.renamed name place) (f.renamed name).table
      (f.renamed name).field = d.fieldRef root f.table f.field :=
    h.fieldRef_renamed hroot (hd.filters_describe f hf).mem_ids f.field
  simp only [comparison, hfield]
  rfl

theorem condition?_renamed (h : d.Apart name) (hd : d.Consistent) (hroot : root ∈ d.tables) :
    (d.renamed name place).condition? (root.renamed name place) = d.condition? root := by
  have hfilters : (d.renamed name place).filters = d.filters.map (Filter.renamed name) := rfl
  rw [condition?, condition?, hfilters, List.foldl_map]
  apply List.foldl_ext
  intro before f hf
  have hcomparison : (d.renamed name place).comparison (root.renamed name place)
      (f.renamed name) = d.comparison root f := h.comparison_renamed hd hroot hf
  cases before with
  | none => simp only [addComparison, hcomparison]
  | some lhs =>
      simp only [addComparison, hcomparison]
      rfl

/-- **The query is the same**, for it names tables by their aliases. -/
theorem query?_renamed (h : d.Apart name) (hd : d.Consistent) :
    (d.renamed name place).query? = d.query? := by
  have hhead : (d.renamed name place).tables.head? =
      d.tables.head?.map (PlacedTable.renamed name place) := List.head?_map
  rw [query?, query?, hhead]
  cases hroot : d.tables.head? with
  | none => rfl
  | some root =>
      have hmem : root ∈ d.tables := List.mem_of_mem_head? hroot
      have hjoins : (d.renamed name place).joins.filterMap
          ((d.renamed name place).joinClause? (root.renamed name place)) =
            d.joins.filterMap (d.joinClause? root) := by
        have hmap : (d.renamed name place).joins = d.joins.map (Join.renamed name) := rfl
        rw [hmap, List.filterMap_map]
        exact List.filterMap_congr fun j hj => h.joinClause?_renamed hd hmem hj
      have hcolumns : (d.renamed name place).columns.map
          ((d.renamed name place).projection (root.renamed name place)) =
            d.columns.map (d.projection root) := by
        have hmap : (d.renamed name place).columns = d.columns.map (Column.renamed name) := rfl
        rw [hmap, List.map_map]
        exact List.map_congr_left fun c hc => h.projection_renamed hd hmem hc
      simp only [Option.map_some, hjoins, hcolumns, h.condition?_renamed hd hmem]
      rfl

/-- **What the service is asked is the same.** -/
theorem executionRequest_renamed (h : d.Apart name) (hd : d.Consistent) :
    (d.renamed name place).executionRequest = d.executionRequest := by
  rw [executionRequest, executionRequest, h.query?_renamed hd]
  rfl

end Apart

end Diagram

end QueryBuilder

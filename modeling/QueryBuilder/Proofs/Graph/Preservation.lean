/-
**Every edit leaves a valid diagram.**

An edit that adds a part gives it an id above all others; one that changes a part checks the part
as it will be; one that takes a table away takes everything along that refers to it.  So a valid
diagram stays valid under every edit, and under every run of edits.

Main results:

* `QueryBuilder.Graph.lt_nextId` — the next id is above all ids in use;
* `QueryBuilder.Diagram.Valid.addTable` and the like — what each edit leaves is valid;
* `QueryBuilder.Diagram.Valid.apply`, `QueryBuilder.Diagram.Valid.run` — **one step, and a whole
  run**.
-/

import Mathlib.Data.List.InsertIdx
import QueryBuilder.Proofs.Graph.Edits
import QueryBuilder.Proofs.Graph.FreshAlias
import QueryBuilder.Proofs.Graph.Validity

set_option autoImplicit false

namespace QueryBuilder

variable {α β : Type}

/-! ### Ids -/

/-- None of several numbers is above their largest. -/
theorem le_foldl_max {ids : List Nat} {id : Nat} (h : id ∈ ids) (start : Nat) :
    id ≤ ids.foldl max start := by
  have hstart : ∀ (ids : List Nat) (start : Nat), start ≤ ids.foldl max start := by
    intro ids
    induction ids with
    | nil => exact fun start => Nat.le_refl start
    | cons first rest ih => exact fun start => Nat.le_trans (Nat.le_max_left start first) (ih _)
  induction ids generalizing start with
  | nil => simp at h
  | cons first rest ih =>
      rcases List.mem_cons.1 h with rfl | h
      · exact Nat.le_trans (Nat.le_max_right start id) (hstart rest _)
      · exact ih h _

/-- **The next id is above all ids in use.** -/
theorem Graph.lt_nextId {g : Graph α} {id : Nat} (h : id ∈ g.ids) : id < g.nextId := by
  have := le_foldl_max h 0
  unfold Graph.nextId
  omega

/-- The next id is not in use. -/
theorem Graph.nextId_not_mem {g : Graph α} : g.nextId ∉ g.ids :=
  fun h => absurd (Graph.lt_nextId h) (Nat.lt_irrefl _)

/-! ### Moved items -/

/-- Moving an item does not look at the items. -/
theorem moveItem_map {β γ : Type} (f : β → γ) (items : List β) (src dst : Nat) :
    moveItem (items.map f) src dst = (moveItem items src dst).map f := by
  unfold moveItem
  rw [List.getElem?_map]
  cases items[src]? with
  | none => rfl
  | some item => rw [Option.map_some, List.map_insertIdx, List.eraseIdx_map]

/-- Moving an item changes only the order. -/
theorem moveItem_perm {β : Type} {items : List β} {src dst : Nat} (hdst : dst < items.length) :
    (moveItem items src dst).Perm items := by
  unfold moveItem
  cases hitem : items[src]? with
  | none => exact List.Perm.refl _
  | some item =>
      obtain ⟨hsrc, rfl⟩ := List.getElem?_eq_some_iff.1 hitem
      have hlength : (items.eraseIdx src).length = items.length - 1 :=
        List.length_eraseIdx_of_lt hsrc
      exact (List.perm_insertIdx _ _ (by omega)).trans (List.getElem_cons_eraseIdx_perm hsrc)

namespace Diagram

variable {d d' : Diagram α}

/-- Ids stay distinct if one more comes in that is new. -/
theorem ids_nodup_of_perm_cons {id : Nat} (h : d.ids.Nodup) (hid : id ∉ d.ids)
    (hperm : d'.ids.Perm (id :: d.ids)) : d'.ids.Nodup :=
  hperm.nodup_iff.2 (List.nodup_cons.2 ⟨hid, h⟩)

/-- If ids of each kind go, ids go, and the order is kept. -/
theorem ids_sublist (htables : (d'.tables.map (·.id)).Sublist (d.tables.map (·.id)))
    (hjoins : (d'.joins.map (·.id)).Sublist (d.joins.map (·.id)))
    (hcolumns : (d'.columns.map (·.id)).Sublist (d.columns.map (·.id)))
    (hfilters : (d'.filters.map (·.id)).Sublist (d.filters.map (·.id))) : d'.ids.Sublist d.ids :=
  ((htables.append hjoins).append hcolumns).append hfilters

/-- Ids stay distinct if some of them go. -/
theorem ids_nodup_of_sublist (h : d.ids.Nodup)
    (htables : (d'.tables.map (·.id)).Sublist (d.tables.map (·.id)))
    (hjoins : (d'.joins.map (·.id)).Sublist (d.joins.map (·.id)))
    (hcolumns : (d'.columns.map (·.id)).Sublist (d.columns.map (·.id)))
    (hfilters : (d'.filters.map (·.id)).Sublist (d.filters.map (·.id))) : d'.ids.Nodup :=
  h.sublist (ids_sublist htables hjoins hcolumns hfilters)

/-- The joins of a diagram with distinct ids have distinct ids, and so have its columns and its
filters. -/
theorem joinIds_nodup (h : d.ids.Nodup) : (d.joins.map (·.id)).Nodup :=
  h.sublist (((List.sublist_append_right _ _).trans (List.sublist_append_left _ _)).trans
    (List.sublist_append_left _ _))

theorem columnIds_nodup (h : d.ids.Nodup) : (d.columns.map (·.id)).Nodup :=
  h.sublist ((List.sublist_append_right _ _).trans (List.sublist_append_left _ _))

theorem filterIds_nodup (h : d.ids.Nodup) : (d.filters.map (·.id)).Nodup :=
  h.sublist (List.sublist_append_right _ _)

/-- An id that comes in between two lists may as well come first. -/
theorem perm_insert (before after : List Nat) (id : Nat) :
    (before ++ [id] ++ after).Perm (id :: (before ++ after)) := by
  rw [List.append_assoc]
  exact List.perm_middle

theorem ids_withTable (d : Diagram α) (database : Option Int) (new : PlacedTable α) :
    ({ d with database, tables := d.tables ++ [new] } : Diagram α).ids.Perm (new.id :: d.ids) := by
  simpa only [ids, List.map_append, List.map_cons, List.map_nil, List.append_assoc] using
    perm_insert (d.tables.map (·.id))
      (d.joins.map (·.id) ++ d.columns.map (·.id) ++ d.filters.map (·.id)) new.id

theorem ids_withJoin (d : Diagram α) (new : Join) :
    ({ d with joins := d.joins ++ [new] } : Diagram α).ids.Perm (new.id :: d.ids) := by
  simpa only [ids, List.map_append, List.map_cons, List.map_nil, List.append_assoc] using
    perm_insert (d.tables.map (·.id) ++ d.joins.map (·.id))
      (d.columns.map (·.id) ++ d.filters.map (·.id)) new.id

theorem ids_withColumn (d : Diagram α) (new : Column) :
    ({ d with columns := d.columns ++ [new] } : Diagram α).ids.Perm (new.id :: d.ids) := by
  simpa only [ids, List.map_append, List.map_cons, List.map_nil, List.append_assoc] using
    perm_insert (d.tables.map (·.id) ++ d.joins.map (·.id) ++ d.columns.map (·.id))
      (d.filters.map (·.id)) new.id

theorem ids_withFilter (d : Diagram α) (new : Filter) :
    ({ d with filters := d.filters ++ [new] } : Diagram α).ids.Perm (new.id :: d.ids) := by
  simpa only [ids, List.map_append, List.map_cons, List.map_nil, List.append_assoc,
    List.append_nil] using perm_insert d.ids [] new.id

/-- What holds of all parts, and of those that are changed after the change, holds afterwards. -/
theorem forall_mem_update {β : Type} {key : β → Nat} {id : Nat} {change : β → β} {p : β → Prop}
    {items : List β} (h : ∀ b ∈ items, p b) (hchange : ∀ b ∈ items, key b = id → p (change b)) :
    ∀ b ∈ items.map fun b => if key b = id then change b else b, p b := by
  intro b hb
  obtain ⟨old, hold, rfl⟩ := List.mem_map.1 hb
  by_cases hid : key old = id
  · rw [if_pos hid]
    exact hchange old hold hid
  · rw [if_neg hid]
    exact h old hold

/-- What holds of all parts and of a new one holds of all of them together. -/
theorem forall_mem_add {β : Type} {p : β → Prop} {items : List β} {new : β}
    (h : ∀ b ∈ items, p b) (hnew : p new) : ∀ b ∈ items ++ [new], p b :=
  List.forall_mem_append.2 ⟨h, List.forall_mem_singleton.2 hnew⟩

end Diagram

/-! ### Refused edits -/

namespace Graph

/-- What holds of the diagram before an edit, and after it if it applies, holds after it. -/
theorem allOrNothing_toDiagram {P : Diagram α → Prop} {g : Graph α}
    {r : Except GraphError (β × Graph α)} (h : P g.toDiagram)
    (hr : ∀ b g', r = .ok (b, g') → P g'.toDiagram) : P (g.allOrNothing r).2.toDiagram :=
  allOrNothing_preserves (P := fun g => P g.toDiagram) h hr

theorem allOrNothingShown_toDiagram {P : Diagram α → Prop} {g : Graph α}
    {r : Except GraphError (β × Graph α)} (h : P g.toDiagram)
    (hr : ∀ b g', r = .ok (b, g') → P g'.toDiagram) : P (g.allOrNothingShown r).2.toDiagram :=
  allOrNothingShown_preserves (P := fun g => P g.toDiagram) (fun _ => h) hr

/-- The outcome of a run changes only what is shown of it. -/
theorem finish_eq_shown (g : Graph α) (ticket : Ticket) (outcome : RunOutcome) :
    ∃ executing error lastResult,
      (g.finish ticket outcome).2 = { g with executing, error, lastResult } := by
  unfold finish
  by_cases hc : g.isCurrent ticket
  · rw [if_pos hc]
    cases outcome <;> exact ⟨_, _, _, rfl⟩
  · rw [if_neg hc]
    exact ⟨_, _, _, rfl⟩

theorem abandon_eq_shown (g : Graph α) (ticket : Ticket) :
    ∃ executing, g.abandon ticket = { g with executing } := by
  unfold abandon
  by_cases hc : g.isCurrent ticket
  · rw [if_pos hc]
    exact ⟨_, rfl⟩
  · rw [if_neg hc]
    exact ⟨_, rfl⟩

end Graph

namespace Diagram.Valid

variable {g : Graph α}

/-! ### The graph as a whole -/

theorem ofEmpty : (empty : Diagram α).Valid :=
  { Consistent.ofEmpty none with ids_nodup := by simp [Diagram.ids, Diagram.empty] }

theorem setDatabase (h : g.toDiagram.Valid) (database : Option Int) :
    (g.setDatabase database).2.toDiagram.Valid := by
  rw [Graph.setDatabase_eq]
  refine Graph.allOrNothingShown_toDiagram h fun _ g' hok => ?_
  split at hok
  · cases hok
  · next hfree =>
      cases hok
      -- the edit applies if there is no table, or if it chooses the database that is there
      by_cases htables : g.tables = []
      · exact { h.toConsistent.withDatabase htables database with ids_nodup := h.ids_nodup }
      · have hsame : database = g.database := by
          by_contra hne
          exact hfree ⟨htables, hne⟩
        subst hsame
        exact h

/-! ### Tables -/

theorem addTable [Coordinate α] (h : g.toDiagram.Valid) (t : NewTable) :
    (g.addTable t).2.toDiagram.Valid := by
  rw [Graph.addTable_eq]
  refine Graph.allOrNothingShown_toDiagram h fun _ g' hok => ?_
  obtain ⟨_, hcatalog, hok⟩ := bind_eq_ok.1 hok
  obtain ⟨_, hdatabase, hok⟩ := bind_eq_ok.1 hok
  cases hok
  -- the alias is not checked, because the search for it never ends with a taken one
  have halias : Alias.fresh (g.tables.map (·.aliasName)) t.name ∉ g.tables.map (·.aliasName) :=
    Alias.fresh_not_mem _ _
  refine ⟨h.toConsistent.withTable { t with id := g.nextId, aliasName := _, position := _ }
    (checkCatalogId_eq_ok.1 hcatalog) ?_ (checkDatabase_eq_ok.1 hdatabase), ?_⟩
  · intro other hother heq
    exact halias (List.mem_map.2 ⟨other, hother, heq⟩)
  · exact ids_nodup_of_perm_cons h.ids_nodup Graph.nextId_not_mem (ids_withTable g.toDiagram _ _)

theorem removeTable (h : g.toDiagram.Valid) (id : Nat) : (g.removeTable id).2.toDiagram.Valid := by
  rw [Graph.removeTable_eq]
  refine Graph.allOrNothing_toDiagram h fun _ g' hok => ?_
  cases ht : g.table? id with
  | none => simp [ht] at hok
  | some t =>
      simp only [ht, Except.ok.injEq, Prod.mk.injEq] at hok
      obtain ⟨_, rfl⟩ := hok
      refine ⟨h.toConsistent.withoutTable id, ids_nodup_of_sublist h.ids_nodup ?_ ?_ ?_ ?_⟩ <;>
        exact List.filter_sublist.map _

theorem moveTable (h : g.toDiagram.Valid) (id : Nat) (position : Position α) :
    (g.moveTable id position).2.toDiagram.Valid := by
  rw [Graph.moveTable_eq]
  refine Graph.allOrNothing_toDiagram h fun _ g' hok => ?_
  cases ht : g.table? id with
  | none => simp [ht] at hok
  | some t =>
      simp only [ht, Except.ok.injEq, Prod.mk.injEq] at hok
      obtain ⟨_, rfl⟩ := hok
      refine ⟨h.toConsistent.moved id position, ids_nodup_of_sublist h.ids_nodup ?_
        (List.Sublist.refl _) (List.Sublist.refl _) (List.Sublist.refl _)⟩
      rw [Consistent.map_moved (fun t => t.id) id position fun _ => rfl]

/-! ### Joins -/

theorem addJoin (h : g.toDiagram.Valid) (l : Link) : (g.addJoin l).2.toDiagram.Valid := by
  rw [Graph.addJoin_eq]
  refine Graph.allOrNothing_toDiagram h fun _ g' hok => ?_
  obtain ⟨_, hlink, hok⟩ := bind_eq_ok.1 hok
  cases hok
  exact ⟨h.toConsistent.withJoins (forall_mem_add h.connects (checkLink_eq_ok.1 hlink)),
    ids_nodup_of_perm_cons h.ids_nodup Graph.nextId_not_mem (ids_withJoin g.toDiagram _)⟩

theorem updateJoin (h : g.toDiagram.Valid) (id : Nat) (change : LinkChange) :
    (g.updateJoin id change).2.toDiagram.Valid := by
  rw [Graph.updateJoin_eq]
  refine Graph.allOrNothing_toDiagram h fun _ g' hok => ?_
  cases hj : g.join? id with
  | none => simp [hj] at hok
  | some j =>
      simp only [hj] at hok
      obtain ⟨_, hlink, hok⟩ := bind_eq_ok.1 hok
      cases hok
      refine ⟨h.toConsistent.withJoins ?_, ids_nodup_of_sublist h.ids_nodup (List.Sublist.refl _) ?_
        (List.Sublist.refl _) (List.Sublist.refl _)⟩
      · exact forall_mem_update h.connects fun _ _ _ => checkLink_eq_ok.1 hlink
      · rw [map_update (fun j : Join => j.id) (fun j => j.id) id
          (fun _ => { change.apply j.toLink with id }) fun _ hid => hid.symm]

theorem removeJoin (h : g.toDiagram.Valid) (id : Nat) : (g.removeJoin id).2.toDiagram.Valid := by
  rw [Graph.removeJoin_eq]
  refine Graph.allOrNothing_toDiagram h fun _ g' hok => ?_
  cases hj : g.join? id with
  | none => simp [hj] at hok
  | some j =>
      simp only [hj, Except.ok.injEq, Prod.mk.injEq] at hok
      obtain ⟨_, rfl⟩ := hok
      refine ⟨h.toConsistent.withJoins fun j hj => h.connects j (List.mem_filter.1 hj).1,
        ids_nodup_of_sublist h.ids_nodup (List.Sublist.refl _) (List.filter_sublist.map _)
          (List.Sublist.refl _) (List.Sublist.refl _)⟩

/-! ### Columns -/

theorem addColumn (h : g.toDiagram.Valid) (table : Nat) (field : Int) :
    (g.addColumn table field).2.toDiagram.Valid := by
  rw [Graph.addColumn_eq]
  refine Graph.allOrNothing_toDiagram h fun _ g' hok => ?_
  obtain ⟨use, huse, hok⟩ := bind_eq_ok.1 hok
  obtain ⟨_, hunused, hok⟩ := bind_eq_ok.1 hok
  cases hok
  obtain ⟨_, _, hdescribes⟩ := use_eq_ok.1 huse
  refine ⟨h.toConsistent.withColumns ?_ ?_ ?_, ?_⟩
  · exact forall_mem_add h.columns_describe hdescribes
  · rw [List.map_append, List.map_singleton, List.nodup_append]
    refine ⟨h.columns_nodup, by simp, ?_⟩
    simpa using checkUnused_eq_ok.1 hunused
  · exact forall_mem_add h.columns_normal ⟨fun hne => absurd rfl hne, by simp⟩
  · exact ids_nodup_of_perm_cons h.ids_nodup Graph.nextId_not_mem (ids_withColumn g.toDiagram _)

theorem updateColumn (h : g.toDiagram.Valid) (id : Nat) (change : ColumnChange) :
    (g.updateColumn id change).2.toDiagram.Valid := by
  rw [Graph.updateColumn_eq]
  refine Graph.allOrNothing_toDiagram h fun _ g' hok => ?_
  cases hc : g.column? id with
  | none => simp [hc] at hok
  | some c =>
      simp only [hc, Except.ok.injEq, Prod.mk.injEq] at hok
      obtain ⟨_, rfl⟩ := hok
      refine ⟨h.toConsistent.withColumns ?_ ?_ ?_, ids_nodup_of_sublist h.ids_nodup
        (List.Sublist.refl _) (List.Sublist.refl _) ?_ (List.Sublist.refl _)⟩
      · exact forall_mem_update h.columns_describe fun c hc _ => h.columns_describe c hc
      · rw [map_update (fun c : Column => (c.table, c.field)) (fun c => c.id) id change.apply
          fun _ _ => rfl]
        exact h.columns_nodup
      · exact forall_mem_update h.columns_normal fun c hc _ =>
          ColumnChange.normal_apply (h.columns_normal c hc) change
      · rw [map_update (fun c : Column => c.id) (fun c => c.id) id change.apply fun _ _ => rfl]

theorem removeColumn (h : g.toDiagram.Valid) (id : Nat) :
    (g.removeColumn id).2.toDiagram.Valid := by
  rw [Graph.removeColumn_eq]
  refine Graph.allOrNothing_toDiagram h fun _ g' hok => ?_
  cases hc : g.column? id with
  | none => simp [hc] at hok
  | some c =>
      simp only [hc, Except.ok.injEq, Prod.mk.injEq] at hok
      obtain ⟨_, rfl⟩ := hok
      exact ⟨h.toConsistent.withColumns
          (fun c hc => h.columns_describe c (List.mem_filter.1 hc).1)
          (h.columns_nodup.sublist (List.filter_sublist.map _))
          (fun c hc => h.columns_normal c (List.mem_filter.1 hc).1),
        ids_nodup_of_sublist h.ids_nodup (List.Sublist.refl _) (List.Sublist.refl _)
          (List.filter_sublist.map _) (List.Sublist.refl _)⟩

theorem reorderColumns (h : g.toDiagram.Valid) (src dst : Nat) :
    (g.reorderColumns src dst).2.toDiagram.Valid := by
  rw [Graph.reorderColumns_eq]
  refine Graph.allOrNothing_toDiagram h fun _ g' hok => ?_
  split at hok
  · cases hok
  · split at hok
    · cases hok
    · next hdst =>
        cases hok
        -- no clause depends on the order
        have hperm : (moveItem g.columns src dst).Perm g.columns := moveItem_perm (by omega)
        refine ⟨h.toConsistent.withColumns
          (fun c hc => h.columns_describe c (hperm.mem_iff.1 hc))
          ((hperm.map _).nodup_iff.2 h.columns_nodup)
          (fun c hc => h.columns_normal c (hperm.mem_iff.1 hc)), ?_⟩
        have hids : (Diagram.ids { g.toDiagram with columns := moveItem g.columns src dst }).Perm
            g.ids := ((hperm.map _).append_left _).append_right _
        exact hids.nodup_iff.2 h.ids_nodup

/-! ### Filters -/

theorem addFilter (h : g.toDiagram.Valid) (table : Nat) (field : Int) :
    (g.addFilter table field).2.toDiagram.Valid := by
  rw [Graph.addFilter_eq]
  refine Graph.allOrNothing_toDiagram h fun _ g' hok => ?_
  obtain ⟨use, huse, hok⟩ := bind_eq_ok.1 hok
  cases hok
  obtain ⟨_, _, hdescribes⟩ := use_eq_ok.1 huse
  refine ⟨h.toConsistent.withFilters (forall_mem_add h.filters_describe hdescribes)
    (forall_mem_add h.filters_normal ⟨FieldClass.supports_eq _, fun _ => rfl⟩), ?_⟩
  exact ids_nodup_of_perm_cons h.ids_nodup Graph.nextId_not_mem (ids_withFilter g.toDiagram _)

/-- The comparison that a change brings passed the check against the type of the filter. -/
theorem supports_of_updateFilter {change : FilterChange} {f : Filter} {r : Unit × Graph α}
    {g' : Unit × Graph α}
    (hok : (do
      if let some comparison := change.comparison then
        Diagram.checkComparison comparison f.baseType
      return r) = Except.ok g') :
    (∀ c ∈ change.comparison, (FieldClass.ofBaseType f.baseType).supports c = true) ∧ g' = r := by
  cases hc : change.comparison with
  | none =>
      rw [hc] at hok
      cases hok
      exact ⟨by simp, rfl⟩
  | some c =>
      rw [hc] at hok
      obtain ⟨_, hcheck, hok⟩ := bind_eq_ok.1 hok
      cases hok
      refine ⟨?_, rfl⟩
      simpa using checkComparison_eq_ok.1 hcheck

theorem updateFilter (h : g.toDiagram.Valid) (id : Nat) (change : FilterChange) :
    (g.updateFilter id change).2.toDiagram.Valid := by
  rw [Graph.updateFilter_eq]
  refine Graph.allOrNothing_toDiagram h fun _ g' hok => ?_
  cases hf : g.filter? id with
  | none => simp [hf] at hok
  | some f =>
      simp only [hf] at hok
      obtain ⟨hsupports, hg'⟩ := supports_of_updateFilter hok
      cases hg'
      have hmem : f ∈ g.filters := List.mem_of_find?_eq_some hf
      have hfid : f.id = id := by simpa using List.find?_some hf
      refine ⟨h.toConsistent.withFilters ?_ ?_, ids_nodup_of_sublist h.ids_nodup
        (List.Sublist.refl _) (List.Sublist.refl _) (List.Sublist.refl _) ?_⟩
      · exact forall_mem_update h.filters_describe fun f hf _ => h.filters_describe f hf
      · refine forall_mem_update h.filters_normal fun old hold hid => ?_
        -- the changed filter is the one that was checked, because ids are distinct
        have hsame : old = f :=
          List.inj_on_of_nodup_map (filterIds_nodup h.ids_nodup) hold hmem (hid.trans hfid.symm)
        rw [hsame]
        exact FilterChange.normal_apply (h.filters_normal f hmem) hsupports
      · rw [map_update (fun f : Filter => f.id) (fun f => f.id) id change.apply fun _ _ => rfl]

theorem removeFilter (h : g.toDiagram.Valid) (id : Nat) :
    (g.removeFilter id).2.toDiagram.Valid := by
  rw [Graph.removeFilter_eq]
  refine Graph.allOrNothing_toDiagram h fun _ g' hok => ?_
  cases hf : g.filter? id with
  | none => simp [hf] at hok
  | some f =>
      simp only [hf, Except.ok.injEq, Prod.mk.injEq] at hok
      obtain ⟨_, rfl⟩ := hok
      exact ⟨h.toConsistent.withFilters
          (fun f hf => h.filters_describe f (List.mem_filter.1 hf).1)
          (fun f hf => h.filters_normal f (List.mem_filter.1 hf).1),
        ids_nodup_of_sublist h.ids_nodup (List.Sublist.refl _) (List.Sublist.refl _)
          (List.Sublist.refl _) (List.filter_sublist.map _)⟩

/-! ### Steps and runs -/

/-- **Every edit of a valid diagram leaves a valid one.** -/
theorem apply [Coordinate α] (h : g.toDiagram.Valid) (e : Edit α) :
    (g.apply e).toDiagram.Valid := by
  cases e with
  | setDatabase database => exact h.setDatabase database
  | addTable table => exact h.addTable table
  | removeTable id => exact h.removeTable id
  | moveTable id position => exact h.moveTable id position
  | commitPosition id position => exact h.moveTable id position
  | addJoin link => exact h.addJoin link
  | updateJoin id change => exact h.updateJoin id change
  | removeJoin id => exact h.removeJoin id
  | addColumn table field => exact h.addColumn table field
  | updateColumn id change => exact h.updateColumn id change
  | removeColumn id => exact h.removeColumn id
  | reorderColumns src dst => exact h.reorderColumns src dst
  | addFilter table field => exact h.addFilter table field
  | updateFilter id change => exact h.updateFilter id change
  | removeFilter id => exact h.removeFilter id
  | reset => exact ofEmpty
  | setExecuting executing => exact h
  | setError error => exact h
  | setResult result => exact h
  | begin => exact h
  | finish ticket outcome =>
      obtain ⟨_, _, _, hshown⟩ := g.finish_eq_shown ticket outcome
      rw [Graph.apply, hshown]
      exact h
  | abandon ticket =>
      obtain ⟨_, hshown⟩ := g.abandon_eq_shown ticket
      rw [Graph.apply, hshown]
      exact h
  | cancel => exact h

/-- **Every run of edits from a valid diagram leads to a valid one.** -/
theorem run [Coordinate α] (h : g.toDiagram.Valid) (edits : List (Edit α)) :
    (g.run edits).toDiagram.Valid :=
  Graph.run_induction (P := fun g => g.toDiagram.Valid) (fun _ e hg => Valid.apply hg e) h edits

end Diagram.Valid

end QueryBuilder

/-
**Which saved diagrams are accepted, and what they become.**

Loading compares each part of a saved diagram with those that were accepted before it.  This module
says what a whole saved diagram has to be like instead, and what it becomes: nothing is left out,
moved or renumbered, and columns and filters are put right.  Loading accepts no other diagrams, so
what it gives is valid, and it leaves a valid diagram as it is.

Main definitions:

* `QueryBuilder.Diagram.Loadable`, `QueryBuilder.Diagram.LoadsAs` — the saved diagrams that are
  accepted, and what they have to do with the diagrams they become.

Main results:

* `QueryBuilder.Diagram.accept_eq_ok_iff`, `QueryBuilder.Diagram.Loadable.exists_accept`,
  `QueryBuilder.Graph.load_iff` — **the saved diagrams that are accepted**;
* `QueryBuilder.Diagram.valid_accept` — **what is accepted is valid**;
* `QueryBuilder.Diagram.Valid.accept_eq` — **a valid diagram is accepted as it is**.
-/

import QueryBuilder.Proofs.Graph.Edits
import QueryBuilder.Proofs.Graph.Loading

set_option autoImplicit false

namespace QueryBuilder

variable {α : Type}

namespace Diagram

variable {d saved : Diagram α}

/-! ### When a whole diagram is accepted -/

/-- A saved diagram with distinct ids goes through the four passes. -/
theorem accept_of_nodup (h : saved.ids.Nodup) :
    saved.accept = (do
      let d ← saved.tables.foldlM acceptTable ⟨saved.database, [], [], [], []⟩
      let d ← saved.joins.foldlM acceptJoin d
      let d ← saved.columns.foldlM acceptColumn d
      saved.filters.foldlM acceptFilter d) := by
  unfold accept
  rw [repeated?_eq_none.2 ⟨h, by simp⟩]
  rfl

theorem ids_nodup_of_accept (h : saved.accept = .ok d) : saved.ids.Nodup := by
  unfold accept at h
  cases hr : repeated? [] saved.ids with
  | none => exact (repeated?_eq_none.1 hr).1
  | some id =>
      rw [hr] at h
      cases h

/-- A saved diagram is accepted if its ids are distinct and all its parts are accepted in turn. -/
theorem accept_eq_ok :
    saved.accept = .ok d ↔ saved.ids.Nodup ∧ ∃ d₁ d₂ d₃,
      saved.tables.foldlM acceptTable ⟨saved.database, [], [], [], []⟩ = .ok d₁ ∧
      saved.joins.foldlM acceptJoin d₁ = .ok d₂ ∧
      saved.columns.foldlM acceptColumn d₂ = .ok d₃ ∧
      saved.filters.foldlM acceptFilter d₃ = .ok d := by
  constructor
  · intro h
    have hids : saved.ids.Nodup := ids_nodup_of_accept h
    rw [accept_of_nodup hids] at h
    obtain ⟨d₁, h₁, h⟩ := bind_eq_ok.1 h
    obtain ⟨d₂, h₂, h⟩ := bind_eq_ok.1 h
    obtain ⟨d₃, h₃, h⟩ := bind_eq_ok.1 h
    exact ⟨hids, d₁, d₂, d₃, h₁, h₂, h₃, h⟩
  · rintro ⟨hids, d₁, d₂, d₃, h₁, h₂, h₃, h⟩
    rw [accept_of_nodup hids]
    exact bind_eq_ok.2 ⟨d₁, h₁, bind_eq_ok.2 ⟨d₂, h₂, bind_eq_ok.2 ⟨d₃, h₃, h⟩⟩⟩

/-- What a saved diagram has to be like: ids, catalog tables, aliases and shown fields are distinct,
all tables are of one database, which is the given one if there is one, joins connect two tables by
a field of each, columns name fields of tables, and so do filters, with comparisons that the
catalog's types of these fields admit. -/
structure Loadable (saved : Diagram α) : Prop where
  ids_nodup : saved.ids.Nodup
  catalogIds_nodup : (saved.tables.map (·.catalogId)).Nodup
  aliases_nodup : (saved.tables.map (·.aliasName)).Nodup
  one_database : ∀ t ∈ saved.tables, ∀ other ∈ saved.tables, t.database = other.database
  given_database : ∀ t ∈ saved.tables, ∀ database ∈ saved.database, t.database = database
  connects : ∀ j ∈ saved.joins, saved.Connects j.toLink
  columns_hasField : ∀ c ∈ saved.columns, saved.HasField c.table c.field
  columns_nodup : (saved.columns.map fun c => (c.table, c.field)).Nodup
  filters_admitted : ∀ f ∈ saved.filters, saved.Admits f

/-- What a saved diagram has to do with the one it becomes: no part is left out or moved, a missing
database is that of the tables, and columns and filters are put right. -/
structure LoadsAs (saved d : Diagram α) : Prop where
  database : d.database = saved.database.or (saved.tables.head?.map (·.database))
  tables : d.tables = saved.tables
  joins : d.joins = saved.joins
  columns : List.Forall₂ saved.RefreshesColumn saved.columns d.columns
  filters : List.Forall₂ saved.RefreshesFilter saved.filters d.filters

/-- All tables are of the chosen database if they are of one, which is the given one. -/
theorem forall_chosen_iff {given : Option Int} {tables : List (PlacedTable α)} :
    (∀ t ∈ tables, chosen given tables = some t.database) ↔
      (∀ t ∈ tables, ∀ other ∈ tables, t.database = other.database) ∧
        ∀ t ∈ tables, ∀ database ∈ given, t.database = database := by
  constructor
  · intro h
    refine ⟨fun t ht other hother => ?_, ?_⟩
    · exact Option.some.inj ((h t ht).symm.trans (h other hother))
    · rintro t ht database hdatabase
      rw [Option.mem_def.1 hdatabase] at h
      exact (Option.some.inj (h t ht)).symm
  · rintro ⟨hone, hgiven⟩ t ht
    cases given with
    | some database => rw [chosen_some, hgiven t ht database rfl]
    | none =>
        cases tables with
        | nil => cases ht
        | cons first rest => simp [chosen, hone first List.mem_cons_self t ht]

/-- **A saved diagram is accepted if it is loadable, and becomes what it loads as.** -/
theorem accept_eq_ok_iff : saved.accept = .ok d ↔ saved.Loadable ∧ saved.LoadsAs d := by
  rw [accept_eq_ok]
  constructor
  · rintro ⟨hids, d₁, d₂, d₃, h₁, h₂, h₃, h₄⟩
    obtain ⟨hcatalog, halias, hdatabase, rfl⟩ := foldlM_acceptTable_eq_ok.1 h₁
    obtain ⟨hconnects, rfl⟩ := foldlM_acceptJoin_eq_ok.1 h₂
    obtain ⟨hkeys, columns, hcolumns, rfl⟩ := foldlM_acceptColumn_eq_ok.1 h₃
    obtain ⟨filters, hfilters, rfl⟩ := foldlM_acceptFilter_eq_ok.1 h₄
    -- the half built diagrams have the tables of the saved one
    have hcolumns : List.Forall₂ saved.RefreshesColumn saved.columns columns :=
      hcolumns.imp fun _ _ h => h.of_tables rfl
    have hfilters : List.Forall₂ saved.RefreshesFilter saved.filters filters :=
      hfilters.imp fun _ _ h => h.of_tables rfl
    obtain ⟨hone, hgiven⟩ := forall_chosen_iff.1 hdatabase
    refine ⟨?_, rfl, rfl, rfl, hcolumns, hfilters⟩
    exact
      { ids_nodup := hids
        catalogIds_nodup := nil_freshKeys.1 hcatalog
        aliases_nodup := nil_freshKeys.1 halias
        one_database := hone
        given_database := hgiven
        connects := hconnects
        columns_hasField := fun c hc =>
          exists_refreshesColumn.1 (exists_forall₂_iff.1 ⟨columns, hcolumns⟩ c hc)
        columns_nodup := nil_freshKeys.1 hkeys
        filters_admitted := fun f hf =>
          exists_refreshesFilter.1 (exists_forall₂_iff.1 ⟨filters, hfilters⟩ f hf) }
  · rintro ⟨h, hloads⟩
    obtain ⟨database, tables, joins, columns, filters⟩ := d
    obtain ⟨rfl, rfl, rfl, hcolumns, hfilters⟩ := hloads
    refine ⟨h.ids_nodup, _, _, _,
      foldlM_acceptTable_eq_ok.2 ⟨nil_freshKeys.2 h.catalogIds_nodup, nil_freshKeys.2 h.aliases_nodup,
        forall_chosen_iff.2 ⟨h.one_database, h.given_database⟩, rfl⟩,
      foldlM_acceptJoin_eq_ok.2 ⟨h.connects, rfl⟩,
      foldlM_acceptColumn_eq_ok.2 ⟨nil_freshKeys.2 h.columns_nodup, columns,
        hcolumns.imp fun _ _ h => h.of_tables rfl, rfl⟩,
      foldlM_acceptFilter_eq_ok.2 ⟨filters, hfilters.imp fun _ _ h => h.of_tables rfl, rfl⟩⟩

/-- **A loadable diagram is accepted.** -/
theorem Loadable.exists_accept (h : saved.Loadable) : ∃ d, saved.accept = .ok d := by
  obtain ⟨columns, hcolumns⟩ : ∃ columns, List.Forall₂ saved.RefreshesColumn saved.columns columns :=
    exists_forall₂_iff.2 fun c hc => exists_refreshesColumn.2 (h.columns_hasField c hc)
  obtain ⟨filters, hfilters⟩ : ∃ filters, List.Forall₂ saved.RefreshesFilter saved.filters filters :=
    exists_forall₂_iff.2 fun f hf => exists_refreshesFilter.2 (h.filters_admitted f hf)
  exact ⟨⟨chosen saved.database saved.tables, saved.tables, saved.joins, columns, filters⟩,
    accept_eq_ok_iff.2 ⟨h, rfl, rfl, rfl, hcolumns, hfilters⟩⟩

/-! ### What is accepted is valid -/

/-- A loaded column is one that edits could have left behind. -/
theorem RefreshesColumn.normal {c c' : Column} (h : d.RefreshesColumn c c') : c'.Normal := by
  constructor
  · intro hne
    by_contra hnot
    refine hne (h.aggregation.trans (if_neg ?_))
    simpa [FieldClass.isAggregatable] using hnot
  · intro a ha
    rw [h.aliasName] at ha
    by_cases hblank : c.aliasName.any Text.isBlankText = true
    · simp [hblank] at ha
    · rw [if_neg hblank, Option.mem_def] at ha
      simpa [ha] using hblank

theorem RefreshesFilter.normal {f f' : Filter} (h : d.RefreshesFilter f f') : f'.Normal := by
  constructor
  · rw [h.comparison]
    exact h.supported
  · intro hunary
    rw [h.comparison] at hunary
    rw [h.value, if_pos hunary]

/-- A diagram has the ids of the saved one. -/
theorem LoadsAs.ids_eq (h : saved.LoadsAs d) : d.ids = saved.ids := by
  unfold ids
  rw [h.tables, h.joins, map_eq_of_forall₂ h.columns fun _ _ hc => hc.id,
    map_eq_of_forall₂ h.filters fun _ _ hf => hf.id]

/-- **What loading accepts is valid.** -/
theorem valid_accept (h : saved.accept = .ok d) : d.Valid := by
  obtain ⟨hsaved, hloads⟩ := accept_eq_ok_iff.1 h
  have hids : d.ids = saved.ids := hloads.ids_eq
  obtain ⟨database, tables, joins, columns, filters⟩ := d
  obtain ⟨rfl, rfl, rfl, hcolumns, hfilters⟩ := hloads
  exact
    { catalogIds_nodup := hsaved.catalogIds_nodup
      aliases_nodup := hsaved.aliases_nodup
      database_eq := forall_chosen_iff.2 ⟨hsaved.one_database, hsaved.given_database⟩
      connects := hsaved.connects
      columns_describe := forall_mem_of_forall₂ hcolumns fun _ _ hc => hc.describes.of_tables rfl
      columns_nodup := by
        rw [map_eq_of_forall₂ hcolumns fun _ _ hc => by rw [hc.table, hc.field]]
        exact hsaved.columns_nodup
      columns_normal := forall_mem_of_forall₂ hcolumns fun _ _ hc => hc.normal
      filters_describe := forall_mem_of_forall₂ hfilters fun _ _ hf => hf.describes.of_tables rfl
      filters_normal := forall_mem_of_forall₂ hfilters fun _ _ hf => hf.normal
      ids_nodup := hids ▸ hsaved.ids_nodup }

/-! ### What is valid is accepted -/

/-- **A column that edits left behind is loaded as it is.** -/
theorem refreshesColumn_self {c : Column} (hdescribes : d.Describes c.toFieldUse) (h : c.Normal) :
    d.RefreshesColumn c c where
  id := rfl
  table := rfl
  field := rfl
  describes := hdescribes
  aggregation := by
    by_cases hplain : c.aggregation = .plain
    · simp [hplain]
    · have := h.aggregation hplain
      rw [if_pos (by simpa [FieldClass.isAggregatable] using this)]
  aliasName := by
    have : c.aliasName.any Text.isBlankText = false := by
      cases ha : c.aliasName with
      | none => rfl
      | some a => exact h.aliasName a ha
    rw [this, if_neg (by simp)]

/-- So is a filter. -/
theorem refreshesFilter_self {f : Filter} (hdescribes : d.Describes f.toFieldUse) (h : f.Normal) :
    d.RefreshesFilter f f where
  id := rfl
  table := rfl
  field := rfl
  describes := hdescribes
  supported := h.supported
  comparison := rfl
  value := by
    by_cases hunary : f.comparison.isUnary = true
    · rw [if_pos hunary, h.value hunary]
    · rw [if_neg hunary]
  connective := rfl

/-- A valid diagram is loaded as it is. -/
theorem Valid.loadsAs (h : d.Valid) : d.LoadsAs d where
  database := by
    cases htables : d.tables with
    | nil => simp
    | cons t rest =>
        have : d.database = some t.database := h.database_eq t (by simp [htables])
        simp [this]
  tables := rfl
  joins := rfl
  columns := List.forall₂_same.2 fun c hc =>
    refreshesColumn_self (h.columns_describe c hc) (h.columns_normal c hc)
  filters := List.forall₂_same.2 fun f hf =>
    refreshesFilter_self (h.filters_describe f hf) (h.filters_normal f hf)

/-- A valid diagram can be loaded. -/
theorem Valid.loadable (h : d.Valid) : d.Loadable := by
  have hdatabase := forall_chosen_iff.1 fun t ht =>
    (h.loadsAs.database.symm.trans (h.database_eq t ht) : chosen d.database d.tables = _)
  exact
    { ids_nodup := h.ids_nodup
      catalogIds_nodup := h.catalogIds_nodup
      aliases_nodup := h.aliases_nodup
      one_database := hdatabase.1
      given_database := hdatabase.2
      connects := h.connects
      columns_hasField := fun c hc => (h.columns_describe c hc).hasField
      columns_nodup := h.columns_nodup
      filters_admitted := fun f hf => exists_refreshesFilter.1
        ⟨f, refreshesFilter_self (h.filters_describe f hf) (h.filters_normal f hf)⟩ }

/-- **A valid diagram is accepted as it is.** -/
theorem Valid.accept_eq (h : d.Valid) : d.accept = .ok d :=
  accept_eq_ok_iff.2 ⟨h.loadable, h.loadsAs⟩

end Diagram

/-! ### Graphs from saved diagrams -/

namespace Graph

variable [Coordinate α] {saved : Diagram α} {g : Graph α}

/-- Loading gives the diagram that is accepted. -/
theorem map_load (saved : Diagram α) :
    (load saved).map (·.toDiagram) = saved.accept := by
  unfold load
  cases saved.accept <;> rfl

/-- A graph is loaded if its diagram is accepted; nothing has happened to it yet. -/
theorem load_eq_ok :
    load saved = .ok g ↔ ∃ d, saved.accept = .ok d ∧ ofDiagram d .standard = g :=
  map_eq_ok

/-- **Loading accepts exactly the loadable diagrams.**  The graph has all parts of the saved diagram,
in the same order and under the same ids.  Only a missing database is filled in from the tables,
the names and types that columns and filters claim are replaced by those of the catalog, and
aggregations of what is no number, blank aliases and values of tests for null are dropped. -/
theorem load_iff (saved : Diagram α) :
    ((∃ g, load saved = .ok g) ↔ saved.Loadable) ∧
      ∀ g, load saved = .ok g → saved.LoadsAs g.toDiagram := by
  refine ⟨⟨?_, fun h => ?_⟩, fun g hg => ?_⟩
  · rintro ⟨g, hg⟩
    obtain ⟨d, hd, -⟩ := load_eq_ok.1 hg
    exact (Diagram.accept_eq_ok_iff.1 hd).1
  · obtain ⟨d, hd⟩ := h.exists_accept
    exact ⟨ofDiagram d .standard, load_eq_ok.2 ⟨d, hd, rfl⟩⟩
  · obtain ⟨d, hd, rfl⟩ := load_eq_ok.1 hg
    exact (Diagram.accept_eq_ok_iff.1 hd).2

/-- The sum of a text with a blank alias is shown as it is; of another database, nothing is
loaded. -/
theorem load_iff_sample :
    Sample.saved.Loadable ∧
    (∃ g, load Sample.saved = .ok g ∧ Sample.saved.LoadsAs g.toDiagram ∧ g.database = some 4 ∧
      g.columns = [⟨⟨3, 21, "name", "customers", "type/Text"⟩, 9, .plain, none⟩]) ∧
    ¬({ Sample.saved with database := some 5 } : Diagram Float).Loadable := by
  have hparts : (load Sample.saved).map (fun g => (g.database, g.columns)) =
      .ok (some 4, [⟨⟨3, 21, "name", "customers", "type/Text"⟩, 9, .plain, none⟩]) := by
    decide +kernel
  have hrefused : (load { Sample.saved with database := some 5 }).map (·.columns) =
      .error (.databaseMismatch 5 4) := by
    decide +kernel
  obtain ⟨g, hg, hparts⟩ := map_eq_ok.1 hparts
  obtain ⟨hdatabase, hcolumns⟩ := Prod.mk.inj hparts
  refine ⟨(load_iff _).1.1 ⟨g, hg⟩, ⟨g, hg, (load_iff _).2 g hg, hdatabase, hcolumns⟩, fun h => ?_⟩
  obtain ⟨g', hg'⟩ := (load_iff _).1.2 h
  cases hg'.symm.trans (map_eq_error.1 hrefused)

end Graph

end QueryBuilder

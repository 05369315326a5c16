/-
**Valid diagrams.**

What every diagram of a session satisfies: ids are distinct across all four kinds of parts, catalog
tables and aliases are distinct, all tables belong to the database of the diagram, joins connect
two tables by a field of each, columns and filters say of their fields what the catalog says, no
field is shown twice, and columns and filters hold only what edits leave behind.

A diagram is *consistent* if it satisfies all of this but the distinctness of ids.  Loading builds
a diagram whose ids were looked at before, and so the two parts are kept apart.

Main definitions:

* `QueryBuilder.Column.Normal`, `QueryBuilder.Filter.Normal` — columns and filters as edits leave
  them behind;
* `QueryBuilder.Diagram.Consistent`, `QueryBuilder.Diagram.Valid` — the two parts and the whole.

Main results:

* `QueryBuilder.Diagram.Consistent.withTable`, `QueryBuilder.Diagram.Consistent.withoutTable`,
  `QueryBuilder.Diagram.Consistent.moved` — tables may be added, taken away and moved;
* `QueryBuilder.Diagram.Consistent.withJoins`, `QueryBuilder.Diagram.Consistent.withColumns`,
  `QueryBuilder.Diagram.Consistent.withFilters` — the other parts may be replaced by fitting ones.
-/

import Mathlib.Data.List.Nodup
import QueryBuilder.Proofs.Graph.Checks

set_option autoImplicit false

namespace QueryBuilder

variable {α : Type}

/-! ### Columns and filters as edits leave them behind -/

/-- Only numbers are aggregated, and an alias says something. -/
structure Column.Normal (c : Column) : Prop where
  aggregation : c.aggregation ≠ .plain → (FieldClass.ofBaseType c.baseType).isAggregatable = true
  aliasName : ∀ a ∈ c.aliasName, Text.isBlankText a = false

/-- The type of the field admits the comparison, and tests for null have no value. -/
structure Filter.Normal (f : Filter) : Prop where
  supported : (FieldClass.ofBaseType f.baseType).supports f.comparison = true
  value : f.comparison.isUnary = true → f.value = none

/-- What is left of an aggregation is one that the type allows. -/
theorem Aggregation.allowedFor_ne_plain {a : Aggregation} {baseType : String}
    (h : a.allowedFor baseType ≠ .plain) :
    (FieldClass.ofBaseType baseType).isAggregatable = true := by
  unfold Aggregation.allowedFor at h
  by_contra hnot
  rw [if_neg hnot] at h
  exact h rfl

/-- A useful alias is not blank. -/
theorem isBlankText_of_mem_usefulAlias {aliasName : Option String} {a : String}
    (h : a ∈ usefulAlias aliasName) : Text.isBlankText a = false := by
  have := (Option.mem_filter_iff.1 h).2
  simpa using this

/-- Tests for null keep no value. -/
theorem Comparison.keptValue_of_isUnary {c : Comparison} (h : c.isUnary = true)
    (value : Option Literal) : c.keptValue value = none :=
  if_pos h

/-- Equality is admitted by fields of every type. -/
theorem FieldClass.supports_eq (c : FieldClass) : c.supports .eq = true := by
  cases c <;> decide

theorem ColumnChange.normal_apply {c : Column} (h : c.Normal) (change : ColumnChange) :
    (change.apply c).Normal := by
  constructor
  · intro hne
    cases ha : change.aggregation with
    | none => exact h.aggregation (by simpa [ColumnChange.apply, ha] using hne)
    | some a => exact Aggregation.allowedFor_ne_plain (by simpa [ColumnChange.apply, ha] using hne)
  · intro a hmem
    cases hn : change.aliasName with
    | none => exact h.aliasName a (by simpa [ColumnChange.apply, hn] using hmem)
    | some name =>
        exact isBlankText_of_mem_usefulAlias (by simpa [ColumnChange.apply, hn] using hmem)

theorem FilterChange.normal_apply {f : Filter} (h : f.Normal) {change : FilterChange}
    (hchange : ∀ c ∈ change.comparison, (FieldClass.ofBaseType f.baseType).supports c = true) :
    (change.apply f).Normal := by
  constructor
  · cases hc : change.comparison with
    | none => simpa [FilterChange.apply, hc] using h.supported
    | some c => simpa [FilterChange.apply, hc] using hchange c (by simp [hc])
  · intro hunary
    exact Comparison.keptValue_of_isUnary hunary _

namespace Diagram

/-! ### Consistency and validity -/

/-- All that holds of a valid diagram apart from its ids. -/
structure Consistent (d : Diagram α) : Prop where
  catalogIds_nodup : (d.tables.map (·.catalogId)).Nodup
  aliases_nodup : (d.tables.map (·.aliasName)).Nodup
  database_eq : ∀ t ∈ d.tables, d.database = some t.database
  connects : ∀ j ∈ d.joins, d.Connects j.toLink
  columns_describe : ∀ c ∈ d.columns, d.Describes c.toFieldUse
  columns_nodup : (d.columns.map fun c => (c.table, c.field)).Nodup
  columns_normal : ∀ c ∈ d.columns, c.Normal
  filters_describe : ∀ f ∈ d.filters, d.Describes f.toFieldUse
  filters_normal : ∀ f ∈ d.filters, f.Normal

/-- A diagram as a session can have it. -/
structure Valid (d : Diagram α) : Prop extends Consistent d where
  ids_nodup : d.ids.Nodup

/-- What a change does not touch stays the same in all items, changed or not. -/
theorem map_update {β κ : Type} (part : β → κ) (key : β → Nat) (id : Nat) (change : β → β)
    (hpart : ∀ b, key b = id → part (change b) = part b) (items : List β) :
    (items.map fun b => if key b = id then change b else b).map part = items.map part := by
  rw [List.map_map]
  refine List.map_congr_left fun b _ => ?_
  by_cases hb : key b = id
  · rw [Function.comp_apply, if_pos hb, hpart b hb]
  · rw [Function.comp_apply, if_neg hb]

/-! ### What depends on the tables only -/

/-- Fields are found in tables that are found under the same ids, with the same fields. -/
theorem HasField.mono {d d' : Diagram α} {table : Nat} {field : Int}
    (h : ∀ t, d.table? table = some t → ∃ t', d'.table? table = some t' ∧ t'.fields = t.fields)
    (hf : d.HasField table field) : d'.HasField table field := by
  obtain ⟨t, ht, hfield⟩ := hf
  obtain ⟨t', ht', heq⟩ := h t ht
  refine ⟨t', ht', ?_⟩
  simpa [PlacedTable.hasField, NewTable.field?, heq] using hfield

theorem Connects.mono {d d' : Diagram α} {l : Link}
    (h : ∀ id ∈ [l.source, l.target], ∀ t, d.table? id = some t →
      ∃ t', d'.table? id = some t' ∧ t'.fields = t.fields)
    (hc : d.Connects l) : d'.Connects l :=
  ⟨hc.1, hc.2.1.mono (h _ (by simp)), hc.2.2.mono (h _ (by simp))⟩

theorem Describes.mono {d d' : Diagram α} {u : FieldUse}
    (h : ∀ t, d.table? u.table = some t →
      ∃ t', d'.table? u.table = some t' ∧ t'.fields = t.fields ∧ t'.name = t.name)
    (hd : d.Describes u) : d'.Describes u := by
  obtain ⟨t, f, ht, hf, hname, htable, htype⟩ := hd
  obtain ⟨t', ht', hfields, hname'⟩ := h t ht
  refine ⟨t', f, ht', ?_, hname, htable.trans hname'.symm, htype⟩
  simpa [NewTable.field?, hfields] using hf

namespace Consistent

variable {d : Diagram α}

/-! ### Edits of tables -/

/-- A diagram without parts is consistent, whatever its database. -/
theorem ofEmpty (database : Option Int) : ({ empty with database } : Diagram α).Consistent := by
  constructor <;> simp [empty]

/-- The database may be chosen while there is no table. -/
theorem withDatabase (h : d.Consistent) (htables : d.tables = []) (database : Option Int) :
    ({ d with database } : Diagram α).Consistent :=
  { h with
    database_eq := by
      intro t ht
      simp [htables] at ht }

/-- A table of the same database may be added, if its catalog table and its alias are new. -/
theorem withTable (h : d.Consistent) (new : PlacedTable α)
    (hcatalog : ∀ t ∈ d.tables, t.catalogId ≠ new.catalogId)
    (halias : ∀ t ∈ d.tables, t.aliasName ≠ new.aliasName)
    (hdatabase : ∀ other ∈ d.database, other = new.database) :
    ({ d with database := some new.database, tables := d.tables ++ [new] } :
      Diagram α).Consistent where
  catalogIds_nodup := by
    rw [List.map_append, List.map_singleton, List.nodup_append]
    refine ⟨h.catalogIds_nodup, by simp, ?_⟩
    simpa using hcatalog
  aliases_nodup := by
    rw [List.map_append, List.map_singleton, List.nodup_append]
    refine ⟨h.aliases_nodup, by simp, ?_⟩
    simpa using halias
  database_eq := by
    intro t ht
    rcases List.mem_append.1 ht with ht | ht
    · rw [hdatabase t.database (h.database_eq t ht)]
    · rw [List.mem_singleton.1 ht]
  connects j hj :=
    (h.connects j hj).mono fun id _ t ht => ⟨t, table?_append ht _ _, rfl⟩
  columns_describe c hc :=
    (h.columns_describe c hc).mono fun t ht => ⟨t, table?_append ht _ _, rfl, rfl⟩
  columns_nodup := h.columns_nodup
  columns_normal := h.columns_normal
  filters_describe f hf :=
    (h.filters_describe f hf).mono fun t ht => ⟨t, table?_append ht _ _, rfl, rfl⟩
  filters_normal := h.filters_normal

/-- What an id other than the removed one names stays. -/
theorem table?_withoutTable {gone id : Nat} (h : id ≠ gone) :
    (d.withoutTable gone).table? id = d.table? id :=
  table?_filter h

/-- A table may be taken away with everything that refers to it. -/
theorem withoutTable (h : d.Consistent) (id : Nat) : (d.withoutTable id).Consistent where
  catalogIds_nodup := h.catalogIds_nodup.sublist (List.filter_sublist.map _)
  aliases_nodup := h.aliases_nodup.sublist (List.filter_sublist.map _)
  database_eq := by
    intro t ht
    have hmem : t ∈ d.tables := (List.mem_filter.1 ht).1
    have hne : (d.tables.filter fun t => t.id != id).isEmpty = false :=
      List.isEmpty_eq_false_iff.2 (List.ne_nil_of_mem ht)
    simp only [Diagram.withoutTable, hne]
    exact h.database_eq t hmem
  connects := by
    intro j hj
    obtain ⟨hmem, htouch⟩ := List.mem_filter.1 hj
    -- a join that is left does not touch the table, and so both of its ends are found as before
    have hends : j.source ≠ id ∧ j.target ≠ id := by simpa [Link.touches] using htouch
    refine (h.connects j hmem).mono fun i hi t ht => ⟨t, ?_, rfl⟩
    have hi' : i ≠ id := by
      rcases List.mem_pair.1 hi with rfl | rfl
      · exact hends.1
      · exact hends.2
    rw [table?_withoutTable hi']
    exact ht
  columns_describe := by
    intro c hc
    obtain ⟨hmem, hne⟩ := List.mem_filter.1 hc
    refine (h.columns_describe c hmem).mono fun t ht => ⟨t, ?_, rfl, rfl⟩
    rw [table?_withoutTable (by simpa using hne)]
    exact ht
  columns_nodup := h.columns_nodup.sublist (List.filter_sublist.map _)
  columns_normal c hc := h.columns_normal c (List.mem_filter.1 hc).1
  filters_describe := by
    intro f hf
    obtain ⟨hmem, hne⟩ := List.mem_filter.1 hf
    refine (h.filters_describe f hmem).mono fun t ht => ⟨t, ?_, rfl, rfl⟩
    rw [table?_withoutTable (by simpa using hne)]
    exact ht
  filters_normal f hf := h.filters_normal f (List.mem_filter.1 hf).1

/-- A moved table has the parts that it had. -/
theorem exists_table?_moved (moved : Nat) (position : Position α) {id : Nat} {t : PlacedTable α}
    (ht : d.table? id = some t) :
    ∃ t', (d.moved moved position).table? id = some t' ∧ t'.fields = t.fields ∧
      t'.name = t.name := by
  rw [table?_moved, ht]
  by_cases hid : t.id = moved
  · exact ⟨{ t with position }, by simp [hid], rfl, rfl⟩
  · exact ⟨t, by simp [hid], rfl, rfl⟩

/-- What a move does not change, it does not change in any table. -/
theorem map_moved {β : Type} (part : PlacedTable α → β) (moved : Nat) (position : Position α)
    (hpart : ∀ t : PlacedTable α, part { t with position } = part t) :
    (d.moved moved position).tables.map part = d.tables.map part :=
  map_update part (·.id) moved _ (fun t _ => hpart t) d.tables

/-- A table may be moved. -/
theorem moved (h : d.Consistent) (id : Nat) (position : Position α) :
    (d.moved id position).Consistent where
  catalogIds_nodup := by
    rw [map_moved _ id position fun _ => rfl]
    exact h.catalogIds_nodup
  aliases_nodup := by
    rw [map_moved _ id position fun _ => rfl]
    exact h.aliases_nodup
  database_eq := by
    intro t ht
    obtain ⟨t₀, ht₀, rfl⟩ := List.mem_map.1 ht
    have := h.database_eq t₀ ht₀
    by_cases hid : t₀.id = id <;> simpa [hid, Diagram.moved] using this
  connects := by
    intro j hj
    refine (h.connects j hj).mono fun i _ t ht => ?_
    obtain ⟨t', ht', hfields, _⟩ := exists_table?_moved id position ht
    exact ⟨t', ht', hfields⟩
  columns_describe c hc :=
    (h.columns_describe c hc).mono fun _ ht => exists_table?_moved id position ht
  columns_nodup := h.columns_nodup
  columns_normal := h.columns_normal
  filters_describe f hf :=
    (h.filters_describe f hf).mono fun _ ht => exists_table?_moved id position ht
  filters_normal := h.filters_normal

/-! ### Edits of the other parts -/

/-- The joins may be replaced by others that connect tables of the diagram. -/
theorem withJoins (h : d.Consistent) {joins : List Join}
    (hjoins : ∀ j ∈ joins, d.Connects j.toLink) : ({ d with joins } : Diagram α).Consistent :=
  { h with connects := hjoins }

/-- The columns may be replaced by others that fit the tables of the diagram. -/
theorem withColumns (h : d.Consistent) {columns : List Column}
    (hdescribe : ∀ c ∈ columns, d.Describes c.toFieldUse)
    (hnodup : (columns.map fun c => (c.table, c.field)).Nodup)
    (hnormal : ∀ c ∈ columns, c.Normal) : ({ d with columns } : Diagram α).Consistent :=
  { h with columns_describe := hdescribe, columns_nodup := hnodup, columns_normal := hnormal }

/-- The filters may be replaced by others that fit the tables of the diagram. -/
theorem withFilters (h : d.Consistent) {filters : List Filter}
    (hdescribe : ∀ f ∈ filters, d.Describes f.toFieldUse)
    (hnormal : ∀ f ∈ filters, f.Normal) : ({ d with filters } : Diagram α).Consistent :=
  { h with filters_describe := hdescribe, filters_normal := hnormal }

end Consistent

end Diagram

end QueryBuilder

/-
**Going through the parts of a saved diagram.**

Loading goes through a saved diagram part by part and compares each part with those that were
accepted before it, in a diagram that is only half built.  For each kind of parts, one statement
says when a part is accepted and what it adds, and another one says this of a pass over all of them.

Main definitions:

* `QueryBuilder.Column.refresh`, `QueryBuilder.Filter.refresh` — a saved part with what the catalog
  says of its field;
* `QueryBuilder.Diagram.RefreshesColumn`, `QueryBuilder.Diagram.RefreshesFilter` — what a saved
  part has to do with the one that is loaded for it;
* `QueryBuilder.FreshKeys` — new items that have keys of their own.

Main results:

* `QueryBuilder.Diagram.repeated?_eq_none` — the check of ids passes for distinct ones;
* `QueryBuilder.Diagram.acceptTable_eq_ok`, `QueryBuilder.Diagram.acceptJoin_eq_ok`,
  `QueryBuilder.Diagram.acceptColumn_eq_ok`, `QueryBuilder.Diagram.acceptFilter_eq_ok` — when a part
  is accepted, and what it adds;
* `QueryBuilder.Diagram.foldlM_acceptTable_eq_ok`, `QueryBuilder.Diagram.foldlM_acceptJoin_eq_ok`,
  `QueryBuilder.Diagram.foldlM_acceptColumn_eq_ok`,
  `QueryBuilder.Diagram.foldlM_acceptFilter_eq_ok` — the same for all parts of a kind.
-/

import Mathlib.Data.List.Forall2
import QueryBuilder.Proofs.Graph.Validity

set_option autoImplicit false

namespace QueryBuilder

variable {α : Type}

/-! ### Going through a list -/

section Lists

variable {β γ κ ε σ τ : Type}

/-- A pass over no items changes nothing. -/
theorem foldlM_nil_eq_ok {f : σ → τ → Except ε σ} {s s' : σ} :
    [].foldlM f s = .ok s' ↔ s' = s := by
  rw [List.foldlM_nil]
  constructor
  · intro h
    cases h
    rfl
  · rintro rfl
    rfl

/-- A pass goes through the first item, and through the rest from where this leads. -/
theorem foldlM_cons_eq_ok {f : σ → τ → Except ε σ} {item : τ} {rest : List τ} {s s' : σ} :
    (item :: rest).foldlM f s = .ok s' ↔
      ∃ next, f s item = .ok next ∧ rest.foldlM f next = .ok s' := by
  rw [List.foldlM_cons, bind_eq_ok]

/-- A list has a related one if each of its items has a related one. -/
theorem exists_forall₂_iff {R : β → γ → Prop} {items : List β} :
    (∃ new, List.Forall₂ R items new) ↔ ∀ b ∈ items, ∃ c, R b c := by
  induction items with
  | nil => simp
  | cons b items ih =>
      rw [List.forall_mem_cons, ← ih]
      constructor
      · rintro ⟨new, hnew⟩
        obtain ⟨c, rest, hc, hrest, -⟩ := List.forall₂_cons_left_iff.1 hnew
        exact ⟨⟨c, hc⟩, rest, hrest⟩
      · rintro ⟨⟨c, hc⟩, rest, hrest⟩
        exact ⟨c :: rest, .cons hc hrest⟩

/-- What a relation says of the second of two items holds of all items of a related list. -/
theorem forall_mem_of_forall₂ {R : β → γ → Prop} {P : γ → Prop} {items : List β} {new : List γ}
    (h : List.Forall₂ R items new) (hP : ∀ b c, R b c → P c) : ∀ c ∈ new, P c := by
  induction h with
  | nil => simp
  | cons hbc _ ih => exact List.forall_mem_cons.2 ⟨hP _ _ hbc, ih⟩

/-- What a relation does not change is the same in a related list. -/
theorem map_eq_of_forall₂ {R : β → γ → Prop} {part : β → κ} {part' : γ → κ} {items : List β}
    {new : List γ} (h : List.Forall₂ R items new) (hR : ∀ b c, R b c → part' c = part b) :
    new.map part' = items.map part := by
  induction h with
  | nil => rfl
  | cons hbc _ ih => rw [List.map_cons, List.map_cons, hR _ _ hbc, ih]

/-- New items have keys of their own, other than those of the items before them. -/
def FreshKeys (key : β → κ) (old new : List β) : Prop :=
  (new.map key).Nodup ∧ ∀ b ∈ new, ∀ other ∈ old, key other ≠ key b

@[simp] theorem freshKeys_nil (key : β → κ) (old : List β) : FreshKeys key old [] :=
  ⟨List.nodup_nil, by simp⟩

/-- With no items before them, keys need only be distinct. -/
theorem nil_freshKeys {key : β → κ} {new : List β} :
    FreshKeys key [] new ↔ (new.map key).Nodup := by
  simp [FreshKeys]

/-- The first of the new items has a key of its own, and the rest have others. -/
theorem freshKeys_cons {key : β → κ} {old rest : List β} {b : β} (b' : β)
    (hkey : key b' = key b) :
    FreshKeys key old (b :: rest) ↔
      (∀ other ∈ old, key other ≠ key b) ∧ FreshKeys key (old ++ [b']) rest := by
  simp only [FreshKeys, List.map_cons, List.nodup_cons, List.mem_map, List.forall_mem_cons,
    List.forall_mem_append, hkey, not_exists, not_and]
  constructor
  · rintro ⟨⟨hnot, hrest⟩, hfirst, hold⟩
    exact ⟨hfirst, hrest, fun c hc => ⟨hold c hc, fun heq => hnot c hc heq.symm, by simp⟩⟩
  · rintro ⟨hfirst, hrest, hall⟩
    exact ⟨⟨fun c hc heq => (hall c hc).2.1 heq.symm, hrest⟩, hfirst, fun c hc => (hall c hc).1⟩

end Lists

/-! ### Saved parts -/

/-- A saved column with what the catalog says of its field; what edits would not have left behind
is put right. -/
def Column.refresh (c : Column) (use : FieldUse) : Column :=
  { use with
    id := c.id
    aggregation := c.aggregation.allowedFor use.baseType
    aliasName := usefulAlias c.aliasName }

/-- A saved filter with what the catalog says of its field. -/
def Filter.refresh (f : Filter) (use : FieldUse) : Filter :=
  { use with
    id := f.id
    comparison := f.comparison
    value := f.comparison.keptValue f.value
    connective := f.connective }

/-- Only numbers are aggregated. -/
theorem Aggregation.allowedFor_eq (a : Aggregation) (baseType : String) :
    a.allowedFor baseType = if FieldClass.ofBaseType baseType = .numeric then a else .plain := by
  simp [Aggregation.allowedFor, FieldClass.isAggregatable]

/-- A blank alias is none. -/
theorem usefulAlias_eq (aliasName : Option String) :
    usefulAlias aliasName = if aliasName.any Text.isBlankText then none else aliasName := by
  cases aliasName with
  | none => rfl
  | some a => by_cases h : Text.isBlankText a <;> simp [usefulAlias, h]

namespace Diagram

variable {d d' : Diagram α}

/-- The column that is loaded for a saved one has its id, shows the same field, and says of it what
the catalog says.  An aggregation of what is no number is dropped, and so is a blank alias. -/
structure RefreshesColumn (d : Diagram α) (c c' : Column) : Prop where
  id : c'.id = c.id
  table : c'.table = c.table
  field : c'.field = c.field
  describes : d.Describes c'.toFieldUse
  aggregation : c'.aggregation =
    if FieldClass.ofBaseType c'.baseType = .numeric then c.aggregation else .plain
  aliasName : c'.aliasName = if c.aliasName.any Text.isBlankText then none else c.aliasName

/-- The filter that is loaded for a saved one has its id, asks of the same field, and says of it
what the catalog says, which has to admit the comparison.  The value of a test for null is
dropped. -/
structure RefreshesFilter (d : Diagram α) (f f' : Filter) : Prop where
  id : f'.id = f.id
  table : f'.table = f.table
  field : f'.field = f.field
  describes : d.Describes f'.toFieldUse
  supported : (FieldClass.ofBaseType f'.baseType).supports f.comparison = true
  comparison : f'.comparison = f.comparison
  value : f'.value = if f.comparison.isUnary then none else f.value
  connective : f'.connective = f.connective

theorem refreshesColumn_iff {c c' : Column} :
    d.RefreshesColumn c c' ↔ ∃ use : FieldUse, use.table = c.table ∧ use.field = c.field ∧
      d.Describes use ∧ c' = c.refresh use := by
  constructor
  · intro h
    refine ⟨c'.toFieldUse, h.table, h.field, h.describes, ?_⟩
    obtain ⟨use, id, aggregation, aliasName⟩ := c'
    obtain ⟨hid, -, -, -, haggregation, halias⟩ := h
    simp only at hid haggregation halias
    simp only [Column.refresh, Aggregation.allowedFor_eq, usefulAlias_eq]
    rw [hid, haggregation, halias]
  · rintro ⟨use, htable, hfield, hdescribes, rfl⟩
    refine ⟨rfl, htable, hfield, hdescribes, ?_, usefulAlias_eq c.aliasName⟩
    simp only [Column.refresh, Aggregation.allowedFor_eq]

theorem refreshesFilter_iff {f f' : Filter} :
    d.RefreshesFilter f f' ↔ ∃ use : FieldUse, use.table = f.table ∧ use.field = f.field ∧
      d.Describes use ∧ (FieldClass.ofBaseType use.baseType).supports f.comparison = true ∧
      f' = f.refresh use := by
  constructor
  · intro h
    refine ⟨f'.toFieldUse, h.table, h.field, h.describes, h.supported, ?_⟩
    obtain ⟨use, id, comparison, value, connective⟩ := f'
    obtain ⟨hid, -, -, -, -, hcomparison, hvalue, hconnective⟩ := h
    simp only at hid hcomparison hvalue hconnective
    rw [hid, hcomparison, hvalue, hconnective]
    rfl
  · rintro ⟨use, htable, hfield, hdescribes, hsupports, rfl⟩
    exact ⟨rfl, htable, hfield, hdescribes, hsupports, rfl, rfl, rfl⟩

/-- Of a diagram, only its tables say something of a field. -/
theorem Describes.of_tables {u : FieldUse} (h : d.Describes u) (htables : d'.tables = d.tables) :
    d'.Describes u := by
  refine h.mono fun t ht => ⟨t, ?_, rfl, rfl⟩
  rw [table?, htables]
  exact ht

theorem RefreshesColumn.of_tables {c c' : Column} (h : d.RefreshesColumn c c')
    (htables : d'.tables = d.tables) : d'.RefreshesColumn c c' :=
  { h with describes := h.describes.of_tables htables }

theorem RefreshesFilter.of_tables {f f' : Filter} (h : d.RefreshesFilter f f')
    (htables : d'.tables = d.tables) : d'.RefreshesFilter f f' :=
  { h with describes := h.describes.of_tables htables }

/-- A field of a table can be described. -/
theorem HasField.exists_describes {table : Nat} {field : Int} (h : d.HasField table field) :
    ∃ use : FieldUse, use.table = table ∧ use.field = field ∧ d.Describes use := by
  obtain ⟨t, ht, hfield⟩ := h
  obtain ⟨f, hf⟩ := Option.isSome_iff_exists.1 hfield
  exact ⟨⟨table, field, f.name, t.name, f.baseType⟩, rfl, rfl, t, f, ht, hf, rfl, rfl, rfl⟩

/-- A use that says what the catalog says names a field of a table. -/
theorem Describes.hasField {u : FieldUse} (h : d.Describes u) : d.HasField u.table u.field := by
  obtain ⟨t, f, ht, hf, -⟩ := h
  exact ⟨t, ht, by rw [PlacedTable.hasField, hf]; rfl⟩

/-- Any column of a field can be loaded. -/
theorem exists_refreshesColumn {c : Column} :
    (∃ c', d.RefreshesColumn c c') ↔ d.HasField c.table c.field := by
  constructor
  · rintro ⟨c', h⟩
    have := h.describes.hasField
    rwa [h.table, h.field] at this
  · intro h
    obtain ⟨use, htable, hfield, hdescribes⟩ := h.exists_describes
    exact ⟨_, refreshesColumn_iff.2 ⟨use, htable, hfield, hdescribes, rfl⟩⟩

/-- A filter is admitted if it names a field of a table, and the type that the catalog knows of this
field admits the comparison. -/
def Admits (d : Diagram α) (f : Filter) : Prop :=
  ∃ t field, d.table? f.table = some t ∧ t.field? f.field = some field ∧
    (FieldClass.ofBaseType field.baseType).supports f.comparison = true

/-- Any admitted filter can be loaded. -/
theorem exists_refreshesFilter {f : Filter} : (∃ f', d.RefreshesFilter f f') ↔ d.Admits f := by
  constructor
  · rintro ⟨f', h⟩
    obtain ⟨t, field, ht, hfield, -, -, htype⟩ := h.describes
    rw [h.table] at ht
    rw [h.field] at hfield
    exact ⟨t, field, ht, hfield, htype ▸ h.supported⟩
  · rintro ⟨t, field, ht, hfield, hsupports⟩
    exact ⟨_, refreshesFilter_iff.2 ⟨⟨f.table, f.field, field.name, t.name, field.baseType⟩, rfl, rfl,
      ⟨t, field, ht, hfield, rfl, rfl, rfl⟩, hsupports, rfl⟩⟩

/-! ### When a part is accepted -/

/-- **No id is reported if and only if all are distinct** from each other and from those before. -/
theorem repeated?_eq_none {seen ids : List Nat} :
    repeated? seen ids = none ↔ ids.Nodup ∧ ∀ id ∈ ids, id ∉ seen := by
  induction ids generalizing seen with
  | nil => simp [repeated?]
  | cons id rest ih =>
      unfold repeated?
      by_cases hid : id ∈ seen
      · simp [hid]
      · have hcontains : seen.contains id = false := by simpa using hid
        rw [hcontains, if_neg (by simp), ih]
        simp only [List.nodup_cons, List.mem_cons, not_or, forall_eq_or_imp]
        constructor
        · rintro ⟨hrest, hnew⟩
          exact ⟨⟨fun hmem => (hnew id hmem).1 rfl, hrest⟩, hid, fun i hi => (hnew i hi).2⟩
        · rintro ⟨⟨hnot, hrest⟩, _, hnew⟩
          exact ⟨hrest, fun i hi => ⟨fun heq => hnot (heq ▸ hi), hnew i hi⟩⟩

/-- A table is accepted if its catalog table and its alias are new and the database fits. -/
theorem acceptTable_eq_ok {t : PlacedTable α} :
    d.acceptTable t = .ok d' ↔
      (∀ other ∈ d.tables, other.catalogId ≠ t.catalogId) ∧
      (∀ other ∈ d.tables, other.aliasName ≠ t.aliasName) ∧
      (∀ other ∈ d.database, other = t.database) ∧
      d' = { d with database := some t.database, tables := d.tables ++ [t] } := by
  unfold acceptTable
  constructor
  · intro h
    obtain ⟨_, hcatalog, h⟩ := bind_eq_ok.1 h
    obtain ⟨_, halias, h⟩ := bind_eq_ok.1 h
    obtain ⟨_, hdatabase, h⟩ := bind_eq_ok.1 h
    cases h
    exact ⟨checkCatalogId_eq_ok.1 hcatalog, checkAlias_eq_ok.1 halias,
      checkDatabase_eq_ok.1 hdatabase, rfl⟩
  · rintro ⟨hcatalog, halias, hdatabase, rfl⟩
    exact bind_eq_ok.2 ⟨(), checkCatalogId_eq_ok.2 hcatalog,
      bind_eq_ok.2 ⟨(), checkAlias_eq_ok.2 halias,
        bind_eq_ok.2 ⟨(), checkDatabase_eq_ok.2 hdatabase, rfl⟩⟩⟩

/-- A join is accepted if it connects two tables. -/
theorem acceptJoin_eq_ok {j : Join} :
    d.acceptJoin j = .ok d' ↔ d.Connects j.toLink ∧ d' = { d with joins := d.joins ++ [j] } := by
  unfold acceptJoin
  constructor
  · intro h
    obtain ⟨_, hlink, h⟩ := bind_eq_ok.1 h
    cases h
    exact ⟨checkLink_eq_ok.1 hlink, rfl⟩
  · rintro ⟨hlink, rfl⟩
    exact bind_eq_ok.2 ⟨(), checkLink_eq_ok.2 hlink, rfl⟩

/-- A column is accepted if its field is known and not shown yet. -/
theorem acceptColumn_eq_ok {c : Column} :
    d.acceptColumn c = .ok d' ↔
      (∀ other ∈ d.columns, (other.table, other.field) ≠ (c.table, c.field)) ∧
      ∃ c', d.RefreshesColumn c c' ∧ d' = { d with columns := d.columns ++ [c'] } := by
  unfold acceptColumn
  constructor
  · intro h
    obtain ⟨use, huse, h⟩ := bind_eq_ok.1 h
    obtain ⟨_, hunused, h⟩ := bind_eq_ok.1 h
    cases h
    obtain ⟨htable, hfield, hdescribes⟩ := use_eq_ok.1 huse
    have hkey : (use.table, use.field) = (c.table, c.field) := by rw [htable, hfield]
    exact ⟨hkey ▸ checkUnused_eq_ok.1 hunused, c.refresh use,
      refreshesColumn_iff.2 ⟨use, htable, hfield, hdescribes, rfl⟩, rfl⟩
  · rintro ⟨hunused, c', hc, rfl⟩
    obtain ⟨use, htable, hfield, hdescribes, rfl⟩ := refreshesColumn_iff.1 hc
    have hkey : (use.table, use.field) = (c.table, c.field) := by rw [htable, hfield]
    exact bind_eq_ok.2 ⟨use, use_eq_ok.2 ⟨htable, hfield, hdescribes⟩,
      bind_eq_ok.2 ⟨(), checkUnused_eq_ok.2 (hkey ▸ hunused), rfl⟩⟩

/-- A filter is accepted if its field is known and of a type that admits the comparison. -/
theorem acceptFilter_eq_ok {f : Filter} :
    d.acceptFilter f = .ok d' ↔
      ∃ f', d.RefreshesFilter f f' ∧ d' = { d with filters := d.filters ++ [f'] } := by
  unfold acceptFilter
  constructor
  · intro h
    obtain ⟨use, huse, h⟩ := bind_eq_ok.1 h
    obtain ⟨_, hsupports, h⟩ := bind_eq_ok.1 h
    cases h
    obtain ⟨htable, hfield, hdescribes⟩ := use_eq_ok.1 huse
    exact ⟨f.refresh use, refreshesFilter_iff.2
      ⟨use, htable, hfield, hdescribes, checkComparison_eq_ok.1 hsupports, rfl⟩, rfl⟩
  · rintro ⟨f', hf, rfl⟩
    obtain ⟨use, htable, hfield, hdescribes, hsupports, rfl⟩ := refreshesFilter_iff.1 hf
    exact bind_eq_ok.2 ⟨use, use_eq_ok.2 ⟨htable, hfield, hdescribes⟩,
      bind_eq_ok.2 ⟨(), checkComparison_eq_ok.2 hsupports, rfl⟩⟩

/-! ### When all parts of a kind are accepted -/

/-- The database that is given, or else that of the first table. -/
def chosen (given : Option Int) (tables : List (PlacedTable α)) : Option Int :=
  given.or (tables.head?.map (·.database))

@[simp] theorem chosen_nil (given : Option Int) :
    chosen given ([] : List (PlacedTable α)) = given := by
  simp [chosen]

@[simp] theorem chosen_some (database : Int) (tables : List (PlacedTable α)) :
    chosen (some database) tables = some database := rfl

/-- The first table is one of the chosen database if no other one is given. -/
theorem chosen_cons {given : Option Int} {t : PlacedTable α} {tables : List (PlacedTable α)} :
    chosen given (t :: tables) = some t.database ↔ ∀ other ∈ given, other = t.database := by
  cases given with
  | none => simp [chosen]
  | some other => simp [chosen]

/-- **Tables are accepted if their catalog tables and aliases are new and distinct, and all are of
one database.**  They are compared one by one with those before them, so the database that the
first one brings along is the one that is given for the rest. -/
theorem foldlM_acceptTable_eq_ok {tables : List (PlacedTable α)} :
    tables.foldlM acceptTable d = .ok d' ↔
      FreshKeys (·.catalogId) d.tables tables ∧ FreshKeys (·.aliasName) d.tables tables ∧
      (∀ t ∈ tables, chosen d.database tables = some t.database) ∧
      d' = { d with database := chosen d.database tables, tables := d.tables ++ tables } := by
  induction tables generalizing d with
  | nil =>
      rw [foldlM_nil_eq_ok]
      simp
  | cons t tables ih =>
      rw [foldlM_cons_eq_ok, freshKeys_cons t rfl, freshKeys_cons t rfl]
      constructor
      · rintro ⟨d₁, ht, hrest⟩
        obtain ⟨hcatalog, halias, hdatabase, rfl⟩ := acceptTable_eq_ok.1 ht
        obtain ⟨hcatalogs, haliases, hdatabases, rfl⟩ := ih.1 hrest
        have hfirst : chosen d.database (t :: tables) = some t.database := chosen_cons.2 hdatabase
        refine ⟨⟨hcatalog, hcatalogs⟩, ⟨halias, haliases⟩, ?_, by simp [hfirst]⟩
        rw [hfirst]
        exact List.forall_mem_cons.2 ⟨rfl, hdatabases⟩
      · rintro ⟨⟨hcatalog, hcatalogs⟩, ⟨halias, haliases⟩, hdatabases, rfl⟩
        obtain ⟨hfirst, hdatabases⟩ := List.forall_mem_cons.1 hdatabases
        rw [hfirst] at hdatabases
        exact ⟨{ d with database := some t.database, tables := d.tables ++ [t] },
          acceptTable_eq_ok.2 ⟨hcatalog, halias, chosen_cons.1 hfirst, rfl⟩,
          ih.2 ⟨hcatalogs, haliases, hdatabases, by simp [hfirst]⟩⟩

/-- Joins are accepted if all of them connect two tables. -/
theorem foldlM_acceptJoin_eq_ok {joins : List Join} :
    joins.foldlM acceptJoin d = .ok d' ↔
      (∀ j ∈ joins, d.Connects j.toLink) ∧ d' = { d with joins := d.joins ++ joins } := by
  induction joins generalizing d with
  | nil =>
      rw [foldlM_nil_eq_ok]
      simp
  | cons j joins ih =>
      rw [foldlM_cons_eq_ok]
      constructor
      · rintro ⟨d₁, hj, hrest⟩
        obtain ⟨hconnects, rfl⟩ := acceptJoin_eq_ok.1 hj
        obtain ⟨hall, rfl⟩ := ih.1 hrest
        exact ⟨List.forall_mem_cons.2 ⟨hconnects, hall⟩, by simp⟩
      · rintro ⟨hall, rfl⟩
        obtain ⟨hconnects, hrest⟩ := List.forall_mem_cons.1 hall
        exact ⟨_, acceptJoin_eq_ok.2 ⟨hconnects, rfl⟩, ih.2 ⟨hrest, by simp⟩⟩

/-- **Columns are accepted if their fields are known, new and distinct.** -/
theorem foldlM_acceptColumn_eq_ok {columns : List Column} :
    columns.foldlM acceptColumn d = .ok d' ↔
      FreshKeys (fun c => (c.table, c.field)) d.columns columns ∧
      ∃ new, List.Forall₂ d.RefreshesColumn columns new ∧
        d' = { d with columns := d.columns ++ new } := by
  induction columns generalizing d with
  | nil =>
      rw [foldlM_nil_eq_ok]
      simp
  | cons c columns ih =>
      rw [foldlM_cons_eq_ok]
      constructor
      · rintro ⟨d₁, hc, hrest⟩
        obtain ⟨hunused, c', hc', rfl⟩ := acceptColumn_eq_ok.1 hc
        obtain ⟨hkeys, new, hnew, rfl⟩ := ih.1 hrest
        refine ⟨(freshKeys_cons c' ?_).2 ⟨hunused, hkeys⟩, c' :: new, .cons hc' ?_, by simp⟩
        · rw [hc'.table, hc'.field]
        · exact hnew.imp fun _ _ h => h.of_tables rfl
      · rintro ⟨hkeys, new, hnew, rfl⟩
        obtain ⟨c', rest, hc', hrest, rfl⟩ := List.forall₂_cons_left_iff.1 hnew
        have hkey : (c'.table, c'.field) = (c.table, c.field) := by rw [hc'.table, hc'.field]
        obtain ⟨hunused, hkeys⟩ := (freshKeys_cons c' hkey).1 hkeys
        exact ⟨_, acceptColumn_eq_ok.2 ⟨hunused, c', hc', rfl⟩,
          ih.2 ⟨hkeys, rest, hrest.imp fun _ _ h => h.of_tables rfl, by simp⟩⟩

/-- **Filters are accepted if their fields are known and of types that admit the comparisons.** -/
theorem foldlM_acceptFilter_eq_ok {filters : List Filter} :
    filters.foldlM acceptFilter d = .ok d' ↔
      ∃ new, List.Forall₂ d.RefreshesFilter filters new ∧
        d' = { d with filters := d.filters ++ new } := by
  induction filters generalizing d with
  | nil =>
      rw [foldlM_nil_eq_ok]
      simp
  | cons f filters ih =>
      rw [foldlM_cons_eq_ok]
      constructor
      · rintro ⟨d₁, hf, hrest⟩
        obtain ⟨f', hf', rfl⟩ := acceptFilter_eq_ok.1 hf
        obtain ⟨new, hnew, rfl⟩ := ih.1 hrest
        exact ⟨f' :: new, .cons hf' (hnew.imp fun _ _ h => h.of_tables rfl), by simp⟩
      · rintro ⟨new, hnew, rfl⟩
        obtain ⟨f', rest, hf', hrest, rfl⟩ := List.forall₂_cons_left_iff.1 hnew
        exact ⟨_, acceptFilter_eq_ok.2 ⟨f', hf', rfl⟩,
          ih.2 ⟨rest, hrest.imp fun _ _ h => h.of_tables rfl, by simp⟩⟩

end Diagram

end QueryBuilder

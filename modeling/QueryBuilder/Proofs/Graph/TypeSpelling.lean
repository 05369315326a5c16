/-
**Graphs do not depend on how types are spelled.**

A graph keeps the types of fields as the catalog spells them, in the fields of its tables and in its
columns and filters.  All that it ever asks of a type is its class: when a column is to be
aggregated, when a filter is to compare otherwise, and when both are loaded.  So a graph in which
some types are spelled otherwise, each place by itself, accepts and refuses the same changes and
coerces the same aggregations, and what comes out differs in the spelling of types only.  A refusal
shows the type as it is spelled, so there the messages differ, too.

Main definitions:

* `QueryBuilder.Column.TypedAlike`, `QueryBuilder.Filter.TypedAlike`,
  `QueryBuilder.PlacedTable.TypedAlike`, `QueryBuilder.Diagram.TypedAlike`,
  `QueryBuilder.Graph.TypedAlike` — parts and graphs that differ in the spelling of types only;
* `QueryBuilder.GraphError.TypedAlike`, `QueryBuilder.AnsweredAlike` — refusals and answers that do.

Main results:

* `QueryBuilder.Graph.TypedAlike.updateColumn`, `QueryBuilder.Graph.TypedAlike.updateFilter` — the
  edits that look at the class of a type;
* `QueryBuilder.Diagram.TypedAlike.accept` — loading, which looks at the classes of all;
* `QueryBuilder.FieldClass.spelling_immaterial` — **the spelling of a type decides nothing**.
-/

import QueryBuilder.Proofs.Catalog.Decoration
import QueryBuilder.Proofs.Graph.Edits
import QueryBuilder.Proofs.Graph.Loading
import QueryBuilder.Proofs.Graph.Spelling

set_option autoImplicit false

namespace QueryBuilder

open FieldClass

variable {α : Type}

/-! ### Parts in another spelling -/

/-- A field whose type is spelled otherwise. -/
def Field.TypedAlike (f f' : Field) : Prop :=
  ∃ baseType, SameType f.baseType baseType ∧ f' = { f with baseType }

/-- A use of a field whose type is spelled otherwise. -/
def FieldUse.TypedAlike (u u' : FieldUse) : Prop :=
  ∃ baseType, SameType u.baseType baseType ∧ u' = { u with baseType }

/-- A column whose type is spelled otherwise. -/
def Column.TypedAlike (c c' : Column) : Prop :=
  ∃ baseType, SameType c.baseType baseType ∧ c' = { c with baseType }

/-- A filter whose type is spelled otherwise. -/
def Filter.TypedAlike (f f' : Filter) : Prop :=
  ∃ baseType, SameType f.baseType baseType ∧ f' = { f with baseType }

/-- A table in which types of fields are spelled otherwise. -/
def PlacedTable.TypedAlike (t t' : PlacedTable α) : Prop :=
  ∃ fields, List.Forall₂ Field.TypedAlike t.fields fields ∧ t' = { t with fields }

/-- A diagram in which types are spelled otherwise. -/
def Diagram.TypedAlike (d d' : Diagram α) : Prop :=
  ∃ tables columns filters, List.Forall₂ PlacedTable.TypedAlike d.tables tables ∧
    List.Forall₂ Column.TypedAlike d.columns columns ∧
    List.Forall₂ Filter.TypedAlike d.filters filters ∧ d' = { d with tables, columns, filters }

/-- A graph in which types are spelled otherwise. -/
def Graph.TypedAlike (g g' : Graph α) : Prop :=
  ∃ d, g.toDiagram.TypedAlike d ∧ g' = { g with toDiagram := d }

/-- Refusals that differ in the spelling of the type that they name. -/
inductive GraphError.TypedAlike : GraphError → GraphError → Prop where
  | refl (e : GraphError) : TypedAlike e e
  | unsupported (comparison : Comparison) {baseType baseType' : String}
      (h : SameType baseType baseType') :
      TypedAlike (.unsupportedComparison comparison baseType)
        (.unsupportedComparison comparison baseType')

/-- Answers that are both refusals, or both give something. -/
inductive AnsweredAlike {β γ : Type} (R : β → γ → Prop) :
    Except GraphError β → Except GraphError γ → Prop where
  | ok {b : β} {c : γ} (h : R b c) : AnsweredAlike R (.ok b) (.ok c)
  | error {e e' : GraphError} (h : e.TypedAlike e') : AnsweredAlike R (.error e) (.error e')

/-! ### Steps after each other -/

section Steps

variable {β γ β' γ' σ τ : Type} {R : β → γ → Prop} {S : β' → γ' → Prop}

/-- An answer is like itself. -/
theorem AnsweredAlike.of_eq {x : Except GraphError β} : AnsweredAlike Eq x x := by
  cases x with
  | error e => exact .error (.refl e)
  | ok b => exact .ok rfl

/-- Steps that are alike, after answers that are. -/
theorem AnsweredAlike.bind {x : Except GraphError β} {y : Except GraphError γ}
    {f : β → Except GraphError β'} {g : γ → Except GraphError γ'} (h : AnsweredAlike R x y)
    (hfg : ∀ b c, R b c → AnsweredAlike S (f b) (g c)) :
    AnsweredAlike S (x >>= f) (y >>= g) := by
  cases h with
  | ok hbc => exact hfg _ _ hbc
  | error he => exact .error he

/-- Passes over lists of items that are alike, by induction on the lists; what is carried along is
that the states are alike. -/
theorem AnsweredAlike.foldlM {R : σ → σ → Prop} {P : τ → τ → Prop}
    {f : σ → τ → Except GraphError σ} {items items' : List τ} {s s' : σ}
    (hitems : List.Forall₂ P items items') (hs : R s s')
    (hf : ∀ s s' i i', R s s' → P i i' → AnsweredAlike R (f s i) (f s' i')) :
    AnsweredAlike R (items.foldlM f s) (items'.foldlM f s') := by
  induction hitems generalizing s s' with
  | nil => exact .ok hs
  | cons hi _ ih =>
      rw [List.foldlM_cons, List.foldlM_cons]
      exact (hf _ _ _ _ hs hi).bind fun _ _ hnext => ih hnext

end Steps

/-! ### What checks see -/

/-- Items that are alike have a property alike. -/
theorem any_eq_of_forall₂ {β : Type} {R : β → β → Prop} {items items' : List β} {p : β → Bool}
    (h : List.Forall₂ R items items') (hp : ∀ b c, R b c → p c = p b) : items'.any p = items.any p := by
  have hmap := map_eq_of_forall₂ h hp
  have hany : ∀ items : List β, items.any p = (items.map p).any id := fun items => by
    rw [List.any_map, Function.id_comp]
  rw [hany, hany, hmap]

section Tables

variable {t t' : PlacedTable α}

/-- The fields with an id are alike. -/
theorem PlacedTable.TypedAlike.field? (h : t.TypedAlike t') (id : Int) :
    Option.Rel Field.TypedAlike (t.field? id) (t'.field? id) := by
  obtain ⟨fields, hfields, rfl⟩ := h
  refine find?_rel hfields ?_
  rintro f _ ⟨_, -, rfl⟩
  rfl

theorem PlacedTable.TypedAlike.name_eq (h : t.TypedAlike t') : t'.name = t.name := by
  obtain ⟨fields, -, rfl⟩ := h
  rfl

theorem PlacedTable.TypedAlike.hasField_eq (h : t.TypedAlike t') (id : Int) :
    t'.hasField id = t.hasField id := by
  rw [PlacedTable.hasField, PlacedTable.hasField]
  exact (isSome_eq_of_rel (h.field? id)).symm

end Tables

namespace Diagram.TypedAlike

variable {d d' : Diagram α}

/-- Ids are the same. -/
theorem ids_eq (h : d.TypedAlike d') : d'.ids = d.ids := by
  obtain ⟨tables, columns, filters, htables, hcolumns, hfilters, rfl⟩ := h
  have htableIds : tables.map (·.id) = d.tables.map (·.id) := by
    refine map_eq_of_forall₂ htables ?_
    rintro t _ ⟨_, -, rfl⟩
    rfl
  have hcolumnIds : columns.map (·.id) = d.columns.map (·.id) := by
    refine map_eq_of_forall₂ hcolumns ?_
    rintro c _ ⟨_, -, rfl⟩
    rfl
  have hfilterIds : filters.map (·.id) = d.filters.map (·.id) := by
    refine map_eq_of_forall₂ hfilters ?_
    rintro f _ ⟨_, -, rfl⟩
    rfl
  rw [ids, ids, htableIds, hcolumnIds, hfilterIds]

/-- The tables with an id are alike. -/
theorem table? (h : d.TypedAlike d') (id : Nat) :
    Option.Rel PlacedTable.TypedAlike (d.table? id) (d'.table? id) := by
  obtain ⟨tables, columns, filters, htables, -, -, rfl⟩ := h
  refine find?_rel htables ?_
  rintro t _ ⟨_, -, rfl⟩
  rfl

/-- The columns with an id are alike. -/
theorem column? (h : d.TypedAlike d') (id : Nat) :
    Option.Rel Column.TypedAlike (d.column? id) (d'.column? id) := by
  obtain ⟨tables, columns, filters, -, hcolumns, -, rfl⟩ := h
  refine find?_rel hcolumns ?_
  rintro c _ ⟨_, -, rfl⟩
  rfl

/-- The filters with an id are alike. -/
theorem filter? (h : d.TypedAlike d') (id : Nat) :
    Option.Rel Filter.TypedAlike (d.filter? id) (d'.filter? id) := by
  obtain ⟨tables, columns, filters, -, -, hfilters, rfl⟩ := h
  refine find?_rel hfilters ?_
  rintro f _ ⟨_, -, rfl⟩
  rfl

/-! ### Checks -/

theorem checkCatalogId_eq (h : d.TypedAlike d') (catalogId : Int) :
    d'.checkCatalogId catalogId = d.checkCatalogId catalogId := by
  obtain ⟨tables, columns, filters, htables, -, -, rfl⟩ := h
  rw [checkCatalogId, checkCatalogId, any_eq_of_forall₂ htables]
  rintro t _ ⟨_, -, rfl⟩
  rfl

theorem checkAlias_eq (h : d.TypedAlike d') (aliasName : String) :
    d'.checkAlias aliasName = d.checkAlias aliasName := by
  obtain ⟨tables, columns, filters, htables, -, -, rfl⟩ := h
  rw [checkAlias, checkAlias, any_eq_of_forall₂ htables]
  rintro t _ ⟨_, -, rfl⟩
  rfl

theorem checkDatabase_eq (h : d.TypedAlike d') (database : Int) :
    d'.checkDatabase database = d.checkDatabase database := by
  obtain ⟨tables, columns, filters, -, -, -, rfl⟩ := h
  rfl

theorem checkKey_eq (h : d.TypedAlike d') (table : Nat) (field : Int) :
    d'.checkKey table field = d.checkKey table field := by
  have htable := h.table? table
  rw [checkKey, checkKey]
  generalize d.table? table = found, d'.table? table = found' at htable ⊢
  cases htable with
  | none => rfl
  | some ht => simp only [ht.hasField_eq, ht.name_eq]

theorem checkLink_eq (h : d.TypedAlike d') (l : Link) : d'.checkLink l = d.checkLink l := by
  simp only [checkLink, h.checkKey_eq]

/-- What is known of a field differs in the spelling of its type. -/
theorem use_alike (h : d.TypedAlike d') (table : Nat) (field : Int) :
    AnsweredAlike FieldUse.TypedAlike (d.use table field) (d'.use table field) := by
  have htable := h.table? table
  rw [use, use]
  generalize d.table? table = found, d'.table? table = found' at htable ⊢
  cases htable with
  | none => exact .error (.refl _)
  | @some t t' ht =>
      have hfield := ht.field? field
      simp only [ht.name_eq]
      generalize t.field? field = found, t'.field? field = found' at hfield ⊢
      cases hfield with
      | none => exact .error (.refl _)
      | some hf =>
          obtain ⟨baseType, htype, rfl⟩ := hf
          exact .ok ⟨baseType, htype, rfl⟩

end Diagram.TypedAlike

/-- A comparison is admitted for both spellings of a type, or refused for both. -/
theorem Diagram.checkComparison_alike {baseType baseType' : String} (h : SameType baseType baseType')
    (comparison : Comparison) :
    AnsweredAlike Eq (checkComparison comparison baseType) (checkComparison comparison baseType') := by
  rw [checkComparison, checkComparison, h.ofBaseType_eq]
  split
  · exact .ok rfl
  · exact .error (.unsupported comparison h)

/-- An aggregation is coerced for both spellings of a type, or for none. -/
theorem Aggregation.allowedFor_alike {baseType baseType' : String} (h : SameType baseType baseType')
    (a : Aggregation) : a.allowedFor baseType' = a.allowedFor baseType := by
  rw [allowedFor, allowedFor, h.ofBaseType_eq]

/-! ### Changes of columns and filters -/

/-- The same change of columns that are alike. -/
theorem ColumnChange.apply_alike (change : ColumnChange) {c c' : Column} (h : c.TypedAlike c') :
    (change.apply c).TypedAlike (change.apply c') := by
  obtain ⟨baseType, htype, rfl⟩ := h
  refine ⟨baseType, htype, ?_⟩
  simp only [ColumnChange.apply, Aggregation.allowedFor_alike htype]

/-- The same change of filters that are alike. -/
theorem FilterChange.apply_alike (change : FilterChange) {f f' : Filter} (h : f.TypedAlike f') :
    (change.apply f).TypedAlike (change.apply f') := by
  obtain ⟨baseType, htype, rfl⟩ := h
  exact ⟨baseType, htype, rfl⟩

/-- Lists that are alike, with the same change at the same places. -/
theorem forall₂_map_change {β : Type} {R : β → β → Prop} {items items' : List β} {id : β → Nat}
    {changed : β → β} (h : List.Forall₂ R items items') (hid : ∀ b c, R b c → id c = id b)
    (hchanged : ∀ b c, R b c → R (changed b) (changed c)) (i : Nat) :
    List.Forall₂ R (items.map fun b => if id b = i then changed b else b)
      (items'.map fun b => if id b = i then changed b else b) := by
  rw [List.forall₂_map_left_iff, List.forall₂_map_right_iff]
  refine h.imp fun b c hbc => ?_
  rw [hid b c hbc]
  split
  · exact hchanged b c hbc
  · exact hbc

namespace Graph.TypedAlike

variable {g g' : Graph α}

/-- Edits that have answers that are alike leave graphs that are. -/
theorem allOrNothing {β : Type} (h : g.TypedAlike g') {x x' : Except GraphError (β × Graph α)}
    (hx : AnsweredAlike (fun r r' => r'.1 = r.1 ∧ r.2.TypedAlike r'.2) x x') :
    AnsweredAlike Eq (g.allOrNothing x).1 (g'.allOrNothing x').1 ∧
      (g.allOrNothing x).2.TypedAlike (g'.allOrNothing x').2 := by
  cases hx with
  | ok hr => exact ⟨.ok hr.1.symm, hr.2⟩
  | error he => exact ⟨.error he, h⟩

/-- **A change of a column has the same answer** and leaves columns with the same aggregations. -/
theorem updateColumn (h : g.TypedAlike g') (id : Nat) (change : ColumnChange) :
    AnsweredAlike Eq (g.updateColumn id change).1 (g'.updateColumn id change).1 ∧
      (g.updateColumn id change).2.TypedAlike (g'.updateColumn id change).2 := by
  rw [updateColumn_eq, updateColumn_eq]
  refine h.allOrNothing ?_
  obtain ⟨d, hd, rfl⟩ := h
  have hcolumn := hd.column? id
  dsimp only
  generalize g.column? id = found, d.column? id = found' at hcolumn ⊢
  cases hcolumn with
  | none => exact .error (.refl _)
  | some _ =>
      obtain ⟨tables, columns, filters, htables, hcolumns, hfilters, rfl⟩ := hd
      refine .ok ⟨rfl, _, ⟨tables, _, filters, htables, ?_, hfilters, rfl⟩, rfl⟩
      refine forall₂_map_change hcolumns ?_ (fun _ _ => change.apply_alike) id
      rintro c _ ⟨_, -, rfl⟩
      rfl

/-- **A change of a filter is accepted or refused alike**. -/
theorem updateFilter (h : g.TypedAlike g') (id : Nat) (change : FilterChange) :
    AnsweredAlike Eq (g.updateFilter id change).1 (g'.updateFilter id change).1 ∧
      (g.updateFilter id change).2.TypedAlike (g'.updateFilter id change).2 := by
  rw [updateFilter_eq, updateFilter_eq]
  refine h.allOrNothing ?_
  obtain ⟨d, hd, rfl⟩ := h
  have hfilter := hd.filter? id
  dsimp only
  generalize g.filter? id = found, d.filter? id = found' at hfilter ⊢
  cases hfilter with
  | none => exact .error (.refl _)
  | @some f f' hf =>
      have hchanged : ({ g with filters := g.filters.map fun f =>
            if f.id = id then change.apply f else f } : Graph α).TypedAlike
          { g with toDiagram := { d with filters := d.filters.map fun f =>
            if f.id = id then change.apply f else f } } := by
        obtain ⟨tables, columns, filters, htables, hcolumns, hfilters, rfl⟩ := hd
        refine ⟨_, ⟨tables, columns, _, htables, hcolumns, ?_, rfl⟩, rfl⟩
        refine forall₂_map_change hfilters ?_ (fun _ _ => change.apply_alike) id
        rintro f _ ⟨_, -, rfl⟩
        rfl
      obtain ⟨baseType, htype, rfl⟩ := hf
      cases change.comparison with
      | none => exact .ok ⟨rfl, hchanged⟩
      | some comparison =>
          exact (Diagram.checkComparison_alike htype comparison).bind fun _ _ _ =>
            .ok ⟨rfl, hchanged⟩

end Graph.TypedAlike

/-! ### Loading -/

namespace Diagram.TypedAlike

variable {d d' : Diagram α}

theorem acceptTable (h : d.TypedAlike d') {t t' : PlacedTable α} (ht : t.TypedAlike t') :
    AnsweredAlike Diagram.TypedAlike (d.acceptTable t) (d'.acceptTable t') := by
  obtain ⟨fields, hfields, rfl⟩ := id ht
  simp only [Diagram.acceptTable, h.checkCatalogId_eq, h.checkAlias_eq, h.checkDatabase_eq]
  refine AnsweredAlike.of_eq.bind fun _ _ _ => AnsweredAlike.of_eq.bind fun _ _ _ =>
    AnsweredAlike.of_eq.bind fun _ _ _ => .ok ?_
  obtain ⟨tables, columns, filters, htables, hcolumns, hfilters, rfl⟩ := h
  exact ⟨_, columns, filters, List.rel_append htables (.cons ht .nil), hcolumns, hfilters, rfl⟩

theorem acceptJoin (h : d.TypedAlike d') (j : Join) :
    AnsweredAlike Diagram.TypedAlike (d.acceptJoin j) (d'.acceptJoin j) := by
  simp only [Diagram.acceptJoin, h.checkLink_eq]
  refine AnsweredAlike.of_eq.bind fun _ _ _ => .ok ?_
  obtain ⟨tables, columns, filters, htables, hcolumns, hfilters, rfl⟩ := h
  exact ⟨tables, columns, filters, htables, hcolumns, hfilters, rfl⟩

theorem checkUnused_eq (h : d.TypedAlike d') {use use' : FieldUse} (huse : use.TypedAlike use') :
    d'.checkUnused use' = d.checkUnused use := by
  obtain ⟨_, -, rfl⟩ := huse
  obtain ⟨tables, columns, filters, -, hcolumns, -, rfl⟩ := h
  rw [checkUnused, checkUnused, any_eq_of_forall₂ hcolumns]
  rintro c _ ⟨_, -, rfl⟩
  rfl

theorem acceptColumn (h : d.TypedAlike d') {c c' : Column} (hc : c.TypedAlike c') :
    AnsweredAlike Diagram.TypedAlike (d.acceptColumn c) (d'.acceptColumn c') := by
  obtain ⟨_, -, rfl⟩ := hc
  refine (h.use_alike c.table c.field).bind fun use use' huse => ?_
  simp only [h.checkUnused_eq huse]
  refine AnsweredAlike.of_eq.bind fun _ _ _ => .ok ?_
  obtain ⟨baseType, htype, rfl⟩ := huse
  obtain ⟨tables, columns, filters, htables, hcolumns, hfilters, rfl⟩ := h
  refine ⟨tables, _, filters, htables, List.rel_append hcolumns (.cons ?_ .nil), hfilters, rfl⟩
  refine ⟨baseType, htype, ?_⟩
  simp only [Aggregation.allowedFor_alike htype]

theorem acceptFilter (h : d.TypedAlike d') {f f' : Filter} (hf : f.TypedAlike f') :
    AnsweredAlike Diagram.TypedAlike (d.acceptFilter f) (d'.acceptFilter f') := by
  obtain ⟨_, -, rfl⟩ := hf
  refine (h.use_alike f.table f.field).bind fun use use' huse => ?_
  obtain ⟨baseType, htype, rfl⟩ := huse
  refine (checkComparison_alike htype f.comparison).bind fun _ _ _ => .ok ?_
  obtain ⟨tables, columns, filters, htables, hcolumns, hfilters, rfl⟩ := h
  exact ⟨tables, columns, _, htables, hcolumns,
    List.rel_append hfilters (.cons ⟨baseType, htype, rfl⟩ .nil), rfl⟩

/-- **A saved diagram is loaded or refused alike** in both spellings. -/
theorem accept (h : d.TypedAlike d') :
    AnsweredAlike Diagram.TypedAlike d.accept d'.accept := by
  have hids := h.ids_eq
  obtain ⟨tables, columns, filters, htables, hcolumns, hfilters, rfl⟩ := h
  have hjoins : List.Forall₂ Eq d.joins d.joins := List.forall₂_refl _
  have hparts : AnsweredAlike Diagram.TypedAlike
      (d.tables.foldlM Diagram.acceptTable { Diagram.empty with database := d.database } >>= fun s =>
        d.joins.foldlM Diagram.acceptJoin s >>= fun s =>
          d.columns.foldlM Diagram.acceptColumn s >>= fun s =>
            d.filters.foldlM Diagram.acceptFilter s)
      (tables.foldlM Diagram.acceptTable { Diagram.empty with database := d.database } >>= fun s =>
        d.joins.foldlM Diagram.acceptJoin s >>= fun s =>
          columns.foldlM Diagram.acceptColumn s >>= fun s =>
            filters.foldlM Diagram.acceptFilter s) := by
    have hstart : ({ Diagram.empty with database := d.database } : Diagram α).TypedAlike
        { Diagram.empty with database := d.database } :=
      ⟨[], [], [], .nil, .nil, .nil, rfl⟩
    refine (AnsweredAlike.foldlM htables hstart fun _ _ _ _ hs => hs.acceptTable).bind
      fun _ _ hs => ?_
    refine (AnsweredAlike.foldlM hjoins hs fun _ _ j _ hs hj => hj ▸ hs.acceptJoin j).bind
      fun _ _ hs => ?_
    refine (AnsweredAlike.foldlM hcolumns hs fun _ _ _ _ hs => hs.acceptColumn).bind
      fun _ _ hs => ?_
    exact AnsweredAlike.foldlM hfilters hs fun _ _ _ _ hs => hs.acceptFilter
  rw [Diagram.accept, Diagram.accept, hids]
  cases repeated? [] d.ids with
  | none => exact hparts
  | some id => exact .error (.refl _)

end Diagram.TypedAlike

/-- Graphs that are made of diagrams that are alike. -/
theorem Graph.TypedAlike.load [Coordinate α] {d d' : Diagram α} (h : d.TypedAlike d') :
    AnsweredAlike Graph.TypedAlike (Graph.load d) (Graph.load d') := by
  have haccept := h.accept
  rw [Graph.load, Graph.load]
  generalize d.accept = loaded, d'.accept = loaded' at haccept ⊢
  cases haccept with
  | ok hloaded => exact .ok ⟨_, hloaded, rfl⟩
  | error he => exact .error he

/-! ### All spellings of a type -/

/-- **The spelling of a type decides nothing.**  A plain name of a type and the name with decoration
around it, in any case, are of the same class.  So in graphs that differ in the spelling of types
only, changes of columns have the same answers and coerce the same aggregations, changes of filters
are accepted or refused alike, and saved diagrams are loaded or refused alike. -/
theorem FieldClass.spelling_immaterial [Coordinate α] :
    (∀ name spelling : String, IsPlain name → Decorates name spelling →
      ofBaseType spelling = ofBaseType name) ∧
    (∀ g g' : Graph α, g.TypedAlike g' → ∀ id change,
      AnsweredAlike Eq (g.updateColumn id change).1 (g'.updateColumn id change).1 ∧
        (g.updateColumn id change).2.TypedAlike (g'.updateColumn id change).2) ∧
    (∀ g g' : Graph α, g.TypedAlike g' → ∀ id change,
      AnsweredAlike Eq (g.updateFilter id change).1 (g'.updateFilter id change).1 ∧
        (g.updateFilter id change).2.TypedAlike (g'.updateFilter id change).2) ∧
    (∀ d d' : Diagram α, d.TypedAlike d' →
      AnsweredAlike Graph.TypedAlike (Graph.load d) (Graph.load d')) :=
  ⟨fun _ _ hname h => h.ofBaseType_eq hname, fun _ _ h => h.updateColumn, fun _ _ h => h.updateFilter,
    fun _ _ h => Graph.TypedAlike.load h⟩

/-- Spellings of one type: with its namespace, with an argument behind a space that does not break, in
capitals, and with several of these.  The column is summed in both graphs, a search for a part of a
text is refused in both, and both can be loaded. -/
theorem FieldClass.spelling_immaterial_sample :
    let use (baseType : String) : FieldUse := ⟨7, 12, "total", "orders", baseType⟩
    let graph (ofField ofColumn ofFilter : String) : Graph Float := .ofDiagram
      { database := some 4
        tables := [{ catalogId := 1, name := "orders", schema := none, database := 4
                     fields := [⟨12, "total", "", ofField, none, none⟩]
                     id := 7, aliasName := "o", position := ⟨50, 50⟩ }]
        joins := []
        columns := [⟨use ofColumn, 1, .plain, none⟩]
        filters := [⟨use ofFilter, 2, .gt, none, .and⟩] } .standard
    let g := graph "FLOAT" "type/Float" "FLOAT"
    let g' := graph "type/FLOAT (53)" "Float\u00a0(10,2)" "TYPE/float"
    IsPlain "float" ∧ Decorates "float" "Float\u00a0(10,2)" ∧
      ofBaseType "Float\u00a0(10,2)" = ofBaseType "float" ∧ g.TypedAlike g' ∧
      (g.updateColumn 1 ⟨some .sum, none⟩).2.TypedAlike (g'.updateColumn 1 ⟨some .sum, none⟩).2 ∧
      (g'.updateColumn 1 ⟨some .sum, none⟩).2.columns.map (·.aggregation) = [.sum] ∧
      AnsweredAlike Eq (g.updateFilter 2 ⟨some .contains, none, none⟩).1
        (g'.updateFilter 2 ⟨some .contains, none, none⟩).1 ∧
      (g'.updateFilter 2 ⟨some .contains, none, none⟩).1 =
        .error (.unsupportedComparison .contains "TYPE/float") ∧
      AnsweredAlike Graph.TypedAlike (Graph.load g.toDiagram) (Graph.load g'.toDiagram) ∧
      (Graph.load g'.toDiagram).toOption.isSome = true := by
  intro use graph g g'
  have hplain : IsPlain "float" := by decide
  have hnamespace : Decorates "float" "type/Float" := ⟨⟨true, "", none, rfl⟩, by decide⟩
  have hargument : Decorates "float" "Float\u00a0(10,2)" :=
    ⟨⟨false, "\u00a0", some "10,2)", by decide⟩, by decide⟩
  have hcapitals : Decorates "float" "FLOAT" := ⟨⟨false, "", none, rfl⟩, by decide⟩
  have hmixed : Decorates "float" "TYPE/float" := ⟨⟨true, "", none, rfl⟩, by decide⟩
  have hall : Decorates "float" "type/FLOAT (53)" :=
    ⟨⟨true, " ", some "53)", by decide⟩, by decide⟩
  have hd : g.toDiagram.TypedAlike g'.toDiagram :=
    ⟨_, _, _, .cons ⟨_, .cons ⟨_, .decorated hplain hcapitals hall, rfl⟩ .nil, rfl⟩ .nil,
      .cons ⟨_, .decorated hplain hnamespace hargument, rfl⟩ .nil,
      .cons ⟨_, .decorated hplain hcapitals hmixed, rfl⟩ .nil, rfl⟩
  have hg : g.TypedAlike g' := ⟨_, hd, rfl⟩
  obtain ⟨hclass, hcolumn, hfilter, hload⟩ := @FieldClass.spelling_immaterial Float _
  exact ⟨hplain, hargument, hclass _ _ hplain hargument, hg, (hcolumn g g' hg _ _).2,
    by decide +kernel, (hfilter g g' hg _ _).1, by decide +kernel, hload _ _ hd, by decide +kernel⟩

end QueryBuilder

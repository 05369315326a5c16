/-
**Queries in pieces.**

The query of a diagram has one clause for each join, one projection for each column, and a condition
that is put together from one comparison for each filter.  An outline keeps these pieces in three
lists, so that the piece of each part of the diagram is found at the place of this part.  The
condition of the query is what the comparisons make from the left.

Pieces name tables by alias and by catalog table.  They are the same in two diagrams in which the
ids that they come from name tables alike.

Main definitions:

* `QueryBuilder.Outline`, `QueryBuilder.Outline.query` — the pieces, and the query that they make;
* `QueryBuilder.Diagram.Outlines` — the pieces belong to the parts of a diagram, in order;
* `QueryBuilder.Diagram.Spells` — the pieces are made from these parts;
* `QueryBuilder.Diagram.NamesAlike` — an id names tables alike in two diagrams;
* `QueryBuilder.keptParts` — the pieces of some of the parts.

Main results:

* `QueryBuilder.Diagram.Valid.exists_spells`, `QueryBuilder.Diagram.Spells.query?_eq`,
  `QueryBuilder.Diagram.Spells.outlines` — the query of a valid diagram in pieces;
* `QueryBuilder.Diagram.Spells.congr`, `QueryBuilder.Diagram.Spells.filter` — **the pieces of the
  same parts, and of those that are left**.
-/

import QueryBuilder.Proofs.Graph.Faithfulness

set_option autoImplicit false

namespace QueryBuilder

variable {α : Type}

/-! ### Outlines -/

/-- The comparison of a leaf, as a condition. -/
def Leaf.condition (leaf : Leaf) : Condition :=
  .compare leaf.comparison leaf.field leaf.value

/-- A condition with one more comparison on its right, by the connective that comes with it.  The
first comparison needs no connective. -/
def Condition.extend (before : Option Condition) (step : Connective × Leaf) : Option Condition :=
  match before with
  | none => some step.2.condition
  | some lhs => some (.combine step.1 lhs step.2.condition)

/-- The pieces of a query. -/
structure Outline where
  source : Int
  clauses : List JoinClause
  projections : List Projection
  /-- The comparisons, each with the connective that joins it to those before it. -/
  steps : List (Connective × Leaf)

/-- The query that the pieces make.  Its condition takes up the comparisons from the left. -/
def Outline.query (o : Outline) : Query :=
  ⟨o.source, o.clauses, o.projections, o.steps.foldl Condition.extend none⟩

/-- The pieces of those parts that have a property, if each part has the piece at its place. -/
def keptParts {β γ : Type} (p : β → Bool) (parts : List β) (pieces : List γ) : List γ :=
  ((parts.zip pieces).filter fun x => p x.1).map Prod.snd

theorem map_filter_eq_keptParts {β γ : Type} (p : β → Bool) (f : β → γ) (parts : List β) :
    (parts.filter p).map f = keptParts p parts (parts.map f) := by
  unfold keptParts
  induction parts with
  | nil => rfl
  | cons part parts ih =>
      rw [List.map_cons, List.zip_cons_cons]
      by_cases hp : p part = true
      · simp [hp, ih]
      · simp [hp, ih]

theorem keptParts_map {β γ δ : Type} (p : β → Bool) (f : γ → δ) (parts : List β)
    (pieces : List γ) :
    keptParts p parts (pieces.map f) = (keptParts p parts pieces).map f := by
  simp only [keptParts, List.zip_map_right, List.filter_map, List.map_map]
  rfl

namespace Diagram

/-! ### What an outline has to do with a diagram -/

/-- The pieces belong to the parts of a diagram, in order: clauses to joins, projections to columns,
and comparisons with their connectives to filters. -/
structure Outlines (d : Diagram α) (root : PlacedTable α) (o : Outline) : Prop where
  source : o.source = root.catalogId
  clauses : List.Forall₂ (d.Keeps root) d.joins o.clauses
  projections : List.Forall₂ (d.Shows root) d.columns o.projections
  steps : List.Forall₂ (fun f step => step.1 = f.connective ∧ d.Asks root f step.2) d.filters
    o.steps

/-- The comparison that a filter becomes, with its connective. -/
def step (d : Diagram α) (root : PlacedTable α) (f : Filter) : Connective × Leaf :=
  (f.connective, ⟨f.comparison, d.fieldRef root f.table f.field, f.comparison.keptValue f.value⟩)

/-- The pieces are those that the query of a diagram is made of, and no join is left out. -/
structure Spells (d : Diagram α) (root : PlacedTable α) (o : Outline) : Prop where
  source : root.catalogId = o.source
  clauses : d.joins.map (d.joinClause? root) = o.clauses.map some
  projections : d.columns.map (d.projection root) = o.projections
  steps : d.filters.map (d.step root) = o.steps

variable {d d' : Diagram α} {root root' : PlacedTable α} {o : Outline}

theorem condition?_eq (d : Diagram α) (root : PlacedTable α) :
    d.condition? root = (d.filters.map (d.step root)).foldl Condition.extend none := by
  rw [List.foldl_map]
  rfl

theorem Spells.joinClauses_eq (h : d.Spells root o) :
    d.joins.filterMap (d.joinClause? root) = o.clauses := by
  have hmap : d.joins.filterMap (d.joinClause? root) =
      (d.joins.map (d.joinClause? root)).filterMap id := by
    rw [List.filterMap_map]
    rfl
  rw [hmap, h.clauses, List.filterMap_map]
  exact List.filterMap_some

/-- **The pieces make the query.** -/
theorem Spells.query?_eq (h : d.Spells root o) (hroot : d.tables.head? = some root) :
    d.query? = some o.query := by
  rw [query?, hroot, Option.map_some, condition?_eq, h.joinClauses_eq, h.source, h.projections,
    h.steps, Outline.query]

theorem map_eq_map_some_filterMap {β γ : Type} {f : β → Option γ} {items : List β}
    (h : ∀ b ∈ items, ∃ c, f b = some c) : items.map f = (items.filterMap f).map some := by
  induction items with
  | nil => rfl
  | cons b items ih =>
      obtain ⟨c, hc⟩ := h b List.mem_cons_self
      rw [List.map_cons, List.filterMap_cons_some hc, List.map_cons, hc,
        ih fun b hb => h b (List.mem_cons_of_mem _ hb)]

/-- The query of a valid diagram is made of pieces. -/
theorem Valid.exists_spells (h : d.Valid) (hroot : root ∈ d.tables) : ∃ o, d.Spells root o := by
  refine ⟨⟨root.catalogId, d.joins.filterMap (d.joinClause? root), _, _⟩, rfl, ?_, rfl, rfl⟩
  refine map_eq_map_some_filterMap fun j hj => ?_
  obtain ⟨clause, hclause, -⟩ := h.keeps_joinClause hroot hj
  exact ⟨clause, hclause⟩

/-- **The pieces belong to the parts of the diagram.** -/
theorem Spells.outlines (hs : d.Spells root o) (h : d.Valid) (hroot : root ∈ d.tables) :
    d.Outlines root o where
  source := hs.source.symm
  clauses := by
    rw [← hs.joinClauses_eq]
    exact forall₂_filterMap fun j hj => h.keeps_joinClause hroot hj
  projections := by
    rw [← hs.projections]
    exact forall₂_map fun c hc => h.shows_projection hroot hc
  steps := by
    rw [← hs.steps]
    exact forall₂_map fun f hf => ⟨rfl, h.asks_comparison hroot hf⟩

/-! ### Diagrams that name tables alike -/

/-- An id names tables of the same alias and catalog table in two diagrams, or none in either. -/
def NamesAlike (d d' : Diagram α) (id : Nat) : Prop :=
  (d'.table? id).map (fun t => (t.aliasName, t.catalogId)) =
    (d.table? id).map fun t => (t.aliasName, t.catalogId)

theorem namesAlike_of_eq {id : Nat} (h : d'.table? id = d.table? id) : d.NamesAlike d' id :=
  congrArg _ h

theorem NamesAlike.fieldRef_eq {table : Nat} (h : d.NamesAlike d' table)
    (hroot : root'.id = root.id) (field : Int) :
    d'.fieldRef root' table field = d.fieldRef root table field := by
  have halias := congrArg (Option.map Prod.fst) h
  simp only [Option.map_map] at halias
  unfold fieldRef
  rw [hroot]
  congr 2

theorem joinClause?_congr {j : Join} (hsource : d.NamesAlike d' j.source)
    (htarget : d.NamesAlike d' j.target) (hroot : root'.id = root.id) :
    d'.joinClause? root' j = d.joinClause? root j := by
  unfold joinClause?
  rw [hsource.fieldRef_eq hroot, htarget.fieldRef_eq hroot]
  have hmap := congrArg (Option.map fun names : String × Int =>
    (⟨names.1, names.2, d.fieldRef root j.source j.sourceField,
      d.fieldRef root j.target j.targetField, j.kind⟩ : JoinClause)) htarget
  simpa only [Option.map_map, Function.comp_def] using hmap

theorem projection_congr {c : Column} (h : d.NamesAlike d' c.table) (hroot : root'.id = root.id) :
    d'.projection root' c = d.projection root c := by
  simp only [projection, h.fieldRef_eq hroot]

theorem step_congr {f : Filter} (h : d.NamesAlike d' f.table) (hroot : root'.id = root.id) :
    d'.step root' f = d.step root f := by
  simp only [step, h.fieldRef_eq hroot]

/-- **The pieces stay the same** if the parts do, and tables are named alike wherever these look
them up. -/
theorem Spells.congr (hs : d.Spells root o) (hroot : root'.id = root.id)
    (hcatalog : root'.catalogId = root.catalogId) (hjoins : d'.joins = d.joins)
    (hcolumns : d'.columns = d.columns) (hfilters : d'.filters = d.filters)
    (hp : ∀ j ∈ d.joins, d.NamesAlike d' j.source ∧ d.NamesAlike d' j.target)
    (hq : ∀ c ∈ d.columns, d.NamesAlike d' c.table)
    (hr : ∀ f ∈ d.filters, d.NamesAlike d' f.table) : d'.Spells root' o where
  source := hcatalog.trans hs.source
  clauses := by
    rw [hjoins, ← hs.clauses]
    exact List.map_congr_left fun j hj => joinClause?_congr (hp j hj).1 (hp j hj).2 hroot
  projections := by
    rw [hcolumns, ← hs.projections]
    exact List.map_congr_left fun c hc => projection_congr (hq c hc) hroot
  steps := by
    rw [hfilters, ← hs.steps]
    exact List.map_congr_left fun f hf => step_congr (hr f hf) hroot

/-- **The pieces of the parts that are left**, if some parts are taken away. -/
theorem Spells.filter (hs : d.Spells root o) (p : Join → Bool) (q : Column → Bool)
    (r : Filter → Bool) :
    ({ d with
      joins := d.joins.filter p, columns := d.columns.filter q, filters := d.filters.filter r } :
      Diagram α).Spells root
        { o with
          clauses := keptParts p d.joins o.clauses
          projections := keptParts q d.columns o.projections
          steps := keptParts r d.filters o.steps } where
  source := hs.source
  clauses := by
    rw [← keptParts_map, ← hs.clauses]
    exact map_filter_eq_keptParts p (d.joinClause? root) d.joins
  projections := by
    rw [← hs.projections]
    exact map_filter_eq_keptParts q (d.projection root) d.columns
  steps := by
    rw [← hs.steps]
    exact map_filter_eq_keptParts r (d.step root) d.filters

end Diagram

end QueryBuilder

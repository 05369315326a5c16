/-
**Loading a saved graph whose doubles are read as other ones.**

The reader may find another double in the text of a double, a unit in the last place away from it.  A
saved graph is loaded all the same: as the same graph with the doubles that were found in place of its
own.  No check looks at the place of a table or at the value of a filter, and so whatever is found
there is accepted.

Main definitions:

* `reread` in the namespaces of `QueryBuilder.Position`, `QueryBuilder.PlacedTable`,
  `QueryBuilder.Literal`, `QueryBuilder.Filter` and `QueryBuilder.Diagram` — the same with other
  doubles.

Main results:

* `QueryBuilder.Diagram.Valid.reread` — other doubles leave a diagram valid;
* `QueryBuilder.Diagram.readsAs` — what is found in the text of a diagram;
* `QueryBuilder.Graph.loadText_saveText_reread` — **what a saved graph is loaded as**.
-/

import QueryBuilder.Proofs.Graph.RoundTrip

set_option autoImplicit false

namespace QueryBuilder

open Json

/-! ### Values with other numbers in them -/

namespace Json

variable {α : Type} {depth : Nat}

theorem readsAs_optional {encode : α → Json} {change : α → α} {o : Option α}
    (h : ∀ a ∈ o, (encode a).ReadsAs depth (encode (change a))) :
    (Json.optional encode o).ReadsAs depth (.optional encode (o.map change)) := by
  cases o with
  | none => rfl
  | some a => exact h a rfl

theorem readsAs_list {encode : α → Json} {change : α → α} {items : List α}
    (hdepth : depth + 1 ≤ deepest)
    (h : ∀ a ∈ items, (encode a).ReadsAs (depth + 1) (encode (change a))) :
    (Json.list (items.map encode)).ReadsAs depth (.list ((items.map change).map encode)) := by
  refine ⟨hdepth, _, rfl, ?_⟩
  clear hdepth
  induction items with
  | nil => rfl
  | cons a items ih =>
      exact ⟨_, _, rfl, h a List.mem_cons_self, ih fun a ha => h a (List.mem_cons_of_mem _ ha)⟩

theorem membersReadAs_append {before before' after after' : List (String × Json)}
    (hbefore : MembersReadAs depth before before') (hafter : MembersReadAs depth after after') :
    MembersReadAs depth (before ++ after) (before' ++ after') := by
  induction before generalizing before' with
  | nil =>
      cases hbefore
      exact hafter
  | cons m before ih =>
      obtain ⟨value', rest', rfl, hvalue, hrest⟩ := hbefore
      exact ⟨value', rest' ++ after', rfl, hvalue, ih hrest⟩

end Json

/-! ### Other doubles -/

/-- The point with other coordinates. -/
def Position.reread (found : Float → Float) (p : Position Float) : Position Float :=
  ⟨found p.x, found p.y⟩

/-- The table at another place. -/
def PlacedTable.reread (found : Float → Float) (t : PlacedTable Float) : PlacedTable Float :=
  { t with position := t.position.reread found }

/-- The literal with another double, if it is one. -/
def Literal.reread (found : Float → Float) : Literal → Literal
  | .float x => .float (found x)
  | l => l

/-- The filter with another value, if the value is a double. -/
def Filter.reread (found : Float → Float) (f : Filter) : Filter :=
  { f with value := f.value.map (Literal.reread found) }

namespace Diagram

/-- The diagram with other doubles. -/
def reread (found : Float → Float) (d : Diagram Float) : Diagram Float :=
  { d with
    tables := d.tables.map (PlacedTable.reread found)
    filters := d.filters.map (Filter.reread found) }

variable {d : Diagram Float} {found : Float → Float}

/-- What does not depend on doubles is the same of all tables. -/
theorem map_tables_reread {β : Type} (part : PlacedTable Float → β)
    (hpart : ∀ t : PlacedTable Float, part (t.reread found) = part t) :
    (d.reread found).tables.map part = d.tables.map part := by
  rw [reread, List.map_map]
  exact List.map_congr_left fun t _ => hpart t

/-- A table is found under its id wherever it is. -/
theorem exists_table?_reread {id : Nat} {t : PlacedTable Float} (ht : d.table? id = some t) :
    ∃ t', (d.reread found).table? id = some t' ∧ t'.fields = t.fields ∧ t'.name = t.name := by
  refine ⟨t.reread found, ?_, rfl, rfl⟩
  have hfind : (d.reread found).table? id = (d.table? id).map (PlacedTable.reread found) :=
    List.find?_map ..
  rw [hfind, ht]
  rfl

/-- **No clause of validity looks at doubles.** -/
theorem Valid.reread (h : d.Valid) (found : Float → Float) : (d.reread found).Valid where
  catalogIds_nodup := by
    rw [map_tables_reread _ fun _ => rfl]
    exact h.catalogIds_nodup
  aliases_nodup := by
    rw [map_tables_reread _ fun _ => rfl]
    exact h.aliases_nodup
  database_eq := by
    intro t ht
    obtain ⟨t₀, ht₀, rfl⟩ := List.mem_map.1 ht
    exact h.database_eq t₀ ht₀
  connects := by
    intro j hj
    apply (h.connects j hj).mono
    intro i _ t ht
    obtain ⟨t', ht', hfields, -⟩ :
        ∃ t', (d.reread found).table? i = some t' ∧ t'.fields = t.fields ∧ t'.name = t.name :=
      exists_table?_reread ht
    exact ⟨t', ht', hfields⟩
  columns_describe c hc := (h.columns_describe c hc).mono fun _ ht => exists_table?_reread ht
  columns_nodup := h.columns_nodup
  columns_normal := h.columns_normal
  filters_describe := by
    intro f hf
    obtain ⟨f₀, hf₀, rfl⟩ := List.mem_map.1 hf
    exact (h.filters_describe f₀ hf₀).mono fun _ ht => exists_table?_reread ht
  filters_normal := by
    intro f hf
    obtain ⟨f₀, hf₀, rfl⟩ := List.mem_map.1 hf
    refine ⟨(h.filters_normal f₀ hf₀).supported, ?_⟩
    -- where there is no value, none is found
    intro hunary
    have hnone : f₀.value = none := (h.filters_normal f₀ hf₀).value hunary
    rw [Filter.reread, hnone]
    rfl
  ids_nodup := by
    have hfilters : (d.reread found).filters.map (fun f => f.id) = d.filters.map fun f => f.id := by
      rw [Diagram.reread, List.map_map]
      rfl
    have hids : (d.reread found).ids = d.ids := by
      simp only [ids, map_tables_reread (fun t => t.id) fun _ => rfl, hfilters]
      rfl
    rw [hids]
    exact h.ids_nodup

/-- Whole numbers stay as they are. -/
theorem Fits.reread (h : d.Fits) (found : Float → Float) : (d.reread found).Fits where
  database := h.database
  tables := by
    intro t ht
    obtain ⟨t₀, ht₀, rfl⟩ := List.mem_map.1 ht
    have hfits := h.tables t₀ ht₀
    exact ⟨hfits.id, hfits.catalogId, hfits.database, hfits.fields⟩
  joins := h.joins
  columns := h.columns
  filters := by
    intro f hf
    obtain ⟨f₀, hf₀, rfl⟩ := List.mem_map.1 hf
    have hfits := h.filters f₀ hf₀
    refine ⟨hfits.toFits, hfits.id, ?_⟩
    intro l hl
    obtain ⟨l₀, hl₀, rfl⟩ := Option.map_eq_some_iff.1 hl
    have hl₀ := hfits.value l₀ hl₀
    cases l₀ with
    | int n => exact hl₀
    | _ => trivial

end Diagram

/-! ### Texts -/

variable {found : Float → Float} {depth : Nat}

/-- A table is read as the table at the place that is found. -/
theorem PlacedTable.readsAs {t : PlacedTable Float} (h : t.Fits)
    (hdoubles : ∀ x ∈ t.doubles, (Number.float x).ReadsAs (.float (found x)))
    (hdepth : depth + 3 ≤ deepest) : t.toJson.ReadsAs depth (t.reread found).toJson := by
  have hposition : t.position.toJson.ReadsAs (depth + 1) (t.position.reread found).toJson :=
    ⟨by omega, _, rfl, _, _, rfl, ⟨_, rfl, hdoubles t.position.x (by simp [doubles])⟩,
      _, _, rfl, ⟨_, rfl, hdoubles t.position.y (by simp [doubles])⟩, rfl⟩
  have hfields : (Json.list (t.fields.map Field.toJson)).ReadsAs (depth + 1)
      (.list (t.fields.map Field.toJson)) :=
    (readable_list (by omega) fun f hf => Field.readable (h.fields f hf) (by omega)).readsAs
  refine ⟨by omega, _, rfl, membersReadAs_append (membersReadAs_append ?_ ?_) ?_⟩
  · exact membersReadAs_of_readable _ ⟨readable_nat h.id, readable_int h.catalogId, trivial, trivial⟩
  · exact membersReadAs_of_readable _ (membersReadable_ifPresent fun _ _ => trivial)
  · exact ⟨_, _, rfl, rfl, _, _, rfl, (readable_int h.database).readsAs, _, _, rfl, hposition,
      _, _, rfl, hfields, rfl⟩

theorem Literal.readsAs {l : Literal} (h : l.Fits)
    (hdoubles : ∀ x ∈ l.doubles, (Number.float x).ReadsAs (.float (found x))) :
    l.toJson.ReadsAs depth (l.reread found).toJson := by
  cases l with
  | bool b => rfl
  | int n => exact (readable_int h).readsAs
  | float x => exact ⟨_, rfl, hdoubles x List.mem_cons_self⟩
  | text s => rfl

/-- A filter is read as the filter with the value that is found. -/
theorem Filter.readsAs {f : Filter} (h : f.Fits)
    (hdoubles : ∀ x ∈ f.doubles, (Number.float x).ReadsAs (.float (found x)))
    (hdepth : depth + 1 ≤ deepest) : f.toJson.ReadsAs depth (f.reread found).toJson := by
  have hvalue : (Json.optional Literal.toJson f.value).ReadsAs (depth + 1)
      (.optional Literal.toJson (f.value.map (Literal.reread found))) := by
    apply readsAs_optional
    intro l hl
    have hfound : ∀ x ∈ l.doubles, (Number.float x).ReadsAs (.float (found x)) := by
      intro x hx
      apply hdoubles x
      rw [Filter.doubles, Option.mem_def.1 hl]
      exact hx
    exact Literal.readsAs (h.value l hl) hfound
  refine ⟨hdepth, _, rfl, membersReadAs_append (membersReadAs_append ?_ ?_) ?_⟩
  · exact membersReadAs_of_readable _ ⟨readable_nat h.id, trivial⟩
  · exact membersReadAs_of_readable _ (FieldUse.membersReadable h.toFits)
  · exact ⟨_, _, rfl, rfl, _, _, rfl, hvalue, _, _, rfl, rfl, rfl⟩

/-- **What is found in the text of a diagram**: the same diagram with the doubles that are found. -/
theorem Diagram.readsAs {d : Diagram Float} (h : d.Fits)
    (hdoubles : ∀ x ∈ d.doubles, (Number.float x).ReadsAs (.float (found x))) :
    d.toJson.ReadsAs 0 (d.reread found).toJson := by
  have htable : ∀ t ∈ d.tables, ∀ x ∈ t.doubles, (Number.float x).ReadsAs (.float (found x)) :=
    fun t ht x hx => hdoubles x (List.mem_append_left _ (List.mem_flatMap.2 ⟨t, ht, hx⟩))
  have hfilter : ∀ f ∈ d.filters, ∀ x ∈ f.doubles, (Number.float x).ReadsAs (.float (found x)) :=
    fun f hf x hx => hdoubles x (List.mem_append_right _ (List.mem_flatMap.2 ⟨f, hf, hx⟩))
  refine ⟨by decide, _, rfl, _, _, rfl, ?_, _, _, rfl, ?_, _, _, rfl, ?_, _, _, rfl, ?_, _, _, rfl,
    ?_, rfl⟩
  · exact (readable_optional fun id hid => readable_int (h.database id hid)).readsAs
  · exact readsAs_list (by decide) fun t ht =>
      PlacedTable.readsAs (h.tables t ht) (htable t ht) (by decide)
  · exact (readable_list (by decide) fun j hj => Join.readable (h.joins j hj) (by decide)).readsAs
  · exact (readable_list (by decide) fun c hc =>
      Column.readable (h.columns c hc) (by decide)).readsAs
  · exact readsAs_list (by decide) fun f hf =>
      Filter.readsAs (h.filters f hf) (hfilter f hf) (by decide)

namespace Graph

/-- **What a saved graph is loaded as**: the same graph with the doubles that are found in its text,
as if nothing had been done to it yet. -/
theorem loadText_saveText_reread {g : Graph Float} (hvalid : g.toDiagram.Valid)
    (hfits : g.toDiagram.Fits)
    (hdoubles : ∀ x ∈ g.doubles, (Number.float x).ReadsAs (.float (found x))) :
    loadText g.saveText = .ok (ofDiagram (g.toDiagram.reread found) .standard) := by
  have htext : Document.ofText (String.ofList (g.toDiagram.toJson.render .compact 0)) =
      ⟨(g.toDiagram.reread found).toJson.draft, false⟩ :=
    ofText_render_as Style.blank_compact (Diagram.readsAs hfits hdoubles)
  have hdecode : Diagram.ofDraft (g.toDiagram.reread found).toJson.draft =
      .ok (g.toDiagram.reread found) := Diagram.recovers (hfits.reread found)
  have hload : load (g.toDiagram.reread found) =
      .ok (ofDiagram (g.toDiagram.reread found) .standard) :=
    load_eq_ok.2 ⟨_, (hvalid.reread found).accept_eq, rfl⟩
  simp only [saveText, compact, loadText, Json.loadText, htext, hdecode, hload]
  rfl

end Graph

end QueryBuilder

/-
**A table's connector dropped on another table.**

The drop joins the two tables by the suggested keys, or leaves them waiting for their keys if there
is nothing to suggest.  It is never refused: a suggestion names a field of the source and a field of
the target, whatever rule it comes from, and nothing else is asked of a join between two tables.

The suggestion follows the rules with names as the search reads them.  It follows them as they are
meant if neither table has a name that ends in a capital sigma; for a table that has, the rules as
they are meant have matches that the search passes by.

Main definitions:

* `QueryBuilder.Graph.LinksAsSuggested` — what a drop does with two tables.

Main results:

* `QueryBuilder.Diagram.Valid.connects_of_suggest` — suggested keys make a join;
* `QueryBuilder.Graph.linksAsSuggested_drop` — a drop between two tables of a valid graph;
* `QueryBuilder.Graph.tables_link_by_rules` — **two tables are joined by the rules, and never
  refused**;
* `QueryBuilder.Graph.sigma_passed_by` — a match that the search passes by.
-/

import QueryBuilder.Drop.Dispatch
import QueryBuilder.Proofs.Graph.Faithfulness
import QueryBuilder.Proofs.Graph.Reachability
import QueryBuilder.Proofs.Graph.Suggestion

set_option autoImplicit false

namespace QueryBuilder

variable {α : Type}

/-! ### Suggested keys -/

theorem PlacedTable.hasField_iff {t : PlacedTable α} {id : Int} :
    t.hasField id = true ↔ ∃ f ∈ t.fields, f.id = id := by
  simp [hasField, NewTable.field?]

/-- **Suggested keys make a join** of two tables. -/
theorem Diagram.Valid.connects_of_suggest {d : Diagram α} (h : d.Valid) {s t : PlacedTable α}
    (hs : s ∈ d.tables) (ht : t ∈ d.tables) (hne : s ≠ t) {keys : Suggestion}
    (hkeys : suggest s.side t.side = some keys) (kind : JoinKind) :
    d.Connects ⟨s.id, t.id, keys.sourceField, keys.targetField, kind⟩ := by
  obtain ⟨hsource, htarget⟩ := (followsRules_suggest s.side t.side).oriented keys hkeys
  refine ⟨fun hid => hne (h.eq_of_id_eq hs ht hid), ?_, ?_⟩
  · exact ⟨s, h.table?_of_mem hs, PlacedTable.hasField_iff.2 hsource⟩
  · exact ⟨t, h.table?_of_mem ht, PlacedTable.hasField_iff.2 htarget⟩

namespace Graph

/-- A link that connects two tables is added. -/
theorem addJoin_of_connects {g : Graph α} {l : Link} (h : g.Connects l) :
    g.addJoin l =
      (.ok g.nextId,
        { g with joins := g.joins ++ [{ l with id := g.nextId }], lastId := g.nextId }) := by
  rw [addJoin_eq, Diagram.checkLink_eq_ok.2 h]
  rfl

/-! ### Drops -/

/-- What a drop does with two tables: it joins them by the suggested keys, keeping the rows of the
source, or leaves them waiting for their keys. -/
structure LinksAsSuggested (g : Graph α) (s t : PlacedTable α) (result : DropOutcome × Graph α) :
    Prop where
  joined : ∀ keys, suggest s.side t.side = some keys →
    result = (.joinAdded g.nextId,
      { g with
        joins := g.joins ++ [⟨⟨s.id, t.id, keys.sourceField, keys.targetField, .left⟩, g.nextId⟩]
        lastId := g.nextId })
  waiting : suggest s.side t.side = none → result = (.joinDraft s.id t.id, g)
  never_refused : ∀ message, result.1 ≠ .rejected message

variable [Coordinate α] {g : Graph α} {s t : PlacedTable α}

/-- Without keys to suggest the two tables wait for theirs. -/
theorem drop_of_suggest_none (h : g.toDiagram.Valid) (hs : s ∈ g.tables) (ht : t ∈ g.tables)
    (hne : s ≠ t) (hnone : suggest s.side t.side = none) :
    g.drop (.connector s.id) (.table t.id) = (.joinDraft s.id t.id, g) := by
  have hid : s.id ≠ t.id := fun hid => hne (h.eq_of_id_eq hs ht hid)
  simp only [drop, dropConnector, if_neg hid, h.table?_of_mem hs, h.table?_of_mem ht, hnone]

/-- Keys that are suggested join the two tables. -/
theorem drop_of_suggest_some (h : g.toDiagram.Valid) (hs : s ∈ g.tables) (ht : t ∈ g.tables)
    (hne : s ≠ t) {keys : Suggestion} (hkeys : suggest s.side t.side = some keys) :
    g.drop (.connector s.id) (.table t.id) =
      (.joinAdded g.nextId,
        { g with
          joins := g.joins ++ [⟨⟨s.id, t.id, keys.sourceField, keys.targetField, .left⟩, g.nextId⟩]
          lastId := g.nextId }) := by
  have hid : s.id ≠ t.id := fun hid => hne (h.eq_of_id_eq hs ht hid)
  have hadd := addJoin_of_connects (h.connects_of_suggest hs ht hne hkeys .left)
  simp only [drop, dropConnector, if_neg hid, h.table?_of_mem hs, h.table?_of_mem ht, hkeys, hadd]

/-- **A connector dropped on another table joins the two as suggested.** -/
theorem linksAsSuggested_drop (h : g.toDiagram.Valid) (hs : s ∈ g.tables) (ht : t ∈ g.tables)
    (hne : s ≠ t) : g.LinksAsSuggested s t (g.drop (.connector s.id) (.table t.id)) where
  joined _ hkeys := drop_of_suggest_some h hs ht hne hkeys
  waiting hnone := drop_of_suggest_none h hs ht hne hnone
  never_refused message hrefused := by
    cases hsuggest : suggest s.side t.side with
    | none =>
        rw [drop_of_suggest_none h hs ht hne hsuggest] at hrefused
        cases hrefused
    | some keys =>
        rw [drop_of_suggest_some h hs ht hne hsuggest] at hrefused
        cases hrefused

/-- **Two tables are joined by the rules, and never refused.**  The suggestion follows the rules
with names as the search reads them, and as they are meant if neither name ends in a capital sigma.
In every graph that a session can get to, the connector of a table dropped on another one joins the
two by the suggested keys, or leaves them waiting if there are none. -/
theorem tables_link_by_rules :
    (∀ source target : Side,
      FollowsRules Side.IsReadAfter source target (suggest source target)) ∧
    (∀ source target : Side, Text.endsInSigma source.name.toList = false →
      Text.endsInSigma target.name.toList = false →
      FollowsRules Side.IsSpelledAfter source target (suggest source target)) ∧
    ∀ g : Graph α, g.Reachable → ∀ s ∈ g.tables, ∀ t ∈ g.tables, s ≠ t →
      g.LinksAsSuggested s t (g.drop (.connector s.id) (.table t.id)) := by
  refine ⟨followsRules_suggest, ?_, ?_⟩
  · intro source target hsource htarget
    exact (followsRules_suggest source target).congr
      (fun _ => Side.isReadAfter_iff_isSpelledAfter hsource)
      (fun _ => Side.isReadAfter_iff_isSpelledAfter htarget)
  · intro g hg s hs t ht hne
    exact linksAsSuggested_drop hg.valid hs ht hne

/-- Orders dropped on their customers are joined, whichever way. -/
theorem tables_link_by_rules_sample :
    let orders : Side := ⟨"orders", Sample.orders.fields⟩
    let customers : Side := ⟨"customers", Sample.customers.fields⟩
    Text.endsInSigma orders.name.toList = false ∧ Text.endsInSigma customers.name.toList = false ∧
    FollowsRules Side.IsSpelledAfter orders customers (some ⟨11, 20⟩) ∧
    Sample.graph.Reachable ∧
    ∃ s ∈ Sample.graph.tables, ∃ t ∈ Sample.graph.tables, s.side = orders ∧ t.side = customers ∧
      Sample.graph.LinksAsSuggested s t (Sample.graph.drop (.connector s.id) (.table t.id)) ∧
      Sample.graph.LinksAsSuggested t s (Sample.graph.drop (.connector t.id) (.table s.id)) := by
  intro orders customers
  obtain ⟨-, hspelled, hlinks⟩ := tables_link_by_rules (α := Float)
  have horders : Text.endsInSigma orders.name.toList = false :=
    Text.endsInSigma_of_not_mem (by decide)
  have hcustomers : Text.endsInSigma customers.name.toList = false :=
    Text.endsInSigma_of_not_mem (by decide)
  have hsuggest : suggest orders customers = some ⟨11, 20⟩ := by decide +kernel
  obtain ⟨s, hs, hsorders⟩ : ∃ s ∈ Sample.graph.tables, s.side = orders := by decide +kernel
  obtain ⟨t, ht, htcustomers⟩ : ∃ t ∈ Sample.graph.tables, t.side = customers := by decide +kernel
  have hne : s ≠ t := by
    rintro rfl
    rw [hsorders] at htcustomers
    exact absurd htcustomers (by decide)
  exact ⟨horders, hcustomers, hsuggest ▸ hspelled orders customers horders hcustomers,
    Sample.reachable_graph, s, hs, t, ht, hsorders, htcustomers,
    hlinks _ Sample.reachable_graph s hs t ht hne,
    hlinks _ Sample.reachable_graph t ht s hs hne.symm⟩

/-- **A match that the search passes by.**  A field is named exactly as the owner with the ending
`id`, but the capital sigma at the end of the owner's name has another form before the ending. -/
theorem sigma_passed_by :
    let owner : Side := ⟨"ΟΔΟΣ", [⟨1, "id", "", "type/Integer", none, none⟩]⟩
    let other : Side := ⟨"other", [⟨6, "ΟΔΟΣid", "", "type/Integer", none, none⟩]⟩
    JoinRule.targetNamed.Gives Side.IsSpelledAfter owner other ⟨1, 6⟩ ∧
      suggest owner other = none ∧
      ¬ FollowsRules Side.IsSpelledAfter owner other (suggest owner other) := by
  intro owner other
  have hgives : JoinRule.targetNamed.Gives Side.IsSpelledAfter owner other ⟨1, 6⟩ :=
    ⟨⟨_, ⟨[], [], rfl, by decide, by simp⟩, rfl⟩, _,
      ⟨[], [], rfl, ⟨"id", by decide, rfl⟩, by simp⟩, rfl⟩
  have hsuggest : suggest owner other = none := by decide +kernel
  refine ⟨hgives, hsuggest, fun hfollows => ?_⟩
  refine hfollows.none_iff.1 hsuggest .targetNamed ⟨⟨_, List.mem_singleton.2 rfl, by decide⟩, ?_⟩
  exact ⟨_, List.mem_singleton.2 rfl, "id", by decide, rfl⟩

end Graph

end QueryBuilder

/-
**When the clauses of a query are well formed.**

A clause gives its table an alias, and the rest of the query refers to the table by it.  This only
works out if no two clauses give the same alias, if no clause joins the source of the query once
more, and if each clause compares its source key with a field under its own alias.

Joins may be drawn between any two tables, in both directions and more than once, and the query has
a clause for each of them as it stands.  A clause is named after the table that its join leads to.
So clauses share an alias exactly if their joins lead to the same table.  A clause joins the source
once more exactly if its join leads to the first table, and then its fields have no alias.  The
clauses are well formed if all joins lead to tables of their own, apart from the first one, and only
then.

Main definitions:

* `QueryBuilder.Query.WellJoined` — the clauses of a query are well formed;
* `QueryBuilder.Diagram.LeadsApart` — all joins lead to tables of their own, apart from the first
  one;
* `QueryBuilder.Diagram.Named` — ids and aliases of the same tables.

Main results:

* `QueryBuilder.Diagram.Keeps.aliasName_eq_iff`, `QueryBuilder.Diagram.Keeps.source_eq_iff`,
  `QueryBuilder.Diagram.Keeps.rhs_eq_iff` — the names of a clause, told from the target of its join;
* `QueryBuilder.Diagram.Expresses.wellJoined_iff` — clauses are well formed exactly if joins lead
  apart;
* `QueryBuilder.Graph.clauses_follow_targets` — **the clauses of every graph that a session can get
  to**.
-/

import Mathlib.Data.List.Nodup
import QueryBuilder.Proofs.Graph.FilterChain

set_option autoImplicit false

namespace QueryBuilder

/-! ### Well-formed clauses -/

/-- No two clauses give the same alias, no clause joins the source of the query once more, and each
clause compares its source key with a field under its own alias. -/
structure Query.WellJoined (q : Query) : Prop where
  aliases_nodup : (q.joins.map (·.aliasName)).Nodup
  source_ne : ∀ clause ∈ q.joins, clause.source ≠ q.source
  rhs_eq : ∀ clause ∈ q.joins, clause.rhs.joinAlias = some clause.aliasName

instance (q : Query) : Decidable q.WellJoined :=
  decidable_of_iff
    ((q.joins.map (·.aliasName)).Nodup ∧ (∀ clause ∈ q.joins, clause.source ≠ q.source) ∧
      ∀ clause ∈ q.joins, clause.rhs.joinAlias = some clause.aliasName)
    ⟨fun ⟨ha, hs, hr⟩ => ⟨ha, hs, hr⟩, fun ⟨ha, hs, hr⟩ => ⟨ha, hs, hr⟩⟩

namespace Diagram

variable {α : Type} {d : Diagram α} {root : PlacedTable α} {j j' : Join}
  {clause clause' : JoinClause} {q : Query}

/-- No two joins lead to the same table, and none leads to the first one. -/
structure LeadsApart (d : Diagram α) (root : PlacedTable α) : Prop where
  targets_nodup : (d.joins.map (·.target)).Nodup
  target_ne : ∀ j ∈ d.joins, j.target ≠ root.id

/-! ### Ids and aliases -/

/-- A table of the diagram has this id and this alias. -/
def Named (d : Diagram α) (id : Nat) (aliasName : String) : Prop :=
  ∃ t ∈ d.tables, t.id = id ∧ t.aliasName = aliasName

/-- **An id belongs to one alias, and an alias to one id.** -/
theorem Valid.biUnique_named (h : d.Valid) : Relator.BiUnique d.Named := by
  constructor
  · rintro id id' aliasName ⟨t, ht, rfl, halias⟩ ⟨t', ht', rfl, halias'⟩
    have heq : t = t' := List.inj_on_of_nodup_map h.aliases_nodup ht ht' (halias.trans halias'.symm)
    rw [heq]
  · rintro id aliasName aliasName' ⟨t, ht, hid, rfl⟩ ⟨t', ht', hid', rfl⟩
    rw [h.eq_of_id_eq ht ht' (hid.trans hid'.symm)]

/-! ### The names of one clause -/

/-- A clause has the alias of the table that its join leads to. -/
theorem Keeps.named (hk : d.Keeps root j clause) : d.Named j.target clause.aliasName := by
  obtain ⟨t, ht, halias, -⟩ := hk.target
  exact ⟨t, ht.mem, ht.key_eq, halias.symm⟩

/-- **Clauses share an alias if their joins lead to the same table**, and only then. -/
theorem Keeps.aliasName_eq_iff (h : d.Valid) (hk : d.Keeps root j clause)
    (hk' : d.Keeps root j' clause') :
    clause.aliasName = clause'.aliasName ↔ j.target = j'.target :=
  (Relator.rel_eq h.biUnique_named hk.named hk'.named).symm

/-- **A clause joins the source of the query once more if its join leads to the first table**, and
only then. -/
theorem Keeps.source_eq_iff (h : d.Valid) (hroot : root ∈ d.tables)
    (hk : d.Keeps root j clause) : clause.source = root.catalogId ↔ j.target = root.id := by
  obtain ⟨t, ht, -, hsource⟩ := hk.target
  rw [hsource, ← ht.key_eq]
  constructor
  · intro hcatalog
    rw [List.inj_on_of_nodup_map h.catalogIds_nodup ht.mem hroot hcatalog]
  · intro hid
    rw [h.eq_of_id_eq ht.mem hroot hid]

/-- **The right side of a clause carries its alias unless its join leads to the first table**, whose
fields have no alias. -/
theorem Keeps.rhs_eq_iff (h : d.Valid) (hroot : root ∈ d.tables) (hk : d.Keeps root j clause) :
    clause.rhs.joinAlias = some clause.aliasName ↔ j.target ≠ root.id := by
  obtain ⟨owner, howner, -, -, hnone, halias⟩ := hk.rhs
  have hfirst : owner = root ↔ j.target = root.id := by
    rw [← howner.key_eq]
    exact ⟨congrArg _, h.eq_of_id_eq howner.mem hroot⟩
  rw [ne_eq, ← hfirst, ← hnone]
  constructor
  · intro hown hnone'
    rw [hnone'] at hown
    cases hown
  · intro hsome
    obtain ⟨a, ha⟩ := Option.ne_none_iff_exists'.1 hsome
    -- the alias is that of the owner, and the id of the owner has no other alias
    have hnamed : d.Named j.target a := ⟨owner, howner.mem, howner.key_eq, (halias a ha).key_eq⟩
    rw [ha, h.biUnique_named.2 hnamed hk.named]

/-! ### All clauses of a query -/

/-- Aliases are distinct exactly if targets are. -/
theorem Expresses.aliases_nodup_iff (hq : d.Expresses root q) (h : d.Valid) :
    (q.joins.map (·.aliasName)).Nodup ↔ (d.joins.map (·.target)).Nodup := by
  have hnamed : List.Forall₂ d.Named (d.joins.map (·.target)) (q.joins.map (·.aliasName)) := by
    rw [List.forall₂_map_left_iff, List.forall₂_map_right_iff]
    exact hq.joins.imp fun _ _ hk => hk.named
  exact (List.rel_nodup h.biUnique_named hnamed).symm

/-- What holds of an item exactly if something else holds of the related one, holds of all items
exactly if the other holds of all related ones. -/
theorem forall_mem_iff_of_forall₂ {β γ : Type} {R : β → γ → Prop} {P : γ → Prop} {Q : β → Prop}
    (hPQ : ∀ b c, R b c → (P c ↔ Q b)) {bs : List β} {cs : List γ} (h : List.Forall₂ R bs cs) :
    (∀ c ∈ cs, P c) ↔ ∀ b ∈ bs, Q b := by
  induction h with
  | nil => simp
  | cons hr _ ih => rw [List.forall_mem_cons, List.forall_mem_cons, hPQ _ _ hr, ih]

/-- **The clauses are well formed exactly if all joins lead to tables of their own**, apart from the
first one. -/
theorem Expresses.wellJoined_iff (hq : d.Expresses root q) (h : d.Valid) (hroot : root ∈ d.tables) :
    q.WellJoined ↔ d.LeadsApart root := by
  have hsource : (∀ clause ∈ q.joins, clause.source ≠ q.source) ↔
      ∀ j ∈ d.joins, j.target ≠ root.id := by
    rw [hq.source]
    exact forall_mem_iff_of_forall₂ (fun _ _ hk => not_congr (hk.source_eq_iff h hroot)) hq.joins
  have hrhs : (∀ clause ∈ q.joins, clause.rhs.joinAlias = some clause.aliasName) ↔
      ∀ j ∈ d.joins, j.target ≠ root.id :=
    forall_mem_iff_of_forall₂ (fun _ _ hk => hk.rhs_eq_iff h hroot) hq.joins
  constructor
  · rintro ⟨haliases, hne, -⟩
    exact ⟨(hq.aliases_nodup_iff h).1 haliases, hsource.1 hne⟩
  · rintro ⟨htargets, hne⟩
    exact ⟨(hq.aliases_nodup_iff h).2 htargets, hsource.2 hne, hrhs.2 hne⟩

end Diagram

namespace Graph

variable {α : Type} [Coordinate α]

/-- **The clauses of a query follow the targets of the joins.**  Each clause relates the two keys of
its join.  Two clauses give the same alias exactly if their joins lead to the same table; a clause
joins the source of the query once more exactly if its join leads to the first table, and its right
side carries its own alias exactly if it does not.  So the clauses are well formed exactly if all
joins lead to tables of their own, apart from the first one. -/
theorem clauses_follow_targets {g : Graph α} (h : g.Reachable) {q : Query}
    (hq : g.query? = some q) :
    ∃ root, g.tables.head? = some root ∧ q.source = root.catalogId ∧
      List.Forall₂ (g.Keeps root) g.joins q.joins ∧
      (∀ x ∈ g.joins.zip q.joins, ∀ y ∈ g.joins.zip q.joins,
        (x.2.aliasName = y.2.aliasName ↔ x.1.target = y.1.target)) ∧
      (∀ x ∈ g.joins.zip q.joins, (x.2.source = q.source ↔ x.1.target = root.id) ∧
        (x.2.rhs.joinAlias = some x.2.aliasName ↔ x.1.target ≠ root.id)) ∧
      (q.WellJoined ↔ g.LeadsApart root) := by
  have htables : g.tables ≠ [] := by
    intro hnil
    rw [Diagram.query?_eq_none_iff.2 hnil] at hq
    cases hq
  obtain ⟨root, q', hhead, hq', hexp⟩ := query_expresses h htables
  cases hq.symm.trans hq'
  have hroot : root ∈ g.tables := List.mem_of_mem_head? hhead
  have hkeeps : ∀ x ∈ g.joins.zip q.joins, g.Keeps root x.1 x.2 :=
    fun x hx => (List.forall₂_iff_zip.1 hexp.joins).2 hx
  refine ⟨root, hhead, hexp.source, hexp.joins, ?_, ?_, hexp.wellJoined_iff h.valid hroot⟩
  · intro x hx y hy
    exact (hkeeps x hx).aliasName_eq_iff h.valid (hkeeps y hy)
  · intro x hx
    rw [hexp.source]
    exact ⟨(hkeeps x hx).source_eq_iff h.valid hroot, (hkeeps x hx).rhs_eq_iff h.valid hroot⟩

/-- One join that leads away from the first table: its clause is well formed. -/
theorem clauses_follow_targets_sample : ∃ q root, Sample.graph.Reachable ∧
    Sample.graph.query? = some q ∧ q.joins.length = 1 ∧ q.WellJoined ∧
      Sample.graph.LeadsApart root := by
  obtain ⟨q, hq⟩ := Option.isSome_iff_exists.1
    (by decide +kernel : Sample.graph.query?.isSome = true)
  obtain ⟨root, -, -, hjoins, -, -, hiff⟩ := clauses_follow_targets Sample.reachable_graph hq
  have hlength : Sample.graph.joins.length = 1 := by decide +kernel
  have hwell : ∀ q ∈ Sample.graph.query?, q.WellJoined := by decide +kernel
  exact ⟨q, root, Sample.reachable_graph, hq, hjoins.length_eq.symm.trans hlength, hwell q hq,
    hiff.1 (hwell q hq)⟩

end Graph

/-- The sample graph with a join back to the first table, and another one to the second table. -/
def Sample.crossed : Graph Float :=
  Sample.graph.run [.addJoin ⟨2, 1, 20, 11, .inner⟩, .addJoin ⟨1, 2, 10, 20, .full⟩]

theorem Sample.reachable_crossed : Sample.crossed.Reachable :=
  reachable_graph.run _

namespace Graph

/-- Clauses need not be well formed: two of them give the same alias, one joins the source of the
query once more, and a field of its right side has no alias. -/
theorem clauses_ill_formed : ∃ q, Sample.crossed.Reachable ∧ Sample.crossed.query? = some q ∧
    ¬(q.joins.map (·.aliasName)).Nodup ∧ (∃ clause ∈ q.joins, clause.source = q.source) ∧
      (∃ clause ∈ q.joins, clause.rhs.joinAlias ≠ some clause.aliasName) ∧ ¬q.WellJoined := by
  obtain ⟨q, hq⟩ := Option.isSome_iff_exists.1
    (by decide +kernel : Sample.crossed.query?.isSome = true)
  have hfails : ∀ q ∈ Sample.crossed.query?, ¬(q.joins.map (·.aliasName)).Nodup ∧
      (∃ clause ∈ q.joins, clause.source = q.source) ∧
      (∃ clause ∈ q.joins, clause.rhs.joinAlias ≠ some clause.aliasName) ∧ ¬q.WellJoined := by
    decide +kernel
  exact ⟨q, Sample.reachable_crossed, hq, hfails q hq⟩

end Graph

end QueryBuilder

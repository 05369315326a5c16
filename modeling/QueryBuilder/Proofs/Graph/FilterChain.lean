/-
**Filters are combined from the left.**

The condition of a query takes the filters in order and combines the comparison of each with all
that comes before it, by the connective of this filter.  So `f₁`, `f₂`, `f₃`, … become
`((f₁ k₂ f₂) k₃ f₃) …`, whatever the connectives are: `and` does not bind tighter than `or`, and
the connective of the first filter is not used.

A chain is a condition of this kind, together with the filters that it is made of.  From a chain the
filters can be read back, but for what does not show in it: the connective of the first filter, and
the values of tests for null.

Main definitions:

* `QueryBuilder.Condition.LeftLeaning` — conditions with comparisons alone on the right;
* `QueryBuilder.Condition.eval`, `QueryBuilder.Connective.fold` — the truth of a condition, and of
  comparisons that are taken up from left to right;
* `QueryBuilder.Diagram.Chains` — the conditions that are made of filters from the left;
* `QueryBuilder.Filter.SameTest` — filters that ask the same of the same field.

Main results:

* `QueryBuilder.Diagram.Valid.chains_condition?` — the condition of a valid diagram is a chain;
* `QueryBuilder.Diagram.Chains.leftLeaning`, `QueryBuilder.Diagram.Chains.eval_eq` — the form and
  the truth of chains;
* `QueryBuilder.Diagram.Chains.unique` — the filters of a chain;
* `QueryBuilder.Graph.filters_fold_left` — **filters are combined from the left**.
-/

import QueryBuilder.Proofs.Graph.Faithfulness

set_option autoImplicit false

namespace QueryBuilder

variable {α : Type}

/-! ### Conditions -/

/-- What a connective makes of two truth values. -/
def Connective.eval : Connective → Bool → Bool → Bool
  | .and, lhs, rhs => lhs && rhs
  | .or, lhs, rhs => lhs || rhs

/-- Truth values taken up one by one, each by the connective of its place.  The first one comes
without a connective. -/
def Connective.fold (truth : Nat → Bool) (connectives : List Connective) : Bool :=
  (connectives.zipIdx 1).foldl (fun verdict k => k.1.eval verdict (truth k.2)) (truth 0)

theorem Connective.fold_append (truth : Nat → Bool) (connectives : List Connective)
    (k : Connective) :
    fold truth (connectives ++ [k]) =
      k.eval (fold truth connectives) (truth (1 + connectives.length)) := by
  rw [fold, List.zipIdx_append, List.foldl_append]
  rfl

namespace Condition

/-- The truth of a condition, if that of each of its comparisons is given by its place, counted from
the left.  The comparisons of this condition begin at the given place. -/
def eval (truth : Nat → Bool) : Condition → Nat → Bool
  | .compare .., place => truth place
  | .combine k lhs rhs, place =>
      k.eval (lhs.eval truth place) (rhs.eval truth (place + lhs.leaves.length))

/-- On the right of every connective there is a single comparison. -/
def LeftLeaning : Condition → Prop
  | .compare .. => True
  | .combine _ lhs rhs =>
      lhs.LeftLeaning ∧ ∃ comparison field value, rhs = .compare comparison field value

end Condition

/-! ### Chains -/

/-- Two filters ask the same of the same field; tests for null may have different values. -/
structure Filter.SameTest (f f' : Filter) : Prop where
  table : f'.table = f.table
  field : f'.field = f.field
  comparison : f'.comparison = f.comparison
  value : f.comparison.isUnary = false → f'.value = f.value

namespace Diagram

variable {d d' : Diagram α} {root : PlacedTable α}

/-- The condition that filters make from the left: the comparison of the first one, and then of each
other one, behind what there is already, by the connective of this filter. -/
inductive Chains (d : Diagram α) (root : PlacedTable α) : List Filter → Condition → Prop where
  | first {f : Filter} {comparison : Comparison} {field : FieldRef} {value : Option Literal}
      (h : d.Asks root f ⟨comparison, field, value⟩) :
      Chains d root [f] (.compare comparison field value)
  | next {before : List Filter} {f : Filter} {lhs : Condition} {comparison : Comparison}
      {field : FieldRef} {value : Option Literal} (hbefore : Chains d root before lhs)
      (h : d.Asks root f ⟨comparison, field, value⟩) :
      Chains d root (before ++ [f]) (.combine f.connective lhs (.compare comparison field value))

namespace Chains

variable {filters : List Filter} {c : Condition}

theorem ne_nil (h : d.Chains root filters c) : filters ≠ [] := by
  cases h <;> simp

/-- What follows the first of some filters and one more is what followed it, and this one. -/
theorem connectives_append (h : d.Chains root filters c) (f : Filter) :
    (filters ++ [f]).tail.map (·.connective) =
      filters.tail.map (·.connective) ++ [f.connective] := by
  rw [List.tail_append_of_ne_nil h.ne_nil, List.map_append, List.map_singleton]

/-- What a chain with more than one comparison ends with. -/
theorem combine_inv {k : Connective} {lhs rhs : Condition}
    (h : d.Chains root filters (.combine k lhs rhs)) :
    ∃ before f leaf, filters = before ++ [f] ∧ k = f.connective ∧ d.Chains root before lhs ∧
      rhs = .compare leaf.comparison leaf.field leaf.value ∧ d.Asks root f leaf := by
  generalize hc : Condition.combine k lhs rhs = c at h
  cases h with
  | first _ => cases hc
  | @next before f _ comparison field value hbefore hasks =>
      cases hc
      exact ⟨before, f, ⟨comparison, field, value⟩, rfl, rfl, hbefore, rfl, hasks⟩

/-- **A chain leans to the left.** -/
theorem leftLeaning (h : d.Chains root filters c) : c.LeftLeaning := by
  induction h with
  | first _ => trivial
  | next _ _ ih => exact ⟨ih, _, _, _, rfl⟩

/-- A chain has one comparison for each filter. -/
theorem length_leaves (h : d.Chains root filters c) : c.leaves.length = filters.length := by
  induction h with
  | first _ => rfl
  | next _ _ ih => simp [Condition.leaves, ih]

/-- **The truth of a chain is found from left to right.** -/
theorem eval_eq (h : d.Chains root filters c) (truth : Nat → Bool) :
    c.eval truth 0 = Connective.fold truth (filters.tail.map (·.connective)) := by
  induction h with
  | first _ => rfl
  | next hbefore _ ih =>
      have hlength := List.length_pos_iff.2 hbefore.ne_nil
      rw [hbefore.connectives_append, Connective.fold_append, ← ih]
      simp only [Condition.eval, hbefore.length_leaves, List.length_map, List.length_tail]
      congr 2
      omega

end Chains

/-! ### The filters of a chain -/

/-- Only one table has a value under a key. -/
theorem Only.unique {κ : Type} [DecidableEq κ] {key : PlacedTable α → κ} {k : κ}
    {t t' : PlacedTable α} (h : d.Only key k t) (h' : d'.Only key k t')
    (htables : d'.tables = d.tables) : t' = t := by
  rw [Only, htables, h] at h'
  exact (List.singleton_inj.1 h').symm

/-- The table belongs to the diagram and has this value under the key. -/
theorem Only.mem_and_key_eq {κ : Type} [DecidableEq κ] {key : PlacedTable α → κ} {k : κ}
    {t : PlacedTable α} (h : d.Only key k t) : t ∈ d.tables ∧ key t = k := by
  have hmem : t ∈ d.tables.filter fun t => key t = k := by
    rw [h]
    exact List.mem_singleton_self t
  simpa using hmem

theorem Only.mem {κ : Type} [DecidableEq κ] {key : PlacedTable α → κ} {k : κ}
    {t : PlacedTable α} (h : d.Only key k t) : t ∈ d.tables :=
  h.mem_and_key_eq.1

theorem Only.key_eq {κ : Type} [DecidableEq κ] {key : PlacedTable α → κ} {k : κ}
    {t : PlacedTable α} (h : d.Only key k t) : key t = k :=
  h.mem_and_key_eq.2

/-- **A reference names one field of one table.** -/
theorem Refers.unique {table table' : Nat} {field field' : Int} {r : FieldRef}
    (h : d.Refers root table field r) (h' : d'.Refers root table' field' r)
    (htables : d'.tables = d.tables) : table' = table ∧ field' = field := by
  obtain ⟨owner, honly, -, hfield, hroot, halias⟩ := h
  obtain ⟨owner', honly', -, hfield', hroot', halias'⟩ := h'
  have howner : owner' = owner := by
    cases hr : r.joinAlias with
    | none => rw [hroot.1 hr, hroot'.1 hr]
    | some a => exact (halias a hr).unique (halias' a hr) htables
  refine ⟨?_, hfield'.symm.trans hfield⟩
  rw [← honly.key_eq, ← honly'.key_eq, howner]

/-- A comparison asks what one filter asks. -/
theorem Asks.unique {f f' : Filter} {leaf : Leaf} (h : d.Asks root f leaf)
    (h' : d'.Asks root f' leaf) (htables : d'.tables = d.tables) : f.SameTest f' := by
  obtain ⟨htable, hfield⟩ := h.field.unique h'.field htables
  have hcomparison : f'.comparison = f.comparison := h'.comparison.symm.trans h.comparison
  refine ⟨htable, hfield, hcomparison, fun hvalue => ?_⟩
  have hsame := h'.value.symm.trans h.value
  rw [hcomparison, hvalue] at hsame
  simpa using hsame

/-- **The filters of a chain can be read back**: how many there are, what each asks, and how each but
the first is combined. -/
theorem Chains.unique {filters filters' : List Filter} {c : Condition}
    (h : d.Chains root filters c) (h' : d'.Chains root filters' c)
    (htables : d'.tables = d.tables) :
    List.Forall₂ Filter.SameTest filters filters' ∧
      filters'.tail.map (·.connective) = filters.tail.map (·.connective) := by
  induction h generalizing filters' with
  | first hasks =>
      cases h' with
      | first hasks' => exact ⟨.cons (hasks.unique hasks' htables) .nil, rfl⟩
  | next hbefore hasks ih =>
      -- the other chain ends with the same comparison, and what comes before it is the same, too
      obtain ⟨before', f', leaf, rfl, hk, hbefore', hrhs, hasks'⟩ := h'.combine_inv
      cases hrhs
      obtain ⟨hsame, hconnectives⟩ := ih hbefore'
      refine ⟨List.rel_append hsame (.cons (hasks.unique hasks' htables) .nil), ?_⟩
      rw [hbefore.connectives_append, hbefore'.connectives_append, hconnectives, hk]

/-! ### The condition of a diagram -/

/-- Filters behind a chain make a longer chain. -/
theorem Valid.chains_foldl (h : d.Valid) (hroot : root ∈ d.tables) {filters before : List Filter}
    {lhs : Condition} (hfilters : ∀ f ∈ filters, f ∈ d.filters)
    (hbefore : d.Chains root before lhs) :
    ∃ c, filters.foldl (d.addComparison root) (some lhs) = some c ∧
      d.Chains root (before ++ filters) c := by
  induction filters generalizing before lhs with
  | nil => exact ⟨lhs, rfl, by rwa [List.append_nil]⟩
  | cons f filters ih =>
      obtain ⟨hf, hrest⟩ := List.forall_mem_cons.1 hfilters
      obtain ⟨c, hc, hchains⟩ := ih hrest (hbefore.next (h.asks_comparison hroot hf))
      exact ⟨c, hc, by rwa [List.append_assoc] at hchains⟩

/-- **The condition of a valid diagram with filters is a chain of these filters.** -/
theorem Valid.chains_condition? (h : d.Valid) (hroot : root ∈ d.tables)
    (hfilters : d.filters ≠ []) :
    ∃ c, d.condition? root = some c ∧ d.Chains root d.filters c := by
  cases hcons : d.filters with
  | nil => exact absurd hcons hfilters
  | cons f rest =>
      have hmem : ∀ f' ∈ f :: rest, f' ∈ d.filters := by simp [hcons]
      obtain ⟨hf, hrest⟩ := List.forall_mem_cons.1 hmem
      rw [condition?, hcons]
      exact h.chains_foldl hroot hrest (.first (h.asks_comparison hroot hf))

/-- The condition of a query is that of the diagram. -/
theorem condition_of_query? {q : Query} (hroot : d.tables.head? = some root)
    (hq : d.query? = some q) : q.condition = d.condition? root := by
  rw [query?, hroot] at hq
  cases hq
  rfl

/-- If a query has a condition, this is a chain of all filters. -/
theorem Valid.chains_of_query? (h : d.Valid) {q : Query} {c : Condition}
    (hroot : d.tables.head? = some root) (hq : d.query? = some q) (hc : q.condition = some c) :
    d.Chains root d.filters c := by
  have hcondition : d.condition? root = some c := by rw [← condition_of_query? hroot hq, hc]
  have hfilters : d.filters ≠ [] := by
    intro hnil
    rw [condition?, hnil] at hcondition
    cases hcondition
  obtain ⟨c', hc', hchains⟩ := h.chains_condition? (List.mem_of_mem_head? hroot) hfilters
  cases hc'.symm.trans hcondition
  exact hchains

/-- The connective of the first filter is not used. -/
theorem query?_first_connective {f : Filter} {rest : List Filter} (hfilters : d.filters = f :: rest)
    (k : Connective) :
    ({ d with filters := { f with connective := k } :: rest } : Diagram α).query? = d.query? := by
  obtain ⟨database, tables, joins, columns, filters⟩ := d
  subst hfilters
  rfl

/-- A field that is asked of belongs to a table. -/
theorem Valid.exists_root (h : d.Valid) (hfilters : d.filters ≠ []) :
    ∃ root ∈ d.tables, d.tables.head? = some root := by
  obtain ⟨f, hf⟩ := List.exists_mem_of_ne_nil _ hfilters
  obtain ⟨t, _, ht, -⟩ := h.filters_describe f hf
  have htables : d.tables ≠ [] := List.ne_nil_of_mem (mem_of_table? ht).1
  exact ⟨d.tables.head htables, List.head_mem htables, List.head?_eq_some_head htables⟩

end Diagram

/-- The sample graph with another comparison in place of the first one, and one more. -/
def Sample.chain : Graph Float :=
  Sample.graph.run [.removeFilter 6, .addFilter 2 20,
    .updateFilter 8 ⟨none, some (some (.int 7)), some .or⟩, .addFilter 1 11]

theorem Sample.reachable_chain : Sample.chain.Reachable :=
  reachable_graph.run _

namespace Graph

variable [Coordinate α]

omit [Coordinate α] in
/-- A change of a filter leaves the tables alone. -/
theorem tables_updateFilter (g : Graph α) (id : Nat) (change : FilterChange) :
    (g.updateFilter id change).2.tables = g.tables := by
  rw [updateFilter_eq]
  refine allOrNothing_preserves (P := fun g' => g'.tables = g.tables) rfl fun _ g' hok => ?_
  cases hf : g.filter? id with
  | none => simp [hf] at hok
  | some f =>
      simp only [hf] at hok
      obtain ⟨-, hg'⟩ := Diagram.Valid.supports_of_updateFilter hok
      cases hg'
      rfl

/-- **Filters are combined from the left.**  The condition of a query is the chain of all filters, so
it has a single comparison on the right of every connective, and its truth is what comes out if the
comparisons are taken up from left to right.  The connective of the first filter does not matter:
another one gives the same query.  If the filters of another graph with the same tables give the
same condition, then they ask the same, and are combined by the same connectives after the first. -/
theorem filters_fold_left {g : Graph α} (h : g.Reachable) {f : Filter} {rest : List Filter}
    (hfilters : g.filters = f :: rest) :
    ∃ root q c, g.tables.head? = some root ∧ g.query? = some q ∧ q.condition = some c ∧
      g.Chains root (f :: rest) c ∧ c.LeftLeaning ∧
      (∀ truth, c.eval truth 0 = Connective.fold truth (rest.map (·.connective))) ∧
      (∀ k, ({ g.toDiagram with filters := { f with connective := k } :: rest } :
        Diagram α).query? = some q) ∧
      ∀ (g' : Graph α) (q' : Query), g'.Reachable → g'.tables = g.tables → g'.query? = some q' →
        q'.condition = some c →
          List.Forall₂ Filter.SameTest (f :: rest) g'.filters ∧
            g'.filters.tail.map (·.connective) = rest.map (·.connective) := by
  have hne : g.filters ≠ [] := by simp [hfilters]
  obtain ⟨root, hroot, hhead⟩ := h.valid.exists_root hne
  obtain ⟨c, hc, hchains⟩ := h.valid.chains_condition? hroot hne
  have hq : g.query? = some ⟨root.catalogId, g.joins.filterMap (g.joinClause? root),
      g.columns.map (g.projection root), some c⟩ := by
    rw [Diagram.query?, hhead, Option.map_some, hc]
  rw [hfilters] at hchains
  refine ⟨root, _, c, hhead, hq, rfl, hchains, hchains.leftLeaning, hchains.eval_eq,
    fun k => (Diagram.query?_first_connective hfilters k).trans hq, ?_⟩
  intro g' q' h' htables hq' hc'
  exact hchains.unique (h'.valid.chains_of_query? (htables ▸ hhead) hq' hc') htables

/-- A test for null, or a comparison, and another one: if only the test for null holds, the condition
does not hold.  The connective of the test may be changed, and the condition stays the same. -/
theorem filters_fold_left_sample :
    ∃ (f : Filter) (rest : List Filter) (q : Query) (c : Condition) (changed : Graph Float),
      Sample.chain.Reachable ∧ Sample.chain.filters = f :: rest ∧
      rest.map (·.connective) = [.or, .and] ∧
      Sample.chain.query? = some q ∧ q.condition = some c ∧
      c.eval (fun place => place == 0) 0 = false ∧
      changed = Sample.chain.run [.updateFilter 7 ⟨none, none, some .and⟩] ∧
      List.Forall₂ Filter.SameTest (f :: rest) changed.filters ∧
      changed.filters.map (·.connective) = [.and, .or, .and] := by
  have hfilters : Sample.chain.filters =
      [⟨⟨2, 21, "name", "customers", "type/Text"⟩, 7, .isNull, none, .or⟩,
        ⟨⟨2, 20, "id", "customers", "type/Integer"⟩, 8, .eq, some (.int 7), .or⟩,
        ⟨⟨1, 11, "customer_id", "orders", "type/Integer"⟩, 9, .eq, none, .and⟩] := by
    decide +kernel
  obtain ⟨root, q, c, -, hq, hc, -, -, heval, -, hsame⟩ :=
    filters_fold_left Sample.reachable_chain hfilters
  have hreachable : (Sample.chain.run [.updateFilter 7 ⟨none, none, some .and⟩]).Reachable :=
    Sample.reachable_chain.run _
  have htables : (Sample.chain.run [.updateFilter 7 ⟨none, none, some .and⟩]).tables =
      Sample.chain.tables := by
    rw [run_cons, run_nil, apply, tables_updateFilter]
  have hchanged : (Sample.chain.run [.updateFilter 7 ⟨none, none, some .and⟩]).query? =
      Sample.chain.query? := by decide +kernel
  have hconnectives : (Sample.chain.run [.updateFilter 7 ⟨none, none, some .and⟩]).filters.map
      (·.connective) = [.and, .or, .and] := by decide +kernel
  exact ⟨_, _, q, c, _, Sample.reachable_chain, hfilters, rfl, hq, hc, heval _, rfl,
    (hsame _ q hreachable htables (hchanged.trans hq) hc).1, hconnectives⟩

end Graph

end QueryBuilder

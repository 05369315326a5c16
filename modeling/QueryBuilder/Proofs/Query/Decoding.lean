/-
**Queries can be read back from what a service is sent.**

A service finds in a text nothing but a tree of lists and records.  What a list stands for is not
written on it: references, projections and conditions are told apart by their first item and by their
length alone.  This is enough.  A decoder that looks at nothing else undoes the encoding of every
query, also of those that no graph has, with conditions nested in any way.

Two things do not show.  A test for null is written without its value, so the decoder finds none
there.  And a double that is not finite is written as `null`, which is what a comparison without a
value looks like; so the doubles of the query have to be finite.

Main definitions:

* `QueryBuilder.Json.shown` — the tree that the text of a value shows;
* `ofTree?` in the namespace of each part of a query — the decoders;
* `QueryBuilder.Condition.pruned`, `QueryBuilder.Query.pruned` — conditions and queries without the
  values of tests for null.

Main results:

* `QueryBuilder.Json.render_shown` — a value and its tree have the same text;
* `QueryBuilder.Condition.ofTree?_toJson` — conditions are read back, by induction on them;
* `QueryBuilder.Query.tree_unambiguous` — **queries are read back, and so different ones have
  different trees**.
-/

import QueryBuilder.Proofs.Graph.RoundTrip
import QueryBuilder.Query.Request

set_option autoImplicit false

namespace QueryBuilder

/-! ### The tree that a text shows -/

namespace Json

mutual

/-- The tree that the text of a value shows.  A double that is not finite has no number in JSON, and
is printed as `null`. -/
def shown : Json → Json
  | .null => .null
  | .bool b => .bool b
  | .number (.int n) => .number (.int n)
  | .number (.float x) => if Decimal.isFinite x then .number (.float x) else .null
  | .text s => .text s
  | .list items => .list (shownItems items)
  | .record members => .record (shownMembers members)

/-- The trees of items. -/
def shownItems : List Json → List Json
  | [] => []
  | item :: rest => shown item :: shownItems rest

/-- Members with the trees of their values. -/
def shownMembers : List (String × Json) → List (String × Json)
  | [] => []
  | (name, value) :: rest => (name, shown value) :: shownMembers rest

end

theorem renderNumber_of_not_finite {x : Float} (h : Decimal.isFinite x = false) :
    renderNumber (.float x) = "null".toList := by
  rw [renderNumber, Decimal.Spelling.write?, Decimal.Binary.ofFloat?, if_neg (by rw [h]; decide)]
  rfl

mutual

/-- **A value and its tree have the same text.** -/
theorem render_shown (style : Style) (depth : Nat) (value : Json) :
    render style depth value.shown = render style depth value := by
  match value with
  | .null => rfl
  | .bool _ => rfl
  | .text _ => rfl
  | .number (.int _) => rfl
  | .number (.float x) =>
      rw [shown]
      cases h : Decimal.isFinite x with
      | true => rfl
      | false => simp only [render, renderNumber_of_not_finite h, Bool.false_eq_true, if_false]
  | .list [] => rfl
  | .list (item :: rest) =>
      simp only [shown, shownItems, render, render_shown style (depth + 1) item,
        render_shownItems style (depth + 1) rest]
  | .record [] => rfl
  | .record ((name, value) :: rest) =>
      simp only [shown, shownMembers, render, render_shown style (depth + 1) value,
        render_shownMembers style (depth + 1) rest]

theorem render_shownItems (style : Style) (depth : Nat) (items : List Json) :
    renderItems style depth (shownItems items) = renderItems style depth items := by
  match items with
  | [] => rfl
  | item :: rest =>
      simp only [shownItems, renderItems, render_shown style depth item,
        render_shownItems style depth rest]

theorem render_shownMembers (style : Style) (depth : Nat) (members : List (String × Json)) :
    renderMembers style depth (shownMembers members) = renderMembers style depth members := by
  match members with
  | [] => rfl
  | (name, value) :: rest =>
      simp only [shownMembers, renderMembers, render_shown style depth value,
        render_shownMembers style depth rest]

end

theorem shownItems_eq_map (items : List Json) : shownItems items = items.map shown := by
  induction items with
  | nil => rfl
  | cons item rest ih => rw [shownItems, ih, List.map_cons]

end Json

/-! ### Decoders -/

/-- The member of a vocabulary that a word stands for. -/
def Json.spelled? {β : Type} (all : List β) (spell : β → String) (w : String) : Option β :=
  (all.map fun b => (spell b, b)).lookup w

/-- A reference: the word `field`, the field, and an alias or none. -/
def FieldRef.ofTree? : Json → Option FieldRef
  | .list [.text "field", .number (.int field), .null] => some ⟨field, none⟩
  | .list [.text "field", .number (.int field), .record [("join-alias", .text aliasName)]] =>
    some ⟨field, some aliasName⟩
  | _ => none

/-- Two references behind an equality sign. -/
def JoinClause.keysOfTree? : Json → Option (FieldRef × FieldRef)
  | .list [.text "=", lhs, rhs] => do
    return (← FieldRef.ofTree? lhs, ← FieldRef.ofTree? rhs)
  | _ => none

/-- A record with the members of a join. -/
def JoinClause.ofTree? : Json → Option JoinClause
  | .record members =>
    match members.lookup "alias", members.lookup "source-table", members.lookup "strategy" with
    | some (.text aliasName), some (.number (.int source)), some (.text strategy) => do
      let (lhs, rhs) ← keysOfTree? (← members.lookup "condition")
      return ⟨aliasName, source, lhs, rhs, ← Json.spelled? JoinKind.all JoinKind.strategy strategy⟩
    | _, _, _ => none
  | _ => none

/-- An aggregation and a reference, or a reference by itself. -/
def Projection.ofTree? : Json → Option Projection
  | .list [.text w, field] => do
    return .aggregate (← Json.spelled? Aggregation.all Aggregation.word w) (← FieldRef.ofTree? field)
  | value => (FieldRef.ofTree? value).map .plain

/-- A scalar, or `null` where there is no value. -/
def Literal.ofTree? : Json → Option (Option Literal)
  | .null => some none
  | .bool b => some (some (.bool b))
  | .number (.int n) => some (some (.int n))
  | .number (.float x) => some (some (.float x))
  | .text s => some (some (.text s))
  | _ => none

/-- Two items are a test for null.  Of three, the first is a connective in front of two conditions, or
a comparison in front of a reference and a value. -/
def Condition.ofTree? : Json → Option Condition
  | .list [.text w, field] => do
    let c ← Json.spelled? Comparison.all Comparison.word w
    if c.isUnary then return .compare c (← FieldRef.ofTree? field) none else none
  | .list [.text w, lhs, rhs] =>
    match Json.spelled? Connective.all Connective.word w with
    | some k => do return .combine k (← ofTree? lhs) (← ofTree? rhs)
    | none => do
      let c ← Json.spelled? Comparison.all Comparison.word w
      if c.isUnary then none
      else return .compare c (← FieldRef.ofTree? lhs) (← Literal.ofTree? rhs)
  | _ => none

/-- A record with the members of a query; there need be no filter. -/
def Query.ofTree? : Json → Option Query
  | .record members =>
    match members.lookup "source-table", members.lookup "joins", members.lookup "fields" with
    | some (.number (.int source)), some (.list joins), some (.list fields) => do
      let condition ← match members.lookup "filter" with
        | none => some none
        | some filter => (Condition.ofTree? filter).map some
      return ⟨source, ← joins.mapM JoinClause.ofTree?, ← fields.mapM Projection.ofTree?, condition⟩
    | _, _, _ => none
  | _ => none

/-! ### What does not show -/

/-- A condition without the values of tests for null. -/
def Condition.pruned : Condition → Condition
  | .compare c field value => .compare c field (c.keptValue value)
  | .combine k lhs rhs => .combine k lhs.pruned rhs.pruned

/-- A query without the values of tests for null. -/
def Query.pruned (q : Query) : Query :=
  { q with condition := q.condition.map Condition.pruned }

/-- The doubles that a condition compares with. -/
def Condition.doubles : Condition → List Float
  | .compare _ _ value => value.elim [] Literal.doubles
  | .combine _ lhs rhs => lhs.doubles ++ rhs.doubles

/-- The doubles of a query are those of its condition. -/
def Query.doubles (q : Query) : List Float :=
  q.condition.elim [] Condition.doubles

/-! ### Parts are read back -/

/-- A word stands for one member of its vocabulary, if the words are all different. -/
theorem Json.spelled?_eq {β : Type} {all : List β} {spell : β → String} {b : β} (hb : b ∈ all)
    (h : (all.map spell).Nodup) : Json.spelled? all spell (spell b) = some b :=
  lookup_spelled hb h

theorem JoinKind.spelled?_strategy (k : JoinKind) :
    Json.spelled? JoinKind.all JoinKind.strategy k.strategy = some k :=
  Json.spelled?_eq (by cases k <;> decide) (by decide)

theorem Aggregation.spelled?_word (a : Aggregation) :
    Json.spelled? Aggregation.all Aggregation.word a.word = some a :=
  Json.spelled?_eq (by cases a <;> decide) (by decide)

theorem Comparison.spelled?_word (c : Comparison) :
    Json.spelled? Comparison.all Comparison.word c.word = some c :=
  Json.spelled?_eq (by cases c <;> decide) (by decide)

theorem Connective.spelled?_word (k : Connective) :
    Json.spelled? Connective.all Connective.word k.word = some k :=
  Json.spelled?_eq (by cases k <;> decide) (by decide)

/-- No comparison is written like a connective. -/
theorem Connective.spelled?_comparison (c : Comparison) :
    Json.spelled? Connective.all Connective.word c.word = none := by
  cases c <;> decide

theorem FieldRef.ofTree?_toJson (r : FieldRef) : FieldRef.ofTree? r.toJson.shown = some r := by
  obtain ⟨field, _ | aliasName⟩ := r <;> rfl

theorem JoinClause.ofTree?_toJson (j : JoinClause) :
    JoinClause.ofTree? j.toJson.shown = some j := by
  have hkeys : keysOfTree? (.list [.text "=", j.lhs.toJson.shown, j.rhs.toJson.shown]) =
      some (j.lhs, j.rhs) := by
    rw [keysOfTree?, FieldRef.ofTree?_toJson, FieldRef.ofTree?_toJson]
    rfl
  have htree : j.toJson.shown =
      .record [("alias", .text j.aliasName), ("source-table", .number (.int j.source)),
        ("condition", .list [.text "=", j.lhs.toJson.shown, j.rhs.toJson.shown]),
        ("strategy", .text j.kind.strategy)] := rfl
  rw [htree]
  simp only [ofTree?, List.lookup_cons, String.reduceBEq, Option.bind_eq_bind, Option.bind_some,
    hkeys, j.kind.spelled?_strategy]
  rfl

/-- The list of a reference has three items, that of an aggregation two. -/
theorem Projection.ofTree?_toJson (p : Projection) : Projection.ofTree? p.toJson.shown = some p := by
  cases p with
  | plain field =>
      obtain ⟨field, _ | aliasName⟩ := field <;> rfl
  | aggregate aggregation field =>
      have hlist : (Projection.aggregate aggregation field).toJson.shown =
          .list [.text aggregation.word, field.toJson.shown] := rfl
      rw [hlist, ofTree?, aggregation.spelled?_word, field.ofTree?_toJson]
      rfl

/-- A value is told from its absence, unless it is a double that is not finite. -/
theorem Literal.ofTree?_optional {value : Option Literal}
    (h : ∀ x ∈ value.elim [] Literal.doubles, Decimal.isFinite x = true) :
    Literal.ofTree? (Json.optional Literal.toJson value).shown = some value := by
  cases value with
  | none => rfl
  | some l =>
      cases l with
      | float x =>
          have hx : Decimal.isFinite x = true := h x List.mem_cons_self
          have htree : (Json.optional Literal.toJson (some (.float x))).shown =
              .number (.float x) := if_pos hx
          rw [htree, ofTree?]
      | _ => rfl

/-- **A condition is read back, without the values of tests for null.**  Both kinds of conditions may
be lists of three items; the first item tells them apart. -/
theorem Condition.ofTree?_toJson {c : Condition}
    (h : ∀ x ∈ c.doubles, Decimal.isFinite x = true) :
    Condition.ofTree? c.toJson.shown = some c.pruned := by
  induction c with
  | compare comparison field value =>
      cases hunary : comparison.isUnary with
      | true =>
          have htree : (Condition.compare comparison field value).toJson.shown =
              .list [.text comparison.word, field.toJson.shown] := by
            rw [toJson, hunary]
            rfl
          rw [htree, ofTree?, comparison.spelled?_word, field.ofTree?_toJson, pruned,
            Comparison.keptValue_of_isUnary hunary]
          simp only [Option.bind_eq_bind, Option.bind_some, hunary]
          rfl
      | false =>
          have htree : (Condition.compare comparison field value).toJson.shown =
              .list [.text comparison.word, field.toJson.shown,
                (Json.optional Literal.toJson value).shown] := by
            rw [toJson, hunary]
            rfl
          rw [htree, ofTree?, Connective.spelled?_comparison, comparison.spelled?_word,
            field.ofTree?_toJson, Literal.ofTree?_optional h, pruned, Comparison.keptValue, hunary]
          simp only [Option.bind_eq_bind, Option.bind_some, hunary]
          rfl
  | combine connective lhs rhs ihl ihr =>
      obtain ⟨hl, hr⟩ := List.forall_mem_append.1 h
      have htree : (Condition.combine connective lhs rhs).toJson.shown =
          .list [.text connective.word, lhs.toJson.shown, rhs.toJson.shown] := rfl
      rw [htree, ofTree?, connective.spelled?_word, ihl hl, ihr hr]
      rfl

/-! ### Queries are read back -/

/-- A list is read back item by item. -/
theorem mapM_ofTree? {β : Type} {encode : β → Json} {decode : Json → Option β}
    (h : ∀ b, decode (encode b).shown = some b) (items : List β) :
    ((items.map encode).map Json.shown).mapM decode = some items := by
  induction items with
  | nil => rfl
  | cons b items ih =>
      rw [List.map_cons, List.map_cons, List.mapM_cons, h b, ih]
      rfl

/-- **A query is read back, without the values of tests for null.** -/
theorem Query.ofTree?_toJson {q : Query} (h : ∀ x ∈ q.doubles, Decimal.isFinite x = true) :
    Query.ofTree? q.toJson.shown = some q.pruned := by
  obtain ⟨source, joins, projections, condition⟩ := q
  have hjoins := mapM_ofTree? JoinClause.ofTree?_toJson joins
  have hprojections := mapM_ofTree? Projection.ofTree?_toJson projections
  rw [← Json.shownItems_eq_map] at hjoins hprojections
  cases condition with
  | none =>
      have htree : (Query.mk source joins projections none).toJson.shown =
          .record [("source-table", .number (.int source)),
            ("joins", .list (Json.shownItems (joins.map JoinClause.toJson))),
            ("fields", .list (Json.shownItems (projections.map Projection.toJson)))] := rfl
      rw [htree]
      simp only [ofTree?, List.lookup_cons, List.lookup_nil, String.reduceBEq,
        Option.bind_eq_bind, Option.bind_some, hjoins, hprojections]
      rfl
  | some c =>
      have htree : (Query.mk source joins projections (some c)).toJson.shown =
          .record [("source-table", .number (.int source)),
            ("joins", .list (Json.shownItems (joins.map JoinClause.toJson))),
            ("fields", .list (Json.shownItems (projections.map Projection.toJson))),
            ("filter", c.toJson.shown)] := rfl
      rw [htree]
      simp only [ofTree?, List.lookup_cons, String.reduceBEq, Option.bind_eq_bind,
        Option.bind_some, Option.map_some, hjoins, hprojections, Condition.ofTree?_toJson h]
      rfl

/-- The values of tests for null do not show in a condition. -/
theorem Condition.toJson_pruned (c : Condition) : c.pruned.toJson = c.toJson := by
  induction c with
  | compare comparison field value =>
      cases hunary : comparison.isUnary with
      | true => simp only [pruned, toJson, hunary, if_true]
      | false => rw [pruned, Comparison.keptValue, hunary, if_neg Bool.false_ne_true]
  | combine connective lhs rhs ihl ihr => rw [pruned, toJson, toJson, ihl, ihr]

theorem Query.toJson_pruned (q : Query) : q.pruned.toJson = q.toJson := by
  obtain ⟨source, joins, projections, condition⟩ := q
  cases condition with
  | none => rfl
  | some c =>
      simp only [pruned, toJson, Option.map_some, Json.ifPresent, Condition.toJson_pruned]

/-- **Queries are read back, and so different ones have different trees.**  The decoder gives back
every query with finite doubles, whatever its joins, its aliases and its conditions, but for the
values of tests for null.  Two queries have the same tree exactly if they differ in such values
alone. -/
theorem Query.tree_unambiguous {q : Query} (h : ∀ x ∈ q.doubles, Decimal.isFinite x = true) :
    Query.ofTree? q.toJson.shown = some q.pruned ∧
      ∀ q' : Query, (∀ x ∈ q'.doubles, Decimal.isFinite x = true) →
        (q'.toJson.shown = q.toJson.shown ↔ q'.pruned = q.pruned) := by
  have hread := Query.ofTree?_toJson h
  refine ⟨hread, fun q' h' => ⟨fun htree => ?_, fun hpruned => ?_⟩⟩
  · have hread' := Query.ofTree?_toJson h'
    rw [htree, hread] at hread'
    exact (Option.some.inj hread').symm
  · rw [← q'.toJson_pruned, hpruned, q.toJson_pruned]

/-- Conditions on both sides of a connective, an alias that is a connective, and a test for null with
a value, which the tree does not show. -/
theorem Query.tree_unambiguous_sample :
    let field : FieldRef := ⟨12, some "and"⟩
    let query (value : Option Literal) : Query :=
      { source := 1
        joins := [⟨"=", 2, ⟨11, none⟩, field, .full⟩]
        projections := [.plain field, .aggregate .plain field]
        condition := some (.combine .or (.compare .gt field (some (.float 2.5)))
          (.combine .and (.compare .isNull field value) (.compare .eq field none))) }
    (∀ x ∈ (query none).doubles, Decimal.isFinite x = true) ∧
      (∀ x ∈ (query (some (.int 7))).doubles, Decimal.isFinite x = true) ∧
      query (some (.int 7)) ≠ query none ∧
      (query (some (.int 7))).toJson.shown = (query none).toJson.shown ∧
      Query.ofTree? (query none).toJson.shown = some (query none) := by
  intro field query
  have hnone : ∀ x ∈ (query none).doubles, Decimal.isFinite x = true := by decide +kernel
  have hsome : ∀ x ∈ (query (some (.int 7))).doubles, Decimal.isFinite x = true := by
    decide +kernel
  obtain ⟨hread, hsame⟩ := Query.tree_unambiguous hnone
  exact ⟨hnone, hsome, by decide +kernel, (hsame _ hsome).2 rfl, hread⟩

end QueryBuilder

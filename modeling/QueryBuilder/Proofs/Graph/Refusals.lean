/-
**A refused edit changes nothing but the message.**

An edit that fails halfway leaves what it wrote until then.  But each edit asks before it writes, so
it applies as a whole or is refused as a whole, in any graph, be it one that a session can get to or
not.  If it is refused, then all parts of the graph, their order, the last id, the number of runs,
the last result and the settings are as they were.  Only two edits show the reason, in the message
of the graph.

Nothing looks at this message: graphs that differ in it alone answer every edit alike, and differ in
it alone afterwards.  So after a refused edit every later one gets the answer that it would have had
without the refused one.  In particular, what is added next gets the same id.

Main definitions:

* `QueryBuilder.Edit.showsRefusal` — the edits that show why they are refused;
* `QueryBuilder.Graph.answer`, `QueryBuilder.Graph.issue?` — what an edit answers: an id, nothing, or
  why it is refused;
* `QueryBuilder.Graph.SameButMessage` — graphs that differ in their messages alone.

Main results:

* `QueryBuilder.Graph.apply_of_error` — what a refused edit leaves behind;
* `QueryBuilder.Graph.SameButMessage.step`, `QueryBuilder.Graph.SameButMessage.run` — no edit looks
  at the message, and no run of edits does;
* `QueryBuilder.Graph.refused_edit_atomic` — **a refused edit changes nothing but the message**.
-/

import QueryBuilder.Proofs.Graph.Edits
import QueryBuilder.Proofs.Graph.Validity

set_option autoImplicit false

namespace QueryBuilder

variable {α β : Type}

/-! ### Refusals -/

/-- Whether the reason of a refusal is shown in the message of the graph. -/
def Edit.showsRefusal : Edit α → Bool
  | .setDatabase _ | .addTable _ => true
  | _ => false

namespace Graph

/-- A refused edit that shows nothing leaves the graph as it was. -/
theorem allOrNothing_of_error {g : Graph α} {r : Except GraphError (β × Graph α)}
    {f : β → Option Nat} {err : GraphError} (h : (g.allOrNothing r).1.map f = .error err) :
    (g.allOrNothing r).2 = g := by
  rcases g.allOrNothing_cases r with ⟨e, _, ha⟩ | ⟨b, g', _, ha⟩
  · rw [ha]
  · rw [ha] at h
    cases h

/-- A refused edit that shows why leaves the graph as it was, but for the message. -/
theorem allOrNothingShown_of_error {g : Graph α} {r : Except GraphError (β × Graph α)}
    {f : β → Option Nat} {err : GraphError} (h : (g.allOrNothingShown r).1.map f = .error err) :
    (g.allOrNothingShown r).2 = { g with error := some err.message } := by
  rcases g.allOrNothingShown_cases r with ⟨e, _, ha⟩ | ⟨b, g', _, ha⟩
  · rw [ha] at h ⊢
    cases h
    rfl
  · rw [ha] at h
    cases h

variable [Coordinate α]

/-- What an edit answers: the id of what was added, nothing, or why it is refused.  Some edits cannot
be refused. -/
def answer (g : Graph α) : Edit α → Except GraphError (Option Nat)
  | .setDatabase database => (g.setDatabase database).1.map fun _ => none
  | .addTable table => (g.addTable table).1.map some
  | .removeTable id => (g.removeTable id).1.map fun _ => none
  | .moveTable id position => (g.moveTable id position).1.map fun _ => none
  | .addJoin link => (g.addJoin link).1.map some
  | .updateJoin id change => (g.updateJoin id change).1.map fun _ => none
  | .removeJoin id => (g.removeJoin id).1.map fun _ => none
  | .addColumn table field => (g.addColumn table field).1.map some
  | .updateColumn id change => (g.updateColumn id change).1.map fun _ => none
  | .removeColumn id => (g.removeColumn id).1.map fun _ => none
  | .reorderColumns src dst => (g.reorderColumns src dst).1.map fun _ => none
  | .addFilter table field => (g.addFilter table field).1.map some
  | .updateFilter id change => (g.updateFilter id change).1.map fun _ => none
  | .removeFilter id => (g.removeFilter id).1.map fun _ => none
  | .commitPosition _ _ | .reset | .setExecuting _ | .setError _ | .setResult _ | .begin
  | .finish _ _ | .abandon _ | .cancel => .ok none

/-- The id that an edit hands out, if it adds a part. -/
def issue? (g : Graph α) (e : Edit α) : Option Nat :=
  (g.answer e).toOption.join

theorem issue?_eq_some {g : Graph α} {e : Edit α} {id : Nat} :
    g.issue? e = some id ↔ g.answer e = .ok (some id) := by
  unfold issue?
  cases g.answer e <;> simp [Except.toOption]

/-- **What a refused edit leaves behind.** -/
theorem apply_of_error {g : Graph α} {e : Edit α} {err : GraphError}
    (h : g.answer e = .error err) :
    g.apply e = if e.showsRefusal then { g with error := some err.message } else g := by
  cases e with
  | setDatabase database =>
      rw [answer, setDatabase_eq] at h
      rw [apply, setDatabase_eq]
      exact allOrNothingShown_of_error h
  | addTable table =>
      rw [answer, addTable_eq] at h
      rw [apply, addTable_eq]
      exact allOrNothingShown_of_error h
  | removeTable id =>
      rw [answer, removeTable_eq] at h
      rw [apply, removeTable_eq]
      exact allOrNothing_of_error h
  | moveTable id position =>
      rw [answer, moveTable_eq] at h
      rw [apply, moveTable_eq]
      exact allOrNothing_of_error h
  | addJoin link =>
      rw [answer, addJoin_eq] at h
      rw [apply, addJoin_eq]
      exact allOrNothing_of_error h
  | updateJoin id change =>
      rw [answer, updateJoin_eq] at h
      rw [apply, updateJoin_eq]
      exact allOrNothing_of_error h
  | removeJoin id =>
      rw [answer, removeJoin_eq] at h
      rw [apply, removeJoin_eq]
      exact allOrNothing_of_error h
  | addColumn table field =>
      rw [answer, addColumn_eq] at h
      rw [apply, addColumn_eq]
      exact allOrNothing_of_error h
  | updateColumn id change =>
      rw [answer, updateColumn_eq] at h
      rw [apply, updateColumn_eq]
      exact allOrNothing_of_error h
  | removeColumn id =>
      rw [answer, removeColumn_eq] at h
      rw [apply, removeColumn_eq]
      exact allOrNothing_of_error h
  | reorderColumns src dst =>
      rw [answer, reorderColumns_eq] at h
      rw [apply, reorderColumns_eq]
      exact allOrNothing_of_error h
  | addFilter table field =>
      rw [answer, addFilter_eq] at h
      rw [apply, addFilter_eq]
      exact allOrNothing_of_error h
  | updateFilter id change =>
      rw [answer, updateFilter_eq] at h
      rw [apply, updateFilter_eq]
      exact allOrNothing_of_error h
  | removeFilter id =>
      rw [answer, removeFilter_eq] at h
      rw [apply, removeFilter_eq]
      exact allOrNothing_of_error h
  | _ => cases h

/-! ### Messages -/

/-- Two graphs differ in their messages alone. -/
def SameButMessage (g g' : Graph α) : Prop :=
  ∃ error, g' = { g with error }

/-- **No edit looks at the message.**  Each asks the same questions of both graphs, and they are
asked of their diagrams and of the number of runs. -/
theorem SameButMessage.step {g g' : Graph α} (h : g.SameButMessage g') (e : Edit α) :
    g'.answer e = g.answer e ∧ (g.apply e).SameButMessage (g'.apply e) := by
  obtain ⟨error, rfl⟩ := h
  cases e with
  | setDatabase database =>
      simp only [answer, apply, setDatabase_eq]
      by_cases h : g.tables ≠ [] ∧ database ≠ g.database
      · rw [if_pos h, if_pos h]
        exact ⟨rfl, _, rfl⟩
      · rw [if_neg h, if_neg h]
        exact ⟨rfl, _, rfl⟩
  | addTable table =>
      simp only [answer, apply, addTable_eq]
      cases g.checkCatalogId table.catalogId with
      | error _ => exact ⟨rfl, _, rfl⟩
      | ok _ => cases g.checkDatabase table.database <;> exact ⟨rfl, _, rfl⟩
  | removeTable id =>
      simp only [answer, apply, removeTable_eq]
      cases g.table? id <;> exact ⟨rfl, _, rfl⟩
  | moveTable id position =>
      simp only [answer, apply, moveTable_eq]
      cases g.table? id <;> exact ⟨rfl, _, rfl⟩
  | commitPosition id position =>
      refine ⟨rfl, ?_⟩
      simp only [apply, commitPosition, moveTable_eq]
      cases g.table? id <;> exact ⟨_, rfl⟩
  | addJoin link =>
      simp only [answer, apply, addJoin_eq]
      cases g.checkLink link <;> exact ⟨rfl, _, rfl⟩
  | updateJoin id change =>
      simp only [answer, apply, updateJoin_eq]
      cases g.join? id with
      | none => exact ⟨rfl, _, rfl⟩
      | some j =>
          simp only
          cases g.checkLink (change.apply j.toLink) <;> exact ⟨rfl, _, rfl⟩
  | removeJoin id =>
      simp only [answer, apply, removeJoin_eq]
      cases g.join? id <;> exact ⟨rfl, _, rfl⟩
  | addColumn table field =>
      simp only [answer, apply, addColumn_eq]
      cases g.use table field with
      | error _ => exact ⟨rfl, _, rfl⟩
      | ok use =>
          simp only [ok_bind]
          cases g.checkUnused use <;> exact ⟨rfl, _, rfl⟩
  | updateColumn id change =>
      simp only [answer, apply, updateColumn_eq]
      cases g.column? id <;> exact ⟨rfl, _, rfl⟩
  | removeColumn id =>
      simp only [answer, apply, removeColumn_eq]
      cases g.column? id <;> exact ⟨rfl, _, rfl⟩
  | reorderColumns src dst =>
      simp only [answer, apply, reorderColumns_eq]
      split
      · exact ⟨rfl, _, rfl⟩
      · split <;> exact ⟨rfl, _, rfl⟩
  | addFilter table field =>
      simp only [answer, apply, addFilter_eq]
      cases g.use table field <;> exact ⟨rfl, _, rfl⟩
  | updateFilter id change =>
      simp only [answer, apply, updateFilter_eq]
      cases g.filter? id with
      | none => exact ⟨rfl, _, rfl⟩
      | some f =>
          simp only
          cases change.comparison with
          | none => exact ⟨rfl, _, rfl⟩
          | some c =>
              simp only
              cases Diagram.checkComparison c f.baseType <;> exact ⟨rfl, _, rfl⟩
  | removeFilter id =>
      simp only [answer, apply, removeFilter_eq]
      cases g.filter? id <;> exact ⟨rfl, _, rfl⟩
  | finish ticket outcome =>
      refine ⟨rfl, ?_⟩
      have hcurrent : ({ g with error } : Graph α).isCurrent ticket = g.isCurrent ticket := rfl
      simp only [apply, finish, hcurrent]
      cases g.isCurrent ticket with
      | false => exact ⟨_, rfl⟩
      | true => cases outcome <;> exact ⟨_, rfl⟩
  | abandon ticket =>
      refine ⟨rfl, ?_⟩
      have hcurrent : ({ g with error } : Graph α).isCurrent ticket = g.isCurrent ticket := rfl
      simp only [apply, abandon, hcurrent]
      cases g.isCurrent ticket <;> exact ⟨_, rfl⟩
  | _ => exact ⟨rfl, _, rfl⟩

/-- **No run of edits looks at the message.** -/
theorem SameButMessage.run {g g' : Graph α} (h : g.SameButMessage g')
    (edits : List (Edit α)) : (g.run edits).SameButMessage (g'.run edits) := by
  induction edits generalizing g g' with
  | nil => exact h
  | cons e edits ih => exact ih (h.step e).2

/-- **A refused edit changes nothing but the message.**  It leaves the graph as it was, whether the
graph is valid or not; two edits show why they are refused.  After it, and after any edits that come
later, every edit gets the answer, and so the id, that it would have had without the refused one. -/
theorem refused_edit_atomic {g : Graph α} {e : Edit α} {err : GraphError}
    (h : g.answer e = .error err) :
    g.apply e = (if e.showsRefusal then { g with error := some err.message } else g) ∧
      ∀ later next, ((g.apply e).run later).answer next = (g.run later).answer next := by
  have happly := apply_of_error h
  refine ⟨happly, fun later next => ?_⟩
  have hsame : g.SameButMessage (g.apply e) := by
    rw [happly]
    cases e.showsRefusal with
    | false => exact ⟨g.error, rfl⟩
    | true => exact ⟨some err.message, rfl⟩
  exact ((hsame.run later).step next).1

/-- A table of another database is refused, and the next column gets the id that is next.  A filter
on numbers is not changed to a test for texts, and neither its value nor its connective are changed
then, though new ones were given. -/
theorem refused_edit_atomic_sample :
    (Sample.graph.answer (.addTable { Sample.orders with catalogId := 9, database := 5 }) =
        .error (.databaseMismatch 4 5) ∧
      Sample.graph.apply (.addTable { Sample.orders with catalogId := 9, database := 5 }) =
        { Sample.graph with
          error := some "All tables must be from the same database (expected 4, got 5)" } ∧
      ((Sample.graph.apply (.addTable { Sample.orders with catalogId := 9, database := 5 })).run
        [.removeFilter 7]).answer (.addColumn 1 10) = .ok (some 8)) ∧
    Sample.graph.answer (.updateFilter 6 ⟨some .contains, some (some (.float 3.5)), some .or⟩) =
        .error (.unsupportedComparison .contains "type/Float") ∧
      Sample.graph.apply (.updateFilter 6 ⟨some .contains, some (some (.float 3.5)), some .or⟩) =
        Sample.graph := by
  have htable : Sample.graph.answer
      (.addTable { Sample.orders with catalogId := 9, database := 5 }) =
        .error (.databaseMismatch 4 5) := by decide +kernel
  have hfilter : Sample.graph.answer
      (.updateFilter 6 ⟨some .contains, some (some (.float 3.5)), some .or⟩) =
        .error (.unsupportedComparison .contains "type/Float") := by decide +kernel
  obtain ⟨happly, hnext⟩ := refused_edit_atomic htable
  refine ⟨⟨htable, happly, ?_⟩, hfilter, (refused_edit_atomic hfilter).1⟩
  rw [hnext]
  decide +kernel

end Graph

end QueryBuilder

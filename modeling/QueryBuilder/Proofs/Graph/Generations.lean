/-
**What edits do to the counts of a graph.**

A graph counts the ids that it hands out, and the runs that were started or cancelled.  The last id
changes when an edit adds a part, and is then the id of this part; only dropping everything brings
it down.  Runs are counted by three edits: starting a run, cancelling runs, and dropping everything.
No other edit touches this count, whether it applies or is refused.  The flag that shows a run is put
out by cancelling and by dropping everything; apart from that, only edits that are about runs touch
it.

Main definitions:

* `QueryBuilder.Edit.editsDiagram`, `QueryBuilder.Edit.endsRuns`, `QueryBuilder.Edit.handlesRuns` —
  edits of the diagram, edits that make runs stale, and edits by which somebody looks after runs of
  his own;
* `QueryBuilder.Graph.Edited`, `QueryBuilder.Graph.Counts` — graphs that differ in what edits of the
  diagram may change, and by an id that was handed out.

Main results:

* `QueryBuilder.Graph.edited_apply`, `QueryBuilder.Graph.shown_apply` — what edits of the diagram
  leave alone, and what other edits do;
* `QueryBuilder.Graph.lastId_apply`, `QueryBuilder.Graph.lastId_le_apply` — ids are counted up;
* `QueryBuilder.Graph.generation_apply`, `QueryBuilder.Graph.executing_apply` — **the count of runs
  and the flag after an edit**.
-/

import QueryBuilder.Proofs.Graph.Preservation
import QueryBuilder.Proofs.Graph.Refusals

set_option autoImplicit false

namespace QueryBuilder

variable {α β : Type}

/-- Whether an edit is one of the diagram.  The others are about runs and what is shown of them, or
drop everything. -/
def Edit.editsDiagram : Edit α → Bool
  | .reset | .setExecuting _ | .setError _ | .setResult _ | .begin | .finish .. | .abandon _
  | .cancel => false
  | _ => true

/-- Whether an edit makes the runs stale that were started before it. -/
def Edit.endsRuns : Edit α → Bool
  | .reset | .begin | .cancel => true
  | _ => false

/-- Whether an edit sets the flag by hand, or belongs to a run that is started by hand. -/
def Edit.handlesRuns : Edit α → Bool
  | .setExecuting _ | .begin | .finish .. | .abandon _ => true
  | _ => false

/-- Edits of the diagram make no run stale. -/
theorem Edit.endsRuns_of_editsDiagram {e : Edit α} (h : e.editsDiagram = true) :
    e.endsRuns = false := by
  cases e with
  | reset | begin | cancel => cases h
  | _ => rfl

namespace Graph

variable {g : Graph α}

/-! ### Edits of the diagram -/

/-- A graph differs from another one in its diagram, its message and its last id alone, and this id
is not below the other one. -/
def Edited (g g' : Graph α) : Prop :=
  ∃ d error lastId, g.lastId ≤ lastId ∧ g' = { g with toDiagram := d, error, lastId }

/-- The next id is above the last one. -/
theorem lastId_lt_nextId (g : Graph α) : g.lastId < g.nextId :=
  Nat.lt_succ_of_le (Nat.le_max_left _ _)

/-- The id that an edit of the diagram hands out is the next one, and becomes the last one.  Apart
from that, only the diagram and the message change. -/
def Counts (g : Graph α) (issued : Option Nat) (g' : Graph α) : Prop :=
  ∃ d error, (∀ id ∈ issued, id = g.nextId) ∧
    g' = { g with toDiagram := d, error, lastId := issued.getD g.lastId }

theorem Counts.edited {issued : Option Nat} {g' : Graph α} (h : g.Counts issued g') :
    g.Edited g' := by
  obtain ⟨d, error, hnext, rfl⟩ := h
  refine ⟨d, error, _, ?_, rfl⟩
  cases issued with
  | none => exact Nat.le_refl _
  | some id =>
      rw [hnext id rfl]
      exact Nat.le_of_lt g.lastId_lt_nextId

theorem allOrNothing_counts {r : Except GraphError (β × Graph α)} {f : β → Option Nat}
    (h : ∀ b g', r = .ok (b, g') → g.Counts (f b) g') :
    g.Counts ((g.allOrNothing r).1.map f).toOption.join (g.allOrNothing r).2 := by
  rcases g.allOrNothing_cases r with ⟨e, -, ha⟩ | ⟨b, g', hok, ha⟩
  · rw [ha]
    exact ⟨_, _, by rintro _ ⟨⟩, rfl⟩
  · rw [ha]
    exact h b g' hok

theorem allOrNothingShown_counts {r : Except GraphError (β × Graph α)} {f : β → Option Nat}
    (h : ∀ b g', r = .ok (b, g') → g.Counts (f b) g') :
    g.Counts ((g.allOrNothingShown r).1.map f).toOption.join (g.allOrNothingShown r).2 := by
  rcases g.allOrNothingShown_cases r with ⟨e, -, ha⟩ | ⟨b, g', hok, ha⟩
  · rw [ha]
    exact ⟨_, _, by rintro _ ⟨⟩, rfl⟩
  · rw [ha]
    exact h b g' hok

/-- An edit that hands out no id keeps the last one. -/
theorem counts_none {d : Diagram α} {error : Option String} :
    g.Counts none { g with toDiagram := d, error } :=
  ⟨d, error, by rintro _ ⟨⟩, rfl⟩

/-- An edit that hands out the next id makes it the last one. -/
theorem counts_nextId {d : Diagram α} {error : Option String} :
    g.Counts (some g.nextId) { g with toDiagram := d, error, lastId := g.nextId } :=
  ⟨d, error, by rintro _ ⟨⟩; rfl, rfl⟩

/-- **Edits of the diagram count the ids that they hand out**, and change nothing else apart from the
diagram and the message. -/
theorem counts_apply [Coordinate α] (g : Graph α) {e : Edit α} (h : e.editsDiagram = true) :
    g.Counts (g.issue? e) (g.apply e) := by
  cases e with
  | setDatabase database =>
      rw [issue?, answer, apply, setDatabase_eq]
      refine allOrNothingShown_counts fun _ g' hok => ?_
      split at hok <;> cases hok
      exact counts_none
  | addTable t =>
      rw [issue?, answer, apply, addTable_eq]
      refine allOrNothingShown_counts fun _ g' hok => ?_
      obtain ⟨_, _, hok⟩ := bind_eq_ok.1 hok
      obtain ⟨_, _, hok⟩ := bind_eq_ok.1 hok
      cases hok
      exact counts_nextId
  | removeTable id =>
      rw [issue?, answer, apply, removeTable_eq]
      refine allOrNothing_counts fun _ g' hok => ?_
      split at hok <;> cases hok
      exact counts_none
  | moveTable id position =>
      rw [issue?, answer, apply, moveTable_eq]
      refine allOrNothing_counts fun _ g' hok => ?_
      split at hok <;> cases hok
      exact counts_none
  | commitPosition id position =>
      -- a commit answers nothing, whether there is a table to move or not
      rw [apply, commitPosition, moveTable_eq]
      refine allOrNothing_preserves (P := g.Counts none) counts_none fun _ g' hok => ?_
      split at hok <;> cases hok
      exact counts_none
  | addJoin l =>
      rw [issue?, answer, apply, addJoin_eq]
      refine allOrNothing_counts fun _ g' hok => ?_
      obtain ⟨_, _, hok⟩ := bind_eq_ok.1 hok
      cases hok
      exact counts_nextId
  | updateJoin id change =>
      rw [issue?, answer, apply, updateJoin_eq]
      refine allOrNothing_counts fun _ g' hok => ?_
      split at hok
      · cases hok
      · obtain ⟨_, _, hok⟩ := bind_eq_ok.1 hok
        cases hok
        exact counts_none
  | removeJoin id =>
      rw [issue?, answer, apply, removeJoin_eq]
      refine allOrNothing_counts fun _ g' hok => ?_
      split at hok <;> cases hok
      exact counts_none
  | addColumn table field =>
      rw [issue?, answer, apply, addColumn_eq]
      refine allOrNothing_counts fun _ g' hok => ?_
      obtain ⟨_, _, hok⟩ := bind_eq_ok.1 hok
      obtain ⟨_, _, hok⟩ := bind_eq_ok.1 hok
      cases hok
      exact counts_nextId
  | updateColumn id change =>
      rw [issue?, answer, apply, updateColumn_eq]
      refine allOrNothing_counts fun _ g' hok => ?_
      split at hok <;> cases hok
      exact counts_none
  | removeColumn id =>
      rw [issue?, answer, apply, removeColumn_eq]
      refine allOrNothing_counts fun _ g' hok => ?_
      split at hok <;> cases hok
      exact counts_none
  | reorderColumns src dst =>
      rw [issue?, answer, apply, reorderColumns_eq]
      refine allOrNothing_counts fun _ g' hok => ?_
      split at hok
      · cases hok
      · split at hok <;> cases hok
        exact counts_none
  | addFilter table field =>
      rw [issue?, answer, apply, addFilter_eq]
      refine allOrNothing_counts fun _ g' hok => ?_
      obtain ⟨_, _, hok⟩ := bind_eq_ok.1 hok
      cases hok
      exact counts_nextId
  | updateFilter id change =>
      rw [issue?, answer, apply, updateFilter_eq]
      refine allOrNothing_counts fun _ g' hok => ?_
      split at hok
      · cases hok
      · cases (Diagram.Valid.supports_of_updateFilter hok).2
        exact counts_none
  | removeFilter id =>
      rw [issue?, answer, apply, removeFilter_eq]
      refine allOrNothing_counts fun _ g' hok => ?_
      split at hok <;> cases hok
      exact counts_none
  | _ => cases h

/-- **Edits of the diagram leave the rest of the graph alone**, apart from its message and the last
id. -/
theorem edited_apply [Coordinate α] (g : Graph α) {e : Edit α} (h : e.editsDiagram = true) :
    g.Edited (g.apply e) :=
  (g.counts_apply h).edited

/-- Edits that are not of the diagram change what is shown of runs and their count, and nothing
else, unless they drop everything. -/
theorem shown_apply [Coordinate α] (g : Graph α) {e : Edit α} (h : e.editsDiagram = false)
    (hreset : e ≠ .reset) :
    ∃ executing error lastResult generation,
      g.apply e = { g with executing, error, lastResult, generation } := by
  cases e with
  | finish ticket outcome =>
      obtain ⟨_, _, _, hshown⟩ := g.finish_eq_shown ticket outcome
      exact ⟨_, _, _, _, hshown⟩
  | abandon ticket =>
      obtain ⟨_, hshown⟩ := g.abandon_eq_shown ticket
      exact ⟨_, _, _, _, hshown⟩
  | reset => exact (hreset rfl).elim
  | setExecuting _ | setError _ | setResult _ | begin | cancel => exact ⟨_, _, _, _, rfl⟩
  | _ => cases h

/-- Edits that are not of the diagram hand out no id. -/
theorem issue?_of_editsDiagram [Coordinate α] (g : Graph α) {e : Edit α}
    (h : e.editsDiagram = false) : g.issue? e = none := by
  cases e with
  | reset | setExecuting _ | setError _ | setResult _ | begin | finish _ _ | abandon _ | cancel => rfl
  | _ => cases h

/-- **The last id is the one that an edit hands out**, or what it was. -/
theorem lastId_apply [Coordinate α] (g : Graph α) {e : Edit α} (h : e ≠ .reset) :
    (g.apply e).lastId = (g.issue? e).getD g.lastId := by
  cases hdiagram : e.editsDiagram with
  | true =>
      obtain ⟨_, _, -, hcounted⟩ := g.counts_apply hdiagram
      rw [hcounted]
  | false =>
      obtain ⟨_, _, _, _, hshown⟩ := g.shown_apply hdiagram h
      rw [hshown, g.issue?_of_editsDiagram hdiagram]
      rfl

/-- **The id that an edit hands out is the next one.** -/
theorem issue?_eq_nextId [Coordinate α] {e : Edit α} {id : Nat} (h : g.issue? e = some id) :
    id = g.nextId := by
  cases hdiagram : e.editsDiagram with
  | true =>
      obtain ⟨_, _, hnext, -⟩ := g.counts_apply hdiagram
      exact hnext id h
  | false =>
      rw [g.issue?_of_editsDiagram hdiagram] at h
      cases h

/-- **The last id never comes down**, unless everything is dropped. -/
theorem lastId_le_apply [Coordinate α] (g : Graph α) {e : Edit α} (h : e ≠ .reset) :
    g.lastId ≤ (g.apply e).lastId := by
  rw [g.lastId_apply h]
  cases hissue : g.issue? e with
  | none => exact Nat.le_refl _
  | some id =>
      rw [issue?_eq_nextId hissue]
      exact Nat.le_of_lt g.lastId_lt_nextId

/-! ### The count and the flag -/

theorem generation_abandon (ticket : Ticket) :
    (g.abandon ticket).generation = g.generation := by
  obtain ⟨_, hshown⟩ := g.abandon_eq_shown ticket
  rw [hshown]

/-- **Only starting a run, cancelling and dropping everything count one up.** -/
theorem generation_apply [Coordinate α] (g : Graph α) (e : Edit α) :
    (g.apply e).generation = g.generation + if e.endsRuns then 1 else 0 := by
  cases hdiagram : e.editsDiagram with
  | true =>
      obtain ⟨_, _, _, -, hedited⟩ := g.edited_apply hdiagram
      rw [hedited, Edit.endsRuns_of_editsDiagram hdiagram]
      rfl
  | false =>
      cases e with
      | finish ticket outcome =>
          obtain ⟨_, _, _, hshown⟩ := g.finish_eq_shown ticket outcome
          rw [apply, hshown]
          rfl
      | abandon ticket => exact generation_abandon ticket
      | reset | setExecuting _ | setError _ | setResult _ | begin | cancel => rfl
      | _ => cases hdiagram

/-- **Cancelling and dropping everything put the flag out**, and no other edit touches it but those
that look after runs. -/
theorem executing_apply [Coordinate α] (g : Graph α) {e : Edit α} (h : e.handlesRuns = false) :
    (g.apply e).executing = if e.endsRuns then false else g.executing := by
  cases hdiagram : e.editsDiagram with
  | true =>
      obtain ⟨_, _, _, -, hedited⟩ := g.edited_apply hdiagram
      rw [hedited, Edit.endsRuns_of_editsDiagram hdiagram]
      rfl
  | false =>
      cases e with
      | reset | setError _ | setResult _ | cancel => rfl
      | setExecuting _ | begin | finish _ _ | abandon _ => cases h
      | _ => cases hdiagram

end Graph

end QueryBuilder

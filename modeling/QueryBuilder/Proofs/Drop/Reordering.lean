/-
**Columns that are moved.**

A column is taken out before it is put back, and so the places behind it shift in between.  This
does not show afterwards: whether it moves to the front or to the back, the column is at the place
that was asked for, and the others follow each other as before.  Two lists are related in this way
in both directions, and the relation leaves no choice for the second list.  So moving the column
back gives the first list again, without a look at how places shift.

A column dropped on another one takes that column's place.

Main definitions:

* `QueryBuilder.MovesItem` — one list is the other with an item at another place.

Main results:

* `QueryBuilder.movesItem_moveItem`, `QueryBuilder.MovesItem.eq_moveItem` — moving an item gives the
  one list that is related in this way;
* `QueryBuilder.moveItem_moveItem` — moving it back;
* `QueryBuilder.Graph.reorderColumns_eq_error_iff` — when a move is refused;
* `QueryBuilder.Graph.reordering_moves` — **reordering columns moves one of them**.
-/

import QueryBuilder.Proofs.Drop.Outcomes
import QueryBuilder.Proofs.Graph.Tracking

set_option autoImplicit false

namespace QueryBuilder

/-! ### Items of lists -/

section Items

variable {β : Type} {items items' : List β} {src dst : Nat}

/-- One list is the other with the item of one place at another place. -/
structure MovesItem (items : List β) (src dst : Nat) (items' : List β) : Prop where
  perm : items'.Perm items
  lands : ∃ item, items[src]? = some item ∧ items'[dst]? = some item
  /-- Without the item, both lists are the same. -/
  others : items'.eraseIdx dst = items.eraseIdx src

theorem movesItem_moveItem (hsrc : src < items.length) (hdst : dst < items.length) :
    MovesItem items src dst (moveItem items src dst) := by
  have hitem : items[src]? = some items[src] := List.getElem?_eq_getElem hsrc
  have hlength : (items.eraseIdx src).length = items.length - 1 := List.length_eraseIdx_of_lt hsrc
  have hmove : moveItem items src dst = (items.eraseIdx src).insertIdx dst items[src] := by
    rw [moveItem, hitem]
  refine ⟨moveItem_perm hdst, ⟨items[src], hitem, ?_⟩, ?_⟩
  · rw [hmove, List.getElem?_insertIdx_self, if_pos (by omega)]
  · rw [hmove, List.eraseIdx_insertIdx_self]

theorem MovesItem.symm (h : MovesItem items src dst items') : MovesItem items' dst src items := by
  obtain ⟨item, hitem, hitem'⟩ := h.lands
  exact ⟨h.perm.symm, ⟨item, hitem', hitem⟩, h.others.symm⟩

/-- **There is one way to move an item**: the other items are told, and so is where it is put. -/
theorem MovesItem.eq_moveItem (h : MovesItem items src dst items') :
    items' = moveItem items src dst := by
  obtain ⟨item, hitem, hitem'⟩ := h.lands
  obtain ⟨hdst, rfl⟩ := List.getElem?_eq_some_iff.1 hitem'
  calc items' = (items'.eraseIdx dst).insertIdx dst items'[dst] :=
        (List.insertIdx_eraseIdx_getElem hdst).symm
    _ = (items.eraseIdx src).insertIdx dst items'[dst] := by rw [h.others]
    _ = moveItem items src dst := by rw [moveItem, hitem]

/-- An item that is moved back is where it was, and so are the others. -/
theorem moveItem_moveItem (hsrc : src < items.length) (hdst : dst < items.length) :
    moveItem (moveItem items src dst) dst src = items :=
  (movesItem_moveItem hsrc hdst).symm.eq_moveItem.symm

end Items

namespace Graph

variable {α : Type} {g : Graph α} {src dst : Nat}

/-! ### Places of columns -/

/-- Between places of columns a column is moved, and nothing else is done. -/
theorem reorderColumns_of_lt (hsrc : src < g.columns.length) (hdst : dst < g.columns.length) :
    g.reorderColumns src dst = (.ok (), { g with columns := moveItem g.columns src dst }) := by
  rw [reorderColumns_eq, if_neg (by omega), if_neg (by omega)]
  rfl

/-- **A move is refused if one of the places is none of a column**; of two such places the first is
reported. -/
theorem reorderColumns_eq_error_iff {e : GraphError} :
    (g.reorderColumns src dst).1 = .error e ↔
      g.columns.length ≤ src ∧ e = .indexOutOfRange src g.columns.length ∨
        src < g.columns.length ∧ g.columns.length ≤ dst ∧
          e = .indexOutOfRange dst g.columns.length := by
  by_cases hsrc : g.columns.length ≤ src
  · rw [reorderColumns_eq, if_pos hsrc]
    simp [allOrNothing, hsrc, Nat.not_lt_of_le hsrc, eq_comm]
  · by_cases hdst : g.columns.length ≤ dst
    · rw [reorderColumns_eq, if_neg hsrc, if_pos hdst]
      simp [allOrNothing, hsrc, hdst, Nat.lt_of_not_le hsrc, eq_comm]
    · rw [reorderColumns_of_lt (Nat.lt_of_not_le hsrc) (Nat.lt_of_not_le hdst)]
      simp [hsrc, hdst]

/-- A column that is there has a place. -/
theorem exists_columnIndex? {id : Nat} (h : ∃ c ∈ g.columns, c.id = id) :
    ∃ i c, g.columnIndex? id = some i ∧ g.columns[i]? = some c ∧ c.id = id := by
  have hsome : (g.columnIndex? id).isSome = true := by
    rw [Diagram.columnIndex?, List.findIdx?_isSome, List.any_eq_true]
    obtain ⟨c, hc, hid⟩ := h
    exact ⟨c, hc, beq_iff_eq.2 hid⟩
  obtain ⟨i, hi⟩ := Option.isSome_iff_exists.1 hsome
  obtain ⟨hlt, hid, -⟩ := List.findIdx?_eq_some_iff_getElem.1 hi
  exact ⟨i, g.columns[i], hi, List.getElem?_eq_getElem hlt, beq_iff_eq.1 hid⟩

/-- If columns have distinct ids, the place of a column is the one at which it is. -/
theorem columnIndex?_of_getElem? (h : (g.columns.map (·.id)).Nodup) {i : Nat} {c : Column}
    (hc : g.columns[i]? = some c) : g.columnIndex? c.id = some i := by
  obtain ⟨j, c', hj, hc', hid⟩ := exists_columnIndex? ⟨c, List.mem_of_getElem? hc, rfl⟩
  rw [hj, place_unique h hc' hc hid]

variable [Coordinate α]

/-- A column dropped on another one takes its place. -/
theorem drop_column_of_ne {moved other i j : Nat} (hi : g.columnIndex? moved = some i)
    (hj : g.columnIndex? other = some j) (hne : i ≠ j) :
    g.drop (.column moved) (.column other) =
      (.columnMoved i j, { g with columns := moveItem g.columns i j }) := by
  simp only [drop, dropColumn, hi, hj, if_neg hne,
    reorderColumns_of_lt (lt_of_columnIndex? hi) (lt_of_columnIndex? hj)]

/-! ### Reordering -/

/-- **Reordering columns moves one of them.**  Between places of columns, the column of the first
place comes to the second one, the others follow each other as before, and moving it back gives the
first graph again.  A move is refused if one of the places is none of a column, and the first such
place is reported.  A column dropped on another one is moved to its place; both places are
reported. -/
theorem reordering_moves (g : Graph α) :
    (∀ src dst, src < g.columns.length → dst < g.columns.length →
      ∃ columns, g.reorderColumns src dst = (.ok (), { g with columns }) ∧
        MovesItem g.columns src dst columns ∧
        ({ g with columns } : Graph α).reorderColumns dst src = (.ok (), g)) ∧
    (∀ src dst e, (g.reorderColumns src dst).1 = .error e ↔
      g.columns.length ≤ src ∧ e = .indexOutOfRange src g.columns.length ∨
        src < g.columns.length ∧ g.columns.length ≤ dst ∧
          e = .indexOutOfRange dst g.columns.length) ∧
    ∀ moved other, moved ≠ other → (∃ c ∈ g.columns, c.id = moved) →
      (∃ c ∈ g.columns, c.id = other) →
        ∃ i j c columns, g.columnIndex? moved = some i ∧ g.columnIndex? other = some j ∧
          g.drop (.column moved) (.column other) = (.columnMoved i j, { g with columns }) ∧
          MovesItem g.columns i j columns ∧ c.id = moved ∧ columns[j]? = some c ∧
          ((g.columns.map (·.id)).Nodup →
            ({ g with columns } : Graph α).columnIndex? moved = some j) := by
  refine ⟨?_, fun src dst e => reorderColumns_eq_error_iff, ?_⟩
  · intro src dst hsrc hdst
    have hmoves := movesItem_moveItem hsrc hdst
    have hlength : (moveItem g.columns src dst).length = g.columns.length := hmoves.perm.length_eq
    refine ⟨_, reorderColumns_of_lt hsrc hdst, hmoves, ?_⟩
    rw [reorderColumns_of_lt (hlength ▸ hdst) (hlength ▸ hsrc)]
    simp only [moveItem_moveItem hsrc hdst]
  · intro moved other hne hmoved hother
    obtain ⟨i, c, hi, hc, hid⟩ := exists_columnIndex? hmoved
    obtain ⟨j, c', hj, hc', hid'⟩ := exists_columnIndex? hother
    -- one place has one column, and the two columns have different ids
    have hplaces : i ≠ j := by
      rintro rfl
      rw [hc, Option.some.injEq] at hc'
      exact hne (hid.symm.trans (hc' ▸ hid'))
    have hmoves := movesItem_moveItem (lt_of_columnIndex? hi) (lt_of_columnIndex? hj)
    obtain ⟨item, hitem, hlands⟩ := hmoves.lands
    rw [hc, Option.some.injEq] at hitem
    subst hitem
    refine ⟨i, j, c, _, hi, hj, drop_column_of_ne hi hj hplaces, hmoves, hid, hlands, ?_⟩
    intro hnodup
    rw [← hid]
    exact columnIndex?_of_getElem? ((hmoves.perm.map _).nodup_iff.2 hnodup) hlands

/-- The second column is dropped on the first, and the first one is moved to no place. -/
theorem reordering_moves_sample :
    (∃ columns, Sample.graph.drop (.column 5) (.column 4) =
        (.columnMoved 1 0, { Sample.graph with columns }) ∧
      MovesItem Sample.graph.columns 1 0 columns ∧
      ({ Sample.graph with columns } : Graph Float).columnIndex? 5 = some 0) ∧
    (Sample.graph.reorderColumns 0 2).1 = .error (.indexOutOfRange 2 2) := by
  obtain ⟨-, hrefused, hdropped⟩ := reordering_moves Sample.graph
  obtain ⟨i, j, c, columns, hi, hj, hdrop, hmoves, -, -, hplace⟩ :=
    hdropped 5 4 (by decide) (by decide +kernel) (by decide +kernel)
  have hi' : Sample.graph.columnIndex? 5 = some 1 := by decide +kernel
  have hj' : Sample.graph.columnIndex? 4 = some 0 := by decide +kernel
  rw [hi', Option.some.injEq] at hi
  rw [hj', Option.some.injEq] at hj
  subst hi hj
  exact ⟨⟨columns, hdrop, hmoves, hplace (by decide +kernel)⟩,
    (hrefused 0 2 _).2 (.inr (by decide +kernel))⟩

end Graph

end QueryBuilder

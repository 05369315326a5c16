/-
**New tables go beside the others.**

A new table goes on a fixed row, and its left edge is the gap of the settings away from the
rightmost right edge of all tables, wherever they have been moved to.  So it is on the right of
every other table exactly if the gap is not negative, and then it overlaps none of them.

The check of settings asks a gap only to be finite.  With a negative one that it accepts, a table
can be put on top of another one.

Main definitions:

* `QueryBuilder.Bounds.RightOf` — a box is on the right of another one;
* `QueryBuilder.Bounds.Inside`, `QueryBuilder.Bounds.Apart` — the points inside of a box, and boxes
  that have no such point in common;
* `QueryBuilder.Settings.rightEdges` — the right edges of tables.

Main results:

* `QueryBuilder.Bounds.RightOf.apart` — boxes beside each other are apart;
* `QueryBuilder.Settings.spawn_beside` — a new table is a gap away from the rightmost one;
* `QueryBuilder.Settings.rightOf_spawn_iff` — it is on the right of all exactly if the gap is not
  negative;
* `QueryBuilder.Graph.new_tables_beside` — **new tables go beside the others, in every run**;
* `QueryBuilder.Graph.new_tables_overlap` — **a negative gap is accepted, and new tables overlap**.
-/

import Mathlib.Order.Bounds.Basic
import QueryBuilder.Proofs.Canvas.Exact
import QueryBuilder.Proofs.Graph.Cascade

set_option autoImplicit false

namespace QueryBuilder

/-! ### Boxes beside each other -/

namespace Bounds

/-- A box is on the right of another one; they may touch. -/
def RightOf (b a : Bounds Exact) : Prop :=
  a.maxX.value ≤ b.minX.value

instance (b a : Bounds Exact) : Decidable (b.RightOf a) :=
  inferInstanceAs (Decidable (_ ≤ _))

/-- A point is inside of a box and not on its edge. -/
structure Inside (b : Bounds Exact) (p : Position Exact) : Prop where
  left : b.minX.value < p.x.value
  right : p.x.value < b.maxX.value
  top : b.minY.value < p.y.value
  bottom : p.y.value < b.maxY.value

/-- Two boxes have no inner point in common. -/
def Apart (a b : Bounds Exact) : Prop :=
  ∀ p, a.Inside p → ¬ b.Inside p

/-- **Boxes beside each other are apart.** -/
theorem RightOf.apart {a b : Bounds Exact} (h : b.RightOf a) : a.Apart b := by
  intro p ha hb
  have hless : p.x.value < b.minX.value := lt_of_lt_of_le ha.right h
  exact lt_asymm hless hb.left

end Bounds

/-! ### The place of a new table -/

namespace Settings

variable (c : Settings Exact)

/-- The right edges of tables at some places. -/
def rightEdges (places : List (Position Exact)) : Set ℚ :=
  {edge | ∃ p ∈ places, (c.footprint p).maxX.value = edge}

/-- The right edge that is found is the rightmost one.  The induction is on the tables behind the
first, with the rightmost edge so far. -/
theorem isGreatest_foldl_larger (rest : List (Position Exact)) (edge : Exact) :
    IsGreatest (insert edge.value (c.rightEdges rest))
      (rest.foldl (fun edge q => Coordinate.larger edge (q.x + c .tableWidth)) edge).value := by
  induction rest generalizing edge with
  | nil => simp [rightEdges]
  | cons p rest ih =>
      obtain ⟨hmem, hupper⟩ := ih (Coordinate.larger edge (p.x + c .tableWidth))
      have hlarger : (Coordinate.larger edge (p.x + c .tableWidth)).value =
          max edge.value (c.footprint p).maxX.value := rfl
      rw [List.foldl_cons]
      rw [hlarger] at hmem hupper
      have hfirst := hupper (Set.mem_insert _ _)
      constructor
      · rcases hmem with hmem | ⟨q, hq, hmem⟩
        · rcases max_choice edge.value (c.footprint p).maxX.value with hmax | hmax
          · exact .inl (hmem.trans hmax)
          · exact .inr ⟨p, List.mem_cons_self, (hmem.trans hmax).symm⟩
        · exact .inr ⟨q, List.mem_cons_of_mem p hq, hmem⟩
      · rintro x (rfl | ⟨q, hq, rfl⟩)
        · exact le_trans (le_max_left _ _) hfirst
        · rcases List.mem_cons.1 hq with rfl | hq
          · exact le_trans (le_max_right _ _) hfirst
          · exact hupper (.inr ⟨q, hq, rfl⟩)

/-- **A new table goes on its row, a gap away from the rightmost right edge.** -/
theorem spawn_beside {places : List (Position Exact)} (h : places ≠ []) :
    (∃ edge, IsGreatest (c.rightEdges places) edge ∧
      (c.spawn places).x.value = edge + (c .spawnMargin).value) ∧
    (c.spawn places).y = c .spawnY := by
  cases places with
  | nil => exact (h rfl).elim
  | cons p rest =>
      have hedges : c.rightEdges (p :: rest) =
          insert (p.x + c .tableWidth).value (c.rightEdges rest) := by
        ext edge
        simp [rightEdges, footprint, eq_comm]
      refine ⟨⟨_, ?_, rfl⟩, rfl⟩
      rw [hedges]
      exact c.isGreatest_foldl_larger rest _

/-- **A new table is on the right of all others exactly if the gap is not negative.** -/
theorem rightOf_spawn_iff {places : List (Position Exact)} (h : places ≠ []) :
    (∀ p ∈ places, (c.footprint (c.spawn places)).RightOf (c.footprint p)) ↔
      0 ≤ (c .spawnMargin).value := by
  obtain ⟨⟨edge, ⟨hmem, hupper⟩, hx⟩, -⟩ := c.spawn_beside h
  have hleft : (c.footprint (c.spawn places)).minX.value = edge + (c .spawnMargin).value := hx
  constructor
  · intro hright
    obtain ⟨p, hp, hedge⟩ := hmem
    have hgap : (c.footprint p).maxX.value ≤ edge + (c .spawnMargin).value := by
      rw [← hleft]
      exact hright p hp
    rw [hedge] at hgap
    exact le_add_iff_nonneg_right edge |>.1 hgap
  · intro hgap p hp
    have hedge : (c.footprint p).maxX.value ≤ edge := hupper ⟨p, hp, rfl⟩
    rw [Bounds.RightOf, hleft]
    exact le_add_of_le_of_nonneg hedge hgap

/-- A new table overlaps none of the others if the gap is not negative. -/
theorem apart_spawn (h : 0 ≤ (c .spawnMargin).value) {places : List (Position Exact)}
    {p : Position Exact} (hp : p ∈ places) :
    (c.footprint p).Apart (c.footprint (c.spawn places)) :=
  ((c.rightOf_spawn_iff (List.ne_nil_of_mem hp)).2 h p hp).apart

end Settings

/-! ### Runs -/

namespace Graph

section

variable {α : Type} [Coordinate α]

/-- Edits keep the settings. -/
theorem settings_apply (g : Graph α) (e : Edit α) : (g.apply e).settings = g.settings := by
  by_cases hreset : e = .reset
  · rw [hreset]
    rfl
  · cases hdiagram : e.editsDiagram with
    | true =>
        obtain ⟨_, _, _, -, hedited⟩ := g.edited_apply hdiagram
        rw [hedited]
    | false =>
        obtain ⟨_, _, _, _, hshown⟩ := g.shown_apply hdiagram hreset
        rw [hshown]

/-- Runs keep the settings. -/
theorem settings_run (g : Graph α) (edits : List (Edit α)) :
    (g.run edits).settings = g.settings :=
  run_induction (fun g' e h => (g'.settings_apply e).trans h) rfl edits

end

/-- **New tables go beside the others.**  Take any settings, accepted or not.  Among tables at any
places, a new one is on the right of all exactly if there is no other or the gap is not negative,
and in this case it overlaps none.  The same holds for every table that is added to a graph with
these settings, after any edits. -/
theorem new_tables_beside (c : Settings Exact) :
    (∀ places : List (Position Exact),
      ((∀ p ∈ places, (c.footprint (c.spawn places)).RightOf (c.footprint p)) ↔
        places = [] ∨ 0 ≤ (c .spawnMargin).value) ∧
      (0 ≤ (c .spawnMargin).value →
        ∀ p ∈ places, (c.footprint p).Apart (c.footprint (c.spawn places)))) ∧
    ∀ (edits : List (Edit Exact)) (new : NewTable) (id : Nat) (g' : Graph Exact),
      ((empty c).run edits).addTable new = (.ok id, g') →
      ∃ t : PlacedTable Exact, t.id = id ∧ g'.tables = ((empty c).run edits).tables ++ [t] ∧
        ((∀ other ∈ ((empty c).run edits).tables,
            (c.footprint t.position).RightOf (c.footprint other.position)) ↔
          ((empty c).run edits).tables = [] ∨ 0 ≤ (c .spawnMargin).value) ∧
        (0 ≤ (c .spawnMargin).value → ∀ other ∈ ((empty c).run edits).tables,
          (c.footprint other.position).Apart (c.footprint t.position)) := by
  have hplaces : ∀ places : List (Position Exact),
      (∀ p ∈ places, (c.footprint (c.spawn places)).RightOf (c.footprint p)) ↔
        places = [] ∨ 0 ≤ (c .spawnMargin).value := by
    intro places
    rcases eq_or_ne places [] with rfl | hne
    · simp
    · rw [c.rightOf_spawn_iff hne, or_iff_right hne]
  refine ⟨fun places => ⟨hplaces places, fun hgap _ hp => c.apart_spawn hgap hp⟩, ?_⟩
  intro edits new id g' hadd
  generalize hg : (empty c).run edits = g at hadd ⊢
  have hsettings : g.settings = c := by
    rw [← hg, settings_run]
    rfl
  obtain ⟨-, rfl, hadded⟩ := addTable_eq_ok hadd
  have hposition : (g.tableToAdd new).position = c.spawn (g.tables.map (·.position)) := by
    rw [tableToAdd, hsettings]
  have hright := hplaces (g.tables.map (·.position))
  rw [List.forall_mem_map, List.map_eq_nil_iff, ← hposition] at hright
  refine ⟨g.tableToAdd new, rfl, by rw [hadded], hright, fun hgap other hother => ?_⟩
  rw [hposition]
  exact c.apart_spawn hgap (List.mem_map_of_mem hother)

/-- Customers are added after orders were moved: they go beside them, a gap of 40 away. -/
theorem new_tables_beside_sample :
    let g := (empty (.standard : Settings Exact)).run
      [.addTable Sample.orders, .moveTable 1 ⟨⟨400⟩, ⟨300⟩⟩]
    ∃ g', g.addTable Sample.customers = (.ok 2, g') ∧
      0 ≤ ((Settings.standard : Settings Exact) .spawnMargin).value ∧
      ∃ t : PlacedTable Exact, t.id = 2 ∧ g'.tables = g.tables ++ [t] ∧
        ∀ other ∈ g.tables,
          (Settings.standard.footprint t.position).RightOf
            (Settings.standard.footprint other.position) ∧
          (Settings.standard.footprint other.position).Apart
            (Settings.standard.footprint t.position) := by
  intro g
  have hok : (g.addTable Sample.customers).1 = .ok 2 := by decide +kernel
  have hgap : 0 ≤ ((Settings.standard : Settings Exact) .spawnMargin).value := by decide +kernel
  have hadd : g.addTable Sample.customers = (.ok 2, (g.addTable Sample.customers).2) :=
    Prod.ext hok rfl
  obtain ⟨t, hid, htables, hright, hapart⟩ :=
    (new_tables_beside .standard).2 _ Sample.customers 2 _ hadd
  exact ⟨_, hadd, hgap, t, hid, htables, fun other hother =>
    ⟨hright.2 (.inr hgap) other hother, hapart hgap other hother⟩⟩

/-- **A negative gap is accepted, and new tables overlap.**  The second of two tables is put on the
right half of the first one. -/
theorem new_tables_overlap :
    let c : Settings Exact := fun s => if s = .spawnMargin then ⟨-100⟩ else Settings.standard s
    let g := (empty c).run [.addTable Sample.orders, .addTable Sample.customers]
    c.fault? = none ∧
      g.tables.map (·.position) = [⟨⟨50⟩, ⟨50⟩⟩, ⟨⟨170⟩, ⟨50⟩⟩] ∧
      ¬ (c.footprint ⟨⟨170⟩, ⟨50⟩⟩).RightOf (c.footprint ⟨⟨50⟩, ⟨50⟩⟩) ∧
      ¬ (c.footprint ⟨⟨50⟩, ⟨50⟩⟩).Apart (c.footprint ⟨⟨170⟩, ⟨50⟩⟩) := by
  intro c g
  refine ⟨by decide +kernel, by decide +kernel, by decide +kernel, fun hapart => ?_⟩
  -- a point on the right half of the first table
  refine hapart ⟨⟨200⟩, ⟨100⟩⟩ ?_ ?_
  · constructor <;> decide +kernel
  · constructor <;> decide +kernel

end Graph

end QueryBuilder

/-
**Settings that pass the check.**

The check of settings looks for three kinds of faults, one after the other.  Settings without a
fault have none of the three, whatever numbers they are made of.

Main results:

* `QueryBuilder.Settings.fault?_eq_none_iff` — **what the check guarantees, and all it asks for**.
-/

import QueryBuilder.Canvas.Settings

set_option autoImplicit false

namespace QueryBuilder.Settings

variable {α : Type} [Coordinate α] {c : Settings α}

/-- **Settings pass the check exactly if** all are finite, those that have to be are positive, and
the smallest zoom is below neither of the largest ones. -/
theorem fault?_eq_none_iff :
    c.fault? = none ↔
      (∀ s, Coordinate.isFinite (c s) = true) ∧
      (∀ s ∈ Setting.positive, Coordinate.le (c s) (Coordinate.whole 0) = false) ∧
      ∀ s ∈ Setting.zoomCeilings, Coordinate.lt (c s) (c .minZoom) = false := by
  have hall : (∀ s ∈ Setting.all, Coordinate.isFinite (c s) = true) ↔
      ∀ s, Coordinate.isFinite (c s) = true :=
    ⟨fun h s => h s s.mem_all, fun h s _ => h s⟩
  rw [← hall]
  simp only [fault?, Option.or_eq_none_iff, Option.map_eq_none_iff, List.find?_eq_none,
    Bool.not_eq_eq_eq_not, Bool.not_true, Bool.not_eq_false, Bool.not_eq_true]

end QueryBuilder.Settings

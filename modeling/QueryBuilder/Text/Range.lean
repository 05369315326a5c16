/-
**Character classes given by ranges of code points.**

Main definitions:

* `QueryBuilder.Text.inRanges` — membership in a table of ranges, both ends included.

Main results:

* `QueryBuilder.Text.inRanges_eq_false_of_apart` — tables that nowhere overlap have no character in
  common.
-/

set_option autoImplicit false

namespace QueryBuilder.Text

/-- Whether a character lies in one of the ranges. -/
def inRanges (table : List (Nat × Nat)) (c : Char) : Bool :=
  table.any fun range => range.1 ≤ c.toNat && c.toNat ≤ range.2

theorem inRanges_iff {table : List (Nat × Nat)} {c : Char} :
    inRanges table c = true ↔ ∃ range ∈ table, range.1 ≤ c.toNat ∧ c.toNat ≤ range.2 := by
  simp only [inRanges, List.any_eq_true, Bool.and_eq_true, decide_eq_true_eq]

/-- Tables that nowhere overlap have no character in common. -/
theorem inRanges_eq_false_of_apart {table other : List (Nat × Nat)} {c : Char}
    (hapart : ∀ range ∈ table, ∀ range' ∈ other, range.2 < range'.1 ∨ range'.2 < range.1)
    (h : inRanges table c = true) : inRanges other c = false := by
  obtain ⟨range, hrange, hfirst, hlast⟩ := inRanges_iff.1 h
  refine Bool.eq_false_iff.2 fun hother => ?_
  obtain ⟨range', hrange', hfirst', hlast'⟩ := inRanges_iff.1 hother
  rcases hapart range hrange range' hrange' with hlt | hlt <;> omega

end QueryBuilder.Text

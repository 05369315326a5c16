/-
**White space behind a text.**

A character of white space has no case, is not passed over, and is its own form.  So a text and the
white space behind it are lower-cased independently of each other, and white space stays what it is.
Trimming takes white space away at both ends, and does not see how much of it there was.

Main results:

* `QueryBuilder.Text.lower_append_blanks` — lower-casing leaves white space behind a text alone;
* `QueryBuilder.Text.trim_append_blanks` — trimming takes it away.
-/

import Mathlib.Data.List.TakeWhile
import QueryBuilder.Proofs.Text.Lowercase
import QueryBuilder.Text.Blank

set_option autoImplicit false

namespace QueryBuilder.Text

/-! ### Characters of white space -/

section Characters

variable {c : Char} (h : isBlank c = true)

include h

theorem isCased_of_isBlank : isCased c = false :=
  inRanges_eq_false_of_apart (by decide +kernel) h

theorem isCaseIgnorable_of_isBlank : isCaseIgnorable c = false :=
  inRanges_eq_false_of_apart (by decide +kernel) h

/-- White space is not between two code points that have none of it between them. -/
theorem not_between_of_isBlank {first last : Nat}
    (hapart : ∀ range ∈ blankRanges, range.2 < first ∨ last < range.1) :
    ¬ (first ≤ c.toNat ∧ c.toNat ≤ last) := by
  obtain ⟨range, hrange, hfirst, hlast⟩ := inRanges_iff.1 h
  rintro ⟨hge, hle⟩
  rcases hapart range hrange with hlt | hlt <;> omega

theorem lowerAscii_of_isBlank : lowerAscii c = c :=
  lowerAscii_of_not_capital (not_between_of_isBlank h (by decide))

/-- White space is no letter that has another form. -/
theorem lowerChar_of_isBlank : lowerChar c = [c] := by
  have hdotted : c.toNat ≠ 0x130 := by
    intro hc
    exact not_between_of_isBlank h (by decide) ⟨Nat.le_of_eq hc.symm, Nat.le_of_eq hc⟩
  have hruns : ∀ run ∈ lowerRuns, ∀ range ∈ blankRanges,
      range.2 < run.first ∨ run.last < range.1 := by
    decide +kernel
  have hnone : (lowerRuns.find? fun run => run.contains c.toNat) = none := by
    refine List.find?_eq_none.2 fun run hrun hcontains => ?_
    simp only [LowerRun.contains, Bool.and_eq_true, decide_eq_true_eq] at hcontains
    exact not_between_of_isBlank h (hruns run hrun) hcontains.1
  rw [lowerChar, lowerAscii_of_isBlank h, if_neg hdotted, hnone]
  split <;> rfl

end Characters

/-! ### White space at the end -/

variable {blanks : List Char} (h : ∀ c ∈ blanks, isBlank c = true)

include h

theorem lower_blanks : lower blanks = blanks := by
  induction blanks with
  | nil => rfl
  | cons c blanks ih =>
      have hc : isBlank c = true := h c List.mem_cons_self
      have hhead := lower_append_cons (isCaseIgnorable_of_isBlank hc) (isCased_of_isBlank hc) []
        blanks
      rw [List.nil_append] at hhead
      rw [hhead, lowerChar_of_isBlank hc, ih fun d hd => h d (List.mem_cons_of_mem _ hd)]
      rfl

/-- **Lower-casing leaves white space behind a text alone.** -/
theorem lower_append_blanks (s : List Char) : lower (s ++ blanks) = lower s ++ blanks := by
  have hlower := lower_blanks h
  cases blanks with
  | nil => rw [List.append_nil, List.append_nil]
  | cons c blanks =>
      have hc : isBlank c = true := h c List.mem_cons_self
      rw [lower_append_of_uncased (isCaseIgnorable_of_isBlank hc) (isCased_of_isBlank hc), hlower]

/-- **Trimming takes away white space behind a text.** -/
theorem trim_append_blanks (s : List Char) : trim (s ++ blanks) = trim s := by
  have hnone : blanks.dropWhile isBlank = [] := List.dropWhile_eq_nil_iff.2 h
  have hback : ∀ c ∈ blanks.reverse, isBlank c = true := fun c hc => h c (List.mem_reverse.1 hc)
  rw [trim, trim, List.dropWhile_append]
  split
  · -- a text of white space and nothing else
    rename_i hempty
    rw [hnone, List.isEmpty_iff.1 hempty]
  · rw [List.reverse_append, List.dropWhile_append_of_pos hback]

end QueryBuilder.Text

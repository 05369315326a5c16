/-
**Lower-casing a text with an ending.**

Lower-casing is not a map over the characters, because a capital sigma looks at what is around it.
So the lower-case form of a text with an ending need not be that of the text followed by that of the
ending.  An ending that begins with a character without a case changes nothing.  An ending that
begins with a letter changes a capital sigma that ended the text, and nothing else.

Main definitions:

* `QueryBuilder.Text.endsInSigma` — a text at whose end a capital sigma ends a word.

Main results:

* `QueryBuilder.Text.meetsCased_append_cons` — what a sigma sees beyond the end of a text;
* `QueryBuilder.Text.lower_append_cons`, `QueryBuilder.Text.lower_append_of_uncased` — a character
  without a case keeps a text and its ending apart;
* `QueryBuilder.Text.lower_append_of_cased` — **endings that change a sigma at the end**.
-/

import QueryBuilder.Text.Lowercase

set_option autoImplicit false

namespace QueryBuilder.Text

/-! ### Looking around -/

theorem meetsCased_cons_of_ignorable {c : Char} (h : isCaseIgnorable c = true) (s : List Char) :
    meetsCased (c :: s) = meetsCased s := by
  rw [meetsCased, List.dropWhile_cons_of_pos h, meetsCased]

theorem meetsCased_cons_of_not_ignorable {c : Char} (h : isCaseIgnorable c = false)
    (s : List Char) : meetsCased (c :: s) = isCased c := by
  rw [meetsCased, List.dropWhile_cons_of_neg (by simp [h])]

/-- Beyond the end of a text that is passed over as a whole, the next character is met. -/
theorem meetsCased_append_cons {c : Char} (h : isCaseIgnorable c = false) (s t : List Char) :
    meetsCased (s ++ c :: t) = if s.all isCaseIgnorable then isCased c else meetsCased s := by
  induction s with
  | nil => exact meetsCased_cons_of_not_ignorable h t
  | cons d s ih =>
      rw [List.cons_append, List.all_cons]
      cases hd : isCaseIgnorable d with
      | true =>
          rw [meetsCased_cons_of_ignorable hd, meetsCased_cons_of_ignorable hd, ih, Bool.true_and]
      | false =>
          rw [meetsCased_cons_of_not_ignorable hd, meetsCased_cons_of_not_ignorable hd]
          simp

/-- In a text that is passed over as a whole, nothing is met. -/
theorem meetsCased_of_all {s : List Char} (h : s.all isCaseIgnorable = true) :
    meetsCased s = false := by
  induction s with
  | nil => rfl
  | cons c s ih =>
      rw [List.all_cons, Bool.and_eq_true] at h
      rw [meetsCased_cons_of_ignorable h.1, ih h.2]

/-! ### Texts without a capital sigma -/

/-- Every character has a form. -/
theorem lowerChar_ne_nil (c : Char) : lowerChar c ≠ [] := by
  rw [lowerChar]
  split
  · exact List.cons_ne_nil _ _
  · split
    · exact List.cons_ne_nil _ _
    · split <;> exact List.cons_ne_nil _ _

/-- Without a capital sigma each character stands for itself. -/
theorem lowerFrom_of_not_mem {s : List Char} (h : capitalSigma ∉ s) (before : List Char) :
    lowerFrom before s = s.flatMap lowerChar := by
  induction s generalizing before with
  | nil => rfl
  | cons c s ih =>
      rw [List.mem_cons, not_or] at h
      rw [lowerFrom, if_neg (Ne.symm h.1), ih h.2, List.flatMap_cons]

/-- How long the lower-case form of a text is does not depend on what is around its sigmas. -/
theorem length_lowerFrom (before s : List Char) :
    (lowerFrom before s).length = (s.flatMap lowerChar).length := by
  induction s generalizing before with
  | nil => rfl
  | cons c s ih =>
      have hsigma : lowerChar capitalSigma = [Char.ofNat 0x3C3] := by decide +kernel
      rw [lowerFrom, List.flatMap_cons, List.length_append, List.length_append, ih]
      split
      · rw [‹c = _›, hsigma, List.length_singleton, List.length_singleton]
      · rfl

/-- So the lengths of the forms of a text and of its ending add up. -/
theorem length_lower_append (s t : List Char) :
    (lower (s ++ t)).length = (lower s).length + (lower t).length := by
  simp only [lower, length_lowerFrom, List.flatMap_append, List.length_append]

/-! ### Characters without a case -/

section Uncased

variable {c : Char} (hignorable : isCaseIgnorable c = false) (hcased : isCased c = false)

include hignorable hcased

/-- Nothing is seen beyond a character without a case. -/
theorem meetsCased_append_uncased (s t : List Char) : meetsCased (s ++ c :: t) = meetsCased s := by
  rw [meetsCased_append_cons hignorable, hcased]
  split
  · rw [meetsCased_of_all ‹_›]
  · rfl

theorem lowerFrom_append_of_uncased (before s t : List Char) :
    lowerFrom before (s ++ c :: t) =
      lowerFrom before s ++ lowerFrom (s.reverse ++ before) (c :: t) := by
  induction s generalizing before with
  | nil => rfl
  | cons d s ih =>
      rw [List.cons_append, lowerFrom, lowerFrom, ih, sigmaBetween, sigmaBetween,
        meetsCased_append_uncased hignorable hcased]
      simp

/-- What is before a character without a case does not count behind it. -/
theorem lowerFrom_of_uncased (near far s : List Char) :
    lowerFrom (near ++ c :: far) s = lowerFrom near s := by
  induction s generalizing near with
  | nil => rfl
  | cons d s ih =>
      have hrest := ih (d :: near)
      rw [List.cons_append] at hrest
      rw [lowerFrom, lowerFrom, hrest, sigmaBetween, sigmaBetween,
        meetsCased_append_uncased hignorable hcased]

/-- **A character without a case keeps apart what is before and behind it.** -/
theorem lower_append_cons (s t : List Char) :
    lower (s ++ c :: t) = lower s ++ (lowerChar c ++ lower t) := by
  have hsigma : c ≠ capitalSigma := by
    rintro rfl
    exact absurd hcased (by decide +kernel)
  have hbehind : lowerFrom (c :: (s.reverse ++ [])) t = lower t :=
    lowerFrom_of_uncased hignorable hcased [] _ t
  rw [lower, lower, lowerFrom_append_of_uncased hignorable hcased, lowerFrom, if_neg hsigma, hbehind]

/-- **An ending that begins without a case changes nothing.** -/
theorem lower_append_of_uncased (s t : List Char) :
    lower (s ++ c :: t) = lower s ++ lower (c :: t) := by
  have hending : lower (c :: t) = lowerChar c ++ lower t :=
    lower_append_cons hignorable hcased [] t
  rw [lower_append_cons hignorable hcased, hending]

end Uncased

/-! ### Endings that begin with a case -/

/-- Whether a capital sigma ends a word at the end of a text that follows the characters `before`,
nearest first. -/
def endsInSigmaFrom (before : List Char) : List Char → Bool
  | [] => false
  | c :: rest =>
    (c = capitalSigma && meetsCased before && rest.all isCaseIgnorable) ||
      endsInSigmaFrom (c :: before) rest

/-- Whether a capital sigma ends a word at the end of a text. -/
def endsInSigma (s : List Char) : Bool :=
  endsInSigmaFrom [] s

theorem endsInSigmaFrom_of_not_mem {s : List Char} (h : capitalSigma ∉ s) (before : List Char) :
    endsInSigmaFrom before s = false := by
  induction s generalizing before with
  | nil => rfl
  | cons c s ih =>
      rw [List.mem_cons, not_or] at h
      rw [endsInSigmaFrom, ih h.2, decide_eq_false (Ne.symm h.1)]
      rfl

/-- A text without a capital sigma ends in none. -/
theorem endsInSigma_of_not_mem {s : List Char} (h : capitalSigma ∉ s) : endsInSigma s = false :=
  endsInSigmaFrom_of_not_mem h []

/-- A letter beyond the end of a text changes a capital sigma if it ended a word there. -/
theorem sigmaBetween_append_cons {c : Char} (hignorable : isCaseIgnorable c = false)
    (hcased : isCased c = true) (before s t : List Char) :
    sigmaBetween before (s ++ c :: t) = sigmaBetween before s ↔
      (meetsCased before && s.all isCaseIgnorable) = false := by
  have hfinal : Char.ofNat 0x3C3 ≠ Char.ofNat 0x3C2 := by decide
  rw [sigmaBetween, sigmaBetween, meetsCased_append_cons hignorable, hcased]
  cases hbefore : meetsCased before with
  | false => simp
  | true =>
      by_cases hs : s.all isCaseIgnorable = true
      · rw [if_pos hs, meetsCased_of_all hs, hs]
        simp [hfinal]
      · rw [if_neg hs]
        simpa using hs

/-- The lower-case form goes on unchanged behind an ending that begins with a letter if and only if
no sigma ended a word there: the characters before it have forms of the same lengths either way, so
the forms are compared one character after the other. -/
theorem lowerFrom_append_of_cased {c : Char} (hignorable : isCaseIgnorable c = false)
    (hcased : isCased c = true) {t : List Char} (ht : capitalSigma ∉ c :: t)
    (before s : List Char) :
    lowerFrom before (s ++ c :: t) = lowerFrom before s ++ lower (c :: t) ↔
      endsInSigmaFrom before s = false := by
  induction s generalizing before with
  | nil =>
      refine iff_of_true ?_ rfl
      rw [List.nil_append, lower, lowerFrom_of_not_mem ht, lowerFrom_of_not_mem ht, lowerFrom,
        List.nil_append]
  | cons d s ih =>
      rw [List.cons_append, lowerFrom, lowerFrom, endsInSigmaFrom, Bool.or_eq_false_iff,
        List.append_assoc]
      by_cases hd : d = capitalSigma
      · rw [if_pos hd, if_pos hd, List.singleton_append, List.singleton_append, List.cons.injEq,
          sigmaBetween_append_cons hignorable hcased, ih, decide_eq_true hd, Bool.true_and]
      · rw [if_neg hd, if_neg hd, List.append_cancel_left_eq, ih, decide_eq_false hd]
        simp

/-- **An ending that begins with a letter changes nothing if and only if the text does not end in a
capital sigma.** -/
theorem lower_append_of_cased {c : Char} (hignorable : isCaseIgnorable c = false)
    (hcased : isCased c = true) {t : List Char} (ht : capitalSigma ∉ c :: t) (s : List Char) :
    lower (s ++ c :: t) = lower s ++ lower (c :: t) ↔ endsInSigma s = false :=
  lowerFrom_append_of_cased hignorable hcased ht [] s

/-! ### Letters of ASCII -/

theorem lowerAscii_of_not_capital {c : Char} (h : ¬ ('A' ≤ c ∧ c ≤ 'Z')) : lowerAscii c = c :=
  if_neg h

/-- The form of a capital letter is 32 places behind it. -/
theorem toNat_lowerAscii_of_capital {c : Char} (h : 'A' ≤ c ∧ c ≤ 'Z') :
    (lowerAscii c).toNat = c.toNat + 32 := by
  have hle : c.toNat ≤ 90 := h.2
  have hvalid : (c.toNat + 32).isValidChar := .inl (by omega)
  rw [lowerAscii, if_pos h, Char.ofNat, dif_pos hvalid]
  rfl

/-- A small letter is the form of itself and of its capital. -/
theorem lowerAscii_eq_iff {capital small : Char} (hcapital : 'A' ≤ capital ∧ capital ≤ 'Z')
    (hsmall : small.toNat = capital.toNat + 32) (c : Char) :
    lowerAscii c = small ↔ c = small ∨ c = capital := by
  have hbounds : 65 ≤ capital.toNat ∧ capital.toNat ≤ 90 := hcapital
  by_cases hc : 'A' ≤ c ∧ c ≤ 'Z'
  · have hle : c.toNat ≤ 90 := hc.2
    have hne : c ≠ small := fun h => by rw [h, hsmall] at hle; omega
    rw [← Char.toNat_inj, toNat_lowerAscii_of_capital hc, hsmall, Nat.add_right_cancel_iff,
      Char.toNat_inj, or_iff_right hne]
  · have hne : c ≠ capital := fun h => hc (h ▸ hcapital)
    rw [lowerAscii_of_not_capital hc, or_iff_left hne]

end QueryBuilder.Text

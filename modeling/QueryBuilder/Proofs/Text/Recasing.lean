/-
**Texts in another case.**

Two texts are spelled alike if they differ in the case of letters of ASCII and in nothing else.
Lower-casing makes no difference between them, whatever other characters stand among the letters.
It looks at a letter in three ways: which form the letter has, whether it has a case, and whether it
is passed over; and a letter of ASCII is like its capital in all three.

The other way round, a character of ASCII in the lower-case form of a text need not come from one of
ASCII: there are two letters for which it may not.  All other characters tell what they come from.

Main definitions:

* `QueryBuilder.Text.SpelledAlike` — texts that differ in the case of letters of ASCII;
* `QueryBuilder.Text.OnlyFromAscii` — characters that are no form of anything beyond ASCII.

Main results:

* `QueryBuilder.Text.lower_map_lowerAscii`, `QueryBuilder.Text.SpelledAlike.lower_eq` —
  **lower-casing does not depend on the case of the letters of ASCII**;
* `QueryBuilder.Text.isPrefix_map_of_isPrefix_lowerFrom` — what a text begins with, told from its
  lower-case form.
-/

import QueryBuilder.Proofs.Text.Lowercase

set_option autoImplicit false

namespace QueryBuilder.Text

variable {c : Char}

/-! ### Letters of ASCII -/

theorem isCased_of_mem_range {range : Nat × Nat} (hrange : range ∈ casedRanges)
    (hfirst : range.1 ≤ c.toNat) (hlast : c.toNat ≤ range.2) : isCased c = true :=
  List.any_eq_true.2 ⟨range, hrange, by simp [hfirst, hlast]⟩

/-- Small letters and capitals have a case. -/
theorem isCased_lowerAscii (c : Char) : isCased (lowerAscii c) = isCased c := by
  by_cases h : 'A' ≤ c ∧ c ≤ 'Z'
  · have hbounds : 65 ≤ c.toNat ∧ c.toNat ≤ 90 := h
    have hsmall := toNat_lowerAscii_of_capital h
    have hcapitals : ((0x41, 0x5A) : Nat × Nat) ∈ casedRanges := by decide
    have hsmalls : ((0x61, 0x7A) : Nat × Nat) ∈ casedRanges := by decide
    rw [isCased_of_mem_range hcapitals hbounds.1 hbounds.2,
      isCased_of_mem_range hsmalls (by omega) (by omega)]
  · rw [lowerAscii_of_not_capital h]

/-- No range of characters that are passed over meets the letters of ASCII. -/
theorem caseIgnorableRanges_outside :
    ∀ range ∈ caseIgnorableRanges,
      (range.2 < 65 ∨ 90 < range.1) ∧ (range.2 < 97 ∨ 122 < range.1) := by
  decide +kernel

theorem isCaseIgnorable_eq_false (h : 65 ≤ c.toNat ∧ c.toNat ≤ 90 ∨ 97 ≤ c.toNat ∧ c.toNat ≤ 122) :
    isCaseIgnorable c = false := by
  refine List.any_eq_false.2 fun range hrange => ?_
  have hout := caseIgnorableRanges_outside range hrange
  simp only [Bool.and_eq_true, decide_eq_true_eq]
  omega

/-- Neither small letters nor capitals are passed over. -/
theorem isCaseIgnorable_lowerAscii (c : Char) :
    isCaseIgnorable (lowerAscii c) = isCaseIgnorable c := by
  by_cases h : 'A' ≤ c ∧ c ≤ 'Z'
  · have hbounds : 65 ≤ c.toNat ∧ c.toNat ≤ 90 := h
    have hsmall := toNat_lowerAscii_of_capital h
    rw [isCaseIgnorable_eq_false (.inl hbounds),
      isCaseIgnorable_eq_false (.inr ⟨by omega, by omega⟩)]
  · rw [lowerAscii_of_not_capital h]

/-- Small letters and capitals have the same form. -/
theorem lowerChar_lowerAscii (c : Char) : lowerChar (lowerAscii c) = lowerChar c := by
  by_cases h : 'A' ≤ c ∧ c ≤ 'Z'
  · have hle : c.toNat ≤ 90 := h.2
    have hge : 65 ≤ c.toNat := h.1
    have hsmall := toNat_lowerAscii_of_capital h
    have hnot : ¬ ('A' ≤ lowerAscii c ∧ lowerAscii c ≤ 'Z') := by
      intro hcapital
      have hcapital : (lowerAscii c).toNat ≤ 90 := hcapital.2
      omega
    rw [lowerChar, lowerChar, if_pos (by omega), if_pos (by omega), lowerAscii_of_not_capital hnot]
  · rw [lowerAscii_of_not_capital h]

theorem lowerAscii_eq_capitalSigma_iff (c : Char) :
    lowerAscii c = capitalSigma ↔ c = capitalSigma := by
  by_cases h : 'A' ≤ c ∧ c ≤ 'Z'
  · have hle : c.toNat ≤ 90 := h.2
    have hsmall := toNat_lowerAscii_of_capital h
    have hsigma : capitalSigma.toNat = 0x3A3 := by decide
    rw [← Char.toNat_inj, ← Char.toNat_inj]
    omega
  · rw [lowerAscii_of_not_capital h]

/-! ### Texts -/

theorem meetsCased_map_lowerAscii (s : List Char) :
    meetsCased (s.map lowerAscii) = meetsCased s := by
  induction s with
  | nil => rfl
  | cons c s ih =>
      rw [List.map_cons]
      cases h : isCaseIgnorable c with
      | true =>
          rw [meetsCased_cons_of_ignorable h, meetsCased_cons_of_ignorable, ih]
          rw [isCaseIgnorable_lowerAscii, h]
      | false =>
          rw [meetsCased_cons_of_not_ignorable h, meetsCased_cons_of_not_ignorable,
            isCased_lowerAscii]
          rw [isCaseIgnorable_lowerAscii, h]

theorem lowerFrom_map_lowerAscii (before s : List Char) :
    lowerFrom (before.map lowerAscii) (s.map lowerAscii) = lowerFrom before s := by
  induction s generalizing before with
  | nil => rfl
  | cons c s ih =>
      have hrest := ih (c :: before)
      rw [List.map_cons] at hrest
      rw [List.map_cons, lowerFrom, lowerFrom, hrest, lowerChar_lowerAscii, sigmaBetween,
        sigmaBetween, meetsCased_map_lowerAscii, meetsCased_map_lowerAscii]
      simp only [lowerAscii_eq_capitalSigma_iff]

/-- **Lower-casing does not depend on the case of the letters of ASCII.** -/
theorem lower_map_lowerAscii (s : List Char) : lower (s.map lowerAscii) = lower s :=
  lowerFrom_map_lowerAscii [] s

/-- The letters of ASCII are those whose case core knows. -/
theorem lowerAscii_eq_toLower (c : Char) : lowerAscii c = c.toLower := by
  have hcapital : (c.val ≥ 'A'.val ∧ c.val ≤ 'Z'.val) ↔ 'A' ≤ c ∧ c ≤ 'Z' := Iff.rfl
  by_cases h : 'A' ≤ c ∧ c ≤ 'Z'
  · have hle : c.val.toNat ≤ 90 := h.2
    have hmoved : (c.val + 32).toNat = c.val.toNat + 32 := by
      rw [UInt32.toNat_add]
      exact Nat.mod_eq_of_lt (show c.val.toNat + 32 < 4294967296 by omega)
    have hlower : c.toLower = ⟨c.val + 32, _⟩ := dif_pos (hcapital.2 h)
    rw [← Char.toNat_inj, toNat_lowerAscii_of_capital h, hlower]
    exact hmoved.symm
  · have hlower : c.toLower = c := dif_neg (mt hcapital.1 h)
    rw [lowerAscii_of_not_capital h, hlower]

/-- Texts that differ in the case of letters of ASCII, and in nothing else. -/
def SpelledAlike (s t : String) : Prop :=
  s.toList.map Char.toLower = t.toList.map Char.toLower

instance (s t : String) : Decidable (SpelledAlike s t) :=
  inferInstanceAs (Decidable (_ = _))

theorem SpelledAlike.map_lowerAscii_eq {s t : String} (h : SpelledAlike s t) :
    s.toList.map lowerAscii = t.toList.map lowerAscii := by
  rw [funext lowerAscii_eq_toLower]
  exact h

theorem SpelledAlike.lower_eq {s t : String} (h : SpelledAlike s t) :
    lower s.toList = lower t.toList := by
  rw [← lower_map_lowerAscii, h.map_lowerAscii_eq, lower_map_lowerAscii]

/-! ### Forms in ASCII -/

/-- The forms in the table are characters, and outside ASCII; the only exception is the sign of the
kelvin, whose form is the letter k. -/
theorem lowerRuns_forms :
    ∀ run ∈ lowerRuns,
      (0x80 ≤ (run.first : Int) + run.distance ∨
        run.first = run.last ∧ (run.first : Int) + run.distance = 0x6B) ∧
      ((run.last : Int) + run.distance < 0xD800 ∨
        0xDFFF < (run.first : Int) + run.distance ∧ (run.last : Int) + run.distance < 0x110000) := by
  decide +kernel

/-- A character of ASCII that is no form of any character beyond ASCII.  The letter i is the form of
the capital with a dot, and the letter k that of the sign of the kelvin. -/
def OnlyFromAscii (x : Char) : Prop :=
  x.toNat < 0x80 ∧ x ≠ 'i' ∧ x ≠ 'k'

instance (x : Char) : Decidable (OnlyFromAscii x) :=
  inferInstanceAs (Decidable (_ ∧ _))

theorem OnlyFromAscii.of_mem_lowerChar {x c : Char} (hx : OnlyFromAscii x) (h : x ∈ lowerChar c) :
    lowerChar c = [lowerAscii c] ∧ x = lowerAscii c := by
  obtain ⟨hascii, hi, hk⟩ := hx
  rw [lowerChar] at h ⊢
  split at h
  · exact ⟨if_pos ‹_›, List.mem_singleton.1 h⟩
  · split at h
    · -- the letter i, and a dot that is not in ASCII
      rcases List.mem_cons.1 h with rfl | h
      · exact absurd rfl hi
      · rw [List.mem_singleton.1 h] at hascii
        exact absurd hascii (by decide)
    · split at h
      · rename_i run hfind
        have hrun := lowerRuns_forms run (List.mem_of_find?_eq_some hfind)
        have hcontains := List.find?_some hfind
        simp only [LowerRun.contains, Bool.and_eq_true, decide_eq_true_eq] at hcontains
        have hvalid : ((c.toNat : Int) + run.distance).toNat.isValidChar := by
          simp only [Nat.isValidChar]
          omega
        have htoNat : x.toNat = ((c.toNat : Int) + run.distance).toNat := by
          rw [List.mem_singleton.1 h, Char.ofNat, dif_pos hvalid]
          rfl
        have hkelvin : x.toNat ≠ 'k'.toNat := fun heq => hk (Char.toNat_inj.1 heq)
        have hcode : 'k'.toNat = 0x6B := rfl
        omega
      · rw [List.mem_singleton.1 h] at hascii
        exact absurd hascii ‹_›

/-- The form of a character between others. -/
def formBetween (before : List Char) (c : Char) (rest : List Char) : List Char :=
  if c = capitalSigma then [sigmaBetween before rest] else lowerChar c

theorem lowerFrom_cons (before : List Char) (c : Char) (rest : List Char) :
    lowerFrom before (c :: rest) = formBetween before c rest ++ lowerFrom (c :: before) rest := rfl

theorem formBetween_ne_nil (before : List Char) (c : Char) (rest : List Char) :
    formBetween before c rest ≠ [] := by
  rw [formBetween]
  split
  · exact List.cons_ne_nil _ _
  · exact lowerChar_ne_nil c

theorem OnlyFromAscii.of_mem_formBetween {x c : Char} {before rest : List Char}
    (hx : OnlyFromAscii x) (h : x ∈ formBetween before c rest) :
    formBetween before c rest = [lowerAscii c] ∧ x = lowerAscii c := by
  rw [formBetween] at h ⊢
  split at h
  · -- both forms of the sigma are beyond ASCII
    have hascii := hx.1
    rw [List.mem_singleton.1 h, sigmaBetween] at hascii
    split at hascii <;> exact absurd hascii (by decide)
  · rw [if_neg ‹_›]
    exact hx.of_mem_lowerChar h

/-- Such a character in the lower-case form of a text comes from one of ASCII. -/
theorem OnlyFromAscii.mem_map_of_mem_lowerFrom {x : Char} (hx : OnlyFromAscii x)
    {before s : List Char} (h : x ∈ lowerFrom before s) : x ∈ s.map lowerAscii := by
  induction s generalizing before with
  | nil => exact h
  | cons c s ih =>
      rw [lowerFrom_cons] at h
      rcases List.mem_append.1 h with h | h
      · rw [(hx.of_mem_formBetween h).2]
        exact List.mem_cons_self
      · exact List.mem_cons_of_mem _ (ih h)

/-- **What a text begins with can be told in ASCII**, if it is made of such characters. -/
theorem isPrefix_map_of_isPrefix_lowerFrom {start : List Char}
    (hstart : ∀ x ∈ start, OnlyFromAscii x) {before s : List Char}
    (h : start <+: lowerFrom before s) : start <+: s.map lowerAscii := by
  induction start generalizing before s with
  | nil => exact List.nil_prefix
  | cons x start ih =>
      obtain ⟨hx, hrest⟩ := List.forall_mem_cons.1 hstart
      cases s with
      | nil => exact absurd (List.prefix_nil.1 h) (List.cons_ne_nil _ _)
      | cons c s =>
          obtain ⟨y, form, hform⟩ := List.exists_cons_of_ne_nil (formBetween_ne_nil before c s)
          rw [lowerFrom_cons, hform, List.cons_append, List.cons_prefix_cons] at h
          obtain ⟨rfl, h⟩ := h
          obtain ⟨hone, rfl⟩ := hx.of_mem_formBetween (hform ▸ List.mem_cons_self)
          rw [hform, List.cons.injEq] at hone
          rw [hone.2, List.nil_append] at h
          rw [List.map_cons, List.cons_prefix_cons]
          exact ⟨rfl, ih hrest h⟩

end QueryBuilder.Text

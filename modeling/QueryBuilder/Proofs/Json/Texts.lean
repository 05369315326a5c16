/-
**Quoted texts read back.**

Each character of a text is written by itself or behind a backslash, and the reader finds the
character in both cases, whatever comes after it.  The one case in which the reader looks further
ahead is a character by number, which may be the first half of a pair; those that are written by
number are no halves.

Main results:

* `QueryBuilder.Json.scanText_quoteChar` — a written character reads back;
* `QueryBuilder.Json.scanText_quote` — **a quoted text reads back**.
-/

import QueryBuilder.Json.Reader
import QueryBuilder.Json.Render

set_option autoImplicit false

namespace QueryBuilder.Json

/-! ### Characters by number -/

/-- Hexadecimal digits read back. -/
theorem hexValue?_hexDigit : ∀ n < 16, hexValue? (hexDigit n) = some n := by
  decide

/-- The number of a control character. -/
theorem hexUnit?_control {n : Nat} (h : n < 32) :
    hexUnit? '0' '0' (hexDigit (n / 16)) (hexDigit (n % 16)) = some n := by
  have hzero : hexValue? '0' = some 0 := by decide
  have hhigh := hexValue?_hexDigit (n / 16) (by omega)
  have hlow := hexValue?_hexDigit (n % 16) (by omega)
  simp only [hexUnit?, hzero, hhigh, hlow, bind, Option.bind, pure]
  congr 1
  omega

variable {before rest : List Char} {readable : Bool}

/-- A character by number is found, unless it is half of a pair. -/
theorem scanText_unit {a b c d : Char} {unit : Nat} (h : hexUnit? a b c d = some unit)
    (hhigh : isHighHalf unit = false) (hlow : isLowHalf unit = false) :
    scanText before readable ('\\' :: 'u' :: a :: b :: c :: d :: rest) =
      scanText (Char.ofNat unit :: before) readable rest := by
  rw [scanText.eq_def]
  split
  · next heq => simp at heq
  · next heq =>
      simp only [List.cons.injEq, true_and] at heq
      obtain ⟨rfl, rfl, rfl, rfl, rfl⟩ := heq
      simp [h, hhigh, hlow]
  · next heq =>
      simp only [List.cons.injEq, true_and] at heq
      obtain ⟨rfl, rfl, rfl, rfl, rfl⟩ := heq
      simp [h, hhigh, hlow]
  · next hshort heq =>
      simp only [List.cons.injEq, true_and] at heq
      obtain ⟨rfl, rfl⟩ := heq
      exact (hshort a b c d rest rfl rfl).elim
  · next hbackslash heq =>
      simp only [List.cons.injEq] at heq
      obtain ⟨rfl, rfl⟩ := heq
      exact (hbackslash 'u' (a :: b :: c :: d :: rest) rfl rfl).elim
  · next heq => simp at heq

/-! ### All characters -/

/-- A character behind a backslash is found. -/
theorem scanText_escape {c plain : Char} (h : unescape? c = some plain) :
    scanText before readable ('\\' :: c :: rest) = scanText (plain :: before) readable rest := by
  -- the two arms for characters by number are told by their `u`
  have hc : c ≠ 'u' := by
    rintro rfl
    cases h
  rw [scanText.eq_def]
  split
  · next heq => simp at heq
  · next heq => simp [hc] at heq
  · next heq => simp [hc] at heq
  · next heq =>
      simp only [List.cons.injEq, true_and] at heq
      obtain ⟨rfl, rfl⟩ := heq
      rw [h]
  · next hbackslash heq =>
      simp only [List.cons.injEq] at heq
      obtain ⟨rfl, rfl⟩ := heq
      exact (hbackslash c rest rfl rfl).elim
  · next heq => simp at heq

/-- A character by itself is found. -/
theorem scanText_plain {c : Char} (hquote : c ≠ '"') (hbackslash : c ≠ '\\') (h : 32 ≤ c.toNat) :
    scanText before readable (c :: rest) = scanText (c :: before) readable rest := by
  rw [scanText.eq_def]
  split
  · next heq => exact absurd (List.cons.inj heq).1 hquote
  · next heq => exact absurd (List.cons.inj heq).1 hbackslash
  · next heq => exact absurd (List.cons.inj heq).1 hbackslash
  · next heq => exact absurd (List.cons.inj heq).1 hbackslash
  · next heq =>
      simp only [List.cons.injEq] at heq
      obtain ⟨rfl, rfl⟩ := heq
      rw [if_neg]
      rintro (hlow | hback)
      · omega
      · exact hbackslash hback
  · next heq => simp at heq

/-- **A written character reads back**, whatever comes after it. -/
theorem scanText_quoteChar (c : Char) :
    scanText before readable (quoteChar c ++ rest) = scanText (c :: before) readable rest := by
  have hchar : ∀ n, c.toNat = n → c = Char.ofNat n := by
    rintro _ rfl
    exact (Char.ofNat_toNat c).symm
  unfold quoteChar
  by_cases hquote : c = '"'
  · rw [if_pos hquote, hquote]
    exact scanText_escape rfl
  rw [if_neg hquote]
  by_cases hbackslash : c = '\\'
  · rw [if_pos hbackslash, hbackslash]
    exact scanText_escape rfl
  rw [if_neg hbackslash]
  by_cases h8 : c.toNat = 8
  · rw [if_pos h8, hchar 8 h8]
    exact scanText_escape rfl
  rw [if_neg h8]
  by_cases h9 : c.toNat = 9
  · rw [if_pos h9, hchar 9 h9]
    exact scanText_escape rfl
  rw [if_neg h9]
  by_cases h10 : c.toNat = 10
  · rw [if_pos h10, hchar 10 h10]
    exact scanText_escape rfl
  rw [if_neg h10]
  by_cases h12 : c.toNat = 12
  · rw [if_pos h12, hchar 12 h12]
    exact scanText_escape rfl
  rw [if_neg h12]
  by_cases h13 : c.toNat = 13
  · rw [if_pos h13, hchar 13 h13]
    exact scanText_escape rfl
  rw [if_neg h13]
  by_cases hcontrol : c.toNat < 32
  · rw [if_pos hcontrol]
    -- halves of pairs are far above the control characters
    have hhigh : isHighHalf c.toNat = false := by
      simp only [isHighHalf, Bool.and_eq_false_iff, decide_eq_false_iff_not]
      omega
    have hlow : isLowHalf c.toNat = false := by
      simp only [isLowHalf, Bool.and_eq_false_iff, decide_eq_false_iff_not]
      omega
    have hunit : scanText before readable ('\\' :: 'u' :: '0' :: '0' :: hexDigit (c.toNat / 16) ::
        hexDigit (c.toNat % 16) :: rest) = scanText (Char.ofNat c.toNat :: before) readable rest :=
      scanText_unit (hexUnit?_control hcontrol) hhigh hlow
    rw [Char.ofNat_toNat] at hunit
    exact hunit
  · rw [if_neg hcontrol]
    exact scanText_plain hquote hbackslash (by omega)

/-- **A quoted text reads back**, and the rest begins behind its closing quote. -/
theorem scanText_quote (s : List Char) :
    scanText before true (s.flatMap quoteChar ++ '"' :: rest) =
      some (some (String.ofList (before.reverse ++ s)), rest) := by
  induction s generalizing before with
  | nil => simp [scanText]
  | cons c s ih =>
      rw [List.flatMap_cons, List.append_assoc, scanText_quoteChar, ih, List.reverse_cons,
        List.append_assoc]
      rfl

end QueryBuilder.Json

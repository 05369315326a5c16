/-
**Written numbers read back.**

A whole number is written with its decimal digits, and reading them gives the number again, if it
fits 64 bits.  What follows a number in a text does not matter as long as it cannot be a part of
the number.

A double is written with the shortest digits that determine it, but the reader computes it with a
rounding of its own and may miss it by a unit in the last place.  Whether a double reads back is
therefore a question about this double.

Main definitions:

* `QueryBuilder.Number.ReadsAs` — what the reader finds in the text of a number;
* `QueryBuilder.Number.ReadsBack` — a number is what the reader finds in its text;
* `QueryBuilder.Json.EndsNumber` — a text that cannot continue a number.

Main results:

* `QueryBuilder.Json.scanNumber_append` — a number is found in front of any such text;
* `QueryBuilder.Number.readsBack_int` — **whole numbers of 64 bits read back**.
-/

import Mathlib.Data.Nat.Notation
import QueryBuilder.Json.Reader
import QueryBuilder.Json.Render

set_option autoImplicit false

namespace QueryBuilder

/-- The reader finds a number in the text of another one, and nothing behind it. -/
def Number.ReadsAs (n found : Number) : Prop :=
  (Json.scanNumber (Json.renderNumber n)).map (fun found => (found.1.value?, found.2)) =
    some (some found, [])

instance (n found : Number) : Decidable (n.ReadsAs found) :=
  inferInstanceAs (Decidable (_ = _))

/-- The reader finds a number in its own text, and nothing behind it. -/
def Number.ReadsBack (n : Number) : Prop :=
  (Json.scanNumber (Json.renderNumber n)).map (fun found => (found.1.value?, found.2)) =
    some (some n, [])

instance (n : Number) : Decidable n.ReadsBack :=
  inferInstanceAs (Decidable (_ = _))

theorem Number.readsAs_iff {n m : Number} :
    n.ReadsAs m ↔ ∃ numeral, Json.scanNumber (Json.renderNumber n) = some (numeral, []) ∧
      numeral.value? = some m := by
  unfold ReadsAs
  cases Json.scanNumber (Json.renderNumber n) with
  | none => simp
  | some found =>
      obtain ⟨numeral, rest⟩ := found
      simp only [Option.map_some, Option.some.injEq, Prod.mk.injEq]
      constructor
      · rintro ⟨hvalue, hrest⟩
        exact ⟨numeral, ⟨rfl, hrest⟩, hvalue⟩
      · rintro ⟨_, ⟨rfl, hrest⟩, hvalue⟩
        exact ⟨hvalue, hrest⟩

/-- A number that reads back is read as itself. -/
theorem Number.ReadsBack.readsAs {n : Number} (h : n.ReadsBack) : n.ReadsAs n := h

namespace Json

/-! ### Numbers in front of something else -/

/-- A text that begins with no digit, point or exponent. -/
def EndsNumber (rest : List Char) : Prop :=
  ∀ c ∈ rest.head?, c.isDigit = false ∧ c ≠ '.' ∧ c ≠ 'e' ∧ c ≠ 'E'

variable {rest : List Char}

theorem scanDigits_of_ends (h : EndsNumber rest) : scanDigits rest = ([], rest) := by
  cases rest with
  | nil => rfl
  | cons c rest =>
      have hc := (h c (by simp)).1
      rw [scanDigits, if_neg (by rw [hc]; decide)]

theorem scanDigits_append (h : EndsNumber rest) (s : List Char) :
    scanDigits (s ++ rest) = ((scanDigits s).1, (scanDigits s).2 ++ rest) := by
  induction s with
  | nil => exact scanDigits_of_ends h
  | cons c s ih =>
      rw [List.cons_append, scanDigits, scanDigits]
      by_cases hc : c.isDigit = true
      · rw [if_pos hc, if_pos hc, ih]
      · rw [if_neg hc, if_neg hc]
        rfl

theorem scanWhole_append (h : EndsNumber rest) {s s' : List Char} {digits : List Nat}
    (hs : scanWhole s = some (digits, s')) :
    scanWhole (s ++ rest) = some (digits, s' ++ rest) := by
  unfold scanWhole at hs ⊢
  rw [scanDigits_append h]
  -- no digits, a zero with and without more behind it, and any other digit
  generalize scanDigits s = found at hs ⊢
  rcases found with ⟨_ | ⟨_ | d, _ | ⟨d', ds⟩⟩, u⟩ <;> cases hs <;> rfl

theorem scanFraction_append (h : EndsNumber rest) {s s' : List Char} {digits : List Nat}
    (hs : scanFraction s = some (digits, s')) :
    scanFraction (s ++ rest) = some (digits, s' ++ rest) := by
  unfold scanFraction at hs
  split at hs
  · next s =>
      rw [List.cons_append, scanFraction, scanDigits_append h]
      generalize scanDigits s = found at hs ⊢
      rcases found with ⟨_ | ⟨d, ds⟩, u⟩ <;> cases hs
      rfl
  · next hpoint =>
      cases hs
      unfold scanFraction
      split
      · next heq =>
          -- the point would be the first character of either part
          cases s with
          | nil =>
              have := (h '.' (by rw [← List.nil_append rest, heq]; rfl)).2.1
              exact absurd rfl this
          | cons c s =>
              cases heq
              exact absurd rfl (hpoint s)
      · rfl

/-- The digits of an exponent whose sign is known. -/
def scanExponentDigits (down : Bool) (s : List Char) :
    Option (Option (Bool × List Nat) × List Char) :=
  match scanDigits s with
  | ([], _) => none
  | (digits, rest) => some (some (down, digits), rest)

theorem scanExponentDigits_append (h : EndsNumber rest) {down : Bool} {s s' : List Char}
    {exponent : Option (Bool × List Nat)}
    (hs : scanExponentDigits down s = some (exponent, s')) :
    scanExponentDigits down (s ++ rest) = some (exponent, s' ++ rest) := by
  unfold scanExponentDigits at hs ⊢
  rw [scanDigits_append h]
  generalize scanDigits s = found at hs ⊢
  rcases found with ⟨_ | ⟨d, ds⟩, u⟩ <;> cases hs
  rfl

theorem scanExponent_of_ne {c : Char} (h : ¬ (c = 'e' ∨ c = 'E')) (s : List Char) :
    scanExponent (c :: s) = some (none, c :: s) :=
  if_neg h

theorem scanExponent_plus {c : Char} (h : c = 'e' ∨ c = 'E') (s : List Char) :
    scanExponent (c :: '+' :: s) = scanExponentDigits false s :=
  if_pos h

theorem scanExponent_minus {c : Char} (h : c = 'e' ∨ c = 'E') (s : List Char) :
    scanExponent (c :: '-' :: s) = scanExponentDigits true s :=
  if_pos h

theorem scanExponent_unsigned {c d : Char} (h : c = 'e' ∨ c = 'E') (hplus : d ≠ '+')
    (hminus : d ≠ '-') (s : List Char) :
    scanExponent (c :: d :: s) = scanExponentDigits false (d :: s) := by
  simp only [scanExponent, if_pos h]
  simp [hplus, hminus]
  rfl

theorem scanExponent_append (h : EndsNumber rest) {s s' : List Char}
    {exponent : Option (Bool × List Nat)} (hs : scanExponent s = some (exponent, s')) :
    scanExponent (s ++ rest) = some (exponent, s' ++ rest) := by
  rcases s with _ | ⟨c, s⟩
  · cases hs
    cases rest with
    | nil => rfl
    | cons c rest =>
        obtain ⟨-, -, he, hE⟩ := h c (by simp)
        exact scanExponent_of_ne (by simp [he, hE]) rest
  · by_cases hc : c = 'e' ∨ c = 'E'
    · -- an exponent without digits is none, and so its sign is not that of what follows
      rcases s with _ | ⟨d, s⟩
      · have hnone : scanExponent [c] = none := if_pos hc
        rw [hnone] at hs
        cases hs
      · rw [List.cons_append, List.cons_append]
        by_cases hplus : d = '+'
        · subst hplus
          rw [scanExponent_plus hc] at hs ⊢
          exact scanExponentDigits_append h hs
        · by_cases hminus : d = '-'
          · subst hminus
            rw [scanExponent_minus hc] at hs ⊢
            exact scanExponentDigits_append h hs
          · rw [scanExponent_unsigned hc hplus hminus] at hs ⊢
            exact scanExponentDigits_append h hs
    · rw [List.cons_append]
      rw [scanExponent_of_ne hc] at hs ⊢
      cases hs
      rfl

/-- A number whose sign is known. -/
def scanUnsigned (negative : Bool) (s : List Char) : Option (Numeral × List Char) := do
  let (whole, s) ← scanWhole s
  let (fraction, s) ← scanFraction s
  let (exponent, s) ← scanExponent s
  return (⟨negative, whole, fraction, exponent⟩, s)

theorem scanUnsigned_append (h : EndsNumber rest) {negative : Bool} {s s' : List Char}
    {numeral : Numeral} (hs : scanUnsigned negative s = some (numeral, s')) :
    scanUnsigned negative (s ++ rest) = some (numeral, s' ++ rest) := by
  simp only [scanUnsigned, bind, Option.bind_eq_some_iff, pure] at hs ⊢
  obtain ⟨⟨whole, s₁⟩, hwhole, ⟨fraction, s₂⟩, hfraction, ⟨exponent, s₃⟩, hexponent, hs⟩ := hs
  cases hs
  exact ⟨_, scanWhole_append h hwhole, _, scanFraction_append h hfraction, _,
    scanExponent_append h hexponent, rfl⟩

theorem scanNumber_minus (s : List Char) : scanNumber ('-' :: s) = scanUnsigned true s := rfl

theorem scanNumber_of_ne {c : Char} (h : c ≠ '-') (s : List Char) :
    scanNumber (c :: s) = scanUnsigned false (c :: s) := by
  simp [scanNumber, scanUnsigned, h]

/-- **A number is found in front of whatever cannot continue it.** -/
theorem scanNumber_append (h : EndsNumber rest) {s s' : List Char} {numeral : Numeral}
    (hs : scanNumber s = some (numeral, s')) :
    scanNumber (s ++ rest) = some (numeral, s' ++ rest) := by
  rcases s with _ | ⟨c, s⟩
  · cases hs
  · rw [List.cons_append]
    by_cases hminus : c = '-'
    · subst hminus
      rw [scanNumber_minus] at hs ⊢
      exact scanUnsigned_append h hs
    · rw [scanNumber_of_ne hminus] at hs ⊢
      exact scanUnsigned_append h hs

/-! ### Whole numbers -/

/-- The digits of a number that is written with these characters. -/
def digitsOf (s : List Char) : List Nat :=
  s.map fun c => c.toNat - 48

theorem scanDigits_of_isDigit {s : List Char} (h : ∀ c ∈ s, c.isDigit = true) :
    scanDigits s = (digitsOf s, []) := by
  induction s with
  | nil => rfl
  | cons c s ih =>
      rw [scanDigits, if_pos (h c List.mem_cons_self),
        ih fun c hc => h c (List.mem_cons_of_mem _ hc)]
      rfl

theorem ofDigits_digitsOf (s : List Char) : ofDigits (digitsOf s) = Nat.ofDigitChars 10 s 0 := by
  rw [ofDigits, digitsOf, List.foldl_map, Nat.ofDigitChars_eq_foldl]
  congr 1
  funext n c
  rw [Nat.mul_comm]
  rfl

/-- The decimal of a number other than zero does not begin with a zero. -/
theorem toDigits_eq_cons {n : Nat} (h : 0 < n) :
    ∃ c s, Nat.toDigits 10 n = c :: s ∧ c ≠ '0' := by
  -- the first digit is that of the number without its last digit
  induction n using Nat.strongRecOn with
  | ind n ih =>
      by_cases hn : n < 10
      · refine ⟨n.digitChar, [], Nat.toDigits_of_lt_base hn, fun hc => ?_⟩
        have hvalue := Nat.toNat_digitChar_sub_48_of_lt_ten hn
        rw [hc] at hvalue
        exact absurd hvalue (Nat.ne_of_lt h)
      · obtain ⟨c, s, hs, hc⟩ := ih (n / 10) (by omega) (by omega)
        refine ⟨c, s ++ [(n % 10).digitChar], ?_, hc⟩
        rw [Nat.toDigits_of_base_le (by decide) (by omega), hs, List.cons_append]

/-- A digit other than zero has a value other than zero. -/
theorem digit_pos {c : Char} (hdigit : c.isDigit = true) (hne : c ≠ '0') : 0 < c.toNat - 48 := by
  have hrange := Char.isDigit_iff_toNat.1 hdigit
  have hlow : 48 ≤ c.toNat := hrange.1
  have hother : c.toNat ≠ 48 := fun h => hne (Char.toNat_inj.1 h)
  omega

/-- The decimal of a number is scanned as a whole. -/
theorem scanWhole_toDigits (n : Nat) :
    scanWhole (Nat.toDigits 10 n) = some (digitsOf (Nat.toDigits 10 n), []) := by
  have hdigit : ∀ c ∈ Nat.toDigits 10 n, c.isDigit = true := fun c hc =>
    Nat.isDigit_of_mem_toDigits (by decide) (by decide) hc
  rw [scanWhole, scanDigits_of_isDigit hdigit]
  rcases Nat.eq_zero_or_pos n with rfl | hpos
  · rfl
  · obtain ⟨c, s, hs, hc⟩ := toDigits_eq_cons hpos
    rw [hs] at hdigit ⊢
    have hpos : 0 < c.toNat - 48 := digit_pos (hdigit c List.mem_cons_self) hc
    have hcons : digitsOf (c :: s) = (c.toNat - 48) :: digitsOf s := rfl
    rw [hcons]
    -- only a zero that is followed by another digit is refused
    generalize c.toNat - 48 = d at hpos
    cases d with
    | zero => exact absurd hpos (Nat.lt_irrefl 0)
    | succ d => rfl

/-- The decimal of a number is a number without a fraction or an exponent. -/
theorem scanUnsigned_toDigits (negative : Bool) (n : Nat) :
    scanUnsigned negative (Nat.toDigits 10 n) =
      some (⟨negative, digitsOf (Nat.toDigits 10 n), [], none⟩, []) := by
  rw [scanUnsigned, scanWhole_toDigits]
  rfl

theorem ofDigits_toDigits (n : Nat) : ofDigits (digitsOf (Nat.toDigits 10 n)) = n := by
  rw [ofDigits_digitsOf, Nat.ofDigitChars_ten_toDigits]

/-- A natural number is read from its decimal. -/
theorem value?_toDigits {n : Nat} (h : isNat64 n = true) :
    Numeral.value? ⟨false, digitsOf (Nat.toDigits 10 n), [], none⟩ = some (.int n) := by
  simp [Numeral.value?, ofDigits_toDigits, h]

/-- A negative number is read from a minus and the decimal of its size. -/
theorem value?_neg_toDigits {n : Nat} (hpos : 0 < n) (h : isInt64 (-n) = true) :
    Numeral.value? ⟨true, digitsOf (Nat.toDigits 10 n), [], none⟩ = some (.int (-n)) := by
  simp [Numeral.value?, ofDigits_toDigits, h, Nat.pos_iff_ne_zero.1 hpos]

/-- The decimal of a number begins with a digit. -/
theorem scanNumber_toDigits (n : Nat) :
    scanNumber (Nat.toDigits 10 n) =
      some (⟨false, digitsOf (Nat.toDigits 10 n), [], none⟩, []) := by
  cases hs : Nat.toDigits 10 n with
  | nil => exact absurd hs Nat.toDigits_ne_nil
  | cons c s =>
      have hc : c ≠ '-' := by
        rintro rfl
        have hdigit : '-'.isDigit = true :=
          Nat.isDigit_of_mem_toDigits (b := 10) (n := n) (by decide) (by decide) (by simp [hs])
        exact absurd hdigit (by decide)
      rw [scanNumber_of_ne hc, ← hs, scanUnsigned_toDigits]

end Json

/-- **Whole numbers of 64 bits, with or without a sign, read back.** -/
theorem Number.readsBack_int {n : Int} (h : Json.isInt64 n = true ∨ Json.isNat64 n = true) :
    (Number.int n).ReadsBack := by
  refine readsAs_iff.2 ?_
  rcases Int.lt_or_le n 0 with hneg | hnonneg
  · obtain ⟨m, rfl⟩ : ∃ m : Nat, n = -m := ⟨n.natAbs, by omega⟩
    have hint : Json.isInt64 (-m) = true := by
      rcases h with h | h
      · exact h
      · simp [Json.isNat64] at h
        omega
    have htext : Json.renderNumber (.int (-m)) = '-' :: Nat.toDigits 10 m := by
      rw [Json.renderNumber, Int.toString_eq_repr, Int.repr_eq_if, if_neg (by omega)]
      simp
    exact ⟨_, by rw [htext, Json.scanNumber_minus, Json.scanUnsigned_toDigits],
      Json.value?_neg_toDigits (by omega) hint⟩
  · obtain ⟨m, rfl⟩ : ∃ m : Nat, n = m := ⟨n.toNat, by omega⟩
    have hnat : Json.isNat64 m = true := by
      rcases h with h | h
      · simp [Json.isInt64, Json.isNat64] at h ⊢
        omega
      · exact h
    have htext : Json.renderNumber (.int m) = Nat.toDigits 10 m := by
      rw [Json.renderNumber, Int.toString_eq_repr, Int.repr_eq_if, if_pos (by omega)]
      simp
    exact ⟨_, by rw [htext, Json.scanNumber_toDigits], Json.value?_toDigits hnat⟩

end QueryBuilder

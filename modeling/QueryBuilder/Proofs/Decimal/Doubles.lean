/-
**Laws of doubles.**

Sums, products and quotients of doubles are rounded, and few laws are left of them.  What is left is
their order, and arithmetic with zero and with the infinite.

Doubles that are compared are taken apart first.  Among those that are defined the order is that of
a rank, which tells whether a number is infinite, negative, zero or positive, and then has its
exponent and its mantissa.  An undefined double has no rank, and is in no order with any other.

Results are put together from their parts, and taking a double apart loses nothing.  So arithmetic
that leaves the parts alone leaves the double alone.

Main definitions:

* `QueryBuilder.Decimal.Rank`, `QueryBuilder.Decimal.rank?` — what doubles are ordered by, and the
  rank of a double that is defined.

Main results:

* `QueryBuilder.Decimal.le_iff_rank`, `QueryBuilder.Decimal.lt_iff_rank` — **the order of doubles
  is the order of their ranks**;
* `QueryBuilder.Decimal.float_le_of_lt`, `QueryBuilder.Decimal.float_le_trans`,
  `QueryBuilder.Decimal.float_not_lt_of_lt`, `QueryBuilder.Decimal.float_le_of_not_lt` — what
  follows for doubles that are compared;
* `QueryBuilder.Decimal.isFinite_eq` — a finite double by its parts;
* `QueryBuilder.Decimal.pack_unpack` — a double put together from its own parts;
* `QueryBuilder.Decimal.float_zero_add`, `QueryBuilder.Decimal.float_sub_zero`,
  `QueryBuilder.Decimal.inf_div`, `QueryBuilder.Decimal.inf_mul` — arithmetic with zero
  and with the infinite.
-/

import Mathlib
import QueryBuilder.Decimal.Binary

set_option autoImplicit false

namespace QueryBuilder.Decimal

open Float.Model (UnpackedFloat Format)
open Float.Model.UnpackedFloat (unpackExponent)

/-! ### The order -/

/-- What doubles are ordered by: the kind of a double, its exponent and its mantissa. -/
abbrev Rank := ℤ ×ₗ ℤ ×ₗ ℤ

/-- A rank with its three parts. -/
def Rank.of (kind exponent mantissa : ℤ) : Rank :=
  toLex (kind, toLex (exponent, mantissa))

/-- The rank of a double by its parts, unless it is undefined.  A negative double is the smaller,
the larger its exponent and its mantissa are. -/
def rankOf? : UnpackedFloat → Option Rank
  | .notANumber => none
  | .infinity .negative => some (.of (-2) 0 0)
  | .finite .negative m e _ => some (.of (-1) (-e) (-m))
  | .zero _ => some (.of 0 0 0)
  | .finite .positive m e _ => some (.of 1 e m)
  | .infinity .positive => some (.of 2 0 0)

/-- The rank of a double, unless it is undefined. -/
def rank? (x : Float) : Option Rank :=
  rankOf? x.toModel.unpack

theorem Rank.compare_of (kind kind' exponent exponent' mantissa mantissa' : ℤ) :
    compare (of kind exponent mantissa) (of kind' exponent' mantissa') =
      (compare kind kind').then
        ((compare exponent exponent').then (compare mantissa mantissa')) := by
  simp only [Prod.Lex.compare_def]
  rfl

theorem compare_neg (a b : ℤ) : compare (-a) (-b) = (compare a b).swap := by
  have hanti : StrictAnti (Neg.neg : ℤ → ℤ) := fun _ _ => Int.neg_lt_neg
  rw [← cmp_eq_compare, ← cmp_eq_compare, hanti.cmp_map_eq, cmp_swap]

theorem compare_cast (m n : ℕ) : compare (m : ℤ) (n : ℤ) = compare m n := by
  rw [← cmp_eq_compare, ← cmp_eq_compare, Nat.strictMono_cast.cmp_map_eq]

/-- Doubles are compared as their ranks are.  Only if both are finite and on the same side of zero
does the comparison look further than at their kinds. -/
theorem compare_eq_rank (a b : UnpackedFloat) :
    a.compare b = (rankOf? a).bind fun r => (rankOf? b).map (compare r) := by
  cases a with
  | notANumber => rfl
  | infinity s =>
      cases b with
      | notANumber => cases s <;> rfl
      | zero s' => cases s <;> rfl
      | infinity s' => cases s <;> cases s' <;> rfl
      | finite s' m' e' _ => cases s <;> cases s' <;> rfl
  | zero s =>
      cases b with
      | notANumber => rfl
      | zero s' => rfl
      | infinity s' => cases s' <;> rfl
      | finite s' m' e' _ => cases s' <;> rfl
  | finite s m e _ =>
      cases b with
      | notANumber => cases s <;> rfl
      | zero s' => cases s <;> rfl
      | infinity s' => cases s <;> cases s' <;> rfl
      | finite s' m' e' _ =>
          have hpositive : compare (Rank.of 1 e m) (.of 1 e' m') =
              (compare e e').then (compare m m') := by
            rw [Rank.compare_of, compare_cast]
            rfl
          have hnegative : compare (Rank.of (-1) (-e) (-m)) (.of (-1) (-e') (-m')) =
              ((compare e e').then (compare m m')).swap := by
            rw [Rank.compare_of, compare_neg e, compare_neg m, compare_cast, Ordering.swap_then]
            rfl
          cases s with
          | positive =>
              cases s' with
              | positive => exact congrArg some hpositive.symm
              | negative => rfl
          | negative =>
              cases s' with
              | positive => rfl
              | negative => exact congrArg some hnegative.symm

variable {a b c x : Float}

/-- **A double is below another one, or equal to it, exactly if both have ranks** in this order. -/
theorem le_iff_rank : a ≤ b ↔ ∃ r s, rank? a = some r ∧ rank? b = some s ∧ r ≤ s := by
  have hle : a ≤ b ↔ a.toModel.unpack.le b.toModel.unpack = true := decide_eq_true_iff
  rw [hle, UnpackedFloat.le, compare_eq_rank, ← rank?, ← rank?]
  cases rank? a with
  | none => simp
  | some r =>
      cases rank? b with
      | none => simp
      | some s => simp [Ordering.isLE_iff_ne_gt, compare_le_iff_le]

/-- **A double is below another one exactly if both have ranks** in this order. -/
theorem lt_iff_rank : a < b ↔ ∃ r s, rank? a = some r ∧ rank? b = some s ∧ r < s := by
  have hlt : a < b ↔ a.toModel.unpack.lt b.toModel.unpack = true := decide_eq_true_iff
  rw [hlt, UnpackedFloat.lt, compare_eq_rank, ← rank?, ← rank?]
  cases rank? a with
  | none => simp
  | some r =>
      cases rank? b with
      | none => simp
      | some s => simp [compare_lt_iff_lt]

theorem exists_rank_of_le_left (h : a ≤ b) : ∃ r, rank? a = some r := by
  obtain ⟨r, _, hr, _, _⟩ := le_iff_rank.1 h
  exact ⟨r, hr⟩

theorem exists_rank_of_le_right (h : a ≤ b) : ∃ r, rank? b = some r := by
  obtain ⟨_, r, _, hr, _⟩ := le_iff_rank.1 h
  exact ⟨r, hr⟩

/-- A double that is defined is equal to itself, and not different from itself. -/
theorem self_of_rank {r : Rank} (h : rank? a = some r) : a ≤ a ∧ (a != a) = false := by
  have hbeq : (a == a) = a.toModel.unpack.beq a.toModel.unpack := rfl
  refine ⟨le_iff_rank.2 ⟨r, r, h, h, le_rfl⟩, ?_⟩
  rw [bne, hbeq, UnpackedFloat.beq, compare_eq_rank, ← rank?, h]
  simp

theorem float_le_of_lt (h : a < b) : a ≤ b := by
  obtain ⟨r, s, hr, hs, hrs⟩ := lt_iff_rank.1 h
  exact le_iff_rank.2 ⟨r, s, hr, hs, hrs.le⟩

theorem float_le_trans (hab : a ≤ b) (hbc : b ≤ c) : a ≤ c := by
  obtain ⟨r, s, hr, hs, hrs⟩ := le_iff_rank.1 hab
  obtain ⟨s', t, hs', ht, hst⟩ := le_iff_rank.1 hbc
  rw [hs] at hs'
  cases hs'
  exact le_iff_rank.2 ⟨r, t, hr, ht, hrs.trans hst⟩

theorem float_not_lt_of_le (h : a ≤ b) : ¬ b < a := by
  intro h'
  obtain ⟨r, s, hr, hs, hrs⟩ := le_iff_rank.1 h
  obtain ⟨s', r', hs', hr', hsr⟩ := lt_iff_rank.1 h'
  rw [hr] at hr'
  rw [hs] at hs'
  cases hr'
  cases hs'
  exact not_lt_of_ge hrs hsr

theorem float_not_lt_of_lt (h : a < b) : ¬ b < a :=
  float_not_lt_of_le (float_le_of_lt h)

/-- Two doubles that are defined are in one order or the other. -/
theorem float_le_of_not_lt {r s : Rank} (hr : rank? a = some r) (hs : rank? b = some s)
    (h : ¬ a < b) : b ≤ a := by
  have hrs : ¬ r < s := fun hrs => h (lt_iff_rank.2 ⟨r, s, hr, hs, hrs⟩)
  exact le_iff_rank.2 ⟨s, r, hs, hr, not_lt.1 hrs⟩

/-! ### Finite doubles -/

theorem toNat_unpackExponent (x : Float) :
    (@unpackExponent Format.binary64 x.toModel.toBits.toBitVec).toNat =
      exponentField x := by
  simp only [unpackExponent, BitVec.toNat_cast, BitVec.extractLsb_toNat, exponentField]
  rw [Nat.shiftRight_eq_div_pow]
  rfl

/-- A double is finite exactly if its parts are those of zero or of a number with a mantissa. -/
theorem isFinite_eq (x : Float) : isFinite x = x.toModel.unpack.isFinite := by
  have hones : @unpackExponent Format.binary64 x.toModel.toBits.toBitVec = -1#_ ↔
      exponentField x = 2047 := by
    rw [← BitVec.toNat_inj, toNat_unpackExponent]
    rfl
  unfold Float.Model.unpack UnpackedFloat.unpack
  dsimp only
  by_cases hexponent : exponentField x = 2047
  · rw [if_pos (hones.2 hexponent), isFinite, hexponent]
    split <;> rfl
  · rw [if_neg (mt hones.1 hexponent), isFinite, bne_iff_ne.2 hexponent]
    split
    · split <;> rfl
    · rfl

/-- A finite double is zero, or a number with a mantissa. -/
theorem unpack_of_isFinite (h : isFinite x = true) :
    (∃ s, x.toModel.unpack = .zero s) ∨ ∃ s m e hm, x.toModel.unpack = .finite s m e hm := by
  rw [isFinite_eq] at h
  cases hx : x.toModel.unpack with
  | notANumber =>
      rw [hx] at h
      cases h
  | infinity s =>
      rw [hx] at h
      cases h
  | zero s => exact .inl ⟨s, rfl⟩
  | finite s m e hm => exact .inr ⟨s, m, e, hm, rfl⟩

/-- A finite double is defined, and its kind is below that of the infinite one. -/
theorem rank_of_isFinite (h : isFinite x = true) :
    ∃ kind exponent mantissa, rank? x = some (.of kind exponent mantissa) ∧ kind < 2 := by
  unfold rank?
  rcases unpack_of_isFinite h with ⟨s, hx⟩ | ⟨s, m, e, hm, hx⟩
  · exact ⟨0, 0, 0, by rw [hx, rankOf?], by decide⟩
  · cases s with
    | positive => exact ⟨1, e, m, by rw [hx, rankOf?], by decide⟩
    | negative => exact ⟨-1, -e, -m, by rw [hx, rankOf?], by decide⟩

/-- A finite double that is not zero or below has a positive sign and a mantissa. -/
theorem unpack_of_positive (h : isFinite x = true) (hx : ¬ x ≤ Float.ofNat 0) :
    ∃ m e hm, x.toModel.unpack = .finite .positive m e hm := by
  have hzero : rank? (Float.ofNat 0) = some (.of 0 0 0) := by decide +kernel
  have hrank : ∀ r, rankOf? x.toModel.unpack = some r → ¬ r ≤ .of 0 0 0 :=
    fun r hr hle => hx (le_iff_rank.2 ⟨r, _, hr, hzero, hle⟩)
  rcases unpack_of_isFinite h with ⟨s, hunpack⟩ | ⟨s, m, e, hm, hunpack⟩
  · rw [hunpack] at hrank
    exact (hrank _ rfl le_rfl).elim
  · cases s with
    | positive => exact ⟨m, e, hm, hunpack⟩
    | negative =>
        rw [hunpack] at hrank
        have hbelow : (-1 : ℤ) < 0 := by decide
        exact (hrank _ rfl (Prod.Lex.toLex_le_toLex.2 (.inl hbelow))).elim

/-- A double that is taken apart and put together again is the same one. -/
theorem pack_unpack (x : Float.Model) : Float.Model.pack x.unpack = x := by
  obtain ⟨bits, hvalid⟩ := x
  have hbits : UnpackedFloat.pack Format.binary64
      (UnpackedFloat.unpack Format.binary64 bits.toBitVec) = bits.toBitVec :=
    UnpackedFloat.pack_unpack_of_valid hvalid
  simp [Float.Model.pack, Float.Model.unpack, hbits]

/-! ### Arithmetic with zero and the infinite -/

theorem unpack_inf : Float.inf.toModel.unpack = .infinity .positive := rfl

theorem unpack_zero : (Float.ofNat 0).toModel.unpack = .zero .positive := rfl

/-- A finite double is below the infinite one. -/
theorem lt_inf (h : isFinite x = true) : x < Float.inf := by
  obtain ⟨kind, exponent, mantissa, hr, hkind⟩ := rank_of_isFinite h
  have hinf : rank? Float.inf = some (.of 2 0 0) := by rw [rank?, unpack_inf, rankOf?]
  exact lt_iff_rank.2 ⟨_, _, hr, hinf, Prod.Lex.toLex_lt_toLex.2 (.inl hkind)⟩

section

variable {m : ℕ} {e : ℤ} {hm : 0 < m} (h : x.toModel.unpack = .finite .positive m e hm)

include h

theorem float_zero_add : Float.ofNat 0 + x = x := by
  have hadd : Float.ofNat 0 + x = .ofModel (.pack (.add Format.binary64
      (Float.ofNat 0).toModel.unpack x.toModel.unpack)) := rfl
  have hkeep : UnpackedFloat.add Format.binary64 (.zero .positive) (.finite .positive m e hm) =
      .finite .positive m e hm := rfl
  rw [hadd, unpack_zero, h, hkeep, ← h, pack_unpack]

theorem float_sub_zero : x - Float.ofNat 0 = x := by
  have hsub : x - Float.ofNat 0 = .ofModel (.pack (.sub Format.binary64
      x.toModel.unpack (Float.ofNat 0).toModel.unpack)) := rfl
  have hkeep : UnpackedFloat.sub Format.binary64 (.finite .positive m e hm) (.zero .positive) =
      .finite .positive m e hm := rfl
  rw [hsub, unpack_zero, h, hkeep, ← h, pack_unpack]

theorem inf_div : Float.inf / x = Float.inf := by
  have hdiv : Float.inf / x = .ofModel (.pack (.div Format.binary64
      Float.inf.toModel.unpack x.toModel.unpack)) := rfl
  rw [hdiv, unpack_inf, h]
  rfl

theorem inf_mul : Float.inf * x = Float.inf := by
  have hmul : Float.inf * x = .ofModel (.pack (.mul Format.binary64
      Float.inf.toModel.unpack x.toModel.unpack)) := rfl
  rw [hmul, unpack_inf, h]
  rfl

end

end QueryBuilder.Decimal

/-
**Doubles as exact numbers.**

A finite double is a whole number times a power of two.  This module reads the two parts off the
bits, so that rounding and printing can be done in exact arithmetic on natural numbers.

Main definitions:

* `QueryBuilder.Decimal.twoTo`, `QueryBuilder.Decimal.tenTo` — powers of the two bases;
* `QueryBuilder.Decimal.Binary` — sign, mantissa and exponent of a finite double;
* `QueryBuilder.Decimal.Binary.ofFloat?` — the parts of a double, if it is finite;
* `QueryBuilder.Decimal.isFinite` — a double that is neither infinite nor undefined;
* `QueryBuilder.Decimal.nearestWhole` — the nearest whole number, halves away from zero.
-/

set_option autoImplicit false

namespace QueryBuilder.Decimal

/-- A power of two. -/
def twoTo (n : Nat) : Nat := Nat.pow 2 n

/-- A power of ten. -/
def tenTo (n : Nat) : Nat := Nat.pow 10 n

/-- The number `± mantissa · 2 ^ exponent`. -/
structure Binary where
  negative : Bool
  mantissa : Nat
  exponent : Int
  deriving DecidableEq, Repr

/-- The biased exponent field of a double. -/
def exponentField (x : Float) : Nat :=
  x.toBits.toNat / twoTo 52 % twoTo 11

/-- The fraction field of a double. -/
def fractionField (x : Float) : Nat :=
  x.toBits.toNat % twoTo 52

/-- A double that is neither infinite nor undefined. -/
def isFinite (x : Float) : Bool :=
  exponentField x != 2047

/-- Whether the sign bit is set; it is set for the negative zero too. -/
def isNegative (x : Float) : Bool :=
  x.toBits.toNat / twoTo 63 == 1

/-- Subnormal doubles share the least exponent; all others have a leading bit that is not stored. -/
def Binary.ofFloat? (x : Float) : Option Binary :=
  if isFinite x then
    if exponentField x = 0 then
      some ⟨isNegative x, fractionField x, -1074⟩
    else
      some ⟨isNegative x, fractionField x + twoTo 52, (exponentField x : Int) - 1075⟩
  else
    none

/-- The nearest whole number, halves going away from zero.  A double with an exponent of zero or
more is whole already; of any other the whole part has at most 53 bits and is a double. -/
def nearestWhole (x : Float) : Float :=
  match Binary.ofFloat? x with
  | none => x
  | some b =>
    if 0 ≤ b.exponent then x
    else
      let unit := twoTo (-b.exponent).toNat
      let whole := Float.ofNat ((2 * b.mantissa + unit) / (2 * unit))
      if b.negative then -whole else whole

end QueryBuilder.Decimal

/-
**The shortest decimal that reads back as a given double.**

The reals that round to a double `m · 2 ^ q` form an interval around it, with its ends exactly when
`m` is even.  The decimal with the fewest digits in that interval lies on the coarsest grid
`10 ^ k` that has a point in it; among the points of that grid the one nearest to the double is
taken, and of two that are equally near the one that a `Tie` asks for.  All of this is arithmetic on
natural numbers.

Main definitions:

* `QueryBuilder.Decimal.Scaled` — a whole number of steps of `10 ^ power`;
* `QueryBuilder.Decimal.Tie`, `QueryBuilder.Decimal.nearestQuotient` — the nearest whole number of
  steps;
* `QueryBuilder.Decimal.Interval` — the reals that round to one double, as exact fractions;
* `QueryBuilder.Decimal.shortest` — the digits that are printed.
-/

import QueryBuilder.Decimal.Binary

set_option autoImplicit false

namespace QueryBuilder.Decimal

/-- The number `digits · 10 ^ power`. -/
structure Scaled where
  digits : Nat
  power : Int
  deriving DecidableEq, Repr

/-- Which of two whole numbers is taken for a half. -/
inductive Tie where
  | toEven
  | upward
  deriving DecidableEq, Repr

/-- The whole number that is nearest to a quotient. -/
def nearestQuotient (tie : Tie) (num den : Nat) : Nat :=
  let whole := num / den
  match compare (2 * (num % den)) den with
  | .lt => whole
  | .gt => whole + 1
  | .eq =>
    match tie with
    | .upward => whole + 1
    | .toEven => whole + whole % 2

/-- The reals between `low / den` and `high / den` that round to `mid / den`. -/
structure Interval where
  low : Nat
  mid : Nat
  high : Nat
  den : Nat
  closed : Bool
  deriving DecidableEq, Repr

/-- The neighbours of a double are one unit of the last place away, except that below a power of
two the unit is half as large.  The bounds are the midpoints, counted in quarters of a unit. -/
def Interval.ofParts (mantissa : Nat) (exponent : Int) : Interval :=
  let below := if mantissa = twoTo 52 ∧ -1074 < exponent then 1 else 2
  let quarters := exponent - 2
  let scale := twoTo quarters.toNat
  { low := (4 * mantissa - below) * scale
    mid := 4 * mantissa * scale
    high := (4 * mantissa + 2) * scale
    den := twoTo (-quarters).toNat
    closed := mantissa % 2 = 0 }

/-- The point of the grid `10 ^ power` that is nearest to the middle among those in the interval,
if there is one. -/
def Interval.point? (i : Interval) (tie : Tie) (power : Int) : Option Nat :=
  let up := tenTo (-power).toNat
  let step := i.den * tenTo power.toNat
  let low := i.low * up
  let high := i.high * up
  let first := if i.closed then (low + step - 1) / step else low / step + 1
  let last := if i.closed then high / step else (high - 1) / step
  if first ≤ last then
    some (max first (min last (nearestQuotient tie (i.mid * up) step)))
  else
    none

/-- The coarsest grid with a point in the interval, from `10 ^ power` downwards. -/
def Interval.coarsest (i : Interval) (tie : Tie) : Nat → Int → Scaled
  | 0, power => ⟨i.mid / i.den, power⟩
  | tries + 1, power =>
    match i.point? tie power with
    | some digits => ⟨digits, power⟩
    | none => i.coarsest tie tries (power - 1)

/-- A power of ten that exceeds the number with the given mantissa and exponent, found from the
number of its bits and `log 2 < 0.30103`. -/
def powerAbove (mantissa : Nat) (exponent : Int) : Int :=
  ((Nat.log2 mantissa + 1 : Int) + exponent) * 30103 / 100000 + 2

/-- The digits of a double without its sign.  Seventeen digits always suffice, so the search ends
within a few steps of the first grid. -/
def shortest (tie : Tie) (b : Binary) : Scaled :=
  if b.mantissa = 0 then ⟨0, 0⟩
  else (Interval.ofParts b.mantissa b.exponent).coarsest tie 40 (powerAbove b.mantissa b.exponent)

end QueryBuilder.Decimal

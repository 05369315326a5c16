/-
**The value of a written number.**

A whole number that fits 64 bits keeps its value; a negative one must fit the signed range, and
`-0` is the negative zero among the doubles.  Everything else is a double, computed in two steps:
as many leading digits as fit 64 bits form a significand, later ones only shift it, and the
significand is then scaled by one power of ten.  The result may be off by a unit in the last place
for numbers of more than fifteen digits.  A number beyond the range of doubles has no value.

Main definitions:

* `QueryBuilder.Json.Numeral` — the digits of a written number;
* `QueryBuilder.Json.Numeral.value?` — its value.
-/

import QueryBuilder.Decimal.Binary
import QueryBuilder.Json.Basic

set_option autoImplicit false

namespace QueryBuilder.Json

/-- A written number, digit by digit. -/
structure Numeral where
  negative : Bool
  whole : List Nat
  /-- The digits after the point; none means that there is no point. -/
  fraction : List Nat
  /-- The sign (true for a minus) and the digits of the exponent. -/
  exponent : Option (Bool × List Nat)
  deriving DecidableEq, Repr

/-- Appends digits to a significand while it fits 64 bits; the second part counts those that were
taken. -/
def takeDigits : Nat → List Nat → Nat × Nat
  | significand, [] => (significand, 0)
  | significand, digit :: rest =>
    if isNat64 (significand * 10 + digit : Nat) then
      let (result, taken) := takeDigits (significand * 10 + digit) rest
      (result, taken + 1)
    else
      (significand, 0)

/-- The natural number with the given digits. -/
def ofDigits (digits : List Nat) : Nat :=
  digits.foldl (fun n digit => n * 10 + digit) 0

/-- A power of ten as a double. -/
def floatTenTo (n : Nat) : Float :=
  OfScientific.ofScientific 1 false n

/-- Scales by a power of ten: by one multiplication or division up to `10 ^ 308`, and by repeated
division below.  After three such divisions any 64-bit number has become zero. -/
def scaleBy : Nat → Float → Int → Option Float
  | 0, _, _ => none
  | steps + 1, x, power =>
    if power.natAbs ≤ 308 then
      if 0 ≤ power then
        let scaled := x * floatTenTo power.natAbs
        if Decimal.isFinite scaled then some scaled else none
      else
        some (x / floatTenTo power.natAbs)
    else if x == 0 then some x
    else if 0 ≤ power then none
    else scaleBy steps (x / floatTenTo 308) (power + 308)

/-- Keeps a number within the signed range of 32 bits. -/
def saturate (n : Int) : Int :=
  max (-2147483648) (min n 2147483647)

namespace Numeral

/-- The significand and the power of ten of the digits before the exponent. -/
def significand (n : Numeral) : Nat × Int :=
  let (whole, taken) := takeDigits 0 n.whole
  let (all, places) := takeDigits whole n.fraction
  (all, ((n.whole.length - taken : Nat) : Int) - places)

/-- The size of the double: an exponent that exceeds 31 bits makes it zero or unbounded at once. -/
def magnitude? (n : Numeral) : Option Float :=
  let (digits, power) := n.significand
  match n.exponent with
  | none => scaleBy 4 (Float.ofNat digits) power
  | some (down, exponent) =>
    let size := ofDigits exponent
    if 2147483648 ≤ size then
      if digits = 0 ∨ down then some 0 else none
    else
      scaleBy 4 (Float.ofNat digits) (saturate (if down then power - size else power + size))

/-- The double with the sign of the numeral. -/
def float? (n : Numeral) : Option Number :=
  n.magnitude?.map fun x => .float (if n.negative then -x else x)

/-- The value of a numeral, if it is within the range of doubles. -/
def value? (n : Numeral) : Option Number :=
  let size := ofDigits n.whole
  if n.fraction.isEmpty ∧ n.exponent = none then
    if !n.negative && isNat64 size then some (.int size)
    else if n.negative && size != 0 && isInt64 (-size) then some (.int (-size))
    else n.float?
  else
    n.float?

end Numeral

end QueryBuilder.Json

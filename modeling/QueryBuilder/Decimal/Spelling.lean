/-
**Writing a double in decimal.**

The digits are the shortest that read back; a `Spelling` decides which of two equally near decimals
is written, up to which magnitudes the point is written in place, and whether a whole number is
marked by a final `.0`.

Main definitions:

* `QueryBuilder.Decimal.Spelling` — the choices of one format;
* `QueryBuilder.Decimal.Spelling.write?` — the text of a finite double;
* `QueryBuilder.Decimal.document` — the numbers of a JSON text;
* `QueryBuilder.Decimal.plain` — the numbers of a message.
-/

import QueryBuilder.Decimal.Shortest

set_option autoImplicit false

namespace QueryBuilder.Decimal

/-- How a number is written. -/
structure Spelling where
  /-- The choice between two decimals that are equally near and equally short. -/
  tie : Tie
  /-- The leading digits' powers of ten between which the point is written in place, the upper one
  excluded; with `none` it always is. -/
  inPlace : Option (Int × Int)
  /-- A whole number written in place ends with this text. -/
  wholeMark : String
  deriving DecidableEq, Repr

/-- A text of `n` zeros. -/
def zeros (n : Nat) : String :=
  String.ofList (List.replicate n '0')

/-- The digits with the point in place. -/
def Spelling.positional (s : Spelling) (n : Scaled) : String :=
  let digits := toString n.digits
  let lead := (digits.length : Int) + n.power
  if 0 ≤ n.power then
    digits ++ zeros n.power.toNat ++ s.wholeMark
  else if 0 < lead then
    String.ofList (digits.toList.take lead.toNat) ++ "." ++
      String.ofList (digits.toList.drop lead.toNat)
  else
    "0." ++ zeros (-lead).toNat ++ digits

/-- One digit, the others behind a point, and the power of ten with its sign. -/
def exponential (n : Scaled) : String :=
  let digits := (toString n.digits).toList
  let power := (digits.length : Int) - 1 + n.power
  let fraction := digits.drop 1
  String.ofList (digits.take 1) ++
    (if fraction.isEmpty then "" else "." ++ String.ofList fraction) ++
    "e" ++ (if power < 0 then "-" else "+") ++ toString power.natAbs

/-- The digits in the layout that their magnitude asks for. -/
def Spelling.write (s : Spelling) (n : Scaled) : String :=
  let power := ((toString n.digits).length : Int) - 1 + n.power
  match s.inPlace with
  | none => s.positional n
  | some (least, limit) =>
    if least ≤ power ∧ power < limit then s.positional n else exponential n

/-- The text of a double, if it is finite; the negative zero keeps its sign. -/
def Spelling.write? (s : Spelling) (x : Float) : Option String :=
  (Binary.ofFloat? x).map fun b =>
    (if b.negative then "-" else "") ++ s.write (shortest s.tie b)

/-- Numbers of a JSON text: in place from `0.00001` up to below `10 ^ 16`, and never without a
fraction.  Of two equally near decimals the one with an even last digit is written. -/
def document : Spelling := ⟨.toEven, some (-5, 16), ".0"⟩

/-- Numbers of a message: always in place, and whole numbers without a fraction.  Of two equally
near decimals the larger magnitude is written. -/
def plain : Spelling := ⟨.upward, none, ""⟩

end QueryBuilder.Decimal

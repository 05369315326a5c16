/-
**Values of JSON.**

A record keeps its members in the order in which they were given, because that order is what a
printed text shows.  Whole numbers and doubles are told apart: `1` and `1.0` are different values.

Main definitions:

* `QueryBuilder.Number`, `QueryBuilder.Json` — numbers and values;
* `QueryBuilder.Json.isInt64`, `QueryBuilder.Json.isNat64` — the ranges of whole numbers;
* `QueryBuilder.Json.optional`, `QueryBuilder.Json.ifPresent` — a value that may be absent, written
  as `null` or left out of its record.
-/

set_option autoImplicit false

namespace QueryBuilder

/-- A number as a text distinguishes it: whole, or with a fraction or an exponent. -/
inductive Number where
  | int (value : Int)
  | float (value : Float)
  deriving DecidableEq, Repr

/-- A value of JSON. -/
inductive Json where
  | null
  | bool (value : Bool)
  | number (value : Number)
  | text (value : String)
  | list (items : List Json)
  | record (members : List (String × Json))
  deriving Repr, Inhabited

namespace Json

/-- The whole numbers of the signed range of 64 bits. -/
def isInt64 (n : Int) : Bool :=
  -9223372036854775808 ≤ n && n ≤ 9223372036854775807

/-- The whole numbers of the unsigned range of 64 bits. -/
def isNat64 (n : Int) : Bool :=
  0 ≤ n && n ≤ 18446744073709551615

/-- A whole number. -/
def int (n : Int) : Json := .number (.int n)

/-- A natural number. -/
def nat (n : Nat) : Json := .number (.int n)

/-- A double. -/
def float (x : Float) : Json := .number (.float x)

/-- A value that may be absent, `null` if it is. -/
def optional {α : Type} (encode : α → Json) : Option α → Json
  | none => .null
  | some a => encode a

/-- A member that is left out of its record if its value is absent. -/
def ifPresent {α : Type} (name : String) (encode : α → Json) : Option α → List (String × Json)
  | none => []
  | some a => [(name, encode a)]

end Json

end QueryBuilder

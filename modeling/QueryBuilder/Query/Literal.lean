/-
**Values that filters compare with.**

A literal is written as a scalar of JSON.  Whole numbers of the signed 64-bit range stay whole
numbers; all other numbers are doubles.

Main definitions:

* `QueryBuilder.Literal` — the values;
* `QueryBuilder.Literal.toJson`, `QueryBuilder.Literal.ofDraft` — writing and reading.
-/

import QueryBuilder.Json.Decoder

set_option autoImplicit false

namespace QueryBuilder

/-- A value that a filter compares a field with. -/
inductive Literal where
  | bool (value : Bool)
  | int (value : Int)
  | float (value : Float)
  | text (value : String)
  deriving DecidableEq, Repr

namespace Literal

/-- The scalar of a literal. -/
def toJson : Literal → Json
  | .bool b => .bool b
  | .int n => .int n
  | .float x => .float x
  | .text s => .text s

/-- The literal of a value: any scalar but `null`. -/
def ofJson? : Json → Option Literal
  | .bool b => some (.bool b)
  | .number (.int n) => some (if Json.isInt64 n then .int n else .float (Float.ofInt n))
  | .number (.float x) => some (.float x)
  | .text s => some (.text s)
  | _ => none

/-- Reads a literal.  The value is read as a whole first, so that a fault inside a list or record
is found before its shape is refused. -/
def ofDraft : Json.Decoder Literal := fun d => do
  match ofJson? (← d.value) with
  | some literal => .ok literal
  | none => .error .mismatch

end Literal

end QueryBuilder

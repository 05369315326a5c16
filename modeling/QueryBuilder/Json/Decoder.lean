/-
**Reading values of a wanted kind.**

A decoder turns a draft into a value of some type or says what is wrong.  Records are read by name
from a record, or by position from a list.  Their members are read independently of each other, and
of several faults the one that comes first in the text is reported: a `Reading` is a value or a
fault together with its place.

Main definitions:

* `QueryBuilder.Json.int64`, `QueryBuilder.Json.nat64`, `QueryBuilder.Json.double`,
  `QueryBuilder.Json.string`, `QueryBuilder.Json.boolean` — decoders of scalars;
* `QueryBuilder.Json.nullable`, `QueryBuilder.Json.listOf`, `QueryBuilder.Json.word` — decoders of
  values that may be `null`, of lists, and of one word out of several;
* `QueryBuilder.Json.Reading` — the first fault among independent parts;
* `QueryBuilder.Json.Fields`, `QueryBuilder.Json.recordOf` — decoders of records.
-/

import QueryBuilder.Json.Reader

set_option autoImplicit false

namespace QueryBuilder.Json

/-! ### Scalars -/

/-- A whole number in the signed range of 64 bits. -/
def int64 : Decoder Int
  | .number (.int n) => if isInt64 n then .ok n else .error .mismatch
  | d => .error d.fault

/-- A whole number in the unsigned range of 64 bits. -/
def nat64 : Decoder Nat
  | .number (.int n) => if isNat64 n then .ok n.toNat else .error .mismatch
  | d => .error d.fault

/-- Any number, as a double. -/
def double : Decoder Float
  | .number (.int n) => .ok (Float.ofInt n)
  | .number (.float x) => .ok x
  | d => .error d.fault

/-- A text. -/
def string : Decoder String
  | .text s => .ok s
  | d => .error d.fault

/-- A truth value. -/
def boolean : Decoder Bool
  | .bool b => .ok b
  | d => .error d.fault

/-- Any value. -/
def any : Decoder Json := Draft.value

/-! ### Values made of others -/

/-- A value that may be `null`. -/
def nullable {α : Type} (decode : Decoder α) : Decoder (Option α)
  | .null => .ok none
  | d => (decode d).map some

/-- A list, read item by item. -/
def listOf {α : Type} (decode : Decoder α) : Decoder (List α)
  | .list items => items.mapM decode
  | d => .error d.fault

/-- The meaning of one of several words. -/
def lookUpWord {α : Type} (words : List (String × α)) (s : String) : Except Fault α :=
  match words.lookup s with
  | some a => .ok a
  | none => .error .mismatch

/-- One of several words, as a text or as the only name of a record, with `null` as its value. -/
def word {α : Type} (words : List (String × α)) : Decoder α
  | .text s => lookUpWord words s
  | .record [] => .error .misplaced
  | .record ((none, _) :: _) => .error .malformed
  | .record ((some name, value) :: rest) => do
    let a ← lookUpWord words name
    match value with
    | .null => if rest.isEmpty then .ok a else .error .misplaced
    | d => .error d.fault
  | .malformed | .unreadable => .error .malformed
  | _ => .error .misplaced

/-! ### The first fault among several parts -/

/-- The result of reading one part of a record: a value, or a fault with its place. -/
inductive Reading (α : Type) where
  | done (value : α)
  | slip (place : Nat) (fault : Fault)
  deriving Repr

namespace Reading

/-- Applies the value of one part to another; of two faults the one at the earlier place stays. -/
def apply {α β : Type} (f : Reading (α → β)) (x : Reading α) : Reading β :=
  match f, x with
  | .done f, .done a => .done (f a)
  | .done _, .slip place fault => .slip place fault
  | .slip place fault, .done _ => .slip place fault
  | .slip place fault, .slip place' fault' =>
    if place' < place then .slip place' fault' else .slip place fault

instance : Applicative Reading where
  pure := .done
  seq f x := f.apply (x ())

/-- A part for each index; the first fault stands for all. -/
def family {ι α : Type} (indices : List ι) (part : ι → Reading α) (absent : α) :
    Reading (ι → α) :=
  let all := indices.foldl (fun seen i => (fun _ _ => ()) <$> seen <*> part i) (.done ())
  (fun _ i => match part i with
    | .done a => a
    | .slip _ _ => absent) <$> all

/-- The value or the fault, without its place. -/
def toExcept {α : Type} : Reading α → Except Fault α
  | .done a => .ok a
  | .slip _ fault => .error fault

end Reading

/-! ### Records -/

/-- The members of a record that have a wanted name, each with its place. -/
structure Fields where
  entries : List (String × Nat × Draft)
  /-- The fault of the record itself, with its place. -/
  stop : Option (Nat × Fault)
  /-- A place after all members. -/
  width : Nat
  /-- Whether the members came with their names. -/
  named : Bool

/-- Goes through members in order.  A repeated wanted name is a fault, and so is an unwanted one in
a closed record; elsewhere an unwanted member has to obey the grammar only. -/
def collect (names : List String) (closed : Bool) (place : Nat)
    (found : List (String × Nat × Draft)) :
    List (Option String × Draft) → List (String × Nat × Draft) × Option (Nat × Fault)
  | [] => (found.reverse, none)
  | (none, _) :: _ => (found.reverse, some (place, .malformed))
  | (some name, value) :: rest =>
    if names.contains name then
      if found.any fun entry => entry.1 == name then
        (found.reverse, some (place, .mismatch))
      else
        collect names closed (place + 1) ((name, place, value) :: found) rest
    else if closed then (found.reverse, some (place, .mismatch))
    else if value.isWhole then collect names closed (place + 1) found rest
    else (found.reverse, some (place, .malformed))

/-- The items of a list under the wanted names, in order. -/
def assign (place : Nat) : List String → List Draft → List (String × Nat × Draft)
  | name :: names, item :: items => (name, place, item) :: assign (place + 1) names items
  | _, _ => []

/-- The members of a record, or the items of a list in the order of the names. -/
def Fields.ofDraft (names : List String) (closed : Bool) : Draft → Except Fault Fields
  | .record members =>
    let (entries, stop) := collect names closed 0 [] members
    .ok ⟨entries, stop, members.length, true⟩
  | .list items =>
    let stop := if names.length < items.length then some (names.length, .misplaced) else none
    .ok ⟨assign 0 names items, stop, items.length, false⟩
  | d => .error d.fault

namespace Fields

/-- A member that is read if it is there. -/
def read? {α : Type} (fields : Fields) (name : String) (decode : Decoder α) :
    Option (Reading α) :=
  (fields.entries.lookup name).map fun (place, draft) =>
    match decode draft with
    | .ok a => .done a
    | .error fault => .slip place fault

/-- A member that has to be there. -/
def required {α : Type} (fields : Fields) (name : String) (decode : Decoder α) : Reading α :=
  (fields.read? name decode).getD (.slip fields.width .mismatch)

/-- A member that may be left out. -/
def withDefault {α : Type} (fields : Fields) (name : String) (default : α) (decode : Decoder α) :
    Reading α :=
  (fields.read? name decode).getD (.done default)

/-- A member that may be `null`, and may be left out where members have names. -/
def optional {α : Type} (fields : Fields) (name : String) (decode : Decoder α) :
    Reading (Option α) :=
  (fields.read? name (nullable decode)).getD
    (if fields.named then .done none else .slip fields.width .mismatch)

/-- A member whose absence is kept apart from every value that it can have. -/
def ifGiven {α : Type} (fields : Fields) (name : String) (decode : Decoder α) :
    Reading (Option α) :=
  fields.withDefault name none fun d => (decode d).map some

/-- The fault of the record itself counts like that of a member. -/
def finish {α : Type} (fields : Fields) (reading : Reading α) : Except Fault α :=
  match fields.stop with
  | none => reading.toExcept
  | some (place, fault) =>
    ((fun a _ => a) <$> reading <*> (.slip place fault : Reading Unit)).toExcept

end Fields

/-- A record whose members have the given names, or a list of them in that order. -/
def recordOf {α : Type} (names : List String) (closed : Bool) (build : Fields → Reading α) :
    Decoder α := fun d => do
  let fields ← Fields.ofDraft names closed d
  fields.finish (build fields)

end QueryBuilder.Json

/-
**What a reader found in a text.**

A text that is read as a record of some kind may break the grammar at one place and have the wrong
shape at another, and the fault that comes first is the one that counts.  A `Draft` is therefore
everything that was found up to the first break of the grammar, with the break itself in its place.

Some things obey the grammar and still have no value: a string with half of a surrogate pair, a
number beyond the range of doubles, a container nested too deeply.  They are `unreadable`: a fault
where a value is wanted, and nothing to worry about in a member that nobody asks for.

Main definitions:

* `QueryBuilder.Json.Draft` — a value with possible breaks;
* `QueryBuilder.Json.Fault` — why a draft is not what was wanted;
* `QueryBuilder.Json.Draft.isWhole` — a draft without a break;
* `QueryBuilder.Json.Draft.value` — the value of a draft that has one;
* `QueryBuilder.Json.draft` — a value as a draft.
-/

import QueryBuilder.Json.Basic

set_option autoImplicit false

namespace QueryBuilder

namespace Json

/-- A value as it was found, up to the first break of the grammar. -/
inductive Draft where
  | null
  | bool (value : Bool)
  | number (value : Number)
  | text (value : String)
  | list (items : List Draft)
  /-- A name that is absent stands for a name without a value. -/
  | record (members : List (Option String × Draft))
  /-- Well-formed, but without a value. -/
  | unreadable
  /-- The place where the grammar is broken. -/
  | malformed
  deriving Repr, Inhabited

/-- Why a draft is not what was wanted. -/
inductive Fault where
  /-- The grammar is broken, or there is no value. -/
  | malformed
  /-- Something stands where the wanted shape has nothing. -/
  | misplaced
  /-- A well-formed value of another shape. -/
  | mismatch
  deriving DecidableEq, Repr

/-- Reads a value of one kind from a draft. -/
abbrev Decoder (α : Type) := Draft → Except Fault α

namespace Draft

mutual

/-- A draft that is nowhere broken; it may be unreadable. -/
def isWhole : Draft → Bool
  | .malformed => false
  | .list items => allWhole items
  | .record members => allMembersWhole members
  | _ => true

/-- Items that are nowhere broken. -/
def allWhole : List Draft → Bool
  | [] => true
  | item :: rest => item.isWhole && allWhole rest

/-- Members whose values are nowhere broken. -/
def allMembersWhole : List (Option String × Draft) → Bool
  | [] => true
  | (_, value) :: rest => value.isWhole && allMembersWhole rest

end

/-- Puts a member at its place in the order of names; an equal name is replaced. -/
def insertMember (name : String) (value : Json) : List (String × Json) → List (String × Json)
  | [] => [(name, value)]
  | (other, kept) :: rest =>
    if name = other then (name, value) :: rest
    else if name < other then (name, value) :: (other, kept) :: rest
    else (other, kept) :: insertMember name value rest

mutual

/-- The value of a draft.  The members of a record are sorted by name, and of those with one name
the last is kept. -/
def value : Draft → Except Fault Json
  | .null => .ok .null
  | .bool b => .ok (.bool b)
  | .number n => .ok (.number n)
  | .text s => .ok (.text s)
  | .list items => do return .list (← values items)
  | .record members => do
    return .record ((← memberValues members).foldl (fun ms m => insertMember m.1 m.2 ms) [])
  | .unreadable => .error .malformed
  | .malformed => .error .malformed

/-- The values of items, in order. -/
def values : List Draft → Except Fault (List Json)
  | [] => .ok []
  | item :: rest => do return (← item.value) :: (← values rest)

/-- The members with their values, in order. -/
def memberValues : List (Option String × Draft) → Except Fault (List (String × Json))
  | [] => .ok []
  | (none, _) :: _ => .error .malformed
  | (some name, item) :: rest => do return (name, ← item.value) :: (← memberValues rest)

end

/-- The fault of a draft that is not the scalar, list or record that was wanted.  Lists and records
are not looked into. -/
def fault : Draft → Fault
  | .malformed | .unreadable => .malformed
  | _ => .mismatch

end Draft

mutual

/-- A value as a draft. -/
def draft : Json → Draft
  | .null => .null
  | .bool b => .bool b
  | .number n => .number n
  | .text s => .text s
  | .list items => .list (drafts items)
  | .record members => .record (memberDrafts members)

/-- Items as drafts. -/
def drafts : List Json → List Draft
  | [] => []
  | item :: rest => item.draft :: drafts rest

/-- Members as drafts. -/
def memberDrafts : List (String × Json) → List (Option String × Draft)
  | [] => []
  | (name, value) :: rest => (some name, value.draft) :: memberDrafts rest

end

theorem memberDrafts_eq_map (members : List (String × Json)) :
    memberDrafts members = members.map fun m => (some m.1, m.2.draft) := by
  induction members with
  | nil => rfl
  | cons m rest ih => simp [memberDrafts, ih]

end Json

end QueryBuilder

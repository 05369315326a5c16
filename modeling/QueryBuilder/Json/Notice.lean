/-
**Notices about texts.**

A notice about a text that cannot be loaded may tell the line and the column of the fault.  It is
written as its words and, behind them, its place; line 0 stands for no place.  A notice that comes
as a text is taken apart the same way, whatever its words were made of: words that end like a place
are read as one, and are shown with the numbers in their plain form, or not at all if the line
is 0.

Main definitions:

* `QueryBuilder.Json.Notice`, `QueryBuilder.Json.Notice.text` — notices and how they are written;
* `QueryBuilder.Json.Notice.ofText` — a notice that comes as a text;
* `QueryBuilder.Json.shownWords` — the text that is shown for the words of a refusal.
-/

import QueryBuilder.Json.Reader

set_option autoImplicit false

namespace QueryBuilder.Json

/-- Words about a text, with a place in it. -/
structure Notice where
  words : String
  /-- The line, from 1 on; 0 stands for no place. -/
  line : Nat
  column : Nat
  deriving DecidableEq, Repr

/-- What is before and behind the last occurrence of a mark. -/
def splitAtLast? (mark : List Char) : List Char → Option (List Char × List Char)
  | [] => none
  | c :: rest =>
    match splitAtLast? mark rest with
    | some (before, behind) => some (c :: before, behind)
    | none =>
      if mark.isPrefixOf (c :: rest) then some ([], (c :: rest).drop mark.length) else none

/-- The number that a text starts with, if it fits 64 bits, and the rest. -/
def scanCount? (s : List Char) : Option (Nat × List Char) :=
  match scanDigits s with
  | ([], _) => none
  | (digits, rest) =>
    if isNat64 (ofDigits digits : Nat) then some (ofDigits digits, rest) else none

namespace Notice

/-- What stands before the line. -/
def lineMark : String := " at line "

/-- What stands between the line and the column. -/
def columnMark : String := " column "

/-- The words and the place, if there is one. -/
def text (n : Notice) : String :=
  if n.line = 0 then n.words
  else n.words ++ lineMark ++ toString n.line ++ columnMark ++ toString n.column

/-- The place that is written behind the mark of the line, with nothing after it. -/
def place? (s : List Char) : Option (Nat × Nat) := do
  let (line, s) ← scanCount? s
  if !columnMark.toList.isPrefixOf s then none
  let (column, s) ← scanCount? (s.drop columnMark.length)
  if s.isEmpty then some (line, column) else none

/-- The notice that a text was written from, if it ends with a place. -/
def ofPlaced? (s : String) : Option Notice := do
  let (words, behind) ← splitAtLast? lineMark.toList s.toList
  let (line, column) ← place? behind
  return ⟨String.ofList words, line, column⟩

/-- The notice that a text was written from; one that does not end with a place is all words. -/
def ofText (s : String) : Notice :=
  (ofPlaced? s).getD ⟨s, 0, 0⟩

end Notice

/-- The text that is shown for the words of a refusal. -/
def shownWords (words : String) : String :=
  (Notice.ofText words).text

end QueryBuilder.Json

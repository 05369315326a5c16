/-
**Printing JSON.**

One function prints a value; a `Style` says what blanks it puts before the items of a list or
record and after the colon of a member.  With no blanks at all the text is compact, with line
breaks and two blanks for each level it is indented.

Main definitions:

* `QueryBuilder.Json.quote` — a text in quotes;
* `QueryBuilder.Json.Style`, `QueryBuilder.Json.Style.compact`, `QueryBuilder.Json.Style.indented`
  — where blanks go;
* `QueryBuilder.Json.render` — the characters of a value;
* `QueryBuilder.Json.compact`, `QueryBuilder.Json.pretty` — the two texts of a value.
-/

import QueryBuilder.Decimal.Spelling
import QueryBuilder.Json.Basic

set_option autoImplicit false

namespace QueryBuilder

namespace Json

/-! ### Scalars -/

/-- A hexadecimal digit in lower case. -/
def hexDigit (n : Nat) : Char :=
  Char.ofNat (if n < 10 then 48 + n else 87 + n)

/-- A character between quotes.  Quotes, backslashes and control characters are escaped, nothing
else is. -/
def quoteChar (c : Char) : List Char :=
  if c = '"' then ['\\', '"']
  else if c = '\\' then ['\\', '\\']
  else if c.toNat = 8 then ['\\', 'b']
  else if c.toNat = 9 then ['\\', 't']
  else if c.toNat = 10 then ['\\', 'n']
  else if c.toNat = 12 then ['\\', 'f']
  else if c.toNat = 13 then ['\\', 'r']
  else if c.toNat < 32 then
    ['\\', 'u', '0', '0', hexDigit (c.toNat / 16), hexDigit (c.toNat % 16)]
  else [c]

/-- A text in quotes. -/
def quote (s : String) : List Char :=
  '"' :: s.toList.flatMap quoteChar ++ ['"']

/-- A number; a double that is not finite has no number in JSON and is printed as `null`. -/
def renderNumber : Number → List Char
  | .int n => (toString n).toList
  | .float x => ((Decimal.document.write? x).getD "null").toList

/-! ### Lists and records -/

/-- The blanks of a printed text. -/
structure Style where
  /-- What stands before an item, or before a closing bracket, at a depth. -/
  line : Nat → List Char
  /-- What follows the colon of a member. -/
  space : List Char

/-- No blanks. -/
def Style.compact : Style := ⟨fun _ => [], []⟩

/-- A line for each item, two blanks for each level, and one after a colon. -/
def Style.indented : Style := ⟨fun depth => '\n' :: List.replicate (2 * depth) ' ', [' ']⟩

mutual

/-- The characters of a value whose line stands at the given depth. -/
def render (style : Style) (depth : Nat) : Json → List Char
  | .null => "null".toList
  | .bool true => "true".toList
  | .bool false => "false".toList
  | .number n => renderNumber n
  | .text s => quote s
  | .list [] => ['[', ']']
  | .list (item :: rest) =>
    '[' :: style.line (depth + 1) ++ render style (depth + 1) item ++
      renderItems style (depth + 1) rest ++ style.line depth ++ [']']
  | .record [] => ['\x7b', '\x7d']
  | .record ((name, value) :: rest) =>
    '\x7b' :: style.line (depth + 1) ++ quote name ++ ':' :: style.space ++
      render style (depth + 1) value ++ renderMembers style (depth + 1) rest ++
      style.line depth ++ ['\x7d']

/-- The items of a list after the first. -/
def renderItems (style : Style) (depth : Nat) : List Json → List Char
  | [] => []
  | item :: rest =>
    ',' :: style.line depth ++ render style depth item ++ renderItems style depth rest

/-- The members of a record after the first. -/
def renderMembers (style : Style) (depth : Nat) : List (String × Json) → List Char
  | [] => []
  | (name, value) :: rest =>
    ',' :: style.line depth ++ quote name ++ ':' :: style.space ++ render style depth value ++
      renderMembers style depth rest

end

/-- The text without blanks. -/
def compact (value : Json) : String :=
  String.ofList (value.render .compact 0)

/-- The text with a line for each item. -/
def pretty (value : Json) : String :=
  String.ofList (value.render .indented 0)

end Json

end QueryBuilder

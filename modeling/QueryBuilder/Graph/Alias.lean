/-
**Aliases of tables.**

A new table is called by the first letters of the words of its name, `order_items` by `oi`, and by
these letters and a number from two on if they are taken.

Main definitions:

* `QueryBuilder.Alias.words` — the words of a name;
* `QueryBuilder.Alias.initials` — their first letters;
* `QueryBuilder.Alias.fresh` — an alias that is not taken.
-/

import QueryBuilder.Text.Alphanumeric
import QueryBuilder.Text.Blank
import QueryBuilder.Text.Lowercase

set_option autoImplicit false

namespace QueryBuilder.Alias

/-- What stands between the words of a name. -/
def isSeparator (c : Char) : Bool :=
  c = '_' || c = '-' || c = '.' || Text.isBlank c

/-- The words of a name; next to each other, separators have empty words between them. -/
def words (name : List Char) : List (List Char) :=
  name.splitOnP isSeparator

/-- The first letter or digit of each word in lower case, or a `t` if there is none. -/
def initials (name : String) : String :=
  let letters := ((words name.toList).filterMap fun w => w.find? Text.isAlphanumeric).flatMap
    Text.lowerChar
  if letters.isEmpty then "t" else String.ofList letters

/-- The initials with a number. -/
def numbered (base : String) (n : Nat) : String :=
  base ++ toString n

/-- The initials, or the first numbering of them that is not taken.  With as many numbers as there
are aliases one is left over, since the initials are an alias as well. -/
def fresh (taken : List String) (name : String) : String :=
  let base := initials name
  if taken.contains base then
    (((List.range' 2 taken.length).map (numbered base)).find? fun a => !taken.contains a).getD base
  else
    base

end QueryBuilder.Alias

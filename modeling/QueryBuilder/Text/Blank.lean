/-
**White space.**

The characters with the Unicode property White_Space, and texts with the white space at their ends
taken away.

Main definitions:

* `QueryBuilder.Text.isBlank` — a character of white space;
* `QueryBuilder.Text.trim` — a text without the white space at both ends;
* `QueryBuilder.Text.isBlankText` — a text of nothing but white space.
-/

import QueryBuilder.Text.Range

set_option autoImplicit false

namespace QueryBuilder.Text

/-- The code points of white space. -/
def blankRanges : List (Nat × Nat) :=
  [(0x9, 0xD), (0x20, 0x20), (0x85, 0x85), (0xA0, 0xA0), (0x1680, 0x1680), (0x2000, 0x200A),
   (0x2028, 0x2029), (0x202F, 0x202F), (0x205F, 0x205F), (0x3000, 0x3000)]

/-- A character of white space. -/
def isBlank (c : Char) : Bool :=
  inRanges blankRanges c

/-- A text without the white space at both ends. -/
def trim (s : List Char) : List Char :=
  ((s.dropWhile isBlank).reverse.dropWhile isBlank).reverse

/-- A text of nothing but white space; the empty text is one. -/
def isBlankText (s : String) : Bool :=
  s.toList.all isBlank

end QueryBuilder.Text

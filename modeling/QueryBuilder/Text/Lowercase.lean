/-
**Lower-casing.**

Letters of ASCII are moved by 32; other characters follow the table.  Two cases go beyond a
character-by-character map: the capital I with a dot becomes an i and a combining dot, and a
capital sigma at the end of a word takes its final form.  A sigma ends a word if the nearest
character before it that is not passed over has a case, and the nearest one after it has none.

Main definitions:

* `QueryBuilder.Text.lowerChar` — the lower-case form of one character, without context;
* `QueryBuilder.Text.lower` — the lower-case form of a text;
* `QueryBuilder.Text.lowerAscii` — letters of ASCII only.
-/

import QueryBuilder.Text.Casing

set_option autoImplicit false

namespace QueryBuilder.Text

/-- The lower-case form of a letter of ASCII; any other character stays. -/
def lowerAscii (c : Char) : Char :=
  if 'A' ≤ c ∧ c ≤ 'Z' then Char.ofNat (c.toNat + 32) else c

/-- Whether a code point belongs to a run. -/
def LowerRun.contains (run : LowerRun) (code : Nat) : Bool :=
  run.first ≤ code && code ≤ run.last && (code - run.first) % run.step == 0

/-- The lower-case form of one character by itself: the table outside ASCII. -/
def lowerChar (c : Char) : List Char :=
  if c.toNat < 0x80 then [lowerAscii c]
  else if c.toNat = 0x130 then ['i', Char.ofNat 0x307]
  else
    match lowerRuns.find? fun run => run.contains c.toNat with
    | some run => [Char.ofNat ((c.toNat : Int) + run.distance).toNat]
    | none => [c]

/-- Whether the first character that is not passed over has a case. -/
def meetsCased (s : List Char) : Bool :=
  match s.dropWhile isCaseIgnorable with
  | c :: _ => isCased c
  | [] => false

/-- The capital sigma. -/
def capitalSigma : Char := Char.ofNat 0x3A3

/-- The form of a capital sigma between the characters `before`, nearest first, and `after`. -/
def sigmaBetween (before after : List Char) : Char :=
  if meetsCased before && !meetsCased after then Char.ofNat 0x3C2 else Char.ofNat 0x3C3

/-- Lower-casing what follows the characters `before`, nearest first. -/
def lowerFrom (before : List Char) : List Char → List Char
  | [] => []
  | c :: rest =>
    (if c = capitalSigma then [sigmaBetween before rest] else lowerChar c) ++
      lowerFrom (c :: before) rest

/-- The lower-case form of a text. -/
def lower (s : List Char) : List Char :=
  lowerFrom [] s

end QueryBuilder.Text

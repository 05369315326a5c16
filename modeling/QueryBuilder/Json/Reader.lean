/-
**Reading JSON texts.**

The reader works on the characters that remain.  It returns what it found as a draft, and the rest
of the text if the grammar held so far; after a break there is no rest, and the draft ends at the
break.  Up to 127 containers may be open at a time: the contents of a container beyond that are
unreadable.

Main definitions:

* `QueryBuilder.Json.scanText` — the characters of a quoted text;
* `QueryBuilder.Json.scanNumber` — a written number;
* `QueryBuilder.Json.readValue` — a value at the start of a text;
* `QueryBuilder.Json.Document`, `QueryBuilder.Json.Document.ofText` — a whole text.
-/

import QueryBuilder.Json.Draft
import QueryBuilder.Json.Numeral

set_option autoImplicit false

namespace QueryBuilder.Json

/-! ### Blanks -/

/-- The blanks between the parts of a text. -/
def isGap (c : Char) : Bool :=
  c = ' ' || c = '\n' || c = '\t' || c = '\r'

/-- A text without the blanks at its start. -/
def skipGap (s : List Char) : List Char :=
  s.dropWhile isGap

/-! ### Texts -/

/-- The value of a hexadecimal digit of either case. -/
def hexValue? (c : Char) : Option Nat :=
  if '0' ≤ c ∧ c ≤ '9' then some (c.toNat - 48)
  else if 'a' ≤ c ∧ c ≤ 'f' then some (c.toNat - 87)
  else if 'A' ≤ c ∧ c ≤ 'F' then some (c.toNat - 55)
  else none

/-- The number written by four hexadecimal digits. -/
def hexUnit? (a b c d : Char) : Option Nat := do
  return (((← hexValue? a) * 16 + (← hexValue? b)) * 16 + (← hexValue? c)) * 16 + (← hexValue? d)

/-- The character behind a backslash, other than by number. -/
def unescape? : Char → Option Char
  | '"' => some '"'
  | '\\' => some '\\'
  | '/' => some '/'
  | 'b' => some (Char.ofNat 8)
  | 'f' => some (Char.ofNat 12)
  | 'n' => some '\n'
  | 'r' => some '\r'
  | 't' => some '\t'
  | _ => none

/-- The first half of a surrogate pair. -/
def isHighHalf (unit : Nat) : Bool := 0xD800 ≤ unit && unit < 0xDC00

/-- The second half of a surrogate pair. -/
def isLowHalf (unit : Nat) : Bool := 0xDC00 ≤ unit && unit < 0xE000

/-- The character of a surrogate pair. -/
def joinHalves (high low : Nat) : Char :=
  Char.ofNat (0x10000 + (high - 0xD800) * 0x400 + (low - 0xDC00))

/-- Scans a text up to its closing quote, given the characters before in reverse and whether they
all have a value.  The result has no text if one of them has none, and is absent if the grammar is
broken. -/
def scanText : List Char → Bool → List Char → Option (Option String × List Char)
  | before, readable, '"' :: rest =>
    some (if readable then some (String.ofList before.reverse) else none, rest)
  | before, readable, '\\' :: 'u' :: a :: b :: c :: d :: '\\' :: 'u' :: e :: f :: g :: h :: rest =>
    match hexUnit? a b c d, hexUnit? e f g h with
    | none, _ => none
    | some unit, second =>
      if isHighHalf unit then
        match second with
        | some low =>
          if isLowHalf low then scanText (joinHalves unit low :: before) readable rest
          else scanText before false ('\\' :: 'u' :: e :: f :: g :: h :: rest)
        | none => none
      else if isLowHalf unit then scanText before false ('\\' :: 'u' :: e :: f :: g :: h :: rest)
      else scanText (Char.ofNat unit :: before) readable ('\\' :: 'u' :: e :: f :: g :: h :: rest)
  | before, readable, '\\' :: 'u' :: a :: b :: c :: d :: rest =>
    match hexUnit? a b c d with
    | none => none
    | some unit =>
      if isHighHalf unit || isLowHalf unit then scanText before false rest
      else scanText (Char.ofNat unit :: before) readable rest
  | before, readable, '\\' :: c :: rest =>
    match unescape? c with
    | some plain => scanText (plain :: before) readable rest
    | none => none
  | before, readable, c :: rest =>
    if c.toNat < 32 ∨ c = '\\' then none else scanText (c :: before) readable rest
  | _, _, [] => none
  termination_by _ _ s => s.length

/-! ### Numbers -/

/-- The digits at the start of a text, and the rest. -/
def scanDigits : List Char → List Nat × List Char
  | [] => ([], [])
  | c :: rest =>
    if c.isDigit then
      let (digits, rest) := scanDigits rest
      ((c.toNat - 48) :: digits, rest)
    else
      ([], c :: rest)

/-- The whole part: a zero by itself, or digits that do not start with one. -/
def scanWhole (s : List Char) : Option (List Nat × List Char) :=
  match scanDigits s with
  | ([], _) => none
  | (0 :: _ :: _, _) => none
  | found => some found

/-- The digits after a point, if there is a point. -/
def scanFraction : List Char → Option (List Nat × List Char)
  | '.' :: rest =>
    match scanDigits rest with
    | ([], _) => none
    | found => some found
  | s => some ([], s)

/-- The sign and the digits of an exponent, if there is one. -/
def scanExponent (s : List Char) : Option (Option (Bool × List Nat) × List Char) :=
  match s with
  | c :: rest =>
    if c = 'e' ∨ c = 'E' then
      let (down, rest) :=
        match rest with
        | '+' :: rest => (false, rest)
        | '-' :: rest => (true, rest)
        | _ => (false, rest)
      match scanDigits rest with
      | ([], _) => none
      | (digits, rest) => some (some (down, digits), rest)
    else
      some (none, s)
  | [] => some (none, s)

/-- A written number, and the rest. -/
def scanNumber (s : List Char) : Option (Numeral × List Char) := do
  let (negative, s) :=
    match s with
    | '-' :: rest => (true, rest)
    | _ => (false, s)
  let (whole, s) ← scanWhole s
  let (fraction, s) ← scanFraction s
  let (exponent, s) ← scanExponent s
  return (⟨negative, whole, fraction, exponent⟩, s)

/-! ### Values -/

/-- The number of containers that may be open at a time. -/
def deepest : Nat := 127

/-- The items of a container at a depth: beyond the limit they have no value. -/
def limitItems (depth : Nat) (items : List Draft) : List Draft :=
  if depth ≤ deepest then items
  else if Draft.allWhole items then [.unreadable]
  else [.malformed]

/-- The members of a container at a depth: beyond the limit they have no value. -/
def limitMembers (depth : Nat) (members : List (Option String × Draft)) :
    List (Option String × Draft) :=
  if depth ≤ deepest then members
  else if Draft.allMembersWhole members then [(none, .unreadable)]
  else [(none, .malformed)]

mutual

/-- A value at the start of a text, inside `depth` containers, and the rest.  Each call for a part
uses up a unit of fuel, and so there are at most two for each character. -/
def readValue : Nat → Nat → List Char → Draft × Option (List Char)
  | 0, _, _ => (.malformed, none)
  | fuel + 1, depth, s =>
    match s with
    | 'n' :: 'u' :: 'l' :: 'l' :: rest => (.null, some rest)
    | 't' :: 'r' :: 'u' :: 'e' :: rest => (.bool true, some rest)
    | 'f' :: 'a' :: 'l' :: 's' :: 'e' :: rest => (.bool false, some rest)
    | '"' :: rest =>
      match scanText [] true rest with
      | some (some content, rest) => (.text content, some rest)
      | some (none, rest) => (.unreadable, some rest)
      | none => (.malformed, none)
    | '[' :: rest =>
      let (items, rest) := readItems fuel (depth + 1) true (skipGap rest)
      (.list (limitItems (depth + 1) items), rest)
    | '\x7b' :: rest =>
      let (members, rest) := readMembers fuel (depth + 1) true (skipGap rest)
      (.record (limitMembers (depth + 1) members), rest)
    | _ =>
      match scanNumber s with
      | some (numeral, rest) =>
        match numeral.value? with
        | some n => (.number n, some rest)
        | none => (.unreadable, some rest)
      | none => (.malformed, none)

/-- The items of a list up to its closing bracket, which may stand in the first place only if there
is no item before it. -/
def readItems : Nat → Nat → Bool → List Char → List Draft × Option (List Char)
  | 0, _, _, _ => ([.malformed], none)
  | fuel + 1, depth, first, s =>
    match s with
    | ']' :: rest => if first then ([], some rest) else ([.malformed], none)
    | _ =>
      let (item, rest) := readValue fuel depth s
      match rest.map skipGap with
      | none => ([item], none)
      | some (']' :: rest) => ([item], some rest)
      | some (',' :: rest) =>
        let (items, rest) := readItems fuel depth false (skipGap rest)
        (item :: items, rest)
      | some _ => ([item, .malformed], none)

/-- The members of a record up to its closing bracket, which may stand in the first place only if
there is no member before it. -/
def readMembers : Nat → Nat → Bool → List Char →
    List (Option String × Draft) × Option (List Char)
  | 0, _, _, _ => ([(none, .malformed)], none)
  | fuel + 1, depth, first, s =>
    match s with
    | '\x7d' :: rest => if first then ([], some rest) else ([(none, .malformed)], none)
    | '"' :: rest =>
      match scanText [] true rest with
      | none => ([(none, .malformed)], none)
      | some (name, rest) =>
        match skipGap rest with
        | ':' :: rest =>
          let (value, rest) := readValue fuel depth (skipGap rest)
          match rest.map skipGap with
          | none => ([(name, value)], none)
          | some ('\x7d' :: rest) => ([(name, value)], some rest)
          | some (',' :: rest) =>
            let (members, rest) := readMembers fuel depth false (skipGap rest)
            ((name, value) :: members, rest)
          | some _ => ([(name, value), (none, .malformed)], none)
        | _ => ([(name, .malformed)], none)
    | _ => ([(none, .malformed)], none)

end

/-! ### Whole texts -/

/-- A text that was read: what it starts with, and whether anything but blanks follows. -/
structure Document where
  root : Draft
  trailing : Bool
  deriving Repr

/-- Reads a text. -/
def Document.ofText (text : String) : Document :=
  let s := skipGap text.toList
  match readValue (2 * s.length + 1) 0 s with
  | (root, some rest) => ⟨root, !(skipGap rest).isEmpty⟩
  | (root, none) => ⟨root, false⟩

/-- The value of a text that holds one value and nothing else. -/
def ofText? (text : String) : Option Json :=
  let document := Document.ofText text
  match document.root.value with
  | .ok value => if document.trailing then none else some value
  | .error _ => none

end QueryBuilder.Json

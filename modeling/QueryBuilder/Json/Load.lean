/-
**Loading texts and embedded values.**

A text can fail to be JSON, have the wrong shape, or hold something that is refused for a reason of
its own.  A refusal comes before the complaint that something follows the value, because the text
behind the value is looked at last.  A value that is part of a larger text is JSON already, so
every fault of it is one of shape.

What is wrong with a text that is no JSON or has the wrong shape is told in words that are not
looked at any further.  Where they are shown, the reader's way to choose them is a parameter.

Main definitions:

* `QueryBuilder.Json.LoadError` — why nothing was loaded;
* `QueryBuilder.Json.Wording` — how a reader words it;
* `QueryBuilder.Json.loadText`, `QueryBuilder.Json.loadValue` — decoding and accepting;
* `QueryBuilder.Json.decodeText`, `QueryBuilder.Json.decodeValue` — the same where nothing is
  refused.
-/

import QueryBuilder.Json.Decoder

set_option autoImplicit false

namespace QueryBuilder.Json

/-- Why nothing was loaded. -/
inductive LoadError (ε : Type) where
  | notJson
  | wrongShape
  | refused (reason : ε)
  deriving DecidableEq, Repr

/-- What a reader says about each text that is no JSON or has the wrong shape for it. -/
abbrev Wording := String → String

/-- The error for a fault in a text of its own: what is misplaced there breaks its grammar. -/
def Fault.inText {ε : Type} : Fault → LoadError ε
  | .malformed | .misplaced => .notJson
  | .mismatch => .wrongShape

/-- Decodes a text and accepts what it holds. -/
def loadText {α β ε : Type} (decode : Decoder α) (accept : α → Except ε β) (text : String) :
    Except (LoadError ε) β :=
  let document := Document.ofText text
  match decode document.root with
  | .error fault => .error fault.inText
  | .ok a =>
    match accept a with
    | .error reason => .error (.refused reason)
    | .ok b => if document.trailing then .error .notJson else .ok b

/-- Decodes a value and accepts what it holds. -/
def loadValue {α β ε : Type} (decode : Decoder α) (accept : α → Except ε β) (value : Json) :
    Except (LoadError ε) β :=
  match decode value.draft with
  | .error _ => .error .wrongShape
  | .ok a => (accept a).mapError .refused

/-- Decodes a text. -/
def decodeText {α ε : Type} (decode : Decoder α) (text : String) : Except (LoadError ε) α :=
  loadText decode .ok text

/-- Decodes a value. -/
def decodeValue {α ε : Type} (decode : Decoder α) (value : Json) : Except (LoadError ε) α :=
  loadValue decode .ok value

end QueryBuilder.Json

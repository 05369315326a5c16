/-
**Paths.**

A path is a text taken apart at its slashes.  A dot stands for the directory itself, two dots for
the one above, and every part but the last has to name a directory.

Main definitions:

* `QueryBuilder.CommandLine.Path`, `QueryBuilder.CommandLine.Path.ofText` — the parts of a path;
* `QueryBuilder.CommandLine.Obstacle` — why a path cannot be used.
-/

set_option autoImplicit false

namespace QueryBuilder.CommandLine

/-! ### Obstacles -/

/-- Why a path cannot be used. -/
inductive Obstacle where
  /-- The path leads nowhere. -/
  | notFound
  /-- The path leads to a device that is not at hand. -/
  | noDevice
  | permissionDenied
  /-- Something that has to be a directory is none. -/
  | notDirectory
  /-- A directory stands where a file is wanted. -/
  | isDirectory
  | noSpace
  /-- The path or one of its parts is too long. -/
  | nameTooLong
  /-- There is a file, and its bytes are no text. -/
  | notText
  deriving DecidableEq, Repr

/-- The obstacle in words, with its number if it has one. -/
def Obstacle.message : Obstacle → String
  | notFound => "No such file or directory (os error 2)"
  | noDevice => "No such device or address (os error 6)"
  | permissionDenied => "Permission denied (os error 13)"
  | notDirectory => "Not a directory (os error 20)"
  | isDirectory => "Is a directory (os error 21)"
  | noSpace => "No space left on device (os error 28)"
  | nameTooLong => "File name too long (os error 36)"
  | notText => "stream did not contain valid UTF-8"

/-! ### Parts -/

/-- A path at its slashes: whether it starts at the root, its parts, and whether it asks for a
directory by a slash at its end. -/
structure Path where
  absolute : Bool
  parts : List String
  slashed : Bool
  deriving DecidableEq, Repr

namespace Path

/-- A whole path has fewer bytes than this. -/
def sizeLimit : Nat := 4096

/-- The most bytes of a name. -/
def nameLimit : Nat := 255

/-- A text taken apart; slashes in a row are one. -/
def ofText (text : String) : Path where
  absolute := text.toList.head? == some '/'
  parts := ((text.toList.splitOnP (· == '/')).filter fun part => part ≠ []).map String.ofList
  slashed := text.toList.getLast? == some '/'

end Path

end QueryBuilder.CommandLine

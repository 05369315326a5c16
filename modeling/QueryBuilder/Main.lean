/-
**The program.**

Reads and writes files and prints what a run asks for.
-/

import QueryBuilder.CommandLine.Directory

set_option autoImplicit false

namespace QueryBuilder.CommandLine

/-- The number of a failed access to a file.  Some accesses tell it with its sign turned. -/
def errorNumber : IO.Error → Option Nat
  | .noFileOrDirectory _ n _ | .inappropriateType _ n _ | .invalidArgument _ n _
  | .permissionDenied _ n _ | .noSuchThing _ n _ | .resourceExhausted _ n _
  | .hardwareFault n _ | .unsupportedOperation n _ | .otherError n _ =>
    some (if n.toNat < 0x80000000 then n.toNat else (0 - n).toNat)
  | _ => none

/-- The reason of a failed access to a file, in words. -/
def fileReason (e : IO.Error) : String :=
  match errorNumber e with
  | some 2 => Obstacle.notFound.message
  | some 6 => Obstacle.noDevice.message
  | some 13 => Obstacle.permissionDenied.message
  | some 20 => Obstacle.notDirectory.message
  | some 21 => Obstacle.isDirectory.message
  | some 28 => Obstacle.noSpace.message
  | some 36 => Obstacle.nameTooLong.message
  | _ => toString e

/-- The text of a file. -/
def readText (path : String) : IO (Except String String) := do
  try
    let bytes ← IO.FS.readBinFile path
    match String.fromUTF8? bytes with
    | some text => return .ok text
    | none => return .error Obstacle.notText.message
  catch e => return .error (fileReason e)

/-- Writes a file to its end, so that a lack of room shows. -/
def writeText (path text : String) : IO Unit := do
  let file ← IO.FS.Handle.mk path .write
  file.putStr text
  file.flush

/-- What is wrong with a text that cannot be loaded, in plain words. -/
def plainWords {β ε : Type} (load : String → Except (Json.LoadError ε) β) : Json.Wording :=
  fun text =>
    match load text with
    | .error .notJson => "malformed JSON"
    | _ => "unexpected shape of the JSON value"

/-- The words of the readers. -/
def plainWordings : Wordings where
  graph := plainWords Graph.loadText
  layout := plainWords (Json.loadText Settings.overridesOfDraft Settings.override)

/-- Reads the files that the arguments name, so that the run itself finds them at hand. -/
def readFiles (arguments : List String) : IO FileReader := do
  match parse arguments with
  | .ok (.run options) =>
    let paths := options.input :: options.layout.toList
    let texts ← paths.mapM fun path => do return (path, ← readText path)
    return fun path => (texts.lookup path).getD (.error Obstacle.notFound.message)
  | _ => return fun _ => .error Obstacle.notFound.message

end QueryBuilder.CommandLine

open QueryBuilder QueryBuilder.CommandLine

/-- Reads files, runs, writes and prints. -/
def main (arguments : List String) : IO UInt32 := do
  let ending := CommandLine.run plainWordings (← readFiles arguments) arguments
  let ending ←
    match ending with
    | .toWrite path text =>
      try
        writeText path text
        pure ending
      catch e => pure (.failed (.unwritable path (fileReason e)))
    | _ => pure ending
  IO.print ending.stdout
  IO.eprint ending.stderr
  return ending.code.toUInt32

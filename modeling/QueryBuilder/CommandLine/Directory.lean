/-
**Runs in a directory.**

A working directory that holds files and no directories, in a system that is a parameter.  A path is
followed part by part, and what a run wrote shows in a report.

Main definitions:

* `QueryBuilder.CommandLine.Directory` — the files by name, and the system around them;
* `QueryBuilder.CommandLine.Directory.locate` — where a path leads;
* `QueryBuilder.CommandLine.Directory.read`, `QueryBuilder.CommandLine.Directory.write` — access by
  path;
* `QueryBuilder.CommandLine.Report`, `QueryBuilder.CommandLine.Directory.run` — a run of the program
  and what is seen of it.
-/

import QueryBuilder.CommandLine.Program
import QueryBuilder.CommandLine.System

set_option autoImplicit false

namespace QueryBuilder.CommandLine

/-! ### Reports -/

/-- What is seen of a run. -/
structure Report where
  ending : Ending
  stdout : String
  stderr : String
  /-- The file of the working directory that was written, with its text. -/
  written : Option (String × String)
  deriving DecidableEq, Repr

/-- The report of a run that writes nothing. -/
def Report.ofEnding (ending : Ending) : Report :=
  ⟨ending, ending.stdout, ending.stderr, none⟩

/-- The report of a run that writes a text. -/
def Report.ofWriting (path text : String) : Sink → Report
  | .file name => { Report.ofEnding (.toWrite path text) with written := some (name, text) }
  | .away => .ofEnding (.toWrite path text)
  | .output => { Report.ofEnding (.toWrite path text) with stdout := text }
  | .errors => { Report.ofEnding (.toWrite path text) with stderr := text }

/-! ### Access by path -/

/-- A working directory. -/
structure Directory where
  /-- The texts of its files, by name. -/
  files : List (String × String)
  system : System

namespace Directory

/-- What a name stands for in a place. -/
def entry? (d : Directory) (name : String) : Place → Option Entry
  | .working => (d.files.lookup name).map fun text => .file (.ok text) (.ok (.file name))
  | .system names => d.system.entry? (names ++ [name])

/-- Where a text goes that is written to a new file of a place. -/
def create (d : Directory) (name : String) : Place → Except Obstacle Sink
  | .working => .ok (.file name)
  | .system names => d.system.create (names ++ [name])

/-- One look at a name, which has a limited length. -/
def look (d : Directory) (place : Place) (name : String) : Except Obstacle (Option Entry) :=
  if name.utf8ByteSize ≤ Path.nameLimit then .ok (d.entry? name place) else .error .nameTooLong

/-- The place behind one part of a path. -/
def enter (d : Directory) (place : Place) : String → Except Obstacle Place
  | "." => .ok place
  | ".." => .ok (d.system.parent place)
  | name => do
    match ← d.look place name with
    | some (.directory inner) => .ok inner
    | some _ => .error .notDirectory
    | none => .error .notFound

/-- Where a path leads. -/
inductive Target where
  /-- A directory, named by dots or slashes alone. -/
  | directory
  /-- A name in a place, and whether it has to be a directory. -/
  | named (place : Place) (name : String) (slashed : Bool)
  deriving DecidableEq, Repr

/-- Where a path leads: all its parts but the last are entered. -/
def locate (d : Directory) (text : String) : Except Obstacle Target := do
  if Path.sizeLimit ≤ text.utf8ByteSize then throw .nameTooLong
  let path := Path.ofText text
  match path.parts.getLast? with
  | none => if path.absolute then return .directory else throw .notFound
  | some name =>
    let place ← path.parts.dropLast.foldlM d.enter (if path.absolute then .root else .working)
    return if name = "." ∨ name = ".." then .directory else .named place name path.slashed

/-- The text of the file at a target. -/
def readTarget (d : Directory) : Target → Except Obstacle String
  | .directory => .error .isDirectory
  | .named place name slashed => do
    match ← d.look place name with
    | some (.directory _) => .error .isDirectory
    | some (.file text _) => if slashed then .error .notDirectory else text
    | none => .error .notFound

/-- Where a text goes that is written to a target.  Where a directory is asked for no file is
created, whatever stands there. -/
def sinkAt (d : Directory) : Target → Except Obstacle Sink
  | .directory | .named _ _ true => .error .isDirectory
  | .named place name false => do
    match ← d.look place name with
    | some (.directory _) => .error .isDirectory
    | some (.file _ sink) => sink
    | none => d.create name place

/-- The text of the file at a path. -/
def read (d : Directory) : FileReader := fun path =>
  (d.locate path >>= d.readTarget).mapError Obstacle.message

/-- The report of a run once its text is written. -/
def write (d : Directory) : Ending → Report
  | .toWrite path text =>
    match d.locate path >>= d.sinkAt with
    | .ok sink => .ofWriting path text sink
    | .error obstacle => .ofEnding (.failed (.unwritable path obstacle.message))
  | ending => .ofEnding ending

/-- A run of the program. -/
def run (d : Directory) (wordings : Wordings) (arguments : List String) : Report :=
  d.write (CommandLine.run wordings d.read arguments)

end Directory

end QueryBuilder.CommandLine

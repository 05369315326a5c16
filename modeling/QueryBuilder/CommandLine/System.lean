/-
**The system around the working directory.**

A run may use paths that lead out of its working directory.  What stands there is not known: the
system is a parameter.  It tells what stands at a path and where a text goes that is written to a
new file, and it is asked name by name, so that links and devices are entries like others.

Main definitions:

* `QueryBuilder.CommandLine.Place` — directories;
* `QueryBuilder.CommandLine.Sink` — where a text goes that is written;
* `QueryBuilder.CommandLine.Entry` — what a name stands for;
* `QueryBuilder.CommandLine.System` — what lies outside the working directory.
-/

import QueryBuilder.CommandLine.Path

set_option autoImplicit false

namespace QueryBuilder.CommandLine

/-- A directory. -/
inductive Place where
  /-- The working directory. -/
  | working
  /-- A directory of the system, by the names from the root to it. -/
  | system (names : List String)
  deriving DecidableEq, Repr

/-- The directory at the top. -/
def Place.root : Place := system []

/-- Where a text goes that is written. -/
inductive Sink where
  /-- A file of the working directory. -/
  | file (name : String)
  /-- Out of sight. -/
  | away
  /-- What the program prints. -/
  | output
  /-- What the program prints about errors. -/
  | errors
  deriving DecidableEq, Repr

/-- What a name stands for in a directory. -/
inductive Entry where
  | directory (place : Place)
  /-- Something else: its text, and where a text goes that is written to it. -/
  | file (text : Except Obstacle String) (sink : Except Obstacle Sink)

/-- What lies outside the working directory. -/
structure System where
  /-- The directory in which the working directory stands, by the names from the root to it. -/
  above : List String
  /-- What stands at the names from the root to it. -/
  entry? : List String → Option Entry
  /-- Where a text goes that is written to a new file, by the names from the root to it. -/
  create : List String → Except Obstacle Sink

/-- The directory above; the root is its own. -/
def System.parent (s : System) : Place → Place
  | .working => .system s.above
  | .system names => .system names.dropLast

end QueryBuilder.CommandLine

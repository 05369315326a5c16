/-
**What the command line does.**

A run reads a saved graph and prints its query, the whole request, or the overview, or writes it to
a file.  How files are read is a parameter, and so are the words of the readers for texts that are
no graphs or settings.  A file that is to be written is part of the result, so that a run is a
function.

Main definitions:

* `QueryBuilder.CommandLine.Failure` — why a run has no result;
* `QueryBuilder.CommandLine.Wordings` — the words of the readers;
* `QueryBuilder.CommandLine.render` — the text of the result;
* `QueryBuilder.CommandLine.Ending`, `QueryBuilder.CommandLine.run` — how a run ends.
-/

import QueryBuilder.Canvas.Overview
import QueryBuilder.CommandLine.Arguments
import QueryBuilder.Graph.Query
import QueryBuilder.Graph.Saved
import QueryBuilder.Json.Notice

set_option autoImplicit false

namespace QueryBuilder.CommandLine

/-! ### Failures -/

/-- Why a run has no result.  What the reader says of a text goes with the fault of the text. -/
inductive Failure where
  | unreadable (path reason : String)
  | graph (error : Json.LoadError GraphError) (words : String)
  | layout (error : Json.LoadError (SettingsError Float)) (words : String)
  | notReady (reason : GraphError)
  | unwritable (path reason : String)
  deriving DecidableEq, Repr

/-- Why nothing was loaded: in the words of the reader, or of the refusal. -/
def describe {ε : Type} (reason : ε → String) (words : String) : Json.LoadError ε → String
  | .notJson | .wrongShape => words
  | .refused e => Json.shownWords (reason e)

namespace Failure

/-- What a message starts with if the graph cannot be loaded. -/
def graphLead : String := "Invalid graph: "

/-- What a message starts with if the settings cannot be loaded. -/
def layoutLead : String := "Invalid layout config: "

/-- The text that is shown. -/
def message : Failure → String
  | unreadable path reason => "Failed to read " ++ path ++ ": " ++ reason
  | graph e words => graphLead ++ describe GraphError.message words e
  | layout e words => layoutLead ++ describe SettingsError.message words e
  | notReady reason => reason.message
  | unwritable path reason => "Failed to write " ++ path ++ ": " ++ reason

end Failure

/-! ### Results -/

/-- Reads a file, or says why it cannot. -/
abbrev FileReader := String → Except String String

/-- The words of the readers of graphs and of settings. -/
structure Wordings where
  graph : Json.Wording
  layout : Json.Wording

/-- The text of a file. -/
def readFile (read : FileReader) (path : String) : Except Failure String :=
  (read path).mapError (.unreadable path)

/-- The settings of a file, or the standard ones. -/
def settings (wordings : Wordings) (read : FileReader) :
    Option String → Except Failure (Settings Float)
  | none => .ok .standard
  | some path => do
    let text ← readFile read path
    (Json.loadText Settings.overridesOfDraft Settings.override text).mapError fun e =>
      .layout e (wordings.layout text)

/-- The result that the options ask for. -/
def result (wordings : Wordings) (read : FileReader) (options : Options) :
    Except Failure Json := do
  let text ← readFile read options.input
  let graph ← (Graph.loadText text).mapError fun e => .graph e (wordings.graph text)
  if options.minimap then
    let settings ← settings wordings read options.layout
    return ((View.ofSettings settings).overview graph.tables).toJson
  else if options.dataset then
    let request ← graph.executionRequest.mapError .notReady
    return request.toJson
  else
    match graph.query? with
    | some query => return query.toJson
    | none => throw (.notReady .noTables)

/-- The text of the result. -/
def render (wordings : Wordings) (read : FileReader) (options : Options) :
    Except Failure String :=
  (result wordings read options).map Json.pretty

/-! ### Runs -/

/-- The text that tells the version. -/
def versionText : String := "querycanvas 0.1.0\n"

/-- The text that explains the arguments. -/
def helpText : String :=
  "Compile a saved query graph into a structured query request\n\n" ++
  "Usage: querycanvas [OPTIONS] <INPUT>\n\n" ++
  "Arguments:\n" ++
  "  <INPUT>  Graph snapshot (JSON)\n\n" ++
  "Options:\n" ++
  "  -o, --output <OUTPUT>  Output file (default: stdout)\n" ++
  "      --dataset          Emit the full execution request instead of the bare query\n" ++
  "      --layout <JSON>    Layout overrides for the minimap projection (JSON file)\n" ++
  "      --minimap          Emit the minimap projection\n" ++
  "  -h, --help             Print help\n" ++
  "  -V, --version          Print version\n"

/-- How a run ends. -/
inductive Ending where
  /-- A text is printed. -/
  | printed (text : String)
  /-- A file is to be written. -/
  | toWrite (path text : String)
  | failed (failure : Failure)
  | misused (error : UsageError)
  deriving DecidableEq, Repr

namespace Ending

/-- The exit code. -/
def code : Ending → Nat
  | printed _ | toWrite _ _ => 0
  | failed _ => 1
  | misused _ => 2

/-- What is printed. -/
def stdout : Ending → String
  | printed text => text
  | _ => ""

/-- What is printed about errors. -/
def stderr : Ending → String
  | failed failure => failure.message ++ "\n"
  | misused error => error.message
  | _ => ""

/-- The file that is to be written. -/
def file? : Ending → Option (String × String)
  | toWrite path text => some (path, text)
  | _ => none

end Ending

/-- A run with options. -/
def runOptions (wordings : Wordings) (read : FileReader) (options : Options) : Ending :=
  match render wordings read options with
  | .error failure => .failed failure
  | .ok text =>
    match options.output with
    | some path => .toWrite path text
    | none => .printed (text ++ "\n")

/-- A run. -/
def run (wordings : Wordings) (read : FileReader) (arguments : List String) : Ending :=
  match parse arguments with
  | .error e => .misused e
  | .ok .version => .printed versionText
  | .ok .help => .printed helpText
  | .ok (.run options) => runOptions wordings read options

end QueryBuilder.CommandLine

/-
**Arguments of the command line.**

Arguments are taken from left to right, and each is checked when it is met; asking for the version
or for help ends the reading.  What has to hold of all arguments together is checked at the end.

Main definitions:

* `QueryBuilder.CommandLine.Options` — what was asked for;
* `QueryBuilder.CommandLine.UsageError` — arguments that cannot be understood;
* `QueryBuilder.CommandLine.Request` — a run with options, or one of the two texts;
* `QueryBuilder.CommandLine.parse` — reading.
-/

set_option autoImplicit false

namespace QueryBuilder.CommandLine

/-- What a run is asked to do. -/
structure Options where
  /-- The file of the graph. -/
  input : String
  /-- The file for the result, if it is not printed. -/
  output : Option String
  /-- Whether the whole request is wanted and not only the query. -/
  dataset : Bool
  /-- The file with settings for the overview. -/
  layout : Option String
  /-- Whether the overview is wanted. -/
  minimap : Bool
  deriving DecidableEq, Repr

/-- Arguments that cannot be understood. -/
inductive UsageError where
  | unexpected (argument : String)
  | unexpectedValue (name : String)
  | missingValue (name : String)
  | repeated (name : String)
  | missingInput
  | conflict (first second : String)
  | missingCompanion (name : String)
  deriving DecidableEq, Repr

namespace UsageError

/-- The cause in words. -/
def cause : UsageError → String
  | unexpected argument => "unexpected argument '" ++ argument ++ "' found"
  | unexpectedValue name => "unexpected value for '" ++ name ++ "' found"
  | missingValue name => "a value is required for '" ++ name ++ "' but none was supplied"
  | repeated name => "the argument '" ++ name ++ "' cannot be used multiple times"
  | missingInput => "the argument '<INPUT>' was not provided"
  | conflict first second =>
    "the argument '" ++ first ++ "' cannot be used with '" ++ second ++ "'"
  | missingCompanion name => "the argument '" ++ name ++ "' was not provided"

/-- The text that is shown. -/
def message (e : UsageError) : String :=
  "error: " ++ e.cause ++ "\n\nUsage: querycanvas [OPTIONS] <INPUT>\n\n" ++
    "For more information, try '--help'.\n"

end UsageError

/-- What the arguments ask for. -/
inductive Request where
  | run (options : Options)
  | version
  | help
  deriving DecidableEq, Repr

/-- The arguments met so far. -/
structure Seen where
  input : Option String
  output : Option String
  dataset : Bool
  layout : Option String
  minimap : Bool
  deriving DecidableEq, Repr

namespace Seen

/-- No arguments so far. -/
def none : Seen := ⟨.none, .none, false, .none, false⟩

/-- The input file. -/
def setInput (s : Seen) (path : String) : Except UsageError Seen :=
  if s.input.isSome then .error (.unexpected path)
  else if path.isEmpty then .error (.missingValue "<INPUT>")
  else .ok { s with input := some path }

/-- The output file. -/
def setOutput (s : Seen) (path : String) : Except UsageError Seen :=
  if path.isEmpty then .error (.missingValue "--output <OUTPUT>")
  else if s.output.isSome then .error (.repeated "--output <OUTPUT>")
  else .ok { s with output := some path }

/-- The file with settings. -/
def setLayout (s : Seen) (path : String) : Except UsageError Seen :=
  if path.isEmpty then .error (.missingValue "--layout <JSON>")
  else if s.layout.isSome then .error (.repeated "--layout <JSON>")
  else .ok { s with layout := some path }

/-- The whole request. -/
def setDataset (s : Seen) : Except UsageError Seen :=
  if s.dataset then .error (.repeated "--dataset") else .ok { s with dataset := true }

/-- The overview. -/
def setMinimap (s : Seen) : Except UsageError Seen :=
  if s.minimap then .error (.repeated "--minimap") else .ok { s with minimap := true }

/-- What has to hold of all arguments together.  Settings are for the overview, but next to the
whole request, which excludes the overview, they are let pass. -/
def finish (s : Seen) : Except UsageError Options :=
  if s.dataset && s.minimap then .error (.conflict "--minimap" "--dataset")
  else if s.layout.isSome && !s.minimap && !s.dataset then .error (.missingCompanion "--minimap")
  else
    match s.input with
    | .none => .error .missingInput
    | some input => .ok ⟨input, s.output, s.dataset, s.layout, s.minimap⟩

end Seen

/-- Whether an argument stands for itself: it does not start with a dash, or is only a dash. -/
def isPlain (argument : String) : Bool :=
  argument = "-" || !"-".toList.isPrefixOf argument.toList

/-- The name of an option and the value behind its equals sign. -/
def splitValue (option : List Char) : String × Option String :=
  match option.dropWhile (· != '=') with
  | [] => (String.ofList option, none)
  | _ :: value => (String.ofList (option.takeWhile (· != '=')), some (String.ofList value))

/-- The value behind the letter of an option; an equals sign before it does not count. -/
def attachedValue : List Char → String
  | '=' :: value => String.ofList value
  | value => String.ofList value

/-- Only input files are left. -/
def parseInputs (s : Seen) : List String → Except UsageError Seen
  | [] => .ok s
  | path :: rest => do parseInputs (← s.setInput path) rest

/-- Options that have a value. -/
inductive Valued where
  | output | layout
  deriving DecidableEq, Repr

/-- The name of an option in messages. -/
def Valued.name : Valued → String
  | output => "--output <OUTPUT>"
  | layout => "--layout <JSON>"

/-- Sets an option that has a value. -/
def Seen.setValued (s : Seen) : Valued → String → Except UsageError Seen
  | .output, path => s.setOutput path
  | .layout, path => s.setLayout path

/-- What one argument says. -/
inductive Argument where
  /-- Everything behind it stands for itself. -/
  | separator
  | input (path : String)
  | dataset
  | minimap
  | version
  | help
  | valued (option : Valued) (value : Option String)
  deriving DecidableEq, Repr

/-- An option that is written out, with its dashes removed. -/
def classifyLong (argument : String) (option : List Char) : Except UsageError Argument :=
  match splitValue option with
  | ("output", value) => .ok (.valued .output value)
  | ("layout", value) => .ok (.valued .layout value)
  | ("dataset", none) => .ok .dataset
  | ("minimap", none) => .ok .minimap
  | ("version", none) => .ok .version
  | ("help", none) => .ok .help
  | (name, some _) =>
    if ["dataset", "minimap", "version", "help"].contains name then
      .error (.unexpectedValue ("--" ++ name))
    else
      .error (.unexpected argument)
  | (_, none) => .error (.unexpected argument)

/-- What an argument says. -/
def classify (argument : String) : Except UsageError Argument :=
  match argument.toList with
  | ['-'] => .ok (.input argument)
  | ['-', '-'] => .ok .separator
  | '-' :: '-' :: option => classifyLong argument option
  | '-' :: 'o' :: value =>
    .ok (.valued .output (if value.isEmpty then none else some (attachedValue value)))
  | '-' :: 'V' :: _ => .ok .version
  | '-' :: 'h' :: _ => .ok .help
  | '-' :: _ => .error (.unexpected argument)
  | _ => .ok (.input argument)

/-- Takes the arguments one by one. -/
def parseFrom (s : Seen) : List String → Except UsageError Request
  | [] => do return .run (← s.finish)
  | argument :: rest => do
    match ← classify argument with
    | .separator => do return .run (← (← parseInputs s rest).finish)
    | .input path => do parseFrom (← s.setInput path) rest
    | .dataset => do parseFrom (← s.setDataset) rest
    | .minimap => do parseFrom (← s.setMinimap) rest
    | .version => .ok .version
    | .help => .ok .help
    | .valued option (some value) => do parseFrom (← s.setValued option value) rest
    | .valued option none =>
      match rest with
      | [] => .error (.missingValue option.name)
      | value :: rest =>
        if isPlain value then do parseFrom (← s.setValued option value) rest
        else .error (.missingValue option.name)

/-- What the arguments ask for. -/
def parse (arguments : List String) : Except UsageError Request :=
  parseFrom .none arguments

end QueryBuilder.CommandLine

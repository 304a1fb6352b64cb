import SketchSurvey.CommandLine.Reader
import SketchSurvey.Settings.Config
import SketchSurvey.Settings.Validation

/-!
What a command line asks for.
-/

set_option autoImplicit false

namespace SketchSurvey.CommandLine

open SketchSurvey.Json

inductive Command where
  | scan (path : String)
  | classify (paths : List String)
  | freeVars (path : String) (excludeGlobals : Bool)
  | members (path : String) (namespaceName : Given String)
  | check (path : String)
  | listing (path : String)
  deriving BEq, Repr

def Command.spec : Command → CommandSpec
  | scan _ => Spec.scan
  | classify _ => Spec.classify
  | freeVars .. => Spec.freeVars
  | members .. => Spec.members
  | check _ => Spec.check
  | listing _ => Spec.listing

def Command.name (c : Command) : String := c.spec.name

/-- The paths that a command is about. -/
def Command.paths : Command → List String
  | classify paths => paths
  | scan path | freeVars path _ | members path _ | check path | listing path => [path]

/-- What is asked for, whatever the command. -/
structure Options where
  config : Given String := .absent
  useDefaults : Bool := false
  dumpConfig : Bool := false
  debug : Bool := false
  logFile : Given String := .absent
  sketchFunctions : Given String := .absent
  maxFileBytes : Given Int := .absent
  json : Bool := false
  deriving BEq, Repr

structure Arguments where
  options : Options := {}
  command : Option Command := none
  deriving BEq, Repr

/-- Takes a setting into the options; the last one counts. -/
def Options.set (o : Options) : Setting → Options
  | .flag s =>
    if s == Spec.useDefaults then { o with useDefaults := true }
    else if s == Spec.dumpConfig then { o with dumpConfig := true }
    else if s == Spec.debug then { o with debug := true }
    else if s == Spec.json then { o with json := true }
    else o
  | .text s v =>
    if s == Spec.config then { o with config := v }
    else if s == Spec.logFile then { o with logFile := v }
    else if s == Spec.sketchFunctions then { o with sketchFunctions := v }
    else o
  | .number _ v => { o with maxFileBytes := v }

/-- A command as it was called. -/
def commandOf (s : CommandSpec) (l : Level (List String)) : Option Command :=
  let paths := l.positional.getD []
  let path := paths.headD ""
  if s == Spec.scan then some (.scan path)
  else if s == Spec.classify then some (.classify paths)
  else if s == Spec.freeVars then
    some (.freeVars path (l.settings.contains (.flag Spec.excludeGlobals)))
  else if s == Spec.members then
    some (.members path (l.settings.foldl (fun v st => match st with
      | .text _ w => w
      | _ => v) .absent))
  else if s == Spec.check then some (.check path)
  else if s == Spec.listing then some (.listing path)
  else none

/-- Reads the name of a command and its arguments; those that nothing was made of are the second part of
the result. -/
def readCommand (args : List String) : Except Stop (Option Command × List String) :=
  let name := args.headD ""
  match Spec.commands.find? (·.name == name) with
  | some s => do
    let l ← s.readAll pure args.tail
    return (commandOf s l, l.extras)
  | none => .error (Spec.program.stop ("argument " ++ Spec.program.positional.name ++
      ": invalid choice: " ++ Text.quoted name ++ " (choose from " ++
      ", ".intercalate (Spec.commands.map fun c => Text.quoted c.name) ++ ")"))

/-- Reads a command line. -/
def Arguments.read (args : List String) : Except Stop Arguments := do
  let l ← Spec.program.readAll readCommand args
  let (command, more) := l.positional.getD (none, [])
  let extras := l.extras ++ more
  if extras.isEmpty then return { options := l.settings.foldl Options.set {}, command }
  else throw (Spec.program.stop ("unrecognized arguments: " ++ " ".intercalate extras))

/-- The text that was given, unless it is empty. -/
def Given.text? : Given String → Option String
  | .value s => if s.isEmpty then none else some s
  | _ => none

/-- What the command line says of the configuration. -/
def Arguments.overrides (a : Arguments) : Settings.Given :=
  let debug := if a.options.debug then [("log_level", Value.string "DEBUG")] else []
  let logFile := a.options.logFile.text?.toList.map fun s => ("log_file", Value.string s)
  let functions := a.options.sketchFunctions.text?.toList.map fun s =>
    ("sketch_functions", Value.ofStrings (Settings.splitCommas s))
  let size := match a.options.maxFileBytes with
    | .absent => []
    | .emptied => [("max_file_bytes", Value.array [])]
    | .value n => [("max_file_bytes", Value.int n)]
  let namespaceName := match a.command with
    | some (.members _ n) => n.text?.toList.map fun s => ("namespace", Value.string s)
    | _ => []
  debug ++ logFile ++ functions ++ size ++ namespaceName

end SketchSurvey.CommandLine

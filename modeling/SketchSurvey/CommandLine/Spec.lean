/-!
What the command line understands: the options and the commands.
-/

set_option autoImplicit false

namespace SketchSurvey.CommandLine

/-- What follows an option. -/
inductive Arity where
  /-- Nothing; the option asks for help. -/
  | help
  | flag
  | text (metavar : String)
  | number (metavar : String)
  deriving BEq, Repr, DecidableEq

namespace Arity

def metavar? : Arity → Option String
  | help | flag => none
  | text m | number m => some m

end Arity

structure OptionSpec where
  /-- The ways to write the option, the first one in usage lines. -/
  names : List String
  arity : Arity
  help : String
  deriving BEq, Repr, DecidableEq

/-- The arguments that are no options. -/
inductive Positional where
  | one (name help : String)
  | many (name help : String)
  /-- The name of a command, and all that follows it. -/
  | command (name : String)
  deriving BEq, Repr, DecidableEq

def Positional.name : Positional → String
  | one n _ | many n _ | command n => n

/-- A command, or the program as a whole. -/
structure CommandSpec where
  name : String
  /-- What a list of commands says of it. -/
  help : String := ""
  description : String := ""
  options : List OptionSpec
  positional : Positional
  deriving BEq, Repr, DecidableEq

namespace Spec

def help : OptionSpec where
  names := ["-h", "--help"]
  arity := .help
  help := "show this help message and exit"

def config : OptionSpec where
  names := ["--config"]
  arity := .text "CONFIG_PATH"
  help := "Read configuration from this JSON file instead of the user data directory."

def useDefaults : OptionSpec where
  names := ["--use-defaults"]
  arity := .flag
  help := "Ignore any configuration file and use the built-in defaults."

def dumpConfig : OptionSpec where
  names := ["--dump-config"]
  arity := .flag
  help := "Print the effective configuration as JSON and exit."

def debug : OptionSpec where
  names := ["--debug"]
  arity := .flag
  help := "Elevate logging verbosity to DEBUG."

def logFile : OptionSpec where
  names := ["--log-file"]
  arity := .text "LOG_FILE"
  help := "Also write diagnostics to this rotating log file."

def sketchFunctions : OptionSpec where
  names := ["--sketch-functions"]
  arity := .text "SKETCH_FUNCTIONS"
  help := "Comma-separated entry-point names that mark a sketch script."

def maxFileBytes : OptionSpec where
  names := ["--max-file-bytes"]
  arity := .number "MAX_FILE_BYTES"
  help := "Skip files larger than this many bytes (0 for no limit)."

def json : OptionSpec where
  names := ["--json"]
  arity := .flag
  help := "Emit machine-readable JSON instead of text."

def excludeGlobals : OptionSpec where
  names := ["--exclude-globals"]
  arity := .flag
  help := "Also drop names bound by top-level var/let/const declarations."

def namespaceName : OptionSpec where
  names := ["--namespace"]
  arity := .text "NAMESPACE"
  help := "Identifier whose members are collected (default from configuration)."

def program : CommandSpec where
  name := "p5analysis"
  description := "Detect p5.js sketches and analyze their scripts."
  options := [help, config, useDefaults, dumpConfig, debug, logFile, sketchFunctions, maxFileBytes,
    json]
  positional := .command "COMMAND"

def scan : CommandSpec where
  name := "scan"
  help := "List the sketch projects in a directory."
  options := [help]
  positional := .one "path" "Directory to scan."

def classify : CommandSpec where
  name := "classify"
  help := "Tell whether files are sketch scripts or pages."
  options := [help]
  positional := .many "paths" "Files to classify."

def freeVars : CommandSpec where
  name := "free-vars"
  help := "List names a script's functions use but do not define."
  options := [help, excludeGlobals]
  positional := .one "path" "Script to analyze."

def members : CommandSpec where
  name := "members"
  help := "List the namespace members a script accesses."
  options := [help, namespaceName]
  positional := .one "path" "Script to analyze."

def check : CommandSpec where
  name := "check"
  help := "Report a script's syntax error, if any."
  options := [help]
  positional := .one "path" "Script to check."

def listing : CommandSpec where
  name := "listing"
  help := "Show the directory index data for a directory."
  options := [help]
  positional := .one "path" "Directory to list."

def commands : List CommandSpec := [scan, classify, freeVars, members, check, listing]

end Spec

end SketchSurvey.CommandLine

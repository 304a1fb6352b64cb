import SketchSurvey.CommandLine.Perform
import SketchSurvey.Log.Session
import SketchSurvey.Settings.Load

/-!
A run of the program: the command line is read, the configuration loaded and checked, logging set up, and
the command carried out.

The exit code is 0 for success, 1 for a failure, and 2 for a wrong call or a path that is missing.
-/

set_option autoImplicit false

namespace SketchSurvey.CommandLine

open SketchSurvey.Files SketchSurvey.Log SketchSurvey.Settings

def runLogger : String := "p5analysis.interface.cli.app"

/-- The logger of failures that nothing else has handled. -/
def lastLogger : String := "p5analysis.supervisor"

/-- A failure as a trace names it. -/
def traceOf (kind message : String) : String :=
  "Traceback (most recent call last):\n" ++ kind ++ ": " ++ message

def logAt (s : Session) (level : Int) (message : String) : Session :=
  s.log { level, logger := runLogger, message }

def sayError (s : Session) (message : String) : Session :=
  s.say .error ("ERROR: " ++ message ++ "\n")

/-- How a run ended. -/
structure Ending where
  code : Nat
  session : Session

/-- Ends a run in which even the settings failed. -/
def fatal (s : Session) (kind message : String) : Ending :=
  let trace := traceOf kind message ++ "\n"
  let rule := "".pushn '=' 80 ++ "\n"
  let s := s.log {
    level := Level.critical
    logger := lastLogger
    message := "FATAL EXCEPTION DETECTED: " ++ message ++ "\n" ++ trace }
  { code := 1
    session := s.say .error ("\n" ++ rule ++ "CRITICAL ERROR (P5ANALYSIS CLI)\n" ++ rule ++ trace ++ "\n") }

/-- The kind of a problem with the configuration. -/
def settingsKind : Settings.Problem → String
  | .refused issue => if issue.isOfKind then "TypeError" else "ValueError"
  | .notANumber _ | .tooManyDigits _ | .longNumber | .patternFlags | .nullInUser => "ValueError"
  | .patternRepeatOverflow | .patternCodeOverflow => "OverflowError"
  | .patternTooDeep => "RecursionError"
  | .unencodableUser _ => "UnicodeEncodeError"

/-- Reports that a command failed. -/
def reportFailure (s : Session) (c : Command) : Failure → Session
  | .problem (.script e) => sayError (logAt s Level.debug ("Parse failed: " ++ e.describe)) e.describe
  | .problem (.read (.tooLarge path size limit)) =>
    let message := (ReadProblem.tooLarge path size limit).message
    sayError (logAt s Level.error message) message
  | p =>
    sayError (logAt s Level.critical ("Command '" ++ c.name ++ "' failed: " ++ p.message ++ "\n" ++
      traceOf p.kindName p.message)) p.message

variable [Host]

/-- Carries out a command whose paths are all there. -/
def runCommand (s : Session) (json : Bool) (settings : AnalysisSettings) (c : Command) : Ending :=
  match c.paths.find? fun path => !s.files.pathExists path with
  | some path =>
    let message := "Path does not exist: " ++ path
    { code := 2, session := sayError (logAt s Level.error message) message }
  | none =>
    let done := c.perform s.files json settings
    let s := (s.logAll done.log).say .output done.output
    match done.result with
    | .ok code => { code, session := s }
    | .error p => { code := 1, session := reportFailure s c p }

/-- The configuration of a run, before it is checked. -/
def givenConfig (homes : Path.Homes) (fs : FileSystem) (a : Arguments) : Loaded :=
  let loaded := if a.options.useDefaults then { given := Config.standard.members, log := [] }
    else load fs (a.options.config.text?.getD (userFile homes))
  { loaded with given := Given.over loaded.given a.overrides }

/-- The part of a run for which logging is set up. -/
def runChecked (s : Session) (a : Arguments) (v : Validated) : Ending :=
  let s := logAt s Level.debug "CLI execution initiated."
  let s := v.warnings.foldl
    (fun s w => logAt s Level.warning ("Configuration Constraint: " ++ w.message)) s
  if a.options.dumpConfig then
    match Host.unprintable? (printValue v.config.toValue) with
    | none => { code := 0, session := s.say .output (printValue v.config.toValue) }
    | some reason => fatal s (Failure.unprintable reason).kindName reason
  else
    match a.command with
    | none => { code := 2, session := s.say .error Spec.program.usage }
    | some c => runCommand s a.options.json (AnalysisSettings.ofConfig v.config) c

/-- The part of a run that comes after the command line is read. -/
def runArguments (homes : Path.Homes) (s : Session) (a : Arguments) : Ending :=
  let loaded := givenConfig homes s.files a
  let s := s.logAll loaded.log
  match validate homes (.object loaded.given) false with
  | .error p => fatal s (settingsKind p) p.message
  | .ok v =>
    match s.configure (Setup.ofTexts v.config.logLevel v.config.logFile true) with
    | (s, .error p) => fatal s "ValueError" p.message
    | (s, .ok ()) => runChecked s a v

/-- Runs the program. What is still to be logged is written before the end. -/
def run (homes : Path.Homes) (s : Session) (args : List String) : Ending :=
  match Arguments.read args with
  | .error stop =>
    { code := stop.code, session := (s.say .output stop.output).say .error stop.error }
  | .ok a =>
    let ending := runArguments homes s a
    { ending with session := ending.session.shutdown }

end SketchSurvey.CommandLine

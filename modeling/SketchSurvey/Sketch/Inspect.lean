import SketchSurvey.Log.Logged
import SketchSurvey.Sketch.Problem
import SketchSurvey.Sketch.Report

/-!
Looking into single files: reading scripts, reporting what is wrong with them, and telling whether a file
is the script or the page of a sketch.
-/

set_option autoImplicit false

namespace SketchSurvey.Sketch

open SketchSurvey.Files SketchSurvey.Log SketchSurvey.Script SketchSurvey.Settings

def scriptLogger : String := "p5analysis.core.analysis.parser"

def classifyLogger : String := "p5analysis.core.services.classifier"

def checkLogger : String := "p5analysis.core.services.diagnostics"

/-- The record of a text that is no script. -/
def syntaxRecord (e : SyntaxError) : Record where
  level := Level.debug
  logger := scriptLogger
  message := "Syntax error in " ++ e.fileName ++ ": " ++ e.message

def readText (fs : FileSystem) (path : String) (limit : Int) : Logged Problem String :=
  .ofExcept ((fs.readText path limit).mapError .read)

/-- What is logged of a text as it is parsed. -/
def parseLog : Except ParseProblem Program → List Record
  | .error (.notScript e) => [syntaxRecord e]
  | _ => []

/-- The problem with a script that gave no program. -/
def Problem.ofParse : ParseProblem → Problem
  | .notScript e => .script e
  | p => .judge (.script p)

variable [Host]

/-- Reads a script. -/
def readScript (fs : FileSystem) (path : String) (limit : Int := 0) : Logged Problem Program := do
  let text ← readText fs path limit
  let parsed := parseOn text path
  Logged.writeAll (parseLog parsed)
  Logged.ofExcept (parsed.mapError Problem.ofParse)

/-- The report about a script that has an error; none if it has none. -/
def checkScript (fs : FileSystem) (path : String) (limit : Int := 0) :
    Logged Problem (Option String) :=
  let parsed := readScript fs path limit
  match parsed.result with
  | .ok _ => { log := parsed.log, result := .ok none }
  | .error (.script e) => do
    Logged.writeAll parsed.log
    Logged.write Level.info checkLogger ("Syntax error in " ++ path ++ ": " ++ e.message)
    pure (some (syntaxErrorReport e.fileName e.message))
  | .error p => { log := parsed.log, result := .error p }

/-- The endings of pages and of scripts, in any case. -/
def markupExtensions : List String := [".htm", ".html"]

def scriptExtensions : List String := [".js"]

def hasExtension (extensions : List String) (path : String) : Bool :=
  extensions.contains (Text.lower (Path.extension path))

/-- What is logged of a script that is judged by its text. -/
def fallbackLog (path : String) : Except ParseProblem Program → List Record
  | .error (.notScript e) => [syntaxRecord e, {
      level := Level.debug
      logger := classifyLogger
      message := "Falling back to textual sketch detection for " ++ path ++ ": " ++ e.message }]
  | _ => []

/-- Whether a file is the script of a sketch. -/
def judgeScript (fs : FileSystem) (s : AnalysisSettings) (path : String) : Logged Problem Bool :=
  if fs.isDirectory path || !hasExtension scriptExtensions path then pure false
  else do
    let text ← readText fs path s.maxFileBytes
    let parsed := parseOn text path
    Logged.writeAll (fallbackLog path parsed)
    Logged.ofExcept ((declaresSketch s text parsed).mapError .judge)

/-- Whether a file is the page of a sketch. -/
def judgeMarkup (fs : FileSystem) (s : AnalysisSettings) (path : String) : Logged Problem Bool :=
  if fs.isDirectory path || !hasExtension markupExtensions path then pure false
  else do
    let text ← readText fs path s.maxFileBytes
    Logged.ofExcept ((isSketchMarkup s text).mapError .judge)

end SketchSurvey.Sketch

import SketchSurvey.Script.Parse
import SketchSurvey.Analysis.FreeVariables
import SketchSurvey.Markup.Page
import SketchSurvey.Settings.Analysis

/-!
What makes a script or a page a sketch: a script declares one of the functions that start a sketch, a
page loads the library.
-/

set_option autoImplicit false

namespace SketchSurvey.Sketch

open SketchSurvey.Script SketchSurvey.Settings

/-- Why a text could not be judged. -/
inductive JudgeProblem where
  | pattern (source : String) (p : Regex.Problem)
  | page (p : Markup.Problem)
  /-- The tree of a script could not be worked through. -/
  | script (p : ParseProblem)

variable [Host]

/-- Whether a text declares one of some functions at its top. A text that is no script is searched for
such a declaration. -/
def declaresSketch (s : AnalysisSettings) (text : String) (parsed : Except ParseProblem Program) :
    Except JudgeProblem Bool :=
  match parsed with
  | .ok p => .ok (s.sketchFunctions.any p.functionNames.contains)
  | .error (.notScript _) =>
    match s.fallbackRegex with
    | .ok r => .ok (r.search text)
    | .error e => .error (.pattern (fallbackPattern s.sketchFunctions) e)
  | .error p => .error (.script p)

/-- Whether a text is the script of a sketch. -/
def isSketchScript (s : AnalysisSettings) (text : String) : Except JudgeProblem Bool :=
  declaresSketch s text (parseOn text)

/-- Whether one of the scripts that a page loads is the library. -/
def isSketchMarkup (s : AnalysisSettings) (text : String) : Except JudgeProblem Bool :=
  match s.libraryRegex with
  | .error e => .error (.pattern s.libraryScriptPattern e)
  | .ok r =>
    match Markup.scriptSources text with
    | .ok sources => .ok (sources.any r.search)
    | .error e => .error (.page e)

end SketchSurvey.Sketch

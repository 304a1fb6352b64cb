import SketchSurvey.Sketch.Title

/-!
The projects in one directory. Pages that load the library come first, each with the script of the
standard name if there is one; then the scripts that no page has claimed. What is left over belongs to no
project.
-/

set_option autoImplicit false

namespace SketchSurvey.Sketch

open SketchSurvey.Files SketchSurvey.Log SketchSurvey.Settings

/-- What a scan has found. -/
structure Scan where
  projects : List Project
  files : List String
  deriving BEq, Repr, DecidableEq

def scanLogger : String := "p5analysis.core.services.scanner"

/-- The script that a page has without naming it. -/
def companionName : String := "sketch.js"

/-- The entries that are no files of some projects. -/
def unclaimed (entries : List String) (projects : List Project) : List String :=
  entries.filter fun name => !(projects.flatMap Project.files).contains name

/-- The items that pass a test, which may log and fail. -/
def keepIf {ε α : Type} (test : α → Logged ε Bool) : List α → Logged ε (List α)
  | [] => pure []
  | a :: rest => do
    let kept ← test a
    let more ← keepIf test rest
    pure (if kept then a :: more else more)

/-- The reason for passing over a file that is too large or gone. -/
def skipReason? : Problem → Option String
  | .read (.tooLarge path size limit) => some (ReadProblem.tooLarge path size limit).message
  | .read (.file (.failed .notFound _)) => some "no such file"
  | _ => none

/-- Passes over a file that is too large or gone, with a warning. -/
def skipUnreadable (path : String) (judged : Logged Problem Bool) : Logged Problem Bool :=
  match judged.result with
  | .ok b => { log := judged.log, result := .ok b }
  | .error p =>
    match skipReason? p with
    | some reason => do
      Logged.writeAll judged.log
      Logged.write Level.warning scanLogger ("Skipping " ++ path ++ ": " ++ reason)
      pure false
    | none => { log := judged.log, result := .error p }

/-- The projects of pages, each with the companion if it is among the entries. -/
def pageProjects (dir : String) (entries pages : List String) : List Project :=
  let companion := if entries.contains companionName then some companionName else none
  pages.map fun name => { dirPath := dir, markupFile := some name, scriptFile := companion }

def scriptProjects (dir : String) (scripts : List String) : List Project :=
  scripts.map fun name => { dirPath := dir, scriptFile := some name }

variable [Host]

/-- Scans a directory. -/
def scan (fs : FileSystem) (s : AnalysisSettings) (dir : String) : Logged Problem Scan := do
  let entries ← Logged.ofExcept ((fs.list dir).mapError Problem.file)
  let pathOf (name : String) : String := Path.join dir name
  let pages ← keepIf (fun name => skipUnreadable (pathOf name) (judgeMarkup fs s (pathOf name)))
    (entries.filter (hasExtension markupExtensions))
  let ofPages := pageProjects dir entries pages
  let scripts ← keepIf (fun name => skipUnreadable (pathOf name) (judgeScript fs s (pathOf name)))
    (unclaimed entries ofPages)
  let projects := ofPages ++ scriptProjects dir scripts
  let files := unclaimed entries projects
  Logged.write Level.debug scanLogger ("Scanned " ++ dir ++ ": " ++ toString projects.length ++
    " project(s), " ++ toString files.length ++ " other entries")
  pure { projects, files }

end SketchSurvey.Sketch

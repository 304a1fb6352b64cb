import SketchSurvey.Analysis.FreeVariables
import SketchSurvey.Analysis.MemberReferences
import SketchSurvey.CommandLine.Arguments
import SketchSurvey.Json.Writer
import SketchSurvey.Sketch.Listing
import SketchSurvey.Sketch.Title

/-!
What the commands find out and print, for people or as one value for programs.
-/

set_option autoImplicit false

namespace SketchSurvey.CommandLine

open SketchSurvey.Files SketchSurvey.Json SketchSurvey.Log SketchSurvey.Settings SketchSurvey.Sketch

/-- Why a command stopped. -/
inductive Failure where
  | problem (p : Sketch.Problem)
  /-- The standard output has no code for what was to be printed. -/
  | unprintable (reason : String)

namespace Failure

def message : Failure → String
  | problem p => p.message
  | unprintable reason => reason

def kindName : Failure → String
  | problem p => p.kindName
  | unprintable _ => "UnicodeEncodeError"

end Failure

/-- How far a command came: what it logged and printed, and its exit code unless it failed. -/
structure Performed where
  log : List Record := []
  output : String := ""
  result : Except Failure Nat := .ok 0

variable [Host]

namespace Performed

/-- Prints something at once: all of it or nothing. -/
def print (output : String) (code : Nat := 0) : Performed :=
  match Host.unprintable? output with
  | none => { output, result := .ok code }
  | some reason => { result := .error (.unprintable reason) }

/-- Goes on with what was found out; nothing has been printed so far. -/
def after {α : Type} (m : Logged Sketch.Problem α) (f : α → Performed) : Performed :=
  match m.result with
  | .ok a => { f a with log := m.log ++ (f a).log }
  | .error p => { log := m.log, result := .error (.problem p) }

/-- Goes on with something else unless it failed. What was printed stays. -/
def followedBy (p next : Performed) : Performed :=
  match p.result with
  | .ok _ => { next with log := p.log ++ next.log, output := p.output ++ next.output }
  | .error _ => p

/-- Prints lines, each as soon as it is found out. -/
def printEach : List (Logged Sketch.Problem String) → Performed
  | [] => {}
  | line :: rest => (after line fun text => print (text ++ "\n")).followedBy (printEach rest)

end Performed

/-- A value, printed over several lines. -/
def printValue (v : Value) : String := Json.write Json.Layout.readable v ++ "\n"

def printLines (lines : List String) : Performed := .printEach (lines.map pure)

/-- A project with the title that is shown for it. -/
structure Titled where
  project : Project
  title : String

def titledAll (fs : FileSystem) : List Project → Logged Sketch.Problem (List Titled)
  | [] => pure []
  | p :: rest => do
    let title ← Sketch.title fs p
    let more ← titledAll fs rest
    pure ({ project := p, title } :: more)

def Titled.toValue (t : Titled) : Value := .object [
  ("title", .string t.title), ("dir_path", .string t.project.dirPath),
  ("markup_file", .ofOption t.project.markupFile), ("script_file", .ofOption t.project.scriptFile),
  ("files", .ofStrings t.project.files)]

def scanValue (projects : List Titled) (files : List String) : Value := .object [
  ("projects", .array (projects.map Titled.toValue)), ("files", .ofStrings files)]

/-- The lines about some projects; titles are looked up in between. -/
def titledLines (fs : FileSystem) (projects : List Project) (shown : Project → String → String) :
    List (Logged Sketch.Problem String) :=
  projects.map fun p => do
    let title ← Sketch.title fs p
    pure (shown p title)

def scanLines (fs : FileSystem) (found : Scan) : List (Logged Sketch.Problem String) :=
  let sketches := if found.projects.isEmpty then [pure "No sketches found."]
    else titledLines fs found.projects fun p title => title ++ ": " ++ ", ".intercalate p.files
  let others := if found.files.isEmpty then []
    else ("\nOther entries: " ++ toString found.files.length) :: found.files.map ("  - " ++ ·)
  sketches ++ others.map pure

def performScan (fs : FileSystem) (json : Bool) (s : AnalysisSettings) (path : String) : Performed :=
  .after (scan fs s path) fun found =>
    if json then .after (titledAll fs found.projects) fun projects =>
      .print (printValue (scanValue projects found.files))
    else .printEach (scanLines fs found)

/-- What was found out about one file. -/
structure Verdict where
  path : String
  script : Bool
  markup : Bool

def Verdict.toValue (v : Verdict) : Value := .object [
  ("path", .string v.path), ("sketch_script", .bool v.script), ("sketch_markup", .bool v.markup)]

def Verdict.toLine (v : Verdict) : String :=
  v.path ++ ": " ++
    if v.markup then "sketch page" else if v.script then "sketch script" else "not a sketch"

def verdicts (fs : FileSystem) (s : AnalysisSettings) :
    List String → Logged Sketch.Problem (List Verdict)
  | [] => pure []
  | path :: rest => do
    let script ← judgeScript fs s path
    let markup ← judgeMarkup fs s path
    let more ← verdicts fs s rest
    pure ({ path, script, markup } :: more)

def performClassify (fs : FileSystem) (json : Bool) (s : AnalysisSettings) (paths : List String) :
    Performed :=
  .after (verdicts fs s paths) fun rows =>
    if json then .print (printValue (.array (rows.map Verdict.toValue)))
    else printLines (rows.map Verdict.toLine)

def printNames (json : Bool) (names : List String) : Performed :=
  if json then .print (printValue (.ofStrings (Text.sorted names)))
  else printLines (Text.sorted names)

/-- The names that an analysis finds in a script, as they are printed. -/
def performAnalysis (fs : FileSystem) (json : Bool) (s : AnalysisSettings) (path : String)
    (names : Script.Program → Logged Sketch.Problem (List String)) : Performed :=
  .after (do names (← readScript fs path s.maxFileBytes)) (printNames json)

def performFreeVars (fs : FileSystem) (json : Bool) (s : AnalysisSettings) (path : String)
    (excludeGlobals : Bool) : Performed :=
  performAnalysis fs json s path fun program => do
    let found := Analysis.freeVariables program
    Logged.writeAll found.log
    pure (if excludeGlobals then found.names.filter fun n => !program.globalNames.contains n
      else found.names)

def performMembers (fs : FileSystem) (json : Bool) (s : AnalysisSettings) (path : String) :
    Performed :=
  performAnalysis fs json s path fun program => do
    let found := Analysis.memberReferences s.namespaceName program
    Logged.writeAll found.log
    pure found.names

def checkValue (path : String) (report : Option String) : Value := .object [
  ("path", .string path), ("ok", .bool report.isNone), ("report", .ofOption report)]

def performCheck (fs : FileSystem) (json : Bool) (s : AnalysisSettings) (path : String) : Performed :=
  .after (checkScript fs path s.maxFileBytes) fun report =>
    .print (if json then printValue (checkValue path report) else report.getD (path ++ ": OK\n"))
      (if report.isSome then 1 else 0)

def listingValue (projects : List Titled) (l : Listing) : Value := .object [
  ("title", .string l.title), ("projects", .array (projects.map Titled.toValue)),
  ("directories", .ofStrings l.directories), ("files", .ofStrings l.files),
  ("readme", .ofOption l.readme)]

def listingLines (fs : FileSystem) (l : Listing) : List (Logged Sketch.Problem String) :=
  [l.title, "".pushn '=' l.title.length].map pure ++
    titledLines fs l.projects (fun p title => "[sketch] " ++ title ++ " (" ++ p.rootFile ++ ")") ++
    (l.directories.map (fun name => "[dir]    " ++ name ++ "/") ++
      l.files.map ("         " ++ ·) ++
      match l.readme with
      | some name => ["\nReadme: " ++ name]
      | none => []).map pure

def performListing (fs : FileSystem) (json : Bool) (s : AnalysisSettings) (path : String) : Performed :=
  .after (listing fs s path) fun found =>
    if json then .after (titledAll fs found.projects) fun projects =>
      .print (printValue (listingValue projects found))
    else .printEach (listingLines fs found)

/-- Carries out a command. -/
def Command.perform (fs : FileSystem) (json : Bool) (s : AnalysisSettings) :
    Command → Performed
  | scan path => performScan fs json s path
  | classify paths => performClassify fs json s paths
  | freeVars path excludeGlobals => performFreeVars fs json s path excludeGlobals
  | members path _ => performMembers fs json s path
  | check path => performCheck fs json s path
  | listing path => performListing fs json s path

end SketchSurvey.CommandLine

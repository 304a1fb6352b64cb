import SketchSurvey.Sketch.Inspect

/-!
Sketches as projects: a page and a script in one directory, or one of them alone. The title of a project is its
own, or that of its page, or the name of its root file.
-/

set_option autoImplicit false

namespace SketchSurvey.Sketch

open SketchSurvey.Files SketchSurvey.Log

structure Project where
  dirPath : String
  markupFile : Option String := none
  scriptFile : Option String := none
  /-- A title of its own; it goes before any other. -/
  title : Option String := none
  deriving BEq, Repr, DecidableEq

/-- An empty text names nothing. -/
def named (name : Option String) : Option String := name.filter fun s => !s.isEmpty

namespace Project

/-- The names of the files, the page first. -/
def files (p : Project) : List String :=
  ((named p.markupFile).toList ++ (named p.scriptFile).toList).map Path.baseName

/-- The file that stands for the project; without one, its directory. -/
def rootFile (p : Project) : String :=
  ((named p.markupFile).or (named p.scriptFile)).getD (Path.baseName p.dirPath)

end Project

def titleLogger : String := "p5analysis.core.services.listing"

/-- What stands before the first place where a mark stands, and what follows the mark. -/
def splitAtMark? (mark : List Char) : List Char → Option (List Char × List Char)
  | [] => if mark.isEmpty then some ([], []) else none
  | c :: rest =>
    if mark.isPrefixOf (c :: rest) then some ([], (c :: rest).drop mark.length)
    else (splitAtMark? mark rest).map fun (before, after) => (c :: before, after)

def titleStart : List Char := "<title>".toList

def titleEnd : List Char := "</title>".toList

/-- The text of a page's title element, which is at least one character long. -/
def titleText? (page : List Char) : Option (List Char) := do
  let (_, after) ← splitAtMark? titleStart page
  match after with
  | [] => none
  | c :: rest =>
    let (inner, _) ← splitAtMark? titleEnd rest
    return c :: inner

/-- The title of a page, without the white space around it; none if it is blank. -/
def pageTitle? (page : String) : Option String :=
  match titleText? page.toList with
  | none => none
  | some title =>
    let trimmed := Text.trimList title
    if trimmed.isEmpty then none else some (String.ofList trimmed)

/-- The endings of root files. Case counts. -/
def rootExtensions : List (List Char) := [".html".toList, ".htm".toList, ".js".toList]

def dropRootExtension (name : List Char) : List Char :=
  match rootExtensions.find? (·.isSuffixOf name) with
  | some e => name.take (name.length - e.length)
  | none => name

/-- A name without its ending, which may stand before a last line feed. -/
def bareName (name : String) : String :=
  match name.toList.reverse with
  | '\n' :: rest => String.ofList (dropRootExtension rest.reverse ++ ['\n'])
  | _ => String.ofList (dropRootExtension name.toList)

/-- The title that the page at a path has, if there is a page. -/
def readTitle (fs : FileSystem) (path : String) : Logged Problem (Option String) :=
  match fs.readText path with
  | .ok text => pure (pageTitle? text)
  | .error (.file (.failed .notFound _)) => do
    Logged.write Level.debug titleLogger ("Title lookup skipped, " ++ path ++ " does not exist")
    pure none
  | .error p => Logged.fail (.read p)

def title (fs : FileSystem) (p : Project) : Logged Problem String :=
  match named p.title, named p.markupFile with
  | some own, _ => pure own
  | none, some page => do
    let found ← readTitle fs (Path.join p.dirPath page)
    pure (found.getD (bareName p.rootFile))
  | none, none => pure (bareName p.rootFile)

end SketchSurvey.Sketch

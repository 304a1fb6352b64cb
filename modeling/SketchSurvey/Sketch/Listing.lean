import SketchSurvey.Files.Glob
import SketchSurvey.Sketch.Scan

/-!
What an index of a directory shows: its projects, and, without what is hidden or excluded, its other
directories and files.
-/

set_option autoImplicit false

namespace SketchSurvey.Sketch

open SketchSurvey.Files SketchSurvey.Log SketchSurvey.Settings

structure Listing where
  title : String
  projects : List Project
  directories : List String
  files : List String
  readme : Option String
  deriving BEq, Repr, DecidableEq

/-- The name, in any case, of the file that introduces a directory. -/
def readmeName : String := "readme.md"

def isHidden (name : String) : Bool := name.toList.head? == some '.'

def isVisible (exclusions : List String) (name : String) : Bool :=
  !isHidden name && !exclusions.any fun pattern => Glob.matchesName pattern name

/-- Names in the order of their small letters; those that differ in case only stay as they are. -/
def sortedByLetters (names : List String) : List String :=
  names.mergeSort fun a b => decide (Text.lower a ≤ Text.lower b)

variable [Host]

def listing (fs : FileSystem) (s : AnalysisSettings) (dir : String) : Logged Problem Listing := do
  let found ← scan fs s dir
  let visible := sortedByLetters (found.files.filter (isVisible s.listingExclusions))
  let readme := visible.find? fun name => Text.lower name == readmeName
  let directories := visible.filter fun name => fs.isDirectory (Path.join dir name)
  pure {
    title := Path.baseName (Path.normalize dir)
    projects := found.projects
    directories
    files := visible.filter fun name => !directories.contains name && some name != readme
    readme }

end SketchSurvey.Sketch

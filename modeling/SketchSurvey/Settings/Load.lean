import SketchSurvey.Files.FileSystem
import SketchSurvey.Json.Reader
import SketchSurvey.Log.Logged
import SketchSurvey.Settings.Config

/-!
Loading a configuration. A file that is missing or holds no configuration counts as an empty one.
-/

set_option autoImplicit false

namespace SketchSurvey.Settings

open SketchSurvey.Files SketchSurvey.Json SketchSurvey.Log

def loadLogger : String := "p5analysis.domain.config"

/-- Where the configuration is that is read unless another one is named. -/
def userFile (homes : Path.Homes) : String :=
  Path.join (Path.normalize (Path.join homes.own ".p5analysis")) "p5analysis.json"

/-- Why a file could not be read as a value. -/
inductive LoadProblem where
  | file (p : Files.Problem)
  | bytes (p : Text.Utf8.Problem)
  | value (text : String) (e : ReadError)

def LoadProblem.message : LoadProblem → String
  | file p => p.message
  | bytes p => p.message
  | value text e => e.message text

/-- Reads the value that a file holds. -/
def readDocument (fs : FileSystem) (path : String) : Except LoadProblem Document := do
  let bytes ← (fs.read path).mapError .file
  let chars ← (Text.Utf8.decode bytes).mapError .bytes
  let text := String.ofList (Text.Utf8.unifyLines chars)
  (Json.parseDocument text).mapError (.value text)

/-- A configuration as it stands in a file, over the standard one, and what was logged about it. -/
structure LoadedDocument where
  given : Members
  log : List Record

/-- The members of the standard configuration as a file has them. -/
def standardMembers : Members := membersOf Config.standard.members

/-- The standard configuration, where no other was found. -/
def notLoaded (level : Int) (message : String) : LoadedDocument where
  given := standardMembers
  log := [{ level, logger := loadLogger, message }]

/-- Loads the configuration in a file. Its version is always the current one. -/
def loadDocument (fs : FileSystem) (path : String) : LoadedDocument :=
  if !fs.pathExists path then
    notLoaded Level.debug ("Config file not found at " ++ path ++ ". Returning defaults.")
  else
    match readDocument fs path with
    | .error p =>
      notLoaded Level.error
        ("Failed to load config from " ++ path ++ ": " ++ p.message ++ ". Using defaults.")
    | .ok (.object given) =>
      { given := put (putAll standardMembers given) (pointsOf "version")
          (.string (pointsOf currentVersion))
        log := [] }
    | .ok _ => notLoaded Level.warning "Corrupted config file. Resetting to defaults."

/-- A configuration as it was found, and what was logged about it. -/
structure Loaded where
  given : Given
  log : List Record

/-- Loads the configuration in a file, with nothing but characters in its texts. -/
def load (fs : FileSystem) (path : String) : Loaded :=
  let found := loadDocument fs path
  { given := givenOf found.given, log := found.log }

end SketchSurvey.Settings

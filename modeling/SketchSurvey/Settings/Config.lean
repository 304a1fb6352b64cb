import SketchSurvey.Json.Value

/-!
Configurations: the fields, what they are without one, and their written form.
-/

set_option autoImplicit false

namespace SketchSurvey.Settings

open SketchSurvey.Json

/-- A configuration that has been checked. -/
structure Config where
  version : String
  namespaceName : String
  sketchFunctions : List String
  libraryScriptPattern : String
  maxFileBytes : Int
  listingExclusions : List String
  logLevel : String
  logFile : String
  deriving BEq, Repr, DecidableEq

def currentVersion : String := "1.0.0"

namespace Config

/-- What holds where nothing is configured. -/
def standard : Config where
  version := currentVersion
  namespaceName := "p5"
  sketchFunctions := ["setup", "draw"]
  libraryScriptPattern := "\\bp5(\\.min)?\\.js$"
  maxFileBytes := 0
  listingExclusions := ["node_modules", "package.json", "package-lock.json"]
  logLevel := "INFO"
  logFile := ""

/-- The members of a configuration in their order. -/
def members (c : Config) : List (String × Value) := [
  ("version", .string c.version),
  ("namespace", .string c.namespaceName),
  ("sketch_functions", .ofStrings c.sketchFunctions),
  ("library_script_pattern", .string c.libraryScriptPattern),
  ("max_file_bytes", .int c.maxFileBytes),
  ("listing_exclusions", .ofStrings c.listingExclusions),
  ("log_level", .string c.logLevel),
  ("log_file", .string c.logFile)]

def toValue (c : Config) : Value := .object c.members

end Config

/-- A configuration as it was found: members by name, which may be of any kind. -/
abbrev Given := List (String × Value)

/-- The members of one configuration with those of another over them. -/
def Given.over (base given : Given) : Given := putAll base given

def Given.get? (g : Given) (key : String) : Option Value := (g.find? (·.1 == key)).map (·.2)

end SketchSurvey.Settings

import SketchSurvey.Settings.Config
import SketchSurvey.Regex.Matcher
import SketchSurvey.Regex.Token

/-!
The settings of the analyses.
-/

set_option autoImplicit false

namespace SketchSurvey.Settings

open SketchSurvey.Json SketchSurvey.Number

structure AnalysisSettings where
  namespaceName : String := Config.standard.namespaceName
  sketchFunctions : List String := Config.standard.sketchFunctions
  libraryScriptPattern : String := Config.standard.libraryScriptPattern
  maxFileBytes : Int := Config.standard.maxFileBytes
  listingExclusions : List String := Config.standard.listingExclusions
  deriving Repr

/-- The settings of a configuration that has been checked. -/
def AnalysisSettings.ofConfig (c : Config) : AnalysisSettings where
  namespaceName := c.namespaceName
  sketchFunctions := c.sketchFunctions
  libraryScriptPattern := c.libraryScriptPattern
  maxFileBytes := c.maxFileBytes
  listingExclusions := c.listingExclusions

/-- The pattern that finds the declaration of one of some functions in a text that is no script. -/
def fallbackPattern (names : List String) : String :=
  "function\\s+(" ++ "|".intercalate (names.map Regex.escape) ++ ")\\b"

variable [Host]

namespace AnalysisSettings

def libraryRegex (s : AnalysisSettings) : Except Regex.Problem Regex.Pattern :=
  Regex.compile s.libraryScriptPattern

def fallbackRegex (s : AnalysisSettings) : Except Regex.Problem Regex.Pattern :=
  Regex.compile (fallbackPattern s.sketchFunctions)

end AnalysisSettings

/-- Settings taken from a configuration that was not checked. -/
structure LooseSettings where
  namespaceName : Value
  sketchFunctions : List Value
  libraryScriptPattern : Value
  maxFileBytes : Int
  listingExclusions : List Value

/-- Why a configuration that was not checked gives no settings. -/
inductive LooseProblem where
  | wrongKind
  | overflow
  | notANumber (text : String)
  | noWholeNumber
  | tooManyDigits (count : Nat)
  | pattern (source : String) (p : Regex.Problem)
  deriving BEq, Repr

def LooseProblem.message : LooseProblem → String
  | wrongKind => "wrong kind of value"
  | overflow => "cannot convert float infinity to integer"
  | notANumber text => "invalid literal for int() with base 10: " ++ Text.quoted text
  | noWholeNumber => "cannot convert float NaN to integer"
  | tooManyDigits count => Text.tooManyDigitsMessage count
  | pattern source p => p.message source

/-- The items of a value: those of a list, the characters of a text, the names of an object. -/
def looseItems : Value → Except LooseProblem (List Value)
  | .array items => .ok items
  | .string s => .ok (s.toList.map fun c => .string (String.singleton c))
  | .object members => .ok (members.map fun (k, _) => .string k)
  | _ => .error .wrongKind

/-- A number with its fraction cut off. -/
def truncate : Double → Except LooseProblem Int
  | .finite negative m e =>
    let size : Int := if e ≥ 0 then (m * Nat.pow 2 e.toNat : Nat) else (m / Nat.pow 2 (-e).toNat : Nat)
    .ok (if negative then -size else size)
  | .infinite _ => .error .overflow
  | .notANumber => .error .noWholeNumber

def looseInt : Value → Except LooseProblem Int
  | .int n => .ok n
  | .bool b => .ok (if b then 1 else 0)
  | .float x => truncate x
  | .string s =>
    match Text.parseInt s with
    | .ok n => .ok n
    | .error .malformed => .error (.notANumber s)
    | .error (.tooManyDigits count) => .error (.tooManyDigits count)
  | _ => .error .wrongKind

/-- Takes the settings from a configuration as they are; what it lacks is standard. -/
def LooseSettings.ofGiven (g : Given) : Except LooseProblem LooseSettings := do
  let all := Given.over Config.standard.members g
  let field (name : String) : Value := (all.get? name).getD .null
  let sketchFunctions ← looseItems (field "sketch_functions")
  let maxFileBytes ← looseInt (field "max_file_bytes")
  let listingExclusions ← looseItems (field "listing_exclusions")
  return { namespaceName := field "namespace", sketchFunctions,
           libraryScriptPattern := field "library_script_pattern", maxFileBytes,
           listingExclusions }

def textOf : Value → Except LooseProblem String
  | .string s => .ok s
  | _ => .error .wrongKind

/-- The texts of the two patterns, both of which must compile. -/
def LooseSettings.patterns (s : LooseSettings) : Except LooseProblem (String × String) := do
  let library ← textOf s.libraryScriptPattern
  let checked (p : String) : Except LooseProblem Unit :=
    match Regex.compile p with
    | .ok _ => .ok ()
    | .error e => .error (.pattern p e)
  checked library
  let names ← s.sketchFunctions.mapM textOf
  let fallback := fallbackPattern names
  checked fallback
  return (library, fallback)

end SketchSurvey.Settings

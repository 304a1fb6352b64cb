import SketchSurvey.Settings.Config
import SketchSurvey.Regex.Reader
import SketchSurvey.Text.Case
import SketchSurvey.Text.Split
import SketchSurvey.Files.Path

/-!
Checking a configuration. A value that cannot be used is replaced and reported, or, in strict checks,
refused.
-/

set_option autoImplicit false

namespace SketchSurvey.Settings

open SketchSurvey.Json

/-- The name of a value's kind. -/
def kindName : Value → String
  | .null => "NoneType"
  | .bool _ => "bool"
  | .int _ => "int"
  | .float _ => "float"
  | .string _ => "str"
  | .array _ => "list"
  | .object _ => "dict"

/-- A value that cannot be used. -/
inductive Issue where
  | notAnObject (found : String)
  | wrongKind (field expected found : String)
  | itemNotText (field : String) (index : Nat)
  | negative (field : String) (number : Int)
  | notAnIdentifier (field name : String)
  | itemNotAnIdentifier (field name : String)
  | badPattern (field pattern reason : String)
  | unknownLevel (level : String)
  deriving BEq, Repr, DecidableEq

def logLevels : List String := ["DEBUG", "INFO", "WARNING", "ERROR", "CRITICAL"]

namespace Issue

def message : Issue → String
  | notAnObject found => "Invalid config type: expected dict, received " ++ found ++ "."
  | wrongKind field expected found =>
    "Invalid field '" ++ field ++ "': expected " ++ expected ++ ", received " ++ found ++ "."
  | itemNotText field index =>
    "Invalid item in '" ++ field ++ "[" ++ toString index ++ "]': expected str."
  | negative field number =>
    "Invalid field '" ++ field ++ "': must be >= 0, received " ++ toString number ++ "."
  | notAnIdentifier field name =>
    "Invalid field '" ++ field ++ "': '" ++ name ++ "' is not a JavaScript identifier."
  | itemNotAnIdentifier field name =>
    "Invalid item in '" ++ field ++ "': '" ++ name ++ "' is not a JavaScript identifier."
  | badPattern field pattern reason =>
    "Invalid field '" ++ field ++ "': '" ++ pattern ++ "' is not a valid regex (" ++ reason ++ ")."
  | unknownLevel level =>
    "Invalid field 'log_level': '" ++ level ++ "' is not one of " ++ ", ".intercalate logLevels ++ "."

/-- What is done about it where it is not refused. -/
def remedy : Issue → String
  | notAnObject _ => "Using defaults."
  | itemNotText .. | itemNotAnIdentifier .. => "Item discarded."
  | _ => "Using fallback."

/-- Whether a value is of the wrong kind; otherwise it is a wrong value of the right kind. -/
def isOfKind : Issue → Bool
  | notAnObject _ | wrongKind .. | itemNotText .. => true
  | _ => false

end Issue

/-- What is reported about a configuration. -/
inductive Warning where
  | unknownField (key : String)
  | listFromText (field : String)
  | numberFromText (field text : String) (number : Int)
  | replaced (issue : Issue)
  deriving BEq, Repr, DecidableEq

def Warning.message : Warning → String
  | unknownField key => "Unknown field '" ++ key ++ "' ignored."
  | listFromText field => "Field '" ++ field ++ "' converted from CSV string to list."
  | numberFromText field text number =>
    "Field '" ++ field ++ "' converted from '" ++ text ++ "' to " ++ toString number ++ "."
  | replaced issue => issue.message ++ " " ++ issue.remedy

/-- Why a check gave no configuration. -/
inductive Problem where
  | refused (issue : Issue)
  /-- A text of digits that are no decimal digits. -/
  | notANumber (text : String)
  | tooManyDigits (count : Nat)
  /-- A number has more digits than are written. -/
  | longNumber
  /-- Flags in a pattern exclude each other. -/
  | patternFlags
  /-- A number in a pattern is beyond all bounds. -/
  | patternRepeatOverflow
  | patternCodeOverflow
  /-- Reading a pattern takes more of the stack than there is. -/
  | patternTooDeep
  /-- The system has no code for the name of a user. -/
  | unencodableUser (reason : String)
  /-- No user has this character in the name. -/
  | nullInUser
  deriving BEq, Repr

def Problem.message : Problem → String
  | refused issue => issue.message
  | notANumber text => "invalid literal for int() with base 10: " ++ Text.quoted text
  | tooManyDigits count => Text.tooManyDigitsMessage count
  | longNumber => Text.longNumberMessage
  | patternFlags => (Regex.Problem.incompatibleLetters).message ""
  | patternRepeatOverflow => (Regex.Problem.repeatOverflow).message ""
  | patternCodeOverflow => (Regex.Problem.codeOverflow).message ""
  | patternTooDeep => (Regex.Problem.stackExhausted).message ""
  | unencodableUser reason => reason
  | nullInUser => "embedded null byte"

/-- A check: strict or not, it adds to the warnings. -/
abbrev Check (α : Type) := ReaderT Bool (StateT (List Warning) (Except Problem)) α

namespace Check

def warn (w : Warning) : Check Unit := modify (· ++ [w])

/-- Refuses a value, or reports it and goes on with another. -/
def reject {α : Type} (issue : Issue) (instead : α) : Check α := do
  if ← read then throw (.refused issue)
  else
    warn (.replaced issue)
    return instead

end Check

open Check

/-- A text, without the white space around it. An empty one counts as missing. -/
def asText (field fallback : String) : Value → Check String
  | .null => return fallback
  | .string s =>
    let s := Text.trim s
    return if s.isEmpty then fallback else s
  | v => reject (.wrongKind field "str" (kindName v)) fallback

/-- The items of a text that commas divide, without blank ones. -/
def splitCommas (s : String) : List String :=
  ((Text.splitAt ',' s).map Text.trim).filter (!·.isEmpty)

/-- The texts of a list, without blank ones. `index` counts the items before. -/
def asItems (field : String) : Nat → List Value → Check (List String)
  | _, [] => return []
  | index, .string s :: rest => do
    let more ← asItems field (index + 1) rest
    let s := Text.trim s
    return if s.isEmpty then more else s :: more
  | index, _ :: rest => do
    reject (.itemNotText field index) ()
    asItems field (index + 1) rest

def orFallback (mayBeEmpty : Bool) (fallback items : List String) : List String :=
  if items.isEmpty && !mayBeEmpty then fallback else items

/-- A list of texts. Where checks are not strict a text with commas will do. -/
def asTexts (field : String) (fallback : List String) (mayBeEmpty : Bool) (v : Value) :
    Check (List String) := do
  match v, ← read with
  | .null, _ => return fallback
  | .string s, false =>
    warn (.listFromText field)
    return orFallback mayBeEmpty fallback (splitCommas s)
  | .array items, _ => return orFallback mayBeEmpty fallback (← asItems field 0 items)
  | v, _ => reject (.wrongKind field "list[str]" (kindName v)) fallback

/-- A number that is not negative. What is said of a negative one has its digits in it. -/
def notNegative (field : String) (fallback number : Int) : Check Int :=
  if number < 0 then
    if number.natAbs < Nat.pow 10 Text.maxDigits then reject (.negative field number) fallback
    else throw .longNumber
  else return number

/-- A number that is not negative. Where checks are not strict a text of digits will do. -/
def asCount (field : String) (fallback : Int) (v : Value) : Check Int := do
  match v, ← read with
  | .null, _ => return fallback
  | .int n, _ => notNegative field fallback n
  | .string s, false =>
    if Text.allDigitLike (Text.trim s) then
      match Text.parseInt (Text.trim s) with
      | .ok n =>
        warn (.numberFromText field s n)
        notNegative field fallback n
      | .error .malformed => throw (.notANumber (Text.trim s))
      | .error (.tooManyDigits count) => throw (.tooManyDigits count)
    else reject (.wrongKind field "int" (kindName v)) fallback
  | v, _ => reject (.wrongKind field "int" (kindName v)) fallback

def isIdentifierStart (c : Char) : Bool := c.isAlpha || c == '_' || c == '$'

/-- Some characters without the line feed at their end, if there is one. -/
def dropLineFeed (cs : List Char) : List Char :=
  if cs.getLast? = some '\n' then cs.dropLast else cs

/-- Names of the first block of characters. A line feed may follow the name. -/
def isIdentifier (s : String) : Bool :=
  match s.toList with
  | c :: rest =>
    isIdentifierStart c && (dropLineFeed rest).all fun d => isIdentifierStart d || d.isDigit
  | [] => false

def asIdentifier (field fallback : String) (v : Value) : Check String := do
  let name ← asText field fallback v
  if isIdentifier name then return name else reject (.notAnIdentifier field name) fallback

/-- The identifiers of a list, each once; `found` holds those before. -/
def keepIdentifiers (field : String) (found : List String) : List String → Check (List String)
  | [] => return found
  | name :: rest => do
    if isIdentifier name then
      keepIdentifiers field (if found.contains name then found else found ++ [name]) rest
    else
      reject (.itemNotAnIdentifier field name) ()
      keepIdentifiers field found rest

def asIdentifiers (field : String) (fallback : List String) (v : Value) : Check (List String) := do
  let names ← asTexts field fallback false v
  return orFallback false fallback (← keepIdentifiers field [] names)

variable [Host]

def asPattern (field fallback : String) (v : Value) : Check String := do
  let pattern ← asText field fallback v
  match Regex.compile pattern with
  | .ok _ => return pattern
  | .error (.tooManyDigits count) => throw (.tooManyDigits count)
  | .error .incompatibleLetters => throw .patternFlags
  | .error .repeatOverflow => throw .patternRepeatOverflow
  | .error .codeOverflow => throw .patternCodeOverflow
  | .error .stackExhausted => throw .patternTooDeep
  | .error p => reject (.badPattern field pattern (p.message pattern)) fallback

def asLevel (fallback : String) (v : Value) : Check String := do
  let level := Text.upper (← asText "log_level" fallback v)
  if logLevels.contains level then return level else reject (.unknownLevel level) fallback

/-- Why the system cannot look for the user whose home directory a path starts with. -/
def userProblem? (path : String) : Option Problem :=
  match Files.Path.userOf? path with
  | none | some [] => none
  | some user =>
    match Host.unencodable? (String.ofList user) with
    | some reason => some (.unencodableUser reason)
    | none => if user.contains '\x00' then some .nullInUser else none

/-- The path of a log file; none if it is empty. -/
def asLogFile (homes : Files.Path.Homes) (fallback : String) (v : Value) : Check String := do
  let path ← asText "log_file" fallback v
  match userProblem? path with
  | some p => throw p
  | none => return Files.Path.expandHome homes path

/-- The names of the fields. -/
def fieldNames : List String := Config.standard.members.map (·.1)

/-- The names in a configuration that are no fields, in order. -/
def unknownKeys (given : Given) : List String :=
  ((given.map (·.1)).filter fun k => !fieldNames.contains k).mergeSort fun a b => decide (a ≤ b)

/-- Checks the fields one after another. -/
def checkFields (homes : Files.Path.Homes) (given : Given) : Check Config := do
  let d := Config.standard
  let field (name : String) : Value := (given.get? name).getD .null
  for key in unknownKeys given do
    warn (.unknownField key)
  let version ← asText "version" d.version (field "version")
  let namespaceName ← asIdentifier "namespace" d.namespaceName (field "namespace")
  let sketchFunctions ← asIdentifiers "sketch_functions" d.sketchFunctions (field "sketch_functions")
  let libraryScriptPattern ←
    asPattern "library_script_pattern" d.libraryScriptPattern (field "library_script_pattern")
  let maxFileBytes ← asCount "max_file_bytes" d.maxFileBytes (field "max_file_bytes")
  let listingExclusions ←
    asTexts "listing_exclusions" d.listingExclusions true (field "listing_exclusions")
  let logLevel ← asLevel d.logLevel (field "log_level")
  let logFile ← asLogFile homes d.logFile (field "log_file")
  return { version, namespaceName, sketchFunctions, libraryScriptPattern, maxFileBytes,
           listingExclusions, logLevel, logFile }

/-- Checks any value. What is no configuration at all counts as an empty one. -/
def checkConfig (homes : Files.Path.Homes) : Value → Check Config
  | .object given => checkFields homes given
  | v => reject (.notAnObject (kindName v)) .standard

/-- A configuration that passed, and what was said about it. -/
structure Validated where
  config : Config
  warnings : List Warning
  deriving BEq, Repr

/-- Checks a configuration. -/
def validate (homes : Files.Path.Homes) (value : Value) (strict : Bool) : Except Problem Validated :=
  match ((checkConfig homes value).run strict).run [] with
  | .ok (config, warnings) => .ok { config, warnings }
  | .error p => .error p

/-- What is logged about a configuration: only that it is none. -/
def logOf (v : Value) : List String :=
  match v with
  | .object _ => []
  | v => [(Issue.notAnObject (kindName v)).message]

end SketchSurvey.Settings

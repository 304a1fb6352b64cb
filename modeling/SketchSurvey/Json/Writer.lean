import SketchSurvey.Json.Value

/-!
Writing values, on one line or one item a line.
-/

set_option autoImplicit false

namespace SketchSurvey.Json

def hexDigit (n : Nat) : Char := if n < 10 then Char.ofNat (48 + n) else Char.ofNat (87 + n)

/-- The code of a character in four hexadecimal digits. -/
def codeEscape (n : Nat) : List Char :=
  ['\\', 'u', hexDigit (n / 4096 % 16), hexDigit (n / 256 % 16), hexDigit (n / 16 % 16),
    hexDigit (n % 16)]

/-- A character as it stands in a written text. With `ascii` all others are written by their codes,
those beyond the first plane as a pair. -/
def escapeChar (ascii : Bool) (c : Char) : List Char :=
  if c = '"' then ['\\', '"']
  else if c = '\\' then ['\\', '\\']
  else if c = '\n' then ['\\', 'n']
  else if c = '\r' then ['\\', 'r']
  else if c = '\t' then ['\\', 't']
  else if c = '\x0c' then ['\\', 'f']
  else if c = '\x08' then ['\\', 'b']
  else if c.toNat < 0x20 then codeEscape c.toNat
  else if ascii && c.toNat > 0x7E then
    if c.toNat < 0x10000 then codeEscape c.toNat
    else
      let n := c.toNat - 0x10000
      codeEscape (0xD800 + n / 1024) ++ codeEscape (0xDC00 + n % 1024)
  else [c]

def quote (ascii : Bool) (s : String) : String :=
  String.ofList ('"' :: (s.toList.flatMap (escapeChar ascii)) ++ ['"'])

/-- How a value is laid out. -/
structure Layout where
  /-- All characters beyond the first block are written by their codes. -/
  ascii : Bool := true
  /-- The width of a level, if each item has a line of its own. -/
  indent : Option Nat := none
  comma : String := ", "
  colon : String := ": "

namespace Layout

/-- One line and no spaces. -/
def compact : Layout := { ascii := false, comma := ",", colon := ":" }

/-- Two columns for each level, and letters as they are. -/
def readable : Layout := { ascii := false, indent := some 2, comma := "," }

def newLine (l : Layout) (level : Nat) : String :=
  match l.indent with
  | some width => String.ofList ('\n' :: List.replicate (width * level) ' ')
  | none => ""

end Layout

mutual

def render (l : Layout) (level : Nat) : Value → String
  | .null => "null"
  | .bool true => "true"
  | .bool false => "false"
  | .int n => toString n
  | .float x => x.render
  | .string s => quote l.ascii s
  | .array [] => "[]"
  | .array (v :: vs) =>
    "[" ++ l.newLine (level + 1) ++ render l (level + 1) v ++ renderItems l (level + 1) vs ++
      l.newLine level ++ "]"
  | .object [] => "\x7b\x7d"
  | .object ((k, v) :: ms) =>
    "\x7b" ++ l.newLine (level + 1) ++ quote l.ascii k ++ l.colon ++ render l (level + 1) v ++
      renderMembers l (level + 1) ms ++ l.newLine level ++ "\x7d"

def renderItems (l : Layout) (level : Nat) : List Value → String
  | [] => ""
  | v :: vs => l.comma ++ l.newLine level ++ render l level v ++ renderItems l level vs

def renderMembers (l : Layout) (level : Nat) : List (String × Value) → String
  | [] => ""
  | (k, v) :: ms =>
    l.comma ++ l.newLine level ++ quote l.ascii k ++ l.colon ++ render l level v ++
      renderMembers l level ms

end

/-- Writes a value. -/
def write (l : Layout) (v : Value) : String := render l 0 v

end SketchSurvey.Json

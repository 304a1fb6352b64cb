import SketchSurvey.Markup.ReferenceTable
import SketchSurvey.Text.Digit
import SketchSurvey.Text.Quoted

/-!
References to characters in markup, by number and by name.
-/

set_option autoImplicit false

namespace SketchSurvey.Markup

/-- What no page may hold. -/
inductive Problem where
  /-- A marked section that starts with no known word. -/
  | unknownSection (word : String)
  /-- A marked section that starts with no word. -/
  | unnamedSection (start : String)
  /-- A number has more digits than are read. -/
  | tooManyDigits (count : Nat)
  deriving BEq, Repr

namespace Problem

def message : Problem → String
  | unknownSection word => "unknown status keyword " ++ Text.quoted word ++ " in marked section"
  | unnamedSection start => "expected name token at " ++ Text.quoted start
  | tooManyDigits count => Text.tooManyDigitsMessage count

end Problem

structure NamedReference where
  name : List Char
  value : List Char
  /-- The semicolon may be left out. -/
  bare : Bool

def hexNumber (cs : List Char) : Nat :=
  cs.foldl (fun n c =>
    n * 16 + (if c.isDigit then c.toNat - 48 else if c.isLower then c.toNat - 87 else c.toNat - 55)) 0

def parseNamedReference (entry : String) : Option NamedReference :=
  match entry.splitOn " " with
  | [name, codes] =>
    let value := (codes.splitOn "+").map fun h => Char.ofNat (hexNumber h.toList)
    match name.toList with
    | '!' :: rest => some { name := rest, value, bare := true }
    | rest => some { name := rest, value, bare := false }
  | _ => none

def references : List NamedReference := (namedReferences.splitOn ";").filterMap parseNamedReference

/-- What a name stands for, its semicolon included if it has one. -/
def named? (name : List Char) : Option (List Char) :=
  match name.reverse with
  | ';' :: back =>
    let name := back.reverse
    (references.find? (·.name == name)).map (·.value)
  | _ => (references.find? fun r => r.bare && r.name == name).map (·.value)

/-- The longest beginning of a text, at least two characters long, that is a name. -/
def longestNamed? (name : List Char) : Nat → Option (List Char × List Char)
  | 0 => none
  | n + 1 =>
    if n + 1 < 2 then none
    else match named? (name.take (n + 1)) with
      | some value => some (value, name.drop (n + 1))
      | none => longestNamed? name n

/-- Code points from 0x80 to 0x9F stand for the characters of an older code page. -/
def olderCodePage : List Nat := [
  0x20AC, 0x81, 0x201A, 0x192, 0x201E, 0x2026, 0x2020, 0x2021, 0x2C6, 0x2030, 0x160, 0x2039, 0x152,
  0x8D, 0x17D, 0x8F, 0x90, 0x2018, 0x2019, 0x201C, 0x201D, 0x2022, 0x2013, 0x2014, 0x2DC, 0x2122,
  0x161, 0x203A, 0x153, 0x9D, 0x17E, 0x178]

/-- Code points that no page may use. -/
def isForbidden (n : Nat) : Bool :=
  (1 ≤ n && n ≤ 8) || n == 0xB || (0xE ≤ n && n ≤ 0x1F) || (0x7F ≤ n && n ≤ 0x9F) ||
    (0xFDD0 ≤ n && n ≤ 0xFDEF) || n % 0x10000 ≥ 0xFFFE

/-- What a number stands for. -/
def numbered (n : Nat) : List Char :=
  if n == 0 then ['\uFFFD']
  else if 0x80 ≤ n && n ≤ 0x9F then [Char.ofNat (olderCodePage.getD (n - 0x80) 0xFFFD)]
  else if (0xD800 ≤ n && n ≤ 0xDFFF) || n > 0x10FFFF then ['\uFFFD']
  else if isForbidden n then []
  else [Char.ofNat n]

def isHexDigit (c : Char) : Bool :=
  c.isDigit || ('a' ≤ c && c ≤ 'f') || ('A' ≤ c && c ≤ 'F')

/-- A semicolon at the start of a text is passed over. -/
def dropSemicolon : List Char → List Char
  | ';' :: rest => rest
  | rest => rest

def isNameChar (c : Char) : Bool :=
  !(['\t', '\n', '\x0c', ' ', '<', '&', '#', ';'].contains c)

/-- How long a name can be, its semicolon not counted. -/
def maxNameLength : Nat := 32

/-- Reads the reference after an ampersand: what it stands for, and the text after it. -/
def readReference (cs : List Char) : Except Problem (List Char × List Char) :=
  match cs with
  | '#' :: c :: rest =>
    let hex := rest.takeWhile isHexDigit
    if (c = 'x' || c = 'X') && !hex.isEmpty then
      .ok (numbered (hexNumber hex), dropSemicolon (rest.drop hex.length))
    else
      let ds := (c :: rest).takeWhile Char.isDigit
      if ds.isEmpty then .ok (['&'], cs)
      else if ds.length > Text.maxDigits then .error (.tooManyDigits ds.length)
      else
        .ok (numbered (Text.valueOf (ds.map fun d => d.toNat - 48)),
          dropSemicolon ((c :: rest).drop ds.length))
  | _ =>
    let name := (cs.take maxNameLength).takeWhile isNameChar
    if name.isEmpty then .ok (['&'], cs)
    else
      let after := cs.drop name.length
      let (name, after) := match after with
        | ';' :: rest => (name ++ [';'], rest)
        | _ => (name, after)
      match named? name with
      | some value => .ok (value, after)
      | none =>
        match longestNamed? name (name.length - 1) with
        | some (value, rest) => .ok (value ++ rest, after)
        | none => .ok ('&' :: name, after)

/-- A text with its references replaced. `fuel` bounds the characters read. -/
def unescapeFrom : Nat → List Char → Except Problem (List Char)
  | 0, cs => .ok cs
  | _, [] => .ok []
  | fuel + 1, c :: rest =>
    if c = '&' then do
      let (value, after) ← readReference rest
      return value ++ (← unescapeFrom fuel after)
    else do return c :: (← unescapeFrom fuel rest)

def unescape (cs : List Char) : Except Problem (List Char) := unescapeFrom (cs.length + 1) cs

end SketchSurvey.Markup

import SketchSurvey.Markup.Reference
import SketchSurvey.Text.Case

/-!
Start tags and their attributes.
-/

set_option autoImplicit false

namespace SketchSurvey.Markup

open SketchSurvey.Text (isBlank)

/-- A place in a page: the character before it, and what follows. -/
structure Spot where
  previous : Char
  rest : List Char

namespace Spot

/-- The place after a number of characters. -/
def skip (s : Spot) : Nat → Spot
  | 0 => s
  | n + 1 =>
    match s.rest with
    | c :: rest => skip ⟨c, rest⟩ n
    | [] => s

def skipWhile (s : Spot) (test : Char → Bool) : Spot := s.skip (s.rest.takeWhile test).length

end Spot

/-- White space and slashes, but not the slash of the end of a tag. -/
def gapLength : List Char → Nat
  | [] => 0
  | '/' :: '>' :: _ => 0
  | c :: rest => if isBlank c || c = '/' then gapLength rest + 1 else 0

def isTagNameChar (c : Char) : Bool := !(['\t', '\n', '\r', '\x0c', ' ', '/', '>', '\x00'].contains c)

def isAsciiLetter (c : Char) : Bool := ('a' ≤ c && c ≤ 'z') || ('A' ≤ c && c ≤ 'Z')

/-- A value in quotes, with them. -/
def quotedLength? (quote : Char) (cs : List Char) : Option Nat :=
  let inside := cs.takeWhile (· != quote)
  if inside.length < cs.length then some (inside.length + 2) else none

def bareLength (cs : List Char) : Nat := (cs.takeWhile fun c => c != '>' && !isBlank c).length

/-- The value of an attribute, as it is written, from after the name: what is skipped before it, and
its length. A quote without its other half starts no value; then white space or an equals sign before
it does. -/
def valueExtent? (cs : List Char) : Option (Nat × Nat) :=
  let before := (cs.takeWhile isBlank).length
  let marks := ((cs.drop before).takeWhile (· == '=')).length
  if marks == 0 then none
  else
    let after := cs.drop (before + marks)
    let blanks := (after.takeWhile isBlank).length
    let start := before + marks + blanks
    match cs.drop start with
    | c :: rest =>
      if c = '\'' || c = '"' then
        match quotedLength? c rest with
        | some n => some (start, n)
        | none =>
          if blanks > 0 then some (start - 1, 0)
          else if marks > 1 then some (start - 1, bareLength (cs.drop (start - 1)))
          else none
      else some (start, bareLength (c :: rest))
    | [] => some (start, 0)

/-- An attribute as it is written: its name, its value if it has one, and what follows. -/
structure WrittenAttribute where
  name : List Char
  value : Option (List Char)
  next : Spot

def attributeAt? (s : Spot) : Option WrittenAttribute :=
  match s.rest with
  | c :: rest =>
    if (s.previous == '\'' || s.previous == '"' || s.previous == '/' || isBlank s.previous) &&
        !isBlank c && c != '/' && c != '>' then
      let name := c :: rest.takeWhile fun d => !isBlank d && d != '/' && d != '=' && d != '>'
      let after := s.skip name.length
      match valueExtent? after.rest with
      | some (start, length) =>
        let value := (after.rest.drop start).take length
        let next := after.skip (start + length)
        some { name, value := some value, next := next.skip (gapLength next.rest) }
      | none => some { name, value := none, next := after.skip (gapLength after.rest) }
    else none
  | [] => none

/-- Passes over attributes. `fuel` bounds their number. -/
def skipAttributes : Nat → Spot → Spot
  | 0, s => s
  | fuel + 1, s =>
    match attributeAt? s with
    | some a => skipAttributes fuel a.next
    | none => s

/-- The length of a start tag from its opening mark on; none if the text breaks off in it. -/
def startTagLength? (cs : List Char) : Option Nat :=
  let name := (cs.drop 1).takeWhile isTagNameChar
  let s := (Spot.mk '<' (cs.drop 1)).skip name.length
  let s := s.skipWhile fun c => isBlank c || c == '/'
  let s := (skipAttributes cs.length s).skipWhile isBlank
  let length := cs.length - s.rest.length
  match s.rest with
  | '>' :: _ => some (length + 1)
  | '/' :: '>' :: _ => some (length + 2)
  | [] => none
  | c :: _ => if c = '/' || c = '=' || isAsciiLetter c then none else some length

structure StartTag where
  name : String
  attributes : List (String × Option String)
  /-- The tag is closed at once. -/
  isClosed : Bool := false

/-- Takes the quotes off a value that stands between two of a kind. -/
def stripQuotes (value : List Char) : List Char :=
  match value, value.getLast? with
  | c :: rest, some d => if c == d && (c == '\'' || c == '"') then rest.dropLast else value
  | _, _ => value

def readValue : Option (List Char) → Except Problem (Option String)
  | none => .ok none
  | some value => do return some (String.ofList (← unescape (stripQuotes value)))

/-- The attributes of a tag, as long as they start before its end, and what is left of the tag.
`after` is the number of characters after the tag; `fuel` bounds the attributes. -/
def readAttributes (after : Nat) : Nat → Spot →
    Except Problem (List (String × Option String) × List Char)
  | 0, s => .ok ([], s.rest)
  | fuel + 1, s =>
    if s.rest.length > after then
      match attributeAt? s with
      | some a => do
        let value ← readValue a.value
        let (more, rest) ← readAttributes after fuel a.next
        return ((Text.lower (String.ofList a.name), value) :: more, rest)
      | none => .ok ([], s.rest)
    else .ok ([], s.rest)

/-- Reads a start tag of a known length; none if it is no tag after all. -/
def readStartTag (cs : List Char) (length : Nat) : Except Problem (Option StartTag) := do
  let name := (cs.drop 1).takeWhile isTagNameChar
  let s := (Spot.mk '<' (cs.drop 1)).skip name.length
  let s := s.skip (gapLength s.rest)
  let after := cs.length - length
  let (attributes, rest) ← readAttributes after (cs.length + 1) s
  let tail := Text.trimList (rest.take (rest.length - after))
  let tag : StartTag := { name := Text.lower (String.ofList name), attributes }
  if tail == ['>'] then return some tag
  else if tail == ['/', '>'] then return some { tag with isClosed := true }
  else return none

end SketchSurvey.Markup

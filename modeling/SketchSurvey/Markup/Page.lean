import SketchSurvey.Markup.StartTag
import SketchSurvey.Regex.Letters

/-!
Pages: the start tags in them, and the scripts that they load. A page need not be well formed. Of what
breaks off at its end the rest is text.
-/

set_option autoImplicit false

namespace SketchSurvey.Markup

open SketchSurvey.Text (isBlank)

/-- What follows the first place where a test holds. -/
def afterFirst? (test : List Char → Option (List Char)) : List Char → Option (List Char)
  | [] => test []
  | c :: rest =>
    match test (c :: rest) with
    | some after => some after
    | none => afterFirst? test rest

/-- What follows the next closing mark. -/
def afterClose? : List Char → Option (List Char)
  | [] => none
  | c :: rest => if c = '>' then some rest else afterClose? rest

/-- The end of a comment. -/
def afterComment? : List Char → Option (List Char) :=
  afterFirst? fun cs =>
    match cs with
    | '-' :: '-' :: rest =>
      match rest.dropWhile isBlank with
      | '>' :: after => some after
      | _ => none
    | _ => none

/-- One bracket and a closing mark. -/
def officeEnd? (cs : List Char) : Option (List Char) :=
  match cs with
  | ']' :: rest =>
    match rest.dropWhile isBlank with
    | '>' :: after => some after
    | _ => none
  | _ => none

/-- Two brackets and a closing mark. -/
def sectionEnd? (cs : List Char) : Option (List Char) :=
  match cs with
  | ']' :: rest => officeEnd? (rest.dropWhile isBlank)
  | _ => none

def isSectionNameChar (c : Char) : Bool :=
  isAsciiLetter c || c.isDigit || c == '-' || c == '_' || c == '.'

/-- What follows a marked section, from after its opening bracket; none if the text breaks off in
it. -/
def afterSection? (cs : List Char) : Except Problem (Option (List Char)) :=
  match cs with
  | [] => .ok none
  | c :: _ =>
    if isAsciiLetter c then
      let name := cs.takeWhile isSectionNameChar
      let space := (cs.drop name.length).takeWhile isBlank
      if (cs.drop (name.length + space.length)).isEmpty then .ok none
      else
        let word := String.ofList (name ++ space)
        let name := String.ofList (name.map Char.toLower)
        if ["temp", "cdata", "ignore", "include", "rcdata"].contains name then
          .ok (afterFirst? sectionEnd? cs)
        else if ["if", "else", "endif"].contains name then .ok (afterFirst? officeEnd? cs)
        else .error (.unknownSection word)
    else .error (.unnamedSection (String.ofList ("<![".toList ++ cs.take 17)))

def startsWith (start : String) (cs : List Char) : Bool := start.toList.isPrefixOf cs

/-- What follows a declaration, from its opening mark on. -/
def afterDeclaration? (cs : List Char) : Except Problem (Option (List Char)) :=
  if startsWith "<![" cs then afterSection? (cs.drop 3)
  else if startsWith "<!doctype" ((cs.take 9).map Char.toLower) then .ok (afterClose? (cs.drop 9))
  else .ok (afterClose? (cs.drop 2))

def isEndTagNameChar (c : Char) : Bool :=
  isAsciiLetter c || c.isDigit || c == '-' || c == '.' || c == ':' || c == '_'

/-- The name in an end tag that holds nothing else. -/
def plainEndTag? (cs : List Char) : Option String :=
  let body := (cs.drop 2).dropWhile isBlank
  match body with
  | c :: _ =>
    if isAsciiLetter c then
      let name := body.takeWhile isEndTagNameChar
      match (body.drop name.length).dropWhile isBlank with
      | '>' :: _ => some (String.ofList (name.map Char.toLower))
      | _ => none
    else none
  | [] => none

/-- The element whose content is text up to its end tag. -/
abbrev RawElement := Option String

/-- What follows an end tag, from its opening mark on, and the raw element after it; none if the text
breaks off in it. -/
def afterEndTag? (raw : RawElement) (cs : List Char) : Option (List Char × RawElement) :=
  match afterClose? (cs.drop 1) with
  | none => none
  | some after =>
    match plainEndTag? cs, raw with
    | some name, some element => some (after, if name == element then none else raw)
    | some _, none => some (after, none)
    | none, some _ => some (after, raw)
    | none, none => some (after, none)

/-- Letters in a raw element's end tag, whatever their case. -/
def sameWord (word : String) (cs : List Char) : Bool :=
  let flags : Regex.Flags := { ignoreCase := true }
  word.toList.length == cs.length &&
    (word.toList.zip cs).all fun (a, b) => flags.sameChar a.toNat b.toNat

/-- Whether a text starts with what may be the end tag of a raw element. -/
def startsRawEnd (element : String) (cs : List Char) : Bool :=
  startsWith "</" cs &&
    let body := (cs.drop 2).dropWhile isBlank
    sameWord element (body.take element.length) &&
      match (body.drop element.length).dropWhile isBlank with
      | '>' :: _ => true
      | _ => false

/-- How near to the end of a text a reference may be cut off. -/
def referenceReach : Nat := 34

/-- Whether the last ampersand near the end of a text starts a reference that may not be complete. -/
def endsInReference (cs : List Char) : Bool :=
  let tail := (cs.drop (cs.length - referenceReach)).reverse
  let after := tail.takeWhile (· != '&')
  after.length < tail.length && !after.any fun c => isBlank c || c == ';'

structure Reading where
  tags : List StartTag := []
  raw : RawElement := none
  rest : List Char := []

/-- What follows markup that breaks off, when no more text will come. -/
def afterBroken (cs : List Char) : List Char :=
  match afterClose? (cs.drop 1) with
  | some after => after
  | none =>
    match (cs.drop 1).dropWhile (· != '<') with
    | [] => cs.drop 1
    | after => after

/-- One piece of markup, from its opening mark on. -/
inductive Piece where
  | startTag (tag : Option StartTag) (after : List Char)
  | other (after : List Char) (raw : RawElement)
  /-- The text breaks off in it. -/
  | broken
  /-- A mark at the end of the text. -/
  | lone

def readPiece (raw : RawElement) (cs : List Char) : Except Problem Piece := do
  match cs with
  | _ :: '/' :: _ =>
    match afterEndTag? raw cs with
    | some (after, raw) => return .other after raw
    | none => return .broken
  | _ :: '?' :: rest => return (afterClose? rest).elim .broken (.other · raw)
  | _ :: '!' :: rest =>
    if startsWith "--" rest then return (afterComment? (cs.drop 4)).elim .broken (.other · raw)
    else return (← afterDeclaration? cs).elim .broken (.other · raw)
  | _ :: c :: rest =>
    if isAsciiLetter c then
      match startTagLength? cs with
      | some length => return .startTag (← readStartTag cs length) (cs.drop length)
      | none => return .broken
    else return .other (c :: rest) raw
  | _ => return .lone

/-- Elements whose content is raw text. -/
def rawElements : List String := ["script", "style"]

def Reading.addTag (r : Reading) (tag : StartTag) : Reading :=
  { r with
    tags := r.tags ++ [tag]
    raw := if !tag.isClosed && rawElements.contains tag.name then some tag.name else r.raw }

/-- Reads on from `r.rest`. Without `final` more text may come, and what may be incomplete is left.
`fuel` bounds the pieces. -/
def readPieces (final : Bool) : Nat → Reading → Except Problem Reading
  | 0, r => .ok r
  | fuel + 1, r => do
    if r.rest.isEmpty then return r
    let start := match r.raw with
      | some element => r.rest.length - ((afterFirst? (fun cs =>
          if startsRawEnd element cs then some cs else none) r.rest).map List.length).getD 0
      | none => (r.rest.takeWhile (· != '<')).length
    let text := r.rest.take start
    let rest := r.rest.drop start
    if rest.isEmpty && (r.raw.isSome || endsInReference r.rest) then return r
    if r.raw.isNone then
      let _ ← unescape text
    if rest.isEmpty then return { r with rest }
    match ← readPiece r.raw rest with
    | .startTag (some tag) after => readPieces final fuel { r.addTag tag with rest := after }
    | .startTag none after => readPieces final fuel { r with rest := after }
    | .other after raw => readPieces final fuel { r with rest := after, raw }
    | .lone => return { r with rest }
    | .broken =>
      if final then
        let after := afterBroken rest
        if r.raw.isNone then
          let _ ← unescape (rest.take (rest.length - after.length))
        readPieces final fuel { r with rest := after }
      else return { r with rest }

/-- The start tags of a page, in the order of the text. -/
def startTags (page : String) : Except Problem (List StartTag) := do
  let cs := page.toList
  let r ← readPieces false (cs.length + 1) { rest := cs }
  let r ← readPieces true (cs.length + 1) r
  if r.raw.isNone then
    let _ ← unescape r.rest
  return r.tags

/-- The sources of the scripts that a page loads. -/
def scriptSources (page : String) : Except Problem (List String) := do
  let tags ← startTags page
  return (tags.filter (·.name == "script")).flatMap fun tag =>
    tag.attributes.filterMap fun (name, value) =>
      if name == "src" then value.filter (!·.isEmpty) else none

end SketchSurvey.Markup

import SketchSurvey.Script.Reading.Source

/-!
Tokens that no shape describes: the semicolon that a line end stands for, the text of templates and
elements, the question mark of a choice, and the comments of old pages.
-/

set_option autoImplicit false

namespace SketchSurvey.Script.Reading

/-- The scanned tokens, in the order of the grammar's list. -/
inductive ScannedToken where
  | lineEndSemicolon
  | templateText
  | choiceMark
  | pageComment
  | logicalOr
  | escape
  | expressionBody
  | elementText
  deriving BEq, DecidableEq, Inhabited, Repr

namespace ScannedToken

def all : List ScannedToken :=
  [.lineEndSemicolon, .templateText, .choiceMark, .pageComment, .logicalOr, .escape,
    .expressionBody, .elementText]

def index : ScannedToken → Nat
  | .lineEndSemicolon => 0
  | .templateText => 1
  | .choiceMark => 2
  | .pageComment => 3
  | .logicalOr => 4
  | .escape => 5
  | .expressionBody => 6
  | .elementText => 7

def ofIndex? (n : Nat) : Option ScannedToken := all[n]?

end ScannedToken

/-- A scanner's position: where the token starts, and how far it has looked. -/
structure Pen where
  start : Extent
  here : Extent
  deriving Inhabited

/-- A token found: where it starts and where it ends. -/
structure Found where
  token : ScannedToken
  start : Extent
  stop : Extent
  deriving Inhabited

/-- White space that may break a line or a word; no-break spaces do not. -/
def isBreakingSpace (c : Nat) : Bool :=
  (9 ≤ c && c ≤ 13) || c == 0x20 || c == 0x1680 || (0x2000 ≤ c && c ≤ 0x2006) ||
  (0x2008 ≤ c && c ≤ 0x200A) || c == 0x2028 || c == 0x2029 || c == 0x205F || c == 0x3000

def isLineEnd (c : Nat) : Bool := c == 10 || c == 0x2028 || c == 0x2029

def isDigit (c : Nat) : Bool := 48 ≤ c && c ≤ 57

/-- Letters; beyond the first block every character that is no space counts as one. -/
def isLetter (c : Nat) : Bool :=
  (65 ≤ c && c ≤ 90) || (97 ≤ c && c ≤ 122) || (0xAA ≤ c && !isBreakingSpace c && c != 0xD7 && c != 0xF7)

def code (c : Char) : Nat := c.toNat

namespace Pen

/-- Moves on without the token having begun. -/
def skip (s : Source) (p : Pen) : Pen :=
  let next := s.advance p.here
  ⟨next, next⟩

def skipWhile (s : Source) (test : Nat → Bool) (p : Pen) : Pen :=
  let next := s.skipWhile test p.here
  if next == p.here then p else ⟨next, next⟩

def look (s : Source) (p : Pen) : Nat := s.look p.here

end Pen

/-- What space and comments say about a line end. -/
inductive SpaceResult where
  /-- No line may end here. -/
  | reject
  /-- Nothing is settled yet. -/
  | sameLine
  | accept
  deriving BEq

structure SpaceScan where
  result : SpaceResult
  pen : Pen
  sawComment : Bool

/-- Reads the inside of a comment between stars, from after its opening. Gives the place after it,
and whether it held a line end; nothing when it does not close. -/
def blockComment (s : Source) (p : Extent) (sawLineEnd : Bool) : Extent × Bool × Bool :=
  if _h : s.atEnd p = false then
    let c := s.look p
    if c == 0 then (p, sawLineEnd, false)
    else if c == code '*' then
      let next := s.advance p
      if s.look next == code '/' then (s.advance next, sawLineEnd, true)
      else blockComment s next sawLineEnd
    else blockComment s (s.advance p) (sawLineEnd || isLineEnd c)
  else (p, sawLineEnd, false)
termination_by s.chars.size - p.chars
decreasing_by all_goals exact Source.advance_decreases _h

/-- Reads space and comments. With `whole` it reads all of them; otherwise it stops after a comment
between stars. `fuel` bounds the number of comments. -/
def spaceAndComments (s : Source) (whole : Bool) : Nat → Bool → Bool → Pen → SpaceScan
  | 0, _, sawComment, p => ⟨.accept, p, sawComment⟩
  | fuel + 1, sawLineEnd, sawComment, p =>
    let p := p.skipWhile s isBreakingSpace
    if p.look s == code '/' then
      let p := p.skip s
      if p.look s == code '/' then
        let p := (p.skip s).skipWhile s fun c => c != 0 && !isLineEnd c
        spaceAndComments s whole fuel sawLineEnd true p
      else if p.look s == code '*' then
        let (here, sawLineEnd, closed) := blockComment s (s.advance p.here) sawLineEnd
        let p : Pen := ⟨here, here⟩
        if closed then
          if p.look s != code '/' && !whole then
            ⟨if sawLineEnd then .accept else .sameLine, p, true⟩
          else spaceAndComments s whole fuel sawLineEnd true p
        else spaceAndComments s whole fuel sawLineEnd sawComment p
      else ⟨.reject, p, sawComment⟩
    else ⟨.accept, p, sawComment⟩

/-- Whether what stands after a line end begins a new statement. -/
def beginsStatement (s : Source) (p : Pen) : Bool × Pen :=
  let c := p.look s
  if ("`,:;*%><=[(?^|&/".toList.map code).contains c then (false, p)
  else if c == code '.' then
    let p := p.skip s
    (isDigit (p.look s), p)
  else if c == code '+' then
    let p := p.skip s
    (p.look s == code '+', p)
  else if c == code '-' then
    let p := p.skip s
    (p.look s == code '-', p)
  else if c == code '!' then
    let p := p.skip s
    (p.look s != code '=', p)
  else if c == code 'i' then
    let p := p.skip s
    if p.look s != code 'n' then (true, p)
    else
      let p := p.skip s
      if !isLetter (p.look s) then (false, p)
      else followsWord "stanceof".toList p
  else (true, p)
where
  /-- The operator's remaining letters, and no further letter. -/
  followsWord : List Char → Pen → Bool × Pen
    | [], p => (isLetter (p.look s), p)
    | c :: rest, p => if p.look s == code c then followsWord rest (p.skip s) else (true, p)

structure LineEndScan where
  found : Bool
  pen : Pen
  sawComment : Bool

/-- What is left to check once the line has ended. -/
def afterLineEnd (s : Source) (sawComment : Bool) (p : Pen) : LineEndScan :=
  let scan := spaceAndComments s true (s.chars.size + 1) false sawComment (p.skip s)
  if scan.result == .reject then ⟨false, scan.pen, scan.sawComment⟩
  else
    let (found, pen) := beginsStatement s scan.pen
    ⟨found, pen, scan.sawComment⟩

/-- Whether a line end stands for a semicolon here. `afterComment` tells whether a comment that holds
a line end may itself end the statement. -/
def lineEnd (s : Source) (afterComment : Bool) (sawComment : Bool) (p : Pen) : LineEndScan :=
  if _h : s.atEnd p.here = false then
    if p.look s == 0 then ⟨true, p, sawComment⟩
    else if p.look s == code '/' then
      let scan := spaceAndComments s false (s.chars.size + 1) false sawComment p
      if scan.result == .reject then ⟨false, scan.pen, scan.sawComment⟩
      else
        let c := scan.pen.look s
        if scan.result == .accept && afterComment && c != code ',' && c != code '=' then
          ⟨true, scan.pen, scan.sawComment⟩
        else if c == code '}' then ⟨true, scan.pen, scan.sawComment⟩
        else if isLineEnd c then afterLineEnd s scan.sawComment scan.pen
        else if !isBreakingSpace c then ⟨false, scan.pen, scan.sawComment⟩
        else
          if _moved : p.here.chars < (scan.pen.skip s).here.chars then
            lineEnd s afterComment scan.sawComment (scan.pen.skip s)
          else ⟨false, scan.pen, scan.sawComment⟩
    else if p.look s == code '}' then ⟨true, p, sawComment⟩
    else if isLineEnd (p.look s) then afterLineEnd s sawComment p
    else if !isBreakingSpace (p.look s) then ⟨false, p, sawComment⟩
    else lineEnd s afterComment sawComment (p.skip s)
  else ⟨true, p, sawComment⟩
termination_by s.chars.size - p.here.chars
decreasing_by
  · have inside : p.here.chars < s.chars.size := by
      simpa only [Source.atEnd, decide_eq_false_iff_not, Nat.not_le] using _h
    exact Nat.sub_lt_sub_left inside _moved
  · exact Source.advance_decreases _h

/-- The text of a template up to a substitution, an escape or its end. -/
def templateText (s : Source) (p : Extent) (hasContent : Bool) : Option Extent :=
  if _h : s.atEnd p = false then
    let c := s.look p
    if c == code '`' || c == code '\\' then if hasContent then some p else none
    else if c == 0 then none
    else if c == code '$' then
      if s.look (s.advance p) == 0x7B then if hasContent then some p else none
      else templateText s (s.advance p) true
    else templateText s (s.advance p) true
  else none
termination_by s.chars.size - p.chars
decreasing_by all_goals exact Source.advance_decreases _h

/-- A question mark that opens a choice: not doubled, and not joined to a name by a dot. -/
def choiceMark (s : Source) (p : Pen) : Option Found :=
  let p := p.skipWhile s isBreakingSpace
  if p.look s == code '?' then
    let stop := s.advance p.here
    if s.look stop == code '?' then none
    else if s.look stop == code '.' then
      if isDigit (s.look (s.advance stop)) then some ⟨.choiceMark, p.start, stop⟩ else none
    else some ⟨.choiceMark, p.start, stop⟩
  else none

def matchText (s : Source) : List Char → Extent → Option Extent
  | [], p => some p
  | c :: rest, p => if s.look p == code c then matchText s rest (s.advance p) else none

/-- A comment of old pages, which runs to the end of its line. -/
def pageComment (s : Source) (p : Pen) : Option Found :=
  let p := p.skipWhile s isBreakingSpace
  let opening :=
    if p.look s == code '<' then matchText s "<!--".toList p.here
    else if p.look s == code '-' then matchText s "-->".toList p.here
    else none
  opening.map fun q =>
    ⟨.pageComment, p.start, s.skipWhile (fun c => c != 0 && !isLineEnd c) q⟩

/-- The text inside an element, up to markup. Space that follows a line feed is no text. -/
def elementText (s : Source) (p : Extent) (sawText atLineEnd : Bool) : Extent × Bool :=
  if _h : s.atEnd p = false then
    let c := s.look p
    if c == 0 || c == code '<' || c == code '>' || c == 0x7B || c == 0x7D || c == code '&' then
      (p, sawText)
    else if c == 10 then elementText s (s.advance p) sawText true
    else
      let atLineEnd := atLineEnd && isBreakingSpace c
      elementText s (s.advance p) (sawText || !atLineEnd) atLineEnd
  else (p, sawText)
termination_by s.chars.size - p.chars
decreasing_by all_goals exact Source.advance_decreases _h

/-- Looks for the scanned tokens that are expected at a place. -/
def scanSpecial (s : Source) (expected : List ScannedToken) (p : Extent) : Option Found :=
  if expected.contains .templateText then
    if expected.contains .lineEndSemicolon then none
    else (templateText s p false).map fun stop => ⟨.templateText, p, stop⟩
  else
    let (text, sawText) :=
      if expected.contains .elementText then elementText s p false false else (p, false)
    if sawText then some ⟨.elementText, p, text⟩
    else
      let pen : Pen := ⟨p, text⟩
      if expected.contains .lineEndSemicolon then
        let scan := lineEnd s (!expected.contains .logicalOr) false pen
        if scan.found then some ⟨.lineEndSemicolon, text, text⟩
        else if !scan.sawComment && expected.contains .choiceMark &&
            scan.pen.look s == code '?' then choiceMark s scan.pen
        else none
      else if expected.contains .choiceMark then choiceMark s pen
      else if expected.contains .pageComment && !expected.contains .logicalOr &&
          !expected.contains .escape && !expected.contains .expressionBody then
        pageComment s pen
      else none

end SketchSurvey.Script.Reading

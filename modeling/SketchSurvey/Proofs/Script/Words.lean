import SketchSurvey.Proofs.Script.Printable

/-! The tokens of a text, found from left to right: names, numbers, texts in quotes, signs and runs of
operator signs, with blanks between them. Texts with other words, comments among them, have none. -/

set_option autoImplicit false

namespace SketchSurvey.Script

/-- A word of a text: a token, or one of the brackets around a group of them. -/
inductive Word where
  | name (text : String)
  | number (text : String)
  | mark (text : String)
  | opens (bracket : Bracket)
  | closes (bracket : Bracket)
  deriving DecidableEq, Repr

/-- What has been read of a word, backwards. -/
inductive Mode where
  | between
  | letters (read : List Char)
  | operator (read : List Char)
  /-- Inside quotes. -/
  | text (quote : Char) (read : List Char)
  /-- Inside quotes, after a backslash. -/
  | escaped (quote : Char) (read : List Char)
  deriving DecidableEq, Repr

namespace Mode

def isBlank (c : Char) : Bool := c == ' ' || c == '\t' || c == '\n'

/-- The words that are one sign. -/
def sign? : Char → Option Word
  | '(' => some (.opens .round)
  | ')' => some (.closes .round)
  | '[' => some (.opens .square)
  | ']' => some (.closes .square)
  | '\x7b' => some (.opens .curly)
  | '\x7d' => some (.closes .curly)
  | ',' => some (.mark ",")
  | ';' => some (.mark ";")
  | ':' => some (.mark ":")
  | _ => none

def isOperatorSign (c : Char) : Bool := ".=+-*%<>!&|^?~".toList.contains c

def isNamePart (c : Char) : Bool := isNameLetter c || c.isDigit

/-- What has been read. -/
def spelled (read : List Char) : String := String.ofList read.reverse

/-- The word that some letters and digits are. -/
def wordOfLetters (text : String) : Word :=
  if IsName text then .name text else if IsDecimal text then .number text else .mark text

/-- The words that end with a character where a new word can start, and what follows it. -/
def start (c : Char) : Option (List Word × Mode) :=
  if isBlank c then some ([], between)
  else if isNamePart c then some ([], letters [c])
  else if isOperatorSign c then some ([], operator [c])
  else if c = '"' ∨ c = '\'' then some ([], text c [c])
  else (sign? c).map fun word => ([word], between)

def step : Mode → Char → Option (List Word × Mode)
  | between, c => start c
  | letters read, c =>
    if isNamePart c then some ([], letters (c :: read))
    else (start c).map fun (words, mode) => (wordOfLetters (spelled read) :: words, mode)
  | operator read, c =>
    if isOperatorSign c then some ([], operator (c :: read))
    else (start c).map fun (words, mode) => (.mark (spelled read) :: words, mode)
  | text quote read, c =>
    if c = quote then some ([.mark (spelled (c :: read))], between)
    else if c = '\\' then some ([], escaped quote (c :: read))
    else if c = '\n' ∨ c = '\r' then none
    else some ([], text quote (c :: read))
  | escaped quote read, c =>
    if c = '\n' ∨ c = '\r' then none else some ([], text quote (c :: read))

/-- The words that end in some characters, and what follows them. -/
def scan : Mode → List Char → Option (List Word × Mode)
  | mode, [] => some ([], mode)
  | mode, c :: rest =>
    match step mode c with
    | none => none
    | some (words, next) => (scan next rest).map fun (more, last) => (words ++ more, last)

/-- The word that the end of a text ends. -/
def last : Mode → Option (List Word)
  | between => some []
  | letters read => some [wordOfLetters (spelled read)]
  | operator read => some [.mark (spelled read)]
  | text .. => none
  | escaped .. => none

/-- Characters are read from one mode to another and end some words. -/
def Scans (mode : Mode) (cs : List Char) (words : List Word) (next : Mode) : Prop :=
  mode.scan cs = some (words, next)

instance (mode : Mode) (cs : List Char) (words : List Word) (next : Mode) :
    Decidable (Scans mode cs words next) :=
  inferInstanceAs (Decidable (_ = _))

namespace Scans

variable {mode next last : Mode} {cs ds : List Char} {words more : List Word}

theorem nil : Scans mode [] [] mode := rfl

theorem cons {c : Char} (first : mode.step c = some (words, next)) (rest : Scans next cs more last) :
    Scans mode (c :: cs) (words ++ more) last := by
  rw [Scans, scan, first]
  simp only
  rw [show next.scan cs = some (more, last) from rest]
  rfl

theorem single {c : Char} (only : mode.step c = some (words, next)) : Scans mode [c] words next := by
  have whole := cons only nil
  rwa [List.append_nil] at whole

theorem append (first : Scans mode cs words next) (second : Scans next ds more last) :
    Scans mode (cs ++ ds) (words ++ more) last := by
  induction cs generalizing mode words with
  | nil =>
      cases first
      exact second
  | cons c cs ih =>
      rw [Scans, scan] at first
      cases stepped : mode.step c with
      | none => simp [stepped] at first
      | some found =>
          obtain ⟨own, middle⟩ := found
          simp only [stepped, Option.map_eq_some_iff, Prod.mk.injEq] at first
          obtain ⟨⟨later, reached⟩, scanned, rfl, rfl⟩ := first
          rw [List.cons_append, List.append_assoc]
          exact cons stepped (ih scanned)

end Scans

end Mode

/-- The words of a text. -/
def wordsOfText (content : String) : Option (List Word) :=
  (Mode.between.scan content.toList).bind fun (words, mode) => mode.last.map fun more => words ++ more

/-- Takes together what stands in brackets. The brackets that are still open come with the tokens before
them, the last one first; tokens are kept backwards. -/
def gather : List (Bracket × List Token) → List Token → List Word → Option (List Token)
  | [], done, [] => some done.reverse
  | _ :: _, _, [] => none
  | outer, done, .name text :: rest => gather outer (.name text :: done) rest
  | outer, done, .number text :: rest => gather outer (.number text :: done) rest
  | outer, done, .mark text :: rest => gather outer (.mark text :: done) rest
  | outer, done, .opens bracket :: rest => gather ((bracket, done) :: outer) [] rest
  | [], _, .closes _ :: _ => none
  | (opened, before) :: outer, done, .closes bracket :: rest =>
    if opened = bracket then gather outer (.group bracket done.reverse :: before) rest else none

/-- The tokens of a text. -/
def tokensOfText (content : String) : Option (List Token) := (wordsOfText content).bind (gather [] [])

example : tokensOfText "if (a.b) c = 'it\\'s';" = some [.mark "if",
    .group .round [.name "a", .mark ".", .name "b"], .name "c", .mark "=", .mark "'it\\'s'",
    .mark ";"] := by
  rfl

end SketchSurvey.Script

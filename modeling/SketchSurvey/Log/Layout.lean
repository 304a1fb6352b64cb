import SketchSurvey.Log.Logged
import SketchSurvey.Text.Quoted
import SketchSurvey.Text.WordTable

/-!
How records are written on lines. A layout is a text with slots such as `%(message)s`, which may ask for a
width and a side.
-/

set_option autoImplicit false

namespace SketchSurvey.Log

/-- What a slot shows of a record. -/
inductive Field where
  | logger
  | level
  | levelName
  | message
  | time
  | thread
  | process
  deriving BEq, Repr, DecidableEq

def Field.ofName? : String → Option Field
  | "name" => some logger
  | "levelno" => some level
  | "levelname" => some levelName
  | "message" | "msg" => some message
  | "asctime" => some time
  | "threadName" => some thread
  | "processName" => some process
  | _ => none

/-- How a slot shows its field. -/
structure Slot where
  field : Field
  flags : List Char := []
  width : Nat := 0
  precision : Option Nat := none
  conversion : Char := 's'
  deriving BEq, Repr

inductive LayoutPiece where
  | char (c : Char)
  | slot (s : Slot)
  deriving BEq, Repr

/-- A layout whose pieces could not be read shows nothing. -/
structure Layout where
  pieces : Option (List LayoutPiece)
  deriving BEq, Repr

namespace Layout

def isFlag (c : Char) : Bool := ['#', '0', '+', ' ', '-'].contains c

def isWordChar (c : Char) : Bool :=
  if c.toNat < 128 then c.isAlphanum || c == '_' else Text.alphanumeric.has c

def isConversion (c : Char) : Bool := "diouxefgcrsa%".toList.contains c.toLower

def digitsValue (ds : List Char) : Nat := ds.foldl (fun n d => n * 10 + (d.toNat - 48)) 0

/-- What stands after a number, or a star in place of one. -/
def afterCount? : List Char → Option (List Char)
  | '*' :: rest => some rest
  | c :: rest => if c.isDigit then some (rest.dropWhile Char.isDigit) else none
  | [] => none

/-- Whether a text starts with a well-formed slot. -/
def startsWithSlot (cs : List Char) : Bool :=
  match cs with
  | '%' :: '(' :: rest =>
    let key := rest.takeWhile isWordChar
    match rest.drop key.length with
    | ')' :: rest =>
      let rest := rest.dropWhile isFlag
      let rest := (afterCount? rest).getD rest
      let rest := match rest with
        | '.' :: more => (afterCount? more).getD rest
        | _ => rest
      !key.isEmpty && (rest.head?.map isConversion).getD false
    | _ => false
  | _ => false

def hasSlot : List Char → Bool
  | [] => false
  | c :: rest => startsWithSlot (c :: rest) || hasSlot rest

/-- Reads a slot, given what follows its opening parenthesis, and what stands after it. -/
def readSlot? (cs : List Char) : Option (Slot × List Char) := do
  let key := cs.takeWhile (· != ')')
  let field ← Field.ofName? (String.ofList key)
  let rest := cs.drop (key.length + 1)
  let flags := rest.takeWhile isFlag
  let rest := rest.drop flags.length
  let width := rest.takeWhile Char.isDigit
  let rest := rest.drop width.length
  let (precision, rest) := match rest with
    | '.' :: more =>
      let ds := more.takeWhile Char.isDigit
      (some (digitsValue ds), more.drop ds.length)
    | _ => (none, rest)
  match rest with
  | c :: rest =>
    return ({ field, flags, width := digitsValue width, precision, conversion := c }, rest)
  | [] => none

/-- Reads the pieces of a layout. -/
def readPieces? : Nat → List Char → Option (List LayoutPiece)
  | 0, _ => none
  | _, [] => some []
  | fuel + 1, '%' :: '%' :: rest => (readPieces? fuel rest).map (.char '%' :: ·)
  | fuel + 1, '%' :: '(' :: rest => do
    let (s, after) ← readSlot? rest
    return .slot s :: (← readPieces? fuel after)
  | _ + 1, '%' :: _ => none
  | fuel + 1, c :: rest => (readPieces? fuel rest).map (.char c :: ·)

/-- The layout of a text; none if the text has no slot. An empty text stands for the message alone. -/
def ofText? (text : String) : Option Layout :=
  let cs := if text.isEmpty then "%(message)s".toList else text.toList
  if hasSlot cs then some { pieces := readPieces? (cs.length + 1) cs } else none

end Layout

/-- Fills a text up to a width. -/
def Slot.fill (s : Slot) (text : String) : String :=
  let missing := "".pushn ' ' (s.width - text.length)
  if s.flags.contains '-' then text ++ missing else missing ++ text

def Slot.showText (s : Slot) (text : String) : String :=
  s.fill (match s.precision with
    | some n => String.ofList (text.toList.take n)
    | none => text)

/-- A number, with its sign and the zeros that are asked for. -/
def Slot.showNumber (s : Slot) (n : Int) : String :=
  let sign := if n < 0 then "-" else if s.flags.contains '+' then "+"
    else if s.flags.contains ' ' then " " else ""
  let digits := toString n.natAbs
  let digits := "".pushn '0' (s.precision.getD 0 - digits.length) ++ digits
  let zeros := if s.flags.contains '0' && !s.flags.contains '-' then
      s.width - (sign.length + digits.length)
    else 0
  s.fill (sign ++ "".pushn '0' zeros ++ digits)

/-- A slot filled in; none if the field cannot be shown in that way. -/
def Slot.show? (s : Slot) (time : String) (r : Record) : Option String :=
  let asText (t : String) : Option String :=
    match s.conversion with
    | 's' => some (s.showText t)
    | 'r' => some (s.showText (Text.quoted t))
    | _ => none
  match s.field with
  | .logger => asText r.logger
  | .levelName => asText (Level.name r.level)
  | .message => asText r.message
  | .time => asText time
  | .thread => asText "MainThread"
  | .process => asText "MainProcess"
  | .level =>
    match s.conversion with
    | 's' | 'r' => some (s.showText (toString r.level))
    | 'd' | 'i' | 'u' => some (s.showNumber r.level)
    | _ => none

def LayoutPiece.show? (time : String) (r : Record) : LayoutPiece → Option String
  | char c => some (String.singleton c)
  | slot s => s.show? time r

/-- A record on a line, without the end of the line. -/
def Layout.render? (l : Layout) (time : String) (r : Record) : Option String := do
  let shown ← (← l.pieces).mapM (LayoutPiece.show? time r)
  return String.join shown

end SketchSurvey.Log

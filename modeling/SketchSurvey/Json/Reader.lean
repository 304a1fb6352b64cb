import SketchSurvey.Json.Document
import SketchSurvey.Text.Digit

/-!
Reading values. What is read is the standard's language and three more numbers: `NaN`, `Infinity` and
`-Infinity`.
-/

set_option autoImplicit false

namespace SketchSurvey.Json

open SketchSurvey.Number

inductive ReadCause where
  | value
  | extraData
  | propertyName
  | colon
  | comma
  | unterminatedString
  | controlCharacter
  | badEscape
  | badCodeEscape
  | byteOrderMark
  /-- A whole number has more digits than are read. -/
  | tooManyDigits (count : Nat)
  deriving BEq, Repr

namespace ReadCause

def message : ReadCause → String
  | value => "Expecting value"
  | extraData => "Extra data"
  | propertyName => "Expecting property name enclosed in double quotes"
  | colon => "Expecting ':' delimiter"
  | comma => "Expecting ',' delimiter"
  | unterminatedString => "Unterminated string starting at"
  | controlCharacter => "Invalid control character at"
  | badEscape => "Invalid \\escape"
  | badCodeEscape => "Invalid \\uXXXX escape"
  | byteOrderMark => "Unexpected UTF-8 BOM (decode using utf-8-sig)"
  | tooManyDigits count => Text.tooManyDigitsMessage count

end ReadCause

/-- Where reading failed, and why. -/
structure ReadError where
  cause : ReadCause
  position : Nat
  deriving BEq, Repr

namespace ReadError

/-- The line and column of a place in a text, both counted from one. -/
def lineAndColumn (text : List Char) (position : Nat) : Nat × Nat :=
  (text.take position).foldl (fun (line, column) c =>
    if c = '\n' then (line + 1, 1) else (line, column + 1)) (1, 1)

def message (text : String) (e : ReadError) : String :=
  match e.cause with
  | .tooManyDigits _ => e.cause.message
  | cause =>
    let (line, column) := lineAndColumn text.toList e.position
    cause.message ++ ": line " ++ toString line ++ " column " ++ toString column ++ " (char " ++
      toString e.position ++ ")"

end ReadError

/-- The text that is left, and how many characters stand before it. -/
structure Rest where
  position : Nat
  chars : List Char

def fail {α : Type} (cause : ReadCause) (position : Nat) : Except ReadError α :=
  .error ⟨cause, position⟩

def isSpace (c : Char) : Bool := c == ' ' || c == '\t' || c == '\n' || c == '\r'

def Rest.skipSpace (r : Rest) : Rest :=
  go r.position r.chars
where
  go (n : Nat) : List Char → Rest
    | [] => ⟨n, []⟩
    | c :: cs => if isSpace c then go (n + 1) cs else ⟨n, c :: cs⟩

def hexValue? (c : Char) : Option Nat :=
  if '0' ≤ c && c ≤ '9' then some (c.toNat - 48)
  else if 'a' ≤ c && c ≤ 'f' then some (c.toNat - 87)
  else if 'A' ≤ c && c ≤ 'F' then some (c.toNat - 55)
  else none

/-- The number that four digits stand for. -/
def hex4? : List Char → Option Nat
  | [a, b, c, d] => do
    return (← hexValue? a) * 4096 + (← hexValue? b) * 256 + (← hexValue? c) * 16 + (← hexValue? d)
  | _ => none

/-- Reads a text from after its opening quote, which stood at `opening`. -/
def readString (opening : Nat) : Nat → Nat → Points → List Char → Except ReadError (Points × Rest)
  | 0, _, _, _ => fail .unterminatedString opening
  | _, _, _, [] => fail .unterminatedString opening
  | fuel + 1, n, acc, c :: cs =>
    if c = '"' then .ok (acc.reverse, ⟨n + 1, cs⟩)
    else if c = '\\' then
      match cs with
      | [] => fail .unterminatedString opening
      | 'u' :: more =>
        -- a character must stand after the digits
        if more.length < 5 then fail .badCodeEscape (n + 1)
        else
          match hex4? (more.take 4) with
          | none => fail .badCodeEscape (n + 1)
          | some high =>
            let after := more.drop 4
            match after with
            | '\\' :: 'u' :: low =>
              if isHighHalf high && low.length ≥ 5 then
                match hex4? (low.take 4) with
                | none => fail .badCodeEscape (n + 7)
                | some l =>
                  if isLowHalf l then
                    let joined := 0x10000 + (high - 0xD800) * 1024 + (l - 0xDC00)
                    readString opening fuel (n + 12) (joined :: acc) (low.drop 4)
                  else readString opening fuel (n + 6) (high :: acc) after
              else readString opening fuel (n + 6) (high :: acc) after
            | _ => readString opening fuel (n + 6) (high :: acc) after
      | d :: more =>
        let plain : Option Char := match d with
          | '"' => some '"'
          | '\\' => some '\\'
          | '/' => some '/'
          | 'b' => some '\x08'
          | 'f' => some '\x0c'
          | 'n' => some '\n'
          | 'r' => some '\r'
          | 't' => some '\t'
          | _ => none
        match plain with
        | some p => readString opening fuel (n + 2) (p.toNat :: acc) more
        | none => fail .badEscape n
    else if c.toNat ≤ 0x1F then fail .controlCharacter n
    else readString opening fuel (n + 1) (c.toNat :: acc) cs

def takeDigits (cs : List Char) : List Char × List Char := cs.span Char.isDigit

def digitsValue (ds : List Char) : Nat := ds.foldl (fun n c => n * 10 + (c.toNat - 48)) 0

/-- Whether a minus sign stands here, and what follows it. -/
def readSign : List Char → Bool × List Char
  | '-' :: cs => (true, cs)
  | cs => (false, cs)

/-- The digits of a whole number, which start with a zero only if there are no more. -/
def readWhole? : List Char → Option (List Char × List Char)
  | '0' :: cs => some (['0'], cs)
  | c :: cs => if '1' ≤ c && c ≤ '9' then some (takeDigits (c :: cs)) else none
  | [] => none

/-- The digits of a fraction, of which there is at least one. -/
def readFraction? : List Char → Option (List Char × List Char)
  | '.' :: cs =>
    let (digits, rest) := takeDigits cs
    if digits.isEmpty then none else some (digits, rest)
  | _ => none

structure Exponent where
  value : Int
  /-- How many characters it takes. -/
  width : Nat

def readExponent? : List Char → Option (Exponent × List Char)
  | [] => none
  | e :: cs =>
    if e = 'e' || e = 'E' then
      let (negative, afterSign) := match cs with
        | '+' :: more => (false, more)
        | cs => readSign cs
      let (digits, rest) := takeDigits afterSign
      let size : Int := digitsValue digits
      if digits.isEmpty then none
      else some ({
        value := if negative then -size else size
        width := 1 + (cs.length - afterSign.length) + digits.length }, rest)
    else none

/-- Reads a number: digits without a leading zero, and perhaps a fraction and an exponent. -/
def readNumber (r : Rest) : Except ReadError (Document × Rest) :=
  let (negative, cs) := readSign r.chars
  match readWhole? cs with
  | none => fail .value r.position
  | some (whole, cs) =>
    let n := r.position + (if negative then 1 else 0) + whole.length
    match readFraction? cs with
    | none =>
      match readExponent? cs with
      | none =>
        if whole.length > Text.maxDigits then fail (.tooManyDigits whole.length) r.position
        else
          let value : Int := digitsValue whole
          .ok (.int (if negative then -value else value), ⟨n, cs⟩)
      | some (x, cs) => .ok (.float (.ofDecimal negative (digitsValue whole) x.value), ⟨n + x.width, cs⟩)
    | some (fraction, cs) =>
      let n := n + 1 + fraction.length
      let digits := digitsValue (whole ++ fraction)
      match readExponent? cs with
      | none => .ok (.float (.ofDecimal negative digits (-fraction.length)), ⟨n, cs⟩)
      | some (x, cs) =>
        .ok (.float (.ofDecimal negative digits (x.value - fraction.length)), ⟨n + x.width, cs⟩)

/-- The words that are values. -/
def words : List (String × Document) := [
  ("null", .null), ("true", .bool true), ("false", .bool false), ("NaN", .float .notANumber),
  ("Infinity", .float (.infinite false)), ("-Infinity", .float (.infinite true))]

def readWord? (r : Rest) : Option (Document × Rest) :=
  words.findSome? fun (w, v) =>
    if w.toList.isPrefixOf r.chars then
      some (v, ⟨r.position + w.length, r.chars.drop w.length⟩)
    else none

mutual

/-- Reads a value. `fuel` bounds how deep values nest and how many there are. -/
def readValue : Nat → Rest → Except ReadError (Document × Rest)
  | 0, r => fail .value r.position
  | fuel + 1, r =>
    match r.chars with
    | '"' :: cs => do
      let (s, r) ← readString r.position (cs.length + 1) (r.position + 1) [] cs
      return (.string s, r)
    | '{' :: cs =>
      let r := (Rest.mk (r.position + 1) cs).skipSpace
      match r.chars with
      | '}' :: cs => .ok (.object [], ⟨r.position + 1, cs⟩)
      | _ => readMembers fuel r []
    | '[' :: cs =>
      let r := (Rest.mk (r.position + 1) cs).skipSpace
      match r.chars with
      | ']' :: cs => .ok (.array [], ⟨r.position + 1, cs⟩)
      | _ => readItems fuel r []
    | _ =>
      match readWord? r with
      | some found => .ok found
      | none => readNumber r

def readMembers : Nat → Rest → List (Points × Document) → Except ReadError (Document × Rest)
  | 0, r, _ => fail .value r.position
  | fuel + 1, r, acc =>
    match r.chars with
    | '"' :: cs => do
      let (key, r) ← readString r.position (cs.length + 1) (r.position + 1) [] cs
      let r := r.skipSpace
      match r.chars with
      | ':' :: cs =>
        let r := (Rest.mk (r.position + 1) cs).skipSpace
        let (value, r) ← readValue fuel r
        let acc := put acc key value
        let r := r.skipSpace
        match r.chars with
        | '}' :: cs => return (.object acc, ⟨r.position + 1, cs⟩)
        | ',' :: cs => readMembers fuel (Rest.mk (r.position + 1) cs).skipSpace acc
        | _ => fail .comma r.position
      | _ => fail .colon r.position
    | _ => fail .propertyName r.position

def readItems : Nat → Rest → List Document → Except ReadError (Document × Rest)
  | 0, r, _ => fail .value r.position
  | fuel + 1, r, acc => do
    let (value, r) ← readValue fuel r
    let r := r.skipSpace
    match r.chars with
    | ']' :: cs => return (.array (value :: acc).reverse, ⟨r.position + 1, cs⟩)
    | ',' :: cs => readItems fuel (Rest.mk (r.position + 1) cs).skipSpace (value :: acc)
    | _ => fail .comma r.position

end

/-- Reads a whole text as one value. -/
def parseDocument (text : String) : Except ReadError Document :=
  match text.toList with
  | '\uFEFF' :: _ => fail .byteOrderMark 0
  | cs => do
    let (value, r) ← readValue (2 * cs.length + 2) (Rest.mk 0 cs).skipSpace
    let r := r.skipSpace
    if r.chars.isEmpty then return value else fail .extraData r.position

/-- Reads a whole text as one value, with nothing but characters in the texts within. -/
def parse (text : String) : Except ReadError Value := (parseDocument text).map Document.toValue

end SketchSurvey.Json

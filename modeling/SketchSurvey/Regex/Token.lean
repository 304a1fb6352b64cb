/-!
The tokens of a regular expression, and the pattern that matches one text alone.
-/

set_option autoImplicit false

namespace SketchSurvey.Regex

/-- A character, or a backslash and the character after it. -/
structure Token where
  position : Nat
  chars : List Char
  deriving Repr, Inhabited

def Token.text (t : Token) : String := String.ofList t.chars

/-- The character that the token is, unless it is escaped. -/
def Token.plain? (t : Token) : Option Char :=
  match t.chars with
  | [c] => if c = '\\' then none else some c
  | _ => none

/-- Whether the token is a backslash with nothing after it. -/
def Token.isDangling (t : Token) : Bool := t.chars == ['\\']

def tokens (position : Nat) : List Char → List Token
  | [] => []
  | '\\' :: c :: rest => ⟨position, ['\\', c]⟩ :: tokens (position + 2) rest
  | c :: rest => ⟨position, [c]⟩ :: tokens (position + 1) rest

/-- Whether the token opens a group, or stands for itself in a set. -/
def Token.isOpening (t : Token) : Bool := t.plain? == some '('

/-- The characters that mean something in a pattern, and white space. -/
def specialChars : List Char := "()[]\x7b\x7d?*+-|^$\\.&~# \t\n\r\x0b\x0c".toList

def escapeChar (c : Char) : List Char := if specialChars.contains c then ['\\', c] else [c]

def escape (s : String) : String := String.ofList (s.toList.flatMap escapeChar)

end SketchSurvey.Regex

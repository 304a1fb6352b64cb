import SketchSurvey.Json.Value

/-!
Values as they stand in a text. A text can hold half of a surrogate pair by its code, which is no
character, so the texts within are kept as code points.
-/

set_option autoImplicit false

namespace SketchSurvey.Json

open SketchSurvey.Number

/-- A text, of which each point is a character or a lone half of a pair. -/
abbrev Points := List Nat

def isHighHalf (n : Nat) : Bool := 0xD800 ≤ n && n ≤ 0xDBFF

def isLowHalf (n : Nat) : Bool := 0xDC00 ≤ n && n ≤ 0xDFFF

/-- A character by its number. The replacement character stands in for what is none. -/
def charOf (n : Nat) : Char := if n.isValidChar then Char.ofNat n else '\uFFFD'

def textOf (points : Points) : String := String.ofList (points.map charOf)

def pointsOf (s : String) : Points := s.toList.map Char.toNat

inductive Document where
  | null
  | bool (b : Bool)
  | int (n : Int)
  | float (x : Double)
  | string (s : Points)
  | array (items : List Document)
  | object (members : List (Points × Document))
  deriving Inhabited

/-- Members with their keys in the order of a text. -/
abbrev Members := List (Points × Document)

mutual

/-- The value with nothing but characters in its texts. -/
def Document.toValue : Document → Value
  | .null => .null
  | .bool b => .bool b
  | .int n => .int n
  | .float x => .float x
  | .string s => .string (textOf s)
  | .array items => .array (valuesOf items)
  | .object members => .object (givenOf members)

def valuesOf : List Document → List Value
  | [] => []
  | d :: ds => d.toValue :: valuesOf ds

def givenOf : Members → List (String × Value)
  | [] => []
  | (key, d) :: ms => (textOf key, d.toValue) :: givenOf ms

end

mutual

def Value.toDocument : Value → Document
  | .null => .null
  | .bool b => .bool b
  | .int n => .int n
  | .float x => .float x
  | .string s => .string (pointsOf s)
  | .array items => .array (documentsOf items)
  | .object members => .object (membersOf members)

def documentsOf : List Value → List Document
  | [] => []
  | v :: vs => v.toDocument :: documentsOf vs

def membersOf : List (String × Value) → Members
  | [] => []
  | (key, v) :: ms => (pointsOf key, v.toDocument) :: membersOf ms

end

end SketchSurvey.Json

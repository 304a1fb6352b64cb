import SketchSurvey.Text.Ranges

/-!
White space, and cutting it off the ends of a text.
-/

set_option autoImplicit false

namespace SketchSurvey.Text

/-- White space of any script, with the separators of lines, fields and records. -/
def blanks : Ranges := [
  (9, 13), (28, 32), (0x85, 0x85), (0xA0, 0xA0), (0x1680, 0x1680), (0x2000, 0x200A),
  (0x2028, 0x2029), (0x202F, 0x202F), (0x205F, 0x205F), (0x3000, 0x3000)]

def isBlank (c : Char) : Bool := blanks.has c

def trimList (cs : List Char) : List Char :=
  ((cs.dropWhile isBlank).reverse.dropWhile isBlank).reverse

/-- A text without the white space at its ends. -/
def trim (s : String) : String := String.ofList (trimList s.toList)

end SketchSurvey.Text

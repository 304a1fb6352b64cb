import SketchSurvey.Regex.Token
import SketchSurvey.Script.Node

/-!
What the program takes from the system and the interpreter that it runs on, without a look inside.
-/

set_option autoImplicit false

namespace SketchSurvey

class Host where
  /-- The concrete tree of a text by the script grammar. Where the text is no script, the tree has errors
  in it. -/
  readTree : String → Script.Node
  /-- Whether working through the tree of a script takes more of the stack than there is. -/
  exhaustedByScript : String → Bool
  /-- Whether reading a pattern takes more of the stack than there is. -/
  exhaustedByPattern : String → Bool
  /-- There is room for a group that is not inside another. -/
  fits_of_single (pattern : String) :
    (Regex.tokens 0 pattern.toList).countP Regex.Token.isOpening ≤ 1 →
      exhaustedByPattern pattern = false
  /-- The code point of the character that has a name. -/
  characterNamed? : String → Option Nat
  /-- What keeps the system from looking for a user by some name, in its own words. -/
  unencodable? : String → Option String
  /-- What keeps a text from being written to the standard output, in the words of its encoding. -/
  unprintable? : String → Option String

end SketchSurvey

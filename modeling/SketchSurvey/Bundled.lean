import SketchSurvey.Regex.CharacterNames
import SketchSurvey.Script.ReadTree

/-!
What the program brings along where nothing else is given: a reader of the script grammar and the common
names of characters. The stack has no end, and everything can be written.
-/

set_option autoImplicit false

namespace SketchSurvey

@[reducible]
def Host.bundled : Host where
  readTree := Script.readScriptTree
  exhaustedByScript _ := false
  exhaustedByPattern _ := false
  fits_of_single _ _ := rfl
  characterNamed? := Regex.characterNamed?
  unencodable? _ := none
  unprintable? _ := none

end SketchSurvey

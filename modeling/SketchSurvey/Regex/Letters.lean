import SketchSurvey.Regex.Syntax
import SketchSurvey.Text.Case
import SketchSurvey.Text.Blank
import SketchSurvey.Text.Digit
import SketchSurvey.Text.WordTable

/-!
Which characters a pattern takes for letters, and for the same letter.
-/

set_option autoImplicit false

namespace SketchSurvey.Regex

/-- Small letters that share a capital. -/
def sharedCapital : List (Nat × List Nat) := [
  (0x69, [0x131]), (0x73, [0x17F]), (0xB5, [0x3BC]), (0x131, [0x69]), (0x17F, [0x73]),
  (0x345, [0x3B9, 0x1FBE]), (0x390, [0x1FD3]), (0x3B0, [0x1FE3]), (0x3B2, [0x3D0]),
  (0x3B5, [0x3F5]), (0x3B8, [0x3D1]), (0x3B9, [0x345, 0x1FBE]), (0x3BA, [0x3F0]), (0x3BC, [0xB5]),
  (0x3C0, [0x3D6]), (0x3C1, [0x3F1]), (0x3C2, [0x3C3]), (0x3C3, [0x3C2]), (0x3C6, [0x3D5]),
  (0x3D0, [0x3B2]), (0x3D1, [0x3B8]), (0x3D5, [0x3C6]), (0x3D6, [0x3C0]), (0x3F0, [0x3BA]),
  (0x3F1, [0x3C1]), (0x3F5, [0x3B5]), (0x432, [0x1C80]), (0x434, [0x1C81]), (0x43E, [0x1C82]),
  (0x441, [0x1C83]), (0x442, [0x1C84, 0x1C85]), (0x44A, [0x1C86]), (0x463, [0x1C87]),
  (0x1C80, [0x432]), (0x1C81, [0x434]), (0x1C82, [0x43E]), (0x1C83, [0x441]),
  (0x1C84, [0x442, 0x1C85]), (0x1C85, [0x442, 0x1C84]), (0x1C86, [0x44A]), (0x1C87, [0x463]),
  (0x1C88, [0xA64B]), (0x1E61, [0x1E9B]), (0x1E9B, [0x1E61]), (0x1FBE, [0x345, 0x3B9]),
  (0x1FD3, [0x390]), (0x1FE3, [0x3B0]), (0xA64B, [0x1C88]), (0xFB05, [0xFB06]), (0xFB06, [0xFB05])]

/-- The small counterpart of a letter, one for one. -/
def smallLetter (ascii : Bool) (n : Nat) : Nat :=
  if n < 128 then if 65 ≤ n && n ≤ 90 then n + 32 else n
  else if ascii then n
  -- a capital with a dot has the plain small letter
  else if n == 0x130 then 0x69
  else (Text.lowerShifts.findSome? (·.counterpart? n)).getD n

def capitalLetter (n : Nat) : Nat :=
  if n < 128 then if 97 ≤ n && n ≤ 122 then n - 32 else n
  else (Text.upperShifts.findSome? (·.counterpart? n)).getD n

/-- The small letters that stand for the same letter as a character does. -/
def sameLetters (ascii : Bool) (n : Nat) : List Nat :=
  let l := smallLetter ascii n
  if ascii then [l]
  else l :: (((sharedCapital.find? (·.1 == l)).map (·.2)).getD [])

/-- Whether a character equals one of a pattern. -/
def Flags.sameChar (f : Flags) (wanted found : Nat) : Bool :=
  if f.ignoreCase then (sameLetters f.ascii wanted).contains (smallLetter f.ascii found)
  else wanted == found

def isWordChar (ascii : Bool) (c : Char) : Bool :=
  if c.toNat < 128 then c.isAlphanum || c == '_'
  else !ascii && Text.alphanumeric.has c

def Category.has (ascii : Bool) (c : Char) : Category → Bool
  | .digit => if ascii then '0' ≤ c && c ≤ '9' else (Text.digitValue? c).isSome
  | .space =>
    if ascii then c == ' ' || (9 ≤ c.toNat && c.toNat ≤ 13) else Text.isBlank c
  | .word => isWordChar ascii c

def SetItem.has (f : Flags) (c : Char) : SetItem → Bool
  | .literal n => f.sameChar n c.toNat
  | .range lo hi =>
    let within (n : Nat) : Bool := lo ≤ n && n ≤ hi
    if f.ignoreCase then
      -- the letters of which some small form is one of the character's
      (sameLetters f.ascii c.toNat).any fun l =>
        within l || within (capitalLetter l) || within c.toNat
    else within c.toNat
  | .category negated k => k.has f.ascii c != negated

end SketchSurvey.Regex

import SketchSurvey.Text.CaseTable
import SketchSurvey.Text.CasedTable

/-!
Texts in small letters and in capitals.
-/

set_option autoImplicit false

namespace SketchSurvey.Text

def Shift.counterpart? (s : Shift) (n : Nat) : Option Nat :=
  if s.first ≤ n && n ≤ s.last && (n - s.first) % s.step == 0 then some (n + s.delta).toNat
  else none

/-- A character's counterpart by a table of shifts and one of special cases. -/
def mapCase (shifts : List Shift) (specials : List (Nat × List Nat)) (c : Char) : List Char :=
  match shifts.findSome? (·.counterpart? c.toNat) with
  | some n => [Char.ofNat n]
  | none =>
    match specials.find? (·.1 == c.toNat) with
    | some (_, ns) => ns.map Char.ofNat
    | none => [c]

def upperChar (c : Char) : List Char :=
  if c.toNat < 128 then [c.toUpper] else mapCase upperShifts upperSpecials c

def lowerChar (c : Char) : List Char :=
  if c.toNat < 128 then [c.toLower] else mapCase lowerShifts lowerSpecials c

/-- Whether the nearest character that is no mark has a case. -/
def nearestIsCased (cs : List Char) : Bool :=
  match cs.dropWhile caseIgnorable.has with
  | c :: _ => cased.has c
  | [] => false

def capitalSigma : Char := '\u03A3'

/-- Small letters; a capital sigma at the end of a word has a form of its own. `before` holds what
stands before, the nearest first. -/
def lowerFrom (before : List Char) : List Char → List Char
  | [] => []
  | c :: rest =>
    let small :=
      if c = capitalSigma then
        if nearestIsCased before && !nearestIsCased rest then ['\u03C2'] else ['\u03C3']
      else lowerChar c
    small ++ lowerFrom (c :: before) rest

def lower (s : String) : String := String.ofList (lowerFrom [] s.toList)

def upper (s : String) : String := String.ofList (s.toList.flatMap upperChar)

end SketchSurvey.Text

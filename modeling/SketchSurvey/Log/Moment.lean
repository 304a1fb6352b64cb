/-!
Moments of time and how they are written.
-/

set_option autoImplicit false

namespace SketchSurvey.Log

structure Moment where
  year : Nat
  month : Nat
  day : Nat
  hour : Nat
  minute : Nat
  second : Nat
  deriving BEq, Repr, DecidableEq

/-- A number with zeros before it, at least `width` digits long. -/
def padded (width n : Nat) : String :=
  let digits := toString n
  "".pushn '0' (width - digits.length) ++ digits

/-- The part of a moment that a letter stands for. -/
def Moment.part? (m : Moment) : Char → Option String
  | 'Y' => some (padded 4 m.year)
  | 'm' => some (padded 2 m.month)
  | 'd' => some (padded 2 m.day)
  | 'H' => some (padded 2 m.hour)
  | 'M' => some (padded 2 m.minute)
  | 'S' => some (padded 2 m.second)
  | '%' => some "%"
  | _ => none

/-- Writes a moment. Letters after a percent sign stand for its parts. -/
def Moment.writeAs (m : Moment) : List Char → String
  | '%' :: c :: rest =>
    (match m.part? c with
      | some part => part
      | none => String.ofList ['%', c]) ++ m.writeAs rest
  | c :: rest => String.singleton c ++ m.writeAs rest
  | [] => ""

/-- Writes a moment; the format that is used where none is given shows thousandths too. -/
def Moment.write (m : Moment) (format : String) : String :=
  if format.isEmpty then m.writeAs "%Y-%m-%d %H:%M:%S".toList ++ ",000"
  else m.writeAs format.toList

end SketchSurvey.Log

import SketchSurvey.Number.Double

/-!
Values of configuration files and reports.
-/

set_option autoImplicit false

namespace SketchSurvey.Json

open SketchSurvey.Number

/-- An object keeps the order of its members; a key stands in it once. -/
inductive Value where
  | null
  | bool (b : Bool)
  | int (n : Int)
  | float (x : Double)
  | string (s : String)
  | array (items : List Value)
  | object (members : List (String × Value))
  deriving Inhabited, BEq

/-- Gives a key its value; a key that is known keeps its place. -/
def put {κ α : Type} [BEq κ] (members : List (κ × α)) (key : κ) (value : α) : List (κ × α) :=
  if members.any (·.1 == key) then
    members.map fun (k, v) => if k == key then (k, value) else (k, v)
  else members ++ [(key, value)]

/-- Members that are given one after another, on top of those that are known. -/
def putAll {κ α : Type} [BEq κ] (known members : List (κ × α)) : List (κ × α) :=
  members.foldl (fun known m => put known m.1 m.2) known

namespace Value

def ofStrings (l : List String) : Value := .array (l.map .string)

def ofOption : Option String → Value
  | some s => .string s
  | none => .null

end Value

end SketchSurvey.Json

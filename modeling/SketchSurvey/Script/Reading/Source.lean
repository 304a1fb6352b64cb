/-!
A text as it is read: places in it, and the characters found there.
-/

set_option autoImplicit false

namespace SketchSurvey.Script.Reading

/-- A stretch of text, or a place as the stretch before it: in characters, in bytes of the encoded
text, and in line feeds. -/
structure Extent where
  chars : Nat := 0
  bytes : Nat := 0
  rows : Nat := 0
  deriving BEq, Repr, Inhabited, DecidableEq

namespace Extent

instance : Add Extent := ⟨fun a b => ⟨a.chars + b.chars, a.bytes + b.bytes, a.rows + b.rows⟩⟩

instance : Sub Extent := ⟨fun a b => ⟨a.chars - b.chars, a.bytes - b.bytes, a.rows - b.rows⟩⟩

end Extent

structure Source where
  chars : Array Char
  deriving Inhabited

namespace Source

def ofString (s : String) : Source := ⟨s.toList.toArray⟩

def atEnd (s : Source) (p : Extent) : Bool := s.chars.size ≤ p.chars

/-- The character at a place, as a number; zero at the end. -/
def look (s : Source) (p : Extent) : Nat := (s.chars[p.chars]?).elim 0 Char.toNat

def advance (s : Source) (p : Extent) : Extent :=
  match s.chars[p.chars]? with
  | some c => ⟨p.chars + 1, p.bytes + c.utf8Size, p.rows + if c = '\n' then 1 else 0⟩
  | none => p

theorem advance_decreases {s : Source} {p : Extent} (h : s.atEnd p = false) :
    s.chars.size - (s.advance p).chars < s.chars.size - p.chars := by
  simp only [atEnd, decide_eq_false_iff_not, Nat.not_le] at h
  simp only [advance, Array.getElem?_eq_getElem h]
  omega

/-- The first place, from `p` on, whose character fails the test. -/
def skipWhile (s : Source) (test : Nat → Bool) (p : Extent) : Extent :=
  if _h : s.atEnd p = false then
    if test (s.look p) then s.skipWhile test (s.advance p) else p
  else p
termination_by s.chars.size - p.chars
decreasing_by exact advance_decreases _h

def slice (s : Source) (start stop : Nat) : String :=
  String.ofList (s.chars.extract start stop).toList

end Source

end SketchSurvey.Script.Reading

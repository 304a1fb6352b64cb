/-!
Sets of characters, as the token shapes of the script grammar use them.
-/

set_option autoImplicit false

namespace SketchSurvey.Script.Grammar

/-- A set of code points: inclusive ranges in increasing order that do not touch. -/
structure CharSet where
  ranges : List (Nat × Nat)
  deriving BEq, Hashable, Repr

namespace CharSet

/-- The largest code point. -/
def last : Nat := 0x10FFFF

def contains (s : CharSet) (c : Nat) : Bool :=
  s.ranges.any fun (lo, hi) => lo ≤ c && c ≤ hi

/-- Inserts one range, merging it with the ranges it meets. -/
def insertRange (lo hi : Nat) : List (Nat × Nat) → List (Nat × Nat)
  | [] => [(lo, hi)]
  | (a, b) :: rest =>
    if hi + 1 < a then (lo, hi) :: (a, b) :: rest
    else if b + 1 < lo then (a, b) :: insertRange lo hi rest
    else insertRange (min lo a) (max hi b) rest

def ofRanges (rs : List (Nat × Nat)) : CharSet :=
  ⟨rs.foldl (fun acc (lo, hi) => insertRange lo hi acc) []⟩

def single (c : Char) : CharSet := ⟨[(c.toNat, c.toNat)]⟩

def ofString (s : String) : CharSet := ofRanges (s.toList.map fun c => (c.toNat, c.toNat))

def range (lo hi : Char) : CharSet := ⟨[(lo.toNat, hi.toNat)]⟩

def union (s t : CharSet) : CharSet := ofRanges (s.ranges ++ t.ranges)

instance : Append CharSet := ⟨union⟩

/-- The gaps between the ranges, from `next` on. -/
def gaps (next : Nat) : List (Nat × Nat) → List (Nat × Nat)
  | [] => if next ≤ last then [(next, last)] else []
  | (lo, hi) :: rest => if next < lo then (next, lo - 1) :: gaps (hi + 1) rest else gaps (hi + 1) rest

/-- Every character outside the set except NUL, which no complement holds. -/
def complement (s : CharSet) : CharSet := ⟨gaps 1 (ofRanges ((0, 0) :: s.ranges)).ranges⟩

def digit : CharSet := range '0' '9'

def hexDigit : CharSet := digit ++ range 'a' 'f' ++ range 'A' 'F'

def letter : CharSet := range 'a' 'z' ++ range 'A' 'Z'

/-- Tab to carriage return, and the blank. -/
def plainSpace : CharSet := ofRanges [(9, 13), (32, 32)]

/-- The separators of words in any script. -/
def wordSeparator : CharSet :=
  ofRanges [(0x20, 0x20), (0xA0, 0xA0), (0x1680, 0x1680), (0x2000, 0x200A), (0x202F, 0x202F),
    (0x205F, 0x205F), (0x3000, 0x3000)]

/-- The two separators of lines and paragraphs. -/
def lineSeparator : CharSet := ofRanges [(0x2028, 0x2029)]

/-- Invisible joiners that count as space. -/
def invisible : CharSet := ofRanges [(0xFEFF, 0xFEFF), (0x2060, 0x2060), (0x200B, 0x200B)]

/-- What may stand between two tokens. -/
def space : CharSet := plainSpace ++ wordSeparator ++ lineSeparator ++ invisible

end CharSet

end SketchSurvey.Script.Grammar

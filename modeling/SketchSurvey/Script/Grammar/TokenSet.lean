/-!
Sets of tokens, kept as three words.
-/

set_option autoImplicit false

namespace SketchSurvey.Script.Grammar

/-- A set of symbol numbers below 192. -/
structure TokenSet where
  low : UInt64 := 0
  middle : UInt64 := 0
  high : UInt64 := 0
  deriving BEq, Hashable, Repr, Inhabited

namespace TokenSet

def empty : TokenSet := {}

@[inline] def contains (s : TokenSet) (n : Nat) : Bool :=
  let bit : UInt64 := 1 <<< (n % 64).toUInt64
  if n < 64 then s.low &&& bit != 0
  else if n < 128 then s.middle &&& bit != 0
  else if n < 192 then s.high &&& bit != 0
  else false

@[inline] def insert (s : TokenSet) (n : Nat) : TokenSet :=
  let bit : UInt64 := 1 <<< (n % 64).toUInt64
  if n < 64 then { s with low := s.low ||| bit }
  else if n < 128 then { s with middle := s.middle ||| bit }
  else if n < 192 then { s with high := s.high ||| bit }
  else s

@[inline] def union (s t : TokenSet) : TokenSet :=
  ⟨s.low ||| t.low, s.middle ||| t.middle, s.high ||| t.high⟩

@[inline] def diff (s t : TokenSet) : TokenSet :=
  ⟨s.low &&& ~~~t.low, s.middle &&& ~~~t.middle, s.high &&& ~~~t.high⟩

@[inline] def meets (s t : TokenSet) : Bool :=
  s.low &&& t.low != 0 || s.middle &&& t.middle != 0 || s.high &&& t.high != 0

@[inline] def isEmpty (s : TokenSet) : Bool := s.low == 0 && s.middle == 0 && s.high == 0

def ofList (l : List Nat) : TokenSet := l.foldl insert empty

/-- The members below `bound`, in increasing order. -/
def below (s : TokenSet) (bound : Nat) : List Nat := (List.range bound).filter s.contains

end TokenSet

end SketchSurvey.Script.Grammar

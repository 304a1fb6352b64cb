import SketchSurvey.Script.Grammar.Flat
import SketchSurvey.Script.Grammar.TokenSet

/-!
The machine that recognises tokens. Every place in a token's shape where a character stands is a
position; a run of the machine is the set of positions that the text read so far may have reached.
Characters that no shape tells apart form one class.
-/

set_option autoImplicit false

namespace SketchSurvey.Script.Lexical

open SketchSurvey.Script.Grammar

/-- One place for a character in the shape of a token. -/
structure Position where
  token : Nat
  /-- The classes of characters that may stand here, one bit for each. -/
  classes : Nat
  rank : Int
  /-- Stands for space before the token. -/
  separator : Bool
  /-- A token may end here. -/
  final : Bool := false
  /-- The positions that may come next, in increasing order. -/
  follow : List Nat := []
  deriving Inhabited

/-- What the machine knows of a token as a whole. -/
structure TokenInfo where
  /-- The positions a token may start at, its leading space included. -/
  start : List Nat
  rank : Int
  /-- Decides between tokens of equal rank: a fixed text before a shape. -/
  firmness : Nat
  deriving Inhabited

structure Machine where
  /-- The first character of each class. -/
  classStarts : Array Nat
  positions : Array Position
  tokens : Array TokenInfo
  deriving Inhabited

/-- The boundaries between characters that a set tells apart. -/
def boundaries (s : CharSet) : List Nat := s.ranges.flatMap fun (lo, hi) => [lo, hi + 1]

def shapeSets : Shape → List CharSet
  | .empty => []
  | .chars s => [s]
  | .seq a b | .either a b => shapeSets a ++ shapeSets b
  | .many1 s => shapeSets s

/-- The class of a character: the last one that starts at or before it. -/
def classOf (starts : Array Nat) (c : Nat) : Nat :=
  -- binary search in at most as many halvings as a code point has bits
  let (lo, _) := (List.range 22).foldl (fun (lo, hi) _ =>
    if lo + 1 < hi then
      let mid := (lo + hi) / 2
      if starts.getD mid 0 ≤ c then (mid, hi) else (lo, mid)
    else (lo, hi)) (0, starts.size)
  lo

def classMask (starts : Array Nat) (s : CharSet) : Nat :=
  (List.range starts.size).foldl (fun mask i =>
    if s.contains (starts.getD i 0) then mask ||| (1 <<< i) else mask) 0

def mergeSorted (a b : List Nat) : List Nat :=
  (a ++ b).mergeSort.eraseReps

/-- First and last positions of a shape, and whether it may be empty. -/
structure Ends where
  first : List Nat
  last : List Nat
  nullable : Bool

def link (last first : List Nat) (ps : Array Position) : Array Position :=
  last.foldl (fun ps p => ps.modify p fun x => { x with follow := mergeSorted x.follow first }) ps

/-- Lays out the positions of a shape. -/
def layOut (starts : Array Nat) (token : Nat) (rank : Int) (separator : Bool) :
    Shape → Array Position → Array Position × Ends
  | .empty, ps => (ps, ⟨[], [], true⟩)
  | .chars s, ps =>
    (ps.push { token, classes := classMask starts s, rank, separator }, ⟨[ps.size], [ps.size], false⟩)
  | .seq a b, ps =>
    let (ps, x) := layOut starts token rank separator a ps
    let (ps, y) := layOut starts token rank separator b ps
    (link x.last y.first ps,
      ⟨if x.nullable then x.first ++ y.first else x.first,
       if y.nullable then x.last ++ y.last else y.last,
       x.nullable && y.nullable⟩)
  | .either a b, ps =>
    let (ps, x) := layOut starts token rank separator a ps
    let (ps, y) := layOut starts token rank separator b ps
    (ps, ⟨x.first ++ y.first, x.last ++ y.last, x.nullable || y.nullable⟩)
  | .many1 s, ps =>
    let (ps, x) := layOut starts token rank separator s ps
    (link x.last x.first ps, x)

/-- The machine for the tokens of a grammar. -/
def Machine.ofFlat (g : Flat) : Machine := Id.run do
  let sets := g.separator :: g.tokens.toList.flatMap fun t => shapeSets t.rule.body.toShape
  let starts := ((0 :: sets.flatMap boundaries).mergeSort).eraseReps.toArray
  let mut ps : Array Position := #[]
  let mut infos : Array TokenInfo := #[]
  for i in [0:g.tokens.size] do
    let some t := g.tokens[i]? | continue
    let rank := t.rule.rank
    let (ps', ends) := layOut starts i rank false t.rule.body.toShape ps
    ps := ends.last.foldl (fun ps p => ps.modify p fun x => { x with final := true }) ps'
    let mut start := ends.first
    unless t.rule.immediate do
      let own := ps.size
      ps := ps.push {
        token := i, classes := classMask starts g.separator, rank := 0, separator := true
        follow := mergeSorted [own] ends.first }
      start := own :: start
    let firmness := (match t.rule.body with | .text _ => 2 | .shape _ => 0) +
      (if t.rule.immediate then 1 else 0)
    infos := infos.push { start := mergeSorted start [], rank, firmness }
  return { classStarts := starts, positions := ps, tokens := infos }

namespace Machine

def classOfChar (m : Machine) (c : Nat) : Nat := classOf m.classStarts c

def start (m : Machine) (tokens : List Nat) : List Nat :=
  tokens.foldl (fun acc t => acc ++ (m.tokens.getD t default).start) []

/-- Whether the first of two completed tokens is taken. -/
def prefers (m : Machine) (a b : Nat) : Bool :=
  let x := m.tokens.getD a default
  let y := m.tokens.getD b default
  if x.rank != y.rank then x.rank > y.rank
  else if x.firmness != y.firmness then x.firmness > y.firmness
  else a < b

/-- The tokens that end at one of the positions. -/
def completed (m : Machine) (places : List Nat) : List Nat :=
  (places.filterMap fun p =>
    let x := m.positions.getD p default
    if x.final then some x.token else none).eraseDups

/-- The token taken when the text ends at one of the positions. -/
def completion (m : Machine) (places : List Nat) : Option Nat :=
  (m.completed places).foldl (fun best t =>
    match best with
    | some b => if m.prefers b t then best else some t
    | none => some t) none

/-- The positions that may be reached next. -/
def candidates (m : Machine) (places : List Nat) : List Nat :=
  mergeSorted (places.flatMap fun p => (m.positions.getD p default).follow) []

def hasSeparator (m : Machine) (candidates : List Nat) : Bool :=
  candidates.any fun p => (m.positions.getD p default).separator

/-- The tokens that positions belong to. -/
def owners (m : Machine) (ps : List Nat) : List Nat :=
  (ps.map fun p => (m.positions.getD p default).token).eraseDups

def rankOf (m : Machine) : List Nat → Int
  | [] => 0
  | p :: rest => rest.foldl (fun r q => max r (m.positions.getD q default).rank)
      (m.positions.getD p default).rank

/-- Whether every one of the positions stands for space. -/
def allSeparators (m : Machine) (ps : List Nat) : Bool :=
  ps.all fun p => (m.positions.getD p default).separator

/-- Whether reading on to `next` is better than ending with `token`. -/
def readsOn (m : Machine) (token : Nat) (withSeparator : Bool) (next : List Nat) : Bool :=
  let r := m.rankOf next
  let own := (m.tokens.getD token default).rank
  if r < own then false
  else if r == own then
    !m.allSeparators next && (!withSeparator || (m.owners next).contains token)
  else true

end Machine

end SketchSurvey.Script.Lexical

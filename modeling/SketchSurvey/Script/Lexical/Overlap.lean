import SketchSurvey.Script.Lexical.Machine

/-!
How the texts of two tokens overlap. States of the automaton may share a scanner only where the
tokens they expect do not get in each other's way.
-/

set_option autoImplicit false

namespace SketchSurvey.Script.Lexical

open SketchSurvey.Script.Grammar

/-- What one token does to another when both are expected. -/
structure Overlap where
  /-- It ends although the other could read on. -/
  endsEarly : Bool := false
  /-- It reads on where the other has ended. -/
  readsOn : Bool := false
  /-- It reads on into what may follow the other. -/
  readsIntoNext : Bool := false
  /-- It ends where the other may still read space. -/
  endsInSpace : Bool := false
  /-- It takes a text that the other matches too. -/
  takesSameText : Bool := false
  /-- It matches a text that the other does not. -/
  matchesOtherText : Bool := false
  deriving BEq, Inhabited

namespace Overlap

def conflicts (o : Overlap) : Bool := o.readsIntoNext || o.endsInSpace || o.takesSameText

def overlaps (o : Overlap) : Bool :=
  o.endsInSpace || o.endsEarly || o.takesSameText || o.readsOn

end Overlap

/-- Splits the characters by the set of positions they lead to. -/
def groupByTarget (m : Machine) (candidates : List Nat) : List (Nat × List Nat) :=
  let all := (1 <<< m.classStarts.size) - 1
  let groups := candidates.foldl (fun groups p =>
    let mask := (m.positions.getD p default).classes
    groups.flatMap fun (chars, ps) =>
      let inside := chars &&& mask
      let outside := chars ^^^ inside
      (if inside == 0 then [] else [(inside, ps ++ [p])]) ++
        (if outside == 0 then [] else [(outside, ps)])) [(all, [])]
  groups.filter fun (_, ps) => !ps.isEmpty

structure Comparison where
  first : Overlap := {}
  second : Overlap := {}

/-- Looks at one set of positions that token `i` and another may both have reached. -/
def compareAt (m : Machine) (followI followJ : Nat) (i : Nat) (done : List Nat)
    (candidates : List Nat) (acc : Comparison) : Comparison × List (List Nat) := Id.run do
  let mut acc := acc
  let withSeparator := m.hasSeparator candidates
  let mut completion : Option Nat := none
  for t in done do
    if withSeparator then
      if t == i then acc := { acc with first := { acc.first with endsInSpace := true } }
      else acc := { acc with second := { acc.second with endsInSpace := true } }
    match completion with
    | some p =>
      let preferred := if m.prefers p t then p else t
      completion := some preferred
      if preferred == i then acc := { acc with first := { acc.first with takesSameText := true } }
      else acc := { acc with second := { acc.second with takesSameText := true } }
    | none => completion := some t
  let mut next : List (List Nat) := []
  for (chars, ps) in groupByTarget m candidates do
    if let some c := completion then
      let live := m.owners ps
      unless live.contains c do
        if let some t := live.getLast? then
          if m.readsOn c withSeparator ps then
            if t == i then
              acc := { acc with first := { acc.first with
                readsOn := true
                readsIntoNext := acc.first.readsIntoNext || chars &&& followJ != 0 } }
            else
              acc := { acc with second := { acc.second with
                readsOn := true
                readsIntoNext := acc.second.readsIntoNext || chars &&& followI != 0 } }
          else if c == i then acc := { acc with first := { acc.first with endsEarly := true } }
          else acc := { acc with second := { acc.second with endsEarly := true } }
    next := ps :: next
  return (acc, next)

/-- Compares two tokens over all texts they may both be reading. -/
def compareTokens (m : Machine) (followI followJ : Nat) (i j : Nat) : Comparison := Id.run do
  let mut acc : Comparison := {}
  let mut queue : List (List Nat × List Nat) := [([], m.start [i, j])]
  let mut seen : List (List Nat) := []
  -- each round takes one set of positions; there are far fewer than a thousand
  for _ in [0:1000] do
    match queue with
    | [] => break
    | (places, candidates) :: rest =>
      queue := rest
      let live := if places.isEmpty then [i, j] else m.owners places
      match live with
      | [t] =>
        if t == i then acc := { acc with first := { acc.first with matchesOtherText := true } }
        else acc := { acc with second := { acc.second with matchesOtherText := true } }
      | _ =>
        let (acc', next) := compareAt m followI followJ i (m.completed places) candidates acc
        acc := acc'
        for ps in next do
          unless seen.contains ps do
            seen := ps :: seen
            queue := (ps, m.candidates ps) :: queue
  return acc

/-- The overlaps of all pairs of tokens. -/
structure Overlaps where
  count : Nat
  table : Array Overlap

namespace Overlaps

def get (o : Overlaps) (i j : Nat) : Overlap := o.table.getD (i * o.count + j) {}

/-- Whether token `i` matches shorter or longer texts than `j` in a way that shows. -/
def shorterOrLonger (o : Overlaps) (i j : Nat) : Bool :=
  let x := o.get i j
  (x.readsIntoNext || x.endsInSpace) && !(o.get j i).endsInSpace

/-- `following` gives for every token the tokens that may come after it. -/
def ofMachine (m : Machine) (following : Array TokenSet) : Overlaps := Id.run do
  let n := m.tokens.size
  let starting := m.tokens.map fun t =>
    t.start.foldl (fun mask p => mask ||| (m.positions.getD p default).classes) 0
  let followChars := following.map fun s =>
    (s.below n).foldl (fun mask t => mask ||| starting.getD t 0) 0
  let mut table : Array Overlap := Array.replicate (n * n) {}
  for i in [0:n] do
    for j in [0:i] do
      let c := compareTokens m (followChars.getD i 0) (followChars.getD j 0) i j
      table := (table.set! (i * n + j) c.first).set! (j * n + i) c.second
  return { count := n, table }

end Overlaps

end SketchSurvey.Script.Lexical

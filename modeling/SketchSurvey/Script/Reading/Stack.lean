import SketchSurvey.Script.Reading.Tree

/-!
The stack of a reader that may follow several readings of a text at once. Readings share what they
have in common: a cell has a link to every cell it may stand on.
-/

set_option autoImplicit false

namespace SketchSurvey.Script.Reading

open SketchSurvey.Script.Automaton

/-- A link to the cell below, over the tree between the two. No tree marks the start of recovery. -/
structure Link where
  below : Nat
  tree : Option Tree
  deriving Inhabited

structure Cell where
  state : Nat
  position : Extent := {}
  links : Array Link := #[]
  errorCost : Nat := 0
  /-- The most nodes that appear on a way down. -/
  nodes : Nat := 0
  weight : Int := 0
  deriving Inhabited

inductive Status where
  | active
  /-- An error was met at this token. -/
  | paused (lookahead : Tree)
  | halted
  deriving Inhabited

/-- A state that recovery may go back to. -/
structure Resort where
  position : Extent
  depth : Nat
  state : Nat
  deriving Inhabited

/-- One reading: the top cell of its stack. -/
structure Attempt where
  cell : Nat
  resorts : Option (Array Resort) := none
  /-- How many nodes there were when the last error was met. -/
  nodesAtError : Nat := 0
  status : Status := .active
  deriving Inhabited

structure Stack where
  cells : Array Cell
  readings : Array Attempt
  deriving Inhabited

/-- What was taken off the stack: the trees, and the reading that is left. -/
structure Slice where
  trees : List Tree
  reading : Nat
  deriving Inhabited

namespace Stack

def maxLinks : Nat := 8

def maxWays : Nat := 64

def start : Stack := { cells := #[{ state := startState }], readings := #[{ cell := 0 }] }

def count (s : Stack) : Nat := s.readings.size

def reading (s : Stack) (v : Nat) : Attempt := s.readings.getD v default

def cellAt (s : Stack) (n : Nat) : Cell := s.cells.getD n default

def top (s : Stack) (v : Nat) : Cell := s.cellAt (s.reading v).cell

def state (s : Stack) (v : Nat) : Nat := (s.top v).state

def position (s : Stack) (v : Nat) : Extent := (s.top v).position

def isActive (s : Stack) (v : Nat) : Bool :=
  match (s.reading v).status with
  | .active => true
  | _ => false

def isPaused (s : Stack) (v : Nat) : Bool :=
  match (s.reading v).status with
  | .paused _ => true
  | _ => false

def isHalted (s : Stack) (v : Nat) : Bool :=
  match (s.reading v).status with
  | .halted => true
  | _ => false

def haltedCount (s : Stack) : Nat := ((List.range s.count).filter s.isHalted).length

/-- Puts a tree on top of a reading. -/
def push (table : Table) (s : Stack) (v : Nat) (tree : Option Tree) (state : Nat) : Stack :=
  let r := s.reading v
  let below := s.cellAt r.cell
  let cell : Cell := {
    state
    position := below.position + (tree.map Tree.totalSize).getD {}
    links := #[{ below := r.cell, tree }]
    errorCost := below.errorCost + (tree.map Tree.errorCost).getD 0
    nodes := below.nodes + (tree.map (Tree.progress table)).getD 0
    weight := below.weight + (tree.map (·.info.weight)).getD 0 }
  let n := s.cells.size
  { cells := s.cells.push cell
    readings := s.readings.set! v { r with
      cell := n
      nodesAtError := if tree.isNone then cell.nodes else r.nodesAtError } }

/-- The cost of the errors so far; an error that is still open costs one recovery more. -/
def errorCost (s : Stack) (v : Nat) : Nat :=
  let c := s.top v
  let opened := c.state == errorState &&
    match c.links[0]? with
    | some l => l.tree.isNone
    | none => true
  c.errorCost + if s.isPaused v || opened then Cost.recovery else 0

/-- The nodes read since the last error; a count that has fallen below the mark moves the mark. -/
def nodesSinceError (s : Stack) (v : Nat) : Nat × Stack :=
  let r := s.reading v
  let nodes := (s.top v).nodes
  if nodes < r.nodesAtError then
    (0, { s with readings := s.readings.set! v { r with nodesAtError := nodes } })
  else (nodes - r.nodesAtError, s)

/-- Whether any text was taken since the last error. -/
def hasAdvanced (s : Stack) (v : Nat) : Bool :=
  let r := s.reading v
  let c := s.cellAt r.cell
  if c.errorCost == 0 then true else go s.cells.size r.nodesAtError r.cell
where
  go : Nat → Nat → Nat → Bool
    | 0, _, _ => false
    | fuel + 1, mark, n =>
      let c := s.cellAt n
      let link := c.links.getD 0 default
      match link.tree with
      | some t =>
        if t.totalSize.bytes > 0 then true
        else if c.nodes > mark && t.errorCost == 0 then go fuel mark link.below
        else false
      | none => false

def remove (s : Stack) (v : Nat) : Stack := { s with readings := s.readings.eraseIdxIfInBounds v }

def halt (s : Stack) (v : Nat) : Stack :=
  { s with readings := s.readings.modify v fun r => { r with status := .halted } }

def pause (s : Stack) (v : Nat) (lookahead : Tree) : Stack :=
  let nodes := (s.top v).nodes
  { s with readings := s.readings.modify v fun r =>
      { r with status := .paused lookahead, nodesAtError := nodes } }

def resume (s : Stack) (v : Nat) : Stack :=
  { s with readings := s.readings.modify v fun r => { r with status := .active } }

/-- Reading `v` takes the place of reading `w`, which keeps its resorts if the other has none. -/
def replace (s : Stack) (v w : Nat) : Stack :=
  if v == w then s
  else
    let new := s.reading v
    let old := s.reading w
    let merged := { new with resorts := new.resorts <|> old.resorts }
    { s with readings := (s.readings.set! w merged).eraseIdxIfInBounds v }

def swap (s : Stack) (v w : Nat) : Stack :=
  let a := s.reading v
  let b := s.reading w
  { s with readings := (s.readings.set! v b).set! w a }

def copy (s : Stack) (v : Nat) : Nat × Stack :=
  (s.count, { s with readings := s.readings.push { s.reading v with resorts := none } })

/-- Two trees between the same states that need not both be kept. -/
def equivalent : Option Tree → Option Tree → Bool
  | none, none => true
  | some a, some b =>
    a.symbol == b.symbol &&
    ((a.errorCost > 0 && b.errorCost > 0) ||
      (a.info.padding.bytes == b.info.padding.bytes && a.info.size.bytes == b.info.size.bytes &&
        a.parts.length == b.parts.length && a.isExtra == b.isExtra))
  | _, _ => false

def weightOf (tree : Option Tree) : Int := (tree.map (·.info.weight)).getD 0

/-- What to do with a new link of a cell. -/
inductive LinkPlan where
  | keep
  | prefer (index : Nat)
  | joinBelow (index : Nat)
  | add

def planLink (s : Stack) (c : Cell) (link : Link) : LinkPlan := Id.run do
  for (old, i) in c.links.zipIdx do
    if equivalent old.tree link.tree then
      if old.below == link.below then
        return if weightOf link.tree > weightOf old.tree then .prefer i else .keep
      let a := s.cellAt old.below
      let b := s.cellAt link.below
      if a.state == b.state && a.position.bytes == b.position.bytes &&
          a.errorCost == b.errorCost then
        return .joinBelow i
  return .add

/-- Gives a cell a further link. `fuel` bounds how far down two stacks are joined. -/
def addLink (table : Table) : Nat → Nat → Link → Stack → Stack
  | 0, _, _, s => s
  | fuel + 1, n, link, s =>
    if link.below == n then s
    else
      let c := s.cellAt n
      let below := s.cellAt link.below
      match s.planLink c link with
      | .keep => s
      | .prefer i =>
        let c := { c with
          links := c.links.modify i fun l => { l with tree := link.tree }
          weight := below.weight + weightOf link.tree }
        { s with cells := s.cells.set! n c }
      | .joinBelow i =>
        let target := (c.links.getD i default).below
        let s := below.links.foldl (fun s l => addLink table fuel target l s) s
        let weight := below.weight + weightOf link.tree
        { s with cells := s.cells.modify n fun c =>
            if weight > c.weight then { c with weight } else c }
      | .add =>
        if c.links.size == maxLinks then s
        else
          let nodes := below.nodes + (link.tree.map (Tree.progress table)).getD 0
          let weight := below.weight + weightOf link.tree
          let c := { c with
            links := c.links.push link
            nodes := max nodes c.nodes
            weight := max weight c.weight }
          { s with cells := s.cells.set! n c }

def canMerge (s : Stack) (v w : Nat) : Bool :=
  let a := s.top v
  let b := s.top w
  s.isActive v && s.isActive w && a.state == b.state && a.position.bytes == b.position.bytes &&
    a.errorCost == b.errorCost

/-- Merges reading `w` into reading `v` where they have come to the same state. -/
def merge (table : Table) (s : Stack) (v w : Nat) : Bool × Stack :=
  if s.canMerge v w then
    let n := (s.reading v).cell
    let links := (s.top w).links
    let s := links.foldl (fun s l => addLink table s.cells.size n l s) s
    let c := s.cellAt n
    let s := if c.state == errorState then
        { s with readings := s.readings.modify v fun r => { r with nodesAtError := c.nodes } }
      else s
    (true, s.remove w)
  else (false, s)

/-- A way down the stack: the cell reached, the trees passed (the last first), and their number. -/
structure Way where
  cell : Nat
  trees : List Tree := []
  passed : Nat := 0
  deriving Inhabited

structure Stop where
  /-- The way ends here and its trees are taken off. -/
  take : Bool
  stop : Bool

/-- The ways that lead on from a way: over the first link, and over the others. -/
def Way.onwards (w : Way) (links : Array Link) : List Way :=
  links.toList.map fun l =>
    match l.tree with
    | some t =>
      { cell := l.below, trees := t :: w.trees, passed := w.passed + if t.isExtra then 0 else 1 }
    | none => { cell := l.below, trees := w.trees, passed := w.passed + 1 }

/-- Follows all ways down, one step each in turn. `visit` sees every way and may keep a state;
`fuel` bounds the steps. -/
def walk {σ : Type} (s : Stack) (visit : σ → Way → Stop × σ) (fuel : Nat) (ways : List Way)
    (acc : σ) (taken : List Way) : σ × List Way :=
  match fuel, ways with
  | 0, _ => (acc, taken)
  | _, [] => (acc, taken)
  | fuel + 1, ways =>
    let (acc, taken, kept, added, _) := ways.foldl
      (fun (acc, taken, kept, added, alive) w =>
        let cell := s.cellAt w.cell
        let (stop, acc) := visit acc w
        let taken := if stop.take then w :: taken else taken
        if stop.stop || cell.links.isEmpty then (acc, taken, kept, added, alive - 1)
        else
          match w.onwards cell.links with
          | [] => (acc, taken, kept, added, alive - 1)
          | first :: others =>
            let room := maxWays - alive
            let others := others.take room
            (acc, taken, first :: kept, others.reverse ++ added, alive + others.length))
      (acc, taken, ([] : List Way), ([] : List Way), ways.length)
    walk s visit fuel (kept.reverse ++ added.reverse) acc taken

/-- Makes a reading of every cell at which a way was taken off; ways to one cell share a reading. -/
def slices (s : Stack) (v : Nat) (taken : List Way) : List Slice × Stack :=
  let nodesAtError := (s.reading v).nodesAtError
  let (found, s) := taken.foldl (fun (found, s) w =>
    -- the trees of a way are gathered from the top down, so they are in order of the text
    let known := found.reverse.find? fun (x : Slice) => (s.reading x.reading).cell == w.cell
    match known with
    | some x =>
      let before := found.reverse.dropWhile fun y => y.reading != x.reading
      let after := found.reverse.takeWhile fun y => y.reading != x.reading
      (before.reverse ++ [{ trees := w.trees, reading := x.reading }] ++ after.reverse, s)
    | none =>
      (found ++ [{ trees := w.trees, reading := s.count }],
        { s with readings := s.readings.push { cell := w.cell, nodesAtError } }))
    (([] : List Slice), s)
  (found, s)

/-- Takes a number of trees off a reading, in every way in which that can be done. -/
def popCount (s : Stack) (v : Nat) (n : Nat) : List Slice × Stack :=
  let (_, taken) := s.walk (fun () w => (⟨w.passed == n, w.passed == n⟩, ()))
    (s.cells.size + 1) [{ cell := (s.reading v).cell }] () []
  s.slices v taken.reverse

/-- Takes everything off. -/
def popAll (s : Stack) (v : Nat) : List Slice × Stack :=
  let (_, taken) := s.walk (fun () w => (⟨(s.cellAt w.cell).links.isEmpty, false⟩, ()))
    (s.cells.size + 1) [{ cell := (s.reading v).cell }] () []
  s.slices v taken.reverse

/-- Takes an error off the top, if there is one. -/
def popError (table : Table) (s : Stack) (v : Nat) : Option Tree × Stack :=
  let top := s.top v
  let isErrorLink (l : Link) : Bool := (l.tree.map (Tree.isError table)).getD false
  if top.links.any isErrorLink then
    let (_, taken) := s.walk (fun (found : Bool) w =>
        match w.trees.getLast? with
        | some t =>
          if !found && t.isError table then (⟨true, true⟩, true) else (⟨false, true⟩, found)
        | none => (⟨false, false⟩, found))
      (s.cells.size + 1) [{ cell := (s.reading v).cell }] false []
    let (found, s) := s.slices v taken.reverse
    match found with
    | x :: _ => (x.trees.head?, s.replace x.reading v)
    | [] => (none, s)
  else (none, s)

/-- Notes the states that recovery may go back to. -/
def noteResorts (s : Stack) (v : Nat) (maxDepth : Nat) : Stack :=
  let visit (found : Array Resort) (w : Way) : Stop × Array Resort :=
    let cell := s.cellAt w.cell
    if w.passed > maxDepth then (⟨false, true⟩, found)
    else
      let sameDepth := found.toList.reverse.takeWhile fun r => !(r.depth < w.passed)
      if sameDepth.any fun r => r.depth == w.passed && r.state == cell.state then
        (⟨false, false⟩, found)
      else
        (⟨false, false⟩, found.push {
          position := cell.position, depth := w.passed, state := cell.state })
  let (found, _) := s.walk visit (s.cells.size + 1) [{ cell := (s.reading v).cell }] #[] []
  { s with readings := s.readings.modify v fun r => { r with resorts := some found } }

end Stack

end SketchSurvey.Script.Reading

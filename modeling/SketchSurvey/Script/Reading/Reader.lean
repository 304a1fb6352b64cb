import SketchSurvey.Script.Reading.Token
import SketchSurvey.Script.Reading.Stack

/-!
Reading a text. Where the automaton leaves open what to do, the reader follows all readings; they
are compared by the errors they hold, and the worst are given up.
-/

set_option autoImplicit false

namespace SketchSurvey.Script.Reading

open SketchSurvey.Script.Automaton

/-- What stays the same while a text is read. -/
structure Setting where
  table : Table
  source : Source

structure Reader where
  stack : Stack := .start
  finished : Option Tree := none
  /-- How many readings have come to the end. -/
  accepted : Nat := 0
  deriving Inhabited

abbrev ReadM := StateM Reader

/-- How many readings are followed. -/
def maxReadings : Nat := 6

/-- How many more there may be between two comparisons. -/
def spareReadings : Nat := 4

/-- How far down the stack recovery looks. -/
def maxResortDepth : Nat := 16

/-- The difference in cost that settles a comparison. -/
def maxCostDifference : Nat := 18 * Cost.skippedPart

/-- How good a reading is. -/
structure Standing where
  cost : Nat
  nodes : Nat
  weight : Int
  inError : Bool

inductive Verdict where
  | takeLeft
  | preferLeft
  | even
  | preferRight
  | takeRight

def Standing.compare (a b : Standing) : Verdict :=
  if !a.inError && b.inError then
    if a.cost < b.cost then .takeLeft else .preferLeft
  else if a.inError && !b.inError then
    if b.cost < a.cost then .takeRight else .preferRight
  else if a.cost < b.cost then
    if (b.cost - a.cost) * (1 + a.nodes) > maxCostDifference then .takeLeft else .preferLeft
  else if b.cost < a.cost then
    if (a.cost - b.cost) * (1 + b.nodes) > maxCostDifference then .takeRight else .preferRight
  else if a.weight > b.weight then .preferLeft
  else if b.weight > a.weight then .preferRight
  else .even

namespace Reader

@[inline] def onStack (f : Stack → Stack) : ReadM Unit := modify fun r => { r with stack := f r.stack }

@[inline] def stackDo {α : Type} (f : Stack → α × Stack) : ReadM α :=
  modifyGet fun r => let (a, s) := f r.stack; (a, { r with stack := s })

@[inline] def ask {α : Type} (f : Stack → α) : ReadM α := return f (← get).stack

def nodesSinceError (v : Nat) : ReadM Nat := stackDo (·.nodesSinceError v)

def standing (v : Nat) : ReadM Standing := do
  let nodes ← nodesSinceError v
  let s := (← get).stack
  let paused := s.isPaused v
  return {
    cost := s.errorCost v + if paused then Cost.skippedPart else 0
    nodes
    weight := (s.top v).weight
    inError := paused || s.state v == errorState }

/-- Whether another reading is so good that one of this cost need not be followed. -/
def isOutdone (v : Nat) (inError : Bool) (cost : Nat) : ReadM Bool := do
  if let some t := (← get).finished then
    if t.errorCost ≤ cost then return true
  let nodes ← nodesSinceError v
  let s := (← get).stack
  let own : Standing := { cost, nodes, weight := (s.top v).weight, inError }
  let bytes := (s.position v).bytes
  for i in [0 : s.count] do
    let s := (← get).stack
    unless i == v || !s.isActive i || (s.position i).bytes < bytes do
      match own.compare (← standing i) with
      | .takeRight => return true
      | .preferRight => if s.canMerge i v then return true
      | _ => pure ()
  return false

/-- Slices that belong to one reading, put together. -/
def groupSlices : List Slice → List (Nat × List (List Tree))
  | [] => []
  | x :: rest =>
    match groupSlices rest with
    | (v, ts) :: more =>
      if v == x.reading then (v, x.trees :: ts) :: more else (x.reading, [x.trees]) :: (v, ts) :: more
    | [] => [(x.reading, [x.trees])]

/-- Takes the parts of a production off the stack and puts a node in their place. Gives the first
reading that is new. -/
def reduce (x : Setting) (v : Nat) (r : Reduction) : ReadM (Option Nat) := do
  let t := x.table
  let before ← ask Stack.count
  let halted ← ask Stack.haltedCount
  let slices ← stackDo (·.popCount v r.count)
  let mut removed := 0
  for (target, alternatives) in groupSlices slices do
    let w := target - removed
    if w > maxReadings + spareReadings + halted then
      onStack (·.remove w)
      removed := removed + 1
    else
      let (first, others) := match alternatives with
        | [] => ([], [])
        | a :: more => (a, more)
      let (kids, extras) := Tree.trailingExtras first
      let (node, extras) := others.foldl (fun (node, extras) trees =>
          let (kids, extras') := Tree.trailingExtras trees
          if node.isBetter t (Tree.make t r.symbol kids 0) then
            (Tree.make t r.symbol kids r.shown, extras')
          else (node, extras))
        (Tree.make t r.symbol kids r.shown, extras)
      let node := match node with
        | .node i ps => Tree.node { i with weight := i.weight + r.weight } ps
      let state := (t.next? (← ask (·.state w)) r.symbol).getD 0
      onStack fun s => extras.foldl (fun s e => s.push t w (some e) state)
        (s.push t w (some node) state)
      for j in [0:w] do
        unless j == v do
          if ← stackDo (·.merge t j w) then
            removed := removed + 1
            break
  return if (← ask Stack.count) > before then some before else none

/-- Ends a reading: the trees left on its stack become one. -/
def accept (x : Setting) (v : Nat) (lookahead : Tree) : ReadM Unit := do
  onStack (·.push x.table v (some lookahead) startState)
  let slices ← stackDo (·.popAll v)
  for slice in slices do
    -- the parts of the last tree that is no extra stand among the others
    let back := slice.trees.reverse
    let after := (back.takeWhile Tree.isExtra).reverse
    match back.dropWhile Tree.isExtra with
    | [] => pure ()
    | .node i ps :: rest =>
      let root := Tree.make x.table i.symbol (rest.reverse ++ ps ++ after) i.shown
      modify fun r => { r with
        accepted := r.accepted + 1
        finished := match r.finished with
          | some old => some (if old.isBetter x.table root then root else old)
          | none => some root }
  if let slice :: _ := slices then onStack (·.remove slice.reading)
  onStack (·.halt v)

/-- Joins a reading with one of those from `first` on, if it can be. -/
def mergeIntoNew (x : Setting) (first v : Nat) : ReadM Bool := do
  for j in [first:v] do
    if ← stackDo (·.merge x.table j v) then return true
  return false

/-- The reductions that a state has on some token, without those of no parts. -/
def reductionsOf (t : Table) (state : Nat) (tokens : List Nat) : Bool × List Reduction :=
  tokens.foldl (fun acc token =>
    (t.actions state token).foldl (fun (shifts, found) action =>
      match action with
      | .shift _ repetition => (shifts || !repetition, found)
      | .recover => (true, found)
      | .reduce r =>
        if r.count > 0 && !found.any fun q => q.symbol == r.symbol && q.count == r.count then
          (shifts, found ++ [r])
        else (shifts, found)
      | _ => (shifts, found)) acc) (false, [])

/-- Makes all reductions that are possible on a token, or on any when none is given. Tells whether
the token can then be taken. -/
def reduceAll (x : Setting) (start : Nat) (token : Option Nat) : ReadM Bool := do
  let t := x.table
  let initial ← ask Stack.count
  let tokens := match token with
    | some n => [n]
    | none => t.order
  let mut canShift := false
  let mut v := start
  -- each round ends a reading, joins one, or takes one of at most six steps upwards with it
  for i in [0 : 1000] do
    let count ← ask Stack.count
    if v ≥ count then break
    if ← mergeIntoNew x initial v then continue
    let (shifts, found) := reductionsOf t (← ask (·.state v)) tokens
    let mut last : Option Nat := none
    for r in found do
      last ← reduce x v r
    if shifts then canShift := true
    else if let some w := last then
      if i < maxReadings then
        onStack (·.replace w v)
        continue
      else if token.isSome then onStack (·.remove v)
    else if token.isSome then onStack (·.remove v)
    v := if v == start then count else v + 1
  return canShift

/-- Goes back to an earlier state: what was read since becomes an error. -/
def recoverTo (x : Setting) (v depth goal : Nat) : ReadM Bool := do
  let t := x.table
  let slices ← stackDo (·.popCount v depth)
  let mut previous : Option Nat := none
  for slice in slices do
    let w := slice.reading
    if previous == some w then continue
    if (← ask (·.state w)) != goal then
      onStack (·.halt w)
    else
      let error ← stackDo (·.popError t w)
      let trees := (error.elim [] Tree.parts) ++ slice.trees
      let (kids, extras) := Tree.trailingExtras trees
      unless kids.isEmpty do
        onStack (·.push t w (some (Tree.make t t.errorSymbol kids 0 0 true)) goal)
      onStack fun s => extras.foldl (fun s e => s.push t w (some e) goal) s
      previous := some w
  return previous.isSome

/-- Tries to go back to a state in which a token is expected. -/
def resortTo (x : Setting) (v : Nat) (lookahead : Tree) : ReadM Bool := do
  let t := x.table
  let s := (← get).stack
  let count := s.count
  let position := s.position v
  let since ← nodesSinceError v
  let cost := s.errorCost v
  if lookahead.isError t then return false
  for resort in ((s.reading v).resorts.getD #[]) do
    if resort.state == errorState || resort.position.bytes == position.bytes then continue
    let s := (← get).stack
    if (List.range count).any fun j =>
        s.state j == resort.state && (s.position j).bytes == position.bytes then continue
    let newCost := cost + resort.depth * Cost.skippedPart +
      (position.bytes - resort.position.bytes) * Cost.skippedByte +
      (position.rows - resort.position.rows) * Cost.skippedLine
    if ← isOutdone v false newCost then break
    unless (t.actions resort.state lookahead.symbol).isEmpty do
      if ← recoverTo x v (resort.depth + if since > 0 then 1 else 0) resort.state then return true
  return false

/-- Passes over a token: it becomes part of an error. -/
def passOver (x : Setting) (v : Nat) (since : Nat) (lookahead : Tree) : ReadM Unit := do
  let t := x.table
  let lookahead := match (t.actions startState lookahead.symbol).getLast? with
    | some .shiftExtra => lookahead.setExtra true
    | _ => lookahead
  let part := Tree.make t t.errorPartSymbol [lookahead] 0
  let mut part := part
  if since > 0 then
    let slices ← stackDo (·.popCount v 1)
    if let slice :: others := slices then
      unless others.isEmpty do
        -- several errors met here: one of them is kept
        for _ in [0 : (← ask Stack.count)] do
          if (← ask Stack.count) > slice.reading + 1 then
            onStack (·.remove (slice.reading + 1))
      onStack (·.replace slice.reading v)
      part := Tree.make t t.errorPartSymbol (slice.trees ++ [part]) 0
  let whole := part
  onStack (·.push t v (some whole) errorState)

/-- Drops the readings from `first` on that are not active. -/
def dropInactive (first : Nat) : ReadM Unit := do
  let count ← ask Stack.count
  let mut i := first
  for _ in [first:count] do
    let s := (← get).stack
    if i < s.count then
      if s.isActive i then i := i + 1 else onStack (·.remove i)

/-- Goes on after an error: back to an earlier state if the token is expected there, and past the
token too. -/
def recover (x : Setting) (v : Nat) (lookahead : Tree) : ReadM Unit := do
  let t := x.table
  let count ← ask Stack.count
  let since ← nodesSinceError v
  let cost ← ask (·.errorCost v)
  let found ← resortTo x v lookahead
  dropInactive count
  if lookahead.symbol == t.endSymbol then
    onStack (·.push t v (some (Tree.make t t.errorSymbol [] 0)) startState)
    accept x v lookahead
  else if found && (← ask Stack.count) > maxReadings then
    onStack (·.halt v)
  else
    let size := lookahead.totalSize
    let newCost := cost + Cost.skippedPart + size.bytes * Cost.skippedByte +
      size.rows * Cost.skippedLine
    if ← isOutdone v false newCost then onStack (·.halt v)
    else passOver x v since lookahead

/-- Puts in a token that the text lacks, if the next one can then be taken. Before the end of the text
any token will do. -/
def supplyMissing (x : Setting) (v : Nat) (lookahead : Tree) : ReadM Bool := do
  let t := x.table
  let state ← ask (·.state v)
  let atEnd := lookahead.leafSymbol == t.endSymbol
  for token in t.order do
    if let some next := t.next? state token then
      if next != state && next != 0 then
        if let (.reduce _) :: _ := t.actions next lookahead.leafSymbol then
          let w ← stackDo (·.copy v)
          onStack (·.push t w (some (Tree.missingLeaf token)) next)
          if ← reduceAll x w (if atEnd then none else some lookahead.leafSymbol) then return true
  return false

/-- Begins recovery: all that can be reduced is, a missing token is looked for, and the readings that
are left become one. -/
def handleError (x : Setting) (v : Nat) (lookahead : Tree) : ReadM Unit := do
  let before ← ask Stack.count
  let _ ← reduceAll x v none
  let count ← ask Stack.count
  let mut supplied := false
  for w in v :: (List.range' before (count - before)) do
    unless supplied do supplied ← supplyMissing x w lookahead
    onStack (·.push x.table w none errorState)
  for _ in [before:count] do
    let _ ← stackDo (·.merge x.table v before)
  onStack (·.noteResorts v maxResortDepth)
  recover x v lookahead

/-- Takes actions on a token until it is taken. `fuel` bounds the reductions on one token. -/
def act (x : Setting) (v : Nat) : Nat → Tree → ReadM Unit
  | 0, _ => onStack (·.halt v)
  | fuel + 1, lookahead => do
    let t := x.table
    let state ← ask (·.state v)
    let mut reduced := false
    let mut last : Option Nat := none
    for action in t.actions state lookahead.leafSymbol do
      match action with
      | .shift next repetition =>
        unless repetition do
          onStack (·.push t v (some (lookahead.setExtra false)) next)
          return
      | .shiftExtra =>
        onStack (·.push t v (some (lookahead.setExtra true)) state)
        return
      | .reduce r =>
        let w ← reduce x v r
        reduced := true
        last := w <|> last
      | .accept => return ← accept x v lookahead
      | .recover => return ← recover x v lookahead
    if let some w := last then
      onStack (·.replace w v)
      act x v fuel lookahead
    else if reduced then onStack (·.halt v)
    else
      let state ← ask (·.state v)
      if lookahead.info.keyword && lookahead.symbol != t.word &&
          !(t.row state).reserved.contains lookahead.symbol &&
          !(t.actions state t.word).isEmpty then
        match lookahead with
        | .node i ps => act x v fuel (.node { i with symbol := t.word } ps)
      else if state == errorState then recover x v lookahead
      else onStack (·.pause v lookahead)

/-- Reads one token. -/
def advance (x : Setting) (v : Nat) : ReadM Unit := do
  let s := (← get).stack
  let leaf := nextLeaf x.table x.source (s.state v) (s.hasAdvanced v) (s.position v)
  act x v ((s.cells.size + 2) * (x.table.appearance.size + 2)) leaf

/-- Reads on until a reading has come further than the last one did. -/
def advanceReading (x : Setting) (v : Nat) (last : Nat) : Nat → ReadM Nat
  | 0 => return last
  | fuel + 1 => do
    if ← ask (·.isActive v) then
      advance x v
      let bytes ← ask fun s => (s.position v).bytes
      if bytes > last || (v > 0 && bytes == last) then return bytes
      advanceReading x v last fuel
    else return last

/-- Compares reading `i` with those before it. Gives the index from which to go on. -/
def compareWithEarlier (x : Setting) (own : Standing) : Nat → Nat → Nat → ReadM Nat
  | 0, i, _ => return i + 1
  | fuel + 1, i, j => do
    if j ≥ i then return i + 1
    match (← standing j).compare own with
    | .takeLeft =>
      onStack (·.remove i)
      return i
    | .preferLeft | .even =>
      if ← stackDo (·.merge x.table j i) then return i
      compareWithEarlier x own fuel i (j + 1)
    | .preferRight =>
      if ← stackDo (·.merge x.table j i) then return i
      onStack (·.swap i j)
      compareWithEarlier x own fuel i (j + 1)
    | .takeRight =>
      onStack (·.remove j)
      compareWithEarlier x own fuel (i - 1) j

/-- Drops readings that have ended or are clearly worse, puts the best first, and gives the least
cost of a reading that is not in error. -/
def sortReadings (x : Setting) (i : Nat) (least : Option Nat) : Nat → ReadM (Option Nat)
  | 0 => return least
  | fuel + 1 => do
    let s := (← get).stack
    if i ≥ s.count then return least
    if s.isHalted i then
      onStack (·.remove i)
      sortReadings x i least fuel
    else
      let own ← standing i
      let least := if own.inError then least else some ((least.map (min own.cost)).getD own.cost)
      let next ← compareWithEarlier x own (s.count + 1) i 0
      sortReadings x next least fuel

/-- Lets the best reading recover if all have met an error; gives up the others that have. -/
def resumeBest (x : Setting) (i n : Nat) (going : Bool) (least : Option Nat) :
    Nat → ReadM (Option Nat)
  | 0 => return least
  | fuel + 1 => do
    if i ≥ n then return least
    let r ← get
    match (r.stack.reading i).status with
    | .paused lookahead =>
      if !going && r.accepted < maxReadings then
        let cost := r.stack.errorCost i
        onStack (·.resume i)
        handleError x i lookahead
        resumeBest x (i + 1) n true (some cost) fuel
      else
        onStack (·.remove i)
        resumeBest x i (n - 1) going least fuel
    | _ => resumeBest x (i + 1) n true least fuel

def condense (x : Setting) : ReadM (Option Nat) := do
  let count ← ask Stack.count
  let least ← sortReadings x 0 none (2 * count + 2)
  onStack fun s => { s with readings := s.readings.take maxReadings }
  let count ← ask Stack.count
  resumeBest x 0 count false least (count + 1)

/-- Reads one token for every reading. -/
def advanceAll (x : Setting) (v last : Nat) : Nat → ReadM Nat
  | 0 => return last
  | fuel + 1 => do
    if v ≥ (← ask Stack.count) then return last
    let last ← advanceReading x v last (4 * x.source.chars.size + 16)
    advanceAll x (v + 1) last fuel

/-- Reads until all readings have ended, or the best that has is better than any that goes on. -/
def run (x : Setting) (last : Nat) : Nat → ReadM Unit
  | 0 => return
  | fuel + 1 => do
    let last ← advanceAll x 0 last 1000
    let allEnded := (← ask Stack.count) == 0
    let least ← condense x
    let done := match (← get).finished, least with
      | some t, some cost => t.errorCost < cost
      | some _, none => true
      | none, _ => false
    if done || allEnded then return
    run x last fuel

/-- Reads a text into a tree. -/
def readTree (x : Setting) : Option Tree :=
  let (_, r) := (run x 0 (16 * x.source.chars.size + 64)).run {}
  r.finished

end Reader

end SketchSurvey.Script.Reading

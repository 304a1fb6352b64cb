import SketchSurvey.Script.Grammar.Flat
import SketchSurvey.Script.Grammar.TokenSet

/-!
Items: productions with a dot that divides what has been read from what is to come. Two items that
cannot be told apart any more are one item.
-/

set_option autoImplicit false

namespace SketchSurvey.Script.Automaton

open SketchSurvey.Script.Grammar
open Std (HashMap)

/-- What the tree keeps of a production: the names its parts are shown under, and their fields.
A field marked `true` is inherited from a hidden part. -/
structure Shown where
  aliases : List (Option Alias) := []
  fields : List (String × Nat × Bool) := []
  deriving BEq, Hashable, Inhabited

namespace Shown

def isPlain (s : Shown) : Bool := s.aliases.isEmpty && s.fields.isEmpty

def shownAs? (s : Shown) (i : Nat) : Option Alias := s.aliases[i]?.join

def field? (s : Shown) (i : Nat) : Option String :=
  s.fields.findSome? fun (name, j, inherited) => if i == j && !inherited then some name else none

end Shown

/-- Taking the parts of a production together. -/
structure Reduction where
  symbol : Nat
  count : Nat
  weight : Int
  shown : Nat
  deriving BEq, Hashable, Inhabited

/-- What makes an item: of the part before the dot only what the tree keeps of it. -/
structure ItemKey where
  owner : Nat
  dot : Nat
  weight : Int
  length : Nat
  rank : Rank
  direction : Option Direction
  /-- A hidden part before the dot has fields. -/
  inherits : Bool
  before : List (Option Alias × Option String × Option Nat)
  after : List Step
  deriving BEq, Hashable

structure Item where
  owner : Nat
  dot : Nat
  next : Option Nat := none
  nextUnreserved : Bool := false
  successor : Nat := 0
  rank : Rank := .unset
  direction : Option Direction := none
  /-- The number of the reduction of a finished item. -/
  reduction : Nat := 0

instance : Inhabited Item := ⟨{ owner := 0, dot := 0 }⟩

/-- What an item set gains when a variable comes next. -/
structure Addition where
  item : Nat
  lookahead : TokenSet
  unreserved : Bool
  /-- The lookahead of the variable itself holds for the item too. -/
  propagates : Bool
  deriving Inhabited

/-- The items of a grammar. -/
structure Items where
  items : Array Item
  start : Nat
  reductions : Array Reduction
  shown : Array Shown
  /-- The tokens that a symbol may start with. -/
  first : Array TokenSet
  /-- The tokens that a symbol may end with. -/
  last : Array TokenSet
  /-- Whether some first token of a symbol stands where words are not reserved. -/
  firstUnreserved : Array Bool
  additions : Array (Array Addition)

def compareRank : Rank → Rank → Ordering
  | .unset, .unset => .eq
  | .unset, _ => .lt
  | _, .unset => .gt
  | .number a, .number b => compare a b
  | .number _, _ => .lt
  | _, .number _ => .gt
  | .named a, .named b => compare a b

def compareDirection : Option Direction → Option Direction → Ordering
  | none, none => .eq
  | none, _ => .lt
  | _, none => .gt
  | some .left, some .right => .lt
  | some .right, some .left => .gt
  | _, _ => .eq

def compareBefore : List (Option Alias × Option String × Option Nat) →
    List (Option Alias × Option String × Option Nat) → Ordering
  | [], [] => .eq
  | [], _ => .lt
  | _, [] => .gt
  | (a, f, _) :: xs, (b, g, _) :: ys =>
    (compareOption a b).then <| (compareText f g).then <| compareBefore xs ys
where
  compareText : Option String → Option String → Ordering
    | none, none => .eq
    | none, _ => .lt
    | _, none => .gt
    | some a, some b => compare a b
  compareOption : Option Alias → Option Alias → Ordering
    | none, none => .eq
    | none, _ => .lt
    | _, none => .gt
    | some a, some b => (compare a.name b.name).then (compare a.named b.named)

def ItemKey.compare (a b : ItemKey) : Ordering :=
  (Ord.compare a.dot b.dot).then <| (Ord.compare a.owner b.owner).then <|
  (Ord.compare a.weight b.weight).then <| (Ord.compare a.length b.length).then <|
  (compareRank a.rank b.rank).then <| (compareDirection a.direction b.direction).then <|
  (Ord.compare a.inherits b.inherits).then <| compareBefore a.before b.before

/-- The names of the fields that each variable shows through when it is hidden. -/
def inheritedFields (g : Flat) : Array (List String) := Id.run do
  let mut fields : Array (List String) := Array.replicate g.vars.size []
  -- each round passes fields up by one level of hidden variables
  for _ in [0:g.vars.size] do
    let mut changed := false
    for i in [0:g.vars.size] do
      let some v := g.vars[i]? | continue
      let mut own := fields.getD i []
      for p in v.productions do
        for s in p.steps do
          let mut here := s.field.toList
          if g.firstVariable ≤ s.symbol then
            if let some w := g.vars[s.symbol - g.firstVariable]? then
              if w.hidden && !w.group && s.shownAs.isNone && !g.defaultAlias.contains s.symbol then
                here := here ++ fields.getD (s.symbol - g.firstVariable) []
          for f in here do
            unless own.contains f do
              own := own ++ [f]
              changed := true
      fields := fields.set! i own
    unless changed do break
  return fields

def itemKey (g : Flat) (inherited : Array (List String)) (owner : Nat) (p : Production)
    (dot : Nat) : ItemKey :=
  let past := p.steps.take dot
  let inherits := past.any fun s =>
    g.firstVariable ≤ s.symbol &&
      (match g.vars[s.symbol - g.firstVariable]? with
       | some w => w.hidden && !(inherited.getD (s.symbol - g.firstVariable) []).isEmpty
       | none => false)
  let previous := past.getLast?
  { owner, dot, weight := p.weight, length := p.steps.length
    rank := previous.elim .unset (·.rank)
    direction := previous.bind (·.direction)
    inherits
    before := past.map fun s => (s.shownAs, s.field, if inherits then some s.symbol else none)
    after := p.steps.drop dot }

def dropTrailingNone {α : Type} (l : List (Option α)) : List (Option α) :=
  (l.reverse.dropWhile Option.isNone).reverse

def Shown.ofProduction (g : Flat) (inherited : Array (List String)) (p : Production) : Shown where
  aliases := dropTrailingNone (p.steps.map (·.shownAs))
  fields := (p.steps.zipIdx.flatMap fun (s, i) =>
    (s.field.toList.map fun f => (f, i, false)) ++
      (if g.firstVariable ≤ s.symbol then
        match g.vars[s.symbol - g.firstVariable]? with
        | some w => if w.hidden then
            (inherited.getD (s.symbol - g.firstVariable) []).map fun f => (f, i, true) else []
        | none => []
      else []))

/-- Every symbol's tokens at one end, from the symbols that stand at that end of productions. -/
def endTokens (g : Flat) (pick : List Step → Option Step) :
    Array TokenSet × Array Bool := Id.run do
  let mut sets : Array TokenSet := #[]
  let mut free : Array Bool := #[]
  for i in [0:g.symbolCount] do
    if i < g.firstVariable then
      sets := sets.push (TokenSet.empty.insert i)
      free := free.push false
    else
      let mut set := TokenSet.empty
      let mut unreserved := false
      let mut visited : Array Bool := Array.replicate g.symbolCount false
      let mut stack : List (Nat × Bool) := [(i, false)]
      -- every step of every production is put on the stack at most once
      for _ in [0:100000] do
        match stack with
        | [] => break
        | (s, u) :: rest =>
          stack := rest
          if s < g.firstVariable then
            set := set.insert s
            unreserved := unreserved || u
          else unless visited.getD s false do
            visited := visited.set! s true
            if let some v := g.vars[s - g.firstVariable]? then
              for p in v.productions do
                if let some step := pick p.steps then
                  stack := (step.symbol, step.unreserved) :: stack
      sets := sets.push set
      free := free.push unreserved
  return (sets, free)

structure FollowInfo where
  lookahead : TokenSet := .empty
  unreserved : Bool := false
  propagates : Bool := false
  deriving Inhabited

/-- What may come after each variable when it stands first in an expansion of variable `v`. -/
def followWithin (g : Flat) (first : Array TokenSet) (firstUnreserved : Array Bool) (v : Nat) :
    Array (Option FollowInfo) := Id.run do
  let mut infos : Array (Option FollowInfo) := Array.replicate g.vars.size none
  let mut stack : List (Nat × FollowInfo) := [(v, { propagates := true })]
  for _ in [0:100000] do
    match stack with
    | [] => break
    | (x, new) :: rest =>
      stack := rest
      let known := infos.getD x none
      let info := known.getD {}
      let merged : FollowInfo := {
        lookahead := info.lookahead.union new.lookahead
        unreserved := info.unreserved || new.unreserved
        propagates := info.propagates || new.propagates }
      let added := merged.lookahead != info.lookahead || merged.unreserved != info.unreserved ||
        merged.propagates != info.propagates
      infos := infos.set! x (some merged)
      if added then
        if let some w := g.vars[x]? then
          for p in w.productions do
            match p.steps with
            | [] => pure ()
            | s :: more =>
              if g.firstVariable ≤ s.symbol then
                let y := s.symbol - g.firstVariable
                match more with
                | t :: _ =>
                  stack := (y, {
                    lookahead := first.getD t.symbol .empty
                    unreserved := firstUnreserved.getD t.symbol false }) :: stack
                | [] => stack := (y, new) :: stack
  return infos

/-- The items of a grammar and what they add to item sets. -/
def Items.ofFlat (g : Flat) : Items := Id.run do
  let inherited := inheritedFields g
  -- the whole text is one more production above the grammar's first
  let startVariable := g.vars.size
  let startProduction : Production := { steps := [{ symbol := g.firstVariable }] }
  let all : Array (Nat × List Production) :=
    (g.vars.mapIdx fun i v => (i, v.productions)).push (startVariable, [startProduction])
  let mut keys : HashMap ItemKey Production := {}
  for (v, ps) in all do
    for p in ps do
      for dot in [0:p.steps.length + 1] do
        let key := itemKey g inherited v p dot
        unless keys.contains key do keys := keys.insert key p
  let sorted := keys.toArray.qsort fun a b => a.1.compare b.1 == .lt
  let numbers : HashMap ItemKey Nat :=
    sorted.foldl (fun (m, i) (k, _) => (m.insert k i, i + 1)) (({} : HashMap ItemKey Nat), 0) |>.1
  let mut shownNumbers : HashMap Shown Nat := ({} : HashMap Shown Nat).insert {} 0
  let mut shown : Array Shown := #[{}]
  let mut reductionNumbers : HashMap Reduction Nat := {}
  let mut reductions : Array Reduction := #[]
  let mut items : Array Item := #[]
  for (k, p) in sorted do
    let mut item : Item := {
      owner := k.owner, dot := k.dot, rank := k.rank, direction := k.direction }
    match k.after with
    | s :: _ =>
      item := { item with
        next := some s.symbol, nextUnreserved := s.unreserved
        successor := numbers.getD (itemKey g inherited k.owner p (k.dot + 1)) 0 }
    | [] =>
      let info := Shown.ofProduction g inherited p
      unless shownNumbers.contains info do
        shownNumbers := shownNumbers.insert info shown.size
        shown := shown.push info
      let r : Reduction := {
        symbol := g.firstVariable + k.owner, count := k.dot, weight := k.weight
        shown := shownNumbers.getD info 0 }
      unless reductionNumbers.contains r do
        reductionNumbers := reductionNumbers.insert r reductions.size
        reductions := reductions.push r
      item := { item with reduction := reductionNumbers.getD r 0 }
    items := items.push item
  let (first, firstUnreserved) := endTokens g List.head?
  let (last, _) := endTokens g List.getLast?
  let mut additions : Array (Array Addition) := #[]
  for v in [0:g.vars.size] do
    let infos := followWithin g first firstUnreserved v
    let mut here : Array Addition := #[]
    for w in [0:g.vars.size] do
      if let some info := infos.getD w none then
        for p in (g.vars[w]?.elim [] (·.productions)) do
          let item := numbers.getD (itemKey g inherited w p 0) 0
          unless here.any (·.item == item) do
            here := here.push {
              item, lookahead := info.lookahead, unreserved := info.unreserved
              propagates := info.propagates }
    additions := additions.push here
  return {
    items, reductions, shown, first, last, firstUnreserved, additions
    start := numbers.getD (itemKey g inherited startVariable startProduction 0) 0 }

end SketchSurvey.Script.Automaton

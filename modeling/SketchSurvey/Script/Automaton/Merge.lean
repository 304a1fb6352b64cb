import SketchSurvey.Script.Automaton.States
import SketchSurvey.Script.Lexical.Overlap

/-!
Merging states. States that differ only in lookahead become one where they do the same on the tokens
they share, and where the tokens that one would gain do not get in the way of those it expects.
-/

set_option autoImplicit false

namespace SketchSurvey.Script.Automaton

open SketchSurvey.Script.Grammar SketchSurvey.Script.Lexical

/-- For every token, the tokens that may come right after it. -/
def followingTokens (g : Flat) (it : Items) : Array TokenSet := Id.run do
  let mut result : Array TokenSet := Array.replicate g.tokenCount .empty
  for v in g.vars do
    for p in v.productions do
      for (a, b) in p.steps.zip (p.steps.drop 1) do
        let right := it.first.getD b.symbol .empty
        let right := if it.firstUnreserved.getD b.symbol false then right
          else right.union (TokenSet.ofList g.reserved)
        for t in (it.last.getD a.symbol .empty).below g.tokenCount do
          result := result.modify t (·.union right)
  let all := TokenSet.ofList (List.range g.tokenCount)
  for x in g.extras do
    if x < g.tokenCount then
      result := result.map (·.insert x)
      result := result.set! x all
  return result

/-- For every token, the tokens that some state expects together with it. -/
def coincident (g : Flat) (states : Array State) : Array TokenSet :=
  states.foldl (fun acc s =>
    (s.tokens.below g.tokenCount).foldl (fun acc t => acc.modify t (·.union s.tokens)) acc)
    (Array.replicate g.tokenCount .empty)

/-- The tokens that are written like words and so are found by looking a word up: those whose whole
text is a word, and for which reading a word instead brings no new conflict. -/
def keywords (g : Flat) (m : Machine) (states : Array State) (o : Overlaps) : TokenSet := Id.run do
  let n := g.tokenCount
  let alphabetic (i : Nat) : Bool :=
    match g.tokens[i]?.map fun (t : TokenEntry) => t.rule.body with
    | some (.text s) => match s.toList with
      | c :: _ => c.isAlpha || c == '_'
      | [] => false
    | some (.shape _) =>
      let start := (m.tokens.getD i default).start.filter fun p =>
        !(m.positions.getD p default).separator
      let mask := start.foldl (fun mask p => mask ||| (m.positions.getD p default).classes) 0
      let letters := classMask m.classStarts (CharSet.letter ++ CharSet.ofString "_")
      mask &&& letters == mask
    | none => false
  let candidates := (List.range n).filter fun i =>
    alphabetic i && (o.get i g.word).takesSameText && !(o.get i g.word).matchesOtherText
  let clear := candidates.filter fun i =>
    !candidates.any fun j => i != j && (o.get j i).takesSameText
  -- the tokens that meet each token in some state that does not expect a word
  let wordless := states.filter fun s => !s.tokens.contains g.word
  let together := coincident g wordless
  let kept := clear.filter fun i =>
    (List.range n).all fun j =>
      candidates.contains j || !(together.getD i .empty).contains j || o.get i j == o.get g.word j
  return TokenSet.ofList kept

/-- The tokens that recovery from an error looks for: those that no other token is mistaken for,
words, and what does not conflict with these. -/
def recoveryTokens (g : Flat) (o : Overlaps) (together : Array TokenSet) (keywords : TokenSet) :
    TokenSet := Id.run do
  let n := g.tokenCount
  let meets (i j : Nat) : Bool := (together.getD i .empty).contains j
  let free := (List.range n).filter fun i =>
    !(List.range n).any fun j => j != i && !meets i j && o.shorterOrLonger i j
  let mut result := TokenSet.empty
  for i in [0:n] do
    let excluded := !free.contains i && !keywords.contains i && i != g.word &&
      free.any fun t => !meets i t && (o.get i t).conflicts
    unless excluded do result := result.insert i
  for (e, i) in g.scanned.zipIdx do
    if e.own.isNone then result := result.insert (n + i)
  return result.insert g.endSymbol

/-- Which tokens a token may not be added to. -/
structure Barriers where
  masks : Array TokenSet
  /-- Tokens that hand-written scanners find, and which are never added. -/
  scanned : TokenSet

def Barriers.ofOverlaps (g : Flat) (o : Overlaps) (keywords : TokenSet) : Barriers :=
  let n := g.tokenCount
  let mask (i : Nat) (asWord : Bool) : TokenSet :=
    TokenSet.ofList <| (List.range n).filter fun t =>
      !(t == g.word && keywords.contains i && asWord) &&
      !(i == g.word && keywords.contains t && asWord) && (o.get i t).conflicts
  { masks := (Array.range n).map (mask · true)
    scanned := (g.scanned.zipIdx.foldl (fun s (e, i) => s.insert (e.own.getD (n + i))) .empty) }

/-- Whether adding token `t` to a state that expects `existing` could change what is read there.
The end of the text is held to the rule of the first token. -/
def Barriers.block (b : Barriers) (existing : TokenSet) (t : Nat) : Bool :=
  b.scanned.contains t || existing.meets (b.masks.getD (if t < b.masks.size then t else 0) .empty)

/-- States put into groups. -/
structure Grouping where
  members : Array (Array Nat)
  groupOf : Array Nat
  deriving Inhabited

namespace Grouping

def byCore (states : Array State) : Grouping :=
  let count := states.foldl (fun n s => max n (s.core + 1)) 0
  { members := states.zipIdx.foldl (fun ms (s, i) => ms.modify s.core (·.push i))
      (Array.replicate count #[])
    groupOf := states.map (·.core) }

/-- The members of a group that must leave it: a later one that differs from an earlier one that
stays. -/
def leaving (differ : Nat → Nat → Bool) (members : Array Nat) : Array Nat := Id.run do
  let mut out : Array Nat := #[]
  for i in [0:members.size] do
    let a := members.getD i 0
    unless out.contains a do
      for j in [i + 1 : members.size] do
        let b := members.getD j 0
        unless out.contains b do
          if differ a b then out := out.push b
  return out

/-- Splits every group once, the new groups included. -/
def split (differ : Array Nat → Nat → Nat → Bool) (limit : Nat) (g : Grouping) :
    Grouping × Bool := Id.run do
  let mut members := g.members
  let mut groupOf := g.groupOf
  let mut changed := false
  for i in [0:limit] do
    if i ≥ members.size then break
    let here := members.getD i #[]
    let out := leaving (differ groupOf) here
    unless out.isEmpty do
      changed := true
      let fresh := members.size
      members := (members.set! i (here.filter fun s => !out.contains s)).push out
      for s in out do groupOf := groupOf.set! s fresh
  return ({ members, groupOf }, changed)

end Grouping

def sameAction (groupOf : Array Nat) (a b : Entry) : Bool :=
  a.reductions == b.reductions && a.accept == b.accept && a.extra == b.extra &&
  a.repetition == b.repetition &&
  match a.shift, b.shift with
  | none, none => true
  | some s, some t => groupOf.getD s 0 == groupOf.getD t 0
  | _, _ => false

/-- Walks two sorted lists of entries side by side. -/
def clash (b : Barriers) (groupOf : Array Nat) (left right : State) : Bool := Id.run do
  let mut i := 0
  let mut j := 0
  for _ in [0 : left.entries.size + right.entries.size] do
    match left.entries[i]?, right.entries[j]? with
    | none, none => break
    | some (s, x), some (t, y) =>
      if s == t then
        unless sameAction groupOf x y do return true
        i := i + 1
        j := j + 1
      else if s < t then
        if b.block right.tokens s then return true
        i := i + 1
      else
        if b.block left.tokens t then return true
        j := j + 1
    | some (s, _), none =>
      if b.block right.tokens s then return true
      i := i + 1
    | none, some (t, _) =>
      if b.block left.tokens t then return true
      j := j + 1
  return false

/-- Whether two states lead to different groups by the same symbol. -/
def leadApart (groupOf : Array Nat) (left right : State) : Bool := Id.run do
  let mut i := 0
  let mut j := 0
  for _ in [0 : left.entries.size + right.entries.size] do
    match left.entries[i]?, right.entries[j]? with
    | some (s, x), some (t, y) =>
      if s == t then
        if let (some a, some b) := (x.shift, y.shift) then
          if groupOf.getD a 0 != groupOf.getD b 0 then return true
        i := i + 1
        j := j + 1
      else if s < t then i := i + 1 else j := j + 1
    | _, _ => break
  i := 0
  j := 0
  for _ in [0 : left.gotos.size + right.gotos.size] do
    match left.gotos[i]?, right.gotos[j]? with
    | some (s, a), some (t, b) =>
      if s == t then
        if groupOf.getD a 0 != groupOf.getD b 0 then return true
        i := i + 1
        j := j + 1
      else if s < t then i := i + 1 else j := j + 1
    | _, _ => break
  return false

/-- Joins two sorted lists; where both have a key the later one counts. -/
def joinSorted {α : Type} (a b : Array (Nat × α)) : Array (Nat × α) := Id.run do
  let mut out : Array (Nat × α) := Array.mkEmpty (a.size + b.size)
  let mut i := 0
  let mut j := 0
  for _ in [0 : a.size + b.size] do
    match a[i]?, b[j]? with
    | none, none => break
    | some x, none => out := out.push x; i := i + 1
    | none, some y => out := out.push y; j := j + 1
    | some x, some y =>
      if x.1 == y.1 then
        out := out.push y
        i := i + 1
        j := j + 1
      else if x.1 < y.1 then out := out.push x; i := i + 1
      else out := out.push y; j := j + 1
  return out

namespace State

/-- Sends the state's moves elsewhere. -/
def redirect (f : Nat → Nat) (s : State) : State :=
  { s with
    entries := s.entries.map fun (t, e) => (t, { e with shift := e.shift.map f })
    gotos := s.gotos.map fun (v, n) => (v, f n) }

def join (a b : State) : State :=
  let tokens := a.tokens.union b.tokens
  { core := a.core
    entries := joinSorted a.entries b.entries
    gotos := joinSorted a.gotos b.gotos
    tokens
    reserved := (a.reserved.union b.reserved).diff tokens }

def targets (s : State) : List Nat :=
  (s.entries.toList.filterMap fun (_, e) => e.shift) ++ s.gotos.toList.map (·.2)

end State

/-- Merges the states of each group; the group of the state for errors comes first, then that of the
state that starts. -/
def mergeStates (b : Barriers) (states : Array State) : Array State := Id.run do
  let get (i : Nat) : State := states.getD i default
  let limit := states.size + 1
  let (grouping, _) := (Grouping.byCore states).split
    (fun groupOf i j => clash b groupOf (get i) (get j)) limit
  let mut grouping := grouping
  for _ in [0:limit] do
    let (next, changed) := grouping.split
      (fun groupOf i j => leadApart groupOf (get i) (get j)) limit
    grouping := next
    unless changed do break
  let groupOf := grouping.groupOf
  let joined := grouping.members.map fun ms =>
    let all := ms.toList.map get
    match all with
    | [] => default
    | s :: rest => (rest.foldl State.join s).redirect (groupOf.getD · 0)
  return joined

/-- States whose only act is to take one part for a hidden variable are passed over. -/
def skipUnitReductions (g : Flat) (it : Items) (states : Array State) : Array State := Id.run do
  let aliased : List Nat := g.vars.toList.flatMap fun v => v.productions.flatMap fun p =>
    p.steps.filterMap fun s => if s.shownAs.isSome then some s.symbol else none
  let isUnit (r : Reduction) : Bool :=
    r.count == 1 && r.weight == 0 && (it.shown.getD r.shown {}).isPlain &&
    !g.defaultAlias.contains r.symbol && !aliased.contains r.symbol &&
    match g.vars[r.symbol - g.firstVariable]? with
    | some v => v.hidden && !v.group
    | none => false
  let unit (s : State) : Option Nat := Id.run do
    let mut symbol : Option Nat := none
    for (_, e) in s.entries do
      unless e.extra do
        if e.accept || e.shift.isSome then return none
        for n in e.reductions do
          let r := it.reductions.getD n default
          unless isUnit r && (symbol.isNone || symbol == some r.symbol) do return none
          symbol := some r.symbol
    return symbol
  let units := states.map unit
  let follow (s : State) (target : Nat) : Nat := Id.run do
    let mut reached := target
    for _ in [0:g.vars.size] do
      match units.getD reached none with
      | some v =>
        match s.gotos.find? (·.1 == v) with
        | some (_, n) => if n == reached then break else reached := n
        | none => break
      | none => break
    return reached
  return states.map fun s => s.redirect (follow s)

/-- Drops the states that no state leads to, and puts the others in order of size. -/
def arrange (states : Array State) : Array State := Id.run do
  let mut used : Array Bool := Array.replicate states.size false
  for s in states do
    for t in s.targets do used := used.set! t true
  let kept := (List.range states.size).filter fun i => i < 2 || used.getD i false
  let size (i : Nat) : Nat :=
    let s := states.getD i default
    s.entries.size + s.gotos.size
  let ordered := (kept.take 2) ++ (kept.drop 2).mergeSort fun a b => size a ≥ size b
  let mut number : Array Nat := Array.replicate states.size 0
  for (old, new) in ordered.zipIdx do number := number.set! old new
  return (ordered.map fun i => (states.getD i default).redirect (number.getD · 0)).toArray

/-- The tokens that the scanner of each state looks for: as many states as possible share one. -/
def scannerTokens (g : Flat) (o : Overlaps) (together : Array TokenSet) (keywords : TokenSet)
    (expected : Array TokenSet) : Array TokenSet := Id.run do
  let n := g.tokenCount
  let apart : Array TokenSet := (Array.range n).map fun i =>
    TokenSet.ofList <| (List.range n).filter fun t =>
      (o.get i t).conflicts || (o.get i t).endsEarly ||
      (!(together.getD i .empty).contains t && ((o.get t i).overlaps || (o.get i t).overlaps))
  let blocked (new existing : TokenSet) : Bool :=
    ((new.diff existing).below n).any fun t => existing.meets (apart.getD t .empty)
  let mut sets : Array TokenSet := #[]
  let mut choice : Array Nat := #[]
  for tokens in expected do
    let own := (tokens.below (g.endSymbol + 1)).foldl (fun s t =>
      if t < n then s.insert (if keywords.contains t then g.word else t)
      else if t == g.endSymbol then s.insert t else s) TokenSet.empty
    match sets.findIdx? fun s => !blocked own s && !blocked s own with
    | some i =>
      sets := sets.modify i (·.union own)
      choice := choice.push i
    | none =>
      choice := choice.push sets.size
      sets := sets.push own
  return choice.map fun i => sets.getD i .empty

end SketchSurvey.Script.Automaton

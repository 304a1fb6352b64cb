import SketchSurvey.Script.Automaton.Item

/-!
The states of the automaton before any are merged: one for every set of items with their
lookahead that reading can lead to. Rules of rank and direction settle what a state does on a token;
what they leave open stays open, and the text is then read in more than one way.
-/

set_option autoImplicit false

namespace SketchSurvey.Script.Automaton

open SketchSurvey.Script.Grammar
open Std (HashMap)

/-- What a state does on a token: reductions in order, then a move that takes the token. -/
structure Entry where
  reductions : List Nat := []
  /-- The state that follows when the token is taken. -/
  shift : Option Nat := none
  /-- Taking the token goes on with a repetition that a reduction would close. -/
  repetition : Bool := false
  /-- The token changes nothing. -/
  extra : Bool := false
  /-- The text ends here. -/
  accept : Bool := false
  deriving BEq, Hashable, Inhabited

structure State where
  core : Nat
  /-- In increasing order of token. -/
  entries : Array (Nat × Entry)
  /-- In increasing order of variable. -/
  gotos : Array (Nat × Nat)
  /-- The tokens with an entry. -/
  tokens : TokenSet
  reserved : TokenSet := .empty
  deriving Inhabited

/-- The order of two ranks, either of which may be given by name or by production. -/
def compareRanks (g : Flat) (left : Rank) (leftSymbols : List Nat) (right : Rank)
    (rightSymbols : List Nat) : Ordering :=
  match left, right with
  | .number a, .number b => if a != 0 || b != 0 then compare a b else byName
  | .number a, .unset => if a != 0 then compare a 0 else byName
  | .unset, .number b => if b != 0 then compare 0 b else byName
  | _, _ => byName
where
  isEntry (entry : String ⊕ String) (rank : Rank) (symbols : List Nat) : Bool :=
    match entry with
    | .inl name => rank == .named name
    | .inr name => symbols.any fun v =>
        (g.vars[v]?.map fun (w : Variable) => w.name == name).getD false
  inList (sawLeft sawRight : Bool) : List (String ⊕ String) → Option Ordering
    | [] => none
    | e :: rest =>
      if isEntry e left leftSymbols then
        if sawRight then some .lt else inList true sawRight rest
      else if isEntry e right rightSymbols then
        if sawLeft then some .gt else inList sawLeft true rest
      else inList sawLeft sawRight rest
  byName : Ordering := (g.ranks.findSome? (inList false false)).getD .eq

/-- The rank and direction of the reductions that a state has on one token. -/
structure ReductionRank where
  rank : Rank := .unset
  owners : List Nat := []
  anyLeft : Bool := false
  anyRight : Bool := false
  anyPlain : Bool := false
  deriving Inhabited

def insertSorted (n : Nat) : List Nat → List Nat
  | [] => [n]
  | m :: rest => if n < m then n :: m :: rest else if n == m then m :: rest else m :: insertSorted n rest

/-- One item of a set, with the tokens that may come after it. -/
structure Member where
  item : Nat
  lookahead : TokenSet
  unreserved : Bool
  deriving Inhabited

/-- Adds the reduction of a finished item on one token. -/
def addReduction (g : Flat) (item : Item) (known : Option (Entry × ReductionRank))
    (reduction : Option Nat) : Entry × ReductionRank × Bool :=
  let mark (r : ReductionRank) : ReductionRank :=
    { r with
      rank := item.rank
      owners := insertSorted item.owner r.owners
      anyLeft := r.anyLeft || item.direction == some .left
      anyRight := r.anyRight || item.direction == some .right
      anyPlain := r.anyPlain || item.direction == none }
  let fresh : Entry := match reduction with
    | some n => { reductions := [n] }
    | none => { accept := true }
  match known with
  | none => (fresh, mark {}, false)
  | some (entry, r) =>
    match compareRanks g item.rank [item.owner] r.rank r.owners with
    | .gt => (fresh, mark {}, false)
    | .lt => (entry, r, entry.reductions.length > 1)
    | .eq =>
      let joined : Entry := match reduction with
        | some n => { entry with reductions := entry.reductions ++ [n] }
        | none => { entry with accept := true }
      (joined, mark r, true)

/-- Settles what a state does on a token that could both be taken and call for reductions. -/
def settle (g : Flat) (it : Items) (members : Array Member) (token : Nat) (entry : Entry)
    (r : ReductionRank) : Entry := Id.run do
  unless entry.shift.isSome do return entry
  let mut owners : List Nat := []
  let mut shiftRanks : List (Rank × Nat) := []
  for m in members do
    let item := it.items.getD m.item default
    match item.next with
    | some s =>
      if item.dot > 0 && (it.first.getD s .empty).contains token then
        unless item.owner == g.vars.size do owners := insertSorted item.owner owners
        unless shiftRanks.contains (item.rank, item.owner) do
          shiftRanks := (item.rank, item.owner) :: shiftRanks
    | none =>
      if m.lookahead.contains token && item.owner != g.vars.size then
        owners := insertSorted item.owner owners
  -- a repetition may go on in two ways that mean the same
  if let [v] := owners then
    if (g.vars[v]?.map (·.auxiliary)).getD false then
      return { entry with repetition := true }
  let mut less := false
  let mut more := false
  for (rank, owner) in shiftRanks do
    match compareRanks g rank [owner] r.rank r.owners with
    | .gt => more := true
    | .lt => less := true
    | .eq => pure ()
  if more && !less then return { entry with reductions := [], accept := false }
  if less && !more then return { entry with shift := none }
  if !less && !more then
    if r.anyLeft && !r.anyPlain && !r.anyRight then return { entry with shift := none }
    if r.anyRight && !r.anyPlain && !r.anyLeft then
      return { entry with reductions := [], accept := false }
  return entry

/-- The states found so far. -/
structure Search where
  /-- The items that lead into each state, each packed with its lookahead into one number. -/
  kernels : Array (Array Nat) := #[]
  numbers : HashMap (Array Nat) Nat := {}
  cores : HashMap (Array Nat) Nat := {}
  coreOf : Array Nat := #[]
  lookaheads : Array TokenSet := #[]
  lookaheadNumbers : HashMap TokenSet Nat := {}

/-- How many lookahead sets a packed item can tell apart. -/
def lookaheadLimit : Nat := Nat.pow 2 24

namespace Search

def lookahead (s : Search) (set : TokenSet) : Nat × Search :=
  match s.lookaheadNumbers[set]? with
  | some n => (n, s)
  | none =>
    let n := s.lookaheads.size
    (n, { s with
      lookaheads := s.lookaheads.push set
      lookaheadNumbers := s.lookaheadNumbers.insert set n })

/-- Packs the members of a set, which are in increasing order of item. -/
def pack (s : Search) (members : Array Member) : Array Nat × Search :=
  members.foldl (fun (packed, s) m =>
    let (n, s) := s.lookahead m.lookahead
    (packed.push ((m.item * lookaheadLimit + n) * 2 + if m.unreserved then 1 else 0), s))
    (Array.mkEmpty members.size, s)

def unpack (s : Search) (packed : Nat) : Member :=
  { item := packed / (2 * lookaheadLimit)
    lookahead := s.lookaheads.getD (packed / 2 % lookaheadLimit) .empty
    unreserved := packed % 2 == 1 }

/-- The number of the state that a set of items leads into. -/
def state (s : Search) (members : Array Member) : Nat × Search :=
  let (kernel, s) := s.pack members
  match s.numbers[kernel]? with
  | some n => (n, s)
  | none =>
    let core := members.map (·.item)
    let n := s.kernels.size
    let (c, s) := match s.cores[core]? with
      | some c => (c, s)
      | none => (s.cores.size, { s with cores := s.cores.insert core s.cores.size })
    (n, { s with
      kernels := s.kernels.push kernel
      numbers := s.numbers.insert kernel n
      coreOf := s.coreOf.push c })

end Search

/-- Sorts members by item and joins those of the same item. -/
def joinMembers (ms : Array Member) : Array Member :=
  (ms.qsort fun a b => a.item < b.item).foldl (fun acc m =>
    match acc.back? with
    | some last =>
      if last.item == m.item then
        acc.pop.push {
          item := m.item, lookahead := last.lookahead.union m.lookahead
          unreserved := last.unreserved || m.unreserved }
      else acc.push m
    | none => acc.push m) (Array.mkEmpty ms.size)

/-- Working space for item sets, used again for each state. -/
structure Scratch where
  /-- The lookahead of each item in the set under construction, if it is in it. -/
  members : Array (Option Member)
  touched : Array Nat := #[]
  deriving Inhabited

namespace Scratch

def add (s : Scratch) (item : Nat) (lookahead : TokenSet) (unreserved : Bool) : Scratch :=
  match s with
  | ⟨members, touched⟩ =>
    match members.getD item none with
    | none => ⟨members.set! item (some { item, lookahead, unreserved }), touched.push item⟩
    | some m =>
      ⟨members.set! item (some {
        item, lookahead := m.lookahead.union lookahead, unreserved := m.unreserved || unreserved }),
        touched⟩

/-- Takes the members out, in increasing order of item. -/
def take (s : Scratch) : Array Member × Scratch :=
  match s with
  | ⟨members, touched⟩ =>
    let sorted := touched.qsort (· < ·)
    let found := sorted.filterMap fun i => members.getD i none
    (found, ⟨sorted.foldl (fun ms i => ms.set! i none) members, #[]⟩)

end Scratch

/-- Adds to a set the items of every variable that may come next. -/
def close (g : Flat) (it : Items) (kernel : Array Member) (scratch : Scratch) :
    Array Member × Scratch := Id.run do
  let mut scratch := scratch
  -- what may follow each variable that comes next
  let mut wanted : Array (Nat × TokenSet × Bool) := #[]
  for m in kernel do
    let item := it.items.getD m.item default
    scratch := scratch.add m.item m.lookahead m.unreserved
    if let some s := item.next then
      if g.firstVariable ≤ s then
        let v := s - g.firstVariable
        let after := (it.items.getD item.successor default).next
        let (set, free) := match after with
          | some t => (it.first.getD t .empty, it.firstUnreserved.getD t false)
          | none => (m.lookahead, m.unreserved)
        let free := free && set.contains g.word
        match wanted.findIdx? (·.1 == v) with
        | some i => wanted := wanted.modify i fun (_, known, f) => (v, known.union set, f || free)
        | none => wanted := wanted.push (v, set, free)
  for (v, set, free) in wanted do
    for a in it.additions.getD v #[] do
      let own := a.unreserved && a.lookahead.contains g.word
      if a.propagates then
        scratch := scratch.add a.item (a.lookahead.union set) (own || free)
      else
        scratch := scratch.add a.item a.lookahead own
  return scratch.take

/-- Finds what a state does, and the states that it leads to. -/
def expand (g : Flat) (it : Items) (members : Array Member) (search : Search) :
    State × Search := Id.run do
  let mut search := search
  let mut entries : HashMap Nat (Entry × ReductionRank) := {}
  let mut unsettledTokens : List Nat := []
  let mut buckets : Array (Array Member) := Array.replicate g.symbolCount #[]
  for m in members do
    let item := it.items.getD m.item default
    match item.next with
    | some s =>
      buckets := buckets.modify s (·.push { m with item := item.successor })
    | none =>
      let reduction := if item.owner == g.vars.size then none else some item.reduction
      for token in m.lookahead.below g.firstVariable do
        let (e, r, unsettled) := addReduction g item entries[token]? reduction
        entries := entries.insert token (e, r)
        unsettledTokens :=
          if unsettled then insertSorted token unsettledTokens else unsettledTokens.erase token
  let order := (List.range' g.tokenCount g.scanned.size) ++ List.range g.tokenCount
  for token in order do
    let ms := buckets.getD token #[]
    unless ms.isEmpty do
      let (n, s) := search.state (joinMembers ms)
      search := s
      match entries[token]? with
      | some (e, r) =>
        entries := entries.insert token ({ e with shift := some n }, r)
        unsettledTokens := insertSorted token unsettledTokens
      | none => entries := entries.insert token ({ shift := some n }, {})
  let mut gotos : Array (Nat × Nat) := #[]
  for v in [g.firstVariable : g.symbolCount] do
    let ms := buckets.getD v #[]
    unless ms.isEmpty do
      let (n, s) := search.state (joinMembers ms)
      search := s
      gotos := gotos.push (v, n)
  for token in unsettledTokens do
    if let some (e, r) := entries[token]? then
      entries := entries.insert token (settle g it members token e r, r)
  for x in g.extras do
    unless entries.contains x do
      entries := entries.insert x ({ extra := true }, {})
  let list := (entries.toArray.map fun (t, e, _) => (t, e)).qsort fun a b => a.1 < b.1
  -- words are reserved where a name may come, unless the grammar says otherwise
  let mut wordMet := false
  let mut free := false
  for m in members do
    let item := it.items.getD m.item default
    match item.next with
    | some s => if s == g.word then
        wordMet := true
        free := free || item.nextUnreserved
    | none => if m.lookahead.contains g.word then
        wordMet := true
        free := free || m.unreserved
  let reserved := if wordMet && !free then TokenSet.ofList g.reserved else .empty
  return ({
    core := 0, entries := list, gotos
    tokens := list.foldl (fun set (t, _) => set.insert t) .empty
    reserved }, search)

/-- All states: the first is for recovery from errors and does nothing yet, the second starts. -/
def allStates (g : Flat) (it : Items) (limit : Nat) : Array State := Id.run do
  let (_, search) := ({} : Search).state #[]
  let start : Member := {
    item := it.start, lookahead := TokenSet.empty.insert g.endSymbol, unreserved := false }
  let (_, search) := search.state #[start]
  let mut search := search
  let mut states : Array State := #[]
  let mut scratch : Scratch := { members := Array.replicate it.items.size none }
  for i in [0:limit] do
    match search.kernels[i]? with
    | none => break
    | some kernel =>
      if i == 0 then
        states := states.push { core := 0, entries := #[], gotos := #[], tokens := .empty }
      else
        let (members, scratch') := close g it (kernel.map search.unpack) scratch
        scratch := scratch'
        let (state, search') := expand g it members search
        search := search'
        states := states.push { state with core := search.coreOf.getD i 0 }
  return states

end SketchSurvey.Script.Automaton

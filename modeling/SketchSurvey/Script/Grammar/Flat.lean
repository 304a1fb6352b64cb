import Std.Data.HashMap
import SketchSurvey.Script.Grammar.Productions

/-!
A grammar in flat form: numbered symbols, and for every variable the list of its productions,
each a sequence of steps. Repetitions have become variables of their own, and the inlined
variables have been put in place.
-/

set_option autoImplicit false

namespace SketchSurvey.Script.Grammar

open Std (HashMap)

/-- One symbol of a production and what the grammar says of it there. -/
structure Step where
  symbol : Nat
  rank : Rank := .unset
  direction : Option Direction := none
  shownAs : Option Alias := none
  field : Option String := none
  unreserved : Bool := false
  deriving BEq, Hashable, Repr

structure Production where
  steps : List Step
  /-- Added to the weight of a tree when two readings of a text compete. -/
  weight : Int := 0
  deriving BEq, Hashable, Repr

structure Variable where
  name : String
  /-- Does not appear in the tree itself. -/
  hidden : Bool
  /-- Made from a repetition. -/
  auxiliary : Bool
  /-- A name for a set of alternatives. -/
  group : Bool
  productions : List Production

structure TokenEntry where
  name : String
  rule : TokenRule
  /-- Appears in the tree. -/
  visible : Bool
  /-- Appears there as a thing with a name, not as a piece of punctuation. -/
  named : Bool

/-- A token found by a hand-written scanner; `own` is its number when it also has a rule. -/
structure ScannedEntry where
  name : String
  own : Option Nat

/-- Symbols are numbered: tokens, then scanned tokens, then the end of the text, then variables. -/
structure Flat where
  tokens : Array TokenEntry
  scanned : Array ScannedEntry
  vars : Array Variable
  extras : List Nat
  separator : CharSet
  word : Nat
  reserved : List Nat
  ranks : List (List (String ⊕ String))
  /-- What a symbol that is nowhere shown under its own name is called. -/
  defaultAlias : HashMap Nat Alias

namespace Flat

def tokenCount (g : Flat) : Nat := g.tokens.size

def endSymbol (g : Flat) : Nat := g.tokens.size + g.scanned.size

def firstVariable (g : Flat) : Nat := g.endSymbol + 1

def symbolCount (g : Flat) : Nat := g.firstVariable + g.vars.size

end Flat

/-- The tokens of a rule, in order of appearance and with repetitions. -/
def Rule.tokens : Rule → List TokenRule
  | .blank | .symbol _ => []
  | .token t => [t]
  | .seq a b | .either a b => a.tokens ++ b.tokens
  | .many1 r | .ranked _ _ r | .weighted _ r | .aliased _ r | .field _ r | .unreserved r => r.tokens

/-- Repetitions met so far: the variable that stands for each repeated rule. -/
structure Repeats where
  known : HashMap Rule String := {}
  added : Array (String × Rule) := #[]
  inVariable : Nat := 0

/-- Replaces each repetition by a variable that doubles: `R → R R | body`. -/
def Rule.withoutRepeats (owner : String) : Rule → StateM Repeats Rule
  | .many1 body => do
    let body ← body.withoutRepeats owner
    let s ← get
    match s.known[body]? with
    | some name => return .symbol name
    | none =>
      let n := s.inVariable + 1
      let name := owner ++ "_repeat" ++ toString n
      set { s with
        known := s.known.insert body name
        added := s.added.push (name, .either (.seq (.symbol name) (.symbol name)) body)
        inVariable := n }
      return .symbol name
  | .seq a b => return .seq (← a.withoutRepeats owner) (← b.withoutRepeats owner)
  | .either a b => return .either (← a.withoutRepeats owner) (← b.withoutRepeats owner)
  | .ranked rank dir r => return .ranked rank dir (← r.withoutRepeats owner)
  | .weighted w r => return .weighted w (← r.withoutRepeats owner)
  | .aliased as r => return .aliased as (← r.withoutRepeats owner)
  | .field name r => return .field name (← r.withoutRepeats owner)
  | .unreserved r => return .unreserved (← r.withoutRepeats owner)
  | r => return r

/-- The rules that result from taking every choice in every way. -/
def Rule.choices : Rule → List Rule
  | .seq a b => a.choices.flatMap fun x => b.choices.map fun y => .seq x y
  | .either a b => a.choices ++ b.choices
  | .ranked rank dir r => r.choices.map (.ranked rank dir)
  | .weighted w r => r.choices.map (.weighted w)
  | .aliased as r => r.choices.map (.aliased as)
  | .field name r => r.choices.map (.field name)
  | .unreserved r => r.choices.map .unreserved
  | r => [r]

/-- What surrounding rules say about a step. -/
structure Surroundings where
  rank : Rank := .unset
  direction : Option Direction := none
  shownAs : Option Alias := none
  field : Option String := none
  unreserved : Bool := false

def modifyLast {α : Type} (f : α → α) : List α → List α
  | [] => []
  | [x] => [f x]
  | x :: rest => x :: modifyLast f rest

/-- The steps of a rule without choices. The last step of a ranked part that does not end the
production takes the rank around that part: a rank speaks of what follows its part. -/
def Rule.steps (number : Rule → Nat) (around : Surroundings) (atEnd : Bool) : Rule → List Step
  | .seq a b =>
    -- an empty tail still ends the production
    a.steps number around false ++ b.steps number around atEnd
  | .ranked rank dir r =>
    let inner := r.steps number
      { around with
        rank := if rank == .unset then around.rank else rank
        direction := dir <|> around.direction } atEnd
    if atEnd then inner
    else modifyLast (fun s =>
      { s with
        rank := if rank == .unset then s.rank else around.rank
        direction := if dir.isSome then around.direction else s.direction }) inner
  | .weighted _ r => r.steps number around atEnd
  | .aliased as r => r.steps number { around with shownAs := some as } atEnd
  | .field name r => r.steps number { around with field := some name } atEnd
  | .unreserved r => r.steps number { around with unreserved := true } atEnd
  | .symbol name => [{ around with symbol := number (.symbol name) }]
  | .token t => [{ around with symbol := number (.token t) }]
  | .many1 _ | .either _ _ | .blank => []

/-- The weight of a rule without choices: the one furthest from zero. -/
def Rule.weight : Rule → Int
  | .seq a b => heavier a.weight b.weight
  | .weighted w r => heavier w r.weight
  | .ranked _ _ r | .aliased _ r | .field _ r | .unreserved r => r.weight
  | _ => 0
where
  heavier (a b : Int) : Int := if b.natAbs > a.natAbs then b else a

def Rule.productions (number : Rule → Nat) (r : Rule) : List Production :=
  (r.choices.map fun c =>
    { steps := c.steps number {} true, weight := c.weight : Production }).eraseDups

/-- What an inlined step passes on to the steps that take its place. -/
def Step.passOn (s : Step) (inner : List Step) : List Step :=
  let inner := inner.map fun t =>
    { t with shownAs := s.shownAs <|> t.shownAs, field := s.field <|> t.field }
  modifyLast (fun t =>
    { t with
      rank := if t.rank == .unset then s.rank else t.rank
      direction := t.direction <|> s.direction }) inner

/-- Puts the productions of inlined variables in the place of their steps. The inlined variables
do not contain themselves; `depth` bounds how deep they nest. -/
def Production.inlineSteps (inlined : Nat → Option (List Production)) (depth : Nat)
    (weight : Int) : List Step → List Production
  | [] => [{ steps := [], weight }]
  | s :: rest =>
    let here : List (List Step × Int) :=
      match depth, inlined s.symbol with
      | d + 1, some ps => ps.flatMap fun p =>
        (inlineSteps inlined d p.weight p.steps).map fun q => (s.passOn q.steps, q.weight)
      | _, _ => [([s], 0)]
    let tails := inlineSteps inlined depth weight rest
    here.flatMap fun (steps, w) => tails.map fun t =>
      { steps := steps ++ t.steps, weight := if w.natAbs > t.weight.natAbs then w else t.weight }
termination_by steps => (depth, steps.length)

/-- Numbers the symbols of a grammar and brings its rules into flat form. -/
def Flat.ofGrammar (g : Definition) : Flat := Id.run do
  -- tokens in order of appearance, with the number of times each is used
  let mut order : Array TokenRule := #[]
  let mut uses : HashMap TokenRule Nat := {}
  for t in (g.rules.map (·.2) ++ g.scanned).flatMap Rule.tokens do
    unless uses.contains t do order := order.push t
    uses := uses.insert t (uses.getD t 0 + 1)
  -- a rule that is one token used nowhere else names that token
  let mut tokenNames : HashMap TokenRule String := {}
  for (name, rule) in g.rules.drop 1 do
    if let .token t := rule then
      if uses.getD t 0 == 1 then tokenNames := tokenNames.insert t name
  let tokenNumber : HashMap TokenRule Nat :=
    order.foldl (fun (m, i) t => (m.insert t i, i + 1)) (({} : HashMap TokenRule Nat), 0) |>.1
  let mut numbers : HashMap String Nat := {}
  let mut tokens : Array TokenEntry := #[]
  for t in order do
    match tokenNames[t]? with
    | some name =>
      numbers := numbers.insert name tokens.size
      tokens := tokens.push { name, rule := t, visible := !name.startsWith "_", named := true }
    | none =>
      match t.body with
      | .text s => tokens := tokens.push { name := s, rule := t, visible := true, named := false }
      | .shape _ => tokens := tokens.push { name := "", rule := t, visible := false, named := false }
  let mut scanned : Array ScannedEntry := #[]
  for r in g.scanned do
    match r with
    | .token t => scanned := scanned.push { name := "", own := tokenNumber[t]? }
    | .symbol name =>
      match numbers[name]? with
      | some i => scanned := scanned.push { name, own := some i }
      | none =>
        numbers := numbers.insert name (tokens.size + scanned.size)
        scanned := scanned.push { name, own := none }
    | _ => pure ()
  let endSymbol := tokens.size + scanned.size
  -- repetitions become variables after all others
  let kept := g.rules.filter fun (name, _) => !numbers.contains name
  let mut repeats : Repeats := {}
  let mut rules : Array (String × Rule) := #[]
  for (name, rule) in kept do
    let (rule, repeats') := (rule.withoutRepeats name).run { repeats with inVariable := 0 }
    repeats := repeats'
    rules := rules.push (name, rule)
  let auxiliaryFrom := rules.size
  rules := rules ++ repeats.added
  for i in [0:rules.size] do
    if let some (name, _) := rules[i]? then numbers := numbers.insert name (endSymbol + 1 + i)
  let number : Rule → Nat
    | .symbol name => numbers.getD name 0
    | .token t => tokenNumber.getD t 0
    | _ => 0
  let raw := rules.map fun (_, r) => r.productions number
  let inlinedNumbers := g.inlined.filterMap (numbers[·]?)
  -- a symbol that is aliased wherever it stands is called by its commonest alias
  let mut bare : HashMap Nat Unit := {}
  let mut aliases : HashMap Nat (List (Alias × Nat)) := {}
  for x in g.extras do bare := bare.insert (numbers.getD x 0) ()
  for ps in raw do
    for p in ps do
      for s in p.steps do
        unless inlinedNumbers.contains s.symbol do
          match s.shownAs with
          | none => bare := bare.insert s.symbol ()
          | some a =>
            let known := aliases.getD s.symbol []
            aliases := aliases.insert s.symbol <|
              if known.any (·.1 == a) then
                known.map fun (b, n) => if b == a then (b, n + 1) else (b, n)
              else known ++ [(a, 1)]
  let mut defaultAlias : HashMap Nat Alias := {}
  for (symbol, known) in aliases.toList do
    unless bare.contains symbol do
      let best := known.foldl (fun acc (a, n) =>
        match acc with
        | some (_, m) => if n > m then some (a, n) else acc
        | none => some (a, n)) (none : Option (Alias × Nat))
      if let some (a, _) := best then defaultAlias := defaultAlias.insert symbol a
  let cleared := raw.map fun ps => ps.map fun p =>
    { p with steps := p.steps.map fun s =>
        if s.shownAs.isSome && s.shownAs == defaultAlias[s.symbol]? then { s with shownAs := none } else s }
  let inlined : Nat → Option (List Production) := fun n =>
    if inlinedNumbers.contains n then cleared[n - (endSymbol + 1)]? else none
  let depth := g.inlined.length
  let mut vars : Array Variable := #[]
  for i in [0:rules.size] do
    let some (name, _) := rules[i]? | continue
    let some ps := cleared[i]? | continue
    vars := vars.push {
      name
      hidden := name.startsWith "_" || g.groups.contains name || auxiliaryFrom ≤ i
      auxiliary := auxiliaryFrom ≤ i
      group := g.groups.contains name
      productions :=
        (ps.flatMap fun p => Production.inlineSteps inlined depth p.weight p.steps).eraseDups }
  return {
    tokens, scanned, vars
    extras := g.extras.filterMap (numbers[·]?)
    separator := g.separator
    word := numbers.getD g.word 0
    reserved := g.reserved.filterMap fun s => tokenNumber[({ body := .text s } : TokenRule)]?
    ranks := g.ranks
    defaultAlias }

end SketchSurvey.Script.Grammar

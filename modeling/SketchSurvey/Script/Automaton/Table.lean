import SketchSurvey.Script.Automaton.Merge

/-!
The finished automaton: what each state does on each token, which tokens it looks for, and how
symbols appear in the tree.
-/

set_option autoImplicit false

namespace SketchSurvey.Script.Automaton

open SketchSurvey.Script.Grammar SketchSurvey.Script.Lexical
open Std (HashMap)

inductive Action where
  | shift (state : Nat) (repetition : Bool)
  | shiftExtra
  | reduce (reduction : Reduction)
  | accept
  /-- Look for a way out of an error. -/
  | recover
  deriving Inhabited

/-- How a symbol appears in the tree. -/
structure Appearance where
  name : String
  visible : Bool
  named : Bool
  deriving Inhabited

structure Row where
  /-- For each token the actions on it, in order. -/
  actions : Array (List Action)
  gotos : Array (Option Nat)
  /-- Words that are no names here. -/
  reserved : TokenSet
  /-- Where the machine starts. -/
  start : List Nat
  /-- The text may end here. -/
  endExpected : Bool
  /-- The scanned tokens expected here, by their place in the grammar's list. -/
  scanned : List Nat
  deriving Inhabited

structure Table where
  rows : Array Row
  machine : Machine
  appearance : Array Appearance
  shown : Array Shown
  tokenCount : Nat
  endSymbol : Nat
  firstVariable : Nat
  word : Nat
  /-- Words that are tokens of their own. -/
  wordTokens : HashMap String Nat
  /-- The symbol of each scanned token. -/
  scannedSymbols : Array Nat
  /-- The tokens in the order in which a missing one is looked for. -/
  order : List Nat
  deriving Inhabited

/-- The state of recovery. -/
def errorState : Nat := 0

def startState : Nat := 1

namespace Table

/-- The symbol of a piece of text that does not fit. -/
def errorSymbol (t : Table) : Nat := t.appearance.size

/-- The symbol of pieces of text that do not fit, on the way to one that holds them all. -/
def errorPartSymbol (t : Table) : Nat := t.appearance.size + 1

def row (t : Table) (state : Nat) : Row := t.rows.getD state default

def actions (t : Table) (state token : Nat) : List Action :=
  (t.row state).actions.getD token []

/-- The state after taking a symbol, if taking it is what the state does last. -/
def next? (t : Table) (state symbol : Nat) : Option Nat :=
  if symbol < t.firstVariable then
    match (t.actions state symbol).getLast? with
    | some (.shift s _) => some s
    | some .shiftExtra => some state
    | _ => none
  else (t.row state).gotos.getD (symbol - t.firstVariable) none

/-- A number for comparing symbols: the end, the word, tokens, scanned tokens, variables, errors. -/
def order? (t : Table) (symbol : Nat) : Nat :=
  if symbol == t.endSymbol then 0
  else if symbol == t.word then 1
  else symbol + 2

def isVisible (t : Table) (symbol : Nat) : Bool :=
  if symbol == t.errorSymbol then true else (t.appearance.getD symbol default).visible

def ofGrammar (grammar : Definition) : Table := Id.run do
  let g := Flat.ofGrammar grammar
  let it := Items.ofFlat g
  let m := Machine.ofFlat g
  let o := Overlaps.ofMachine m (followingTokens g it)
  let states := allStates g it lookaheadLimit
  let together := coincident g states
  let words := keywords g m states o
  let recovery := recoveryTokens g o together words
  let merged := arrange <| skipUnitReductions g it <|
    mergeStates (Barriers.ofOverlaps g o words) states
  let expected := merged.mapIdx fun i s =>
    if i == errorState then recovery else s.tokens.union s.reserved
  let scanners := scannerTokens g o together words expected
  let rows := merged.mapIdx fun i s =>
    let entries : HashMap Nat Entry := HashMap.ofList s.entries.toList
    let gotos : HashMap Nat Nat := HashMap.ofList s.gotos.toList
    let own := if i == errorState then recovery else s.tokens
    let scanner := scanners.getD i .empty
    { actions := (Array.range g.firstVariable).map fun t =>
        if i == errorState then (if recovery.contains t then [.recover] else [])
        else match entries[t]? with
          | none => []
          | some e =>
            (e.reductions.map fun n => .reduce (it.reductions.getD n default)) ++
              (if e.accept then [.accept] else []) ++
              (e.shift.toList.map fun n => .shift n e.repetition) ++
              (if e.extra then [.shiftExtra] else [])
      gotos := (Array.range g.vars.size).map fun v => gotos[g.firstVariable + v]?
      reserved := s.reserved
      start := m.start (scanner.below g.tokenCount)
      endExpected := scanner.contains g.endSymbol
      scanned := g.scanned.toList.zipIdx.filterMap fun (e, j) =>
        if own.contains (e.own.getD (g.tokenCount + j)) then some j else none : Row }
  let plain : Array Appearance :=
    (g.tokens.map fun t => { name := t.name, visible := t.visible, named := t.named }) ++
    (g.scanned.map fun e =>
      { name := e.name, visible := !e.name.startsWith "_", named := true }) ++
    #[{ name := "end", visible := false, named := true }] ++
    (g.vars.map fun v => { name := v.name, visible := !v.hidden, named := true })
  return {
    rows
    machine := m
    appearance := plain.mapIdx fun i a =>
      match g.defaultAlias[i]? with
      | some as => { name := as.name, visible := true, named := as.named }
      | none => a
    shown := it.shown
    tokenCount := g.tokenCount
    endSymbol := g.endSymbol
    firstVariable := g.firstVariable
    word := g.word
    wordTokens := HashMap.ofList <| (words.below g.tokenCount).filterMap fun t =>
      match g.tokens[t]?.map fun (e : TokenEntry) => e.rule.body with
      | some (.text s) => some (s, t)
      | _ => none
    scannedSymbols := g.scanned.mapIdx fun j e => e.own.getD (g.tokenCount + j)
    order := g.word :: ((List.range g.tokenCount).erase g.word ++
      g.scanned.toList.zipIdx.filterMap fun (e, j) =>
        if e.own.isNone then some (g.tokenCount + j) else none) }

end Table

end SketchSurvey.Script.Automaton

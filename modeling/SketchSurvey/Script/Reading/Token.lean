import SketchSurvey.Script.Reading.Tree
import SketchSurvey.Script.Reading.Scanned

/-!
Finding the next token for a state of the automaton.
-/

set_option autoImplicit false

namespace SketchSurvey.Script.Reading

open SketchSurvey.Script.Automaton SketchSurvey.Script.Lexical

/-- How far the machine came: the token it found, if any, and where it stopped. -/
structure MachineRun where
  /-- The token, or the end of the text, and where it ends. -/
  found : Option (Nat × Extent)
  /-- Where the token starts, its leading space passed. -/
  start : Extent
  stop : Extent
  deriving Inhabited

/-- Runs the machine from the positions `candidates`. The longest token is found, except where a
token that ended has the higher rank. -/
def runMachine (m : Machine) (endSymbol : Nat) (s : Source) (reached candidates : List Nat)
    (endExpected : Bool) (start : Extent) (best : Option (Nat × Extent)) (p : Extent) :
    MachineRun :=
  let ended := m.completion reached
  let best := match ended with
    | some t => some (t, p)
    | none => best
  if _h : s.atEnd p = false then
    let c := m.classOfChar (s.look p)
    let next := candidates.filter fun q => (m.positions.getD q default).classes.testBit c
    let goesOn := match ended with
      | some t => m.readsOn t (m.hasSeparator candidates) next
      | none => true
    if next.isEmpty || !goesOn then ⟨best, start, p⟩
    else
      let separator := m.allSeparators next
      let p' := s.advance p
      runMachine m endSymbol s next (m.candidates next) (endExpected && separator)
        (if separator then p' else start) best p'
  else if endExpected then ⟨some (endSymbol, p), start, p⟩
  else ⟨best, start, p⟩
termination_by s.chars.size - p.chars
decreasing_by exact Source.advance_decreases _h

/-- What was found at a place. -/
structure Lexeme where
  symbol : Nat
  start : Extent
  stop : Extent
  keyword : Bool := false
  deriving Inhabited

/-- Text that no state expects: where it starts and where it ends. -/
structure Unknown where
  start : Extent
  stop : Extent

/-- Tries the scanned tokens of a state, then the machine's. An empty scanned token is passed over
when taking it could go on for ever. -/
def tokenAt (t : Table) (s : Source) (state mode : Nat) (mayBeEmpty : Bool) (p : Extent) :
    Lexeme ⊕ MachineRun :=
  let row := t.row mode
  -- a mark of byte order at the start is no part of the text
  let q := if p.chars == 0 && s.look p == 0xFEFF then s.advance p else p
  let special := scanSpecial s (row.scanned.filterMap ScannedToken.ofIndex?) q
  let special := special.bind fun f =>
    let symbol := t.scannedSymbols.getD f.token.index 0
    if f.stop.bytes ≤ p.bytes && (!mayBeEmpty || t.next? state symbol == some state) then none
    else some { symbol, start := f.start, stop := f.stop : Lexeme }
  match special with
  | some l => .inl l
  | none =>
    let run := runMachine t.machine t.endSymbol s [] row.start row.endExpected q none q
    match run.found with
    | some (symbol, stop) => .inl { symbol, start := run.start, stop }
    | none => .inr run

/-- A word is a token of its own where that token is expected or words are reserved. -/
def Lexeme.asKeyword (t : Table) (s : Source) (state : Nat) (l : Lexeme) : Lexeme :=
  if l.symbol == t.word then
    match t.wordTokens[s.slice l.start.chars l.stop.chars]? with
    | some k =>
      if !(t.actions state k).isEmpty || (t.row state).reserved.contains k then
        { l with symbol := k, keyword := true }
      else { l with keyword := true }
    | none => l
  else l

/-- Skips characters until some token is found or the text ends; all tokens are tried. `fuel` bounds
the characters skipped. -/
def skipUnknown (t : Table) (s : Source) (state : Nat) : Nat → Option Unknown → Extent →
    Lexeme ⊕ Unknown
  | 0, u, p => .inr (u.getD ⟨p, p⟩)
  | fuel + 1, u, p =>
    match tokenAt t s state errorState false p with
    | .inl l =>
      match u with
      | some u => .inr u
      | none => .inl l
    | .inr run =>
      let u := u.getD ⟨run.start, run.start⟩
      if run.stop.bytes == u.stop.bytes then
        if s.atEnd run.stop then .inr u
        else
          let p := s.advance run.stop
          skipUnknown t s state fuel (some { u with stop := p }) p
      else skipUnknown t s state fuel (some { u with stop := run.stop }) run.stop

/-- The next token for a state, as a leaf. -/
def nextLeaf (t : Table) (s : Source) (state : Nat) (mayBeEmpty : Bool) (p : Extent) : Tree :=
  let ofLexeme (l : Lexeme) : Tree :=
    -- a token that ends before its space has passed is empty and starts where it ends
    let start := if l.stop.bytes < l.start.bytes then l.stop else l.start
    let l := { l with start }.asKeyword t s state
    Tree.leaf l.symbol (start - p) (l.stop - start) (l.symbol == t.endSymbol) l.keyword
  let found :=
    if state == errorState then skipUnknown t s state (s.chars.size + 2) none p
    else match tokenAt t s state state mayBeEmpty p with
      | .inl l => .inl l
      | .inr _ => skipUnknown t s state (s.chars.size + 2) none p
  match found with
  | .inl l => ofLexeme l
  | .inr u => Tree.leaf t.errorSymbol (u.start - p) (u.stop - u.start) false false

end SketchSurvey.Script.Reading

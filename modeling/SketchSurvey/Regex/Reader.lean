import SketchSurvey.Host
import SketchSurvey.Regex.Syntax
import SketchSurvey.Regex.Problem
import SketchSurvey.Text.Digit
import SketchSurvey.Text.NameTable
import SketchSurvey.Text.WordTable

/-!
Reading a regular expression.
-/

set_option autoImplicit false

namespace SketchSurvey.Regex

structure ReadState where
  rest : List Token
  /-- The position after the last character. -/
  length : Nat
  flags : Flags := {}
  /-- The widths of the groups so far; a group that is open has none. -/
  widths : Array (Option Width) := #[]
  names : List (String × Nat) := []
  /-- How many groups there were when the outermost look behind began. -/
  behind : Option Nat := none
  /-- The groups that conditions name by a number, and where. -/
  conditions : List (Nat × Nat) := []

abbrev ReadM := StateT ReadState (Except Problem)

namespace Read

def position : ReadM Nat := do
  let s ← get
  return match s.rest with
    | t :: _ => t.position
    | [] => s.length

def failAt {α : Type} (cause : Cause) (position : Nat) : ReadM α :=
  throw (.malformed cause (some position))

/-- Fails at the place that lies `back` characters before the next token. -/
def fail {α : Type} (cause : Cause) (back : Nat := 0) : ReadM α := do
  failAt cause ((← position) - back)

def peek? : ReadM (Option Token) := return (← get).rest.head?

/-- The next character, if it is there and not escaped. -/
def peekPlain? : ReadM (Option Char) := return (← get).rest.head?.bind Token.plain?

/-- The next token may be no lone backslash. -/
def check : ReadM Unit := do
  if let t :: _ := (← get).rest then
    if t.isDangling then failAt .escapeAtEnd t.position

def advance : ReadM Unit := do
  modify fun s => { s with rest := s.rest.tail }
  check

def take? : ReadM (Option Token) := do
  let t ← peek?
  advance
  return t

/-- Passes over a character if it is the next. -/
def accept (c : Char) : ReadM Bool := do
  if (← peekPlain?) == some c then
    advance
    return true
  else return false

/-- At most `n` characters of a kind. -/
def takeWhile (kind : Char → Bool) : Nat → ReadM (List Char)
  | 0 => return []
  | n + 1 => do
    match ← peekPlain? with
    | some c =>
      if kind c then
        advance
        return c :: (← takeWhile kind n)
      else return []
    | none => return []

/-- What stands before a terminator, which is passed over. -/
def takeUntil (terminator : Char) (what : String) (read : List Char) : Nat → ReadM String
  | 0 => fail (.missingName what)
  | fuel + 1 => do
    match ← take? with
    | none =>
      if read.isEmpty then fail (.missingName what)
      else fail (.unterminatedName terminator) read.length
    | some t =>
      if t.plain? == some terminator then
        if read.isEmpty then fail (.missingName what) 1
        else return String.ofList read
      else takeUntil terminator what (read ++ t.chars) fuel

def takeName (terminator : Char) (what : String) : ReadM String := do
  takeUntil terminator what [] ((← get).rest.length + 1)

end Read

open Read

def isOctal (c : Char) : Bool := '0' ≤ c && c ≤ '7'

def isDecimal (c : Char) : Bool := '0' ≤ c && c ≤ '9'

def isHex (c : Char) : Bool :=
  isDecimal c || ('a' ≤ c && c ≤ 'f') || ('A' ≤ c && c ≤ 'F')

def isLetter (c : Char) : Bool := ('a' ≤ c && c ≤ 'z') || ('A' ≤ c && c ≤ 'Z')

def hexValue (c : Char) : Nat :=
  if isDecimal c then c.toNat - 48
  else if 'a' ≤ c && c ≤ 'f' then c.toNat - 87
  else c.toNat - 55

def valueInBase (base : Nat) (cs : List Char) : Nat :=
  cs.foldl (fun n c => n * base + hexValue c) 0

/-- Letters of any script: all that count as letters or numbers and are not only numbers. -/
def isAnyLetter (c : Char) : Bool := Text.alphanumeric.has c && !Text.numberOnly.has c

def isName (s : String) : Bool :=
  match s.toList with
  | c :: rest => Text.nameStart.has c && rest.all Text.nameRest.has
  | [] => false

/-- Escapes that stand for one character. -/
def controlEscape? : Char → Option Nat
  | 'a' => some 7
  | 'b' => some 8
  | 'f' => some 12
  | 'n' => some 10
  | 'r' => some 13
  | 't' => some 9
  | 'v' => some 11
  | '\\' => some 92
  | _ => none

def categoryEscape? : Char → Option SetItem
  | 'd' => some (.category false .digit)
  | 'D' => some (.category true .digit)
  | 's' => some (.category false .space)
  | 'S' => some (.category true .space)
  | 'w' => some (.category false .word)
  | 'W' => some (.category true .word)
  | _ => none

def anchorEscape? : Char → Option Anchor
  | 'A' => some .textStart
  | 'b' => some .boundary
  | 'B' => some .noBoundary
  | 'Z' => some .textEnd
  | _ => none

/-- The largest number that fits a machine integer with a sign. -/
def maxMachineInt : Nat := 0x7FFFFFFF

/-- A code in exactly `width` hexadecimal digits. -/
def readCode (mark : Char) (width : Nat) : ReadM Nat := do
  let ds ← takeWhile isHex width
  let escape := String.ofList ('\\' :: mark :: ds)
  if ds.length != width then fail (.incompleteEscape escape) (ds.length + 2)
  else
    let n := valueInBase 16 ds
    if n > maxMachineInt then throw .codeOverflow
    else if n > 0x10FFFF then fail (.badEscape escape) (width + 2)
    else return n

variable [Host]

/-- A character by its name in braces. -/
def readNamed : ReadM Nat := do
  if ← accept '\x7b' then
    let name ← takeName '\x7d' "character name"
    match Host.characterNamed? name with
    | some n => return n
    | none => fail (.unknownCharacter name) (name.length + 4)
  else fail .missingBrace

/-- The escapes that mean the same inside and outside a set: codes and names. -/
def readCommonEscape? (c : Char) : ReadM (Option Nat) := do
  match c with
  | 'x' => return some (← readCode 'x' 2)
  | 'u' => return some (← readCode 'u' 4)
  | 'U' => return some (← readCode 'U' 8)
  | 'N' => return some (← readNamed)
  | _ => return none

def tooLargeOctal : Nat := 0o377

/-- An escape inside a set, its first token taken. -/
def readSetEscape (c : Char) : ReadM SetItem := do
  if let some n := controlEscape? c then return .literal n
  if let some item := categoryEscape? c then return item
  if let some n ← readCommonEscape? c then return .literal n
  let bad : ReadM SetItem := fail (.badEscape (String.ofList ['\\', c])) 2
  if isOctal c then
    let ds := c :: (← takeWhile isOctal 2)
    let n := valueInBase 8 ds
    if n > tooLargeOctal then
      fail (.octalTooLarge (String.ofList ('\\' :: ds))) (ds.length + 1)
    else return .literal n
  else if isDecimal c || isLetter c then bad
  else return .literal c.toNat

def isClosed (group : Nat) : ReadM Bool := do
  return match (← get).widths[group - 1]? with
    | some (some _) => true
    | _ => false

/-- Inside a look behind only groups from before it can be named. -/
def checkBehind (group : Nat) : ReadM Unit := do
  if let some n := (← get).behind then
    unless ← isClosed group do fail .openGroup
    if group ≥ n then fail .groupInLookbehind

/-- An escape outside a set, its first token taken. -/
def readEscape (c : Char) : ReadM Node := do
  if let some a := anchorEscape? c then return .anchor a
  if let some item := categoryEscape? c then return .set false [item]
  if let some n := controlEscape? c then return .literal n
  if let some n ← readCommonEscape? c then return .literal n
  if c = '0' then
    return .literal (valueInBase 8 (← takeWhile isOctal 2))
  else if isDecimal c then
    let second ← takeWhile isDecimal 1
    let third ← match second with
      | [d] => if isOctal c && isOctal d then takeWhile isOctal 1 else pure []
      | _ => pure []
    let ds := c :: second ++ third
    if ds.length == 3 then
      let n := valueInBase 8 ds
      if n > tooLargeOctal then fail (.octalTooLarge (String.ofList ('\\' :: ds))) 4
      else return .literal n
    else
      let group := valueInBase 10 ds
      if group ≤ (← get).widths.size then
        unless ← isClosed group do fail .openGroup (ds.length + 1)
        checkBehind group
        return .backreference group
      else fail (.noSuchGroup group) ds.length
  else if isLetter c then fail (.badEscape (String.ofList ['\\', c])) 2
  else return .literal c.toNat

/-- One end of a range, with its token as it was written. -/
structure SetEnd where
  item : SetItem
  text : String

def readSetEnd (t : Token) : ReadM SetEnd := do
  match t.chars with
  | ['\\', c] => return { item := ← readSetEscape c, text := t.text }
  | [c] => return { item := .literal c.toNat, text := t.text }
  | _ => return { item := .literal 0, text := t.text }

/-- The items of a set up to its bracket. `start` is the position of the opening bracket. -/
def readSetItems (start : Nat) (items : List SetItem) : Nat → ReadM (List SetItem)
  | 0 => failAt .unterminatedSet start
  | fuel + 1 => do
    match ← take? with
    | none => failAt .unterminatedSet start
    | some t =>
      if t.plain? == some ']' && !items.isEmpty then return items
      else
        let first ← readSetEnd t
        if ← accept '-' then
          match ← take? with
          | none => failAt .unterminatedSet start
          | some u =>
            if u.plain? == some ']' then return items ++ [first.item, .literal '-'.toNat]
            else
              let last ← readSetEnd u
              let bad : ReadM (List SetItem) :=
                fail (.badRange first.text last.text) (first.text.length + 1 + last.text.length)
              match first.item, last.item with
              | .literal lo, .literal hi =>
                if hi < lo then bad else readSetItems start (items ++ [.range lo hi]) fuel
              | _, _ => bad
        else readSetItems start (items ++ [first.item]) fuel

def readSet (start : Nat) : ReadM Node := do
  let negated ← accept '^'
  let items ← readSetItems start [] ((← get).rest.length + 1)
  return .set negated items

/-- What a pattern repeats from this number on is beyond all bounds. -/
def maxRepeat : Nat := 4294967295

def readCount (ds : List Char) : ReadM Nat := do
  if ds.length > Text.maxDigits then throw (.tooManyDigits ds.length)
  let n := valueInBase 10 ds
  if n ≥ maxRepeat then throw .repeatOverflow
  return n

/-- The bounds in braces, the opening brace taken; none if the brace stands for itself. -/
def readBounds? : ReadM (Option (Nat × Option Nat)) := do
  let saved ← get
  let start ← position
  if (← peekPlain?) == some '\x7d' then return none
  let size := saved.rest.length
  let lo ← takeWhile isDecimal size
  let hi ← if ← accept ',' then takeWhile isDecimal size else pure lo
  if ← accept '\x7d' then
    let least ← if lo.isEmpty then pure 0 else readCount lo
    if hi.isEmpty then return some (least, none)
    let most ← readCount hi
    if most < least then failAt .leastAboveMost start
    return some (least, some most)
  else
    set saved
    return none

/-- What a repetition does with the choice of how often. -/
def readGreed : ReadM Greed := do
  if ← accept '?' then return .lazy
  if ← accept '+' then return .possessive
  return .greedy

/-- Puts a repetition around the last node. -/
def readRepeat (start : Nat) (least : Nat) (most : Option Nat) (read : List Node) :
    ReadM (List Node) := do
  let wrap (item : Node) (before : List Node) : ReadM (List Node) := do
    let body := match item with
      | .group none on off body => if on.isEmpty && off.isEmpty then body else [item]
      | _ => [item]
    return .repeat (← readGreed) least most body :: before
  match read with
  | [] => failAt .nothingToRepeat start
  | .anchor _ :: _ => failAt .nothingToRepeat start
  | .repeat .. :: _ => failAt .repeatedRepeat start
  | item :: before => wrap item before

/-- Checks the name of a group, which has just been read with its terminator. -/
def checkName (name : String) : ReadM Unit := do
  unless isName name do fail (.badGroupName name) (name.length + 1)

def groupNamed (name : String) : ReadM Nat := do
  match (← get).names.find? (·.1 == name) with
  | some (_, n) => return n
  | none => fail (.unknownGroup name) (name.length + 1)

/-- Flags that hold for a whole pattern only. -/
def Flags.isGlobal (f : Flags) : Bool := f.template

/-- The flags to turn off, the minus taken. -/
def readFlagsOff (off : Flags) (t : Option Token) : Nat → ReadM Flags
  | 0 => fail .missingColon
  | fuel + 1 => do
    let missing : Cause := if off.isEmpty then .missingFlag else .missingColon
    match t with
    | none => fail missing
    | some t =>
      if !off.isEmpty && t.plain? == some ':' then return off
      match t.plain?.bind Flags.ofLetter? with
      | none =>
        fail (if t.plain?.any isAnyLetter then .unknownFlag else missing) t.chars.length
      | some flag =>
        if flag.choosesLetters then fail .letterFlagOff
        readFlagsOff (off.join flag) (← take?) fuel

/-- What a list of flags means: flags for the whole pattern, or for a group. -/
inductive FlagScope where
  | whole (on : Flags)
  | group (on off : Flags)

/-- The flags to turn on, the first letter taken. -/
def readFlagsOn (on : Flags) (letter : Char) : Nat → ReadM (Flags × Char)
  | 0 => fail .missingFlagEnd
  | fuel + 1 => do
    let flag := (Flags.ofLetter? letter).getD {}
    if flag.locale then fail .localeFlag
    let on := on.join flag
    if flag.choosesLetters && on.letterChoices > 1 then fail .incompatibleFlags
    match ← take? with
    | none => fail .missingFlagEnd
    | some t =>
      match t.plain? with
      | some c =>
        if c = ')' || c = '-' || c = ':' then return (on, c)
        else if (Flags.ofLetter? c).isSome then readFlagsOn on c fuel
        else fail (if isAnyLetter c then .unknownFlag else .missingFlagEnd) 1
      | none => fail .missingFlagEnd t.chars.length

def readFlags (letter : Char) : ReadM FlagScope := do
  let fuel := (← get).rest.length + 2
  let (on, mark) ← if letter = '-' then pure ({}, '-') else readFlagsOn {} letter fuel
  if mark = ')' then return .whole on
  if on.isGlobal then fail .globalFlagOn 1
  let off ← if mark = '-' then do readFlagsOff {} (← take?) fuel else pure {}
  if off.isGlobal then fail .globalFlagOff 1
  if on.meets off then fail .flagOnAndOff 1
  return .group on off

def openGroup (name : Option String) : ReadM Nat := do
  let s ← get
  let number := s.widths.size + 1
  if let some n := name then
    if let some (_, before) := s.names.find? (·.1 == n) then
      fail (.redefinedGroup n number before) (n.length + 1)
  set { s with
    widths := s.widths.push none
    names := s.names ++ (name.map fun n => (n, number)).toList }
  return number

def closeGroup (number : Nat) (body : List Node) : ReadM Unit := do
  let s ← get
  let w := widthOf (fun g => ((s.widths[g - 1]?).bind id).getD .none) body
  set { s with widths := s.widths.set! (number - 1) (some w) }

/-- The group that a condition asks for. -/
def readCondition : ReadM Nat := do
  let name ← takeName ')' "group name"
  let group ← if isName name then groupNamed name
    else match Text.parseInt name with
      | .ok (.ofNat n) =>
        if n == 0 then fail .groupZero (name.length + 1)
        else if n ≥ 1073741823 then fail (.noSuchGroup n) (name.length + 1)
        else
          let place := (← position) - name.length - 1
          modify fun s => { s with
            conditions := if s.conditions.any (·.1 == n) then s.conditions
              else s.conditions ++ [(n, place)] }
          pure n
      | _ => fail (.badGroupName name) (name.length + 1)
  checkBehind group
  return group

/-- Passes over a comment. -/
def skipComment (start : Nat) : Nat → ReadM Unit
  | 0 => failAt .unterminatedComment start
  | fuel + 1 => do
    match ← peek? with
    | none => failAt .unterminatedComment start
    | some t =>
      advance
      unless t.plain? == some ')' do skipComment start fuel

/-- Passes over the rest of a line. -/
def skipLine : Nat → ReadM Unit
  | 0 => return
  | fuel + 1 => do
    match ← take? with
    | none => return
    | some t => unless t.plain? == some '\n' do skipLine fuel

def isPatternSpace (c : Char) : Bool := c == ' ' || (9 ≤ c.toNat && c.toNat ≤ 13)

def closeParenthesis (start : Nat) : ReadM Unit := do
  unless ← accept ')' do failAt .unterminatedGroup start

/-- What stands after an opening parenthesis: nothing that matches, or a node. -/
abbrev Opened := Option Node

mutual

/-- Alternatives. `nested` tells whether they stand in a group. -/
def readAlternatives (verbose nested : Bool) : Nat → ReadM (List Node)
  | 0 => return []
  | fuel + 1 => do
    let first ← readSequence verbose (!nested) [] fuel
    let others ← readMore verbose nested fuel
    match others with
    | [] => return first
    | _ => return [.branch (first :: others)]

/-- The alternatives after the first. -/
def readMore (verbose nested : Bool) : Nat → ReadM (List (List Node))
  | 0 => return []
  | fuel + 1 => do
    if ← accept '|' then
      let whole := (← get).flags.verbose
      let verbose := if nested then verbose else whole
      let next ← readSequence verbose false [] fuel
      return next :: (← readMore verbose nested fuel)
    else return []

/-- A sequence of nodes; `read` holds those before, the last first. `first` tells whether flags for
the whole pattern may stand here. -/
def readSequence (verbose first : Bool) (read : List Node) : Nat → ReadM (List Node)
  | 0 => return read.reverse
  | fuel + 1 => do
    match ← peek? with
    | none => return read.reverse
    | some t =>
      match t.chars with
      | [c] =>
        if c = '|' || c = ')' then return read.reverse
        advance
        if verbose && isPatternSpace c then readSequence verbose first read fuel
        else if verbose && c = '#' then
          skipLine ((← get).rest.length + 1)
          readSequence verbose first read fuel
        else match c with
          | '[' => readSequence verbose first ((← readSet t.position) :: read) fuel
          | '?' => readSequence verbose first (← readRepeat t.position 0 (some 1) read) fuel
          | '*' => readSequence verbose first (← readRepeat t.position 0 none read) fuel
          | '+' => readSequence verbose first (← readRepeat t.position 1 none read) fuel
          | '\x7b' =>
            match ← readBounds? with
            | none => readSequence verbose first (.literal c.toNat :: read) fuel
            | some (least, most) =>
              readSequence verbose first (← readRepeat t.position least most read) fuel
          | '.' => readSequence verbose first (.any :: read) fuel
          | '^' => readSequence verbose first (.anchor .lineStart :: read) fuel
          | '$' => readSequence verbose first (.anchor .lineEnd :: read) fuel
          | '(' =>
            let opened ← readGroup verbose (first && read.isEmpty) t.position fuel
            match opened with
            | some n => readSequence verbose first (n :: read) fuel
            | none =>
              -- flags for the whole pattern may have been read
              let whole := (← get).flags.verbose
              readSequence (verbose || (first && read.isEmpty && whole)) first read fuel
          | _ => readSequence verbose first (.literal c.toNat :: read) fuel
      | ['\\', c] =>
        advance
        readSequence verbose first ((← readEscape c) :: read) fuel
      | _ => return read.reverse

/-- What follows an opening parenthesis at `start`. -/
def readGroup (verbose mayFlag : Bool) (start : Nat) : Nat → ReadM Opened
  | 0 => return none
  | fuel + 1 => do
    if !(← accept '?') then
      return some (← readBody verbose (some none) {} {} start fuel)
    match ← take? with
    | none => fail .patternEnds
    | some t =>
      match t.plain? with
      | some 'P' =>
        if ← accept '<' then
          let name ← takeName '>' "group name"
          checkName name
          return some (← readBody verbose (some (some name)) {} {} start fuel)
        else if ← accept '=' then
          let name ← takeName ')' "group name"
          checkName name
          let group ← groupNamed name
          unless ← isClosed group do fail .openGroup (name.length + 1)
          checkBehind group
          return some (.backreference group)
        else
          match ← take? with
          | none => fail .patternEnds
          | some u => fail (.unknownExtension ("P" ++ u.text)) (u.chars.length + 2)
      | some ':' => return some (← readBody verbose none {} {} start fuel)
      | some '#' =>
        skipComment start ((← get).rest.length + 1)
        return none
      | some '=' => return some (← readLook verbose false false start fuel)
      | some '!' => return some (← readLook verbose false true start fuel)
      | some '<' =>
        match ← take? with
        | none => fail .patternEnds
        | some u =>
          match u.plain? with
          | some '=' => return some (← readLook verbose true false start fuel)
          | some '!' => return some (← readLook verbose true true start fuel)
          | _ => fail (.unknownExtension ("<" ++ u.text)) (u.chars.length + 2)
      | some '(' =>
        let group ← readCondition
        let yes ← readSequence verbose false [] fuel
        let no ← if ← accept '|' then do
            let no ← readSequence verbose false [] fuel
            if (← peekPlain?) == some '|' then fail .thirdBranch
            pure no
          else pure []
        closeParenthesis start
        return some (.conditional group yes no)
      | some '>' =>
        let body ← readAlternatives verbose true fuel
        closeParenthesis start
        return some (.atomic body)
      | some c =>
        if c = '-' || (Flags.ofLetter? c).isSome then
          match ← readFlags c with
          | .whole on =>
            modify fun s => { s with flags := s.flags.join on }
            unless mayFlag do failAt .flagsNotAtStart start
            return none
          | .group on off => return some (← readBody verbose none on off start fuel)
        else fail (.unknownExtension t.text) (t.chars.length + 1)
      | none => fail (.unknownExtension t.text) (t.chars.length + 1)

/-- The inside of a group. `capture` tells whether the group has a number, and its name. -/
def readBody (verbose : Bool) (capture : Option (Option String)) (on off : Flags) (start : Nat) :
    Nat → ReadM Node
  | 0 => return .any
  | fuel + 1 => do
    let number ← match capture with
      | some name => pure (some (← openGroup name))
      | none => pure none
    let inside := (verbose || on.verbose) && !off.verbose
    let body ← readAlternatives inside true fuel
    closeParenthesis start
    if let some n := number then closeGroup n body
    return .group number on off body

/-- The inside of a look ahead or behind. -/
def readLook (verbose behind negated : Bool) (start : Nat) : Nat → ReadM Node
  | 0 => return .any
  | fuel + 1 => do
    let outer := (← get).behind
    if behind && outer.isNone then
      modify fun s => { s with behind := some (s.widths.size + 1) }
    let body ← readAlternatives verbose true fuel
    if behind && outer.isNone then modify fun s => { s with behind := none }
    closeParenthesis start
    return .look behind negated body

end

/-- Looks behind reach back over a fixed number of characters, no more than this. -/
def maxBehind : Nat := 4294967295

mutual

/-- What makes a pattern unusable that was read without fault. -/
def Node.problem? (widths : Nat → Width) (template : Bool) : Node → Option Cause
  | .group _ _ _ body => problemIn? widths template body
  | .branch alternatives => problemInBranches? widths template alternatives
  | .repeat greed _ _ body =>
    if template then
      some <| .templateRepeat <| match greed with
        | .greedy => "MAX_REPEAT"
        | .lazy => "MIN_REPEAT"
        | .possessive => "POSSESSIVE_REPEAT"
    else problemIn? widths template body
  | .atomic body => problemIn? widths template body
  | .look behind _ body =>
    let w := widthOf widths body
    if behind && w.least > maxBehind then some .behindTooFar
    else if behind && w.least != w.most then some .behindNotFixed
    else problemIn? widths template body
  | .conditional _ yes no => problemIn? widths template yes <|> problemIn? widths template no
  | _ => none

def problemIn? (widths : Nat → Width) (template : Bool) : List Node → Option Cause
  | [] => none
  | n :: rest => n.problem? widths template <|> problemIn? widths template rest

def problemInBranches? (widths : Nat → Width) (template : Bool) : List (List Node) → Option Cause
  | [] => none
  | b :: rest => problemIn? widths template b <|> problemInBranches? widths template rest

end

def readPattern : ReadM (List Node) := do
  check
  let fuel := 4 * (← get).rest.length + 4
  let body ← readAlternatives false false fuel
  let s ← get
  if s.flags.ascii && s.flags.unicode then throw .incompatibleLetters
  unless s.rest.isEmpty do fail .unbalanced
  for (group, place) in s.conditions do
    if group > s.widths.size then failAt (.noSuchGroup group) place
  let widths (g : Nat) : Width := ((s.widths[g - 1]?).bind id).getD .none
  if let some cause := problemIn? widths s.flags.template body then
    throw (.malformed cause none)
  return body

/-- Reads a regular expression. -/
def compile (pattern : String) : Except Problem Pattern :=
  if Host.exhaustedByPattern pattern then .error .stackExhausted
  else
    let cs := pattern.toList
    match (readPattern.run { rest := tokens 0 cs, length := cs.length }) with
    | .ok (body, s) =>
      let widths := s.widths.toList.map fun w => w.getD .none
      .ok { source := pattern, body, flags := s.flags, widths }
    | .error p => .error p

end SketchSurvey.Regex

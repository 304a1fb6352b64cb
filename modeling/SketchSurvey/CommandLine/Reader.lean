import SketchSurvey.CommandLine.Help
import SketchSurvey.Text.Digit
import SketchSurvey.Text.Quoted

/-!
Reading a command line. Options may be shortened as long as it is clear which one is meant, and their
values may follow an equals sign. After `--` nothing is an option.
-/

set_option autoImplicit false

namespace SketchSurvey.CommandLine

/-- How reading ended early: the exit code, and what is shown. -/
structure Stop where
  code : Nat
  output : String := ""
  error : String := ""
  deriving BEq, Repr, DecidableEq

/-- Stops with a message about how a command is called. -/
def CommandSpec.stop (c : CommandSpec) (message : String) : Stop where
  code := 2
  error := c.usage ++ c.fullName ++ ": error: " ++ message ++ "\n"

/-- An option in an argument, and the value written into the same argument. -/
structure Found where
  option : OptionSpec
  /-- The option was written with one hyphen. -/
  short : Bool := false
  value : Option String
  deriving BEq, Repr

/-- What an argument is, seen alone. -/
inductive ArgumentKind where
  | found (f : Found)
  /-- It looks like an option, but is none. -/
  | unknown
  | plain
  /-- The mark after which nothing is an option. -/
  | dashes
  deriving BEq, Repr

def ArgumentKind.isOption : ArgumentKind → Bool
  | found _ | unknown => true
  | plain | dashes => false

def byName? (options : List OptionSpec) (name : String) : Option OptionSpec :=
  options.find? fun o => o.names.contains name

/-- What stands before the first equals sign, and what after it. -/
def splitEquals? (text : String) : Option (String × String) :=
  let cs := text.toList
  let before := cs.takeWhile (· != '=')
  match cs.drop before.length with
  | _ :: after => some (String.ofList before, String.ofList after)
  | [] => none

/-- The names that a shortened name can stand for. -/
def completions (options : List OptionSpec) (text : String) : List (String × Found) :=
  match text.toList with
  | '-' :: '-' :: _ =>
    let (start, value) := match splitEquals? text with
      | some (start, value) => (start, some value)
      | none => (text, none)
    options.flatMap fun o => (o.names.filter (start.toList.isPrefixOf ·.toList)).map fun n =>
      (n, { option := o, value })
  | '-' :: c :: rest =>
    options.flatMap fun o => (o.names.filter (· == String.ofList ['-', c])).map fun n =>
      (n, { option := o, short := true, value := some (String.ofList rest) })
  | _ => []

/-- Whether a text is a number below zero, as far as its characters tell. -/
def looksNegative (text : String) : Bool :=
  let isDigit (c : Char) : Bool := (Text.digitValue? c).isSome
  let cs := match text.toList.reverse with
    | '\n' :: rest => rest.reverse
    | _ => text.toList
  match cs with
  | '-' :: rest =>
    let whole := rest.takeWhile isDigit
    match rest.drop whole.length with
    | [] => !whole.isEmpty
    | '.' :: fraction => !fraction.isEmpty && fraction.all isDigit
    | _ => false
  | _ => false

/-- Tells what an argument is. -/
def CommandSpec.kindOf (c : CommandSpec) (text : String) : Except Stop ArgumentKind :=
  match text.toList with
  | [] => .ok .plain
  | first :: rest =>
    if first != '-' then .ok .plain
    else
      let short := rest.head? != some '-'
      match byName? c.options text with
      | some o => .ok (.found { option := o, short, value := none })
      | none =>
        if rest.isEmpty then .ok .plain
        else
          match (splitEquals? text).bind fun (n, v) => (byName? c.options n).map (·, v) with
          | some (o, v) => .ok (.found { option := o, short, value := some v })
          | none =>
            match completions c.options text with
            | [(_, f)] => .ok (.found f)
            | [] =>
              if looksNegative text || text.toList.contains ' ' then .ok .plain else .ok .unknown
            | many => .error (c.stop ("ambiguous option: " ++ text ++ " could match " ++
                ", ".intercalate (many.map (·.1))))

/-- An argument and what it is. -/
structure Marked where
  text : String
  kind : ArgumentKind

/-- Tells of all arguments what they are. -/
def CommandSpec.markAll (c : CommandSpec) : List String → Except Stop (List Marked)
  | [] => .ok []
  | text :: rest =>
    if text == "--" then
      .ok ({ text, kind := .dashes } :: rest.map fun t => { text := t, kind := .plain })
    else do
      let kind ← c.kindOf text
      return { text, kind } :: (← c.markAll rest)

/-- The value of an option. -/
inductive Given (α : Type) where
  | absent
  /-- The option was given, but its value counts as the mark that ends the options. -/
  | emptied
  | value (a : α)
  deriving BEq, Repr, DecidableEq

/-- An option that was given. -/
inductive Setting where
  | flag (o : OptionSpec)
  | text (o : OptionSpec) (v : Given String)
  | number (o : OptionSpec) (v : Given Int)
  deriving BEq, Repr

/-- What the arguments of a command say; `β` is what is made of those that are no options. -/
structure Level (β : Type) where
  settings : List Setting := []
  positional : Option β := none
  /-- The arguments that nothing was made of. -/
  extras : List String := []
  deriving Repr

/-- The message about an option. -/
def CommandSpec.stopAt (c : CommandSpec) (o : OptionSpec) (message : String) : Stop :=
  c.stop ("argument " ++ "/".intercalate o.names ++ ": " ++ message)

/-- Sets an option to the value it was given. -/
def CommandSpec.settingOf (c : CommandSpec) (o : OptionSpec) (value : String) : Except Stop Setting :=
  match o.arity with
  | .number _ =>
    if value == "--" then .ok (.number o .emptied)
    else
      match Text.parseInt value with
      | .ok n => .ok (.number o (.value n))
      | .error _ => .error (c.stopAt o ("invalid int value: " ++ Text.quoted value))
  | _ => .ok (.text o (if value == "--" then .emptied else .value value))

/-- Takes an option and its value, given the arguments after it; what is left of them is the second part
of the result. -/
def CommandSpec.takeOption (c : CommandSpec) (f : Found) (rest : List Marked) :
    Except Stop (Setting × List Marked) :=
  match f.option.arity, f.value with
  | .help, none => .error { code := 0, output := c.helpText }
  | .help, some v =>
    -- Behind the short form the same letter may follow any number of times.
    let left := if f.short then String.ofList (v.toList.dropWhile (· == 'h')) else v
    if left.isEmpty && !v.isEmpty then .error { code := 0, output := c.helpText }
    else .error (c.stopAt f.option ("ignored explicit argument " ++ Text.quoted left))
  | .flag, none => .ok (.flag f.option, rest)
  | .flag, some v => .error (c.stopAt f.option ("ignored explicit argument " ++ Text.quoted v))
  | _, some v => do return (← c.settingOf f.option v, rest)
  | _, none =>
    match rest with
    | { text, kind := .plain } :: after => do return (← c.settingOf f.option text, after)
    | _ => .error (c.stopAt f.option "expected one argument")

/-- How many of some arguments belong to the positional ones, counted from the first. -/
def Positional.count (p : Positional) (args : List Marked) : Nat :=
  let dashes := args.takeWhile (·.kind == .dashes)
  match args.drop dashes.length with
  | { kind := .plain, .. } :: rest =>
    dashes.length + 1 + match p with
      | .one .. => (rest.takeWhile (·.kind == .dashes)).length
      | .many .. => (rest.takeWhile fun a => !a.kind.isOption).length
      | .command _ => rest.length
  | _ => 0

/-- The positional arguments without the first mark that ends options. A command keeps it. -/
def Positional.values (p : Positional) (args : List Marked) : List String :=
  let texts := args.map (·.text)
  match p with
  | .command _ => texts
  | _ => texts.erase "--"

variable {β : Type}

/-- Takes the positional arguments if they start here. -/
def CommandSpec.takePositional (c : CommandSpec) (accept : List String → Except Stop β) (l : Level β)
    (args : List Marked) : Except Stop (Level β × List Marked) :=
  if l.positional.isSome then .ok (l, args)
  else
    match c.positional.count args with
    | 0 => .ok (l, args)
    | n => do
      let taken ← accept (c.positional.values (args.take n))
      return ({ l with positional := some taken }, args.drop n)

/-- Reads arguments one after another. -/
def CommandSpec.readArgs (c : CommandSpec) (accept : List String → Except Stop β) :
    Nat → Level β → List Marked → Except Stop (Level β)
  | 0, l, _ => .ok l
  | fuel + 1, l, args =>
    if !args.any (·.kind.isOption) then do
      let (l, rest) ← c.takePositional accept l args
      return { l with extras := l.extras ++ rest.map (·.text) }
    else
      match args with
      | [] => .ok l
      | { kind := .found f, .. } :: rest => do
        let (setting, rest) ← c.takeOption f rest
        c.readArgs accept fuel { l with settings := l.settings ++ [setting] } rest
      | { text, kind := .unknown } :: rest =>
        c.readArgs accept fuel { l with extras := l.extras ++ [text] } rest
      | args => do
        let (l, rest) ← c.takePositional accept l args
        if rest.length < args.length then c.readArgs accept fuel l rest
        else
          let skipped := args.takeWhile fun a => !a.kind.isOption
          c.readArgs accept fuel { l with extras := l.extras ++ skipped.map (·.text) }
            (args.drop skipped.length)

/-- Reads the arguments of a command. What is made of the positional ones is for `accept` to say. -/
def CommandSpec.readAll (c : CommandSpec) (accept : List String → Except Stop β) (args : List String) :
    Except Stop (Level β) := do
  let marked ← c.markAll args
  let l ← c.readArgs accept (2 * marked.length + 1) {} marked
  match c.positional, l.positional with
  | .command _, _ | _, some _ => return l
  | p, none => throw (c.stop ("the following arguments are required: " ++ p.name))

end SketchSurvey.CommandLine

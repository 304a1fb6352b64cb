import SketchSurvey.CommandLine.Spec

/-!
Usage lines and help texts, set for a terminal of eighty columns.
-/

set_option autoImplicit false

namespace SketchSurvey.CommandLine

/-- The columns of a line that are used. -/
def lineWidth : Nat := 78

/-- The column at which explanations start at the latest. -/
def maxHelpColumn : Nat := 24

def blanks (n : Nat) : String := "".pushn ' ' n

/-- A part of a text that stands on one line; `spaced` if a space goes before it within a line. -/
structure Chunk where
  spaced : Bool
  text : String
  deriving BEq, Repr

/-- The parts of a word, which may be parted after a hyphen between letters. -/
def wordParts (acc : List Char) : List Char → List String
  | a :: '-' :: b :: rest =>
    if a.isAlpha && b.isAlpha then
      String.ofList (acc.reverse ++ [a, '-']) :: wordParts [] (b :: rest)
    else wordParts (a :: acc) ('-' :: b :: rest)
  | c :: rest => wordParts (c :: acc) rest
  | [] => [String.ofList acc.reverse]

def chunks (text : String) : List Chunk :=
  (text.splitOn " ").flatMap fun word =>
    match wordParts [] word.toList with
    | first :: rest => { spaced := true, text := first } :: rest.map fun t => { spaced := false, text := t }
    | [] => []

/-- Fills lines with parts, as many as fit on each. -/
def fillLines (width : Nat) (line : String) : List Chunk → List String
  | [] => if line.isEmpty then [] else [line]
  | c :: rest =>
    let longer := if c.spaced && !line.isEmpty then line ++ " " ++ c.text else line ++ c.text
    if line.isEmpty || longer.length ≤ width then fillLines width longer rest
    else line :: fillLines width c.text rest

def wrap (width : Nat) (text : String) : List String := fillLines width "" (chunks text)

namespace OptionSpec

/-- An option as usage lines show it. -/
def usagePart (o : OptionSpec) : String :=
  let name := o.names.headD ""
  match o.arity.metavar? with
  | some m => "[" ++ name ++ " " ++ m ++ "]"
  | none => "[" ++ name ++ "]"

/-- An option as help texts show it. -/
def invocation (o : OptionSpec) : String :=
  match o.arity.metavar? with
  | some m => ", ".intercalate (o.names.map fun n => n ++ " " ++ m)
  | none => ", ".intercalate o.names

end OptionSpec

def Positional.usageParts : Positional → List String
  | .one name _ => [name]
  | .many name _ => [name, "[" ++ name ++ " ...]"]
  | .command name => [name ++ " ..."]

/-- Puts parts on lines, the first of which has `used` columns taken. -/
def layParts (width indent used : Nat) (line : List String) : List String → List (List String)
  | [] => if line.isEmpty then [] else [line]
  | part :: rest =>
    if used + 1 + part.length > width && !line.isEmpty then
      line :: layParts width indent (indent + part.length) [part] rest
    else layParts width indent (used + 1 + part.length) (line ++ [part]) rest

namespace CommandSpec

/-- The name by which messages call it. -/
def fullName (c : CommandSpec) : String :=
  if c.name == Spec.program.name then c.name else Spec.program.name ++ " " ++ c.name

/-- How the program or a command is called. A call that does not fit on one line is set under the end of
its name, with what is no option on a line of its own. -/
def usage (c : CommandSpec) : String :=
  let start := "usage: " ++ c.fullName
  let options := c.options.map OptionSpec.usagePart
  let others := c.positional.usageParts
  let whole := " ".intercalate (start :: options ++ others)
  if whole.length ≤ lineWidth then whole ++ "\n"
  else
    let indent := start.length + 1
    let lines := layParts lineWidth indent start.length [] options ++
      layParts lineWidth indent (indent - 1) [] others
    let texts := lines.map fun parts => " ".intercalate parts
    start ++ " " ++ ("\n" ++ blanks indent).intercalate texts ++ "\n"

/-- An entry of a help text: what it explains, how far it is set in, and the explanation. -/
structure Entry where
  indent : Nat
  title : String
  help : String

/-- The column where the explanations of some entries start. -/
def helpColumn (entries : List Entry) : Nat :=
  min (entries.foldl (fun n e => max n (e.indent + e.title.length + 2)) 0) maxHelpColumn

def Entry.lines (column : Nat) (e : Entry) : List String :=
  let title := blanks e.indent ++ e.title
  match wrap (lineWidth - column) e.help with
  | [] => [title]
  | first :: rest =>
    let rest := rest.map (blanks column ++ ·)
    if title.length + 2 ≤ column then (title ++ blanks (column - title.length) ++ first) :: rest
    else title :: (blanks column ++ first) :: rest

def positionalEntries (c : CommandSpec) : List Entry :=
  match c.positional with
  | .one name help | .many name help => [{ indent := 2, title := name, help }]
  | .command name => { indent := 2, title := name, help := "" } ::
    Spec.commands.map fun c => { indent := 4, title := c.name, help := c.help }

def optionEntries (c : CommandSpec) : List Entry :=
  c.options.map fun o => { indent := 2, title := o.invocation, help := o.help }

/-- The help text. -/
def helpText (c : CommandSpec) : String :=
  let positionals := c.positionalEntries
  let options := c.optionEntries
  let column := helpColumn (positionals ++ options)
  let block (title : String) (entries : List Entry) : List String :=
    "" :: (title ++ ":") :: entries.flatMap (Entry.lines column)
  let description := if c.description.isEmpty then [] else "" :: wrap lineWidth c.description
  c.usage ++ String.join ((description ++ block "positional arguments" positionals ++
    block "options" options).map (· ++ "\n"))

end CommandSpec

end SketchSurvey.CommandLine

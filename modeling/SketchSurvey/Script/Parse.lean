import SketchSurvey.Host
import SketchSurvey.Script.Lowering
import SketchSurvey.Text.Blank

/-!
Parsing: a text is a script if it reads without error. Otherwise the first error is described.
-/

set_option autoImplicit false

namespace SketchSurvey.Script

mutual

/-- The first node, in the order of the text, that is an error or lacks its token. -/
def Node.firstError? : Node → Option Node
  | .mk kind named missing hasError row text field children =>
    if kind == "ERROR" || missing then some (.mk kind named missing hasError row text field children)
    else firstErrorIn? children

def firstErrorIn? : List Node → Option Node
  | [] => none
  | c :: rest =>
    if c.hasError || c.missing then
      match c.firstError? with
      | some n => some n
      | none => firstErrorIn? rest
    else firstErrorIn? rest

end

/-- The first leaf of a node. -/
def Node.firstLeaf : Node → Node
  | .mk k n m e r t f [] => .mk k n m e r t f []
  | .mk _ _ _ _ _ _ _ (c :: _) => c.firstLeaf

/-- What is wrong with a text. -/
inductive SyntaxProblem where
  /-- No place can be named. -/
  | somewhere
  | expected (line : Nat) (kind : String)
  | unexpectedEnd (line : Nat)
  | unexpected (line : Nat) (token : String)
  deriving BEq, Repr

def SyntaxProblem.message : SyntaxProblem → String
  | somewhere => "Unexpected token"
  | expected line kind => "Line " ++ toString line ++ ": Expected " ++ kind
  | unexpectedEnd line => "Line " ++ toString line ++ ": Unexpected end of input"
  | unexpected line token => "Line " ++ toString line ++ ": Unexpected token " ++ token

/-- How much of a token a message shows. -/
def tokenLimit : Nat := 40

/-- Describes the first error of a tree by its line and the token that did not fit. -/
def Node.problem (root : Node) : SyntaxProblem :=
  match root.firstError? with
  | none => .somewhere
  | some n =>
    if n.missing then .expected n.line n.kind
    else
      let token := Text.trim n.firstLeaf.text
      if token.isEmpty then .unexpectedEnd n.line
      else .unexpected n.line (String.ofList (token.toList.take tokenLimit))

/-- A text that is no script. -/
structure SyntaxError where
  problem : SyntaxProblem
  fileName : String
  sourceText : String

def SyntaxError.message (e : SyntaxError) : String := e.problem.message

def SyntaxError.describe (e : SyntaxError) : String := e.fileName ++ ": " ++ e.message

/-- The name of a text that is in no file. -/
def anonymous : String := "<anonymous>"

/-- Why a text gave no program. -/
inductive ParseProblem where
  /-- The text is no script. -/
  | notScript (e : SyntaxError)
  /-- The tree of a script lacks a part. -/
  | missingPart (p : MissingPart)
  /-- Working through the tree takes more of the stack than there is. -/
  | stackExhausted

def ParseProblem.message : ParseProblem → String
  | notScript e => e.describe
  | missingPart p => p.message
  | stackExhausted => "maximum recursion depth exceeded"

/-- The name of a problem's kind. -/
def ParseProblem.kindName : ParseProblem → String
  | notScript _ => "JavascriptSyntaxError"
  | missingPart _ => "AttributeError"
  | stackExhausted => "RecursionError"

/-- Reads a text as a script, given what reads the concrete trees. -/
def parseWith (read : String → Node) (text : String) (fileName : String := anonymous) :
    Except ParseProblem Program :=
  let root := read text
  if root.hasError then .error (.notScript { problem := root.problem, fileName, sourceText := text })
  else (Lowering.program root).mapError .missingPart

/-- Reads a text as a script. -/
def parseOn [Host] (text : String) (fileName : String := anonymous) : Except ParseProblem Program :=
  if Host.exhaustedByScript text then .error .stackExhausted
  else parseWith Host.readTree text fileName

end SketchSurvey.Script

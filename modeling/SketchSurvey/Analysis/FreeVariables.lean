import SketchSurvey.Script.Ast
import SketchSurvey.Analysis.Scope
import SketchSurvey.Analysis.Skipped

/-!
The names that the functions of a script use and do not bind. A function binds its own name, its
parameters, and what is declared anywhere in its body but not in a function inside it.

Some kinds of statements and expressions are not looked into. They are reported, and what they use
is not found.
-/

set_option autoImplicit false

namespace SketchSurvey.Script

mutual

/-- The names that a pattern binds, in the order of the text. -/
def Pattern.names : Pattern → List String
  | .identifier name => [name]
  | .object ps => propertyNames ps
  | .array ps => patternsNames ps
  | .rest p => p.names
  | .withDefault p _ => p.names
  | .target _ => []
  | .unsupported _ _ => []

def PatternProperty.names : PatternProperty → List String
  | .pair _ p => p.names
  | .rest p => p.names

def patternsNames : List Pattern → List String
  | [] => []
  | p :: ps => p.names ++ patternsNames ps

def propertyNames : List PatternProperty → List String
  | [] => []
  | p :: ps => p.names ++ propertyNames ps

end

/-- The names that a declaration of variables binds. -/
def VariableDeclaration.names (d : VariableDeclaration) : List String :=
  d.declarations.flatMap (·.id.names)

/-- The names that a statement declares itself, those of statements inside it not counted. -/
def Statement.declaredNames : Statement → List String
  | .function id _ _ _ _ => id.toList
  | .declaration d => d.names
  | _ => []

/-- The names that are bound at the top of a script. -/
def Program.globalNames (p : Program) : List String :=
  (p.body.flatMap Statement.declaredNames).eraseDups

/-- The name of a function declaration. -/
def Statement.functionName? : Statement → Option String
  | .function id _ _ _ _ => id
  | _ => none

/-- The names of the functions at the top of a script. -/
def Program.functionNames (p : Program) : List String := p.body.filterMap Statement.functionName?

end SketchSurvey.Script

namespace SketchSurvey.Analysis

open SketchSurvey.Script

mutual

/-- Binds what a statement and the statements inside it declare. What a function inside declares is
its own; the names that a loop over a collection and a `catch` bring in are not bound. -/
def hoist (s : Scope) : Statement → Scope
  | .function id _ _ _ _ => s.bindAll .function id.toList
  | .declaration d => s.bindAll .variable d.names
  | .block body => hoistAll s body
  | .if _ consequent alternate => hoistOptional (hoist s consequent) alternate
  | .for (.declaration d) _ _ body => hoist (s.bindAll .variable d.names) body
  | .for _ _ _ body => hoist s body
  | .forIn _ _ body => hoist s body
  | .forOf _ _ body _ => hoist s body
  | .while _ body => hoist s body
  | .doWhile body _ => hoist s body
  | .labeled _ body => hoist s body
  | .unsupported _ _ nested => hoistAll s nested
  | _ => s

def hoistOptional (s : Scope) : Option Statement → Scope
  | none => s
  | some st => hoist s st

def hoistAll (s : Scope) : List Statement → Scope
  | [] => s
  | st :: rest => hoistAll (hoist s st) rest

end

/-- The scope of a function that stands inside the scopes of a stack. -/
def functionScope (stack : ScopeStack) (id : Option String) (params : List Pattern)
    (body : List Statement) : Scope :=
  let scope : Scope := { parent := ScopeStack.innermost? stack }
  hoistAll ((scope.bindAll .function id.toList).bindAll .parameter (patternsNames params)) body

/-- The state of a walk: the scopes around the place it has come to, and what it found. -/
structure Walk where
  scopes : ScopeStack := #[]
  free : List String := []
  skipped : List Skipped := []

namespace Walk

/-- A use of a name. -/
def reference (w : Walk) (name : String) : Walk :=
  if w.scopes.binds name then w else { w with free := w.free.insert name }

def skip (w : Walk) (s : Skipped) : Walk := { w with skipped := w.skipped ++ [s] }

def push (w : Walk) (s : Scope) : Walk := { w with scopes := w.scopes.push s }

def pop (w : Walk) : Walk := { w with scopes := w.scopes.pop }

end Walk

mutual

def walkExpr (w : Walk) : Expr → Walk
  | .assign _ _ right => walkExpr w right
  | .binary _ left right => walkExpr (walkExpr w left) right
  | .call callee arguments => walkArguments (walkReceiver w callee) arguments
  | .member object _ => walkReceiver w object
  | .identifier name => w.reference name
  | .literal _ => w
  | .unsupported kind line => w.skip { sort := .expression, kind, line := some line }

def walkReceiver (w : Walk) : Receiver → Walk
  | .super => w
  | .expr e => walkExpr w e

def walkArgument (w : Walk) : Argument → Walk
  | .expr e => walkExpr w e
  | .spread _ => w

def walkArguments (w : Walk) : List Argument → Walk
  | [] => w
  | a :: rest => walkArguments (walkArgument w a) rest

end

def walkOptionalExpr (w : Walk) : Option Expr → Walk
  | none => w
  | some e => walkExpr w e

mutual

/-- Walks a statement. The head part that starts a `for` is passed over without a report. -/
def walkStatement (w : Walk) : Statement → Walk
  | .function id params body _ _ =>
    (walkStatements (w.push (functionScope w.scopes id params body)) body).pop
  | .block body => walkStatements w body
  | .doWhile body test => walkExpr (walkStatement w body) test
  | .expression e => walkExpr w e
  | .for _ test update body => walkStatement (walkOptionalExpr (walkOptionalExpr w test) update) body
  | .forIn _ right body => walkStatement (walkExpr w right) body
  | .forOf .. => w.skip { sort := .statement, kind := "ForOfStatement" }
  | .if test consequent alternate =>
    walkOptionalStatement (walkStatement (walkExpr w test) consequent) alternate
  | .labeled _ body => walkStatement w body
  | .return argument => walkOptionalExpr w argument
  | .declaration d => d.declarations.foldl (fun w v => walkOptionalExpr w v.init) w
  | .while test body => walkStatement (walkExpr w test) body
  | .break _ => w
  | .continue _ => w
  | .debugger => w
  | .empty => w
  | .unsupported kind line _ => w.skip { sort := .statement, kind, line := some line }

def walkOptionalStatement (w : Walk) : Option Statement → Walk
  | none => w
  | some s => walkStatement w s

def walkStatements (w : Walk) : List Statement → Walk
  | [] => w
  | s :: rest => walkStatements (walkStatement w s) rest

end

/-- Whether a statement is a function declaration. -/
def isFunction : Statement → Bool
  | .function .. => true
  | _ => false

/-- What was found in a script. -/
structure FreeVariables where
  names : List String
  skipped : List Skipped

/-- The names that the functions at the top of a script use and do not bind. They know each other, so
their own names are left out. -/
def freeVariables (p : Program) : FreeVariables :=
  let w := walkStatements {} (p.body.filter isFunction)
  { names := w.free.filter fun n => !p.functionNames.contains n
    skipped := w.skipped }

/-- The logger that reports what this analysis skipped. -/
def freeVariablesLogger : String := "p5analysis.core.analysis.free_variables"

def FreeVariables.log (f : FreeVariables) : List Log.Record :=
  f.skipped.map (Skipped.record freeVariablesLogger)

end SketchSurvey.Analysis

/-!
Scripts as the analyses see them. The set of kinds is closed: what has no kind of its own is kept as
a placeholder with its name and its line.
-/

set_option autoImplicit false

namespace SketchSurvey.Script

/-- The word that opens a declaration of variables. -/
inductive DeclarationKind where
  | var
  | «let»
  | const
  deriving BEq, DecidableEq, Repr

mutual

inductive Expr where
  | assign (operator : String) (left : Pattern) (right : Expr)
  | binary (operator : String) (left right : Expr)
  | call (callee : Receiver) (arguments : List Argument)
  | member (object : Receiver) (property : Property)
  | identifier (name : String)
  /-- A number, text, truth value, null or regular expression as it is written. -/
  | literal (raw : String)
  | unsupported (kind : String) (line : Nat)

/-- What is called, or what has a member. -/
inductive Receiver where
  | super
  | expr (e : Expr)

inductive Argument where
  | expr (e : Expr)
  | spread (e : Expr)

/-- How a member is named: after a dot or in brackets. -/
inductive Property where
  | name (name : String)
  | privateName (name : String)
  | computed (e : Expr)

/-- What binds names or is assigned to. -/
inductive Pattern where
  | identifier (name : String)
  | object (properties : List PatternProperty)
  | array (elements : List Pattern)
  | rest (argument : Pattern)
  | withDefault (left : Pattern) (right : Expr)
  /-- A member that is assigned to. -/
  | target (e : Expr)
  | unsupported (kind : String) (line : Nat)

inductive PatternProperty where
  | pair (key : String) (value : Pattern)
  | rest (argument : Pattern)

end

structure Declarator where
  id : Pattern
  init : Option Expr

structure VariableDeclaration where
  kind : DeclarationKind
  declarations : List Declarator

/-- What a `for` starts with. -/
inductive ForInit where
  | none
  | declaration (d : VariableDeclaration)
  | expr (e : Expr)

/-- What takes the values in a `for` over a collection. -/
inductive ForTarget where
  | declaration (d : VariableDeclaration)
  | pattern (p : Pattern)

inductive Statement where
  | function (id : Option String) (params : List Pattern) (body : List Statement)
      (isAsync isGenerator : Bool)
  | block (body : List Statement)
  | doWhile (body : Statement) (test : Expr)
  | expression (e : Expr)
  | «for» (init : ForInit) (test update : Option Expr) (body : Statement)
  | forIn (left : ForTarget) (right : Expr) (body : Statement)
  | forOf (left : ForTarget) (right : Expr) (body : Statement) (isAwait : Bool)
  | «if» (test : Expr) (consequent : Statement) (alternate : Option Statement)
  | labeled (label : String) (body : Statement)
  | «return» (argument : Option Expr)
  | declaration (d : VariableDeclaration)
  | «while» (test : Expr) (body : Statement)
  | «break» (label : Option String)
  | «continue» (label : Option String)
  | debugger
  | empty
  /-- `nested` holds the statements inside, which are only searched for declarations. -/
  | unsupported (kind : String) (line : Nat) (nested : List Statement)

structure Program where
  body : List Statement

instance : Inhabited Expr := ⟨.identifier ""⟩
instance : Inhabited Pattern := ⟨.identifier ""⟩
instance : Inhabited Statement := ⟨.empty⟩

/-- The name of a statement's kind; a placeholder keeps the name of what it stands for. -/
def Statement.kindName : Statement → String
  | .function .. => "FunctionDeclaration"
  | .block _ => "BlockStatement"
  | .doWhile .. => "DoWhileStatement"
  | .expression _ => "ExpressionStatement"
  | .for .. => "ForStatement"
  | .forIn .. => "ForInStatement"
  | .forOf .. => "ForOfStatement"
  | .if .. => "IfStatement"
  | .labeled .. => "LabeledStatement"
  | .return _ => "ReturnStatement"
  | .declaration _ => "VariableDeclaration"
  | .while .. => "WhileStatement"
  | .break _ => "BreakStatement"
  | .continue _ => "ContinueStatement"
  | .debugger => "DebuggerStatement"
  | .empty => "EmptyStatement"
  | .unsupported kind _ _ => kind

/-- The name of an expression's kind. -/
def Expr.kindName : Expr → String
  | .assign .. => "AssignmentExpression"
  | .binary .. => "BinaryExpression"
  | .call .. => "CallExpression"
  | .member .. => "MemberExpression"
  | .identifier _ => "Identifier"
  | .literal _ => "Literal"
  | .unsupported kind _ => kind

end SketchSurvey.Script

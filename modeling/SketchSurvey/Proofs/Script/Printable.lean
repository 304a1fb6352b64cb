import SketchSurvey.Proofs.Script.Token
import SketchSurvey.Script.Ast

/-! Programs that can be written as texts, and how they are written. Every expression inside another
one or inside a statement stands in brackets unless it is an identifier. -/

set_option autoImplicit false

namespace SketchSurvey.Script

/-- Words that are not used as names: those with a meaning of their own, at least in some places. -/
def keywords : List String := [
  "accessor", "as", "async", "await", "break", "case", "catch", "class", "const", "continue",
  "debugger", "default", "delete", "do", "else", "enum", "export", "extends", "false", "finally",
  "for", "from", "function", "get", "if", "implements", "import", "in", "instanceof", "interface",
  "let", "meta", "new", "null", "of", "package", "private", "protected", "public", "return", "set",
  "static", "super", "switch", "target", "this", "throw", "true", "try", "typeof", "undefined",
  "using", "var", "void", "while", "with", "yield"]

def isNameLetter (c : Char) : Bool := c.isAlpha || c == '_' || c == '$'

def isWord (text : String) : Bool :=
  match text.toList with
  | [] => false
  | first :: rest => isNameLetter first && rest.all fun c => isNameLetter c || c.isDigit

/-- A name in the letters of the first block of characters. -/
def IsName (text : String) : Prop := isWord text = true ∧ text ∉ keywords

instance (text : String) : Decidable (IsName text) := inferInstanceAs (Decidable (_ ∧ _))

/-- A whole number in its decimal digits; only zero itself starts with a zero. -/
def IsDecimal (text : String) : Prop :=
  text ≠ "" ∧ text.toList.all Char.isDigit = true ∧ (text.toList.head? = some '0' → text = "0")

instance (text : String) : Decidable (IsDecimal text) := inferInstanceAs (Decidable (_ ∧ _ ∧ _))

/-- The operators between two numbers and the comparisons. -/
def binaryOperators : List String :=
  ["+", "-", "*", "/", "%", "<", ">", "<=", ">=", "==", "===", "!=", "!=="]

mutual

/-- Expressions that can be written. -/
inductive Expr.Printable : Expr → Prop where
  | identifier {name} : IsName name → Expr.Printable (.identifier name)
  | literal {raw} : IsDecimal raw → Expr.Printable (.literal raw)
  | binary {operator left right} : operator ∈ binaryOperators → Expr.Printable left →
      Expr.Printable right → Expr.Printable (.binary operator left right)
  | call {callee arguments} : Expr.Printable callee →
      (∀ a ∈ arguments, Argument.Printable a) → Expr.Printable (.call (.expr callee) arguments)
  | member {object property} : Expr.Printable object → Property.Printable property →
      Expr.Printable (.member (.expr object) property)
  | assign {left right} : Pattern.Assignable left → Expr.Printable right →
      Expr.Printable (.assign "=" left right)

inductive Argument.Printable : Argument → Prop where
  | expr {e} : Expr.Printable e → Argument.Printable (.expr e)

inductive Property.Printable : Property → Prop where
  | name {name} : IsName name → Property.Printable (.name name)
  | computed {e} : Expr.Printable e → Property.Printable (.computed e)

/-- What an assignment can have on its left. -/
inductive Pattern.Assignable : Pattern → Prop where
  | identifier {name} : IsName name → Pattern.Assignable (.identifier name)
  | member {object property} : Expr.Printable (.member object property) →
      Pattern.Assignable (.target (.member object property))

end

mutual

/-- What a declaration can bind. -/
inductive Pattern.Binding : Pattern → Prop where
  | identifier {name} : IsName name → Pattern.Binding (.identifier name)
  | object {properties} : (∀ p ∈ properties, PatternProperty.Printable p) →
      Pattern.Binding (.object properties)
  | array {elements} : (∀ e ∈ elements, Pattern.Element e) → Pattern.Binding (.array elements)

/-- What is bound, with or without a default. -/
inductive Pattern.Value : Pattern → Prop where
  | plain {p} : Pattern.Binding p → Pattern.Value p
  | withDefault {p e} : Pattern.Binding p → Expr.Printable e → Pattern.Value (.withDefault p e)

/-- An element of an array, or a parameter. -/
inductive Pattern.Element : Pattern → Prop where
  | value {p} : Pattern.Value p → Pattern.Element p
  | rest {p} : Pattern.Binding p → Pattern.Element (.rest p)

inductive PatternProperty.Printable : PatternProperty → Prop where
  | pair {key value} : IsName key → Pattern.Value value → PatternProperty.Printable (.pair key value)
  | rest {p} : Pattern.Binding p → PatternProperty.Printable (.rest p)

end

structure Declarator.Printable (d : Declarator) : Prop where
  id : d.id.Binding
  init : ∀ e ∈ d.init, e.Printable

structure VariableDeclaration.Printable (d : VariableDeclaration) : Prop where
  nonempty : d.declarations ≠ []
  declarators : ∀ declarator ∈ d.declarations, declarator.Printable

inductive ForInit.Printable : ForInit → Prop where
  | none : ForInit.Printable .none
  | declaration {d} : d.Printable → ForInit.Printable (.declaration d)
  | expr {e} : e.Printable → ForInit.Printable (.expr e)

inductive ForTarget.Printable : ForTarget → Prop where
  | declaration {kind id} : Pattern.Binding id →
      ForTarget.Printable (.declaration { kind, declarations := [{ id, init := none }] })
  | binding {p} : p.Binding → ForTarget.Printable (.pattern p)
  | assignable {p} : p.Assignable → ForTarget.Printable (.pattern p)

def Statement.IsLoop : Statement → Prop
  | .doWhile .. | .while .. | .for .. | .forIn .. | .forOf .. => True
  | _ => False

/-- Statements that can be written. Branches and the bodies of loops are blocks. -/
inductive Statement.Printable : Statement → Prop where
  | function {id params body isAsync isGenerator} : IsName id → (∀ p ∈ params, Pattern.Element p) →
      (∀ s ∈ body, Statement.Printable s) →
      Statement.Printable (.function (some id) params body isAsync isGenerator)
  | block {body} : (∀ s ∈ body, Statement.Printable s) → Statement.Printable (.block body)
  | doWhile {body test} : (∀ s ∈ body, Statement.Printable s) → test.Printable →
      Statement.Printable (.doWhile (.block body) test)
  | expression {e} : e.Printable → Statement.Printable (.expression e)
  | for {init test update body} : init.Printable → (∀ e ∈ test, Expr.Printable e) →
      (∀ e ∈ update, Expr.Printable e) → (∀ s ∈ body, Statement.Printable s) →
      Statement.Printable (.for init test update (.block body))
  | forIn {left right body} : left.Printable → right.Printable →
      (∀ s ∈ body, Statement.Printable s) → Statement.Printable (.forIn left right (.block body))
  | forOf {left right body} : left.Printable → right.Printable →
      (∀ s ∈ body, Statement.Printable s) →
      Statement.Printable (.forOf left right (.block body) false)
  | if {test consequent} : test.Printable → (∀ s ∈ consequent, Statement.Printable s) →
      Statement.Printable (.if test (.block consequent) none)
  | ifElse {test consequent alternate} : test.Printable →
      (∀ s ∈ consequent, Statement.Printable s) → (∀ s ∈ alternate, Statement.Printable s) →
      Statement.Printable (.if test (.block consequent) (some (.block alternate)))
  | labeled {label body} : IsName label → body.IsLoop → Statement.Printable body →
      Statement.Printable (.labeled label body)
  | return {argument} : (∀ e ∈ argument, Expr.Printable e) →
      Statement.Printable (.return argument)
  | declaration {d} : d.Printable → Statement.Printable (.declaration d)
  | while {test body} : test.Printable → (∀ s ∈ body, Statement.Printable s) →
      Statement.Printable (.while test (.block body))
  | break {label} : (∀ l ∈ label, IsName l) → Statement.Printable (.break label)
  | continue {label} : (∀ l ∈ label, IsName l) → Statement.Printable (.continue label)
  | empty : Statement.Printable .empty

def Program.Printable (p : Program) : Prop := ∀ s ∈ p.body, s.Printable

open Token (separated comma semicolon)

/-- An expression inside something else, given its own tokens. -/
def wrap (e : Expr) (own : List Token) : Token :=
  match e with
  | .identifier name => .name name
  | _ => .group .round own

mutual

def Expr.tokens : Expr → List Token
  | .assign operator left right => left.tokens ++ [.mark operator, wrap right right.tokens]
  | .binary operator left right => [wrap left left.tokens, .mark operator, wrap right right.tokens]
  | .call callee arguments => [callee.token, .group .round (separated (argumentTokens arguments))]
  | .member object property => object.token :: property.tokens
  | .identifier name => [.name name]
  | .literal raw => [.number raw]
  | .unsupported .. => []

def Receiver.token : Receiver → Token
  | .super => .mark "super"
  | .expr e => wrap e e.tokens

def Argument.tokens : Argument → List Token
  | .expr e => [wrap e e.tokens]
  | .spread e => [.mark "...", wrap e e.tokens]

def argumentTokens : List Argument → List (List Token)
  | [] => []
  | a :: rest => a.tokens :: argumentTokens rest

def Property.tokens : Property → List Token
  | .name name => [.mark ".", .name name]
  | .privateName name => [.mark ".", .name ("#" ++ name)]
  | .computed e => [.group .square [wrap e e.tokens]]

def Pattern.tokens : Pattern → List Token
  | .identifier name => [.name name]
  | .object properties => [.group .curly (separated (propertyTokens properties))]
  | .array elements => [.group .square (separated (patternTokens elements))]
  | .rest argument => .mark "..." :: argument.tokens
  | .withDefault left right => left.tokens ++ [.mark "=", wrap right right.tokens]
  | .target e => [wrap e e.tokens]
  | .unsupported .. => []

def patternTokens : List Pattern → List (List Token)
  | [] => []
  | p :: rest => p.tokens :: patternTokens rest

def PatternProperty.tokens : PatternProperty → List Token
  | .pair key value => .name key :: .mark ":" :: value.tokens
  | .rest argument => .mark "..." :: argument.tokens

def propertyTokens : List PatternProperty → List (List Token)
  | [] => []
  | p :: rest => p.tokens :: propertyTokens rest

end

@[simp] theorem argumentTokens_eq_map (l : List Argument) :
    argumentTokens l = l.map Argument.tokens := by
  induction l with
  | nil => rfl
  | cons a rest ih => rw [argumentTokens, ih, List.map_cons]

@[simp] theorem patternTokens_eq_map (l : List Pattern) :
    patternTokens l = l.map Pattern.tokens := by
  induction l with
  | nil => rfl
  | cons p rest ih => rw [patternTokens, ih, List.map_cons]

@[simp] theorem propertyTokens_eq_map (l : List PatternProperty) :
    propertyTokens l = l.map PatternProperty.tokens := by
  induction l with
  | nil => rfl
  | cons p rest ih => rw [propertyTokens, ih, List.map_cons]

/-- An expression as it stands inside something else. -/
def Expr.wrapped (e : Expr) : Token := wrap e e.tokens

def DeclarationKind.word : DeclarationKind → String
  | .var => "var"
  | .let => "let"
  | .const => "const"

theorem DeclarationKind.word_mem (kind : DeclarationKind) :
    kind.word ∈ ["var", "let", "const"] := by
  cases kind <;> decide

def Declarator.tokens (d : Declarator) : List Token :=
  d.id.tokens ++
    match d.init with
    | some e => [.mark "=", e.wrapped]
    | none => []

def VariableDeclaration.tokens (d : VariableDeclaration) : List Token :=
  .mark d.kind.word :: (separated (d.declarations.map Declarator.tokens) ++ [semicolon])

/-- An expression that may be left out. -/
def optionalTokens (e : Option Expr) : List Token := (e.map Expr.wrapped).toList

def ForInit.tokens : ForInit → List Token
  | .none => [semicolon]
  | .declaration d => d.tokens
  | .expr e => [e.wrapped, semicolon]

def ForTarget.tokens : ForTarget → List Token
  | .declaration d => .mark d.kind.word :: separated (d.declarations.map Declarator.tokens)
  | .pattern p => p.tokens

/-- The words before and after `function`. -/
def modifierTokens (present : Bool) (word : String) : List Token :=
  if present then [.mark word] else []

def labelTokens (label : Option String) : List Token := (label.map Token.name).toList

mutual

def Statement.tokens : Statement → List Token
  | .function id params body isAsync isGenerator =>
    modifierTokens isAsync "async" ++ .mark "function" :: (modifierTokens isGenerator "*" ++
      [.name (id.getD ""), .group .round (separated (params.map Pattern.tokens)),
        .group .curly (statementsTokens body)])
  | .block body => [.group .curly (statementsTokens body)]
  | .doWhile body test =>
    .mark "do" :: (body.tokens ++ [.mark "while", .group .round [test.wrapped], semicolon])
  | .expression e => [.group .round e.tokens, semicolon]
  | .for init test update body =>
    .mark "for" ::
      .group .round (init.tokens ++ (optionalTokens test ++ semicolon :: optionalTokens update)) ::
      body.tokens
  | .forIn left right body =>
    .mark "for" :: .group .round (left.tokens ++ [.mark "in", right.wrapped]) :: body.tokens
  | .forOf left right body isAwait =>
    .mark "for" :: (modifierTokens isAwait "await" ++
      .group .round (left.tokens ++ [.mark "of", right.wrapped]) :: body.tokens)
  | .if test consequent alternate =>
    .mark "if" :: .group .round [test.wrapped] :: (consequent.tokens ++ alternateTokens alternate)
  | .labeled label body => .name label :: .mark ":" :: body.tokens
  | .return argument => .mark "return" :: (optionalTokens argument ++ [semicolon])
  | .declaration d => d.tokens
  | .while test body => .mark "while" :: .group .round [test.wrapped] :: body.tokens
  | .break label => .mark "break" :: (labelTokens label ++ [semicolon])
  | .continue label => .mark "continue" :: (labelTokens label ++ [semicolon])
  | .debugger => [.mark "debugger", semicolon]
  | .empty => [semicolon]
  | .unsupported .. => []

def alternateTokens : Option Statement → List Token
  | some s => .mark "else" :: s.tokens
  | none => []

def statementsTokens : List Statement → List Token
  | [] => []
  | s :: rest => s.tokens ++ statementsTokens rest

end

def Program.tokens (p : Program) : List Token := statementsTokens p.body

/-- The text of a program. -/
def Program.print (p : Program) : String := Token.spell p.tokens

end SketchSurvey.Script

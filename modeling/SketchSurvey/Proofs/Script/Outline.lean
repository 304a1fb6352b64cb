import SketchSurvey.Script.Ast

/-! Programs as plain data: every node with its class and its fields by name. What a program promises at
every depth is said of its nodes, whichever field they stand in. -/

set_option autoImplicit false

namespace SketchSurvey.Script

inductive NodeClass where
  | program
  | functionDeclaration
  | blockStatement
  | doWhileStatement
  | expressionStatement
  | forStatement
  | forInStatement
  | forOfStatement
  | ifStatement
  | labeledStatement
  | returnStatement
  | variableDeclaration
  | whileStatement
  | breakStatement
  | continueStatement
  | debuggerStatement
  | emptyStatement
  | unsupportedStatement
  | variableDeclarator
  | assignmentExpression
  | binaryExpression
  | callExpression
  | memberExpression
  | identifier
  | literal
  | unsupportedExpression
  | super
  | privateIdentifier
  | spreadElement
  | objectPattern
  | patternProperty
  | arrayPattern
  | restElement
  | assignmentPattern
  | unsupportedPattern
  deriving DecidableEq, Repr

/-- The classes of expressions. -/
def expressionClasses : List NodeClass :=
  [.assignmentExpression, .binaryExpression, .callExpression, .memberExpression, .identifier,
    .literal, .unsupportedExpression]

/-- The classes of what binds names or is assigned to. -/
def patternClasses : List NodeClass :=
  [.identifier, .objectPattern, .arrayPattern, .restElement, .assignmentPattern, .memberExpression,
    .unsupportedPattern]

/-- The classes of statements. -/
def statementClasses : List NodeClass :=
  [.functionDeclaration, .blockStatement, .doWhileStatement, .expressionStatement, .forStatement,
    .forInStatement, .forOfStatement, .ifStatement, .labeledStatement, .returnStatement,
    .variableDeclaration, .whileStatement, .breakStatement, .continueStatement, .debuggerStatement,
    .emptyStatement, .unsupportedStatement]

inductive Outline where
  | absent
  | flag (value : Bool)
  | number (value : Nat)
  | text (value : String)
  | many (items : List Outline)
  | node (kind : NodeClass) (fields : List (String × Outline))

abbrev Fields := List (String × Outline)

namespace Outline

/-- A node of one of some classes. -/
inductive IsA (kinds : List NodeClass) : Outline → Prop where
  | node {kind fields} : kind ∈ kinds → IsA kinds (node kind fields)

theorem IsA.mono {kinds more : List NodeClass} (subset : kinds ⊆ more) {o : Outline}
    (isA : o.IsA kinds) : o.IsA more := by
  cases isA with
  | node known => exact .node (subset known)

theorem IsA.not_isA {kinds others : List NodeClass} (disjoint : ∀ kind ∈ kinds, kind ∉ others)
    {o : Outline} (isA : o.IsA kinds) : ¬ o.IsA others := by
  intro other
  cases isA with
  | node known =>
      cases other with
      | node known' => exact disjoint _ known known'

/-- What stands in a field: the items of a list, or the one thing there is. -/
def items : Outline → List Outline
  | many items => items
  | other => [other]

theorem IsA.eq_of_mem_items {kinds : List NodeClass} {o item : Outline} (isA : o.IsA kinds)
    (member : item ∈ o.items) : item = o := by
  cases isA with
  | node known => exact List.mem_singleton.mp member

def named (name : String) : Outline := node .identifier [("name", text name)]

/-- A placeholder for what has no class of its own. -/
def placeholder (kind : NodeClass) (name : String) (line : Nat) (more : Fields) : Outline :=
  node kind (("kind", text name) :: ("line", number line) :: more)

def orAbsent : Option Outline → Outline
  | some o => o
  | none => absent

/-- Every node, at any depth, has a property of its class and its fields. -/
inductive Everywhere (P : NodeClass → Fields → Prop) : Outline → Prop where
  | absent : Everywhere P absent
  | flag (value : Bool) : Everywhere P (flag value)
  | number (value : Nat) : Everywhere P (number value)
  | text (value : String) : Everywhere P (text value)
  | many {items} : (∀ o ∈ items, Everywhere P o) → Everywhere P (many items)
  | node {kind fields} : P kind fields → (∀ f ∈ fields, Everywhere P f.2) →
      Everywhere P (node kind fields)

namespace Everywhere

variable {P : NodeClass → Fields → Prop}

theorem many_map {α : Type} {outline : α → Outline} {items : List α}
    (each : ∀ a ∈ items, Everywhere P (outline a)) : Everywhere P (.many (items.map outline)) := by
  refine .many ?_
  intro o member
  obtain ⟨a, isItem, rfl⟩ := List.mem_map.mp member
  exact each a isItem

end Everywhere

end Outline

def DeclarationKind.name : DeclarationKind → String
  | var => "var"
  | «let» => "let"
  | const => "const"

/-- Whether a member is named in brackets. -/
def Property.isComputed : Property → Bool
  | computed _ => true
  | _ => false

open Outline (many text node named placeholder orAbsent)

mutual

def Expr.outline : Expr → Outline
  | .assign operator left right => node .assignmentExpression
      [("operator", text operator), ("left", left.outline), ("right", right.outline)]
  | .binary operator left right => node .binaryExpression
      [("operator", text operator), ("left", left.outline), ("right", right.outline)]
  | .call callee arguments => node .callExpression
      [("callee", callee.outline), ("arguments", many (argumentOutlines arguments))]
  | .member object property => node .memberExpression
      [("object", object.outline), ("property", property.outline),
        ("computed", .flag property.isComputed)]
  | .identifier name => named name
  | .literal raw => node .literal [("raw", text raw)]
  | .unsupported kind line => placeholder .unsupportedExpression kind line []

def Receiver.outline : Receiver → Outline
  | .super => node .super []
  | .expr e => e.outline

def Argument.outline : Argument → Outline
  | .expr e => e.outline
  | .spread e => node .spreadElement [("argument", e.outline)]

def argumentOutlines : List Argument → List Outline
  | [] => []
  | a :: rest => a.outline :: argumentOutlines rest

def Property.outline : Property → Outline
  | .name name => named name
  | .privateName name => node .privateIdentifier [("name", text name)]
  | .computed e => e.outline

def Pattern.outline : Pattern → Outline
  | .identifier name => named name
  | .object properties => node .objectPattern [("properties", many (propertyOutlines properties))]
  | .array elements => node .arrayPattern [("elements", many (patternOutlines elements))]
  | .rest argument => node .restElement [("argument", argument.outline)]
  | .withDefault left right => node .assignmentPattern
      [("left", left.outline), ("right", right.outline)]
  | .target e => e.outline
  | .unsupported kind line => placeholder .unsupportedPattern kind line []

def patternOutlines : List Pattern → List Outline
  | [] => []
  | p :: rest => p.outline :: patternOutlines rest

def PatternProperty.outline : PatternProperty → Outline
  | .pair key value => node .patternProperty [("key", text key), ("value", value.outline)]
  | .rest argument => node .restElement [("argument", argument.outline)]

def propertyOutlines : List PatternProperty → List Outline
  | [] => []
  | p :: rest => p.outline :: propertyOutlines rest

end

@[simp] theorem argumentOutlines_eq_map (l : List Argument) :
    argumentOutlines l = l.map Argument.outline := by
  induction l with
  | nil => rfl
  | cons a rest ih => rw [argumentOutlines, ih, List.map_cons]

@[simp] theorem patternOutlines_eq_map (l : List Pattern) :
    patternOutlines l = l.map Pattern.outline := by
  induction l with
  | nil => rfl
  | cons p rest ih => rw [patternOutlines, ih, List.map_cons]

@[simp] theorem propertyOutlines_eq_map (l : List PatternProperty) :
    propertyOutlines l = l.map PatternProperty.outline := by
  induction l with
  | nil => rfl
  | cons p rest ih => rw [propertyOutlines, ih, List.map_cons]

def Declarator.outline (d : Declarator) : Outline :=
  node .variableDeclarator
    [("id", d.id.outline), ("init", orAbsent (d.init.map Expr.outline))]

def VariableDeclaration.outline (d : VariableDeclaration) : Outline :=
  node .variableDeclaration
    [("kind", text d.kind.name), ("declarations", many (d.declarations.map Declarator.outline))]

def ForInit.outline : ForInit → Outline
  | .none => .absent
  | .declaration d => d.outline
  | .expr e => e.outline

def ForTarget.outline : ForTarget → Outline
  | .declaration d => d.outline
  | .pattern p => p.outline

def optionalExpression (e? : Option Expr) : Outline := orAbsent (e?.map Expr.outline)

def optionalName (name? : Option String) : Outline := orAbsent (name?.map named)

mutual

def Statement.outline : Statement → Outline
  | .function id params body isAsync isGenerator => node .functionDeclaration
      [("id", optionalName id), ("params", many (params.map Pattern.outline)),
        ("body", node .blockStatement [("body", many (statementOutlines body))]),
        ("is_async", .flag isAsync), ("is_generator", .flag isGenerator)]
  | .block body => node .blockStatement [("body", many (statementOutlines body))]
  | .doWhile body test => node .doWhileStatement [("body", body.outline), ("test", test.outline)]
  | .expression e => node .expressionStatement [("expression", e.outline)]
  | .for init test update body => node .forStatement
      [("init", init.outline), ("test", optionalExpression test),
        ("update", optionalExpression update), ("body", body.outline)]
  | .forIn left right body => node .forInStatement
      [("left", left.outline), ("right", right.outline), ("body", body.outline)]
  | .forOf left right body isAwait => node .forOfStatement
      [("left", left.outline), ("right", right.outline), ("body", body.outline),
        ("is_await", .flag isAwait)]
  | .if test consequent alternate => node .ifStatement
      [("test", test.outline), ("consequent", consequent.outline),
        ("alternate", alternateOutline alternate)]
  | .labeled label body => node .labeledStatement [("label", named label), ("body", body.outline)]
  | .return argument => node .returnStatement [("argument", optionalExpression argument)]
  | .declaration d => d.outline
  | .while test body => node .whileStatement [("test", test.outline), ("body", body.outline)]
  | .break label => node .breakStatement [("label", optionalName label)]
  | .continue label => node .continueStatement [("label", optionalName label)]
  | .debugger => node .debuggerStatement []
  | .empty => node .emptyStatement []
  | .unsupported kind line nested =>
    placeholder .unsupportedStatement kind line [("nested", many (statementOutlines nested))]

def alternateOutline : Option Statement → Outline
  | some s => s.outline
  | none => .absent

def statementOutlines : List Statement → List Outline
  | [] => []
  | s :: rest => s.outline :: statementOutlines rest

end

@[simp] theorem statementOutlines_eq_map (l : List Statement) :
    statementOutlines l = l.map Statement.outline := by
  induction l with
  | nil => rfl
  | cons s rest ih => rw [statementOutlines, ih, List.map_cons]

@[simp] theorem alternateOutline_eq_orAbsent (s? : Option Statement) :
    alternateOutline s? = orAbsent (s?.map Statement.outline) := by
  cases s? with
  | none => rw [alternateOutline, Option.map_none, orAbsent]
  | some s => rw [alternateOutline, Option.map_some, orAbsent]

def Program.outline (p : Program) : Outline :=
  node .program [("body", many (p.body.map Statement.outline))]

theorem Expr.outline_isA (e : Expr) : e.outline.IsA expressionClasses := by
  cases e <;>
    · rw [Expr.outline]
      exact .node (by decide)

end SketchSurvey.Script

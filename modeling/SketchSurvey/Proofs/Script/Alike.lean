import Mathlib.Data.List.Forall2
import SketchSurvey.Script.Ast

/-! Programs that are the same but for how the texts that they keep as they are written are spelled: those
of literals and those of the keys of object patterns. -/

set_option autoImplicit false

namespace SketchSurvey.Script

/-- How two texts that are kept as they are written may differ. -/
structure Spelling where
  literal : String → String → Prop
  key : String → String → Prop

section Alike

variable (k : Spelling)

mutual

inductive Expr.Alike : Expr → Expr → Prop where
  | assign {operator left left' right right'} : Pattern.Alike left left' → Expr.Alike right right' →
      Expr.Alike (.assign operator left right) (.assign operator left' right')
  | binary {operator left left' right right'} : Expr.Alike left left' → Expr.Alike right right' →
      Expr.Alike (.binary operator left right) (.binary operator left' right')
  | call {callee callee' arguments arguments'} : Receiver.Alike callee callee' →
      List.Forall₂ Argument.Alike arguments arguments' →
      Expr.Alike (.call callee arguments) (.call callee' arguments')
  | member {object object' property property'} : Receiver.Alike object object' →
      Property.Alike property property' →
      Expr.Alike (.member object property) (.member object' property')
  | identifier {name} : Expr.Alike (.identifier name) (.identifier name)
  | literal {raw raw'} : k.literal raw raw' → Expr.Alike (.literal raw) (.literal raw')
  | unsupported {kind line} : Expr.Alike (.unsupported kind line) (.unsupported kind line)

inductive Receiver.Alike : Receiver → Receiver → Prop where
  | super : Receiver.Alike .super .super
  | expr {e e'} : Expr.Alike e e' → Receiver.Alike (.expr e) (.expr e')

inductive Argument.Alike : Argument → Argument → Prop where
  | expr {e e'} : Expr.Alike e e' → Argument.Alike (.expr e) (.expr e')
  | spread {e e'} : Expr.Alike e e' → Argument.Alike (.spread e) (.spread e')

inductive Property.Alike : Property → Property → Prop where
  | name {name} : Property.Alike (.name name) (.name name)
  | privateName {name} : Property.Alike (.privateName name) (.privateName name)
  | computed {e e'} : Expr.Alike e e' → Property.Alike (.computed e) (.computed e')

inductive Pattern.Alike : Pattern → Pattern → Prop where
  | identifier {name} : Pattern.Alike (.identifier name) (.identifier name)
  | object {properties properties'} : List.Forall₂ PatternProperty.Alike properties properties' →
      Pattern.Alike (.object properties) (.object properties')
  | array {elements elements'} : List.Forall₂ Pattern.Alike elements elements' →
      Pattern.Alike (.array elements) (.array elements')
  | rest {argument argument'} : Pattern.Alike argument argument' →
      Pattern.Alike (.rest argument) (.rest argument')
  | withDefault {left left' right right'} : Pattern.Alike left left' → Expr.Alike right right' →
      Pattern.Alike (.withDefault left right) (.withDefault left' right')
  | target {e e'} : Expr.Alike e e' → Pattern.Alike (.target e) (.target e')
  | unsupported {kind line} : Pattern.Alike (.unsupported kind line) (.unsupported kind line)

inductive PatternProperty.Alike : PatternProperty → PatternProperty → Prop where
  | pair {key key' value value'} : k.key key key' → Pattern.Alike value value' →
      PatternProperty.Alike (.pair key value) (.pair key' value')
  | rest {argument argument'} : Pattern.Alike argument argument' →
      PatternProperty.Alike (.rest argument) (.rest argument')

end

structure Declarator.Alike (v v' : Declarator) : Prop where
  id : v.id.Alike k v'.id
  init : Option.Rel (Expr.Alike k) v.init v'.init

structure VariableDeclaration.Alike (d d' : VariableDeclaration) : Prop where
  kind : d.kind = d'.kind
  declarations : List.Forall₂ (Declarator.Alike k) d.declarations d'.declarations

inductive ForInit.Alike : ForInit → ForInit → Prop where
  | none : ForInit.Alike .none .none
  | declaration {d d'} : VariableDeclaration.Alike k d d' →
      ForInit.Alike (.declaration d) (.declaration d')
  | expr {e e'} : Expr.Alike k e e' → ForInit.Alike (.expr e) (.expr e')

inductive ForTarget.Alike : ForTarget → ForTarget → Prop where
  | declaration {d d'} : VariableDeclaration.Alike k d d' →
      ForTarget.Alike (.declaration d) (.declaration d')
  | pattern {p p'} : Pattern.Alike k p p' → ForTarget.Alike (.pattern p) (.pattern p')

inductive Statement.Alike : Statement → Statement → Prop where
  | function {id params params' body body' isAsync isGenerator} :
      List.Forall₂ (Pattern.Alike k) params params' → List.Forall₂ Statement.Alike body body' →
      Statement.Alike (.function id params body isAsync isGenerator)
        (.function id params' body' isAsync isGenerator)
  | block {body body'} : List.Forall₂ Statement.Alike body body' →
      Statement.Alike (.block body) (.block body')
  | doWhile {body body' test test'} : Statement.Alike body body' → Expr.Alike k test test' →
      Statement.Alike (.doWhile body test) (.doWhile body' test')
  | expression {e e'} : Expr.Alike k e e' → Statement.Alike (.expression e) (.expression e')
  | for {init init' test test' update update' body body'} : ForInit.Alike k init init' →
      Option.Rel (Expr.Alike k) test test' → Option.Rel (Expr.Alike k) update update' →
      Statement.Alike body body' →
      Statement.Alike (.for init test update body) (.for init' test' update' body')
  | forIn {left left' right right' body body'} : ForTarget.Alike k left left' →
      Expr.Alike k right right' → Statement.Alike body body' →
      Statement.Alike (.forIn left right body) (.forIn left' right' body')
  | forOf {left left' right right' body body' isAwait} : ForTarget.Alike k left left' →
      Expr.Alike k right right' → Statement.Alike body body' →
      Statement.Alike (.forOf left right body isAwait) (.forOf left' right' body' isAwait)
  | if {test test' consequent consequent' alternate alternate'} : Expr.Alike k test test' →
      Statement.Alike consequent consequent' → Option.Rel Statement.Alike alternate alternate' →
      Statement.Alike (.if test consequent alternate) (.if test' consequent' alternate')
  | labeled {label body body'} : Statement.Alike body body' →
      Statement.Alike (.labeled label body) (.labeled label body')
  | return {argument argument'} : Option.Rel (Expr.Alike k) argument argument' →
      Statement.Alike (.return argument) (.return argument')
  | declaration {d d'} : VariableDeclaration.Alike k d d' →
      Statement.Alike (.declaration d) (.declaration d')
  | while {test test' body body'} : Expr.Alike k test test' → Statement.Alike body body' →
      Statement.Alike (.while test body) (.while test' body')
  | break {label} : Statement.Alike (.break label) (.break label)
  | continue {label} : Statement.Alike (.continue label) (.continue label)
  | debugger : Statement.Alike .debugger .debugger
  | empty : Statement.Alike .empty .empty
  | unsupported {kind line nested nested'} : List.Forall₂ Statement.Alike nested nested' →
      Statement.Alike (.unsupported kind line nested) (.unsupported kind line nested')

end Alike

/-- Programs that differ in spelling only. -/
def Program.Alike (k : Spelling) (p p' : Program) : Prop :=
  List.Forall₂ (Statement.Alike k) p.body p'.body

end SketchSurvey.Script

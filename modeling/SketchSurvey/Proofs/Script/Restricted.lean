import SketchSurvey.Proofs.Script.Agreement
import SketchSurvey.Proofs.Script.Lowered
import SketchSurvey.Proofs.Script.Outline
import SketchSurvey.Proofs.Script.Preorder

/-! What the analyses rely on in every node of a program, at any depth, though nothing in its class says
so. -/

set_option autoImplicit false

namespace SketchSurvey.Script

open Outline (many text number flag node named placeholder)

/-- A placeholder's line is one of the lines of its text. -/
def HasLine (newlines : Nat) (fields : Fields) : Prop :=
  ∃ line, fields.lookup "line" = some (number line) ∧ 1 ≤ line ∧ line ≤ 1 + newlines

/-- A declaration in the head of a loop declares one thing, without a value. -/
def HasPlainHead (fields : Fields) : Prop :=
  ∃ left, fields.lookup "left" = some left ∧
    ∀ declaration, left = node .variableDeclaration declaration →
      ∃ id, declaration.lookup "declarations" =
        some (many [node .variableDeclarator [("id", id), ("init", .absent)]])

/-- What the fields of a node promise, by its class. -/
def Obeys (newlines : Nat) : NodeClass → Fields → Prop
  | .binaryExpression, fields =>
    ∃ operator, fields.lookup "operator" = some (text operator) ∧
      operator ∉ ["&&", "||", "??"]
  | .memberExpression, fields =>
    fields.lookup "computed" = some (flag true) ∨
      fields.lookup "computed" = some (flag false) ∧
        ∃ property, fields.lookup "property" = some property ∧
          property.IsA [.identifier, .privateIdentifier]
  | .variableDeclaration, fields =>
    (∃ word, fields.lookup "kind" = some (text word) ∧ word ∈ ["var", "let", "const"]) ∧
      ∃ first rest, fields.lookup "declarations" = some (many (first :: rest))
  | .forInStatement, fields => HasPlainHead fields
  | .forOfStatement, fields => HasPlainHead fields
  | .functionDeclaration, fields => ∃ name, fields.lookup "id" = some (named name)
  | .unsupportedStatement, fields =>
    HasLine newlines fields ∧
      (fields.lookup "nested" = some (many []) ∨
        ∃ kind, fields.lookup "kind" = some (text kind) ∧
          kind ∈ ["TryStatement", "SwitchStatement", "WithStatement"])
  | .unsupportedExpression, fields => HasLine newlines fields
  | .unsupportedPattern, fields => HasLine newlines fields
  | _, _ => True

/-- Where a node may stand, seen from the node that holds it in one of its fields. -/
structure Placed (kind : NodeClass) (fields : Fields) : Prop where
  super : ∀ name o, (name, o) ∈ fields → (∃ item ∈ o.items, item.IsA [.super]) →
    kind = .callExpression ∧ name = "callee" ∨ kind = .memberExpression ∧ name = "object"
  spread : ∀ name o, (name, o) ∈ fields → (∃ item ∈ o.items, item.IsA [.spreadElement]) →
    kind = .callExpression ∧ name = "arguments"
  nested : ∀ o, ("nested", o) ∈ fields → kind = .unsupportedStatement

structure Restricted (newlines : Nat) (kind : NodeClass) (fields : Fields) : Prop where
  own : Obeys newlines kind fields
  placed : Placed kind fields

namespace Outline

/-- What may stand in every field. -/
def IsPlain (o : Outline) : Prop := ∀ item ∈ o.items, ¬ item.IsA [.super, .spreadElement]

theorem isPlain_of_single {o : Outline} (single : o.items = [o])
    (other : ¬ o.IsA [.super, .spreadElement]) : o.IsPlain := by
  intro item member
  rw [single] at member
  cases List.mem_singleton.mp member
  exact other

theorem IsPlain.not_isA {o : Outline} (plain : o.IsPlain) : ¬ o.IsA [.super, .spreadElement] := by
  intro isA
  cases isA with
  | node known => exact plain _ (.head _) (.node known)

end Outline

/-- Something that may stand in every field, with every node in it restricted. -/
structure Settled (newlines : Nat) (o : Outline) : Prop where
  plain : o.IsPlain
  restricted : o.Everywhere (Restricted newlines)

namespace Settled

variable {newlines : Nat}

theorem not_super {o : Outline} (settled : Settled newlines o) :
    ¬ ∃ item ∈ o.items, item.IsA [.super] := by
  rintro ⟨item, isItem, isSuper⟩
  exact settled.plain item isItem (isSuper.mono (by decide))

theorem not_spread {o : Outline} (settled : Settled newlines o) :
    ¬ ∃ item ∈ o.items, item.IsA [.spreadElement] := by
  rintro ⟨item, isItem, isSpread⟩
  exact settled.plain item isItem (isSpread.mono (by decide))

theorem text (value : String) : Settled newlines (text value) :=
  ⟨Outline.isPlain_of_single rfl nofun, .text value⟩

theorem flag (value : Bool) : Settled newlines (flag value) :=
  ⟨Outline.isPlain_of_single rfl nofun, .flag value⟩

theorem number (value : Nat) : Settled newlines (number value) :=
  ⟨Outline.isPlain_of_single rfl nofun, .number value⟩

theorem absent : Settled newlines .absent := ⟨Outline.isPlain_of_single rfl nofun, .absent⟩

theorem orAbsent {o? : Option Outline} (each : ∀ o ∈ o?, Settled newlines o) :
    Settled newlines (.orAbsent o?) := by
  cases o? with
  | none => exact absent
  | some o => exact each o rfl

theorem many_map {α : Type} {outline : α → Outline} {items : List α}
    (each : ∀ a ∈ items, Settled newlines (outline a)) :
    Settled newlines (many (items.map outline)) := by
  constructor
  · intro item member
    obtain ⟨a, isItem, rfl⟩ := List.mem_map.mp member
    exact (each a isItem).plain.not_isA
  · refine .many ?_
    intro o member
    obtain ⟨a, isItem, rfl⟩ := List.mem_map.mp member
    exact (each a isItem).restricted

theorem of_node {kind : NodeClass} {fields : Fields} (known : kind ∉ [.super, .spreadElement])
    (restricted : (node kind fields).Everywhere (Restricted newlines)) :
    Settled newlines (node kind fields) := by
  refine ⟨Outline.isPlain_of_single rfl ?_, restricted⟩
  intro isA
  cases isA with
  | node other => exact known other

/-- A node with nothing in its fields that depends on where it stands. -/
theorem everywhere_node {kind : NodeClass} {fields : Fields} (own : Obeys newlines kind fields)
    (each : ∀ f ∈ fields, (f.1 = "nested" → kind = .unsupportedStatement) ∧ Settled newlines f.2) :
    (node kind fields).Everywhere (Restricted newlines) := by
  refine .node ⟨own, ?_, ?_, ?_⟩ fun f member => (each f member).2.restricted
  · intro name o member isSuper
    exact absurd isSuper (each _ member).2.not_super
  · intro name o member isSpread
    exact absurd isSpread (each _ member).2.not_spread
  · intro o member
    exact (each _ member).1 rfl

theorem node {kind : NodeClass} {fields : Fields} (known : kind ∉ [.super, .spreadElement])
    (own : Obeys newlines kind fields)
    (each : ∀ f ∈ fields, (f.1 = "nested" → kind = .unsupportedStatement) ∧ Settled newlines f.2) :
    Settled newlines (node kind fields) :=
  of_node known (everywhere_node own each)

theorem named (name : String) : Settled newlines (named name) := by
  refine node (by decide) trivial ?_
  simp [text]

end Settled

/-- What is known of the tree of a text if no part is left out and every row is one of the text's. -/
def Knowledge.ofText (newlines : Nat) : Knowledge where
  line line := 1 ≤ line ∧ line ≤ 1 + newlines
  optional := True
  complete := True

section Expressions

variable {newlines : Nat}

/-- A placeholder for an expression or a pattern. -/
theorem Settled.placeholder {kind : NodeClass} {name : String} {line : Nat}
    (isPlaceholder : kind ∈ [.unsupportedExpression, .unsupportedPattern])
    (known : 1 ≤ line ∧ line ≤ 1 + newlines) :
    Settled newlines (placeholder kind name line []) := by
  have hasLine : HasLine newlines [("kind", .text name), ("line", .number line)] :=
    ⟨line, rfl, known⟩
  simp only [List.mem_cons, List.not_mem_nil, or_false] at isPlaceholder
  rcases isPlaceholder with rfl | rfl
  · exact .node (by decide) hasLine (by simp [Settled.text, Settled.number])
  · exact .node (by decide) hasLine (by simp [Settled.text, Settled.number])

theorem isLogical_eq_false_iff {operator : String} :
    Lower.isLogical operator = false ↔ operator ∉ ["&&", "||", "??"] := by
  rw [Lower.isLogical, Bool.eq_false_iff, Ne, List.contains_iff_mem]

theorem Property.outline_isA {p : Property} (isName : p.isComputed = false) :
    p.outline.IsA [.identifier, .privateIdentifier] := by
  cases p with
  | name name =>
      rw [Property.outline]
      exact .node (.head _)
  | privateName name =>
      rw [Property.outline]
      exact .node (.tail _ (.head _))
  | computed e => cases isName

theorem Receiver.outline_isA (r : Receiver) : r.outline.IsA (.super :: expressionClasses) := by
  cases r with
  | super =>
      rw [Receiver.outline]
      exact .node (.head _)
  | expr e =>
      rw [Receiver.outline]
      exact e.outline_isA.mono (List.subset_cons_self _ _)

theorem Argument.outline_isA (a : Argument) :
    a.outline.IsA (.spreadElement :: expressionClasses) := by
  cases a with
  | expr e =>
      rw [Argument.outline]
      exact e.outline_isA.mono (List.subset_cons_self _ _)
  | spread e =>
      rw [Argument.outline]
      exact .node (.head _)

theorem placed_call (callee : Receiver) (arguments : List Argument) :
    Placed .callExpression [("callee", callee.outline),
      ("arguments", many (arguments.map Argument.outline))] := by
  refine ⟨?_, ?_, by simp⟩
  · rintro name o member ⟨item, isItem, isSuper⟩
    simp only [List.mem_cons, Prod.mk.injEq, List.not_mem_nil, or_false] at member
    rcases member with ⟨rfl, rfl⟩ | ⟨rfl, rfl⟩
    · exact .inl ⟨rfl, rfl⟩
    · obtain ⟨a, _, rfl⟩ := List.mem_map.mp isItem
      exact absurd isSuper (a.outline_isA.not_isA (by decide))
  · rintro name o member ⟨item, isItem, isSpread⟩
    simp only [List.mem_cons, Prod.mk.injEq, List.not_mem_nil, or_false] at member
    rcases member with ⟨rfl, rfl⟩ | ⟨rfl, rfl⟩
    · cases callee.outline_isA.eq_of_mem_items isItem
      exact absurd isSpread (callee.outline_isA.not_isA (by decide))
    · exact ⟨rfl, rfl⟩

theorem obeys_member (object : Receiver) (property : Property) :
    Obeys newlines .memberExpression [("object", object.outline), ("property", property.outline),
      ("computed", .flag property.isComputed)] := by
  cases computed : property.isComputed with
  | true => exact .inl rfl
  | false => exact .inr ⟨rfl, _, rfl, property.outline_isA computed⟩

theorem placed_member {object : Receiver} {property : Property}
    (isProperty : Settled newlines property.outline) :
    Placed .memberExpression [("object", object.outline), ("property", property.outline),
      ("computed", .flag property.isComputed)] := by
  have computed : Settled newlines (.flag property.isComputed) := .flag _
  refine ⟨?_, ?_, by simp⟩
  · intro name o member isSuper
    simp only [List.mem_cons, Prod.mk.injEq, List.not_mem_nil, or_false] at member
    rcases member with ⟨rfl, rfl⟩ | ⟨rfl, rfl⟩ | ⟨rfl, rfl⟩
    · exact .inr ⟨rfl, rfl⟩
    · exact absurd isSuper isProperty.not_super
    · exact absurd isSuper computed.not_super
  · intro name o member isSpread
    simp only [List.mem_cons, Prod.mk.injEq, List.not_mem_nil, or_false] at member
    rcases member with ⟨rfl, rfl⟩ | ⟨rfl, rfl⟩ | ⟨rfl, rfl⟩
    · obtain ⟨item, isItem, isSpread⟩ := isSpread
      cases object.outline_isA.eq_of_mem_items isItem
      exact absurd isSpread (object.outline_isA.not_isA (by decide))
    · exact absurd isSpread isProperty.not_spread
    · exact absurd isSpread computed.not_spread

mutual

theorem Expr.WellFormed.settled : ∀ {e : Expr}, e.WellFormed (.ofText newlines) →
    Settled newlines e.outline
  | _, .assign left right => by
      rw [Expr.outline]
      exact .node (by decide) trivial (by simp [Settled.text, left.settled, right.settled])
  | _, .binary notLogical left right => by
      rw [Expr.outline]
      refine .node (by decide) ⟨_, rfl, isLogical_eq_false_iff.mp notLogical⟩ ?_
      simp [Settled.text, left.settled, right.settled]
  | .call callee arguments, .call isCallee areArguments => by
      rw [Expr.outline, argumentOutlines_eq_map]
      refine .of_node (by decide) (.node ⟨trivial, placed_call callee arguments⟩ ?_)
      simp only [List.forall_mem_cons, List.not_mem_nil, false_implies, implies_true, and_true]
      exact ⟨isCallee.restricted, .many_map fun a member => (areArguments a member).restricted⟩
  | .member object property, .member isObject isProperty => by
      rw [Expr.outline]
      refine .of_node (by decide)
        (.node ⟨obeys_member object property, placed_member isProperty.settled⟩ ?_)
      simp only [List.forall_mem_cons, List.not_mem_nil, false_implies, implies_true, and_true]
      exact ⟨isObject.restricted, isProperty.settled.restricted, .flag _⟩
  | _, .identifier => by
      rw [Expr.outline]
      exact .named _
  | _, .literal => by
      rw [Expr.outline]
      exact .node (by decide) trivial (by simp [Settled.text])
  | _, .unsupported known => by
      rw [Expr.outline]
      exact .placeholder (.head _) known

theorem Receiver.WellFormed.restricted : ∀ {r : Receiver}, r.WellFormed (.ofText newlines) →
    r.outline.Everywhere (Restricted newlines)
  | _, .super => by
      rw [Receiver.outline]
      exact Settled.everywhere_node trivial (List.forall_mem_nil _)
  | _, .expr e => by
      rw [Receiver.outline]
      exact e.settled.restricted

theorem Argument.WellFormed.restricted : ∀ {a : Argument}, a.WellFormed (.ofText newlines) →
    a.outline.Everywhere (Restricted newlines)
  | _, .expr e => by
      rw [Argument.outline]
      exact e.settled.restricted
  | _, .spread e => by
      rw [Argument.outline]
      exact Settled.everywhere_node trivial (by simp [e.settled])

theorem Property.WellFormed.settled : ∀ {p : Property}, p.WellFormed (.ofText newlines) →
    Settled newlines p.outline
  | _, .name => by
      rw [Property.outline]
      exact .named _
  | _, .privateName => by
      rw [Property.outline]
      exact .node (by decide) trivial (by simp [Settled.text])
  | _, .computed e => by
      rw [Property.outline]
      exact e.settled

theorem Pattern.WellFormed.settled : ∀ {p : Pattern}, p.WellFormed (.ofText newlines) →
    Settled newlines p.outline
  | _, .identifier => by
      rw [Pattern.outline]
      exact .named _
  | _, .object properties => by
      rw [Pattern.outline, propertyOutlines_eq_map]
      have each := Settled.many_map fun p member => (properties p member).settled
      exact .node (by decide) trivial (by simp [each])
  | _, .array elements => by
      rw [Pattern.outline, patternOutlines_eq_map]
      have each := Settled.many_map fun p member => (elements p member).settled
      exact .node (by decide) trivial (by simp [each])
  | _, .rest argument => by
      rw [Pattern.outline]
      exact .node (by decide) trivial (by simp [argument.settled])
  | _, .withDefault left right => by
      rw [Pattern.outline]
      exact .node (by decide) trivial (by simp [left.settled, right.settled])
  | _, .member target => by
      rw [Pattern.outline]
      exact target.settled
  | _, .chain known _ => by
      rw [Pattern.outline, Expr.outline]
      exact .placeholder (.head _) known
  | _, .unsupported known => by
      rw [Pattern.outline]
      exact .placeholder (.tail _ (.head _)) known

theorem PatternProperty.WellFormed.settled : ∀ {p : PatternProperty},
    p.WellFormed (.ofText newlines) → Settled newlines p.outline
  | _, .pair value => by
      rw [PatternProperty.outline]
      exact .node (by decide) trivial (by simp [Settled.text, value.settled])
  | _, .rest argument => by
      rw [PatternProperty.outline]
      exact .node (by decide) trivial (by simp [argument.settled])

end

end Expressions

section Statements

variable {newlines : Nat}

/-- What stands for a pattern, optional chains among it. -/
theorem Pattern.WellFormed.outline_isA {k : Knowledge} {p : Pattern} (wellFormed : p.WellFormed k) :
    p.outline.IsA (.unsupportedExpression :: patternClasses) := by
  cases wellFormed with
  | member isMember =>
      rw [Pattern.outline, Expr.outline]
      exact .node (by decide)
  | chain known isOptional =>
      rw [Pattern.outline, Expr.outline]
      exact .node (.head _)
  | identifier | object | array | rest | withDefault | unsupported =>
      rw [Pattern.outline]
      exact .node (by decide)

theorem optionalExpression_settled {e? : Option Expr}
    (each : ∀ e ∈ e?, Expr.WellFormed (.ofText newlines) e) :
    Settled newlines (optionalExpression e?) := by
  refine .orAbsent ?_
  intro o found
  obtain ⟨e, present, rfl⟩ := Option.map_eq_some_iff.mp found
  exact (each e present).settled

theorem optionalName_settled (name? : Option String) : Settled newlines (optionalName name?) := by
  refine .orAbsent ?_
  intro o found
  obtain ⟨name, _, rfl⟩ := Option.map_eq_some_iff.mp found
  exact .named name

theorem Declarator.WellFormed.settled {v : Declarator} (wellFormed : v.WellFormed (.ofText newlines)) :
    Settled newlines v.outline := by
  have init := optionalExpression_settled wellFormed.init
  exact .node (by decide) trivial (by simpa using ⟨wellFormed.id.settled, init⟩)

theorem DeclarationKind.name_mem (kind : DeclarationKind) : kind.name ∈ ["var", "let", "const"] := by
  cases kind <;> decide

theorem VariableDeclaration.WellFormed.settled {d : VariableDeclaration}
    (wellFormed : d.WellFormed (.ofText newlines)) : Settled newlines d.outline := by
  obtain ⟨first, rest, nonempty⟩ := List.exists_cons_of_ne_nil (wellFormed.nonempty trivial)
  have each := Settled.many_map fun v member => (wellFormed.declarators v member).settled
  refine .node (by decide) ⟨⟨_, rfl, d.kind.name_mem⟩, ?_⟩ (by simp [Settled.text, each])
  exact ⟨first.outline, rest.map Declarator.outline, by rw [nonempty]; rfl⟩

theorem ForInit.WellFormed.settled {init : ForInit} (wellFormed : init.WellFormed (.ofText newlines)) :
    Settled newlines init.outline := by
  cases wellFormed with
  | none => exact .absent
  | declaration wellFormed => exact wellFormed.settled
  | expr wellFormed => exact wellFormed.settled

theorem ForTarget.WellFormed.settled {left : ForTarget}
    (wellFormed : left.WellFormed (.ofText newlines)) : Settled newlines left.outline := by
  cases wellFormed with
  | @declaration kind id isId =>
      refine VariableDeclaration.WellFormed.settled ⟨fun _ => List.cons_ne_nil _ _, ?_⟩
      intro v member
      cases List.mem_singleton.mp member
      exact ⟨isId, nofun⟩
  | pattern wellFormed => exact wellFormed.settled

theorem ForTarget.WellFormed.hasPlainHead {left : ForTarget}
    (wellFormed : left.WellFormed (.ofText newlines)) (rest : Fields) :
    HasPlainHead (("left", left.outline) :: rest) := by
  refine ⟨left.outline, rfl, ?_⟩
  intro declaration same
  cases wellFormed with
  | @declaration kind id isId =>
      cases same
      exact ⟨id.outline, rfl⟩
  | pattern wellFormed =>
      have isA := wellFormed.outline_isA
      rw [ForTarget.outline] at same
      rw [same] at isA
      cases isA with
      | node known => exact absurd known (by decide)

theorem Statement.WellFormed.settled {s : Statement} (wellFormed : s.WellFormed (.ofText newlines)) :
    Settled newlines s.outline := by
  induction wellFormed with
  | @function id params body isAsync isGenerator named parameters _ bodyIH =>
      rw [Statement.outline, statementOutlines_eq_map]
      obtain ⟨name, rfl⟩ := Option.isSome_iff_exists.mp (named trivial)
      have params := Settled.many_map fun p member => (parameters p member).settled
      have block : Settled newlines
          (node .blockStatement [("body", many (body.map Statement.outline))]) :=
        .node (by decide) trivial (by simp [Settled.many_map bodyIH])
      refine .node (by decide) ⟨name, rfl⟩ ?_
      simp [params, block, Settled.flag, optionalName_settled]
  | block _ bodyIH =>
      rw [Statement.outline, statementOutlines_eq_map]
      exact .node (by decide) trivial (by simp [Settled.many_map bodyIH])
  | doWhile _ test bodyIH =>
      rw [Statement.outline]
      exact .node (by decide) trivial (by simp [bodyIH, test.settled])
  | expression e =>
      rw [Statement.outline]
      exact .node (by decide) trivial (by simp [e.settled])
  | «for» init test update _ bodyIH =>
      rw [Statement.outline]
      exact .node (by decide) trivial (by simp [init.settled, optionalExpression_settled test,
        optionalExpression_settled update, bodyIH])
  | forIn left right _ bodyIH =>
      rw [Statement.outline]
      exact .node (by decide) (left.hasPlainHead _) (by simp [left.settled, right.settled, bodyIH])
  | forOf left right _ bodyIH =>
      rw [Statement.outline]
      exact .node (by decide) (left.hasPlainHead _)
        (by simp [left.settled, right.settled, bodyIH, Settled.flag])
  | @«if» _ _ alternate test _ _ consequentIH alternateIH =>
      rw [Statement.outline, alternateOutline_eq_orAbsent]
      have settled : ∀ o ∈ alternate.map Statement.outline, Settled newlines o := by
        intro o found
        obtain ⟨s, present, rfl⟩ := Option.map_eq_some_iff.mp found
        exact alternateIH s present
      exact .node (by decide) trivial
        (by simp [test.settled, consequentIH, Settled.orAbsent settled])
  | labeled _ bodyIH =>
      rw [Statement.outline]
      exact .node (by decide) trivial (by simp [Settled.named, bodyIH])
  | «return» argument =>
      rw [Statement.outline]
      exact .node (by decide) trivial (by simp [optionalExpression_settled argument])
  | declaration d =>
      rw [Statement.outline]
      exact d.settled
  | «while» test _ bodyIH =>
      rw [Statement.outline]
      exact .node (by decide) trivial (by simp [test.settled, bodyIH])
  | «break» =>
      rw [Statement.outline]
      exact .node (by decide) trivial (by simp [optionalName_settled])
  | «continue» =>
      rw [Statement.outline]
      exact .node (by decide) trivial (by simp [optionalName_settled])
  | debugger =>
      rw [Statement.outline]
      exact .node (by decide) trivial (List.forall_mem_nil _)
  | empty =>
      rw [Statement.outline]
      exact .node (by decide) trivial (List.forall_mem_nil _)
  | @unsupported kind line nested known nests _ nestedIH =>
      rw [Statement.outline, statementOutlines_eq_map]
      have own : Obeys newlines .unsupportedStatement [("kind", text kind), ("line", number line),
          ("nested", many (nested.map Statement.outline))] := by
        refine ⟨⟨line, rfl, known⟩, ?_⟩
        cases nested with
        | nil => exact .inl rfl
        | cons first rest => exact .inr ⟨kind, rfl, nests (List.cons_ne_nil _ _)⟩
      exact .node (by decide) own
        (by simp [Settled.text, Settled.number, Settled.many_map nestedIH])

end Statements

theorem Program.WellFormed.restricted {newlines : Nat} {p : Program}
    (wellFormed : p.WellFormed (.ofText newlines)) :
    p.outline.Everywhere (Restricted newlines) := by
  have each := Settled.many_map fun s member => (wellFormed s member).settled
  exact Settled.everywhere_node trivial (by simp [each])

/-- What a reader of concrete trees promises for a text that it finds no error in: the parts that the
grammar never leaves out are there, and a row counts the line feeds of the text before some place. -/
def KeepsGrammar (read : String → Node) (content : String) : Prop :=
  (read content).hasError = false →
    (read content).Everywhere fun n =>
      n.IsComplete ∧ ∃ before after, content.toList = before ++ after ∧ n.row = before.count '\n'

/-- In the program of a script every node at any depth keeps to what is promised of its class. -/
theorem parseWith_restricted {read : String → Node} {content fileName : String} {p : Program}
    (keeps : KeepsGrammar read content) (accepted : parseWith read content fileName = .ok p) :
    p.outline.Everywhere (Restricted (content.toList.count '\n')) := by
  obtain ⟨correct, rfl⟩ := parseWith_eq_ok accepted
  have agrees : (read content).Everywhere (Node.Agrees (.ofText (content.toList.count '\n'))) := by
    refine (keeps correct).mono ?_
    rintro n ⟨isComplete, before, after, same, row⟩
    refine ⟨?_, fun _ => trivial, fun _ => isComplete⟩
    have counted : content.toList.count '\n' = before.count '\n' + after.count '\n' := by
      rw [same, List.count_append]
    constructor
    · exact Nat.le_add_left 1 n.row
    · rw [Node.line, row, counted]
      omega
  exact (Lower.program_wellFormed agrees).restricted

section TwoLines

open Node (branch leaf word)

/-- A declaration and, on the next line, an operator that may leave its right side out. -/
def twoLines : Program where
  body := [.declaration { kind := .let, declarations := [{ id := .identifier "a", init := none }] },
    .expression (.unsupported "LogicalExpression" 2)]

def firstLineTree : Node :=
  branch "lexical_declaration" none 0 "let a;" [
    word (some "kind") 0 "let",
    branch "variable_declarator" none 0 "a" [leaf "identifier" (some "name") 0 "a"],
    word none 0 ";"]

def secondLineTree : Node :=
  branch "binary_expression" none 1 "a ?? 1" [
    leaf "identifier" (some "left") 1 "a",
    word (some "operator") 1 "??",
    leaf "number" (some "right") 1 "1"]

def twoLinesTree : Node :=
  branch "program" none 0 "let a;\na ?? 1;" [
    firstLineTree,
    branch "expression_statement" none 1 "a ?? 1;" [secondLineTree, word none 1 ";"]]

theorem parseWith_twoLinesTree :
    parseWith (fun _ => twoLinesTree) "let a;\na ?? 1;" anonymous = .ok twoLines := by
  have has : twoLinesTree.Everywhere Node.HasParts := .of_forall_mem (by decide)
  refine (parseWith_of_hasParts rfl has).trans (congrArg Except.ok ?_)
  have first : Lower.statement firstLineTree = .declaration
      { kind := .let, declarations := [{ id := .identifier "a", init := none }] } := by
    rw [Lower.statement_declaration rfl]
    have declares : Lower.variableDeclaration firstLineTree = { kind := .let, declarations :=
        [Lower.declarator (branch "variable_declarator" none 0 "a"
          [leaf "identifier" (some "name") 0 "a"])] } := rfl
    rw [declares, Lower.declarator_plain ⟨rfl, rfl, rfl⟩, Lower.pattern_identifier]
  have second : Lower.expression secondLineTree = .unsupported "LogicalExpression" 2 := by
    rw [Lower.expression]
    rfl
  have parts : twoLinesTree.parts = [firstLineTree,
      branch "expression_statement" none 1 "a ?? 1;" [secondLineTree, word none 1 ";"]] := rfl
  rw [Lower.program, parts, List.map_cons, List.map_singleton, first,
    Lower.statement_expression ⟨rfl, rfl, rfl⟩, second]
  rfl

/-- A node that declares nothing, on one of the two lines. -/
theorem twoLines_node {n : Node} (other : n.kind ∉ ["function_declaration",
      "generator_function_declaration", "variable_declaration", "lexical_declaration"])
    (row : n.row = 0 ∨ n.row = 1) :
    n.IsComplete ∧ ∃ before after, "let a;\na ?? 1;".toList = before ++ after ∧
      n.row = before.count '\n' := by
  simp only [List.mem_cons, List.not_mem_nil, or_false, not_or] at other
  obtain ⟨notFunction, notGenerator, notVariable, notLexical⟩ := other
  refine ⟨⟨?_, ?_⟩, ?_⟩
  · rintro (same | same)
    · exact absurd same notFunction
    · exact absurd same notGenerator
  · intro declares
    simp [Lower.isDeclaration, notVariable, notLexical] at declares
  · rcases row with first | second
    · exact ⟨[], "let a;\na ?? 1;".toList, rfl, first⟩
    · exact ⟨"let a;\n".toList, "a ?? 1;".toList, rfl, second⟩

theorem keepsGrammar_twoLines : KeepsGrammar (fun _ => twoLinesTree) "let a;\na ?? 1;" := by
  intro _
  have childless {P : Node → Prop} : ∀ n ∈ [], P n := List.forall_mem_nil P
  have declarator : (branch "variable_declarator" none 0 "a"
      [leaf "identifier" (some "name") 0 "a"]) ∈ firstLineTree.parts := .head _
  have first : firstLineTree.IsComplete :=
    ⟨by simp [firstLineTree], fun _ => ⟨_, declarator, rfl⟩⟩
  refine .intro (twoLines_node (by decide) (.inl rfl)) ?_
  simp only [twoLinesTree, Node.children_mk, List.forall_mem_cons]
  refine ⟨.intro ⟨first, [], _, rfl, rfl⟩ ?_, .intro (twoLines_node (by decide) (.inr rfl)) ?_, childless⟩
  · simp only [firstLineTree, Node.children_mk, List.forall_mem_cons]
    refine ⟨.intro (twoLines_node (by decide) (.inl rfl)) childless,
      .intro (twoLines_node (by decide) (.inl rfl)) ?_,
      .intro (twoLines_node (by decide) (.inl rfl)) childless, childless⟩
    exact List.forall_mem_singleton.mpr (.intro (twoLines_node (by decide) (.inl rfl)) childless)
  · simp only [Node.children_mk, List.forall_mem_cons]
    refine ⟨.intro (twoLines_node (by decide) (.inr rfl)) ?_,
      .intro (twoLines_node (by decide) (.inr rfl)) childless, childless⟩
    simp only [secondLineTree, Node.children_mk, List.forall_mem_cons]
    exact ⟨.intro (twoLines_node (by decide) (.inr rfl)) childless,
      .intro (twoLines_node (by decide) (.inr rfl)) childless,
      .intro (twoLines_node (by decide) (.inr rfl)) childless, childless⟩

theorem parseWith_restricted_twoLines :
    KeepsGrammar (fun _ => twoLinesTree) "let a;\na ?? 1;" ∧
      parseWith (fun _ => twoLinesTree) "let a;\na ?? 1;" anonymous = .ok twoLines ∧
      twoLines.outline.Everywhere (Restricted 1) :=
  ⟨keepsGrammar_twoLines, parseWith_twoLinesTree,
    parseWith_restricted keepsGrammar_twoLines parseWith_twoLinesTree⟩

end TwoLines

end SketchSurvey.Script

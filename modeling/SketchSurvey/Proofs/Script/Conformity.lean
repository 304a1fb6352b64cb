import SketchSurvey.Proofs.Script.Agreement
import SketchSurvey.Proofs.Script.Lowered
import SketchSurvey.Proofs.Script.Outline
import SketchSurvey.Proofs.Script.Preorder

/-! Programs hold in every field what is declared for it, but for one thing: where a pattern is declared
the placeholder of an optional chain may stand, which is an expression. -/

set_option autoImplicit false

namespace SketchSurvey.Script

/-- What is declared for a field. -/
inductive FieldType where
  | text
  | number
  | flag
  | node (kinds : List NodeClass)
  | optional (type : FieldType)
  | many (type : FieldType)

namespace FieldType

def expression : FieldType := node expressionClasses
def pattern : FieldType := node patternClasses
def statement : FieldType := node statementClasses

/-- What is called or has a member. -/
def receiver : FieldType := node (.super :: expressionClasses)

/-- What takes the values in a `for` over a collection. -/
def target : FieldType := node (.variableDeclaration :: patternClasses)

end FieldType

open FieldType

/-- The fields of each class with what is declared for them. -/
def NodeClass.declared : NodeClass → List (String × FieldType)
  | program => [("body", many statement)]
  | functionDeclaration =>
    [("id", optional (node [identifier])), ("params", many pattern), ("body", node [blockStatement]),
      ("is_async", flag), ("is_generator", flag)]
  | blockStatement => [("body", many statement)]
  | doWhileStatement => [("body", statement), ("test", expression)]
  | expressionStatement => [("expression", expression)]
  | forStatement =>
    [("init", optional (node (variableDeclaration :: expressionClasses))),
      ("test", optional expression), ("update", optional expression), ("body", statement)]
  | forInStatement => [("left", target), ("right", expression), ("body", statement)]
  | forOfStatement =>
    [("left", target), ("right", expression), ("body", statement), ("is_await", flag)]
  | ifStatement =>
    [("test", expression), ("consequent", statement), ("alternate", optional statement)]
  | labeledStatement => [("label", node [identifier]), ("body", statement)]
  | returnStatement => [("argument", optional expression)]
  | variableDeclaration => [("kind", text), ("declarations", many (node [variableDeclarator]))]
  | whileStatement => [("test", expression), ("body", statement)]
  | breakStatement => [("label", optional (node [identifier]))]
  | continueStatement => [("label", optional (node [identifier]))]
  | debuggerStatement => []
  | emptyStatement => []
  | unsupportedStatement => [("kind", text), ("line", number), ("nested", many statement)]
  | variableDeclarator => [("id", pattern), ("init", optional expression)]
  | assignmentExpression => [("operator", text), ("left", pattern), ("right", expression)]
  | binaryExpression => [("operator", text), ("left", expression), ("right", expression)]
  | callExpression =>
    [("callee", receiver), ("arguments", many (node (spreadElement :: expressionClasses)))]
  | memberExpression =>
    [("object", receiver), ("property", node (privateIdentifier :: expressionClasses)),
      ("computed", flag)]
  | identifier => [("name", text)]
  | literal => [("raw", text)]
  | unsupportedExpression => [("kind", text), ("line", number)]
  | super => []
  | privateIdentifier => [("name", text)]
  | spreadElement => [("argument", expression)]
  | objectPattern => [("properties", many (node [patternProperty, restElement]))]
  | patternProperty => [("key", text), ("value", pattern)]
  | arrayPattern => [("elements", many pattern)]
  | restElement => [("argument", pattern)]
  | assignmentPattern => [("left", pattern), ("right", expression)]
  | unsupportedPattern => [("kind", text), ("line", number)]

section HasType

-- What may stand where a node of some classes is declared, besides such a node.
variable (besides : List NodeClass → Outline → Prop)

mutual

/-- Something is what is declared, at every depth. -/
inductive HasType : FieldType → Outline → Prop where
  | text {value} : HasType .text (.text value)
  | number {value} : HasType .number (.number value)
  | flag {value} : HasType .flag (.flag value)
  | node {kinds kind fields} : kind ∈ kinds → HasFields kind.declared fields →
      HasType (.node kinds) (.node kind fields)
  | besides {kinds o} : besides kinds o → HasType (.node kinds) o
  | absent {type} : HasType (.optional type) .absent
  | present {type o} : HasType type o → HasType (.optional type) o
  | many {type items} : (∀ o ∈ items, HasType type o) → HasType (.many type) (.many items)

inductive HasFields : List (String × FieldType) → Fields → Prop where
  | nil : HasFields [] []
  | cons {name type declared o fields} : HasType type o → HasFields declared fields →
      HasFields ((name, type) :: declared) ((name, o) :: fields)

end

section Parts

variable {besides : List NodeClass → Outline → Prop}

theorem HasType.of_node {kinds : List NodeClass} {kind : NodeClass} {fields : Fields}
    (none : ∀ kinds o, ¬ besides kinds o) (typed : HasType besides (.node kinds) (.node kind fields)) :
    kind ∈ kinds ∧ HasFields besides kind.declared fields := by
  cases typed with
  | node known typed => exact ⟨known, typed⟩
  | besides found => exact absurd found (none _ _)

theorem HasType.of_many {type : FieldType} {items : List Outline}
    (typed : HasType besides (.many type) (.many items)) : ∀ o ∈ items, HasType besides type o := by
  cases typed with
  | many each => exact each

variable {name : String} {type : FieldType} {declared : List (String × FieldType)} {o : Outline}
  {fields : Fields}

theorem HasFields.first (typed : HasFields besides ((name, type) :: declared) ((name, o) :: fields)) :
    HasType besides type o := by
  cases typed with
  | cons first _ => exact first

theorem HasFields.rest (typed : HasFields besides ((name, type) :: declared) ((name, o) :: fields)) :
    HasFields besides declared fields := by
  cases typed with
  | cons _ rest => exact rest

end Parts

section Mono

variable {besides besides' : List NodeClass → Outline → Prop}

mutual

theorem HasType.mono (implies : ∀ kinds o, besides kinds o → besides' kinds o) :
    ∀ {type : FieldType} {o : Outline}, HasType besides type o → HasType besides' type o
  | _, _, .text => .text
  | _, _, .number => .number
  | _, _, .flag => .flag
  | _, _, .node known fields => .node known (fields.mono implies)
  | _, _, .besides known => .besides (implies _ _ known)
  | _, _, .absent => .absent
  | _, _, .present typed => .present (typed.mono implies)
  | _, _, .many typed => .many fun o member => (typed o member).mono implies

theorem HasFields.mono (implies : ∀ kinds o, besides kinds o → besides' kinds o) :
    ∀ {declared : List (String × FieldType)} {fields : Fields},
      HasFields besides declared fields → HasFields besides' declared fields
  | _, _, .nil => .nil
  | _, _, .cons typed rest => .cons (typed.mono implies) (rest.mono implies)

end

end Mono

end HasType

/-- Where a pattern is declared, the placeholder of an optional chain, if there can be one. -/
inductive IsChainTarget (optional : Prop) (kinds : List NodeClass) : Outline → Prop where
  | chain {line} : optional → .unsupportedPattern ∈ kinds →
      IsChainTarget optional kinds (.placeholder .unsupportedExpression "ChainExpression" line [])

/-- Nothing stands in a program where it is not declared. -/
def Program.Conforms (p : Program) : Prop := HasType (fun _ _ => False) (.node [.program]) p.outline

/-- Nothing but the placeholder of an optional chain stands in a program where it is not declared. -/
def Program.ConformsButForChains (p : Program) : Prop :=
  HasType (IsChainTarget True) (.node [.program]) p.outline

namespace HasType

variable {k : Knowledge} {kinds more : List NodeClass} {o : Outline}

theorem widen (subset : kinds ⊆ more) (typed : HasType (IsChainTarget k.optional) (.node kinds) o) :
    HasType (IsChainTarget k.optional) (.node more) o := by
  cases typed with
  | node known fields => exact .node (subset known) fields
  | besides isChain =>
      cases isChain with
      | chain known declared => exact .besides (.chain known (subset declared))

theorem named (name : String) : HasType (IsChainTarget k.optional) (.node [.identifier]) (.named name) :=
  .node (.head _) (.cons .text .nil)

theorem orAbsent {type : FieldType} {o? : Option Outline}
    (typed : ∀ o ∈ o?, HasType (IsChainTarget k.optional) type o) :
    HasType (IsChainTarget k.optional) (.optional type) (.orAbsent o?) := by
  cases o? with
  | none => exact .absent
  | some o => exact .present (typed o rfl)

theorem many_map {α : Type} {type : FieldType} {outline : α → Outline} {items : List α}
    (typed : ∀ a ∈ items, HasType (IsChainTarget k.optional) type (outline a)) :
    HasType (IsChainTarget k.optional) (.many type) (.many (items.map outline)) := by
  refine .many ?_
  intro o member
  obtain ⟨a, isItem, rfl⟩ := List.mem_map.mp member
  exact typed a isItem

end HasType

section Expressions

variable {k : Knowledge}

mutual

theorem Expr.WellFormed.hasType : ∀ {e : Expr}, e.WellFormed k →
    HasType (IsChainTarget k.optional) expression e.outline
  | _, .assign left right => by
      rw [Expr.outline]
      exact .node (by decide) (.cons .text (.cons left.hasType (.cons right.hasType .nil)))
  | _, .binary _ left right => by
      rw [Expr.outline]
      exact .node (by decide) (.cons .text (.cons left.hasType (.cons right.hasType .nil)))
  | _, .call callee arguments => by
      rw [Expr.outline, argumentOutlines_eq_map]
      exact .node (by decide) (.cons callee.hasType
        (.cons (.many_map fun a member => (arguments a member).hasType) .nil))
  | _, .member object property => by
      rw [Expr.outline]
      exact .node (by decide) (.cons object.hasType (.cons property.hasType (.cons .flag .nil)))
  | _, .identifier => by
      rw [Expr.outline]
      exact (HasType.named _).widen (by decide)
  | _, .literal => by
      rw [Expr.outline]
      exact .node (by decide) (.cons .text .nil)
  | _, .unsupported _ => by
      rw [Expr.outline]
      exact .node (by decide) (.cons .text (.cons .number .nil))

theorem Receiver.WellFormed.hasType : ∀ {r : Receiver}, r.WellFormed k →
    HasType (IsChainTarget k.optional) receiver r.outline
  | _, .super => by
      rw [Receiver.outline]
      exact .node (.head _) .nil
  | _, .expr wellFormed => by
      rw [Receiver.outline]
      exact wellFormed.hasType.widen (List.subset_cons_self _ _)

theorem Argument.WellFormed.hasType : ∀ {a : Argument}, a.WellFormed k →
    HasType (IsChainTarget k.optional) (.node (.spreadElement :: expressionClasses)) a.outline
  | _, .expr wellFormed => by
      rw [Argument.outline]
      exact wellFormed.hasType.widen (List.subset_cons_self _ _)
  | _, .spread wellFormed => by
      rw [Argument.outline]
      exact .node (.head _) (.cons wellFormed.hasType .nil)

theorem Property.WellFormed.hasType : ∀ {p : Property}, p.WellFormed k →
    HasType (IsChainTarget k.optional) (.node (.privateIdentifier :: expressionClasses)) p.outline
  | _, .name => by
      rw [Property.outline]
      exact (HasType.named _).widen (by decide)
  | _, .privateName => by
      rw [Property.outline]
      exact .node (.head _) (.cons .text .nil)
  | _, .computed wellFormed => by
      rw [Property.outline]
      exact wellFormed.hasType.widen (List.subset_cons_self _ _)

theorem Pattern.WellFormed.hasType : ∀ {p : Pattern}, p.WellFormed k →
    HasType (IsChainTarget k.optional) pattern p.outline
  | _, .identifier => by
      rw [Pattern.outline]
      exact (HasType.named _).widen (by decide)
  | _, .object properties => by
      rw [Pattern.outline, propertyOutlines_eq_map]
      exact .node (by decide)
        (.cons (.many_map fun p member => (properties p member).hasType) .nil)
  | _, .array elements => by
      rw [Pattern.outline, patternOutlines_eq_map]
      exact .node (by decide) (.cons (.many_map fun p member => (elements p member).hasType) .nil)
  | _, .rest argument => by
      rw [Pattern.outline]
      exact .node (by decide) (.cons argument.hasType .nil)
  | _, .withDefault left right => by
      rw [Pattern.outline]
      exact .node (by decide) (.cons left.hasType (.cons right.hasType .nil))
  | _, .member (.member object property) => by
      rw [Pattern.outline, Expr.outline]
      exact .node (by decide) (.cons object.hasType (.cons property.hasType (.cons .flag .nil)))
  | _, .chain _ known => by
      rw [Pattern.outline, Expr.outline]
      exact .besides (.chain known (by decide))
  | _, .unsupported _ => by
      rw [Pattern.outline]
      exact .node (by decide) (.cons .text (.cons .number .nil))

theorem PatternProperty.WellFormed.hasType : ∀ {p : PatternProperty}, p.WellFormed k →
    HasType (IsChainTarget k.optional) (.node [.patternProperty, .restElement]) p.outline
  | _, .pair value => by
      rw [PatternProperty.outline]
      exact .node (.head _) (.cons .text (.cons value.hasType .nil))
  | _, .rest argument => by
      rw [PatternProperty.outline]
      exact .node (.tail _ (.head _)) (.cons argument.hasType .nil)

end

end Expressions

section Statements

variable {k : Knowledge}

theorem optionalExpression_hasType {e? : Option Expr} (each : ∀ e ∈ e?, Expr.WellFormed k e) :
    HasType (IsChainTarget k.optional) (.optional expression) (optionalExpression e?) := by
  refine .orAbsent ?_
  intro o found
  obtain ⟨e, present, rfl⟩ := Option.map_eq_some_iff.mp found
  exact (each e present).hasType

theorem optionalName_hasType (name? : Option String) :
    HasType (IsChainTarget k.optional) (.optional (.node [.identifier])) (optionalName name?) := by
  refine .orAbsent ?_
  intro o found
  obtain ⟨name, _, rfl⟩ := Option.map_eq_some_iff.mp found
  exact .named name

theorem Declarator.WellFormed.hasType {v : Declarator} (wellFormed : v.WellFormed k) :
    HasType (IsChainTarget k.optional) (.node [.variableDeclarator]) v.outline :=
  .node (.head _)
    (.cons wellFormed.id.hasType (.cons (optionalExpression_hasType wellFormed.init) .nil))

theorem VariableDeclaration.WellFormed.hasType {d : VariableDeclaration}
    (wellFormed : d.WellFormed k) :
    HasType (IsChainTarget k.optional) (.node [.variableDeclaration]) d.outline :=
  .node (.head _) (.cons .text
    (.cons (.many_map fun v member => (wellFormed.declarators v member).hasType) .nil))

theorem ForInit.WellFormed.hasType {init : ForInit} (wellFormed : init.WellFormed k) :
    HasType (IsChainTarget k.optional) (.optional (.node (.variableDeclaration :: expressionClasses)))
      init.outline := by
  cases wellFormed with
  | none => exact .absent
  | declaration wellFormed => exact .present (wellFormed.hasType.widen (by decide))
  | expr wellFormed => exact .present (wellFormed.hasType.widen (List.subset_cons_self _ _))

theorem ForTarget.WellFormed.hasType {left : ForTarget} (wellFormed : left.WellFormed k) :
    HasType (IsChainTarget k.optional) target left.outline := by
  cases wellFormed with
  | declaration id =>
      refine .node (.head _) (.cons .text (.cons (.many ?_) .nil))
      intro o member
      cases List.mem_singleton.mp member
      exact .node (.head _) (.cons id.hasType (.cons .absent .nil))
  | pattern wellFormed => exact wellFormed.hasType.widen (List.subset_cons_self _ _)

theorem Statement.WellFormed.hasType {s : Statement} (wellFormed : s.WellFormed k) :
    HasType (IsChainTarget k.optional) statement s.outline := by
  induction wellFormed with
  | function _ params _ bodyIH =>
      rw [Statement.outline, statementOutlines_eq_map]
      exact .node (by decide) (.cons (optionalName_hasType _)
        (.cons (.many_map fun p member => (params p member).hasType)
          (.cons (.node (.head _) (.cons (.many_map bodyIH) .nil)) (.cons .flag (.cons .flag .nil)))))
  | block _ bodyIH =>
      rw [Statement.outline, statementOutlines_eq_map]
      exact .node (by decide) (.cons (.many_map bodyIH) .nil)
  | doWhile _ test bodyIH =>
      rw [Statement.outline]
      exact .node (by decide) (.cons bodyIH (.cons test.hasType .nil))
  | expression e =>
      rw [Statement.outline]
      exact .node (by decide) (.cons e.hasType .nil)
  | «for» init test update _ bodyIH =>
      rw [Statement.outline]
      exact .node (by decide) (.cons init.hasType (.cons (optionalExpression_hasType test)
        (.cons (optionalExpression_hasType update) (.cons bodyIH .nil))))
  | forIn left right _ bodyIH =>
      rw [Statement.outline]
      exact .node (by decide) (.cons left.hasType (.cons right.hasType (.cons bodyIH .nil)))
  | forOf left right _ bodyIH =>
      rw [Statement.outline]
      exact .node (by decide)
        (.cons left.hasType (.cons right.hasType (.cons bodyIH (.cons .flag .nil))))
  | «if» test _ _ consequentIH alternateIH =>
      rw [Statement.outline, alternateOutline_eq_orAbsent]
      refine .node (by decide) (.cons test.hasType (.cons consequentIH (.cons (.orAbsent ?_) .nil)))
      intro o found
      obtain ⟨s, present, rfl⟩ := Option.map_eq_some_iff.mp found
      exact alternateIH s present
  | labeled _ bodyIH =>
      rw [Statement.outline]
      exact .node (by decide) (.cons (.named _) (.cons bodyIH .nil))
  | «return» argument =>
      rw [Statement.outline]
      exact .node (by decide) (.cons (optionalExpression_hasType argument) .nil)
  | declaration d =>
      rw [Statement.outline]
      exact d.hasType.widen (by decide)
  | «while» test _ bodyIH =>
      rw [Statement.outline]
      exact .node (by decide) (.cons test.hasType (.cons bodyIH .nil))
  | «break» =>
      rw [Statement.outline]
      exact .node (by decide) (.cons (optionalName_hasType _) .nil)
  | «continue» =>
      rw [Statement.outline]
      exact .node (by decide) (.cons (optionalName_hasType _) .nil)
  | debugger =>
      rw [Statement.outline]
      exact .node (by decide) .nil
  | empty =>
      rw [Statement.outline]
      exact .node (by decide) .nil
  | unsupported _ _ _ nestedIH =>
      rw [Statement.outline, statementOutlines_eq_map]
      exact .node (by decide) (.cons .text (.cons .number (.cons (.many_map nestedIH) .nil)))

end Statements

theorem Program.WellFormed.hasType {k : Knowledge} {p : Program} (wellFormed : p.WellFormed k) :
    HasType (IsChainTarget k.optional) (.node [.program]) p.outline :=
  .node (.head _) (.cons (.many_map fun s member => (wellFormed s member).hasType) .nil)

/-- The program of a script holds in every field what is declared for it, but for optional chains that
something is assigned to; without optional chains it does so everywhere. -/
theorem parseWith_conforms {read : String → Node} {text fileName : String} {p : Program}
    (accepted : parseWith read text fileName = .ok p) :
    p.ConformsButForChains ∧
      (((read text).Everywhere fun n => Lower.isOptionalChain n = false) → p.Conforms) := by
  obtain ⟨-, rfl⟩ := parseWith_eq_ok accepted
  constructor
  · let k : Knowledge := { line := fun _ => True, optional := True, complete := False }
    have agrees : (read text).Everywhere (Node.Agrees k) :=
      .of_forall (fun _ => ⟨trivial, fun _ => trivial, False.elim⟩) _
    exact (Lower.program_wellFormed agrees).hasType
  · intro plain
    let k : Knowledge := { line := fun _ => True, optional := False, complete := False }
    have agrees : (read text).Everywhere (Node.Agrees k) :=
      plain.mono fun n notChain => ⟨trivial, fun isChain => by simp [notChain] at isChain, False.elim⟩
    exact (Lower.program_wellFormed agrees).hasType.mono nofun

section Targets

open Node (branch leaf word)

/-- The concrete tree of an assignment, given its text and the tree of what is assigned to. -/
def assignmentTree (text : String) (target : Node) : Node :=
  branch "program" none 0 (text ++ " = 1;") [
    branch "expression_statement" none 0 (text ++ " = 1;") [
      branch "assignment_expression" none 0 (text ++ " = 1")
        [target, word none 0 "=", leaf "number" (some "right") 0 "1"],
      word none 0 ";"]]

def memberTree (text : String) (link : Node) : Node :=
  branch "member_expression" (some "left") 0 text
    [leaf "identifier" (some "object") 0 "a", link, leaf "property_identifier" (some "property") 0 "b"]

def plainTree : Node := assignmentTree "a.b" (memberTree "a.b" (word none 0 "."))

def optionalTree : Node :=
  assignmentTree "a?.b" (memberTree "a?.b" (leaf "optional_chain" (some "optional_chain") 0 "?."))

/-- Reads an assignment to a member, with or without an optional link. -/
def readAssignment (text : String) : Node := if text = "a.b = 1;" then plainTree else optionalTree

def assignmentTo (target : Expr) : Program where
  body := [.expression (.assign "=" (.target target) (.literal "1"))]

def plainTarget : Program := assignmentTo (.member (.expr (.identifier "a")) (.name "b"))

def optionalTarget : Program := assignmentTo (.unsupported "ChainExpression" 1)

theorem program_assignmentTree {text : String} {target : Node} (isTarget : target.IsPart (some "left"))
    (isMember : target.kind = "member_expression") :
    Lower.program (assignmentTree text target) = assignmentTo (Lower.expression target) := by
  have parts : (assignmentTree text target).parts =
      [branch "expression_statement" none 0 (text ++ " = 1;") [
        branch "assignment_expression" none 0 (text ++ " = 1")
          [target, word none 0 "=", leaf "number" (some "right") 0 "1"],
        word none 0 ";"]] := rfl
  rw [Lower.program, parts, List.map_singleton, Lower.statement_expression ⟨rfl, rfl, rfl⟩,
    Lower.expression_assignment isTarget ⟨rfl, rfl, rfl⟩,
    Lower.pattern_reference (.inl isMember), Lower.expression_number]
  rfl

theorem parseWith_plain : parseWith readAssignment "a.b = 1;" anonymous = .ok plainTarget := by
  have has : plainTree.Everywhere Node.HasParts := .of_forall_mem (by decide)
  refine (parseWith_of_hasParts rfl has).trans (congrArg Except.ok ?_)
  rw [show readAssignment "a.b = 1;" = plainTree from rfl, plainTree,
    program_assignmentTree ⟨rfl, rfl, rfl⟩ rfl, memberTree,
    Lower.expression_member ⟨rfl, rfl, rfl⟩ (.head _), Lower.expression_identifier]
  rfl

theorem parseWith_optional : parseWith readAssignment "a?.b = 1;" anonymous = .ok optionalTarget := by
  have has : optionalTree.Everywhere Node.HasParts := .of_forall_mem (by decide)
  refine (parseWith_of_hasParts rfl has).trans (congrArg Except.ok ?_)
  rw [show readAssignment "a?.b = 1;" = optionalTree from rfl, optionalTree,
    program_assignmentTree ⟨rfl, rfl, rfl⟩ rfl, Lower.expression, Lower.isOptionalChain]
  rfl

theorem plainTree_unlinked : plainTree.Everywhere fun n => Lower.isOptionalChain n = false := by
  have other {n : Node} (noChain : Lower.isChain n.kind = false)
      (below : ∀ c ∈ n.children, c.Everywhere fun n => Lower.isOptionalChain n = false) :
      n.Everywhere fun n => Lower.isOptionalChain n = false := by
    refine .intro ?_ below
    rw [Lower.isOptionalChain, noChain]
    rfl
  have target : (memberTree "a.b" (word none 0 ".")).Everywhere
      fun n => Lower.isOptionalChain n = false := by
    refine .intro (Lower.not_isOptionalChain (by simp [memberTree])
      (by simp [memberTree, Lower.operandKinds])) ?_
    simp only [memberTree, Node.children_mk, List.forall_mem_cons]
    exact ⟨other rfl (List.forall_mem_nil _), other rfl (List.forall_mem_nil _),
      other rfl (List.forall_mem_nil _), List.forall_mem_nil _⟩
  refine other rfl (List.forall_mem_singleton.mpr (other rfl ?_))
  simp only [Node.children_mk, List.forall_mem_cons]
  refine ⟨other rfl ?_, other rfl (List.forall_mem_nil _), List.forall_mem_nil _⟩
  simp only [Node.children_mk, List.forall_mem_cons]
  exact ⟨target, other rfl (List.forall_mem_nil _), other rfl (List.forall_mem_nil _), List.forall_mem_nil _⟩

/-- An assignment to a member and one behind an optional link. -/
theorem parseWith_conforms_assignments :
    (parseWith readAssignment "a.b = 1;" anonymous = .ok plainTarget ∧ plainTarget.Conforms) ∧
      (parseWith readAssignment "a?.b = 1;" anonymous = .ok optionalTarget ∧
        optionalTarget.ConformsButForChains) :=
  ⟨⟨parseWith_plain, (parseWith_conforms parseWith_plain).2 plainTree_unlinked⟩,
    parseWith_optional, (parseWith_conforms parseWith_optional).1⟩

/-- What an assignment has on its left need not be a pattern. -/
theorem not_conforms_optionalTarget :
    parseWith readAssignment "a?.b = 1;" anonymous = .ok optionalTarget ∧
      ¬ optionalTarget.Conforms := by
  refine ⟨parseWith_optional, ?_⟩
  intro conforms
  obtain ⟨_, fields⟩ := conforms.of_node nofun
  have statement := fields.first.of_many _ (.head _)
  obtain ⟨_, fields⟩ := statement.of_node nofun
  obtain ⟨_, fields⟩ := fields.first.of_node nofun
  obtain ⟨isPattern, _⟩ := fields.rest.first.of_node nofun
  exact absurd isPattern (by decide)

end Targets

end SketchSurvey.Script

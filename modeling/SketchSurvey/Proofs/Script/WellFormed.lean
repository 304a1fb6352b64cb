import SketchSurvey.Proofs.Script.Whole

/-! What lowering promises of a program beyond what the kinds of its parts say: a pattern that is assigned
to is a member or an optional chain, an operator that may leave its right side out is a placeholder,
and so on. -/

set_option autoImplicit false

namespace SketchSurvey.Script

/-- A node and all that are below it have a property. -/
inductive Node.Everywhere (P : Node → Prop) : Node → Prop where
  | intro {n} : P n → (∀ c ∈ n.children, Node.Everywhere P c) → Node.Everywhere P n

theorem Node.Everywhere.own {P : Node → Prop} {n : Node} (all : n.Everywhere P) : P n := by
  cases all with
  | intro own _ => exact own

theorem Node.Everywhere.child {P : Node → Prop} {n c : Node} (all : n.Everywhere P)
    (member : c ∈ n.children) : c.Everywhere P := by
  cases all with
  | intro _ below => exact below c member

theorem Node.Everywhere.of_forall {P : Node → Prop} (each : ∀ n, P n) (n : Node) : n.Everywhere P :=
  .intro (each n) fun c _ => of_forall each c
termination_by sizeOf n
decreasing_by exact Node.sizeOf_lt_of_mem (by assumption)

theorem Node.Everywhere.mono {P Q : Node → Prop} (implies : ∀ n, P n → Q n) {n : Node}
    (all : n.Everywhere P) : n.Everywhere Q := by
  induction all with
  | intro own _ ih => exact .intro (implies _ own) ih

/-- What is known of a concrete tree. -/
structure Knowledge where
  /-- The lines that its nodes can have. -/
  line : Nat → Prop
  /-- Whether a link of a chain can be optional. -/
  optional : Prop
  /-- Whether all is there that the grammar never leaves out. -/
  complete : Prop

section WellFormed

variable (k : Knowledge)

mutual

inductive Expr.WellFormed : Expr → Prop where
  | assign {operator left right} : Pattern.WellFormed left → Expr.WellFormed right →
      Expr.WellFormed (.assign operator left right)
  | binary {operator left right} : Lower.isLogical operator = false → Expr.WellFormed left →
      Expr.WellFormed right → Expr.WellFormed (.binary operator left right)
  | call {callee arguments} : Receiver.WellFormed callee →
      (∀ a ∈ arguments, Argument.WellFormed a) → Expr.WellFormed (.call callee arguments)
  | member {object property} : Receiver.WellFormed object → Property.WellFormed property →
      Expr.WellFormed (.member object property)
  | identifier {name} : Expr.WellFormed (.identifier name)
  | literal {raw} : Expr.WellFormed (.literal raw)
  | unsupported {kind line} : k.line line → Expr.WellFormed (.unsupported kind line)

inductive Receiver.WellFormed : Receiver → Prop where
  | super : Receiver.WellFormed .super
  | expr {e} : Expr.WellFormed e → Receiver.WellFormed (.expr e)

inductive Argument.WellFormed : Argument → Prop where
  | expr {e} : Expr.WellFormed e → Argument.WellFormed (.expr e)
  | spread {e} : Expr.WellFormed e → Argument.WellFormed (.spread e)

inductive Property.WellFormed : Property → Prop where
  | name {name} : Property.WellFormed (.name name)
  | privateName {name} : Property.WellFormed (.privateName name)
  | computed {e} : Expr.WellFormed e → Property.WellFormed (.computed e)

inductive Pattern.WellFormed : Pattern → Prop where
  | identifier {name} : Pattern.WellFormed (.identifier name)
  | object {properties} : (∀ p ∈ properties, PatternProperty.WellFormed p) →
      Pattern.WellFormed (.object properties)
  | array {elements} : (∀ p ∈ elements, Pattern.WellFormed p) → Pattern.WellFormed (.array elements)
  | rest {argument} : Pattern.WellFormed argument → Pattern.WellFormed (.rest argument)
  | withDefault {left right} : Pattern.WellFormed left → Expr.WellFormed right →
      Pattern.WellFormed (.withDefault left right)
  | member {object property} : Expr.WellFormed (.member object property) →
      Pattern.WellFormed (.target (.member object property))
  /-- What is assigned to is lowered as an expression, also where it is no member. -/
  | chain {line} : k.line line → k.optional → Pattern.WellFormed (.target (.unsupported "ChainExpression" line))
  | unsupported {kind line} : k.line line → Pattern.WellFormed (.unsupported kind line)

inductive PatternProperty.WellFormed : PatternProperty → Prop where
  | pair {key value} : Pattern.WellFormed value → PatternProperty.WellFormed (.pair key value)
  | rest {argument} : Pattern.WellFormed argument → PatternProperty.WellFormed (.rest argument)

end

structure Declarator.WellFormed (v : Declarator) : Prop where
  id : v.id.WellFormed k
  init : ∀ e ∈ v.init, Expr.WellFormed k e

structure VariableDeclaration.WellFormed (d : VariableDeclaration) : Prop where
  nonempty : k.complete → d.declarations ≠ []
  declarators : ∀ v ∈ d.declarations, Declarator.WellFormed k v

inductive ForInit.WellFormed : ForInit → Prop where
  | none : ForInit.WellFormed .none
  | declaration {d} : d.WellFormed k → ForInit.WellFormed (.declaration d)
  | expr {e} : e.WellFormed k → ForInit.WellFormed (.expr e)

inductive ForTarget.WellFormed : ForTarget → Prop where
  | declaration {kind id} : Pattern.WellFormed k id →
      ForTarget.WellFormed (.declaration { kind, declarations := [{ id, init := none }] })
  | pattern {p} : p.WellFormed k → ForTarget.WellFormed (.pattern p)

/-- The placeholders that keep the statements inside. -/
def nestingKinds : List String := ["TryStatement", "SwitchStatement", "WithStatement"]

inductive Statement.WellFormed : Statement → Prop where
  | function {id params body isAsync isGenerator} : (k.complete → id.isSome) →
      (∀ p ∈ params, Pattern.WellFormed k p) → (∀ s ∈ body, Statement.WellFormed s) →
      Statement.WellFormed (.function id params body isAsync isGenerator)
  | block {body} : (∀ s ∈ body, Statement.WellFormed s) → Statement.WellFormed (.block body)
  | doWhile {body test} : Statement.WellFormed body → test.WellFormed k →
      Statement.WellFormed (.doWhile body test)
  | expression {e} : e.WellFormed k → Statement.WellFormed (.expression e)
  | for {init test update body} : init.WellFormed k →
      (∀ e ∈ test, Expr.WellFormed k e) → (∀ e ∈ update, Expr.WellFormed k e) →
      Statement.WellFormed body → Statement.WellFormed (.for init test update body)
  | forIn {left right body} : left.WellFormed k → right.WellFormed k →
      Statement.WellFormed body → Statement.WellFormed (.forIn left right body)
  | forOf {left right body isAwait} : left.WellFormed k → right.WellFormed k →
      Statement.WellFormed body → Statement.WellFormed (.forOf left right body isAwait)
  | if {test consequent alternate} : test.WellFormed k → Statement.WellFormed consequent →
      (∀ s ∈ alternate, Statement.WellFormed s) →
      Statement.WellFormed (.if test consequent alternate)
  | labeled {label body} : Statement.WellFormed body → Statement.WellFormed (.labeled label body)
  | return {argument} : (∀ e ∈ argument, Expr.WellFormed k e) →
      Statement.WellFormed (.return argument)
  | declaration {d} : d.WellFormed k → Statement.WellFormed (.declaration d)
  | while {test body} : test.WellFormed k → Statement.WellFormed body →
      Statement.WellFormed (.while test body)
  | break {label} : Statement.WellFormed (.break label)
  | continue {label} : Statement.WellFormed (.continue label)
  | debugger : Statement.WellFormed .debugger
  | empty : Statement.WellFormed .empty
  | unsupported {kind line nested} : k.line line → (nested ≠ [] → kind ∈ nestingKinds) →
      (∀ s ∈ nested, Statement.WellFormed s) →
      Statement.WellFormed (.unsupported kind line nested)

end WellFormed

/-- The parts that the grammar never leaves out and that declarations need: the name of a function and a
declarator. -/
structure Node.IsComplete (n : Node) : Prop where
  name : n.kind = "function_declaration" ∨ n.kind = "generator_function_declaration" →
    (n.part? "name").isSome
  declarator : Lower.isDeclaration n.kind = true → ∃ c ∈ n.parts, c.kind = "variable_declarator"

structure Node.Agrees (k : Knowledge) (n : Node) : Prop where
  line : k.line n.line
  optional : Lower.isOptionalChain n = true → k.optional
  complete : k.complete → n.IsComplete

/-- What a node lowers to is well-formed, whatever it is lowered as. -/
structure Lower.Keeps (k : Knowledge) (n : Node) : Prop where
  expression : (Lower.expression n).WellFormed k
  pattern : (Lower.pattern n).WellFormed k
  property : (Lower.patternProperty n).WellFormed k
  argument : (Lower.argument n).WellFormed k

namespace Lower

section Keeps

variable {k : Knowledge} {n : Node}

theorem expressionAt_wellFormed (below : ∀ c ∈ n.children, c.Everywhere (Keeps k))
    (field : String) : (expressionAt n field).WellFormed k := by
  rw [expressionAt]
  split
  · next e found => exact (below e (Node.mem_of_part? found)).own.expression
  · exact .identifier

theorem receiverAt_wellFormed (below : ∀ c ∈ n.children, c.Everywhere (Keeps k))
    (field : String) : (receiverAt n field).WellFormed k := by
  rw [receiverAt]
  split
  · next e found =>
      split
      · exact .super
      · exact .expr (below e (Node.mem_of_part? found)).own.expression
  · exact .expr .identifier

theorem patternAt_wellFormed (below : ∀ c ∈ n.children, c.Everywhere (Keeps k))
    (field : String) : (patternAt n field).WellFormed k := by
  rw [patternAt]
  split
  · next p found => exact (below p (Node.mem_of_part? found)).own.pattern
  · exact .identifier

theorem expression_wellFormed (agrees : n.Agrees k)
    (below : ∀ c ∈ n.children, c.Everywhere (Keeps k)) : (expression n).WellFormed k := by
  rw [expression]
  split
  · split
    · next e found => exact (below e (Node.mem_of_firstPart? found)).own.expression
    · exact .identifier
  · exact .identifier
  · exact .identifier
  · exact .assign (patternAt_wellFormed below "left") (expressionAt_wellFormed below "right")
  · exact .assign (patternAt_wellFormed below "left") (expressionAt_wellFormed below "right")
  · simp only
    split
    · exact .unsupported agrees.line
    · next notLogical =>
        exact .binary (Bool.eq_false_iff.mpr notLogical) (expressionAt_wellFormed below "left")
          (expressionAt_wellFormed below "right")
  · -- A call. One that is optional, tagged or an import has a placeholder.
    split
    · exact .unsupported agrees.line
    · split
      · next list found =>
          split
          · exact .unsupported agrees.line
          · split
            · exact .unsupported agrees.line
            · refine .call (receiverAt_wellFormed below "function") ?_
              intro a member
              simp only [List.mem_map, List.mem_attach, true_and, Subtype.exists] at member
              obtain ⟨c, isPart, rfl⟩ := member
              exact ((below list (Node.mem_of_part? found)).child
                (Node.mem_of_mem_parts isPart)).own.argument
      · exact .identifier
  · -- A member that is named, then one in brackets.
    split
    · exact .unsupported agrees.line
    · refine .member (receiverAt_wellFormed below "object") ?_
      split
      · split
        · exact .privateName
        · exact .name
      · exact .name
  · split
    · exact .unsupported agrees.line
    · exact .member (receiverAt_wellFormed below "object")
        (.computed (expressionAt_wellFormed below "index"))
  · split
    · exact .literal
    · exact .unsupported agrees.line

/-- A member is lowered as a member unless a link of its chain is optional. -/
theorem expression_of_member (isMember : n.kind = "member_expression" ∨ n.kind = "subscript_expression") :
    isOptionalChain n = true ∧ expression n = .unsupported "ChainExpression" n.line ∨
      ∃ object property, expression n = .member object property := by
  rcases isMember with same | same
  · rw [expression]
    simp only [same]
    split
    · next isChain => exact .inl ⟨isChain, rfl⟩
    · exact .inr ⟨_, _, rfl⟩
  · rw [expression]
    simp only [same]
    split
    · next isChain => exact .inl ⟨isChain, rfl⟩
    · exact .inr ⟨_, _, rfl⟩

theorem target_wellFormed (isMember : n.kind = "member_expression" ∨ n.kind = "subscript_expression")
    (agrees : n.Agrees k) (below : ∀ c ∈ n.children, c.Everywhere (Keeps k)) :
    Pattern.WellFormed k (.target (expression n)) := by
  have wellFormed := expression_wellFormed agrees below
  rcases expression_of_member isMember with ⟨isChain, same⟩ | ⟨object, property, isMember⟩
  · rw [same]
    exact .chain agrees.line (agrees.optional isChain)
  · rw [isMember] at wellFormed ⊢
    exact .member wellFormed

theorem pattern_wellFormed (agrees : n.Agrees k)
    (below : ∀ c ∈ n.children, c.Everywhere (Keeps k)) : (pattern n).WellFormed k := by
  rw [pattern]
  split
  · exact .identifier
  · exact .identifier
  · exact .identifier
  · refine .object ?_
    intro p member
    simp only [List.mem_map, List.mem_attach, true_and, Subtype.exists] at member
    obtain ⟨c, isPart, rfl⟩ := member
    exact (below c (Node.mem_of_mem_parts isPart)).own.property
  · refine .array ?_
    intro p member
    simp only [List.mem_map, List.mem_attach, true_and, Subtype.exists] at member
    obtain ⟨c, isPart, rfl⟩ := member
    exact (below c (Node.mem_of_mem_parts isPart)).own.pattern
  · split
    · next p found => exact .rest (below p (Node.mem_of_firstPart? found)).own.pattern
    · exact .rest .identifier
  · exact .withDefault (patternAt_wellFormed below "left") (expressionAt_wellFormed below "right")
  · next isMember => exact target_wellFormed (.inl isMember) agrees below
  · next isMember => exact target_wellFormed (.inr isMember) agrees below
  · split
    · next p found => exact (below p (Node.mem_of_firstPart? found)).own.pattern
    · exact .identifier
  · exact .unsupported agrees.line

theorem patternProperty_wellFormed (agrees : n.Agrees k)
    (below : ∀ c ∈ n.children, c.Everywhere (Keeps k)) :
    (patternProperty n).WellFormed k := by
  rw [patternProperty]
  split
  · exact .pair (patternAt_wellFormed below "value")
  · exact .pair (.withDefault (patternAt_wellFormed below "left")
      (expressionAt_wellFormed below "right"))
  · split
    · next p found => exact .rest (below p (Node.mem_of_firstPart? found)).own.pattern
    · exact .rest .identifier
  · exact .pair (pattern_wellFormed agrees below)

theorem argument_wellFormed (agrees : n.Agrees k)
    (below : ∀ c ∈ n.children, c.Everywhere (Keeps k)) : (argument n).WellFormed k := by
  rw [argument]
  split
  · split
    · next e found => exact .spread (below e (Node.mem_of_firstPart? found)).own.expression
    · exact .spread .identifier
  · exact .expr (expression_wellFormed agrees below)

theorem everywhere_keeps (agrees : n.Everywhere (Node.Agrees k)) : n.Everywhere (Keeps k) := by
  induction agrees with
  | intro own _ ih =>
      refine .intro ?_ ih
      constructor
      · exact expression_wellFormed own ih
      · exact pattern_wellFormed own ih
      · exact patternProperty_wellFormed own ih
      · exact argument_wellFormed own ih

end Keeps

section Statements

variable {k : Knowledge} {n : Node}

/-- What is known of a node whose statements are lowered. -/
structure Sound (k : Knowledge) (n : Node) : Prop where
  agrees : n.Agrees k
  keeps : Keeps k n

theorem everywhere_sound (agrees : n.Everywhere (Node.Agrees k)) : n.Everywhere (Sound k) := by
  have keeps := everywhere_keeps agrees
  induction agrees with
  | intro own _ ih =>
      refine .intro ⟨own, keeps.own⟩ ?_
      intro c member
      exact ih c member (keeps.child member)

theorem optionalExpressionAt_wellFormed (below : n.Everywhere (Sound k))
    (field : String) : ∀ e ∈ optionalExpressionAt n field, e.WellFormed k := by
  intro e found
  obtain ⟨c, isPart, rfl⟩ := Option.map_eq_some_iff.mp found
  exact (below.child (Node.mem_of_part? isPart)).own.keeps.expression

theorem declarator_wellFormed (all : n.Everywhere (Sound k)) :
    (declarator n).WellFormed k where
  id := patternAt_wellFormed (fun _ member => (all.child member).mono fun _ => Sound.keeps) "name"
  init := optionalExpressionAt_wellFormed all "value"

theorem variableDeclaration_wellFormed (all : n.Everywhere (Sound k))
    (declares : isDeclaration n.kind = true) :
    (variableDeclaration n).WellFormed k := by
  constructor
  · intro holds
    obtain ⟨c, isPart, isDeclarator⟩ := (all.own.agrees.complete holds).declarator declares
    have member : c ∈ n.parts.filter fun c => c.kind == "variable_declarator" :=
      List.mem_filter.mpr ⟨isPart, beq_iff_eq.mpr isDeclarator⟩
    exact List.ne_nil_of_mem (List.mem_map_of_mem member)
  · intro v member
    obtain ⟨c, isPart, rfl⟩ := List.mem_map.mp member
    exact declarator_wellFormed (all.child (Node.mem_of_mem_parts (List.mem_filter.mp isPart).1))

theorem clauseExpression_wellFormed (all : n.Everywhere (Sound k)) :
    (clauseExpression n).WellFormed k := by
  rw [clauseExpression]
  split
  · cases found : n.firstPart? with
    | none => exact .identifier
    | some e => exact (all.child (Node.mem_of_firstPart? found)).own.keeps.expression
  · exact all.own.keeps.expression

theorem forClause?_mem {field : String} {c : Node} (found : forClause? n field = some c) :
    c ∈ n.children :=
  Node.mem_of_part? (Option.filter_eq_some_iff.mp found).1

theorem forInit_wellFormed (all : n.Everywhere (Sound k)) :
    (forInit n).WellFormed k := by
  rw [forInit]
  split
  · exact .none
  · next c found =>
      split
      · next declares =>
          exact .declaration (variableDeclaration_wellFormed (all.child (forClause?_mem found)) declares)
      · exact .expr (clauseExpression_wellFormed (all.child (forClause?_mem found)))

theorem forTarget_wellFormed (all : n.Everywhere (Sound k)) :
    (forTarget n).WellFormed k := by
  have left : (patternAt n "left").WellFormed k :=
    patternAt_wellFormed (fun _ member => (all.child member).mono fun _ => Sound.keeps) "left"
  rw [forTarget]
  split
  · exact .declaration left
  · exact .pattern left

theorem statementAt_wellFormed
    (below : ∀ c ∈ n.children, c.Everywhere fun c => (statement c).WellFormed k)
    (field : String) : (statementAt n field).WellFormed k := by
  rw [statementAt]
  split
  · next s found => exact (below s (Node.mem_of_part? found)).own
  · exact .empty

theorem block_wellFormed
    (below : ∀ c ∈ n.children, c.Everywhere fun c => (statement c).WellFormed k) :
    ∀ s ∈ block n, s.WellFormed k := by
  rw [block]
  intro s member
  simp only [List.mem_map, List.mem_attach, true_and, Subtype.exists] at member
  obtain ⟨c, isPart, rfl⟩ := member
  exact (below c (Node.mem_of_mem_parts isPart)).own

theorem tryBlocks_everywhere {P : Node → Prop} (below : ∀ c ∈ n.children, c.Everywhere P) :
    ∀ c ∈ tryBlocks n, c.Everywhere P := by
  intro c member
  simp only [tryBlocks, List.mem_append, Option.mem_toList, Option.bind_eq_some_iff] at member
  rcases member with (found | ⟨d, isHandler, found⟩) | ⟨d, isFinalizer, found⟩
  · exact below c (Node.mem_of_part? found)
  · exact (below d (Node.mem_of_part? isHandler)).child (Node.mem_of_part? found)
  · exact (below d (Node.mem_of_part? isFinalizer)).child (Node.mem_of_part? found)

theorem caseStatements_everywhere {P : Node → Prop} (below : ∀ c ∈ n.children, c.Everywhere P) :
    ∀ c ∈ caseStatements n, c.Everywhere P := by
  intro c member
  obtain ⟨d, isCase, found⟩ := List.mem_flatMap.mp member
  cases hasBody : n.part? "body" with
  | none => simp [hasBody] at isCase
  | some b =>
      simp only [hasBody, Option.elim_some] at isCase
      exact ((below b (Node.mem_of_part? hasBody)).child (Node.mem_of_mem_parts isCase)).child
        (Node.mem_of_mem_partsOf found)

theorem elsePart?_everywhere {P : Node → Prop} (below : ∀ c ∈ n.children, c.Everywhere P)
    {c : Node} (found : elsePart? n = some c) : c.Everywhere P := by
  obtain ⟨a, isAlternative, found⟩ := Option.bind_eq_some_iff.mp found
  split at found
  · exact (below a (Node.mem_of_part? isAlternative)).child (Node.mem_of_firstPart? found)
  · cases found
    exact below _ (Node.mem_of_part? isAlternative)

theorem parameters_wellFormed (all : n.Everywhere (Sound k)) :
    ∀ p ∈ ((n.part? "parameters").elim [] Node.parts).map pattern, Pattern.WellFormed k p := by
  intro p member
  obtain ⟨c, isParameter, rfl⟩ := List.mem_map.mp member
  cases found : n.part? "parameters" with
  | none => simp [found] at isParameter
  | some list =>
      simp only [found, Option.elim_some] at isParameter
      exact ((all.child (Node.mem_of_part? found)).child
        (Node.mem_of_mem_parts isParameter)).own.keeps.pattern

theorem firstPart?_wellFormed (all : n.Everywhere (Sound k)) :
    ∀ e ∈ n.firstPart?.map expression, Expr.WellFormed k e := by
  intro e found
  obtain ⟨c, isFirst, rfl⟩ := Option.map_eq_some_iff.mp found
  exact (all.child (Node.mem_of_firstPart? isFirst)).own.keeps.expression

theorem functionName_isSome (all : n.Everywhere (Sound k))
    (isFunction : n.kind = "function_declaration" ∨ n.kind = "generator_function_declaration")
    (holds : k.complete) : ((n.part? "name").map Node.text).isSome := by
  rw [Option.isSome_map]
  exact (all.own.agrees.complete holds).name isFunction

theorem placeholder_wellFormed (all : n.Everywhere (Sound k)) {kind : String}
    {nodes : List Node} (nests : kind ∈ nestingKinds)
    (inside : ∀ c ∈ nodes, c.Everywhere fun c => (statement c).WellFormed k) :
    Statement.WellFormed k
      (.unsupported kind n.line (nodes.attach.map fun ⟨c, _⟩ => statement c)) := by
  refine .unsupported all.own.agrees.line (fun _ => nests) ?_
  intro s member
  simp only [List.mem_map, List.mem_attach, true_and, Subtype.exists] at member
  obtain ⟨c, isInside, rfl⟩ := member
  exact (inside c isInside).own

theorem statement_wellFormed (all : n.Everywhere (Sound k))
    (below : ∀ c ∈ n.children, c.Everywhere fun c => (statement c).WellFormed k) :
    (statement n).WellFormed k := by
  have keeps : ∀ c ∈ n.children, c.Everywhere (Keeps k) :=
    fun _ member => (all.child member).mono fun _ => Sound.keeps
  have first := firstPart?_wellFormed all
  have body : ∀ b, n.part? "body" = some b → ∀ s ∈ block b, s.WellFormed k :=
    fun b found => block_wellFormed fun _ => (below b (Node.mem_of_part? found)).child
  rw [statement]
  split
  · next isFunction =>
      refine .function (functionName_isSome all (.inl isFunction)) (parameters_wellFormed all) ?_
      split
      · next b found => exact body b found
      · exact List.forall_mem_nil _
  · next isFunction =>
      refine .function (functionName_isSome all (.inr isFunction)) (parameters_wellFormed all) ?_
      split
      · next b found => exact body b found
      · exact List.forall_mem_nil _
  · exact .block (block_wellFormed below)
  · refine .expression ?_
    cases found : n.firstPart?.map expression with
    | none => exact .identifier
    | some e => exact first e found
  · exact .doWhile (statementAt_wellFormed below "body") (expressionAt_wellFormed keeps "condition")
  · exact .while (expressionAt_wellFormed keeps "condition") (statementAt_wellFormed below "body")
  · refine .for (forInit_wellFormed all) ?_ (optionalExpressionAt_wellFormed all "increment")
      (statementAt_wellFormed below "body")
    intro e found
    obtain ⟨c, isTest, rfl⟩ := Option.map_eq_some_iff.mp found
    exact clauseExpression_wellFormed (all.child (forClause?_mem isTest))
  · split
    · exact .forOf (forTarget_wellFormed all) (expressionAt_wellFormed keeps "right")
        (statementAt_wellFormed below "body")
    · exact .forIn (forTarget_wellFormed all) (expressionAt_wellFormed keeps "right")
        (statementAt_wellFormed below "body")
  · refine .if (expressionAt_wellFormed keeps "condition")
      (statementAt_wellFormed below "consequence") ?_
    split
    · next a found =>
        intro s same
        cases same
        exact (elsePart?_everywhere below found).own
    · intro s impossible
      cases impossible
  · exact .labeled (statementAt_wellFormed below "body")
  · exact .return first
  · exact .break
  · exact .continue
  · exact .debugger
  · exact .empty
  · next isVar =>
      exact .declaration (variableDeclaration_wellFormed all (by rw [isVar]; rfl))
  · next isLexical =>
      exact .declaration (variableDeclaration_wellFormed all (by rw [isLexical]; rfl))
  · exact placeholder_wellFormed all (.head _) (tryBlocks_everywhere below)
  · exact placeholder_wellFormed all (.tail _ (.head _)) (caseStatements_everywhere below)
  · exact placeholder_wellFormed all (.tail _ (.tail _ (.head _)))
      fun b found => below b (Node.mem_of_part? (Option.mem_toList.mp found))
  · exact .unsupported all.own.agrees.line (fun nonempty => absurd rfl nonempty)
      (List.forall_mem_nil _)

/-- Every node of a tree is lowered to a well-formed statement. -/
theorem everywhere_statement_wellFormed (all : n.Everywhere (Sound k)) :
    n.Everywhere fun c => (statement c).WellFormed k := by
  induction all with
  | intro own rest ih => exact .intro (statement_wellFormed (.intro own rest) ih) ih

end Statements

end Lower

def Program.WellFormed (k : Knowledge) (p : Program) : Prop := ∀ s ∈ p.body, s.WellFormed k

theorem Lower.program_wellFormed {k : Knowledge} {root : Node}
    (agrees : root.Everywhere (Node.Agrees k)) : (Lower.program root).WellFormed k := by
  have all := Lower.everywhere_statement_wellFormed (Lower.everywhere_sound agrees)
  intro s member
  obtain ⟨c, isPart, rfl⟩ := List.mem_map.mp member
  exact (all.child (Node.mem_of_mem_parts isPart)).own

end SketchSurvey.Script

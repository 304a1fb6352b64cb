import SketchSurvey.Proofs.Script.WellFormed

/-! Lowering gives what a tree stands for, or fails because a part is missing. It never fails of a tree
that has the parts the grammar never leaves out. -/

set_option autoImplicit false

namespace SketchSurvey.Script

/-- The parts that the lowering of a node of a kind asks for. The grammar never leaves them out. -/
def neededFields (kind : String) : List String :=
  match kind with
  | "assignment_expression" | "augmented_assignment_expression" => ["left", "right"]
  | "binary_expression" => ["operator", "left", "right"]
  | "call_expression" => ["function", "arguments"]
  | "member_expression" => ["object", "property"]
  | "subscript_expression" => ["object", "index"]
  | "assignment_pattern" | "object_assignment_pattern" => ["left", "right"]
  | "pair_pattern" => ["key", "value"]
  | "variable_declarator" => ["name"]
  | "function_declaration" | "generator_function_declaration" => ["body"]
  | "do_statement" | "while_statement" => ["condition", "body"]
  | "for_statement" => ["body"]
  | "for_in_statement" => ["left", "right", "body"]
  | "if_statement" => ["condition", "consequence"]
  | "labeled_statement" => ["label", "body"]
  | "switch_statement" => ["body"]
  | _ => []

/-- The kinds that always hold something. -/
def fullKinds : List String :=
  ["parenthesized_expression", "spread_element", "rest_pattern", "expression_statement", "else_clause"]

/-- A node has the parts that the grammar never leaves out. -/
structure Node.HasParts (n : Node) : Prop where
  fields : ∀ field ∈ neededFields n.kind, (n.part? field).isSome
  first : n.kind ∈ fullKinds → n.firstPart?.isSome

instance (n : Node) : Decidable n.HasParts :=
  decidable_of_iff ((∀ field ∈ neededFields n.kind, (n.part? field).isSome) ∧
      (n.kind ∈ fullKinds → n.firstPart?.isSome))
    ⟨fun ⟨fields, first⟩ => ⟨fields, first⟩, fun ⟨fields, first⟩ => ⟨fields, first⟩⟩

namespace Lowering

/-- A lowering gives nothing but `a`, and it gives that of a whole tree. -/
structure Yields {α : Type} (whole : Prop) (x : Lowered α) (a : α) : Prop where
  agrees : ∀ {r}, x = .ok r → r = a
  succeeds : whole → ∃ r, x = .ok r

namespace Yields

variable {α β : Type} {whole : Prop}

theorem ok (a : α) : Yields whole (.ok a) a where
  agrees same := (Except.ok.inj same).symm
  succeeds _ := ⟨a, rfl⟩

theorem missing {asked : String} {a : α} (lacks : ¬ whole) : Yields whole (missing asked) a where
  agrees := nofun
  succeeds isWhole := absurd isWhole lacks

theorem bind {x : Lowered α} {next : α → Lowered β} {a : α} {b : β} (first : Yields whole x a)
    (second : Yields whole (next a) b) : Yields whole (x >>= next) b where
  agrees := by
    intro r given
    cases x with
    | error p => cases given
    | ok value =>
        cases first.agrees rfl
        exact second.agrees given
  succeeds isWhole := by
    obtain ⟨value, given⟩ := first.succeeds isWhole
    cases first.agrees given
    obtain ⟨r, after⟩ := second.succeeds isWhole
    exact ⟨r, by rw [given]; exact after⟩

theorem map {x : Lowered α} {a : α} (f : α → β) (given : Yields whole x a) :
    Yields whole (do return f (← x)) (f a) :=
  given.bind (.ok _)

theorem mapM {f : α → Lowered β} {g : α → β} {items : List α}
    (each : ∀ item ∈ items, Yields whole (f item) (g item)) :
    Yields whole (items.mapM f) (items.map g) := by
  induction items with
  | nil => exact .ok []
  | cons item rest ih =>
      rw [List.mapM_cons]
      have rests := ih fun i member => each i (.tail _ member)
      exact (each item (.head _)).bind (rests.bind (.ok _))

theorem optionMapM {f : α → Lowered β} {g : α → β} {item? : Option α}
    (each : ∀ item ∈ item?, Yields whole (f item) (g item)) :
    Yields whole (item?.mapM f) (item?.map g) := by
  cases item? with
  | none => exact .ok none
  | some item => exact (each item rfl).bind (.ok _)

end Yields

section Parts

variable {whole : Prop} {n : Node} {kind field : String}

/-- A whole tree has the part that a kind needs. -/
theorem needs (has : whole → n.HasParts) (same : n.kind = kind)
    (needed : field ∈ neededFields kind := by decide) : whole → (n.part? field).isSome :=
  fun isWhole => (has isWhole).fields field (same ▸ needed)

theorem needsFirst (has : whole → n.HasParts) (same : n.kind = kind)
    (full : kind ∈ fullKinds := by decide) : whole → n.firstPart?.isSome :=
  fun isWhole => (has isWhole).first (same ▸ full)

/-- A tree is not whole if it lacks what it needs. -/
theorem not_whole {part? : Option Node} (needs : whole → part?.isSome) (absent : part? = none) :
    ¬ whole := by
  intro isWhole
  rw [absent] at needs
  cases needs isWhole

theorem textAt_yields (needs : whole → (n.part? field).isSome) :
    Yields whole (textAt n field) (((n.part? field).map Node.text).getD "") := by
  rw [textAt]
  cases found : n.part? field with
  | none => exact .missing (not_whole needs found)
  | some p => exact .ok _

end Parts

/-- What a node is lowered to, whatever it is lowered as. -/
structure Follows (whole : Prop) (n : Node) : Prop where
  expression : Yields whole (expression n) (Lower.expression n)
  pattern : Yields whole (pattern n) (Lower.pattern n)
  property : Yields whole (patternProperty n) (Lower.patternProperty n)
  argument : Yields whole (argument n) (Lower.argument n)

section Follows

variable {whole : Prop} {n : Node}

theorem firstExpression_yields (below : ∀ c ∈ n.children, c.Everywhere (Follows whole))
    (needs : whole → n.firstPart?.isSome) :
    Yields whole (firstExpression n) ((n.firstPart?.map Lower.expression).getD default) := by
  rw [firstExpression]
  split
  · next e found =>
      rw [found]
      exact (below e (Node.mem_of_firstPart? found)).own.expression
  · next absent => exact .missing (not_whole needs absent)

theorem firstPattern_yields (below : ∀ c ∈ n.children, c.Everywhere (Follows whole))
    (needs : whole → n.firstPart?.isSome) :
    Yields whole (firstPattern n) ((n.firstPart?.map Lower.pattern).getD default) := by
  rw [firstPattern]
  split
  · next p found =>
      rw [found]
      exact (below p (Node.mem_of_firstPart? found)).own.pattern
  · next absent => exact .missing (not_whole needs absent)

theorem expressionAt_yields {field : String} (below : ∀ c ∈ n.children, c.Everywhere (Follows whole))
    (needs : whole → (n.part? field).isSome) :
    Yields whole (expressionAt n field) (Lower.expressionAt n field) := by
  rw [expressionAt]
  split
  · next e found =>
      rw [Lower.expressionAt_eq field found]
      exact (below e (Node.mem_of_part? found)).own.expression
  · next absent => exact .missing (not_whole needs absent)

theorem patternAt_yields {field : String} (below : ∀ c ∈ n.children, c.Everywhere (Follows whole))
    (needs : whole → (n.part? field).isSome) :
    Yields whole (patternAt n field) (Lower.patternAt n field) := by
  rw [patternAt]
  split
  · next p found =>
      rw [Lower.patternAt_eq field found]
      exact (below p (Node.mem_of_part? found)).own.pattern
  · next absent => exact .missing (not_whole needs absent)

theorem receiverAt_yields {field : String} (below : ∀ c ∈ n.children, c.Everywhere (Follows whole))
    (needs : whole → (n.part? field).isSome) :
    Yields whole (receiverAt n field) (Lower.receiverAt n field) := by
  rw [receiverAt]
  split
  · next e found =>
      rw [Lower.receiverAt_eq_ite field found]
      split
      · exact .ok _
      · exact (below e (Node.mem_of_part? found)).own.expression.map _
  · next absent => exact .missing (not_whole needs absent)

theorem memberName_yields (needs : whole → (n.part? "property").isSome) :
    Yields whole (memberName n)
      (match n.part? "property" with
        | some p =>
          if p.kind == "private_property_identifier" then
            .privateName (String.ofList (p.text.toList.dropWhile (· == '#')))
          else .name p.text
        | none => .name "") := by
  rw [memberName]
  cases found : n.part? "property" with
  | none => exact .missing (not_whole needs found)
  | some p => exact .ok _

theorem expression_yields (has : whole → n.HasParts)
    (below : ∀ c ∈ n.children, c.Everywhere (Follows whole)) :
    Yields whole (expression n) (Lower.expression n) := by
  rw [expression]
  split
  · next same =>
      have first := firstExpression_yields below (needsFirst has same)
      rw [Lower.expression]
      simp only [same]
      split
      · next e found => rwa [found] at first
      · next absent => rwa [absent] at first
  · next same =>
      rw [Lower.expression]
      simp only [same]
      exact .ok _
  · next same =>
      rw [Lower.expression]
      simp only [same]
      exact .ok _
  · next same =>
      rw [Lower.expression]
      simp only [same]
      exact (patternAt_yields below (needs has same)).bind
        ((expressionAt_yields below (needs has same)).map _)
  · next same =>
      rw [Lower.expression]
      simp only [same]
      exact (patternAt_yields below (needs has same)).bind
        ((expressionAt_yields below (needs has same)).map _)
  · next same =>
      rw [Lower.expression]
      simp only [same]
      refine (textAt_yields (needs has same)).bind ?_
      split
      · exact .ok _
      · exact (expressionAt_yields below (needs has same)).bind
          ((expressionAt_yields below (needs has same)).map _)
  · -- A call. What is optional, tagged or an import needs nothing that is inside.
    next same =>
      have isCallee : whole → (n.part? "function").isSome := needs has same
      split
      · next isChain =>
          rw [Lower.expression]
          simp only [same]
          rw [if_pos isChain]
          exact .ok _
      · next noChain =>
        split
        · next list found =>
            rw [Lower.expression_of_call same noChain found]
            split
            · exact .ok _
            · split
              · next absent => exact .missing (not_whole isCallee (Option.isNone_iff_eq_none.mp absent))
              · split
                · exact .ok _
                · refine Yields.bind (.mapM ?_) ((receiverAt_yields below isCallee).map _)
                  rintro ⟨a, isPart⟩ _
                  exact ((below list (Node.mem_of_part? found)).child
                    (Node.mem_of_mem_parts isPart)).own.argument
        · next absent => exact .missing (not_whole (needs has same) absent)
  · next same =>
      rw [Lower.expression]
      simp only [same]
      split
      · exact .ok _
      · exact (memberName_yields (needs has same)).bind
          ((receiverAt_yields below (needs has same)).map _)
  · next same =>
      rw [Lower.expression]
      simp only [same]
      split
      · exact .ok _
      · exact (receiverAt_yields below (needs has same)).bind
          ((expressionAt_yields below (needs has same)).map _)
  · rw [Lower.expression]
    simp only [*]
    exact .ok _

theorem pattern_yields (has : whole → n.HasParts)
    (below : ∀ c ∈ n.children, c.Everywhere (Follows whole)) :
    Yields whole (pattern n) (Lower.pattern n) := by
  rw [pattern]
  split
  · next same =>
      rw [Lower.pattern]
      simp only [same]
      exact .ok _
  · next same =>
      rw [Lower.pattern]
      simp only [same]
      exact .ok _
  · next same =>
      rw [Lower.pattern]
      simp only [same]
      exact .ok _
  · next same =>
      rw [Lower.pattern]
      simp only [same]
      refine (Yields.mapM ?_).map _
      rintro ⟨c, isPart⟩ _
      exact (below c (Node.mem_of_mem_parts isPart)).own.property
  · next same =>
      rw [Lower.pattern]
      simp only [same]
      refine (Yields.mapM ?_).map _
      rintro ⟨c, isPart⟩ _
      exact (below c (Node.mem_of_mem_parts isPart)).own.pattern
  · next same =>
      have first := (firstPattern_yields below (needsFirst has same)).map Pattern.rest
      rw [Lower.pattern]
      simp only [same]
      split
      · next p found => rwa [found] at first
      · next absent => rwa [absent] at first
  · next same =>
      rw [Lower.pattern]
      simp only [same]
      exact (patternAt_yields below (needs has same)).bind
        ((expressionAt_yields below (needs has same)).map _)
  · next same =>
      rw [Lower.pattern]
      simp only [same]
      exact (expression_yields has below).map _
  · next same =>
      rw [Lower.pattern]
      simp only [same]
      exact (expression_yields has below).map _
  · next same =>
      have first := firstPattern_yields below (needsFirst has same)
      rw [Lower.pattern]
      simp only [same]
      split
      · next p found => rwa [found] at first
      · next absent => rwa [absent] at first
  · rw [Lower.pattern]
    simp only [*]
    exact .ok _

theorem patternProperty_yields (has : whole → n.HasParts)
    (below : ∀ c ∈ n.children, c.Everywhere (Follows whole)) :
    Yields whole (patternProperty n) (Lower.patternProperty n) := by
  rw [patternProperty]
  split
  · next same =>
      rw [Lower.patternProperty]
      simp only [same]
      exact (textAt_yields (needs has same)).bind ((patternAt_yields below (needs has same)).map _)
  · next same =>
      rw [Lower.patternProperty]
      simp only [same]
      exact (textAt_yields (needs has same)).bind ((patternAt_yields below (needs has same)).bind
        ((expressionAt_yields below (needs has same)).map _))
  · next same =>
      have first := (firstPattern_yields below (needsFirst has same)).map PatternProperty.rest
      rw [Lower.patternProperty]
      simp only [same]
      split
      · next p found => rwa [found] at first
      · next absent => rwa [absent] at first
  · rw [Lower.patternProperty]
    simp only [*]
    exact (pattern_yields has below).map _

theorem argument_yields (has : whole → n.HasParts)
    (below : ∀ c ∈ n.children, c.Everywhere (Follows whole)) :
    Yields whole (argument n) (Lower.argument n) := by
  rw [argument, Lower.argument]
  split
  · next isSpread =>
      have first := (firstExpression_yields below (needsFirst has (eq_of_beq isSpread))).map
        Argument.spread
      split
      · next e found => rwa [found] at first
      · next absent => rwa [absent] at first
  · exact (expression_yields has below).map _

theorem everywhere_follows (has : n.Everywhere fun c => whole → c.HasParts) :
    n.Everywhere (Follows whole) := by
  induction has with
  | intro own _ ih =>
      refine .intro ?_ ih
      constructor
      · exact expression_yields own ih
      · exact pattern_yields own ih
      · exact patternProperty_yields own ih
      · exact argument_yields own ih

end Follows

section Statements

variable {whole : Prop} {n : Node}

/-- What is known of a node whose statements are lowered. -/
structure Prepared (whole : Prop) (n : Node) : Prop where
  has : whole → n.HasParts
  follows : Follows whole n

theorem everywhere_prepared (has : n.Everywhere fun c => whole → c.HasParts) :
    n.Everywhere (Prepared whole) := by
  have follows := everywhere_follows has
  induction has with
  | intro own _ ih =>
      refine .intro ⟨own, follows.own⟩ ?_
      intro c member
      exact ih c member (follows.child member)

theorem Prepared.below (all : n.Everywhere (Prepared whole)) :
    ∀ c ∈ n.children, c.Everywhere (Follows whole) :=
  fun _ member => (all.child member).mono fun _ => Prepared.follows

theorem optionalExpressionAt_yields (all : n.Everywhere (Prepared whole)) (field : String) :
    Yields whole (optionalExpressionAt n field) (Lower.optionalExpressionAt n field) :=
  .optionMapM fun _ found => (all.child (Node.mem_of_part? found)).own.follows.expression

theorem declarator_yields (all : n.Everywhere (Prepared whole))
    (isDeclarator : n.kind = "variable_declarator") :
    Yields whole (declarator n) (Lower.declarator n) :=
  (patternAt_yields (Prepared.below all) (needs all.own.has isDeclarator)).bind
    ((optionalExpressionAt_yields all "value").map _)

theorem variableDeclaration_yields (all : n.Everywhere (Prepared whole)) :
    Yields whole (variableDeclaration n) (Lower.variableDeclaration n) := by
  refine (Yields.mapM ?_).map _
  intro c member
  obtain ⟨isPart, isDeclarator⟩ := List.mem_filter.mp member
  exact declarator_yields (all.child (Node.mem_of_mem_parts isPart)) (eq_of_beq isDeclarator)

theorem clauseExpression_yields (all : n.Everywhere (Prepared whole)) :
    Yields whole (clauseExpression n) (Lower.clauseExpression n) := by
  rw [clauseExpression, Lower.clauseExpression]
  split
  · next isStatement =>
      exact firstExpression_yields (Prepared.below all) (needsFirst all.own.has (eq_of_beq isStatement))
  · exact all.own.follows.expression

theorem forInit_yields (all : n.Everywhere (Prepared whole)) :
    Yields whole (forInit n) (Lower.forInit n) := by
  rw [forInit, Lower.forInit]
  cases found : Lower.forClause? n "initializer" with
  | none => exact .ok _
  | some c =>
      have inside := all.child (Lower.forClause?_mem found)
      dsimp only
      split
      · exact (variableDeclaration_yields inside).map _
      · exact (clauseExpression_yields inside).map _

theorem forTarget_yields (all : n.Everywhere (Prepared whole))
    (needs : whole → (n.part? "left").isSome) :
    Yields whole (forTarget n) (Lower.forTarget n) := by
  refine (patternAt_yields (Prepared.below all) needs).bind ?_
  rw [Lower.forTarget]
  cases Lower.declarationKind? n with
  | none => exact .ok _
  | some kind => exact .ok _

theorem parameters_yields (all : n.Everywhere (Prepared whole)) :
    Yields whole (((n.part? "parameters").elim [] Node.parts).mapM pattern)
      (((n.part? "parameters").elim [] Node.parts).map Lower.pattern) := by
  refine .mapM fun c isParameter => ?_
  cases found : n.part? "parameters" with
  | none => simp [found] at isParameter
  | some list =>
      simp only [found, Option.elim_some] at isParameter
      exact ((all.child (Node.mem_of_part? found)).child
        (Node.mem_of_mem_parts isParameter)).own.follows.pattern

/-- What a node is lowered to as a statement. -/
def FollowsAsStatement (whole : Prop) (n : Node) : Prop :=
  Yields whole (statement n) (Lower.statement n)

theorem attached_yields {nodes : List Node}
    (inside : ∀ c ∈ nodes, c.Everywhere (FollowsAsStatement whole)) :
    Yields whole (nodes.attach.mapM fun ⟨c, _⟩ => statement c)
      (nodes.attach.map fun ⟨c, _⟩ => Lower.statement c) :=
  .mapM fun c _ => (inside c.1 c.2).own

theorem statementAt_yields {field : String}
    (below : ∀ c ∈ n.children, c.Everywhere (FollowsAsStatement whole))
    (needs : whole → (n.part? field).isSome) :
    Yields whole (statementAt n field) (Lower.statementAt n field) := by
  rw [statementAt]
  split
  · next s found =>
      rw [Lower.statementAt_eq field found]
      exact (below s (Node.mem_of_part? found)).own
  · next absent => exact .missing (not_whole needs absent)

theorem block_yields (below : ∀ c ∈ n.children, c.Everywhere (FollowsAsStatement whole)) :
    Yields whole (block n) (Lower.block n) := by
  rw [block, Lower.block]
  exact attached_yields fun c isPart => below c (Node.mem_of_mem_parts isPart)

theorem blockAt_yields {field : String}
    (below : ∀ c ∈ n.children, c.Everywhere (FollowsAsStatement whole))
    (needs : whole → (n.part? field).isSome) :
    Yields whole (blockAt n field) (((n.part? field).map Lower.block).getD []) := by
  rw [blockAt]
  split
  · next b found =>
      rw [found]
      exact block_yields fun _ => (below b (Node.mem_of_part? found)).child
  · next absent => exact .missing (not_whole needs absent)

/-- An `else` holds a statement in a whole tree. -/
theorem elsePart?_isSome (all : n.Everywhere (Prepared whole))
    (present : (n.part? "alternative").isSome) : whole → (Lower.elsePart? n).isSome := by
  intro isWhole
  obtain ⟨a, found⟩ := Option.isSome_iff_exists.mp present
  rw [Lower.elsePart?, found, Option.bind_some]
  split
  · next isElse =>
      have holds := needsFirst (all.child (Node.mem_of_part? found)).own.has (eq_of_beq isElse)
      exact holds isWhole
  · rfl

theorem alternate_yields (all : n.Everywhere (Prepared whole))
    (below : ∀ c ∈ n.children, c.Everywhere (FollowsAsStatement whole)) :
    Yields whole (alternate n) ((Lower.elsePart? n).map Lower.statement) := by
  rw [alternate]
  split
  · next s found =>
      rw [found]
      exact Yields.map _ (Lower.elsePart?_everywhere below found).own
  · next absent =>
      split
      · next present => exact .missing (not_whole (elsePart?_isSome all present) absent)
      · rw [absent]
        exact .ok _

theorem statement_yields (all : n.Everywhere (Prepared whole))
    (below : ∀ c ∈ n.children, c.Everywhere (FollowsAsStatement whole)) :
    FollowsAsStatement whole n := by
  have has := all.own.has
  have inside := Prepared.below all
  rw [FollowsAsStatement, statement]
  split
  · next same =>
      have holds : whole → (n.part? "body").isSome := needs has same
      have body := blockAt_yields below holds
      rw [Lower.statement]
      simp only [same]
      refine (parameters_yields all).bind (Yields.map _ ?_)
      split
      · next b found => rwa [found] at body
      · next absent => rwa [absent] at body
  · next same =>
      have holds : whole → (n.part? "body").isSome := needs has same
      have body := blockAt_yields below holds
      rw [Lower.statement]
      simp only [same]
      refine (parameters_yields all).bind (Yields.map _ ?_)
      split
      · next b found => rwa [found] at body
      · next absent => rwa [absent] at body
  · next same =>
      rw [Lower.statement]
      simp only [same]
      exact (block_yields below).map _
  · next same =>
      rw [Lower.statement]
      simp only [same]
      exact (firstExpression_yields inside (needsFirst has same)).map _
  · next same =>
      rw [Lower.statement]
      simp only [same]
      exact (statementAt_yields below (needs has same)).bind
        ((expressionAt_yields inside (needs has same)).map _)
  · next same =>
      rw [Lower.statement]
      simp only [same]
      exact (expressionAt_yields inside (needs has same)).bind
        ((statementAt_yields below (needs has same)).map _)
  · next same =>
      rw [Lower.statement]
      simp only [same]
      have test : Yields whole ((Lower.forClause? n "condition").mapM clauseExpression)
          ((Lower.forClause? n "condition").map Lower.clauseExpression) :=
        .optionMapM fun _ found => clauseExpression_yields (all.child (Lower.forClause?_mem found))
      exact (forInit_yields all).bind (test.bind
        ((optionalExpressionAt_yields all "increment").bind
          ((statementAt_yields below (needs has same)).map _)))
  · next same =>
      rw [Lower.statement]
      simp only [same]
      refine (forTarget_yields all (needs has same)).bind
        ((expressionAt_yields inside (needs has same)).bind
          ((statementAt_yields below (needs has same)).bind ?_))
      split
      · exact .ok _
      · exact .ok _
  · next same =>
      rw [Lower.statement]
      simp only [same]
      refine (alternate_yields all below).bind ((expressionAt_yields inside (needs has same)).bind
        ((statementAt_yields below (needs has same)).bind ?_))
      split
      · next s found =>
          rw [found]
          exact .ok _
      · next absent =>
          rw [absent]
          exact .ok _
  · next same =>
      rw [Lower.statement]
      simp only [same]
      exact (textAt_yields (needs has same)).bind ((statementAt_yields below (needs has same)).map _)
  · next same =>
      rw [Lower.statement]
      simp only [same]
      exact (Yields.optionMapM fun _ found =>
        (all.child (Node.mem_of_firstPart? found)).own.follows.expression).map _
  · next same =>
      rw [Lower.statement]
      simp only [same]
      exact .ok _
  · next same =>
      rw [Lower.statement]
      simp only [same]
      exact .ok _
  · next same =>
      rw [Lower.statement]
      simp only [same]
      exact .ok _
  · next same =>
      rw [Lower.statement]
      simp only [same]
      exact .ok _
  · next same =>
      rw [Lower.statement]
      simp only [same]
      exact (variableDeclaration_yields all).map _
  · next same =>
      rw [Lower.statement]
      simp only [same]
      exact (variableDeclaration_yields all).map _
  · next same =>
      rw [Lower.statement]
      simp only [same]
      exact (attached_yields (Lower.tryBlocks_everywhere below)).map _
  · next same =>
      rw [Lower.statement]
      simp only [same]
      split
      · next absent =>
          exact .missing (not_whole (needs has same) (Option.isNone_iff_eq_none.mp absent))
      · exact (attached_yields (Lower.caseStatements_everywhere below)).map _
  · next same =>
      rw [Lower.statement]
      simp only [same]
      exact (attached_yields fun b found =>
        below b (Node.mem_of_part? (Option.mem_toList.mp found))).map _
  · rw [Lower.statement]
    simp only [*]
    exact .ok _

theorem everywhere_followsAsStatement (all : n.Everywhere (Prepared whole)) :
    n.Everywhere (FollowsAsStatement whole) := by
  induction all with
  | intro own rest ih => exact .intro (statement_yields (.intro own rest) ih) ih

end Statements

theorem program_yields {whole : Prop} {root : Node}
    (has : root.Everywhere fun c => whole → c.HasParts) :
    Yields whole (program root) (Lower.program root) := by
  have all := everywhere_followsAsStatement (everywhere_prepared has)
  exact (Yields.mapM fun c isPart => (all.child (Node.mem_of_mem_parts isPart)).own).map _

/-- A tree is lowered to nothing but what it stands for. -/
theorem eq_of_program {root : Node} {p : Program} (lowered : program root = .ok p) :
    Lower.program root = p := by
  have lacking : root.Everywhere fun c => False → c.HasParts := .of_forall (fun _ => False.elim) root
  exact ((program_yields lacking).agrees lowered).symm

/-- A tree with all its parts is lowered to what it stands for. -/
theorem program_of_hasParts {root : Node} (has : root.Everywhere Node.HasParts) :
    program root = .ok (Lower.program root) := by
  obtain ⟨p, lowered⟩ := (program_yields (has.mono fun _ own (_ : True) => own)).succeeds trivial
  rw [lowered, eq_of_program lowered]

end Lowering

section Parse

variable {read : String → Node} {text fileName : String} {p : Program}

theorem parseWith_eq_ok_iff : parseWith read text fileName = .ok p ↔
    (read text).hasError = false ∧ Lowering.program (read text) = .ok p := by
  rw [parseWith]
  split
  · next faulty => simp [faulty]
  · next correct =>
      cases Lowering.program (read text) with
      | ok q =>
          change Except.ok q = Except.ok p ↔ _ ∧ Except.ok q = Except.ok p
          simp [correct]
      | error lacking =>
          change Except.error (ParseProblem.missingPart lacking) = _ ↔ _ ∧ Except.error lacking = _
          simp

/-- What is accepted has a tree without an error, and the program is what that stands for. -/
theorem parseWith_eq_ok (accepted : parseWith read text fileName = .ok p) :
    (read text).hasError = false ∧ Lower.program (read text) = p :=
  (parseWith_eq_ok_iff.mp accepted).imp_right Lowering.eq_of_program

/-- A tree without an error that has all its parts is accepted. -/
theorem parseWith_of_hasParts (correct : (read text).hasError = false)
    (has : (read text).Everywhere Node.HasParts) :
    parseWith read text fileName = .ok (Lower.program (read text)) :=
  parseWith_eq_ok_iff.mpr ⟨correct, Lowering.program_of_hasParts has⟩

end Parse

end SketchSurvey.Script

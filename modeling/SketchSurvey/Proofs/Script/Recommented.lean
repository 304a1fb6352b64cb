import SketchSurvey.Proofs.Script.Comments
import SketchSurvey.Script.Lowering

/-! What trees are lowered to that differ in comments only: programs that differ in spelling only, or
nothing because the same is missing. -/

set_option autoImplicit false

namespace SketchSurvey.Script

open Node (commentKinds tokenParts Matched Spells)

/-- Two lowerings fail alike, or what they give is related. -/
inductive Lowering.Related {α β : Type} (R : α → β → Prop) : Lowered α → Lowered β → Prop where
  | ok {a b} : R a b → Lowering.Related R (.ok a) (.ok b)
  | error {p} : Lowering.Related R (.error p) (.error p)

namespace Lowering.Related

variable {α β γ δ : Type} {R : α → β → Prop} {S : γ → δ → Prop}

theorem bind {x : Lowered α} {y : Lowered β} {next : α → Lowered γ} {next' : β → Lowered δ}
    (first : Related R x y) (second : ∀ {a b}, R a b → Related S (next a) (next' b)) :
    Related S (x >>= next) (y >>= next') := by
  cases first with
  | ok related => exact second related
  | error => exact .error

theorem map {x : Lowered α} {y : Lowered β} {f : α → γ} {g : β → δ} (given : Related R x y)
    (maps : ∀ {a b}, R a b → S (f a) (g b)) :
    Related S (do return f (← x)) (do return g (← y)) :=
  given.bind fun related => .ok (maps related)

theorem mapM {T : α → β → Prop} {f : α → Lowered γ} {g : β → Lowered δ} {xs : List α} {ys : List β}
    (related : List.Forall₂ T xs ys) (maps : ∀ {a b}, T a b → Related S (f a) (g b)) :
    Related (List.Forall₂ S) (xs.mapM f) (ys.mapM g) := by
  induction related with
  | nil => exact .ok .nil
  | cons first _ ih =>
      rw [List.mapM_cons, List.mapM_cons]
      exact (maps first).bind fun head => ih.map fun rest => .cons head rest

theorem optionMapM {T : α → β → Prop} {f : α → Lowered γ} {g : β → Lowered δ} {x : Option α} {y : Option β}
    (related : Option.Rel T x y) (maps : ∀ {a b}, T a b → Related S (f a) (g b)) :
    Related (Option.Rel S) (x.mapM f) (y.mapM g) := by
  cases related with
  | none => exact .ok .none
  | some related => exact (maps related).map fun found => .some found

end Lowering.Related

namespace Lower

/-- Lowering goes on with nodes that are found on both sides or on neither. -/
theorem match_related {α β : Type} {R : Node → Node → Prop} {S : α → β → Prop} {x y : Option Node}
    {next : Node → α} {next' : Node → β} {otherwise : α} {otherwise' : β}
    (found : ∀ {c c'}, R c c' → S (next c) (next' c')) (missing : S otherwise otherwise') :
    Option.Rel R x y →
      S (match _h : x with
          | some c => next c
          | none => otherwise)
        (match _h : y with
          | some c => next' c
          | none => otherwise') := by
  intro related
  cases related with
  | none => exact missing
  | some related => exact found related

/-- Whether a chain is optional does not depend on comments. -/
theorem isOptionalChain_same {n n' : Node} (head : n.SameHead n')
    (below : n.MatchedBelow (fun c c' => isOptionalChain c = isOptionalChain c') n') :
    isOptionalChain n = isOptionalChain n' := by
  have links : (n.children.any fun c => c.kind == "optional_chain") =
      n'.children.any fun c => c.kind == "optional_chain" := by
    have other : "optional_chain" ∉ commentKinds := by decide
    rw [n.any_kept other fun _ => beq_iff_eq.mp, n'.any_kept other fun _ => beq_iff_eq.mp]
    exact any_eq below fun same => by rw [same.head.kind]
  rw [isOptionalChain, isOptionalChain, head.kind, links]
  refine ite_congr rfl (fun _ => ite_congr rfl (fun _ => rfl) fun _ => ?_) fun _ => rfl
  exact match_related Matched.own (match_related Matched.own rfl (below.part? "object"))
    (below.part? "function")

section Lookups

variable {P : Node → Node → Prop} {n n' : Node}

theorem declarationKind?_same (below : n.MatchedBelow P n') :
    declarationKind? n = declarationKind? n' := by
  rw [declarationKind?, declarationKind?, Node.findSome?_kept n, Node.findSome?_kept n']
  · exact findSome?_eq below fun same => by rw [same.head.named, same.head.kind]
  all_goals
    intro c isComment
    rw [Node.isComment_iff] at isComment
    split
    · rfl
    · split
      · next same => exact absurd (same ▸ isComment) (by decide)
      · next same => exact absurd (same ▸ isComment) (by decide)
      · next same => exact absurd (same ▸ isComment) (by decide)
      · rfl

theorem forClause?_matched (below : n.MatchedBelow P n') (field : String) :
    Option.Rel (Matched P) (forClause? n field) (forClause? n' field) :=
  Node.rel_filter (fun head => by rw [head.named, head.kind]) (below.part? field)

theorem isOfLoop_same (below : n.MatchedBelow P n') : isOfLoop n = isOfLoop n' := by
  rw [isOfLoop, isOfLoop, below.any_kind "operator" "of", below.hasToken (by decide),
    below.hasToken (by decide)]

theorem tryBlocks_matched (below : n.MatchedBelow P n') :
    List.Forall₂ (Matched P) (tryBlocks n) (tryBlocks n') := by
  have inside (field : String) : List.Forall₂ (Matched P)
      ((n.part? field).bind (·.part? "body")).toList ((n'.part? field).bind (·.part? "body")).toList :=
    rel_toList (rel_bind (below.part? field) fun clause => clause.kept.part? "body")
  exact List.rel_append (List.rel_append (rel_toList (below.part? "body")) (inside "handler"))
    (inside "finalizer")

theorem partsAt_matched (below : n.MatchedBelow P n') (field : String) :
    List.Forall₂ (Matched P) ((n.part? field).elim [] Node.parts) ((n'.part? field).elim [] Node.parts) := by
  have related := below.part? field
  generalize n.part? field = x, n'.part? field = y at related
  cases related with
  | none => exact .nil
  | some found => exact found.kept.parts

theorem caseStatements_matched (below : n.MatchedBelow P n') :
    List.Forall₂ (Matched P) (caseStatements n) (caseStatements n') :=
  List.rel_flatMap (partsAt_matched below "body") fun _ _ isCase => isCase.kept.partsOf "body"

theorem elsePart?_matched (below : n.MatchedBelow P n') :
    Option.Rel (Matched P) (elsePart? n) (elsePart? n') := by
  refine rel_bind (below.part? "alternative") ?_
  intro a a' found
  rw [found.head.kind]
  split
  · exact found.kept.firstPart?
  · exact .some found

end Lookups

end Lower

namespace Lowering

open Lower

theorem mapM_attach {α : Type} (f : Node → Lowered α) (nodes : List Node) :
    (nodes.attach.mapM fun ⟨c, _⟩ => f c) = nodes.mapM f := by
  simp

/-- What two nodes that correspond are lowered to, whatever they are lowered as. -/
structure Agree (k : Spelling) (n n' : Node) : Prop where
  spells : n.Spells k n'
  chain : isOptionalChain n = isOptionalChain n'
  expression : Related (Expr.Alike k) (expression n) (expression n')
  pattern : Related (Pattern.Alike k) (pattern n) (pattern n')
  property : Related (PatternProperty.Alike k) (patternProperty n) (patternProperty n')
  argument : Related (Argument.Alike k) (argument n) (argument n')

section Agree

variable {k : Spelling} {n n' : Node}

theorem firstExpression_related (below : n.MatchedBelow (Agree k) n') :
    Related (Expr.Alike k) (firstExpression n) (firstExpression n') := by
  rw [firstExpression, firstExpression]
  exact match_related (fun same => same.own.expression) .error below.firstPart?

theorem firstPattern_related (below : n.MatchedBelow (Agree k) n') :
    Related (Pattern.Alike k) (firstPattern n) (firstPattern n') := by
  rw [firstPattern, firstPattern]
  exact match_related (fun same => same.own.pattern) .error below.firstPart?

theorem expressionAt_related (below : n.MatchedBelow (Agree k) n') (field : String) :
    Related (Expr.Alike k) (expressionAt n field) (expressionAt n' field) := by
  rw [expressionAt, expressionAt]
  exact match_related (fun same => same.own.expression) .error (below.part? field)

theorem patternAt_related (below : n.MatchedBelow (Agree k) n') (field : String) :
    Related (Pattern.Alike k) (patternAt n field) (patternAt n' field) := by
  rw [patternAt, patternAt]
  exact match_related (fun same => same.own.pattern) .error (below.part? field)

theorem receiverAt_related (below : n.MatchedBelow (Agree k) n') (field : String) :
    Related (Receiver.Alike k) (receiverAt n field) (receiverAt n' field) := by
  rw [receiverAt, receiverAt]
  refine match_related ?_ .error (below.part? field)
  intro e e' same
  rw [same.head.kind]
  split
  · exact .ok .super
  · exact same.own.expression.map .expr

/-- The text of a part that is a token. -/
theorem textAt_same {field : String} (same : (n.part? field).map Node.text = (n'.part? field).map Node.text) :
    textAt n field = textAt n' field := by
  rw [textAt, textAt]
  generalize n.part? field = x, n'.part? field = y at same
  cases x with
  | none =>
      rw [Option.map_eq_none_iff.mp same.symm]
  | some p =>
      obtain ⟨p', rfl, text⟩ := Option.map_eq_some_iff.mp same.symm
      dsimp only
      rw [text]

/-- The text of a part is kept as the key. -/
theorem textAt_related (below : n.MatchedBelow (Agree k) n') (field : String) :
    Related k.key (textAt n field) (textAt n' field) := by
  rw [textAt, textAt]
  have related := below.part? field
  generalize n.part? field = x, n'.part? field = y at related
  cases related with
  | none => exact .error
  | some same => exact .ok same.own.spells.key

theorem memberName_related (isMember : n.kind = "member_expression") (spells : n.Spells k n')
    (below : n.MatchedBelow (Agree k) n') :
    Related (Property.Alike k) (memberName n) (memberName n') := by
  have text := spells.part "property" (by rw [isMember]; decide)
  have related := below.part? "property"
  rw [memberName, memberName]
  generalize n.part? "property" = x, n'.part? "property" = y at text related
  cases related with
  | none => exact .error
  | some same =>
      simp only [same.head.kind, Option.some.inj text]
      split
      · exact .ok .privateName
      · exact .ok .name

theorem expression_related (head : n.SameHead n') (spells : n.Spells k n')
    (chain : isOptionalChain n = isOptionalChain n') (below : n.MatchedBelow (Agree k) n') :
    Related (Expr.Alike k) (expression n) (expression n') := by
  have line : n.line = n'.line := congrArg (· + 1) head.row
  rw [expression.eq_def n, expression.eq_def n', ← head.kind, ← chain, ← line]
  split
  · exact firstExpression_related below
  · next isName =>
      rw [spells.token (by rw [isName]; decide)]
      exact .ok .identifier
  · next isName =>
      rw [spells.token (by rw [isName]; decide)]
      exact .ok .identifier
  · next isAssignment =>
      rw [spells.part "operator" (by rw [isAssignment]; decide)]
      exact (patternAt_related below "left").bind fun left =>
        (expressionAt_related below "right").map fun right => .assign left right
  · next isAssignment =>
      rw [spells.part "operator" (by rw [isAssignment]; decide)]
      exact (patternAt_related below "left").bind fun left =>
        (expressionAt_related below "right").map fun right => .assign left right
  · next isBinary =>
      rw [textAt_same (spells.part "operator" (by rw [isBinary]; decide))]
      cases textAt n' "operator" with
      | error => exact .error
      | ok operator =>
          change Related _ (if _ then _ else _) (if _ then _ else _)
          split
          · exact .ok .unsupported
          · exact (expressionAt_related below "left").bind fun left =>
              (expressionAt_related below "right").map fun right => .binary left right
  · -- A call.
    split
    · exact .ok .unsupported
    · refine match_related ?_ .error (below.part? "arguments")
      intro list list' same
      rw [same.head.kind, below.isNone_part? "function", below.any_kind "function" "import", mapM_attach,
        mapM_attach]
      split
      · exact .ok .unsupported
      · split
        · exact .error
        · split
          · exact .ok .unsupported
          · exact (Related.mapM same.kept.parts fun same => same.own.argument).bind fun arguments =>
              (receiverAt_related below "function").map fun callee => .call callee arguments
  · next isMember =>
      split
      · exact .ok .unsupported
      · exact (memberName_related isMember spells below).bind fun property =>
          (receiverAt_related below "object").map fun object => .member object property
  · split
    · exact .ok .unsupported
    · exact (receiverAt_related below "object").bind fun object =>
        (expressionAt_related below "index").map fun index => .member object (.computed index)
  · split
    · next isLiteral => exact .ok (.literal (spells.literal isLiteral))
    · exact .ok .unsupported

theorem argument_related (head : n.SameHead n') (below : n.MatchedBelow (Agree k) n')
    (lowered : Related (Expr.Alike k) (expression n) (expression n')) :
    Related (Argument.Alike k) (argument n) (argument n') := by
  rw [argument, argument, ← head.kind]
  split
  · exact (firstExpression_related below).map .spread
  · exact lowered.map .expr

theorem pattern_related (head : n.SameHead n') (spells : n.Spells k n')
    (below : n.MatchedBelow (Agree k) n')
    (lowered : Related (Expr.Alike k) (expression n) (expression n')) :
    Related (Pattern.Alike k) (pattern n) (pattern n') := by
  have line : n.line = n'.line := congrArg (· + 1) head.row
  rw [pattern.eq_def n, pattern.eq_def n', ← head.kind, ← line]
  split
  · next isName =>
      rw [spells.token (by rw [isName]; decide)]
      exact .ok .identifier
  · next isName =>
      rw [spells.token (by rw [isName]; decide)]
      exact .ok .identifier
  · next isName =>
      rw [spells.token (by rw [isName]; decide)]
      exact .ok .identifier
  · rw [mapM_attach, mapM_attach]
    exact (Related.mapM below.parts fun same => same.own.property).map .object
  · rw [mapM_attach, mapM_attach]
    exact (Related.mapM below.parts fun same => same.own.pattern).map .array
  · exact (firstPattern_related below).map .rest
  · exact (patternAt_related below "left").bind fun left =>
      (expressionAt_related below "right").map fun right => .withDefault left right
  · exact lowered.map .target
  · exact lowered.map .target
  · exact firstPattern_related below
  · exact .ok .unsupported

theorem patternProperty_related (head : n.SameHead n') (spells : n.Spells k n')
    (below : n.MatchedBelow (Agree k) n')
    (lowered : Related (Pattern.Alike k) (pattern n) (pattern n')) :
    Related (PatternProperty.Alike k) (patternProperty n) (patternProperty n') := by
  rw [patternProperty.eq_def n, patternProperty.eq_def n', ← head.kind]
  split
  · exact (textAt_related below "key").bind fun key =>
      (patternAt_related below "value").map fun value => .pair key value
  · exact (textAt_related below "left").bind fun key =>
      (patternAt_related below "left").bind fun left =>
        (expressionAt_related below "right").map fun right => .pair key (.withDefault left right)
  · exact (firstPattern_related below).map .rest
  · exact lowered.map fun value => .pair spells.key value

theorem agree_of_spells (spells : n.Matched (Spells k) n') : n.Matched (Agree k) n' := by
  refine spells.rise ?_
  intro n n' head spells below
  have chain := isOptionalChain_same head (below.imp fun _ _ same => same.mono Agree.chain)
  have expression := expression_related head spells chain below
  have pattern := pattern_related head spells below expression
  exact {
    spells, chain, expression, pattern
    property := patternProperty_related head spells below pattern
    argument := argument_related head below expression }

end Agree

section Statements

variable {k : Spelling} {n n' : Node}

theorem optionalExpressionAt_related (below : n.MatchedBelow (Agree k) n') (field : String) :
    Related (Option.Rel (Expr.Alike k)) (optionalExpressionAt n field) (optionalExpressionAt n' field) :=
  .optionMapM (below.part? field) fun same => same.own.expression

theorem declarator_related (same : n.Matched (Agree k) n') :
    Related (Declarator.Alike k) (declarator n) (declarator n') :=
  (patternAt_related same.kept "name").bind fun id =>
    (optionalExpressionAt_related same.kept "value").map fun init => ⟨id, init⟩

theorem variableDeclaration_related (below : n.MatchedBelow (Agree k) n') :
    Related (VariableDeclaration.Alike k) (variableDeclaration n) (variableDeclaration n') := by
  rw [variableDeclaration, variableDeclaration, declarationKind?_same below]
  have declarators : List.Forall₂ (Matched (Agree k))
      (n.parts.filter fun c => c.kind == "variable_declarator")
      (n'.parts.filter fun c => c.kind == "variable_declarator") :=
    Node.forall₂_filter (fun head => by rw [head.kind]) below.parts
  exact (Related.mapM declarators declarator_related).map fun declarations => ⟨rfl, declarations⟩

theorem clauseExpression_related (same : n.Matched (Agree k) n') :
    Related (Expr.Alike k) (clauseExpression n) (clauseExpression n') := by
  rw [clauseExpression, clauseExpression, ← same.head.kind]
  split
  · exact firstExpression_related same.kept
  · exact same.own.expression

theorem forInit_related (below : n.MatchedBelow (Agree k) n') :
    Related (ForInit.Alike k) (forInit n) (forInit n') := by
  rw [forInit, forInit]
  have related := forClause?_matched below "initializer"
  generalize forClause? n "initializer" = x, forClause? n' "initializer" = y at related
  cases related with
  | none => exact .ok .none
  | some same =>
      simp only [same.head.kind]
      split
      · exact (variableDeclaration_related same.kept).map .declaration
      · exact (clauseExpression_related same).map .expr

theorem forTarget_related (below : n.MatchedBelow (Agree k) n') :
    Related (ForTarget.Alike k) (forTarget n) (forTarget n') := by
  rw [forTarget, forTarget, ← declarationKind?_same below]
  refine (patternAt_related below "left").bind fun left => ?_
  split
  · exact .ok (.declaration ⟨rfl, .cons ⟨left, .none⟩ .nil⟩)
  · exact .ok (.pattern left)

/-- So do nodes that are lowered as statements. -/
structure AgreeThroughout (k : Spelling) (n n' : Node) : Prop extends Agree k n n' where
  statement : Related (Statement.Alike k) (statement n) (statement n')

theorem statementAt_related (below : n.MatchedBelow (AgreeThroughout k) n') (field : String) :
    Related (Statement.Alike k) (statementAt n field) (statementAt n' field) := by
  rw [statementAt, statementAt]
  exact match_related (fun same => same.own.statement) .error (below.part? field)

theorem statements_related {nodes nodes' : List Node}
    (all : List.Forall₂ (Matched (AgreeThroughout k)) nodes nodes') :
    Related (List.Forall₂ (Statement.Alike k)) (nodes.attach.mapM fun ⟨c, _⟩ => statement c)
      (nodes'.attach.mapM fun ⟨c, _⟩ => statement c) := by
  rw [mapM_attach, mapM_attach]
  exact .mapM all fun same => same.own.statement

theorem block_related (below : n.MatchedBelow (AgreeThroughout k) n') :
    Related (List.Forall₂ (Statement.Alike k)) (block n) (block n') := by
  rw [block, block]
  exact statements_related below.parts

theorem blockAt_related (below : n.MatchedBelow (AgreeThroughout k) n') (field : String) :
    Related (List.Forall₂ (Statement.Alike k)) (blockAt n field) (blockAt n' field) := by
  rw [blockAt, blockAt]
  exact match_related (fun same => block_related same.kept) .error (below.part? field)

theorem alternate_related (below : n.MatchedBelow (AgreeThroughout k) n') :
    Related (Option.Rel (Statement.Alike k)) (alternate n) (alternate n') := by
  rw [alternate, alternate, below.isSome_part? "alternative"]
  refine match_related (fun same => same.own.statement.map .some) ?_ (elsePart?_matched below)
  split
  · exact .error
  · exact .ok .none

theorem function_related
    (isFunction : n.kind = "function_declaration" ∨ n.kind = "generator_function_declaration")
    (spells : n.Spells k n') (all : n.MatchedBelow (AgreeThroughout k) n') :
    Related (Statement.Alike k)
      (do
        let params ← ((n.part? "parameters").elim [] Node.parts).mapM pattern
        let body ← blockAt n "body"
        return .function ((n.part? "name").map Node.text) params body (n.hasToken "async")
          (n.kind == "generator_function_declaration" || n.hasToken "*"))
      (do
        let params ← ((n'.part? "parameters").elim [] Node.parts).mapM pattern
        let body ← blockAt n' "body"
        return .function ((n'.part? "name").map Node.text) params body (n'.hasToken "async")
          (n.kind == "generator_function_declaration" || n'.hasToken "*")) := by
  have named : (n.kind, "name") ∈ tokenParts := by
    rcases isFunction with same | same <;> rw [same] <;> decide
  rw [spells.part "name" named, all.hasToken (by decide : "async" ∉ commentKinds),
    all.hasToken (by decide : "*" ∉ commentKinds)]
  exact (Related.mapM (partsAt_matched all "parameters") fun same => same.own.pattern).bind fun params =>
    (blockAt_related all "body").map fun body => .function params body

theorem statement_related (head : n.SameHead n') (spells : n.Spells k n')
    (all : n.MatchedBelow (AgreeThroughout k) n') :
    Related (Statement.Alike k) (statement n) (statement n') := by
  have line : n.line = n'.line := congrArg (· + 1) head.row
  have below : n.MatchedBelow (Agree k) n' := all.imp fun _ _ same => same.mono AgreeThroughout.toAgree
  rw [statement.eq_def n, statement.eq_def n', ← head.kind, ← line]
  split
  · next isFunction =>
      exact function_related (.inl isFunction) spells all
  · next isFunction =>
      exact function_related (.inr isFunction) spells all
  · exact (block_related all).map .block
  · exact (firstExpression_related below).map .expression
  · exact (statementAt_related all "body").bind fun body =>
      (expressionAt_related below "condition").map fun test => .doWhile body test
  · exact (expressionAt_related below "condition").bind fun test =>
      (statementAt_related all "body").map fun body => .while test body
  · exact (forInit_related below).bind fun init =>
      (Related.optionMapM (forClause?_matched below "condition") clauseExpression_related).bind fun test =>
        (optionalExpressionAt_related below "increment").bind fun update =>
          (statementAt_related all "body").map fun body => .for init test update body
  · rw [isOfLoop_same below, below.hasToken (by decide : "await" ∉ commentKinds)]
    refine (forTarget_related below).bind fun left =>
      (expressionAt_related below "right").bind fun right =>
        (statementAt_related all "body").bind fun body => ?_
    split
    · exact .ok (.forOf left right body)
    · exact .ok (.forIn left right body)
  · exact (alternate_related all).bind fun other =>
      (expressionAt_related below "condition").bind fun test =>
        (statementAt_related all "consequence").map fun consequent => .if test consequent other
  · next isLabeled =>
      rw [textAt_same (spells.part "label" (by rw [isLabeled]; decide))]
      cases textAt n' "label" with
      | error => exact .error
      | ok label => exact (statementAt_related all "body").map .labeled
  · exact (Related.optionMapM below.firstPart? fun same => same.own.expression).map .return
  · next isBreak =>
      rw [label?, label?, spells.part "label" (by rw [isBreak]; decide)]
      exact .ok .break
  · next isContinue =>
      rw [label?, label?, spells.part "label" (by rw [isContinue]; decide)]
      exact .ok .continue
  · exact .ok .debugger
  · exact .ok .empty
  · exact (variableDeclaration_related below).map .declaration
  · exact (variableDeclaration_related below).map .declaration
  · exact (statements_related (tryBlocks_matched all)).map .unsupported
  · rw [below.isNone_part? "body"]
    split
    · exact .error
    · exact (statements_related (caseStatements_matched all)).map .unsupported
  · exact (statements_related (rel_toList (all.part? "body"))).map .unsupported
  · exact .ok (.unsupported .nil)

/-- Trees that spell alike are lowered to programs that do, or both lack the same. -/
theorem program_related (spells : n.Matched (Spells k) n') :
    Related (Program.Alike k) (program n) (program n') := by
  have all : n.Matched (AgreeThroughout k) n' :=
    (agree_of_spells spells).rise fun head own below =>
      { own with statement := statement_related head own.spells below }
  exact (Related.mapM all.kept.parts fun same => same.own.statement).map id

end Statements

end Lowering

end SketchSurvey.Script

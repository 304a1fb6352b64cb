import SketchSurvey.Proofs.Script.SyntaxTree

/-! The grammar has a tree for every printed program. -/

set_option autoImplicit false

namespace SketchSurvey.Script

open Node (branch leaf word enclosed modifiers)
open Token (comma semicolon separated)

/-- Items with commas between them have trees if each of them has one. -/
theorem exists_listed {α : Type} {Item : Node → List Token → Prop} {print : α → List Token}
    {items : List α} (each : ∀ a ∈ items, ∃ n, Item n (print a)) :
    ∃ nodes, Listed Item nodes (separated (items.map print)) ∧ (items ≠ [] → nodes ≠ []) := by
  induction items with
  | nil => exact ⟨[], .none, fun nonempty => absurd rfl nonempty⟩
  | cons a rest ih =>
      obtain ⟨n, item⟩ := each a (.head _)
      obtain ⟨nodes, listed, nonempty⟩ := ih fun b member => each b (.tail _ member)
      cases rest with
      | nil => exact ⟨[n], .last item, fun _ => List.cons_ne_nil _ _⟩
      | cons b later =>
          obtain ⟨next, others, rfl⟩ := List.exists_cons_of_ne_nil (nonempty (List.cons_ne_nil _ _))
          exact ⟨n :: word none 0 "," :: next :: others, .more item listed,
            fun _ => List.cons_ne_nil _ _⟩

section Expressions

variable {e : Expr}

/-- An expression inside something else has a tree if the expression itself has one. -/
theorem Expr.Printable.exists_wrapped (printable : e.Printable)
    (own : ∃ n, ExpressionTree none n e.tokens) (field : Option String) :
    ∃ n, ExpressionTree field n [e.wrapped] ∧
      n.kind ∈ "parenthesized_expression" :: referenceKinds := by
  obtain ⟨inner, tree⟩ := own
  cases printable with
  | identifier isName =>
      exact ⟨leaf "identifier" field 0 _, .identifier isName, .tail _ (.head _)⟩
  | literal | binary | call | member | assign =>
      exact ⟨branch "parenthesized_expression" field 0 "" (enclosed .round 0 0 [inner]),
        .parenthesized tree, .head _⟩

mutual

theorem Expr.Printable.exists_own : ∀ {e : Expr}, e.Printable → ∀ field,
    ∃ n, ExpressionTree field n e.tokens
  | _, .identifier isName, field => ⟨leaf "identifier" field 0 _, .identifier isName⟩
  | _, .literal isDecimal, field => ⟨leaf "number" field 0 _, .number isDecimal⟩
  | .binary operator _ _, .binary known left right, field => by
      obtain ⟨l, isLeft, _⟩ := left.exists_wrapped (left.exists_own none) (some "left")
      obtain ⟨r, isRight, _⟩ := right.exists_wrapped (right.exists_own none) (some "right")
      exact ⟨branch "binary_expression" field 0 "" [l, word (some "operator") 0 operator, r],
        .binary known isLeft isRight⟩
  | _, .call callee arguments, field => by
      obtain ⟨f, isCallee, _⟩ := callee.exists_wrapped (callee.exists_own none) (some "function")
      obtain ⟨nodes, listed, _⟩ := exists_listed fun a member => (arguments a member).exists_tree
      refine ⟨branch "call_expression" field 0 "" [f, branch "arguments" (some "arguments") 0 ""
        (enclosed .round 0 0 nodes)], ?_⟩
      rw [Expr.tokens, argumentTokens_eq_map]
      exact .call isCallee listed
  | _, .member object (.name isName), field => by
      obtain ⟨o, isObject, _⟩ := object.exists_wrapped (object.exists_own none) (some "object")
      exact ⟨branch "member_expression" field 0 "" [o, word none 0 ".",
        leaf "property_identifier" (some "property") 0 _], .member isObject isName⟩
  | _, .member object (.computed index), field => by
      obtain ⟨o, isObject, _⟩ := object.exists_wrapped (object.exists_own none) (some "object")
      obtain ⟨i, isIndex, _⟩ := index.exists_wrapped (index.exists_own none) (some "index")
      exact ⟨branch "subscript_expression" field 0 "" [o, word none 0 "[", i, word none 0 "]"],
        .subscript isObject isIndex⟩
  | _, .assign left right, field => by
      obtain ⟨l, isLeft, known⟩ := left.exists_tree (some "left")
      obtain ⟨r, isRight, _⟩ := right.exists_wrapped (right.exists_own none) (some "right")
      exact ⟨branch "assignment_expression" field 0 "" [l, word none 0 "=", r],
        .assignment known isLeft isRight⟩

theorem Argument.Printable.exists_tree : ∀ {a : Argument}, a.Printable →
    ∃ n, ExpressionTree none n a.tokens
  | _, .expr printable => by
      obtain ⟨n, tree, _⟩ := printable.exists_wrapped (printable.exists_own none) none
      exact ⟨n, tree⟩

theorem Pattern.Assignable.exists_tree : ∀ {p : Pattern}, p.Assignable → ∀ field,
    ∃ n, ExpressionTree field n p.tokens ∧ n.kind ∈ "parenthesized_expression" :: referenceKinds
  | _, .identifier isName, field =>
      ⟨leaf "identifier" field 0 _, .identifier isName, .tail _ (.head _)⟩
  | _, .member printable, field => printable.exists_wrapped (printable.exists_own none) field

end

theorem Expr.Printable.exists_tree (printable : e.Printable) (field : Option String) :
    ∃ n, ExpressionTree field n [e.wrapped] := by
  obtain ⟨n, tree, _⟩ := printable.exists_wrapped (printable.exists_own none) field
  exact ⟨n, tree⟩

end Expressions

section Patterns

mutual

theorem Pattern.Binding.exists_tree : ∀ {p : Pattern}, p.Binding → ∀ field,
    ∃ n, TargetTree field n p.tokens ∧ n.kind ∈ bindingKinds
  | .identifier name, .identifier isName, field =>
      ⟨leaf "identifier" field 0 name, .reference (.head _) (.identifier isName), .head _⟩
  | _, .object properties, field => by
      obtain ⟨nodes, listed, _⟩ := exists_listed fun p member => (properties p member).exists_tree
      refine ⟨branch "object_pattern" field 0 "" (enclosed .curly 0 0 nodes), ?_, .tail _ (.head _)⟩
      rw [Pattern.tokens, propertyTokens_eq_map]
      exact .object listed
  | _, .array elements, field => by
      obtain ⟨nodes, listed, _⟩ :=
        exists_listed fun p member => (elements p member).exists_tree none
      refine ⟨branch "array_pattern" field 0 "" (enclosed .square 0 0 nodes), ?_,
        .tail _ (.tail _ (.head _))⟩
      rw [Pattern.tokens, patternTokens_eq_map]
      exact .array listed

theorem Pattern.Value.exists_tree : ∀ {p : Pattern}, p.Value → ∀ field,
    ∃ n, ElementTree field n p.tokens
  | _, .plain binding, field => by
      obtain ⟨n, tree, _⟩ := binding.exists_tree field
      exact ⟨n, .target tree⟩
  | _, .withDefault binding printable, field => by
      obtain ⟨l, isLeft, known⟩ := binding.exists_tree (some "left")
      obtain ⟨r, isRight⟩ := printable.exists_tree (some "right")
      have notDefault : l.kind ≠ "assignment_pattern" := by
        intro same
        rw [same] at known
        exact absurd known (by decide)
      exact ⟨branch "assignment_pattern" field 0 "" [l, word none 0 "=", r],
        .withDefault (.target isLeft) notDefault isRight⟩

theorem Pattern.Element.exists_tree : ∀ {p : Pattern}, p.Element → ∀ field,
    ∃ n, ElementTree field n p.tokens
  | _, .value printable, field => printable.exists_tree field
  | _, .rest binding, field => by
      obtain ⟨n, tree, _⟩ := binding.exists_tree none
      exact ⟨branch "rest_pattern" field 0 "" [word none 0 "...", n], .rest tree⟩

theorem PatternProperty.Printable.exists_tree : ∀ {p : PatternProperty}, p.Printable →
    ∃ n, PropertyTree n p.tokens
  | .pair key _, .pair isName printable => by
      obtain ⟨n, tree⟩ := printable.exists_tree (some "value")
      exact ⟨branch "pair_pattern" none 0 "" [leaf "property_identifier" (some "key") 0 key,
        word none 0 ":", n], .pair isName tree⟩
  | _, .rest binding => by
      obtain ⟨n, tree, _⟩ := binding.exists_tree none
      exact ⟨branch "rest_pattern" none 0 "" [word none 0 "...", n], .rest tree⟩

end

theorem Declarator.Printable.exists_tree {d : Declarator} (printable : d.Printable) :
    ∃ n, DeclaratorTree n d.tokens := by
  obtain ⟨id, init⟩ := d
  obtain ⟨i, isId, known⟩ := printable.id.exists_tree (some "name")
  cases init with
  | none =>
      refine ⟨branch "variable_declarator" none 0 "" [i], ?_⟩
      rw [Declarator.tokens, List.append_nil]
      exact .plain known isId
  | some e =>
      obtain ⟨v, isValue⟩ := (printable.init e rfl).exists_tree (some "value")
      exact ⟨branch "variable_declarator" none 0 "" [i, word none 0 "=", v],
        .initialized known isId isValue⟩

theorem VariableDeclaration.Printable.exists_tree {d : VariableDeclaration}
    (printable : d.Printable) (field : Option String) : ∃ n, DeclarationTree field n d.tokens := by
  obtain ⟨nodes, listed, nonempty⟩ :=
    exists_listed fun declarator member => (printable.declarators declarator member).exists_tree
  obtain ⟨kind, declarations⟩ := d
  have filled := nonempty printable.nonempty
  cases kind with
  | var =>
      exact ⟨branch "variable_declaration" field 0 ""
        (word none 0 "var" :: (nodes ++ [word none 0 ";"])), .var filled listed⟩
  | «let» =>
      exact ⟨branch "lexical_declaration" field 0 ""
        (word (some "kind") 0 "let" :: (nodes ++ [word none 0 ";"])),
        .lexical (.head _) filled listed⟩
  | const =>
      exact ⟨branch "lexical_declaration" field 0 ""
        (word (some "kind") 0 "const" :: (nodes ++ [word none 0 ";"])),
        .lexical (.tail _ (.head _)) filled listed⟩

end Patterns

section Heads

theorem ForInit.Printable.exists_tree {init : ForInit} (printable : init.Printable) :
    ∃ nodes, InitTree nodes init.tokens := by
  cases printable with
  | none =>
      exact ⟨[branch "empty_statement" (some "initializer") 0 "" [word .none 0 ";"]], .none⟩
  | declaration printable =>
      obtain ⟨n, tree⟩ := printable.exists_tree (some "initializer")
      exact ⟨[n], .declaration tree⟩
  | expr printable =>
      obtain ⟨n, tree⟩ := printable.exists_tree (some "initializer")
      exact ⟨[n, word .none 0 ";"], .expression tree⟩

theorem exists_testTree {test : Option Expr} (printable : ∀ e ∈ test, e.Printable) :
    ∃ nodes, TestTree nodes (optionalTokens test ++ [semicolon]) := by
  cases test with
  | none => exact ⟨[branch "empty_statement" (some "condition") 0 "" [word none 0 ";"]], .none⟩
  | some e =>
      obtain ⟨n, tree⟩ := (printable e rfl).exists_tree (some "condition")
      exact ⟨[n, word (some "condition") 0 ";"], .expression tree⟩

theorem exists_updateTree {update : Option Expr} (printable : ∀ e ∈ update, e.Printable) :
    ∃ nodes, UpdateTree nodes (optionalTokens update) := by
  cases update with
  | none => exact ⟨[], .none⟩
  | some e =>
      obtain ⟨n, tree⟩ := (printable e rfl).exists_tree (some "increment")
      exact ⟨[n], .expression tree⟩

theorem exists_resultTree {argument : Option Expr} (printable : ∀ e ∈ argument, e.Printable) :
    ∃ nodes, ResultTree nodes (optionalTokens argument) := by
  cases argument with
  | none => exact ⟨[], .none⟩
  | some e =>
      obtain ⟨n, tree⟩ := (printable e rfl).exists_tree none
      exact ⟨[n], .some tree⟩

theorem exists_labelTree {label : Option String} (isName : ∀ l ∈ label, IsName l) :
    ∃ nodes, LabelTree nodes (labelTokens label) := by
  cases label with
  | none => exact ⟨[], .none⟩
  | some l => exact ⟨[leaf "statement_identifier" (some "label") 0 l], .some (isName l rfl)⟩

theorem ForTarget.Printable.exists_tree {left : ForTarget} (printable : left.Printable) :
    ∃ nodes, LeftTree nodes left.tokens := by
  cases printable with
  | @declaration kind id binding =>
      obtain ⟨n, tree, known⟩ := binding.exists_tree (some "left")
      refine ⟨[word (some "kind") 0 kind.word, n], ?_⟩
      have whole : (ForTarget.declaration { kind, declarations := [{ id, init := none }] }).tokens =
          .mark kind.word :: id.tokens := by
        simp [ForTarget.tokens, separated, Declarator.tokens]
      rw [whole]
      exact .declaration kind.word_mem known tree
  | binding binding =>
      obtain ⟨n, tree, _⟩ := binding.exists_tree (some "left")
      exact ⟨[n], .target tree⟩
  | assignable assignable =>
      cases assignable with
      | identifier isName =>
          exact ⟨[leaf "identifier" (some "left") 0 _],
            .target (.reference (.head _) (.identifier isName))⟩
      | member printable =>
          obtain ⟨n, tree⟩ := printable.exists_tree (some "left")
          exact ⟨[n], .parenthesized tree⟩

end Heads

/-- What stands between brackets as a condition has a tree. -/
theorem Expr.Printable.exists_condition {e : Expr} (printable : e.Printable) :
    ∃ n, ExpressionTree (some "condition") n [.group .round [e.wrapped]] := by
  obtain ⟨inner, tree⟩ := printable.exists_tree none
  exact ⟨branch "parenthesized_expression" (some "condition") 0 "" (enclosed .round 0 0 [inner]),
    .parenthesized tree⟩

section Statements

variable {body : List Statement} (each : ∀ s ∈ body, ∃ n, StatementTree none n s.tokens)
  {field : Option String}

include each

theorem exists_sequence : ∃ nodes, Sequence (StatementTree none) nodes (statementsTokens body) := by
  induction body with
  | nil => exact ⟨[], .nil⟩
  | cons s rest ih =>
      obtain ⟨n, tree⟩ := each s (.head _)
      obtain ⟨nodes, others⟩ := ih fun t member => each t (.tail _ member)
      exact ⟨n :: nodes, .cons tree others⟩

theorem Statement.exists_block : ∃ n, StatementTree field n (Statement.block body).tokens := by
  obtain ⟨nodes, sequence⟩ := exists_sequence each
  exact ⟨branch "statement_block" field 0 "" (enclosed .curly 0 0 nodes), .block sequence⟩

theorem Statement.exists_while {test : Expr} (printable : test.Printable) :
    ∃ n, StatementTree field n (Statement.while test (.block body)).tokens := by
  obtain ⟨c, condition⟩ := printable.exists_condition
  obtain ⟨b, inner⟩ := exists_block each
  exact ⟨branch "while_statement" field 0 "" [word none 0 "while", c, b], .while condition inner⟩

theorem Statement.exists_doWhile {test : Expr} (printable : test.Printable) :
    ∃ n, StatementTree field n (Statement.doWhile (.block body) test).tokens := by
  obtain ⟨c, condition⟩ := printable.exists_condition
  obtain ⟨b, inner⟩ := exists_block each
  exact ⟨branch "do_statement" field 0 "" [word none 0 "do", b, word none 0 "while", c,
    word none 0 ";"], .do inner condition⟩

theorem Statement.exists_for {init : ForInit} {test update : Option Expr}
    (initialized : init.Printable) (tested : ∀ e ∈ test, e.Printable)
    (updated : ∀ e ∈ update, e.Printable) :
    ∃ n, StatementTree field n (Statement.for init test update (.block body)).tokens := by
  obtain ⟨inits, isInit⟩ := initialized.exists_tree
  obtain ⟨tests, isTest⟩ := exists_testTree tested
  obtain ⟨updates, isUpdate⟩ := exists_updateTree updated
  obtain ⟨b, inner⟩ := exists_block each
  refine ⟨branch "for_statement" field 0 "" (word none 0 "for" :: word none 0 "(" ::
    (inits ++ (tests ++ (updates ++ [word none 0 ")", b])))), ?_⟩
  rw [Statement.tokens, List.append_cons (optionalTokens test)]
  exact .for isInit isTest isUpdate inner

/-- Both kinds of `for` over a collection have trees. -/
theorem Statement.exists_forIn {left : ForTarget} {right : Expr} (target : left.Printable)
    (printable : right.Printable) {operator : String} (known : operator ∈ ["in", "of"]) :
    ∃ n, StatementTree field n (.mark "for" :: .group .round (left.tokens ++
      [.mark operator, right.wrapped]) :: (Statement.block body).tokens) := by
  obtain ⟨lefts, isLeft⟩ := target.exists_tree
  obtain ⟨r, isRight⟩ := printable.exists_tree (some "right")
  obtain ⟨b, inner⟩ := exists_block each
  exact ⟨branch "for_in_statement" field 0 "" (word none 0 "for" :: word none 0 "(" ::
    (lefts ++ [word (some "operator") 0 operator, r, word none 0 ")", b])),
    .forIn isLeft known isRight inner⟩

theorem Statement.exists_if {test : Expr} (printable : test.Printable) :
    ∃ n, StatementTree field n (Statement.if test (.block body) none).tokens := by
  obtain ⟨c, condition⟩ := printable.exists_condition
  obtain ⟨b, inner⟩ := exists_block each
  refine ⟨branch "if_statement" field 0 "" [word none 0 "if", c, b], ?_⟩
  rw [Statement.tokens, alternateTokens, List.append_nil]
  exact .if condition inner

theorem Statement.exists_ifElse {test : Expr} (printable : test.Printable)
    {alternate : List Statement} (each' : ∀ s ∈ alternate, ∃ n, StatementTree none n s.tokens) :
    ∃ n, StatementTree field n
      (Statement.if test (.block body) (some (.block alternate))).tokens := by
  obtain ⟨c, condition⟩ := printable.exists_condition
  obtain ⟨b, inner⟩ := exists_block each
  obtain ⟨a, other⟩ := exists_block each'
  exact ⟨branch "if_statement" field 0 "" [word none 0 "if", c, b,
    branch "else_clause" (some "alternative") 0 "" [word none 0 "else", a]],
    .ifElse condition inner other⟩

theorem Statement.exists_function {id : String} {params : List Pattern} {isAsync isGenerator : Bool}
    (isName : IsName id) (elements : ∀ p ∈ params, p.Element) :
    ∃ n, StatementTree field n
      (Statement.function (some id) params body isAsync isGenerator).tokens := by
  obtain ⟨ps, listed, _⟩ := exists_listed fun p member => (elements p member).exists_tree none
  obtain ⟨nodes, sequence⟩ := exists_sequence each
  exact ⟨branch (functionKind isGenerator) field 0 "" (modifiers isAsync 0 "async" ++
    word none 0 "function" :: (modifiers isGenerator 0 "*" ++
      [leaf "identifier" (some "name") 0 id,
        branch "formal_parameters" (some "parameters") 0 "" (enclosed .round 0 0 ps),
        branch "statement_block" (some "body") 0 "" (enclosed .curly 0 0 nodes)])),
    .function isName listed sequence⟩

omit each

theorem Statement.exists_labeled {label : String} {body : Statement} (isName : IsName label)
    (labeled : ∃ n, StatementTree (some "body") n body.tokens) :
    ∃ n, StatementTree field n (Statement.labeled label body).tokens := by
  obtain ⟨b, inner⟩ := labeled
  exact ⟨branch "labeled_statement" field 0 ""
    [leaf "statement_identifier" (some "label") 0 label, word none 0 ":", b], .labeled isName inner⟩

theorem Statement.exists_expression {e : Expr} (printable : e.Printable) :
    ∃ n, StatementTree field n (Statement.expression e).tokens := by
  obtain ⟨inner, tree⟩ := printable.exists_own none
  exact ⟨branch "expression_statement" field 0 "" [branch "parenthesized_expression" none 0 ""
    (enclosed .round 0 0 [inner]), word none 0 ";"], .expression (.parenthesized tree)⟩

theorem Statement.exists_declaration {d : VariableDeclaration} (printable : d.Printable) :
    ∃ n, StatementTree field n (Statement.declaration d).tokens := by
  obtain ⟨n, tree⟩ := printable.exists_tree field
  exact ⟨n, .declaration tree⟩

theorem Statement.exists_return {argument : Option Expr} (printable : ∀ e ∈ argument, e.Printable) :
    ∃ n, StatementTree field n (Statement.return argument).tokens := by
  obtain ⟨results, tree⟩ := exists_resultTree printable
  exact ⟨branch "return_statement" field 0 ""
    (word none 0 "return" :: (results ++ [word none 0 ";"])), .return tree⟩

theorem Statement.exists_break {label : Option String} (isName : ∀ l ∈ label, IsName l) :
    ∃ n, StatementTree field n (Statement.break label).tokens := by
  obtain ⟨labels, tree⟩ := exists_labelTree isName
  exact ⟨branch "break_statement" field 0 ""
    (word none 0 "break" :: (labels ++ [word none 0 ";"])), .break tree⟩

theorem Statement.exists_continue {label : Option String} (isName : ∀ l ∈ label, IsName l) :
    ∃ n, StatementTree field n (Statement.continue label).tokens := by
  obtain ⟨labels, tree⟩ := exists_labelTree isName
  exact ⟨branch "continue_statement" field 0 ""
    (word none 0 "continue" :: (labels ++ [word none 0 ";"])), .continue tree⟩

theorem Statement.exists_empty : ∃ n, StatementTree field n Statement.empty.tokens :=
  ⟨branch "empty_statement" field 0 "" [word none 0 ";"], .empty⟩

end Statements

/-- Every printed statement has a tree, whatever part it plays. -/
theorem Statement.Printable.exists_tree {field : Option String} : ∀ {s : Statement},
    s.Printable → ∃ n, StatementTree field n s.tokens
  | _, .function isName params body =>
      exists_function (fun s member => (body s member).exists_tree) isName params
  | _, .block body => exists_block fun s member => (body s member).exists_tree
  | _, .doWhile body test => exists_doWhile (fun s member => (body s member).exists_tree) test
  | _, .expression printable => exists_expression printable
  | _, .for init test update body =>
      exists_for (fun s member => (body s member).exists_tree) init test update
  | _, .forIn left right body =>
      exists_forIn (fun s member => (body s member).exists_tree) left right (.head _)
  | _, .forOf left right body =>
      exists_forIn (fun s member => (body s member).exists_tree) left right (.tail _ (.head _))
  | _, .if test consequent =>
      exists_if (fun s member => (consequent s member).exists_tree) test
  | _, .ifElse test consequent alternate =>
      exists_ifElse (fun s member => (consequent s member).exists_tree) test
        fun s member => (alternate s member).exists_tree
  | _, .labeled isName _ body => exists_labeled isName body.exists_tree
  | _, .return argument => exists_return argument
  | _, .declaration printable => exists_declaration printable
  | _, .while test body => exists_while (fun s member => (body s member).exists_tree) test
  | _, .break label => exists_break label
  | _, .continue label => exists_continue label
  | _, .empty => exists_empty

theorem Program.Printable.exists_tree {p : Program} (printable : p.Printable) :
    ∃ root, ProgramTree root p.tokens := by
  obtain ⟨nodes, sequence⟩ := exists_sequence fun s member => (printable s member).exists_tree
  exact ⟨branch "program" none 0 "" nodes, .program sequence⟩

end SketchSurvey.Script

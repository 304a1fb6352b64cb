import SketchSurvey.Proofs.Script.SyntaxTree
import SketchSurvey.Proofs.Script.Whole

/-! What each production of the grammar is lowered to, in terms of what its parts are lowered to. -/

set_option autoImplicit false

namespace SketchSurvey.Script

open Node (branch leaf word enclosed modifiers)

namespace Node

section Fields

variable {k t : String} {n m e : Bool} {r : Nat} {f : Option String} {cs : List Node}

@[simp] theorem kind_mk : (mk k n m e r t f cs).kind = k := rfl
@[simp] theorem named_mk : (mk k n m e r t f cs).named = n := rfl
@[simp] theorem text_mk : (mk k n m e r t f cs).text = t := rfl
@[simp] theorem field_mk : (mk k n m e r t f cs).field = f := rfl
@[simp] theorem children_mk : (mk k n m e r t f cs).children = cs := rfl

theorem part?_mk (field : String) :
    (mk k n m e r t f cs).part? field = cs.find? (·.plays field) := rfl

@[simp] theorem plays_mk (field : String) : (mk k n m e r t f cs).plays field =
    (f == some field && !(k == "comment" || k == "html_comment" || k == "hash_bang_line")) := rfl

theorem field_of_plays {c : Node} {part : String} (plays : c.plays part = true) :
    c.field = some part := by
  simp only [Node.plays, Bool.and_eq_true, beq_iff_eq] at plays
  exact plays.1

end Fields

/-- Whether a node is one of the parts of the node above. -/
def isShown (n : Node) : Bool := n.named && !n.isComment

theorem parts_eq_filter (n : Node) : n.parts = n.children.filter isShown := rfl

@[simp] theorem isShown_word (field : Option String) (row : Nat) (text : String) :
    (word field row text).isShown = false := rfl

@[simp] theorem filter_isShown_enclosed (bracket : Bracket) (first last : Nat) (inner : List Node) :
    (enclosed bracket first last inner).filter isShown = inner.filter isShown := by
  simp [enclosed]

/-- A node that plays a part in the one above it. -/
structure IsPart (n : Node) (field : Option String) : Prop where
  named : n.named = true
  shown : n.isShown = true
  field : n.field = field

theorem IsPart.plays {n : Node} {field : Option String} (isPart : n.IsPart field) (part : String) :
    n.plays part = (field == some part) := by
  have notComment : n.isComment = false := by simpa [isPart.named, isShown] using isPart.shown
  simp [Node.plays, isPart.field, notComment]

section FirstPart

variable {kind text : String} {field : Option String} {row : Nat} {e : Node}

theorem firstPart?_enclosed {bracket : Bracket} {first last : Nat} (inner : e.IsPart none) :
    (branch kind field row text (enclosed bracket first last [e])).firstPart? = some e := by
  simp [firstPart?, parts_eq_filter, inner.shown]

theorem firstPart?_marked {sign : String} {row' : Nat} (inner : e.IsPart none) :
    (branch kind field row text [word none row' sign, e]).firstPart? = some e := by
  simp [firstPart?, parts_eq_filter, inner.shown]

end FirstPart

end Node

namespace Lower

variable {field : Option String} {row : Nat} {text : String} {n e : Node}

theorem expression_identifier {name : String} :
    expression (leaf "identifier" field row name) = .identifier name := by
  rw [expression]
  rfl

theorem expression_number {raw : String} :
    expression (leaf "number" field row raw) = .literal raw := by
  rw [expression]
  rfl

theorem expression_parenthesized {first last : Nat} (inner : e.IsPart none) :
    expression (branch "parenthesized_expression" field row text (enclosed .round first last [e])) =
      expression e := by
  rw [expression]
  simp only [Node.kind_mk]
  exact match_found expression _ (Node.firstPart?_enclosed inner)

theorem operator_of_mem {operator : String} (known : operator ∈ binaryOperators) (sign : Nat) :
    isLogical operator = false ∧ (word (some "operator") sign operator).plays "operator" = true := by
  simp only [binaryOperators, List.mem_cons, List.not_mem_nil, or_false] at known
  rcases known with rfl | rfl | rfl | rfl | rfl | rfl | rfl | rfl | rfl | rfl | rfl | rfl | rfl <;>
    exact ⟨rfl, rfl⟩

theorem expression_binary {left right : Node} {sign : Nat} {operator : String}
    (known : operator ∈ binaryOperators) (isLeft : left.IsPart (some "left"))
    (isRight : right.IsPart (some "right")) :
    expression (branch "binary_expression" field row text
      [left, word (some "operator") sign operator, right]) =
      .binary operator (expression left) (expression right) := by
  have ⟨notLogical, isOperator⟩ := operator_of_mem known sign
  rw [expression]
  simp only [Node.kind_mk]
  rw [expressionAt_eq (e := left) "left" (by simp [Node.part?_mk, isLeft.plays]),
    expressionAt_eq (e := right) "right" (by simp [Node.part?_mk, isLeft.plays, isRight.plays])]
  simp [Node.part?_mk, isLeft.plays, isOperator, notLogical]

theorem expression_assignment {left right : Node} {sign : Nat} (isLeft : left.IsPart (some "left"))
    (isRight : right.IsPart (some "right")) :
    expression (branch "assignment_expression" field row text [left, word none sign "=", right]) =
      .assign "=" (pattern left) (expression right) := by
  rw [expression]
  simp only [Node.kind_mk]
  rw [patternAt_eq (e := left) "left" (by simp [Node.part?_mk, isLeft.plays]),
    expressionAt_eq (e := right) "right" (by simp [Node.part?_mk, isLeft.plays, isRight.plays])]
  simp [Node.part?_mk, isLeft.plays, isRight.plays]

/-- The kinds of expressions that stand inside others in a printed program. -/
def operandKinds : List String := ["identifier", "number", "parenthesized_expression"]

theorem not_isOptionalChain_of_operand (operand : n.kind ∈ operandKinds) :
    isOptionalChain n = false := by
  have notChain : isChain n.kind = false := by
    simp only [operandKinds, List.mem_cons, List.not_mem_nil, or_false] at operand
    rcases operand with same | same | same <;> rw [same] <;> rfl
  rw [isOptionalChain, notChain]
  rfl

theorem ne_of_operand {kind : String} (operand : n.kind ∈ operandKinds)
    (other : kind ∉ operandKinds) : n.kind ≠ kind := by
  rintro rfl
  exact other operand

/-- A chain that goes on from an operand, without an optional link of its own. -/
theorem not_isOptionalChain (plain : ∀ c ∈ n.children, c.kind ≠ "optional_chain")
    (links : ∀ c ∈ n.children, c.field = some "function" ∨ c.field = some "object" →
      c.kind ∈ operandKinds) : isOptionalChain n = false := by
  rw [isOptionalChain]
  split
  · rw [if_neg (by simpa using plain)]
    split
    · next found =>
        have isFunction := List.find?_some found
        exact not_isOptionalChain_of_operand
          (links _ (Node.mem_of_part? found) (.inl (Node.field_of_plays isFunction)))
    · split
      · next found =>
          have isObject := List.find?_some found
          exact not_isOptionalChain_of_operand
            (links _ (Node.mem_of_part? found) (.inr (Node.field_of_plays isObject)))
      · rfl
  · rfl

theorem expression_member {object : Node} {dot row' : Nat} {name : String}
    (isObject : object.IsPart (some "object")) (operand : object.kind ∈ operandKinds) :
    expression (branch "member_expression" field row text
      [object, word none dot ".", leaf "property_identifier" (some "property") row' name]) =
      .member (.expr (expression object)) (.name name) := by
  have plain := ne_of_operand operand (by decide : "optional_chain" ∉ operandKinds)
  have unlinked : isOptionalChain (branch "member_expression" field row text
      [object, word none dot ".", leaf "property_identifier" (some "property") row' name]) =
      false :=
    not_isOptionalChain (by simp [plain]) (by simp [operand])
  rw [expression]
  simp only [Node.kind_mk, unlinked]
  rw [receiverAt_eq (e := object) "object" (by simp [Node.part?_mk, isObject.plays])
    (ne_of_operand operand (by decide))]
  simp [Node.part?_mk, isObject.plays]

theorem expression_subscript {object index : Node} {first last : Nat}
    (isObject : object.IsPart (some "object")) (isIndex : index.IsPart (some "index"))
    (operand : object.kind ∈ operandKinds) (operand' : index.kind ∈ operandKinds) :
    expression (branch "subscript_expression" field row text
      [object, word none first "[", index, word none last "]"]) =
      .member (.expr (expression object)) (.computed (expression index)) := by
  have plain := ne_of_operand operand (by decide : "optional_chain" ∉ operandKinds)
  have plain' := ne_of_operand operand' (by decide : "optional_chain" ∉ operandKinds)
  have unlinked : isOptionalChain (branch "subscript_expression" field row text
      [object, word none first "[", index, word none last "]"]) = false :=
    not_isOptionalChain (by simp [plain, plain']) (by simp [operand, operand'])
  rw [expression]
  simp only [Node.kind_mk, unlinked]
  rw [receiverAt_eq (e := object) "object" (by simp [Node.part?_mk, isObject.plays])
    (ne_of_operand operand (by decide)),
    expressionAt_eq (e := index) "index"
      (by simp [Node.part?_mk, isObject.plays, isIndex.plays])]
  simp

theorem argument_of_operand (operand : n.kind ∈ operandKinds) :
    argument n = .expr (expression n) := by
  rw [argument, if_neg]
  simpa using ne_of_operand operand (by decide : "spread_element" ∉ operandKinds)

theorem expression_call {callee : Node} {row' : Nat} {text' : String} {first last : Nat}
    {arguments : List Node} (isCallee : callee.IsPart (some "function"))
    (operand : callee.kind ∈ operandKinds) :
    expression (branch "call_expression" field row text [callee,
      branch "arguments" (some "arguments") row' text' (enclosed .round first last arguments)]) =
      .call (.expr (expression callee)) ((arguments.filter Node.isShown).map argument) := by
  have plain := ne_of_operand operand (by decide : "optional_chain" ∉ operandKinds)
  have notImport := ne_of_operand operand (by decide : "import" ∉ operandKinds)
  have unlinked : isOptionalChain (branch "call_expression" field row text [callee,
      branch "arguments" (some "arguments") row' text' (enclosed .round first last arguments)]) =
      false :=
    not_isOptionalChain (by simp [plain]) (by simp [operand])
  rw [expression]
  simp only [Node.kind_mk, unlinked]
  rw [receiverAt_eq (e := callee) "function" (by simp [Node.part?_mk, isCallee.plays])
    (ne_of_operand operand (by decide))]
  simp only [Bool.false_eq_true, if_false]
  split
  · next list found =>
      simp only [Node.part?_mk, List.find?_cons, isCallee.plays] at found
      cases found
      simp [notImport, Node.part?_mk, isCallee.plays, Node.parts_eq_filter]
  · next missing =>
      simp [Node.part?_mk, isCallee.plays] at missing

theorem pattern_identifier {name : String} :
    pattern (leaf "identifier" field row name) = .identifier name := by
  rw [pattern]
  rfl

theorem pattern_reference (reference : n.kind = "member_expression" ∨ n.kind = "subscript_expression") :
    pattern n = .target (expression n) := by
  rw [pattern]
  rcases reference with same | same <;> simp only [same]

theorem pattern_parenthesized {first last : Nat} (inner : e.IsPart none) :
    pattern (branch "parenthesized_expression" field row text (enclosed .round first last [e])) =
      pattern e := by
  rw [pattern]
  simp only [Node.kind_mk]
  exact match_found pattern _ (Node.firstPart?_enclosed inner)

theorem pattern_object {first last : Nat} {properties : List Node} :
    pattern (branch "object_pattern" field row text (enclosed .curly first last properties)) =
      .object ((properties.filter Node.isShown).map patternProperty) := by
  rw [pattern]
  simp [Node.parts_eq_filter]

theorem pattern_array {first last : Nat} {elements : List Node} :
    pattern (branch "array_pattern" field row text (enclosed .square first last elements)) =
      .array ((elements.filter Node.isShown).map pattern) := by
  rw [pattern]
  simp [Node.parts_eq_filter]

theorem pattern_rest {dots : Nat} (inner : e.IsPart none) :
    pattern (branch "rest_pattern" field row text [word none dots "...", e]) = .rest (pattern e) := by
  rw [pattern]
  simp only [Node.kind_mk]
  exact match_found (fun e => Pattern.rest (pattern e)) _ (Node.firstPart?_marked inner)

theorem pattern_withDefault {left right : Node} {sign : Nat} (isLeft : left.IsPart (some "left"))
    (isRight : right.IsPart (some "right")) :
    pattern (branch "assignment_pattern" field row text [left, word none sign "=", right]) =
      .withDefault (pattern left) (expression right) := by
  rw [pattern]
  simp only [Node.kind_mk]
  rw [patternAt_eq (e := left) "left" (by simp [Node.part?_mk, isLeft.plays]),
    expressionAt_eq (e := right) "right" (by simp [Node.part?_mk, isLeft.plays, isRight.plays])]

theorem patternProperty_pair {value : Node} {row' sign : Nat} {key : String}
    (isValue : value.IsPart (some "value")) :
    patternProperty (branch "pair_pattern" field row text
      [leaf "property_identifier" (some "key") row' key, word none sign ":", value]) =
      .pair key (pattern value) := by
  rw [patternProperty]
  simp only [Node.kind_mk]
  rw [patternAt_eq (e := value) "value" (by simp [Node.part?_mk, isValue.plays])]
  simp [Node.part?_mk]

theorem patternProperty_rest {dots : Nat} (inner : e.IsPart none) :
    patternProperty (branch "rest_pattern" field row text [word none dots "...", e]) =
      .rest (pattern e) := by
  rw [patternProperty]
  simp only [Node.kind_mk]
  exact match_found (fun e => PatternProperty.rest (pattern e)) _ (Node.firstPart?_marked inner)

theorem declarator_plain {id : Node} (isId : id.IsPart (some "name")) :
    declarator (branch "variable_declarator" field row text [id]) =
      { id := pattern id, init := none } := by
  rw [declarator, patternAt_eq (e := id) "name" (by simp [Node.part?_mk, isId.plays])]
  simp [optionalExpressionAt, Node.part?_mk, isId.plays]

theorem declarator_initialized {id value : Node} {sign : Nat} (isId : id.IsPart (some "name"))
    (isValue : value.IsPart (some "value")) :
    declarator (branch "variable_declarator" field row text [id, word none sign "=", value]) =
      { id := pattern id, init := some (expression value) } := by
  rw [declarator, patternAt_eq (e := id) "name" (by simp [Node.part?_mk, isId.plays])]
  simp [optionalExpressionAt, Node.part?_mk, isId.plays, isValue.plays]

theorem variableDeclaration_eq {kind : String} {first last : Nat} {field' : Option String}
    {nodes : List Node} (k : DeclarationKind) :
    variableDeclaration (branch kind field row text
      (word field' first k.word :: (nodes ++ [word none last ";"]))) =
      { kind := k
        declarations := ((nodes.filter Node.isShown).filter
          fun c => c.kind == "variable_declarator").map declarator } := by
  cases k <;> simp [variableDeclaration, declarationKind?, Node.parts_eq_filter,
    DeclarationKind.word]

theorem statement_expression {row' : Nat} (inner : e.IsPart none) :
    statement (branch "expression_statement" field row text [e, word none row' ";"]) =
      .expression (expression e) := by
  rw [statement]
  simp [Node.firstPart?, Node.parts_eq_filter, inner.shown]

theorem statement_declaration (declares : isDeclaration n.kind = true) :
    statement n = .declaration (variableDeclaration n) := by
  simp only [isDeclaration, Bool.or_eq_true, beq_iff_eq] at declares
  rw [statement]
  rcases declares with same | same <;> simp only [same]

theorem block_eq (n : Node) : block n = (n.children.filter Node.isShown).map statement := by
  rw [block]
  simp [Node.parts_eq_filter]

theorem statement_block {first last : Nat} {nodes : List Node} :
    statement (branch "statement_block" field row text (enclosed .curly first last nodes)) =
      .block ((nodes.filter Node.isShown).map statement) := by
  rw [statement]
  simp [block_eq]

theorem statement_empty {nodes : List Node} :
    statement (branch "empty_statement" field row text nodes) = .empty := by
  rw [statement]
  rfl

theorem statement_if {row' : Nat} {condition consequence : Node}
    (isCondition : condition.IsPart (some "condition"))
    (isConsequence : consequence.IsPart (some "consequence")) :
    statement (branch "if_statement" field row text [word none row' "if", condition, consequence]) =
      .if (expression condition) (statement consequence) none := by
  rw [statement]
  simp only [Node.kind_mk]
  rw [expressionAt_eq (e := condition) "condition" (by simp [Node.part?_mk, isCondition.plays]),
    statementAt_eq (e := consequence) "consequence"
      (by simp [Node.part?_mk, isCondition.plays, isConsequence.plays])]
  split
  · next found =>
      simp [elsePart?, Node.part?_mk, isCondition.plays, isConsequence.plays] at found
  · rfl

theorem statement_ifElse {row' elseRow elseRow' : Nat} {elseText : String}
    {condition consequence alternative : Node} (isCondition : condition.IsPart (some "condition"))
    (isConsequence : consequence.IsPart (some "consequence")) (inner : alternative.IsPart none) :
    statement (branch "if_statement" field row text [word none row' "if", condition, consequence,
      branch "else_clause" (some "alternative") elseRow elseText
        [word none elseRow' "else", alternative]]) =
      .if (expression condition) (statement consequence) (some (statement alternative)) := by
  rw [statement]
  simp only [Node.kind_mk]
  rw [expressionAt_eq (e := condition) "condition" (by simp [Node.part?_mk, isCondition.plays]),
    statementAt_eq (e := consequence) "consequence"
      (by simp [Node.part?_mk, isCondition.plays, isConsequence.plays])]
  split
  · next other found =>
      simp [elsePart?, Node.part?_mk, isCondition.plays, isConsequence.plays, Node.firstPart?,
        Node.parts_eq_filter, inner.shown] at found
      rw [found]
  · next missing =>
      simp [elsePart?, Node.part?_mk, isCondition.plays, isConsequence.plays, Node.firstPart?,
        Node.parts_eq_filter, inner.shown] at missing

theorem statement_while {row' : Nat} {condition body : Node}
    (isCondition : condition.IsPart (some "condition")) (isBody : body.IsPart (some "body")) :
    statement (branch "while_statement" field row text [word none row' "while", condition, body]) =
      .while (expression condition) (statement body) := by
  rw [statement]
  simp only [Node.kind_mk]
  rw [expressionAt_eq (e := condition) "condition" (by simp [Node.part?_mk, isCondition.plays]),
    statementAt_eq (e := body) "body"
      (by simp [Node.part?_mk, isCondition.plays, isBody.plays])]

theorem statement_do {row' row'' last : Nat} {body condition : Node}
    (isBody : body.IsPart (some "body")) (isCondition : condition.IsPart (some "condition")) :
    statement (branch "do_statement" field row text
      [word none row' "do", body, word none row'' "while", condition, word none last ";"]) =
      .doWhile (statement body) (expression condition) := by
  rw [statement]
  simp only [Node.kind_mk]
  rw [expressionAt_eq (e := condition) "condition"
      (by simp [Node.part?_mk, isCondition.plays, isBody.plays]),
    statementAt_eq (e := body) "body" (by simp [Node.part?_mk, isBody.plays])]

theorem statement_labeled {row' sign : Nat} {label : String} {body : Node}
    (isBody : body.IsPart (some "body")) :
    statement (branch "labeled_statement" field row text
      [leaf "statement_identifier" (some "label") row' label, word none sign ":", body]) =
      .labeled label (statement body) := by
  rw [statement]
  simp only [Node.kind_mk]
  rw [statementAt_eq (e := body) "body" (by simp [Node.part?_mk, isBody.plays])]
  simp [label?, Node.part?_mk]

theorem statement_return {row' last : Nat} {results : List Node} :
    statement (branch "return_statement" field row text
      (word none row' "return" :: (results ++ [word none last ";"]))) =
      .return ((results.filter Node.isShown).head?.map expression) := by
  rw [statement]
  simp [Node.firstPart?, Node.parts_eq_filter]

theorem statement_function {isAsync isGenerator : Bool} {row₁ row₂ row₃ row₄ row₅ row₆ : Nat}
    {id text₅ text₆ : String} {first last first' last' : Nat} {params body : List Node} :
    statement (branch (functionKind isGenerator) field row text
      (modifiers isAsync row₁ "async" ++ word none row₂ "function" ::
        (modifiers isGenerator row₃ "*" ++ [leaf "identifier" (some "name") row₄ id,
          branch "formal_parameters" (some "parameters") row₅ text₅
            (enclosed .round first last params),
          branch "statement_block" (some "body") row₆ text₆
            (enclosed .curly first' last' body)]))) =
      .function (some id) ((params.filter Node.isShown).map pattern)
        ((body.filter Node.isShown).map statement) isAsync isGenerator := by
  have isBody : Node.part? (branch (functionKind isGenerator) field row text
      (modifiers isAsync row₁ "async" ++ word none row₂ "function" ::
        (modifiers isGenerator row₃ "*" ++ [leaf "identifier" (some "name") row₄ id,
          branch "formal_parameters" (some "parameters") row₅ text₅
            (enclosed .round first last params),
          branch "statement_block" (some "body") row₆ text₆
            (enclosed .curly first' last' body)]))) "body" =
      some (branch "statement_block" (some "body") row₆ text₆
        (enclosed .curly first' last' body)) := by
    cases isAsync <;> cases isGenerator <;> simp [modifiers, Node.part?_mk]
  rw [statement]
  cases isAsync <;> cases isGenerator <;>
    · simp only [functionKind, Node.kind_mk, reduceIte, Bool.false_eq_true]
      split
      · next other found =>
          cases found.symm.trans isBody
          simp [modifiers, Node.part?_mk, Node.parts_eq_filter, Node.hasToken, block_eq]
      · next missing => cases missing.symm.trans isBody

/-- Nodes of which none plays a part. -/
def Lacks (part : String) (nodes : List Node) : Prop := ∀ c ∈ nodes, c.field ≠ some part

theorem Lacks.find?_eq_none {part : String} {nodes : List Node} (lacks : Lacks part nodes) :
    (nodes.find? (·.plays part)) = none := by
  rw [List.find?_eq_none]
  intro c member plays
  exact lacks c member (Node.field_of_plays plays)

theorem forClause?_eq_some (part : String) (found : n.part? part = some e) (named : e.named = true)
    (kept : e.kind ≠ "empty_statement") : forClause? n part = some e := by
  simp [forClause?, found, named, kept]

theorem forClause?_eq_none (part : String) (found : n.part? part = some e)
    (empty : e.kind = "empty_statement") : forClause? n part = none := by
  simp [forClause?, found, empty]

theorem clauseExpression_of_operand (operand : n.kind ∈ operandKinds) :
    clauseExpression n = expression n := by
  rw [clauseExpression, if_neg]
  simpa using ne_of_operand operand (by decide : "expression_statement" ∉ operandKinds)

theorem forInit_none (found : n.part? "initializer" = some e) (empty : e.kind = "empty_statement") :
    forInit n = .none := by
  rw [forInit, forClause?_eq_none "initializer" found empty]

theorem forInit_declaration (found : n.part? "initializer" = some e) (named : e.named = true)
    (declares : isDeclaration e.kind = true) : forInit n = .declaration (variableDeclaration e) := by
  have kept : e.kind ≠ "empty_statement" := by
    intro same
    rw [same] at declares
    exact absurd declares (by decide)
  rw [forInit, forClause?_eq_some "initializer" found named kept]
  simp only [declares, reduceIte]

theorem forInit_expression (found : n.part? "initializer" = some e) (named : e.named = true)
    (operand : e.kind ∈ operandKinds) : forInit n = .expr (expression e) := by
  have notDeclaration : isDeclaration e.kind = false := by
    simpa [isDeclaration] using And.intro
      (ne_of_operand operand (by decide : "variable_declaration" ∉ operandKinds))
      (ne_of_operand operand (by decide : "lexical_declaration" ∉ operandKinds))
  rw [forInit, forClause?_eq_some "initializer" found named
    (ne_of_operand operand (by decide : "empty_statement" ∉ operandKinds))]
  simp only [notDeclaration, Bool.false_eq_true, reduceIte, clauseExpression_of_operand operand]

theorem statement_for (isFor : n.kind = "for_statement") (isBody : n.part? "body" = some e) :
    statement n = .for (forInit n) ((forClause? n "condition").map clauseExpression)
      (optionalExpressionAt n "increment") (statement e) := by
  rw [statement]
  simp only [isFor]
  rw [statementAt_eq "body" isBody]

/-- The word before what takes the values of a `for` over a collection. -/
def headWord (kind : Option DeclarationKind) (row : Nat) : List Node :=
  match kind with
  | some kind => [word (some "kind") row kind.word]
  | none => []

def headTarget (kind : Option DeclarationKind) (p : Pattern) : ForTarget :=
  match kind with
  | some kind => .declaration { kind, declarations := [{ id := p, init := none }] }
  | none => .pattern p

section Loops

variable {row' first sign last row₁ : Nat} {kind : Option DeclarationKind}
  {left right body : Node}

theorem forTarget_eq {operator : String} (isOperator : operator = "in" ∨ operator = "of")
    (isLeft : left.IsPart (some "left")) (isRight : right.IsPart (some "right"))
    (isBody : body.IsPart (some "body")) :
    forTarget (branch "for_in_statement" field row text (word none row' "for" ::
      word none first "(" :: (headWord kind row₁ ++ [left, word (some "operator") sign operator,
        right, word none last ")", body]))) = headTarget kind (pattern left) := by
  rw [forTarget, patternAt_eq (e := left) "left"
    (by cases kind <;> simp [Node.part?_mk, headWord, isLeft.plays])]
  cases kind with
  | none =>
      rcases isOperator with rfl | rfl <;>
        simp [declarationKind?, headWord, headTarget, isLeft.named, isRight.named, isBody.named]
  | some kind =>
      cases kind <;> simp [declarationKind?, headWord, headTarget, DeclarationKind.word]

theorem statement_forIn (isLeft : left.IsPart (some "left")) (isRight : right.IsPart (some "right"))
    (isBody : body.IsPart (some "body")) :
    statement (branch "for_in_statement" field row text (word none row' "for" ::
      word none first "(" :: (headWord kind row₁ ++ [left, word (some "operator") sign "in",
        right, word none last ")", body]))) =
      .forIn (headTarget kind (pattern left)) (expression right) (statement body) := by
  have notOf : isOfLoop (branch "for_in_statement" field row text (word none row' "for" ::
      word none first "(" :: (headWord kind row₁ ++ [left, word (some "operator") sign "in",
        right, word none last ")", body]))) = false := by
    cases kind with
    | none =>
        simp [isOfLoop, Node.part?_mk, Node.hasToken, headWord, isLeft.plays, isLeft.named,
          isRight.named, isBody.named]
    | some kind =>
        cases kind <;> simp [isOfLoop, Node.part?_mk, Node.hasToken, headWord, isLeft.plays,
          isLeft.named, isRight.named, isBody.named, DeclarationKind.word]
  rw [statement]
  simp only [Node.kind_mk, notOf]
  rw [forTarget_eq (.inl rfl) isLeft isRight isBody,
    expressionAt_eq (e := right) "right"
      (by cases kind <;> simp [Node.part?_mk, headWord, isLeft.plays, isRight.plays]),
    statementAt_eq (e := body) "body" (by
      cases kind <;>
        simp [Node.part?_mk, headWord, isLeft.plays, isRight.plays, isBody.plays])]
  rfl

theorem statement_forOf (isLeft : left.IsPart (some "left")) (isRight : right.IsPart (some "right"))
    (isBody : body.IsPart (some "body")) :
    statement (branch "for_in_statement" field row text (word none row' "for" ::
      word none first "(" :: (headWord kind row₁ ++ [left, word (some "operator") sign "of",
        right, word none last ")", body]))) =
      .forOf (headTarget kind (pattern left)) (expression right) (statement body) false := by
  have isOf : isOfLoop (branch "for_in_statement" field row text (word none row' "for" ::
      word none first "(" :: (headWord kind row₁ ++ [left, word (some "operator") sign "of",
        right, word none last ")", body]))) = true := by
    cases kind <;> simp [isOfLoop, Node.part?_mk, headWord, isLeft.plays]
  have notAwait : Node.hasToken (branch "for_in_statement" field row text (word none row' "for" ::
      word none first "(" :: (headWord kind row₁ ++ [left, word (some "operator") sign "of",
        right, word none last ")", body]))) "await" = false := by
    cases kind with
    | none => simp [Node.hasToken, headWord, isLeft.named, isRight.named, isBody.named]
    | some kind =>
        cases kind <;> simp [Node.hasToken, headWord, isLeft.named, isRight.named, isBody.named,
          DeclarationKind.word]
  rw [statement]
  simp only [Node.kind_mk, isOf, notAwait]
  rw [forTarget_eq (.inr rfl) isLeft isRight isBody,
    expressionAt_eq (e := right) "right"
      (by cases kind <;> simp [Node.part?_mk, headWord, isLeft.plays, isRight.plays]),
    statementAt_eq (e := body) "body" (by
      cases kind <;>
        simp [Node.part?_mk, headWord, isLeft.plays, isRight.plays, isBody.plays])]
  rfl

end Loops

theorem statement_break {row' last : Nat} {labels : List Node} :
    statement (branch "break_statement" field row text
      (word none row' "break" :: (labels ++ [word none last ";"]))) =
      .break ((labels.find? (·.plays "label")).map Node.text) := by
  rw [statement]
  simp [label?, Node.part?_mk, List.find?_append]

theorem statement_continue {row' last : Nat} {labels : List Node} :
    statement (branch "continue_statement" field row text
      (word none row' "continue" :: (labels ++ [word none last ";"]))) =
      .continue ((labels.find? (·.plays "label")).map Node.text) := by
  rw [statement]
  simp [label?, Node.part?_mk, List.find?_append]

end Lower

end SketchSurvey.Script

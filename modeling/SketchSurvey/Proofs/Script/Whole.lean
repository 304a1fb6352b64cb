import SketchSurvey.Script.Parse

/-! What a concrete tree stands for. Lowering gives the same where the tree has the parts that it needs;
where one is missing, something is put in its place here. -/

set_option autoImplicit false

namespace SketchSurvey.Script

namespace Lower

mutual

def expression (n : Node) : Expr :=
  match n.kind with
  | "parenthesized_expression" =>
    match _h : n.firstPart? with
    | some e => expression e
    | none => default
  | "identifier" | "undefined" => .identifier n.text
  | "assignment_expression" | "augmented_assignment_expression" =>
    .assign (((n.part? "operator").map Node.text).getD "=") (patternAt n "left")
      (expressionAt n "right")
  | "binary_expression" =>
    let operator := ((n.part? "operator").map Node.text).getD ""
    if isLogical operator then .unsupported "LogicalExpression" n.line
    else .binary operator (expressionAt n "left") (expressionAt n "right")
  | "call_expression" =>
    if isOptionalChain n then .unsupported "ChainExpression" n.line
    else
      match _h : n.part? "arguments" with
      | some args =>
        if args.kind == "template_string" then .unsupported "TaggedTemplateExpression" n.line
        else if (n.part? "function").any fun f => f.kind == "import" then
          .unsupported "ImportExpression" n.line
        else
          .call (receiverAt n "function") (args.parts.attach.map fun ⟨a, _ha⟩ => argument a)
      | none => default
  | "member_expression" =>
    if isOptionalChain n then .unsupported "ChainExpression" n.line
    else
      .member (receiverAt n "object") <|
        match n.part? "property" with
        | some p =>
          if p.kind == "private_property_identifier" then
            .privateName (String.ofList (p.text.toList.dropWhile (· == '#')))
          else .name p.text
        | none => .name ""
  | "subscript_expression" =>
    if isOptionalChain n then .unsupported "ChainExpression" n.line
    else .member (receiverAt n "object") (.computed (expressionAt n "index"))
  | kind =>
    if isLiteral kind then .literal n.text
    else .unsupported (expressionName kind) n.line
termination_by (sizeOf n, 1)
decreasing_by
  · exact Prod.Lex.left _ _ (Node.sizeOf_lt_of_mem (Node.mem_of_firstPart? _h))
  · exact Prod.Lex.right _ (by decide)
  · exact Prod.Lex.right _ (by decide)
  · exact Prod.Lex.right _ (by decide)
  · exact Prod.Lex.right _ (by decide)
  · exact Prod.Lex.right _ (by decide)
  · exact Prod.Lex.left _ _ <|
      Nat.lt_trans (Node.sizeOf_lt_of_mem (Node.mem_of_mem_parts _ha))
        (Node.sizeOf_lt_of_mem (Node.mem_of_part? _h))
  · exact Prod.Lex.right _ (by decide)
  · exact Prod.Lex.right _ (by decide)
  · exact Prod.Lex.right _ (by decide)

def argument (n : Node) : Argument :=
  if n.kind == "spread_element" then
    match _h : n.firstPart? with
    | some e => .spread (expression e)
    | none => .spread default
  else .expr (expression n)
termination_by (sizeOf n, 2)
decreasing_by
  · exact Prod.Lex.left _ _ (Node.sizeOf_lt_of_mem (Node.mem_of_firstPart? _h))
  · exact Prod.Lex.right _ (by decide)

/-- The expression that plays a part in a node. -/
def expressionAt (n : Node) (field : String) : Expr :=
  match _h : n.part? field with
  | some e => expression e
  | none => default
termination_by (sizeOf n, 0)
decreasing_by exact Prod.Lex.left _ _ (Node.sizeOf_lt_of_mem (Node.mem_of_part? _h))

def receiverAt (n : Node) (field : String) : Receiver :=
  match _h : n.part? field with
  | some e => if e.kind == "super" then .super else .expr (expression e)
  | none => .expr default
termination_by (sizeOf n, 0)
decreasing_by exact Prod.Lex.left _ _ (Node.sizeOf_lt_of_mem (Node.mem_of_part? _h))

def patternAt (n : Node) (field : String) : Pattern :=
  match _h : n.part? field with
  | some p => pattern p
  | none => default
termination_by (sizeOf n, 0)
decreasing_by exact Prod.Lex.left _ _ (Node.sizeOf_lt_of_mem (Node.mem_of_part? _h))

def pattern (n : Node) : Pattern :=
  match n.kind with
  | "identifier" | "undefined" | "shorthand_property_identifier_pattern" => .identifier n.text
  | "object_pattern" => .object (n.parts.attach.map fun ⟨c, _hc⟩ => patternProperty c)
  | "array_pattern" => .array (n.parts.attach.map fun ⟨c, _hc⟩ => pattern c)
  | "rest_pattern" =>
    match _h : n.firstPart? with
    | some p => .rest (pattern p)
    | none => .rest default
  | "assignment_pattern" => .withDefault (patternAt n "left") (expressionAt n "right")
  | "member_expression" | "subscript_expression" => .target (expression n)
  | "parenthesized_expression" =>
    match _h : n.firstPart? with
    | some p => pattern p
    | none => default
  | kind => .unsupported (camelCase kind) n.line
termination_by (sizeOf n, 2)
decreasing_by
  · exact Prod.Lex.left _ _ (Node.sizeOf_lt_of_mem (Node.mem_of_mem_parts _hc))
  · exact Prod.Lex.left _ _ (Node.sizeOf_lt_of_mem (Node.mem_of_mem_parts _hc))
  · exact Prod.Lex.left _ _ (Node.sizeOf_lt_of_mem (Node.mem_of_firstPart? _h))
  · exact Prod.Lex.right _ (by decide)
  · exact Prod.Lex.right _ (by decide)
  · exact Prod.Lex.right _ (by decide)
  · exact Prod.Lex.left _ _ (Node.sizeOf_lt_of_mem (Node.mem_of_firstPart? _h))

def patternProperty (n : Node) : PatternProperty :=
  match n.kind with
  | "pair_pattern" => .pair (((n.part? "key").map Node.text).getD "") (patternAt n "value")
  | "object_assignment_pattern" =>
    .pair (((n.part? "left").map Node.text).getD "")
      (.withDefault (patternAt n "left") (expressionAt n "right"))
  | "rest_pattern" =>
    match _h : n.firstPart? with
    | some p => .rest (pattern p)
    | none => .rest default
  | _ => .pair n.text (pattern n)
termination_by (sizeOf n, 3)
decreasing_by
  · exact Prod.Lex.right _ (by decide)
  · exact Prod.Lex.right _ (by decide)
  · exact Prod.Lex.right _ (by decide)
  · exact Prod.Lex.left _ _ (Node.sizeOf_lt_of_mem (Node.mem_of_firstPart? _h))
  · exact Prod.Lex.right _ (by decide)

end

def optionalExpressionAt (n : Node) (field : String) : Option Expr :=
  (n.part? field).map expression

def declarator (n : Node) : Declarator where
  id := patternAt n "name"
  init := optionalExpressionAt n "value"

def variableDeclaration (n : Node) : VariableDeclaration where
  kind := (declarationKind? n).getD .var
  declarations := (n.parts.filter fun c => c.kind == "variable_declarator").map declarator

/-- The expression of an expression statement, or the node itself as an expression. -/
def clauseExpression (n : Node) : Expr :=
  if n.kind == "expression_statement" then (n.firstPart?.map expression).getD default
  else expression n

def forInit (n : Node) : ForInit :=
  match forClause? n "initializer" with
  | none => .none
  | some c => if isDeclaration c.kind then .declaration (variableDeclaration c)
    else .expr (clauseExpression c)

/-- What takes the values of a `for` over a collection. -/
def forTarget (n : Node) : ForTarget :=
  let left := patternAt n "left"
  match declarationKind? n with
  | some kind => .declaration { kind, declarations := [{ id := left, init := none }] }
  | none => .pattern left

mutual

def statement (n : Node) : Statement :=
  match n.kind with
  | "function_declaration" | "generator_function_declaration" =>
    .function ((n.part? "name").map Node.text)
      (((n.part? "parameters").elim [] Node.parts).map pattern)
      (match _h : n.part? "body" with
        | some b => block b
        | none => [])
      (n.hasToken "async")
      (n.kind == "generator_function_declaration" || n.hasToken "*")
  | "statement_block" => .block (block n)
  | "expression_statement" => .expression ((n.firstPart?.map expression).getD default)
  | "do_statement" => .doWhile (statementAt n "body") (expressionAt n "condition")
  | "while_statement" => .while (expressionAt n "condition") (statementAt n "body")
  | "for_statement" =>
    .for (forInit n) ((forClause? n "condition").map clauseExpression)
      (optionalExpressionAt n "increment") (statementAt n "body")
  | "for_in_statement" =>
    if isOfLoop n then
      .forOf (forTarget n) (expressionAt n "right") (statementAt n "body") (n.hasToken "await")
    else .forIn (forTarget n) (expressionAt n "right") (statementAt n "body")
  | "if_statement" =>
    .if (expressionAt n "condition") (statementAt n "consequence")
      (match _h : elsePart? n with
        | some a => some (statement a)
        | none => none)
  | "labeled_statement" => .labeled ((label? n).getD "") (statementAt n "body")
  | "return_statement" => .return (n.firstPart?.map expression)
  | "break_statement" => .break (label? n)
  | "continue_statement" => .continue (label? n)
  | "debugger_statement" => .debugger
  | "empty_statement" => .empty
  | "variable_declaration" | "lexical_declaration" => .declaration (variableDeclaration n)
  | "try_statement" =>
    .unsupported "TryStatement" n.line <|
      (tryBlocks n).attach.map fun ⟨c, _hc⟩ => statement c
  | "switch_statement" =>
    .unsupported "SwitchStatement" n.line <|
      (caseStatements n).attach.map fun ⟨c, _hc⟩ => statement c
  | "with_statement" =>
    .unsupported "WithStatement" n.line <|
      (n.part? "body").toList.attach.map fun ⟨c, _hc⟩ => statement c
  | kind => .unsupported (statementName kind) n.line []
termination_by (sizeOf n, 1)
decreasing_by
  · exact Prod.Lex.left _ _ (Node.sizeOf_lt_of_mem (Node.mem_of_part? _h))
  · exact Prod.Lex.right _ (by decide)
  · exact Prod.Lex.right _ (by decide)
  · exact Prod.Lex.right _ (by decide)
  · exact Prod.Lex.right _ (by decide)
  · exact Prod.Lex.right _ (by decide)
  · exact Prod.Lex.right _ (by decide)
  · exact Prod.Lex.right _ (by decide)
  · exact Prod.Lex.left _ _ (sizeOf_lt_of_elsePart? _h)
  · exact Prod.Lex.right _ (by decide)
  · exact Prod.Lex.left _ _ (sizeOf_lt_of_mem_tryBlocks _hc)
  · exact Prod.Lex.left _ _ (sizeOf_lt_of_mem_caseStatements _hc)
  · exact Prod.Lex.left _ _ (Node.sizeOf_lt_of_mem (Node.mem_of_part? (Option.mem_toList.mp _hc)))

/-- The statement that plays a part in a node. -/
def statementAt (n : Node) (field : String) : Statement :=
  match _h : n.part? field with
  | some s => statement s
  | none => .empty
termination_by (sizeOf n, 0)
decreasing_by exact Prod.Lex.left _ _ (Node.sizeOf_lt_of_mem (Node.mem_of_part? _h))

def block (n : Node) : List Statement :=
  n.parts.attach.map fun ⟨c, _hc⟩ => statement c
termination_by (sizeOf n, 0)
decreasing_by exact Prod.Lex.left _ _ (Node.sizeOf_lt_of_mem (Node.mem_of_mem_parts _hc))

end

def program (n : Node) : Program := ⟨n.parts.map statement⟩

theorem map_attach {α : Type} (f : Node → α) (nodes : List Node) :
    (nodes.attach.map fun ⟨c, _⟩ => f c) = nodes.map f := by
  simp

section Found

variable {n e : Node}

/-- Lowering goes on with the node that is found. -/
theorem match_found {β : Type} {found? : Option Node} (next : Node → β) (otherwise : β) :
    found? = some e →
      (match _h : found? with
        | some n => next n
        | none => otherwise) = next e := by
  rintro rfl
  rfl

theorem expressionAt_eq (part : String) (found : n.part? part = some e) :
    expressionAt n part = expression e := by
  rw [expressionAt]
  exact match_found expression _ found

theorem receiverAt_eq_ite (part : String) (found : n.part? part = some e) :
    receiverAt n part = if e.kind == "super" then .super else .expr (expression e) := by
  rw [receiverAt]
  exact match_found (fun e => if e.kind == "super" then Receiver.super else .expr (expression e)) _ found

theorem receiverAt_eq (part : String) (found : n.part? part = some e) (notSuper : e.kind ≠ "super") :
    receiverAt n part = .expr (expression e) := by
  rw [receiverAt_eq_ite part found, if_neg (by simpa using notSuper)]

theorem patternAt_eq (part : String) (found : n.part? part = some e) :
    patternAt n part = pattern e := by
  rw [patternAt]
  exact match_found pattern _ found

/-- A call that is no link of an optional chain is lowered by what its arguments are. -/
theorem expression_of_call {list : Node} (isCall : n.kind = "call_expression")
    (unlinked : ¬ isOptionalChain n = true) (found : n.part? "arguments" = some list) :
    expression n =
      if list.kind == "template_string" then .unsupported "TaggedTemplateExpression" n.line
      else if (n.part? "function").any fun f => f.kind == "import" then
        .unsupported "ImportExpression" n.line
      else .call (receiverAt n "function") (list.parts.attach.map fun ⟨a, _⟩ => argument a) := by
  rw [expression]
  simp only [isCall]
  rw [if_neg unlinked]
  exact match_found (fun list =>
    if list.kind == "template_string" then Expr.unsupported "TaggedTemplateExpression" n.line
    else if (n.part? "function").any fun f => f.kind == "import" then
      .unsupported "ImportExpression" n.line
    else .call (receiverAt n "function") (list.parts.attach.map fun ⟨a, _⟩ => argument a)) _ found

theorem statementAt_eq (part : String) (found : n.part? part = some e) :
    statementAt n part = statement e := by
  rw [statementAt]
  exact match_found statement _ found

end Found

end Lower

end SketchSurvey.Script

import SketchSurvey.Script.Ast
import SketchSurvey.Script.Lower

/-!
From the concrete tree to the kinds that the analyses know. A node may lack a part that its kind always has
by the grammar; lowering fails there.
-/

set_option autoImplicit false

namespace SketchSurvey.Script

/-- A part is missing that was asked for something. -/
structure MissingPart where
  asked : String
  deriving BEq, Repr, DecidableEq

def MissingPart.message (p : MissingPart) : String :=
  "'NoneType' object has no attribute '" ++ p.asked ++ "'"

namespace Lowering

open Lower

abbrev Lowered (α : Type) := Except MissingPart α

/-- Fails because what is asked is not there. -/
def missing {α : Type} (asked : String) : Lowered α := .error { asked }

/-- The text of the part that a node must have. -/
def textAt (n : Node) (field : String) : Lowered String :=
  match n.part? field with
  | some p => .ok p.text
  | none => missing "text"

/-- How a member after a dot is named. -/
def memberName (n : Node) : Lowered Property :=
  match n.part? "property" with
  | some p =>
    .ok <| if p.kind == "private_property_identifier" then
      .privateName (String.ofList (p.text.toList.dropWhile (· == '#')))
    else .name p.text
  | none => missing "type"

mutual

def expression (n : Node) : Lowered Expr :=
  match n.kind with
  | "parenthesized_expression" => firstExpression n
  | "identifier" | "undefined" => .ok (.identifier n.text)
  | "assignment_expression" | "augmented_assignment_expression" => do
    let left ← patternAt n "left"
    let right ← expressionAt n "right"
    return .assign (((n.part? "operator").map Node.text).getD "=") left right
  | "binary_expression" => do
    let operator ← textAt n "operator"
    if isLogical operator then return .unsupported "LogicalExpression" n.line
    else
      let left ← expressionAt n "left"
      let right ← expressionAt n "right"
      return .binary operator left right
  | "call_expression" =>
    if isOptionalChain n then .ok (.unsupported "ChainExpression" n.line)
    else
      match _h : n.part? "arguments" with
      | some list =>
        if list.kind == "template_string" then .ok (.unsupported "TaggedTemplateExpression" n.line)
        else if (n.part? "function").isNone then missing "type"
        else if (n.part? "function").any fun f => f.kind == "import" then
          .ok (.unsupported "ImportExpression" n.line)
        else do
          let arguments ← list.parts.attach.mapM fun ⟨a, _ha⟩ => argument a
          let callee ← receiverAt n "function"
          return .call callee arguments
      | none => missing "type"
  | "member_expression" =>
    if isOptionalChain n then .ok (.unsupported "ChainExpression" n.line)
    else do
      let property ← memberName n
      let object ← receiverAt n "object"
      return .member object property
  | "subscript_expression" =>
    if isOptionalChain n then .ok (.unsupported "ChainExpression" n.line)
    else do
      let object ← receiverAt n "object"
      let index ← expressionAt n "index"
      return .member object (.computed index)
  | kind =>
    .ok <| if isLiteral kind then .literal n.text
      else .unsupported (expressionName kind) n.line
termination_by (sizeOf n, 1)
decreasing_by
  · exact Prod.Lex.right _ (by decide)
  · exact Prod.Lex.right _ (by decide)
  · exact Prod.Lex.right _ (by decide)
  · exact Prod.Lex.right _ (by decide)
  · exact Prod.Lex.right _ (by decide)
  · exact Prod.Lex.left _ _ <|
      Nat.lt_trans (Node.sizeOf_lt_of_mem (Node.mem_of_mem_parts _ha))
        (Node.sizeOf_lt_of_mem (Node.mem_of_part? _h))
  · exact Prod.Lex.right _ (by decide)
  · exact Prod.Lex.right _ (by decide)
  · exact Prod.Lex.right _ (by decide)
  · exact Prod.Lex.right _ (by decide)

def argument (n : Node) : Lowered Argument :=
  if n.kind == "spread_element" then return .spread (← firstExpression n)
  else return .expr (← expression n)
termination_by (sizeOf n, 2)
decreasing_by
  · exact Prod.Lex.right _ (by decide)
  · exact Prod.Lex.right _ (by decide)

/-- The first part of a node, as an expression. -/
def firstExpression (n : Node) : Lowered Expr :=
  match _h : n.firstPart? with
  | some e => expression e
  | none => missing "type"
termination_by (sizeOf n, 0)
decreasing_by exact Prod.Lex.left _ _ (Node.sizeOf_lt_of_mem (Node.mem_of_firstPart? _h))

/-- The expression that plays a part in a node. -/
def expressionAt (n : Node) (field : String) : Lowered Expr :=
  match _h : n.part? field with
  | some e => expression e
  | none => missing "type"
termination_by (sizeOf n, 0)
decreasing_by exact Prod.Lex.left _ _ (Node.sizeOf_lt_of_mem (Node.mem_of_part? _h))

def receiverAt (n : Node) (field : String) : Lowered Receiver :=
  match _h : n.part? field with
  | some e => if e.kind == "super" then .ok .super else return .expr (← expression e)
  | none => missing "type"
termination_by (sizeOf n, 0)
decreasing_by exact Prod.Lex.left _ _ (Node.sizeOf_lt_of_mem (Node.mem_of_part? _h))

def patternAt (n : Node) (field : String) : Lowered Pattern :=
  match _h : n.part? field with
  | some p => pattern p
  | none => missing "type"
termination_by (sizeOf n, 0)
decreasing_by exact Prod.Lex.left _ _ (Node.sizeOf_lt_of_mem (Node.mem_of_part? _h))

/-- The first part of a node, as a pattern. -/
def firstPattern (n : Node) : Lowered Pattern :=
  match _h : n.firstPart? with
  | some p => pattern p
  | none => missing "type"
termination_by (sizeOf n, 0)
decreasing_by exact Prod.Lex.left _ _ (Node.sizeOf_lt_of_mem (Node.mem_of_firstPart? _h))

def pattern (n : Node) : Lowered Pattern :=
  match n.kind with
  | "identifier" | "undefined" | "shorthand_property_identifier_pattern" => .ok (.identifier n.text)
  | "object_pattern" => return .object (← n.parts.attach.mapM fun ⟨c, _hc⟩ => patternProperty c)
  | "array_pattern" => return .array (← n.parts.attach.mapM fun ⟨c, _hc⟩ => pattern c)
  | "rest_pattern" => return .rest (← firstPattern n)
  | "assignment_pattern" => do
    let left ← patternAt n "left"
    let right ← expressionAt n "right"
    return .withDefault left right
  | "member_expression" | "subscript_expression" => return .target (← expression n)
  | "parenthesized_expression" => firstPattern n
  | kind => .ok (.unsupported (camelCase kind) n.line)
termination_by (sizeOf n, 2)
decreasing_by
  · exact Prod.Lex.left _ _ (Node.sizeOf_lt_of_mem (Node.mem_of_mem_parts _hc))
  · exact Prod.Lex.left _ _ (Node.sizeOf_lt_of_mem (Node.mem_of_mem_parts _hc))
  · exact Prod.Lex.right _ (by decide)
  · exact Prod.Lex.right _ (by decide)
  · exact Prod.Lex.right _ (by decide)
  · exact Prod.Lex.right _ (by decide)
  · exact Prod.Lex.right _ (by decide)

def patternProperty (n : Node) : Lowered PatternProperty :=
  match n.kind with
  | "pair_pattern" => do
    let key ← textAt n "key"
    let value ← patternAt n "value"
    return .pair key value
  | "object_assignment_pattern" => do
    let key ← textAt n "left"
    let left ← patternAt n "left"
    let right ← expressionAt n "right"
    return .pair key (.withDefault left right)
  | "rest_pattern" => return .rest (← firstPattern n)
  | _ => return .pair n.text (← pattern n)
termination_by (sizeOf n, 3)
decreasing_by
  · exact Prod.Lex.right _ (by decide)
  · exact Prod.Lex.right _ (by decide)
  · exact Prod.Lex.right _ (by decide)
  · exact Prod.Lex.right _ (by decide)
  · exact Prod.Lex.right _ (by decide)

end

def optionalExpressionAt (n : Node) (field : String) : Lowered (Option Expr) :=
  (n.part? field).mapM expression

def declarator (n : Node) : Lowered Declarator := do
  let id ← patternAt n "name"
  let init ← optionalExpressionAt n "value"
  return { id, init }

def variableDeclaration (n : Node) : Lowered VariableDeclaration := do
  let declarations ← (n.parts.filter fun c => c.kind == "variable_declarator").mapM declarator
  return { kind := (declarationKind? n).getD .var, declarations }

/-- The expression of an expression statement, or the node itself as an expression. -/
def clauseExpression (n : Node) : Lowered Expr :=
  if n.kind == "expression_statement" then firstExpression n else expression n

def forInit (n : Node) : Lowered ForInit :=
  match forClause? n "initializer" with
  | none => .ok .none
  | some c =>
    if isDeclaration c.kind then return .declaration (← variableDeclaration c)
    else return .expr (← clauseExpression c)

/-- What takes the values of a `for` over a collection. -/
def forTarget (n : Node) : Lowered ForTarget := do
  let left ← patternAt n "left"
  match declarationKind? n with
  | some kind => return .declaration { kind, declarations := [{ id := left, init := none }] }
  | none => return .pattern left

mutual

def statement (n : Node) : Lowered Statement :=
  match n.kind with
  | "function_declaration" | "generator_function_declaration" => do
    let params ← ((n.part? "parameters").elim [] Node.parts).mapM pattern
    let body ← blockAt n "body"
    return .function ((n.part? "name").map Node.text) params body (n.hasToken "async")
      (n.kind == "generator_function_declaration" || n.hasToken "*")
  | "statement_block" => return .block (← block n)
  | "expression_statement" => return .expression (← firstExpression n)
  | "do_statement" => do
    let body ← statementAt n "body"
    let test ← expressionAt n "condition"
    return .doWhile body test
  | "while_statement" => do
    let test ← expressionAt n "condition"
    let body ← statementAt n "body"
    return .while test body
  | "for_statement" => do
    let init ← forInit n
    let test ← (forClause? n "condition").mapM clauseExpression
    let update ← optionalExpressionAt n "increment"
    let body ← statementAt n "body"
    return .for init test update body
  | "for_in_statement" => do
    let left ← forTarget n
    let right ← expressionAt n "right"
    let body ← statementAt n "body"
    if isOfLoop n then return .forOf left right body (n.hasToken "await")
    else return .forIn left right body
  | "if_statement" => do
    let other ← alternate n
    let test ← expressionAt n "condition"
    let consequent ← statementAt n "consequence"
    return .if test consequent other
  | "labeled_statement" => do
    let label ← textAt n "label"
    let body ← statementAt n "body"
    return .labeled label body
  | "return_statement" => return .return (← n.firstPart?.mapM expression)
  | "break_statement" => .ok (.break (label? n))
  | "continue_statement" => .ok (.continue (label? n))
  | "debugger_statement" => .ok .debugger
  | "empty_statement" => .ok .empty
  | "variable_declaration" | "lexical_declaration" => return .declaration (← variableDeclaration n)
  | "try_statement" =>
    return .unsupported "TryStatement" n.line
      (← (tryBlocks n).attach.mapM fun ⟨c, _hc⟩ => statement c)
  | "switch_statement" =>
    if (n.part? "body").isNone then missing "named_children"
    else
      return .unsupported "SwitchStatement" n.line
        (← (caseStatements n).attach.mapM fun ⟨c, _hc⟩ => statement c)
  | "with_statement" =>
    return .unsupported "WithStatement" n.line
      (← (n.part? "body").toList.attach.mapM fun ⟨c, _hc⟩ => statement c)
  | kind => .ok (.unsupported (statementName kind) n.line [])
termination_by (sizeOf n, 1)
decreasing_by
  · exact Prod.Lex.right _ (by decide)
  · exact Prod.Lex.right _ (by decide)
  · exact Prod.Lex.right _ (by decide)
  · exact Prod.Lex.right _ (by decide)
  · exact Prod.Lex.right _ (by decide)
  · exact Prod.Lex.right _ (by decide)
  · exact Prod.Lex.right _ (by decide)
  · exact Prod.Lex.right _ (by decide)
  · exact Prod.Lex.right _ (by decide)
  · exact Prod.Lex.left _ _ (sizeOf_lt_of_mem_tryBlocks _hc)
  · exact Prod.Lex.left _ _ (sizeOf_lt_of_mem_caseStatements _hc)
  · exact Prod.Lex.left _ _ (Node.sizeOf_lt_of_mem (Node.mem_of_part? (Option.mem_toList.mp _hc)))

/-- The statement that plays a part in a node. -/
def statementAt (n : Node) (field : String) : Lowered Statement :=
  match _h : n.part? field with
  | some s => statement s
  | none => missing "type"
termination_by (sizeOf n, 0)
decreasing_by exact Prod.Lex.left _ _ (Node.sizeOf_lt_of_mem (Node.mem_of_part? _h))

/-- The statement of an `else`, if there is one. -/
def alternate (n : Node) : Lowered (Option Statement) :=
  match _h : elsePart? n with
  | some s => return some (← statement s)
  | none => if (n.part? "alternative").isSome then missing "type" else .ok none
termination_by (sizeOf n, 0)
decreasing_by exact Prod.Lex.left _ _ (sizeOf_lt_of_elsePart? _h)

/-- The statements of the block that plays a part in a node. -/
def blockAt (n : Node) (field : String) : Lowered (List Statement) :=
  match _h : n.part? field with
  | some b => block b
  | none => missing "named_children"
termination_by (sizeOf n, 0)
decreasing_by exact Prod.Lex.left _ _ (Node.sizeOf_lt_of_mem (Node.mem_of_part? _h))

def block (n : Node) : Lowered (List Statement) :=
  n.parts.attach.mapM fun ⟨c, _hc⟩ => statement c
termination_by (sizeOf n, 0)
decreasing_by exact Prod.Lex.left _ _ (Node.sizeOf_lt_of_mem (Node.mem_of_mem_parts _hc))

end

def program (n : Node) : Lowered Program := return ⟨← n.parts.mapM statement⟩

end Lowering

end SketchSurvey.Script

import SketchSurvey.Script.Ast
import SketchSurvey.Script.Node

/-!
What lowering looks at in a concrete tree, and the names that it gives.
-/

set_option autoImplicit false

namespace SketchSurvey.Script

namespace Lower

/-- The first letter in upper case and the others in lower case, for each word of a name that
underscores divide. -/
def camelCase (kind : String) : String :=
  String.join <| (kind.splitOn "_").map fun w =>
    match w.toList with
    | [] => ""
    | c :: rest => String.ofList (c.toUpper :: rest.map Char.toLower)

/-- The names of statements that are kept as placeholders. -/
def statementName (kind : String) : String :=
  match kind with
  | "with_statement" => "WithStatement"
  | "switch_statement" => "SwitchStatement"
  | "throw_statement" => "ThrowStatement"
  | "try_statement" => "TryStatement"
  | "class_declaration" => "ClassDeclaration"
  | "import_statement" => "ImportDeclaration"
  | "export_statement" => "ExportNamedDeclaration"
  | _ => camelCase kind

/-- The names of expressions that are kept as placeholders. -/
def expressionName (kind : String) : String :=
  match kind with
  | "this" => "ThisExpression"
  | "super" => "Super"
  | "array" => "ArrayExpression"
  | "object" => "ObjectExpression"
  | "function" | "function_expression" | "generator_function" => "FunctionExpression"
  | "arrow_function" => "ArrowFunctionExpression"
  | "yield_expression" => "YieldExpression"
  | "unary_expression" => "UnaryExpression"
  | "update_expression" => "UpdateExpression"
  | "ternary_expression" => "ConditionalExpression"
  | "new_expression" => "NewExpression"
  | "sequence_expression" => "SequenceExpression"
  | "template_string" => "TemplateLiteral"
  | "class" => "ClassExpression"
  | "meta_property" => "MetaProperty"
  | "await_expression" => "AwaitExpression"
  | "jsx_element" | "jsx_self_closing_element" => "JSXElement"
  | _ => camelCase kind

def isLiteral (kind : String) : Bool :=
  ["number", "string", "true", "false", "null", "regex"].contains kind

/-- The operators that may leave their right side out. -/
def isLogical (operator : String) : Bool := ["&&", "||", "??"].contains operator

def isChain (kind : String) : Bool :=
  ["call_expression", "member_expression", "subscript_expression"].contains kind

/-- Whether a chain of calls and members holds an optional link. -/
def isOptionalChain (n : Node) : Bool :=
  if isChain n.kind then
    if n.children.any fun c => c.kind == "optional_chain" then true
    else
      match _hf : n.part? "function" with
      | some f => isOptionalChain f
      | none =>
        match _ho : n.part? "object" with
        | some o => isOptionalChain o
        | none => false
  else false
termination_by sizeOf n
decreasing_by
  · exact Node.sizeOf_lt_of_mem (Node.mem_of_part? _hf)
  · exact Node.sizeOf_lt_of_mem (Node.mem_of_part? _ho)

def declarationKind? (n : Node) : Option DeclarationKind :=
  n.children.findSome? fun c =>
    if c.named then none
    else match c.kind with
      | "var" => some .var
      | "let" => some .let
      | "const" => some .const
      | _ => none

def isDeclaration (kind : String) : Bool :=
  kind == "variable_declaration" || kind == "lexical_declaration"

/-- The head part of a `for` that may be left out. -/
def forClause? (n : Node) (field : String) : Option Node :=
  (n.part? field).filter fun c => c.named && c.kind != "empty_statement"

def label? (n : Node) : Option String := (n.part? "label").map Node.text

def isOfLoop (n : Node) : Bool :=
  (n.part? "operator").any (·.kind == "of") || n.hasToken "of" || n.hasToken "await"

/-- The blocks inside a `try`: its own, the handler's and the last. -/
def tryBlocks (n : Node) : List Node :=
  (n.part? "body").toList ++
    ((n.part? "handler").bind (·.part? "body")).toList ++
    ((n.part? "finalizer").bind (·.part? "body")).toList

/-- The statements inside the cases of a `switch`. -/
def caseStatements (n : Node) : List Node :=
  ((n.part? "body").elim [] Node.parts).flatMap (·.partsOf "body")

theorem sizeOf_lt_of_mem_tryBlocks {n c : Node} (h : c ∈ tryBlocks n) : sizeOf c < sizeOf n := by
  simp only [tryBlocks, List.mem_append, Option.mem_toList, Option.bind_eq_some_iff] at h
  rcases h with (h | ⟨d, hd, h⟩) | ⟨d, hd, h⟩
  · exact Node.sizeOf_lt_of_mem (Node.mem_of_part? h)
  · exact Nat.lt_trans (Node.sizeOf_lt_of_mem (Node.mem_of_part? h))
      (Node.sizeOf_lt_of_mem (Node.mem_of_part? hd))
  · exact Nat.lt_trans (Node.sizeOf_lt_of_mem (Node.mem_of_part? h))
      (Node.sizeOf_lt_of_mem (Node.mem_of_part? hd))

theorem sizeOf_lt_of_mem_caseStatements {n c : Node} (h : c ∈ caseStatements n) :
    sizeOf c < sizeOf n := by
  simp only [caseStatements, List.mem_flatMap] at h
  obtain ⟨d, hd, hc⟩ := h
  cases hb : n.part? "body" with
  | none => simp [hb] at hd
  | some b =>
    simp only [hb, Option.elim_some] at hd
    exact Nat.lt_trans (Node.sizeOf_lt_of_mem (Node.mem_of_mem_partsOf hc)) <|
      Nat.lt_trans (Node.sizeOf_lt_of_mem (Node.mem_of_mem_parts hd))
        (Node.sizeOf_lt_of_mem (Node.mem_of_part? hb))

/-- The statement of an `else`. -/
def elsePart? (n : Node) : Option Node :=
  (n.part? "alternative").bind fun a => if a.kind == "else_clause" then a.firstPart? else some a

theorem sizeOf_lt_of_elsePart? {n c : Node} (h : elsePart? n = some c) : sizeOf c < sizeOf n := by
  simp only [elsePart?, Option.bind_eq_some_iff] at h
  obtain ⟨a, ha, h⟩ := h
  have := Node.sizeOf_lt_of_mem (Node.mem_of_part? ha)
  split at h
  · exact Nat.lt_trans (Node.sizeOf_lt_of_mem (Node.mem_of_firstPart? h)) this
  · cases h
    exact this

end Lower

end SketchSurvey.Script

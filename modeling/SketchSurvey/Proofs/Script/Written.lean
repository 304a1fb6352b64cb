import SketchSurvey.Proofs.Script.Literal
import SketchSurvey.Proofs.Script.TreeParts

/-! The part of the script grammar that scripts with functions, calls and texts in quotes need, over the
tokens of any text. Blanks may stand in such a text wherever they may stand in a script. Signs that it may
leave out, such as the semicolon after a statement, are always there. -/

set_option autoImplicit false

namespace SketchSurvey.Script

open Node (branch leaf word enclosed)
open Token (semicolon)

/-- The kinds of expressions that need no brackets as an operand or before a dot or arguments. -/
def primaryKinds : List String :=
  ["identifier", "string", "parenthesized_expression", "function_expression", "call_expression",
    "member_expression"]

/-- The tree of a parameter. -/
inductive WrittenParameter : Node → List Token → Prop where
  | name {row name} : IsName name → WrittenParameter (leaf "identifier" none row name) [.name name]

mutual

/-- The tree of an expression. The first argument is the part that it plays in the node above. -/
inductive WrittenExpression : Option String → Node → List Token → Prop where
  | identifier {field row name} : IsName name →
      WrittenExpression field (leaf "identifier" field row name) [.name name]
  | text {field row quote content nodes first last} : Pieces quote content nodes →
      WrittenExpression field
        (branch "string" field row (quote.literal content)
          (word none first quote.mark.toString :: (nodes ++ [word none last quote.mark.toString])))
        [.mark (quote.literal content)]
  | parenthesized {field row text first last e ts} : WrittenExpression none e ts →
      WrittenExpression field
        (branch "parenthesized_expression" field row text (enclosed .round first last [e]))
        [.group .round ts]
  | function {field row text row' row₁ text₁ first last params ts row₂ text₂ first' last' body us} :
      Listed WrittenParameter params ts → Sequence (WrittenStatement none) body us →
      WrittenExpression field
        (branch "function_expression" field row text [word none row' "function",
          branch "formal_parameters" (some "parameters") row₁ text₁
            (enclosed .round first last params),
          branch "statement_block" (some "body") row₂ text₂ (enclosed .curly first' last' body)])
        [.mark "function", .group .round ts, .group .curly us]
  | call {field row text callee ts row' text' first last arguments us} :
      callee.kind ∈ primaryKinds → WrittenExpression (some "function") callee ts →
      Listed (WrittenExpression none) arguments us →
      WrittenExpression field
        (branch "call_expression" field row text [callee,
          branch "arguments" (some "arguments") row' text' (enclosed .round first last arguments)])
        (ts ++ [.group .round us])
  | member {field row text object ts dot row' name} :
      object.kind ∈ primaryKinds → WrittenExpression (some "object") object ts → IsName name →
      WrittenExpression field
        (branch "member_expression" field row text
          [object, word none dot ".", leaf "property_identifier" (some "property") row' name])
        (ts ++ [.mark ".", .name name])
  | sum {field row text left ts sign right us} :
      left.kind ∈ "binary_expression" :: primaryKinds → WrittenExpression (some "left") left ts →
      right.kind ∈ primaryKinds → WrittenExpression (some "right") right us →
      WrittenExpression field
        (branch "binary_expression" field row text
          [left, word (some "operator") sign "+", right])
        (ts ++ .mark "+" :: us)
  | assignment {field row text left ts sign right us} :
      left.kind ∈ ["identifier", "member_expression"] → WrittenExpression (some "left") left ts →
      WrittenExpression (some "right") right us →
      WrittenExpression field
        (branch "assignment_expression" field row text [left, word none sign "=", right])
        (ts ++ .mark "=" :: us)

inductive WrittenStatement : Option String → Node → List Token → Prop where
  /-- What starts with the word `function` is a declaration. -/
  | expression {field row text e ts row'} : ts.head? ≠ some (.mark "function") →
      WrittenExpression none e ts →
      WrittenStatement field
        (branch "expression_statement" field row text [e, word none row' ";"]) (ts ++ [semicolon])
  | declaration {field row text first last row₁ text₁ row₂ name sign value ts} : IsName name →
      WrittenExpression (some "value") value ts →
      WrittenStatement field
        (branch "variable_declaration" field row text [word none first "var",
          branch "variable_declarator" none row₁ text₁
            [leaf "identifier" (some "name") row₂ name, word none sign "=", value],
          word none last ";"])
        (.mark "var" :: .name name :: .mark "=" :: (ts ++ [semicolon]))
  | function {field row text row' row₁ name row₂ text₂ first last params ts row₃ text₃ first' last'
        body us} : IsName name → Listed WrittenParameter params ts →
      Sequence (WrittenStatement none) body us →
      WrittenStatement field
        (branch "function_declaration" field row text [word none row' "function",
          leaf "identifier" (some "name") row₁ name,
          branch "formal_parameters" (some "parameters") row₂ text₂
            (enclosed .round first last params),
          branch "statement_block" (some "body") row₃ text₃ (enclosed .curly first' last' body)])
        [.mark "function", .name name, .group .round ts, .group .curly us]
  | block {field row text first last nodes ts} : Sequence (WrittenStatement none) nodes ts →
      WrittenStatement field
        (branch "statement_block" field row text (enclosed .curly first last nodes))
        [.group .curly ts]
  | ifElse {field row text row' condition ts consequence us elseRow elseText elseRow' alternative
        vs} :
      WrittenExpression (some "condition") condition [.group .round ts] →
      WrittenStatement (some "consequence") consequence [.group .curly us] →
      WrittenStatement none alternative [.group .curly vs] →
      WrittenStatement field
        (branch "if_statement" field row text [word none row' "if", condition, consequence,
          branch "else_clause" (some "alternative") elseRow elseText
            [word none elseRow' "else", alternative]])
        [.mark "if", .group .round ts, .group .curly us, .mark "else", .group .curly vs]

end

inductive WrittenProgram : Node → List Token → Prop where
  | program {row text nodes ts} : Sequence (WrittenStatement none) nodes ts →
      WrittenProgram (branch "program" none row text nodes) ts

/-- What a reader of concrete trees promises for a text: if the grammar has a tree for its tokens, the
reader gives one. -/
def ReadsWritten (read : String → Node) (content : String) : Prop :=
  ∀ ts, tokensOfText content = some ts → (∃ root, WrittenProgram root ts) →
    WrittenProgram (read content) ts

theorem WrittenExpression.isPart {field : Option String} {n : Node} {ts : List Token}
    (tree : WrittenExpression field n ts) : n.IsPart field := by
  cases tree <;> exact ⟨rfl, rfl, rfl⟩

theorem WrittenStatement.isPart {field : Option String} {n : Node} {ts : List Token}
    (tree : WrittenStatement field n ts) : n.IsPart field := by
  cases tree <;> exact ⟨rfl, rfl, rfl⟩

theorem WrittenStatement.ne_nil {field : Option String} {n : Node} {ts : List Token}
    (tree : WrittenStatement field n ts) : ts ≠ [] := by
  cases tree <;> simp

theorem WrittenProgram.hasError_eq_false {root : Node} {ts : List Token}
    (tree : WrittenProgram root ts) : root.hasError = false := by
  cases tree
  rfl

section Parts

/-- A node of the tree of a written script. -/
inductive Node.Written : Node → Prop where
  | free {kind named field row text} : IsFree kind →
      Node.Written (.mk kind named false false row text field [])
  | parameters {field row text first last nodes ts} : Listed WrittenParameter nodes ts →
      Node.Written (branch "formal_parameters" field row text (enclosed .round first last nodes))
  | arguments {field row text first last nodes ts} : Listed (WrittenExpression none) nodes ts →
      Node.Written (branch "arguments" field row text (enclosed .round first last nodes))
  | body {field row text first last nodes ts} : Sequence (WrittenStatement none) nodes ts →
      Node.Written (branch "statement_block" field row text (enclosed .curly first last nodes))
  | expression {field n ts} : WrittenExpression field n ts → Node.Written n
  | statement {field n ts} : WrittenStatement field n ts → Node.Written n
  | declarator {row₁ text₁ row₂ name sign value ts} : WrittenExpression (some "value") value ts →
      Node.Written (branch "variable_declarator" none row₁ text₁
        [leaf "identifier" (some "name") row₂ name, Node.word none sign "=", value])
  | alternative {field row text row' n ts} : WrittenStatement none n ts →
      Node.Written (branch "else_clause" field row text [Node.word none row' "else", n])

theorem Node.written_enclosed {bracket : Bracket} {first last : Nat} {nodes : List Node}
    (inside : ∀ c ∈ nodes, c.Written) : ∀ c ∈ enclosed bracket first last nodes, c.Written :=
  forall_mem_enclosed (fun _ _ => .free) inside

theorem Listed.written {Item : Node → List Token → Prop} {nodes : List Node} {ts : List Token}
    (tree : Listed Item nodes ts) (each : ∀ c us, Item c us → c.Written) : ∀ c ∈ nodes, c.Written :=
  tree.forall_mem (fun _ _ => .free) each

theorem Sequence.written {nodes : List Node} {ts : List Token}
    (statements : Sequence (WrittenStatement none) nodes ts) : ∀ c ∈ nodes, c.Written :=
  statements.forall_mem fun _ _ => .statement

theorem Pieces.written {quote : Quote} {content : List Char} {nodes : List Node}
    (pieces : Pieces quote content nodes) : ∀ c ∈ nodes, c.Written := by
  induction pieces with
  | nil => exact List.forall_mem_nil _
  | fragment _ _ _ ih => exact List.forall_mem_cons.mpr ⟨.free (by decide), ih⟩
  | escape _ _ _ ih => exact List.forall_mem_cons.mpr ⟨.free (by decide), ih⟩

theorem WrittenExpression.sound {field : Option String} {n : Node} {ts : List Token}
    (tree : WrittenExpression field n ts) : n.HasParts ∧ ∀ c ∈ n.children, c.Written := by
  cases tree with
  | identifier => exact ⟨Node.hasParts_of_isFree (by decide), List.forall_mem_nil _⟩
  | @text _ _ quote _ _ _ _ pieces =>
      have mark : IsFree quote.mark.toString := by
        cases quote <;> decide
      refine ⟨Node.hasParts_of_isFree (by decide), ?_⟩
      simp only [Node.children_mk, List.forall_mem_cons, List.forall_mem_append]
      exact ⟨.free mark, pieces.written, .free mark, List.forall_mem_nil _⟩
  | parenthesized inner =>
      refine ⟨Node.hasParts_of_first rfl (.tail _ (.head _)) inner.isPart.shown, ?_⟩
      exact Node.written_enclosed (List.forall_mem_singleton.mpr (.expression inner))
  | function params body =>
      refine ⟨Node.hasParts_of_isFree (by decide), ?_⟩
      simp only [Node.children_mk, List.forall_mem_cons]
      exact ⟨.free (by decide), .parameters params, .body body, List.forall_mem_nil _⟩
  | call _ callee arguments =>
      refine ⟨Node.hasParts_of_fields (by decide) ?_, ?_⟩
      · simp [neededFields, callee.isPart.plays]
      · simp only [Node.children_mk, List.forall_mem_cons]
        exact ⟨.expression callee, .arguments arguments, List.forall_mem_nil _⟩
  | member _ object _ =>
      refine ⟨Node.hasParts_of_fields (by decide) ?_, ?_⟩
      · simp [neededFields, object.isPart.plays]
      · simp only [Node.children_mk, List.forall_mem_cons]
        exact ⟨.expression object, .free (by decide), .free (by decide), List.forall_mem_nil _⟩
  | sum _ left _ right =>
      refine ⟨Node.hasParts_of_fields (by decide) ?_, ?_⟩
      · simp [neededFields, left.isPart.plays, right.isPart.plays]
      · simp only [Node.children_mk, List.forall_mem_cons]
        exact ⟨.expression left, .free (by decide), .expression right, List.forall_mem_nil _⟩
  | assignment _ left right =>
      refine ⟨Node.hasParts_of_fields (by decide) ?_, ?_⟩
      · simp [neededFields, left.isPart.plays, right.isPart.plays]
      · simp only [Node.children_mk, List.forall_mem_cons]
        exact ⟨.expression left, .free (by decide), .expression right, List.forall_mem_nil _⟩

theorem WrittenStatement.sound {field : Option String} {n : Node} {ts : List Token}
    (tree : WrittenStatement field n ts) : n.HasParts ∧ ∀ c ∈ n.children, c.Written := by
  cases tree with
  | expression _ e =>
      refine ⟨Node.hasParts_of_first rfl (.head _) e.isPart.shown, ?_⟩
      exact List.forall_mem_cons.mpr ⟨.expression e, List.forall_mem_singleton.mpr (.free (by decide))⟩
  | declaration _ value =>
      refine ⟨Node.hasParts_of_isFree (by decide), ?_⟩
      simp only [Node.children_mk, List.forall_mem_cons]
      exact ⟨.free (by decide), .declarator value, .free (by decide), List.forall_mem_nil _⟩
  | function _ params body =>
      refine ⟨Node.hasParts_of_fields (by decide) (by simp [neededFields]), ?_⟩
      simp only [Node.children_mk, List.forall_mem_cons]
      exact ⟨.free (by decide), .free (by decide), .parameters params, .body body,
        List.forall_mem_nil _⟩
  | block statements =>
      exact ⟨Node.hasParts_of_isFree (by decide), Node.written_enclosed statements.written⟩
  | ifElse condition consequence alternative =>
      refine ⟨Node.hasParts_of_fields (by decide) ?_, ?_⟩
      · simp [neededFields, condition.isPart.plays, consequence.isPart.plays]
      · simp only [Node.children_mk, List.forall_mem_cons]
        exact ⟨.free (by decide), .expression condition, .statement consequence,
          .alternative alternative, List.forall_mem_nil _⟩

theorem WrittenParameter.written {n : Node} {ts : List Token} (tree : WrittenParameter n ts) :
    n.Written := by
  cases tree
  exact .free (by decide)

theorem Node.Written.sound {n : Node} (written : n.Written) :
    n.HasParts ∧ ∀ c ∈ n.children, c.Written := by
  cases written with
  | free free => exact ⟨Node.hasParts_of_isFree free, List.forall_mem_nil _⟩
  | parameters params =>
      exact ⟨Node.hasParts_of_isFree (by decide),
        Node.written_enclosed (params.written fun _ _ => WrittenParameter.written)⟩
  | arguments items =>
      exact ⟨Node.hasParts_of_isFree (by decide),
        Node.written_enclosed (items.written fun _ _ => .expression)⟩
  | body statements =>
      exact ⟨Node.hasParts_of_isFree (by decide), Node.written_enclosed statements.written⟩
  | expression tree => exact tree.sound
  | statement tree => exact tree.sound
  | declarator value =>
      refine ⟨Node.hasParts_of_fields (by decide) (by simp [neededFields]), ?_⟩
      simp only [Node.children_mk, List.forall_mem_cons]
      exact ⟨.free (by decide), .free (by decide), .expression value, List.forall_mem_nil _⟩
  | alternative statement =>
      refine ⟨Node.hasParts_of_first rfl (.tail _ (.head _)) statement.isPart.shown, ?_⟩
      exact List.forall_mem_cons.mpr ⟨.free (by decide), List.forall_mem_singleton.mpr (.statement statement)⟩

/-- The tree of a written script lacks nothing that lowering asks for. -/
theorem WrittenProgram.hasParts {root : Node} {ts : List Token} (tree : WrittenProgram root ts) :
    root.Everywhere Node.HasParts := by
  cases tree with
  | program statements =>
      refine .intro (Node.hasParts_of_isFree (by decide)) fun c isChild => ?_
      exact .of_closed (fun _ => Node.Written.sound) (statements.written c isChild)

end Parts

/-- A statement that starts with two groups in round brackets and a semicolon ends there, and is an
expression. -/
theorem WrittenStatement.expression_of_groups {n : Node} {ts us inner arguments : List Token}
    (tree : WrittenStatement none n ts)
    (same : ts ++ us = [.group .round inner, .group .round arguments, semicolon]) :
    us = [] ∧ ∃ e, Lower.statement n = .expression e := by
  cases tree with
  | @expression _ row text e es row' notFunction isExpression =>
      refine ⟨?_, Lower.expression e, Lower.statement_expression isExpression.isPart⟩
      -- Its semicolon is the only one, so the expression takes just the two groups before it.
      rcases es with _ | ⟨first, _ | ⟨second, _ | ⟨third, more⟩⟩⟩
      · cases same
      · cases same
      · cases same
        rfl
      · simp at same
  | declaration | function | block | ifElse => cases same

theorem Sequence.eq_nil {nodes : List Node} {ts : List Token}
    (statements : Sequence (WrittenStatement none) nodes ts) (empty : ts = []) : nodes = [] := by
  cases statements with
  | nil => rfl
  | cons first _ => exact absurd (List.append_eq_nil_iff.mp empty).1 first.ne_nil

/-- The tree of two groups in round brackets and a semicolon is one statement, an expression. -/
theorem WrittenProgram.lowers_groups {root : Node} {inner arguments : List Token}
    (tree : WrittenProgram root [.group .round inner, .group .round arguments, semicolon]) :
    ∃ e, Lower.program root = { body := [.expression e] } := by
  generalize same : [Token.group .round inner, .group .round arguments, semicolon] = ts at tree
  cases tree with
  | program statements =>
      cases statements with
      | nil => cases same
      | @cons n nodes _ _ first rest =>
          obtain ⟨empty, e, lowered⟩ := first.expression_of_groups same.symm
          cases rest.eq_nil empty
          refine ⟨e, ?_⟩
          rw [Lower.program, Node.parts_eq_filter, Node.children_mk,
            List.filter_cons_of_pos first.isPart.shown, List.filter_nil, List.map_singleton, lowered]

end SketchSurvey.Script

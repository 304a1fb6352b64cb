import SketchSurvey.Proofs.Script.Printable
import SketchSurvey.Script.Node

/-! The part of the script grammar that printable programs need, as relations between concrete trees
and tokens. What stands in a production is any tree that may stand there, not only one of something
printed. Signs that a text may leave out, such as the semicolon after a statement, are always there. -/

set_option autoImplicit false

namespace SketchSurvey.Script

namespace Node

/-- A node without an error that has a name. -/
abbrev branch (kind : String) (field : Option String) (row : Nat) (text : String)
    (children : List Node) : Node :=
  .mk kind true false false row text field children

abbrev leaf (kind : String) (field : Option String) (row : Nat) (text : String) : Node :=
  branch kind field row text []

/-- A word or mark. -/
abbrev word (field : Option String) (row : Nat) (text : String) : Node :=
  .mk text false false false row text field []

/-- Nodes between brackets. -/
def enclosed (bracket : Bracket) (first last : Nat) (inner : List Node) : List Node :=
  word none first bracket.opening :: (inner ++ [word none last bracket.closing])

def modifiers (present : Bool) (row : Nat) (text : String) : List Node :=
  if present then [word none row text] else []

end Node

open Node (branch leaf word enclosed modifiers)
open Token (comma semicolon)

section Lists

variable (Item : Node → List Token → Prop)

/-- Items with commas between them. -/
inductive Listed : List Node → List Token → Prop where
  | none : Listed [] []
  | last {n ts} : Item n ts → Listed [n] ts
  | more {n next row nodes ts us} : Item n ts → Listed (next :: nodes) us →
      Listed (n :: word none row "," :: next :: nodes) (ts ++ comma :: us)

/-- Items one after another. -/
inductive Sequence : List Node → List Token → Prop where
  | nil : Sequence [] []
  | cons {n nodes ts us} : Item n ts → Sequence nodes us → Sequence (n :: nodes) (ts ++ us)

end Lists

/-- The kinds of expressions that name something that can be assigned to. -/
def referenceKinds : List String := ["identifier", "member_expression", "subscript_expression"]

/-- The tree of an expression. The first argument is the part that it plays in the node above. -/
inductive ExpressionTree : Option String → Node → List Token → Prop where
  | identifier {field row name} : IsName name →
      ExpressionTree field (leaf "identifier" field row name) [.name name]
  | number {field row raw} : IsDecimal raw →
      ExpressionTree field (leaf "number" field row raw) [.number raw]
  | parenthesized {field row text first last e ts} : ExpressionTree none e ts →
      ExpressionTree field
        (branch "parenthesized_expression" field row text (enclosed .round first last [e]))
        [.group .round ts]
  | call {field row text callee ts row' text' first last arguments us} :
      ExpressionTree (some "function") callee ts → Listed (ExpressionTree none) arguments us →
      ExpressionTree field
        (branch "call_expression" field row text [callee,
          branch "arguments" (some "arguments") row' text' (enclosed .round first last arguments)])
        (ts ++ [.group .round us])
  | member {field row text object ts dot row' name} :
      ExpressionTree (some "object") object ts → IsName name →
      ExpressionTree field
        (branch "member_expression" field row text
          [object, word none dot ".", leaf "property_identifier" (some "property") row' name])
        (ts ++ [.mark ".", .name name])
  | subscript {field row text object ts first last index us} :
      ExpressionTree (some "object") object ts → ExpressionTree (some "index") index us →
      ExpressionTree field
        (branch "subscript_expression" field row text
          [object, word none first "[", index, word none last "]"])
        (ts ++ [.group .square us])
  | assignment {field row text left ts sign right us} :
      left.kind ∈ "parenthesized_expression" :: referenceKinds →
      ExpressionTree (some "left") left ts → ExpressionTree (some "right") right us →
      ExpressionTree field
        (branch "assignment_expression" field row text [left, word none sign "=", right])
        (ts ++ .mark "=" :: us)
  | binary {field row text left ts sign operator right us} : operator ∈ binaryOperators →
      ExpressionTree (some "left") left ts → ExpressionTree (some "right") right us →
      ExpressionTree field
        (branch "binary_expression" field row text
          [left, word (some "operator") sign operator, right])
        (ts ++ .mark operator :: us)

mutual

/-- The tree of something that takes a value. -/
inductive TargetTree : Option String → Node → List Token → Prop where
  | reference {field n ts} : n.kind ∈ referenceKinds → ExpressionTree field n ts →
      TargetTree field n ts
  | object {field row text first last properties ts} : Listed PropertyTree properties ts →
      TargetTree field
        (branch "object_pattern" field row text (enclosed .curly first last properties))
        [.group .curly ts]
  | array {field row text first last elements ts} : Listed (ElementTree none) elements ts →
      TargetTree field
        (branch "array_pattern" field row text (enclosed .square first last elements))
        [.group .square ts]

/-- The tree of an element of an array, a parameter, or the value of a property. -/
inductive ElementTree : Option String → Node → List Token → Prop where
  | target {field n ts} : TargetTree field n ts → ElementTree field n ts
  | rest {field row text dots argument ts} : TargetTree none argument ts →
      ElementTree field (branch "rest_pattern" field row text [word none dots "...", argument])
        (.mark "..." :: ts)
  | withDefault {field row text left ts sign right us} : ElementTree (some "left") left ts →
      left.kind ≠ "assignment_pattern" → ExpressionTree (some "right") right us →
      ElementTree field
        (branch "assignment_pattern" field row text [left, word none sign "=", right])
        (ts ++ .mark "=" :: us)

inductive PropertyTree : Node → List Token → Prop where
  | pair {row text row' key sign value ts} : IsName key → ElementTree (some "value") value ts →
      PropertyTree
        (branch "pair_pattern" none row text
          [leaf "property_identifier" (some "key") row' key, word none sign ":", value])
        (.name key :: .mark ":" :: ts)
  | rest {row text dots argument ts} : TargetTree none argument ts →
      PropertyTree (branch "rest_pattern" none row text [word none dots "...", argument])
        (.mark "..." :: ts)

end

/-- The kinds of what a declaration binds. -/
def bindingKinds : List String := ["identifier", "object_pattern", "array_pattern"]

inductive DeclaratorTree : Node → List Token → Prop where
  | plain {row text id ts} : id.kind ∈ bindingKinds → TargetTree (some "name") id ts →
      DeclaratorTree (branch "variable_declarator" none row text [id]) ts
  | initialized {row text id ts sign value us} : id.kind ∈ bindingKinds →
      TargetTree (some "name") id ts → ExpressionTree (some "value") value us →
      DeclaratorTree (branch "variable_declarator" none row text [id, word none sign "=", value])
        (ts ++ .mark "=" :: us)

inductive DeclarationTree : Option String → Node → List Token → Prop where
  | var {field row text first last nodes ts} : nodes ≠ [] → Listed DeclaratorTree nodes ts →
      DeclarationTree field
        (branch "variable_declaration" field row text
          (word none first "var" :: (nodes ++ [word none last ";"])))
        (.mark "var" :: (ts ++ [semicolon]))
  | lexical {field row text first kind last nodes ts} : kind ∈ ["let", "const"] → nodes ≠ [] →
      Listed DeclaratorTree nodes ts →
      DeclarationTree field
        (branch "lexical_declaration" field row text
          (word (some "kind") first kind :: (nodes ++ [word none last ";"])))
        (.mark kind :: (ts ++ [semicolon]))

/-- What a `for` starts with. -/
inductive InitTree : List Node → List Token → Prop where
  | none {row text row'} :
      InitTree [branch "empty_statement" (some "initializer") row text [word none row' ";"]]
        [semicolon]
  | declaration {n ts} : DeclarationTree (some "initializer") n ts → InitTree [n] ts
  | expression {e row ts} : ExpressionTree (some "initializer") e ts →
      InitTree [e, word none row ";"] (ts ++ [semicolon])

/-- The test of a `for`. -/
inductive TestTree : List Node → List Token → Prop where
  | none {row text row'} :
      TestTree [branch "empty_statement" (some "condition") row text [word none row' ";"]]
        [semicolon]
  | expression {e row ts} : ExpressionTree (some "condition") e ts →
      TestTree [e, word (some "condition") row ";"] (ts ++ [semicolon])

/-- What a `for` does after each round. -/
inductive UpdateTree : List Node → List Token → Prop where
  | none : UpdateTree [] []
  | expression {e ts} : ExpressionTree (some "increment") e ts → UpdateTree [e] ts

/-- What takes the values of a `for` over a collection. -/
inductive LeftTree : List Node → List Token → Prop where
  | target {n ts} : TargetTree (some "left") n ts → LeftTree [n] ts
  | parenthesized {n ts} : ExpressionTree (some "left") n [.group .round ts] →
      LeftTree [n] [.group .round ts]
  | declaration {row kind n ts} : kind ∈ ["var", "let", "const"] → n.kind ∈ bindingKinds →
      TargetTree (some "left") n ts →
      LeftTree [word (some "kind") row kind, n] (.mark kind :: ts)

/-- A label that may be left out. -/
inductive LabelTree : List Node → List Token → Prop where
  | none : LabelTree [] []
  | some {row label} : IsName label →
      LabelTree [leaf "statement_identifier" (some "label") row label] [.name label]

/-- The result of a `return`, which may be left out. -/
inductive ResultTree : List Node → List Token → Prop where
  | none : ResultTree [] []
  | some {e ts} : ExpressionTree none e ts → ResultTree [e] ts

def functionKind (isGenerator : Bool) : String :=
  if isGenerator then "generator_function_declaration" else "function_declaration"

inductive StatementTree : Option String → Node → List Token → Prop where
  | expression {field row text e ts row'} : ExpressionTree none e ts →
      StatementTree field (branch "expression_statement" field row text [e, word none row' ";"])
        (ts ++ [semicolon])
  | declaration {field n ts} : DeclarationTree field n ts → StatementTree field n ts
  | block {field row text first last nodes ts} : Sequence (StatementTree none) nodes ts →
      StatementTree field
        (branch "statement_block" field row text (enclosed .curly first last nodes))
        [.group .curly ts]
  | if {field row text row' condition ts consequence us} :
      ExpressionTree (some "condition") condition [.group .round ts] →
      StatementTree (some "consequence") consequence us →
      StatementTree field
        (branch "if_statement" field row text [word none row' "if", condition, consequence])
        (.mark "if" :: .group .round ts :: us)
  | ifElse {field row text row' condition ts consequence us elseRow elseText elseRow' alternative
        vs} :
      ExpressionTree (some "condition") condition [.group .round ts] →
      StatementTree (some "consequence") consequence us → StatementTree none alternative vs →
      StatementTree field
        (branch "if_statement" field row text [word none row' "if", condition, consequence,
          branch "else_clause" (some "alternative") elseRow elseText
            [word none elseRow' "else", alternative]])
        (.mark "if" :: .group .round ts :: (us ++ .mark "else" :: vs))
  | while {field row text row' condition ts body us} :
      ExpressionTree (some "condition") condition [.group .round ts] →
      StatementTree (some "body") body us →
      StatementTree field
        (branch "while_statement" field row text [word none row' "while", condition, body])
        (.mark "while" :: .group .round ts :: us)
  | do {field row text row' body ts row'' condition us last} :
      StatementTree (some "body") body ts →
      ExpressionTree (some "condition") condition [.group .round us] →
      StatementTree field
        (branch "do_statement" field row text
          [word none row' "do", body, word none row'' "while", condition, word none last ";"])
        (.mark "do" :: (ts ++ [.mark "while", .group .round us, semicolon]))
  | for {field row text row' first inits ts tests us updates vs last body ws} : InitTree inits ts →
      TestTree tests us → UpdateTree updates vs → StatementTree (some "body") body ws →
      StatementTree field
        (branch "for_statement" field row text (word none row' "for" :: word none first "(" ::
          (inits ++ (tests ++ (updates ++ [word none last ")", body])))))
        (.mark "for" :: .group .round (ts ++ (us ++ vs)) :: ws)
  | forIn {field row text row' first lefts ts sign operator right us last body vs} :
      LeftTree lefts ts → operator ∈ ["in", "of"] → ExpressionTree (some "right") right us →
      StatementTree (some "body") body vs →
      StatementTree field
        (branch "for_in_statement" field row text (word none row' "for" :: word none first "(" ::
          (lefts ++ [word (some "operator") sign operator, right, word none last ")", body])))
        (.mark "for" :: .group .round (ts ++ .mark operator :: us) :: vs)
  | labeled {field row text row' label sign body ts} : IsName label →
      StatementTree (some "body") body ts →
      StatementTree field
        (branch "labeled_statement" field row text
          [leaf "statement_identifier" (some "label") row' label, word none sign ":", body])
        (.name label :: .mark ":" :: ts)
  | return {field row text row' results ts last} : ResultTree results ts →
      StatementTree field
        (branch "return_statement" field row text
          (word none row' "return" :: (results ++ [word none last ";"])))
        (.mark "return" :: (ts ++ [semicolon]))
  | break {field row text row' labels ts last} : LabelTree labels ts →
      StatementTree field
        (branch "break_statement" field row text
          (word none row' "break" :: (labels ++ [word none last ";"])))
        (.mark "break" :: (ts ++ [semicolon]))
  | continue {field row text row' labels ts last} : LabelTree labels ts →
      StatementTree field
        (branch "continue_statement" field row text
          (word none row' "continue" :: (labels ++ [word none last ";"])))
        (.mark "continue" :: (ts ++ [semicolon]))
  | empty {field row text row'} :
      StatementTree field (branch "empty_statement" field row text [word none row' ";"]) [semicolon]
  | function {field row text isAsync row₁ row₂ isGenerator row₃ row₄ id row₅ text₅ first last params
        ts row₆ text₆ first' last' body us} : IsName id → Listed (ElementTree none) params ts →
      Sequence (StatementTree none) body us →
      StatementTree field
        (branch (functionKind isGenerator) field row text
          (modifiers isAsync row₁ "async" ++ word none row₂ "function" ::
            (modifiers isGenerator row₃ "*" ++ [leaf "identifier" (some "name") row₄ id,
              branch "formal_parameters" (some "parameters") row₅ text₅
                (enclosed .round first last params),
              branch "statement_block" (some "body") row₆ text₆
                (enclosed .curly first' last' body)])))
        (modifierTokens isAsync "async" ++ .mark "function" :: (modifierTokens isGenerator "*" ++
          [.name id, .group .round ts, .group .curly us]))

inductive ProgramTree : Node → List Token → Prop where
  | program {row text nodes ts} : Sequence (StatementTree none) nodes ts →
      ProgramTree (branch "program" none row text nodes) ts

/-- What a reader of concrete trees promises for some tokens: if the grammar has a tree for them, the
reader gives one. -/
def FollowsGrammar (read : String → Node) (ts : List Token) : Prop :=
  (∃ root, ProgramTree root ts) → ProgramTree (read (Token.spell ts)) ts

end SketchSurvey.Script

import SketchSurvey.Proofs.Script.Written

/-! Concrete trees put together with the texts that they are read from, as scripts are laid out: one
blank between words where there is one, one statement a line in blocks, two columns for each level. -/

set_option autoImplicit false

namespace SketchSurvey.Script

open Node (branch leaf word enclosed)
open Token (comma semicolon)

/-- A tree that is not yet told which part it plays. -/
structure Draft where
  kind : String
  row : Nat
  text : String
  children : List Node

namespace Draft

def «at» (p : Draft) (field : Option String) : Node := branch p.kind field p.row p.text p.children

/-- Drafts with commas between them. -/
def listed (row : Nat) : List Draft → List Node
  | [] => []
  | [p] => [p.at none]
  | p :: q :: rest => p.at none :: word none row "," :: listed row (q :: rest)

def listedText (drafts : List Draft) : String := ", ".intercalate (drafts.map Draft.text)

def name (row : Nat) (name : String) : Draft := ⟨"identifier", row, name, []⟩

/-- A text in quotes, given the nodes of what stands between them. -/
def quoted (row : Nat) (quote : Quote) (content : List Char) (nodes : List Node) : Draft where
  kind := "string"
  row := row
  text := quote.literal content
  children :=
    word none row quote.mark.toString :: (nodes ++ [word none row quote.mark.toString])

/-- A text of characters that stand for themselves. -/
def plain (row : Nat) (quote : Quote) (content : String) : Draft :=
  quoted row quote content.toList [leaf "string_fragment" none row content]

def member (row : Nat) (object : Draft) (property : String) : Draft where
  kind := "member_expression"
  row := row
  text := object.text ++ "." ++ property
  children := [object.at (some "object"), word none row ".",
    leaf "property_identifier" (some "property") row property]

/-- A name and the properties that are read from it, one from another. -/
def path (row : Nat) (first : String) (properties : List String) : Draft :=
  properties.foldl (member row) (name row first)

def pathTokens (first : String) (properties : List String) : List Token :=
  .name first :: properties.flatMap fun property => [.mark ".", .name property]

/-- A call, with its arguments on the last of its lines. -/
def call (row last : Nat) (callee : Draft) (arguments : List Draft) : Draft where
  kind := "call_expression"
  row := row
  text := callee.text ++ "(" ++ listedText arguments ++ ")"
  children := [callee.at (some "function"),
    branch "arguments" (some "arguments") last ("(" ++ listedText arguments ++ ")")
      (enclosed .round last last (listed last arguments))]

def sum (row : Nat) (left right : Draft) : Draft where
  kind := "binary_expression"
  row := row
  text := left.text ++ " + " ++ right.text
  children := [left.at (some "left"), word (some "operator") row "+", right.at (some "right")]

def assignment (row : Nat) (left right : Draft) : Draft where
  kind := "assignment_expression"
  row := row
  text := left.text ++ " = " ++ right.text
  children := [left.at (some "left"), word none row "=", right.at (some "right")]

/-- An expression in brackets, from one line to another. -/
def parenthesized (row last : Nat) (e : Draft) : Draft where
  kind := "parenthesized_expression"
  row := row
  text := "(" ++ e.text ++ ")"
  children := enclosed .round row last [e.at none]

def statement (row last : Nat) (e : Draft) : Draft where
  kind := "expression_statement"
  row := row
  text := e.text ++ ";"
  children := [e.at none, word none last ";"]

def declaration (row : Nat) (name : String) (value : Draft) : Draft where
  kind := "variable_declaration"
  row := row
  text := "var " ++ name ++ " = " ++ value.text ++ ";"
  children := [word none row "var",
    branch "variable_declarator" none row (name ++ " = " ++ value.text)
      [leaf "identifier" (some "name") row name, word none row "=", value.at (some "value")],
    word none row ";"]

/-- Statements in curly brackets, each on lines of its own, at some margin. -/
def block (row last : Nat) (margin : String) (body : List Draft) : Draft where
  kind := "statement_block"
  row := row
  text := "\x7b\n" ++ String.join (body.map fun s => margin ++ "  " ++ s.text ++ "\n") ++
    margin ++ "\x7d"
  children := enclosed .curly row last (body.map fun s => s.at none)

def noParameters (row : Nat) : Node :=
  branch "formal_parameters" (some "parameters") row "()" (enclosed .round row row [])

def function (row : Nat) (body : Draft) : Draft where
  kind := "function_expression"
  row := row
  text := "function () " ++ body.text
  children := [word none row "function", noParameters row, body.at (some "body")]

def functionDeclaration (row : Nat) (name : String) (body : Draft) : Draft where
  kind := "function_declaration"
  row := row
  text := "function " ++ name ++ "() " ++ body.text
  children := [word none row "function", leaf "identifier" (some "name") row name, noParameters row,
    body.at (some "body")]

def ifElse (row middle : Nat) (test consequence alternative : Draft) : Draft where
  kind := "if_statement"
  row := row
  text := "if " ++ test.text ++ " " ++ consequence.text ++ " else " ++ alternative.text
  children := [word none row "if", test.at (some "condition"), consequence.at (some "consequence"),
    branch "else_clause" (some "alternative") middle ("else " ++ alternative.text)
      [word none middle "else", alternative.at none]]

/-- A script of one statement. -/
def program (s : Draft) : Node := branch "program" none s.row (s.text ++ "\n") [s.at none]

section Kinds

variable {row last : Nat} {p q : Draft}

@[simp] theorem kind_name (text : String) : (name row text).kind = "identifier" := rfl

@[simp] theorem kind_plain (quote : Quote) (content : String) :
    (plain row quote content).kind = "string" := rfl

@[simp] theorem kind_member (property : String) :
    (member row p property).kind = "member_expression" := rfl

@[simp] theorem kind_sum : (sum row p q).kind = "binary_expression" := rfl

@[simp] theorem kind_parenthesized : (parenthesized row last p).kind = "parenthesized_expression" :=
  rfl

end Kinds

/-- A draft is read as an expression of certain tokens, whichever part it plays. -/
def IsExpression (p : Draft) (ts : List Token) : Prop :=
  ∀ field, WrittenExpression field (p.at field) ts

def IsStatement (p : Draft) (ts : List Token) : Prop :=
  ∀ field, WrittenStatement field (p.at field) ts

/-- What can be assigned to needs no brackets. -/
theorem mem_primaryKinds {kind : String} (reference : kind ∈ ["identifier", "member_expression"]) :
    kind ∈ primaryKinds := by
  have known : ["identifier", "member_expression"] ⊆ primaryKinds := by decide
  exact known reference

section Reading

variable {row last : Nat} {p q : Draft} {ts us : List Token}

theorem isExpression_name {text : String} (isName : IsName text) :
    (name row text).IsExpression [.name text] := by
  intro field
  exact .identifier isName

theorem isExpression_quoted {quote : Quote} {content : List Char} {nodes : List Node}
    (pieces : Pieces quote content nodes) :
    (quoted row quote content nodes).IsExpression [.mark (quote.literal content)] := by
  intro field
  exact .text pieces

theorem isExpression_plain {quote : Quote} {content : String} (nonempty : content ≠ "")
    (known : content.toList.all fun c => (Grammar.unescaped quote.mark).contains c.toNat) :
    (plain row quote content).IsExpression [.mark (quote.literal content.toList)] := by
  have isFragment : Grammar.IsToken quote.fragment content.toList :=
    Quote.isToken_fragment (by simpa using nonempty) (List.all_eq_true.mp known)
  have pieces := Pieces.fragment row isFragment .nil
  rw [List.append_nil, String.ofList_toList] at pieces
  exact isExpression_quoted pieces

theorem isExpression_member {property : String} (primary : p.kind ∈ primaryKinds)
    (isObject : p.IsExpression ts) (isName : IsName property) :
    (member row p property).IsExpression (ts ++ [.mark ".", .name property]) := by
  intro field
  exact .member primary (isObject _) isName

section Path

variable {first : String} {properties : List String}

theorem kind_members (reference : p.kind ∈ ["identifier", "member_expression"]) :
    (properties.foldl (member row) p).kind ∈ ["identifier", "member_expression"] := by
  induction properties generalizing p with
  | nil => exact reference
  | cons property rest ih => exact ih (by simp)

theorem kind_path : (path row first properties).kind ∈ ["identifier", "member_expression"] :=
  kind_members (by simp)

theorem isExpression_members (reference : p.kind ∈ ["identifier", "member_expression"])
    (isObject : p.IsExpression ts) (areNames : ∀ property ∈ properties, IsName property) :
    (properties.foldl (member row) p).IsExpression
      (ts ++ properties.flatMap fun property => [.mark ".", .name property]) := by
  induction properties generalizing p ts with
  | nil => rwa [List.flatMap_nil, List.append_nil]
  | cons property rest ih =>
      have isMember : (member row p property).IsExpression (ts ++ [.mark ".", .name property]) :=
        isExpression_member (mem_primaryKinds reference) isObject (areNames property (.head _))
      rw [List.foldl_cons, List.flatMap_cons, ← List.append_assoc]
      exact ih (by simp) isMember fun later known => areNames later (.tail _ known)

theorem isExpression_path (isName : IsName first)
    (areNames : ∀ property ∈ properties, IsName property) :
    (path row first properties).IsExpression (pathTokens first properties) :=
  isExpression_members (by simp) (isExpression_name isName) areNames

end Path

theorem isExpression_sum (primary : p.kind ∈ "binary_expression" :: primaryKinds)
    (isLeft : p.IsExpression ts) (primary' : q.kind ∈ primaryKinds) (isRight : q.IsExpression us) :
    (sum row p q).IsExpression (ts ++ .mark "+" :: us) := by
  intro field
  exact .sum primary (isLeft _) primary' (isRight _)

theorem isExpression_assignment (reference : p.kind ∈ ["identifier", "member_expression"])
    (isLeft : p.IsExpression ts) (isRight : q.IsExpression us) :
    (assignment row p q).IsExpression (ts ++ .mark "=" :: us) := by
  intro field
  exact .assignment reference (isLeft _) (isRight _)

theorem isExpression_parenthesized (inner : p.IsExpression ts) :
    (parenthesized row last p).IsExpression [.group .round ts] := by
  intro field
  exact .parenthesized (inner _)

/-- Arguments, given the tokens of each of them. -/
theorem listed_of_forall₂ {arguments : List Draft} {items : List (List Token)}
    (each : List.Forall₂ IsExpression arguments items) :
    Listed (WrittenExpression none) (listed row arguments) (Token.separated items) := by
  induction each with
  | nil => exact .none
  | cons first rest ih =>
      cases rest with
      | nil => exact .last (first none)
      | cons second later =>
          -- The second item comes after the comma, whether others follow it or not.
          cases later with
          | nil => exact .more (first none) ih
          | cons _ _ => exact .more (first none) ih

theorem isExpression_call {arguments : List Draft} {items : List (List Token)}
    (primary : p.kind ∈ primaryKinds) (isCallee : p.IsExpression ts)
    (each : List.Forall₂ IsExpression arguments items) :
    (call row last p arguments).IsExpression (ts ++ [.group .round (Token.separated items)]) := by
  intro field
  exact .call primary (isCallee _) (listed_of_forall₂ each)

theorem isStatement_statement (notFunction : ts.head? ≠ some (.mark "function"))
    (isExpression : p.IsExpression ts) : (statement row last p).IsStatement (ts ++ [semicolon]) := by
  intro field
  exact .expression notFunction (isExpression _)

/-- A value is given to what a path names. -/
theorem isStatement_set {first : String} {properties : List String} (isName : IsName first)
    (areNames : ∀ property ∈ properties, IsName property) (isValue : p.IsExpression ts) :
    (statement row row (assignment row (path row first properties) p)).IsStatement
      (pathTokens first properties ++ .mark "=" :: ts ++ [semicolon]) :=
  isStatement_statement (by simp [pathTokens])
    (isExpression_assignment kind_path (isExpression_path isName areNames) isValue)

/-- What a path names is called. -/
theorem isStatement_run {first : String} {properties : List String} {arguments : List Draft}
    {items : List (List Token)} (isName : IsName first)
    (areNames : ∀ property ∈ properties, IsName property)
    (each : List.Forall₂ IsExpression arguments items) :
    (statement row row (call row row (path row first properties) arguments)).IsStatement
      (pathTokens first properties ++ [.group .round (Token.separated items)] ++ [semicolon]) :=
  isStatement_statement (by simp [pathTokens])
    (isExpression_call (mem_primaryKinds kind_path) (isExpression_path isName areNames) each)

theorem isStatement_declaration {text : String} (isName : IsName text) (isValue : p.IsExpression ts) :
    (declaration row text p).IsStatement
      (.mark "var" :: .name text :: .mark "=" :: (ts ++ [semicolon])) := by
  intro field
  exact .declaration isName (isValue _)

/-- Statements one after another, given the tokens of each of them. -/
theorem sequence_of_forall₂ {body : List Draft} {items : List (List Token)}
    (each : List.Forall₂ IsStatement body items) :
    Sequence (WrittenStatement none) (body.map fun s => s.at none) items.flatten := by
  induction each with
  | nil => exact .nil
  | cons first _ ih => exact .cons (first none) ih

variable {margin : String} {body : List Draft} {items : List (List Token)}

theorem isStatement_block (each : List.Forall₂ IsStatement body items) :
    (block row last margin body).IsStatement [.group .curly items.flatten] := by
  intro field
  exact .block (sequence_of_forall₂ each)

theorem isStatement_block_single (only : p.IsStatement ts) :
    (block row last margin [p]).IsStatement [.group .curly ts] := by
  have whole : (block row last margin [p]).IsStatement [.group .curly [ts].flatten] :=
    isStatement_block (.cons only .nil)
  rwa [List.flatten_singleton] at whole

theorem isExpression_function (each : List.Forall₂ IsStatement body items) :
    (function row (block row last margin body)).IsExpression
      [.mark "function", .group .round [], .group .curly items.flatten] := by
  intro field
  exact .function .none (sequence_of_forall₂ each)

theorem isStatement_function {text : String} (isName : IsName text)
    (each : List.Forall₂ IsStatement body items) :
    (functionDeclaration row text (block row last margin body)).IsStatement
      [.mark "function", .name text, .group .round [], .group .curly items.flatten] := by
  intro field
  exact .function isName .none (sequence_of_forall₂ each)

theorem isStatement_ifElse {middle : Nat} {consequence alternative : Draft} {vs : List Token}
    (isTest : p.IsExpression [.group .round ts])
    (isConsequence : consequence.IsStatement [.group .curly us])
    (isAlternative : alternative.IsStatement [.group .curly vs]) :
    (ifElse row middle p consequence alternative).IsStatement
      [.mark "if", .group .round ts, .group .curly us, .mark "else", .group .curly vs] := by
  intro field
  exact .ifElse (isTest _) (isConsequence _) (isAlternative _)

theorem writtenProgram_program (isStatement : p.IsStatement ts) :
    WrittenProgram (program p) (ts ++ []) :=
  .program (.cons (isStatement none) .nil)

end Reading

end Draft

end SketchSurvey.Script

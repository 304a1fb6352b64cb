import SketchSurvey.Analysis.FreeVariables
import SketchSurvey.Proofs.Script.Lowered
import SketchSurvey.Proofs.Script.Preorder

/-! The nodes of a concrete tree that the walk for free variables comes to, in the order of the text. What a
node is walked as decides which of its children are walked, and as what; each child is looked at once, where
it stands. -/

set_option autoImplicit false

namespace SketchSurvey.Script

open SketchSurvey.Analysis (Skipped)

/-- What is reported of a statement that is not looked into. -/
def Statement.uncovered? : Statement → Option Skipped
  | .unsupported kind line _ => some { sort := .statement, kind, line := some line }
  | .forOf .. => some { sort := .statement, kind := "ForOfStatement" }
  | _ => none

/-- What is reported of an expression that is not looked into. -/
def Expr.uncovered? : Expr → Option Skipped
  | .unsupported kind line => some { sort := .expression, kind, line := some line }
  | _ => none

end SketchSurvey.Script

namespace SketchSurvey.Analysis

open SketchSurvey.Script

/-- What a node is walked as. -/
inductive Role where
  | program
  | statement
  /-- The body of a function. -/
  | body
  | elseClause
  | declarator
  | expression
  | arguments

namespace Role

/-- At the top of a script only functions are walked. -/
def ofTopLevel (c : Node) : Option Role :=
  if c.kind == "function_declaration" || c.kind == "generator_function_declaration" then some .statement
  else none

def ofAlternative (c : Node) : Option Role :=
  some (if c.kind == "else_clause" then .elseClause else .statement)

/-- The condition of a `for` can stand in a statement of its own, or be left out. -/
def ofClause (c : Node) : Option Role :=
  if c.named && c.kind != "empty_statement" then
    some (if c.kind == "expression_statement" then .statement else .expression)
  else none

def ofDeclarator (c : Node) : Option Role :=
  if c.kind == "variable_declarator" then some .declarator else none

def ofReceiver (c : Node) : Option Role := if c.kind == "super" then none else some .expression

def ofArgument (c : Node) : Option Role := if c.kind == "spread_element" then none else some .expression

end Role

/-- Which children of a node are walked, and as what: each that is shown, the first of them, or the first that
plays a part. -/
inductive Reach where
  | each (role : Node → Option Role)
  | first (role : Node → Option Role)
  | parts (roles : List (String × (Node → Option Role)))

namespace Reach

def nothing : Reach := .parts []

/-- What a child is walked as, given the children before it. -/
def roleOf (reach : Reach) (before : List Node) (c : Node) : Option Role :=
  match reach with
  | each role => if c.isShown then role c else none
  | first role => if c.isShown && !before.any Node.isShown then role c else none
  | parts roles =>
    (roles.find? fun p => c.plays p.1 && !before.any (·.plays p.1)).bind fun p => p.2 c

def ofStatement (n : Node) : Reach :=
  match n.kind with
  | "function_declaration" | "generator_function_declaration" => .parts [("body", fun _ => some .body)]
  | "statement_block" => .each fun _ => some .statement
  | "expression_statement" | "return_statement" => .first fun _ => some .expression
  | "do_statement" =>
    .parts [("body", fun _ => some .statement), ("condition", fun _ => some .expression)]
  | "while_statement" =>
    .parts [("condition", fun _ => some .expression), ("body", fun _ => some .statement)]
  | "for_statement" =>
    .parts [("condition", Role.ofClause), ("increment", fun _ => some .expression),
      ("body", fun _ => some .statement)]
  | "for_in_statement" =>
    .parts [("right", fun _ => some .expression), ("body", fun _ => some .statement)]
  | "if_statement" =>
    .parts [("condition", fun _ => some .expression), ("consequence", fun _ => some .statement),
      ("alternative", Role.ofAlternative)]
  | "labeled_statement" => .parts [("body", fun _ => some .statement)]
  | "variable_declaration" | "lexical_declaration" => .each Role.ofDeclarator
  | _ => nothing

def ofExpression (n : Node) : Reach :=
  match n.kind with
  | "parenthesized_expression" => .first fun _ => some .expression
  | "assignment_expression" | "augmented_assignment_expression" =>
    .parts [("right", fun _ => some .expression)]
  | "binary_expression" =>
    .parts [("left", fun _ => some .expression), ("right", fun _ => some .expression)]
  | "call_expression" =>
    if (n.part? "arguments").isSome then
      .parts [("function", Role.ofReceiver), ("arguments", fun _ => some .arguments)]
    else nothing
  | "member_expression" | "subscript_expression" => .parts [("object", Role.ofReceiver)]
  | _ => nothing

/-- Which children of a node are walked if it is covered. -/
def within (r : Role) (n : Node) : Reach :=
  match r with
  | .program => .each Role.ofTopLevel
  | .statement => .ofStatement n
  | .body => .each fun _ => some .statement
  | .elseClause => .first fun _ => some .statement
  | .declarator => .parts [("value", fun _ => some .expression)]
  | .expression => .ofExpression n
  | .arguments => .each Role.ofArgument

end Reach

end SketchSurvey.Analysis

namespace SketchSurvey.Script

open SketchSurvey.Analysis

/-- What is reported of a node: nothing if it is covered. Parentheses are passed through. -/
def Node.report? (r : Role) (n : Node) : Option Skipped :=
  match r with
  | .statement => (Lower.statement n).uncovered?
  | .expression =>
    if n.kind == "parenthesized_expression" then none else (Lower.expression n).uncovered?
  | _ => none

/-- Which children of a node are walked. Nothing is walked of what is reported. -/
def Node.reach (r : Role) (n : Node) : Reach :=
  if (n.report? r).isSome then .nothing else .within r n

mutual

/-- A node and what is walked below it, in the order of the text. -/
def Node.reached (r : Role) : Node → List (Role × Node)
  | .mk kind named missing hasError row text field children =>
    (r, .mk kind named missing hasError row text field children) ::
      reachedAmong (Node.reach r (.mk kind named missing hasError row text field children)) [] children

/-- What is walked of some children of a node, given those before them. -/
def reachedAmong (reach : Reach) (before : List Node) : List Node → List (Role × Node)
  | [] => []
  | c :: rest =>
    (match reach.roleOf before c with
      | some r => c.reached r
      | none => []) ++ reachedAmong reach (before ++ [c]) rest

end

/-- The parts of a node in the order in which they are written. -/
def partOrder : String → List String
  | "do_statement" => ["body", "condition"]
  | "while_statement" => ["condition", "body"]
  | "for_statement" => ["initializer", "condition", "increment", "body"]
  | "for_in_statement" => ["left", "operator", "right", "body"]
  | "if_statement" => ["condition", "consequence", "alternative"]
  | "binary_expression" => ["left", "operator", "right"]
  | "call_expression" => ["function", "arguments"]
  | _ => []

/-- The children of a node stand as the grammar has them: its parts in their order, none above the node, and
none above what stands before it. -/
structure Node.IsOrdered (n : Node) : Prop where
  parts : (partOrder n.kind).Pairwise fun part next =>
    n.children.Pairwise fun a b => ¬ (a.plays next = true ∧ b.plays part = true)
  own : ∀ c ∈ n.children, n.row ≤ c.row
  siblings : n.children.Pairwise fun a b => ∀ m ∈ a.preorder, m.row ≤ b.row

instance (n : Node) : Decidable n.IsOrdered :=
  decidable_of_iff
    (((partOrder n.kind).Pairwise fun part next =>
        n.children.Pairwise fun a b => ¬ (a.plays next = true ∧ b.plays part = true)) ∧
      (∀ c ∈ n.children, n.row ≤ c.row) ∧ n.children.Pairwise fun a b => ∀ m ∈ a.preorder, m.row ≤ b.row)
    ⟨fun ⟨parts, own, siblings⟩ => ⟨parts, own, siblings⟩, fun h => ⟨h.parts, h.own, h.siblings⟩⟩

/-- What is walked of a child that stands in some place. -/
def reachedAs (role : Node → Option Role) (c : Node) : List (Role × Node) :=
  match role c with
  | some r => c.reached r
  | none => []

theorem Node.reached_eq (r : Role) (n : Node) :
    n.reached r = (r, n) :: reachedAmong (n.reach r) [] n.children := by
  cases n
  rw [reached]
  rfl

section Among

variable {role : Node → Option Role} {roles : List (String × (Node → Option Role))} {nodes before : List Node}

theorem reachedAmong_each : reachedAmong (.each role) before nodes =
    (nodes.filter Node.isShown).flatMap (reachedAs role) := by
  induction nodes generalizing before with
  | nil => rfl
  | cons c rest ih =>
      rw [reachedAmong, ih, Reach.roleOf]
      cases shown : c.isShown with
      | true => rw [if_pos rfl, List.filter_cons_of_pos shown, List.flatMap_cons, reachedAs]
      | false =>
          rw [if_neg Bool.false_ne_true, List.filter_cons_of_neg (by rw [shown]; decide)]
          rfl

/-- After the first one nothing is walked. -/
theorem reachedAmong_first_of_any (known : before.any Node.isShown = true) :
    reachedAmong (.first role) before nodes = [] := by
  induction nodes generalizing before with
  | nil => rfl
  | cons c rest ih =>
      rw [reachedAmong, ih (by rw [List.any_append, known, Bool.true_or]), Reach.roleOf, known, Bool.not_true,
        Bool.and_false, if_neg Bool.false_ne_true]
      rfl

theorem reachedAmong_first (none' : before.any Node.isShown = false) : reachedAmong (.first role) before nodes =
    (nodes.filter Node.isShown).head?.toList.flatMap (reachedAs role) := by
  induction nodes generalizing before with
  | nil => rfl
  | cons c rest ih =>
      rw [reachedAmong, Reach.roleOf, none', Bool.not_false, Bool.and_true]
      cases shown : c.isShown with
      | true =>
          rw [if_pos rfl, reachedAmong_first_of_any (by simp [shown]), List.filter_cons_of_pos shown,
            List.head?_cons, Option.toList_some, List.flatMap_singleton, List.append_nil, reachedAs]
      | false =>
          rw [if_neg Bool.false_ne_true, ih (by simp [none', shown]),
            List.filter_cons_of_neg (by rw [shown]; decide)]
          rfl

/-- What is walked of some children for one part, given those before them. -/
def reachedPart (before nodes : List Node) (p : String × (Node → Option Role)) : List (Role × Node) :=
  if before.any (·.plays p.1) then [] else (nodes.find? (·.plays p.1)).toList.flatMap (reachedAs p.2)

theorem reachedPart_cons {c : Node} {p : String × (Node → Option Role)} (other : c.plays p.1 = false) :
    reachedPart before (c :: nodes) p = reachedPart (before ++ [c]) nodes p := by
  have same : (before ++ [c]).any (·.plays p.1) = before.any (·.plays p.1) := by simp [other]
  have skips : (c :: nodes).find? (·.plays p.1) = nodes.find? (·.plays p.1) := by
    rw [List.find?_cons, other]
  rw [reachedPart, reachedPart, same, skips]

theorem reachedPart_of_any {p : String × (Node → Option Role)} (known : before.any (·.plays p.1) = true) :
    reachedPart before nodes p = [] := by
  rw [reachedPart, if_pos known]

theorem reachedPart_of_lacking {p : String × (Node → Option Role)} (lacking : ∀ c ∈ nodes, c.plays p.1 = false) :
    reachedPart before nodes p = [] := by
  have none' : nodes.find? (·.plays p.1) = none :=
    List.find?_eq_none.mpr fun c member => by rw [lacking c member]; decide
  rw [reachedPart, none']
  exact ite_self _

/-- The first child that plays a part is walked before all that plays a later one. -/
theorem flatMap_reachedPart_cons {c : Node} {front back : List (String × (Node → Option Role))}
    {p : String × (Node → Option Role)} (plays : c.plays p.1 = true) (fresh : before.any (·.plays p.1) = false)
    (distinct : ((front ++ p :: back).map Prod.fst).Nodup)
    (inFront : ∀ q ∈ front, ∀ d ∈ nodes, d.plays q.1 = false) :
    (front ++ p :: back).flatMap (reachedPart before (c :: nodes)) =
      reachedAs p.2 c ++ (front ++ p :: back).flatMap (reachedPart (before ++ [c]) nodes) := by
  have field := Node.field_of_plays plays
  have others {q : String × (Node → Option Role)} (different : q.1 ≠ p.1) : c.plays q.1 = false := by
    rw [Bool.eq_false_iff]
    exact fun both => different (Option.some.inj ((Node.field_of_plays both).symm.trans field))
  rw [List.map_append, List.map_cons] at distinct
  obtain ⟨-, unique, apart⟩ := List.nodup_append.mp distinct
  have noFront : front.flatMap (reachedPart (before ++ [c]) nodes) = [] :=
    List.flatMap_eq_nil_iff.mpr fun q member => reachedPart_of_lacking (inFront q member)
  have passesFront : front.flatMap (reachedPart before (c :: nodes)) =
      front.flatMap (reachedPart (before ++ [c]) nodes) :=
    List.flatMap_congr fun q member =>
      reachedPart_cons (others (apart q.1 (List.mem_map_of_mem member) p.1 List.mem_cons_self))
  have passesBack : back.flatMap (reachedPart before (c :: nodes)) =
      back.flatMap (reachedPart (before ++ [c]) nodes) :=
    List.flatMap_congr fun q member => reachedPart_cons (others fun equal =>
      (List.nodup_cons.mp unique).1 (equal ▸ List.mem_map_of_mem member))
  have own : reachedPart before (c :: nodes) p = reachedAs p.2 c := by
    have first : (c :: nodes).find? (·.plays p.1) = some c := by rw [List.find?_cons, plays]
    rw [reachedPart, fresh, if_neg Bool.false_ne_true, first, Option.toList_some, List.flatMap_singleton]
  have again : reachedPart (before ++ [c]) nodes p = [] := reachedPart_of_any (by simp [plays])
  rw [List.flatMap_append, List.flatMap_append, List.flatMap_cons, List.flatMap_cons, passesFront, noFront, own,
    again, passesBack]
  rfl

/-- Where the parts stand in their order, they are walked in it. -/
theorem reachedAmong_parts (distinct : (roles.map Prod.fst).Nodup)
    (ordered : (roles.map Prod.fst).Pairwise fun part next =>
      nodes.Pairwise fun a b => ¬ (a.plays next = true ∧ b.plays part = true)) :
    reachedAmong (.parts roles) before nodes = roles.flatMap (reachedPart before nodes) := by
  induction nodes generalizing before with
  | nil =>
      rw [reachedAmong]
      refine (List.flatMap_eq_nil_iff.mpr fun p _ => ?_).symm
      exact reachedPart_of_lacking (List.forall_mem_nil _)
  | cons c rest ih =>
      rw [reachedAmong, ih (ordered.imp fun apart => (List.pairwise_cons.mp apart).2), Reach.roleOf]
      cases found : roles.find? fun p => c.plays p.1 && !before.any (·.plays p.1) with
      | none =>
          rw [Option.bind_none, List.nil_append]
          refine List.flatMap_congr fun p member => ?_
          have passed := List.find?_eq_none.mp found p member
          cases plays : c.plays p.1 with
          | false => rw [reachedPart_cons plays]
          | true =>
              rw [plays, Bool.true_and, Bool.not_eq_true, Bool.not_eq_false'] at passed
              rw [reachedPart_of_any passed, reachedPart_of_any (by rw [List.any_append, passed, Bool.true_or])]
      | some p =>
          obtain ⟨plays, front, back, rfl, -⟩ := List.find?_eq_some_iff_append.mp found
          rw [Bool.and_eq_true, Bool.not_eq_true'] at plays
          rw [List.map_append, List.map_cons] at ordered
          -- No part before this one stands behind it.
          have inFront : ∀ q ∈ front, ∀ d ∈ rest, d.plays q.1 = false := by
            intro q member d behind
            have earlier := (List.pairwise_append.mp ordered).2.2 q.1 (List.mem_map_of_mem member) p.1
              List.mem_cons_self
            rw [Bool.eq_false_iff]
            exact fun both => (List.pairwise_cons.mp earlier).1 d behind ⟨plays.1, both⟩
          rw [flatMap_reachedPart_cons plays.1 plays.2 distinct inFront]
          rfl

theorem reachedAmong_nothing : reachedAmong .nothing before nodes = [] :=
  show reachedAmong (.parts []) before nodes = [] from reachedAmong_parts .nil .nil

/-- What is walked of some children stands in their order. -/
theorem reachedAmong_sublist (reach : Reach)
    (below : ∀ c ∈ nodes, ∀ r, ((c.reached r).map Prod.snd).Sublist c.preorder) :
    ((reachedAmong reach before nodes).map Prod.snd).Sublist (nodes.flatMap Node.preorder) := by
  induction nodes generalizing before with
  | nil => exact List.Sublist.refl _
  | cons c rest ih =>
      obtain ⟨ofFirst, ofRest⟩ := List.forall_mem_cons.mp below
      rw [reachedAmong, List.map_append, List.flatMap_cons]
      refine List.Sublist.append ?_ (ih ofRest)
      cases reach.roleOf before c with
      | none => exact List.nil_sublist _
      | some r => exact ofFirst r

end Among

namespace Node

variable {n m : Node} {r : Role} {s : Skipped}

/-- What is walked below a node is some of what stands below it, in the order of the text. -/
theorem reached_sublist_preorder (n : Node) (r : Role) : ((n.reached r).map Prod.snd).Sublist n.preorder := by
  have all : n.Everywhere fun _ => True := .of_forall (fun _ => trivial) n
  induction all generalizing r with
  | intro _ _ ih =>
      rw [reached_eq, preorder_eq, List.map_cons]
      exact (reachedAmong_sublist _ ih).cons_cons _

theorem row_le_of_mem_preorder (ordered : n.Everywhere IsOrdered) (inside : m ∈ n.preorder) : n.row ≤ m.row := by
  induction ordered with
  | intro own _ ih =>
      rw [preorder_eq] at inside
      rcases List.mem_cons.mp inside with rfl | lower
      · exact Nat.le_refl _
      · obtain ⟨c, isChild, inChild⟩ := List.mem_flatMap.mp lower
        exact Nat.le_trans (own.own c isChild) (ih c isChild inChild)

/-- In the order of the text rows never go back. -/
theorem pairwise_row_preorder (ordered : n.Everywhere IsOrdered) :
    n.preorder.Pairwise fun a b => a.row ≤ b.row := by
  induction ordered with
  | @intro n own below ih =>
      have whole : n.Everywhere IsOrdered := .intro own below
      rw [preorder_eq]
      refine List.pairwise_cons.mpr ⟨fun m lower => ?_, List.pairwise_flatMap.mpr ⟨ih, ?_⟩⟩
      · exact row_le_of_mem_preorder whole (by rw [preorder_eq]; exact List.mem_cons_of_mem _ lower)
      · refine own.siblings.imp_of_mem fun {a b} _ isChild apart m inFirst m' inSecond => ?_
        exact Nat.le_trans (apart m inFirst) (row_le_of_mem_preorder (below b isChild) inSecond)

/-- A report that names a line names that of the node. -/
theorem line_of_uncovered_statement (reported : (Lower.statement n).uncovered? = some s) :
    ∀ line ∈ s.line, line = n.line := by
  rw [Lower.statement.eq_def] at reported
  split at reported
  case h_8 =>
    split at reported
    · cases reported
      intro line isLine
      cases isLine
    · cases reported
  all_goals cases reported
  all_goals exact fun line isLine => (Option.some.inj isLine).symm

theorem line_of_uncovered_expression (single : n.kind ≠ "parenthesized_expression")
    (reported : (Lower.expression n).uncovered? = some s) : ∀ line ∈ s.line, line = n.line := by
  have ownLine {kind : String} (reported : (Expr.unsupported kind n.line).uncovered? = some s) :
      ∀ line ∈ s.line, line = n.line := by
    cases reported
    exact fun line isLine => (Option.some.inj isLine).symm
  rw [Lower.expression.eq_def] at reported
  split at reported
  · next isParenthesized => exact absurd isParenthesized single
  case h_6 =>
    -- A binary operator may be one that can leave its right side out.
    dsimp only at reported
    split at reported
    · exact ownLine reported
    · cases reported
  case h_7 =>
    -- A call may be optional, tagged, or an import.
    split at reported
    · exact ownLine reported
    · split at reported
      · split at reported
        · exact ownLine reported
        · split at reported
          · exact ownLine reported
          · cases reported
      · cases reported
  case h_8 | h_9 =>
    split at reported
    · exact ownLine reported
    · cases reported
  case h_10 =>
    split at reported
    · cases reported
    · exact ownLine reported
  all_goals cases reported

theorem line_of_report? (reported : n.report? r = some s) : ∀ line ∈ s.line, line = n.line := by
  cases r with
  | statement => exact line_of_uncovered_statement reported
  | expression =>
      rw [report?] at reported
      split at reported
      · cases reported
      · next single => exact line_of_uncovered_expression (by simpa using single) reported
  | _ => cases reported

/-- What is reported of a node and of what is walked below it. -/
def reports (r : Role) (n : Node) : List Skipped := (n.reached r).filterMap fun p => p.2.report? p.1

/-- The lines that are named never go back. -/
theorem pairwise_line_reports (ordered : n.Everywhere IsOrdered) (r : Role) :
    ((n.reports r).filterMap Skipped.line).Pairwise (· ≤ ·) := by
  have rows := (pairwise_row_preorder ordered).sublist (n.reached_sublist_preorder r)
  rw [reports, List.pairwise_filterMap, List.pairwise_filterMap]
  refine (List.pairwise_map.mp rows).imp ?_
  intro p q le s reported s' reported' line isLine line' isLine'
  rw [line_of_report? reported line isLine, line_of_report? reported' line' isLine']
  exact Nat.succ_le_succ le

end Node

end SketchSurvey.Script

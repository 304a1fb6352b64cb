import SketchSurvey.Proofs.Analysis.Reached
import SketchSurvey.Proofs.Script.Agreement

/-! The walk for free variables reports what it passes over in the order of the text: what walking a lowered
node adds to the reports is what the nodes that are reached below it report. -/

set_option autoImplicit false

namespace SketchSurvey.Analysis

open SketchSurvey.Script

section Reports

variable {n : Node} {r : Role} {s : Skipped} {role : Node → Option Role}
  {roles : List (String × (Node → Option Role))}

/-- What is reported of a child that stands in some place. -/
def reportsAs (role : Node → Option Role) (c : Node) : List Skipped :=
  match role c with
  | some r => c.reports r
  | none => []

theorem filterMap_reachedAs (role : Node → Option Role) (nodes : List Node) :
    (nodes.flatMap (reachedAs role)).filterMap (fun p => p.2.report? p.1) = nodes.flatMap (reportsAs role) := by
  rw [List.filterMap_flatMap]
  refine List.flatMap_congr fun c _ => ?_
  rw [reachedAs, reportsAs]
  cases role c <;> rfl

theorem reports_eq (r : Role) (n : Node) : n.reports r =
    (n.report? r).toList ++ (reachedAmong (n.reach r) [] n.children).filterMap fun p => p.2.report? p.1 := by
  rw [Node.reports, Node.reached_eq, List.filterMap_cons]
  cases n.report? r <;> rfl

/-- Nothing is walked of what is reported. -/
theorem reports_of_reported (reported : n.report? r = some s) : n.reports r = [s] := by
  have nothing : n.reach r = .nothing := by
    rw [Node.reach, reported]
    rfl
  rw [reports_eq, reported, nothing, reachedAmong_nothing]
  rfl

/-- Of a node that is covered, there are the reports of what is walked below it. -/
theorem reports_of_covered (covered : n.report? r = none) : n.reports r =
    (reachedAmong (Reach.within r n) [] n.children).filterMap fun p => p.2.report? p.1 := by
  have walked : n.reach r = Reach.within r n := by
    rw [Node.reach, covered]
    rfl
  rw [reports_eq, covered, walked]
  rfl

theorem reports_of_each (covered : n.report? r = none) (reach : Reach.within r n = .each role) :
    n.reports r = n.parts.flatMap (reportsAs role) := by
  rw [reports_of_covered covered, reach, reachedAmong_each, filterMap_reachedAs]
  rfl

theorem reports_of_first (covered : n.report? r = none) (reach : Reach.within r n = .first role) :
    n.reports r = n.firstPart?.toList.flatMap (reportsAs role) := by
  rw [reports_of_covered covered, reach, reachedAmong_first rfl, filterMap_reachedAs]
  rfl

theorem reports_of_nothing (covered : n.report? r = none) (reach : Reach.within r n = .nothing) :
    n.reports r = [] := by
  rw [reports_of_covered covered, reach, reachedAmong_nothing]
  rfl

theorem filterMap_reachedPart (nodes : List Node) (p : String × (Node → Option Role)) :
    (reachedPart [] nodes p).filterMap (fun p => p.2.report? p.1) =
      (nodes.find? (·.plays p.1)).toList.flatMap (reportsAs p.2) := by
  rw [reachedPart, List.any_nil, if_neg Bool.false_ne_true, filterMap_reachedAs]

theorem reports_of_part {field : String} (covered : n.report? r = none)
    (reach : Reach.within r n = .parts [(field, role)]) :
    n.reports r = (n.part? field).toList.flatMap (reportsAs role) := by
  have distinct : ([(field, role)].map Prod.fst).Nodup := List.pairwise_singleton _ _
  rw [reports_of_covered covered, reach, reachedAmong_parts distinct (List.pairwise_singleton _ _),
    List.flatMap_singleton, filterMap_reachedPart]
  rfl

theorem partOrder_nodup (kind : String) : (partOrder kind).Nodup := by
  unfold partOrder
  split <;> decide

theorem reports_of_parts (covered : n.report? r = none) (reach : Reach.within r n = .parts roles)
    (ordered : n.IsOrdered) (written : (roles.map Prod.fst).Sublist (partOrder n.kind)) :
    n.reports r = roles.flatMap fun p => (n.part? p.1).toList.flatMap (reportsAs p.2) := by
  have distinct := (partOrder_nodup n.kind).sublist written
  rw [reports_of_covered covered, reach, reachedAmong_parts distinct (ordered.parts.sublist written),
    List.filterMap_flatMap]
  exact List.flatMap_congr fun p _ => filterMap_reachedPart n.children p

end Reports

/-- What a step of the walk adds to the reports, wherever the walk has come to. -/
def Walk.Adds (step : Walk → Walk) (added : List Skipped) : Prop :=
  ∀ w, (step w).skipped = w.skipped ++ added

section Walks

variable {first second : Walk → Walk} {added added' : List Skipped}

theorem Walk.Adds.nothing : Walk.Adds (fun w => w) [] := fun w => (List.append_nil w.skipped).symm

theorem Walk.Adds.reference (name : String) : Walk.Adds (fun w => w.reference name) [] := by
  intro w
  have same : (w.reference name).skipped = w.skipped := by
    unfold Walk.reference
    split <;> rfl
  rw [same, List.append_nil]

theorem Walk.Adds.skip (s : Skipped) : Walk.Adds (fun w => w.skip s) [s] := fun _ => rfl

theorem Walk.Adds.followedBy (adds : Walk.Adds first added) (adds' : Walk.Adds second added') :
    Walk.Adds (fun w => second (first w)) (added ++ added') := by
  intro w
  rw [adds', adds, List.append_assoc]

/-- Steps for several nodes are taken one after another. -/
theorem Walk.Adds.foldl {step : Walk → Node → Walk} {role : Node → Option Role} {nodes : List Node}
    (each : ∀ c ∈ nodes, Walk.Adds (step · c) (reportsAs role c)) :
    Walk.Adds (nodes.foldl step ·) (nodes.flatMap (reportsAs role)) := by
  induction nodes with
  | nil => exact .nothing
  | cons c rest ih =>
      obtain ⟨ofFirst, ofRest⟩ := List.forall_mem_cons.mp each
      exact ofFirst.followedBy (ih ofRest)

theorem walkStatements_eq_foldl (w : Walk) (ss : List Statement) :
    walkStatements w ss = ss.foldl walkStatement w := by
  induction ss generalizing w with
  | nil => rfl
  | cons s rest ih => rw [walkStatements, ih, List.foldl_cons]

theorem walkArguments_eq_foldl (w : Walk) (as : List Argument) :
    walkArguments w as = as.foldl walkArgument w := by
  induction as generalizing w with
  | nil => rfl
  | cons a rest ih => rw [walkArguments, ih, List.foldl_cons]

end Walks

/-- Walking what a node is lowered to adds what is reported of the nodes that are reached below it. -/
structure Matches (n : Node) : Prop where
  expression : Walk.Adds (walkExpr · (Lower.expression n)) (n.reports .expression)
  statement : Walk.Adds (walkStatement · (Lower.statement n)) (n.reports .statement)

section Parts

variable {n : Node} (below : ∀ c ∈ n.children, c.Everywhere Matches)

include below

theorem expressionAt_adds (field : String) : Walk.Adds (walkExpr · (Lower.expressionAt n field))
    ((n.part? field).toList.flatMap (reportsAs fun _ => some .expression)) := by
  rw [Lower.expressionAt]
  split
  · next e found =>
      rw [found, Option.toList_some, List.flatMap_singleton]
      exact (below e (Node.mem_of_part? found)).own.expression
  · next missing =>
      rw [missing]
      exact .reference ""

theorem optionalExpressionAt_adds (field : String) :
    Walk.Adds (walkOptionalExpr · (Lower.optionalExpressionAt n field))
      ((n.part? field).toList.flatMap (reportsAs fun _ => some .expression)) := by
  rw [Lower.optionalExpressionAt]
  cases found : n.part? field with
  | none => exact .nothing
  | some e =>
      rw [Option.toList_some, List.flatMap_singleton]
      exact (below e (Node.mem_of_part? found)).own.expression

theorem receiverAt_adds (field : String) : Walk.Adds (walkReceiver · (Lower.receiverAt n field))
    ((n.part? field).toList.flatMap (reportsAs Role.ofReceiver)) := by
  rw [Lower.receiverAt]
  split
  · next e found =>
      rw [found, Option.toList_some, List.flatMap_singleton, reportsAs, Role.ofReceiver]
      split
      · exact .nothing
      · exact (below e (Node.mem_of_part? found)).own.expression
  · next missing =>
      rw [missing]
      exact .reference ""

theorem firstExpression_adds : Walk.Adds (walkOptionalExpr · (n.firstPart?.map Lower.expression))
    (n.firstPart?.toList.flatMap (reportsAs fun _ => some .expression)) := by
  cases found : n.firstPart? with
  | none => exact .nothing
  | some e =>
      rw [Option.toList_some, List.flatMap_singleton]
      exact (below e (Node.mem_of_firstPart? found)).own.expression

theorem statementAt_adds (field : String) : Walk.Adds (walkStatement · (Lower.statementAt n field))
    ((n.part? field).toList.flatMap (reportsAs fun _ => some .statement)) := by
  rw [Lower.statementAt]
  split
  · next s found =>
      rw [found, Option.toList_some, List.flatMap_singleton]
      exact (below s (Node.mem_of_part? found)).own.statement
  · next missing =>
      rw [missing]
      exact .nothing

/-- Arguments are walked one after another, but for those that are spread. -/
theorem arguments_adds : Walk.Adds (walkArguments · (n.parts.attach.map fun ⟨a, _⟩ => Lower.argument a))
    (n.reports .arguments) := by
  rw [reports_of_each rfl rfl, Lower.map_attach]
  simp only [walkArguments_eq_foldl, List.foldl_map]
  refine .foldl fun c isPart => ?_
  rw [Lower.argument, reportsAs, Role.ofArgument]
  split
  · split <;> exact .nothing
  · exact (below c (Node.mem_of_mem_parts isPart)).own.expression

omit below in
theorem covered_of_expression {e : Expr} (lowered : Lower.expression n = e) (sound : e.uncovered? = none) :
    n.report? .expression = none := by
  rw [Node.report?, lowered, sound]
  exact ite_self _

omit below in
theorem unsupported_adds {kind : String} (single : n.kind ≠ "parenthesized_expression")
    (lowered : Lower.expression n = .unsupported kind n.line) :
    Walk.Adds (walkExpr · (.unsupported kind n.line)) (n.reports .expression) := by
  have reported : n.report? .expression = some { sort := .expression, kind, line := some n.line } := by
    rw [Node.report?, if_neg (by simpa using single), lowered]
    rfl
  rw [reports_of_reported reported]
  exact .skip _

/-- A call is walked as what is called and the arguments stand, unless it has a placeholder. -/
theorem call_adds (ordered : n.IsOrdered) (kind : n.kind = "call_expression") :
    Walk.Adds (walkExpr · (Lower.expression n)) (n.reports .expression) := by
  obtain ⟨e, lowered⟩ : ∃ e, Lower.expression n = e := ⟨_, rfl⟩
  have shape := lowered
  rw [Lower.expression.eq_def] at shape
  simp only [kind] at shape
  rw [lowered]
  have single : n.kind ≠ "parenthesized_expression" := by rw [kind]; decide
  split at shape
  · subst shape
    exact unsupported_adds single lowered
  · split at shape
    · next args found =>
        have reach : Reach.ofExpression n =
            .parts [("function", Role.ofReceiver), ("arguments", fun _ => some .arguments)] := by
          rw [Reach.ofExpression, kind]
          exact if_pos (by rw [found]; rfl)
        split at shape
        · subst shape
          exact unsupported_adds single lowered
        · split at shape
          · subst shape
            exact unsupported_adds single lowered
          · subst shape
            rw [reports_of_parts (covered_of_expression lowered rfl) reach ordered (by rw [kind]; decide),
              List.flatMap_cons, List.flatMap_singleton, found, Option.toList_some, List.flatMap_singleton]
            have inside : ∀ c ∈ args.children, c.Everywhere Matches := fun c isChild =>
              (below args (Node.mem_of_part? found)).child isChild
            exact (receiverAt_adds below "function").followedBy (arguments_adds inside)
    · next missing =>
        have reach : Reach.ofExpression n = .nothing := by
          rw [Reach.ofExpression, kind]
          exact if_neg (by rw [missing]; decide)
        subst shape
        rw [reports_of_nothing (covered_of_expression lowered rfl) reach]
        exact .reference ""

/-- An expression is walked as its parts stand. -/
theorem expression_adds (ordered : n.IsOrdered) :
    Walk.Adds (walkExpr · (Lower.expression n)) (n.reports .expression) := by
  obtain ⟨e, lowered⟩ : ∃ e, Lower.expression n = e := ⟨_, rfl⟩
  have shape := lowered
  rw [Lower.expression.eq_def] at shape
  rw [lowered]
  split at shape
  · next kind =>
      have passed : n.report? .expression = none := by rw [Node.report?, if_pos (by simpa using kind)]
      have reach : Reach.ofExpression n = .first fun _ => some .expression := by
        rw [Reach.ofExpression, kind]
        rfl
      rw [reports_of_first passed reach]
      split at shape
      · next inner found =>
          subst shape
          rw [found, Option.toList_some, List.flatMap_singleton]
          exact (below inner (Node.mem_of_firstPart? found)).own.expression
      · next missing =>
          subst shape
          rw [missing]
          exact .reference ""
  case h_2 kind | h_3 kind =>
    have reach : Reach.ofExpression n = .nothing := by
      rw [Reach.ofExpression, kind]
      rfl
    subst shape
    rw [reports_of_nothing (covered_of_expression lowered rfl) reach]
    exact .reference n.text
  case h_4 kind | h_5 kind =>
    have reach : Reach.ofExpression n = .parts [("right", fun _ => some .expression)] := by
      rw [Reach.ofExpression, kind]
      rfl
    subst shape
    rw [reports_of_part (covered_of_expression lowered rfl) reach]
    exact expressionAt_adds below "right"
  case h_6 kind =>
    have reach : Reach.ofExpression n =
        .parts [("left", fun _ => some .expression), ("right", fun _ => some .expression)] := by
      rw [Reach.ofExpression, kind]
      rfl
    dsimp only at shape
    split at shape
    · subst shape
      exact unsupported_adds (by rw [kind]; decide) lowered
    · subst shape
      rw [reports_of_parts (covered_of_expression lowered rfl) reach ordered (by rw [kind]; decide),
        List.flatMap_cons, List.flatMap_singleton]
      exact (expressionAt_adds below "left").followedBy (expressionAt_adds below "right")
  case h_7 kind =>
    rw [← lowered]
    exact call_adds below ordered kind
  case h_8 kind | h_9 kind =>
    have reach : Reach.ofExpression n = .parts [("object", Role.ofReceiver)] := by
      rw [Reach.ofExpression, kind]
      rfl
    split at shape
    · subst shape
      exact unsupported_adds (by rw [kind]; decide) lowered
    · subst shape
      rw [reports_of_part (covered_of_expression lowered rfl) reach]
      exact receiverAt_adds below "object"
  case h_10 single _ _ _ _ _ _ _ _ =>
    have reach : Reach.ofExpression n = .nothing := by
      rw [Reach.ofExpression]
      split <;> first | rfl | contradiction
    split at shape
    · subst shape
      rw [reports_of_nothing (covered_of_expression lowered rfl) reach]
      exact .nothing
    · subst shape
      exact unsupported_adds single lowered

theorem firstExpressionOr_adds :
    Walk.Adds (walkExpr · ((n.firstPart?.map Lower.expression).getD default))
      (n.firstPart?.toList.flatMap (reportsAs fun _ => some .expression)) := by
  cases found : n.firstPart? with
  | none => exact .reference ""
  | some e =>
      rw [Option.toList_some, List.flatMap_singleton]
      exact (below e (Node.mem_of_firstPart? found)).own.expression

/-- Statements are walked one after another. -/
theorem block_adds : Walk.Adds (walkStatements · (Lower.block n))
    (n.parts.flatMap (reportsAs fun _ => some .statement)) := by
  rw [Lower.block, Lower.map_attach]
  simp only [walkStatements_eq_foldl, List.foldl_map]
  exact .foldl fun c isPart => (below c (Node.mem_of_mem_parts isPart)).own.statement

/-- A function is walked as its body is, in a scope of its own. -/
theorem function_adds (id : Option String) (params : List Pattern) (isAsync isGenerator : Bool) :
    Walk.Adds (walkStatement · (.function id params
        (match _h : n.part? "body" with
          | some b => Lower.block b
          | none => []) isAsync isGenerator))
      ((n.part? "body").toList.flatMap (reportsAs fun _ => some .body)) := by
  have inScope {body : List Statement} {added : List Skipped} (adds : Walk.Adds (walkStatements · body) added) :
      Walk.Adds (walkStatement · (.function id params body isAsync isGenerator)) added :=
    fun w => adds (w.push (functionScope w.scopes id params body))
  refine inScope ?_
  split
  · next b found =>
      have inside : ∀ c ∈ b.children, c.Everywhere Matches := fun c isChild =>
        (below b (Node.mem_of_part? found)).child isChild
      have reports : b.reports .body = b.parts.flatMap (reportsAs fun _ => some .statement) :=
        reports_of_each rfl rfl
      rw [found, Option.toList_some, List.flatMap_singleton, reportsAs]
      dsimp only
      rw [reports]
      exact block_adds inside
  · next missing =>
      rw [missing]
      exact .nothing

theorem clause_adds :
    Walk.Adds (walkOptionalExpr · ((Lower.forClause? n "condition").map Lower.clauseExpression))
      ((n.part? "condition").toList.flatMap (reportsAs Role.ofClause)) := by
  rw [Lower.forClause?]
  cases found : n.part? "condition" with
  | none => exact .nothing
  | some c =>
      have known := (below c (Node.mem_of_part? found)).own
      rw [Option.toList_some, List.flatMap_singleton, reportsAs, Role.ofClause, Option.filter_some]
      split
      · rw [Option.map_some, Lower.clauseExpression]
        dsimp only
        split
        · next kind =>
            have lowered : Lower.statement c = .expression ((c.firstPart?.map Lower.expression).getD default) := by
              rw [Lower.statement]
              simp only [beq_iff_eq.mp kind]
            have adds := known.statement
            rw [lowered] at adds
            exact adds
        · exact known.expression
      · exact .nothing

theorem alternative_adds : Walk.Adds (walkOptionalStatement · ((Lower.elsePart? n).map Lower.statement))
    ((n.part? "alternative").toList.flatMap (reportsAs Role.ofAlternative)) := by
  rw [Lower.elsePart?]
  cases found : n.part? "alternative" with
  | none => exact .nothing
  | some a =>
      have known := below a (Node.mem_of_part? found)
      rw [Option.toList_some, List.flatMap_singleton, reportsAs, Role.ofAlternative, Option.bind_some]
      dsimp only
      split
      · rw [reports_of_first rfl rfl]
        cases inside : a.firstPart? with
        | none => exact .nothing
        | some s =>
            rw [Option.toList_some, List.flatMap_singleton]
            exact (known.child (Node.mem_of_firstPart? inside)).own.statement
      · exact known.own.statement

/-- The values of a declaration are walked one after another. -/
theorem declaration_adds : Walk.Adds (walkStatement · (.declaration (Lower.variableDeclaration n)))
    (n.parts.flatMap (reportsAs Role.ofDeclarator)) := by
  have values : Walk.Adds
      (fun w => ((n.parts.filter fun c => c.kind == "variable_declarator").map Lower.declarator).foldl
        (fun w v => walkOptionalExpr w v.init) w)
      (n.parts.flatMap (reportsAs Role.ofDeclarator)) := by
    simp only [List.foldl_map, List.foldl_filter]
    refine .foldl fun c isPart => ?_
    rw [reportsAs, Role.ofDeclarator]
    split
    · have reports : c.reports .declarator =
          (c.part? "value").toList.flatMap (reportsAs fun _ => some .expression) :=
        reports_of_part rfl rfl
      have inside : ∀ d ∈ c.children, d.Everywhere Matches := fun d isChild =>
        (below c (Node.mem_of_mem_parts isPart)).child isChild
      dsimp only
      rw [reports]
      exact optionalExpressionAt_adds inside "value"
    · exact .nothing
  exact values

/-- A statement is walked as its parts stand. -/
theorem statement_adds (ordered : n.IsOrdered) :
    Walk.Adds (walkStatement · (Lower.statement n)) (n.reports .statement) := by
  obtain ⟨s, lowered⟩ : ∃ s, Lower.statement n = s := ⟨_, rfl⟩
  have shape := lowered
  rw [Lower.statement.eq_def] at shape
  rw [lowered]
  have uncovered {reported : Skipped} (same : s.uncovered? = some reported)
      (adds : Walk.Adds (walkStatement · s) [reported]) :
      Walk.Adds (walkStatement · s) (n.reports .statement) := by
    rw [reports_of_reported (show n.report? .statement = some reported by rw [Node.report?, lowered, same])]
    exact adds
  have covered (sound : s.uncovered? = none) : n.report? .statement = none := by
    rw [Node.report?, lowered, sound]
  split at shape
  case h_1 kind | h_2 kind =>
    have reach : Reach.ofStatement n = .parts [("body", fun _ => some .body)] := by
      rw [Reach.ofStatement, kind]
      rfl
    subst shape
    rw [reports_of_part (covered rfl) reach]
    exact function_adds below _ _ _ _
  case h_3 kind =>
    have reach : Reach.ofStatement n = .each fun _ => some .statement := by
      rw [Reach.ofStatement, kind]
      rfl
    subst shape
    rw [reports_of_each (covered rfl) reach]
    exact block_adds below
  case h_4 kind =>
    have reach : Reach.ofStatement n = .first fun _ => some .expression := by
      rw [Reach.ofStatement, kind]
      rfl
    subst shape
    rw [reports_of_first (covered rfl) reach]
    exact firstExpressionOr_adds below
  case h_5 kind =>
    have reach : Reach.ofStatement n =
        .parts [("body", fun _ => some .statement), ("condition", fun _ => some .expression)] := by
      rw [Reach.ofStatement, kind]
      rfl
    subst shape
    rw [reports_of_parts (covered rfl) reach ordered (by rw [kind]; decide), List.flatMap_cons,
      List.flatMap_singleton]
    exact (statementAt_adds below "body").followedBy (expressionAt_adds below "condition")
  case h_6 kind =>
    have reach : Reach.ofStatement n =
        .parts [("condition", fun _ => some .expression), ("body", fun _ => some .statement)] := by
      rw [Reach.ofStatement, kind]
      rfl
    subst shape
    rw [reports_of_parts (covered rfl) reach ordered (by rw [kind]; decide), List.flatMap_cons,
      List.flatMap_singleton]
    exact (expressionAt_adds below "condition").followedBy (statementAt_adds below "body")
  case h_7 kind =>
    have reach : Reach.ofStatement n = .parts [("condition", Role.ofClause),
        ("increment", fun _ => some .expression), ("body", fun _ => some .statement)] := by
      rw [Reach.ofStatement, kind]
      rfl
    subst shape
    rw [reports_of_parts (covered rfl) reach ordered (by rw [kind]; decide), List.flatMap_cons, List.flatMap_cons,
      List.flatMap_singleton, ← List.append_assoc]
    exact ((clause_adds below).followedBy (optionalExpressionAt_adds below "increment")).followedBy
      (statementAt_adds below "body")
  case h_8 kind =>
    split at shape
    · subst shape
      exact uncovered rfl (.skip _)
    · have reach : Reach.ofStatement n =
          .parts [("right", fun _ => some .expression), ("body", fun _ => some .statement)] := by
        rw [Reach.ofStatement, kind]
        rfl
      subst shape
      rw [reports_of_parts (covered rfl) reach ordered (by rw [kind]; decide), List.flatMap_cons,
        List.flatMap_singleton]
      exact (expressionAt_adds below "right").followedBy (statementAt_adds below "body")
  case h_9 kind =>
    have reach : Reach.ofStatement n = .parts [("condition", fun _ => some .expression),
        ("consequence", fun _ => some .statement), ("alternative", Role.ofAlternative)] := by
      rw [Reach.ofStatement, kind]
      rfl
    have alternate : (match _h : Lower.elsePart? n with
        | some a => some (Lower.statement a)
        | none => none) = (Lower.elsePart? n).map Lower.statement := by
      split <;> simp [*]
    have alternative := alternative_adds below
    rw [← alternate] at alternative
    subst shape
    rw [reports_of_parts (covered rfl) reach ordered (by rw [kind]; decide), List.flatMap_cons, List.flatMap_cons,
      List.flatMap_singleton, ← List.append_assoc]
    exact ((expressionAt_adds below "condition").followedBy (statementAt_adds below "consequence")).followedBy
      alternative
  case h_10 kind =>
    have reach : Reach.ofStatement n = .parts [("body", fun _ => some .statement)] := by
      rw [Reach.ofStatement, kind]
      rfl
    subst shape
    rw [reports_of_part (covered rfl) reach]
    exact statementAt_adds below "body"
  case h_11 kind =>
    have reach : Reach.ofStatement n = .first fun _ => some .expression := by
      rw [Reach.ofStatement, kind]
      rfl
    subst shape
    rw [reports_of_first (covered rfl) reach]
    exact firstExpression_adds below
  case h_12 kind | h_13 kind | h_14 kind | h_15 kind =>
    have reach : Reach.ofStatement n = .nothing := by
      rw [Reach.ofStatement, kind]
      rfl
    subst shape
    rw [reports_of_nothing (covered rfl) reach]
    exact .nothing
  case h_16 kind | h_17 kind =>
    have reach : Reach.ofStatement n = .each Role.ofDeclarator := by
      rw [Reach.ofStatement, kind]
      rfl
    subst shape
    rw [reports_of_each (covered rfl) reach]
    exact declaration_adds below
  all_goals
    subst shape
    exact uncovered rfl (.skip _)

end Parts

theorem everywhere_matches {n : Node} (ordered : n.Everywhere Node.IsOrdered) : n.Everywhere Matches := by
  induction ordered with
  | intro own _ ih => exact .intro ⟨expression_adds ih own, statement_adds ih own⟩ ih

/-- Only functions are lowered to functions. -/
theorem isFunction_statement (c : Node) : isFunction (Lower.statement c) =
    (c.kind == "function_declaration" || c.kind == "generator_function_declaration") := by
  rw [Lower.statement.eq_def]
  split
  case h_8 kind =>
    rw [kind]
    split <;> rfl
  case h_21 =>
    have notFunction : c.kind ≠ "function_declaration" := by assumption
    have notGenerator : c.kind ≠ "generator_function_declaration" := by assumption
    exact (Bool.or_eq_false_iff.mpr ⟨beq_false_of_ne notFunction, beq_false_of_ne notGenerator⟩).symm
  all_goals
    next kind =>
      rw [kind]
      rfl

/-- At the top of a script its functions are walked one after another. -/
theorem skipped_program {root : Node} (ordered : root.Everywhere Node.IsOrdered) :
    (freeVariables (Lower.program root)).skipped = root.reports .program := by
  have all := everywhere_matches ordered
  have functions : Walk.Adds (walkStatements · ((root.parts.map Lower.statement).filter isFunction))
      (root.parts.flatMap (reportsAs Role.ofTopLevel)) := by
    simp only [walkStatements_eq_foldl, List.foldl_filter, List.foldl_map]
    refine .foldl fun c isPart => ?_
    rw [reportsAs, Role.ofTopLevel, ← isFunction_statement]
    split
    · exact (all.child (Node.mem_of_mem_parts isPart)).own.statement
    · exact .nothing
  rw [reports_of_each rfl rfl]
  exact functions {}

/-- The analysis warns of what it does not look into in the order of the text: its warnings are those of the
uncovered nodes among all that are reached from the functions at the top, one for each. The lines that they
name never go back. -/
theorem warnings_in_source_order {read : String → Node} {text fileName : String} {p : Program}
    (ordered : (read text).Everywhere Node.IsOrdered)
    (accepted : parseWith read text fileName = .ok p) :
    (freeVariables p).log =
        (((read text).reached .program).filterMap fun (r, n) => n.report? r).map
          (Skipped.record freeVariablesLogger) ∧
      (((read text).reached .program).map Prod.snd).Sublist (read text).preorder ∧
      ((freeVariables p).skipped.filterMap Skipped.line).Pairwise (· ≤ ·) := by
  obtain ⟨-, rfl⟩ := parseWith_eq_ok accepted
  have skipped := skipped_program ordered
  refine ⟨?_, (read text).reached_sublist_preorder .program, ?_⟩
  · rw [FreeVariables.log, skipped]
    rfl
  · rw [skipped]
    exact Node.pairwise_line_reports ordered .program

section Example

open Node (branch leaf word enclosed)

/-- The tree of a loop whose body is written on one line and its condition on the next. -/
def lateCondition : Node :=
  branch "do_statement" none 1 "do a && b;\n  while (c?.d);" [
    word none 1 "do",
    branch "expression_statement" (some "body") 1 "a && b;" [
      branch "binary_expression" none 1 "a && b" [
        leaf "identifier" (some "left") 1 "a", word (some "operator") 1 "&&",
        leaf "identifier" (some "right") 1 "b"],
      word none 1 ";"],
    word none 2 "while",
    branch "parenthesized_expression" (some "condition") 2 "(c?.d)" (enclosed .round 2 2 [
      branch "member_expression" none 2 "c?.d" [
        leaf "identifier" (some "object") 2 "c", leaf "optional_chain" (some "optional_chain") 2 "?.",
        leaf "property_identifier" (some "property") 2 "d"]]),
    word none 2 ";"]

def lateConditionTree : Node :=
  branch "program" none 0 "function f() \x7b\n  do a && b;\n  while (c?.d);\n\x7d" [
    branch "function_declaration" none 0 "function f() \x7b\n  do a && b;\n  while (c?.d);\n\x7d" [
      word none 0 "function", leaf "identifier" (some "name") 0 "f",
      branch "formal_parameters" (some "parameters") 0 "()" (enclosed .round 0 0 []),
      branch "statement_block" (some "body") 0 "\x7b\n  do a && b;\n  while (c?.d);\n\x7d"
        (enclosed .curly 0 3 [lateCondition])]]

theorem isOrdered_lateConditionTree : lateConditionTree.Everywhere Node.IsOrdered :=
  .of_forall_mem (by decide)

theorem warnings_in_source_order_lateConditionTree :
    lateConditionTree.Everywhere Node.IsOrdered ∧
      ∃ p, parseWith (fun _ => lateConditionTree) lateConditionTree.text = .ok p ∧
        (freeVariables p).log =
          ((lateConditionTree.reached .program).filterMap fun (r, n) => n.report? r).map
            (Skipped.record freeVariablesLogger) ∧
        ((freeVariables p).skipped.filterMap Skipped.line).Pairwise (· ≤ ·) := by
  have accepted : parseWith (fun _ => lateConditionTree) lateConditionTree.text =
      .ok (Lower.program lateConditionTree) :=
    parseWith_of_hasParts rfl (.of_forall_mem (by decide))
  obtain ⟨log, -, lines⟩ := warnings_in_source_order isOrdered_lateConditionTree accepted
  exact ⟨isOrdered_lateConditionTree, _, accepted, log, lines⟩

end Example

end SketchSurvey.Analysis

import SketchSurvey.Proofs.Script.LoweredHead

/-! Only one statement has the tokens of a printed one, whatever follows it. -/

set_option autoImplicit false

namespace SketchSurvey.Script

open Node (branch leaf word enclosed modifiers)
open Token (comma semicolon separated)

variable {field : Option String} {n : Node} {ts us rest rest' : List Token} {sign : String}

/-- Tokens that do not go on with a branch. -/
def Token.NoElse (ts : List Token) : Prop := ∀ us, ts ≠ .mark "else" :: us

theorem StatementTree.starts (tree : StatementTree field n ts) (rest : List Token) :
    ts ≠ [] ∧ Token.NoElse (ts ++ rest) := by
  cases tree with
  | expression expression =>
      refine ⟨List.append_ne_nil_of_right_ne_nil _ (List.cons_ne_nil _ _), ?_⟩
      intro us same
      rw [List.append_assoc] at same
      exact expression.not_mark same
  | declaration declaration =>
      refine ⟨?_, fun us same => absurd (declaration.mem_of_mark same) (by decide)⟩
      obtain ⟨kind, later, rfl, _⟩ := declaration.starts
      exact List.cons_ne_nil _ _
  | @function _ _ _ isAsync =>
      refine ⟨by simp, ?_⟩
      cases isAsync <;> simp [Token.NoElse, modifierTokens]
  | _ =>
      refine ⟨List.cons_ne_nil _ _, ?_⟩
      simp [Token.NoElse, semicolon]

theorem Statement.Printable.starts {s : Statement} (printable : s.Printable) (rest : List Token) :
    s.tokens ≠ [] ∧ Token.NoElse (s.tokens ++ rest) := by
  cases printable with
  | @function _ _ _ isAsync =>
      cases isAsync <;> simp [Statement.tokens, Token.NoElse, modifierTokens]
  | @declaration d =>
      refine ⟨List.cons_ne_nil _ _, ?_⟩
      intro us same
      have known := d.kind.word_mem
      rw [Token.mark.inj (List.cons.inj same).1] at known
      exact absurd known (by decide)
  | _ => simp [Statement.tokens, Token.NoElse, semicolon, modifierTokens]

theorem Sequence.noElse {nodes : List Node} (tree : Sequence (StatementTree none) nodes ts) :
    Token.NoElse ts := by
  cases tree with
  | nil => nofun
  | cons item _ => exact (item.starts _).2

theorem noElse_statementsTokens {body : List Statement} (printable : ∀ s ∈ body, s.Printable) :
    Token.NoElse (statementsTokens body) := by
  cases body with
  | nil => nofun
  | cons s rest => exact ((printable s (.head _)).starts _).2

/-- A statement's tokens end where the statement ends, and every tree of them is lowered to it. -/
def Statement.Lowers (s : Statement) : Prop :=
  ∀ {field n ts rest rest'}, StatementTree field n ts → ts ++ rest = s.tokens ++ rest' →
    Token.NoElse rest → Token.NoElse rest' → rest = rest' ∧ Lower.statement n = s

/-- Statements are told apart one after another. -/
theorem map_parts_of_sequence {body : List Statement} (printable : ∀ s ∈ body, s.Printable)
    (each : ∀ s ∈ body, s.Lowers) {nodes : List Node}
    (tree : Sequence (StatementTree none) nodes ts) (same : ts = statementsTokens body) :
    (nodes.filter Node.isShown).map Lower.statement = body := by
  induction body generalizing nodes ts with
  | nil =>
      cases tree with
      | nil => rfl
      | cons item _ =>
          have nonempty := (item.starts []).1
          exact absurd (List.append_eq_nil_iff.mp same).1 nonempty
  | cons s body ih =>
      have followed : ∀ t ∈ body, t.Printable := fun t member => printable t (.tail _ member)
      cases tree with
      | nil =>
          have nonempty := ((printable s (.head _)).starts []).1
          exact absurd (List.append_eq_nil_iff.mp same.symm).1 nonempty
      | cons item later =>
          obtain ⟨others, lowered⟩ := each s (.head _) item same later.noElse
            (noElse_statementsTokens followed)
          have rest := ih followed (fun t member => each t (.tail _ member)) later others
          rw [List.filter_cons_of_pos item.isPart.shown, List.map_cons, lowered, rest]

theorem functionTokens_eq_cons (isAsync : Bool) (ts : List Token) :
    ∃ sign later, modifierTokens isAsync "async" ++ .mark "function" :: ts = .mark sign :: later ∧
      (sign = "async" ∨ sign = "function") := by
  cases isAsync with
  | false => exact ⟨_, _, rfl, .inr rfl⟩
  | true => exact ⟨_, _, rfl, .inl rfl⟩

theorem functionTokens_starts {isAsync : Bool}
    (same : modifierTokens isAsync "async" ++ .mark "function" :: us ++ rest = .mark sign :: rest') :
    sign = "async" ∨ sign = "function" := by
  obtain ⟨sign', later, whole, known⟩ := functionTokens_eq_cons isAsync us
  rw [whole] at same
  cases (List.cons.inj same).1
  exact known

/-- The parts of a function are told from its tokens. -/
theorem functionTokens_inj {isAsync isAsync' isGenerator isGenerator' : Bool} {id id' : String}
    {params params' body body' : List Token}
    (same : modifierTokens isAsync "async" ++ .mark "function" ::
        (modifierTokens isGenerator "*" ++
          [.name id, .group .round params, .group .curly body]) ++ rest =
      modifierTokens isAsync' "async" ++ .mark "function" ::
        (modifierTokens isGenerator' "*" ++
          [.name id', .group .round params', .group .curly body']) ++ rest') :
    isAsync = isAsync' ∧ isGenerator = isGenerator' ∧ id = id' ∧ params = params' ∧ body = body' ∧
      rest = rest' := by
  cases isAsync <;> cases isAsync' <;> cases isGenerator <;> cases isGenerator' <;>
    simp [modifierTokens] at same <;> simp [same]

theorem ExpressionTree.statement_not_mark (tree : ExpressionTree field n ts) :
    ts ++ [semicolon] ++ rest ≠ .mark sign :: rest' := by
  rw [List.append_assoc]
  exact tree.not_mark

/-- An expression is not followed by a colon where a label would be. -/
theorem ExpressionTree.not_labeled {t : Token} (tree : ExpressionTree field n ts) :
    ts ++ [semicolon] ++ rest ≠ t :: .mark ":" :: rest' := by
  intro same
  match ts, tree.ne_nil, tree.inner with
  | [_], _, _ =>
      have sign := Token.mark.inj (List.cons.inj (List.cons.inj same).2).1
      exact absurd sign (by decide)
  | _ :: second :: _, _, inner =>
      obtain ⟨rfl, _⟩ := List.cons.inj (List.cons.inj same).2
      exact inner.not_mem (by decide : ":" ∉ innerMarks) (.tail _ (.head _))

/-- What stands in curly brackets where a statement can stand is a block. -/
theorem StatementTree.lowers_block {body : List Statement} (printable : ∀ s ∈ body, s.Printable)
    (each : ∀ s ∈ body, s.Lowers) (tree : StatementTree field n ts)
    (same : ts ++ rest = (Statement.block body).tokens ++ rest') :
    rest = rest' ∧ Lower.statement n = .block body := by
  rw [Statement.tokens, List.singleton_append] at same
  cases tree with
  | block sequence =>
      obtain ⟨group, later⟩ := List.cons.inj same
      have inner := (Token.group.inj group).2
      refine ⟨later, ?_⟩
      rw [Lower.statement_block, map_parts_of_sequence printable each sequence inner]
  | expression expression =>
      rw [List.append_assoc] at same
      exact absurd same expression.not_curly
  | declaration declaration =>
      obtain ⟨kind, _, rfl, _⟩ := declaration.starts
      cases (List.cons.inj same).1
  | @function _ _ _ isAsync =>
      cases isAsync <;> cases (List.cons.inj same).1
  | _ => cases (List.cons.inj same).1

/-- A condition stands in brackets of its own. -/
theorem ExpressionTree.lowers_condition {e : Expr} (lowers : e.Lowers)
    (tree : ExpressionTree field n [.group .round [e.wrapped]]) : Lower.expression n = e := by
  cases tree.single with
  | parenthesized inner =>
      rw [Lower.expression_parenthesized inner.isPart, lowers.wrapped inner]

section Loops

variable {body : List Statement} (printable : ∀ s ∈ body, s.Printable)
  (each : ∀ s ∈ body, s.Lowers)

include printable each

theorem Statement.lowers_block : Statement.Lowers (.block body) :=
  fun tree same _ _ => tree.lowers_block printable each same

theorem Statement.lowers_while {test : Expr} (lowers : test.Lowers) :
    Statement.Lowers (.while test (.block body)) := by
  intro field n ts rest rest' tree same _ _
  rw [Statement.tokens, List.cons_append, List.cons_append] at same
  cases tree with
  | «while» condition inner =>
      obtain ⟨group, later⟩ := List.cons.inj (List.cons.inj same).2
      cases group
      obtain ⟨rfl, lowered⟩ := inner.lowers_block printable each later
      refine ⟨rfl, ?_⟩
      rw [Lower.statement_while condition.isPart inner.isPart, condition.lowers_condition lowers,
        lowered]
  | expression expression => exact absurd same expression.statement_not_mark
  | declaration declaration => exact absurd (declaration.mem_of_mark same) (by decide)
  | function => exact absurd (functionTokens_starts same) (by decide)
  | _ => simp [semicolon] at same

theorem Statement.lowers_doWhile {test : Expr} (lowers : test.Lowers) :
    Statement.Lowers (.doWhile (.block body) test) := by
  intro field n ts rest rest' tree same _ _
  rw [Statement.tokens, List.cons_append] at same
  cases tree with
  | «do» inner condition =>
      rw [List.cons_append, List.append_assoc, List.append_assoc] at same
      obtain ⟨ended, lowered⟩ := inner.lowers_block printable each (List.cons.inj same).2
      obtain ⟨group, later⟩ := List.cons.inj (List.cons.inj ended).2
      cases group
      refine ⟨(List.cons.inj later).2, ?_⟩
      rw [Lower.statement_do inner.isPart condition.isPart, condition.lowers_condition lowers,
        lowered]
  | expression expression => exact absurd same expression.statement_not_mark
  | declaration declaration => exact absurd (declaration.mem_of_mark same) (by decide)
  | function => exact absurd (functionTokens_starts same) (by decide)
  | _ => simp [semicolon] at same

theorem Statement.lowers_for {init : ForInit} {test update : Option Expr}
    (initialized : init.Printable) (tested : ∀ e ∈ test, e.Printable)
    (updated : ∀ e ∈ update, e.Printable) :
    Statement.Lowers (.for init test update (.block body)) := by
  intro field n ts rest rest' tree same _ _
  rw [Statement.tokens, List.cons_append, List.cons_append] at same
  cases tree with
  | @«for» _ row text row' first inits _ tests _ updates _ last body _ isInit isTest isUpdate inner =>
      obtain ⟨group, later⟩ := List.cons.inj (List.cons.inj same).2
      obtain ⟨rfl, lowered⟩ := inner.lowers_block printable each later
      obtain ⟨others, start, found, lowersInit⟩ := isInit.lowers initialized (Token.group.inj group).2
      obtain ⟨⟨check, found', lowersTest⟩, lowersUpdate⟩ :=
        isTest.lowers tested updated isUpdate others
      generalize whole : branch "for_statement" field row text (word none row' "for" ::
        word none first "(" :: (inits ++ (tests ++ (updates ++ [word none last ")", body])))) = loop
      have initLacks {part : String} (other : part ≠ "initializer") :=
        (isInit.lacks other).find?_eq_none
      have testLacks {part : String} (other : part ≠ "condition") :=
        (isTest.lacks other).find?_eq_none
      have isBody : loop.part? "body" = some body := by
        rw [← whole, Node.part?_mk]
        simp [List.find?_append, initLacks (by decide : "body" ≠ "initializer"),
          testLacks (by decide : "body" ≠ "condition"),
          (isUpdate.lacks (by decide : "body" ≠ "increment")).find?_eq_none, inner.isPart.plays]
      have isInitializer : loop.part? "initializer" = some start := by
        rw [← whole, Node.part?_mk]
        simp [List.find?_append, found]
      have isCondition : loop.part? "condition" = some check := by
        rw [← whole, Node.part?_mk]
        simp [List.find?_append, initLacks (by decide : "condition" ≠ "initializer"), found']
      have isIncrement : Lower.optionalExpressionAt loop "increment" = update := by
        rw [← whole, Lower.optionalExpressionAt, Node.part?_mk, ← lowersUpdate]
        simp [List.find?_append, initLacks (by decide : "increment" ≠ "initializer"),
          testLacks (by decide : "increment" ≠ "condition"), inner.isPart.plays]
      refine ⟨rfl, ?_⟩
      rw [Lower.statement_for (by rw [← whole]; rfl) isBody, lowersInit _ isInitializer,
        lowersTest _ isCondition, isIncrement, lowered]
  | forIn isLeft known isRight =>
      -- the two kinds of `for` differ in whether a semicolon stands in the head
      obtain ⟨group, _⟩ := List.cons.inj (List.cons.inj same).2
      refine absurd ?_ (isLeft.not_mem_head known isRight)
      rw [(Token.group.inj group).2]
      simp
  | expression expression => exact absurd same expression.statement_not_mark
  | declaration declaration => exact absurd (declaration.mem_of_mark same) (by decide)
  | function => exact absurd (functionTokens_starts same) (by decide)
  | _ => simp [semicolon] at same

/-- The parts of a `for` over a collection are told from its tokens. -/
theorem StatementTree.parts_of_head {left : ForTarget} {right : Expr} {operator : String}
    (target : left.Printable) (known : operator ∈ ["in", "of"]) (lowers : right.Lowers)
    (tree : StatementTree field n ts)
    (same : ts ++ rest = .mark "for" :: .group .round (left.tokens ++
      [.mark operator, right.wrapped]) :: ((Statement.block body).tokens ++ rest')) :
    rest = rest' ∧ ∃ row text row' first kind row₁ isLeft sign isRight last isBody,
      n = branch "for_in_statement" field row text (word none row' "for" :: word none first "(" ::
        (Lower.headWord kind row₁ ++ [isLeft, word (some "operator") sign operator, isRight,
          word none last ")", isBody])) ∧
      isLeft.IsPart (some "left") ∧ isRight.IsPart (some "right") ∧ isBody.IsPart (some "body") ∧
      Lower.headTarget kind (Lower.pattern isLeft) = left ∧ Lower.expression isRight = right ∧
      Lower.statement isBody = .block body := by
  cases tree with
  | @forIn _ row text row' first _ _ sign _ _ _ last _ _ isLeft _ isRight inner =>
      obtain ⟨group, later⟩ := List.cons.inj (List.cons.inj same).2
      obtain ⟨rfl, lowered⟩ := inner.lowers_block printable each later
      obtain ⟨rfl, rfl, kind, row₁, left, rfl, isPart, lowersLeft⟩ :=
        isLeft.lowers target isRight.ne_nil (Token.group.inj group).2
      refine ⟨rfl, row, text, row', first, kind, row₁, left, sign, _, last, _, ?_, isPart,
        isRight.isPart, inner.isPart, lowersLeft, lowers.wrapped isRight, lowered⟩
      rw [List.append_assoc, List.singleton_append]
  | «for» isInit =>
      obtain ⟨group, _⟩ := List.cons.inj (List.cons.inj same).2
      refine absurd ?_ (target.not_mem_head known (e := right))
      rw [← (Token.group.inj group).2]
      exact List.mem_append_left _ isInit.semicolon_mem
  | expression expression => exact absurd same expression.statement_not_mark
  | declaration declaration => exact absurd (declaration.mem_of_mark same) (by decide)
  | function => exact absurd (functionTokens_starts same) (by decide)
  | _ => simp [semicolon] at same

theorem Statement.lowers_forIn {left : ForTarget} {right : Expr} (target : left.Printable)
    (lowers : right.Lowers) : Statement.Lowers (.forIn left right (.block body)) := by
  intro field n ts rest rest' tree same _ _
  rw [Statement.tokens, List.cons_append, List.cons_append] at same
  obtain ⟨rfl, _, _, _, _, _, _, _, _, _, _, _, rfl, isLeft, isRight, isBody, lowersLeft,
    lowersRight, lowered⟩ := tree.parts_of_head printable each target (.head _) lowers same
  refine ⟨rfl, ?_⟩
  rw [Lower.statement_forIn isLeft isRight isBody, lowersLeft, lowersRight, lowered]

theorem Statement.lowers_forOf {left : ForTarget} {right : Expr} (target : left.Printable)
    (lowers : right.Lowers) : Statement.Lowers (.forOf left right (.block body) false) := by
  intro field n ts rest rest' tree same _ _
  rw [Statement.tokens, List.cons_append, modifierTokens, if_neg Bool.false_ne_true,
    List.nil_append, List.cons_append] at same
  obtain ⟨rfl, _, _, _, _, _, _, _, _, _, _, _, rfl, isLeft, isRight, isBody, lowersLeft,
    lowersRight, lowered⟩ := tree.parts_of_head printable each target (.tail _ (.head _)) lowers same
  refine ⟨rfl, ?_⟩
  rw [Lower.statement_forOf isLeft isRight isBody, lowersLeft, lowersRight, lowered]

theorem Statement.lowers_if {test : Expr} (lowers : test.Lowers) :
    Statement.Lowers (.if test (.block body) none) := by
  intro field n ts rest rest' tree same _ noElse'
  rw [Statement.tokens, alternateTokens, List.append_nil, List.cons_append,
    List.cons_append] at same
  cases tree with
  | «if» condition consequence =>
      obtain ⟨group, later⟩ := List.cons.inj (List.cons.inj same).2
      cases group
      obtain ⟨rfl, lowered⟩ := consequence.lowers_block printable each later
      refine ⟨rfl, ?_⟩
      rw [Lower.statement_if condition.isPart consequence.isPart,
        condition.lowers_condition lowers, lowered]
  | ifElse _ consequence =>
      -- the consequence ends where the block ends, so what follows would start with `else`
      have later := (List.cons.inj (List.cons.inj same).2).2
      obtain ⟨goesOn, _⟩ :=
        consequence.lowers_block printable each ((List.append_assoc ..).symm.trans later)
      exact absurd goesOn.symm (noElse' _)
  | expression expression => exact absurd same expression.statement_not_mark
  | declaration declaration => exact absurd (declaration.mem_of_mark same) (by decide)
  | function => exact absurd (functionTokens_starts same) (by decide)
  | _ => simp [semicolon] at same

theorem Statement.lowers_ifElse {test : Expr} (lowers : test.Lowers) {alternate : List Statement}
    (printable' : ∀ s ∈ alternate, s.Printable) (each' : ∀ s ∈ alternate, s.Lowers) :
    Statement.Lowers (.if test (.block body) (some (.block alternate))) := by
  intro field n ts rest rest' tree same noElse _
  rw [Statement.tokens, alternateTokens, List.cons_append, List.cons_append,
    List.append_assoc] at same
  cases tree with
  | «if» _ consequence =>
      -- here `else` would be left to what follows
      have later := (List.cons.inj (List.cons.inj same).2).2
      obtain ⟨goesOn, _⟩ := consequence.lowers_block printable each later
      exact absurd goesOn (noElse _)
  | ifElse condition consequence alternative =>
      obtain ⟨group, later⟩ := List.cons.inj (List.cons.inj same).2
      cases group
      obtain ⟨goesOn, lowered⟩ :=
        consequence.lowers_block printable each ((List.append_assoc ..).symm.trans later)
      obtain ⟨rfl, lowered'⟩ := alternative.lowers_block printable' each' (List.cons.inj goesOn).2
      refine ⟨rfl, ?_⟩
      rw [Lower.statement_ifElse condition.isPart consequence.isPart alternative.isPart,
        condition.lowers_condition lowers, lowered, lowered']
  | expression expression => exact absurd same expression.statement_not_mark
  | declaration declaration => exact absurd (declaration.mem_of_mark same) (by decide)
  | function => exact absurd (functionTokens_starts same) (by decide)
  | _ => simp [semicolon] at same

theorem Statement.lowers_function {id : String} {params : List Pattern}
    (elements : ∀ p ∈ params, p.Element) {isAsync isGenerator : Bool} :
    Statement.Lowers (.function (some id) params body isAsync isGenerator) := by
  intro field n ts rest rest' tree same _ _
  rw [Statement.tokens] at same
  cases tree with
  | function _ listed sequence =>
      obtain ⟨rfl, rfl, rfl, isParams, isBody, rfl⟩ := functionTokens_inj same
      have lowered := map_parts_of_listed ElementTree.item (fun _ => rfl)
        (fun p member => ⟨(elements p member).isItem, (elements p member).lowers none⟩) listed
        isParams
      refine ⟨rfl, ?_⟩
      rw [Lower.statement_function, lowered, map_parts_of_sequence printable each sequence isBody]
  | expression expression =>
      obtain ⟨sign, later, whole, _⟩ := functionTokens_eq_cons isAsync _
      rw [whole] at same
      exact absurd same expression.statement_not_mark
  | declaration declaration =>
      obtain ⟨kind, later, rfl, known⟩ := declaration.starts
      rcases functionTokens_starts same.symm with rfl | rfl <;> exact absurd known (by decide)
  | block | labeled => cases isAsync <;> cases (List.cons.inj same).1
  | _ => exact absurd (functionTokens_starts same.symm) (by decide)

end Loops

theorem Statement.lowers_labeled {label : String} {body : Statement} (lowers : body.Lowers) :
    Statement.Lowers (.labeled label body) := by
  intro field n ts rest rest' tree same noElse noElse'
  rw [Statement.tokens, List.cons_append, List.cons_append] at same
  cases tree with
  | labeled _ inner =>
      obtain ⟨name, later⟩ := List.cons.inj same
      cases name
      obtain ⟨rfl, lowered⟩ := lowers inner (List.cons.inj later).2 noElse noElse'
      refine ⟨rfl, ?_⟩
      rw [Lower.statement_labeled inner.isPart, lowered]
  | expression expression => exact absurd same expression.not_labeled
  | declaration declaration =>
      obtain ⟨kind, _, rfl, _⟩ := declaration.starts
      cases (List.cons.inj same).1
  | @function _ _ _ isAsync => cases isAsync <;> cases (List.cons.inj same).1
  | _ => cases (List.cons.inj same).1

theorem Statement.lowers_expression {e : Expr} (lowers : e.Lowers) :
    Statement.Lowers (.expression e) := by
  intro field n ts rest rest' tree same _ _
  replace same : ts ++ rest = [.group .round e.tokens] ++ semicolon :: rest' := same
  cases tree with
  | expression expression =>
      rw [List.append_assoc] at same
      have printed : Token.Inner [.group .round e.tokens] := Token.inner_singleton id
      obtain ⟨rfl, rfl⟩ := Token.append_cons_inj (expression.inner.not_mem (by decide))
        (printed.not_mem (by decide)) same
      cases expression.single with
      | parenthesized inner =>
          refine ⟨rfl, ?_⟩
          rw [Lower.statement_expression expression.isPart,
            Lower.expression_parenthesized inner.isPart, lowers none _ inner]
  | declaration declaration =>
      obtain ⟨kind, _, rfl, _⟩ := declaration.starts
      cases (List.cons.inj same).1
  | @function _ _ _ isAsync => cases isAsync <;> cases (List.cons.inj same).1
  | _ => cases (List.cons.inj same).1

theorem Statement.lowers_declaration {d : VariableDeclaration} (printable : d.Printable) :
    Statement.Lowers (.declaration d) := by
  intro field n ts rest rest' tree same _ _
  have known := d.kind.word_mem
  rw [Statement.tokens] at same
  cases tree with
  | declaration declaration =>
      obtain ⟨_, later, declares, lowered⟩ := printable.lowers declaration same
      refine ⟨later, ?_⟩
      rw [Lower.statement_declaration declares, lowered]
  | expression expression => exact absurd same expression.statement_not_mark
  | function =>
      rcases functionTokens_starts same with word | word <;> exact absurd (word ▸ known) (by decide)
  | block | labeled => cases (List.cons.inj same).1
  | _ => exact absurd (Token.mark.inj (List.cons.inj same).1 ▸ known) (by decide)

theorem Statement.lowers_return {argument : Option Expr} (printable : ∀ e ∈ argument, e.Printable) :
    Statement.Lowers (.return argument) := by
  intro field n ts rest rest' tree same _ _
  rw [Statement.tokens, List.cons_append, List.append_assoc, List.singleton_append] at same
  cases tree with
  | «return» result =>
      rw [List.cons_append, List.append_assoc] at same
      obtain ⟨later, lowered⟩ := result.lowers printable (List.cons.inj same).2
      refine ⟨later, ?_⟩
      rw [Lower.statement_return, lowered]
  | expression expression => exact absurd same expression.statement_not_mark
  | declaration declaration => exact absurd (declaration.mem_of_mark same) (by decide)
  | function => exact absurd (functionTokens_starts same) (by decide)
  | _ => simp [semicolon] at same

theorem Statement.lowers_break (label : Option String) : Statement.Lowers (.break label) := by
  intro field n ts rest rest' tree same _ _
  rw [Statement.tokens, List.cons_append, List.append_assoc, List.singleton_append] at same
  cases tree with
  | «break» isLabel =>
      rw [List.cons_append, List.append_assoc] at same
      obtain ⟨later, lowered⟩ := isLabel.lowers (List.cons.inj same).2
      refine ⟨later, ?_⟩
      rw [Lower.statement_break, lowered]
  | expression expression => exact absurd same expression.statement_not_mark
  | declaration declaration => exact absurd (declaration.mem_of_mark same) (by decide)
  | function => exact absurd (functionTokens_starts same) (by decide)
  | _ => simp [semicolon] at same

theorem Statement.lowers_continue (label : Option String) :
    Statement.Lowers (.continue label) := by
  intro field n ts rest rest' tree same _ _
  rw [Statement.tokens, List.cons_append, List.append_assoc, List.singleton_append] at same
  cases tree with
  | «continue» isLabel =>
      rw [List.cons_append, List.append_assoc] at same
      obtain ⟨later, lowered⟩ := isLabel.lowers (List.cons.inj same).2
      refine ⟨later, ?_⟩
      rw [Lower.statement_continue, lowered]
  | expression expression => exact absurd same expression.statement_not_mark
  | declaration declaration => exact absurd (declaration.mem_of_mark same) (by decide)
  | function => exact absurd (functionTokens_starts same) (by decide)
  | _ => simp [semicolon] at same

theorem Statement.lowers_empty : Statement.Lowers .empty := by
  intro field n ts rest rest' tree same _ _
  rw [Statement.tokens, List.singleton_append] at same
  cases tree with
  | empty =>
      refine ⟨(List.cons.inj same).2, ?_⟩
      rw [Lower.statement_empty]
  | expression expression => exact absurd same expression.statement_not_mark
  | declaration declaration => exact absurd (declaration.mem_of_mark same) (by decide)
  | function => exact absurd (functionTokens_starts same) (by decide)
  | _ => simp [semicolon] at same

/-- Every tree of a printed statement is lowered to the statement. -/
theorem Statement.Printable.lowers : ∀ {s : Statement}, s.Printable → s.Lowers
  | _, .function _ params body =>
      lowers_function body (fun s member => (body s member).lowers) params
  | _, .block body => lowers_block body fun s member => (body s member).lowers
  | _, .doWhile body test =>
      lowers_doWhile body (fun s member => (body s member).lowers) test.lowers
  | _, .expression printable => lowers_expression printable.lowers
  | _, .for init test update body =>
      lowers_for body (fun s member => (body s member).lowers) init test update
  | _, .forIn left right body =>
      lowers_forIn body (fun s member => (body s member).lowers) left right.lowers
  | _, .forOf left right body =>
      lowers_forOf body (fun s member => (body s member).lowers) left right.lowers
  | _, .if test consequent =>
      lowers_if consequent (fun s member => (consequent s member).lowers) test.lowers
  | _, .ifElse test consequent alternate =>
      lowers_ifElse consequent (fun s member => (consequent s member).lowers) test.lowers alternate
        fun s member => (alternate s member).lowers
  | _, .labeled _ _ body => lowers_labeled body.lowers
  | _, .return argument => lowers_return argument
  | _, .declaration printable => lowers_declaration printable
  | _, .while test body => lowers_while body (fun s member => (body s member).lowers) test.lowers
  | _, .break _ => lowers_break _
  | _, .continue _ => lowers_continue _
  | _, .empty => lowers_empty

end SketchSurvey.Script

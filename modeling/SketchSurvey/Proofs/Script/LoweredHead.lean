import SketchSurvey.Proofs.Script.LoweredPattern

/-! Only one head of a statement has the tokens of a printed one: what a `for` starts with, checks and
does after each round, what takes the values of a collection, a result, a label. -/

set_option autoImplicit false

namespace SketchSurvey.Script

open Node (branch leaf word enclosed modifiers)
open Token (comma semicolon separated)

variable {field : Option String} {n : Node} {ts us rest rest' : List Token} {sign : String}

theorem Token.not_isMark_of_isAtom {t : Token} (atom : t.IsAtom) : ¬ t.IsMark := by
  cases t with
  | mark => exact atom.elim
  | name | number | group => exact id

/-- An expression does not start with a mark. -/
theorem ExpressionTree.not_mark (tree : ExpressionTree field n ts) :
    ts ++ rest ≠ .mark sign :: rest' := by
  obtain ⟨first, later, rfl, atom⟩ := tree.starts
  intro same
  cases (List.cons.inj same).1
  exact atom.elim

theorem ExpressionTree.not_curly (tree : ExpressionTree field n ts) :
    ts ++ rest ≠ .group .curly us :: rest' := by
  obtain ⟨first, later, rfl, atom⟩ := tree.starts
  intro same
  cases (List.cons.inj same).1
  exact atom.elim

theorem DeclarationTree.starts (tree : DeclarationTree field n ts) :
    ∃ kind later, ts = .mark kind :: later ∧ kind ∈ ["var", "let", "const"] := by
  cases tree with
  | var => exact ⟨_, _, rfl, .head _⟩
  | lexical known => exact ⟨_, _, rfl, .tail _ known⟩

/-- A declaration starts with one of its words. -/
theorem DeclarationTree.mem_of_mark (tree : DeclarationTree field n ts)
    (same : ts ++ rest = .mark sign :: rest') : sign ∈ ["var", "let", "const"] := by
  obtain ⟨kind, later, rfl, known⟩ := tree.starts
  cases (List.cons.inj same).1
  exact known

/-- What is printed of an expression inside something else ends where the next mark stands. -/
theorem ExpressionTree.eq_wrapped {e : Expr} (tree : ExpressionTree field n ts)
    (other : sign ∉ innerMarks)
    (same : ts ++ .mark sign :: rest = e.wrapped :: .mark sign :: rest') :
    ts = [e.wrapped] ∧ rest = rest' :=
  Token.append_cons_inj (tree.inner.not_mem other)
    ((Token.inner_singleton e.not_isMark_wrapped).not_mem other) same

theorem Expr.wrapped_ne_mark (e : Expr) : e.wrapped ≠ .mark sign := by
  intro same
  have unmarked := e.not_isMark_wrapped
  rw [same] at unmarked
  exact unmarked trivial

section Heads

/-- What a `for` starts with is told from its tokens. -/
theorem InitTree.lowers {init : ForInit} (printable : init.Printable) {inits : List Node}
    (tree : InitTree inits ts) (same : ts ++ rest = init.tokens ++ rest') :
    rest = rest' ∧ ∃ e, (inits.find? (·.plays "initializer")) = some e ∧
      ∀ n, n.part? "initializer" = some e → Lower.forInit n = init := by
  cases printable with
  | none =>
      cases tree with
      | none =>
          refine ⟨(List.cons.inj same).2, _, rfl, ?_⟩
          intro n found
          exact Lower.forInit_none found rfl
      | declaration declaration =>
          exact absurd (declaration.mem_of_mark same) (by decide)
      | expression expression =>
          rw [List.append_assoc] at same
          exact absurd same expression.not_mark
  | @declaration d printable =>
      cases tree with
      | none =>
          have known := d.kind.word_mem
          rw [← Token.mark.inj (List.cons.inj same).1] at known
          exact absurd known (by decide)
      | declaration declaration =>
          obtain ⟨_, later, declares, lowered⟩ := printable.lowers declaration same
          refine ⟨later, _, List.find?_cons_of_pos (by simp [declaration.isPart.plays]), ?_⟩
          intro n found
          rw [Lower.forInit_declaration found declaration.isPart.named declares, lowered]
      | expression expression =>
          rw [List.append_assoc] at same
          exact absurd same expression.not_mark
  | expr printable =>
      cases tree with
      | none => exact absurd (List.cons.inj same).1.symm (Expr.wrapped_ne_mark _)
      | declaration declaration =>
          obtain ⟨kind, later, rfl, _⟩ := declaration.starts
          exact absurd (List.cons.inj same).1.symm (Expr.wrapped_ne_mark _)
      | expression expression =>
          rw [List.append_assoc] at same
          obtain ⟨rfl, later⟩ := expression.eq_wrapped (by decide) same
          refine ⟨later, _, List.find?_cons_of_pos (by simp [expression.isPart.plays]), ?_⟩
          intro n found
          rw [Lower.forInit_expression found expression.isPart.named expression.operand,
            printable.lowers.wrapped expression]

/-- So are the test of a `for` and what it does after each round. -/
theorem TestTree.lowers {test update : Option Expr} (tested : ∀ e ∈ test, e.Printable)
    (updated : ∀ e ∈ update, e.Printable) {tests updates : List Node} (tree : TestTree tests ts)
    (tree' : UpdateTree updates us)
    (same : ts ++ us = optionalTokens test ++ semicolon :: optionalTokens update) :
    (∃ e, (tests.find? (·.plays "condition")) = some e ∧
      ∀ n, n.part? "condition" = some e →
        (Lower.forClause? n "condition").map Lower.clauseExpression = test) ∧
    (updates.find? (·.plays "increment")).map Lower.expression = update := by
  have lowersUpdate : us = optionalTokens update →
      (updates.find? (·.plays "increment")).map Lower.expression = update := by
    intro isUpdate
    cases tree' with
    | none =>
        cases update with
        | none => rfl
        | some => cases isUpdate
    | expression expression =>
        cases update with
        | none => exact absurd isUpdate expression.ne_nil
        | some e =>
            cases isUpdate
            simp [expression.isPart.plays, (updated e rfl).lowers.wrapped expression]
  cases tree with
  | none =>
      cases test with
      | none =>
          refine ⟨⟨_, rfl, ?_⟩, lowersUpdate (List.cons.inj same).2⟩
          intro n found
          rw [Lower.forClause?_eq_none "condition" found rfl]
          rfl
      | some e => exact absurd (List.cons.inj same).1.symm (Expr.wrapped_ne_mark _)
  | expression expression =>
      rw [List.append_assoc] at same
      cases test with
      | none => exact absurd same expression.not_mark
      | some e =>
          obtain ⟨rfl, later⟩ := expression.eq_wrapped (by decide) same
          refine ⟨⟨_, List.find?_cons_of_pos (by simp [expression.isPart.plays]), ?_⟩,
            lowersUpdate later⟩
          intro n found
          rw [Lower.forClause?_eq_some "condition" found expression.isPart.named
            (Lower.ne_of_operand expression.operand (by decide)), Option.map_some,
            Lower.clauseExpression_of_operand expression.operand,
            (tested e rfl).lowers.wrapped expression]

variable {part : String}

theorem InitTree.lacks (other : part ≠ "initializer") {inits : List Node}
    (tree : InitTree inits ts) : Lower.Lacks part inits := by
  intro c member
  cases tree with
  | none =>
      cases List.mem_singleton.mp member
      simpa using other.symm
  | declaration declaration =>
      cases List.mem_singleton.mp member
      simpa [declaration.isPart.field] using other.symm
  | expression expression =>
      simp only [List.mem_cons, List.not_mem_nil, or_false] at member
      rcases member with rfl | rfl
      · simpa [expression.isPart.field] using other.symm
      · simp

theorem TestTree.lacks (other : part ≠ "condition") {tests : List Node}
    (tree : TestTree tests ts) : Lower.Lacks part tests := by
  intro c member
  cases tree with
  | none =>
      cases List.mem_singleton.mp member
      simpa using other.symm
  | expression expression =>
      simp only [List.mem_cons, List.not_mem_nil, or_false] at member
      rcases member with rfl | rfl
      · simpa [expression.isPart.field] using other.symm
      · simpa using other.symm

theorem UpdateTree.lacks (other : part ≠ "increment") {updates : List Node}
    (tree : UpdateTree updates ts) : Lower.Lacks part updates := by
  intro c member
  cases tree with
  | none => cases member
  | expression expression =>
      cases List.mem_singleton.mp member
      simpa [expression.isPart.field] using other.symm

theorem TargetTree.not_mark (tree : TargetTree field n ts) :
    ts ++ rest ≠ .mark sign :: rest' := by
  cases tree with
  | reference _ expression => exact expression.not_mark
  | object | array => nofun

theorem LeftTree.ne_nil {lefts : List Node} (tree : LeftTree lefts ts) : ts ≠ [] := by
  cases tree with
  | target target => exact target.ne_nil
  | parenthesized | declaration => exact List.cons_ne_nil _ _

/-- What takes the values of a `for` over a collection is told from its tokens. -/
theorem LeftTree.lowers {left : ForTarget} (printable : left.Printable) {e : Expr}
    {lefts : List Node} {operator operator' : String} (nonempty : us ≠ [])
    (tree : LeftTree lefts ts)
    (same : ts ++ .mark operator :: us = left.tokens ++ [.mark operator', e.wrapped]) :
    operator = operator' ∧ us = [e.wrapped] ∧ ∃ kind row n, lefts = Lower.headWord kind row ++ [n] ∧
      n.IsPart (some "left") ∧ Lower.headTarget kind (Lower.pattern n) = left := by
  cases printable with
  | @declaration kind id binding =>
      obtain ⟨t, single, _⟩ := binding.single
      have printed : (ForTarget.declaration
          { kind, declarations := [{ id, init := none }] }).tokens = [.mark kind.word, t] := by
        simp [ForTarget.tokens, separated, Declarator.tokens, single]
      rw [printed] at same
      cases tree with
      | target target => exact absurd same target.not_mark
      | parenthesized => cases same
      | declaration _ _ target =>
          obtain ⟨word, later⟩ := List.cons.inj same
          cases word
          obtain ⟨front, middle, back⟩ :=
            Token.append_cons_eq_triple target.ne_nil nonempty later
          refine ⟨Token.mark.inj middle, back, some kind, _, _, rfl, target.isPart, ?_⟩
          subst front
          rw [binding.lowers _ _ (single ▸ target)]
          rfl
  | @binding p binding =>
      obtain ⟨t, single, unmarked⟩ := binding.single
      rw [ForTarget.tokens, single] at same
      obtain ⟨front, middle, back⟩ := Token.append_cons_eq_triple tree.ne_nil nonempty same
      refine ⟨Token.mark.inj middle, back, none, 0, ?_⟩
      cases tree with
      | target target =>
          subst front
          refine ⟨_, rfl, target.isPart, ?_⟩
          rw [binding.lowers _ _ (single ▸ target)]
          rfl
      | parenthesized =>
          cases front
          cases binding <;> cases single
      | declaration =>
          cases front
          exact absurd trivial unmarked
  | @assignable p assignable =>
      obtain ⟨t, single, atom, lowered⟩ := assignable.lowers
      rw [ForTarget.tokens, single] at same
      obtain ⟨front, middle, back⟩ := Token.append_cons_eq_triple tree.ne_nil nonempty same
      refine ⟨Token.mark.inj middle, back, none, 0, ?_⟩
      cases tree with
      | target target =>
          subst front
          cases target with
          | reference _ expression =>
              exact ⟨_, rfl, expression.isPart, congrArg _ (lowered _ _ expression)⟩
          | object | array => exact atom.elim
      | parenthesized expression =>
          cases front
          exact ⟨_, rfl, expression.isPart, congrArg _ (lowered _ _ expression)⟩
      | declaration =>
          cases front
          exact atom.elim

theorem ResultTree.lowers {argument : Option Expr} (printable : ∀ e ∈ argument, e.Printable)
    {results : List Node} (tree : ResultTree results ts)
    (same : ts ++ semicolon :: rest = optionalTokens argument ++ semicolon :: rest') :
    rest = rest' ∧ (results.filter Node.isShown).head?.map Lower.expression = argument := by
  cases tree with
  | none =>
      cases argument with
      | none => exact ⟨(List.cons.inj same).2, rfl⟩
      | some e => exact absurd (List.cons.inj same).1.symm e.wrapped_ne_mark
  | some expression =>
      cases argument with
      | none => exact absurd same expression.not_mark
      | some e =>
          obtain ⟨rfl, later⟩ := expression.eq_wrapped (by decide) same
          refine ⟨later, ?_⟩
          rw [List.filter_cons_of_pos expression.isPart.shown, List.head?_cons, Option.map_some,
            (printable e rfl).lowers.wrapped expression]

theorem LabelTree.lowers {label : Option String} {labels : List Node} (tree : LabelTree labels ts)
    (same : ts ++ semicolon :: rest = labelTokens label ++ semicolon :: rest') :
    rest = rest' ∧ (labels.find? (·.plays "label")).map Node.text = label := by
  cases tree with
  | none =>
      cases label with
      | none => exact ⟨(List.cons.inj same).2, rfl⟩
      | some => cases (List.cons.inj same).1
  | some =>
      cases label with
      | none => cases (List.cons.inj same).1
      | some =>
          obtain ⟨name, later⟩ := List.cons.inj same
          cases name
          exact ⟨(List.cons.inj later).2, rfl⟩

/-- The two kinds of `for` are told apart by the semicolons between their parts. -/
theorem InitTree.semicolon_mem {inits : List Node} (tree : InitTree inits ts) : semicolon ∈ ts := by
  cases tree with
  | none => exact .head _
  | declaration declaration => cases declaration <;> simp
  | expression => simp

theorem LeftTree.semicolon_not_mem {lefts : List Node} (tree : LeftTree lefts ts) :
    semicolon ∉ ts := by
  cases tree with
  | target target => exact target.inner.not_mem (by decide)
  | parenthesized => exact (Token.inner_singleton id).not_mem (by decide)
  | declaration known _ target =>
      intro member
      rcases List.mem_cons.mp member with same | inside
      · rw [← Token.mark.inj same] at known
        exact absurd known (by decide)
      · exact target.inner.not_mem (by decide) inside

theorem ForTarget.Printable.semicolon_not_mem {left : ForTarget} (printable : left.Printable) :
    semicolon ∉ left.tokens := by
  cases printable with
  | @declaration kind id binding =>
      obtain ⟨t, single, unmarked⟩ := binding.single
      intro member
      have known := kind.word_mem
      have inner := (Token.inner_singleton unmarked).not_mem (by decide : ";" ∉ innerMarks)
      simp only [ForTarget.tokens, separated, Declarator.tokens, single, List.map_cons,
        List.map_nil, List.append_nil] at member
      rcases List.mem_cons.mp member with same | inside
      · rw [← Token.mark.inj same] at known
        exact absurd known (by decide)
      · exact inner inside
  | binding binding =>
      obtain ⟨t, single, unmarked⟩ := binding.single
      rw [ForTarget.tokens, single]
      exact (Token.inner_singleton unmarked).not_mem (by decide)
  | assignable assignable =>
      obtain ⟨t, single, atom, _⟩ := assignable.lowers
      rw [ForTarget.tokens, single]
      exact (Token.inner_singleton (Token.not_isMark_of_isAtom atom)).not_mem (by decide)

/-- The tokens of a `for` over a collection hold no semicolon outside of brackets. -/
theorem ForTarget.Printable.not_mem_head {left : ForTarget} (printable : left.Printable)
    {operator : String} (known : operator ∈ ["in", "of"]) {e : Expr} :
    semicolon ∉ left.tokens ++ [.mark operator, e.wrapped] := by
  intro member
  rcases List.mem_append.mp member with inside | inside
  · exact printable.semicolon_not_mem inside
  · rcases List.mem_cons.mp inside with same | inside
    · rw [← Token.mark.inj same] at known
      exact absurd known (by decide)
    · exact (Token.inner_singleton e.not_isMark_wrapped).not_mem (by decide) inside

theorem LeftTree.not_mem_head {lefts : List Node} {right : Node} (tree : LeftTree lefts ts)
    {operator : String} (known : operator ∈ ["in", "of"])
    (isRight : ExpressionTree field right us) : semicolon ∉ ts ++ .mark operator :: us := by
  intro member
  rcases List.mem_append.mp member with inside | inside
  · exact tree.semicolon_not_mem inside
  · rcases List.mem_cons.mp inside with same | inside
    · rw [← Token.mark.inj same] at known
      exact absurd known (by decide)
    · exact isRight.inner.not_mem (by decide) inside

end Heads

end SketchSurvey.Script

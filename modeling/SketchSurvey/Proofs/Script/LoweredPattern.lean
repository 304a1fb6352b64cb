import SketchSurvey.Proofs.Script.LoweredExpression

/-! Only one pattern, and only one declaration, has the tokens of a printed one. -/

set_option autoImplicit false

namespace SketchSurvey.Script

open Node (branch leaf word enclosed)
open Token (comma semicolon separated)

variable {field : Option String} {n : Node} {ts : List Token}

theorem Pattern.Binding.single {p : Pattern} (binding : p.Binding) :
    ∃ t, p.tokens = [t] ∧ ¬ t.IsMark := by
  cases binding with
  | identifier | object | array => exact ⟨_, rfl, id⟩

theorem TargetTree.ne_nil (tree : TargetTree field n ts) : ts ≠ [] := by
  cases tree with
  | reference _ expression => exact expression.ne_nil
  | object | array => exact List.cons_ne_nil _ _

theorem ElementTree.ne_nil (tree : ElementTree field n ts) : ts ≠ [] := by
  cases tree with
  | target target => exact target.ne_nil
  | rest => exact List.cons_ne_nil _ _
  | withDefault => exact List.append_ne_nil_of_right_ne_nil _ (List.cons_ne_nil _ _)

/-- A pattern of a single token is no more than what it binds. -/
theorem ElementTree.target_of_single {t : Token} (unmarked : ¬ t.IsMark)
    (tree : ElementTree field n [t]) : TargetTree field n [t] := by
  generalize same : [t] = us at tree
  cases tree with
  | target target => exact same ▸ target
  | rest =>
      cases same
      exact absurd trivial unmarked
  | withDefault left _ right =>
      have lengths := congrArg List.length same
      have positive := List.length_pos_of_ne_nil left.ne_nil
      simp only [List.length_append, List.length_cons, List.length_nil] at lengths
      omega

theorem TargetTree.not_triple {t u : Token} (tree : TargetTree field n [t, .mark "=", u]) :
    False := by
  cases tree with
  | reference known expression =>
      cases expression.triple with
      | member isDot => exact absurd isDot (by decide)
      | assignment => exact absurd known (by decide : "assignment_expression" ∉ referenceKinds)
      | binary isOperator => exact absurd isOperator (by decide)

/-- The tree of a pattern with a default, whose tokens are divided by the sign. -/
theorem ElementTree.withDefault_of_triple {t u : Token} (unmarked : ¬ t.IsMark)
    (tree : ElementTree field n [t, .mark "=", u]) :
    ∃ row text left sign right,
      n = branch "assignment_pattern" field row text [left, word none sign "=", right] ∧
      TargetTree (some "left") left [t] ∧ ExpressionTree (some "right") right [u] := by
  generalize same : [t, .mark "=", u] = us at tree
  cases tree with
  | target target => exact (same ▸ target).not_triple.elim
  | rest =>
      cases same
      exact absurd trivial unmarked
  | withDefault left _ right =>
      obtain ⟨front, _, back⟩ := Token.append_cons_eq_triple left.ne_nil right.ne_nil same.symm
      cases front
      cases back
      exact ⟨_, _, _, _, _, rfl, left.target_of_single unmarked, right⟩

/-- The tree of a rest of an array or of parameters. -/
theorem ElementTree.rest_of_pair {t : Token} (tree : ElementTree field n [.mark "...", t]) :
    ∃ row text dots argument,
      n = branch "rest_pattern" field row text [word none dots "...", argument] ∧
      TargetTree none argument [t] := by
  generalize same : [.mark "...", t] = us at tree
  cases tree with
  | target target =>
      cases target with
      | reference _ expression =>
          obtain ⟨first, rest, rfl, atom⟩ := expression.starts
          cases same
          exact atom.elim
      | object | array => cases same
  | rest argument =>
      cases same
      exact ⟨_, _, _, _, rfl, argument⟩
  | withDefault left _ right =>
      have lengths := congrArg List.length same
      have positive := List.length_pos_of_ne_nil left.ne_nil
      have positive' := List.length_pos_of_ne_nil right.ne_nil
      simp only [List.length_append, List.length_cons, List.length_nil] at lengths
      omega

theorem ElementTree.item (n : Node) (ts : List Token) (tree : ElementTree none n ts) :
    n.isShown = true ∧ Token.IsItem ts :=
  ⟨tree.isPart.shown, tree.ne_nil, tree.inner.not_mem (by decide)⟩

theorem PropertyTree.item (n : Node) (ts : List Token) (tree : PropertyTree n ts) :
    n.isShown = true ∧ Token.IsItem ts := by
  refine ⟨tree.isPart.shown, ?_⟩
  cases tree with
  | pair _ value =>
      refine ⟨List.cons_ne_nil _ _, ?_⟩
      have absent := value.inner.not_mem (by decide : "," ∉ innerMarks)
      simpa [comma] using absent
  | rest argument =>
      have inner := argument.inner.cons_mark (by decide : "..." ∈ innerMarks)
      exact ⟨List.cons_ne_nil _ _, inner.not_mem (by decide)⟩

theorem Pattern.Value.inner {p : Pattern} (printable : p.Value) : Token.Inner p.tokens := by
  cases printable with
  | plain binding =>
      obtain ⟨t, same, unmarked⟩ := binding.single
      exact same ▸ Token.inner_singleton unmarked
  | withDefault binding _ =>
      obtain ⟨t, same, unmarked⟩ := binding.single
      rw [Pattern.tokens, same]
      exact (Token.inner_singleton unmarked).append_mark (by decide)
        (Token.inner_singleton (Expr.not_isMark_wrapped _))

theorem Pattern.Value.ne_nil {p : Pattern} (printable : p.Value) : p.tokens ≠ [] := by
  cases printable with
  | plain binding =>
      obtain ⟨t, same, _⟩ := binding.single
      rw [same]
      exact List.cons_ne_nil _ _
  | withDefault => exact List.append_ne_nil_of_right_ne_nil _ (List.cons_ne_nil _ _)

theorem Pattern.Element.isItem {p : Pattern} (printable : p.Element) : Token.IsItem p.tokens := by
  cases printable with
  | value printable => exact ⟨printable.ne_nil, printable.inner.not_mem (by decide)⟩
  | rest binding =>
      obtain ⟨t, same, unmarked⟩ := binding.single
      have inner := (Token.inner_singleton unmarked).cons_mark (by decide : "..." ∈ innerMarks)
      rw [Pattern.tokens, same]
      exact ⟨List.cons_ne_nil _ _, inner.not_mem (by decide)⟩

theorem PatternProperty.Printable.isItem {p : PatternProperty} (printable : p.Printable) :
    Token.IsItem p.tokens := by
  cases printable with
  | pair _ value =>
      have absent := value.inner.not_mem (by decide : "," ∉ innerMarks)
      refine ⟨List.cons_ne_nil _ _, ?_⟩
      simpa [PatternProperty.tokens, comma] using absent
  | rest binding =>
      obtain ⟨t, same, unmarked⟩ := binding.single
      have inner := (Token.inner_singleton unmarked).cons_mark (by decide : "..." ∈ innerMarks)
      rw [PatternProperty.tokens, same]
      exact ⟨List.cons_ne_nil _ _, inner.not_mem (by decide)⟩

mutual

theorem Pattern.Binding.lowers : ∀ {p : Pattern}, p.Binding → ∀ field n,
    TargetTree field n p.tokens → Lower.pattern n = p
  | _, .identifier _, _, _, tree => by
      cases tree with
      | reference _ expression =>
          cases expression.single
          exact Lower.pattern_identifier
  | _, .object properties, _, _, tree => by
      rw [Pattern.tokens, propertyTokens_eq_map] at tree
      cases tree with
      | reference _ expression => cases expression.single
      | object listed =>
          have lowered := map_parts_of_listed PropertyTree.item (fun _ => rfl)
            (fun p member => ⟨(properties p member).isItem, (properties p member).lowers⟩) listed rfl
          rw [Lower.pattern_object, lowered]
  | _, .array elements, _, _, tree => by
      rw [Pattern.tokens, patternTokens_eq_map] at tree
      cases tree with
      | reference _ expression => cases expression.single
      | array listed =>
          have lowered := map_parts_of_listed ElementTree.item (fun _ => rfl)
            (fun p member => ⟨(elements p member).isItem, (elements p member).lowers none⟩)
            listed rfl
          rw [Lower.pattern_array, lowered]

theorem Pattern.Value.lowers : ∀ {p : Pattern}, p.Value → ∀ field n,
    ElementTree field n p.tokens → Lower.pattern n = p
  | _, .plain binding, _, _, tree => by
      obtain ⟨t, same, unmarked⟩ := binding.single
      rw [same] at tree
      exact binding.lowers _ _ (same ▸ tree.target_of_single unmarked)
  | _, .withDefault binding printable, _, _, tree => by
      obtain ⟨t, same, unmarked⟩ := binding.single
      rw [Pattern.tokens, same] at tree
      obtain ⟨_, _, _, _, _, rfl, left, right⟩ := tree.withDefault_of_triple unmarked
      rw [Lower.pattern_withDefault left.isPart right.isPart, binding.lowers _ _ (same ▸ left),
        printable.lowers.wrapped right]

theorem Pattern.Element.lowers : ∀ {p : Pattern}, p.Element → ∀ field n,
    ElementTree field n p.tokens → Lower.pattern n = p
  | _, .value printable, _, _, tree => printable.lowers _ _ tree
  | _, .rest binding, _, _, tree => by
      obtain ⟨t, same, _⟩ := binding.single
      rw [Pattern.tokens, same] at tree
      obtain ⟨_, _, _, _, rfl, argument⟩ := tree.rest_of_pair
      rw [Lower.pattern_rest argument.isPart, binding.lowers _ _ (same ▸ argument)]

theorem PatternProperty.Printable.lowers : ∀ {p : PatternProperty}, p.Printable → ∀ n,
    PropertyTree n p.tokens → Lower.patternProperty n = p
  | _, .pair _ printable, _, tree => by
      cases tree with
      | pair _ value => rw [Lower.patternProperty_pair value.isPart, printable.lowers _ _ value]
  | _, .rest binding, _, tree => by
      cases tree with
      | rest argument =>
          rw [Lower.patternProperty_rest argument.isPart, binding.lowers _ _ argument]

end

theorem Declarator.Printable.lowers {d : Declarator} (printable : d.Printable) {n : Node}
    (tree : DeclaratorTree n d.tokens) : Lower.declarator n = d := by
  obtain ⟨id, init⟩ := d
  obtain ⟨t, same, _⟩ := printable.id.single
  dsimp only at same
  cases init with
  | none =>
      rw [Declarator.tokens, same, List.append_nil] at tree
      generalize whole : [t] = ts at tree
      cases tree with
      | plain _ isId =>
          cases whole
          rw [Lower.declarator_plain isId.isPart, printable.id.lowers _ _ (same ▸ isId)]
      | initialized _ isId =>
          have lengths := congrArg List.length whole
          have positive := List.length_pos_of_ne_nil isId.ne_nil
          simp only [List.length_append, List.length_cons, List.length_nil] at lengths
          omega
  | some e =>
      rw [Declarator.tokens, same] at tree
      generalize whole : [t] ++ [.mark "=", e.wrapped] = ts at tree
      cases tree with
      | plain _ isId => exact (whole ▸ isId : TargetTree _ _ [t, .mark "=", e.wrapped]).not_triple.elim
      | initialized _ isId isValue =>
          obtain ⟨front, _, back⟩ :=
            Token.append_cons_eq_triple isId.ne_nil isValue.ne_nil whole.symm
          cases front
          cases back
          rw [Lower.declarator_initialized isId.isPart isValue.isPart,
            printable.id.lowers _ _ (same ▸ isId), (printable.init e rfl).lowers.wrapped isValue]

theorem Declarator.Printable.inner {d : Declarator} (printable : d.Printable) :
    Token.Inner d.tokens := by
  obtain ⟨t, same, unmarked⟩ := printable.id.single
  rw [Declarator.tokens, same]
  refine (Token.inner_singleton unmarked).append ?_
  split
  · exact (Token.inner_singleton (Expr.not_isMark_wrapped _)).cons_mark (by decide)
  · nofun

theorem Declarator.Printable.isItem {d : Declarator} (printable : d.Printable) :
    Token.IsItem d.tokens := by
  refine ⟨?_, printable.inner.not_mem (by decide)⟩
  obtain ⟨t, same, _⟩ := printable.id.single
  rw [Declarator.tokens, same]
  exact List.cons_ne_nil _ _

theorem DeclaratorTree.ne_nil (tree : DeclaratorTree n ts) : ts ≠ [] := by
  cases tree with
  | plain _ id => exact id.ne_nil
  | initialized => exact List.append_ne_nil_of_right_ne_nil _ (List.cons_ne_nil _ _)

theorem Listed.not_mem {Item : Node → List Token → Prop} {t : Token} (other : t ≠ comma)
    (each : ∀ n ts, Item n ts → t ∉ ts) {nodes : List Node} (tree : Listed Item nodes ts) :
    t ∉ ts := by
  induction tree with
  | none => exact List.not_mem_nil
  | last item => exact each _ _ item
  | more item _ ih =>
      intro member
      rcases List.mem_append.mp member with inside | inside
      · exact each _ _ item inside
      · rcases List.mem_cons.mp inside with same | inside
        · exact other same
        · exact ih inside

theorem Token.not_mem_separated {t : Token} (other : t ≠ comma) :
    ∀ {items : List (List Token)}, (∀ item ∈ items, t ∉ item) → t ∉ separated items
  | [], _ => List.not_mem_nil
  | [item], each => each item (.head _)
  | item :: next :: rest, each => by
      intro member
      rcases List.mem_append.mp member with inside | inside
      · exact each item (.head _) inside
      · rcases List.mem_cons.mp inside with same | inside
        · exact other same
        · exact not_mem_separated other (fun i known => each i (.tail _ known)) inside

/-- A declaration ends with its first semicolon. -/
theorem VariableDeclaration.Printable.lowers {d : VariableDeclaration} (printable : d.Printable)
    {rest rest' : List Token} (tree : DeclarationTree field n ts)
    (same : ts ++ rest = d.tokens ++ rest') :
    ts = d.tokens ∧ rest = rest' ∧ Lower.isDeclaration n.kind = true ∧
      Lower.variableDeclaration n = d := by
  have printedAbsent : semicolon ∉ separated (d.declarations.map Declarator.tokens) := by
    refine Token.not_mem_separated Token.semicolon_ne_comma ?_
    intro item member
    obtain ⟨declarator, inside, rfl⟩ := List.mem_map.mp member
    exact (printable.declarators declarator inside).inner.not_mem (by decide)
  have absent {nodes us} (listed : Listed DeclaratorTree nodes us) : semicolon ∉ us :=
    listed.not_mem Token.semicolon_ne_comma fun _ _ item => item.inner.not_mem (by decide)
  have lowered {nodes us} (listed : Listed DeclaratorTree nodes us)
      (whole : us = separated (d.declarations.map Declarator.tokens)) :
      ((nodes.filter Node.isShown).filter fun c => c.kind == "variable_declarator").map
        Lower.declarator = d.declarations := by
    rw [List.filter_filter]
    refine map_parts_of_listed ?_ (fun _ => rfl) ?_ listed whole
    · intro n ts item
      refine ⟨?_, item.ne_nil, item.inner.not_mem (by decide)⟩
      cases item <;> rfl
    · intro declarator member
      have known := printable.declarators declarator member
      exact ⟨known.isItem, fun _ item => known.lowers item⟩
  have divided {k : String} {us : List Token} (clean : semicolon ∉ us)
      (whole : .mark k :: (us ++ [semicolon]) ++ rest = d.tokens ++ rest') :
      k = d.kind.word ∧ us = separated (d.declarations.map Declarator.tokens) ∧ rest = rest' := by
    rw [VariableDeclaration.tokens, List.cons_append, List.cons_append, List.append_assoc,
      List.append_assoc, List.cons_eq_cons] at whole
    obtain ⟨word, later⟩ := whole
    obtain ⟨items, others⟩ := Token.append_cons_inj clean printedAbsent later
    exact ⟨Token.mark.inj word, items, others⟩
  obtain ⟨kind, declarations⟩ := d
  cases tree with
  | var _ listed =>
      obtain ⟨word, items, others⟩ := divided (absent listed) same
      cases kind with
      | var =>
          refine ⟨by rw [items]; rfl, others, rfl, ?_⟩
          refine (Lower.variableDeclaration_eq .var).trans ?_
          rw [lowered listed items]
      | «let» => exact absurd word (by decide : "var" ≠ "let")
      | const => exact absurd word (by decide : "var" ≠ "const")
  | lexical known _ listed =>
      obtain ⟨word, items, others⟩ := divided (absent listed) same
      subst word
      cases kind with
      | var => exact absurd known (by decide : "var" ∉ ["let", "const"])
      | «let» =>
          refine ⟨by rw [items]; rfl, others, rfl, ?_⟩
          rw [Lower.variableDeclaration_eq .let, lowered listed items]
      | const =>
          refine ⟨by rw [items]; rfl, others, rfl, ?_⟩
          rw [Lower.variableDeclaration_eq .const, lowered listed items]

end SketchSurvey.Script

import SketchSurvey.Proofs.Script.TreeShape

/-! Only one expression has the tokens of a printed one: every tree of these tokens is lowered to the
expression that was printed. -/

set_option autoImplicit false

namespace SketchSurvey.Script

open Node (branch leaf word enclosed)
open Token (comma separated)

/-- Tokens that can stand between two commas. -/
structure Token.IsItem (ts : List Token) : Prop where
  nonempty : ts ≠ []
  undivided : comma ∉ ts

/-- Items with commas between them are told apart by the commas. -/
theorem map_parts_of_listed {α : Type} {Item : Node → List Token → Prop} {print : α → List Token}
    {keep : Node → Bool} {lower : Node → α}
    (clean : ∀ n ts, Item n ts → keep n = true ∧ Token.IsItem ts)
    (separates : ∀ row, keep (word none row ",") = false) {items : List α}
    (each : ∀ a ∈ items, Token.IsItem (print a) ∧ ∀ n, Item n (print a) → lower n = a)
    {nodes : List Node} {ts : List Token} (tree : Listed Item nodes ts)
    (same : ts = separated (items.map print)) : (nodes.filter keep).map lower = items := by
  induction tree generalizing items with
  | none =>
      match items with
      | [] => rfl
      | [a] => exact absurd same.symm (each a (.head _)).1.nonempty
      | a :: b :: rest => simp [separated] at same
  | @last n ts item =>
      obtain ⟨kept, isItem⟩ := clean n ts item
      match items with
      | [] => exact absurd same isItem.nonempty
      | [a] =>
          cases same
          have lowered := (each a (.head _)).2 n item
          rw [List.filter_cons_of_pos kept, List.filter_nil, List.map_singleton, lowered]
      | a :: b :: rest =>
          refine absurd ?_ isItem.undivided
          rw [same]
          simp [separated]
  | @more n next row nodes ts us item later ih =>
      obtain ⟨kept, isItem⟩ := clean n ts item
      match items with
      | [] => simp [separated] at same
      | [a] =>
          refine absurd ?_ (each a (.head _)).1.undivided
          have whole : print a = ts ++ comma :: us := same.symm
          rw [whole]
          simp
      | a :: b :: rest =>
          obtain ⟨rfl, rfl⟩ := Token.append_cons_inj isItem.undivided (each a (.head _)).1.undivided same
          have lowered := (each a (.head _)).2 n item
          have others := ih (fun c member => each c (.tail _ member)) rfl
          rw [List.filter_cons_of_pos kept, List.filter_cons_of_neg (by simp [separates]),
            List.map_cons, lowered, others]

section Inversion

variable {field : Option String} {n : Node}

/-- What stands for a single token: a name, a number, or an expression in brackets. -/
inductive SingleTree (field : Option String) : Node → Token → Prop where
  | identifier {row name} : SingleTree field (leaf "identifier" field row name) (.name name)
  | number {row raw} : SingleTree field (leaf "number" field row raw) (.number raw)
  | parenthesized {row text first last e inner} : ExpressionTree none e inner →
      SingleTree field
        (branch "parenthesized_expression" field row text (enclosed .round first last [e]))
        (.group .round inner)

theorem ExpressionTree.single {t : Token} (tree : ExpressionTree field n [t]) :
    SingleTree field n t := by
  generalize same : [t] = ts at tree
  cases tree with
  | identifier | number =>
      cases same
      constructor
  | parenthesized inner =>
      cases same
      exact .parenthesized inner
  | call before _ | subscript before _ | member before _ | assignment _ before _
  | binary _ before _ =>
      obtain ⟨first, rest, rfl, _⟩ := before.starts
      simp at same

theorem ExpressionTree.operand {t : Token} (tree : ExpressionTree field n [t]) :
    n.kind ∈ Lower.operandKinds := by
  cases tree.single with
  | identifier => exact .head _
  | number => exact .tail _ (.head _)
  | parenthesized => exact .tail _ (.tail _ (.head _))

/-- What stands for two tokens: a call or a member in brackets. -/
inductive PairTree (field : Option String) : Node → Token → Token → Prop where
  | call {row text callee t row' text' first last arguments us} :
      ExpressionTree (some "function") callee [t] → Listed (ExpressionTree none) arguments us →
      PairTree field
        (branch "call_expression" field row text [callee,
          branch "arguments" (some "arguments") row' text' (enclosed .round first last arguments)])
        t (.group .round us)
  | subscript {row text object t first last index us} :
      ExpressionTree (some "object") object [t] → ExpressionTree (some "index") index us →
      PairTree field
        (branch "subscript_expression" field row text
          [object, word none first "[", index, word none last "]"])
        t (.group .square us)

theorem ExpressionTree.pair {t u : Token} (tree : ExpressionTree field n [t, u]) :
    PairTree field n t u := by
  generalize same : [t, u] = ts at tree
  cases tree with
  | identifier | number | parenthesized => cases same
  | call callee arguments =>
      obtain ⟨rfl, last⟩ := List.append_inj' (show [t] ++ [u] = _ from same) rfl
      cases last
      exact .call callee arguments
  | subscript object index =>
      obtain ⟨rfl, last⟩ := List.append_inj' (show [t] ++ [u] = _ from same) rfl
      cases last
      exact .subscript object index
  | member object _ =>
      have lengths := congrArg List.length same
      have positive := List.length_pos_of_ne_nil object.ne_nil
      simp only [List.length_append, List.length_cons, List.length_nil] at lengths
      omega
  | assignment _ left right | binary _ left right =>
      have lengths := congrArg List.length same
      have positive := List.length_pos_of_ne_nil left.ne_nil
      have positive' := List.length_pos_of_ne_nil right.ne_nil
      simp only [List.length_append, List.length_cons, List.length_nil] at lengths
      omega

/-- What stands for three tokens with a mark in the middle: a member after a dot, an assignment, or a
binary operation. -/
inductive TripleTree (field : Option String) (t : Token) (sign : String) (u : Token) :
    Node → Prop where
  | member {row text object dot row' name} : sign = "." → u = .name name →
      ExpressionTree (some "object") object [t] →
      TripleTree field t sign u
        (branch "member_expression" field row text
          [object, word none dot ".", leaf "property_identifier" (some "property") row' name])
  | assignment {row text left row' right} : sign = "=" → ExpressionTree (some "left") left [t] →
      ExpressionTree (some "right") right [u] →
      TripleTree field t sign u
        (branch "assignment_expression" field row text [left, word none row' "=", right])
  | binary {row text left row' right} : sign ∈ binaryOperators →
      ExpressionTree (some "left") left [t] → ExpressionTree (some "right") right [u] →
      TripleTree field t sign u
        (branch "binary_expression" field row text
          [left, word (some "operator") row' sign, right])

theorem ExpressionTree.triple {t u : Token} {sign : String}
    (tree : ExpressionTree field n [t, .mark sign, u]) : TripleTree field t sign u n := by
  generalize same : [t, .mark sign, u] = ts at tree
  cases tree with
  | identifier | number | parenthesized => cases same
  | call before _ | subscript before _ =>
      -- the mark would be the last token before the brackets
      obtain ⟨rfl, _⟩ := List.append_inj' (show [t, .mark sign] ++ [u] = _ from same) rfl
      obtain ⟨front, last, ends, unmarked⟩ := before.ends
      obtain ⟨_, isLast⟩ := List.append_inj' (show [t] ++ [.mark sign] = _ from ends) rfl
      cases isLast
      exact absurd trivial unmarked
  | member object _ =>
      obtain ⟨rfl, rest⟩ := List.append_inj' (show [t] ++ [.mark sign, u] = _ from same) rfl
      cases rest
      exact .member rfl rfl object
  | assignment _ left right =>
      obtain ⟨front, middle, back⟩ :=
        Token.append_cons_eq_triple left.ne_nil right.ne_nil same.symm
      cases front
      cases middle
      cases back
      exact .assignment rfl left right
  | binary known left right =>
      obtain ⟨front, middle, back⟩ :=
        Token.append_cons_eq_triple left.ne_nil right.ne_nil same.symm
      cases front
      cases middle
      cases back
      exact .binary known left right

end Inversion

/-- Every tree of an expression's tokens is lowered to the expression. -/
def Expr.Lowers (e : Expr) : Prop :=
  ∀ field n, ExpressionTree field n e.tokens → Lower.expression n = e

section Expressions

variable {field : Option String} {n : Node} {e : Expr}

/-- An expression inside something else is an identifier or stands in brackets. -/
theorem Expr.wrapped_cases (e : Expr) :
    (∃ name, e = .identifier name ∧ e.wrapped = .name name) ∨ e.wrapped = .group .round e.tokens := by
  cases e with
  | identifier name => exact .inl ⟨name, rfl, rfl⟩
  | assign | binary | call | member | literal | unsupported => exact .inr rfl

theorem Expr.Lowers.wrapped (lowers : e.Lowers) (tree : ExpressionTree field n [e.wrapped]) :
    Lower.expression n = e := by
  rcases e.wrapped_cases with ⟨name, rfl, same⟩ | same
  · rw [same] at tree
    cases tree.single
    exact Lower.expression_identifier
  · rw [same] at tree
    cases tree.single with
    | parenthesized inner =>
        rw [Lower.expression_parenthesized inner.isPart]
        exact lowers none _ inner

theorem Expr.not_isMark_wrapped (e : Expr) : ¬ e.wrapped.IsMark := by
  rcases e.wrapped_cases with ⟨name, _, same⟩ | same <;> rw [same] <;> exact id

/-- A printed member is read as a member. -/
theorem ExpressionTree.kind_of_member {object : Receiver} {property : Property}
    (printable : Expr.Printable (.member object property))
    (tree : ExpressionTree field n (Expr.member object property).tokens) :
    n.kind = "member_expression" ∨ n.kind = "subscript_expression" := by
  cases printable with
  | member _ named =>
      cases named with
      | name =>
          cases tree.triple with
          | member => exact .inl rfl
          | assignment isAssign => exact absurd isAssign (by decide)
          | binary known => exact absurd known (by decide)
      | computed =>
          cases tree.pair
          exact .inr rfl

theorem Token.isItem_singleton {t : Token} (unmarked : ¬ t.IsMark) : IsItem [t] :=
  ⟨List.cons_ne_nil _ _, (inner_singleton unmarked).not_mem (by decide)⟩

theorem ExpressionTree.item (n : Node) (ts : List Token) (tree : ExpressionTree none n ts) :
    n.isShown = true ∧ Token.IsItem ts :=
  ⟨tree.isPart.shown, tree.ne_nil, tree.inner.not_mem (by decide)⟩

mutual

theorem Expr.Printable.lowers : ∀ {e : Expr}, e.Printable → e.Lowers
  | _, .identifier _, _, _, tree => by
      cases tree.single
      exact Lower.expression_identifier
  | _, .literal _, _, _, tree => by
      cases tree.single
      exact Lower.expression_number
  | _, .binary known left right, _, _, tree => by
      cases tree.triple with
      | member isDot => exact absurd (isDot ▸ known) (by decide)
      | assignment isAssign => exact absurd (isAssign ▸ known) (by decide)
      | binary known isLeft isRight =>
          rw [Lower.expression_binary known isLeft.isPart isRight.isPart,
            left.lowers.wrapped isLeft, right.lowers.wrapped isRight]
  | _, .call callee arguments, _, _, tree => by
      rw [Expr.tokens, argumentTokens_eq_map] at tree
      cases tree.pair with
      | call isCallee isArguments =>
          rw [Lower.expression_call isCallee.isPart isCallee.operand,
            callee.lowers.wrapped isCallee]
          have lowered := map_parts_of_listed ExpressionTree.item (fun _ => rfl)
            (fun a member => (arguments a member).lowers) isArguments rfl
          rw [lowered]
  | _, .member object (.name _), _, _, tree => by
      cases tree.triple with
      | member _ isName isObject =>
          cases isName
          rw [Lower.expression_member isObject.isPart isObject.operand,
            object.lowers.wrapped isObject]
      | assignment isAssign => exact absurd isAssign (by decide)
      | binary known => exact absurd known (by decide)
  | _, .member object (.computed index), _, _, tree => by
      cases tree.pair with
      | subscript isObject isIndex =>
          rw [Lower.expression_subscript isObject.isPart isIndex.isPart isObject.operand
            isIndex.operand, object.lowers.wrapped isObject, index.lowers.wrapped isIndex]
  | _, .assign left right, _, _, tree => by
      obtain ⟨t, same, _, target⟩ := left.lowers
      rw [Expr.tokens, same] at tree
      cases tree.triple with
      | member isDot => exact absurd isDot (by decide)
      | assignment _ isLeft isRight =>
          rw [Lower.expression_assignment isLeft.isPart isRight.isPart, target _ _ isLeft,
            right.lowers.wrapped isRight]
      | binary known => exact absurd known (by decide)

theorem Argument.Printable.lowers : ∀ {a : Argument}, a.Printable →
    Token.IsItem a.tokens ∧ ∀ n, ExpressionTree none n a.tokens → Lower.argument n = a
  | _, .expr printable => by
      refine ⟨Token.isItem_singleton (Expr.not_isMark_wrapped _), ?_⟩
      intro n tree
      rw [Lower.argument_of_operand tree.operand, printable.lowers.wrapped tree]

theorem Pattern.Assignable.lowers : ∀ {p : Pattern}, p.Assignable →
    ∃ t, p.tokens = [t] ∧ t.IsAtom ∧ ∀ field n, ExpressionTree field n [t] → Lower.pattern n = p
  | _, .identifier _ => by
      refine ⟨.name _, rfl, trivial, ?_⟩
      intro field n tree
      cases tree.single
      exact Lower.pattern_identifier
  | _, .member printable => by
      refine ⟨.group .round _, rfl, trivial, ?_⟩
      intro field n tree
      cases tree.single with
      | parenthesized inner =>
          rw [Lower.pattern_parenthesized inner.isPart,
            Lower.pattern_reference (inner.kind_of_member printable), printable.lowers _ _ inner]

end

end Expressions

end SketchSurvey.Script

import SketchSurvey.Proofs.Script.Lowered

/-! What the tokens of a tree look like from outside: what they start with, what they end with, and
which marks stand in them outside of brackets. -/

set_option autoImplicit false

namespace SketchSurvey.Script

open Node (branch leaf word enclosed modifiers)
open Token (comma semicolon)

variable {field : Option String} {n : Node} {ts : List Token}

theorem ExpressionTree.isPart (tree : ExpressionTree field n ts) : n.IsPart field := by
  cases tree <;> exact ⟨rfl, rfl, rfl⟩

theorem TargetTree.isPart (tree : TargetTree field n ts) : n.IsPart field := by
  cases tree with
  | reference _ expression => exact expression.isPart
  | object | array => exact ⟨rfl, rfl, rfl⟩

theorem ElementTree.isPart (tree : ElementTree field n ts) : n.IsPart field := by
  cases tree with
  | target target => exact target.isPart
  | rest | withDefault => exact ⟨rfl, rfl, rfl⟩

theorem PropertyTree.isPart (tree : PropertyTree n ts) : n.IsPart none := by
  cases tree <;> exact ⟨rfl, rfl, rfl⟩

theorem DeclarationTree.isPart (tree : DeclarationTree field n ts) : n.IsPart field := by
  cases tree <;> exact ⟨rfl, rfl, rfl⟩

theorem StatementTree.isPart (tree : StatementTree field n ts) : n.IsPart field := by
  cases tree with
  | declaration declaration => exact declaration.isPart
  | @function _ _ _ _ _ _ isGenerator => cases isGenerator <;> exact ⟨rfl, rfl, rfl⟩
  | _ => exact ⟨rfl, rfl, rfl⟩

/-- Tokens that an expression can start with. -/
def Token.IsAtom : Token → Prop
  | .name _ | .number _ | .group .round _ => True
  | _ => False

def Token.IsMark : Token → Prop
  | .mark _ => True
  | _ => False

theorem ExpressionTree.starts {field : Option String} {n : Node} {ts : List Token} :
    ExpressionTree field n ts → ∃ first rest, ts = first :: rest ∧ first.IsAtom
  | .identifier _ => ⟨_, [], rfl, trivial⟩
  | .number _ => ⟨_, [], rfl, trivial⟩
  | .parenthesized _ => ⟨_, [], rfl, trivial⟩
  | .call callee _ => by
      obtain ⟨first, rest, rfl, atom⟩ := callee.starts
      exact ⟨first, _, rfl, atom⟩
  | .member object _ => by
      obtain ⟨first, rest, rfl, atom⟩ := object.starts
      exact ⟨first, _, rfl, atom⟩
  | .subscript object _ => by
      obtain ⟨first, rest, rfl, atom⟩ := object.starts
      exact ⟨first, _, rfl, atom⟩
  | .assignment _ left _ => by
      obtain ⟨first, rest, rfl, atom⟩ := left.starts
      exact ⟨first, _, rfl, atom⟩
  | .binary _ left _ => by
      obtain ⟨first, rest, rfl, atom⟩ := left.starts
      exact ⟨first, _, rfl, atom⟩

theorem ExpressionTree.ne_nil (tree : ExpressionTree field n ts) : ts ≠ [] := by
  obtain ⟨first, rest, rfl, _⟩ := tree.starts
  exact List.cons_ne_nil first rest

/-- Tokens of which the last is there and is no mark. -/
def Token.EndsUnmarked (ts : List Token) : Prop := ∃ front last, ts = front ++ [last] ∧ ¬ last.IsMark

theorem Token.endsUnmarked_append (ts : List Token) {last : Token} (unmarked : ¬ last.IsMark) :
    EndsUnmarked (ts ++ [last]) :=
  ⟨ts, last, rfl, unmarked⟩

theorem Token.EndsUnmarked.append_cons {ts us : List Token} (ends : EndsUnmarked us) (t : Token) :
    EndsUnmarked (ts ++ t :: us) := by
  obtain ⟨front, last, rfl, unmarked⟩ := ends
  exact ⟨ts ++ t :: front, last, by rw [List.append_assoc, List.cons_append], unmarked⟩

theorem ExpressionTree.ends {field : Option String} {n : Node} {ts : List Token} :
    ExpressionTree field n ts → Token.EndsUnmarked ts
  | .identifier _ => Token.endsUnmarked_append [] id
  | .number _ => Token.endsUnmarked_append [] id
  | .parenthesized _ => Token.endsUnmarked_append [] id
  | .call _ _ => Token.endsUnmarked_append _ id
  | .member _ _ => (Token.endsUnmarked_append [] id).append_cons _
  | .subscript _ _ => Token.endsUnmarked_append _ id
  | .assignment _ _ right => right.ends.append_cons _
  | .binary _ _ right => right.ends.append_cons _

/-- The marks that stand in expressions and patterns outside of brackets. -/
def innerMarks : List String := "." :: "=" :: "..." :: binaryOperators

def Token.Inner (ts : List Token) : Prop := ∀ text, .mark text ∈ ts → text ∈ innerMarks

theorem Token.Inner.append {us : List Token} (first : Inner ts) (second : Inner us) :
    Inner (ts ++ us) := by
  intro text member
  rcases List.mem_append.mp member with inside | inside
  · exact first text inside
  · exact second text inside

theorem Token.Inner.append_mark {us : List Token} {sign : String} (first : Inner ts)
    (known : sign ∈ innerMarks) (second : Inner us) : Inner (ts ++ .mark sign :: us) := by
  refine first.append ?_
  intro text member
  rcases List.mem_cons.mp member with same | inside
  · cases same
    exact known
  · exact second text inside

theorem Token.Inner.cons_mark {sign : String} (known : sign ∈ innerMarks) (rest : Inner ts) :
    Inner (.mark sign :: ts) :=
  append_mark (show Inner [] from nofun) known rest

theorem Token.inner_singleton {t : Token} (unmarked : ¬ t.IsMark) : Inner [t] := by
  intro text member
  cases List.mem_singleton.mp member
  exact absurd trivial unmarked

theorem Token.Inner.not_mem (inner : Inner ts) {text : String} (other : text ∉ innerMarks) :
    .mark text ∉ ts :=
  fun member => other (inner text member)

theorem mem_innerMarks_of_mem_binaryOperators {operator : String}
    (known : operator ∈ binaryOperators) : operator ∈ innerMarks :=
  .tail _ (.tail _ (.tail _ known))

theorem ExpressionTree.inner {field : Option String} {n : Node} {ts : List Token} :
    ExpressionTree field n ts → Token.Inner ts
  | .identifier _ => Token.inner_singleton id
  | .number _ => Token.inner_singleton id
  | .parenthesized _ => Token.inner_singleton id
  | .call callee _ => callee.inner.append (Token.inner_singleton id)
  | .member object _ => object.inner.append_mark (by decide) (Token.inner_singleton id)
  | .subscript object _ => object.inner.append (Token.inner_singleton id)
  | .assignment _ left right => left.inner.append_mark (by decide) right.inner
  | .binary known left right =>
      left.inner.append_mark (mem_innerMarks_of_mem_binaryOperators known) right.inner

theorem TargetTree.inner (tree : TargetTree field n ts) : Token.Inner ts := by
  cases tree with
  | reference _ expression => exact expression.inner
  | object | array => exact Token.inner_singleton id

theorem ElementTree.inner {field : Option String} {n : Node} {ts : List Token} :
    ElementTree field n ts → Token.Inner ts
  | .target plain => plain.inner
  | .rest argument => Token.Inner.cons_mark (by decide) argument.inner
  | .withDefault left _ right => left.inner.append_mark (by decide) right.inner

theorem DeclaratorTree.inner (tree : DeclaratorTree n ts) : Token.Inner ts := by
  cases tree with
  | plain _ id => exact id.inner
  | initialized _ id value => exact id.inner.append_mark (by decide) value.inner

end SketchSurvey.Script
